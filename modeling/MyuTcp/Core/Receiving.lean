import MyuTcp.Core.Reassembly
import MyuTcp.Core.StateMachine

/-!
# Packets in ESTABLISHED

The receive window of a session has one byte for as long as its owner does not change the
public field, so no session that the API leads to stores an out-of-order segment.  An
established session then finishes every packet: it processes the acknowledgment, takes the
payload if it is in order, and takes a FIN.

Main results:

- Theorem {lit}`nothingStored_step`: no step stores a segment.
- Theorem {lit}`input_established`: the three parts of {lit}`handle_established`.
- Theorems {lit}`NothingStored.payload_inOrder` and {lit}`NothingStored.payload_outOfOrder`: the
  payload part of a session that stores nothing.
-/

namespace MyuTcp

open Library

namespace TcpSession

/-! ## Stored segments -/

/-- The receive window has one byte, and no out-of-order segment is stored. -/
structure NothingStored (s : TcpSession) : Prop where
  window : s.recvWindow.recvWindowSize = 1
  oooMap : s.oooMap.entries = []

section Stored

variable {s s' s₀ a b : TcpSession} {e : Event}

/-- Window size and map decide what is stored. -/
theorem NothingStored.of_eq (h : NothingStored a)
    (hwindow : b.recvWindow.recvWindowSize = a.recvWindow.recvWindowSize)
    (hmap : b.oooMap = a.oooMap) : NothingStored b where
  window := hwindow.trans h.window
  oooMap := by rw [hmap, h.oooMap]

/-- No move inside a step stores a segment. -/
theorem Move.nothingStored (h : NothingStored a) (hmove : Move s₀ e a b) : NothingStored b := by
  cases hmove with
  | connect iss => rw [connect_eq]; exact h.of_eq rfl rfl
  | trySend s =>
      exact h.of_eq (by rw [handleTrySend_recvWindow]) (handleTrySend_oooMap a)
  | closeEstablished hstate => rw [closeEstablished_eq]; exact h.of_eq rfl rfl
  | closeCloseWait s hstate => rw [closeCloseWait_eq]; exact h.of_eq rfl rfl
  | abortOpening hstate => rw [abortOpening_eq]; exact h.of_eq rfl rfl
  | passiveOpen hstate hsyn => rw [handleListen_eq _ hsyn]; exact h.of_eq rfl rfl
  | synAck hstate hsyn hflag hack => rw [acceptSynAck_eq]; exact h.of_eq rfl rfl
  | peerSyn hstate hsyn hflag => rw [acceptPeerSyn_eq]; exact h.of_eq rfl rfl
  | ack haccepts => exact h.of_eq (by rw [processAck_recvWindow]) (processAck_oooMap _ _)
  | @inOrder packet iss s drained hstate hseq hdrain =>
      rcases a.acceptPayload_eq packet.payload with ⟨buffer, haccept, -⟩
      rw [haccept]
      constructor
      · exact h.window
      · change a.oooMap.entries.drop drained.1 = []
        rw [h.oooMap, List.drop_nil]
  | outOfOrder s hstate hseq => rw [a.storeOutOfOrder_eq h.window]; exact h
  | finishCloseWait s hstate =>
      by_cases hdrained : a.Drained
      · rw [finishCloseWait_of_drained _ hdrained]
        exact h.of_eq rfl rfl
      · rw [finishCloseWait_of_not _ hdrained]
        exact h
  | @expire k t hactive =>
      by_cases hlimit : t.callback.retransmitCount + 1 ≥ maxRetransmitCount
      · rw [runClosure_of_limit _ hlimit]
        exact h.of_eq rfl rfl
      · rw [runClosure_of_lt _ hlimit]
        exact h.of_eq rfl rfl
  | _ => exact h.of_eq rfl rfl

/-- No step stores a segment. -/
theorem nothingStored_step (h : NothingStored s) (hstep : step s e = some s') :
    NothingStored s' :=
  (step_moves hstep).preserves (fun _ _ ha hmove => hmove.nothingStored ha) h

end Stored

/-! ## The payload part -/

section Payload

variable {s s' : TcpSession} {packet : MyuTcpPacket}

/-- With nothing stored, no segment follows the payload. -/
theorem NothingStored.line (h : NothingStored s) (payload : List UInt8) : s.line payload = [] := by
  unfold TcpSession.line
  rw [h.oooMap]
  rfl

/-- With nothing stored, the reassembly loop ends at once. -/
theorem NothingStored.lineFits (h : NothingStored s) (payload : List UInt8) :
    s.LineFits payload := by
  have hsize := s.recvBuffer.size_le
  unfold LineFits admissible
  rw [h.line]
  split
  · simpa
  · simpa

/-- In order, what fits is appended and acknowledged. -/
theorem NothingStored.handleIncomingPacket_inOrder (h : NothingStored s)
    (hseq : packet.seq = s.recvWindow.recvNext) :
    ∃ buffer t, s.handleIncomingPacket packet =
        some (true,
          { s with
            recvBuffer := buffer
            recvWindow.recvNext := s.nextAfter packet.payload
            sent := s.sent ++ [datagram t flagAck (s.nextAfter packet.payload) []] }) ∧
      t.recvBuffer = buffer ∧
      buffer.toList = s.recvBuffer.toList ++ s.admissible packet.payload := by
  rcases TcpSession.handleIncomingPacket_inOrder hseq (h.lineFits packet.payload) with
    ⟨buffer, t, hhandle, ht, hbuffer⟩
  have hnext : s.nextAfter packet.payload +
      UInt32.ofNat (s.line packet.payload).flatten.length = s.nextAfter packet.payload := by
    rw [h.line]
    exact UInt32.add_zero _
  have hmap : s.oooMap.dropFirst (s.line packet.payload).length = s.oooMap := by
    rw [h.line]
    rfl
  rw [hnext, hmap] at hhandle
  rw [h.line, List.flatten_nil, List.append_nil] at hbuffer
  exact ⟨buffer, t, hhandle, ht, hbuffer⟩

/-- Out of order, nothing is kept and the expected number is acknowledged again. -/
theorem NothingStored.handleIncomingPacket_outOfOrder (h : NothingStored s)
    (hseq : packet.seq ≠ s.recvWindow.recvNext) :
    s.handleIncomingPacket packet =
      some (false, { s with sent := s.sent ++ [s.datagram flagAck s.recvWindow.recvNext []] }) := by
  rw [handleIncomingPacket, if_neg hseq, s.storeOutOfOrder_eq h.window]
  rfl

/-- In order, what fits is appended, acknowledged and announced. -/
theorem NothingStored.payload_inOrder (h : NothingStored s) (hpayload : packet.payload ≠ [])
    (hseq : packet.seq = s.recvWindow.recvNext) :
    ∃ buffer t, s.handleEstablishedPayload packet =
        some { s with
          recvBuffer := buffer
          recvWindow.recvNext := s.nextAfter packet.payload
          sent := s.sent ++ [datagram t flagAck (s.nextAfter packet.payload) []]
          calls := s.calls ++ [.data buffer.size] } ∧
      t.recvBuffer = buffer ∧
      buffer.toList = s.recvBuffer.toList ++ s.admissible packet.payload := by
  rcases h.handleIncomingPacket_inOrder hseq with ⟨buffer, t, hhandle, ht, hbuffer⟩
  refine ⟨buffer, t, ?_, ht, hbuffer⟩
  rw [handleEstablishedPayload, if_pos (List.length_pos_iff.mpr hpayload), hhandle]
  rfl

/-- Out of order, the expected number is acknowledged again. -/
theorem NothingStored.payload_outOfOrder (h : NothingStored s) (hpayload : packet.payload ≠ [])
    (hseq : packet.seq ≠ s.recvWindow.recvNext) :
    s.handleEstablishedPayload packet =
      some { s with sent := s.sent ++ [s.datagram flagAck s.recvWindow.recvNext []] } := by
  rw [handleEstablishedPayload, if_pos (List.length_pos_iff.mpr hpayload),
    h.handleIncomingPacket_outOfOrder hseq]
  rfl

/-- The payload part returns and leaves the send side as it was. -/
theorem NothingStored.payload_frame (h : NothingStored s) (packet : MyuTcpPacket) :
    ∃ q n l c, s.handleEstablishedPayload packet =
      some { s with
        recvBuffer := q, recvWindow.recvNext := n, sent := s.sent ++ l, calls := c } := by
  by_cases hpayload : packet.payload = []
  · refine ⟨s.recvBuffer, s.recvWindow.recvNext, [], s.calls, ?_⟩
    rw [handleEstablishedPayload_nil hpayload, List.append_nil]
  · by_cases hseq : packet.seq = s.recvWindow.recvNext
    · rcases h.payload_inOrder hpayload hseq with ⟨buffer, t, hhandle, -⟩
      exact ⟨_, _, _, _, hhandle⟩
    · exact ⟨s.recvBuffer, s.recvWindow.recvNext, _, s.calls, h.payload_outOfOrder hpayload hseq⟩

end Payload

/-! ## The whole packet -/

/-- The acknowledgment part of {lit}`handle_established`. -/
def handleEstablishedAck (packet : MyuTcpPacket) (s : TcpSession) : TcpSession :=
  if packet.has flagAck then (s.handleAck packet).2.handleTrySend else s

section Established

variable {s s' s₀ : TcpSession} {packet : MyuTcpPacket} {iss : UInt32}

/-- What the acknowledgment part keeps. -/
structure KeepsReceiving (a b : TcpSession) : Prop where
  state : b.state = a.state
  recvWindow : b.recvWindow = a.recvWindow
  recvBuffer : b.recvBuffer = a.recvBuffer
  oooMap : b.oooMap = a.oooMap

/-- An acknowledgment leaves the receiving half as it is. -/
theorem keepsReceiving_ack (s : TcpSession) (packet : MyuTcpPacket) :
    KeepsReceiving s ((s.observe packet).handleEstablishedAck packet) := by
  unfold handleEstablishedAck
  split
  · unfold handleAck
    split
    · constructor <;> simp [observe, setPeerUsableWindowSize]
    · constructor <;> simp [observe, setPeerUsableWindowSize]
  · exact ⟨rfl, rfl, rfl, rfl⟩

/-- The receiving half holds what is stored. -/
theorem KeepsReceiving.nothingStored {a b : TcpSession} (h : KeepsReceiving a b)
    (hstored : NothingStored a) : NothingStored b :=
  hstored.of_eq (by rw [h.recvWindow]) h.oooMap

/-- A packet in ESTABLISHED goes through three parts. -/
theorem input_established (hadmitted : Admitted packet) (hstate : s.state = .established)
    (iss : UInt32) :
    s.input packet iss =
      (((s.observe packet).handleEstablishedAck packet).handleEstablishedPayload packet).map
        (handleEstablishedFin packet) := by
  rw [input_of_admitted hadmitted, dispatch,
    show (s.observe packet).state = .established from hstate]
  rfl

/-- The FIN part leaves the send side and the received bytes as they were. -/
theorem handleEstablishedFin_frame (packet : MyuTcpPacket) (s : TcpSession) :
    ∃ st n l c, handleEstablishedFin packet s =
      { s with state := st, recvWindow.recvNext := n, sent := s.sent ++ l, calls := c } := by
  unfold handleEstablishedFin
  split
  · exact ⟨_, _, _, _, rfl⟩
  · exact ⟨s.state, s.recvWindow.recvNext, [], s.calls, by rw [List.append_nil]⟩

/-- Sessions that the API leads to store no segment. -/
theorem nothingStored_reachable (h₀ : NothingStored s₀)
    (hs : step.Reachable (fun _ _ => True) s₀ s) : NothingStored s :=
  hs.invariant h₀ fun _ _ _ h _ hstep => nothingStored_step h hstep

/-- A new session stores nothing. -/
theorem nothingStored_createSession (initialSendSeq initialRecvSeq : UInt32)
    (listenerPort port : UInt16) (remoteIp : String) (remotePort : UInt16) :
    NothingStored
      (createSession initialSendSeq initialRecvSeq listenerPort port remoteIp remotePort) :=
  ⟨rfl, rfl⟩

end Established

end TcpSession

end MyuTcp
