import MyuTcp.Core.Reassembly
import MyuTcp.Core.Run

/-!
# Termination of the reassembly loop

When the loop over the stored segments ends.  A stored segment that is next in line and does
not fit the receive buffer neither advances the iterator nor leaves the loop.

Main results:

- Theorem {lit}`reassembly_ends_iff`: the loop of an in-order segment ends, and loses nothing
  that it does not append, exactly when the segments next in line fit.
- Theorem {lit}`fullBuffer_hangs`: a nearly full buffer with a stored segment next in line.
-/

namespace MyuTcp

open Library

namespace TcpSession

/-- Between two sessions, the first stored segments were appended behind the payload that fits,
and the others are still stored. -/
def LeavesRest (s : TcpSession) (payload : List UInt8) (s' : TcpSession) : Prop :=
  ∃ taken kept, s.oooMap.entries = taken ++ kept ∧ s'.oooMap.entries = kept ∧
    s'.recvBuffer.toList =
      s.recvBuffer.toList ++ s.admissible payload ++ (taken.map Prod.snd).flatten

/-- The loop that an in-order segment starts ends, and what does not fit is left in the map or
dropped. -/
def ReassemblyEnds (s : TcpSession) (packet : MyuTcpPacket) : Prop :=
  (s.drainStart packet.payload).Ends ∧
    ∃ s', s.handleIncomingPacket packet = some (true, s') ∧ s.LeavesRest packet.payload s'

section Loop

variable {s : TcpSession} {packet : MyuTcpPacket}

theorem reassemblyEnds_of_lineFits (hseq : packet.seq = s.recvWindow.recvNext)
    (hfits : s.LineFits packet.payload) : s.ReassemblyEnds packet := by
  refine ⟨(ends_drainStart_iff packet.payload).mpr hfits, ?_⟩
  rcases handleIncomingPacket_inOrder hseq hfits with ⟨buffer, t, hhandle, -, hbuffer⟩
  have htaken := inLine_eq_take s.oooMap.entries (s.nextAfter packet.payload)
  refine ⟨_, hhandle, s.oooMap.entries.take (s.line packet.payload).length,
    s.oooMap.entries.drop (s.line packet.payload).length, ?_, rfl, ?_⟩
  · rw [List.take_append_drop]
  · rw [line, ← htaken]
    exact hbuffer

/-- For every receive window, every stored segments, every amount of unread data and every
in-order segment: the loop ends exactly when the segments next in line fit. -/
theorem reassembly_ends_iff (hseq : packet.seq = s.recvWindow.recvNext) :
    s.ReassemblyEnds packet ↔ s.LineFits packet.payload := by
  constructor
  · rintro ⟨hends, -⟩
    exact (ends_drainStart_iff packet.payload).mp hends
  · exact reassemblyEnds_of_lineFits hseq

end Loop

/-- The client of the concrete runs with a larger receive window. -/
def wideWindowSession : TcpSession :=
  { clientSession with
    recvWindow := { recvNext := 100, recvWindowSize := 2000, initialRecvSeq := 0 } }

/-- 1022 bytes in order, and two bytes that leave room for one byte in front of them. -/
def nearlyFullSegments : List MyuTcpPacket :=
  [peerPacket flagAck 100 0 1024 (List.replicate 1022 7), peerPacket flagAck 1123 0 1024 [8, 9]]

/-- The byte in front of them. -/
def missingByte : MyuTcpPacket := peerPacket flagAck 1122 0 1024 [6]

theorem run_nearlyFull :
    ∃ s, receiveStep.run wideWindowSession nearlyFullSegments = some s ∧
      missingByte.seq = s.recvWindow.recvNext ∧ ¬ s.LineFits missingByte.payload := by
  have hrun : ((receiveStep.run wideWindowSession nearlyFullSegments).any fun s =>
      decide (missingByte.seq = s.recvWindow.recvNext ∧ ¬ s.LineFits missingByte.payload)) =
        true := by
    decide +kernel
  rcases (Option.any_eq_true _ _).mp hrun with ⟨s, hs, hfacts⟩
  exact ⟨s, hs, of_decide_eq_true hfacts⟩

theorem reassembly_ends_iff_nearlyFull :
    ∃ s, receiveStep.run wideWindowSession nearlyFullSegments = some s ∧
      (s.ReassemblyEnds missingByte ↔ s.LineFits missingByte.payload) := by
  rcases run_nearlyFull with ⟨s, hs, hseq, -⟩
  exact ⟨s, hs, reassembly_ends_iff hseq⟩

/-- The missing byte fills the buffer, and the loop finds the stored segment for ever. -/
theorem fullBuffer_hangs :
    ∃ s, receiveStep.run wideWindowSession nearlyFullSegments = some s ∧
      missingByte.seq = s.recvWindow.recvNext ∧ ¬ (s.drainStart missingByte.payload).Ends ∧
      s.handleIncomingPacket missingByte = none := by
  rcases run_nearlyFull with ⟨s, hs, hseq, hover⟩
  exact ⟨s, hs, hseq, mt (ends_drainStart_iff _).mp hover, handleIncomingPacket_eq_none hseq hover⟩

end TcpSession

end MyuTcp
