import MyuTcp.Core.Effects
import MyuTcp.Library.SequenceSpace
import MyuTcp.Library.Termination
import MyuTcp.Library.TransitionSystem

/-!
# The reassembly loop

The loop of {lit}`_handle_incoming_packet` over the stored out-of-order segments, one
iteration at a time, and what a whole pass of it does.

Main results:

- Theorem {lit}`terminates_iff_drainOutOfOrder`: the iterations end exactly when the
  loop function returns.
- Theorems {lit}`drainOutOfOrder_of_fits` and {lit}`drainOutOfOrder_isSome_iff`: a pass
  appends the segments that are next in line, and returns exactly when they fit together.
- Theorem {lit}`handleIncomingPacket_inOrder`: the effect of an in-order segment.
- Theorem {lit}`handleIncomingPacket_outOfOrder`: the effect of any other segment.
-/

namespace MyuTcp

open Library

namespace TcpSession

/-! ## Iterations -/

/-- The variables of the loop: the entries from the iterator on, the receive buffer and
{lit}`recv_next_`. -/
structure Drain where
  rest : List (UInt32 × List UInt8)
  buffer : RingQueue UInt8 1024
  recvNext : UInt32

/-- One iteration; {lit}`none` when the loop is left.  After a refused batch the next
iteration finds everything as it was. -/
def Drain.next (d : Drain) : Option Drain :=
  match d.rest with
  | [] => none
  | (seqNum, payload) :: rest =>
      if seqNum = d.recvNext then
        match d.buffer.pushBatch payload with
        | some buffer =>
            some { rest := rest, buffer := buffer,
                   recvNext := d.recvNext + UInt32.ofNat payload.length }
        | none => some d
      else none

/-- The iterations of the loop. -/
def Drain.Iterates (d d' : Drain) : Prop := d.next = some d'

/-- The loop that starts with these variables ends. -/
def Drain.Ends (d : Drain) : Prop := Terminates Drain.Iterates d

/-- The loop ends where its condition fails. -/
theorem Drain.ends_of_next_eq_none {d : Drain} (h : d.next = none) : d.Ends := by
  rintro ⟨f, hstart, hf⟩
  have hfirst := hf 0
  rw [hstart, Iterates, h] at hfirst
  contradiction

/-- One pass of the loop does not decide whether it ends. -/
theorem Drain.ends_iff_next {d d' : Drain} (h : d.next = some d') : d.Ends ↔ d'.Ends := by
  constructor
  · intro hends
    exact hends.step h
  · rintro hends ⟨f, hstart, hf⟩
    refine hends ⟨fun n => f (n + 1), ?_, fun n => hf (n + 1)⟩
    have hfirst := hf 0
    rw [hstart, Iterates, h, Option.some.injEq] at hfirst
    exact hfirst.symm

/-- An iteration that changes nothing is repeated for ever. -/
theorem Drain.not_ends_of_stuck {d : Drain} (h : d.next = some d) : ¬ d.Ends :=
  fun hends => hends ⟨fun _ => d, rfl, fun _ => h⟩

/-- The iterations end exactly when the loop function returns. -/
theorem terminates_iff_drainOutOfOrder (entries : List (UInt32 × List UInt8))
    (buffer : RingQueue UInt8 1024) (recvNext : UInt32) :
    Drain.Ends { rest := entries, buffer := buffer, recvNext := recvNext } ↔
      (drainOutOfOrder entries buffer recvNext).isSome = true := by
  induction entries generalizing buffer recvNext with
  | nil => exact iff_of_true (Drain.ends_of_next_eq_none rfl) rfl
  | cons entry rest ih =>
      rcases entry with ⟨seqNum, payload⟩
      rw [drainOutOfOrder]
      split <;> rename_i hseq
      · cases hpush : buffer.pushBatch payload with
        | some buffer' =>
            rw [Option.isSome_map, ← ih]
            apply Drain.ends_iff_next
            unfold Drain.next
            simp only [hseq, if_true, hpush]
        | none =>
            refine iff_of_false (Drain.not_ends_of_stuck ?_) (by simp)
            unfold Drain.next
            simp only [hseq, if_true, hpush]
      · refine iff_of_true (Drain.ends_of_next_eq_none ?_) rfl
        unfold Drain.next
        simp only [hseq, if_false]

/-! ## A whole pass -/

/-- The stored segments that continue a number without a gap, in order. -/
def inLine : List (UInt32 × List UInt8) → UInt32 → List (List UInt8)
  | [], _ => []
  | (seqNum, payload) :: rest, recvNext =>
      if seqNum = recvNext then payload :: inLine rest (recvNext + UInt32.ofNat payload.length)
      else []

/-- Lengths are added before they wrap. -/
theorem ofNat_add_ofNat (n : UInt32) (a b : Nat) :
    n + UInt32.ofNat a + UInt32.ofNat b = n + UInt32.ofNat (a + b) := by
  rw [UInt32.add_assoc, UInt32.ofNat_add]

/-- Where all that follows fits, the loop appends it. -/
theorem drainOutOfOrder_of_fits {entries : List (UInt32 × List UInt8)}
    {buffer : RingQueue UInt8 1024} {recvNext : UInt32}
    (hfits : buffer.size + (inLine entries recvNext).flatten.length ≤ 1024) :
    ∃ buffer', drainOutOfOrder entries buffer recvNext =
        some ((inLine entries recvNext).length, buffer',
          recvNext + UInt32.ofNat (inLine entries recvNext).flatten.length) ∧
      buffer'.toList = buffer.toList ++ (inLine entries recvNext).flatten := by
  induction entries generalizing buffer recvNext with
  | nil => exact ⟨buffer, by simp [drainOutOfOrder, inLine], by simp [inLine]⟩
  | cons entry rest ih =>
      rcases entry with ⟨seqNum, payload⟩
      rw [drainOutOfOrder, inLine] at *
      split <;> rename_i hseq
      · rw [if_pos hseq, List.flatten_cons, List.length_append] at hfits
        obtain ⟨buffer', hpush⟩ : ∃ buffer', buffer.pushBatch payload = some buffer' := by
          rw [← Option.ne_none_iff_exists', Ne, RingQueue.pushBatch_eq_none_iff]
          omega
        have hlist := RingQueue.toList_pushBatch hpush
        have hsize : buffer'.size = buffer.size + payload.length := by
          rw [← RingQueue.length_toList, hlist, List.length_append, RingQueue.length_toList]
        rcases @ih buffer' (recvNext + UInt32.ofNat payload.length) (by omega) with
          ⟨buffer'', hrest, hlist'⟩
        refine ⟨buffer'', ?_, ?_⟩
        · rw [hpush]
          dsimp only
          rw [hrest, Option.map_some, ofNat_add_ofNat, List.flatten_cons, List.length_append,
            List.length_cons]
        · rw [hlist', hlist, List.flatten_cons, List.append_assoc]
      · exact ⟨buffer, by simp, by simp⟩

/-- Where it does not fit, the loop does not end. -/
theorem drainOutOfOrder_eq_none {entries : List (UInt32 × List UInt8)}
    {buffer : RingQueue UInt8 1024} {recvNext : UInt32}
    (hover : 1024 < buffer.size + (inLine entries recvNext).flatten.length) :
    drainOutOfOrder entries buffer recvNext = none := by
  induction entries generalizing buffer recvNext with
  | nil =>
      have hle := buffer.size_le
      simp only [inLine, List.flatten_nil, List.length_nil] at hover
      omega
  | cons entry rest ih =>
      rcases entry with ⟨seqNum, payload⟩
      rw [drainOutOfOrder]
      rw [inLine] at hover
      split at hover <;> rename_i hseq
      · rw [if_pos hseq]
        rw [List.flatten_cons, List.length_append] at hover
        cases hpush : buffer.pushBatch payload with
        | none => rfl
        | some buffer' =>
            have hsize : buffer'.size = buffer.size + payload.length := by
              rw [← RingQueue.length_toList, RingQueue.toList_pushBatch hpush,
                List.length_append, RingQueue.length_toList]
            dsimp only
            rw [ih (by omega), Option.map_none]
      · have hle := buffer.size_le
        simp only [List.flatten_nil, List.length_nil] at hover
        omega

/-- The loop returns exactly when the segments next in line fit together. -/
theorem drainOutOfOrder_isSome_iff (entries : List (UInt32 × List UInt8))
    (buffer : RingQueue UInt8 1024) (recvNext : UInt32) :
    (drainOutOfOrder entries buffer recvNext).isSome = true ↔
      buffer.size + (inLine entries recvNext).flatten.length ≤ 1024 := by
  by_cases hfits : buffer.size + (inLine entries recvNext).flatten.length ≤ 1024
  · rcases drainOutOfOrder_of_fits hfits with ⟨buffer', hdrain, -⟩
    rw [hdrain]
    exact iff_of_true rfl hfits
  · rw [drainOutOfOrder_eq_none (by omega)]
    exact iff_of_false (by simp) hfits

/-- The segments in line are the first entries. -/
theorem inLine_eq_take (entries : List (UInt32 × List UInt8)) (recvNext : UInt32) :
    inLine entries recvNext =
      (entries.take (inLine entries recvNext).length).map Prod.snd := by
  induction entries generalizing recvNext with
  | nil => rfl
  | cons entry rest ih =>
      rcases entry with ⟨seqNum, payload⟩
      rw [inLine]
      split
      · rw [List.length_cons, List.take_succ_cons, List.map_cons, ← ih]
      · rfl

/-! ## One segment -/

section Segments

variable (s : TcpSession)

/-- What an in-order payload adds to the receive buffer: all of it, or nothing when it
does not fit. -/
def admissible (payload : List UInt8) : List UInt8 :=
  if s.recvBuffer.size + payload.length ≤ 1024 then payload else []

/-- The number expected after an in-order payload, before the loop. -/
def nextAfter (payload : List UInt8) : UInt32 :=
  s.recvWindow.recvNext + UInt32.ofNat (s.admissible payload).length

/-- The stored segments that an in-order payload makes next in line. -/
def line (payload : List UInt8) : List (List UInt8) :=
  inLine s.oooMap.entries (s.nextAfter payload)

/-- The segments that an in-order payload makes next in line fit into the receive buffer
behind it. -/
def LineFits (payload : List UInt8) : Prop :=
  s.recvBuffer.size + (s.admissible payload).length + (s.line payload).flatten.length ≤ 1024

instance (payload : List UInt8) : Decidable (s.LineFits payload) :=
  inferInstanceAs (Decidable (_ ≤ _))

/-- The loop that an in-order payload starts. -/
def drainStart (payload : List UInt8) : Drain where
  rest := (s.acceptPayload payload).oooMap.entries
  buffer := (s.acceptPayload payload).recvBuffer
  recvNext := (s.acceptPayload payload).recvWindow.recvNext

/-- Appending a payload changes buffer and {lit}`recv_next_` only. -/
theorem acceptPayload_eq (payload : List UInt8) :
    ∃ buffer, s.acceptPayload payload =
        { s with recvBuffer := buffer, recvWindow.recvNext := s.nextAfter payload } ∧
      buffer.toList = s.recvBuffer.toList ++ s.admissible payload := by
  unfold acceptPayload nextAfter admissible
  cases hpush : s.recvBuffer.pushBatch payload with
  | some buffer =>
      have hfits : s.recvBuffer.size + payload.length ≤ 1024 := by
        by_contra hover
        rw [(RingQueue.pushBatch_eq_none_iff _ _).mpr (by omega)] at hpush
        contradiction
      refine ⟨buffer, ?_, ?_⟩
      · rw [if_pos hfits]
      · rw [if_pos hfits]
        exact RingQueue.toList_pushBatch hpush
  | none =>
      have hover := (RingQueue.pushBatch_eq_none_iff _ _).mp hpush
      refine ⟨s.recvBuffer, ?_, ?_⟩
      · rw [if_neg (by omega), List.length_nil]
        simp
      · rw [if_neg (by omega), List.append_nil]

variable {s} {packet : MyuTcpPacket}

/-- The loop of an in-order segment ends exactly when the segments next in line fit. -/
theorem ends_drainStart_iff (payload : List UInt8) :
    (s.drainStart payload).Ends ↔ s.LineFits payload := by
  rcases s.acceptPayload_eq payload with ⟨buffer, haccept, hbuffer⟩
  have hsize : buffer.size = s.recvBuffer.size + (s.admissible payload).length := by
    rw [← RingQueue.length_toList, hbuffer, List.length_append, RingQueue.length_toList]
  unfold drainStart LineFits line
  rw [haccept, terminates_iff_drainOutOfOrder, drainOutOfOrder_isSome_iff, hsize]

/-- The effect of an in-order segment: its payload and the segments next in line are
appended, and the new number is acknowledged. -/
theorem handleIncomingPacket_inOrder (hseq : packet.seq = s.recvWindow.recvNext)
    (hfits : s.LineFits packet.payload) :
    ∃ buffer t, s.handleIncomingPacket packet =
        some (true,
          { s with
            oooMap := s.oooMap.dropFirst (s.line packet.payload).length
            recvBuffer := buffer
            recvWindow.recvNext := s.nextAfter packet.payload +
              UInt32.ofNat (s.line packet.payload).flatten.length
            sent := s.sent ++ [datagram t flagAck (s.nextAfter packet.payload +
              UInt32.ofNat (s.line packet.payload).flatten.length) []] }) ∧
      t.recvBuffer = buffer ∧ buffer.toList = s.recvBuffer.toList ++ s.admissible packet.payload ++
        (s.line packet.payload).flatten := by
  rcases s.acceptPayload_eq packet.payload with ⟨buffer, haccept, hbuffer⟩
  have hsize : buffer.size = s.recvBuffer.size + (s.admissible packet.payload).length := by
    rw [← RingQueue.length_toList, hbuffer, List.length_append, RingQueue.length_toList]
  have hpass : buffer.size +
      (inLine s.oooMap.entries (s.nextAfter packet.payload)).flatten.length ≤ 1024 := by
    rw [hsize]
    exact hfits
  rcases drainOutOfOrder_of_fits hpass with ⟨buffer', hdrain, hbuffer'⟩
  rw [handleIncomingPacket, if_pos hseq]
  dsimp only
  rw [haccept]
  dsimp only
  rw [hdrain, Option.map_some]
  refine ⟨buffer', _, rfl, rfl, ?_⟩
  rw [hbuffer', hbuffer]
  rfl

/-- An in-order segment whose followers do not fit is never finished. -/
theorem handleIncomingPacket_eq_none (hseq : packet.seq = s.recvWindow.recvNext)
    (hover : ¬ s.LineFits packet.payload) : s.handleIncomingPacket packet = none := by
  have hstuck := mt (ends_drainStart_iff packet.payload).mp hover
  rw [drainStart, terminates_iff_drainOutOfOrder, Option.not_isSome_iff_eq_none] at hstuck
  rw [handleIncomingPacket, if_pos hseq]
  dsimp only
  rw [hstuck, Option.map_none]

/-- The segment starts inside the receive window, behind the number expected next. -/
def InsideWindow (s : TcpSession) (seqNum : UInt32) : Prop :=
  seqNum > s.recvWindow.recvNext ∧
    seqNum < s.recvWindow.recvNext + s.recvWindow.recvWindowSize

instance (s : TcpSession) (seqNum : UInt32) : Decidable (s.InsideWindow seqNum) :=
  inferInstanceAs (Decidable (_ ∧ _))

/-- The effect of any other segment: it is stored if it starts inside the receive window,
and the expected number is acknowledged again. -/
theorem handleIncomingPacket_outOfOrder (hseq : packet.seq ≠ s.recvWindow.recvNext) :
    s.handleIncomingPacket packet =
      some (false,
        { s with
          oooMap := if s.InsideWindow packet.seq then s.oooMap.insert packet.seq packet.payload
            else s.oooMap
          sent := s.sent ++ [s.datagram flagAck s.recvWindow.recvNext []] }) := by
  have hstore : s.storeOutOfOrder packet.seq packet.payload =
      { s with
        oooMap := if s.InsideWindow packet.seq then s.oooMap.insert packet.seq packet.payload
          else s.oooMap } := by
    by_cases hinside : s.InsideWindow packet.seq
    · rw [if_pos hinside]
      exact if_pos hinside
    · rw [if_neg hinside]
      exact if_neg hinside
  rw [handleIncomingPacket, if_neg hseq, hstore]
  rfl

end Segments

/-- Segments handed to {lit}`_handle_incoming_packet` one after the other. -/
def receiveStep : StepFn TcpSession MyuTcpPacket :=
  fun s packet => (s.handleIncomingPacket packet).map Prod.snd

end TcpSession

end MyuTcp
