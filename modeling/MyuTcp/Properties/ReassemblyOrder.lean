import MyuTcp.Core.Reassembly
import MyuTcp.Core.Run
import MyuTcp.Library.ReceivedPrefix

/-!
# Reassembly in any order

A stream that is cut into segments and arrives in any order and with any repetitions, in front
of a receive window that is as large as the stream.

Main results:

- Theorem {lit}`Assembled.receive`: one segment keeps the receive buffer at the longest prefix
  received so far, and the other received segments in the map.
- Theorem {lit}`arrivalOrder_irrelevant`: after every arrival the buffer holds the longest
  contiguous prefix, and in the end the whole stream.
-/

namespace MyuTcp

open Library

namespace TcpSession

/-! ## Cut streams -/

/-- A stream of at most 1024 bytes, cut into non-empty segments. -/
structure Cutting where
  segments : List (List UInt8)
  nonempty : ∀ segment ∈ segments, segment ≠ []
  fits : segments.flatten.length ≤ 1024

namespace Cutting

variable (c : Cutting)

/-- The bytes of all segments. -/
def stream : List UInt8 := c.segments.flatten

/-- The number of segments. -/
def count : Nat := c.segments.length

/-- The segment with an index. -/
def segment (i : Nat) : List UInt8 := c.segments.getD i []

/-- The number of bytes in front of a segment. -/
def offset (i : Nat) : Nat := (c.segments.take i).flatten.length

/-- The sequence number of a segment. -/
def seqAt (base : UInt32) (i : Nat) : UInt32 := base + UInt32.ofNat (c.offset i)

/-- The packet carries a segment of the stream. -/
structure IsSegment (base : UInt32) (i : Nat) (packet : MyuTcpPacket) : Prop where
  index : i < c.count
  seq : packet.seq = c.seqAt base i
  payload : packet.payload = c.segment i

/-- One of the packets carries the segment. -/
def Arrived (base : UInt32) (packets : List MyuTcpPacket) (i : Nat) : Prop :=
  ∃ packet ∈ packets, c.IsSegment base i packet

section Offsets

variable {c} {i j : Nat}

/-- The first segment starts at the beginning. -/
@[simp]
theorem offset_zero : c.offset 0 = 0 := by
  simp [offset]

/-- One segment more. -/
theorem flatten_take_succ (hi : i < c.count) :
    (c.segments.take (i + 1)).flatten = (c.segments.take i).flatten ++ c.segment i := by
  rw [List.take_add_one, segment, List.getD_eq_getElem?_getD,
    List.getElem?_eq_getElem (show i < c.segments.length from hi), List.flatten_append]
  simp

/-- A segment starts where the one before it ends. -/
theorem offset_succ (hi : i < c.count) : c.offset (i + 1) = c.offset i + (c.segment i).length := by
  rw [offset, flatten_take_succ hi, List.length_append]
  rfl

/-- After the last segment comes the end. -/
theorem offset_count : c.offset c.count = c.stream.length := by
  rw [offset, count, List.take_length]
  rfl

/-- No segment is empty. -/
theorem segment_ne_nil (hi : i < c.count) : c.segment i ≠ [] := by
  apply c.nonempty
  rw [segment, List.getD_eq_getElem?_getD,
    List.getElem?_eq_getElem (show i < c.segments.length from hi)]
  simp

/-- Every segment takes up at least one byte. -/
theorem offset_lt (hij : i < j) (hj : j ≤ c.count) : c.offset i < c.offset j := by
  induction j with
  | zero => omega
  | succ j ih =>
      have hpos := List.length_pos_iff.mpr (segment_ne_nil (c := c) (i := j) (by omega))
      rw [offset_succ (by omega)]
      by_cases heq : i = j
      · rw [heq]
        omega
      · have hlt := ih (by omega) (by omega)
        omega

/-- Segments start in their order. -/
theorem offset_le (hij : i ≤ j) (hj : j ≤ c.count) : c.offset i ≤ c.offset j := by
  rcases Nat.lt_or_eq_of_le hij with hlt | rfl
  · exact (offset_lt hlt hj).le
  · exact le_rfl

/-- Segments start inside the stream. -/
theorem offset_le_length (hi : i ≤ c.count) : c.offset i ≤ c.stream.length := by
  rw [← offset_count]
  exact offset_le hi le_rfl

end Offsets

section Numbers

variable {c} {base : UInt32} {i j : Nat}

/-- The numbers of the segments do not wrap. -/
theorem toNat_seqAt (hwrap : base.toNat + c.stream.length < 2 ^ 32) (hi : i ≤ c.count) :
    (c.seqAt base i).toNat = base.toNat + c.offset i := by
  have hle := offset_le_length hi
  rw [seqAt, UInt32.toNat_add, UInt32.toNat_ofNat']
  omega

/-- The numbers are in the order of the segments. -/
theorem seqAt_lt_iff (hwrap : base.toNat + c.stream.length < 2 ^ 32) (hi : i ≤ c.count)
    (hj : j ≤ c.count) : c.seqAt base i < c.seqAt base j ↔ i < j := by
  rw [UInt32.lt_iff_toNat_lt, toNat_seqAt hwrap hi, toNat_seqAt hwrap hj]
  constructor
  · intro hlt
    by_contra hge
    have hle := offset_le (Nat.le_of_not_lt hge) hi
    omega
  · intro hlt
    have hoffset := offset_lt hlt hj
    omega

/-- Different segments have different numbers. -/
theorem seqAt_inj (hwrap : base.toNat + c.stream.length < 2 ^ 32) (hi : i ≤ c.count)
    (hj : j ≤ c.count) : c.seqAt base i = c.seqAt base j ↔ i = j := by
  constructor
  · intro heq
    rcases Nat.lt_trichotomy i j with hlt | heq' | hlt
    · have habsurd := (seqAt_lt_iff hwrap hi hj).mpr hlt
      rw [heq] at habsurd
      exact absurd habsurd (lt_irrefl _)
    · exact heq'
    · have habsurd := (seqAt_lt_iff hwrap hj hi).mpr hlt
      rw [heq] at habsurd
      exact absurd habsurd (lt_irrefl _)
  · intro heq
    rw [heq]

/-- The number after a segment is that of the next one. -/
theorem seqAt_succ (hi : i < c.count) :
    c.seqAt base (i + 1) = c.seqAt base i + UInt32.ofNat (c.segment i).length := by
  rw [seqAt, seqAt, offset_succ hi, ofNat_add_ofNat]

/-- A packet carries one segment at most. -/
theorem IsSegment.unique (hwrap : base.toNat + c.stream.length < 2 ^ 32) {packet : MyuTcpPacket}
    (hi : c.IsSegment base i packet) (hj : c.IsSegment base j packet) : i = j :=
  (seqAt_inj hwrap hi.index.le hj.index.le).mp (hi.seq.symm.trans hj.seq)

end Numbers

/-! ## The stored segments -/

/-- The entry of a stored segment. -/
def entryAt (c : Cutting) (base : UInt32) (i : Nat) : UInt32 × List UInt8 :=
  (c.seqAt base i, c.segment i)

section Entries

variable {c : Cutting} {base : UInt32} {received : Finset ℕ}

/-- The map lists the stored segments in order. -/
theorem pairwise_entries (hwrap : base.toNat + c.stream.length < 2 ^ 32) {start count : Nat}
    (hend : start + count = c.count) :
    ((receivedFrom received start count).map (c.entryAt base)).Pairwise
      fun a b => a.1 < b.1 := by
  apply List.pairwise_map.mpr
  apply (pairwise_receivedFrom received start count).imp_of_mem
  intro i j hi hj hlt
  have hi := mem_receivedFrom.mp hi
  have hj := mem_receivedFrom.mp hj
  exact (seqAt_lt_iff hwrap (by omega) (by omega)).mpr hlt

/-- Stored segments behind a gap are not next in line. -/
theorem inLine_of_gap (hwrap : base.toNat + c.stream.length < 2 ^ 32) {start count : Nat}
    (hend : start + count = c.count) (hgap : ∀ i ∈ receivedFrom received start count, start < i) :
    inLine ((receivedFrom received start count).map (c.entryAt base)) (c.seqAt base start) =
      [] := by
  cases hkept : receivedFrom received start count with
  | nil => rfl
  | cons i rest =>
      have hmem : i ∈ receivedFrom received start count := by simp [hkept]
      have hlt := hgap i hmem
      have hi := mem_receivedFrom.mp hmem
      rw [List.map_cons, entryAt, inLine, if_neg]
      intro heq
      have habsurd := (seqAt_inj hwrap (by omega) (by omega)).mp heq
      omega

/-- The segments next in line are those before the first missing one. -/
theorem inLine_entries (hwrap : base.toNat + c.stream.length < 2 ^ 32) {start count : Nat}
    (hend : start + count = c.count) :
    (inLine ((receivedFrom received start count).map (c.entryAt base))
        (c.seqAt base start)).length = firstMissing received start count - start ∧
      (c.segments.take start).flatten ++
          (inLine ((receivedFrom received start count).map (c.entryAt base))
            (c.seqAt base start)).flatten =
        (c.segments.take (firstMissing received start count)).flatten := by
  induction count generalizing start with
  | zero => simp [receivedFrom, firstMissing, inLine]
  | succ count ih =>
      by_cases hmem : start ∈ received
      · have hrest := @ih (start + 1) (by omega)
        have hle := le_firstMissing received (start + 1) count
        rw [seqAt_succ (by omega)] at hrest
        simp only [receivedFrom, firstMissing, hmem, if_true, List.map_cons, entryAt, inLine,
          List.length_cons, List.flatten_cons]
        constructor
        · rw [hrest.1]
          omega
        · rw [← hrest.2, flatten_take_succ (by omega), List.append_assoc]
      · have hgap : inLine ((receivedFrom received start (count + 1)).map (c.entryAt base))
            (c.seqAt base start) = [] := by
          apply inLine_of_gap hwrap hend
          rw [receivedFrom_of_notMem hmem]
          intro i hi
          have hle := (mem_receivedFrom.mp hi).1
          omega
        have hfirst : firstMissing received start (count + 1) = start := by
          unfold firstMissing
          exact if_neg hmem
        rw [hgap, hfirst]
        simp

end Entries

/-- The first segment that has not arrived. -/
def next (c : Cutting) (received : Finset ℕ) : Nat := firstMissing received 0 c.count

end Cutting

/-! ## The receive side -/

/-- What a session holds when the segments of a set have arrived. -/
structure Assembled (c : Cutting) (base : UInt32) (received : Finset ℕ) (s : TcpSession) :
    Prop where
  recvNext : s.recvWindow.recvNext = c.seqAt base (c.next received)
  recvBuffer : s.recvBuffer.toList = (c.segments.take (c.next received)).flatten
  oooMap : s.oooMap.entries =
    (receivedFrom received (c.next received) (c.count - c.next received)).map (c.entryAt base)
  window : c.stream.length ≤ s.recvWindow.recvWindowSize.toNat
  wrap : base.toNat + c.stream.length + s.recvWindow.recvWindowSize.toNat < 2 ^ 32

section Receive

variable {c : Cutting} {base : UInt32} {received : Finset ℕ} {s : TcpSession} {i : Nat}
  {packet : MyuTcpPacket}

/-- The stream does not wrap. -/
theorem Assembled.nowrap (h : Assembled c base received s) :
    base.toNat + c.stream.length < 2 ^ 32 := by
  have hwrap := h.wrap
  omega

/-- There is no segment after the last one. -/
theorem next_le (c : Cutting) (received : Finset ℕ) : c.next received ≤ c.count :=
  (longestPrefix_firstMissing received c.count).le

/-- A segment that has been delivered is not kept again. -/
theorem Assembled.receive_old (h : Assembled c base received s)
    (hpacket : c.IsSegment base i packet) (hold : i < c.next received) :
    ∃ s', receiveStep s packet = some s' ∧ Assembled c base (insert i received) s' := by
  have hmem : i ∈ received := (longestPrefix_firstMissing received c.count).all i hold
  have hlt : packet.seq < s.recvWindow.recvNext := by
    rw [hpacket.seq, h.recvNext]
    exact (Cutting.seqAt_lt_iff h.nowrap hpacket.index.le (next_le c received)).mpr hold
  have houtside : ¬ s.InsideWindow packet.seq := fun hinside => lt_asymm hlt hinside.1
  refine ⟨_, congrArg (Option.map Prod.snd) (handleIncomingPacket_outOfOrder hlt.ne), ?_⟩
  rw [Finset.insert_eq_self.mpr hmem, if_neg houtside]
  exact ⟨h.recvNext, h.recvBuffer, h.oooMap, h.window, h.wrap⟩

/-- A segment behind a gap is stored. -/
theorem Assembled.receive_ahead (h : Assembled c base received s)
    (hpacket : c.IsSegment base i packet) (hahead : c.next received < i) :
    ∃ s', receiveStep s packet = some s' ∧ Assembled c base (insert i received) s' := by
  have hindex := hpacket.index
  have hgt : s.recvWindow.recvNext < packet.seq := by
    rw [hpacket.seq, h.recvNext]
    exact (Cutting.seqAt_lt_iff h.nowrap (next_le c received) hindex.le).mpr hahead
  have hinside : s.InsideWindow packet.seq := by
    refine ⟨hgt, ?_⟩
    have hwrap := h.wrap
    have hwindow := h.window
    have hlast := Cutting.offset_lt (c := c) hindex le_rfl
    have hnext := Cutting.offset_le_length (c := c) (next_le c received)
    rw [Cutting.offset_count] at hlast
    rw [UInt32.lt_iff_toNat_lt, UInt32.toNat_add, h.recvNext, hpacket.seq,
      Cutting.toNat_seqAt h.nowrap hindex.le, Cutting.toNat_seqAt h.nowrap (next_le c received)]
    omega
  have hnext : c.next (insert i received) = c.next received :=
    firstMissing_insert_of_ne hahead.ne'
  refine ⟨_, congrArg (Option.map Prod.snd) (handleIncomingPacket_outOfOrder hgt.ne'), ?_⟩
  rw [if_pos hinside]
  refine ⟨by rw [hnext]; exact h.recvNext, by rw [hnext]; exact h.recvBuffer, ?_, h.window,
    h.wrap⟩
  rw [hnext]
  have hend := Nat.add_sub_of_le (next_le c received)
  apply OrderedMap.entries_eq_of_mem_iff (Cutting.pairwise_entries h.nowrap hend)
  rintro ⟨key, payload⟩
  rw [OrderedMap.mem_entries_iff, OrderedMap.find?_insert, hpacket.seq, hpacket.payload]
  split <;> rename_i hkey
  · subst hkey
    simp only [Option.some.injEq, List.mem_map, mem_receivedFrom, Cutting.entryAt, Prod.mk.injEq]
    constructor
    · rintro rfl
      exact ⟨i, ⟨hahead.le, by omega, Finset.mem_insert_self i received⟩, rfl, rfl⟩
    · rintro ⟨j, hj, hseq, rfl⟩
      rw [(Cutting.seqAt_inj h.nowrap (by omega) hindex.le).mp hseq]
  · rw [← OrderedMap.mem_entries_iff, h.oooMap]
    simp only [List.mem_map, mem_receivedFrom, Cutting.entryAt, Prod.mk.injEq]
    constructor
    · rintro ⟨j, ⟨hle, hlt, hmem⟩, hseq, hpayload⟩
      exact ⟨j, ⟨hle, hlt, Finset.mem_insert_of_mem hmem⟩, hseq, hpayload⟩
    · rintro ⟨j, ⟨hle, hlt, hmem⟩, hseq, hpayload⟩
      have hne : j ≠ i := by
        rintro rfl
        exact hkey hseq.symm
      exact ⟨j, ⟨hle, hlt, Finset.mem_of_mem_insert_of_ne hmem hne⟩, hseq, hpayload⟩

/-- The segment that is expected next is delivered together with those that follow it without
a gap. -/
theorem Assembled.receive_next (h : Assembled c base received s)
    (hpacket : c.IsSegment base i packet) (hnext : i = c.next received) :
    ∃ s', receiveStep s packet = some s' ∧ Assembled c base (insert i received) s' := by
  have hindex := hpacket.index
  have hseq : packet.seq = s.recvWindow.recvNext := by
    rw [hpacket.seq, h.recvNext, hnext]
  have hmissing : i ∉ received := by
    rw [hnext] at hindex ⊢
    exact (longestPrefix_firstMissing received c.count).stops hindex
  -- the segments behind the new one are those that were stored
  have hbehind : ∀ j, i + 1 ≤ j → (j ∈ insert i received ↔ j ∈ received) := by
    intro j hj
    rw [Finset.mem_insert, or_iff_right (by omega)]
  have hcount : c.count = i + 1 + (c.count - (i + 1)) := by omega
  have hafter : c.next (insert i received) = firstMissing received (i + 1) (c.count - (i + 1)) := by
    have hall : ∀ j, 0 ≤ j → j < 0 + (i + 1) → j ∈ insert i received := by
      intro j _ hj
      by_cases heq : j = i
      · simp [heq]
      · apply Finset.mem_insert_of_mem
        apply (longestPrefix_firstMissing received c.count).all
        change j < c.next received
        omega
    rw [Cutting.next, hcount, firstMissing_add _ _ hall, Nat.add_sub_cancel_left, Nat.zero_add]
    exact firstMissing_congr hbehind
  have hentries : s.oooMap.entries =
      (receivedFrom received (i + 1) (c.count - (i + 1))).map (c.entryAt base) := by
    have hsucc : c.count - i = c.count - (i + 1) + 1 := by omega
    rw [h.oooMap, ← hnext, hsucc, receivedFrom_of_notMem hmissing]
  have hsize : s.recvBuffer.size = c.offset i := by
    rw [← RingQueue.length_toList, h.recvBuffer, hnext]
    rfl
  have hsucc := Cutting.offset_succ hindex
  have hfits := c.fits
  have hadmissible : s.admissible packet.payload = c.segment i := by
    have hle := Cutting.offset_le_length (c := c) (i := i + 1) hindex
    rw [Cutting.stream] at hle
    rw [admissible, hpacket.payload, if_pos (by omega)]
  have hexpected : s.nextAfter packet.payload = c.seqAt base (i + 1) := by
    rw [nextAfter, hadmissible, h.recvNext, ← hnext, Cutting.seqAt_succ hindex]
  rcases @Cutting.inLine_entries c base received h.nowrap _ _ hcount.symm with ⟨hlength, hline⟩
  have hinLine : s.line packet.payload =
      inLine ((receivedFrom received (i + 1) (c.count - (i + 1))).map (c.entryAt base))
        (c.seqAt base (i + 1)) := by
    rw [line, hexpected, hentries]
  rw [← hinLine, ← hafter] at hlength hline
  have hoffset : c.offset (i + 1) + (s.line packet.payload).flatten.length =
      c.offset (c.next (insert i received)) := by
    rw [Cutting.offset, Cutting.offset, ← hline, List.length_append]
  have hlineFits : s.LineFits packet.payload := by
    have hle := Cutting.offset_le_length (c := c) (next_le c (insert i received))
    rw [Cutting.stream] at hle
    rw [LineFits, hadmissible]
    omega
  rcases handleIncomingPacket_inOrder hseq hlineFits with ⟨buffer, t, hhandle, -, hbuffer⟩
  refine ⟨_, congrArg (Option.map Prod.snd) hhandle, ?_, ?_, ?_, h.window, h.wrap⟩
  · dsimp only
    rw [hexpected, Cutting.seqAt, ofNat_add_ofNat, hoffset]
    rfl
  · dsimp only
    rw [hbuffer, h.recvBuffer, ← hnext, hadmissible, ← Cutting.flatten_take_succ hindex, hline]
  · have hle := le_firstMissing received (i + 1) (c.count - (i + 1))
    rw [← hafter] at hle
    have hdrop := drop_receivedFrom received (i + 1) (c.count - (i + 1))
    rw [← hafter, ← hcount] at hdrop
    change s.oooMap.entries.drop (s.line packet.payload).length = _
    rw [hentries, hlength, ← List.map_drop, hdrop, receivedFrom_insert_of_lt hle]

/-- One segment of the stream, wherever it belongs. -/
theorem Assembled.receive (h : Assembled c base received s) (hpacket : c.IsSegment base i packet) :
    ∃ s', receiveStep s packet = some s' ∧ Assembled c base (insert i received) s' := by
  rcases Nat.lt_trichotomy i (c.next received) with hold | hnext | hahead
  · exact h.receive_old hpacket hold
  · exact h.receive_next hpacket hnext
  · exact h.receive_ahead hpacket hahead

/-- After any arrivals the session holds what they make up. -/
theorem Assembled.run (h : Assembled c base received s) {packets : List MyuTcpPacket}
    (hpackets : ∀ packet ∈ packets, ∃ i, c.IsSegment base i packet) :
    ∃ received' s', receiveStep.run s packets = some s' ∧ Assembled c base received' s' ∧
      ∀ i, i ∈ received' ↔ i ∈ received ∨ c.Arrived base packets i := by
  induction packets generalizing received s with
  | nil => exact ⟨received, s, rfl, h, by simp [Cutting.Arrived]⟩
  | cons packet packets ih =>
      rw [List.forall_mem_cons] at hpackets
      rcases hpackets.1 with ⟨i, hpacket⟩
      rcases h.receive hpacket with ⟨s₁, hs₁, h₁⟩
      rcases ih h₁ hpackets.2 with ⟨received', s', hs', h', hmem⟩
      refine ⟨received', s', ?_, h', ?_⟩
      · rw [StepFn.run_cons, hs₁, Option.bind_some, hs']
      · intro j
        rw [hmem, Finset.mem_insert]
        have hfirst : c.IsSegment base j packet ↔ j = i := by
          constructor
          · exact fun hj => hj.unique h.nowrap hpacket
          · rintro rfl
            exact hpacket
        simp only [Cutting.Arrived, List.mem_cons, exists_eq_or_imp, hfirst]
        tauto

/-- Before any arrival the session holds nothing. -/
theorem assembled_empty (hbuffer : s.recvBuffer.toList = []) (hmap : s.oooMap.entries = [])
    (hwindow : c.stream.length ≤ s.recvWindow.recvWindowSize.toNat)
    (hwrap : s.recvWindow.recvNext.toNat + c.stream.length +
      s.recvWindow.recvWindowSize.toNat < 2 ^ 32) :
    Assembled c s.recvWindow.recvNext ∅ s := by
  have hnext : c.next ∅ = 0 := by
    apply (longestPrefix_firstMissing ∅ c.count).unique
    exact ⟨Nat.zero_le _, by simp, by simp⟩
  have hkept : ∀ start count, receivedFrom ∅ start count = [] := by
    intro start count
    apply List.eq_nil_iff_forall_not_mem.mpr
    intro i hi
    simpa using (mem_receivedFrom.mp hi).2.2
  constructor
  · rw [hnext, Cutting.seqAt, Cutting.offset_zero]
    simp
  · rw [hnext, hbuffer]
    simp
  · rw [hkept, hmap]
    rfl
  · exact hwindow
  · exact hwrap

/-- Segments of a stream that arrive in any order and with any repetitions in front of a
receive window of its length: after every arrival the receive buffer holds the longest
contiguous prefix, and once all have arrived it holds the stream and nothing is stored. -/
theorem arrivalOrder_irrelevant {packets : List MyuTcpPacket}
    (hbuffer : s.recvBuffer.toList = []) (hmap : s.oooMap.entries = [])
    (hwindow : c.stream.length ≤ s.recvWindow.recvWindowSize.toNat)
    (hwrap : s.recvWindow.recvNext.toNat + c.stream.length +
      s.recvWindow.recvWindowSize.toNat < 2 ^ 32)
    (hpackets : ∀ packet ∈ packets, ∃ i, c.IsSegment s.recvWindow.recvNext i packet) :
    (∀ arrivals, arrivals <+: packets → ∃ s' m, receiveStep.run s arrivals = some s' ∧
      LongestPrefix (c.Arrived s.recvWindow.recvNext arrivals) c.count m ∧
      s'.recvBuffer.toList = (c.segments.take m).flatten) ∧
    ((∀ i < c.count, c.Arrived s.recvWindow.recvNext packets i) →
      ∃ s', receiveStep.run s packets = some s' ∧ s'.recvBuffer.toList = c.stream ∧
        s'.oooMap.entries = [] ∧
        s'.recvWindow.recvNext = s.recvWindow.recvNext + UInt32.ofNat c.stream.length) := by
  have hstart := assembled_empty hbuffer hmap hwindow hwrap
  constructor
  · intro arrivals harrivals
    rcases hstart.run fun packet hmem => hpackets packet (harrivals.subset hmem) with
      ⟨received, s', hs', h', hmem⟩
    have hlongest := longestPrefix_firstMissing received c.count
    refine ⟨s', c.next received, hs', ⟨hlongest.le, ?_, ?_⟩, h'.recvBuffer⟩
    · intro i hi
      simpa using (hmem i).mp (hlongest.all i hi)
    · intro hlt harrived
      exact hlongest.stops hlt ((hmem _).mpr (Or.inr harrived))
  · intro hall
    rcases hstart.run hpackets with ⟨received, s', hs', h', hmem⟩
    have hnext : c.next received = c.count := by
      by_contra hne
      have hlt := lt_of_le_of_ne (next_le c received) hne
      exact (longestPrefix_firstMissing received c.count).stops hlt
        ((hmem _).mpr (Or.inr (hall _ hlt)))
    refine ⟨s', hs', ?_, ?_, ?_⟩
    · rw [h'.recvBuffer, hnext, Cutting.count, List.take_length]
      rfl
    · rw [h'.oooMap, hnext, Nat.sub_self]
      rfl
    · rw [h'.recvNext, hnext, Cutting.seqAt, Cutting.offset_count]

end Receive

/-- Five bytes in three segments. -/
def threeSegments : Cutting where
  segments := [[1, 2], [3], [4, 5]]
  nonempty := by decide
  fits := by decide

/-- A session that has received nothing, with a receive window of ten bytes. -/
def tenByteWindowSession : TcpSession :=
  { clientSession with
    recvWindow := { recvNext := 100, recvWindowSize := 10, initialRecvSeq := 0 } }

/-- The last segment, the first, the last again and the one between them. -/
def shuffledSegments : List MyuTcpPacket :=
  [peerPacket flagAck 103 0 1024 [4, 5], peerPacket flagAck 100 0 1024 [1, 2],
    peerPacket flagAck 103 0 1024 [4, 5], peerPacket flagAck 102 0 1024 [3]]

theorem arrivalOrder_irrelevant_shuffled :
    ∃ s', receiveStep.run tenByteWindowSession shuffledSegments = some s' ∧
      s'.recvBuffer.toList = [1, 2, 3, 4, 5] ∧ s'.oooMap.entries = [] := by
  have hsegments : ∀ packet ∈ shuffledSegments, ∃ i, threeSegments.IsSegment 100 i packet := by
    intro packet hmem
    simp only [shuffledSegments, List.mem_cons, List.not_mem_nil, or_false] at hmem
    rcases hmem with rfl | rfl | rfl | rfl
    · exact ⟨2, by decide, by decide +kernel, by decide +kernel⟩
    · exact ⟨0, by decide, by decide +kernel, by decide +kernel⟩
    · exact ⟨2, by decide, by decide +kernel, by decide +kernel⟩
    · exact ⟨1, by decide, by decide +kernel, by decide +kernel⟩
  have hall : ∀ i < threeSegments.count, threeSegments.Arrived 100 shuffledSegments i := by
    intro i hi
    have hthree : threeSegments.count = 3 := rfl
    rw [hthree] at hi
    interval_cases i
    · exact ⟨peerPacket flagAck 100 0 1024 [1, 2], by simp [shuffledSegments], by decide,
        by decide +kernel, by decide +kernel⟩
    · exact ⟨peerPacket flagAck 102 0 1024 [3], by simp [shuffledSegments], by decide,
        by decide +kernel, by decide +kernel⟩
    · exact ⟨peerPacket flagAck 103 0 1024 [4, 5], by simp [shuffledSegments], by decide,
        by decide +kernel, by decide +kernel⟩
  rcases (arrivalOrder_irrelevant (c := threeSegments) (s := tenByteWindowSession)
    (by decide +kernel) (by decide +kernel) (by decide +kernel) (by decide +kernel)
    hsegments).2 hall with ⟨s', hs', hstream, hmap, -⟩
  exact ⟨s', hs', hstream, hmap⟩

end TcpSession

end MyuTcp
