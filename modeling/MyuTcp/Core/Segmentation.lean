import MyuTcp.Core.FlightTimers
import MyuTcp.Library.Pieces

/-!
# The segments of a session

How a session with one connection cuts what its numbers carry into packets.  Until it closes, each
packet that takes numbers carries one piece of the stream, and what is sent again carries a piece
that has been sent before.

Main results:

- Theorem {lit}`firstNumber_of_pending`: the packets of a step start behind all numbers used.
- Theorem {lit}`segmented_step`: a step adds the pieces that its packets carry.
-/

namespace MyuTcp

open Library

namespace TcpSession

/-! ## Pieces of a list of packets -/

/-- The packet carries the given piece, at its number. -/
def IsPiece (iss : UInt32) (pieces : List (List (Option UInt8))) (i : Nat)
    (p : MyuTcpPacket) : Prop :=
  pieces[i]? = some p.carried ∧ p.seq = iss + UInt32.ofNat (pieceStart pieces i)

/-- What the packets with numbers carry. -/
def carriedPieces (l : List Datagram) : List (List (Option UInt8)) :=
  (l.map fun d => d.packet.carried).filter (· ≠ [])

section Pieces

variable {iss n : UInt32} {pieces more : List (List (Option UInt8))} {i : Nat}
  {p : MyuTcpPacket} {d : Datagram} {l : List Datagram}

/-- A piece is one of the list. -/
theorem IsPiece.lt (h : IsPiece iss pieces i p) : i < pieces.length :=
  (List.getElem?_eq_some_iff.mp h.1).1

/-- A piece stays one when more are sent. -/
theorem IsPiece.append (h : IsPiece iss pieces i p) (more : List (List (Option UInt8))) :
    IsPiece iss (pieces ++ more) i p := by
  have hlt := h.lt
  refine ⟨?_, ?_⟩
  · rw [List.getElem?_append_left hlt]
    exact h.1
  · rw [pieceStart_append_of_le more hlt.le]
    exact h.2

/-- A piece of those that follow. -/
theorem IsPiece.behind (h : IsPiece (iss + UInt32.ofNat pieces.flatten.length) more i p) :
    IsPiece iss (pieces ++ more) (pieces.length + i) p := by
  refine ⟨?_, ?_⟩
  · rw [List.getElem?_append_right (Nat.le_add_right _ _), Nat.add_sub_cancel_left]
    exact h.1
  · rw [pieceStart_append_add, UInt32.ofNat_add, ← UInt32.add_assoc]
    exact h.2

/-- A pure acknowledgment is no piece. -/
theorem carriedPieces_cons_of_nil (h : d.packet.carried = []) :
    carriedPieces (d :: l) = carriedPieces l := by
  simp [carriedPieces, h]

/-- A packet with numbers is a piece. -/
theorem carriedPieces_cons (h : d.packet.carried ≠ []) :
    carriedPieces (d :: l) = d.packet.carried :: carriedPieces l := by
  simp [carriedPieces, h]

/-- The pieces in a row are what the packets carry. -/
theorem flatten_carriedPieces (l : List Datagram) :
    (carriedPieces l).flatten = l.flatMap fun d => d.packet.carried := by
  rw [carriedPieces, List.flatten_filter_ne_nil, List.flatMap_def]

/-- No piece is empty. -/
theorem nil_notMem_carriedPieces (l : List Datagram) : [] ∉ carriedPieces l := by
  simp [carriedPieces]

/-- A piece behind the first one. -/
theorem isPiece_cons {first : Datagram} (hfirst : first.packet.carried ≠ [])
    (h : IsPiece (n + UInt32.ofNat first.packet.carried.length) (carriedPieces l) i p) :
    IsPiece n (carriedPieces (first :: l)) (i + 1) p := by
  have hbehind : IsPiece n ([first.packet.carried] ++ carriedPieces l) (1 + i) p :=
    IsPiece.behind (by rwa [List.flatten_singleton])
  rw [carriedPieces_cons hfirst, Nat.add_comm]
  exact hbehind

/-- A packet of a chain carries one of its pieces. -/
theorem Chained.piece_of_mem (h : Chained n l) (hd : d ∈ l) (hcarried : d.packet.carried ≠ []) :
    ∃ i, IsPiece n (carriedPieces l) i d.packet := by
  induction l generalizing n with
  | nil => contradiction
  | cons first rest ih =>
      by_cases hfirst : first.packet.carried = []
      · rcases List.mem_cons.mp hd with rfl | hd
        · exact absurd hfirst hcarried
        · have hrest := h.2
          rw [hfirst, List.length_nil, show UInt32.ofNat 0 = 0 from rfl, UInt32.add_zero] at hrest
          rw [carriedPieces_cons_of_nil hfirst]
          exact ih hrest hd
      · rcases List.mem_cons.mp hd with rfl | hd
        · refine ⟨0, ?_, ?_⟩
          · rw [carriedPieces_cons hfirst, List.getElem?_cons_zero]
          · rw [h.1 hfirst, pieceStart_zero]
            exact (UInt32.add_zero _).symm
        · rcases ih h.2 hd with ⟨i, hi⟩
          exact ⟨i + 1, isPiece_cons hfirst hi⟩

/-- Each piece of a chain is carried by one of its packets. -/
theorem Chained.exists_piece (h : Chained n l) (hi : i < (carriedPieces l).length) :
    ∃ d ∈ l, IsPiece n (carriedPieces l) i d.packet := by
  induction l generalizing n i with
  | nil => contradiction
  | cons first rest ih =>
      by_cases hfirst : first.packet.carried = []
      · have hrest := h.2
        rw [hfirst, List.length_nil, show UInt32.ofNat 0 = 0 from rfl, UInt32.add_zero] at hrest
        rw [carriedPieces_cons_of_nil hfirst] at hi ⊢
        rcases ih hrest hi with ⟨d, hd, hpiece⟩
        exact ⟨d, List.mem_cons_of_mem _ hd, hpiece⟩
      · rw [carriedPieces_cons hfirst, List.length_cons] at hi
        cases i with
        | zero =>
            refine ⟨first, List.mem_cons_self, ?_, ?_⟩
            · rw [carriedPieces_cons hfirst, List.getElem?_cons_zero]
            · rw [h.1 hfirst, pieceStart_zero]
              exact (UInt32.add_zero _).symm
        | succ i =>
            rcases ih h.2 (Nat.lt_of_succ_lt_succ hi) with ⟨d, hd, hpiece⟩
            exact ⟨d, List.mem_cons_of_mem _ hd, isPiece_cons hfirst hpiece⟩

end Pieces

/-! ## Pieces of a session -/

/-- What the numbers of the session carry is cut into the pieces that its packets carry. -/
structure Segmented (iss : UInt32) (wire : List (Option UInt8))
    (pieces : List (List (Option UInt8))) (s : TcpSession) : Prop where
  flatten : pieces.flatten = wire
  nonempty : [] ∉ pieces
  packets : AllPackets (fun p => p.carried ≠ [] → ∃ i, IsPiece iss pieces i p) s
  sent : ∀ i < pieces.length, ∃ d ∈ s.sent, IsPiece iss pieces i d.packet

section Steps

variable {s s' : TcpSession} {e : Event} {flags : UInt8} {iss : UInt32} {accepted : List UInt8}
  {wire : List (Option UInt8)} {pieces : List (List (Option UInt8))}

/-- A session that has sent nothing has no pieces. -/
theorem segmented_unsent (hsent : s.sent = []) (honce : Once s) : Segmented iss [] [] s where
  flatten := rfl
  nonempty := List.not_mem_nil
  packets := allPackets_of_unsent hsent (honce.unarmed hsent)
  sent i hi := absurd hi (Nat.not_lt_zero i)

/-- Only a session that waits, or has not sent anything, goes on to wait. -/
theorem pending_before (h : Once s) (hok : s.OneConnection e) (hstep : step s e = some s')
    (hpending : s'.Pending) : s.Pending ∨ s.sent = [] := by
  by_contra hnot
  rw [not_or, Pending, not_or, not_or] at hnot
  rcases hnot with ⟨⟨hsynSent, hsynReceived, hestablished⟩, hsent⟩
  have hpast : Past s := ⟨fun hlisten => hsent (h.listening hlisten), hsynSent, hsynReceived⟩
  have hpast' := past_of_sent hpast hsent hok hstep
  rcases hpending with hstate | hstate | hstate
  · exact hpast'.synSent hstate
  · exact hpast'.synReceived hstate
  · rcases (establishes_iff hstep).mp ⟨hestablished, hstate⟩ with ⟨m, hm, -⟩
    rw [hpast.establishment] at hm
    contradiction

/-- A session that may still send is neither closed nor listening. -/
theorem Pending.state_ne (h : s.Pending) :
    s.state ≠ .closed ∧ s.state ≠ .listen ∧ s.state ≠ .lastAck := by
  rcases h with hstate | hstate | hstate <;> simp [hstate]

/-- A session that may still send has sent its SYN. -/
theorem Pending.sent_ne (h : s.Pending) (honce : Once s) : s.sent ≠ [] :=
  honce.opened h.state_ne.1 h.state_ne.2.1

/-- A session that opens its connection opens it with its own number. -/
theorem OpensAs.openingIss_eq {i : UInt32} (h : OpensAs flags iss s e)
    (hopens : s.openingIss e = some i) : i = iss := by
  cases e with
  | connect j =>
      rw [openingIss, Option.some.injEq] at hopens
      rw [← hopens]
      exact h.1
  | input packet j =>
      rw [openingIss] at hopens
      split at hopens <;> rename_i hguard
      · rw [Option.some.injEq] at hopens
        rw [← hopens]
        exact (h.1 hguard.1).1
      · contradiction
  | _ => contradiction

/-- As long as a session waits, the packets of a step start behind all numbers used. -/
theorem firstNumber_of_pending (h : Once s) (hopens : OpensAs flags iss s e)
    (hok : s.OneConnection e) (hnumbering : Numbering iss accepted wire s)
    (hstep : step s e = some s') (hpending : s'.Pending) :
    s.firstNumber e = iss + UInt32.ofNat wire.length := by
  rw [firstNumber]
  rcases pending_before h hok hstep hpending with hbefore | hsent
  · have hnone : s.openingIss e = none := by
      rw [Option.eq_none_iff_forall_ne_some]
      intro i hi
      exact hbefore.sent_ne h (h.unsent_of_openingIss hok hi)
    rw [hnone, Option.getD_none]
    exact (hnumbering.next hbefore.state_ne).1
  · have hunsent := once_unsent h hsent hstep
    have hstate := hpending.state_ne
    rcases hunsent.2.2 (hunsent.1 hstate.1 hstate.2.1) with ⟨i, hi⟩
    rw [hi, Option.getD_some, hopens.openingIss_eq hi, hnumbering.unused (Or.inl hsent)]
    exact (UInt32.add_zero _).symm

/-- What is sent again carries what was sent before. -/
theorem isPiece_refreshPacket {i : Nat} {p : MyuTcpPacket} (s : TcpSession)
    (h : IsPiece iss pieces i p) : IsPiece iss pieces i (s.refreshPacket p) := by
  have hcarried : (s.refreshPacket p).carried = p.carried := by simp [MyuTcpPacket.carried]
  rwa [IsPiece, hcarried, refreshPacket_seq]

/-- Only an expiry sends numbers again. -/
theorem sentBy_of_ne (hexpire : ∀ k, e ≠ .expire k) : s.sentBy e s' = newWire s s' := by
  cases e with
  | expire k => exact absurd rfl (hexpire k)
  | _ => rfl

/-- A step adds the pieces that its packets carry, an expiry none. -/
theorem segmented_step (h : Segmented iss wire pieces s) (honce : Once s) (hkeyed : s.Keyed)
    (hstep : step s e = some s') (hfirst : s.firstNumber e = iss + UInt32.ofNat wire.length) :
    ∃ more, Segmented iss (wire ++ s.sentBy e s') (pieces ++ more) s' := by
  have hlog := sent_prefix_step hstep
  have hcarried : ∀ p, (s.refreshPacket p).carried = p.carried :=
    fun p => by simp [MyuTcpPacket.carried]
  by_cases hexpire : ∃ k, e = .expire k
  · rcases hexpire with ⟨k, rfl⟩
    refine ⟨[], ?_⟩
    rw [List.append_nil, show s.sentBy (.expire k) s' = [] from rfl, List.append_nil]
    refine ⟨h.flatten, h.nonempty, ?_, ?_⟩
    · refine packets_expire h.packets hkeyed hstep fun p hp hne => ?_
      rw [hcarried] at hne
      rcases hp hne with ⟨i, hi⟩
      exact ⟨i, isPiece_refreshPacket s hi⟩
    · intro i hi
      rcases h.sent i hi with ⟨d, hd, hpiece⟩
      exact ⟨d, hlog.subset hd, hpiece⟩
  rw [not_exists] at hexpire
  have hchained := (spends_step honce hexpire hstep).chained
  rw [hfirst, ← h.flatten] at hchained
  refine ⟨carriedPieces (newDatagrams s s'), ?_, ?_, ?_, ?_⟩
  · rw [List.flatten_append, h.flatten, flatten_carriedPieces, sentBy_of_ne hexpire]
    rfl
  · rw [List.mem_append, not_or]
    exact ⟨h.nonempty, nil_notMem_carriedPieces _⟩
  · refine packets_step_of_ne ?_ hexpire hstep ?_
    · exact h.packets.mono fun p hp hne => (hp hne).imp fun i hi => hi.append _
    · intro d hd hne
      rcases hchained.piece_of_mem hd hne with ⟨i, hi⟩
      exact ⟨pieces.length + i, hi.behind⟩
  · intro i hi
    rw [List.length_append] at hi
    by_cases hold : i < pieces.length
    · rcases h.sent i hold with ⟨d, hd, hpiece⟩
      exact ⟨d, hlog.subset hd, hpiece.append _⟩
    · rcases hchained.exists_piece (i := i - pieces.length) (by omega) with ⟨d, hd, hpiece⟩
      have hbehind := hpiece.behind
      rw [Nat.add_sub_cancel' (Nat.le_of_not_lt hold)] at hbehind
      exact ⟨d, List.mem_of_mem_drop hd, hbehind⟩

/-- The first piece is the mark of the SYN. -/
theorem Segmented.first (h : Segmented iss wire pieces s) (hhead : wire.head? = some none) :
    1 ≤ pieces.length ∧ pieceStart pieces 1 = 1 := by
  match pieces, h with
  | [], h =>
      rw [← h.flatten] at hhead
      contradiction
  | piece :: rest, h =>
      rcases h.sent 0 (Nat.succ_pos _) with ⟨d, -, hpiece, -⟩
      rw [List.getElem?_cons_zero, Option.some.injEq] at hpiece
      have hne : piece ≠ [] := fun hnil => h.nonempty (hnil ▸ List.mem_cons_self)
      have hmark : piece = [none] := by
        rw [← h.flatten, List.flatten_cons, List.head?_append_of_ne_nil _ hne] at hhead
        rw [hpiece, MyuTcpPacket.carried] at hhead ⊢
        split
        · rfl
        · rename_i hflags
          rw [if_neg hflags] at hhead
          cases hpayload : d.packet.payload with
          | nil => simp [hpayload] at hhead
          | cons b rest => simp [hpayload] at hhead
      refine ⟨Nat.succ_pos _, ?_⟩
      rw [pieceStart_cons_succ, hmark]
      rfl

end Steps

end TcpSession

end MyuTcp
