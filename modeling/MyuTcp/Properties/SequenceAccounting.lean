import MyuTcp.Core.OneConnection

/-!
# Accounting of sequence numbers

{lit}`send_next_` is changed by the emission functions and once more by {lit}`connect`,
{lit}`handle_listen` and {lit}`handle_close_wait`.  A ledger counts what a session has sent for
the first time, and {lit}`send_next_` is compared with it in every state of a run.

Main results:

- Theorem {lit}`keepsAccount_iff`: a step keeps the account exactly when it neither answers a
  crossing SYN, nor sends a second FIN, nor lets {lit}`handle_close_wait` send one.
- Theorem {lit}`sequenceNumbers_accounted_iff`: so does a run.
- Theorem {lit}`crossedSyn_unaccounted`: a run in which the SYNs cross.
-/

namespace MyuTcp

open Library

namespace TcpSession

/-- What a session has sent in its connection, retransmissions apart: its initial number, the
bytes of its payload segments, and whether it has sent a FIN. -/
structure Ledger where
  iss : Option UInt32
  bytes : Nat
  fin : Bool
deriving DecidableEq

/-- No connection has been opened. -/
def Ledger.empty : Ledger := ⟨none, 0, false⟩

/-- A step enters what it sends.  An expiry sends again what has been entered. -/
def Ledger.update (s : TcpSession) (e : Event) (s' : TcpSession) (ledger : Ledger) : Ledger :=
  match e with
  | .expire _ => ledger
  | _ =>
      { iss := (s.openingIss e).or ledger.iss
        bytes := ledger.bytes + newPayloadBytes s s'
        fin := ledger.fin || (newDatagrams s s').any fun d => d.packet.has flagFin }

/-- {lit}`send_next_` is the initial number, plus one for the SYN, plus the bytes, plus one for a
FIN. -/
def Accounted (x : TcpSession × Ledger) : Prop :=
  ∀ iss, x.2.iss = some iss →
    x.1.sendWindow.sendNext =
      iss + 1 + UInt32.ofNat x.2.bytes + UInt32.ofNat x.2.fin.toNat

/-- The packets with new numbers start where the ones before ended, and {lit}`send_next_`
advances by their lengths. -/
def Advances (s : TcpSession) (e : Event) (s' : TcpSession) : Prop :=
  match e with
  | .expire _ => s'.sendWindow.sendNext = s.sendWindow.sendNext
  | _ => Chained (s.firstNumber e) (newDatagrams s s') ∧
      s'.sendWindow.sendNext = s.firstNumber e + UInt32.ofNat (newWire s s').length

/-- After the step {lit}`send_next_` is accounted for. -/
def KeepsAccount (x : TcpSession × Ledger) (e : Event) : Prop :=
  ∀ y, step.withGhost Ledger.update x e = some y → Accounted y ∧ Advances x.1 e y.1

/-- The step sends a second SYN or a second FIN, or {lit}`handle_close_wait` sends its FIN. -/
def Miscounts (x : TcpSession × Ledger) (e : Event) : Prop :=
  x.1.AnswersPeerSyn e ∨ x.1.FinishesDrained e ∨ x.2.fin = true ∧ x.1.ClosesPassively e

/-! ## One step -/

/-- The account of a session that has not opened a second connection. -/
structure Booked (x : TcpSession × Ledger) : Prop where
  once : Once x.1
  accounted : Accounted x
  opened : x.1.sent ≠ [] → ∃ iss, x.2.iss = some iss
  unsent : x.1.sent = [] → x.2 = .empty
  finished : x.2.fin = true → Past x.1 ∧ x.1.state ≠ .established

section Step

variable {s s' : TcpSession} {e : Event} {x y : TcpSession × Ledger}

/-- The bytes of two steps add up. -/
theorem newPayloadBytes_trans {m : TcpSession} (hlog : s.sent <+: m.sent)
    (hlog' : m.sent <+: s'.sent) :
    newPayloadBytes s s' = newPayloadBytes s m + newPayloadBytes m s' := by
  simp [newPayloadBytes, newDatagrams_trans hlog hlog']

/-- Packets without marks use one number for each byte. -/
theorem Plain.length_newWire (h : Plain s s') : (newWire s s').length = newPayloadBytes s s' := by
  have hlength : ∀ l : List Datagram,
      (∀ d ∈ l, d.packet.has flagSyn = false ∧ d.packet.has flagFin = false) →
      (l.flatMap fun d => d.packet.carried).length =
        (l.map fun d => d.packet.payload.length).sum := by
    intro l
    induction l with
    | nil => simp
    | cons d rest ih =>
        intro hmarks
        rw [List.forall_mem_cons] at hmarks
        have hcarried : d.packet.carried.length = d.packet.payload.length := by
          simp [MyuTcpPacket.carried, hmarks.1]
        rw [List.flatMap_cons, List.length_append, ih hmarks.2, hcarried, List.map_cons,
          List.sum_cons]
  exact hlength _ h.unmarked

/-- Data packets have no FIN. -/
theorem Plain.noFin (h : Plain s s') :
    ((newDatagrams s s').any fun d => d.packet.has flagFin) = false := by
  rw [List.any_eq_false]
  intro d hd
  simp [(h.unmarked d hd).2]

/-- A SYN or FIN alone has no bytes. -/
theorem Marks.entries {syn : Bool} {n : UInt32} (h : Marks syn n s s') :
    newPayloadBytes s s' = 0 ∧
      ((newDatagrams s s').any fun d => d.packet.has flagFin) = !syn := by
  rcases h.datagram with ⟨d, hnew, -, hpayload, -, hfin⟩
  simp [newPayloadBytes, hnew, hpayload, hfin]

/-- Data first, and then a SYN or FIN. -/
theorem Plain.entries_marks {m : TcpSession} {syn : Bool} {n : UInt32} (hplain : Plain s m)
    (hmarks : Marks syn n m s') :
    newPayloadBytes s s' = newPayloadBytes s m ∧
      ((newDatagrams s s').any fun d => d.packet.has flagFin) = !syn := by
  rw [newPayloadBytes_trans hplain.log hmarks.log, newDatagrams_trans hplain.log hmarks.log,
    List.any_append, hplain.noFin, hmarks.entries.1, hmarks.entries.2]
  simp

/-- A step other than an expiry enters what it sends. -/
theorem Ledger.update_of_ne (hexpire : ∀ k, e ≠ .expire k) (ledger : Ledger) :
    Ledger.update s e s' ledger =
      { iss := (s.openingIss e).or ledger.iss
        bytes := ledger.bytes + newPayloadBytes s s'
        fin := ledger.fin || (newDatagrams s s').any fun d => d.packet.has flagFin } := by
  cases e with
  | expire k => exact absurd rfl (hexpire k)
  | _ => rfl

/-- A session that is open has an initial number. -/
theorem Booked.open_iss (hx : Booked x) (hclosed : x.1.state ≠ .closed)
    (hlisten : x.1.state ≠ .listen) : ∃ iss, x.2.iss = some iss :=
  hx.opened (hx.once.opened hclosed hlisten)

/-- A FIN is accounted for exactly when it is the first one and takes one number. -/
theorem Booked.accounted_fin_iff {m : TcpSession} {iss n : UInt32} (hx : Booked x)
    (hiss : x.2.iss = some iss) (hopens : x.1.openingIss e = none) (hplain : Plain x.1 m)
    (hmarks : Marks false m.sendWindow.sendNext m s')
    (hnext : s'.sendWindow.sendNext = m.sendWindow.sendNext + n)
    (hexpire : ∀ k, e ≠ .expire k) :
    Accounted (s', Ledger.update x.1 e s' x.2) ↔ n + UInt32.ofNat x.2.fin.toNat = 1 := by
  have hentries := hplain.entries_marks hmarks
  have hafter : s'.sendWindow.sendNext =
      iss + 1 + UInt32.ofNat x.2.bytes + UInt32.ofNat x.2.fin.toNat +
        UInt32.ofNat (newPayloadBytes x.1 s') + n := by
    rw [hnext, hplain.next, hx.accounted iss hiss, hentries.1, hplain.length_newWire]
  rw [Accounted, Ledger.update_of_ne hexpire]
  dsimp only
  rw [hopens, Option.none_or, hiss, hafter, hentries.2, UInt32.ofNat_add, Bool.not_false,
    Bool.or_true, Bool.toNat_true]
  constructor
  · intro haccounted
    have hclaimed := haccounted iss rfl
    grind
  · intro hone i hi
    rw [Option.some.injEq] at hi
    subst hi
    grind

/-- A step keeps the account exactly when it does not miscount. -/
theorem accounted_iff (hx : Booked x) (hok : x.1.OneConnection e) (hexpire : ∀ k, e ≠ .expire k)
    (hstep : step x.1 e = some s') :
    Accounted (s', Ledger.update x.1 e s' x.2) ↔ ¬ Miscounts x e := by
  cases spends_step hx.once hexpire hstep with
  | plain hopens hpeer hcloses hfinishes hplain =>
      have hcounts : ¬ Miscounts x e := by
        rintro (h | h | ⟨-, h⟩)
        · exact hpeer h
        · exact hfinishes h
        · exact hcloses (Or.inr h)
      refine iff_of_true ?_ hcounts
      rw [Ledger.update_of_ne hexpire]
      intro iss hiss
      rw [hopens, Option.none_or] at hiss
      rw [hplain.next, hx.accounted iss hiss, hplain.length_newWire, hplain.noFin, Bool.or_false,
        UInt32.ofNat_add]
      grind
  | @opens s' iss hopens hmarks hnext =>
      have hsent := hx.once.unsent_of_openingIss hok hopens
      have hstate := hx.once.notEstablished hsent
      have hcounts : ¬ Miscounts x e := by
        rintro (h | h | ⟨-, h⟩)
        · simp [h.openingIss] at hopens
        · exact hstate.not_open.2 h.state
        · exact hstate.not_open.2 h.state
      refine iff_of_true ?_ hcounts
      rw [Ledger.update_of_ne hexpire]
      intro iss' hiss
      rw [hopens, Option.some_or, Option.some.injEq] at hiss
      rw [hnext, hmarks.entries.1, hmarks.entries.2, hx.unsent hsent, hiss]
      simp [Ledger.empty]
  | peerSyn hpeer hmarks hnext =>
      refine iff_of_false ?_ (not_not.mpr (Or.inl hpeer))
      rw [Ledger.update_of_ne hexpire]
      intro haccounted
      rcases hx.open_iss (by simp [hpeer.state]) (by simp [hpeer.state]) with ⟨iss, hiss⟩
      have hafter := haccounted iss (by rw [hpeer.openingIss, Option.none_or, hiss])
      rw [hmarks.entries.1, hmarks.entries.2, Bool.not_true, Bool.or_false, Nat.add_zero,
        ← hx.accounted iss hiss, hnext] at hafter
      grind
  | @closes m s' hcloses hplain hmarks hnext hstate =>
      have hopen : ∃ iss, x.2.iss = some iss := by
        apply hx.open_iss <;> rcases hcloses.state with h | h <;> simp [h]
      rcases hopen with ⟨iss, hiss⟩
      rw [hx.accounted_fin_iff hiss hcloses.openingIss hplain hmarks hnext hexpire]
      cases hfin : x.2.fin with
      | false =>
          refine iff_of_true rfl ?_
          rintro (h | h | ⟨h, -⟩)
          · rcases hcloses.state with hstate | hstate <;> simp [h.state] at hstate
          · exact hcloses.not_finishes h
          · simp [hfin] at h
      | true =>
          -- the FIN has been counted before
          have hpassive : x.1.ClosesPassively e := by
            rcases hcloses with ⟨-, hestablished⟩ | hpassive
            · exact absurd hestablished (hx.finished hfin).2
            · exact hpassive
          exact iff_of_false (by decide) (not_not.mpr (Or.inr (Or.inr ⟨hfin, hpassive⟩)))
  | @finishes m s' hfinishes hplain hmarks hnext hstate =>
      rcases hx.open_iss (by simp [hfinishes.state]) (by simp [hfinishes.state]) with ⟨iss, hiss⟩
      rw [UInt32.add_assoc] at hnext
      rw [hx.accounted_fin_iff hiss hfinishes.openingIss hplain hmarks hnext hexpire]
      refine iff_of_false ?_ (not_not.mpr (Or.inr (Or.inl hfinishes)))
      cases x.2.fin <;> decide

/-- A FIN is sent on the way to FIN_WAIT_1 or LAST_ACK. -/
theorem Spending.fin_of_new (h : Spending s e s')
    (hfin : ((newDatagrams s s').any fun d => d.packet.has flagFin) = true) :
    s'.state = .finWait1 ∨ s'.state = .lastAck := by
  cases h with
  | plain hopens hpeer hcloses hfinishes hplain => simp [hplain.noFin] at hfin
  | opens hopens hmarks hnext => simp [hmarks.entries.2] at hfin
  | peerSyn hpeer hmarks hnext => simp [hmarks.entries.2] at hfin
  | closes hcloses hplain hmarks hnext hstate => exact hstate
  | finishes hfinishes hplain hmarks hnext hstate => exact Or.inr hstate

/-- A session that has sent its FIN stays behind ESTABLISHED. -/
theorem past_of_finished (hpast : Past s) (hstate : s.state ≠ .established) (hsent : s.sent ≠ [])
    (hok : s.OneConnection e) (hstep : step s e = some s') :
    Past s' ∧ s'.state ≠ .established := by
  refine ⟨past_of_sent hpast hsent hok hstep, ?_⟩
  intro hafter
  rcases (establishes_iff hstep).mp ⟨hstate, hafter⟩ with ⟨m, hm, -⟩
  rw [hpast.establishment] at hm
  contradiction

/-- An expiry enters nothing and leaves the account as it is. -/
theorem Booked.expire {k : UInt32} (hx : Booked x) (hstep : step x.1 (.expire k) = some s') :
    Booked (s', x.2) := by
  have hlog := sent_prefix_step hstep
  have hframe := expire_frame hstep
  have hok : x.1.OneConnection (.expire k) := trivial
  have hsent : x.1.sent ≠ [] := by
    intro hnil
    rcases expire_eq_some_iff.mp hstep with ⟨t, hactive, -⟩
    simp [hx.once.unarmed hnil k] at hactive
  constructor
  · exact once_step hx.once hok hstep
  · rw [Accounted, hframe.2.2.1]
    exact hx.accounted
  · exact fun _ => hx.opened hsent
  · intro hnil
    exact absurd (List.prefix_nil.mp (hnil ▸ hlog)) hsent
  · intro hfin
    exact past_of_finished (hx.finished hfin).1 (hx.finished hfin).2 hsent hok hstep

/-- A step that does not miscount keeps the account. -/
theorem booked_step (hx : Booked x) (hok : x.1.OneConnection e) (hcounts : ¬ Miscounts x e)
    (hstep : step.withGhost Ledger.update x e = some y) : Booked y := by
  rcases StepFn.withGhost_eq_some.mp hstep with ⟨hs, hledger⟩
  rcases y with ⟨s', ledger⟩
  dsimp only at hs hledger
  subst hledger
  by_cases hexpire : ∃ k, e = .expire k
  · rcases hexpire with ⟨k, rfl⟩
    exact hx.expire hs
  rw [not_exists] at hexpire
  have hspends := spends_step hx.once hexpire hs
  have hlog := sent_prefix_step hs
  constructor
  · exact once_step hx.once hok hs
  · exact (accounted_iff hx hok hexpire hs).mpr hcounts
  · intro hsent
    rw [Ledger.update_of_ne hexpire]
    by_cases hnil : x.1.sent = []
    · rcases (once_unsent hx.once hnil hs).2.2 hsent with ⟨iss, hiss⟩
      exact ⟨iss, by rw [hiss, Option.some_or]⟩
    · rcases hx.opened hnil with ⟨iss, hiss⟩
      cases hopens : x.1.openingIss e with
      | none => exact ⟨iss, by rw [Option.none_or, hiss]⟩
      | some i => exact ⟨i, rfl⟩
  · intro hnil
    dsimp only at hnil
    have hbefore : x.1.sent = [] := List.prefix_nil.mp (hnil ▸ hlog)
    have hnew : newDatagrams x.1 s' = [] := by rw [newDatagrams, hnil, List.drop_nil]
    have hopens : x.1.openingIss e = none := by
      cases hspends with
      | plain hopens hpeer hcloses hfinishes hplain => exact hopens
      | opens hopens hmarks hnext =>
          rcases hmarks with ⟨d, hsent, -⟩
          simp [hnil] at hsent
      | peerSyn hpeer hmarks hnext => exact hpeer.openingIss
      | closes hcloses hplain hmarks hnext hstate => exact hcloses.openingIss
      | finishes hfinishes hplain hmarks hnext hstate => exact hfinishes.openingIss
    rw [Ledger.update_of_ne hexpire, hx.unsent hbefore, newPayloadBytes, hnew, hopens]
    rfl
  · intro hfin
    rw [Ledger.update_of_ne hexpire, Bool.or_eq_true] at hfin
    rcases hfin with hbefore | hnew
    · have hpast := hx.finished hbefore
      refine past_of_finished hpast.1 hpast.2 ?_ hok hs
      intro hnil
      rw [hx.unsent hnil] at hbefore
      contradiction
    · rcases hspends.fin_of_new hnew with hstate | hstate
      · exact ⟨⟨by simp [hstate], by simp [hstate], by simp [hstate]⟩, by simp [hstate]⟩
      · exact ⟨⟨by simp [hstate], by simp [hstate], by simp [hstate]⟩, by simp [hstate]⟩

/-- A miscount is taken by the session. -/
theorem Miscounts.enabled (h : Miscounts x e) : ∃ s', step x.1 e = some s' := by
  cases e with
  | recv bufSize => exact ⟨_, rfl⟩
  | readAll => exact ⟨_, rfl⟩
  | close => exact ⟨_, rfl⟩
  | input packet iss =>
      rcases h with ⟨hadmitted, hstate, -⟩ | ⟨hadmitted, hstate, -⟩ | ⟨-, h⟩
      · refine ⟨(x.1.observe packet).handleSynSent packet, ?_⟩
        rw [step, input_of_admitted hadmitted, dispatch,
          show (x.1.observe packet).state = .synSent from hstate]
      · refine ⟨(x.1.observe packet).handleCloseWait packet, ?_⟩
        rw [step, input_of_admitted hadmitted, dispatch,
          show (x.1.observe packet).state = .closeWait from hstate]
      · exact h.elim
  | _ =>
      rcases h with h | h | ⟨-, h⟩
      · exact h.elim
      · exact h.elim
      · exact h.elim

/-- A step keeps the account exactly when it does not miscount. -/
theorem keepsAccount_iff (hx : Booked x) (hok : x.1.OneConnection e) :
    KeepsAccount x e ↔ ¬ Miscounts x e := by
  constructor
  · intro hkeeps hcounts
    rcases hcounts.enabled with ⟨s', hs⟩
    have hexpire : ∀ k, e ≠ .expire k := by
      rintro k rfl
      rcases hcounts with h | h | ⟨-, h⟩
      · exact h
      · exact h
      · exact h
    have hafter := hkeeps (s', Ledger.update x.1 e s' x.2) (StepFn.withGhost_eq_some.mpr ⟨hs, rfl⟩)
    exact (accounted_iff hx hok hexpire hs).mp hafter.1 hcounts
  · intro hcounts y hy
    refine ⟨(booked_step hx hok hcounts hy).accounted, ?_⟩
    have hs := (StepFn.withGhost_eq_some.mp hy).1
    cases e with
    | expire k => exact (expire_frame hs).2.2.1
    | _ =>
        have hspends := spends_step hx.once (by simp) hs
        exact ⟨hspends.chained, hspends.next fun h => hcounts (Or.inr (Or.inl h))⟩

end Step

/-! ## Runs of one connection -/

/-- The ledger of a new session is empty. -/
theorem booked_start {s : TcpSession} (h : Created s) : Booked (s, .empty) where
  once := h.once
  accounted iss hiss := by
    simp [Ledger.empty] at hiss
  opened hsent := absurd h.sent hsent
  unsent _ := rfl
  finished hfin := by
    simp [Ledger.empty] at hfin

/-- In every state of a run with one connection, {lit}`send_next_` is the initial number, plus one
for the SYN, plus the bytes sent for the first time, plus one for a FIN, exactly as long as the
SYNs do not cross and no second FIN is sent. -/
theorem sequenceNumbers_accounted_iff {s : TcpSession} (hcreated : Created s) {es : List Event}
    (hone : step.AllSteps OneConnection s es) :
    (step.withGhost Ledger.update).AllSteps KeepsAccount (s, .empty) es ↔
      (step.withGhost Ledger.update).AllSteps (fun x e => ¬ Miscounts x e) (s, .empty) es := by
  have hone' : (step.withGhost Ledger.update).AllSteps (fun x e => x.1.OneConnection e)
      (s, .empty) es := StepFn.allSteps_withGhost.mpr hone
  apply hone'.iff_of_invariant (P := Booked)
  · exact fun _ _ hx hok => keepsAccount_iff hx hok
  · exact fun _ _ _ hx hok hcounts hstep => booked_step hx hok hcounts hstep
  · exact booked_start hcreated

instance (x : TcpSession × Ledger) (e : Event) : Decidable (Miscounts x e) :=
  inferInstanceAs (Decidable (_ ∨ _))

/-- The session opens and sends two bytes; the second of them and the FIN are sent after the first
has been acknowledged. -/
def wholeLifeRun : List Event :=
  [.connect 100, .input (peerPacket (flagSyn ||| flagAck) 200 101 1024 []) 0, .send [7, 8],
    .input (peerPacket flagAck 201 102 1024 []) 0, .input (peerPacket flagAck 201 103 1024 []) 0,
    .close]

/-- Each number is accounted for, from the SYN to the FIN. -/
theorem sequenceNumbers_accounted_wholeLife :
    ((step.withGhost Ledger.update).run (clientSession, .empty) wholeLifeRun).any
        (fun x => x.2 = ⟨some 100, 2, true⟩ && x.1.sendWindow.sendNext = 104) = true ∧
      (step.withGhost Ledger.update).AllSteps KeepsAccount (clientSession, .empty)
        wholeLifeRun := by
  refine ⟨by decide +kernel, (sequenceNumbers_accounted_iff
    (.mk 0 0 7000 7000 "10.0.0.2" 8000) ?_).mpr ?_⟩
  · apply StepFn.allSteps_of_check (fun s e h => of_decide_eq_true h)
    decide +kernel
  · apply StepFn.allSteps_of_check (fun s e h => of_decide_eq_true h)
    decide +kernel

/-- The peer's SYN crosses that of the session. -/
def crossedSynRun : List Event :=
  [.connect 100, .input (peerPacket flagSyn 200 0 1024 []) 0]

/-- Two numbers are used, for one SYN, no payload and no FIN. -/
theorem crossedSyn_unaccounted :
    ∃ x, (step.withGhost Ledger.update).run (clientSession, .empty) crossedSynRun = some x ∧
      step.AllSteps OneConnection clientSession crossedSynRun ∧
      x.2 = ⟨some 100, 0, false⟩ ∧ x.1.sendWindow.sendNext = 102 ∧ ¬ Accounted x := by
  have hrun : (((step.withGhost Ledger.update).run (clientSession, .empty) crossedSynRun).any
      fun x => x.2 = ⟨some 100, 0, false⟩ && x.1.sendWindow.sendNext = 102) = true := by
    decide +kernel
  rcases (Option.any_eq_true _ _).mp hrun with ⟨x, hx, hafter⟩
  rw [Bool.and_eq_true, decide_eq_true_eq, decide_eq_true_eq] at hafter
  refine ⟨x, hx, ?_, hafter.1, hafter.2, ?_⟩
  · apply StepFn.allSteps_of_check (fun s e h => of_decide_eq_true h)
    decide +kernel
  · intro haccounted
    have hclaimed := haccounted 100 (by rw [hafter.1])
    rw [hafter.1, hafter.2] at hclaimed
    simp at hclaimed

end TcpSession

end MyuTcp
