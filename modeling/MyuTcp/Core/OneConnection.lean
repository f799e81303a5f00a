import MyuTcp.Core.Connection
import MyuTcp.Core.Receiving
import MyuTcp.Core.Sender
import MyuTcp.Core.Transmission

/-!
# Sessions with one connection

What the steps of a session send that opens its only connection before it sends anything, in
either way and also when the SYNs cross.  No step counts a third duplicate there, so apart from
expiries every packet with numbers is new.

Main results:

- Theorem {lit}`once_step`: no step of such a session counts a third duplicate.
- Theorem {lit}`spends_step`: the numbers that a step uses, and what for.
- Theorems {lit}`Spending.chained` and {lit}`Spending.next`: the packets of a step follow one
  another, and the next number follows them.
-/

namespace MyuTcp

open Library

namespace TcpSession

/-- The session is opened only before it has sent anything. -/
def OneConnection (s : TcpSession) : Event → Prop
  | .connect _ => s.sent = []
  | .listen => s.state = .closed → s.sent = []
  | _ => True

instance (s : TcpSession) : (e : Event) → Decidable (s.OneConnection e)
  | .connect _ => inferInstanceAs (Decidable (_ = _))
  | .listen => inferInstanceAs (Decidable (_ → _))
  | .setRemoteAddr .. | .setListenerPort .. | .send .. | .recv .. | .readAll | .close
  | .input .. | .expire .. | .expire2Msl => isTrue trivial

/-- The number drawn by the step that sends the first SYN. -/
def openingIss (s : TcpSession) : Event → Option UInt32
  | .connect iss => some iss
  | .input packet iss =>
      if s.state = .listen ∧ Admitted packet ∧ packet.has flagSyn = true then some iss else none
  | _ => none

/-- A session that has not opened a second connection. -/
structure Once (s : TcpSession) : Prop where
  single : SingleDuplicate s
  opened : s.state ≠ .closed → s.state ≠ .listen → s.sent ≠ []
  listening : s.state = .listen → s.sent = []
  unarmed : s.sent = [] → ∀ k, s.timerManager.activeAt k = none

section Once

variable {s s' : TcpSession} {e : Event} {packet : MyuTcpPacket}

/-- A session that has done nothing has opened no second connection. -/
theorem once_of_unopened (hstate : s.state = .closed) (hsent : s.sent = [])
    (hdup : s.dupAckCount = 0) (htimers : ∀ k, s.timerManager.activeAt k = none) : Once s where
  single := Or.inl hdup
  opened hclosed := absurd hstate hclosed
  listening _ := hsent
  unarmed _ := htimers

/-- A new session has opened no second connection. -/
theorem Created.once (h : Created s) : Once s :=
  once_of_unopened h.state h.sent h.dupAckCount h.activeAt

/-- A session that has sent nothing is not established. -/
theorem Once.notEstablished (h : Once s) (hsent : s.sent = []) : s.NotEstablished := by
  by_cases hclosed : s.state = .closed
  · exact Or.inl hclosed
  · by_cases hlisten : s.state = .listen
    · exact Or.inr (Or.inl hlisten)
    · exact absurd hsent (h.opened hclosed hlisten)

/-- No acknowledgment is a third duplicate for such a session. -/
theorem Once.not_thirdDuplicate (h : Once s) (packet : MyuTcpPacket) :
    ¬ s.ThirdDuplicate packet.ack ∧ ¬ (s.observe packet).ThirdDuplicate packet.ack := by
  have hcount := countDupAck_congr (s := s.observe packet) (t := s) rfl rfl packet.ack
  have hle : s.dupAckCount ≤ 1 := by
    rcases h.single with hzero | ⟨hone, -⟩
    · omega
    · omega
  have hnot : (s.countDupAck packet.ack).dupAckCount ≠ 3 := by
    rw [countDupAck]
    split
    · simp
    · split
      · simp
        omega
      · omega
  rw [ThirdDuplicate, ThirdDuplicate, hcount.1]
  exact ⟨hnot, hnot⟩

/-- With one connection there is no third duplicate. -/
theorem Once.not_countsThirdDuplicate (h : Once s) : ¬ s.CountsThirdDuplicate e := by
  cases e with
  | input packet iss => exact (h.not_thirdDuplicate packet).1
  | _ => exact id

/-- With one connection at most one duplicate is counted. -/
theorem once_singleDuplicate (h : Once s) (hok : s.OneConnection e) (hstep : step s e = some s') :
    SingleDuplicate s' := by
  refine ((step_moves hstep).preserves
    (P := fun t => s.sent <+: t.sent ∧ SingleDuplicate t) ?_ ⟨List.prefix_rfl, h.single⟩).2
  rintro a b ⟨hlog, hsingle⟩ hmove
  refine ⟨hlog.trans hmove.sent_prefix, hmove.singleDuplicate_of_unsent hsingle ?_ ?_ ?_⟩
  · intro hestablished _ hnil
    have hsent : s.sent = [] := List.prefix_nil.mp (hnil ▸ hlog)
    exact (h.notEstablished hsent).not_open.1 hestablished
  · rintro i rfl
    exact hok
  · rintro rfl
    exact hok

/-- A step of a session that has sent nothing sends nothing, or opens the connection. -/
theorem once_unsent (h : Once s) (hsent : s.sent = []) (hstep : step s e = some s') :
    (s'.state ≠ .closed → s'.state ≠ .listen → s'.sent ≠ []) ∧
      (s'.state = .listen → s'.sent = []) ∧
      (s'.sent ≠ [] → ∃ iss, s.openingIss e = some iss) := by
  have hopening := h.notEstablished hsent
  have hbefore : s.state = .closed ∨ s.state = .listen := by
    by_contra hne
    rw [not_or] at hne
    exact h.opened hne.1 hne.2 hsent
  have heffect := opening_step hopening hstep
  cases heffect with
  | quiet hstate hsend hrecv hlog htimers =>
      rw [hstate, hlog]
      exact ⟨h.opened, h.listening, absurd hsent⟩
  | listened hstate => simp [transitionTo, hsent]
  | connected iss => simp [connect_eq, openingIss]
  | aborted hstate => rcases hbefore with h | h <;> simp [h] at hstate
  | reset hrst => simp [handleReset, notify, transitionTo, hsent]
  | passiveOpen hadmitted hstate hsyn =>
      simp [handleListen_eq _ hsyn, openingIss, hstate, hadmitted, hsyn]
  | synAck hadmitted hstate hsyn hflag hack => simp [hstate] at hbefore
  | peerSyn hadmitted hstate hsyn hflag => simp [hstate] at hbefore
  | synReceivedAck hadmitted hstate hflag hack => simp [hstate] at hbefore
  | @expired k s' hexpire =>
      rcases expire_eq_some_iff.mp hexpire with ⟨t, hactive, -⟩
      rw [h.unarmed hsent k] at hactive
      contradiction
  | expired2Msl => simp [handle2MslTimeout, notify, transitionTo, hsent]

/-- No step of a session with one connection counts a third duplicate. -/
theorem once_step (h : Once s) (hok : s.OneConnection e) (hstep : step s e = some s') :
    Once s' := by
  have hlog := sent_prefix_step hstep
  have hsingle := once_singleDuplicate h hok hstep
  by_cases hsent : s.sent = []
  · refine ⟨hsingle, (once_unsent h hsent hstep).1, (once_unsent h hsent hstep).2.1, ?_⟩
    intro hnil k
    have hexpire : ∀ k, e ≠ .expire k := by
      rintro k rfl
      rcases expire_eq_some_iff.mp hstep with ⟨t, hactive, -⟩
      rw [h.unarmed hsent k] at hactive
      contradiction
    rw [Option.eq_none_iff_forall_ne_some]
    intro t ht
    rcases (step_grows hexpire hstep).timers k t ht with hold | harmed
    · rw [h.unarmed hsent k] at hold
      contradiction
    · rcases harmed.sent with ⟨d, hd, -⟩
      rw [newDatagrams, hnil, List.drop_nil] at hd
      contradiction
  · have hne : s'.sent ≠ [] := fun hnil => hsent (List.prefix_nil.mp (hnil ▸ hlog))
    refine ⟨hsingle, fun _ _ => hne, ?_, fun hnil => absurd hnil hne⟩
    intro hlisten
    have htransition := step_transition hstep
    rw [hlisten] at htransition
    generalize hnext : TcpState.listen = next at htransition
    cases htransition with
    | stay => exact absurd (h.listening hnext.symm) hsent
    | listen hstate => exact absurd (hok hstate) hsent
    | _ => contradiction

/-- Only a session that has sent nothing is opened. -/
theorem Once.unsent_of_openingIss (h : Once s) (hok : s.OneConnection e) {iss : UInt32}
    (hopens : s.openingIss e = some iss) : s.sent = [] := by
  cases e with
  | connect i => exact hok
  | input packet i =>
      rw [openingIss] at hopens
      split at hopens <;> rename_i hguard
      · exact h.listening hguard.1
      · contradiction
  | _ => contradiction

/-- A session that has sent something is not opened again. -/
theorem past_of_sent (hpast : Past s) (hsent : s.sent ≠ []) (hok : s.OneConnection e)
    (hstep : step s e = some s') : Past s' := by
  have htransition := step_transition hstep
  generalize hnext : s'.state = next at htransition
  cases htransition with
  | stay => exact ⟨hnext ▸ hpast.listen, hnext ▸ hpast.synSent, hnext ▸ hpast.synReceived⟩
  | connect iss => exact absurd hok hsent
  | listen hclosed => exact absurd (hok hclosed) hsent
  | passiveOpen hadmitted hlisten hsyn => exact absurd hlisten hpast.listen
  | peerSyn hadmitted hsynSent hsyn hflag => exact absurd hsynSent hpast.synSent
  | _ => exact ⟨by simp [hnext], by simp [hnext], by simp [hnext]⟩

end Once

/-! ## Numbers that follow one another -/

/-- Each packet with numbers starts where the one before it ended, the first at the number. -/
def Chained : UInt32 → List Datagram → Prop
  | _, [] => True
  | n, d :: rest =>
      (d.packet.carried ≠ [] → d.packet.seq = n) ∧
        Chained (n + UInt32.ofNat d.packet.carried.length) rest

/-- The second part starts where the first one ends. -/
theorem chained_append (n : UInt32) (l m : List Datagram) :
    Chained n (l ++ m) ↔ Chained n l ∧
      Chained (n + UInt32.ofNat (l.flatMap fun d => d.packet.carried).length) m := by
  induction l generalizing n with
  | nil => simp [Chained]
  | cons d rest ih =>
      rw [List.cons_append, Chained, Chained, ih, and_assoc, List.flatMap_cons,
        List.length_append, UInt32.ofNat_add, UInt32.add_assoc]

/-- The packets take the numbers behind the ones used before. -/
theorem Chained.number {iss : UInt32} {used : Nat} {l : List Datagram} {d : Datagram}
    (h : Chained (iss + UInt32.ofNat used) l) (hd : d ∈ l) (hcarried : d.packet.carried ≠ []) :
    ∃ o, used ≤ o ∧ o < used + (l.flatMap fun d => d.packet.carried).length ∧
      d.packet.seq = iss + UInt32.ofNat o := by
  induction l generalizing used with
  | nil => contradiction
  | cons first rest ih =>
      rw [Chained, UInt32.add_assoc, ← UInt32.ofNat_add] at h
      rw [List.flatMap_cons, List.length_append]
      rcases List.mem_cons.mp hd with rfl | hrest
      · have hpos := List.length_pos_iff.mpr hcarried
        exact ⟨used, le_rfl, by omega, h.1 hcarried⟩
      · rcases ih h.2 hrest with ⟨o, hlow, hhigh, hseq⟩
        exact ⟨o, by omega, by omega, hseq⟩

/-- Among fewer packets than there are numbers, no two with numbers have the same first one. -/
theorem Chained.countP_le_one {iss : UInt32} {used : Nat} {l : List Datagram}
    (h : Chained (iss + UInt32.ofNat used) l)
    (hfits : used + (l.flatMap fun d => d.packet.carried).length ≤ 2 ^ 32) (k : UInt32) :
    (l.countP fun d => d.packet.carried ≠ [] ∧ d.packet.seq = k) ≤ 1 := by
  induction l generalizing used with
  | nil => simp
  | cons first rest ih =>
      rw [Chained, UInt32.add_assoc, ← UInt32.ofNat_add] at h
      rw [List.flatMap_cons, List.length_append] at hfits
      have hrest := ih h.2 (by omega)
      rw [List.countP_cons]
      split <;> rename_i hfirst
      · rw [decide_eq_true_eq] at hfirst
        have hpos := List.length_pos_iff.mpr hfirst.1
        have hzero : (rest.countP fun d => d.packet.carried ≠ [] ∧ d.packet.seq = k) = 0 := by
          rw [List.countP_eq_zero]
          intro d hd hboth
          rw [decide_eq_true_eq] at hboth
          rcases Chained.number h.2 hd hboth.1 with ⟨o, hlow, hhigh, hseq⟩
          have hsame : iss + UInt32.ofNat o = iss + UInt32.ofNat used := by
            rw [← hseq, hboth.2, ← hfirst.2, h.1 hfirst.1]
          have hequal := ofNat_add_inj (by omega) (by omega) hsame
          omega
        omega
      · exact hrest

/-- Between two sessions only packets without SYN and FIN are sent, and the data among them
take the next numbers. -/
structure Plain (a b : TcpSession) : Prop where
  log : a.sent <+: b.sent
  unmarked : ∀ d ∈ newDatagrams a b,
    d.packet.has flagSyn = false ∧ d.packet.has flagFin = false
  chained : Chained a.sendWindow.sendNext (newDatagrams a b)
  next : b.sendWindow.sendNext = a.sendWindow.sendNext + UInt32.ofNat (newWire a b).length

section Plain

variable {a b c : TcpSession}

/-- Where nothing is sent, no number is used. -/
theorem plain_of_eq (hsent : b.sent = a.sent)
    (hnext : b.sendWindow.sendNext = a.sendWindow.sendNext) : Plain a b := by
  have hnew : newDatagrams a b = [] := by rw [newDatagrams, hsent, List.drop_length]
  constructor
  · rw [hsent]
  · simp [hnew]
  · simp [hnew, Chained]
  · simp [newWire_of_eq hsent, hnext]

/-- Data sent after data take the numbers after it. -/
theorem Plain.trans (hab : Plain a b) (hbc : Plain b c) : Plain a c := by
  have hnew := newDatagrams_trans hab.log hbc.log
  constructor
  · exact hab.log.trans hbc.log
  · intro d hd
    rw [hnew, List.mem_append] at hd
    exact hd.elim (hab.unmarked d) (hbc.unmarked d)
  · rw [hnew, chained_append]
    refine ⟨hab.chained, ?_⟩
    have hchained := hbc.chained
    rw [hab.next] at hchained
    exact hchained
  · rw [hbc.next, hab.next, newWire_trans hab.log hbc.log, List.length_append, UInt32.ofNat_add,
      UInt32.add_assoc]

/-- One packet without SYN and FIN. -/
theorem plain_of_append {d : Datagram} (hsent : b.sent = a.sent ++ [d])
    (hmarks : d.packet.has flagSyn = false ∧ d.packet.has flagFin = false)
    (hseq : d.packet.carried ≠ [] → d.packet.seq = a.sendWindow.sendNext)
    (hnext : b.sendWindow.sendNext =
      a.sendWindow.sendNext + UInt32.ofNat d.packet.carried.length) : Plain a b := by
  have hnew := newDatagrams_of_append hsent
  constructor
  · simp [hsent]
  · simpa [hnew] using hmarks
  · simpa [hnew, Chained] using hseq
  · rw [newWire_of_append hsent, hnext]

/-- A control packet without SYN and FIN. -/
theorem plain_of_reply {t : TcpSession} {flags : UInt8} {ackNum : UInt32}
    (hsent : b.sent = a.sent ++ [t.datagram flags ackNum []])
    (hflags : (flags &&& flagSyn != 0) = false ∧ (flags &&& flagFin != 0) = false)
    (hnext : b.sendWindow.sendNext = a.sendWindow.sendNext) : Plain a b := by
  have hcarried : (t.datagram flags ackNum []).packet.carried = [] := by
    simp [carried_datagram, hflags]
  refine plain_of_append hsent hflags ?_ ?_
  · simp [hcarried]
  · simp [hcarried, hnext]

/-- A send attempt takes one number for each byte that it sends. -/
theorem plain_handleTrySend (s : TcpSession) : Plain s s.handleTrySend := by
  by_cases htransmits : s.Transmits
  · have hcarried : (s.datagram flagAck s.recvWindow.recvNext s.nextPayload).packet.carried =
        s.nextPayload.map some := by
      rw [carried_datagram, if_neg (by decide)]
    have hframe := s.handleTrySend_of_transmits htransmits
    apply plain_of_append (d := s.datagram flagAck s.recvWindow.recvNext s.nextPayload)
    · rw [hframe]
    · rw [datagram_has, datagram_has]
      decide
    · intro _
      rw [datagram_seq]
    · rw [hframe, hcarried, List.length_map]
  · rw [s.handleTrySend_of_not htransmits]
    exact plain_of_eq rfl rfl

end Plain

/-! ## What a step uses numbers for -/

/-- The event makes the session answer a SYN that has crossed its own. -/
def AnswersPeerSyn (s : TcpSession) : Event → Prop
  | .input packet _ => Admitted packet ∧ s.state = .synSent ∧ packet.has flagSyn = true ∧
      packet.has flagAck = false
  | _ => False

/-- The call closes an established session, or one in CLOSE_WAIT. -/
def Closes (s : TcpSession) (e : Event) : Prop :=
  e = .close ∧ s.state = .established ∨ s.ClosesPassively e

/-- The event makes {lit}`handle_close_wait` send its FIN. -/
def FinishesDrained (s : TcpSession) : Event → Prop
  | .input packet _ => Admitted packet ∧ s.state = .closeWait ∧ s.Drained
  | _ => False

instance (s : TcpSession) : (e : Event) → Decidable (s.AnswersPeerSyn e)
  | .input .. => inferInstanceAs (Decidable (_ ∧ _))
  | .setRemoteAddr .. | .setListenerPort .. | .connect .. | .listen | .send .. | .recv ..
  | .readAll | .close | .expire .. | .expire2Msl => isFalse id

instance (s : TcpSession) : (e : Event) → Decidable (s.FinishesDrained e)
  | .input .. => inferInstanceAs (Decidable (_ ∧ _))
  | .setRemoteAddr .. | .setListenerPort .. | .connect .. | .listen | .send .. | .recv ..
  | .readAll | .close | .expire .. | .expire2Msl => isFalse id

/-- One SYN or FIN is sent with the number. -/
def Marks (syn : Bool) (n : UInt32) (a b : TcpSession) : Prop :=
  ∃ d, b.sent = a.sent ++ [d] ∧ d.packet.seq = n ∧ d.packet.payload = [] ∧
    d.packet.has flagSyn = syn ∧ d.packet.has flagFin = !syn

/-- The numbers that a step uses. -/
inductive Spending (s : TcpSession) : Event → TcpSession → Prop
  | plain {e : Event} {s' : TcpSession} (hopens : s.openingIss e = none)
      (hpeer : ¬ s.AnswersPeerSyn e) (hcloses : ¬ s.Closes e) (hfinishes : ¬ s.FinishesDrained e)
      (hplain : Plain s s') : Spending s e s'
  | opens {e : Event} {s' : TcpSession} {iss : UInt32} (hopens : s.openingIss e = some iss)
      (hmarks : Marks true iss s s') (hnext : s'.sendWindow.sendNext = iss + 1) :
      Spending s e s'
  | peerSyn {e : Event} {s' : TcpSession} (hpeer : s.AnswersPeerSyn e)
      (hmarks : Marks true s.sendWindow.sendNext s s')
      (hnext : s'.sendWindow.sendNext = s.sendWindow.sendNext + 1) : Spending s e s'
  | closes {e : Event} {m s' : TcpSession} (hcloses : s.Closes e) (hplain : Plain s m)
      (hmarks : Marks false m.sendWindow.sendNext m s')
      (hnext : s'.sendWindow.sendNext = m.sendWindow.sendNext + 1)
      (hstate : s'.state = .finWait1 ∨ s'.state = .lastAck) : Spending s e s'
  | finishes {e : Event} {m s' : TcpSession} (hfinishes : s.FinishesDrained e)
      (hplain : Plain s m) (hmarks : Marks false m.sendWindow.sendNext m s')
      (hnext : s'.sendWindow.sendNext = m.sendWindow.sendNext + 1 + 1)
      (hstate : s'.state = .lastAck) : Spending s e s'

section Spends

variable {s s' : TcpSession} {e : Event} {packet : MyuTcpPacket} {iss : UInt32}

/-- A crossing SYN is answered in SYN_SENT. -/
theorem AnswersPeerSyn.state (h : s.AnswersPeerSyn e) : s.state = .synSent := by
  cases e with
  | input packet iss => exact h.2.1
  | _ => exact h.elim

/-- {lit}`handle_close_wait` sends its FIN in CLOSE_WAIT. -/
theorem FinishesDrained.state (h : s.FinishesDrained e) : s.state = .closeWait := by
  cases e with
  | input packet iss => exact h.2.1
  | _ => exact h.elim

/-- A call closes a session that is established or in CLOSE_WAIT. -/
theorem Closes.state (h : s.Closes e) : s.state = .established ∨ s.state = .closeWait :=
  h.imp And.right ClosesPassively.state

/-- The answer to a crossing SYN opens nothing. -/
theorem AnswersPeerSyn.openingIss (h : s.AnswersPeerSyn e) : s.openingIss e = none := by
  cases e with
  | input packet iss => simp [TcpSession.openingIss, h.2.1]
  | _ => exact h.elim

/-- The FIN of {lit}`handle_close_wait` opens nothing. -/
theorem FinishesDrained.openingIss (h : s.FinishesDrained e) : s.openingIss e = none := by
  cases e with
  | input packet iss => simp [TcpSession.openingIss, h.2.1]
  | _ => exact h.elim

/-- A call that closes opens nothing. -/
theorem Closes.openingIss (h : s.Closes e) : s.openingIss e = none := by
  cases e with
  | connect iss => simp [Closes, ClosesPassively] at h
  | input packet iss => simp [Closes, ClosesPassively] at h
  | _ => rfl

/-- A call is no packet. -/
theorem Closes.not_finishes (h : s.Closes e) : ¬ s.FinishesDrained e := by
  cases e with
  | input packet iss => simp [Closes, ClosesPassively] at h
  | _ => exact id

/-- A SYN or FIN alone uses the number it is sent with. -/
theorem marks_datagram {t a b : TcpSession} {flags : UInt8} {ackNum n : UInt32} {syn : Bool}
    (hsent : b.sent = a.sent ++ [t.datagram flags ackNum []]) (hseq : t.sendWindow.sendNext = n)
    (hsyn : (flags &&& flagSyn != 0) = syn) (hfin : (flags &&& flagFin != 0) = !syn) :
    Marks syn n a b :=
  ⟨_, hsent, by rw [datagram_seq, hseq], rfl, hsyn, hfin⟩

/-- A session that a read has emptied closes, or goes on. -/
theorem spending_closeOnEof {buffer : RingQueue UInt8 1024} (hopens : s.openingIss e = none)
    (hpeer : ¬ s.AnswersPeerSyn e) (hclose : e ≠ .close) (hfinishes : ¬ s.FinishesDrained e)
    (hcall : s.ClosesPassively e ↔
      buffer.isEmpty = true ∧ s.state = .closeWait ∧ s.autoCloseOnEof = true) :
    Spending s e { s with recvBuffer := buffer }.closeOnEof := by
  have hplain : Plain s { s with recvBuffer := buffer } := plain_of_eq rfl rfl
  by_cases hcloses : s.ClosesPassively e
  · rcases hcall.mp hcloses with ⟨hempty, hstate, hauto⟩
    have hframe := closeOnEof_of_eof (s := { s with recvBuffer := buffer }) hempty hstate hauto
    rw [hframe, closeCloseWait_eq]
    exact .closes (Or.inr hcloses) hplain (marks_datagram rfl rfl rfl rfl) rfl (Or.inr rfl)
  · have hsame : { s with recvBuffer := buffer }.closeOnEof = { s with recvBuffer := buffer } := by
      rw [closeOnEof]
      split <;> rename_i hempty
      · rw [Bool.and_eq_true, decide_eq_true_eq] at hempty
        have hauto : ¬ s.autoCloseOnEof = true :=
          fun hauto => hcloses (hcall.mpr ⟨hempty.1, hempty.2, hauto⟩)
        exact if_neg hauto
      · rfl
    rw [hsame]
    refine .plain hopens hpeer ?_ hfinishes hplain
    simp [Closes, hclose, hcloses]

/-- An established session sends pure acknowledgments and data only. -/
theorem plain_handleEstablished (h : Once s)
    (hstep : (s.observe packet).handleEstablished packet = some s') : Plain s s' := by
  rw [handleEstablished] at hstep
  rcases Option.map_eq_some_iff.mp hstep with ⟨s₂, hs₂, rfl⟩
  have hack : Plain s ((s.observe packet).handleEstablishedAck packet) := by
    have hobserve : Plain s (s.observe packet) := plain_of_eq rfl rfl
    rw [handleEstablishedAck]
    split
    · rw [handleAck]
      split
      · have hprocess : Plain (s.observe packet) ((s.observe packet).processAck packet.ack) := by
          rw [processAck_of_not _ (h.not_thirdDuplicate packet).2]
          exact plain_of_eq rfl rfl
        exact ((hobserve.trans hprocess).trans (plain_handleTrySend _)).trans
          (plain_handleTrySend _)
      · exact hobserve.trans (plain_handleTrySend _)
    · exact hobserve
  have hpayload : Plain ((s.observe packet).handleEstablishedAck packet) s₂ := by
    change ((s.observe packet).handleEstablishedAck packet).handleEstablishedPayload packet =
      some s₂ at hs₂
    by_cases hnil : packet.payload = []
    · rw [handleEstablishedPayload_nil hnil, Option.some.injEq] at hs₂
      rw [hs₂]
      exact plain_of_eq rfl rfl
    · rcases handleEstablishedPayload_frame hnil hs₂ with ⟨m, q, n, t, ackNum, c, -, rfl⟩
      exact plain_of_reply rfl ⟨rfl, rfl⟩ rfl
  refine (hack.trans hpayload).trans ?_
  rw [handleEstablishedFin]
  split
  · exact plain_of_reply (t := s₂) rfl ⟨rfl, rfl⟩ rfl
  · exact plain_of_eq rfl rfl

/-- A packet that the session neither opens nor ends with. -/
theorem spending_input (hopens : s.state ≠ .listen)
    (hpeer : ¬ s.AnswersPeerSyn (.input packet iss)) (hcloseWait : s.state ≠ .closeWait)
    (hplain : Plain s s') : Spending s (.input packet iss) s' := by
  refine .plain ?_ hpeer ?_ ?_ hplain
  · simp [openingIss, hopens]
  · simp [Closes, ClosesPassively]
  · simp [FinishesDrained, hcloseWait]

/-- A packet that is refused or resets the session uses no number. -/
theorem spending_of_not_admitted (hadmitted : ¬ Admitted packet) (hplain : Plain s s') :
    Spending s (.input packet iss) s' := by
  refine .plain ?_ ?_ ?_ ?_ hplain
  · simp [openingIss, hadmitted]
  · simp [AnswersPeerSyn, hadmitted]
  · simp [Closes, ClosesPassively]
  · simp [FinishesDrained, hadmitted]

/-- The answer of a listening session uses one number, for its SYN. -/
theorem spending_handleListen (hadmitted : Admitted packet) (hstate : s.state = .listen) :
    Spending s (.input packet iss) ((s.observe packet).handleListen packet iss) := by
  by_cases hsyn : packet.has flagSyn = true
  · have hopens : s.openingIss (.input packet iss) = some iss := by
      simp [openingIss, hstate, hadmitted, hsyn]
    rw [handleListen_eq _ hsyn]
    exact .opens hopens (marks_datagram rfl rfl rfl rfl) rfl
  · rw [handleListen, if_pos (by simpa using hsyn)]
    refine .plain ?_ ?_ ?_ ?_ (plain_of_eq rfl rfl)
    · simp [openingIss, hsyn]
    · simp [AnswersPeerSyn, hsyn]
    · simp [Closes, ClosesPassively]
    · simp [FinishesDrained, hstate]

/-- In SYN_SENT only the answer to a crossing SYN uses a number. -/
theorem spending_handleSynSent (hadmitted : Admitted packet) (hstate : s.state = .synSent) :
    Spending s (.input packet iss) ((s.observe packet).handleSynSent packet) := by
  have hobserve : Plain s (s.observe packet) := plain_of_eq rfl rfl
  have hinput : ¬ s.AnswersPeerSyn (.input packet iss) → ∀ {t}, Plain s t →
      Spending s (.input packet iss) t :=
    fun hpeer _ => spending_input (by simp [hstate]) hpeer (by simp [hstate])
  rw [handleSynSent]
  split <;> rename_i hflags
  · have hpeer : ¬ s.AnswersPeerSyn (.input packet iss) := by
      rw [Bool.and_eq_true] at hflags
      simp [AnswersPeerSyn, hflags.2]
    split
    · exact hinput hpeer hobserve
    · apply hinput hpeer
      refine (hobserve.trans ?_).trans (plain_handleTrySend _)
      rw [acceptSynAck_eq]
      exact plain_of_reply (t := s.observe packet) rfl ⟨rfl, rfl⟩ rfl
  · split <;> rename_i hsyn
    · have hack : packet.has flagAck = false := by simpa [hsyn] using hflags
      rw [acceptPeerSyn_eq]
      exact .peerSyn ⟨hadmitted, hstate, hsyn, hack⟩ (marks_datagram rfl rfl rfl rfl) rfl
    · exact hinput (by simp [AnswersPeerSyn, hsyn]) hobserve

/-- In CLOSE_WAIT data and then a FIN may use numbers. -/
theorem spending_handleCloseWait (hadmitted : Admitted packet) (hstate : s.state = .closeWait) :
    Spending s (.input packet iss) ((s.observe packet).handleCloseWait packet) := by
  have hreply : Plain s
      ((s.observe packet).sendPureAck (s.observe packet).recvWindow.recvNext).handleTrySend := by
    refine .trans ?_ (plain_handleTrySend _)
    exact plain_of_reply (t := s.observe packet) rfl ⟨rfl, rfl⟩ rfl
  rw [handleCloseWait]
  by_cases hdrained : s.Drained
  · have hafter : ((s.observe packet).sendPureAck
        (s.observe packet).recvWindow.recvNext).handleTrySend.Drained :=
      (drained_handleTrySend_iff _).mpr hdrained
    rw [finishCloseWait_of_drained _ hafter]
    exact .finishes ⟨hadmitted, hstate, hdrained⟩ hreply (marks_datagram rfl rfl rfl rfl) rfl rfl
  · have hafter : ¬ ((s.observe packet).sendPureAck
        (s.observe packet).recvWindow.recvNext).handleTrySend.Drained :=
      mt (drained_handleTrySend_iff _).mp hdrained
    rw [finishCloseWait_of_not _ hafter]
    refine .plain ?_ ?_ ?_ ?_ hreply
    · simp [openingIss, hstate]
    · simp [AnswersPeerSyn, hstate]
    · simp [Closes, ClosesPassively]
    · simp [FinishesDrained, hdrained]

/-- The numbers that an admitted packet makes a session use. -/
theorem spending_dispatch (h : Once s) (hadmitted : Admitted packet)
    (hstep : (s.observe packet).dispatch packet iss = some s') :
    Spending s (.input packet iss) s' := by
  have hobserve : Plain s (s.observe packet) := plain_of_eq rfl rfl
  have hquiet : ∀ {t}, s.state ≠ .listen ∧ s.state ≠ .synSent ∧ s.state ≠ .closeWait →
      Plain (s.observe packet) t → Spending s (.input packet iss) t := by
    intro t hstate hplain
    refine spending_input hstate.1 ?_ hstate.2.2 (hobserve.trans hplain)
    simp [AnswersPeerSyn, hstate.2.1]
  rw [dispatch] at hstep
  split at hstep <;> rename_i hstate <;> replace hstate : s.state = _ := hstate
  case h_5 =>
    refine spending_input (by simp [hstate]) ?_ (by simp [hstate])
      (plain_handleEstablished h hstep)
    simp [AnswersPeerSyn, hstate]
  all_goals cases hstep
  · exact hquiet (by simp [hstate]) (plain_of_eq rfl rfl)
  · exact spending_handleListen hadmitted hstate
  · exact spending_handleSynSent hadmitted hstate
  · apply hquiet (by simp [hstate])
    rw [handleSynReceived]
    split
    · exact plain_of_eq rfl rfl
    · split
      · exact plain_of_eq rfl rfl
      · refine .trans ?_ (plain_handleTrySend _)
        exact plain_of_eq rfl rfl
  · apply hquiet (by simp [hstate])
    have hack : Plain (s.observe packet) ((s.observe packet).handleFinWait1Ack packet) := by
      rw [handleFinWait1Ack]
      split
      · exact plain_of_eq rfl rfl
      · exact plain_of_eq rfl rfl
    rw [handleFinWait1]
    split
    · exact hack.trans (plain_of_reply rfl ⟨rfl, rfl⟩ rfl)
    · exact hack
  · apply hquiet (by simp [hstate])
    rw [handleFinWait2]
    split
    · exact plain_of_reply (t := s.observe packet) rfl ⟨rfl, rfl⟩ rfl
    · exact plain_of_eq rfl rfl
  · exact spending_handleCloseWait hadmitted hstate
  · apply hquiet (by simp [hstate])
    rw [handleLastAck]
    split
    · exact plain_of_eq rfl rfl
    · split
      · exact plain_of_eq rfl rfl
      · exact plain_of_eq rfl rfl
  · apply hquiet (by simp [hstate])
    rw [handleTimedWait]
    split
    · exact plain_of_reply (t := s.observe packet) rfl ⟨rfl, rfl⟩ rfl
    · exact plain_of_eq rfl rfl

/-- The numbers that {lit}`close()` uses. -/
theorem spending_close (s : TcpSession) : Spending s .close s.close := by
  have hstay : s.state ≠ .established → s.state ≠ .closeWait → ∀ {t}, Plain s t →
      Spending s .close t := by
    intro hestablished hcloseWait t hplain
    refine .plain rfl id ?_ id hplain
    simp [Closes, ClosesPassively, hestablished, hcloseWait]
  rw [close]
  split <;> rename_i hstate
  · rw [closeEstablished_eq]
    exact .closes (Or.inl ⟨rfl, hstate⟩) (plain_handleTrySend s)
      (marks_datagram rfl rfl rfl rfl) rfl (Or.inl rfl)
  · rw [closeCloseWait_eq]
    exact .closes (Or.inr hstate) (plain_of_eq rfl rfl) (marks_datagram rfl rfl rfl rfl) rfl
      (Or.inr rfl)
  · rw [abortOpening_eq]
    exact hstay (by simp [hstate]) (by simp [hstate])
      (plain_of_reply (t := s) rfl ⟨rfl, rfl⟩ rfl)
  · rw [abortOpening_eq]
    exact hstay (by simp [hstate]) (by simp [hstate])
      (plain_of_reply (t := s) rfl ⟨rfl, rfl⟩ rfl)
  all_goals exact hstay (by simp [hstate]) (by simp [hstate]) (plain_of_eq rfl rfl)

/-- What a step uses numbers for, expiries apart. -/
theorem spends_step (h : Once s) (hexpire : ∀ k, e ≠ .expire k) (hstep : step s e = some s') :
    Spending s e s' := by
  cases e with
  | setRemoteAddr ip port =>
      cases hstep
      exact .plain rfl id (by simp [Closes, ClosesPassively]) id (plain_of_eq rfl rfl)
  | setListenerPort port =>
      cases hstep
      exact .plain rfl id (by simp [Closes, ClosesPassively]) id (plain_of_eq rfl rfl)
  | connect iss =>
      cases hstep
      rw [connect_eq]
      exact .opens rfl (marks_datagram rfl rfl rfl rfl) rfl
  | listen =>
      cases hstep
      refine .plain rfl id (by simp [Closes, ClosesPassively]) id ?_
      rw [listen]
      split
      · exact plain_of_eq rfl rfl
      · exact plain_of_eq rfl rfl
  | send data =>
      cases hstep
      refine .plain rfl id (by simp [Closes, ClosesPassively]) id ?_
      rcases send_eq s data with ⟨-, hsame⟩ | ⟨buffer, -, hframe⟩
      · rw [hsame]
        exact plain_of_eq rfl rfl
      · rw [hframe]
        refine .trans ?_ (plain_handleTrySend _)
        exact plain_of_eq rfl rfl
  | recv bufSize =>
      cases hstep
      have hempty := isEmpty_recv s bufSize
      rw [recv]
      dsimp only
      generalize (readLoop _ s.recvBuffer).2 = buffer at hempty ⊢
      refine spending_closeOnEof rfl id (by simp) id ?_
      rw [ClosesPassively, hempty]
      tauto
  | readAll =>
      cases hstep
      have hempty : (readLoop s.recvBuffer.size s.recvBuffer).2.isEmpty = true := by
        rw [isEmpty_eq_decide, size_readLoop le_rfl]
        simp
      rw [readAll]
      refine spending_closeOnEof rfl id (by simp) id ?_
      rw [ClosesPassively, hempty]
      simp
  | close =>
      cases hstep
      exact spending_close s
  | input packet iss =>
      rcases input_cases hstep with
        ⟨hadmitted, -, rfl⟩ | ⟨hverify, rfl⟩ | ⟨-, hrst, rfl⟩ | ⟨hadmitted, hdispatch⟩
      · exact spending_of_not_admitted hadmitted (plain_of_eq rfl rfl)
      · refine spending_of_not_admitted ?_ (plain_of_eq rfl rfl)
        simp [Admitted, hverify]
      · refine spending_of_not_admitted ?_ (plain_of_eq rfl rfl)
        simp [Admitted, hrst]
      · exact spending_dispatch h hadmitted hdispatch
  | expire k => exact absurd rfl (hexpire k)
  | expire2Msl =>
      rw [step] at hstep
      split at hstep
      · cases hstep
        exact .plain rfl id (by simp [Closes, ClosesPassively]) id (plain_of_eq rfl rfl)
      · contradiction

end Spends

/-! ## The packets of a step -/

section Packets

variable {s s' a b : TcpSession} {e : Event} {syn : Bool} {n : UInt32}

/-- The one datagram of such a step. -/
theorem Marks.datagram (h : Marks syn n a b) :
    ∃ d, newDatagrams a b = [d] ∧ d.packet.seq = n ∧ d.packet.payload = [] ∧
      d.packet.carried = [none] ∧ d.packet.has flagFin = !syn := by
  rcases h with ⟨d, hsent, hseq, hpayload, hsyn, hfin⟩
  refine ⟨d, newDatagrams_of_append hsent, hseq, hpayload, ?_, hfin⟩
  simp [MyuTcpPacket.carried, hsyn, hfin]

/-- Such a step only appends. -/
theorem Marks.log (h : Marks syn n a b) :
    a.sent <+: b.sent := by
  rcases h with ⟨d, hsent, -⟩
  simp [hsent]

/-- The datagram of such a step is a chain of its own. -/
theorem Marks.chained (h : Marks syn n a b) :
    Chained n (newDatagrams a b) := by
  rcases h.datagram with ⟨d, hnew, hseq, -⟩
  simp [hnew, Chained, hseq]

/-- A SYN or FIN takes one place on the wire, with no byte in it. -/
theorem Marks.newWire (h : Marks syn n a b) :
    newWire a b = [none] := by
  rcases h.datagram with ⟨d, hnew, -, -, hcarried, -⟩
  simp [TcpSession.newWire, hnew, hcarried]

/-- A mark behind packets without marks. -/
theorem Plain.chained_marks {c : TcpSession} (hplain : Plain a b)
    (hmarks : Marks syn b.sendWindow.sendNext b c) :
    Chained a.sendWindow.sendNext (newDatagrams a c) ∧
      a.sendWindow.sendNext + UInt32.ofNat (TcpSession.newWire a c).length =
        b.sendWindow.sendNext + 1 := by
  have hlog := hmarks.log
  rw [newDatagrams_trans hplain.log hlog, newWire_trans hplain.log hlog, hmarks.newWire,
    chained_append]
  refine ⟨⟨hplain.chained, ?_⟩, ?_⟩
  · have hchained := hmarks.chained
    rw [hplain.next] at hchained
    exact hchained
  · rw [List.length_append, UInt32.ofNat_add, ← UInt32.add_assoc, ← hplain.next]
    rfl

/-- The number at which the packets of a step start. -/
def firstNumber (s : TcpSession) (e : Event) : UInt32 :=
  (s.openingIss e).getD s.sendWindow.sendNext

/-- The packets of a step follow one another. -/
theorem Spending.chained (h : Spending s e s') :
    Chained (s.firstNumber e) (newDatagrams s s') := by
  rw [firstNumber]
  cases h with
  | plain hopens hpeer hcloses hfinishes hplain =>
      rw [hopens]
      exact hplain.chained
  | opens hopens hmarks hnext =>
      rw [hopens]
      exact hmarks.chained
  | peerSyn hpeer hmarks hnext =>
      rw [hpeer.openingIss]
      exact hmarks.chained
  | closes hcloses hplain hmarks hnext hstate =>
      rw [hcloses.openingIss]
      exact (hplain.chained_marks hmarks).1
  | finishes hfinishes hplain hmarks hnext hstate =>
      rw [hfinishes.openingIss]
      exact (hplain.chained_marks hmarks).1

/-- The next number follows the packets of the step, unless {lit}`handle_close_wait` has sent
its FIN. -/
theorem Spending.next (h : Spending s e s') (hfinishes : ¬ s.FinishesDrained e) :
    s'.sendWindow.sendNext = s.firstNumber e + UInt32.ofNat (newWire s s').length := by
  rw [firstNumber]
  cases h with
  | plain hopens hpeer hcloses hdrained hplain =>
      rw [hopens]
      exact hplain.next
  | opens hopens hmarks hnext =>
      rw [hopens, hmarks.newWire]
      exact hnext
  | peerSyn hpeer hmarks hnext =>
      rw [hpeer.openingIss, hmarks.newWire]
      exact hnext
  | closes hcloses hplain hmarks hnext hstate =>
      rw [hcloses.openingIss, hnext]
      exact (hplain.chained_marks hmarks).2.symm
  | finishes hdrained hplain hmarks hnext hstate => exact absurd hdrained hfinishes

end Packets

end TcpSession

end MyuTcp
