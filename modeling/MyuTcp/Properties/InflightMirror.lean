import MyuTcp.Core.Attempts

/-!
# The in-flight map

The map of in-flight packets is filled under the header field of a packet, which is in network
order, and it is searched and erased by acknowledgment numbers, which are in host order.  It is
compared with the segments that have been sent for the first time, in every established state.

Main results:

- Theorem {lit}`mirrors_iff`: after a step the map mirrors the unacknowledged segments exactly
  when no segment was sent at a number that the byte swap changes.
- Theorem {lit}`inflightPackets_mirror_iff`: so it does in every established state of a run.
- Theorem {lit}`byteInFlight_not_mirrored`: one byte in flight, stored under another number.
-/

namespace MyuTcp

open Library

namespace TcpSession

/-- What a session has sent in its connection, retransmissions apart: its initial number, how
many numbers it has used, and its payload segments. -/
structure Flight where
  iss : UInt32
  used : Nat
  firsts : List MyuTcpPacket

/-- Nothing has been sent. -/
def Flight.empty : Flight := ⟨0, 0, []⟩

/-- A step adds what it sends.  An expiry sends again what has been sent. -/
def Flight.update (s : TcpSession) (e : Event) (s' : TcpSession) (flight : Flight) : Flight :=
  match e with
  | .expire _ => flight
  | _ =>
      { iss := (s.openingIss e).getD flight.iss
        used := flight.used + (newWire s s').length
        firsts := flight.firsts ++ newSegments s s' }

/-- The in-flight map holds exactly the segments whose first byte is not acknowledged, each under
its number.  It stores them without their checksum. -/
structure Mirrors (x : TcpSession × Flight) : Prop where
  contents : ∀ k q, (x.1.inflightPackets.find? k).map calculateChecksum = some q ↔
    q ∈ x.2.firsts ∧ q.seq = k ∧ x.1.sendWindow.sendUnack ≤ k
  oldest : ∀ q ∈ x.2.firsts, q.seq = x.1.sendWindow.sendUnack →
    (x.1.inflightPackets.find? x.1.sendWindow.sendUnack).map calculateChecksum = some q
  released : ∀ k < x.1.sendWindow.sendUnack, x.1.inflightPackets.find? k = none

/-- After the step the map mirrors the unacknowledged segments, if the session is established. -/
def KeepsMirror (x : TcpSession × Flight) (e : Event) : Prop :=
  ∀ y, step.withGhost Flight.update x e = some y → y.1.state = .established → Mirrors y

/-- After the step the numbers of the connection have not wrapped around. -/
def KeepsRange (x : TcpSession × Flight) (e : Event) : Prop :=
  ∀ y, step.withGhost Flight.update x e = some y → y.2.iss.toNat + y.2.used ≤ 2 ^ 32

/-- The step stores a new segment of an established session under another number than its own. -/
def Misfiles (s : TcpSession) (e : Event) : Prop :=
  s.TransmitsData e ∧ s.state ≠ .closeWait ∧ ¬ s.LeavesEstablished e ∧
    htonl s.sendWindow.sendNext ≠ s.sendWindow.sendNext

instance (s : TcpSession) (e : Event) : Decidable (s.Misfiles e) :=
  inferInstanceAs (Decidable (_ ∧ _))

section Mirrors

variable {x : TcpSession × Flight}

/-- The contents of the map decide what a lookup finds. -/
theorem mirrors_of_contents
    (h : ∀ k q, (x.1.inflightPackets.find? k).map calculateChecksum = some q ↔
      q ∈ x.2.firsts ∧ q.seq = k ∧ x.1.sendWindow.sendUnack ≤ k) : Mirrors x where
  contents := h
  oldest q hq hseq := (h _ q).mpr ⟨hq, hseq, le_rfl⟩
  released k hk := by
    cases hfind : x.1.inflightPackets.find? k with
    | none => rfl
    | some p =>
        have hstored := (h k (calculateChecksum p)).mp (by rw [hfind, Option.map_some])
        exact absurd hk (not_lt_of_ge hstored.2.2)

/-- A map that holds nothing, as long as no segment has been sent. -/
theorem mirrors_of_nil (hfirsts : x.2.firsts = [])
    (hfind : ∀ k, x.1.inflightPackets.find? k = none) : Mirrors x := by
  apply mirrors_of_contents
  intro k q
  simp [hfirsts, hfind]

end Mirrors

/-! ## One step -/

/-- A session that has not opened a second connection, and what it has sent. -/
structure Mirrored (x : TcpSession × Flight) : Prop where
  once : Once x.1
  stored : NothingStored x.1
  unsent : x.1.sent = [] → x.2.used = 0
  held : ∀ k p, x.1.inflightPackets.find? k = some p → calculateChecksum p ∈ x.2.firsts
  quiet : x.1.sent = [] ∨ ¬ Past x.1 → x.2.firsts = []
  begun : x.1.state = .synSent ∨ x.1.state = .synReceived →
    x.1.sendWindow.sendUnack = x.2.iss ∧ 0 < x.2.used
  next : (x.1.state = .synSent ∨ x.1.state = .synReceived) ∨ x.1.state = .established →
    x.1.sendWindow.sendNext = x.2.iss + UInt32.ofNat x.2.used
  acked : x.1.state = .established →
    x.1.sendWindow.sendUnack.toNat ≤ x.2.iss.toNat + x.2.used
  ordered : ∀ q ∈ x.2.firsts, x.1.state = .established → q.seq.toNat < x.2.iss.toNat + x.2.used
  mirrors : x.1.state = .established → Mirrors x

section Step

variable {s s' m a b : TcpSession} {e : Event} {x y : TcpSession × Flight} {f g : Flight}

/-- A step other than an expiry takes the new segments into the record. -/
theorem Flight.update_of_ne (hexpire : ∀ k, e ≠ .expire k) (flight : Flight) :
    Flight.update s e s' flight =
      { iss := (s.openingIss e).getD flight.iss
        used := flight.used + (newWire s s').length
        firsts := flight.firsts ++ newSegments s s' } := by
  cases e with
  | expire k => exact absurd rfl (hexpire k)
  | _ => rfl

/-- The record and the map alone decide. -/
theorem Mirrors.congr (h : Mirrors (a, f)) (hsame : SameFlight a b)
    (hfirsts : g.firsts = f.firsts) : Mirrors (b, g) := by
  apply mirrors_of_contents
  dsimp only
  rw [hsame.1, hsame.2, hfirsts]
  exact h.contents

/-- A new segment is mirrored exactly when the byte swap keeps its number. -/
theorem Mirrors.send_iff (h : Mirrors (m, f)) (htransmits : m.Transmits)
    (hunack : m.sendWindow.sendUnack ≤ m.sendWindow.sendNext)
    (hnew : ∀ q ∈ f.firsts, q.seq ≠ m.sendWindow.sendNext)
    (hfirsts : g.firsts = f.firsts ++ [m.nextSegment]) :
    Mirrors (m.handleTrySend, g) ↔ htonl m.sendWindow.sendNext = m.sendWindow.sendNext := by
  have hfree : m.inflightPackets.find? m.sendWindow.sendNext = none := by
    cases hfind : m.inflightPackets.find? m.sendWindow.sendNext with
    | none => rfl
    | some p =>
        have hstored := (h.contents _ _).mp (congrArg (Option.map calculateChecksum) hfind)
        exact absurd hstored.2.1 (hnew _ hstored.1)
  have hmap : ∀ k, m.handleTrySend.inflightPackets.find? k =
      if k = htonl m.sendWindow.sendNext then
        some ((m.inflightPackets.find? (htonl m.sendWindow.sendNext)).getD
          (m.segment flagAck m.recvWindow.recvNext m.nextPayload))
      else m.inflightPackets.find? k := by
    intro k
    rw [m.handleTrySend_of_transmits htransmits]
    exact OrderedMap.find?_tryEmplace ..
  constructor
  · intro hmirrors
    by_contra hswap
    have hfound := (hmirrors.contents m.sendWindow.sendNext m.nextSegment).mpr
      ⟨by simp [hfirsts], m.nextSegment_seq, by rw [handleTrySend_sendUnack]; exact hunack⟩
    dsimp only at hfound
    rw [hmap, if_neg (Ne.symm hswap), hfree] at hfound
    contradiction
  · intro hswap
    apply mirrors_of_contents
    intro k q
    dsimp only
    rw [hmap, hswap, hfree, hfirsts, handleTrySend_sendUnack, List.mem_append, List.mem_singleton]
    split <;> rename_i hkey
    · subst hkey
      constructor
      · intro hfound
        have hq : m.nextSegment = q := Option.some.inj hfound
        exact ⟨Or.inr hq.symm, hq ▸ m.nextSegment_seq, hunack⟩
      · rintro ⟨hq | rfl, hseq, -⟩
        · exact absurd hseq (hnew q hq)
        · rfl
    · rw [h.contents k q]
      constructor
      · rintro ⟨hq, hseq, hk⟩
        exact ⟨Or.inl hq, hseq, hk⟩
      · rintro ⟨hq | rfl, hseq, hk⟩
        · exact ⟨hq, hseq, hk⟩
        · exact absurd (hseq.symm.trans m.nextSegment_seq) hkey

/-- Nothing is in the map as long as no segment has been sent. -/
theorem Mirrored.find?_of_nil (hx : Mirrored x) (hfirsts : x.2.firsts = []) (k : UInt32) :
    x.1.inflightPackets.find? k = none := by
  cases hfind : x.1.inflightPackets.find? k with
  | none => rfl
  | some p =>
      have hheld := hx.held k p hfind
      rw [hfirsts] at hheld
      contradiction

/-- Before the connection is established no data have been sent. -/
theorem Mirrored.firsts_of_opening (hx : Mirrored x)
    (hstate : x.1.state = .synSent ∨ x.1.state = .synReceived) : x.2.firsts = [] := by
  apply hx.quiet
  refine Or.inr fun hpast => ?_
  exact hstate.elim hpast.synSent hpast.synReceived

/-- Before its first attempt the session mirrors what it has sent before the step. -/
theorem Prepares.mirrors (h : Prepares x.1 m) (hx : Mirrored x) : Mirrors (m, x.2) := by
  cases h with
  | kept hstate hunack hmap => exact (hx.mirrors hstate).congr ⟨hmap, hunack⟩ rfl
  | acked hstate hlow hhigh hmap =>
      have hbefore := (hx.mirrors hstate).contents
      apply mirrors_of_contents
      intro k q
      dsimp only
      rw [hmap, OrderedMap.find?_dropBelow]
      split <;> rename_i hk
      · constructor
        · simp
        · rintro ⟨-, -, hle⟩
          exact absurd hk (not_lt_of_ge hle)
      · rw [hbefore k q]
        have hle := le_of_not_gt hk
        have hle' := hlow.le.trans hle
        simp [hle, hle']
  | opened hstate hunack hmap =>
      have hfirsts := hx.firsts_of_opening hstate
      apply mirrors_of_nil (x := (m, x.2)) hfirsts
      intro k
      dsimp only
      rw [hmap]
      exact hx.find?_of_nil hfirsts k

/-- The numbers of the prepared session lie within those used so far. -/
theorem Prepares.bounds (h : Prepares x.1 m) (hx : Mirrored x) :
    x.1.sendWindow.sendNext = x.2.iss + UInt32.ofNat x.2.used ∧
      m.sendWindow.sendUnack.toNat ≤ x.2.iss.toNat + x.2.used ∧
      ∀ q ∈ x.2.firsts, q.seq.toNat < x.2.iss.toNat + x.2.used := by
  cases h with
  | kept hstate hunack hmap =>
      rw [hunack]
      exact ⟨hx.next (Or.inr hstate), hx.acked hstate, fun q hq => hx.ordered q hq hstate⟩
  | acked hstate hlow hhigh hmap =>
      have hnext := hx.next (Or.inr hstate)
      refine ⟨hnext, ?_, fun q hq => hx.ordered q hq hstate⟩
      rw [hnext, UInt32.le_iff_toNat_le, UInt32.toNat_add, UInt32.toNat_ofNat'] at hhigh
      omega
  | opened hstate hunack hmap =>
      have hbegun := hx.begun hstate
      refine ⟨hx.next (Or.inl hstate), ?_, by simp [hx.firsts_of_opening hstate]⟩
      have hone : (1 : UInt32).toNat = 1 := rfl
      rw [hunack, hbegun.1, UInt32.toNat_add, hone]
      have hpos := hbegun.2
      omega

/-- The attempts of a step that ends established. -/
theorem Mirrored.attempts (hx : Mirrored x) (hexpire : ∀ k, e ≠ .expire k)
    (hstep : step x.1 e = some s') (hafter : s'.state = .established) :
    ∃ m, Prepares x.1 m ∧ m.sendWindow.sendNext = x.1.sendWindow.sendNext ∧
      Attempts x.1 e s' m := by
  by_cases hbefore : x.1.state = .established
  · exact attempts_of_established hx.once hx.stored hbefore hafter hexpire hstep
  · exact attempts_of_establishes hbefore hafter hstep

/-- After a step the map mirrors the unacknowledged segments exactly when no segment was sent at a
number that the byte swap changes. -/
theorem mirrors_iff (hx : Mirrored x) (hok : x.1.OneConnection e) (hexpire : ∀ k, e ≠ .expire k)
    (hrange : KeepsRange x e) (hstep : step x.1 e = some s') (hafter : s'.state = .established) :
    Mirrors (s', Flight.update x.1 e s' x.2) ↔
      ¬ (x.1.TransmitsData e ∧ htonl x.1.sendWindow.sendNext ≠ x.1.sendWindow.sendNext) := by
  rcases hx.attempts hexpire hstep hafter with ⟨m, hprepares, hnext, hattempts⟩
  have hmirrors := hprepares.mirrors hx
  rcases hprepares.bounds hx with ⟨hnumber, hunack, hordered⟩
  have hfits := hrange (s', Flight.update x.1 e s' x.2)
    (StepFn.withGhost_eq_some.mpr ⟨hstep, rfl⟩)
  rw [Flight.update_of_ne hexpire] at hfits ⊢
  rw [openingIss_of_established hx.once hok hstep hafter] at hfits ⊢
  dsimp only [Option.getD_none] at hfits
  rcases hattempts.segments hx.once hexpire hstep with
    ⟨hquiet, hnone, hsame⟩ | ⟨htransmits, hdata, hsegment, hsame⟩
  · refine iff_of_true (hmirrors.congr hsame ?_) fun h => hquiet h.1
    rw [hnone, List.append_nil]
  · have hpos := length_newWire_pos (q := m.nextSegment) (s := x.1) (by rw [hsegment]; simp)
    have htoNat : m.sendWindow.sendNext.toNat = x.2.iss.toNat + x.2.used := by
      rw [hnext, hnumber, UInt32.toNat_add, UInt32.toNat_ofNat']
      omega
    have hfresh : ∀ q ∈ x.2.firsts, q.seq ≠ m.sendWindow.sendNext := by
      intro q hq hseq
      have hlt := hordered q hq
      rw [hseq, htoNat] at hlt
      omega
    have hle : m.sendWindow.sendUnack ≤ m.sendWindow.sendNext := by
      rw [UInt32.le_iff_toNat_le, htoNat]
      exact hunack
    have hsend := hmirrors.send_iff (g := ⟨x.2.iss, x.2.used, x.2.firsts ++ [m.nextSegment]⟩)
      htransmits hle hfresh rfl
    rw [← hnext, hsegment]
    constructor
    · rintro hafter ⟨-, hswap⟩
      exact hswap (hsend.mp (hafter.congr ⟨hsame.1.symm, hsame.2.symm⟩ rfl))
    · intro hkept
      have hswap : htonl m.sendWindow.sendNext = m.sendWindow.sendNext := by
        by_contra hswap
        exact hkept ⟨hdata, hswap⟩
      exact (hsend.mpr hswap).congr hsame rfl

/-- An expiry sends nothing new and leaves the map as it is. -/
theorem Mirrored.expire {k : UInt32} (hx : Mirrored x) (hstep : step x.1 (.expire k) = some s') :
    Mirrored (s', x.2) := by
  rcases expire_frame hstep with ⟨hstate, hunack, hnext, -⟩
  have hmap : s'.inflightPackets = x.1.inflightPackets := by
    rcases expire_eq_some_iff.mp hstep with ⟨t, -, rfl⟩
    by_cases hlimit : t.callback.retransmitCount + 1 ≥ maxRetransmitCount
    · rw [runClosure_of_limit _ hlimit]
    · rw [runClosure_of_lt _ hlimit]
  have hsent : x.1.sent ≠ [] := by
    intro hnil
    rcases expire_eq_some_iff.mp hstep with ⟨t, hactive, -⟩
    simp [hx.once.unarmed hnil k] at hactive
  have hsent' : s'.sent ≠ [] :=
    fun hnil => hsent (List.prefix_nil.mp (hnil ▸ sent_prefix_step hstep))
  have hpast : Past x.1 → Past s' := by
    intro hbefore
    exact ⟨hstate ▸ hbefore.listen, hstate ▸ hbefore.synSent, hstate ▸ hbefore.synReceived⟩
  constructor
  · exact once_step (e := .expire k) hx.once trivial hstep
  · exact nothingStored_step (e := .expire k) hx.stored hstep
  · exact fun hnil => absurd hnil hsent'
  · dsimp only
    rw [hmap]
    exact hx.held
  · intro hquiet
    exact hx.quiet (Or.inr (mt hpast (hquiet.resolve_left hsent')))
  · dsimp only
    rw [hstate, hunack]
    exact hx.begun
  · dsimp only
    rw [hstate, hnext]
    exact hx.next
  · dsimp only
    rw [hstate, hunack]
    exact hx.acked
  · dsimp only
    rw [hstate]
    exact hx.ordered
  · dsimp only
    rw [hstate]
    exact fun hestablished => (hx.mirrors hestablished).congr ⟨hmap, hunack⟩ rfl

/-- A session that still waits to be established has sent no segment. -/
theorem Mirrored.quiet_step (hx : Mirrored x) (hok : x.1.OneConnection e)
    (hexpire : ∀ k, e ≠ .expire k) (hstep : step x.1 e = some s')
    (hquiet : s'.sent = [] ∨ ¬ Past s') : x.2.firsts ++ newSegments x.1 s' = [] := by
  have hlog := sent_prefix_step hstep
  have hbefore : x.1.sent = [] ∨ ¬ Past x.1 := by
    rcases hquiet with hnil | hpast
    · exact Or.inl (List.prefix_nil.mp (hnil ▸ hlog))
    · by_cases hsent : x.1.sent = []
      · exact Or.inl hsent
      · exact Or.inr fun h => hpast (past_of_sent h hsent hok hstep)
  have hopening : x.1.NotEstablished := by
    rcases hbefore with hnil | hpast
    · exact hx.once.notEstablished hnil
    · by_contra hne
      refine hpast ⟨?_, ?_, ?_⟩ <;> intro hstate <;> exact hne (by simp [NotEstablished, hstate])
  have hsilent : ¬ x.1.TransmitsData e := by
    intro htransmits
    have hleaves : ¬ x.1.LeavesEstablished e := by
      intro h
      cases e with
      | close => exact hopening.not_open.1 h
      | input packet iss => exact hopening.not_open.1 h.2.1
      | _ => exact h
    rcases htransmits.establishes hx.stored hopening.not_open.2 hleaves with ⟨t, ht, hafter⟩
    rw [hstep, Option.some.injEq] at ht
    subst ht
    rcases hquiet with hnil | hpast
    · exact (once_step hx.once hok hstep).opened (by simp [hafter]) (by simp [hafter]) hnil
    · exact hpast (past_of_established hafter)
  rw [hx.quiet hbefore, List.nil_append, newSegments_step hx.once hexpire hstep,
    List.flatMap_eq_nil_iff]
  intro c hc
  rw [newSegments_handleTrySend, if_neg fun h => hsilent ⟨c, hc, h⟩]

/-- The next number, as long as the session has not sent a FIN. -/
theorem Mirrored.next_step (hx : Mirrored x) (hok : x.1.OneConnection e)
    (hexpire : ∀ k, e ≠ .expire k) (hstep : step x.1 e = some s')
    (hopen : (s'.state = .synSent ∨ s'.state = .synReceived) ∨ s'.state = .established) :
    s'.sendWindow.sendNext =
      (x.1.openingIss e).getD x.2.iss + UInt32.ofNat (x.2.used + (newWire x.1 s').length) := by
  have hspends := spends_step hx.once hexpire hstep
  have hfinishes : ¬ x.1.FinishesDrained e := by
    intro h
    cases hspends with
    | finishes hfinishes hplain hmarks hnext hstate => simp [hstate] at hopen
    | plain hopens hpeer hcloses hfinishes hplain => exact hfinishes h
    | opens hopens hmarks hnext => simp [h.openingIss] at hopens
    | peerSyn hpeer hmarks hnext =>
        have hstate := h.state
        simp [hpeer.state] at hstate
    | closes hcloses hplain hmarks hnext hstate => exact hcloses.not_finishes h
  rw [hspends.next hfinishes, firstNumber, UInt32.ofNat_add, ← UInt32.add_assoc]
  cases hopens : x.1.openingIss e with
  | some iss =>
      simp [hx.unsent (hx.once.unsent_of_openingIss hok hopens)]
  | none =>
      have hbefore : (x.1.state = .synSent ∨ x.1.state = .synReceived) ∨
          x.1.state = .established := by
        rcases hopen with hopening | hafter
        · exact Or.inl (sendUnack_of_opening hx.once hok hopens hexpire hstep hopening).1
        · rcases hx.attempts hexpire hstep hafter with ⟨m, hprepares, -⟩
          cases hprepares with
          | kept hstate => exact Or.inr hstate
          | acked hstate => exact Or.inr hstate
          | opened hstate => exact Or.inl hstate
      rw [Option.getD_none, Option.getD_none, hx.next hbefore]

/-- A session that waits for the answer to its SYN waits for its initial number. -/
theorem Mirrored.begun_step (hx : Mirrored x) (hok : x.1.OneConnection e)
    (hexpire : ∀ k, e ≠ .expire k) (hstep : step x.1 e = some s')
    (hopening : s'.state = .synSent ∨ s'.state = .synReceived) :
    s'.sendWindow.sendUnack = (x.1.openingIss e).getD x.2.iss ∧
      0 < x.2.used + (newWire x.1 s').length := by
  cases hopens : x.1.openingIss e with
  | some iss =>
      refine ⟨sendUnack_of_openingIss hopens hstep, ?_⟩
      cases spends_step hx.once hexpire hstep with
      | opens hopens' hmarks hnext =>
          rw [hmarks.newWire]
          exact Nat.succ_pos _
      | plain hopens' hpeer hcloses hfinishes hplain => simp [hopens] at hopens'
      | peerSyn hpeer hmarks hnext => simp [hpeer.openingIss] at hopens
      | closes hcloses hplain hmarks hnext hstate => simp [hcloses.openingIss] at hopens
      | finishes hfinishes hplain hmarks hnext hstate => simp [hfinishes.openingIss] at hopens
  | none =>
      rcases sendUnack_of_opening hx.once hok hopens hexpire hstep hopening with ⟨hbefore, hunack⟩
      rcases hx.begun hbefore with ⟨hiss, hpos⟩
      exact ⟨hunack.trans hiss, by omega⟩

/-- The numbers of an established session lie within those used so far. -/
theorem Mirrored.bounds_step (hx : Mirrored x) (hexpire : ∀ k, e ≠ .expire k)
    (hstep : step x.1 e = some s') (hafter : s'.state = .established) :
    s'.sendWindow.sendUnack.toNat ≤ x.2.iss.toNat + (x.2.used + (newWire x.1 s').length) ∧
      ∀ q ∈ x.2.firsts ++ newSegments x.1 s',
        q.seq.toNat < x.2.iss.toNat + (x.2.used + (newWire x.1 s').length) := by
  rcases hx.attempts hexpire hstep hafter with ⟨m, hprepares, hnext, hattempts⟩
  rcases hprepares.bounds hx with ⟨hnumber, hunack, hordered⟩
  have hold : ∀ q ∈ x.2.firsts,
      q.seq.toNat < x.2.iss.toNat + (x.2.used + (newWire x.1 s').length) := by
    intro q hq
    have hlt := hordered q hq
    omega
  rcases hattempts.segments hx.once hexpire hstep with
    ⟨-, hnone, hsame⟩ | ⟨-, -, hsegment, hsame⟩
  · rw [hsame.2, hnone, List.append_nil]
    exact ⟨by omega, hold⟩
  · have hpos := length_newWire_pos (q := m.nextSegment) (s := x.1) (by rw [hsegment]; simp)
    rw [hsame.2, handleTrySend_sendUnack, hsegment, List.forall_mem_append,
      List.forall_mem_singleton]
    refine ⟨by omega, hold, ?_⟩
    rw [nextSegment_seq, hnext, hnumber, UInt32.toNat_add, UInt32.toNat_ofNat']
    omega

/-- A step that files its segment under its number keeps the mirror. -/
theorem mirrored_step (hx : Mirrored x) (hok : x.1.OneConnection e) (hrange : KeepsRange x e)
    (hfiles : ¬ x.1.Misfiles e) (hstep : step.withGhost Flight.update x e = some y) :
    Mirrored y := by
  rcases StepFn.withGhost_eq_some.mp hstep with ⟨hs, hflight⟩
  rcases y with ⟨s', flight⟩
  dsimp only at hs hflight
  subst hflight
  by_cases hexpire : ∃ k, e = .expire k
  · rcases hexpire with ⟨k, rfl⟩
    exact hx.expire hs
  rw [not_exists] at hexpire
  have hmirrors : s'.state = .established → Mirrors (s', Flight.update x.1 e s' x.2) := by
    intro hafter
    rcases not_leaves_of_established hs hafter with ⟨hcloseWait, hleaves⟩
    rw [mirrors_iff hx hok hexpire hrange hs hafter]
    rintro ⟨hdata, hswap⟩
    exact hfiles ⟨hdata, hcloseWait, hleaves, hswap⟩
  have hiss : s'.state = .established → (x.1.openingIss e).getD x.2.iss = x.2.iss := by
    intro hafter
    rw [openingIss_of_established hx.once hok hs hafter, Option.getD_none]
  rw [Flight.update_of_ne hexpire] at hmirrors ⊢
  constructor
  · exact once_step hx.once hok hs
  · exact nothingStored_step hx.stored hs
  · intro hnil
    have hbefore : x.1.sent = [] := List.prefix_nil.mp (hnil ▸ sent_prefix_step hs)
    dsimp only at hnil ⊢
    rw [hx.unsent hbefore, newWire, newDatagrams, hnil, List.drop_nil]
    rfl
  · intro k p hfind
    dsimp only at hfind ⊢
    rw [List.mem_append]
    exact (find?_step hx.once hs hfind).imp (hx.held k p) id
  · exact hx.quiet_step hok hexpire hs
  · exact hx.begun_step hok hexpire hs
  · exact hx.next_step hok hexpire hs
  · intro hafter
    dsimp only at hafter ⊢
    rw [hiss hafter]
    exact (hx.bounds_step hexpire hs hafter).1
  · intro q hq hafter
    dsimp only at hq hafter ⊢
    rw [hiss hafter]
    exact (hx.bounds_step hexpire hs hafter).2 q hq
  · exact hmirrors

/-- A step keeps the mirror exactly when it does not file a segment under another number. -/
theorem keepsMirror_iff (hx : Mirrored x) (hok : x.1.OneConnection e) (hrange : KeepsRange x e) :
    KeepsMirror x e ↔ ¬ x.1.Misfiles e := by
  constructor
  · rintro hkeeps ⟨hdata, hcloseWait, hleaves, hswap⟩
    rcases hdata.establishes hx.stored hcloseWait hleaves with ⟨s', hs, hafter⟩
    have hexpire : ∀ k, e ≠ .expire k := by
      rintro k rfl
      rcases hdata with ⟨c, hc, -⟩
      contradiction
    have hmirrors := hkeeps (s', Flight.update x.1 e s' x.2)
      (StepFn.withGhost_eq_some.mpr ⟨hs, rfl⟩) hafter
    exact (mirrors_iff hx hok hexpire hrange hs hafter).mp hmirrors ⟨hdata, hswap⟩
  · intro hfiles y hy
    exact (mirrored_step hx hok hrange hfiles hy).mirrors

end Step

/-! ## Runs of one connection -/

/-- A new session has nothing in flight. -/
theorem mirrored_start {s : TcpSession} (h : Created s) : Mirrored (s, .empty) := by
  have hpast : s.state ≠ .established ∧ s.state ≠ .synSent ∧ s.state ≠ .synReceived := by
    simp [h.state]
  constructor
  · exact h.once
  · cases h
    exact nothingStored_createSession ..
  · exact fun _ => rfl
  · intro k p hfind
    cases h
    contradiction
  · exact fun _ => rfl
  · rintro (hstate | hstate)
    · exact absurd hstate hpast.2.1
    · exact absurd hstate hpast.2.2
  · rintro ((hstate | hstate) | hstate)
    · exact absurd hstate hpast.2.1
    · exact absurd hstate hpast.2.2
    · exact absurd hstate hpast.1
  · exact fun hstate => absurd hstate hpast.1
  · exact fun _ _ hstate => absurd hstate hpast.1
  · exact fun hstate => absurd hstate hpast.1

/-- In every established state of a run with one connection whose numbers do not wrap around, the
in-flight map holds exactly the segments whose first byte is not acknowledged, each under its
number, as long as every segment is sent at a number that the byte swap keeps, and only then. -/
theorem inflightPackets_mirror_iff {s : TcpSession} (hcreated : Created s) {es : List Event}
    (hone : step.AllSteps OneConnection s es)
    (hrange : (step.withGhost Flight.update).AllSteps KeepsRange (s, .empty) es) :
    (step.withGhost Flight.update).AllSteps KeepsMirror (s, .empty) es ↔
      step.AllSteps (fun s e => ¬ s.Misfiles e) s es := by
  have hone' : (step.withGhost Flight.update).AllSteps (fun x e => x.1.OneConnection e)
      (s, .empty) es := StepFn.allSteps_withGhost.mpr hone
  have hfiles : (step.withGhost Flight.update).AllSteps (fun x e => ¬ x.1.Misfiles e)
      (s, .empty) es ↔ step.AllSteps (fun s e => ¬ s.Misfiles e) s es :=
    @StepFn.allSteps_withGhost _ _ _ step Flight.update (fun s e => ¬ s.Misfiles e) s .empty es
  rw [← hfiles]
  apply (hone'.and hrange).iff_of_invariant (P := Mirrored)
  · exact fun _ _ hx hok => keepsMirror_iff hx hok.1 hok.2
  · exact fun _ _ _ hx hok hmisfiles hstep => mirrored_step hx hok.1 hok.2 hmisfiles hstep
  · exact mirrored_start hcreated

/-- A byte is sent at a number that reads the same from both ends. -/
def palindromicRun : List Event :=
  [.connect 0x01010100, .input (peerPacket (flagSyn ||| flagAck) 100 0x01010101 1024 []) 0,
    .send [7]]

/-- An executable form of {lit}`KeepsRange`. -/
def keepsRange (x : TcpSession × Flight) (e : Event) : Bool :=
  (step.withGhost Flight.update x e).all fun y => y.2.iss.toNat + y.2.used ≤ 2 ^ 32

/-- The test decides the condition. -/
theorem keepsRange_sound (x : TcpSession × Flight) (e : Event) (h : keepsRange x e = true) :
    KeepsRange x e := by
  intro y hy
  rw [keepsRange, hy] at h
  exact of_decide_eq_true h

theorem inflightPackets_mirror_palindromic :
    (step.withGhost Flight.update).AllSteps KeepsMirror (clientSession, .empty) palindromicRun := by
  refine (inflightPackets_mirror_iff (.mk 0 0 7000 7000 "10.0.0.2" 8000) ?_ ?_).mpr ?_
  · apply StepFn.allSteps_of_check (fun s e h => of_decide_eq_true h)
    decide +kernel
  · apply StepFn.allSteps_of_check keepsRange_sound
    decide +kernel
  · apply StepFn.allSteps_of_check (fun s e h => of_decide_eq_true h)
    decide +kernel

/-- The byte at number 1 is in flight.  It is stored under another number, and nothing is found
under its own. -/
theorem byteInFlight_not_mirrored :
    ∃ x, (step.withGhost Flight.update).run (clientSession, .empty) byteInFlightRun = some x ∧
      step.AllSteps OneConnection clientSession byteInFlightRun ∧
      (step.withGhost Flight.update).AllSteps KeepsRange (clientSession, .empty) byteInFlightRun ∧
      x.1.state = .established ∧ x.1.sendWindow.sendUnack = 1 ∧
      x.2.firsts.map (fun q => (q.seq, q.payload)) = [(1, [7])] ∧
      x.1.inflightPackets.find? 1 = none ∧
      (x.1.inflightPackets.find? 0x01000000).isSome = true ∧ ¬ Mirrors x := by
  have hrun : (((step.withGhost Flight.update).run (clientSession, .empty) byteInFlightRun).any
      fun x => x.1.state = .established && x.1.sendWindow.sendUnack = 1 &&
        x.2.firsts.map (fun q => (q.seq, q.payload)) = [(1, [7])] &&
        (x.1.inflightPackets.find? 1).isNone &&
        (x.1.inflightPackets.find? 0x01000000).isSome) = true := by
    decide +kernel
  rcases (Option.any_eq_true _ _).mp hrun with ⟨x, hx, hafter⟩
  simp only [Bool.and_eq_true, decide_eq_true_eq, Option.isNone_iff_eq_none] at hafter
  rcases hafter with ⟨⟨⟨⟨hstate, hunack⟩, hfirsts⟩, hfind⟩, hstored⟩
  refine ⟨x, hx, ?_, ?_, hstate, hunack, hfirsts, hfind, hstored, ?_⟩
  · apply StepFn.allSteps_of_check (fun s e h => of_decide_eq_true h)
    decide +kernel
  · apply StepFn.allSteps_of_check keepsRange_sound
    decide +kernel
  · intro hmirrors
    rcases List.map_eq_cons_iff.mp hfirsts with ⟨q, rest, hlist, hq, -⟩
    have hseq : q.seq = 1 := congrArg Prod.fst hq
    have hfound := hmirrors.oldest q (by rw [hlist]; simp) (by rw [hseq, hunack])
    rw [hunack, hfind] at hfound
    contradiction

end TcpSession

end MyuTcp
