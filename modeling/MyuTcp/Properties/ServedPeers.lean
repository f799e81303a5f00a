import MyuTcp.Core.Hosts
import MyuTcp.Properties.SessionIsolation

/-!
# A stack that serves many peers

A listening stack opens a session for the SYN of each peer, and never connects one.  The session
of an address stays in view after it has left the stack, and an address gets no second one.

Main results:

- Theorem {lit}`serving_step`: a step of the stack is an event of the session of one address, or it
  leaves all sessions alone and sends nothing but a reset.
-/

namespace MyuTcp

open Library

namespace TcpStack

/-- The stack serves the sessions of all addresses.  Those that it has not opened are as they are
before their SYN. -/
structure Serving (seeds : Address → SessionSeeds) (opened : List Address) (st : TcpStack)
    (sessions : Address → TcpSession) : Prop where
  callback : ∀ id, st.onReceive ≠ .session id
  entries : ∀ k entry, st.tcpSessions.find? k = some entry → entry.session = sessions k
  unopened : ∀ k, k ∉ opened →
    st.tcpSessions.find? k = none ∧ sessions k = firstSession k (seeds k) .b
  sent : ∀ d ∈ st.sent, (∃ k, d ∈ (sessions k).sent) ∨ d.packet = resetPacket
  optionless : ∀ k, (sessions k).Optionless
  keyed : ∀ k, (sessions k).Keyed

/-- A server opens a session for a SYN only, once for each address, and connects none. -/
def ServesOnce (seeds : Address → SessionSeeds) (opened : List Address) (st : TcpStack) :
    StackEvent → Prop
  | .createSession .. => False
  | .session _ (.connect _) => False
  | .datagram k bytes drawn _ => st.Opens k bytes → drawn = seeds k ∧ k ∉ opened
  | _ => True

instance (seeds : Address → SessionSeeds) (opened : List Address) (st : TcpStack) :
    (ev : StackEvent) → Decidable (st.ServesOnce seeds opened ev)
  | .createSession .. | .session _ (.connect _) => isFalse id
  | .datagram .. => inferInstanceAs (Decidable (_ → _))
  | .session _ (.setRemoteAddr ..) | .session _ (.setListenerPort ..) | .session _ .listen
  | .session _ (.send ..) | .session _ (.recv ..) | .session _ .readAll | .session _ .close
  | .session _ (.input ..) | .session _ (.expire ..) | .session _ .expire2Msl | .listen
  | .takeReadyQueue | .dispatchNext => isTrue trivial

/-- The addresses for which the stack has opened a session, after an event. -/
def recordOpened (st : TcpStack) (ev : StackEvent) (opened : List Address) : List Address :=
  match ev with
  | .datagram k bytes _ _ => if st.Opens k bytes then opened ++ [k] else opened
  | _ => opened

section Serving

variable {seeds : Address → SessionSeeds} {opened : List Address} {st st' : TcpStack}
  {sessions : Address → TcpSession} {k : Address} {e : Event} {ev : StackEvent}

/-- An event is one of a single address. -/
theorem Concerning.unique {j : Address} (hk : Concerning k ev) (hj : Concerning j ev) : k = j := by
  cases ev with
  | createSession i drawn => exact hk.symm.trans hj
  | session i e => exact hk.symm.trans hj
  | datagram i bytes drawn iss => exact hk.symm.trans hj
  | _ => exact hk.elim

/-- The sessions after an event of one of them. -/
theorem Serving.stepSession (h : Serving seeds opened st sessions)
    (hconnect : ∀ iss, e ≠ .connect iss) (hstep : st.stepSession k e = some st') :
    ∃ s', (∃ entry, st.tcpSessions.find? k = some entry ∧ entry.session = sessions k) ∧
      TcpSession.step (sessions k) e = some s' ∧
      st'.sent = st.sent ++ TcpSession.newDatagrams (sessions k) s' ∧
      Serving seeds opened st' (Function.update sessions k s') := by
  have hothers := fun j hj => find?_stepSession_of_ne (j := j) hstep hj
  have hcallback := onReceive_stepSession hconnect hstep
  rcases stepSession_eq_some_iff.mp hstep with ⟨entry, s', hfind, hs', rfl⟩
  have hsame := h.entries k entry hfind
  rw [hsame] at hs'
  have hlog := TcpSession.sent_eq_append (TcpSession.sent_prefix_step hs')
  have hsent := sent_commit k entry s' st
  rw [hsame] at hsent
  refine ⟨s', ⟨entry, hfind, hsame⟩, hs', hsent, ?_⟩
  constructor
  · rw [hcallback]
    exact h.callback
  · rw [Function.forall_update_iff sessions fun j s =>
      ∀ entry', (st.commit k entry s').tcpSessions.find? j = some entry' → entry'.session = s]
    refine ⟨fun entry' hfind' => ?_, fun j hj entry' hfind' => ?_⟩
    · have hcommit := find?_commit k entry s' st
      split at hcommit
      · rw [hcommit] at hfind'
        contradiction
      · rcases hcommit with ⟨ready, hready⟩
        rw [hready, Option.some.injEq] at hfind'
        rw [← hfind']
    · rw [hothers j hj] at hfind'
      exact h.entries j entry' hfind'
  · intro j hj
    have hne : j ≠ k := by
      rintro rfl
      rw [(h.unopened j hj).1] at hfind
      contradiction
    rw [hothers j hne, Function.update_of_ne hne]
    exact h.unopened j hj
  · intro d hd
    rw [hsent, List.mem_append] at hd
    rcases hd with hd | hd
    · refine (h.sent d hd).imp_left ?_
      rintro ⟨j, hj⟩
      refine ⟨j, ?_⟩
      by_cases hne : j = k
      · subst hne
        rw [Function.update_self, hlog]
        exact List.mem_append_left _ hj
      · rwa [Function.update_of_ne hne]
    · refine Or.inl ⟨k, ?_⟩
      rw [Function.update_self, hlog]
      exact List.mem_append_right _ hd
  · rw [Function.forall_update_iff sessions fun _ s => s.Optionless]
    exact ⟨TcpSession.optionless_step (h.optionless k) (h.keyed k) hs',
      fun j _ => h.optionless j⟩
  · rw [Function.forall_update_iff sessions fun _ s => s.Keyed]
    exact ⟨TcpSession.keyed_step (h.keyed k) hs', fun j _ => h.keyed j⟩

/-- Nothing but the marks of the sessions changes, and resets are sent. -/
theorem Serving.of_same (h : Serving seeds opened st sessions)
    (hkept : ∀ k, SameSession (st'.tcpSessions.find? k) (st.tcpSessions.find? k))
    (hcallback : st'.onReceive = st.onReceive ∨ st'.onReceive = .stack)
    (hsent : st'.sent = st.sent ∨
      ∃ d : Datagram, st'.sent = st.sent ++ [d] ∧ d.packet = resetPacket) :
    Serving seeds opened st' sessions where
  callback id := by
    rcases hcallback with hcallback | hcallback
    · rw [hcallback]
      exact h.callback id
    · simp [hcallback]
  entries k entry hfind := by
    have hsame := hkept k
    rw [SameSession, hfind, Option.map_some, eq_comm, Option.map_eq_some_iff] at hsame
    rcases hsame with ⟨entry₀, hfind₀, hentry⟩
    rw [Prod.mk.injEq] at hentry
    rw [← hentry.2]
    exact h.entries k entry₀ hfind₀
  unopened k hk := by
    refine ⟨?_, (h.unopened k hk).2⟩
    have hsame := hkept k
    rwa [SameSession, (h.unopened k hk).1, Option.map_none, Option.map_eq_none_iff] at hsame
  sent d hd := by
    rcases hsent with hsent | ⟨r, hsent, hreset⟩
    · rw [hsent] at hd
      exact h.sent d hd
    · rw [hsent, List.mem_append, List.mem_singleton] at hd
      rcases hd with hd | rfl
      · exact h.sent d hd
      · exact Or.inr hreset
  optionless := h.optionless
  keyed := h.keyed

/-- No callback of a session takes the packets of all addresses. -/
theorem Serving.route_input (h : Serving seeds opened st sessions) {j : Address}
    {packet : MyuTcpPacket} (hroute : st.route k packet = .input j) : j = k := by
  rw [route] at hroute
  split at hroute <;> rename_i hcallback
  · contradiction
  · exact absurd hcallback (h.callback _)
  · split at hroute
    · exact (Route.input.inj hroute).symm
    · split at hroute <;> contradiction

/-- The session that a SYN opens listens before it takes the SYN. -/
theorem Serving.openSession (h : Serving seeds opened st sessions) {packet : MyuTcpPacket}
    {iss : UInt32} (hunknown : st.tcpSessions.find? k = none) (hk : k ∉ opened)
    (hopen : st.openSession k packet (seeds k) iss = some st') :
    ∃ s', TcpSession.step (sessions k) (.input packet iss) = some s' ∧
      st'.sent = st.sent ++ TcpSession.newDatagrams (sessions k) s' ∧
      Serving seeds (opened ++ [k]) st' (Function.update sessions k s') := by
  rcases openSession_eq hunknown packet (seeds k) iss with
    ⟨st₁, hstep, hfind, hothers, hsent, hcallback⟩
  rw [hstep] at hopen
  have hserving : Serving seeds (opened ++ [k]) st₁ sessions := by
    constructor
    · rw [hcallback]
      exact h.callback
    · intro j entry hentry
      by_cases hj : j = k
      · subst hj
        rw [hfind, Option.some.injEq] at hentry
        rw [← hentry, (h.unopened j hk).2]
        rfl
      · rw [hothers j hj] at hentry
        exact h.entries j entry hentry
    · intro j hj
      rw [List.mem_append, List.mem_singleton, not_or] at hj
      rw [hothers j hj.2]
      exact h.unopened j hj.1
    · rw [hsent]
      exact h.sent
    · exact h.optionless
    · exact h.keyed
  rcases hserving.stepSession (by simp) hopen with ⟨s', -, hs', hnew, hserving'⟩
  rw [hsent] at hnew
  exact ⟨s', hs', hnew, hserving'⟩

theorem Serving.receive (h : Serving seeds opened st sessions) {bytes : List UInt8}
    {drawn : SessionSeeds} {iss : UInt32}
    (hok : st.ServesOnce seeds opened (.datagram k bytes drawn iss))
    (hstep : st.receive k bytes drawn iss = some st') :
    (st.Rests (.datagram k bytes drawn iss) st' ∧
        Serving seeds (st.recordOpened (.datagram k bytes drawn iss) opened) st' sessions) ∨
      ∃ e s', st.Acts (.datagram k bytes drawn iss) st' (sessions k) e s' ∧
        Serving seeds (st.recordOpened (.datagram k bytes drawn iss) opened) st'
          (Function.update sessions k s') := by
  cases hparse : UdpDriver.onUvRecv bytes with
  | none =>
      have hnot : ¬ st.Opens k bytes := by simp [Opens, hparse]
      rw [TcpStack.receive, hparse] at hstep
      cases hstep
      rw [recordOpened, if_neg hnot]
      exact Or.inl ⟨⟨by simp, Or.inl rfl⟩, h⟩
  | some packet =>
      have hopens : st.Opens k bytes ↔ st.route k packet = .openSession := by
        rw [Opens, hparse, Option.any_some, decide_eq_true_iff]
      rw [ServesOnce, hopens] at hok
      simp only [recordOpened, hopens]
      rw [receive_of_parse hparse] at hstep
      split at hstep <;> rename_i hroute
      · cases hstep
        rw [if_neg (by simp [hroute])]
        exact Or.inl ⟨⟨by simp, Or.inl rfl⟩, h⟩
      · cases h.route_input hroute
        rcases h.stepSession (by simp) hstep with ⟨s', -, hs', hsent, hserving⟩
        rw [if_neg (by simp [hroute])]
        exact Or.inr ⟨_, s', ⟨.packet hparse, by simp, hs', hsent⟩, hserving⟩
      · contradiction
      · rcases hok hroute with ⟨rfl, hk⟩
        rcases h.openSession (route_openSession hroute).1 hk hstep with
          ⟨s', hs', hsent, hserving⟩
        rw [if_pos hroute]
        exact Or.inr ⟨_, s', ⟨.packet hparse, by simp, hs', hsent⟩, hserving⟩
      · cases hstep
        rw [if_neg (by simp [hroute])]
        exact Or.inl ⟨⟨by simp, Or.inr ⟨_, rfl, rfl⟩⟩,
          h.of_same (fun _ => rfl) (Or.inl rfl) (Or.inr ⟨_, rfl, rfl⟩)⟩

/-- A server acts as the session of one address does, or rests. -/
theorem serving_step (h : Serving seeds opened st sessions)
    (hok : st.ServesOnce seeds opened ev) (hstep : TcpStack.step st ev = some st') :
    (st.Rests ev st' ∧ Serving seeds (st.recordOpened ev opened) st' sessions) ∨
      ∃ k e s', Concerning k ev ∧ st.Acts ev st' (sessions k) e s' ∧
        Serving seeds (st.recordOpened ev opened) st' (Function.update sessions k s') := by
  cases ev with
  | createSession k drawn => exact hok.elim
  | listen =>
      cases hstep
      exact Or.inl ⟨⟨by simp, Or.inl rfl⟩, h.of_same (fun _ => rfl) (Or.inr rfl) (Or.inl rfl)⟩
  | session k e =>
      have hconnect : ∀ iss, e ≠ .connect iss := by
        rintro iss rfl
        exact hok
      rw [TcpStack.step] at hstep
      split at hstep <;> rename_i hevent
      · rcases h.stepSession hconnect hstep with ⟨s', hentry, hs', hsent, hserving⟩
        refine Or.inr ⟨k, e, s', rfl, ⟨.call k ?_, ?_, hs', hsent⟩, hserving⟩
        · rintro packet iss rfl
          contradiction
        · rintro i he
          cases he
          exact hentry
      · contradiction
  | datagram k bytes drawn iss =>
      rcases h.receive hok (receive_of_step hstep).2 with hrests | ⟨e, s', hacts, hserving⟩
      · exact Or.inl hrests
      · exact Or.inr ⟨k, e, s', rfl, hacts, hserving⟩
  | takeReadyQueue =>
      rw [TcpStack.step, takeReadyQueue] at hstep
      split at hstep
      · cases hstep
        exact Or.inl ⟨⟨by simp, Or.inl rfl⟩, h.of_same (fun _ => rfl) (Or.inl rfl) (Or.inl rfl)⟩
      · contradiction
  | dispatchNext =>
      cases effect_dispatchNext hstep with
      | quiet hkept hsent hcallback =>
          exact Or.inl ⟨⟨by simp, Or.inl hsent⟩, h.of_same hkept hcallback (Or.inl hsent)⟩

theorem serving_new (seeds : Address → SessionSeeds) :
    Serving seeds [] new fun k => firstSession k (seeds k) .b where
  callback _ := by simp [new]
  entries _ _ hfind := nomatch hfind
  unopened _ _ := ⟨rfl, rfl⟩
  sent _ hd := nomatch hd
  optionless _ := (created_freshSession _ _ 0).optionless_listen
  keyed _ := (created_freshSession _ _ 0).keyed_listen

end Serving

end TcpStack

end MyuTcp
