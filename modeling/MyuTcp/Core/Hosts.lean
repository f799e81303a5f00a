import MyuTcp.Core.Connection
import MyuTcp.Core.Stack

/-!
# Two hosts and the network between them

Two stacks, each behind the driver of its host.  What travels between them are bytes: the network
delivers a datagram that the other stack has handed to its driver, any number of times and at any
time, or bytes that hold no packet with a right checksum.

The hosts keep to one connection when the first one creates its session once, and the second one
gets its session from its listening stack, also once.  Each host is then the host of one session.

Main results:

- Theorem {lit}`hosted_step`: a step of a stack is an event of its session, or it leaves the
  session alone and sends nothing but a reset.
- Theorem {lit}`optionless_step`: no packet of a session has options, so that none is lost on
  the way.
-/

namespace MyuTcp

open Library

/-! ## Packets without options -/

namespace TcpSession

section Optionless

variable {s s' : TcpSession} {e : Event}

/-- What every segment has, and a refresh keeps, all packets of a session have. -/
theorem allPackets_step {P : MyuTcpPacket → Prop} (hs : AllPackets P s) (hkeyed : s.Keyed)
    (hsegment : ∀ (t : TcpSession) flags ackNum payload, P (t.datagram flags ackNum payload).packet)
    (hrefresh : ∀ packet, P packet → P (s.refreshPacket packet)) (h : step s e = some s') :
    AllPackets P s' := by
  refine packets_step hs hkeyed h ?_ hrefresh
  intro hexpire d hd
  have hlog : ∀ d ∈ s'.sent, P d.packet := by
    apply (step_moves h).preserves (P := fun t => ∀ d ∈ t.sent, P d.packet) _ hs.sent
    intro a b ha hmove d hd
    rcases hmove.sends hexpire with hsent | ⟨t, flags, payload, hsent, -⟩
    · rw [hsent] at hd
      exact ha d hd
    · rw [hsent, List.mem_append, List.mem_singleton] at hd
      rcases hd with hd | rfl
      · exact ha d hd
      · exact hsegment _ _ _ _
  exact hlog d (List.mem_of_mem_drop hd)

/-- No packet of the session has options. -/
def Optionless (s : TcpSession) : Prop := AllPackets (fun packet => packet.options = []) s

/-- No packet of a session has options. -/
theorem optionless_step (hs : s.Optionless) (hkeyed : s.Keyed) (h : step s e = some s') :
    s'.Optionless :=
  allPackets_step hs hkeyed (fun _ _ _ _ => rfl) (fun _ hpacket => hpacket) h

/-- A new session has sent nothing. -/
theorem Created.optionless (h : Created s) : s.Optionless := allPackets_of_unsent h.sent h.activeAt

/-- A listening session has no timers. -/
theorem Created.keyed_listen (h : Created s) : s.listen.Keyed := by
  rw [h.listen]
  exact h.keyed

/-- A listening session has sent nothing. -/
theorem Created.optionless_listen (h : Created s) : s.listen.Optionless := by
  rw [h.listen]
  exact h.optionless.of_eq rfl rfl

end Optionless

end TcpSession

/-! ## One session of a stack -/

deriving instance DecidableEq for SessionSeeds

namespace TcpStack

/-- The datagram makes the stack open a session. -/
def Opens (st : TcpStack) (k : Address) (bytes : List UInt8) : Prop :=
  (UdpDriver.onUvRecv bytes).any (fun packet => st.route k packet = .openSession) = true

instance (st : TcpStack) (k : Address) (bytes : List UInt8) : Decidable (st.Opens k bytes) :=
  inferInstanceAs (Decidable (_ = _))

/-- The stack hosts one session, under the given key.  It is the given one as long as the stack has
not constructed any, and it stays when it has left the stack. -/
structure Hosted (k : Address) (first : TcpSession) (st : TcpStack) (s : TcpSession) : Prop where
  entries : ∀ j entry, st.tcpSessions.find? j = some entry → j = k ∧ entry.session = s
  unopened : st.created = 0 → (∀ j, st.tcpSessions.find? j = none) ∧ s = first
  log : ∀ d ∈ s.sent, d ∈ st.sent
  sent : ∀ d ∈ st.sent, d ∈ s.sent ∨ d.packet = resetPacket
  optionless : s.Optionless
  keyed : s.Keyed

/-- The stack event is an event of its session, as a call of the session's owner or as a packet. -/
inductive Concerns : StackEvent → Event → Prop
  | call (k : Address) {e : Event} (hcall : ∀ packet iss, e ≠ .input packet iss) :
      Concerns (.session k e) e
  | packet {k : Address} {bytes : List UInt8} {packet : MyuTcpPacket} {seeds : SessionSeeds}
      {iss : UInt32} (hparse : UdpDriver.onUvRecv bytes = some packet) :
      Concerns (.datagram k bytes seeds iss) (.input packet iss)

/-- The step of the stack is the step of its session with an event. -/
structure Acts (st : TcpStack) (ev : StackEvent) (st' : TcpStack) (s : TcpSession) (e : Event)
    (s' : TcpSession) : Prop where
  concerns : Concerns ev e
  owner : ∀ k, ev = .session k e → ∃ entry, st.tcpSessions.find? k = some entry ∧ entry.session = s
  step : TcpSession.step s e = some s'
  sent : st'.sent = st.sent ++ TcpSession.newDatagrams s s'

/-- The step of the stack leaves its session alone. -/
structure Rests (st : TcpStack) (ev : StackEvent) (st' : TcpStack) : Prop where
  noCall : ∀ k e, ev ≠ .session k e
  sent : st'.sent = st.sent ∨
    ∃ d : Datagram, st'.sent = st.sent ++ [d] ∧ d.packet = resetPacket

/-- The session of a stack as it is before its first packet: the first host constructs its session,
and the second one gets a session that listens. -/
def firstSession (k : Address) (seeds : SessionSeeds) : Side → TcpSession
  | .a => (freshSession k seeds 0).session
  | .b => (freshSession k seeds 0).session.listen

/-- A stack that constructs a session constructs its first one, for the address of the peer: the
first host by {lit}`create_session`, and the second one for a SYN. -/
def OpensOnce (side : Side) (k : Address) (seeds : SessionSeeds) (st : TcpStack) :
    StackEvent → Prop
  | .createSession j drawn => side = .a ∧ j = k ∧ drawn = seeds ∧ st.created = 0
  | .datagram j bytes drawn _ =>
      st.Opens j bytes → side = .b ∧ j = k ∧ drawn = seeds ∧ st.created = 0
  | _ => True

instance (side : Side) (k : Address) (seeds : SessionSeeds) (st : TcpStack) :
    (ev : StackEvent) → Decidable (st.OpensOnce side k seeds ev)
  | .createSession .. => inferInstanceAs (Decidable (_ ∧ _))
  | .datagram .. => inferInstanceAs (Decidable (_ → _))
  | .listen | .session .. | .takeReadyQueue | .dispatchNext => isTrue trivial

section Hosted

variable {st st' : TcpStack} {k j : Address} {first s : TcpSession} {e : Event}

/-- A step of the host is a step of its session. -/
theorem Hosted.stepSession (h : Hosted k first st s) (hstep : st.stepSession j e = some st') :
    ∃ s', (∃ entry, st.tcpSessions.find? j = some entry ∧ entry.session = s) ∧
      TcpSession.step s e = some s' ∧ st'.sent = st.sent ++ TcpSession.newDatagrams s s' ∧
      Hosted k first st' s' := by
  have hothers := fun i hi => find?_stepSession_of_ne (j := i) hstep hi
  rcases stepSession_eq_some_iff.mp hstep with ⟨entry, s', hfind, hs', rfl⟩
  rcases h.entries j entry hfind with ⟨rfl, rfl⟩
  have hlog := TcpSession.sent_eq_append (TcpSession.sent_prefix_step hs')
  refine ⟨s', ⟨entry, hfind, rfl⟩, hs', sent_commit _ _ _ _, ?_⟩
  constructor
  · intro i entry' hfind'
    by_cases hi : i = j
    · subst hi
      have hcommit := find?_commit i entry s' st
      split at hcommit
      · rw [hcommit] at hfind'
        contradiction
      · rcases hcommit with ⟨ready, hready⟩
        rw [hready, Option.some.injEq] at hfind'
        rw [← hfind']
        exact ⟨rfl, rfl⟩
    · rw [hothers i hi] at hfind'
      exact absurd (h.entries i entry' hfind').1 hi
  · rw [created_commit]
    intro hnone
    rw [(h.unopened hnone).1 j] at hfind
    contradiction
  · intro d hd
    rw [hlog, List.mem_append] at hd
    rw [sent_commit, List.mem_append]
    exact hd.imp_left (h.log d)
  · intro d hd
    rw [sent_commit, List.mem_append] at hd
    rw [hlog, List.mem_append]
    rcases hd with hd | hd
    · exact (h.sent d hd).imp_left Or.inl
    · exact Or.inl (Or.inr hd)
  · exact TcpSession.optionless_step h.optionless h.keyed hs'
  · exact TcpSession.keyed_step h.keyed hs'

/-- Nothing but the marks of the sessions changes, and resets are sent. -/
theorem Hosted.of_same (h : Hosted k first st s)
    (hkept : ∀ j, SameSession (st'.tcpSessions.find? j) (st.tcpSessions.find? j))
    (hcreated : st'.created = st.created)
    (hsent : st'.sent = st.sent ∨
      ∃ d : Datagram, st'.sent = st.sent ++ [d] ∧ d.packet = resetPacket) :
    Hosted k first st' s := by
  have hback : ∀ j entry, st'.tcpSessions.find? j = some entry →
      ∃ entry₀, st.tcpSessions.find? j = some entry₀ ∧ entry₀.session = entry.session := by
    intro j entry hfind
    have hsame := hkept j
    rw [SameSession, hfind, Option.map_some, eq_comm, Option.map_eq_some_iff] at hsame
    rcases hsame with ⟨entry₀, hfind₀, hentry⟩
    rw [Prod.mk.injEq] at hentry
    exact ⟨entry₀, hfind₀, hentry.2⟩
  constructor
  · intro j entry hfind
    rcases hback j entry hfind with ⟨entry₀, hfind₀, hsession⟩
    rw [← hsession]
    exact h.entries j entry₀ hfind₀
  · rw [hcreated]
    intro hnone
    refine ⟨fun j => Option.eq_none_iff_forall_ne_some.mpr fun entry hfind => ?_,
      (h.unopened hnone).2⟩
    rcases hback j entry hfind with ⟨entry₀, hfind₀, -⟩
    rw [(h.unopened hnone).1 j] at hfind₀
    contradiction
  · intro d hd
    rcases hsent with hsent | ⟨r, hsent, -⟩
    · rw [hsent]
      exact h.log d hd
    · rw [hsent, List.mem_append]
      exact Or.inl (h.log d hd)
  · intro d hd
    rcases hsent with hsent | ⟨r, hsent, hreset⟩
    · rw [hsent] at hd
      exact h.sent d hd
    · rw [hsent, List.mem_append, List.mem_singleton] at hd
      rcases hd with hd | rfl
      · exact h.sent d hd
      · exact Or.inr hreset
  · exact h.optionless
  · exact h.keyed

/-- What {lit}`create_session` stores is a new session. -/
theorem created_freshSession (k : Address) (seeds : SessionSeeds) (id : Nat) :
    TcpSession.Created (freshSession k seeds id).session := .mk _ _ _ _ _ _

/-- The first session of a host has sent nothing. -/
theorem firstSession_sent (k : Address) (seeds : SessionSeeds) (side : Side) :
    (firstSession k seeds side).sent = [] := by
  cases side <;> rfl

/-- The session that {lit}`create_session` constructs is the one that the stack hosts. -/
theorem Hosted.createSession (h : Hosted k first st s) (hfirst : first.sent = [])
    (hnone : st.created = 0) (seeds : SessionSeeds) :
    Hosted k first (st.createSession k seeds) (freshSession k seeds 0).session := by
  rcases h.unopened hnone with ⟨hempty, rfl⟩
  have hcreated := created_freshSession k seeds 0
  constructor
  · intro j entry hfind
    rw [find?_createSession] at hfind
    split at hfind <;> rename_i hj
    · rw [hempty k, Option.getD_none, Option.some.injEq] at hfind
      rw [← hfind]
      exact ⟨hj, rfl⟩
    · rw [hempty j] at hfind
      contradiction
  · intro hzero
    exact absurd hzero (Nat.succ_ne_zero st.created)
  · intro d hd
    rw [hcreated.sent] at hd
    contradiction
  · intro d hd
    rcases h.sent d hd with hsent | hreset
    · rw [hfirst] at hsent
      contradiction
    · exact Or.inr hreset
  · exact hcreated.optionless
  · exact hcreated.keyed

/-- The session that a SYN opens listens before it takes the SYN. -/
theorem Hosted.openSession {seeds : SessionSeeds} (h : Hosted k (firstSession k seeds .b) st s)
    (hnone : st.created = 0) {packet : MyuTcpPacket} {iss : UInt32}
    (hopen : st.openSession k packet seeds iss = some st') :
    ∃ s', TcpSession.step s (.input packet iss) = some s' ∧
      st'.sent = st.sent ++ TcpSession.newDatagrams s s' ∧
      Hosted k (firstSession k seeds .b) st' s' := by
  rcases h.unopened hnone with ⟨-, rfl⟩
  have hhosted := h.createSession rfl hnone seeds
  rcases Option.bind_eq_some_iff.mp hopen with ⟨st₁, haddr, hrest⟩
  rcases Option.bind_eq_some_iff.mp hrest with ⟨st₂, hlisten, hinput⟩
  rcases hhosted.stepSession haddr with ⟨s₁, -, hs₁, hsent₁, hhosted₁⟩
  cases hs₁
  rcases hhosted₁.stepSession hlisten with ⟨s₂, -, hs₂, hsent₂, hhosted₂⟩
  cases hs₂
  rcases hhosted₂.stepSession hinput with ⟨s', -, hs', hsent, hhosted'⟩
  have hquiet : st₂.sent = st.sent := by
    rw [hsent₂, hsent₁]
    exact (List.append_nil _).trans (List.append_nil _)
  exact ⟨s', hs', by rw [hsent, hquiet]; rfl, hhosted'⟩

/-- A datagram at the host is a packet at its session. -/
theorem Hosted.receive {side : Side} {seeds drawn : SessionSeeds} {bytes : List UInt8}
    {iss : UInt32} (h : Hosted k (firstSession k seeds side) st s)
    (hopens : st.OpensOnce side k seeds (.datagram j bytes drawn iss))
    (hstep : st.receive j bytes drawn iss = some st') :
    (st.Rests (.datagram j bytes drawn iss) st' ∧ Hosted k (firstSession k seeds side) st' s) ∨
      ∃ e s', st.Acts (.datagram j bytes drawn iss) st' s e s' ∧
        Hosted k (firstSession k seeds side) st' s' := by
  have hsame : (st.Rests (.datagram j bytes drawn iss) st ∧
      Hosted k (firstSession k seeds side) st s) := ⟨⟨by simp, Or.inl rfl⟩, h⟩
  cases hparse : UdpDriver.onUvRecv bytes with
  | none =>
      rw [TcpStack.receive, hparse] at hstep
      cases hstep
      exact Or.inl hsame
  | some packet =>
      rw [receive_of_parse hparse] at hstep
      split at hstep <;> rename_i hroute
      · cases hstep
        exact Or.inl hsame
      · rcases h.stepSession hstep with ⟨s', -, hs', hsent, hhosted⟩
        exact Or.inr ⟨_, s', ⟨.packet hparse, by simp, hs', hsent⟩, hhosted⟩
      · contradiction
      · have hopen : st.Opens j bytes := by
          rw [Opens, hparse]
          exact decide_eq_true hroute
        rcases hopens hopen with ⟨rfl, rfl, rfl, hnone⟩
        rcases h.openSession hnone hstep with ⟨s', hs', hsent, hhosted⟩
        exact Or.inr ⟨_, s', ⟨.packet hparse, by simp, hs', hsent⟩, hhosted⟩
      · cases hstep
        exact Or.inl ⟨⟨by simp, Or.inr ⟨_, rfl, rfl⟩⟩,
          h.of_same (fun _ => rfl) rfl (Or.inr ⟨_, rfl, rfl⟩)⟩

/-- A dispatch creates no session. -/
theorem dispatchNext_created (h : st.dispatchNext = some st') : st'.created = st.created := by
  rw [dispatchNext] at h
  split at h
  · contradiction
  · rcases Option.bind_eq_some_iff.mp h with ⟨i, -, hi⟩
    rcases Option.map_eq_some_iff.mp hi with ⟨entry, -, rfl⟩
    rfl

/-- A stack that opens one session acts as that session does, or rests. -/
theorem hosted_step {side : Side} {seeds : SessionSeeds} {ev : StackEvent}
    (h : Hosted k (firstSession k seeds side) st s) (hopens : st.OpensOnce side k seeds ev)
    (hstep : TcpStack.step st ev = some st') :
    (st.Rests ev st' ∧ Hosted k (firstSession k seeds side) st' s) ∨
      ∃ e s', st.Acts ev st' s e s' ∧ Hosted k (firstSession k seeds side) st' s' := by
  cases ev with
  | createSession j drawn =>
      rcases hopens with ⟨rfl, rfl, rfl, hnone⟩
      cases hstep
      have hhosted := h.createSession rfl hnone drawn
      rcases h.unopened hnone with ⟨-, rfl⟩
      exact Or.inl ⟨⟨by simp, Or.inl rfl⟩, hhosted⟩
  | listen =>
      cases hstep
      exact Or.inl ⟨⟨by simp, Or.inl rfl⟩, h.of_same (fun _ => rfl) rfl (Or.inl rfl)⟩
  | session j e =>
      rw [TcpStack.step] at hstep
      split at hstep <;> rename_i hevent
      · rcases h.stepSession hstep with ⟨s', hentry, hs', hsent, hhosted⟩
        refine Or.inr ⟨e, s', ⟨.call j ?_, ?_, hs', hsent⟩, hhosted⟩
        · rintro packet iss rfl
          contradiction
        · rintro i he
          cases he
          exact hentry
      · contradiction
  | datagram j bytes drawn iss => exact h.receive hopens (receive_of_step hstep).2
  | takeReadyQueue =>
      rw [TcpStack.step, takeReadyQueue] at hstep
      split at hstep
      · cases hstep
        exact Or.inl ⟨⟨by simp, Or.inl rfl⟩, h.of_same (fun _ => rfl) rfl (Or.inl rfl)⟩
      · contradiction
  | dispatchNext =>
      have hcreated := dispatchNext_created hstep
      cases effect_dispatchNext hstep with
      | quiet hkept hsent hcallback =>
          exact Or.inl ⟨⟨by simp, Or.inl hsent⟩, h.of_same hkept hcreated (Or.inl hsent)⟩

/-- A new stack is the host of a session that waits to be created. -/
theorem hosted_new (k : Address) (seeds : SessionSeeds) (side : Side) :
    Hosted k (firstSession k seeds side) new (firstSession k seeds side) where
  entries j entry hfind := nomatch hfind
  unopened _ := ⟨fun _ => rfl, rfl⟩
  log d hd := by
    rw [firstSession_sent] at hd
    contradiction
  sent d hd := nomatch hd
  optionless := by
    cases side
    · exact (created_freshSession k seeds 0).optionless
    · exact (created_freshSession k seeds 0).optionless_listen
  keyed := by
    cases side
    · exact (created_freshSession k seeds 0).keyed
    · exact (created_freshSession k seeds 0).keyed_listen

end Hosted

end TcpStack

/-! ## Two hosts -/

/-- The stack of each side. -/
abbrev Hosts := Side → TcpStack

/-- An event of one of the two stacks. -/
structure HostEvent where
  side : Side
  event : TcpStack.StackEvent

namespace Hosts

/-- Two hosts without sessions. -/
def new : Hosts := fun _ => TcpStack.new

/-- The bytes are a datagram that the stack has handed to its driver, or they hold no packet with a
right checksum. -/
def Carried (st : TcpStack) (bytes : List UInt8) : Prop :=
  (∃ d ∈ st.sent, UdpDriver.sendPacket d.packet = bytes) ∨
    (UdpDriver.onUvRecv bytes).any verifyChecksum = false

instance (st : TcpStack) (bytes : List UInt8) : Decidable (Carried st bytes) :=
  inferInstanceAs (Decidable (_ ∨ _))

/-- Datagrams come from the other host. -/
def Possible (address : Side → Address) (h : Hosts) (e : HostEvent) : Prop :=
  match e.event with
  | .datagram k bytes _ _ => k = address e.side.other ∧ Carried (h e.side.other) bytes
  | _ => True

instance (address : Side → Address) (h : Hosts) (e : HostEvent) :
    Decidable (h.Possible address e) := by
  unfold Possible
  split <;> infer_instance

/-- One event of one host. -/
def step (address : Side → Address) : StepFn Hosts HostEvent := fun h e =>
  if h.Possible address e then
    (TcpStack.step (h e.side) e.event).map (Function.update h e.side)
  else none

/-- The host opens no second session. -/
def OneConnection (address : Side → Address) (seeds : Side → SessionSeeds) (h : Hosts)
    (e : HostEvent) : Prop :=
  (h e.side).OpensOnce e.side (address e.side.other) (seeds e.side) e.event

instance (address : Side → Address) (seeds : Side → SessionSeeds) (h : Hosts) (e : HostEvent) :
    Decidable (OneConnection address seeds h e) :=
  inferInstanceAs (Decidable (TcpStack.OpensOnce ..))

end Hosts

end MyuTcp
