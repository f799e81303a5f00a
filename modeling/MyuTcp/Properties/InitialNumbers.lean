import MyuTcp.Core.ShiftedSteps
import MyuTcp.Library.Lookups

/-!
# Independence of the initial numbers

The same schedule for two connections that draw different initial numbers.  What happens is the
same, with all numbers shifted by the constant differences, as long as {lit}`_handle_ack` compares
no numbers across the end of the sequence space, or does so in both connections.  It compares
sequence numbers as plain integers, so an acknowledgment that one connection accepts is rejected
by another whose numbers in flight wrap.

Main results:

- Theorem {lit}`lockstep_step`: what a step of the two connections keeps.
- Theorem {lit}`initialNumbers_unseen_iff`: the runs cannot be told apart exactly when no
  acknowledgment meets a wrap in one connection only.
-/

namespace MyuTcp

open Library

/-! ## Schedules -/

/-- What is done with a session, whatever its numbers.  A packet is given by its position in what
the other side has sent, a timer by its distance from the initial number. -/
inductive Action
  | setRemoteAddr (ip : String) (port : UInt16)
  | setListenerPort (port : UInt16)
  | connect
  | listen
  | send (data : List UInt8)
  | recv (bufSize : Nat)
  | readAll
  | close
  | deliver (position : Nat)
  | expire (distance : UInt32)
  | expire2Msl

/-- An entry of a schedule: the end that acts, and what happens there. -/
structure ScheduledAction where
  side : Side
  action : Action

namespace Connection

/-- The event that an action is, when the sides draw the given initial numbers. -/
def event (c : Connection) (iss : Side → UInt32) (a : ScheduledAction) : Option Event :=
  match a.action with
  | .setRemoteAddr ip port => some (.setRemoteAddr ip port)
  | .setListenerPort port => some (.setListenerPort port)
  | .connect => some (.connect (iss a.side))
  | .listen => some .listen
  | .send data => some (.send data)
  | .recv bufSize => some (.recv bufSize)
  | .readAll => some .readAll
  | .close => some .close
  | .deliver position =>
      (c.session a.side.other).packets[position]?.map fun packet => .input packet (iss a.side)
  | .expire distance => some (.expire (iss a.side + distance))
  | .expire2Msl => some .expire2Msl

/-- A step of a schedule. -/
def scheduled (iss : Side → UInt32) : StepFn Connection ScheduledAction := fun c a =>
  (c.event iss a).bind fun e => step c ⟨a.side, e⟩

/-- A side condition of the session that takes the action. -/
def OnEvent (P : TcpSession → Event → Prop) (iss : Side → UInt32) (c : Connection)
    (a : ScheduledAction) : Prop :=
  ∀ e ∈ c.event iss a, P (c.session a.side) e

instance (P : TcpSession → Event → Prop) [∀ s e, Decidable (P s e)] (iss : Side → UInt32)
    (c : Connection) (a : ScheduledAction) : Decidable (OnEvent P iss c a) :=
  inferInstanceAs (Decidable (∀ e ∈ c.event iss a, P (c.session a.side) e))

/-- How much further a side counts in the second connection. -/
def offset (iss iss' : Side → UInt32) (side : Side) : UInt32 := iss' side - iss side

/-- Who knows the initial numbers sees no difference between the connections. -/
def SeenAlike (iss iss' : Side → UInt32) (c c' : Connection) : Prop :=
  ∀ side, TcpSession.SeenAlike (offset iss iss' side) (offset iss iss' side.other)
    (c.session side) (c'.session side)

/-- The connections have gone through the same schedule so far. -/
structure Lockstep (iss iss' : Side → UInt32) (c c' : Connection) : Prop where
  shifted : ∀ side, TcpSession.Shifted (offset iss iss' side) (offset iss iss' side.other)
    (c.session side) (c'.session side)
  steady : ∀ side, (c.session side).Steady
  steady' : ∀ side, (c'.session side).Steady

end Connection

/-- The sessions have been created with the same addresses. -/
structure TcpSession.SameAddresses (s t : TcpSession) : Prop where
  listenerPort : t.listenerPort = s.listenerPort
  remoteIp : t.remoteIp = s.remoteIp
  remotePort : t.remotePort = s.remotePort

namespace TcpSession

section Sessions

variable {d e : UInt32} {s t : TcpSession} {ev ev' : Event}

/-- A new session is steady. -/
theorem Created.steady (h : Created s) : Steady s where
  once := h.once
  keyed := h.keyed
  flight := h.flightTimers
  stored := by
    cases h
    exact nothingStored_createSession _ _ _ _ _ _

/-- Sessions that have been created with the same addresses have done nothing yet. -/
theorem Created.shifted (hs : Created s) (ht : Created t) (h : SameAddresses s t) :
    Shifted d e s t := by
  have hunanswered : Unanswered s := by
    refine ⟨Or.inl hs.state, fun k u hu => ?_⟩
    rw [hs.activeAt k] at hu
    contradiction
  have htimers : ShiftedTimers d e s.timerManager t.timerManager := by
    cases hs
    cases ht
    exact ⟨rfl, fun k => .none⟩
  have halike : Alike d e s t := by
    cases hs
    cases ht
    exact
      { h with
        state := rfl
        sendBuffer := rfl
        recvBuffer := rfl
        calls := rfl
        userWantToClose := rfl
        peerUsableWindowSize := rfl
        sendWindowSize := rfl
        ssthresh := rfl
        currentRto := rfl
        autoCloseOnEof := rfl
        timers := htimers
        sent := .nil }
  exact { halike with opened := fun hsent => absurd hs.sent hsent, synced := Or.inr hunanswered }

/-- Both open one connection. -/
theorem Alike.oneConnection (h : Alike d e s t) (hev : ShiftedEvent d e ev ev')
    (hok : s.OneConnection ev) : t.OneConnection ev' := by
  have hsent : s.sent = [] → t.sent = [] := by
    intro hnil
    have hlog := h.sent
    rw [hnil] at hlog
    exact List.forall₂_nil_left_iff.mp hlog
  cases hev with
  | connect hij => exact hsent hok
  | listen => exact fun hstate => hsent (hok (h.state ▸ hstate))
  | _ => trivial

end Sessions

end TcpSession

namespace Connection

section Lockstep

variable {iss iss' : Side → UInt32} {c c' : Connection} {a : ScheduledAction}

/-- In lockstep both are seen alike. -/
theorem Lockstep.seenAlike (h : Lockstep iss iss' c c') : SeenAlike iss iss' c c' :=
  fun side => (h.shifted side).toSeenAlike

/-- The offset leads from one initial number to the other. -/
theorem add_offset (iss iss' : Side → UInt32) (side : Side) :
    iss' side = iss side + offset iss iss' side := by
  rw [offset]
  grind

/-- The same action is the same event, with other numbers. -/
theorem Lockstep.event (h : Lockstep iss iss' c c') (a : ScheduledAction) :
    Option.Rel (TcpSession.ShiftedEvent (offset iss iss' a.side) (offset iss iss' a.side.other))
      (c.event iss a) (c'.event iss' a) := by
  rcases a with ⟨side, action⟩
  cases action with
  | connect => exact .some (.connect (add_offset iss iss' side))
  | deliver position =>
      have hlog := forall₂_getElem (h.shifted side.other).sent position
      simp only [Connection.event, TcpSession.packets, List.getElem?_map, Option.map_map]
      rw [Side.other_other] at hlog
      rcases optionRel_iff.mp hlog with ⟨hs, ht⟩ | ⟨p, q, hs, ht, hpq⟩
      · rw [hs, ht]
        exact .none
      · rw [hs, ht]
        exact .some (.input hpq.packet (add_offset iss iss' side))
  | expire distance =>
      refine .some (.expire ?_)
      rw [add_offset iss iss' side]
      grind
  | setRemoteAddr ip port => exact .some (.setRemoteAddr ip port)
  | setListenerPort port => exact .some (.setListenerPort port)
  | send data => exact .some (.send data)
  | recv bufSize => exact .some (.recv bufSize)
  | listen => exact .some .listen
  | readAll => exact .some .readAll
  | close => exact .some .close
  | expire2Msl => exact .some .expire2Msl

/-- A schedule delivers only what has been sent. -/
theorem possible_event {e : Event} (he : c.event iss a = some e) : c.Possible ⟨a.side, e⟩ := by
  rcases a with ⟨side, action⟩
  cases action with
  | deliver position =>
      rcases Option.map_eq_some_iff.mp he with ⟨packet, hpacket, rfl⟩
      exact List.mem_of_getElem? hpacket
  | _ =>
      cases he
      trivial

/-- An action that has an event is a step of its session. -/
theorem scheduled_of_event {e : Event} (he : c.event iss a = some e) :
    scheduled iss c a = (TcpSession.step (c.session a.side) e).map (c.update a.side) := by
  rw [scheduled, he, Option.bind_some, step, if_pos (possible_event he)]

/-- An action without an event is no step. -/
theorem scheduled_of_none (he : c.event iss a = none) : scheduled iss c a = none := by
  rw [scheduled, he, Option.bind_none]

/-- A condition on an action is one on its event. -/
theorem onEvent_of_event {P : TcpSession → Event → Prop} {e : Event}
    (he : c.event iss a = some e) : OnEvent P iss c a ↔ P (c.session a.side) e := by
  simp [OnEvent, he]

/-- A step of one side on both. -/
theorem SeenAlike.update (h : SeenAlike iss iss' c c') (side : Side) {s' t' : TcpSession}
    (hnew : TcpSession.SeenAlike (offset iss iss' side) (offset iss iss' side.other) s' t') :
    SeenAlike iss iss' (c.update side s') (c'.update side t') := by
  intro i
  rcases Side.eq_or_eq_other side i with rfl | rfl
  · rwa [session_update_self, session_update_self]
  · rw [session_update_other, session_update_other]
    exact h side.other

/-- A step of one side in both, in lockstep. -/
theorem Lockstep.update (h : Lockstep iss iss' c c') (side : Side) {s' t' : TcpSession}
    (hnew : TcpSession.Shifted (offset iss iss' side) (offset iss iss' side.other) s' t')
    (hs : s'.Steady) (ht : t'.Steady) :
    Lockstep iss iss' (c.update side s') (c'.update side t') := by
  refine ⟨fun i => ?_, fun i => ?_, fun i => ?_⟩
  all_goals rcases Side.eq_or_eq_other side i with rfl | rfl
  · rwa [session_update_self, session_update_self]
  · rw [session_update_other, session_update_other]
    exact h.shifted side.other
  · rwa [session_update_self]
  · rw [session_update_other]
    exact h.steady side.other
  · rwa [session_update_self]
  · rw [session_update_other]
    exact h.steady' side.other

/-- The connections stay alike exactly when both sessions cross the wrap, or neither does. -/
theorem Lockstep.seenAlike_iff (h : Lockstep iss iss' c c')
    (hok : OnEvent TcpSession.OneConnection iss c a) :
    Option.Rel (SeenAlike iss iss') (scheduled iss c a) (scheduled iss' c' a) ↔
      (OnEvent TcpSession.CrossesWrap iss c a ↔ OnEvent TcpSession.CrossesWrap iss' c' a) := by
  rcases optionRel_iff.mp (h.event a) with ⟨he, he'⟩ | ⟨e, e', he, he', hev⟩
  · simp [scheduled_of_none he, scheduled_of_none he', OnEvent, he, he']
  rw [onEvent_of_event he] at hok
  rw [scheduled_of_event he, scheduled_of_event he', onEvent_of_event he, onEvent_of_event he',
    optionRel_map_iff]
  have hshifted := h.shifted a.side
  have hs := h.steady a.side
  have ht := h.steady' a.side
  constructor
  · intro hseen
    refine hshifted.crossesWrap_iff hs ht hev (optionRel_mono ?_ hseen)
    intro s' t' hnew
    have hside := hnew a.side
    rwa [session_update_self, session_update_self] at hside
  · intro hcross
    refine optionRel_mono ?_ (TcpSession.shifted_step hshifted hs ht hev hok hcross)
    exact fun s' t' hnew => h.seenAlike.update a.side hnew.toSeenAlike

/-- What a step of the two connections keeps. -/
theorem lockstep_step (h : Lockstep iss iss' c c')
    (hok : OnEvent TcpSession.OneConnection iss c a)
    (hcross : OnEvent TcpSession.CrossesWrap iss c a ↔ OnEvent TcpSession.CrossesWrap iss' c' a)
    {d d' : Connection} (hstep : scheduled iss c a = some d)
    (hstep' : scheduled iss' c' a = some d') : Lockstep iss iss' d d' := by
  rcases optionRel_iff.mp (h.event a) with ⟨he, -⟩ | ⟨e, e', he, he', hev⟩
  · rw [scheduled_of_none he] at hstep
    contradiction
  rw [onEvent_of_event he] at hok
  rw [onEvent_of_event he, onEvent_of_event he'] at hcross
  rw [scheduled_of_event he] at hstep
  rw [scheduled_of_event he'] at hstep'
  rcases Option.map_eq_some_iff.mp hstep with ⟨s', hs', rfl⟩
  rcases Option.map_eq_some_iff.mp hstep' with ⟨t', ht', rfl⟩
  have hshifted := h.shifted a.side
  have hs := h.steady a.side
  have ht := h.steady' a.side
  have hnew := TcpSession.shifted_step hshifted hs ht hev hok hcross
  rw [hs', ht', Option.rel_some_some] at hnew
  have hok' := hshifted.oneConnection hev hok
  exact h.update a.side hnew (TcpSession.steady_step hs hok hs')
    (TcpSession.steady_step ht hok' ht')

end Lockstep

section Unseen

variable {iss iss' : Side → UInt32} {c c' : Connection}

/-- New sessions with the same addresses are in lockstep. -/
theorem lockstep_start (hc : ∀ side, (c.session side).Created)
    (hc' : ∀ side, (c'.session side).Created)
    (haddress : ∀ side, (c.session side).SameAddresses (c'.session side)) :
    Lockstep iss iss' c c' where
  shifted side := (hc side).shifted (hc' side) (haddress side)
  steady side := (hc side).steady
  steady' side := (hc' side).steady

/-- Two connections that draw any initial numbers and follow one schedule cannot be told apart
exactly when no acknowledgment meets numbers in flight that wrap in one of them only. -/
theorem initialNumbers_unseen_iff (hc : ∀ side, (c.session side).Created)
    (hc' : ∀ side, (c'.session side).Created)
    (haddress : ∀ side, (c.session side).SameAddresses (c'.session side))
    {actions : List ScheduledAction}
    (hone : (scheduled iss).AllSteps (OnEvent TcpSession.OneConnection iss) c actions) :
    (∀ n, Option.Rel (SeenAlike iss iss') ((scheduled iss).run c (actions.take n))
        ((scheduled iss').run c' (actions.take n))) ↔
      ((scheduled iss).both (scheduled iss')).AllSteps
        (fun x a => OnEvent TcpSession.CrossesWrap iss x.1 a ↔
          OnEvent TcpSession.CrossesWrap iss' x.2 a) (c, c') actions := by
  have hstart : Lockstep iss iss' c c' := lockstep_start hc hc' haddress
  rw [StepFn.rel_run_iff hstart.seenAlike]
  refine StepFn.AllSteps.iff_of_invariant (P := fun x => Lockstep iss iss' x.1 x.2) ?_ ?_ hstart
    hone.both_left
  · exact fun x a h hok => h.seenAlike_iff hok
  · intro x a y h hok hcross hstep
    rcases StepFn.both_eq_some_iff.mp hstep with ⟨hs, ht⟩
    exact lockstep_step h hok hcross hs ht

end Unseen

/-- A client and a server that have done nothing yet. -/
def newSessions : Connection := ⟨TcpSession.clientSession, serverSession⟩

/-- A handshake, one byte of the client, and its acknowledgment. -/
def ackedByte : List ScheduledAction :=
  [⟨.b, .listen⟩, ⟨.a, .connect⟩, ⟨.b, .deliver 0⟩, ⟨.a, .deliver 0⟩, ⟨.b, .deliver 1⟩,
    ⟨.a, .send [7]⟩, ⟨.b, .deliver 2⟩, ⟨.a, .deliver 1⟩]

theorem ackedByte_oneConnection :
    (scheduled (isn 0 0)).AllSteps (OnEvent TcpSession.OneConnection (isn 0 0))
      newSessions ackedByte := by
  have hcheck : (scheduled (isn 0 0)).checkSteps
      (fun c a => OnEvent TcpSession.OneConnection (isn 0 0) c a)
      newSessions ackedByte = true := by
    decide +kernel
  exact StepFn.allSteps_of_check (fun _ _ => of_decide_eq_true) hcheck

/-- Neither of the connections that draw small numbers meets a wrap. -/
theorem ackedByte_crosses :
    ((scheduled (isn 0 0)).both (scheduled (isn 500 7000))).AllSteps
      (fun x a => OnEvent TcpSession.CrossesWrap (isn 0 0) x.1 a ↔
        OnEvent TcpSession.CrossesWrap (isn 500 7000) x.2 a)
      (newSessions, newSessions) ackedByte := by
  have hcheck : ((scheduled (isn 0 0)).both (scheduled (isn 500 7000))).checkSteps
      (fun x a => decide (OnEvent TcpSession.CrossesWrap (isn 0 0) x.1 a ↔
        OnEvent TcpSession.CrossesWrap (isn 500 7000) x.2 a))
      (newSessions, newSessions) ackedByte = true := by
    decide +kernel
  exact StepFn.allSteps_of_check (fun _ _ => of_decide_eq_true) hcheck

/-- The sessions of the example are new. -/
theorem created_side (side : Side) :
    (newSessions.session side).Created := by
  cases side
  · exact created_clientSession
  · exact created_serverSession

theorem initialNumbers_unseen_ackedByte :
    ((scheduled (isn 0 0)).run newSessions ackedByte).isSome = true ∧
      Option.Rel (SeenAlike (isn 0 0) (isn 500 7000))
        ((scheduled (isn 0 0)).run newSessions ackedByte)
        ((scheduled (isn 500 7000)).run newSessions ackedByte) := by
  have hseen := (initialNumbers_unseen_iff created_side created_side
    (fun _ => ⟨rfl, rfl, rfl⟩) ackedByte_oneConnection).mpr ackedByte_crosses ackedByte.length
  rw [List.take_length] at hseen
  exact ⟨by decide +kernel, hseen⟩

end Connection

end MyuTcp
