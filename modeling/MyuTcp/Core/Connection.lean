import MyuTcp.Core.Opening

/-!
# Two sessions and the network between them

A configuration of two sessions.  The network may lose, duplicate, delay and reorder: a
packet can be delivered to a session any number of times, at any time after the other
session handed it to the driver, and never a packet that the other one did not send.

Main results:

- Theorem {lit}`Connection.step_eq_some_iff`: a step is a step of one of the sessions.
- Theorem {lit}`Connection.withEntries_step`: a step with the sides that have entered
  ESTABLISHED.
-/

namespace MyuTcp

open Library

/-- The two ends of a connection. -/
inductive Side
  | a
  | b
deriving DecidableEq, Repr

/-- The opposite end. -/
def Side.other : Side → Side
  | .a => .b
  | .b => .a

/-- The opposite of the opposite end. -/
@[simp]
theorem Side.other_other (side : Side) : side.other.other = side := by
  cases side <;> rfl

/-- The ends are two. -/
@[simp]
theorem Side.other_ne (side : Side) : side.other ≠ side := by
  cases side <;> simp [Side.other]

/-- There is no third end. -/
theorem Side.eq_or_eq_other (i j : Side) : j = i ∨ j = i.other := by
  cases i <;> cases j <;> simp [Side.other]

/-- The packets that a session has handed to the driver. -/
def TcpSession.packets (s : TcpSession) : List MyuTcpPacket := s.sent.map Datagram.packet

/-- What holds of all packets of a session holds of those that may be on their way. -/
theorem TcpSession.AllPackets.packets {P : MyuTcpPacket → Prop} {s : TcpSession}
    (h : s.AllPackets P) {packet : MyuTcpPacket} (hmem : packet ∈ s.packets) : P packet := by
  rcases List.mem_map.mp hmem with ⟨d, hd, rfl⟩
  exact h.sent d hd

namespace TcpSession

/-- A session as {lit}`create_session` returns it, with any random draws and addresses. -/
inductive Created : TcpSession → Prop
  | mk (initialSendSeq initialRecvSeq : UInt32) (listenerPort port : UInt16) (remoteIp : String)
      (remotePort : UInt16) :
      Created (createSession initialSendSeq initialRecvSeq listenerPort port remoteIp remotePort)

section Created

variable {s : TcpSession}

/-- A created session is closed. -/
theorem Created.state (h : Created s) : s.state = .closed := by
  cases h
  rfl

/-- A created session has sent nothing. -/
theorem Created.sent (h : Created s) : s.sent = [] := by
  cases h
  rfl

/-- A created session has nothing to send. -/
theorem Created.sendBuffer (h : Created s) : s.sendBuffer = emptyRing := by
  cases h
  rfl

/-- A created session has counted no duplicate. -/
theorem Created.dupAckCount (h : Created s) : s.dupAckCount = 0 := by
  cases h
  rfl

/-- A created session has no active timer. -/
theorem Created.activeAt (h : Created s) (k : UInt32) : s.timerManager.activeAt k = none := by
  cases h
  rfl

/-- A created session can listen. -/
theorem Created.listen (h : Created s) : s.listen = s.transitionTo .listen := by
  rw [TcpSession.listen, if_neg (not_not.mpr h.state)]

/-- The timers of a created session have the numbers of their packets. -/
theorem Created.keyed (h : Created s) : s.Keyed := by
  intro k t ht
  rw [h.activeAt k] at ht
  contradiction

end Created

end TcpSession

/-- An event of one of the two sessions. -/
structure ConnectionEvent where
  side : Side
  event : Event

/-- The sessions of two peers.  What each has sent is in its own log. -/
structure Connection where
  a : TcpSession
  b : TcpSession

namespace Connection

/-- The session of an end. -/
def session (c : Connection) : Side → TcpSession
  | .a => c.a
  | .b => c.b

/-- The configuration with another session on one side. -/
def update (c : Connection) (side : Side) (s : TcpSession) : Connection :=
  match side with
  | .a => { c with a := s }
  | .b => { c with b := s }

/-- The end that is updated. -/
@[simp]
theorem session_update_self (c : Connection) (side : Side) (s : TcpSession) :
    (c.update side s).session side = s := by
  cases side <;> rfl

/-- The other end stays as it is. -/
@[simp]
theorem session_update_other (c : Connection) (side : Side) (s : TcpSession) :
    (c.update side s).session side.other = c.session side.other := by
  cases side <;> rfl

/-- The network delivers only packets of the other side. -/
def Possible (c : Connection) (e : ConnectionEvent) : Prop :=
  match e.event with
  | .input packet _ => packet ∈ (c.session e.side.other).packets
  | _ => True

instance (c : Connection) (e : ConnectionEvent) : Decidable (c.Possible e) := by
  unfold Possible
  split <;> infer_instance

/-- One event of one side. -/
def step : StepFn Connection ConnectionEvent := fun c e =>
  if c.Possible e then (TcpSession.step (c.session e.side) e.event).map (c.update e.side)
  else none

/-- A step is a step of one of the sessions, and a delivered packet was sent. -/
theorem step_eq_some_iff {c c' : Connection} {e : ConnectionEvent} :
    step c e = some c' ↔ c.Possible e ∧
      ∃ s', TcpSession.step (c.session e.side) e.event = some s' ∧ c' = c.update e.side s' := by
  unfold step
  split <;> rename_i hpossible
  · simp [hpossible, eq_comm]
  · simp [hpossible]

/-- A packet that may arrive has been sent by the other end. -/
theorem possible_input {c : Connection} {e : ConnectionEvent} (hpossible : c.Possible e)
    {packet : MyuTcpPacket} {iss : UInt32} (he : e.event = .input packet iss) :
    packet ∈ (c.session e.side.other).packets := by
  unfold Possible at hpossible
  rw [he] at hpossible
  exact hpossible

/-- The initial numbers of the two sides. -/
def isn (x y : UInt32) : Side → UInt32
  | .a => x
  | .b => y

/-- The peer of the session that the concrete runs start from. -/
def serverSession : TcpSession := TcpSession.createSession 0 0 8000 8000 "10.0.0.1" 7000

/-- A stamped control packet between the ports of the concrete runs. -/
def wirePacket (source dest : UInt16) (flags : UInt8) (seqNum ackNum : UInt32) : MyuTcpPacket :=
  calculateChecksum
    { header :=
        { sPort := htons source, dPort := htons dest, seqNum := htonl seqNum
          ackNum := htonl ackNum, dataOffsetAndReserved := (5 : UInt8) <<< 4, flags := flags
          windowSize := htons 1024, checksum := 0, urgentPtr := 0 }
      payload := [] }

/-- The client of the concrete runs is a created session. -/
theorem created_clientSession : TcpSession.Created TcpSession.clientSession := .mk _ _ _ _ _ _

/-- The server of the concrete runs is a created session. -/
theorem created_serverSession : TcpSession.Created serverSession := .mk _ _ _ _ _ _

/-! ## The order of establishment -/

/-- Record the side that enters ESTABLISHED with a step. -/
def recordEntry (c : Connection) (e : ConnectionEvent) (c' : Connection)
    (entered : List Side) : List Side :=
  if (c.session e.side).state ≠ .established ∧ (c'.session e.side).state = .established then
    entered ++ [e.side]
  else entered

/-- The connection, and the sides that have entered ESTABLISHED so far, oldest first. -/
def withEntries : StepFn (Connection × List Side) ConnectionEvent := step.withGhost recordEntry

/-- A step with its session: the side of the step has entered when it had entered before or
the step establishes it, the other side when it had entered before. -/
theorem withEntries_step {g g' : Connection × List Side} {e : ConnectionEvent}
    (h : withEntries g e = some g') :
    g.1.Possible e ∧ ∃ s', TcpSession.step (g.1.session e.side) e.event = some s' ∧
      g'.1 = g.1.update e.side s' ∧
      (e.side ∈ g'.2 ↔ e.side ∈ g.2 ∨ ((g.1.session e.side).establishment e.event).isSome) ∧
      (e.side.other ∈ g'.2 ↔ e.side.other ∈ g.2) := by
  rcases StepFn.withGhost_eq_some.mp h with ⟨hstep, hghost⟩
  rcases step_eq_some_iff.mp hstep with ⟨hpossible, s', hs', hupdate⟩
  refine ⟨hpossible, s', hs', hupdate, ?_⟩
  have henters := TcpSession.establishes_iff hs'
  rw [hghost, recordEntry, hupdate, session_update_self]
  split <;> rename_i hentry
  · rcases henters.mp hentry with ⟨m, hm, -⟩
    simp [hm]
  · cases hm : (g.1.session e.side).establishment e.event with
    | none => simp
    | some m =>
        rcases TcpSession.step_of_establishment hm with ⟨hestablished, hstate, hbefore⟩
        rw [hs', Option.some.injEq] at hestablished
        refine absurd ⟨hbefore, ?_⟩ hentry
        rw [hestablished, TcpSession.handleTrySend_state, hstate]

end Connection

end MyuTcp
