import MyuTcp.Core.Callbacks
import MyuTcp.Network.UdpDriver

/-!
# TcpStack

The stack of {lit}`include/myutcp/core/stack.h`: the sessions by remote address, the
receive callback of the one driver they share and the ready queue of the idle handle.
The callbacks of its sessions are the default ones.  Sessions are numbered in the
order of their construction; a number stands for a pointer to the session.

A pointer to a destroyed session is never followed: an event that would follow one is
not enabled.  {lit}`stop_and_destory` closes every session and ends the stack, so its
effect on the network is that of the {lit}`close()` calls.

Main results:

- Theorem {lit}`find?_stepSession_of_ne`: an event of one session changes no other entry.
- Theorem {lit}`find?_commit`: it keeps its own entry unless it calls back that the
  session is closed.
- Theorem {lit}`openSession_eq`: an unknown address gets a new session, which listens before
  it takes the packet.
- Theorem {lit}`step_effect`: what a step does to the sessions and to the network.
-/

namespace MyuTcp

open Library

/-! ## Addresses -/

instance instLinearOrderUInt16 : LinearOrder UInt16 where
  le_refl := UInt16.le_refl
  le_trans _ _ _ := UInt16.le_trans
  lt_iff_le_not_ge a b := by
    rw [UInt16.not_le]
    exact ⟨fun h => ⟨UInt16.le_of_lt h, h⟩, fun h => h.2⟩
  le_antisymm _ _ := UInt16.le_antisymm
  le_total := UInt16.le_total
  toDecidableLE := inferInstance
  toDecidableEq := inferInstance
  toDecidableLT := inferInstance
  min_def _ _ := rfl
  max_def _ _ := rfl
  compare_eq_compareOfLessAndEq _ _ := rfl

/-- An address and a port, ordered as {lit}`std::pair` orders them. -/
abbrev Address := String ×ₗ UInt16

namespace Address

/-- The key made of an address and a port. -/
def of (ip : String) (port : UInt16) : Address := toLex (ip, port)

/-- The address of a key. -/
def ip (k : Address) : String := (ofLex k).1

/-- The port of a key. -/
def port (k : Address) : UInt16 := (ofLex k).2

end Address

/-- The peer of the concrete runs of later files. -/
def clientAddress : Address := Address.of "10.0.0.2" 8000

/-- A second peer of the concrete runs. -/
def otherAddress : Address := Address.of "10.0.0.3" 8000

/-! ## Data -/

/-- The random draws of a constructed session, and its indeterminate ports. -/
structure SessionSeeds where
  initialSendSeq : UInt32
  initialRecvSeq : UInt32
  listenerPort : UInt16
  port : UInt16

/-- The seeds of the concrete runs. -/
def zeroSeeds : SessionSeeds where
  initialSendSeq := 0
  initialRecvSeq := 0
  listenerPort := 0
  port := 0

/-- A session of the stack and its mark {lit}`is_in_ready_queue_`. -/
structure StackSession where
  id : Nat
  session : TcpSession
  isInReadyQueue : Bool

/-- The receive callback of the driver: none, the one of {lit}`TcpStack::listen`, or the
one that {lit}`connect()` of a session has installed. -/
inductive OnReceive
  | unset
  | stack
  | session (id : Nat)
deriving DecidableEq, Repr

/-- The state of {lit}`TcpStack`: the sessions by address, the receive callback of the driver,
the queue of sessions with an event, the batch of the idle callback, and the datagrams sent.
{lit}`created` counts the sessions constructed so far and numbers them, where the source has
their addresses in memory. -/
structure TcpStack where
  tcpSessions : OrderedMap Address StackSession
  created : Nat
  onReceive : OnReceive
  readyQueue : List Nat
  processingBatch : List Nat
  idleActive : Bool
  sent : List Datagram

namespace TcpStack

/-- The constructor. -/
def new : TcpStack where
  tcpSessions := OrderedMap.empty
  created := 0
  onReceive := .unset
  readyQueue := []
  processingBatch := []
  idleActive := false
  sent := []

/-! ## Sessions and their callbacks -/

/-- An address that is in use keeps its session; the new one is discarded. -/
def createSession (k : Address) (seeds : SessionSeeds) (st : TcpStack) : TcpStack :=
  { st with
    tcpSessions := st.tcpSessions.tryEmplace k
      { id := st.created
        session := TcpSession.createSession seeds.initialSendSeq seeds.initialRecvSeq
          seeds.listenerPort seeds.port k.ip k.port
        isInReadyQueue := false }
    created := st.created + 1 }

/-- Append a session to {lit}`ready_queue_` and start the idle handle. -/
def enqueueReadySession (id : Nat) (st : TcpStack) : TcpStack :=
  { st with readyQueue := st.readyQueue ++ [id], idleActive := true }

/-- {lit}`_trigger_event` of the session under a key. -/
def triggerEvent (k : Address) (st : TcpStack) : TcpStack :=
  match st.tcpSessions.find? k with
  | some entry =>
      if entry.isInReadyQueue then st
      else
        { st with
          tcpSessions := st.tcpSessions.insert k { entry with isInReadyQueue := true }
          }.enqueueReadySession entry.id
  | none => st

/-- What a callback of the session under a key does in the stack.  No callback is set
for an established connection. -/
def runCallback (k : Address) (id : Nat) (st : TcpStack) : CallbackCall → TcpStack
  | .setOnReceive => { st with onReceive := .session id }
  | .established => st
  | .data _ => st.triggerEvent k
  | .closed => { st with tcpSessions := st.tcpSessions.erase k }

/-- Store a session after one of its steps, and run the callbacks that the step made. -/
def commit (k : Address) (entry : StackSession) (s : TcpSession) (st : TcpStack) : TcpStack :=
  (TcpSession.newCalls entry.session s).foldl (runCallback k entry.id)
    { st with
      tcpSessions := st.tcpSessions.insert k { entry with session := s }
      sent := st.sent ++ TcpSession.newDatagrams entry.session s }

/-- One event of the session under a key. -/
def stepSession (k : Address) (e : Event) (st : TcpStack) : Option TcpStack :=
  match st.tcpSessions.find? k with
  | some entry => (TcpSession.step entry.session e).map fun s => st.commit k entry s
  | none => none

/-! ## Datagrams -/

/-- The reset that the stack sends: a zeroed header with its flag, and no checksum. -/
def resetPacket : MyuTcpPacket where
  header :=
    { sPort := 0, dPort := 0, seqNum := 0, ackNum := 0, dataOffsetAndReserved := 0,
      flags := flagRst, windowSize := 0, checksum := 0, urgentPtr := 0 }
  payload := []

/-- The key of the session with a number, while it exists. -/
def keyOf (id : Nat) (st : TcpStack) : Option Address :=
  (st.tcpSessions.entries.find? fun e => e.2.id = id).map Prod.fst

/-- What the installed receive callback does with a packet. -/
inductive Route
  | drop
  | input (k : Address)
  | dangling
  | openSession
  | reset
deriving DecidableEq

/-- The choice of the receive callback for a packet from an address. -/
def route (k : Address) (packet : MyuTcpPacket) (st : TcpStack) : Route :=
  match st.onReceive with
  | .unset => .drop
  | .session id =>
      match st.keyOf id with
      | some j => .input j
      | none => .dangling
  | .stack =>
      if (st.tcpSessions.find? k).isSome then .input k
      else if packet.header.flags = flagSyn then .openSession
      else .reset

/-- A new session that listens and takes the packet that opened it. -/
def openSession (k : Address) (packet : MyuTcpPacket) (seeds : SessionSeeds) (iss : UInt32)
    (st : TcpStack) : Option TcpStack :=
  ((st.createSession k seeds).stepSession k (.setRemoteAddr k.ip k.port)).bind fun st =>
    (st.stepSession k .listen).bind fun st =>
      st.stepSession k (.input packet iss)

/-- A datagram from an address. -/
def receive (k : Address) (bytes : List UInt8) (seeds : SessionSeeds) (iss : UInt32)
    (st : TcpStack) : Option TcpStack :=
  match UdpDriver.onUvRecv bytes with
  | none => some st
  | some packet =>
      match st.route k packet with
      | .drop => some st
      | .input j => st.stepSession j (.input packet iss)
      | .dangling => none
      | .openSession => st.openSession k packet seeds iss
      | .reset =>
          some { st with
            sent := st.sent ++ [{ packet := resetPacket, destIp := k.ip, destPort := k.port }] }

/-! ## The idle handle -/

/-- The idle callback takes the ready queue over. -/
def takeReadyQueue (st : TcpStack) : Option TcpStack :=
  if st.idleActive && st.processingBatch.isEmpty then
    some { st with
      idleActive := false, processingBatch := st.readyQueue, readyQueue := [] }
  else none

/-- The next session of the batch leaves the ready queue; the calls that the
application logic then makes are events of their own. -/
def dispatchNext (st : TcpStack) : Option TcpStack :=
  match st.processingBatch with
  | [] => none
  | id :: rest =>
      (st.keyOf id).bind fun k =>
        (st.tcpSessions.find? k).map fun entry =>
          { st with
            processingBatch := rest
            tcpSessions := st.tcpSessions.insert k { entry with isInReadyQueue := false } }

/-! ## Steps -/

/-- The event is a call of the session's owner. -/
def isCall : Event → Bool
  | .input .. | .expire .. | .expire2Msl => false
  | _ => true

/-- The event is the expiry of a timer. -/
def isExpiry : Event → Bool
  | .expire .. | .expire2Msl => true
  | _ => false

/-- What can happen to a stack.  Packets reach its sessions as datagrams only. -/
inductive StackEvent
  | createSession (k : Address) (seeds : SessionSeeds)
  | listen
  | session (k : Address) (e : Event)
  | datagram (k : Address) (bytes : List UInt8) (seeds : SessionSeeds) (iss : UInt32)
  | takeReadyQueue
  | dispatchNext

/-- One event.  Datagrams and expiries wait until the idle callback has returned. -/
def step : StepFn TcpStack StackEvent
  | st, .createSession k seeds => some (st.createSession k seeds)
  | st, .listen => some { st with onReceive := .stack }
  | st, .session k e =>
      if isCall e || (isExpiry e && st.processingBatch.isEmpty) then st.stepSession k e
      else none
  | st, .datagram k bytes seeds iss =>
      if st.processingBatch.isEmpty then st.receive k bytes seeds iss else none
  | st, .takeReadyQueue => st.takeReadyQueue
  | st, .dispatchNext => st.dispatchNext

/-! ## Callbacks of one session -/

section Callbacks

variable {st : TcpStack} {k j : Address} {id : Nat}

/-- A trigger changes the entry of its own address only. -/
theorem find?_triggerEvent_of_ne (h : j ≠ k) :
    (st.triggerEvent k).tcpSessions.find? j = st.tcpSessions.find? j := by
  rw [triggerEvent]
  split
  · split
    · rfl
    · exact OrderedMap.find?_insert_of_ne _ _ h
  · rfl

/-- A trigger marks the entry of its key and keeps the rest of it. -/
theorem find?_triggerEvent {entry : StackSession} (h : st.tcpSessions.find? k = some entry) :
    (st.triggerEvent k).tcpSessions.find? k = some { entry with isInReadyQueue := true } := by
  rw [triggerEvent, h]
  dsimp only
  split <;> rename_i hready
  · rw [h, ← hready]
  · exact OrderedMap.find?_insert_self _ _ _

/-- A callback changes the entry of its own address only. -/
theorem find?_runCallback_of_ne (h : j ≠ k) (call : CallbackCall) :
    (st.runCallback k id call).tcpSessions.find? j = st.tcpSessions.find? j := by
  cases call with
  | setOnReceive => rfl
  | established => rfl
  | data size => exact find?_triggerEvent_of_ne h
  | closed =>
      rw [runCallback, OrderedMap.find?_erase, if_neg h]

/-- The callbacks of a session touch its own entry only. -/
theorem find?_runCallbacks_of_ne (h : j ≠ k) (calls : List CallbackCall) :
    (calls.foldl (runCallback k id) st).tcpSessions.find? j = st.tcpSessions.find? j := by
  induction calls generalizing st with
  | nil => rfl
  | cons call calls ih => rw [List.foldl_cons, ih, find?_runCallback_of_ne h]

/-- Callbacks of an erased session create no entry. -/
theorem find?_runCallbacks_of_none (h : st.tcpSessions.find? k = none)
    (calls : List CallbackCall) :
    (calls.foldl (runCallback k id) st).tcpSessions.find? k = none := by
  induction calls generalizing st with
  | nil => exact h
  | cons call calls ih =>
      rw [List.foldl_cons]
      apply ih
      cases call with
      | setOnReceive => exact h
      | established => exact h
      | data size => rw [runCallback, triggerEvent, h]; exact h
      | closed => rw [runCallback, OrderedMap.find?_erase, if_pos rfl]

/-- The entry survives exactly when the session has not called that it is closed. -/
theorem find?_runCallbacks {entry : StackSession} (h : st.tcpSessions.find? k = some entry)
    (calls : List CallbackCall) :
    if .closed ∈ calls then (calls.foldl (runCallback k id) st).tcpSessions.find? k = none
    else ∃ ready, (calls.foldl (runCallback k id) st).tcpSessions.find? k =
      some { entry with isInReadyQueue := ready } := by
  induction calls generalizing st entry with
  | nil => exact ⟨entry.isInReadyQueue, h⟩
  | cons call calls ih =>
      rw [List.foldl_cons]
      cases call with
      | setOnReceive =>
          have hrest := @ih (st.runCallback k id .setOnReceive) entry h
          simpa only [List.mem_cons, reduceCtorEq, false_or] using hrest
      | established =>
          have hrest := @ih (st.runCallback k id .established) entry h
          simpa only [List.mem_cons, reduceCtorEq, false_or] using hrest
      | data size =>
          have hrest := @ih (st.runCallback k id (.data size)) _ (find?_triggerEvent h)
          simpa only [List.mem_cons, reduceCtorEq, false_or] using hrest
      | closed =>
          rw [if_pos List.mem_cons_self]
          apply find?_runCallbacks_of_none
          rw [runCallback, OrderedMap.find?_erase, if_pos rfl]

/-- What no callback changes. -/
theorem runCallback_frame (st : TcpStack) (k : Address) (id : Nat) (call : CallbackCall) :
    (st.runCallback k id call).created = st.created ∧
      (st.runCallback k id call).sent = st.sent ∧
      (st.runCallback k id call).processingBatch = st.processingBatch := by
  cases call with
  | data size =>
      rw [runCallback, triggerEvent]
      split
      · split
        · exact ⟨rfl, rfl, rfl⟩
        · exact ⟨rfl, rfl, rfl⟩
      · exact ⟨rfl, rfl, rfl⟩
  | _ => exact ⟨rfl, rfl, rfl⟩

/-- No callback sends a packet or constructs a session. -/
theorem runCallbacks_frame (calls : List CallbackCall) :
    (calls.foldl (runCallback k id) st).created = st.created ∧
      (calls.foldl (runCallback k id) st).sent = st.sent ∧
      (calls.foldl (runCallback k id) st).processingBatch = st.processingBatch := by
  induction calls generalizing st with
  | nil => exact ⟨rfl, rfl, rfl⟩
  | cons call calls ih =>
      have hframe := runCallback_frame st k id call
      have hrest := @ih (st.runCallback k id call)
      rw [List.foldl_cons, hrest.1, hrest.2.1, hrest.2.2]
      exact hframe

end Callbacks

/-! ## Events of one session -/

section SessionEvents

variable {st st' : TcpStack} {k j : Address} {e : Event}

/-- A step of a stored session, with its outcome committed. -/
theorem stepSession_eq_some_iff :
    st.stepSession k e = some st' ↔ ∃ entry s, st.tcpSessions.find? k = some entry ∧
      TcpSession.step entry.session e = some s ∧ st' = st.commit k entry s := by
  rw [stepSession]
  split <;> rename_i hfind
  · rename_i entry
    rw [Option.map_eq_some_iff]
    constructor
    · rintro ⟨s, hs, rfl⟩
      exact ⟨entry, s, hfind, hs, rfl⟩
    · rintro ⟨entry', s, hfind', hs, rfl⟩
      rw [hfind, Option.some.injEq] at hfind'
      subst hfind'
      exact ⟨s, hs, rfl⟩
  · simp [hfind]

/-- An event of one session changes no other entry. -/
theorem find?_stepSession_of_ne (h : st.stepSession k e = some st') (hne : j ≠ k) :
    st'.tcpSessions.find? j = st.tcpSessions.find? j := by
  rcases stepSession_eq_some_iff.mp h with ⟨entry, s, -, -, rfl⟩
  rw [commit, find?_runCallbacks_of_ne hne]
  exact OrderedMap.find?_insert_of_ne _ _ hne

/-- An event keeps the entry of its session unless the session calls that it is closed. -/
theorem find?_commit (k : Address) (entry : StackSession) (s : TcpSession) (st : TcpStack) :
    if .closed ∈ TcpSession.newCalls entry.session s then
      (st.commit k entry s).tcpSessions.find? k = none
    else ∃ ready, (st.commit k entry s).tcpSessions.find? k =
      some { entry with session := s, isInReadyQueue := ready } := by
  rw [commit]
  generalize TcpSession.newCalls entry.session s = calls
  exact @find?_runCallbacks _ k entry.id { entry with session := s }
    (OrderedMap.find?_insert_self st.tcpSessions k { entry with session := s }) calls

/-- Committing a step numbers no session. -/
theorem created_commit (k : Address) (entry : StackSession) (s : TcpSession) (st : TcpStack) :
    (st.commit k entry s).created = st.created := by
  rw [commit, (runCallbacks_frame _).1]

/-- The datagrams of a step are appended to those of the stack. -/
theorem sent_commit (k : Address) (entry : StackSession) (s : TcpSession) (st : TcpStack) :
    (st.commit k entry s).sent = st.sent ++ TcpSession.newDatagrams entry.session s := by
  rw [commit, (runCallbacks_frame _).2.1]

/-- Only {lit}`connect()` replaces the receive callback. -/
theorem onReceive_commit {entry : StackSession} {s : TcpSession}
    (h : .setOnReceive ∉ TcpSession.newCalls entry.session s) :
    (st.commit k entry s).onReceive = st.onReceive := by
  have hcalls : ∀ (calls : List CallbackCall) (st : TcpStack), .setOnReceive ∉ calls →
      (calls.foldl (runCallback k entry.id) st).onReceive = st.onReceive := by
    intro calls
    induction calls with
    | nil => exact fun st _ => rfl
    | cons call calls ih =>
        intro st hnot
        rw [List.mem_cons, not_or] at hnot
        rw [List.foldl_cons, ih _ hnot.2]
        cases call with
        | setOnReceive => exact absurd rfl hnot.1
        | data size =>
            rw [runCallback, triggerEvent]
            split
            · split <;> rfl
            · rfl
        | _ => rfl
  rw [commit, hcalls _ _ h]

/-- An event that is no {lit}`connect()` keeps the receive callback. -/
theorem onReceive_stepSession (hconnect : ∀ iss, e ≠ .connect iss)
    (h : st.stepSession k e = some st') : st'.onReceive = st.onReceive := by
  rcases stepSession_eq_some_iff.mp h with ⟨entry, s, -, hs, rfl⟩
  apply onReceive_commit
  by_cases hends : entry.session.Ends e
  · rw [TcpSession.newCalls_of_append (TcpSession.calls_of_ends hends hs).1]
    simp
  · rcases TcpSession.calls_of_not_ends hends hs with ⟨l, hl, hmutes⟩
    rw [TcpSession.newCalls_of_append hl]
    intro hmem
    rcases hmutes.2 hmem with ⟨iss, hiss⟩
    exact hconnect iss hiss

/-- A step that leaves the session as it was leaves the stack as it was. -/
theorem commit_self {entry : StackSession} (h : st.tcpSessions.find? k = some entry) :
    st.commit k entry entry.session = st := by
  have hcalls : TcpSession.newCalls entry.session entry.session = [] := List.drop_length
  have hsent : TcpSession.newDatagrams entry.session entry.session = [] := List.drop_length
  rw [commit, hcalls, hsent, List.append_nil, List.foldl_nil]
  rw [OrderedMap.insert_eq_self h]

end SessionEvents

/-! ## New sessions -/

section NewSessions

variable {st st' : TcpStack} {k j : Address}

/-- The session that {lit}`create_session` constructs. -/
def freshSession (k : Address) (seeds : SessionSeeds) (id : Nat) : StackSession where
  id := id
  session := TcpSession.createSession seeds.initialSendSeq seeds.initialRecvSeq
    seeds.listenerPort seeds.port k.ip k.port
  isInReadyQueue := false

/-- An address that has a session keeps it. -/
theorem find?_createSession (k j : Address) (seeds : SessionSeeds) (st : TcpStack) :
    (st.createSession k seeds).tcpSessions.find? j =
      if j = k then some ((st.tcpSessions.find? k).getD (freshSession k seeds st.created))
      else st.tcpSessions.find? j :=
  OrderedMap.find?_tryEmplace _ _ _ _

/-- The session that a SYN opens, before it takes the SYN. -/
def listeningSession (k : Address) (seeds : SessionSeeds) (id : Nat) : StackSession :=
  { freshSession k seeds id with session := (freshSession k seeds id).session.listen }

/-- An unknown address gets a new session, which listens before it takes the packet. -/
theorem openSession_eq (h : st.tcpSessions.find? k = none) (packet : MyuTcpPacket)
    (seeds : SessionSeeds) (iss : UInt32) :
    ∃ st₁ : TcpStack, st.openSession k packet seeds iss = st₁.stepSession k (.input packet iss) ∧
      st₁.tcpSessions.find? k = some (listeningSession k seeds st.created) ∧
      (∀ j, j ≠ k → st₁.tcpSessions.find? j = st.tcpSessions.find? j) ∧
      st₁.sent = st.sent ∧ st₁.onReceive = st.onReceive := by
  have hcreated : (st.createSession k seeds).tcpSessions.find? k =
      some (freshSession k seeds st.created) := by
    rw [find?_createSession, if_pos rfl, h, Option.getD_none]
  have haddr : (st.createSession k seeds).stepSession k (.setRemoteAddr k.ip k.port) =
      some (st.createSession k seeds) := by
    apply stepSession_eq_some_iff.mpr
    exact ⟨_, (freshSession k seeds st.created).session, hcreated, rfl,
      (commit_self hcreated).symm⟩
  have hlisten : (st.createSession k seeds).stepSession k .listen =
      some ((st.createSession k seeds).commit k (freshSession k seeds st.created)
        (listeningSession k seeds st.created).session) :=
    stepSession_eq_some_iff.mpr ⟨_, _, hcreated, rfl, rfl⟩
  refine ⟨(st.createSession k seeds).commit k (freshSession k seeds st.created)
    (listeningSession k seeds st.created).session, ?_, ?_, ?_, ?_, rfl⟩
  · rw [openSession, haddr, Option.bind_some, hlisten, Option.bind_some]
  · exact OrderedMap.find?_insert_self _ _ _
  · intro j hj
    rw [find?_stepSession_of_ne hlisten hj, find?_createSession, if_neg hj]
  · exact List.append_nil _

/-- The number of a session leads to its key. -/
theorem find?_of_keyOf {id : Nat} (h : st.keyOf id = some k) :
    ∃ entry, st.tcpSessions.find? k = some entry ∧ entry.id = id := by
  rw [keyOf, Option.map_eq_some_iff] at h
  rcases h with ⟨⟨j, entry⟩, hfound, rfl⟩
  refine ⟨entry, ?_, by simpa using List.find?_some hfound⟩
  exact OrderedMap.find?_of_mem_entries (List.mem_of_find?_eq_some hfound)

end NewSessions

/-! ## What a step does -/

/-- The packet of a datagram reaches the session under a key. -/
def Delivers (st : TcpStack) (k : Address) (bytes : List UInt8) (j : Address)
    (packet : MyuTcpPacket) : Prop :=
  UdpDriver.onUvRecv bytes = some packet ∧ st.route k packet = .input j

/-- The datagram is answered with a reset by the stack itself. -/
def Resets (st : TcpStack) (k : Address) (bytes : List UInt8) : Prop :=
  (UdpDriver.onUvRecv bytes).any (fun packet => st.route k packet = .reset) = true

instance (st : TcpStack) (k : Address) (bytes : List UInt8) : Decidable (st.Resets k bytes) :=
  inferInstanceAs (Decidable (_ = _))

/-- The entry of a key is the same but for its mark. -/
def SameSession (a b : Option StackSession) : Prop :=
  a.map (fun entry => (entry.id, entry.session)) = b.map fun entry => (entry.id, entry.session)

/-- The effect of a step on the sessions and on the network. -/
inductive Effect (st : TcpStack) : StackEvent → TcpStack → Prop
  | quiet {ev : StackEvent} {st' : TcpStack}
      (hkept : ∀ k, SameSession (st'.tcpSessions.find? k) (st.tcpSessions.find? k))
      (hsent : st'.sent = st.sent)
      (hcallback : st'.onReceive = st.onReceive ∨ st'.onReceive = .stack) : Effect st ev st'
  | created (k : Address) (seeds : SessionSeeds) :
      Effect st (.createSession k seeds) (st.createSession k seeds)
  | call {k : Address} {e : Event} {st' : TcpStack} (hcall : ∀ packet iss, e ≠ .input packet iss)
      (hstep : st.stepSession k e = some st') : Effect st (.session k e) st'
  | delivered {k j : Address} {bytes : List UInt8} {seeds : SessionSeeds} {iss : UInt32}
      {packet : MyuTcpPacket} {st' : TcpStack} (hroute : st.Delivers k bytes j packet)
      (hstep : st.stepSession j (.input packet iss) = some st') :
      Effect st (.datagram k bytes seeds iss) st'
  | opened {k : Address} {bytes : List UInt8} {seeds : SessionSeeds} {iss : UInt32}
      {packet : MyuTcpPacket} {st₁ st' : TcpStack}
      (hparse : UdpDriver.onUvRecv bytes = some packet) (hflags : packet.header.flags = flagSyn)
      (hunknown : st.tcpSessions.find? k = none)
      (hfind : st₁.tcpSessions.find? k = some (listeningSession k seeds st.created))
      (hothers : ∀ j, j ≠ k → st₁.tcpSessions.find? j = st.tcpSessions.find? j)
      (hsent : st₁.sent = st.sent) (hcallback : st₁.onReceive = st.onReceive)
      (hstep : st₁.stepSession k (.input packet iss) = some st') :
      Effect st (.datagram k bytes seeds iss) st'
  | resets {k : Address} {bytes : List UInt8} {seeds : SessionSeeds} {iss : UInt32}
      (hresets : st.Resets k bytes) :
      Effect st (.datagram k bytes seeds iss)
        { st with
          sent := st.sent ++ [{ packet := resetPacket, destIp := k.ip, destPort := k.port }] }

section Effects

variable {st st' : TcpStack}

/-- What the stack does with a datagram that the driver accepts. -/
theorem receive_of_parse {k : Address} {bytes : List UInt8} {packet : MyuTcpPacket}
    (hparse : UdpDriver.onUvRecv bytes = some packet) (seeds : SessionSeeds) (iss : UInt32) :
    st.receive k bytes seeds iss =
      match st.route k packet with
      | .drop => some st
      | .input j => st.stepSession j (.input packet iss)
      | .dangling => none
      | .openSession => st.openSession k packet seeds iss
      | .reset =>
          some { st with
            sent := st.sent ++
              [{ packet := resetPacket, destIp := k.ip, destPort := k.port }] } := by
  rw [receive, hparse]

/-- A datagram is received between two dispatches only. -/
theorem receive_of_step {k : Address} {bytes : List UInt8} {seeds : SessionSeeds} {iss : UInt32}
    (h : step st (.datagram k bytes seeds iss) = some st') :
    st.processingBatch.isEmpty = true ∧ st.receive k bytes seeds iss = some st' := by
  rw [step] at h
  split at h <;> rename_i hempty
  · exact ⟨hempty, h⟩
  · contradiction

/-- A session is opened for a SYN from an unknown address. -/
theorem route_openSession {k : Address} {packet : MyuTcpPacket}
    (h : st.route k packet = .openSession) :
    st.tcpSessions.find? k = none ∧ packet.header.flags = flagSyn := by
  rw [route] at h
  split at h
  · contradiction
  · split at h
    · contradiction
    · contradiction
  · split at h <;> rename_i hknown
    · contradiction
    · split at h <;> rename_i hflags
      · exact ⟨by simpa using hknown, hflags⟩
      · contradiction

/-- What a received datagram does to the stack. -/
theorem effect_receive {k : Address} {bytes : List UInt8} {seeds : SessionSeeds} {iss : UInt32}
    (h : st.receive k bytes seeds iss = some st') :
    Effect st (.datagram k bytes seeds iss) st' := by
  rw [receive] at h
  split at h <;> rename_i hparse
  · cases h
    exact .quiet (fun _ => rfl) rfl (Or.inl rfl)
  rename_i packet
  split at h <;> rename_i hroute
  · cases h
    exact .quiet (fun _ => rfl) rfl (Or.inl rfl)
  · exact .delivered ⟨hparse, hroute⟩ h
  · contradiction
  · rcases route_openSession hroute with ⟨hunknown, hflags⟩
    rcases openSession_eq hunknown packet seeds iss with
      ⟨st₁, hopen, hfind, hothers, hsent, hcallback⟩
    rw [hopen] at h
    exact .opened hparse hflags hunknown hfind hothers hsent hcallback h
  · cases h
    apply Effect.resets
    rw [Resets, hparse]
    exact decide_eq_true hroute

/-- A dispatch changes marks and queue only. -/
theorem effect_dispatchNext (h : st.dispatchNext = some st') :
    Effect st .dispatchNext st' := by
  rw [dispatchNext] at h
  split at h
  · contradiction
  rename_i id rest hbatch
  rcases Option.bind_eq_some_iff.mp h with ⟨k, -, hk⟩
  rcases Option.map_eq_some_iff.mp hk with ⟨entry, hfind, rfl⟩
  apply Effect.quiet
  · intro j
    by_cases hj : j = k
    · rw [hj, SameSession, hfind, OrderedMap.find?_insert_self]
      rfl
    · rw [SameSession, OrderedMap.find?_insert_of_ne _ _ hj]
  · rfl
  · exact Or.inl rfl

/-- Every step has one of the listed effects. -/
theorem step_effect {ev : StackEvent} (h : step st ev = some st') : Effect st ev st' := by
  cases ev with
  | createSession k seeds => cases h; exact .created k seeds
  | listen => cases h; exact .quiet (fun _ => rfl) rfl (Or.inr rfl)
  | session k e =>
      rw [step] at h
      split at h <;> rename_i hevent
      · apply Effect.call _ h
        rintro packet iss rfl
        contradiction
      · contradiction
  | datagram k bytes seeds iss => exact effect_receive (receive_of_step h).2
  | takeReadyQueue =>
      rw [step, takeReadyQueue] at h
      split at h
      · cases h
        exact .quiet (fun _ => rfl) rfl (Or.inl rfl)
      · contradiction
  | dispatchNext => exact effect_dispatchNext h

end Effects

/-! ## The receive callback -/

/-- The event is no call of {lit}`connect()`. -/
def KeepsCallback : StackEvent → Prop
  | .session _ (.connect _) => False
  | _ => True

/-- The callback of {lit}`listen()` stays as long as no session connects. -/
theorem onReceive_step {st st' : TcpStack} {ev : StackEvent} (hkeeps : KeepsCallback ev)
    (hlisten : st.onReceive = .stack) (h : step st ev = some st') : st'.onReceive = .stack := by
  have hinput : ∀ packet iss iss', Event.input packet iss ≠ .connect iss' := by
    intro packet iss iss'
    simp
  have heffect := step_effect h
  cases heffect with
  | quiet hkept hsent hcallback =>
      rcases hcallback with hcallback | hcallback
      · exact hcallback.trans hlisten
      · exact hcallback
  | created k seeds => exact hlisten
  | @call k e _ hcall hstep =>
      have hconnect : ∀ iss, e ≠ .connect iss := by
        rintro iss rfl
        exact hkeeps
      rw [onReceive_stepSession hconnect hstep, hlisten]
  | delivered hdelivers hstep => rw [onReceive_stepSession (hinput _ _) hstep, hlisten]
  | opened hparse hflags hunknown hfind hothers hsent hcallback hstep =>
      rw [onReceive_stepSession (hinput _ _) hstep, hcallback, hlisten]
  | resets hresets => exact hlisten

end TcpStack

end MyuTcp
