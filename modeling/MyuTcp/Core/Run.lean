import MyuTcp.Core.Effects
import MyuTcp.Library.TransitionSystem

/-!
# Runs of one session

The events a session reacts to, its step function, and the moves a step is made
of.  A move is one of the state changes that the handlers compose; an invariant
is proved for each move once, and {lit}`step_moves` carries it over to steps.

Main results:

- Theorem {lit}`step_moves`: every step is a sequence of moves of its event.
- Theorem {lit}`Moves.preserves`: what every move preserves, a step preserves.
- Theorem {lit}`payloadSent_step`: the data segments that a step puts on the wire
  are those of its send attempts, timer expiries and fast retransmits apart.
-/

namespace MyuTcp

open Library

/-- What can happen to a session: calls of its owner, packets from the driver and
expiries of active timers.  A random draw of the source is part of its event. -/
inductive Event
  | setRemoteAddr (ip : String) (port : UInt16)
  | setListenerPort (port : UInt16)
  | connect (iss : UInt32)
  | listen
  | send (data : List UInt8)
  | recv (bufSize : Nat)
  | readAll
  | close
  | input (packet : MyuTcpPacket) (iss : UInt32)
  | expire (seqNum : UInt32)
  | expire2Msl

namespace TcpSession

/-- Expiry of the packet timer of a sequence number. -/
def expire (seqNum : UInt32) (s : TcpSession) : Option TcpSession :=
  (s.timerManager.fire seqNum).map fun r => { s with timerManager := r.2 }.runClosure r.1

/-- A timer expires only if it is active, and runs its closure when it has stopped. -/
theorem expire_eq_some_iff {s s' : TcpSession} {k : UInt32} :
    s.expire k = some s' ↔ ∃ t, s.timerManager.activeAt k = some t ∧
      s' = { s with timerManager := s.timerManager.stopTimer k }.runClosure t.callback := by
  simp only [expire, Option.map_eq_some_iff, Prod.exists, TimerManager.fire_eq_some_iff]
  constructor
  · rintro ⟨c, m, ⟨t, hactive, rfl, rfl⟩, rfl⟩
    exact ⟨t, hactive, rfl⟩
  · rintro ⟨t, hactive, rfl⟩
    exact ⟨_, _, ⟨t, hactive, rfl, rfl⟩, rfl⟩

/-- One event.  It is not enabled when its timer is not active, and when the session
would not return from it. -/
def step : StepFn TcpSession Event
  | s, .setRemoteAddr ip port => some (s.setRemoteAddr ip port)
  | s, .setListenerPort port => some (s.setListenerPort port)
  | s, .connect iss => some (s.connect iss)
  | s, .listen => some s.listen
  | s, .send data => some (s.send data).2
  | s, .recv bufSize => some (s.recv bufSize).2
  | s, .readAll => some s.readAll.2
  | s, .close => some s.close
  | s, .input packet iss => s.input packet iss
  | s, .expire seqNum => s.expire seqNum
  | s, .expire2Msl =>
      if s.timerManager.twoMslActive then
        some { s with timerManager := s.timerManager.stop2Msl }.handle2MslTimeout
      else none

/-- {lit}`TcpStack::create_session`. -/
def createSession (initialSendSeq initialRecvSeq : UInt32) (listenerPort port : UInt16)
    (remoteIp : String) (remotePort : UInt16) : TcpSession :=
  (new initialSendSeq initialRecvSeq listenerPort port).setRemoteAddr remoteIp remotePort

/-- A stamped packet with the given fields, as a peer sends it. -/
def peerPacket (flags : UInt8) (seqNum ackNum : UInt32) (window : UInt16)
    (payload : List UInt8) : MyuTcpPacket :=
  calculateChecksum
    { header :=
        { sPort := 0, dPort := 0, seqNum := htonl seqNum, ackNum := htonl ackNum
          dataOffsetAndReserved := (5 : UInt8) <<< 4, flags := flags
          windowSize := htons window, checksum := 0, urgentPtr := 0 }
      payload := payload }

/-- The session that the concrete runs of later files start from. -/
def clientSession : TcpSession := createSession 0 0 7000 7000 "10.0.0.2" 8000

/-- An established client. -/
def establishedRun : List Event :=
  [.connect 0, .input (peerPacket (flagSyn ||| flagAck) 100 1 1024 []) 0]

/-- An established client that has one byte in flight. -/
def byteInFlightRun : List Event :=
  [.connect 0, .input (peerPacket (flagSyn ||| flagAck) 100 1 1024 []) 0, .send [7]]

/-- The packet passes the checks of {lit}`input`. -/
def Admitted (packet : MyuTcpPacket) : Prop :=
  verifyChecksum packet = true ∧ packet.has flagRst = false ∧ lacksFlags packet = false

instance (packet : MyuTcpPacket) : Decidable (Admitted packet) :=
  inferInstanceAs (Decidable (_ ∧ _))

/-- A control packet with SYN or ACK passes the checks of its receiver. -/
theorem admitted_datagram (t : TcpSession) {flags : UInt8} (ackNum : UInt32)
    (hrst : flags &&& flagRst = 0) (hflags : flags &&& flagSyn ≠ 0 ∨ flags &&& flagAck ≠ 0) :
    Admitted (t.datagram flags ackNum []).packet := by
  refine ⟨verifyChecksum_calculateChecksum _ (by simp), by simp [hrst], ?_⟩
  unfold lacksFlags
  rcases hflags with hflags | hflags <;> simp [hflags]

/-- The event is an acknowledgment that {lit}`_handle_ack` accepts. -/
def AcceptsAckEvent (s : TcpSession) : Event → Prop
  | .input packet _ => Admitted packet ∧ s.state = .established ∧ packet.has flagAck = true ∧
      s.acceptsAck packet.ack = true
  | _ => False

instance (s : TcpSession) : (e : Event) → Decidable (s.AcceptsAckEvent e)
  | .input _ _ => inferInstanceAs (Decidable (_ ∧ _))
  | .setRemoteAddr .. | .setListenerPort .. | .connect .. | .listen | .send .. | .recv ..
  | .readAll | .close | .expire .. | .expire2Msl => isFalse id

/-! ## Moves -/

/-- The state changes that follow a FIN. -/
inductive FinTransition : TcpState → TcpState → Prop
  | established : FinTransition .established .closeWait
  | finWait1 : FinTransition .finWait1 .closeWait
  | finWait1Acked : FinTransition .finWait2 .closeWait
  | finWait2 : FinTransition .finWait2 .timeWait
  | timeWait : FinTransition .timeWait .timeWait

/-- The changes that a step from {lit}`s₀` is composed of. -/
inductive Move (s₀ : TcpSession) : Event → TcpSession → TcpSession → Prop
  | note {e : Event} (s : TcpSession) (peer : UInt32) (wantClose : Bool)
      (calls : List CallbackCall) :
      Move s₀ e s
        { s with peerUsableWindowSize := peer, userWantToClose := wantClose, calls := calls }
  | setRemoteAddr (ip : String) (port : UInt16) :
      Move s₀ (.setRemoteAddr ip port) s₀ (s₀.setRemoteAddr ip port)
  | setListenerPort (port : UInt16) :
      Move s₀ (.setListenerPort port) s₀ (s₀.setListenerPort port)
  | connect (iss : UInt32) : Move s₀ (.connect iss) s₀ (s₀.connect iss)
  | listen (hstate : s₀.state = .closed) : Move s₀ .listen s₀ (s₀.transitionTo .listen)
  | enqueue {data : List UInt8} {buffer : RingQueue UInt8 1024}
      (hpush : s₀.sendBuffer.pushBatch
        (data.take (min data.length (1024 - s₀.sendBuffer.size))) = some buffer) :
      Move s₀ (.send data) s₀ { s₀ with sendBuffer := buffer }
  | trySend {e : Event} (s : TcpSession) : Move s₀ e s s.handleTrySend
  | read {e : Event} (s : TcpSession) {n : Nat} (hn : n ≤ s.recvBuffer.size) :
      Move s₀ e s { s with recvBuffer := (readLoop n s.recvBuffer).2 }
  | closeEstablished (hstate : s₀.state = .established) :
      Move s₀ .close s₀.handleTrySend s₀.handleTrySend.closeEstablished
  | closeCloseWait {e : Event} (s : TcpSession) (hstate : s.state = .closeWait) :
      Move s₀ e s s.closeCloseWait
  | abortOpening (hstate : s₀.state = .synSent ∨ s₀.state = .synReceived) :
      Move s₀ .close s₀ s₀.abortOpening
  | reset {packet : MyuTcpPacket} {iss : UInt32} (hrst : packet.has flagRst = true) :
      Move s₀ (.input packet iss) s₀ s₀.handleReset
  | passiveOpen {packet : MyuTcpPacket} {iss : UInt32} (hstate : s₀.state = .listen)
      (hsyn : packet.has flagSyn = true) :
      Move s₀ (.input packet iss) (s₀.observe packet) ((s₀.observe packet).handleListen packet iss)
  | synAck {packet : MyuTcpPacket} {iss : UInt32} (hstate : s₀.state = .synSent)
      (hsyn : packet.has flagSyn = true) (hflag : packet.has flagAck = true)
      (hack : packet.ack = s₀.sendWindow.sendUnack + 1) :
      Move s₀ (.input packet iss) (s₀.observe packet) ((s₀.observe packet).acceptSynAck packet)
  | peerSyn {packet : MyuTcpPacket} {iss : UInt32} (hstate : s₀.state = .synSent)
      (hsyn : packet.has flagSyn = true) (hflag : packet.has flagAck = false) :
      Move s₀ (.input packet iss) (s₀.observe packet) ((s₀.observe packet).acceptPeerSyn packet)
  | synReceivedAck {packet : MyuTcpPacket} {iss : UInt32} (hstate : s₀.state = .synReceived)
      (hflag : packet.has flagAck = true) (hack : packet.ack = s₀.sendWindow.sendUnack + 1) :
      Move s₀ (.input packet iss) (s₀.observe packet)
        ((s₀.observe packet).acceptSynReceivedAck packet)
  | ack {packet : MyuTcpPacket} {iss : UInt32}
      (haccepts : s₀.AcceptsAckEvent (.input packet iss)) :
      Move s₀ (.input packet iss) (s₀.observe packet)
        ((s₀.observe packet).processAck packet.ack)
  | pureAck {packet : MyuTcpPacket} {iss : UInt32} (s : TcpSession)
      (hstate : s.state = .established ∨ s.state = .closeWait) :
      Move s₀ (.input packet iss) s (s.sendPureAck s.recvWindow.recvNext)
  | inOrder {packet : MyuTcpPacket} {iss : UInt32} (s : TcpSession)
      {drained : Nat × RingQueue UInt8 1024 × UInt32} (hstate : s.state = .established)
      (hseq : packet.seq = s.recvWindow.recvNext)
      (hdrain : drainOutOfOrder (s.acceptPayload packet.payload).oooMap.entries
        (s.acceptPayload packet.payload).recvBuffer
        (s.acceptPayload packet.payload).recvWindow.recvNext = some drained) :
      Move s₀ (.input packet iss) s ((s.acceptPayload packet.payload).reassemble drained)
  | outOfOrder {packet : MyuTcpPacket} {iss : UInt32} (s : TcpSession)
      (hstate : s.state = .established) (hseq : packet.seq ≠ s.recvWindow.recvNext) :
      Move s₀ (.input packet iss) s (s.storeOutOfOrder packet.seq packet.payload)
  | fin {packet : MyuTcpPacket} {iss : UInt32} (s : TcpSession) {next : TcpState}
      (hfin : packet.has flagFin = true) (hnext : FinTransition s.state next)
      (horder : packet.payload = [] → s.recvWindow = s₀.recvWindow) :
      Move s₀ (.input packet iss) s ((s.acceptFin packet).transitionTo next)
  | finAcked {packet : MyuTcpPacket} {iss : UInt32} (hstate : s₀.state = .finWait1)
      (hflag : packet.has flagAck = true) (hack : packet.ack = s₀.sendWindow.sendUnack + 1) :
      Move s₀ (.input packet iss) (s₀.observe packet)
        (((s₀.observe packet).transitionTo .finWait2).advanceUnack packet.ack)
  | start2Msl {packet : MyuTcpPacket} {iss : UInt32} (s : TcpSession)
      (hstate : s.state = .timeWait) : Move s₀ (.input packet iss) s s.start2MslTimer
  | finishCloseWait {packet : MyuTcpPacket} {iss : UInt32} (s : TcpSession)
      (hstate : s.state = .closeWait) : Move s₀ (.input packet iss) s s.finishCloseWait
  | lastAck {packet : MyuTcpPacket} {iss : UInt32} (hstate : s₀.state = .lastAck)
      (hflag : packet.has flagAck = true) (hack : packet.ack = s₀.sendWindow.sendUnack + 1) :
      Move s₀ (.input packet iss) (s₀.observe packet)
        (((s₀.observe packet).advanceUnack packet.ack).transitionTo .closed)
  | expire {k : UInt32} {t : UvTimer RetransmitClosure}
      (hactive : s₀.timerManager.activeAt k = some t) :
      Move s₀ (.expire k) s₀
        ({ s₀ with timerManager := s₀.timerManager.stopTimer k }.runClosure t.callback)
  | expire2Msl (hactive : s₀.timerManager.twoMslActive = true) :
      Move s₀ .expire2Msl s₀
        { s₀ with timerManager := s₀.timerManager.stop2Msl, state := .closed }

/-- Sequences of moves of one step. -/
abbrev Moves (s₀ : TcpSession) (e : Event) : TcpSession → TcpSession → Prop :=
  Relation.ReflTransGen (Move s₀ e)

/-- What every move of a step preserves, the step preserves. -/
theorem Moves.preserves {s₀ s s' : TcpSession} {e : Event} {P : TcpSession → Prop}
    (hmoves : Moves s₀ e s s') (hmove : ∀ a b, P a → Move s₀ e a b → P b) (hs : P s) : P s' := by
  induction hmoves with
  | refl => exact hs
  | tail _ hlast ih => exact hmove _ _ ih hlast

/-! ## Steps are sequences of moves -/

section StepMoves

variable {s₀ : TcpSession} {e : Event}

/-- A callback that is invoked is one move. -/
theorem moves_notify (s : TcpSession) (call : CallbackCall) : Moves s₀ e s (s.notify call) :=
  .single (.note s s.peerUsableWindowSize s.userWantToClose _)

/-- The automatic close is a passive close or nothing. -/
theorem moves_closeOnEof (s : TcpSession) : Moves s₀ e s s.closeOnEof := by
  rw [closeOnEof]
  split <;> rename_i hempty
  · split
    · have hstate : s.state = .closeWait := by simpa using And.right (by simpa using hempty)
      simp only [close, hstate]
      exact .single (.closeCloseWait s hstate)
    · exact .refl
  · exact .refl

/-- {lit}`send()` stores and attempts to send. -/
theorem moves_send (s : TcpSession) (data : List UInt8) :
    Moves s (.send data) s (s.send data).2 := by
  rw [send]
  split
  · exact .refl
  · dsimp only
    split <;> rename_i hpush
    · exact .refl
    · exact .tail (.single (.enqueue hpush)) (.trySend _)

/-- {lit}`recv()` reads and may close. -/
theorem moves_recv (s : TcpSession) (bufSize : Nat) : Moves s e s (s.recv bufSize).2 := by
  rw [recv]
  refine .trans (.single (.read s ?_)) (moves_closeOnEof _)
  split
  · exact Nat.min_le_right _ _
  · exact Nat.zero_le _

/-- {lit}`read_all()` reads and may close. -/
theorem moves_readAll (s : TcpSession) : Moves s e s s.readAll.2 :=
  .trans (.single (.read s le_rfl)) (moves_closeOnEof _)

/-- {lit}`close()` in each state. -/
theorem moves_close (s : TcpSession) : Moves s .close s s.close := by
  rw [close]
  split <;> rename_i hstate
  · exact .tail (.single (.trySend s)) (.closeEstablished hstate)
  · exact .single (.closeCloseWait s hstate)
  · exact .single (.abortOpening (.inl hstate))
  · exact .single (.abortOpening (.inr hstate))
  all_goals exact .refl

variable {packet : MyuTcpPacket} {iss : UInt32}

/-- The advertised window is one move. -/
theorem moves_observe (s : TcpSession) : Moves s₀ e s (s.observe packet) :=
  .single (.note s _ s.userWantToClose s.calls)

/-- The handler of LISTEN. -/
theorem moves_handleListen (hstate : s₀.state = .listen) :
    Moves s₀ (.input packet iss) (s₀.observe packet)
      ((s₀.observe packet).handleListen packet iss) := by
  by_cases hsyn : packet.has flagSyn = true
  · exact .single (.passiveOpen hstate hsyn)
  · rw [handleListen, if_pos (by simpa using hsyn)]

/-- The handler of SYN_SENT. -/
theorem moves_handleSynSent (hstate : s₀.state = .synSent) :
    Moves s₀ (.input packet iss) (s₀.observe packet)
      ((s₀.observe packet).handleSynSent packet) := by
  rw [handleSynSent]
  split <;> rename_i hflags
  · rw [Bool.and_eq_true] at hflags
    split <;> rename_i hack
    · exact .refl
    · exact .tail (.single (.synAck hstate hflags.1 hflags.2 (not_not.mp hack))) (.trySend _)
  · split <;> rename_i hsyn
    · refine .single (.peerSyn hstate hsyn ?_)
      simpa [hsyn] using hflags
    · exact .refl

/-- The handler of SYN_RECEIVED. -/
theorem moves_handleSynReceived (hstate : s₀.state = .synReceived) :
    Moves s₀ (.input packet iss) (s₀.observe packet)
      ((s₀.observe packet).handleSynReceived packet) := by
  rw [handleSynReceived]
  split <;> rename_i hflag
  · exact .refl
  · split <;> rename_i hack
    · exact .refl
    · exact .tail (.single (.synReceivedAck hstate (by simpa using hflag) (not_not.mp hack)))
        (.trySend _)

/-- Payload keeps the state, and no payload changes nothing. -/
theorem handleEstablishedPayload_state {s s' : TcpSession}
    (h : s.handleEstablishedPayload packet = some s') :
    s'.state = s.state ∧ (packet.payload = [] → s' = s) := by
  by_cases hpayload : packet.payload = []
  · rw [handleEstablishedPayload_nil hpayload, Option.some.injEq] at h
    exact ⟨by rw [h], fun _ => h.symm⟩
  · rcases handleEstablishedPayload_frame hpayload h with ⟨m, q, n, t, ackNum, c, -, rfl⟩
    exact ⟨rfl, fun hnil => absurd hnil hpayload⟩

/-- The payload part of the handler of ESTABLISHED. -/
theorem moves_handleEstablishedPayload {s s' : TcpSession} (hstate : s.state = .established)
    (h : s.handleEstablishedPayload packet = some s') :
    Moves s₀ (.input packet iss) s s' := by
  rw [handleEstablishedPayload] at h
  split at h
  · obtain ⟨r, hr, rfl⟩ := Option.map_eq_some_iff.mp h
    have hmoves : Moves s₀ (.input packet iss) s r.2 := by
      rw [handleIncomingPacket] at hr
      split at hr <;> rename_i hseq
      · obtain ⟨d, hd, rfl⟩ := Option.map_eq_some_iff.mp hr
        refine .tail (.single (.inOrder s hstate hseq hd)) (.pureAck _ (.inl ?_))
        rw [reassemble, acceptPayload]
        split <;> exact hstate
      · cases hr
        refine .tail (.single (.outOfOrder s hstate hseq)) (.pureAck _ (.inl ?_))
        rw [storeOutOfOrder]
        split <;> exact hstate
    split
    · exact hmoves.trans (moves_notify _ _)
    · exact hmoves
  · cases h
    exact .refl

/-- The payload and FIN parts of {lit}`handle_established`, from a session whose receive
window the acknowledgment part has kept. -/
theorem moves_afterAck {s₁ s₂ : TcpSession} (hstate : s₁.state = .established)
    (hrecv : s₁.recvWindow = s₀.recvWindow)
    (h : s₁.handleEstablishedPayload packet = some s₂) :
    Moves s₀ (.input packet iss) s₁ (s₂.handleEstablishedFin packet) := by
  obtain ⟨hstate₂, hnil⟩ := handleEstablishedPayload_state h
  refine (moves_handleEstablishedPayload hstate h).trans ?_
  rw [handleEstablishedFin]
  split <;> rename_i hfin
  · refine .trans (.single (.fin s₂ hfin ?_ ?_)) (moves_notify _ _)
    · rw [hstate₂, hstate]
      exact .established
    · intro hpayload
      rw [hnil hpayload, hrecv]
  · exact .refl

/-- The handler of ESTABLISHED. -/
theorem moves_handleEstablished {s' : TcpSession} (hadmitted : Admitted packet)
    (hstate : s₀.state = .established)
    (h : (s₀.observe packet).handleEstablished packet = some s') :
    Moves s₀ (.input packet iss) (s₀.observe packet) s' := by
  rw [handleEstablished] at h
  obtain ⟨s₂, hs₂, rfl⟩ := Option.map_eq_some_iff.mp h
  -- the acknowledgment part keeps the state and the receive window
  obtain ⟨s₁, hs₁, hmoves, hstate₁, hrecv⟩ :
      ∃ s₁, s₁.handleEstablishedPayload packet = some s₂ ∧
        Moves s₀ (.input packet iss) (s₀.observe packet) s₁ ∧ s₁.state = .established ∧
        s₁.recvWindow = s₀.recvWindow := by
    refine ⟨_, hs₂, ?_⟩
    split <;> rename_i hflag
    · rw [handleAck]
      split <;> rename_i hack
      · refine ⟨.tail (.tail (.single (.ack ⟨hadmitted, hstate, hflag, hack⟩)) (.trySend _))
          (.trySend _), ?_⟩
        simpa [observe, setPeerUsableWindowSize] using hstate
      · refine ⟨.single (.trySend _), ?_⟩
        simpa [observe, setPeerUsableWindowSize] using hstate
    · exact ⟨.refl, hstate, rfl⟩
  exact hmoves.trans (moves_afterAck hstate₁ hrecv hs₁)

/-- The handler of FIN_WAIT_1. -/
theorem moves_handleFinWait1 (hstate : s₀.state = .finWait1) :
    Moves s₀ (.input packet iss) (s₀.observe packet)
      ((s₀.observe packet).handleFinWait1 packet) := by
  rw [handleFinWait1]
  obtain ⟨hmoves, hnext, hrecv⟩ :
      Moves s₀ (.input packet iss) (s₀.observe packet)
        ((s₀.observe packet).handleFinWait1Ack packet) ∧
      FinTransition ((s₀.observe packet).handleFinWait1Ack packet).state .closeWait ∧
      ((s₀.observe packet).handleFinWait1Ack packet).recvWindow = s₀.recvWindow := by
    rw [handleFinWait1Ack]
    split <;> rename_i hack
    · rw [Bool.and_eq_true, decide_eq_true_eq] at hack
      exact ⟨.single (.finAcked hstate hack.1 hack.2), .finWait1Acked, rfl⟩
    · refine ⟨.refl, ?_, rfl⟩
      rw [show (s₀.observe packet).state = .finWait1 from hstate]
      exact .finWait1
  split <;> rename_i hfin
  · exact hmoves.tail (.fin _ hfin hnext fun _ => hrecv)
  · exact hmoves

/-- The handler of FIN_WAIT_2. -/
theorem moves_handleFinWait2 (hstate : s₀.state = .finWait2) :
    Moves s₀ (.input packet iss) (s₀.observe packet)
      ((s₀.observe packet).handleFinWait2 packet) := by
  rw [handleFinWait2]
  split <;> rename_i hfin
  · refine .tail (.single (.fin _ hfin ?_ fun _ => rfl)) (.start2Msl _ rfl)
    rw [show (s₀.observe packet).state = .finWait2 from hstate]
    exact .finWait2
  · exact .refl

/-- The handler of TIME_WAIT. -/
theorem moves_handleTimedWait (hstate : s₀.state = .timeWait) :
    Moves s₀ (.input packet iss) (s₀.observe packet)
      ((s₀.observe packet).handleTimedWait packet) := by
  rw [handleTimedWait]
  split <;> rename_i hfin
  · have hstay : ((s₀.observe packet).acceptFin packet).transitionTo .timeWait =
        (s₀.observe packet).acceptFin packet := by
      rw [transitionTo, ← hstate]
      rfl
    rw [← hstay]
    refine .single (.fin _ hfin ?_ fun _ => rfl)
    rw [show (s₀.observe packet).state = .timeWait from hstate]
    exact .timeWait
  · exact .refl

/-- The handler of CLOSE_WAIT. -/
theorem moves_handleCloseWait (hstate : s₀.state = .closeWait) :
    Moves s₀ (.input packet iss) (s₀.observe packet)
      ((s₀.observe packet).handleCloseWait packet) := by
  rw [handleCloseWait]
  refine .tail (.tail (.single (.pureAck _ (.inr hstate))) (.trySend _)) (.finishCloseWait _ ?_)
  rw [handleTrySend_state]
  exact hstate

/-- The handler of LAST_ACK. -/
theorem moves_handleLastAck (hstate : s₀.state = .lastAck) :
    Moves s₀ (.input packet iss) (s₀.observe packet)
      ((s₀.observe packet).handleLastAck packet) := by
  rw [handleLastAck]
  split <;> rename_i hflag
  · exact .refl
  · split <;> rename_i hack
    · exact .refl
    · exact .trans (.single (.lastAck hstate (by simpa using hflag) (not_not.mp hack)))
        (moves_notify _ _)

/-- A packet leads to moves of the handler of the state. -/
theorem moves_input {s' : TcpSession} (h : s₀.input packet iss = some s') :
    Moves s₀ (.input packet iss) s₀ s' := by
  rw [input] at h
  split at h <;> rename_i hverify
  · cases h
    exact .refl
  split at h <;> rename_i hrst
  · cases h
    exact .single (.reset hrst)
  split at h <;> rename_i hlacks
  · cases h
    exact .refl
  have hadmitted : Admitted packet :=
    ⟨by simpa using hverify, by simpa using hrst, by simpa using hlacks⟩
  refine .trans (b := s₀.observe packet) (moves_observe s₀) ?_
  rw [dispatch] at h
  split at h <;> rename_i hstate <;> replace hstate : s₀.state = _ := hstate
  all_goals first
    | exact moves_handleEstablished hadmitted hstate h
    | cases h
  · exact .single (.note _ _ _ (s₀.observe packet).calls)
  · exact moves_handleListen hstate
  · exact moves_handleSynSent hstate
  · exact moves_handleSynReceived hstate
  · exact moves_handleFinWait1 hstate
  · exact moves_handleFinWait2 hstate
  · exact moves_handleCloseWait hstate
  · exact moves_handleLastAck hstate
  · exact moves_handleTimedWait hstate

/-- Every step is a sequence of moves of its event. -/
theorem step_moves {s s' : TcpSession} (h : step s e = some s') : Moves s e s s' := by
  cases e with
  | setRemoteAddr ip port => cases h; exact .single (.setRemoteAddr ip port)
  | setListenerPort port => cases h; exact .single (.setListenerPort port)
  | connect iss => cases h; exact .single (.connect iss)
  | listen =>
      cases h
      rw [listen]
      split <;> rename_i hstate
      · exact .refl
      · exact .single (.listen (not_not.mp hstate))
  | send data => cases h; exact moves_send s data
  | recv bufSize => cases h; exact moves_recv s bufSize
  | readAll => cases h; exact moves_readAll s
  | close => cases h; exact moves_close s
  | input packet iss => exact moves_input h
  | expire k =>
      obtain ⟨t, hactive, rfl⟩ := expire_eq_some_iff.mp h
      exact .single (.expire hactive)
  | expire2Msl =>
      rw [step] at h
      split at h <;> rename_i hactive
      · cases h
        exact .trans (.single (.expire2Msl hactive)) (moves_notify _ _)
      · contradiction

/-- A packet that passes the checks reaches the handler of the state. -/
theorem input_of_admitted (hadmitted : Admitted packet) :
    s₀.input packet iss = (s₀.observe packet).dispatch packet iss := by
  obtain ⟨hverify, hrst, hlacks⟩ := hadmitted
  rw [input, hverify, hrst, hlacks]
  rfl

/-- After an accepted acknowledgment has been processed, the step goes on by moves. -/
theorem moves_of_acceptsAck {s s' : TcpSession}
    (haccepts : s.AcceptsAckEvent (.input packet iss))
    (h : step s (.input packet iss) = some s') :
    Moves s (.input packet iss) ((s.observe packet).processAck packet.ack) s' := by
  obtain ⟨hadmitted, hstate, hflag, hack⟩ := haccepts
  have hobserve : (s.observe packet).state = .established := hstate
  have haccepts' : (s.observe packet).acceptsAck packet.ack = true := hack
  rw [step, input_of_admitted hadmitted, dispatch, hobserve] at h
  dsimp only at h
  rw [handleEstablished, if_pos hflag, handleAck, if_pos haccepts'] at h
  obtain ⟨s₂, hs₂, rfl⟩ := Option.map_eq_some_iff.mp h
  refine .trans (.tail (.single (.trySend _)) (.trySend _)) (moves_afterAck ?_ ?_ hs₂)
  · rw [handleTrySend_state, handleTrySend_state, processAck_state]
    exact hstate
  · rw [handleTrySend_recvWindow, handleTrySend_recvWindow, processAck_recvWindow]
    rfl

end StepMoves

/-! ## The log only grows -/

/-- The packets that {lit}`s'` has handed to the driver beyond those of {lit}`s`. -/
def newDatagrams (s s' : TcpSession) : List Datagram := s'.sent.drop s.sent.length

/-- What has been appended to the log is new. -/
theorem newDatagrams_of_append {s s' : TcpSession} {l : List Datagram}
    (h : s'.sent = s.sent ++ l) : newDatagrams s s' = l := by
  rw [newDatagrams, h, List.drop_left]

/-- The log is what it was, and what is new. -/
theorem sent_eq_append {s s' : TcpSession} (h : s.sent <+: s'.sent) :
    s'.sent = s.sent ++ newDatagrams s s' := by
  obtain ⟨l, hl⟩ := h
  rw [newDatagrams_of_append hl.symm, hl]

/-- What is new over two stretches, one after the other. -/
theorem newDatagrams_trans {a b c : TcpSession} (hab : a.sent <+: b.sent)
    (hbc : b.sent <+: c.sent) : newDatagrams a c = newDatagrams a b ++ newDatagrams b c := by
  refine newDatagrams_of_append ?_
  rw [← List.append_assoc, ← sent_eq_append hab, ← sent_eq_append hbc]

/-- Sending payload extends the log. -/
theorem sent_prefix_sendPayloadPacket (s : TcpSession) (payload : List UInt8) (flags : UInt8) :
    s.sent <+: (s.sendPayloadPacket payload flags).sent := by
  rw [sendPayloadPacket]
  split
  · exact List.prefix_rfl
  · exact List.prefix_append _ _

/-- An attempt extends the log. -/
theorem sent_prefix_handleTrySend (s : TcpSession) : s.sent <+: s.handleTrySend.sent := by
  by_cases h : s.Transmits
  · rw [s.handleTrySend_of_transmits h]
    exact List.prefix_append _ _
  · rw [s.handleTrySend_of_not h]

/-- The callback of the third duplicate extends the log. -/
theorem sent_prefix_onRecvThreeDupAck (s : TcpSession) (ackNum : UInt32) :
    s.sent <+: (s.onRecvThreeDupAck ackNum).sent := by
  rw [onRecvThreeDupAck]
  dsimp only
  split
  · exact sent_prefix_sendPayloadPacket
      { s with timerManager := s.timerManager.stopTimer ackNum } _ _
  · exact List.prefix_rfl

/-- A fast retransmit extends the log. -/
theorem sent_prefix_fastRetransmit (s : TcpSession) (ackNum : UInt32) :
    s.sent <+: (s.fastRetransmit ackNum).sent := by
  rw [fastRetransmit]
  split
  · exact sent_prefix_onRecvThreeDupAck s ackNum
  · exact List.prefix_rfl

/-- An acknowledgment extends the log. -/
theorem sent_prefix_processAck (s : TcpSession) (ackNum : UInt32) :
    s.sent <+: (s.processAck ackNum).sent := by
  obtain ⟨a, d, hframe⟩ := (s.releaseAcked ackNum).countDupAck_frame ackNum
  have hcount : ((s.releaseAcked ackNum).countDupAck ackNum).sent = s.sent := by
    rw [hframe]
    rfl
  rw [← hcount]
  exact sent_prefix_fastRetransmit _ ackNum

/-- An expiry extends the log. -/
theorem sent_prefix_runClosure (s : TcpSession) (c : RetransmitClosure) :
    s.sent <+: (s.runClosure c).sent := by
  by_cases hlimit : c.retransmitCount + 1 ≥ maxRetransmitCount
  · rw [s.runClosure_of_limit hlimit]
  · rw [s.runClosure_of_lt hlimit]
    exact List.prefix_append _ _

/-- Every move extends the log. -/
theorem Move.sent_prefix {s₀ a b : TcpSession} {e : Event} (hmove : Move s₀ e a b) :
    a.sent <+: b.sent := by
  cases hmove with
  | connect iss => rw [connect_eq]; exact List.prefix_append _ _
  | trySend s => exact sent_prefix_handleTrySend _
  | closeEstablished hstate => rw [closeEstablished_eq]; exact List.prefix_append _ _
  | closeCloseWait s hstate => rw [closeCloseWait_eq]; exact List.prefix_append _ _
  | abortOpening hstate => rw [abortOpening_eq]; exact List.prefix_append _ _
  | passiveOpen hstate hsyn => rw [handleListen_eq _ hsyn]; exact List.prefix_append _ _
  | synAck hstate hsyn hflag hack => rw [acceptSynAck_eq]; exact List.prefix_append _ _
  | peerSyn hstate hsyn hflag => rw [acceptPeerSyn_eq]; exact List.prefix_append _ _
  | ack haccepts => exact sent_prefix_processAck _ _
  | pureAck s hstate => exact List.prefix_append _ _
  | inOrder s hstate hseq hdrain =>
      rw [reassemble, acceptPayload]
      split <;> exact List.prefix_rfl
  | outOfOrder s hstate hseq =>
      rw [storeOutOfOrder]
      split <;> exact List.prefix_rfl
  | fin s hfin hnext horder => exact List.prefix_append _ _
  | finishCloseWait s hstate =>
      by_cases hdrained : a.Drained
      · rw [finishCloseWait_of_drained _ hdrained]
        exact List.prefix_append _ _
      · rw [finishCloseWait_of_not _ hdrained]
  | @expire k t hactive =>
      exact sent_prefix_runClosure { s₀ with timerManager := s₀.timerManager.stopTimer k } _
  | _ => exact List.prefix_rfl

/-- A session never takes back a packet. -/
theorem sent_prefix_step {s s' : TcpSession} {e : Event} (h : step s e = some s') :
    s.sent <+: s'.sent :=
  (step_moves h).preserves (P := fun t => s.sent <+: t.sent)
    (fun _ _ hs hmove => hs.trans hmove.sent_prefix) List.prefix_rfl

/-- Every run extends the log. -/
theorem sent_prefix_run {s s' : TcpSession} {es : List Event} (h : step.run s es = some s') :
    s.sent <+: s'.sent :=
  (StepFn.reachable_of_run_true h).invariant (P := fun t => s.sent <+: t.sent) List.prefix_rfl
    fun _ _ _ hs _ hstep => hs.trans (sent_prefix_step hstep)

end TcpSession

end MyuTcp
