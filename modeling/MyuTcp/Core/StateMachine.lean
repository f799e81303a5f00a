import MyuTcp.Core.Run

/-!
# The state machine of a session

Which state a step leads to, and under which guard of the source.

Main results:

- Theorem {lit}`step_transition`: every step stays in its state or makes one of the
  listed transitions.
- Theorem {lit}`step_closed`: a closed session that is not opened again changes its timers and
  sends by expiries only.
-/

namespace MyuTcp

open Library

namespace TcpSession

/-- The call closes a session in CLOSE_WAIT: {lit}`close()`, or a read that empties the
receive buffer of a session that closes by itself. -/
def ClosesPassively (s : TcpSession) : Event → Prop
  | .close => s.state = .closeWait
  | .recv bufSize =>
      s.state = .closeWait ∧ s.autoCloseOnEof = true ∧ s.recvBuffer.size ≤ bufSize
  | .readAll => s.state = .closeWait ∧ s.autoCloseOnEof = true
  | _ => False

instance (s : TcpSession) : (e : Event) → Decidable (s.ClosesPassively e)
  | .close => inferInstanceAs (Decidable (_ = _))
  | .recv _ => inferInstanceAs (Decidable (_ ∧ _))
  | .readAll => inferInstanceAs (Decidable (_ ∧ _))
  | .setRemoteAddr .. | .setListenerPort .. | .connect .. | .listen | .send .. | .input ..
  | .expire .. | .expire2Msl => isFalse id

/-- Only CLOSE_WAIT is closed passively. -/
theorem ClosesPassively.state {s : TcpSession} {e : Event} (h : s.ClosesPassively e) :
    s.state = .closeWait := by
  cases e with
  | recv bufSize => exact h.1
  | readAll => exact h.1
  | close => exact h
  | _ => exact h.elim

/-- The states a step may lead to, each with the guard of the source. -/
inductive Transition (s : TcpSession) : Event → TcpState → Prop
  | stay (e : Event) : Transition s e s.state
  | connect (iss : UInt32) : Transition s (.connect iss) .synSent
  | listen (hstate : s.state = .closed) : Transition s .listen .listen
  | closeActive (hstate : s.state = .established) : Transition s .close .finWait1
  | closePassive {e : Event} (hcall : s.ClosesPassively e) : Transition s e .lastAck
  | abort (hstate : s.state = .synSent ∨ s.state = .synReceived) : Transition s .close .closed
  | reset {packet : MyuTcpPacket} {iss : UInt32} (hverify : verifyChecksum packet = true)
      (hrst : packet.has flagRst = true) : Transition s (.input packet iss) .closed
  | passiveOpen {packet : MyuTcpPacket} {iss : UInt32} (hadmitted : Admitted packet)
      (hstate : s.state = .listen) (hsyn : packet.has flagSyn = true) :
      Transition s (.input packet iss) .synReceived
  | synAck {packet : MyuTcpPacket} {iss : UInt32} (hadmitted : Admitted packet)
      (hstate : s.state = .synSent) (hsyn : packet.has flagSyn = true)
      (hflag : packet.has flagAck = true) (hack : packet.ack = s.sendWindow.sendUnack + 1) :
      Transition s (.input packet iss) .established
  | peerSyn {packet : MyuTcpPacket} {iss : UInt32} (hadmitted : Admitted packet)
      (hstate : s.state = .synSent) (hsyn : packet.has flagSyn = true)
      (hflag : packet.has flagAck = false) : Transition s (.input packet iss) .synReceived
  | synReceivedAck {packet : MyuTcpPacket} {iss : UInt32} (hadmitted : Admitted packet)
      (hstate : s.state = .synReceived) (hflag : packet.has flagAck = true)
      (hack : packet.ack = s.sendWindow.sendUnack + 1) :
      Transition s (.input packet iss) .established
  | fin {packet : MyuTcpPacket} {iss : UInt32} (hadmitted : Admitted packet)
      (hstate : s.state = .established) (hfin : packet.has flagFin = true) :
      Transition s (.input packet iss) .closeWait
  | crossedFin {packet : MyuTcpPacket} {iss : UInt32} (hadmitted : Admitted packet)
      (hstate : s.state = .finWait1) (hfin : packet.has flagFin = true) :
      Transition s (.input packet iss) .closeWait
  | finAcked {packet : MyuTcpPacket} {iss : UInt32} (hadmitted : Admitted packet)
      (hstate : s.state = .finWait1) (hfin : packet.has flagFin = false)
      (hflag : packet.has flagAck = true) (hack : packet.ack = s.sendWindow.sendUnack + 1) :
      Transition s (.input packet iss) .finWait2
  | finFinWait2 {packet : MyuTcpPacket} {iss : UInt32} (hadmitted : Admitted packet)
      (hstate : s.state = .finWait2) (hfin : packet.has flagFin = true) :
      Transition s (.input packet iss) .timeWait
  | drained {packet : MyuTcpPacket} {iss : UInt32} (hadmitted : Admitted packet)
      (hstate : s.state = .closeWait) (hdrained : s.Drained) :
      Transition s (.input packet iss) .lastAck
  | lastAck {packet : MyuTcpPacket} {iss : UInt32} (hadmitted : Admitted packet)
      (hstate : s.state = .lastAck) (hflag : packet.has flagAck = true)
      (hack : packet.ack = s.sendWindow.sendUnack + 1) :
      Transition s (.input packet iss) .closed
  | expire2Msl (hactive : s.timerManager.twoMslActive = true) :
      Transition s .expire2Msl .closed

/-! ## Steps by kind of event -/

section Steps

variable {s s' : TcpSession} {packet : MyuTcpPacket} {iss : UInt32}

/-- The state may stay. -/
theorem transition_of_eq {e : Event} {next : TcpState} (h : next = s.state) :
    Transition s e next := by
  rw [h]
  exact .stay e

/-- A drained session in CLOSE_WAIT that closes by itself sends its FIN. -/
theorem closeOnEof_of_eof (hempty : s.recvBuffer.isEmpty = true) (hstate : s.state = .closeWait)
    (hauto : s.autoCloseOnEof = true) : s.closeOnEof = s.closeCloseWait := by
  rw [closeOnEof, if_pos (by simp [hempty, hstate]), if_pos hauto, close, hstate]

/-- Outside CLOSE_WAIT nothing closes by itself. -/
theorem closeOnEof_of_ne (hstate : s.state ≠ .closeWait) : s.closeOnEof = s := by
  rw [closeOnEof, if_neg (by simp [hstate])]

/-- The automatic close keeps the state or is a passive close. -/
theorem closeOnEof_state (s : TcpSession) :
    s.closeOnEof.state =
      if s.recvBuffer.isEmpty = true ∧ s.state = .closeWait ∧ s.autoCloseOnEof = true then
        .lastAck else s.state := by
  split <;> rename_i h
  · rw [closeOnEof_of_eof h.1 h.2.1 h.2.2, closeCloseWait_eq]
  · by_cases hempty : s.recvBuffer.isEmpty = true ∧ s.state = .closeWait
    · have hauto : ¬ s.autoCloseOnEof = true := fun hauto => h ⟨hempty.1, hempty.2, hauto⟩
      rw [closeOnEof, if_pos (by simp [hempty.1, hempty.2]), if_neg hauto]
    · rw [closeOnEof, if_neg (by simpa using hempty)]

/-- A queue is empty when it has no element. -/
theorem isEmpty_eq_decide (q : RingQueue UInt8 1024) : q.isEmpty = decide (q.size = 0) :=
  rfl

/-- The read loops remove as many bytes as they return. -/
theorem size_readLoop {n : Nat} {q : RingQueue UInt8 1024} (hn : n ≤ q.size) :
    (readLoop n q).2.size = q.size - n := by
  have hdrop := (readLoop_eq hn).2
  rw [← RingQueue.length_toList, hdrop, List.length_drop, RingQueue.length_toList]

/-- The buffer after {lit}`recv` is empty exactly when the caller's buffer was large
enough. -/
theorem isEmpty_recv (s : TcpSession) (bufSize : Nat) :
    (readLoop
        (if !s.recvBuffer.isEmpty && bufSize ≠ 0 then min bufSize s.recvBuffer.size else 0)
        s.recvBuffer).2.isEmpty = true ↔ s.recvBuffer.size ≤ bufSize := by
  have hle : (if !s.recvBuffer.isEmpty && bufSize ≠ 0 then min bufSize s.recvBuffer.size
      else 0) = min bufSize s.recvBuffer.size := by
    rw [isEmpty_eq_decide]
    split <;> rename_i h
    · rfl
    · simp only [Bool.and_eq_true, Bool.not_eq_true', decide_eq_true_eq,
        decide_eq_false_iff_not, not_and, not_not] at h
      by_cases hsize : s.recvBuffer.size = 0
      · rw [hsize, Nat.min_zero]
      · rw [h hsize, Nat.zero_min]
  rw [hle, isEmpty_eq_decide, decide_eq_true_eq, size_readLoop (Nat.min_le_right _ _)]
  omega

/-- The states after {lit}`recv()`. -/
theorem transition_recv (s : TcpSession) (bufSize : Nat) :
    Transition s (.recv bufSize) (s.recv bufSize).2.state := by
  have hempty := isEmpty_recv s bufSize
  rw [recv]
  dsimp only
  generalize (readLoop _ s.recvBuffer).2 = buffer at hempty ⊢
  rw [closeOnEof_state]
  split <;> rename_i h
  · exact .closePassive ⟨h.2.1, h.2.2, hempty.mp h.1⟩
  · exact .stay _

/-- The states after {lit}`read_all()`. -/
theorem transition_readAll (s : TcpSession) : Transition s .readAll s.readAll.2.state := by
  rw [readAll]
  dsimp only
  rw [closeOnEof_state]
  split <;> rename_i h
  · exact .closePassive ⟨h.2.1, h.2.2⟩
  · exact .stay _

/-- {lit}`send()` keeps the state. -/
theorem send_state (s : TcpSession) (data : List UInt8) : (s.send data).2.state = s.state := by
  rw [send]
  split
  · rfl
  · dsimp only
    split
    · rfl
    · exact handleTrySend_state _

/-- The states after {lit}`close()`. -/
theorem transition_close (s : TcpSession) : Transition s .close s.close.state := by
  rw [close]
  split <;> rename_i hstate
  · rw [closeEstablished_eq]
    exact .closeActive hstate
  · rw [closeCloseWait_eq]
    exact .closePassive hstate
  · rw [abortOpening_eq]
    exact .abort (Or.inl hstate)
  · rw [abortOpening_eq]
    exact .abort (Or.inr hstate)
  all_goals exact .stay _

/-- {lit}`_handle_ack` keeps the state. -/
theorem handleAck_state (s : TcpSession) (packet : MyuTcpPacket) :
    (s.handleAck packet).2.state = s.state := by
  rw [handleAck]
  split
  · rw [handleTrySend_state, processAck_state]
  · rfl

/-- The states after a packet in ESTABLISHED. -/
theorem transition_handleEstablished (hadmitted : Admitted packet)
    (hstate : s.state = .established)
    (h : (s.observe packet).handleEstablished packet = some s') :
    Transition s (.input packet iss) s'.state := by
  rw [handleEstablished] at h
  rcases Option.map_eq_some_iff.mp h with ⟨s₂, hs₂, rfl⟩
  have hsame : s₂.state = s.state := by
    rw [(handleEstablishedPayload_state hs₂).1]
    split
    · rw [handleTrySend_state, handleAck_state]
      rfl
    · rfl
  rw [handleEstablishedFin]
  split <;> rename_i hfin
  · exact .fin hadmitted hstate hfin
  · exact transition_of_eq hsame

/-- The states after a packet in FIN_WAIT_1. -/
theorem transition_handleFinWait1 (hadmitted : Admitted packet)
    (hstate : s.state = .finWait1) :
    Transition s (.input packet iss) ((s.observe packet).handleFinWait1 packet).state := by
  rw [handleFinWait1]
  split <;> rename_i hfin
  · exact .crossedFin hadmitted hstate hfin
  · rw [handleFinWait1Ack]
    split <;> rename_i hack
    · rw [Bool.and_eq_true, decide_eq_true_eq] at hack
      exact .finAcked hadmitted hstate (by simpa using hfin) hack.1 hack.2
    · exact .stay _

/-- Everything that {lit}`handle_close_wait` does before its test. -/
theorem drained_handleTrySend_iff (s : TcpSession) : s.handleTrySend.Drained ↔ s.Drained := by
  by_cases htransmits : s.Transmits
  · have hsize : s.sendBuffer.isEmpty = false := by
      rw [isEmpty_eq_decide, decide_eq_false_iff_not]
      have hlt := htransmits.2.2
      omega
    constructor
    · intro h
      have hempty := h.2.1
      rw [handleTrySend_sendBuffer, hsize] at hempty
      contradiction
    · intro h
      have hempty := h.2.1
      rw [hsize] at hempty
      contradiction
  · rw [s.handleTrySend_of_not htransmits]

/-- The states after a packet in CLOSE_WAIT. -/
theorem transition_handleCloseWait (hadmitted : Admitted packet)
    (hstate : s.state = .closeWait) :
    Transition s (.input packet iss) ((s.observe packet).handleCloseWait packet).state := by
  rw [handleCloseWait]
  by_cases hdrained :
      ((s.observe packet).sendPureAck (s.observe packet).recvWindow.recvNext).handleTrySend.Drained
  · have hbefore : ((s.observe packet).sendPureAck
        (s.observe packet).recvWindow.recvNext).Drained :=
      (drained_handleTrySend_iff _).mp hdrained
    rw [finishCloseWait_of_drained _ hdrained]
    exact .drained hadmitted hstate hbefore
  · rw [finishCloseWait_of_not _ hdrained, handleTrySend_state]
    exact .stay _

/-- The states after a packet that passes the checks. -/
theorem transition_dispatch (hadmitted : Admitted packet)
    (h : (s.observe packet).dispatch packet iss = some s') :
    Transition s (.input packet iss) s'.state := by
  rw [dispatch] at h
  split at h <;> rename_i hstate <;> replace hstate : s.state = _ := hstate
  case h_5 => exact transition_handleEstablished hadmitted hstate h
  all_goals cases h
  · exact .stay _
  · by_cases hsyn : packet.has flagSyn = true
    · rw [handleListen_eq _ hsyn]
      exact .passiveOpen hadmitted hstate hsyn
    · rw [handleListen, if_pos (by simpa using hsyn)]
      exact .stay _
  · rw [handleSynSent]
    split <;> rename_i hflags
    · rw [Bool.and_eq_true] at hflags
      split <;> rename_i hack
      · exact .stay _
      · rw [handleTrySend_state, acceptSynAck_eq]
        exact .synAck hadmitted hstate hflags.1 hflags.2 (not_not.mp hack)
    · split <;> rename_i hsyn
      · rw [acceptPeerSyn_eq]
        exact .peerSyn hadmitted hstate hsyn (by simpa [hsyn] using hflags)
      · exact .stay _
  · rw [handleSynReceived]
    split <;> rename_i hflag
    · exact .stay _
    · split <;> rename_i hack
      · exact .stay _
      · rw [handleTrySend_state]
        exact .synReceivedAck hadmitted hstate (by simpa using hflag) (not_not.mp hack)
  · exact transition_handleFinWait1 hadmitted hstate
  · rw [handleFinWait2]
    split <;> rename_i hfin
    · exact .finFinWait2 hadmitted hstate hfin
    · exact .stay _
  · exact transition_handleCloseWait hadmitted hstate
  · rw [handleLastAck]
    split <;> rename_i hflag
    · exact .stay _
    · split <;> rename_i hack
      · exact .stay _
      · exact .lastAck hadmitted hstate (by simpa using hflag) (not_not.mp hack)
  · rw [handleTimedWait]
    split
    · exact .stay _
    · exact .stay _

/-- What {lit}`input` does with a packet: ignore it, reset, or dispatch on the state. -/
theorem input_cases (h : s.input packet iss = some s') :
    (¬ Admitted packet ∧ packet.has flagRst = false ∧ s' = s) ∨
      (verifyChecksum packet = false ∧ s' = s) ∨
      (verifyChecksum packet = true ∧ packet.has flagRst = true ∧ s' = s.handleReset) ∨
      (Admitted packet ∧ (s.observe packet).dispatch packet iss = some s') := by
  rw [input] at h
  split at h <;> rename_i hverify
  · cases h
    exact Or.inr (Or.inl ⟨by simpa using hverify, rfl⟩)
  · split at h <;> rename_i hrst
    · cases h
      exact Or.inr (Or.inr (Or.inl ⟨by simpa using hverify, hrst, rfl⟩))
    · split at h <;> rename_i hlacks
      · cases h
        refine Or.inl ⟨?_, by simpa using hrst, rfl⟩
        intro hadmitted
        rw [hadmitted.2.2] at hlacks
        contradiction
      · exact Or.inr (Or.inr (Or.inr
          ⟨⟨by simpa using hverify, by simpa using hrst, by simpa using hlacks⟩, h⟩))

/-- Every step stays in its state or makes one of the listed transitions. -/
theorem step_transition {e : Event} (h : step s e = some s') : Transition s e s'.state := by
  cases e with
  | setRemoteAddr ip port => cases h; exact .stay _
  | setListenerPort port => cases h; exact .stay _
  | connect iss => cases h; rw [connect_eq]; exact .connect iss
  | listen =>
      cases h
      rw [listen]
      split <;> rename_i hstate
      · exact .stay _
      · exact .listen (not_not.mp hstate)
  | send data => cases h; exact transition_of_eq (send_state s data)
  | recv bufSize => cases h; exact transition_recv s bufSize
  | readAll => cases h; exact transition_readAll s
  | close => cases h; exact transition_close s
  | input packet iss =>
      rcases input_cases h with ⟨-, -, rfl⟩ | ⟨-, rfl⟩ | ⟨hverify, hrst, rfl⟩ | ⟨hadmitted, h⟩
      · exact .stay _
      · exact .stay _
      · exact .reset hverify hrst
      · exact transition_dispatch hadmitted h
  | expire k =>
      rcases expire_eq_some_iff.mp h with ⟨t, hactive, rfl⟩
      by_cases hlimit : t.callback.retransmitCount + 1 ≥ maxRetransmitCount
      · rw [runClosure_of_limit _ hlimit]
        exact .stay _
      · rw [runClosure_of_lt _ hlimit]
        exact .stay _
  | expire2Msl =>
      rw [step] at h
      split at h <;> rename_i hactive
      · cases h
        exact .expire2Msl hactive
      · contradiction

/-- A packet makes a session in CLOSE_WAIT acknowledge, try to send, and send its FIN if
everything is acknowledged and the application has asked to close. -/
theorem step_input_closeWait (hadmitted : Admitted packet) (hstate : s.state = .closeWait)
    (h : step s (.input packet iss) = some s') :
    s' = ((s.observe packet).sendPureAck
      s.recvWindow.recvNext).handleTrySend.finishCloseWait := by
  rw [step, input_of_admitted hadmitted, dispatch,
    show (s.observe packet).state = .closeWait from hstate] at h
  cases h
  rfl

/-! ## The ends of a connection -/

/-- What the last acknowledgment makes of the session. -/
theorem step_lastAck (hadmitted : Admitted packet)
    (hstate : s.state = .lastAck) (hflag : packet.has flagAck = true)
    (hack : packet.ack = s.sendWindow.sendUnack + 1) :
    step s (.input packet iss) =
      some (((s.observe packet).advanceUnack packet.ack).transitionTo .closed
        |>.notify .closed) := by
  rw [step, input_of_admitted hadmitted, dispatch,
    show (s.observe packet).state = .lastAck from hstate, handleLastAck,
    if_neg (by simp [hflag])]
  exact congrArg some (if_neg (not_not.mpr hack))

/-- The step of the 2MSL timer. -/
theorem step_expire2Msl (hactive : s.timerManager.twoMslActive = true) :
    step s .expire2Msl =
      some { s with timerManager := s.timerManager.stop2Msl }.handle2MslTimeout := by
  rw [step, if_pos hactive]

/-! ## Calls outside the sending states -/

/-- A session that may not send data only stores what the application gives it. -/
theorem send_of_not_open (hstate : s.state ≠ .established ∧ s.state ≠ .closeWait)
    (data : List UInt8) : ∃ buffer, (s.send data).2 = { s with sendBuffer := buffer } := by
  rw [send]
  split
  · exact ⟨s.sendBuffer, rfl⟩
  · dsimp only
    split
    · exact ⟨s.sendBuffer, rfl⟩
    · rename_i buffer hpush
      refine ⟨buffer, handleTrySend_of_not _ ?_⟩
      rintro ⟨hopen, -⟩
      rcases hopen with hopen | hopen
      · exact hstate.1 hopen
      · exact hstate.2 hopen

/-- Outside CLOSE_WAIT a read changes the receive buffer only. -/
theorem recv_of_not_closeWait (hstate : s.state ≠ .closeWait) (bufSize : Nat) :
    ∃ buffer, (s.recv bufSize).2 = { s with recvBuffer := buffer } :=
  ⟨_, closeOnEof_of_ne hstate⟩

/-- Outside CLOSE_WAIT {lit}`read_all()` changes the receive buffer only. -/
theorem readAll_of_not_closeWait (hstate : s.state ≠ .closeWait) :
    ∃ buffer, s.readAll.2 = { s with recvBuffer := buffer } :=
  ⟨_, closeOnEof_of_ne hstate⟩

/-! ## Closed sessions -/

/-- The event opens a connection. -/
def Opens : Event → Prop
  | .connect _ | .listen => True
  | _ => False

/-- A closed session that is not opened again changes its timers and sends by expiries
only; a reset stops its timers. -/
theorem step_closed {e : Event} (hstate : s.state = .closed) (hopens : ¬ Opens e)
    (hexpire : ∀ k, e ≠ .expire k) (hexpire2Msl : e ≠ .expire2Msl)
    (h : step s e = some s') :
    s'.sent = s.sent ∧ (s'.timerManager = s.timerManager ∨
      s'.timerManager = s.timerManager.stopAllTimers) := by
  have hopen : s.state ≠ .established ∧ s.state ≠ .closeWait := by simp [hstate]
  cases e with
  | setRemoteAddr ip port => cases h; exact ⟨rfl, Or.inl rfl⟩
  | setListenerPort port => cases h; exact ⟨rfl, Or.inl rfl⟩
  | connect iss => exact absurd trivial hopens
  | listen => exact absurd trivial hopens
  | send data =>
      cases h
      rcases send_of_not_open hopen data with ⟨buffer, hsend⟩
      rw [hsend]
      exact ⟨rfl, Or.inl rfl⟩
  | recv bufSize =>
      cases h
      rcases recv_of_not_closeWait hopen.2 bufSize with ⟨buffer, hrecv⟩
      rw [hrecv]
      exact ⟨rfl, Or.inl rfl⟩
  | readAll =>
      cases h
      rcases readAll_of_not_closeWait hopen.2 with ⟨buffer, hread⟩
      rw [hread]
      exact ⟨rfl, Or.inl rfl⟩
  | close =>
      cases h
      rw [close, hstate]
      exact ⟨rfl, Or.inl rfl⟩
  | input packet iss =>
      rcases input_cases h with ⟨-, -, rfl⟩ | ⟨-, rfl⟩ | ⟨-, -, rfl⟩ | ⟨-, h⟩
      · exact ⟨rfl, Or.inl rfl⟩
      · exact ⟨rfl, Or.inl rfl⟩
      · exact ⟨rfl, Or.inr rfl⟩
      · rw [dispatch, show (s.observe packet).state = .closed from hstate] at h
        cases h
        exact ⟨rfl, Or.inl rfl⟩
  | expire k => exact absurd rfl (hexpire k)
  | expire2Msl => exact absurd rfl hexpire2Msl

end Steps

end TcpSession

end MyuTcp
