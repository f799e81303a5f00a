import MyuTcp.Core.Receiving
import MyuTcp.Core.StateMachine
import MyuTcp.Properties.SendLimits

/-!
# No data waits behind an open window

A session has no periodic sender, so whatever adds data, frees the window or changes its size
must end with a send attempt.  After a send attempt the buffer is in flight or the window is
full; a timeout collapses the window to one without an attempt, which keeps that so.

Main results:

- Theorem {lit}`keepsPace_handleTrySend`: a send attempt leaves nothing behind an open window.
- Theorem {lit}`keepsPace_step`: every step keeps that.
- Theorem {lit}`window_full_of_unsent`: in every run whose congestion window never closes, an
  established session with unsent data has its window full.
-/

namespace MyuTcp

open Library

namespace TcpSession

/-- In ESTABLISHED, everything in the buffer is in flight or the congestion window is full. -/
def KeepsPace (s : TcpSession) : Prop :=
  s.state = .established →
    s.sendBuffer.size ≤ s.inflight.toNat ∨ s.sendWindow.sendWindowSize ≤ s.inflight

/-- The congestion window is open. -/
def WindowOpen (s : TcpSession) : Prop := 1 ≤ s.sendWindow.sendWindowSize

section Pace

variable {s s' s₀ : TcpSession}

/-- Outside ESTABLISHED nothing is claimed. -/
theorem keepsPace_of_ne (h : s.state ≠ .established) : s.KeepsPace :=
  fun hstate => absurd hstate h

/-- State, buffer and window alone decide. -/
theorem KeepsPace.of_eq (h : s.KeepsPace) (hstate : s'.state = s.state)
    (hbuffer : s'.sendBuffer = s.sendBuffer) (hwindow : s'.sendWindow = s.sendWindow) :
    s'.KeepsPace := by
  intro hestablished
  have hpace := h (hstate.symm.trans hestablished)
  rw [inflight, hbuffer, hwindow]
  exact hpace

/-- A send attempt fills the window or puts the whole buffer in flight. -/
theorem keepsPace_handleTrySend (s : TcpSession) : s.handleTrySend.KeepsPace := by
  intro hstate
  rw [handleTrySend_state] at hstate
  rw [handleTrySend_sendBuffer, handleTrySend_sendWindowSize, UInt32.le_iff_toNat_le]
  by_cases h : s.Transmits
  · rw [inflight_handleTrySend h]
    have hlt := h.2.2
    split
    · omega
    · exact Or.inl le_rfl
  · rw [s.handleTrySend_of_not h]
    by_cases hfull : s.sendWindow.sendWindowSize = s.inflight
    · exact Or.inr (by rw [hfull])
    · refine Or.inl ?_
      by_contra hunsent
      exact h ⟨Or.inl hstate, hfull, by omega⟩

/-- {lit}`send()` tries to send at once. -/
theorem keepsPace_send (h : s.KeepsPace) (data : List UInt8) : (s.send data).2.KeepsPace := by
  rw [send]
  split
  · exact h
  · dsimp only
    split
    · exact h
    · exact keepsPace_handleTrySend _

/-- A timeout leaves a window of one, which one byte in flight fills. -/
theorem keepsPace_runClosure (h : s.KeepsPace) (hopen : s.WindowOpen)
    (c : RetransmitClosure) : (s.runClosure c).KeepsPace := by
  by_cases hlimit : c.retransmitCount + 1 ≥ maxRetransmitCount
  · rw [runClosure_of_limit _ hlimit]
    exact h
  · rw [runClosure_of_lt _ hlimit]
    intro hstate
    have hpace := h hstate
    simp only [WindowOpen, UInt32.le_iff_toNat_le] at hpace hopen ⊢
    change s.sendBuffer.size ≤ s.inflight.toNat ∨ (1 : UInt32).toNat ≤ s.inflight.toNat
    rw [UInt32.toNat_one] at hopen ⊢
    omega

variable {packet : MyuTcpPacket} {iss : UInt32}

/-- The window of the peer does not matter. -/
theorem keepsPace_observe (h : s.KeepsPace) : (s.observe packet).KeepsPace :=
  h.of_eq rfl rfl rfl

/-- On entering ESTABLISHED the session tries to send. -/
theorem keepsPace_handleSynSent (h : s.KeepsPace) : (s.handleSynSent packet).KeepsPace := by
  rw [handleSynSent]
  split
  · split
    · exact h
    · exact keepsPace_handleTrySend _
  · split
    · rw [acceptPeerSyn_eq]
      exact keepsPace_of_ne (by simp)
    · exact h

/-- On entering ESTABLISHED the session tries to send. -/
theorem keepsPace_handleSynReceived (h : s.KeepsPace) :
    (s.handleSynReceived packet).KeepsPace := by
  rw [handleSynReceived]
  split
  · exact h
  · split
    · exact h
    · exact keepsPace_handleTrySend _

/-- After an acknowledgment the session tries to send. -/
theorem keepsPace_handleEstablishedAck (h : s.KeepsPace) :
    (s.handleEstablishedAck packet).KeepsPace := by
  rw [handleEstablishedAck]
  split
  · exact keepsPace_handleTrySend _
  · exact h

/-- What follows the acknowledgment part leaves the send side as it is. -/
theorem keepsPace_afterAck (h : s.KeepsPace)
    (hpayload : s.handleEstablishedPayload packet = some s') :
    (handleEstablishedFin packet s').KeepsPace := by
  have hkept : s'.KeepsPace := by
    by_cases hnil : packet.payload = []
    · rw [handleEstablishedPayload_nil hnil, Option.some.injEq] at hpayload
      rwa [← hpayload]
    · rcases handleEstablishedPayload_frame hnil hpayload with ⟨m, q, n, t, ackNum, c, -, rfl⟩
      exact h.of_eq rfl rfl rfl
  rw [handleEstablishedFin]
  split
  · exact keepsPace_of_ne (by simp [notify, transitionTo])
  · exact hkept

/-- A packet keeps the pace in every state. -/
theorem keepsPace_input (h : s.KeepsPace) (hinput : s.input packet iss = some s') :
    s'.KeepsPace := by
  rcases input_cases hinput with ⟨-, -, rfl⟩ | ⟨-, rfl⟩ | ⟨-, -, rfl⟩ | ⟨hadmitted, hdispatch⟩
  · exact h
  · exact h
  · exact keepsPace_of_ne (by simp [handleReset, notify, transitionTo])
  by_cases hestablished : s.state = .established
  · rw [input_established hadmitted hestablished] at hinput
    rcases Option.map_eq_some_iff.mp hinput with ⟨s₂, hpayload, rfl⟩
    exact keepsPace_afterAck (keepsPace_handleEstablishedAck (keepsPace_observe h)) hpayload
  by_cases hopening : s.state = .synSent
  · rw [dispatch, show (s.observe packet).state = .synSent from hopening] at hdispatch
    cases hdispatch
    exact keepsPace_handleSynSent (keepsPace_observe h)
  by_cases hanswered : s.state = .synReceived
  · rw [dispatch, show (s.observe packet).state = .synReceived from hanswered] at hdispatch
    cases hdispatch
    exact keepsPace_handleSynReceived (keepsPace_observe h)
  -- no other state leads to ESTABLISHED
  refine keepsPace_of_ne ?_
  have htransition := transition_dispatch hadmitted hdispatch
  generalize s'.state = next at htransition
  cases htransition <;> simp_all

/-- Only a packet of the handshake leads to ESTABLISHED. -/
theorem keepsState_or_leaves {e : Event} {next : TcpState} (htransition : Transition s e next)
    (hinput : ∀ packet iss, e ≠ .input packet iss) :
    s.state = .established ∨ next ≠ .established := by
  cases htransition with
  | stay => exact em _
  | synAck => exact absurd rfl (hinput _ _)
  | synReceivedAck => exact absurd rfl (hinput _ _)
  | _ => exact Or.inr (by simp)

/-- A step that starts with an open window leaves no data behind it. -/
theorem keepsPace_step {e : Event} (h : s.KeepsPace) (hopen : s.WindowOpen)
    (hstep : step s e = some s') : s'.KeepsPace := by
  cases e with
  | setRemoteAddr ip port => cases hstep; exact h.of_eq rfl rfl rfl
  | setListenerPort port => cases hstep; exact h.of_eq rfl rfl rfl
  | connect iss => cases hstep; rw [connect_eq]; exact keepsPace_of_ne (by simp)
  | listen =>
      cases hstep
      rw [listen]
      split
      · exact h
      · exact keepsPace_of_ne (by simp [transitionTo])
  | send data => cases hstep; exact keepsPace_send h data
  | recv bufSize =>
      cases hstep
      rcases keepsState_or_leaves (transition_recv s bufSize) (by simp) with hstate | hstate
      · rcases recv_of_not_closeWait (s := s) (by simp [hstate]) bufSize with ⟨buffer, hrecv⟩
        rw [hrecv]
        exact h.of_eq rfl rfl rfl
      · exact keepsPace_of_ne hstate
  | readAll =>
      cases hstep
      rcases keepsState_or_leaves (transition_readAll s) (by simp) with hstate | hstate
      · rcases readAll_of_not_closeWait (s := s) (by simp [hstate]) with ⟨buffer, hread⟩
        rw [hread]
        exact h.of_eq rfl rfl rfl
      · exact keepsPace_of_ne hstate
  | close =>
      cases hstep
      rcases keepsState_or_leaves (transition_close s) (by simp) with hstate | hstate
      · rw [close, hstate]
        dsimp only
        rw [closeEstablished_eq]
        exact keepsPace_of_ne (by simp)
      · exact keepsPace_of_ne hstate
  | input packet iss => exact keepsPace_input h hstep
  | expire k =>
      rcases expire_eq_some_iff.mp hstep with ⟨t, hactive, rfl⟩
      have hstopped : { s with timerManager := s.timerManager.stopTimer k }.KeepsPace :=
        h.of_eq rfl rfl rfl
      exact keepsPace_runClosure hstopped hopen t.callback
  | expire2Msl =>
      rw [step] at hstep
      split at hstep
      · cases hstep
        exact keepsPace_of_ne (by simp [handle2MslTimeout, notify, transitionTo])
      · contradiction

end Pace

/-! ## Runs -/

/-- In every run whose congestion window stays open, from a session that is not yet
established, unsent data of an established session means that its window is full. -/
theorem window_full_of_unsent {s₀ s : TcpSession} (hstart : s₀.state ≠ .established)
    (hs : step.Reachable (fun t _ => t.WindowOpen) s₀ s) (hstate : s.state = .established)
    (hunsent : s.inflight.toNat < s.sendBuffer.size) :
    s.sendWindow.sendWindowSize ≤ s.inflight := by
  have hpace : s.KeepsPace :=
    hs.invariant (keepsPace_of_ne hstart) fun _ _ _ h hopen hstep => keepsPace_step h hopen hstep
  exact (hpace hstate).resolve_left (by omega)

/-- Two bytes are given to a session whose window admits one. -/
def unsentRun : List Event :=
  [.connect 0, .input (peerPacket (flagSyn ||| flagAck) 100 1 1024 []) 0, .send [1, 2]]

theorem window_full_of_unsent_second :
    ∃ s, step.run clientSession unsentRun = some s ∧ s.inflight.toNat < s.sendBuffer.size ∧
      s.sendWindow.sendWindowSize ≤ s.inflight := by
  have hrun : ((step.run clientSession unsentRun).any fun s =>
      s.state = .established ∧ s.inflight.toNat < s.sendBuffer.size) = true := by
    decide +kernel
  have hopen : step.checkSteps (fun t _ => decide (1 ≤ t.sendWindow.sendWindowSize)) clientSession
      unsentRun = true := by
    decide +kernel
  rcases (Option.any_eq_true _ _).mp hrun with ⟨s, hs, hstate⟩
  have hreach := StepFn.reachable_of_run
    (StepFn.allSteps_of_check (fun t _ => of_decide_eq_true) hopen) hs
  rw [decide_eq_true_eq] at hstate
  exact ⟨s, hs, hstate.2, window_full_of_unsent (by decide) hreach hstate.1 hstate.2⟩

end TcpSession

end MyuTcp
