import MyuTcp.Core.OneConnection

/-!
# Timers of the numbers in flight

Which numbers the active timers of an open session are registered under.  They are in flight,
apart from one: {lit}`_handle_ack` keeps the timer directly below the number that it accepts.

Main results:

- Theorem {lit}`flightTimers_step`: a step of a session with one connection keeps the timers so.
- Theorem {lit}`FlightTimers.dropped_iff`: which of them an accepted acknowledgment drops.
- Theorem {lit}`activeTimers_fly`: so in every state of a run with one connection.
-/

namespace MyuTcp

open Library

namespace TcpSession

/-- The session has numbers of its own that it waits for. -/
def Pending (s : TcpSession) : Prop :=
  s.state = .synSent ∨ s.state = .synReceived ∨ s.state = .established

/-- The number is in flight, or the last one that has been acknowledged. -/
def Flies (s : TcpSession) (k : UInt32) : Prop :=
  k - s.sendWindow.sendUnack < s.inflight ∨
    s.state = .established ∧ k + 1 = s.sendWindow.sendUnack ∧ s.sendWindow.sendUnack ≠ 0

/-- Every active timer of a session that waits is the timer of such a number. -/
structure FlightTimers (s : TcpSession) : Prop where
  connecting : s.state = .synSent → s.inflight = 1
  flies : s.Pending → ∀ k t, s.timerManager.activeAt k = some t → s.Flies k

section FlightTimers

variable {s₀ s s' a b : TcpSession} {e : Event} {packet : MyuTcpPacket} {iss : UInt32}

/-- Outside the opening and ESTABLISHED nothing is claimed. -/
theorem flightTimers_of_not_pending (next : TcpState) (hstate : s.state = next)
    (hnext : next ≠ .synSent ∧ next ≠ .synReceived ∧ next ≠ .established) : FlightTimers s := by
  have hnot : ¬ s.Pending := by
    rw [Pending, hstate, not_or, not_or]
    exact hnext
  refine ⟨?_, fun hpending => absurd hpending hnot⟩
  rw [hstate]
  exact fun h => absurd h hnext.1

/-- A session that waits for the same numbers as before. -/
theorem FlightTimers.mono (h : FlightTimers a) (hstate : b.state = a.state)
    (hunack : b.sendWindow.sendUnack = a.sendWindow.sendUnack)
    (hnext : b.sendWindow.sendNext = a.sendWindow.sendNext)
    (htimers : ∀ k t, b.timerManager.activeAt k = some t →
      ∃ u, a.timerManager.activeAt k = some u) : FlightTimers b := by
  have hinflight : b.inflight = a.inflight := by rw [inflight, inflight, hunack, hnext]
  refine ⟨?_, ?_⟩
  · rw [hstate, hinflight]
    exact h.connecting
  · intro hpending k t ht
    rcases htimers k t ht with ⟨u, hu⟩
    have hflies := h.flies (by rwa [Pending, ← hstate]) k u hu
    rwa [Flies, hinflight, hstate, hunack]

/-- State, window and timers alone decide. -/
theorem FlightTimers.of_eq (h : FlightTimers a) (hstate : b.state = a.state)
    (hsend : b.sendWindow = a.sendWindow) (htimers : b.timerManager = a.timerManager) :
    FlightTimers b := by
  apply h.mono hstate (by rw [hsend]) (by rw [hsend])
  rw [htimers]
  exact fun k t ht => ⟨t, ht⟩

/-- The first number of a connection is in flight and has a timer. -/
theorem flightTimers_of_opens (hnone : ∀ k, a.timerManager.activeAt k = none) {n : UInt32}
    {timeoutMs : UInt64} {c : RetransmitClosure}
    (htimers : b.timerManager = a.timerManager.startTimer n timeoutMs c)
    (hunack : b.sendWindow.sendUnack = n) (hnext : b.sendWindow.sendNext = n + 1) :
    FlightTimers b := by
  have hinflight : b.inflight = 1 := by
    rw [inflight, hunack, hnext]
    grind
  refine ⟨fun _ => hinflight, ?_⟩
  intro _ k t ht
  rw [htimers, TimerManager.activeAt_startTimer] at ht
  split at ht <;> rename_i hk
  · left
    rw [hinflight, hunack, hk]
    grind
  · rw [hnone k] at ht
    contradiction

/-- A segment behind the numbers in flight, with its timer. -/
theorem FlightTimers.start (h : FlightTimers a) (hpending : a.Pending)
    (hstate : b.state ≠ .synSent ∧ (a.state = .established → b.state = .established))
    (hunack : b.sendWindow.sendUnack = a.sendWindow.sendUnack)
    (hgrows : a.inflight < b.inflight) {timeoutMs : UInt64} {c : RetransmitClosure}
    (htimers : b.timerManager = a.timerManager.startTimer a.sendWindow.sendNext timeoutMs c) :
    FlightTimers b := by
  refine ⟨fun hsynSent => absurd hsynSent hstate.1, ?_⟩
  intro _ k t ht
  rw [htimers, TimerManager.activeAt_startTimer] at ht
  split at ht <;> rename_i hk
  · left
    rw [hk, hunack]
    exact hgrows
  · rcases h.flies hpending k t ht with hflies | ⟨hestablished, hlast⟩
    · left
      rw [hunack]
      exact lt_trans hflies hgrows
    · right
      rw [hunack]
      exact ⟨hstate.2 hestablished, hlast⟩

/-- {lit}`_handle_try_send` starts a timer for what it sends. -/
theorem FlightTimers.trySend (h : FlightTimers s) : FlightTimers s.handleTrySend := by
  by_cases htransmits : s.Transmits
  · rcases htransmits.1 with hstate | hstate
    · have hgrows : s.inflight < s.handleTrySend.inflight := by
        have hlength := List.length_pos_iff.mpr (s.nextPayload_ne_nil htransmits)
        rw [UInt32.lt_iff_toNat_lt, s.toNat_inflight_handleTrySend htransmits]
        omega
      apply h.start (Or.inr (Or.inr hstate)) (by simp [hstate]) (by simp) hgrows
      rw [s.handleTrySend_of_transmits htransmits]
    · exact flightTimers_of_not_pending .closeWait (s.handleTrySend_state.trans hstate) (by simp)
  · rwa [s.handleTrySend_of_not htransmits]

/-- A session that becomes established by the acknowledgment of its first number. -/
theorem FlightTimers.establish (h : FlightTimers a) (hpending : a.Pending)
    (hbefore : a.state ≠ .established) (hafter : b.state = .established)
    (hunack : b.sendWindow.sendUnack = a.sendWindow.sendUnack + 1)
    (hnext : b.sendWindow.sendNext = a.sendWindow.sendNext)
    (htimers : b.timerManager = a.timerManager.stopTimer a.sendWindow.sendUnack) :
    FlightTimers b := by
  refine ⟨fun hsynSent => by simp [hafter] at hsynSent, ?_⟩
  intro _ k t ht
  rw [htimers, TimerManager.activeAt_stopTimer] at ht
  split at ht <;> rename_i hk
  · contradiction
  · rcases h.flies hpending k t ht with hflies | hlast
    · left
      rw [inflight, hunack, hnext]
      exact sub_succ_lt_sub_succ hflies hk
    · exact absurd hlast.1 hbefore

/-- An accepted acknowledgment drops the timers of the numbers that lie further back than the one
directly below it, in the distance from the last one before. -/
theorem FlightTimers.dropped_iff {ackNum k : UInt32} {t : UvTimer RetransmitClosure}
    (h : FlightTimers s) (hstate : s.state = .established) (haccepts : s.acceptsAck ackNum = true)
    (ht : s.timerManager.activeAt k = some t) :
    k < ackNum - 1 ↔ k + 1 = s.sendWindow.sendUnack ∨
      k - s.sendWindow.sendUnack < ackNum - 1 - s.sendWindow.sendUnack := by
  rcases acceptsAck_iff.mp haccepts with ⟨hlow, hle⟩
  rcases h.flies (Or.inr (Or.inr hstate)) k t ht with hflies | ⟨-, hlast, hne⟩
  · rw [lt_pred_iff_sub hlow hle hflies]
    constructor
    · exact Or.inr
    · rintro (hlast | hbelow)
      · exact absurd hflies (not_sub_lt_of_succ_eq hlast)
      · exact hbelow
  · exact ⟨fun _ => Or.inl hlast, fun _ => lt_pred_of_succ_eq hlow hlast hne⟩

/-- An acknowledgment keeps the timers of the numbers in flight, and the one directly below. -/
theorem FlightTimers.ack {ackNum : UInt32} (h : FlightTimers s) (hstate : s.state = .established)
    (haccepts : s.acceptsAck ackNum = true) (hthird : ¬ s.ThirdDuplicate ackNum) :
    FlightTimers (s.processAck ackNum) := by
  rcases acceptsAck_iff.mp haccepts with ⟨hlow, hle⟩
  have hprocess := fun k => activeAt_processAck (fun h => absurd h hthird) k
  refine ⟨fun hsynSent => by simp [hstate] at hsynSent, ?_⟩
  intro _ k t ht
  rw [(hprocess k).1] at ht
  split at ht <;> rename_i hk
  · contradiction
  rw [Flies, inflight, processAck_sendUnack, processAck_state, (hprocess k).2]
  rcases h.flies (Or.inr (Or.inr hstate)) k t ht with hflies | ⟨-, hlast, hne⟩
  · rcases sub_lt_sub_of_not_lt_pred hlow hle hflies hk with habove | hbelow
    · exact Or.inl habove
    · refine Or.inr ⟨hstate, hbelow, ?_⟩
      rintro rfl
      exact absurd hlow (by simp)
  · exact absurd (lt_pred_of_succ_eq hlow hlast hne) hk

/-- The states of the close. -/
theorem FinTransition.not_pending {state next : TcpState} (h : FinTransition state next) :
    next ≠ .synSent ∧ next ≠ .synReceived ∧ next ≠ .established := by
  cases h <;> simp

/-- Expiries arm the timers of their own numbers again. -/
theorem FlightTimers.expire {k : UInt32} (h : FlightTimers s) (hkeyed : s.Keyed)
    (hstep : s.expire k = some s') : FlightTimers s' := by
  rcases expire_frame hstep with ⟨hstate, hunack, hnext, -⟩
  rcases expire_eq_some_iff.mp hstep with ⟨t, hactive, -⟩
  refine h.mono hstate hunack hnext fun j t' ht' => ?_
  rcases activeAt_expire hactive (hkeyed k t hactive) hstep ht' with ⟨-, hold⟩ | ⟨rfl, -⟩
  · exact ⟨t', hold⟩
  · exact ⟨t, hactive⟩

/-- Whatever a move of a session with one connection arms or acknowledges. -/
theorem Move.flightTimers (hs : Once s₀) (hok : s₀.OneConnection e) (hexpire : ∀ k, e ≠ .expire k)
    (h : FlightTimers a) (hmove : Move s₀ e a b) : FlightTimers b := by
  cases hmove with
  | connect iss =>
      rw [connect_eq]
      exact flightTimers_of_opens (hs.unarmed hok) rfl rfl rfl
  | trySend s => exact h.trySend
  | closeEstablished hstate =>
      rw [closeEstablished_eq]
      exact flightTimers_of_not_pending .finWait1 rfl (by simp)
  | closeCloseWait s hstate =>
      rw [closeCloseWait_eq]
      exact flightTimers_of_not_pending .lastAck rfl (by simp)
  | abortOpening hstate =>
      rw [abortOpening_eq]
      exact flightTimers_of_not_pending .closed rfl (by simp)
  | listen hstate => exact flightTimers_of_not_pending .listen rfl (by simp)
  | reset hrst => exact flightTimers_of_not_pending .closed rfl (by simp)
  | passiveOpen hstate hsyn =>
      rw [handleListen_eq _ hsyn]
      exact flightTimers_of_opens (hs.unarmed (hs.listening hstate)) rfl rfl rfl
  | synAck hstate hsyn hflag hack =>
      rw [acceptSynAck_eq]
      exact h.establish (Or.inl hstate) (by simp [observe, setPeerUsableWindowSize, hstate]) rfl
        hack rfl rfl
  | peerSyn hstate hsyn hflag =>
      rw [acceptPeerSyn_eq]
      refine h.start (Or.inl hstate) (by simp [observe, setPeerUsableWindowSize, hstate]) rfl ?_ rfl
      have hone := h.connecting hstate
      unfold inflight at hone ⊢
      dsimp only
      grind
  | synReceivedAck hstate hflag hack =>
      refine h.establish (Or.inr (Or.inl hstate))
        (by simp [observe, setPeerUsableWindowSize, hstate]) rfl hack rfl ?_
      change s₀.timerManager.stopTimer (_ - 1) = s₀.timerManager.stopTimer _
      rw [hack, UInt32.add_sub_cancel]
      rfl
  | ack haccepts => exact h.ack haccepts.2.1 haccepts.2.2.2 (hs.not_thirdDuplicate _).2
  | inOrder s hstate hseq hdrain =>
      rcases a.reassemble_acceptPayload_frame _ _ with ⟨m, q, n, hframe⟩
      rw [hframe]
      exact h.of_eq rfl rfl rfl
  | outOfOrder s hstate hseq =>
      rcases a.storeOutOfOrder_frame _ _ with ⟨m, hframe⟩
      rw [hframe]
      exact h.of_eq rfl rfl rfl
  | fin s hfin hnext horder => exact flightTimers_of_not_pending _ rfl hnext.not_pending
  | finAcked hstate hflag hack => exact flightTimers_of_not_pending .finWait2 rfl (by simp)
  | start2Msl s hstate => exact flightTimers_of_not_pending .timeWait hstate (by simp)
  | finishCloseWait s hstate =>
      by_cases hdrained : a.Drained
      · rw [finishCloseWait_of_drained _ hdrained]
        exact flightTimers_of_not_pending .lastAck rfl (by simp)
      · rwa [finishCloseWait_of_not _ hdrained]
  | lastAck hstate hflag hack => exact flightTimers_of_not_pending .closed rfl (by simp)
  | expire hactive => exact absurd rfl (hexpire _)
  | expire2Msl hactive => exact flightTimers_of_not_pending .closed rfl (by simp)
  | _ => exact h.of_eq rfl rfl rfl

/-- A step of a session with one connection keeps the timers of the numbers in flight. -/
theorem flightTimers_step (hs : Once s) (hkeyed : s.Keyed) (hok : s.OneConnection e)
    (h : FlightTimers s) (hstep : step s e = some s') : FlightTimers s' := by
  by_cases hexpire : ∃ k, e = .expire k
  · rcases hexpire with ⟨k, rfl⟩
    exact h.expire hkeyed hstep
  · rw [not_exists] at hexpire
    exact (step_moves hstep).preserves (fun _ _ ha hmove => hmove.flightTimers hs hok hexpire ha) h

/-- A new session has no timers. -/
theorem Created.flightTimers (h : Created s) : FlightTimers s :=
  flightTimers_of_not_pending .closed h.state (by simp)

end FlightTimers

/-! ## Runs of one connection -/

/-- In every state of a run with one connection before its close, an active timer re-sends the
packet of its own number, which is in flight or, once established, the last one acknowledged. -/
theorem activeTimers_fly {s₀ s : TcpSession} (h₀ : Created s₀)
    (hs : step.Reachable OneConnection s₀ s) (hpending : s.Pending) {k : UInt32}
    {t : UvTimer RetransmitClosure} (ht : s.timerManager.activeAt k = some t) :
    t.callback.packet.seq = k ∧ s.Flies k := by
  have hstart : Once s₀ ∧ s₀.Keyed ∧ FlightTimers s₀ := ⟨h₀.once, h₀.keyed, h₀.flightTimers⟩
  have hinv : Once s ∧ s.Keyed ∧ FlightTimers s := by
    refine hs.invariant (P := fun a => Once a ∧ a.Keyed ∧ FlightTimers a) hstart ?_
    rintro a e b ⟨honce, hkeyed, hflight⟩ hok hstep
    exact ⟨once_step honce hok hstep, keyed_step hkeyed hstep,
      flightTimers_step honce hkeyed hok hflight hstep⟩
  exact ⟨hinv.2.1 k t ht, hinv.2.2.flies hpending k t ht⟩

/-- A byte is sent and acknowledged, and its timer stays active. -/
def ackedSingleRun : List Event :=
  [.connect 0, .input (peerPacket (flagSyn ||| flagAck) 100 1 1024 []) 0, .send [7],
    .input (peerPacket flagAck 101 2 1024 []) 0]

/-- A byte is acknowledged, and its timer stays. -/
theorem activeTimers_fly_ackedSingle :
    ∃ s t, step.run clientSession ackedSingleRun = some s ∧ s.inflight = 0 ∧
      s.timerManager.activeAt 1 = some t ∧ t.callback.packet.seq = 1 ∧ s.Flies 1 := by
  have hcheck : step.checkSteps (fun s e => decide (s.OneConnection e)) clientSession
      ackedSingleRun = true := by
    decide +kernel
  have hrun : ((step.run clientSession ackedSingleRun).any fun s =>
      s.state = .established && s.inflight = 0 && (s.timerManager.activeAt 1).isSome) = true := by
    decide +kernel
  rcases (Option.any_eq_true _ _).mp hrun with ⟨s, hs, hfacts⟩
  simp only [Bool.and_eq_true, decide_eq_true_eq] at hfacts
  rcases Option.isSome_iff_exists.mp hfacts.2 with ⟨t, ht⟩
  have hreach := StepFn.reachable_of_run
    (StepFn.allSteps_of_check (fun _ _ => of_decide_eq_true) hcheck) hs
  have hfly := activeTimers_fly (.mk _ _ _ _ _ _) hreach (Or.inr (Or.inr hfacts.1.1)) ht
  exact ⟨s, t, hs, hfacts.1.2, ht, hfly⟩

end TcpSession

end MyuTcp
