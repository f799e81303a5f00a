import MyuTcp.Properties.CongestionWindow

/-!
# The decrease after a timeout

How the window grows after a timeout at a window {lit}`w`.  An odd window is halved, so the
doubling phase ends at or below {lit}`w`; an even one stores a threshold of {lit}`w + 1`, and
the doubling phase runs past {lit}`w`.

Main results:

- Theorem {lit}`window_step`: a step that is no loss event grows the window by an accepted
  acknowledgment only, and keeps the threshold.
- Theorem {lit}`decrease_iff`: the updates that exceed the window before the timeout are
  steps of one exactly for odd windows, windows from 2^31 on and short runs.
-/

namespace MyuTcp

open Library

namespace TcpSession

/-- A timer expires below the retry limit, or a third duplicate acknowledgment is accepted. -/
def Loses (s : TcpSession) : Event → Prop
  | .expire k => ∃ t, s.timerManager.activeAt k = some t ∧
      ¬ t.callback.retransmitCount + 1 ≥ maxRetransmitCount
  | .input packet iss =>
      s.AcceptsAckEvent (.input packet iss) ∧ s.ThirdDuplicate packet.ack
  | _ => False

instance (s : TcpSession) : (e : Event) → Decidable (s.Loses e)
  | .expire k => decidable_of_iff ((s.timerManager.activeAt k).any (fun t =>
      decide (¬ t.callback.retransmitCount + 1 ≥ maxRetransmitCount)) = true) (by
    rw [Option.any_eq_true]
    simp only [decide_eq_true_eq]
    rfl)
  | .input _ _ => inferInstanceAs (Decidable (_ ∧ _))
  | .setRemoteAddr .. | .setListenerPort .. | .connect .. | .listen | .send .. | .recv ..
  | .readAll | .close | .expire2Msl => isFalse id

/-- If the event is an accepted acknowledgment that takes the window above {lit}`w`, the window
grows by one. -/
def GrowsByOneAbove (w : UInt32) (s : TcpSession) (e : Event) : Prop :=
  s.AcceptsAckEvent e → ∀ s', step s e = some s' → w < s'.sendWindow.sendWindowSize →
    s'.sendWindow.sendWindowSize.toNat = s.sendWindow.sendWindowSize.toNat + 1

/-! ## One step -/

section Steps

variable {s s' s₀ a b : TcpSession} {e : Event}

/-- A move other than a loss keeps window and threshold, or it is the acknowledgment. -/
theorem Move.window (hloss : ¬ s₀.Loses e) (hmove : Move s₀ e a b) :
    (b.sendWindow.sendWindowSize = a.sendWindow.sendWindowSize ∧ b.ssthresh = a.ssthresh) ∨
      ∃ packet iss, e = .input packet iss ∧ s₀.AcceptsAckEvent e ∧
        b = (s₀.observe packet).processAck packet.ack := by
  cases hmove with
  | @ack packet iss haccepts => exact Or.inr ⟨packet, iss, rfl, haccepts, rfl⟩
  | connect iss => rw [connect_eq]; exact Or.inl ⟨rfl, rfl⟩
  | trySend s => exact Or.inl ⟨handleTrySend_sendWindowSize _, handleTrySend_ssthresh _⟩
  | closeEstablished hstate => rw [closeEstablished_eq]; exact Or.inl ⟨rfl, rfl⟩
  | closeCloseWait s hstate => rw [closeCloseWait_eq]; exact Or.inl ⟨rfl, rfl⟩
  | abortOpening hstate => rw [abortOpening_eq]; exact Or.inl ⟨rfl, rfl⟩
  | passiveOpen hstate hsyn => rw [handleListen_eq _ hsyn]; exact Or.inl ⟨rfl, rfl⟩
  | synAck hstate hsyn hflag hack => rw [acceptSynAck_eq]; exact Or.inl ⟨rfl, rfl⟩
  | peerSyn hstate hsyn hflag => rw [acceptPeerSyn_eq]; exact Or.inl ⟨rfl, rfl⟩
  | @inOrder packet iss s drained hstate hseq hdrain =>
      rcases a.reassemble_acceptPayload_frame packet.payload drained with ⟨m, q, n, h⟩
      rw [h]
      exact Or.inl ⟨rfl, rfl⟩
  | @outOfOrder packet iss s hstate hseq =>
      rcases a.storeOutOfOrder_frame packet.seq packet.payload with ⟨m, h⟩
      rw [h]
      exact Or.inl ⟨rfl, rfl⟩
  | finishCloseWait s hstate =>
      by_cases hdrained : a.Drained
      · rw [finishCloseWait_of_drained _ hdrained]
        exact Or.inl ⟨rfl, rfl⟩
      · rw [finishCloseWait_of_not _ hdrained]
        exact Or.inl ⟨rfl, rfl⟩
  | @expire k t hactive =>
      by_cases hlimit : t.callback.retransmitCount + 1 ≥ maxRetransmitCount
      · rw [runClosure_of_limit _ hlimit]
        exact Or.inl ⟨rfl, rfl⟩
      · exact absurd ⟨t, hactive, hlimit⟩ hloss
  | _ => exact Or.inl ⟨rfl, rfl⟩

/-- An accepted acknowledgment that is no third duplicate grows the window and keeps the
threshold. -/
theorem processAck_window {packet : MyuTcpPacket} {iss : UInt32}
    (haccepts : s.AcceptsAckEvent (.input packet iss)) (hloss : ¬ s.Loses (.input packet iss)) :
    ((s.observe packet).processAck packet.ack).sendWindow.sendWindowSize =
        grownWindow s.sendWindow.sendWindowSize s.ssthresh ∧
      ((s.observe packet).processAck packet.ack).ssthresh = s.ssthresh := by
  have hcount := countDupAck_congr (s := s.observe packet) (t := s) rfl rfl packet.ack
  have hnot : ¬ (s.observe packet).ThirdDuplicate packet.ack := by
    intro hthird
    apply hloss
    refine ⟨haccepts, ?_⟩
    rw [ThirdDuplicate, ← hcount.1]
    exact hthird
  rw [processAck_of_not _ hnot]
  exact ⟨rfl, rfl⟩

/-- A step that is no loss event keeps the threshold, and grows the window by an accepted
acknowledgment only. -/
theorem window_step (hloss : ¬ s.Loses e) (h : step s e = some s') :
    s'.sendWindow.sendWindowSize =
        (if s.AcceptsAckEvent e then grownWindow s.sendWindow.sendWindowSize s.ssthresh
          else s.sendWindow.sendWindowSize) ∧
      s'.ssthresh = s.ssthresh := by
  by_cases haccepts : s.AcceptsAckEvent e
  · rw [if_pos haccepts]
    cases e with
    | input packet iss =>
        apply (moves_of_acceptsAck haccepts h).preserves (P := fun t =>
          t.sendWindow.sendWindowSize = grownWindow s.sendWindow.sendWindowSize s.ssthresh ∧
            t.ssthresh = s.ssthresh)
        · intro a b ha hmove
          rcases hmove.window hloss with hkept | ⟨packet', iss', heq, -, rfl⟩
          · rw [hkept.1, hkept.2]
            exact ha
          · cases heq
            exact processAck_window haccepts hloss
        · exact processAck_window haccepts hloss
    | _ => exact haccepts.elim
  · rw [if_neg haccepts]
    apply (step_moves h).preserves (P := fun t =>
      t.sendWindow.sendWindowSize = s.sendWindow.sendWindowSize ∧ t.ssthresh = s.ssthresh)
    · intro a b ha hmove
      rcases hmove.window hloss with hkept | ⟨packet, iss, -, hack, -⟩
      · rw [hkept.1, hkept.2]
        exact ha
      · exact absurd hack haccepts
    · exact ⟨rfl, rfl⟩

end Steps

/-! ## Growth after the timeout -/

section Growth

variable {w cwnd thresh : UInt32}

/-- Below a threshold of half the old window, doubling does not exceed the old window. -/
theorem growth_below_half (hhalf : 2 * thresh.toNat ≤ w.toNat + 1)
    (hexceeds : w < grownWindow cwnd thresh) :
    (grownWindow cwnd thresh).toNat = cwnd.toNat + 1 := by
  have hone : (1 : UInt32).toNat = 1 := rfl
  have htwo : (2 : UInt32).toNat = 2 := rfl
  have hcwnd := cwnd.toNat_lt
  unfold grownWindow at hexceeds ⊢
  split <;> rename_i hlt
  · rw [if_pos hlt] at hexceeds
    rw [UInt32.lt_iff_toNat_lt] at hlt hexceeds
    rw [UInt32.toNat_mul, htwo] at hexceeds
    omega
  · rw [if_neg hlt] at hexceeds
    rw [UInt32.lt_iff_toNat_lt] at hexceeds
    rw [UInt32.toNat_add, hone] at hexceeds ⊢
    omega

/-- The threshold of an odd window. -/
theorem timeoutSsthresh_odd (hodd : w % 2 ≠ 0) : 2 * (timeoutSsthresh w).toNat ≤ w.toNat + 1 := by
  have hone : (1 : UInt32).toNat = 1 := rfl
  have htwo : (2 : UInt32).toNat = 2 := rfl
  rw [timeoutSsthresh, if_pos hodd, UInt32.toNat_div, UInt32.toNat_add, hone, htwo]
  omega

/-- The threshold of an even window. -/
theorem timeoutSsthresh_even (heven : w % 2 = 0) :
    (timeoutSsthresh w).toNat = w.toNat + 1 := by
  have hone : (1 : UInt32).toNat = 1 := rfl
  have htwo : (2 : UInt32).toNat = 2 := rfl
  have hw := w.toNat_lt
  have hmod : w.toNat % 2 = 0 := by
    have hval := congrArg UInt32.toNat heven
    rwa [UInt32.toNat_mod, htwo] at hval
  rw [timeoutSsthresh, if_neg (not_not.mpr heven), UInt32.toNat_add, hone]
  omega

/-- Doubling, modulo 2^32, up to a threshold of one more than the old window. -/
theorem toNat_growth (hthresh : thresh.toNat = w.toNat + 1) (hle : cwnd.toNat ≤ w.toNat) :
    (grownWindow cwnd thresh).toNat = cwnd.toNat * 2 % 2 ^ 32 := by
  have hlt : cwnd < thresh := by
    rw [UInt32.lt_iff_toNat_lt]
    omega
  rw [grownWindow, if_pos hlt, UInt32.toNat_mul]
  rfl

end Growth

/-! ## Runs -/

section Runs

variable {w : UInt32} {s s' : TcpSession} {es : List Event}

/-- After a timeout at an odd window, an update that exceeds the old window is a step of one. -/
theorem decrease_of_half (hhalf : 2 * s.ssthresh.toNat ≤ w.toNat + 1)
    (hall : step.AllSteps (fun s e => ¬ s.Loses e) s es) :
    step.AllSteps (GrowsByOneAbove w) s es := by
  apply StepFn.AllSteps.of_invariant (P := fun s => 2 * s.ssthresh.toNat ≤ w.toNat + 1) _ _ hhalf
    hall
  · intro s e s' hs hloss h
    rw [(window_step hloss h).2]
    exact hs
  · intro s e hs hloss haccepts s' h hexceeds
    rw [(window_step hloss h).1, if_pos haccepts] at hexceeds ⊢
    exact growth_below_half hs hexceeds

/-- The windows of a doubling phase that has started at one. -/
def IsPowerOrZero (n : Nat) : Prop := n = 0 ∨ ∃ k ≤ 31, n = 2 ^ k

/-- From 2^31 on, the doubling phase overflows to zero before it exceeds the old window. -/
theorem decrease_of_large (hlarge : 2 ^ 31 ≤ w.toNat) (hthresh : s.ssthresh.toNat = w.toNat + 1)
    (hpower : IsPowerOrZero s.sendWindow.sendWindowSize.toNat)
    (hall : step.AllSteps (fun s e => ¬ s.Loses e) s es) :
    step.AllSteps (GrowsByOneAbove w) s es := by
  have hgrowth : ∀ cwnd thresh : UInt32, thresh.toNat = w.toNat + 1 → IsPowerOrZero cwnd.toNat →
      IsPowerOrZero (grownWindow cwnd thresh).toNat := by
    intro cwnd thresh hthresh hpower
    have hle : cwnd.toNat ≤ 2 ^ 31 := by
      rcases hpower with hzero | ⟨k, hk, hk'⟩
      · omega
      · rw [hk']
        exact Nat.pow_le_pow_right (by omega) hk
    rw [toNat_growth hthresh (by omega)]
    rcases hpower with hzero | ⟨k, hk, hk'⟩
    · simp [hzero, IsPowerOrZero]
    · rcases Nat.lt_or_eq_of_le hk with hlt | rfl
      · have hbound : 2 ^ (k + 1) ≤ 2 ^ 31 := Nat.pow_le_pow_right (by omega) hlt
        rw [hk', ← Nat.pow_succ, Nat.mod_eq_of_lt (by omega)]
        exact Or.inr ⟨k + 1, hlt, rfl⟩
      · rw [hk']
        exact Or.inl rfl
  apply StepFn.AllSteps.of_invariant (P := fun s => s.ssthresh.toNat = w.toNat + 1 ∧
    IsPowerOrZero s.sendWindow.sendWindowSize.toNat) _ _ ⟨hthresh, hpower⟩ hall
  · rintro s e s' ⟨hs, hpower⟩ hloss h
    have hwindow := window_step hloss h
    rw [hwindow.1, hwindow.2]
    refine ⟨hs, ?_⟩
    split
    · exact hgrowth _ _ hs hpower
    · exact hpower
  · rintro s e ⟨hs, hpower⟩ hloss haccepts s' h hexceeds
    have hafter := hgrowth _ _ hs hpower
    rw [(window_step hloss h).1, if_pos haccepts, UInt32.lt_iff_toNat_lt] at hexceeds
    have hle : (grownWindow s.sendWindow.sendWindowSize s.ssthresh).toNat ≤ 2 ^ 31 := by
      rcases hafter with hzero | ⟨k, hk, hk'⟩
      · omega
      · rw [hk']
        exact Nat.pow_le_pow_right (by omega) hk
    omega

/-- In the doubling phase after a timeout at an even window, the update past the old window is
the one after {lit}`log2 w` accepted acknowledgments, and no step of one. -/
theorem decrease_of_even (hw : 2 ≤ w.toNat) (hsmall : w.toNat < 2 ^ 31)
    (hthresh : s.ssthresh.toNat = w.toNat + 1) {j : Nat} (hj : j ≤ Nat.log2 w.toNat)
    (hwindow : s.sendWindow.sendWindowSize.toNat = 2 ^ j)
    (hall : step.AllSteps (fun s e => ¬ s.Loses e) s es) (hrun : step.run s es = some s') :
    step.AllSteps (GrowsByOneAbove w) s es ↔ j + acceptedAcks s es ≤ Nat.log2 w.toNat := by
  induction es generalizing s j with
  | nil => exact iff_of_true trivial (by simpa [acceptedAcks] using hj)
  | cons e es ih =>
      rcases Option.bind_eq_some_iff.mp hrun with ⟨s₁, hs₁, hrest⟩
      have hstep := window_step hall.1 hs₁
      have hpow : 2 ^ j ≤ w.toNat := (Nat.le_log2 (by omega)).mp hj
      have hacks : acceptedAcks s (e :: es) =
          (if s.AcceptsAckEvent e then 1 else 0) + acceptedAcks s₁ es := by
        rw [acceptedAcks, hs₁]
      rw [StepFn.allSteps_cons hs₁, hacks]
      have hnoloss := hall.2 s₁ hs₁
      by_cases haccepts : s.AcceptsAckEvent e
      · rw [if_pos haccepts] at hstep ⊢
        have hdouble : s₁.sendWindow.sendWindowSize.toNat = 2 ^ (j + 1) := by
          rw [hstep.1, toNat_growth hthresh (by omega), hwindow, Nat.pow_succ]
          omega
        by_cases hlast : j = Nat.log2 w.toNat
        · -- the update past the old window
          apply iff_of_false
          · rintro ⟨hgrows, -⟩
            have hexceeds : w.toNat < 2 ^ (j + 1) := by
              rw [hlast]
              exact Nat.lt_log2_self
            have hone := hgrows haccepts s₁ hs₁ (by
              rw [UInt32.lt_iff_toNat_lt, hdouble]
              exact hexceeds)
            rw [hdouble, hwindow, Nat.pow_succ] at hone
            rw [Nat.pow_succ] at hexceeds
            omega
          · omega
        · have hle : 2 ^ (j + 1) ≤ w.toNat := (Nat.le_log2 (by omega)).mp (by omega)
          have hgrows : s.GrowsByOneAbove w e := by
            intro _ s₂ hs₂ hexceeds
            rw [hs₁, Option.some.injEq] at hs₂
            rw [← hs₂, UInt32.lt_iff_toNat_lt, hdouble] at hexceeds
            omega
          rw [and_iff_right hgrows,
            ih (by rw [hstep.2, hthresh]) (by omega) hdouble hnoloss hrest]
          omega
      · rw [if_neg haccepts] at hstep ⊢
        have hgrows : s.GrowsByOneAbove w e := fun h => absurd h haccepts
        rw [and_iff_right hgrows,
          ih (by rw [hstep.2, hthresh]) hj (by rw [hstep.1, hwindow]) hnoloss hrest, Nat.zero_add]

/-- A timeout below the retry limit sets the window to one and the threshold as the old window
says. -/
theorem timeout_window {k : UInt32} (hloss : s.Loses (.expire k))
    (h : step s (.expire k) = some s') :
    s'.sendWindow.sendWindowSize = 1 ∧
      s'.ssthresh = timeoutSsthresh s.sendWindow.sendWindowSize := by
  rcases hloss with ⟨t, hactive, hlimit⟩
  rcases expire_eq_some_iff.mp h with ⟨t', hactive', rfl⟩
  rw [hactive, Option.some.injEq] at hactive'
  subst hactive'
  rw [runClosure_of_lt _ hlimit]
  exact ⟨rfl, rfl⟩

/-- After a timeout at a window {lit}`w`, and before the next loss event, every accepted
acknowledgment that takes the window above {lit}`w` grows it by one, exactly when {lit}`w` is
odd, so large that doubling overflows first, or not yet exceeded by doubling. -/
theorem decrease_iff {s₀ s s' : TcpSession} {k : UInt32} {es : List Event}
    (hpos : 1 ≤ s₀.sendWindow.sendWindowSize) (hloss : s₀.Loses (.expire k))
    (htimeout : step s₀ (.expire k) = some s) (hrun : step.run s es = some s')
    (hall : step.AllSteps (fun s e => ¬ s.Loses e) s es) :
    step.AllSteps (GrowsByOneAbove s₀.sendWindow.sendWindowSize) s es ↔
      s₀.sendWindow.sendWindowSize % 2 ≠ 0 ∨ 2 ^ 31 ≤ s₀.sendWindow.sendWindowSize.toNat ∨
        acceptedAcks s es ≤ Nat.log2 s₀.sendWindow.sendWindowSize.toNat := by
  rcases timeout_window hloss htimeout with ⟨hone, hthresh⟩
  generalize s₀.sendWindow.sendWindowSize = w at *
  by_cases hodd : w % 2 ≠ 0
  · refine iff_of_true ?_ (Or.inl hodd)
    apply decrease_of_half _ hall
    rw [hthresh]
    exact timeoutSsthresh_odd hodd
  · have heven := not_not.mp hodd
    have hthresh' : s.ssthresh.toNat = w.toNat + 1 := by
      rw [hthresh, timeoutSsthresh_even heven]
    have hpower : s.sendWindow.sendWindowSize.toNat = 2 ^ 0 := by
      rw [hone]
      rfl
    rw [or_iff_right hodd]
    by_cases hlarge : 2 ^ 31 ≤ w.toNat
    · refine iff_of_true ?_ (Or.inl hlarge)
      exact decrease_of_large hlarge hthresh' (Or.inr ⟨0, by omega, hpower⟩) hall
    · rw [or_iff_right hlarge]
      have htwo : 2 ≤ w.toNat := by
        have hmod : w.toNat % 2 = 0 := by
          have hval := congrArg UInt32.toNat heven
          rwa [UInt32.toNat_mod] at hval
        have hle : 1 ≤ w.toNat := UInt32.le_iff_toNat_le.mp hpos
        omega
      rw [decrease_of_even htwo (by omega) hthresh' (Nat.zero_le _) hpower hall hrun, Nat.zero_add]

end Runs

/-- A handshake, the exchange of one byte, and two bytes in flight in a window of two. -/
def twoByteWindowRun : List Event :=
  [.connect 0, .input (peerPacket (flagSyn ||| flagAck) 100 1 1024 []) 0, .send [7],
    .input (peerPacket flagAck 101 2 1024 []) 0, .send [8, 9]]

/-- The acknowledgments of the two bytes. -/
def twoAcks : List Event :=
  [.input (peerPacket flagAck 101 3 1024 []) 0, .input (peerPacket flagAck 101 4 1024 []) 0]

theorem allSteps_not_loses {s : TcpSession} {es : List Event}
    (h : step.checkSteps (fun s e => !decide (s.Loses e)) s es = true) :
    step.AllSteps (fun s e => ¬ s.Loses e) s es :=
  StepFn.allSteps_of_check (fun _ _ hok => by simpa using hok) h

/-- After the timeout of the first byte, one acknowledgment does not yet exceed the window. -/
theorem decrease_iff_oneAck :
    ∃ s₀ s s', step.run clientSession twoByteWindowRun = some s₀ ∧
      step s₀ (.expire 2) = some s ∧ step.run s (twoAcks.take 1) = some s' ∧
      step.AllSteps (GrowsByOneAbove 2) s (twoAcks.take 1) := by
  have hrun : ((step.run clientSession twoByteWindowRun).any fun s₀ =>
      decide (s₀.sendWindow.sendWindowSize = 2 ∧ s₀.Loses (.expire 2)) &&
      (step s₀ (.expire 2)).any fun s =>
        (step.run s (twoAcks.take 1)).isSome && decide (acceptedAcks s (twoAcks.take 1) ≤ 1) &&
          step.checkSteps (fun s e => !decide (s.Loses e)) s (twoAcks.take 1)) = true := by
    decide +kernel
  rcases (Option.any_eq_true _ _).mp hrun with ⟨s₀, hs₀, hfacts⟩
  rw [Bool.and_eq_true, decide_eq_true_eq] at hfacts
  rcases hfacts with ⟨⟨hwindow, hloss⟩, hfacts⟩
  rcases (Option.any_eq_true _ _).mp hfacts with ⟨s, hs, hfacts⟩
  rw [Bool.and_eq_true, Bool.and_eq_true, decide_eq_true_eq] at hfacts
  rcases hfacts with ⟨⟨hsome, hacks⟩, hcheck⟩
  rcases Option.isSome_iff_exists.mp hsome with ⟨s', hs'⟩
  refine ⟨s₀, s, s', hs₀, hs, hs', ?_⟩
  have hiff := decrease_iff (by rw [hwindow]; decide) hloss hs hs' (allSteps_not_loses hcheck)
  rw [hwindow] at hiff
  apply hiff.mpr
  exact Or.inr (Or.inr (hacks.trans (by decide)))

/-- The second acknowledgment doubles the window from two to four. -/
theorem evenWindow_doubled :
    ∃ s₀ s s', step.run clientSession twoByteWindowRun = some s₀ ∧
      s₀.sendWindow.sendWindowSize = 2 ∧ s₀.Loses (.expire 2) ∧
      step s₀ (.expire 2) = some s ∧ step.run s twoAcks = some s' ∧
      step.AllSteps (fun s e => ¬ s.Loses e) s twoAcks ∧
      s'.sendWindow.sendWindowSize = 4 ∧ ¬ step.AllSteps (GrowsByOneAbove 2) s twoAcks := by
  have hrun : ((step.run clientSession twoByteWindowRun).any fun s₀ =>
      decide (s₀.sendWindow.sendWindowSize = 2 ∧ s₀.Loses (.expire 2)) &&
      (step s₀ (.expire 2)).any fun s =>
        decide (s.ssthresh = 3 ∧ s.sendWindow.sendWindowSize = 1) &&
        ((step.run s twoAcks).any fun s' => s'.sendWindow.sendWindowSize = 4) &&
        decide (acceptedAcks s twoAcks = 2) &&
          step.checkSteps (fun s e => !decide (s.Loses e)) s twoAcks) = true := by
    decide +kernel
  rcases (Option.any_eq_true _ _).mp hrun with ⟨s₀, hs₀, hfacts⟩
  rw [Bool.and_eq_true, decide_eq_true_eq] at hfacts
  rcases hfacts with ⟨⟨hwindow, hloss⟩, hfacts⟩
  rcases (Option.any_eq_true _ _).mp hfacts with ⟨s, hs, hfacts⟩
  rw [Bool.and_eq_true, Bool.and_eq_true, Bool.and_eq_true, decide_eq_true_eq,
    decide_eq_true_eq] at hfacts
  rcases hfacts with ⟨⟨⟨⟨hthresh, hone⟩, hlast⟩, hacks⟩, hcheck⟩
  rcases (Option.any_eq_true _ _).mp hlast with ⟨s', hs', hfour⟩
  have hall := allSteps_not_loses hcheck
  refine ⟨s₀, s, s', hs₀, hwindow, hloss, hs, hs', hall, of_decide_eq_true hfour, ?_⟩
  rw [decrease_of_even (j := 0) (by decide) (by decide) (by rw [hthresh]; rfl) (Nat.zero_le _)
    (by rw [hone]; rfl) hall hs', hacks]
  decide

end TcpSession

end MyuTcp
