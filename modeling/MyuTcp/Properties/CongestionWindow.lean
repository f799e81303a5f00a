import MyuTcp.Core.IdleSession

/-!
# The congestion window

Growth and collapse of {lit}`send_window_size_` and {lit}`ssthresh_` over the runs of one
connection.  A timeout at an even window stores a threshold of one more than the
window instead of half of it, and the doubling phase that follows may then double
the window of every loss cycle.

Main results:

- Theorem {lit}`WindowInv.ack`: an accepted acknowledgment keeps the bound
  {lit}`cwnd ≤ 5 + N` on the number {lit}`N` of accepted acknowledgments.
- Theorem {lit}`window_kept`: without timeouts at even windows, and with fewer than
  2^32 - 6 accepted acknowledgments, the window stays positive and no update
  overflows.
- Theorem {lit}`evenTimeouts_destroy_window`: timeouts at even windows bring the window
  to zero.
-/

namespace MyuTcp

open Library

namespace TcpSession

/-! ## Runs of one connection -/

/-- A connection is opened only before the first packet of the session. -/
def OpensOnce (s : TcpSession) : Event → Prop
  | .connect _ | .listen => s.sent = []
  | _ => True

/-- A timer expires below the retry limit while the window is even. -/
def TimeoutAtEvenWindow (s : TcpSession) : Event → Prop
  | .expire k => ∃ t, s.timerManager.activeAt k = some t ∧
      ¬ t.callback.retransmitCount + 1 ≥ maxRetransmitCount ∧
      s.sendWindow.sendWindowSize % 2 = 0
  | _ => False

/-- The number of acknowledgments that a run accepts. -/
def acceptedAcks : TcpSession → List Event → Nat
  | _, [] => 0
  | s, e :: es =>
      (if s.AcceptsAckEvent e then 1 else 0) +
        match step s e with
        | some s' => acceptedAcks s' es
        | none => 0

/-- The growth of a window by one acknowledgment fits 32 bits. -/
def GrowthFits (cwnd ssthresh : UInt32) : Prop :=
  if cwnd < ssthresh then cwnd.toNat * 2 < 2 ^ 32 else cwnd.toNat + 1 < 2 ^ 32

/-- The updates of window and threshold that an event makes fit 32 bits: the growth by
an accepted acknowledgment, after the possible inflation by a third duplicate, and
the {lit}`cwnd + 1` of a timeout. -/
def UpdatesFit (s : TcpSession) : Event → Prop
  | .input packet iss => s.AcceptsAckEvent (.input packet iss) →
      let counted := (s.releaseAcked packet.ack).countDupAck packet.ack
      (counted.dupAckCount = 3 → counted.sendWindow.sendWindowSize.toNat / 2 + 3 < 2 ^ 32) ∧
        GrowthFits (counted.fastRetransmit packet.ack).sendWindow.sendWindowSize
          (counted.fastRetransmit packet.ack).ssthresh
  | .expire k => ∀ t, s.timerManager.activeAt k = some t →
      ¬ t.callback.retransmitCount + 1 ≥ maxRetransmitCount →
      s.sendWindow.sendWindowSize.toNat + 1 < 2 ^ 32
  | _ => True

/-! ## The invariant -/

/-- The states of an opening connection. -/
def IsOpening (state : TcpState) : Prop :=
  state = .listen ∨ state = .synSent ∨ state = .synReceived

/-- The close does not lead back to the opening. -/
theorem FinTransition.not_opening {state next : TcpState} (h : FinTransition state next) :
    ¬ IsOpening next ∧ next ≠ .established := by
  cases h <;> simp [IsOpening]

/-- Bounds on window and threshold after {lit}`N` accepted acknowledgments.  The last
alternative of {lit}`thresh` is the first slow start, and {lit}`dup` says that one
connection counts at most one duplicate. -/
structure WindowInv (N : Nat) (s : TcpSession) : Prop where
  pos : 1 ≤ s.sendWindow.sendWindowSize.toNat
  le : s.sendWindow.sendWindowSize.toNat ≤ 5 + N
  thresh : s.ssthresh.toNat ≤ s.sendWindow.sendWindowSize.toNat ∨
    2 * s.ssthresh.toNat ≤ 7 + N ∨
    (s.ssthresh.toNat = 8 ∧ (s.sendWindow.sendWindowSize.toNat = 1 ∨
      (s.sendWindow.sendWindowSize.toNat = 2 ∧ 1 ≤ N) ∨
      (s.sendWindow.sendWindowSize.toNat = 4 ∧ 2 ≤ N)))
  started : s.state = .closed ∨ s.state = .listen ∨ s.sent ≠ []
  dup : s.dupAckCount = 0 ∨
    (s.dupAckCount = 1 ∧ s.sent ≠ [] ∧ ¬ IsOpening s.state ∧
      (s.state = .established → s.lastAckReceived ≤ s.sendWindow.sendUnack))

section Invariant

variable {N : Nat} {s s' : TcpSession}

/-- A larger bound holds as well. -/
theorem WindowInv.mono (h : WindowInv N s) : WindowInv (N + 1) s := by
  obtain ⟨hpos, hle, hthresh, hstarted, hdup⟩ := h
  refine ⟨hpos, by omega, ?_, hstarted, hdup⟩
  omega

/-- Windows, counters and, up to an opening, the state are kept. -/
theorem WindowInv.of_eq (h : WindowInv N s)
    (hwindow : s'.sendWindow.sendWindowSize = s.sendWindow.sendWindowSize)
    (hthresh : s'.ssthresh = s.ssthresh) (hlast : s'.lastAckReceived = s.lastAckReceived)
    (hdup : s'.dupAckCount = s.dupAckCount) (hsent : s.sent <+: s'.sent)
    (hstarted : s'.state = s.state ∨ s'.state = .closed ∨ s'.state = .listen ∨ s'.sent ≠ [])
    (hstate : (s'.state = s.state ∧ s'.sendWindow.sendUnack = s.sendWindow.sendUnack) ∨
      IsOpening s.state ∨ s.sent = [] ∨ (¬ IsOpening s'.state ∧ s'.state ≠ .established)) :
    WindowInv N s' where
  pos := by rw [hwindow]; exact h.pos
  le := by rw [hwindow]; exact h.le
  thresh := by rw [hwindow, hthresh]; exact h.thresh
  started := by
    rcases hstarted with hsame | hrest
    · rw [hsame]
      rcases h.started with hclosed | hlisten | hne
      · exact Or.inl hclosed
      · exact Or.inr (Or.inl hlisten)
      · exact Or.inr (Or.inr fun hnil => hne (List.prefix_nil.mp (hnil ▸ hsent)))
    · exact hrest
  dup := by
    rw [hdup, hlast]
    rcases h.dup with hzero | ⟨hone, hne, hpast, hle⟩
    · exact Or.inl hzero
    · have hne' : s'.sent ≠ [] := fun hnil => hne (List.prefix_nil.mp (hnil ▸ hsent))
      refine Or.inr ⟨hone, hne', ?_⟩
      rcases hstate with ⟨hsame, hunack⟩ | hopening | hnil | ⟨hpast', hnot⟩
      · rw [hsame, hunack]
        exact ⟨hpast, hle⟩
      · exact absurd hopening hpast
      · exact absurd hnil hne
      · exact ⟨hpast', fun hest => absurd hest hnot⟩

/-- One connection never counts a third duplicate. -/
theorem WindowInv.not_thirdDuplicate (h : WindowInv N s) (ackNum : UInt32) :
    ¬ s.ThirdDuplicate ackNum := by
  rw [ThirdDuplicate, countDupAck]
  have hdup := h.dup
  split
  · simp
  · split
    · dsimp only
      omega
    · omega

/-- Growth keeps the bounds for one more acknowledgment, and fits 32 bits. -/
theorem WindowInv.growth (h : WindowInv N s) (hN : N + 7 ≤ 2 ^ 32) :
    GrowthFits s.sendWindow.sendWindowSize s.ssthresh ∧
      ((s.sendWindow.sendWindowSize.toNat < s.ssthresh.toNat ∧
          (grownWindow s.sendWindow.sendWindowSize s.ssthresh).toNat =
            s.sendWindow.sendWindowSize.toNat * 2) ∨
        (s.ssthresh.toNat ≤ s.sendWindow.sendWindowSize.toNat ∧
          (grownWindow s.sendWindow.sendWindowSize s.ssthresh).toNat =
            s.sendWindow.sendWindowSize.toNat + 1)) := by
  obtain ⟨hpos, hle, hthresh, -, -⟩ := h
  rw [GrowthFits, grownWindow]
  split <;> rename_i hlt <;> rw [UInt32.lt_iff_toNat_lt] at hlt
  · have htwo : (2 : UInt32).toNat = 2 := rfl
    rw [UInt32.toNat_mul, htwo]
    omega
  · have hone : (1 : UInt32).toNat = 1 := rfl
    rw [UInt32.toNat_add, hone]
    omega

/-- An accepted acknowledgment keeps the invariant for one more acknowledgment. -/
theorem WindowInv.ack (h : WindowInv N s) (hN : N + 7 ≤ 2 ^ 32) {ackNum : UInt32}
    (hstate : s.state = .established) (hack : s.acceptsAck ackNum = true) :
    WindowInv (N + 1) (s.processAck ackNum) := by
  have hgrowth := (h.growth hN).2
  have hsent := sent_prefix_processAck s ackNum
  rw [s.processAck_of_not (h.not_thirdDuplicate ackNum)] at hsent ⊢
  obtain ⟨hpos, hle, hthresh, hstarted, hdup⟩ := h
  have hne : s.sent ≠ [] := by simpa [hstate] using hstarted
  refine ⟨?_, ?_, ?_, Or.inr (Or.inr hne), ?_⟩
  · dsimp only
    omega
  · dsimp only
    omega
  · dsimp only
    omega
  · simp only [acceptsAck, Bool.and_eq_true, decide_eq_true_eq] at hack
    have hpast : ¬ IsOpening s.state := by simp [IsOpening, hstate]
    dsimp only
    rw [countDupAck]
    split <;> rename_i hlt
    · exact Or.inl rfl
    · split <;> rename_i heq
      · rcases hdup with hzero | ⟨-, -, -, hunack⟩
        · refine Or.inr ⟨by simp only [hzero], hne, hpast, fun _ => ?_⟩
          dsimp only
          rw [heq]
        · exact absurd (UInt32.lt_of_le_of_lt (hunack hstate) hack.1) hlt
      · rcases hdup with hzero | ⟨-, -, -, hunack⟩
        · exact Or.inl hzero
        · exact absurd (UInt32.lt_of_le_of_lt (hunack hstate) hack.1) hlt

/-- An odd window is halved, rounding up. -/
theorem WindowInv.timeout (h : WindowInv N s) {c : RetransmitClosure} (hN : N + 7 ≤ 2 ^ 32)
    (hodd : ¬ c.retransmitCount + 1 ≥ maxRetransmitCount →
      s.sendWindow.sendWindowSize % 2 ≠ 0) : WindowInv N (s.runClosure c) := by
  by_cases hlimit : c.retransmitCount + 1 ≥ maxRetransmitCount
  · rw [s.runClosure_of_limit hlimit]
    exact h.of_eq rfl rfl rfl rfl List.prefix_rfl (Or.inl rfl) (Or.inl ⟨rfl, rfl⟩)
  · have hthresh : (timeoutSsthresh s.sendWindow.sendWindowSize).toNat =
        (s.sendWindow.sendWindowSize.toNat + 1) / 2 := by
      have hle := h.le
      have hone : (1 : UInt32).toNat = 1 := rfl
      have htwo : (2 : UInt32).toNat = 2 := rfl
      rw [timeoutSsthresh, if_pos (hodd hlimit), UInt32.toNat_div, UInt32.toNat_add, hone, htwo]
      omega
    have hsent := sent_prefix_runClosure s c
    rw [s.runClosure_of_lt hlimit] at hsent ⊢
    refine ⟨?_, ?_, ?_, ?_, ?_⟩
    · exact le_rfl
    · exact Nat.le_add_left 1 (4 + N) |>.trans (by omega)
    · have hle := h.le
      dsimp only
      rw [hthresh]
      omega
    · exact Or.inr (Or.inr (List.append_ne_nil_of_right_ne_nil _ (List.cons_ne_nil _ _)))
    · rcases h.dup with hzero | ⟨hone, hne, hpast, hunack⟩
      · exact Or.inl hzero
      · refine Or.inr ⟨hone, ?_, hpast, hunack⟩
        exact fun hnil => hne (List.prefix_nil.mp (hnil ▸ hsent))

/-- Every move keeps the invariant: an accepted acknowledgment for a larger count, a
timeout if it does not hit an even window. -/
theorem WindowInv.move {s₀ a b : TcpSession} {e : Event} {M : Nat} (hM : M + 7 ≤ 2 ^ 32)
    (h₀ : WindowInv N s₀) (hcount : N + (if s₀.AcceptsAckEvent e then 1 else 0) = M)
    (hopens : s₀.OpensOnce e) (heven : ¬ s₀.TimeoutAtEvenWindow e) (h : WindowInv M a)
    (hmove : Move s₀ e a b) : WindowInv M b := by
  have hsent := hmove.sent_prefix
  cases hmove with
  | connect iss =>
      rw [connect_eq] at hsent ⊢
      refine h.of_eq rfl rfl rfl rfl hsent (Or.inr (Or.inr (Or.inr ?_)))
        (Or.inr (Or.inr (Or.inl hopens)))
      exact List.append_ne_nil_of_right_ne_nil _ (List.cons_ne_nil _ _)
  | listen hstate =>
      exact h.of_eq rfl rfl rfl rfl hsent (Or.inr (Or.inr (Or.inl rfl)))
        (Or.inr (Or.inr (Or.inl hopens)))
  | trySend s =>
      exact h.of_eq (by simp) (by simp) (by simp) (by simp) hsent (Or.inl (by simp))
        (Or.inl ⟨by simp, by simp⟩)
  | closeEstablished hstate =>
      rw [closeEstablished_eq] at hsent ⊢
      refine h.of_eq rfl rfl rfl rfl hsent (Or.inr (Or.inr (Or.inr ?_)))
        (Or.inr (Or.inr (Or.inr (by simp [IsOpening]))))
      exact List.append_ne_nil_of_right_ne_nil _ (List.cons_ne_nil _ _)
  | closeCloseWait s hstate =>
      rw [closeCloseWait_eq] at hsent ⊢
      refine h.of_eq rfl rfl rfl rfl hsent (Or.inr (Or.inr (Or.inr ?_)))
        (Or.inr (Or.inr (Or.inr (by simp [IsOpening]))))
      exact List.append_ne_nil_of_right_ne_nil _ (List.cons_ne_nil _ _)
  | abortOpening hstate =>
      rw [abortOpening_eq] at hsent ⊢
      exact h.of_eq rfl rfl rfl rfl hsent (Or.inr (Or.inl rfl))
        (Or.inr (Or.inl (Or.inr hstate)))
  | reset hrst =>
      exact h.of_eq rfl rfl rfl rfl hsent (Or.inr (Or.inl rfl))
        (Or.inr (Or.inr (Or.inr (by simp [IsOpening, handleReset, transitionTo, notify]))))
  | passiveOpen hstate hsyn =>
      rw [handleListen_eq _ hsyn] at hsent ⊢
      refine h.of_eq rfl rfl rfl rfl hsent (Or.inr (Or.inr (Or.inr ?_)))
        (Or.inr (Or.inl (Or.inl hstate)))
      exact List.append_ne_nil_of_right_ne_nil _ (List.cons_ne_nil _ _)
  | synAck hstate hsyn hflag hack =>
      rw [acceptSynAck_eq] at hsent ⊢
      refine h.of_eq rfl rfl rfl rfl hsent (Or.inr (Or.inr (Or.inr ?_)))
        (Or.inr (Or.inl (Or.inr (Or.inl hstate))))
      exact List.append_ne_nil_of_right_ne_nil _ (List.cons_ne_nil _ _)
  | peerSyn hstate hsyn hflag =>
      rw [acceptPeerSyn_eq] at hsent ⊢
      refine h.of_eq rfl rfl rfl rfl hsent (Or.inr (Or.inr (Or.inr ?_)))
        (Or.inr (Or.inl (Or.inr (Or.inl hstate))))
      exact List.append_ne_nil_of_right_ne_nil _ (List.cons_ne_nil _ _)
  | synReceivedAck hstate hflag hack =>
      have hne : s₀.sent ≠ [] := by simpa [hstate] using h₀.started
      exact h.of_eq rfl rfl rfl rfl hsent (Or.inr (Or.inr (Or.inr hne)))
        (Or.inr (Or.inl (Or.inr (Or.inr hstate))))
  | ack haccepts =>
      rw [if_pos haccepts] at hcount
      subst hcount
      exact WindowInv.ack (s := s₀.observe _)
        (h₀.of_eq rfl rfl rfl rfl List.prefix_rfl (Or.inl rfl) (Or.inl ⟨rfl, rfl⟩))
        (by omega) haccepts.2.1 haccepts.2.2.2
  | inOrder s hstate hseq hdrain =>
      refine h.of_eq ?_ ?_ ?_ ?_ hsent ?_ ?_ <;> rw [reassemble, acceptPayload] <;> split <;>
        first | rfl | exact Or.inl rfl | exact Or.inl ⟨rfl, rfl⟩
  | outOfOrder s hstate hseq =>
      refine h.of_eq ?_ ?_ ?_ ?_ hsent ?_ ?_ <;> rw [storeOutOfOrder] <;> split <;>
        first | rfl | exact Or.inl rfl | exact Or.inl ⟨rfl, rfl⟩
  | fin s hfin hnext horder =>
      refine h.of_eq rfl rfl rfl rfl hsent (Or.inr (Or.inr (Or.inr ?_)))
        (Or.inr (Or.inr (Or.inr ?_)))
      · exact List.append_ne_nil_of_right_ne_nil _ (List.cons_ne_nil _ _)
      · exact hnext.not_opening
  | finAcked hstate hflag hack =>
      have hne : s₀.sent ≠ [] := by simpa [hstate] using h₀.started
      exact h.of_eq rfl rfl rfl rfl hsent (Or.inr (Or.inr (Or.inr hne)))
        (Or.inr (Or.inr (Or.inr (by simp [IsOpening, transitionTo, advanceUnack]))))
  | finishCloseWait s hstate =>
      by_cases hdrained : a.Drained
      · rw [finishCloseWait_of_drained _ hdrained] at hsent ⊢
        refine h.of_eq rfl rfl rfl rfl hsent (Or.inr (Or.inr (Or.inr ?_)))
          (Or.inr (Or.inr (Or.inr (by simp [IsOpening]))))
        exact List.append_ne_nil_of_right_ne_nil _ (List.cons_ne_nil _ _)
      · rw [finishCloseWait_of_not _ hdrained]
        exact h
  | lastAck hstate hflag hack =>
      exact h.of_eq rfl rfl rfl rfl hsent (Or.inr (Or.inl rfl))
        (Or.inr (Or.inr (Or.inr (by simp [IsOpening, transitionTo]))))
  | @expire k t hactive =>
      refine WindowInv.timeout (s := { s₀ with timerManager := s₀.timerManager.stopTimer k })
        (h.of_eq rfl rfl rfl rfl List.prefix_rfl (Or.inl rfl) (Or.inl ⟨rfl, rfl⟩)) hM ?_
      intro hlimit hzero
      exact heven ⟨t, hactive, hlimit, hzero⟩
  | expire2Msl hactive =>
      exact h.of_eq rfl rfl rfl rfl hsent (Or.inr (Or.inl rfl))
        (Or.inr (Or.inr (Or.inr (by simp [IsOpening]))))
  | _ => exact h.of_eq rfl rfl rfl rfl hsent (Or.inl rfl) (Or.inl ⟨rfl, rfl⟩)

/-- A step keeps the window positive and within the bound. -/
theorem WindowInv.step {e : Event} (h : WindowInv N s)
    (hN : N + (if s.AcceptsAckEvent e then 1 else 0) + 7 ≤ 2 ^ 32) (hopens : s.OpensOnce e)
    (heven : ¬ s.TimeoutAtEvenWindow e) (hstep : TcpSession.step s e = some s') :
    WindowInv (N + if s.AcceptsAckEvent e then 1 else 0) s' := by
  refine (step_moves hstep).preserves
    (fun a b ha hmove => h.move hN rfl hopens heven ha hmove) ?_
  split
  · exact h.mono
  · exact h

/-- The updates of a step fit 32 bits where the invariant holds. -/
theorem WindowInv.updatesFit (h : WindowInv N s) (hN : N + 7 ≤ 2 ^ 32) (e : Event) :
    s.UpdatesFit e := by
  cases e with
  | input packet iss =>
      intro haccepts
      have hnot := h.not_thirdDuplicate packet.ack
      rw [ThirdDuplicate, ← (s.countDupAck_releaseAcked packet.ack).1] at hnot
      obtain ⟨a, d, hframe⟩ := (s.releaseAcked packet.ack).countDupAck_frame packet.ack
      refine ⟨fun heq => absurd heq hnot, ?_⟩
      rw [fastRetransmit, if_neg hnot, hframe]
      exact (h.growth hN).1
  | expire k =>
      intro t hactive hlimit
      have hle := h.le
      omega
  | _ => trivial

/-- So does a run. -/
theorem WindowInv.run {es : List Event} (h : WindowInv N s)
    (hok : TcpSession.step.AllSteps (fun s e => s.OpensOnce e ∧ ¬ s.TimeoutAtEvenWindow e) s es)
    (hN : N + acceptedAcks s es + 7 ≤ 2 ^ 32) (hrun : TcpSession.step.run s es = some s') :
    1 ≤ s'.sendWindow.sendWindowSize ∧
      TcpSession.step.AllSteps (fun s e => 1 ≤ s.sendWindow.sendWindowSize ∧ s.UpdatesFit e) s
        es := by
  have hpos : ∀ {M : Nat} {t : TcpSession}, WindowInv M t → 1 ≤ t.sendWindow.sendWindowSize :=
    fun ht => UInt32.le_iff_toNat_le.mpr ht.pos
  induction es generalizing N s with
  | nil =>
      cases hrun
      exact ⟨hpos h, trivial⟩
  | cons e es ih =>
      rw [StepFn.run_cons, Option.bind_eq_some_iff] at hrun
      obtain ⟨s₁, hs₁, hrun⟩ := hrun
      rw [acceptedAcks, hs₁] at hN
      dsimp only at hN
      obtain ⟨⟨hopens, heven⟩, hrest⟩ := hok
      have hnext := h.step (by omega) hopens heven hs₁
      obtain ⟨hend, hall⟩ := ih hnext (hrest s₁ hs₁) (by omega) hrun
      refine ⟨hend, ⟨hpos h, h.updatesFit (by omega) e⟩, ?_⟩
      intro s₂ hs₂
      cases hs₁.symm.trans hs₂
      exact hall

/-- A new session starts with a window of one. -/
theorem windowInv_new (initialSendSeq initialRecvSeq : UInt32) (listenerPort remotePort : UInt16) :
    WindowInv 0 (new initialSendSeq initialRecvSeq listenerPort remotePort) where
  pos := le_rfl
  le := Nat.le_add_left 1 4
  thresh := Or.inr (Or.inr ⟨rfl, Or.inl rfl⟩)
  started := Or.inl rfl
  dup := Or.inl rfl

end Invariant

/-- In every run of one connection from construction in which no timer below the retry
limit expires at an even window and fewer than 2^32 - 6 acknowledgments are accepted,
the window is positive in every state and no update overflows. -/
theorem window_kept {initialSendSeq initialRecvSeq : UInt32} {listenerPort remotePort : UInt16}
    {es : List Event} {s : TcpSession}
    (hok : step.AllSteps (fun s e => s.OpensOnce e ∧ ¬ s.TimeoutAtEvenWindow e)
      (new initialSendSeq initialRecvSeq listenerPort remotePort) es)
    (hacks : acceptedAcks (new initialSendSeq initialRecvSeq listenerPort remotePort) es <
      2 ^ 32 - 6)
    (hrun : step.run (new initialSendSeq initialRecvSeq listenerPort remotePort) es = some s) :
    1 ≤ s.sendWindow.sendWindowSize ∧
      step.AllSteps (fun s e => 1 ≤ s.sendWindow.sendWindowSize ∧ s.UpdatesFit e)
        (new initialSendSeq initialRecvSeq listenerPort remotePort) es :=
  (windowInv_new _ _ _ _).run hok (by omega) hrun

/-! ## Timeouts at even windows -/

/-- One byte is sent and acknowledged. -/
def exchangeEvents (q : UInt32) : List Event :=
  [.send [0], .input (peerPacket flagAck 101 (q + 1) 1024 []) 0]

/-- One byte is sent, its timer expires, and it is acknowledged. -/
def lossEvents (q : UInt32) : List Event :=
  [.send [0], .expire q, .input (peerPacket flagAck 101 (q + 1) 1024 []) 0]

/-- {lit}`n` exchanges, starting at a sequence number. -/
def exchanges : Nat → Nat → List Event
  | 0, _ => []
  | n + 1, q => exchangeEvents (UInt32.ofNat q) ++ exchanges n (q + 1)

/-- A loss followed by {lit}`k` exchanges doubles a window of 2^k; {lit}`m` such cycles. -/
def lossCycles : Nat → Nat → Nat → List Event
  | 0, _, _ => []
  | m + 1, k, q =>
      lossEvents (UInt32.ofNat q) ++ exchanges k (q + 1) ++ lossCycles m (k + 1) (q + 1 + k)

/-- The number that follows these cycles. -/
def lossCyclesEnd : Nat → Nat → Nat → Nat
  | 0, _, q => q
  | m + 1, k, q => lossCyclesEnd m (k + 1) (q + 1 + k)

/-- The handshake of the client. -/
def handshakeEvents : List Event :=
  [.connect 0, .input (peerPacket (flagSyn ||| flagAck) 100 1 1024 []) 0]

/-- The handshake, three exchanges up to the window 8, 28 loss cycles up to the window
2^31, and a last loss with the 31 exchanges that double the window past 2^32. -/
def evenTimeoutRun : List Event :=
  handshakeEvents ++ (exchangeEvents 1 ++ (exchangeEvents 2 ++ (exchangeEvents 3 ++
    (lossCycles 28 3 4 ++ (lossEvents 494 ++ (exchanges 30 495 ++ exchangeEvents 525))))))

section EvenTimeouts

variable {s : TcpSession} {q k i : Nat}

/-- An idle session with window and threshold as given. -/
structure IdleAt (q cwnd : Nat) (ssthresh : Nat) (s : TcpSession) : Prop where
  idle : Idle (UInt32.ofNat q) s
  cwnd : s.sendWindow.sendWindowSize.toNat = cwnd
  ssthresh : s.ssthresh.toNat = ssthresh

/-- The window of an idle session is its congestion window. -/
theorem sendWindowSize_ne_zero {c t : Nat} (h : IdleAt q c t s) (hc : c ≠ 0) :
    s.sendWindow.sendWindowSize ≠ 0 := by
  rw [Ne, ← UInt32.toNat_inj, h.cwnd]
  exact hc

/-- One exchange below the threshold doubles the window, modulo 2^32. -/
theorem IdleAt.exchange {c t : Nat} (h : IdleAt q c t s) (hc : c ≠ 0) (hlt : c < t)
    (hq : q + 1 < 2 ^ 32) :
    ∃ s', step.run s (exchangeEvents (UInt32.ofNat q)) = some s' ∧
      IdleAt (q + 1) (c * 2 % 2 ^ 32) t s' := by
  obtain ⟨hwait, hcwnd, hthresh, -⟩ := h.idle.waiting (sendWindowSize_ne_zero h hc) 0
  obtain ⟨s', hs', hidle, hgrown, hkeep, -⟩ := hwait.ack (ofNat_lt_succ hq)
    (isPlainAck_peerPacket 101 _ 1024) 0
  refine ⟨s', ?_, ofNat_succ q ▸ hidle, ?_, by rw [hkeep, hthresh, h.ssthresh]⟩
  · simp only [exchangeEvents, StepFn.run_cons, StepFn.run_nil, step, Option.bind_some, hs']
  · have htwo : (2 : UInt32).toNat = 2 := rfl
    rw [hgrown, hcwnd, hthresh, grownWindow, if_pos, UInt32.toNat_mul, htwo, h.cwnd]
    rw [UInt32.lt_iff_toNat_lt, h.cwnd, h.ssthresh]
    exact hlt

/-- A loss at an even window stores a threshold above it. -/
theorem IdleAt.loss {c t : Nat} (h : IdleAt q c t s) (hc : c ≠ 0) (heven : c % 2 = 0)
    (hlt : c + 1 < 2 ^ 32) (hq : q + 1 < 2 ^ 32) :
    ∃ s', step.run s (lossEvents (UInt32.ofNat q)) = some s' ∧ IdleAt (q + 1) 2 (c + 1) s' := by
  obtain ⟨hwait, hcwnd, hthresh, t, hactive, hcount⟩ :=
    h.idle.waiting (sendWindowSize_ne_zero h hc) 0
  obtain ⟨s₁, hs₁, hwait₁, hone, hcollapse⟩ := hwait.timeout hactive hcount
  obtain ⟨s', hs', hidle, hgrown, hkeep, -⟩ := hwait₁.ack (ofNat_lt_succ hq)
    (isPlainAck_peerPacket 101 _ 1024) 0
  have hthresh' : s₁.ssthresh.toNat = c + 1 := by
    have hone' : (1 : UInt32).toNat = 1 := rfl
    have hmod : s.sendWindow.sendWindowSize % 2 = 0 := by
      rw [← UInt32.toNat_inj, UInt32.toNat_mod, h.cwnd]
      exact heven
    rw [hcollapse, hcwnd, timeoutSsthresh, hmod, if_neg (by simp), UInt32.toNat_add, h.cwnd,
      hone']
    omega
  refine ⟨s', ?_, ofNat_succ q ▸ hidle, ?_, by rw [hkeep, hthresh']⟩
  · simp only [lossEvents, StepFn.run_cons, StepFn.run_nil, step, Option.bind_some, hs₁, hs']
  · rw [hgrown, hone, grownWindow, if_pos]
    · rfl
    · rw [UInt32.lt_iff_toNat_lt, hthresh']
      exact Nat.lt_of_lt_of_le (Nat.lt_succ_self 1) (by omega)

/-- Exchanges double the window up to the first power of two above the threshold. -/
theorem IdleAt.exchanges {n : Nat} (h : IdleAt q (2 ^ i) (2 ^ k + 1) s) (hi : i + n ≤ k + 1)
    (hbits : i + n ≤ 31) (hq : q + n < 2 ^ 32) :
    ∃ s', step.run s (TcpSession.exchanges n q) = some s' ∧
      IdleAt (q + n) (2 ^ (i + n)) (2 ^ k + 1) s' := by
  induction n generalizing s q i with
  | zero => exact ⟨s, rfl, h⟩
  | succ n ih =>
      have hle : 2 ^ i ≤ 2 ^ k := Nat.pow_le_pow_right (by omega) (by omega)
      have hbound : 2 ^ (i + 1) < 2 ^ 32 := Nat.pow_lt_pow_right (by omega) (by omega)
      obtain ⟨s₁, hs₁, h₁⟩ := h.exchange (Nat.two_pow_pos i).ne' (by omega) (by omega)
      rw [← Nat.pow_succ, Nat.mod_eq_of_lt hbound] at h₁
      obtain ⟨s', hs', h'⟩ := ih h₁ (by omega) (by omega) (by omega)
      refine ⟨s', ?_, ?_⟩
      · rw [TcpSession.exchanges, StepFn.run_append, hs₁, Option.bind_some, hs']
      · rwa [Nat.add_right_comm, Nat.add_assoc q, Nat.add_right_comm i, Nat.add_assoc i] at h'

/-- A cycle of a loss and {lit}`k` exchanges turns the window 2^k into 2^(k+1). -/
theorem IdleAt.lossCycles {m t : Nat} (h : IdleAt q (2 ^ k) t s) (hk : 1 ≤ k)
    (hm : k + m ≤ 31) (hq : q + 32 * m < 2 ^ 31) :
    ∃ s' t', step.run s (TcpSession.lossCycles m k q) = some s' ∧
      IdleAt (lossCyclesEnd m k q) (2 ^ (k + m)) t' s' := by
  induction m generalizing s q k t with
  | zero => exact ⟨s, t, rfl, h⟩
  | succ m ih =>
      have hlt : 2 ^ k < 2 ^ 31 := Nat.pow_lt_pow_right (by omega) (by omega)
      have heven : 2 ^ k % 2 = 0 := by
        obtain ⟨j, rfl⟩ : ∃ j, k = j + 1 := ⟨k - 1, by omega⟩
        rw [Nat.pow_succ, Nat.mul_mod_left]
      obtain ⟨s₁, hs₁, h₁⟩ := h.loss (Nat.two_pow_pos k).ne' heven (by omega) (by omega)
      obtain ⟨s₂, hs₂, h₂⟩ := IdleAt.exchanges (i := 1) (n := k) h₁ (by omega) (by omega)
        (by omega)
      rw [Nat.add_comm 1 k] at h₂
      obtain ⟨s', t', hs', h'⟩ := ih h₂ (by omega) (by omega) (by omega)
      refine ⟨s', t', ?_, ?_⟩
      · rw [TcpSession.lossCycles, StepFn.run_append, StepFn.run_append, hs₁, Option.bind_some,
          hs₂, Option.bind_some, hs']
      · rwa [Nat.add_right_comm k 1 m] at h'

/-- After the handshake the session is idle. -/
theorem idleAt_handshake :
    ∃ s, step.run clientSession handshakeEvents = some s ∧ IdleAt 1 1 8 s := by
  have hrun : ((step.run clientSession handshakeEvents).any fun s =>
      s.state = .established ∧ s.sendWindow.sendUnack = 1 ∧ s.sendWindow.sendNext = 1 ∧
        s.sendBuffer.isEmpty = true ∧ s.dupAckCount = 0 ∧ s.lastAckReceived ≤ 1 ∧
        s.sendWindow.sendWindowSize.toNat = 1 ∧ s.ssthresh.toNat = 8) = true := by
    decide +kernel
  obtain ⟨s, hs, hfacts⟩ := (Option.any_eq_true _ _).mp hrun
  obtain ⟨hstate, hunack, hnext, hempty, hdup, hlast, hcwnd, hthresh⟩ := of_decide_eq_true hfacts
  exact ⟨s, hs, ⟨hstate, hunack, hnext, s.sendBuffer.isEmpty_iff.mp hempty, hdup, hlast⟩, hcwnd,
    hthresh⟩

/-- The timeout at an even window closes the window. -/
theorem run_evenTimeoutRun :
    ∃ s, step.run clientSession evenTimeoutRun = some s ∧ s.sendWindow.sendWindowSize = 0 := by
  obtain ⟨s₀, hs₀, h₀⟩ := idleAt_handshake
  obtain ⟨s₁, hs₁, h₁⟩ := h₀.exchange (by decide) (by decide) (by decide)
  obtain ⟨s₂, hs₂, h₂⟩ := h₁.exchange (by decide) (by decide) (by decide)
  obtain ⟨s₃, hs₃, h₃⟩ := h₂.exchange (by decide) (by decide) (by decide)
  obtain ⟨s₄, t, hs₄, h₄⟩ := IdleAt.lossCycles (m := 28) (k := 3) h₃ (by decide) (by decide)
    (by decide)
  obtain ⟨s₅, hs₅, h₅⟩ := h₄.loss (by decide) (by decide) (by decide) (by decide)
  obtain ⟨s₆, hs₆, h₆⟩ := IdleAt.exchanges (i := 1) (n := 30) (k := 31) h₅ (by decide) (by decide)
    (by decide)
  obtain ⟨s₇, hs₇, h₇⟩ := h₆.exchange (by decide) (by decide) (by decide)
  refine ⟨s₇, ?_, ?_⟩
  · have hend : lossCyclesEnd 28 3 (1 + 1 + 1 + 1) = 494 := by decide
    rw [hend] at hs₅ hs₆ hs₇
    replace hs₁ : step.run s₀ (exchangeEvents 1) = some s₁ := hs₁
    replace hs₂ : step.run s₁ (exchangeEvents 2) = some s₂ := hs₂
    replace hs₃ : step.run s₂ (exchangeEvents 3) = some s₃ := hs₃
    replace hs₄ : step.run s₃ (lossCycles 28 3 4) = some s₄ := hs₄
    replace hs₅ : step.run s₄ (lossEvents 494) = some s₅ := hs₅
    replace hs₆ : step.run s₅ (exchanges 30 495) = some s₆ := hs₆
    replace hs₇ : step.run s₆ (exchangeEvents 525) = some s₇ := hs₇
    simp only [evenTimeoutRun, StepFn.run_append, hs₀, hs₁, hs₂, hs₃, hs₄, hs₅, hs₆, hs₇,
      Option.bind_some]
  · rw [← UInt32.toNat_inj, h₇.cwnd]
    rfl

/-- Whether an event opens a connection. -/
def opens : Event → Bool
  | .connect _ | .listen => true
  | _ => false

/-- A run without openings opens at most once. -/
theorem allSteps_opensOnce {es : List Event} (h : es.any opens = false) :
    step.AllSteps (fun s e => s.OpensOnce e) s es := by
  induction es generalizing s with
  | nil => trivial
  | cons e es ih =>
      rw [List.any_cons, Bool.or_eq_false_iff] at h
      refine ⟨?_, fun s' _ => ih h.2⟩
      cases e <;> first | trivial | cases h.1

/-- The exchanges open nothing. -/
theorem any_opens_exchanges (n q : Nat) : (exchanges n q).any opens = false := by
  induction n generalizing q with
  | zero => rfl
  | succ n ih => rw [exchanges, List.any_append, ih]; rfl

/-- The loss cycles open nothing. -/
theorem any_opens_lossCycles (m k q : Nat) : (lossCycles m k q).any opens = false := by
  induction m generalizing k q with
  | zero => rfl
  | succ m ih => rw [lossCycles, List.any_append, List.any_append, ih, any_opens_exchanges]; rfl

end EvenTimeouts

/-- In one connection, timeouts at even windows bring the window to zero. -/
theorem evenTimeouts_destroy_window :
    ∃ s, step.run clientSession evenTimeoutRun = some s ∧
      step.AllSteps (fun s e => s.OpensOnce e) clientSession evenTimeoutRun ∧
      ¬ 1 ≤ s.sendWindow.sendWindowSize := by
  obtain ⟨s, hs, hzero⟩ := run_evenTimeoutRun
  have hrest : evenTimeoutRun.tail.any opens = false := by
    rw [evenTimeoutRun, handshakeEvents]
    simp only [List.cons_append, List.nil_append, List.tail_cons, List.any_cons, List.any_append,
      any_opens_exchanges, any_opens_lossCycles]
    rfl
  exact ⟨s, hs, ⟨rfl, fun s' _ => allSteps_opensOnce hrest⟩, by rw [hzero]; decide⟩

/-- A loss at the window one. -/
def oddTimeoutRun : List Event := handshakeEvents ++ lossEvents 1

/-- The side condition of {lit}`window_kept`, decided. -/
def keepsWindow (s : TcpSession) : Event → Bool
  | .connect _ | .listen => s.sent.isEmpty
  | .expire k => (s.timerManager.activeAt k).all fun _ => s.sendWindow.sendWindowSize % 2 ≠ 0
  | _ => true

/-- The test decides the condition. -/
theorem opensOnce_of_keepsWindow {s : TcpSession} {e : Event} (h : s.keepsWindow e = true) :
    s.OpensOnce e ∧ ¬ s.TimeoutAtEvenWindow e := by
  cases e with
  | connect iss => exact ⟨List.isEmpty_iff.mp h, id⟩
  | listen => exact ⟨List.isEmpty_iff.mp h, id⟩
  | expire k =>
      refine ⟨trivial, ?_⟩
      rintro ⟨t, hactive, -, heven⟩
      rw [keepsWindow, hactive] at h
      simp [heven] at h
  | _ => exact ⟨trivial, id⟩

theorem window_kept_oddTimeout :
    ∃ s, step.run (new 0 0 7000 7000) oddTimeoutRun = some s ∧
      1 ≤ s.sendWindow.sendWindowSize ∧
      step.AllSteps (fun s e => 1 ≤ s.sendWindow.sendWindowSize ∧ s.UpdatesFit e)
        (new 0 0 7000 7000) oddTimeoutRun := by
  obtain ⟨s, hs⟩ : ∃ s, step.run (new 0 0 7000 7000) oddTimeoutRun = some s :=
    Option.isSome_iff_exists.mp (by decide +kernel)
  have hcheck : step.checkSteps keepsWindow (new 0 0 7000 7000) oddTimeoutRun = true := by
    decide +kernel
  have hacks : acceptedAcks (new 0 0 7000 7000) oddTimeoutRun = 1 := by decide +kernel
  refine ⟨s, hs, window_kept (StepFn.allSteps_of_check ?_ hcheck) (by rw [hacks]; decide) hs⟩
  exact fun _ _ => opensOnce_of_keepsWindow

end TcpSession

end MyuTcp
