import MyuTcp.Core.StateMachine
import MyuTcp.Core.Timers
import MyuTcp.Core.Transmission
import MyuTcp.Core.IdleSession

/-!
# The active close

What becomes of a session after {lit}`close()` in ESTABLISHED.  A FIN that arrives in
FIN_WAIT_1 takes {lit}`handle_fin_wait_1` to CLOSE_WAIT, the state of a passive closer,
where the next read closes the session a second time.

Main results:

- Theorem {lit}`ActiveClosing.step`: as long as no FIN arrives in FIN_WAIT_1, a closing
  session stays on the active path and holds no timer but that of its FIN.
- Theorem {lit}`activeClose_iff`: the session never enters CLOSE_WAIT, and all its FINs
  carry one sequence number, exactly when no FIN arrives in FIN_WAIT_1.
- Theorem {lit}`crossedClose_secondFin`: a run with FINs at two sequence numbers.
-/

namespace MyuTcp

open Library

namespace TcpSession

/-- A FIN is processed in FIN_WAIT_1. -/
def FinInFinWait1 (s : TcpSession) : Event → Prop
  | .input packet _ => Admitted packet ∧ s.state = .finWait1 ∧ packet.has flagFin = true
  | _ => False

/-- The step does not lead to CLOSE_WAIT. -/
def AvoidsCloseWait (s : TcpSession) (e : Event) : Prop :=
  ∀ s', step s e = some s' → s'.state ≠ .closeWait

/-- Every FIN sent between the two sessions carries the sequence number. -/
def FinsAt (seqNum : UInt32) (s s' : TcpSession) : Prop :=
  ∀ d ∈ newDatagrams s s', d.packet.has flagFin = true → d.packet.seq = seqNum

/-- On the active path of a close that started from {lit}`s₀` and whose FIN has this
number: the only timer that may be active is that of the FIN. -/
structure ActiveClosing (seqNum : UInt32) (s₀ s : TcpSession) : Prop where
  state : s.state = .finWait1 ∨ s.state = .finWait2 ∨ s.state = .timeWait ∨ s.state = .closed
  timers : ∀ k t, s.timerManager.activeAt k = some t → t.callback.packet.seq = seqNum
  log : s₀.sent <+: s.sent
  fins : FinsAt seqNum s₀ s

/-! ## One step on the active path -/

section ActivePath

variable {seqNum : UInt32} {s₀ s s' : TcpSession} {e : Event}

/-- Packets without FIN add none. -/
theorem FinsAt.append (h : FinsAt seqNum s₀ s) (hlog : s₀.sent <+: s.sent) {l : List Datagram}
    (hsent : s'.sent = s.sent ++ l)
    (hnew : ∀ d ∈ l, d.packet.has flagFin = true → d.packet.seq = seqNum) :
    FinsAt seqNum s₀ s' := by
  intro d hd
  rw [newDatagrams_trans hlog (hsent ▸ List.prefix_append _ _), newDatagrams_of_append hsent,
    List.mem_append] at hd
  rcases hd with hd | hd
  · exact h d hd
  · exact hnew d hd

/-- Old timers, and packets that carry no FIN or the known one. -/
theorem ActiveClosing.of_append (h : ActiveClosing seqNum s₀ s)
    (hstate : s'.state = .finWait1 ∨ s'.state = .finWait2 ∨ s'.state = .timeWait ∨
      s'.state = .closed)
    (htimers : ∀ k t, s'.timerManager.activeAt k = some t →
      t.callback.packet.seq = seqNum) {l : List Datagram} (hsent : s'.sent = s.sent ++ l)
    (hnew : ∀ d ∈ l, d.packet.has flagFin = true → d.packet.seq = seqNum) :
    ActiveClosing seqNum s₀ s' where
  state := hstate
  timers := htimers
  log := h.log.trans (hsent ▸ List.prefix_append _ _)
  fins := h.fins.append h.log hsent hnew

/-- The invariant after a step that sends no other FIN. -/
theorem ActiveClosing.of_eq (h : ActiveClosing seqNum s₀ s)
    (hstate : s'.state = .finWait1 ∨ s'.state = .finWait2 ∨ s'.state = .timeWait ∨
      s'.state = .closed)
    (htimers : ∀ k t, s'.timerManager.activeAt k = some t →
      t.callback.packet.seq = seqNum) (hsent : s'.sent = s.sent) :
    ActiveClosing seqNum s₀ s' :=
  h.of_append hstate htimers (l := []) (by rw [hsent, List.append_nil])
    fun d hd => absurd hd List.not_mem_nil

/-- A session that closes actively is not open. -/
theorem ActiveClosing.not_open (h : ActiveClosing seqNum s₀ s) :
    s.state ≠ .established ∧ s.state ≠ .closeWait := by
  rcases h.state with hstate | hstate | hstate | hstate <;> simp [hstate]

/-- Acknowledgments and data segments carry no FIN. -/
theorem has_flagFin_datagram_ack (s : TcpSession) (ackNum : UInt32) (payload : List UInt8) :
    (s.datagram flagAck ackNum payload).packet.has flagFin = false := by
  rw [datagram, calculateChecksum_has, segment_has]
  decide

/-- The FIN of the peer is taken on the way to TIME_WAIT. -/
theorem ActiveClosing.acceptFin (h : ActiveClosing seqNum s₀ s) (packet : MyuTcpPacket)
    {next : TcpState} (hnext : next = .timeWait ∨ next = .closed) :
    ActiveClosing seqNum s₀ ((s.acceptFin packet).transitionTo next) := by
  refine h.of_append (Or.inr (Or.inr hnext)) h.timers rfl ?_
  intro d hd hfin
  rw [List.mem_singleton] at hd
  rw [hd] at hfin
  exact absurd (hfin.symm.trans (has_flagFin_datagram_ack _ _ _)) Bool.noConfusion

/-- A packet keeps the session on its way, but for a FIN in FIN_WAIT_1. -/
theorem ActiveClosing.dispatch {packet : MyuTcpPacket} {iss : UInt32}
    (h : ActiveClosing seqNum s₀ s)
    (hfin : ¬ (s.state = .finWait1 ∧ packet.has flagFin = true))
    (hdispatch : (s.observe packet).dispatch packet iss = some s') :
    ActiveClosing seqNum s₀ s' := by
  have hobserve : ActiveClosing seqNum s₀ (s.observe packet) := h.of_eq h.state h.timers rfl
  rw [TcpSession.dispatch] at hdispatch
  rcases h.state with hstate | hstate | hstate | hstate <;>
    rw [show (s.observe packet).state = _ from hstate] at hdispatch <;> cases hdispatch
  · rw [handleFinWait1, if_neg fun hflag => hfin ⟨hstate, hflag⟩, handleFinWait1Ack]
    split
    · exact h.of_eq (Or.inr (Or.inl rfl))
        (fun k t ht => h.timers k t (activeAt_of_stopTimer ht)) rfl
    · exact hobserve
  · rw [handleFinWait2]
    split
    · exact (hobserve.acceptFin packet (Or.inl rfl)).of_eq (Or.inr (Or.inr (Or.inl rfl)))
        h.timers rfl
    · exact hobserve
  · rw [handleTimedWait]
    split
    · have hstay : ((s.observe packet).acceptFin packet).transitionTo .timeWait =
          (s.observe packet).acceptFin packet := by
        rw [transitionTo, ← hstate]
        rfl
      rw [← hstay]
      exact hobserve.acceptFin packet (Or.inl rfl)
    · exact hobserve
  · exact hobserve.of_eq (Or.inr (Or.inr (Or.inr rfl))) h.timers rfl

/-- A step that opens no connection stays on the active path, unless it processes a FIN in
FIN_WAIT_1. -/
theorem ActiveClosing.step (h : ActiveClosing seqNum s₀ s) (hopens : ¬ Opens e)
    (hfin : ¬ s.FinInFinWait1 e) (hstep : TcpSession.step s e = some s') :
    ActiveClosing seqNum s₀ s' := by
  cases e with
  | setRemoteAddr ip port => cases hstep; exact h.of_eq h.state h.timers rfl
  | setListenerPort port => cases hstep; exact h.of_eq h.state h.timers rfl
  | connect iss => exact absurd trivial hopens
  | listen => exact absurd trivial hopens
  | send data =>
      cases hstep
      rcases send_of_not_open h.not_open data with ⟨buffer, hsend⟩
      rw [hsend]
      exact h.of_eq h.state h.timers rfl
  | recv bufSize =>
      cases hstep
      rcases recv_of_not_closeWait h.not_open.2 bufSize with ⟨buffer, hrecv⟩
      rw [hrecv]
      exact h.of_eq h.state h.timers rfl
  | readAll =>
      cases hstep
      rcases readAll_of_not_closeWait h.not_open.2 with ⟨buffer, hread⟩
      rw [hread]
      exact h.of_eq h.state h.timers rfl
  | close =>
      cases hstep
      rw [close]
      rcases h.state with hstate | hstate | hstate | hstate <;> rw [hstate] <;> exact h
  | input packet iss =>
      rcases input_cases hstep with ⟨-, -, rfl⟩ | ⟨-, rfl⟩ | ⟨-, -, rfl⟩ | ⟨hadmitted, hdispatch⟩
      · exact h
      · exact h
      · refine h.of_eq (Or.inr (Or.inr (Or.inr rfl))) ?_ rfl
        intro k t ht
        rw [handleReset, notify, transitionTo, TimerManager.activeAt_stopAllTimers] at ht
        contradiction
      · exact h.dispatch (fun hboth => hfin ⟨hadmitted, hboth⟩) hdispatch
  | expire k =>
      rcases expire_eq_some_iff.mp hstep with ⟨t, hactive, rfl⟩
      have hseq := h.timers k t hactive
      by_cases hlimit : t.callback.retransmitCount + 1 ≥ maxRetransmitCount
      · rw [runClosure_of_limit _ hlimit]
        exact h.of_eq h.state
          (fun j u hu => h.timers j u (activeAt_of_stopTimer (activeAt_of_stopTimer hu))) rfl
      · rw [runClosure_of_lt _ hlimit]
        refine h.of_append h.state ?_ rfl ?_
        · intro j u hu
          dsimp only at hu
          rw [TimerManager.activeAt_startTimer] at hu
          split at hu
          · cases hu
            rw [refreshPacket_seq, hseq]
          · exact h.timers j u (activeAt_of_stopTimer (activeAt_of_stopTimer hu))
        · intro d hd _
          rw [List.mem_singleton] at hd
          rw [hd, refreshPacket_seq, hseq]
  | expire2Msl =>
      rw [TcpSession.step] at hstep
      split at hstep
      · cases hstep
        exact h.of_eq (Or.inr (Or.inr (Or.inr rfl))) h.timers rfl
      · contradiction

/-- A FIN in FIN_WAIT_1 takes the session to CLOSE_WAIT. -/
theorem state_of_finInFinWait1 (hfin : s.FinInFinWait1 e) :
    ∃ s', TcpSession.step s e = some s' ∧ s'.state = .closeWait := by
  cases e with
  | input packet iss =>
      rcases hfin with ⟨hadmitted, hstate, hflag⟩
      refine ⟨(s.observe packet).handleFinWait1 packet, ?_, ?_⟩
      · rw [TcpSession.step, input_of_admitted hadmitted, TcpSession.dispatch,
          show (s.observe packet).state = .finWait1 from hstate]
      · rw [handleFinWait1, if_pos hflag]
        rfl
  | _ => exact hfin.elim

end ActivePath

/-! ## Runs after the close -/

section Runs

variable {s : TcpSession}

/-- Closing an established session sends its FIN behind everything it has sent. -/
theorem activeClosing_close (hstate : s.state = .established) :
    ActiveClosing s.handleTrySend.sendWindow.sendNext s s.close := by
  have hclose : s.close = s.handleTrySend.closeEstablished := by rw [close, hstate]
  have hlog := sent_prefix_handleTrySend s
  rw [hclose, closeEstablished_eq]
  refine ⟨Or.inl rfl, ?_, hlog.trans (List.prefix_append _ _), ?_⟩
  · intro k t ht
    dsimp only at ht
    rw [TimerManager.activeAt_startTimer, TimerManager.activeAt_stopAllTimers] at ht
    split at ht
    · cases ht
      exact controlClosure_seq _ _
    · contradiction
  · have htrySend : FinsAt s.handleTrySend.sendWindow.sendNext s s.handleTrySend := by
      intro d hd hfin
      rw [newDatagrams_handleTrySend] at hd
      split at hd
      · rw [List.mem_singleton] at hd
        rw [hd] at hfin
        exact absurd (hfin.symm.trans (has_flagFin_datagram_ack _ _ _)) Bool.noConfusion
      · exact absurd hd List.not_mem_nil
    refine htrySend.append hlog rfl ?_
    intro d hd _
    rw [List.mem_singleton] at hd
    rw [hd, datagram, calculateChecksum_seq, segment_seq]

/-- Along a run that opens no connection and processes no FIN in FIN_WAIT_1, the session
stays on the active path. -/
theorem ActiveClosing.allSteps {seqNum : UInt32} {s₀ : TcpSession} {es : List Event}
    (h : ActiveClosing seqNum s₀ s) (hopens : ∀ e ∈ es, ¬ Opens e)
    (hfin : TcpSession.step.AllSteps (fun s e => ¬ s.FinInFinWait1 e) s es) :
    TcpSession.step.AllSteps AvoidsCloseWait s es ∧
      ∀ s', TcpSession.step.run s es = some s' → ActiveClosing seqNum s₀ s' := by
  have hall := (StepFn.allSteps_of_forall_mem hopens s).and hfin
  have hstep : ∀ s e s', ActiveClosing seqNum s₀ s → (¬ Opens e ∧ ¬ s.FinInFinWait1 e) →
      TcpSession.step s e = some s' → ActiveClosing seqNum s₀ s' := by
    intro s e s' hs hok hs'
    exact hs.step hok.1 hok.2 hs'
  constructor
  · refine StepFn.AllSteps.of_invariant hstep ?_ h hall
    intro s e hs hok s' hs'
    exact (hstep s e s' hs hok hs').not_open.2
  · intro s' hrun
    exact (StepFn.reachable_of_run hall hrun).invariant h hstep

/-- A step that does not lead to CLOSE_WAIT processes no FIN in FIN_WAIT_1. -/
theorem AvoidsCloseWait.not_finInFinWait1 {e : Event} (h : s.AvoidsCloseWait e) :
    ¬ s.FinInFinWait1 e := by
  intro hfin
  rcases state_of_finInFinWait1 hfin with ⟨s', hs', hstate⟩
  exact h s' hs' hstate

end Runs

/-- After {lit}`close()` in ESTABLISHED and until the next connection, a session never enters
CLOSE_WAIT and sends its FINs at one sequence number, exactly when it processes no FIN in
FIN_WAIT_1. -/
theorem activeClose_iff {s : TcpSession} {es : List Event} (hstate : s.state = .established)
    (hopens : ∀ e ∈ es, ¬ Opens e) :
    (step.AllSteps AvoidsCloseWait s.close es ∧
      ∀ s', step.run s.close es = some s' →
        FinsAt s.handleTrySend.sendWindow.sendNext s s') ↔
      step.AllSteps (fun s e => ¬ s.FinInFinWait1 e) s.close es := by
  have hclosing := activeClosing_close hstate
  constructor
  · intro h
    exact h.1.mono fun _ _ => AvoidsCloseWait.not_finInFinWait1
  · intro hfin
    rcases hclosing.allSteps hopens hfin with ⟨havoids, hrun⟩
    exact ⟨havoids, fun s' hs' => (hrun s' hs').fins⟩

/-- The peer closes at the same time; then the application reads. -/
def crossedCloseRun : List Event :=
  [.input (peerPacket flagFin 101 1 1024 []) 0, .readAll]

/-- The handshake of the example. -/
theorem run_established :
    ∃ s, step.run clientSession establishedRun = some s ∧ s.state = .established := by
  have hrun : ((step.run clientSession establishedRun).any fun s => s.state = .established) =
      true := by
    decide +kernel
  rcases (Option.any_eq_true _ _).mp hrun with ⟨s, hs, hstate⟩
  exact ⟨s, hs, of_decide_eq_true hstate⟩

theorem activeClose_iff_crossedClose :
    ∃ s, step.run clientSession establishedRun = some s ∧
      ((step.AllSteps AvoidsCloseWait s.close crossedCloseRun ∧
        ∀ s', step.run s.close crossedCloseRun = some s' →
          FinsAt s.handleTrySend.sendWindow.sendNext s s') ↔
        step.AllSteps (fun s e => ¬ s.FinInFinWait1 e) s.close crossedCloseRun) := by
  rcases run_established with ⟨s, hs, hstate⟩
  refine ⟨s, hs, activeClose_iff hstate ?_⟩
  simp [crossedCloseRun, Opens]

/-- The peer's FIN takes the closer to CLOSE_WAIT, and its next read sends a second FIN. -/
theorem crossedClose_secondFin :
    ∃ s s₁ s₂, step.run clientSession establishedRun = some s ∧ s.state = .established ∧
      step.run s.close (crossedCloseRun.take 1) = some s₁ ∧ s₁.state = .closeWait ∧
      step.run s.close crossedCloseRun = some s₂ ∧
      ((newDatagrams s s₂).filter fun d => d.packet.has flagFin).map (fun d => d.packet.seq) =
        [1, 2] := by
  rcases run_established with ⟨s, hs, hstate⟩
  have hrun : ((step.run clientSession establishedRun).any fun s =>
      ((step.run s.close (crossedCloseRun.take 1)).any fun s₁ => s₁.state = .closeWait) &&
      (step.run s.close crossedCloseRun).any fun s₂ =>
        ((newDatagrams s s₂).filter fun d => d.packet.has flagFin).map
          (fun d => d.packet.seq) = [1, 2]) = true := by
    decide +kernel
  rw [hs, Option.any_some, Bool.and_eq_true] at hrun
  rcases (Option.any_eq_true _ _).mp hrun.1 with ⟨s₁, hs₁, hcloseWait⟩
  rcases (Option.any_eq_true _ _).mp hrun.2 with ⟨s₂, hs₂, hfins⟩
  exact ⟨s, s₁, s₂, hs, hstate, hs₁, of_decide_eq_true hcloseWait, hs₂, of_decide_eq_true hfins⟩

end TcpSession

end MyuTcp
