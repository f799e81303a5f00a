import MyuTcp.Core.StateMachine
import MyuTcp.Core.IdleSession

/-!
# Closed sessions

Whether a session in CLOSED still has a timer that could fire.  A reset and a
{lit}`close()` of an opening connection stop all timers.  The last acknowledgment stops
only the timer of the number it covers, and the 2MSL timeout only the 2MSL timer.

Main results:

- Theorem {lit}`silent_step`: what a step into or inside CLOSED leaves active.
- Theorem {lit}`closed_silent_iff`: in a run, every closed session is without active timers
  and sends nothing, exactly when neither of the two ways leaves a timer behind.
- Theorem {lit}`ackedByteRun_notSilent`: a closed session that sends a data segment again.
-/

namespace MyuTcp

open Library

namespace TcpSession

/-- No packet timer is active, nor is the 2MSL timer. -/
def Silent (s : TcpSession) : Prop :=
  (∀ k, s.timerManager.activeAt k = none) ∧ s.timerManager.twoMslActive = false

/-- The step does not leave a closed session with an active timer. -/
def ClosedIsSilent (s : TcpSession) (e : Event) : Prop :=
  ∀ s', step s e = some s' → s'.state = .closed → s'.Silent

/-- A closed session sends nothing unless the event opens a connection. -/
def ClosedSendsNothing (s : TcpSession) (e : Event) : Prop :=
  s.state = .closed → ¬ Opens e → ∀ s', step s e = some s' → s'.sent = s.sent

/-- The event closes the session and leaves a timer behind: it is the last acknowledgment
while a timer other than that of {lit}`send_unack_` is active, or the 2MSL timeout
while a packet timer is. -/
def LeavesTimer (s : TcpSession) : Event → Prop
  | .input packet _ => Admitted packet ∧ s.state = .lastAck ∧ packet.has flagAck = true ∧
      packet.ack = s.sendWindow.sendUnack + 1 ∧
      ((∃ k, k ≠ s.sendWindow.sendUnack ∧ s.timerManager.activeAt k ≠ none) ∨
        s.timerManager.twoMslActive = true)
  | .expire2Msl => s.timerManager.twoMslActive = true ∧
      ∃ k, s.timerManager.activeAt k ≠ none
  | _ => False

/-! ## Ways into CLOSED -/

section Steps

variable {s s' : TcpSession} {e : Event}

theorem silent_of_stopAllTimers {m : TimerManager RetransmitClosure}
    (h : s.timerManager = m.stopAllTimers) : s.Silent := by
  constructor
  · intro k
    rw [h, TimerManager.activeAt_stopAllTimers]
  · rw [h]
    rfl

theorem silent_handleReset (s : TcpSession) : s.handleReset.Silent :=
  silent_of_stopAllTimers rfl

theorem silent_abortOpening (s : TcpSession) : s.abortOpening.Silent := by
  apply silent_of_stopAllTimers
  rw [abortOpening_eq]

/-- The last acknowledgment stops the timer of {lit}`send_unack_` and no other. -/
theorem activeAt_lastAck {packet : MyuTcpPacket}
    (hack : packet.ack = s.sendWindow.sendUnack + 1) (k : UInt32) :
    ((s.observe packet).advanceUnack packet.ack).timerManager.activeAt k =
      if k = s.sendWindow.sendUnack then none else s.timerManager.activeAt k := by
  have hunack : packet.ack - 1 = s.sendWindow.sendUnack := by rw [hack, UInt32.add_sub_cancel]
  rw [advanceUnack, hunack]
  exact TimerManager.activeAt_stopTimer _ _ _

theorem silent_lastAck_iff {packet : MyuTcpPacket}
    (hack : packet.ack = s.sendWindow.sendUnack + 1) :
    (((s.observe packet).advanceUnack packet.ack).transitionTo .closed |>.notify .closed).Silent ↔
      (∀ k, k ≠ s.sendWindow.sendUnack → s.timerManager.activeAt k = none) ∧
        s.timerManager.twoMslActive = false := by
  have htwoMsl : ((s.observe packet).advanceUnack packet.ack).timerManager.twoMslActive =
      s.timerManager.twoMslActive := TimerManager.twoMslActive_stopTimer _ _
  constructor
  · intro h
    refine ⟨?_, htwoMsl ▸ h.2⟩
    intro k hk
    have hnone : ((s.observe packet).advanceUnack packet.ack).timerManager.activeAt k = none :=
      h.1 k
    rwa [activeAt_lastAck hack, if_neg hk] at hnone
  · rintro ⟨htimers, hinactive⟩
    refine ⟨?_, htwoMsl.trans hinactive⟩
    intro k
    have hactive := activeAt_lastAck hack k
    split at hactive <;> rename_i hk
    · exact hactive
    · exact hactive.trans (htimers k hk)

/-- A closed session without active timers stays without them, and a step that closes the
session leaves none, the two listed ways apart. -/
theorem silent_step (hs : s.state = .closed → s.Silent) (hleaves : ¬ s.LeavesTimer e)
    (h : step s e = some s') (hclosed : s'.state = .closed) : s'.Silent := by
  have htransition := step_transition h
  rw [hclosed] at htransition
  generalize hnext : TcpState.closed = next at htransition
  cases htransition with
  | stay =>
      have hsilent := hs hnext.symm
      have hopens : ¬ Opens e := by
        intro hopens
        cases e with
        | connect iss => cases h; simp [connect_eq] at hclosed
        | listen =>
            cases h
            rw [TcpSession.listen, if_neg (not_not.mpr hnext.symm)] at hclosed
            contradiction
        | _ => exact hopens
      cases e with
      | expire k =>
          rcases expire_eq_some_iff.mp h with ⟨t, hactive, -⟩
          rw [hsilent.1 k] at hactive
          contradiction
      | expire2Msl =>
          rw [step, hsilent.2] at h
          contradiction
      | _ =>
          rcases step_closed hnext.symm hopens (fun _ => Event.noConfusion) Event.noConfusion h
            with ⟨-, hsame | hstopped⟩
          · exact ⟨fun k => hsame ▸ hsilent.1 k, hsame ▸ hsilent.2⟩
          · exact silent_of_stopAllTimers hstopped
  | abort hopening =>
      cases h
      have habort : s.close = s.abortOpening := by
        rw [close]
        rcases hopening with hstate | hstate <;> rw [hstate]
      rw [habort]
      exact silent_abortOpening s
  | reset hverify hrst =>
      rw [step, input, hverify, hrst] at h
      cases h
      exact silent_handleReset s
  | lastAck hadmitted hstate hflag hack =>
      rw [step_lastAck hadmitted hstate hflag hack] at h
      cases h
      rw [silent_lastAck_iff hack]
      constructor
      · intro k hk
        by_contra hactive
        exact hleaves ⟨hadmitted, hstate, hflag, hack, Or.inl ⟨k, hk, hactive⟩⟩
      · by_contra hactive
        exact hleaves ⟨hadmitted, hstate, hflag, hack, Or.inr (by simpa using hactive)⟩
  | expire2Msl hactive =>
      rw [step_expire2Msl hactive] at h
      cases h
      refine ⟨?_, rfl⟩
      intro k
      by_contra hpacket
      exact hleaves ⟨hactive, k, hpacket⟩
  | _ => contradiction

/-- A closed session without active timers sends nothing. -/
theorem closedSendsNothing_of_silent (hs : s.state = .closed → s.Silent) :
    s.ClosedSendsNothing e := by
  intro hclosed hopens s' h
  have hsilent := hs hclosed
  cases e with
  | expire k =>
      rcases expire_eq_some_iff.mp h with ⟨t, hactive, -⟩
      rw [hsilent.1 k] at hactive
      contradiction
  | expire2Msl =>
      rw [step, hsilent.2] at h
      contradiction
  | _ =>
      exact (step_closed hclosed hopens (fun _ => Event.noConfusion) Event.noConfusion h).1

/-- A step that leaves a timer behind closes the session with an active timer. -/
theorem ClosedIsSilent.not_leavesTimer (h : s.ClosedIsSilent e) : ¬ s.LeavesTimer e := by
  intro hleaves
  cases e with
  | input packet iss =>
      rcases hleaves with ⟨hadmitted, hstate, hflag, hack, hactive⟩
      have hsilent := h _ (step_lastAck hadmitted hstate hflag hack) rfl
      rw [silent_lastAck_iff hack] at hsilent
      rcases hactive with ⟨k, hk, hactive⟩ | hactive
      · exact hactive (hsilent.1 k hk)
      · exact absurd (hsilent.2.symm.trans hactive) Bool.noConfusion
  | expire2Msl =>
      rcases hleaves with ⟨hactive, k, hpacket⟩
      exact hpacket ((h _ (step_expire2Msl hactive) rfl).1 k)
  | _ => exact hleaves

end Steps

/-! ## Runs -/

/-- In every run of a created session, closed sessions have no active timer and send nothing
until they are opened again, exactly when no step closes the session and leaves a timer
behind. -/
theorem closed_silent_iff (initialSendSeq initialRecvSeq : UInt32)
    (listenerPort port : UInt16) (remoteIp : String) (remotePort : UInt16) (es : List Event) :
    step.AllSteps (fun s e => s.ClosedIsSilent e ∧ s.ClosedSendsNothing e)
        (createSession initialSendSeq initialRecvSeq listenerPort port remoteIp remotePort) es ↔
      step.AllSteps (fun s e => ¬ s.LeavesTimer e)
        (createSession initialSendSeq initialRecvSeq listenerPort port remoteIp remotePort)
        es := by
  apply StepFn.allSteps_iff_of_invariant (P := fun s => s.state = .closed → s.Silent)
  · intro s e hs
    constructor
    · intro h
      exact h.1.not_leavesTimer
    · intro hleaves
      exact ⟨fun s' hs' => silent_step hs hleaves hs', closedSendsNothing_of_silent hs⟩
  · intro s e s' hs hleaves hs'
    exact silent_step hs hleaves hs'
  · intro _
    exact ⟨fun k => rfl, rfl⟩

/-- One byte is sent and acknowledged, then the peer closes and the application follows. -/
def ackedByteRun : List Event :=
  [.connect 0, .input (peerPacket (flagSyn ||| flagAck) 100 1 1024 []) 0, .send [7],
    .input (peerPacket flagAck 101 2 1024 []) 0, .input (peerPacket flagFin 101 2 1024 []) 0,
    .close, .input (peerPacket flagAck 102 3 1024 []) 0]

/-- The closed session sends the acknowledged byte again when the timer of the byte expires. -/
theorem ackedByteRun_notSilent :
    ∃ s s', step.run clientSession ackedByteRun = some s ∧ s.state = .closed ∧ ¬ s.Silent ∧
      step s (.expire 1) = some s' ∧
      (newDatagrams s s').map (fun d => d.packet.payload) = [[7]] := by
  have hrun : ((step.run clientSession ackedByteRun).any fun s =>
      decide (s.state = .closed) && (s.timerManager.activeAt 1).isSome &&
      (step s (.expire 1)).any fun s' =>
        (newDatagrams s s').map (fun d => d.packet.payload) = [[7]]) = true := by
    decide +kernel
  rcases (Option.any_eq_true _ _).mp hrun with ⟨s, hs, hfacts⟩
  rw [Bool.and_eq_true, Bool.and_eq_true, decide_eq_true_eq] at hfacts
  rcases hfacts with ⟨⟨hclosed, hactive⟩, hexpire⟩
  rcases (Option.any_eq_true _ _).mp hexpire with ⟨s', hs', hsent⟩
  refine ⟨s, s', hs, hclosed, ?_, hs', of_decide_eq_true hsent⟩
  intro hsilent
  rw [hsilent.1 1] at hactive
  contradiction

end TcpSession

end MyuTcp
