import MyuTcp.Core.ReadyQueue

/-!
# Sessions in the ready queue

The default close callback erases a session from the stack and leaves the pointers to it in the
ready queue and in the batch of the idle callback.

Main results:

- Theorem {lit}`queue_owned_iff`: in every run the queue refers to owned sessions only exactly
  when no step ends the connection of a session that waits in it.
- Theorem {lit}`queuedReset_dangles`: data and a reset between two dispatches.
-/

namespace MyuTcp

open Library

namespace TcpStack

/-- After the step all sessions in the queue are owned by the stack. -/
def LeavesOwned (st : TcpStack) (ev : QueueEvent) : Prop :=
  ∀ st', queueStep st ev = some st' → st'.QueueOwned

/-- The event can happen, and it ends the connection of a session that waits in the queue. -/
def DropsQueued (st : TcpStack) (ev : QueueEvent) : Prop :=
  (queueStep st ev).isSome = true ∧ st.EndsQueued ev

theorem leavesOwned_iff {st : TcpStack} (hordered : Ordered st) (howned : QueueOwned st)
    (ev : QueueEvent) : st.LeavesOwned ev ↔ ¬ st.DropsQueued ev := by
  unfold LeavesOwned DropsQueued
  cases hstep : queueStep st ev with
  | none => simp
  | some st' => simpa using owned_queueStep_iff hordered howned hstep

/-- In every run of a stack, the ready queue and the rest of the batch refer to owned sessions
after each step exactly when no step ends the connection of a session that waits there. -/
theorem queue_owned_iff (evs : List QueueEvent) :
    queueStep.AllSteps LeavesOwned new evs ↔
      queueStep.AllSteps (fun st ev => ¬ st.DropsQueued ev) new evs := by
  apply StepFn.allSteps_iff_of_invariant (P := fun st => Ordered st ∧ QueueOwned st)
  · intro st ev h
    exact leavesOwned_iff h.1 h.2 ev
  · intro st ev st' h hdrops hstep
    exact ⟨queueStep_ordered h.1 hstep, (leavesOwned_iff h.1 h.2 ev).mpr hdrops st' hstep⟩
  · exact ⟨ordered_new, queueOwned_new⟩

/-- The datagram of a packet from the client. -/
def fromClient (packet : MyuTcpPacket) (iss : UInt32) : QueueEvent :=
  .stack (.datagram clientAddress (UdpDriver.sendPacket packet) zeroSeeds iss)

/-- A client connects, sends one byte and resets the connection before the idle callback runs. -/
def queuedResetRun : List QueueEvent :=
  [.stack .listen, fromClient (TcpSession.peerPacket flagSyn 0 0 1024 []) 100,
    fromClient (TcpSession.peerPacket flagAck 1 101 1024 []) 0,
    fromClient (TcpSession.peerPacket flagAck 1 101 1024 [7]) 0,
    fromClient (TcpSession.peerPacket flagRst 2 0 1024 []) 0]

/-- The queue still has the session that the reset has erased. -/
theorem queuedReset_dangles :
    ∃ st, queueStep.run new queuedResetRun = some st ∧ st.readyQueue = [0] ∧
      st.tcpSessions.entries = [] ∧ ¬ st.QueueOwned ∧
      ¬ queueStep.AllSteps LeavesOwned new queuedResetRun := by
  have hrun : ((queueStep.run new queuedResetRun).any fun st =>
      st.readyQueue = [0] ∧ st.tcpSessions.entries.isEmpty = true) = true := by
    decide +kernel
  rcases (Option.any_eq_true _ _).mp hrun with ⟨st, hst, hfacts⟩
  rcases of_decide_eq_true hfacts with ⟨hready, hentries⟩
  rw [List.isEmpty_iff] at hentries
  have hdangles : ¬ st.QueueOwned := by
    intro howned
    have hmem : 0 ∈ st.queue := by simp [queue, hready]
    rcases howned 0 hmem with ⟨k, entry, hfind, -⟩
    rw [OrderedMap.find?, hentries] at hfind
    contradiction
  refine ⟨st, hst, hready, hentries, hdangles, ?_⟩
  intro hall
  apply hdangles
  apply (StepFn.reachable_of_run hall hst).invariant queueOwned_new
  exact fun _ _ st' _ hleaves hstep => hleaves st' hstep

end TcpStack

end MyuTcp
