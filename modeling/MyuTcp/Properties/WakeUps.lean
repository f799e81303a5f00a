import MyuTcp.Core.ReadyQueue

/-!
# Wake-ups

What becomes of a triggered session.  A trigger marks the session and appends it to
{lit}`ready_queue_`; the idle callback takes the queue over as its batch and hands the sessions
of the batch to the application one by one, unmarking each before its turn.

Main results:

- Theorem {lit}`queue_step`: how a step moves the batch and the ready queue.
- Theorem {lit}`Ordered.wakesUp`: marks count the places in the queue, the idle handle watches
  over the queue, and no session waits for more than one start of a batch.
- Theorem {lit}`wakeUps_handedOver`: as long as no connection of a marked session has ended, the
  idle callback hands every marked session over, in the current batch or in the next one.
- Theorem {lit}`resetInQueue_neverHanded`: behind an erased session nobody is handed over.
-/

namespace MyuTcp

open Library

namespace TcpStack

/-- The event hands the session over to the application. -/
def Hands (id : Nat) (st : TcpStack) (ev : QueueEvent) : Prop :=
  ev = .stack .dispatchNext ∧ st.processingBatch.head? = some id

/-- The idle callback starts on a new batch. -/
def startsBatch : QueueEvent → Bool
  | .stack .takeReadyQueue => true
  | _ => false

/-- How an event moves the queue: a batch starts, the next session of the batch leaves, or
sessions are appended. -/
inductive QueueMove (st : TcpStack) (ev : QueueEvent) (st' : TcpStack) : Prop
  | starts (hstarts : startsBatch ev = true) (hbatch : st.processingBatch = [])
      (hnext : st'.processingBatch = st.readyQueue)
  | hands {id : Nat} (hhands : Hands id st ev)
      (hbatch : st.processingBatch = id :: st'.processingBatch)
      (hready : st'.readyQueue = st.readyQueue)
  | appends (hstarts : startsBatch ev = false) (hbatch : st'.processingBatch = st.processingBatch)
      (hready : st.readyQueue <+: st'.readyQueue)

section Moves

variable {st st' : TcpStack} {k : Address} {id : Nat} {e : Event}

/-- A trigger only appends. -/
theorem readyQueue_triggerEvent (k : Address) (st : TcpStack) :
    st.readyQueue <+: (st.triggerEvent k).readyQueue := by
  rw [triggerEvent]
  split
  · split
    · exact List.prefix_rfl
    · exact List.prefix_append _ _
  · exact List.prefix_rfl

/-- Callbacks only append. -/
theorem readyQueue_runCallbacks (calls : List CallbackCall) :
    st.readyQueue <+: (calls.foldl (runCallback k id) st).readyQueue := by
  induction calls generalizing st with
  | nil => exact List.prefix_rfl
  | cons call calls ih =>
      rw [List.foldl_cons]
      refine List.IsPrefix.trans ?_ ih
      cases call with
      | data size => exact readyQueue_triggerEvent k st
      | _ => exact List.prefix_rfl

/-- An event of a session leaves the batch and appends to the ready queue. -/
theorem queue_stepSession (h : st.stepSession k e = some st') :
    st'.processingBatch = st.processingBatch ∧ st.readyQueue <+: st'.readyQueue := by
  rcases stepSession_eq_some_iff.mp h with ⟨entry, s, -, -, rfl⟩
  rw [commit, (runCallbacks_frame _).2.2]
  refine ⟨rfl, ?_⟩
  -- the entry and the datagrams are stored before the callbacks run
  have hstored : st.readyQueue = { st with
      tcpSessions := st.tcpSessions.insert k { entry with session := s }
      sent := st.sent ++ TcpSession.newDatagrams entry.session s }.readyQueue := rfl
  rw [hstored]
  exact readyQueue_runCallbacks _

/-- A datagram leaves the batch as it is. -/
theorem queue_receive {bytes : List UInt8} {seeds : SessionSeeds} {iss : UInt32}
    (h : st.receive k bytes seeds iss = some st') :
    st'.processingBatch = st.processingBatch ∧ st.readyQueue <+: st'.readyQueue := by
  rw [receive] at h
  split at h
  · cases h
    exact ⟨rfl, List.prefix_rfl⟩
  · split at h
    · cases h
      exact ⟨rfl, List.prefix_rfl⟩
    · exact queue_stepSession h
    · contradiction
    · rw [openSession] at h
      rcases Option.bind_eq_some_iff.mp h with ⟨st₁, haddr, hrest⟩
      rcases Option.bind_eq_some_iff.mp hrest with ⟨st₂, hlisten, hinput⟩
      rcases queue_stepSession haddr with ⟨hbatch₁, hready₁⟩
      rcases queue_stepSession hlisten with ⟨hbatch₂, hready₂⟩
      rcases queue_stepSession hinput with ⟨hbatch₃, hready₃⟩
      exact ⟨hbatch₃.trans (hbatch₂.trans hbatch₁), hready₁.trans (hready₂.trans hready₃)⟩
    · cases h
      exact ⟨rfl, List.prefix_rfl⟩

/-- How a step moves the batch and the ready queue. -/
theorem queue_step {ev : QueueEvent} (h : queueStep st ev = some st') : QueueMove st ev st' := by
  cases ev with
  | trigger k =>
      rw [queueStep] at h
      split at h
      · cases h
        refine .appends rfl ?_ (readyQueue_triggerEvent k st)
        exact (runCallback_frame st k 0 (.data 0)).2.2
      · contradiction
  | stack ev =>
      cases ev with
      | createSession k seeds => cases h; exact .appends rfl rfl List.prefix_rfl
      | listen => cases h; exact .appends rfl rfl List.prefix_rfl
      | session k e =>
          change (if _ then _ else _) = _ at h
          split at h
          · exact .appends rfl (queue_stepSession h).1 (queue_stepSession h).2
          · contradiction
      | datagram k bytes seeds iss =>
          have hreceive := queue_receive (receive_of_step h).2
          exact .appends rfl hreceive.1 hreceive.2
      | takeReadyQueue =>
          change st.takeReadyQueue = some st' at h
          rw [takeReadyQueue] at h
          split at h <;> rename_i hguard
          · rw [Bool.and_eq_true] at hguard
            cases h
            exact .starts rfl (List.isEmpty_iff.mp hguard.2) rfl
          · contradiction
      | dispatchNext =>
          change st.dispatchNext = some st' at h
          rw [dispatchNext] at h
          split at h
          · contradiction
          · rename_i id rest hbatch
            rcases Option.bind_eq_some_iff.mp h with ⟨k, -, hnext⟩
            rcases Option.map_eq_some_iff.mp hnext with ⟨entry, hfind, rfl⟩
            exact .hands ⟨rfl, by rw [hbatch]; rfl⟩ hbatch rfl

end Moves

/-! ## Runs without a hand-over -/

/-- As long as the session is not handed over, at most one batch starts.  The session keeps its
place, and once a batch starts, it is in the batch. -/
def HandedSoon (id : Nat) (st : TcpStack) : Prop :=
  ∀ evs st', queueStep.run st evs = some st' →
    queueStep.AllSteps (fun st ev => ¬ Hands id st ev) st evs →
    (evs.countP startsBatch = 0 ∧ id ∈ st'.queue) ∨
      (evs.countP startsBatch = 1 ∧ id ∉ st.processingBatch ∧ id ∈ st'.processingBatch)

section Runs

variable {st st' : TcpStack} {id : Nat} {evs : List QueueEvent}

/-- The batch does not end before its sessions have been handed over. -/
theorem run_of_mem_batch (hmem : id ∈ st.processingBatch) (hrun : queueStep.run st evs = some st')
    (hnot : queueStep.AllSteps (fun st ev => ¬ Hands id st ev) st evs) :
    evs.countP startsBatch = 0 ∧ id ∈ st'.processingBatch := by
  induction evs generalizing st with
  | nil =>
      cases hrun
      exact ⟨rfl, hmem⟩
  | cons ev evs ih =>
      rcases Option.bind_eq_some_iff.mp hrun with ⟨st₁, hstep, hrest⟩
      rw [StepFn.allSteps_cons hstep] at hnot
      cases queue_step hstep with
      | starts hstarts hbatch hnext =>
          rw [hbatch] at hmem
          contradiction
      | @hands next hhands hbatch hready =>
          have hne : id ≠ next := by
            rintro rfl
            exact hnot.1 hhands
          rw [hbatch] at hmem
          have hdone := ih (List.mem_of_ne_of_mem hne hmem) hrest hnot.2
          rw [List.countP_cons_of_neg (by rw [hhands.1]; decide)]
          exact hdone
      | appends hstarts hbatch hready =>
          have hdone := ih (by rwa [hbatch]) hrest hnot.2
          rw [List.countP_cons_of_neg (by simp [hstarts])]
          exact hdone

/-- The ready queue becomes the next batch as a whole. -/
theorem run_of_mem_readyQueue (hmem : id ∈ st.readyQueue)
    (hrun : queueStep.run st evs = some st')
    (hnot : queueStep.AllSteps (fun st ev => ¬ Hands id st ev) st evs) :
    (evs.countP startsBatch = 0 ∧ id ∈ st'.readyQueue) ∨
      (evs.countP startsBatch = 1 ∧ id ∈ st'.processingBatch) := by
  induction evs generalizing st with
  | nil =>
      cases hrun
      exact Or.inl ⟨rfl, hmem⟩
  | cons ev evs ih =>
      rcases Option.bind_eq_some_iff.mp hrun with ⟨st₁, hstep, hrest⟩
      rw [StepFn.allSteps_cons hstep] at hnot
      cases queue_step hstep with
      | starts hstarts hbatch hnext =>
          have hdone := run_of_mem_batch (by rwa [hnext]) hrest hnot.2
          rw [List.countP_cons_of_pos hstarts, hdone.1]
          exact Or.inr ⟨rfl, hdone.2⟩
      | hands hhands hbatch hready =>
          rw [List.countP_cons_of_neg (by rw [hhands.1]; decide)]
          exact ih (by rwa [hready]) hrest hnot.2
      | appends hstarts hbatch hready =>
          rw [List.countP_cons_of_neg (by simp [hstarts])]
          exact ih (hready.subset hmem) hrest hnot.2

/-- A session in the queue is handed over soon. -/
theorem handedSoon_of_mem (hcount : st.queue.count id = 1) : HandedSoon id st := by
  intro evs st' hrun hnot
  have hmem : id ∈ st.queue := by
    rw [← List.count_pos_iff, hcount]
    exact Nat.one_pos
  rcases List.mem_append.mp hmem with hbatch | hready
  · rcases run_of_mem_batch hbatch hrun hnot with ⟨hstarts, hmem'⟩
    exact Or.inl ⟨hstarts, List.mem_append_left _ hmem'⟩
  · have hnotMem : id ∉ st.processingBatch := by
      rw [← List.count_pos_iff] at hready ⊢
      rw [queue, List.count_append] at hcount
      omega
    rcases run_of_mem_readyQueue hready hrun hnot with ⟨hstarts, hmem'⟩ | ⟨hstarts, hmem'⟩
    · exact Or.inl ⟨hstarts, List.mem_append_right _ hmem'⟩
    · exact Or.inr ⟨hstarts, hnotMem, hmem'⟩

/-- The idle callback can start, and takes all sessions that wait. -/
theorem takeReadyQueue_of_idle (hidle : st.idleActive = true) (hbatch : st.processingBatch = []) :
    ∃ st', queueStep st (.stack .takeReadyQueue) = some st' ∧
      st'.processingBatch = st.readyQueue := by
  refine ⟨{ st with
    idleActive := false, processingBatch := st.readyQueue, readyQueue := [] }, ?_, rfl⟩
  change st.takeReadyQueue = _
  rw [takeReadyQueue, if_pos (by simp [hidle, hbatch])]

/-- The batch goes on with its next session while the stack owns it. -/
theorem dispatchNext_of_owns {rest : List Nat} (hbatch : st.processingBatch = id :: rest)
    (howns : st.Owns id) :
    ∃ st', queueStep st (.stack .dispatchNext) = some st' ∧ st'.processingBatch = rest := by
  rcases howns with ⟨k, entry, hfind, hid⟩
  have hmem : (k, entry) ∈ st.tcpSessions.entries := OrderedMap.mem_entries_iff.mpr hfind
  have hkey : (st.keyOf id).isSome = true := by
    rw [keyOf, Option.isSome_map, List.find?_isSome]
    exact ⟨(k, entry), hmem, by simp [hid]⟩
  rcases Option.isSome_iff_exists.mp hkey with ⟨j, hj⟩
  rcases find?_of_keyOf hj with ⟨entry', hfind', -⟩
  refine ⟨{ st with
    processingBatch := rest
    tcpSessions := st.tcpSessions.insert j { entry' with isInReadyQueue := false } }, ?_, rfl⟩
  change st.dispatchNext = _
  rw [dispatchNext, hbatch]
  dsimp only
  rw [hj, Option.bind_some, hfind', Option.map_some]

end Runs

/-- No wake-up is lost or doubled: a trigger marks its session, the marks count the places in
the queue, the idle handle is active while sessions wait outside a dispatch, the idle callback
takes them all and hands them over in turn, and no marked session waits longer than for the next
batch. -/
structure WakesUp (st : TcpStack) : Prop where
  triggers : ∀ k entry, st.tcpSessions.find? k = some entry →
    ∃ st', queueStep st (.trigger k) = some st' ∧
      st'.tcpSessions.find? k = some { entry with isInReadyQueue := true }
  marks : ∀ k entry, st.tcpSessions.find? k = some entry →
    (st.readyQueue ++ st.processingBatch).count entry.id = if entry.isInReadyQueue then 1 else 0
  idle : st.processingBatch = [] → st.readyQueue ≠ [] → st.idleActive = true
  starts : st.processingBatch = [] → st.readyQueue ≠ [] →
    ∃ st', queueStep st (.stack .takeReadyQueue) = some st' ∧ st'.processingBatch = st.readyQueue
  hands : ∀ id rest, st.processingBatch = id :: rest → st.Owns id →
    ∃ st', queueStep st (.stack .dispatchNext) = some st' ∧ st'.processingBatch = rest
  soon : ∀ k entry, st.tcpSessions.find? k = some entry → entry.isInReadyQueue = true →
    HandedSoon entry.id st

/-- Marks, queue and idle handle wake a session up. -/
theorem Ordered.wakesUp {st : TcpStack} (h : Ordered st) : WakesUp st where
  triggers k entry hfind := by
    refine ⟨st.triggerEvent k, ?_, find?_triggerEvent hfind⟩
    rw [queueStep, if_pos (by rw [hfind]; rfl)]
  marks k entry hfind := by
    rw [List.count_append, Nat.add_comm, ← List.count_append]
    exact h.marks k entry hfind
  idle _ hready := h.idle hready
  starts hbatch hready := takeReadyQueue_of_idle (h.idle hready) hbatch
  hands _ _ := dispatchNext_of_owns
  soon k entry hfind hmark := by
    apply handedSoon_of_mem
    rw [h.marks k entry hfind, if_pos hmark]

/-! ## The way to the hand-over -/

/-- The idle callback takes the queue over or hands a session over. -/
def idleCall : QueueEvent → Bool
  | .stack .takeReadyQueue => true
  | .stack .dispatchNext => true
  | _ => false

/-- The idle callback hands over the next session of its batch. -/
def handsNext : QueueEvent → Bool
  | .stack .dispatchNext => true
  | _ => false

/-- The calls of the idle callback alone lead to the hand-over of the session: in the batch that
it works on, or, for a session that waits behind it, in the batch after it. -/
def HandsOver (id : Nat) (st : TcpStack) : Prop :=
  ∃ evs st' st'', queueStep.run st evs = some st' ∧ (∀ ev ∈ evs, idleCall ev = true) ∧
    evs.countP startsBatch = (if id ∈ st.processingBatch then 0 else 1) ∧
    Hands id st' (.stack .dispatchNext) ∧ queueStep st' (.stack .dispatchNext) = some st''

/-- Every hand-over of another session brings the session one place forward. -/
def Advances (id : Nat) (st : TcpStack) : Prop :=
  ∀ evs st', queueStep.run st evs = some st' →
    queueStep.AllSteps (fun st ev => ¬ Hands id st ev) st evs →
    st'.queue.idxOf id + evs.countP handsNext = st.queue.idxOf id

section HandOver

variable {st st' : TcpStack} {id : Nat} {ev : QueueEvent} {evs : List QueueEvent}

/-- A hand-over removes an owned session from the head of the batch. -/
theorem batch_of_handsNext (hhands : handsNext ev = true) (hstep : queueStep st ev = some st') :
    ∃ next, st.processingBatch = next :: st'.processingBatch ∧ st.Owns next := by
  unfold handsNext at hhands
  split at hhands
  · change st.dispatchNext = some st' at hstep
    rw [dispatchNext] at hstep
    split at hstep
    · contradiction
    · rename_i next rest hbatch
      rcases Option.bind_eq_some_iff.mp hstep with ⟨k, hkey, hnext⟩
      rcases Option.map_eq_some_iff.mp hnext with ⟨-, -, rfl⟩
      rcases find?_of_keyOf hkey with ⟨entry, hfind, hid⟩
      exact ⟨next, hbatch, k, entry, hfind, hid⟩
  · contradiction

/-- One step: a session that is not handed over keeps its place, or is one place further. -/
theorem place_step (hmem : id ∈ st.queue) (hnot : ¬ Hands id st ev)
    (hstep : queueStep st ev = some st') :
    id ∈ st'.queue ∧
      st'.queue.idxOf id + (if handsNext ev = true then 1 else 0) = st.queue.idxOf id := by
  cases queue_step hstep with
  | starts hstarts hbatch hnext =>
      have hev : handsNext ev = false := by
        unfold startsBatch at hstarts
        split at hstarts
        · rfl
        · contradiction
      have hready : id ∈ st.readyQueue := by
        rw [queue, hbatch, List.nil_append] at hmem
        exact hmem
      rw [hev, queue, queue, hbatch, hnext, List.idxOf_append_of_mem hready]
      exact ⟨List.mem_append_left _ hready, rfl⟩
  | @hands next hhands hbatch hready =>
      have hne : next ≠ id := by
        rintro rfl
        exact hnot hhands
      have hqueue : st.queue = next :: st'.queue := by
        rw [queue, queue, hbatch, hready, List.cons_append]
      rw [hqueue] at hmem ⊢
      rw [List.idxOf_cons_ne _ hne, hhands.1]
      exact ⟨List.mem_of_ne_of_mem hne.symm hmem, rfl⟩
  | appends hstarts hbatch hready =>
      rcases hready with ⟨new, hnew⟩
      have hqueue : st'.queue = st.queue ++ new := by
        rw [queue, queue, hbatch, ← hnew, List.append_assoc]
      have hev : handsNext ev = false := by
        by_contra hhands
        rcases batch_of_handsNext (by simpa using hhands) hstep with ⟨next, hnext, -⟩
        rw [hbatch] at hnext
        simp at hnext
      rw [hev, hqueue, List.idxOf_append_of_mem hmem]
      exact ⟨List.mem_append_left _ hmem, rfl⟩

/-- Along a run the place in the queue counts the hand-overs that are still to come. -/
theorem advances_of_mem (hmem : id ∈ st.queue) : Advances id st := by
  intro evs
  induction evs generalizing st with
  | nil =>
      intro st' hrun _
      cases hrun
      rfl
  | cons ev evs ih =>
      intro st' hrun hnot
      rcases Option.bind_eq_some_iff.mp hrun with ⟨st₁, hstep, hrest⟩
      rw [StepFn.allSteps_cons hstep] at hnot
      rcases place_step hmem hnot.1 hstep with ⟨hmem₁, hplace⟩
      have hdone := ih hmem₁ st' hrest hnot.2
      rw [List.countP_cons]
      omega

/-- Sessions of the batch are handed over without another start. -/
theorem handsOver_of_mem_batch (howned : QueueOwned st) (hmem : id ∈ st.processingBatch) :
    ∃ evs st' st'', queueStep.run st evs = some st' ∧ (∀ ev ∈ evs, idleCall ev = true) ∧
      evs.countP startsBatch = 0 ∧ Hands id st' (.stack .dispatchNext) ∧
      queueStep st' (.stack .dispatchNext) = some st'' := by
  generalize hbatch : st.processingBatch = batch at hmem
  induction batch generalizing st with
  | nil => contradiction
  | cons next rest ih =>
      have hnext : next ∈ st.queue := by
        rw [queue, hbatch]
        exact List.mem_cons_self
      rcases dispatchNext_of_owns hbatch (howned next hnext) with ⟨st₁, hstep, hrest⟩
      by_cases hsame : id = next
      · refine ⟨[], st, st₁, rfl, List.forall_mem_nil _, rfl, ⟨rfl, ?_⟩, hstep⟩
        rw [hbatch, hsame]
        rfl
      · rcases ih (howned.dispatchNext hstep) hrest (List.mem_of_ne_of_mem hsame hmem) with
          ⟨evs, st', st'', hrun, hidle, hstarts, hhands, hlast⟩
        refine ⟨.stack .dispatchNext :: evs, st', st'', ?_, ?_, hstarts, hhands, hlast⟩
        · rw [StepFn.run_cons, hstep, Option.bind_some]
          exact hrun
        · exact List.forall_mem_cons.mpr ⟨rfl, hidle⟩

/-- The batch runs to its end and leaves the ready queue to the next one. -/
theorem batch_ends (howned : QueueOwned st) :
    ∃ evs st', queueStep.run st evs = some st' ∧ (∀ ev ∈ evs, idleCall ev = true) ∧
      evs.countP startsBatch = 0 ∧ st'.processingBatch = [] ∧
      st'.readyQueue = st.readyQueue ∧ QueueOwned st' := by
  generalize hbatch : st.processingBatch = batch
  induction batch generalizing st with
  | nil => exact ⟨[], st, rfl, List.forall_mem_nil _, rfl, hbatch, rfl, howned⟩
  | cons next rest ih =>
      have hnext : next ∈ st.queue := by
        rw [queue, hbatch]
        exact List.mem_cons_self
      rcases dispatchNext_of_owns hbatch (howned next hnext) with ⟨st₁, hstep, hrest⟩
      have hready : st₁.readyQueue = st.readyQueue := by
        cases queue_step hstep with
        | starts hstarts => contradiction
        | hands _ _ hready => exact hready
        | appends _ hsame =>
            rw [hbatch, hrest] at hsame
            simp at hsame
      rcases ih (howned.dispatchNext hstep) hrest with
        ⟨evs, st', hrun, hidle, hstarts, hempty, hkept, howned'⟩
      refine ⟨.stack .dispatchNext :: evs, st', ?_, ?_, hstarts, hempty, hkept.trans hready,
        howned'⟩
      · rw [StepFn.run_cons, hstep, Option.bind_some]
        exact hrun
      · exact List.forall_mem_cons.mpr ⟨rfl, hidle⟩

/-- A run of a new stack keeps marks, queue and idle handle in agreement. -/
theorem ordered_run (h : Ordered st) (hrun : queueStep.run st evs = some st') : Ordered st' :=
  (StepFn.reachable_of_run_true hrun).invariant h fun _ _ _ h _ hstep => queueStep_ordered h hstep

/-- A session that waits while all sessions of the queue are owned is handed over. -/
theorem handsOver_of_owned (h : Ordered st) (howned : QueueOwned st) (hmem : id ∈ st.queue) :
    HandsOver id st := by
  by_cases hbatch : id ∈ st.processingBatch
  · rcases handsOver_of_mem_batch howned hbatch with ⟨evs, st', st'', hrun, hidle, hstarts, hrest⟩
    exact ⟨evs, st', st'', hrun, hidle, by rw [hstarts, if_pos hbatch], hrest⟩
  · have hwaits : id ∈ st.readyQueue := (List.mem_append.mp hmem).resolve_left hbatch
    -- the batch ends, the ready queue becomes the next one, and that hands the session over
    rcases batch_ends howned with ⟨evs₁, st₁, hrun₁, hidle₁, hstarts₁, hempty, hready, howned₁⟩
    rw [← hready] at hwaits
    have hactive := (ordered_run h hrun₁).idle (List.ne_nil_of_mem hwaits)
    rcases takeReadyQueue_of_idle hactive hempty with ⟨st₂, htake, hnext⟩
    rw [← hnext] at hwaits
    rcases handsOver_of_mem_batch (howned₁.takeReadyQueue htake) hwaits with
      ⟨evs₂, st', st'', hrun₂, hidle₂, hstarts₂, hrest⟩
    refine ⟨evs₁ ++ .stack .takeReadyQueue :: evs₂, st', st'', ?_, ?_, ?_, hrest⟩
    · rw [StepFn.run_append, hrun₁, Option.bind_some, StepFn.run_cons, htake, Option.bind_some]
      exact hrun₂
    · exact List.forall_mem_append.mpr ⟨hidle₁, List.forall_mem_cons.mpr ⟨rfl, hidle₂⟩⟩
    · rw [if_neg hbatch, List.countP_append, hstarts₁, List.countP_cons_of_pos rfl, hstarts₂]

end HandOver

/-- In every state that a stack reaches while no step ends the connection of a session that waits
in the queue, no wake-up is lost or doubled, and every marked session moves up with each
hand-over and is handed over by the idle callback, in the current batch or in the next one. -/
theorem wakeUps_handedOver {st : TcpStack}
    (hs : queueStep.Reachable (fun st ev => ¬ st.EndsQueued ev) new st) :
    WakesUp st ∧ ∀ k entry, st.tcpSessions.find? k = some entry →
      entry.isInReadyQueue = true → Advances entry.id st ∧ HandsOver entry.id st := by
  have hqueue : Ordered st ∧ QueueOwned st := by
    apply hs.invariant (P := fun st => Ordered st ∧ QueueOwned st) ⟨ordered_new, queueOwned_new⟩
    intro st ev st' h hends hstep
    exact ⟨queueStep_ordered h.1 hstep, (owned_queueStep_iff h.1 h.2 hstep).mpr hends⟩
  refine ⟨hqueue.1.wakesUp, ?_⟩
  intro k entry hfind hmark
  have hmem : entry.id ∈ st.queue := (hqueue.1.mem_queue_iff hfind).mpr hmark
  exact ⟨advances_of_mem hmem, handsOver_of_owned hqueue.1 hqueue.2 hmem⟩

/-- The application triggers a session again while it is handed over. -/
def retriggerRun : List QueueEvent :=
  [.stack (.createSession clientAddress zeroSeeds), .trigger clientAddress,
    .stack .takeReadyQueue, .stack .dispatchNext, .trigger clientAddress]

theorem wakeUps_retrigger :
    ∃ st, queueStep.run new retriggerRun = some st ∧ st.readyQueue = [0] ∧
      st.idleActive = true ∧ WakesUp st ∧ HandsOver 0 st := by
  have hrun : ((queueStep.run new retriggerRun).any fun st =>
      st.readyQueue = [0] ∧ st.idleActive = true ∧
        (st.tcpSessions.find? clientAddress).any
          (fun entry => entry.id = 0 ∧ entry.isInReadyQueue = true) = true) = true := by
    decide +kernel
  have hends : queueStep.AllSteps (fun st ev => ¬ st.EndsQueued ev) new retriggerRun := by
    have htargets : queueStep.AllSteps (fun _ ev => ∀ st : TcpStack, st.target ev = none) new
        retriggerRun :=
      StepFn.allSteps_of_forall_mem (by simp [retriggerRun, target]) new
    exact htargets.mono fun st ev htarget => not_endsQueued_of_target (htarget st)
  rcases (Option.any_eq_true _ _).mp hrun with ⟨st, hst, hfacts⟩
  rcases of_decide_eq_true hfacts with ⟨hready, hidle, hentry⟩
  rcases (Option.any_eq_true _ _).mp hentry with ⟨entry, hfind, hmarked⟩
  rcases of_decide_eq_true hmarked with ⟨hid, hmark⟩
  have hwakes := wakeUps_handedOver (StepFn.reachable_of_run hends hst)
  have hhands := (hwakes.2 clientAddress entry hfind hmark).2
  rw [hid] at hhands
  exact ⟨st, hst, hready, hidle, hwakes.1, hhands⟩

/-! ## Behind an erased session -/

/-- Nobody owns the session at the head of the batch. -/
structure Stuck (head : Nat) (st : TcpStack) : Prop where
  batch : st.processingBatch.head? = some head
  unowned : ¬ st.Owns head
  issued : head < st.created

section Stuck

variable {st st' : TcpStack} {head id : Nat} {ev : QueueEvent} {evs : List QueueEvent}

/-- An event of one session gives nobody a new session. -/
theorem owns_of_stepSession {k : Address} {e : Event} (hstep : st.stepSession k e = some st')
    (howns : st'.Owns id) : st.Owns id := by
  rcases howns with ⟨j, entry', hfind', rfl⟩
  by_cases hj : j = k
  · subst hj
    rcases stepSession_eq_some_iff.mp hstep with ⟨entry, s, hfind, -, rfl⟩
    have hcommit := find?_commit j entry s st
    split at hcommit
    · rw [hcommit] at hfind'
      contradiction
    · rcases hcommit with ⟨ready, hready⟩
      rw [hready, Option.some.injEq] at hfind'
      exact ⟨j, entry, hfind, by rw [← hfind']⟩
  · rw [find?_stepSession_of_ne hstep hj] at hfind'
    exact ⟨j, entry', hfind', rfl⟩

/-- An older session was owned before the new one was created. -/
theorem owns_of_createSession {k : Address} {seeds : SessionSeeds} (hissued : id < st.created)
    (howns : (st.createSession k seeds).Owns id) : st.Owns id := by
  rcases howns with ⟨j, entry, hfind, rfl⟩
  rw [find?_createSession] at hfind
  split at hfind <;> rename_i hj
  · cases hknown : st.tcpSessions.find? k with
    | none =>
        rw [hknown, Option.getD_none, Option.some.injEq] at hfind
        rw [← hfind] at hissued
        exact absurd hissued (Nat.lt_irrefl _)
    | some entry' =>
        rw [hknown, Option.getD_some, Option.some.injEq] at hfind
        exact ⟨k, entry', hknown, by rw [hfind]⟩
  · exact ⟨j, entry, hfind, rfl⟩

/-- A trigger creates no session. -/
theorem owns_of_triggerEvent {k : Address} (howns : (st.triggerEvent k).Owns id) :
    st.Owns id := by
  rw [triggerEvent] at howns
  split at howns <;> rename_i hfind
  · split at howns
    · exact howns
    · rcases howns with ⟨j, entry, hentry, rfl⟩
      rcases find?_insert_cases hentry with ⟨-, rfl⟩ | ⟨-, hold⟩
      · exact ⟨k, _, hfind, rfl⟩
      · exact ⟨j, entry, hold, rfl⟩
  · exact howns

/-- While the idle callback holds its batch, no datagram is read and no timer expires, and the
session at the head of the batch finds no owner. -/
theorem Stuck.step (h : Stuck head st) (hstep : queueStep st ev = some st') : Stuck head st' := by
  rcases List.head?_eq_some_iff.mp h.batch with ⟨rest, hbatch⟩
  have hhands : handsNext ev ≠ true := by
    intro hhands
    rcases batch_of_handsNext hhands hstep with ⟨next, hnext, howns⟩
    rw [hbatch, List.cons.injEq] at hnext
    rw [← hnext.1] at howns
    exact h.unowned howns
  cases ev with
  | trigger k =>
      rw [queueStep] at hstep
      split at hstep
      · cases hstep
        have hframe := runCallback_frame st k 0 (.data 0)
        exact ⟨by rw [← h.batch]; exact congrArg List.head? hframe.2.2,
          fun howns => h.unowned (owns_of_triggerEvent howns),
          h.issued.trans_eq hframe.1.symm⟩
      · contradiction
  | stack ev =>
      cases ev with
      | createSession k seeds =>
          cases hstep
          exact ⟨h.batch, fun howns => h.unowned (owns_of_createSession h.issued howns),
            h.issued.trans (Nat.lt_succ_self _)⟩
      | listen =>
          cases hstep
          exact ⟨h.batch, h.unowned, h.issued⟩
      | session k e =>
          change (if _ then _ else _) = _ at hstep
          split at hstep
          · refine ⟨?_, fun howns => h.unowned (owns_of_stepSession hstep howns), ?_⟩
            · rw [(queue_stepSession hstep).1]
              exact h.batch
            · rcases stepSession_eq_some_iff.mp hstep with ⟨entry, s, -, -, rfl⟩
              rw [created_commit]
              exact h.issued
          · contradiction
      | datagram k bytes seeds iss =>
          change (if _ then _ else _) = _ at hstep
          rw [hbatch] at hstep
          contradiction
      | takeReadyQueue =>
          change st.takeReadyQueue = some st' at hstep
          rw [takeReadyQueue, hbatch, List.isEmpty_cons, Bool.and_false] at hstep
          contradiction
      | dispatchNext => exact absurd rfl hhands

/-- A pointer that dangles at the head of the batch stays there. -/
theorem Stuck.run (h : Stuck head st) (hrun : queueStep.run st evs = some st') : Stuck head st' :=
  (StepFn.reachable_of_run_true hrun).invariant h fun _ _ _ h _ hstep => h.step hstep

/-- Nobody behind an erased session is handed over. -/
theorem Stuck.not_hands (h : Stuck head st) (hne : id ≠ head) : ¬ Hands id st ev := by
  rintro ⟨-, hnext⟩
  rw [h.batch, Option.some.injEq] at hnext
  exact hne hnext.symm

end Stuck

/-- The datagram of a packet from a client. -/
def fromPeer (k : Address) (packet : MyuTcpPacket) (iss : UInt32) : QueueEvent :=
  .stack (.datagram k (UdpDriver.sendPacket packet) zeroSeeds iss)

/-- A client connects and sends one byte. -/
def byteFrom (k : Address) : List QueueEvent :=
  [fromPeer k (TcpSession.peerPacket flagSyn 0 0 1024 []) 100,
    fromPeer k (TcpSession.peerPacket flagAck 1 101 1024 []) 0,
    fromPeer k (TcpSession.peerPacket flagAck 1 101 1024 [7]) 0]

/-- Two clients send a byte each, and the first one resets its connection before the idle
callback starts. -/
def resetInQueueRun : List QueueEvent :=
  .stack .listen :: (byteFrom clientAddress ++ byteFrom otherAddress ++
    [fromPeer clientAddress (TcpSession.peerPacket flagRst 2 0 1024 []) 0, .stack .takeReadyQueue])

/-- The session of the second client is in the batch behind the erased one, and no run hands it
over. -/
theorem resetInQueue_neverHanded :
    ∃ st entry, queueStep.run new resetInQueueRun = some st ∧ st.processingBatch = [0, 1] ∧
      st.tcpSessions.find? otherAddress = some entry ∧ entry.id = 1 ∧
      entry.isInReadyQueue = true ∧ ¬ HandsOver 1 st ∧
      ∀ evs st' ev, queueStep.run st evs = some st' → ¬ Hands 1 st' ev := by
  have hrun : ((queueStep.run new resetInQueueRun).any fun st =>
      (st.processingBatch = [0, 1] ∧ st.created = 2 ∧
        st.tcpSessions.entries.all (fun e => decide (e.2.id ≠ 0)) = true) ∧
      (st.tcpSessions.find? otherAddress).any
        (fun entry => entry.id = 1 ∧ entry.isInReadyQueue = true) = true) = true := by
    decide +kernel
  rcases (Option.any_eq_true _ _).mp hrun with ⟨st, hst, hfacts⟩
  rcases of_decide_eq_true hfacts with ⟨⟨hbatch, hcreated, hids⟩, hentry⟩
  rcases (Option.any_eq_true _ _).mp hentry with ⟨entry, hfind, hmarked⟩
  rcases of_decide_eq_true hmarked with ⟨hid, hmark⟩
  have hstuck : Stuck 0 st := by
    refine ⟨by rw [hbatch]; rfl, ?_, by omega⟩
    rintro ⟨k, e, he, hzero⟩
    have hne := List.all_eq_true.mp hids (k, e) (OrderedMap.mem_entries_iff.mpr he)
    exact absurd hzero (of_decide_eq_true hne)
  have hnever : ∀ evs st' ev, queueStep.run st evs = some st' → ¬ Hands 1 st' ev :=
    fun _ _ _ hrun' => (hstuck.run hrun').not_hands (by omega)
  refine ⟨st, entry, hst, hbatch, hfind, hid, hmark, ?_, hnever⟩
  rintro ⟨evs, st', st'', hrun', -, -, hhands, -⟩
  exact hnever evs st' _ hrun' hhands

end TcpStack

end MyuTcp
