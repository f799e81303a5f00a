import MyuTcp.Core.Stack

/-!
# The ready queue

The queue of a stack in the order in which its sessions are handed over: the rest of the batch
that the idle callback is working on, then {lit}`ready_queue_`.  The mark of a session lives in
the session, the queue and the idle handle in the stack; the invariant ties them together.

Main results:

- Theorem {lit}`queueStep_ordered`: along all steps the marks count the occurrences in the queue,
  and the idle handle is active while {lit}`ready_queue_` is not empty.
- Theorem {lit}`owned_queueStep_iff`: a step leaves a session without an owner in the queue
  exactly when it removes a marked one.
-/

namespace MyuTcp

open Library

namespace TcpStack

/-- What can happen to a stack, a direct {lit}`_trigger_event` of the application on one of its
sessions included. -/
inductive QueueEvent
  | stack (ev : StackEvent)
  | trigger (k : Address)

/-- One event.  A session that has been destroyed is not triggered. -/
def queueStep : StepFn TcpStack QueueEvent
  | st, .stack ev => step st ev
  | st, .trigger k => if (st.tcpSessions.find? k).isSome then some (st.triggerEvent k) else none

/-- The sessions that wait to be handed over, the next one first. -/
def queue (st : TcpStack) : List Nat := st.processingBatch ++ st.readyQueue

/-- The number is that of a session of the stack. -/
def Owns (st : TcpStack) (id : Nat) : Prop :=
  ∃ k entry, st.tcpSessions.find? k = some entry ∧ entry.id = id

/-- Marks, queue and idle handle agree. -/
structure Ordered (st : TcpStack) : Prop where
  fresh : ∀ k entry, st.tcpSessions.find? k = some entry → entry.id < st.created
  issued : ∀ id ∈ st.queue, id < st.created
  unique : ∀ j k a b, st.tcpSessions.find? j = some a → st.tcpSessions.find? k = some b →
    a.id = b.id → j = k
  marks : ∀ k entry, st.tcpSessions.find? k = some entry →
    st.queue.count entry.id = if entry.isInReadyQueue then 1 else 0
  idle : st.readyQueue ≠ [] → st.idleActive = true

/-- All sessions in the queue are owned by the stack. -/
def QueueOwned (st : TcpStack) : Prop := ∀ id ∈ st.queue, st.Owns id

/-- Nothing is marked or queued in a new stack. -/
theorem ordered_new : Ordered new where
  fresh _ _ h := nomatch h
  issued _ h := nomatch h
  unique _ _ _ _ h := nomatch h
  marks _ _ h := nomatch h
  idle h := absurd rfl h

/-- The queue of a new stack is empty. -/
theorem queueOwned_new : QueueOwned new :=
  fun _ h => nomatch h

section Operations

variable {st st' : TcpStack} {k : Address} {entry : StackSession}

/-! ## Entries -/

/-- A session is marked exactly if it is in the queue. -/
theorem Ordered.mem_queue_iff (h : Ordered st) (hfind : st.tcpSessions.find? k = some entry) :
    entry.id ∈ st.queue ↔ entry.isInReadyQueue = true := by
  have hcount := h.marks k entry hfind
  rw [← List.count_pos_iff, hcount]
  cases entry.isInReadyQueue <;> simp

/-- Entries keep their number and their mark, or go. -/
def KeepsMarks (st st' : TcpStack) : Prop :=
  ∀ k entry', st'.tcpSessions.find? k = some entry' →
    ∃ entry, st.tcpSessions.find? k = some entry ∧ entry.id = entry'.id ∧
      entry.isInReadyQueue = entry'.isInReadyQueue

/-- The invariant depends on marks, queue and idle handle only. -/
theorem Ordered.of_keepsMarks (h : Ordered st) (hmarks : KeepsMarks st st')
    (hcreated : st.created ≤ st'.created) (hqueue : st'.queue = st.queue)
    (hidle : st'.readyQueue ≠ [] → st'.idleActive = true) : Ordered st' where
  fresh k entry' hfind := by
    rcases hmarks k entry' hfind with ⟨entry, hentry, hid, -⟩
    rw [← hid]
    exact (h.fresh k entry hentry).trans_le hcreated
  issued id hid := by
    rw [hqueue] at hid
    exact (h.issued id hid).trans_le hcreated
  unique i j a b ha hb hid := by
    rcases hmarks i a ha with ⟨a₀, ha₀, hida, -⟩
    rcases hmarks j b hb with ⟨b₀, hb₀, hidb, -⟩
    exact h.unique i j a₀ b₀ ha₀ hb₀ (by rw [hida, hidb, hid])
  marks k entry' hfind := by
    rcases hmarks k entry' hfind with ⟨entry, hentry, hid, hmark⟩
    rw [hqueue, ← hid, ← hmark]
    exact h.marks k entry hentry
  idle := hidle

/-- Another session under a key. -/
theorem keepsMarks_insert (hfind : st.tcpSessions.find? k = some entry) (s : TcpSession)
    (hst' : st'.tcpSessions = st.tcpSessions.insert k { entry with session := s }) :
    KeepsMarks st st' := by
  intro j e he
  rw [hst', OrderedMap.find?_insert] at he
  split at he <;> rename_i hj
  · rw [Option.some.injEq] at he
    rw [hj, ← he]
    exact ⟨entry, hfind, rfl, rfl⟩
  · exact ⟨e, he, rfl, rfl⟩

/-- Erasing a session leaves the marks of the others. -/
theorem keepsMarks_erase (k : Address) (hst' : st'.tcpSessions = st.tcpSessions.erase k) :
    KeepsMarks st st' := by
  intro j e he
  rw [hst', OrderedMap.find?_erase] at he
  split at he
  · contradiction
  · exact ⟨e, he, rfl, rfl⟩

/-- The same entries have the same marks. -/
theorem keepsMarks_refl (hst' : st'.tcpSessions = st.tcpSessions) : KeepsMarks st st' := by
  intro j e he
  rw [hst'] at he
  exact ⟨e, he, rfl, rfl⟩

/-! ## Operations -/

/-- A new session has a new number and no mark. -/
theorem Ordered.createSession (h : Ordered st) (k : Address) (seeds : SessionSeeds) :
    Ordered (st.createSession k seeds) := by
  by_cases hknown : (st.tcpSessions.find? k).isSome = true
  · rcases Option.isSome_iff_exists.mp hknown with ⟨entry, hentry⟩
    refine h.of_keepsMarks (?_ : KeepsMarks st (st.createSession k seeds)) (Nat.le_succ _) rfl
      h.idle
    intro j e he
    rw [find?_createSession, hentry, Option.getD_some] at he
    split at he <;> rename_i hj
    · rw [Option.some.injEq] at he
      rw [hj, ← he]
      exact ⟨entry, hentry, rfl, rfl⟩
    · exact ⟨e, he, rfl, rfl⟩
  · have hfind : ∀ j e, (st.createSession k seeds).tcpSessions.find? j = some e →
        (j = k ∧ e = freshSession k seeds st.created) ∨ st.tcpSessions.find? j = some e := by
      intro j e he
      rw [find?_createSession, Option.not_isSome_iff_eq_none.mp hknown, Option.getD_none] at he
      split at he <;> rename_i hj
      · rw [Option.some.injEq] at he
        exact Or.inl ⟨hj, he.symm⟩
      · exact Or.inr he
    constructor
    · intro j e he
      rcases hfind j e he with ⟨-, rfl⟩ | hold
      · exact Nat.lt_succ_self _
      · exact (h.fresh j e hold).trans (Nat.lt_succ_self _)
    · exact fun id hid => (h.issued id hid).trans (Nat.lt_succ_self _)
    · intro i j a b ha hb hid
      rcases hfind i a ha with ⟨rfl, rfl⟩ | hold
      · rcases hfind j b hb with ⟨rfl, -⟩ | hold'
        · rfl
        · exact absurd hid (h.fresh j b hold').ne'
      · rcases hfind j b hb with ⟨rfl, rfl⟩ | hold'
        · exact absurd hid (h.fresh i a hold).ne
        · exact h.unique i j a b hold hold' hid
    · intro j e he
      rcases hfind j e he with ⟨-, rfl⟩ | hold
      · apply List.count_eq_zero_of_not_mem
        intro hmem
        exact (h.issued _ hmem).ne rfl
      · exact h.marks j e hold
    · exact h.idle

/-- An entry is the one inserted or an older one. -/
theorem find?_insert_cases {j : Address} {e value : StackSession}
    (h : (st.tcpSessions.insert k value).find? j = some e) :
    (j = k ∧ e = value) ∨ (j ≠ k ∧ st.tcpSessions.find? j = some e) := by
  rw [OrderedMap.find?_insert] at h
  split at h <;> rename_i hj
  · rw [Option.some.injEq] at h
    exact Or.inl ⟨hj, h.symm⟩
  · exact Or.inr ⟨hj, h⟩

/-- The mark of one session changes, and its occurrences in the queue with it. -/
theorem Ordered.of_mark (h : Ordered st) (hfind : st.tcpSessions.find? k = some entry)
    {ready : Bool}
    (hentries : st'.tcpSessions = st.tcpSessions.insert k { entry with isInReadyQueue := ready })
    (hcreated : st'.created = st.created)
    (hself : st'.queue.count entry.id = if ready then 1 else 0)
    (hothers : ∀ id, id ≠ entry.id → st'.queue.count id = st.queue.count id)
    (hidle : st'.readyQueue ≠ [] → st'.idleActive = true) : Ordered st' := by
  have hcases : ∀ j e, st'.tcpSessions.find? j = some e →
      (j = k ∧ e = { entry with isInReadyQueue := ready }) ∨
        (j ≠ k ∧ st.tcpSessions.find? j = some e) := by
    intro j e he
    rw [hentries] at he
    exact find?_insert_cases he
  constructor
  · intro j e he
    rw [hcreated]
    rcases hcases j e he with ⟨-, rfl⟩ | ⟨-, hold⟩
    · exact h.fresh k entry hfind
    · exact h.fresh j e hold
  · intro id hid
    rw [hcreated]
    by_cases hsame : id = entry.id
    · rw [hsame]
      exact h.fresh k entry hfind
    · apply h.issued
      rw [← List.count_pos_iff, ← hothers id hsame, List.count_pos_iff]
      exact hid
  · intro i j a b ha hb hid
    rcases hcases i a ha with ⟨rfl, rfl⟩ | ⟨-, hold⟩
    · rcases hcases j b hb with ⟨rfl, -⟩ | ⟨-, hold'⟩
      · rfl
      · exact h.unique _ _ _ _ hfind hold' hid
    · rcases hcases j b hb with ⟨rfl, rfl⟩ | ⟨-, hold'⟩
      · exact h.unique _ _ _ _ hold hfind hid
      · exact h.unique _ _ _ _ hold hold' hid
  · intro j e he
    rcases hcases j e he with ⟨-, rfl⟩ | ⟨hj, hold⟩
    · exact hself
    · rw [hothers]
      · exact h.marks j e hold
      · exact fun hid => hj (h.unique _ _ _ _ hold hfind hid)
  · exact hidle

/-- A trigger appends an unmarked session and marks it. -/
theorem Ordered.triggerEvent (h : Ordered st) (k : Address) : Ordered (st.triggerEvent k) := by
  rw [TcpStack.triggerEvent]
  split
  · rename_i entry hfind
    split <;> rename_i hready
    · exact h
    · have hcount := h.marks k entry hfind
      rw [if_neg hready, queue] at hcount
      refine h.of_mark hfind rfl rfl ?_ ?_ fun _ => rfl
      · change (st.processingBatch ++ (st.readyQueue ++ [entry.id])).count entry.id = 1
        rw [← List.append_assoc, List.count_append, hcount, List.count_singleton_self]
      · intro id hid
        change (st.processingBatch ++ (st.readyQueue ++ [entry.id])).count id = st.queue.count id
        rw [← List.append_assoc, List.count_append, List.count_singleton,
          if_neg (by simpa using hid.symm)]
        rfl
  · exact h

/-- A callback marks the session it appends to the queue. -/
theorem Ordered.runCallback (h : Ordered st) (k : Address) (id : Nat) (call : CallbackCall) :
    Ordered (st.runCallback k id call) := by
  cases call with
  | setOnReceive => exact h.of_keepsMarks (keepsMarks_refl rfl) le_rfl rfl h.idle
  | established => exact h
  | data size => exact h.triggerEvent k
  | closed => exact h.of_keepsMarks (keepsMarks_erase k rfl) le_rfl rfl h.idle

/-- A step of a session keeps the invariant, with all its callbacks. -/
theorem Ordered.commit (h : Ordered st) (hfind : st.tcpSessions.find? k = some entry)
    (s : TcpSession) : Ordered (st.commit k entry s) := by
  have hcalls : ∀ (calls : List CallbackCall) (st : TcpStack), Ordered st →
      Ordered (calls.foldl (TcpStack.runCallback k entry.id) st) := by
    intro calls
    induction calls with
    | nil => exact fun _ h => h
    | cons call calls ih => exact fun st h => ih _ (h.runCallback k entry.id call)
  exact hcalls _ _ (h.of_keepsMarks (keepsMarks_insert hfind s rfl) le_rfl rfl h.idle)

/-- An event of a stored session keeps the invariant. -/
theorem Ordered.stepSession {e : Event} (h : Ordered st) (hstep : st.stepSession k e = some st') :
    Ordered st' := by
  rcases stepSession_eq_some_iff.mp hstep with ⟨entry, s, hfind, -, rfl⟩
  exact h.commit hfind s

/-- A first SYN keeps the invariant. -/
theorem Ordered.openSession {packet : MyuTcpPacket} {seeds : SessionSeeds} {iss : UInt32}
    (h : Ordered st) (hopen : st.openSession k packet seeds iss = some st') : Ordered st' := by
  rw [TcpStack.openSession] at hopen
  rcases Option.bind_eq_some_iff.mp hopen with ⟨st₁, haddr, hrest⟩
  rcases Option.bind_eq_some_iff.mp hrest with ⟨st₂, hlisten, hinput⟩
  exact (((h.createSession k seeds).stepSession haddr).stepSession hlisten).stepSession hinput

/-- A datagram keeps the invariant. -/
theorem Ordered.receive {bytes : List UInt8} {seeds : SessionSeeds} {iss : UInt32}
    (h : Ordered st) (hreceive : st.receive k bytes seeds iss = some st') : Ordered st' := by
  rw [TcpStack.receive] at hreceive
  split at hreceive
  · cases hreceive
    exact h
  · split at hreceive
    · cases hreceive
      exact h
    · exact h.stepSession hreceive
    · contradiction
    · exact h.openSession hreceive
    · cases hreceive
      exact h.of_keepsMarks (keepsMarks_refl rfl) le_rfl rfl h.idle

/-- The batch of the idle callback is the ready queue. -/
theorem Ordered.takeReadyQueue (h : Ordered st) (htake : st.takeReadyQueue = some st') :
    Ordered st' := by
  rw [TcpStack.takeReadyQueue] at htake
  split at htake <;> rename_i hguard
  · rw [Bool.and_eq_true] at hguard
    cases htake
    refine h.of_keepsMarks (keepsMarks_refl rfl) le_rfl ?_ fun hne => absurd rfl hne
    rw [queue, queue, List.isEmpty_iff.mp hguard.2, List.append_nil, List.nil_append]
  · contradiction

/-- The next session loses its mark and its place. -/
theorem Ordered.dispatchNext (h : Ordered st) (hdispatch : st.dispatchNext = some st') :
    Ordered st' := by
  rw [TcpStack.dispatchNext] at hdispatch
  split at hdispatch
  · contradiction
  · rename_i id rest hbatch
    rcases Option.bind_eq_some_iff.mp hdispatch with ⟨k, hkey, hnext⟩
    rcases Option.map_eq_some_iff.mp hnext with ⟨entry, hfind, rfl⟩
    rcases find?_of_keyOf hkey with ⟨entry', hfind', hid⟩
    rw [hfind, Option.some.injEq] at hfind'
    rw [← hfind'] at hid
    have hqueue : st.queue = entry.id :: (rest ++ st.readyQueue) := by
      rw [queue, hbatch, hid]
      rfl
    have hmark := (h.mem_queue_iff hfind).mp (by rw [hqueue]; exact List.mem_cons_self)
    have hcount := h.marks k entry hfind
    rw [hqueue, List.count_cons_self, if_pos hmark] at hcount
    refine h.of_mark hfind rfl rfl ?_ ?_ h.idle
    · exact Nat.succ_injective hcount
    · intro j hj
      rw [hqueue, List.count_cons_of_ne hj.symm]
      rfl

/-- Marks, queue and idle handle agree after every step. -/
theorem queueStep_ordered {ev : QueueEvent} (h : Ordered st) (hstep : queueStep st ev = some st') :
    Ordered st' := by
  cases ev with
  | trigger k =>
      rw [queueStep] at hstep
      split at hstep
      · cases hstep
        exact h.triggerEvent k
      · contradiction
  | stack ev =>
      cases ev with
      | createSession k seeds => cases hstep; exact h.createSession k seeds
      | listen =>
          cases hstep
          exact h.of_keepsMarks (keepsMarks_refl rfl) le_rfl rfl h.idle
      | session k e =>
          change (if _ then _ else _) = _ at hstep
          split at hstep
          · exact h.stepSession hstep
          · contradiction
      | datagram k bytes seeds iss => exact h.receive (receive_of_step hstep).2
      | takeReadyQueue => exact h.takeReadyQueue hstep
      | dispatchNext => exact h.dispatchNext hstep

end Operations

/-! ## Ownership -/

/-- The session that an event reaches, and what happens to it. -/
def target (st : TcpStack) : QueueEvent → Option (Address × Event)
  | .stack (.session k e) => some (k, e)
  | .stack (.datagram k bytes _ iss) =>
      (UdpDriver.onUvRecv bytes).bind fun packet =>
        match st.route k packet with
        | .input j => some (j, .input packet iss)
        | _ => none
  | _ => none

/-- The event ends the connection of a session that waits in the queue: a reset, the last
acknowledgment or the expiry of the 2MSL timer. -/
def EndsQueued (st : TcpStack) (ev : QueueEvent) : Prop :=
  ∃ k e entry, st.target ev = some (k, e) ∧ st.tcpSessions.find? k = some entry ∧
    entry.isInReadyQueue = true ∧ entry.session.Ends e

section Ownership

variable {st st' : TcpStack} {k : Address} {entry : StackSession} {e : Event}

/-- Every session stays, under any key. -/
def KeepsSessions (st st' : TcpStack) : Prop :=
  ∀ k entry, st.tcpSessions.find? k = some entry →
    ∃ entry', st'.tcpSessions.find? k = some entry' ∧ entry'.id = entry.id

/-- The same entries are the same sessions. -/
theorem keepsSessions_refl (hst' : st'.tcpSessions = st.tcpSessions) : KeepsSessions st st' := by
  intro j e he
  rw [← hst'] at he
  exact ⟨e, he, rfl⟩

/-- Changing a session keeps it. -/
theorem keepsSessions_insert (value : StackSession)
    (hfind : st.tcpSessions.find? k = some entry) (hid : value.id = entry.id)
    (hst' : st'.tcpSessions = st.tcpSessions.insert k value) : KeepsSessions st st' := by
  intro j e he
  rw [hst', OrderedMap.find?_insert]
  split <;> rename_i hj
  · rw [hj, hfind, Option.some.injEq] at he
    exact ⟨value, rfl, by rw [hid, he]⟩
  · exact ⟨e, he, rfl⟩

/-- While every session stays, so do those in the queue. -/
theorem QueueOwned.of_keepsSessions (h : QueueOwned st) (hkept : KeepsSessions st st')
    (hqueue : ∀ id ∈ st'.queue, id ∈ st.queue ∨ st.Owns id) : QueueOwned st' := by
  intro id hid
  have howns : st.Owns id := by
    rcases hqueue id hid with hold | howns
    · exact h id hold
    · exact howns
  rcases howns with ⟨k, entry, hfind, rfl⟩
  rcases hkept k entry hfind with ⟨entry', hfind', hsame⟩
  exact ⟨k, entry', hfind', hsame⟩

/-- A trigger queues a session of the stack. -/
theorem QueueOwned.triggerEvent (h : QueueOwned st) (k : Address) :
    QueueOwned (st.triggerEvent k) := by
  rw [TcpStack.triggerEvent]
  split
  · rename_i entry hfind
    split
    · exact h
    · apply h.of_keepsSessions
        (keepsSessions_insert { entry with isInReadyQueue := true } hfind rfl rfl)
      intro id hid
      rw [queue, enqueueReadySession, ← List.append_assoc, List.mem_append,
        List.mem_singleton] at hid
      rcases hid with hold | rfl
      · exact Or.inl hold
      · exact Or.inr ⟨k, entry, hfind, rfl⟩
  · exact h

/-- Callbacks other than that of a closed session keep the owners. -/
theorem QueueOwned.runCallbacks {id : Nat} {calls : List CallbackCall} (h : QueueOwned st)
    (hcalls : .closed ∉ calls) : QueueOwned (calls.foldl (runCallback k id) st) := by
  induction calls generalizing st with
  | nil => exact h
  | cons call calls ih =>
      rw [List.mem_cons, not_or] at hcalls
      rw [List.foldl_cons]
      apply ih _ hcalls.2
      cases call with
      | setOnReceive => exact h.of_keepsSessions (keepsSessions_refl rfl) fun _ => Or.inl
      | established => exact h
      | data size => exact h.triggerEvent k
      | closed => exact absurd rfl hcalls.1

/-- Erasing a session keeps the owners exactly if it was not marked. -/
theorem queueOwned_erase_iff (hordered : Ordered st) (h : QueueOwned st)
    (hfind : st.tcpSessions.find? k = some entry) :
    QueueOwned { st with tcpSessions := st.tcpSessions.erase k } ↔
      ¬ entry.isInReadyQueue = true := by
  rw [← hordered.mem_queue_iff hfind]
  constructor
  · intro howned hmem
    rcases howned _ hmem with ⟨j, e, he, hid⟩
    rw [OrderedMap.find?_erase] at he
    split at he <;> rename_i hj
    · contradiction
    · exact hj (hordered.unique _ _ _ _ he hfind hid)
  · intro hnot id hmem
    rcases h id hmem with ⟨j, e, he, rfl⟩
    have hj : j ≠ k := by
      rintro rfl
      rw [hfind, Option.some.injEq] at he
      rw [he] at hnot
      exact hnot hmem
    exact ⟨j, e, by rw [OrderedMap.find?_erase, if_neg hj]; exact he, rfl⟩

/-- An event of a session leaves the queue without an owner exactly if it ends a marked
session. -/
theorem queueOwned_stepSession_iff (hordered : Ordered st) (h : QueueOwned st)
    (hfind : st.tcpSessions.find? k = some entry) (hstep : st.stepSession k e = some st') :
    QueueOwned st' ↔ ¬ (entry.isInReadyQueue = true ∧ entry.session.Ends e) := by
  rcases stepSession_eq_some_iff.mp hstep with ⟨entry', s, hfind', hs, rfl⟩
  rw [hfind, Option.some.injEq] at hfind'
  subst hfind'
  have hstored : QueueOwned { st with
      tcpSessions := st.tcpSessions.insert k { entry with session := s }
      sent := st.sent ++ TcpSession.newDatagrams entry.session s } :=
    h.of_keepsSessions (keepsSessions_insert { entry with session := s } hfind rfl rfl)
      fun _ => Or.inl
  by_cases hends : entry.session.Ends e
  · have hordered' : Ordered { st with
        tcpSessions := st.tcpSessions.insert k { entry with session := s }
        sent := st.sent ++ TcpSession.newDatagrams entry.session s } :=
      hordered.of_keepsMarks (keepsMarks_insert hfind s rfl) le_rfl rfl hordered.idle
    rw [commit, TcpSession.newCalls_of_append (TcpSession.calls_of_ends hends hs).1]
    refine (queueOwned_erase_iff hordered' hstored (OrderedMap.find?_insert_self _ _ _)).trans ?_
    simp [hends]
  · rcases TcpSession.calls_of_not_ends hends hs with ⟨l, hl, hmutes⟩
    rw [commit, TcpSession.newCalls_of_append hl]
    exact iff_of_true (hstored.runCallbacks hmutes.1) fun hboth => hends hboth.2

/-- A new session takes the place of no other one. -/
theorem QueueOwned.createSession (h : QueueOwned st) (k : Address) (seeds : SessionSeeds) :
    QueueOwned (st.createSession k seeds) := by
  refine h.of_keepsSessions (?_ : KeepsSessions st (st.createSession k seeds)) fun _ => Or.inl
  intro j e he
  rw [find?_createSession]
  split <;> rename_i hj
  · rw [hj] at he
    rw [he]
    exact ⟨e, rfl, rfl⟩
  · exact ⟨e, he, rfl⟩

/-- A packet with SYN alone ends no connection. -/
theorem not_ends_of_syn {packet : MyuTcpPacket} {iss : UInt32} {s : TcpSession}
    (hflags : packet.header.flags = flagSyn) : ¬ s.Ends (.input packet iss) := by
  rintro (⟨-, hrst⟩ | ⟨-, -, hack, -⟩)
  · rw [MyuTcpPacket.has, hflags] at hrst
    contradiction
  · rw [MyuTcpPacket.has, hflags] at hack
    contradiction

/-- An event that does not end the session erases nothing. -/
theorem QueueOwned.stepSession (hordered : Ordered st) (h : QueueOwned st)
    (hends : ∀ s : TcpSession, ¬ s.Ends e) (hstep : st.stepSession k e = some st') :
    QueueOwned st' := by
  rcases stepSession_eq_some_iff.mp hstep with ⟨entry, s, hfind, -, -⟩
  exact (queueOwned_stepSession_iff hordered h hfind hstep).mpr fun hboth => hends _ hboth.2

/-- A first SYN erases nothing. -/
theorem QueueOwned.openSession {packet : MyuTcpPacket} {seeds : SessionSeeds} {iss : UInt32}
    (hordered : Ordered st) (h : QueueOwned st) (hflags : packet.header.flags = flagSyn)
    (hopen : st.openSession k packet seeds iss = some st') : QueueOwned st' := by
  rw [TcpStack.openSession] at hopen
  rcases Option.bind_eq_some_iff.mp hopen with ⟨st₁, haddr, hrest⟩
  rcases Option.bind_eq_some_iff.mp hrest with ⟨st₂, hlisten, hinput⟩
  have hcreated := hordered.createSession k seeds
  have howned₁ := (h.createSession k seeds).stepSession hcreated (fun _ => id) haddr
  have hordered₁ := hcreated.stepSession haddr
  have howned₂ := howned₁.stepSession hordered₁ (fun _ => id) hlisten
  exact howned₂.stepSession (hordered₁.stepSession hlisten) (fun _ => not_ends_of_syn hflags) hinput

/-- Which events end a session that waits in the queue. -/
theorem endsQueued_iff_of_target {ev : QueueEvent} (htarget : st.target ev = some (k, e))
    (hfind : st.tcpSessions.find? k = some entry) :
    st.EndsQueued ev ↔ entry.isInReadyQueue = true ∧ entry.session.Ends e := by
  constructor
  · rintro ⟨j, e', entry', htarget', hfind', hends⟩
    rw [htarget, Option.some.injEq, Prod.mk.injEq] at htarget'
    rw [← htarget'.1, hfind, Option.some.injEq] at hfind'
    rwa [hfind', htarget'.2]
  · exact fun hends => ⟨k, e, entry, htarget, hfind, hends⟩

/-- An event without a session ends none. -/
theorem not_endsQueued_of_target {ev : QueueEvent} (htarget : st.target ev = none) :
    ¬ st.EndsQueued ev := by
  rintro ⟨j, e, entry, hsome, -⟩
  rw [htarget] at hsome
  contradiction

/-- A dispatch removes a session from the batch and erases none. -/
theorem QueueOwned.dispatchNext (h : QueueOwned st) (hdispatch : st.dispatchNext = some st') :
    QueueOwned st' := by
  rw [TcpStack.dispatchNext] at hdispatch
  split at hdispatch
  · contradiction
  · rename_i id rest hbatch
    rcases Option.bind_eq_some_iff.mp hdispatch with ⟨k, -, hnext⟩
    rcases Option.map_eq_some_iff.mp hnext with ⟨entry, hfind, rfl⟩
    apply h.of_keepsSessions
      (keepsSessions_insert { entry with isInReadyQueue := false } hfind rfl rfl)
    intro j hj
    rw [queue, hbatch]
    exact Or.inl (List.mem_cons_of_mem _ hj)

/-- The queue becomes the batch. -/
theorem QueueOwned.takeReadyQueue (h : QueueOwned st) (htake : st.takeReadyQueue = some st') :
    QueueOwned st' := by
  rw [TcpStack.takeReadyQueue] at htake
  split at htake
  · cases htake
    have hkept : KeepsSessions st { st with
        idleActive := false, processingBatch := st.readyQueue, readyQueue := [] } :=
      keepsSessions_refl rfl
    apply h.of_keepsSessions hkept
    intro id hid
    rw [queue, List.append_nil] at hid
    exact Or.inl (List.mem_append_right _ hid)
  · contradiction

/-- A datagram ends a marked session, or keeps the owners. -/
theorem queueOwned_receive_iff {bytes : List UInt8} {seeds : SessionSeeds} {iss : UInt32}
    (hordered : Ordered st) (h : QueueOwned st)
    (hreceive : st.receive k bytes seeds iss = some st') :
    QueueOwned st' ↔ ¬ st.EndsQueued (.stack (.datagram k bytes seeds iss)) := by
  rw [TcpStack.receive] at hreceive
  cases hparse : UdpDriver.onUvRecv bytes with
  | none =>
      rw [hparse] at hreceive
      cases hreceive
      refine iff_of_true h (not_endsQueued_of_target ?_)
      rw [target, hparse, Option.bind_none]
  | some packet =>
      rw [hparse] at hreceive
      dsimp only at hreceive
      cases hroute : st.route k packet with
      | drop =>
          rw [hroute] at hreceive
          cases hreceive
          refine iff_of_true h (not_endsQueued_of_target ?_)
          rw [target, hparse, Option.bind_some, hroute]
      | input j =>
          rw [hroute] at hreceive
          rcases stepSession_eq_some_iff.mp hreceive with ⟨entry, s, hfind, -, -⟩
          have htarget : st.target (.stack (.datagram k bytes seeds iss)) =
              some (j, .input packet iss) := by
            rw [target, hparse, Option.bind_some, hroute]
          rw [endsQueued_iff_of_target htarget hfind]
          exact queueOwned_stepSession_iff hordered h hfind hreceive
      | dangling =>
          rw [hroute] at hreceive
          contradiction
      | openSession =>
          rw [hroute] at hreceive
          have hflags := (route_openSession hroute).2
          refine iff_of_true (h.openSession hordered hflags hreceive) (not_endsQueued_of_target ?_)
          rw [target, hparse, Option.bind_some, hroute]
      | reset =>
          rw [hroute] at hreceive
          cases hreceive
          have howned : QueueOwned { st with
              sent := st.sent ++
                [{ packet := resetPacket, destIp := k.ip, destPort := k.port }] } :=
            h.of_keepsSessions (keepsSessions_refl rfl) fun _ => Or.inl
          refine iff_of_true howned (not_endsQueued_of_target ?_)
          rw [target, hparse, Option.bind_some, hroute]

/-- A step leaves a session without an owner in the queue exactly when it ends a marked one. -/
theorem owned_queueStep_iff {ev : QueueEvent} (hordered : Ordered st) (h : QueueOwned st)
    (hstep : queueStep st ev = some st') : QueueOwned st' ↔ ¬ st.EndsQueued ev := by
  cases ev with
  | trigger k =>
      rw [queueStep] at hstep
      split at hstep
      · cases hstep
        exact iff_of_true (h.triggerEvent k) (not_endsQueued_of_target rfl)
      · contradiction
  | stack ev =>
      cases ev with
      | createSession k seeds =>
          cases hstep
          exact iff_of_true (h.createSession k seeds) (not_endsQueued_of_target rfl)
      | listen =>
          cases hstep
          exact iff_of_true (h.of_keepsSessions (keepsSessions_refl rfl) fun _ => Or.inl)
            (not_endsQueued_of_target rfl)
      | session k e =>
          change (if _ then _ else _) = _ at hstep
          split at hstep
          · rcases stepSession_eq_some_iff.mp hstep with ⟨entry, s, hfind, -, -⟩
            rw [endsQueued_iff_of_target rfl hfind]
            exact queueOwned_stepSession_iff hordered h hfind hstep
          · contradiction
      | datagram k bytes seeds iss =>
          exact queueOwned_receive_iff hordered h (receive_of_step hstep).2
      | takeReadyQueue =>
          exact iff_of_true (h.takeReadyQueue hstep) (not_endsQueued_of_target rfl)
      | dispatchNext =>
          exact iff_of_true (h.dispatchNext hstep) (not_endsQueued_of_target rfl)

end Ownership

end TcpStack

end MyuTcp
