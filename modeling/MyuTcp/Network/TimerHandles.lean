import MyuTcp.Library.Lookups
import MyuTcp.Library.TransitionSystem
import MyuTcp.Network.TimerManager

/-!
# Timer handles

The {lit}`TimerManager` of {lit}`src/network/TimerManager.cpp` with its pointers.  A handle is a
cell that {lit}`start_timer` allocates, its pointer is its index among all cells allocated so far,
and {lit}`timers_` maps a sequence number to a pointer.  A cell stays when it leaves the map, so
that an active timer which the map has lost would still be seen.

Main results:

- Theorem {lit}`Tracked.apply`: every call keeps all active handles in the map.
- Theorems {lit}`cutsBelow_stopTimersUpTo` and {lit}`cutsBelow_dropTimerUpTo`: what the bounded
  operations do to the handles.
-/

namespace MyuTcp

open Library

/-- A libuv timer handle with what its callback captures. -/
structure UvHandle (κ : Type) where
  seqNum : UInt32
  timeoutMs : UInt64
  callback : κ
  active : Bool
  closing : Bool

/-- The manager, and the handles that it has allocated. -/
structure TimerHandles (κ : Type) where
  handles : List (UvHandle κ)
  timers : OrderedMap UInt32 Nat
  twoMslActive : Bool

/-- A call of one of the operations, or a start or stop of the 2MSL timer. -/
inductive TimerCall (κ : Type)
  | startTimer (seqNum : UInt32) (timeoutMs : UInt64) (callback : κ)
  | stopTimer (seqNum : UInt32)
  | dropTimer (seqNum : UInt32)
  | stopTimersUpTo (ackNum : UInt32)
  | dropTimerUpTo (ackNum : UInt32)
  | stopAllTimers
  | dropAllTimers
  | start2Msl
  | stop2Msl

/-- A call from outside, or the expiry of a handle, whose callback makes calls of its own.  In the
middle of a callback it has made fewer of them. -/
inductive TimerEvent (κ : Type)
  | call (c : TimerCall κ)
  | expire (pointer : Nat) (calls : List (TimerCall κ))

/-- {lit}`uv_timer_stop`. -/
def UvHandle.stopped {κ : Type} (t : UvHandle κ) : UvHandle κ := { t with active := false }

/-- {lit}`uv_close`, which stops the timer too. -/
def UvHandle.closed {κ : Type} (t : UvHandle κ) : UvHandle κ :=
  { t with active := false, closing := true }

namespace TimerHandles

variable {κ : Type}

/-- A manager without handles. -/
def init : TimerHandles κ where
  handles := []
  timers := OrderedMap.empty
  twoMslActive := false

/-- {lit}`uv_timer_stop` on a pointer. -/
def uvTimerStop (m : TimerHandles κ) (pointer : Nat) : TimerHandles κ :=
  { m with handles := m.handles.modify pointer UvHandle.stopped }

/-- {lit}`uv_close` on a pointer. -/
def uvClose (m : TimerHandles κ) (pointer : Nat) : TimerHandles κ :=
  { m with handles := m.handles.modify pointer UvHandle.closed }

/-- {lit}`stop_timer`: the handle stops and stays in the map. -/
def stopTimer (m : TimerHandles κ) (seqNum : UInt32) : TimerHandles κ :=
  match m.timers.find? seqNum with
  | some timer => m.uvTimerStop timer
  | none => m

/-- Stop and close the handle of one entry, and erase the entry. -/
def dropEntry (m : TimerHandles κ) (entry : UInt32 × Nat) : TimerHandles κ :=
  { (m.uvTimerStop entry.2).uvClose entry.2 with timers := m.timers.erase entry.1 }

/-- {lit}`drop_timer`: the handle closes and leaves the map. -/
def dropTimer (m : TimerHandles κ) (seqNum : UInt32) : TimerHandles κ :=
  match m.timers.find? seqNum with
  | some timer => m.dropEntry (seqNum, timer)
  | none => m

/-- The loop visits every entry once and erases it. -/
def dropAllTimers (m : TimerHandles κ) : TimerHandles κ :=
  m.timers.entries.foldl dropEntry m

/-- The rounds of {lit}`drop_timer_up_to`, each with the first entry that is left. -/
def dropRounds (ackNum : UInt32) : List (UInt32 × Nat) → TimerHandles κ → TimerHandles κ
  | [], m => m
  | (seqNum, _) :: rest, m =>
      if seqNum ≥ ackNum then m else dropRounds ackNum rest (m.dropTimer seqNum)

/-- {lit}`drop_timer_up_to`: entries are dropped from the front of the map while they are below
the number. -/
def dropTimerUpTo (m : TimerHandles κ) (ackNum : UInt32) : TimerHandles κ :=
  dropRounds ackNum m.timers.entries m

/-- Stop the handles of some entries. -/
def stopEntries (m : TimerHandles κ) (entries : List (UInt32 × Nat)) : TimerHandles κ :=
  entries.foldl (fun m entry => m.uvTimerStop entry.2) m

/-- The entries before {lit}`lower_bound(ack_num)`. -/
def stopTimersUpTo (m : TimerHandles κ) (ackNum : UInt32) : TimerHandles κ :=
  m.stopEntries (m.timers.entries.takeWhile fun entry => entry.1 < ackNum)

/-- A new handle is allocated, started and stored.  What the map held before stays behind. -/
def startTimer (m : TimerHandles κ) (seqNum : UInt32) (timeoutMs : UInt64) (callback : κ) :
    TimerHandles κ :=
  let m := if (m.timers.find? seqNum).isSome then m.stopTimer seqNum else m
  { m with
    handles := m.handles ++ [⟨seqNum, timeoutMs, callback, true, false⟩]
    timers := m.timers.insert seqNum m.handles.length }

/-- {lit}`stop_all_timers`, the 2MSL timer included. -/
def stopAllTimers (m : TimerHandles κ) : TimerHandles κ :=
  { m.stopEntries m.timers.entries with twoMslActive := false }

/-- {lit}`start_2msl_timer`. -/
def start2Msl (m : TimerHandles κ) : TimerHandles κ := { m with twoMslActive := true }

/-- {lit}`stop_2msl_timer`. -/
def stop2Msl (m : TimerHandles κ) : TimerHandles κ := { m with twoMslActive := false }

/-- The call on the manager. -/
def apply (m : TimerHandles κ) : TimerCall κ → TimerHandles κ
  | .startTimer seqNum timeoutMs callback => m.startTimer seqNum timeoutMs callback
  | .stopTimer seqNum => m.stopTimer seqNum
  | .dropTimer seqNum => m.dropTimer seqNum
  | .stopTimersUpTo ackNum => m.stopTimersUpTo ackNum
  | .dropTimerUpTo ackNum => m.dropTimerUpTo ackNum
  | .stopAllTimers => m.stopAllTimers
  | .dropAllTimers => m.dropAllTimers
  | .start2Msl => m.start2Msl
  | .stop2Msl => m.stop2Msl

/-- A timer fires only while it is active, and is inactive when its callback runs. -/
def step : StepFn (TimerHandles κ) (TimerEvent κ)
  | m, .call c => some (m.apply c)
  | m, .expire pointer calls =>
      if m.handles[pointer]?.any UvHandle.active then
        some (calls.foldl apply (m.uvTimerStop pointer))
      else none

/-- Stopping a timer leaves the map as it is. -/
@[simp]
theorem stopTimer_timers (m : TimerHandles κ) (seqNum : UInt32) :
    (m.stopTimer seqNum).timers = m.timers := by
  rw [stopTimer]
  split <;> rfl

/-- No handle is freed. -/
@[simp]
theorem stopTimer_length (m : TimerHandles κ) (seqNum : UInt32) :
    (m.stopTimer seqNum).handles.length = m.handles.length := by
  rw [stopTimer]
  split
  · exact List.length_modify _ _ _
  · rfl

/-! ## The loops -/

section Loops

variable {m : TimerHandles κ} {entries : List (UInt32 × Nat)}

/-- Stopping entries touches their handles only. -/
theorem stopEntries_handles (m : TimerHandles κ) (entries : List (UInt32 × Nat)) (p : Nat) :
    (m.stopEntries entries).handles[p]? =
      m.handles[p]?.map fun t => if p ∈ entries.map Prod.snd then t.stopped else t := by
  induction entries generalizing m with
  | nil => simp [stopEntries]
  | cons entry rest ih =>
      rw [stopEntries, List.foldl_cons, ← stopEntries, ih, uvTimerStop, List.getElem?_modify]
      cases m.handles[p]? with
      | none => rfl
      | some t =>
          by_cases hp : entry.2 = p
          · simp [hp, UvHandle.stopped]
          · simp [hp, Ne.symm hp]

/-- Stopping many timers leaves the map as it is. -/
@[simp]
theorem stopEntries_timers (m : TimerHandles κ) (entries : List (UInt32 × Nat)) :
    (m.stopEntries entries).timers = m.timers := by
  induction entries generalizing m with
  | nil => rfl
  | cons entry rest ih =>
      rw [stopEntries, List.foldl_cons, ← stopEntries, ih]
      rfl

/-- The 2MSL timer is not among them. -/
@[simp]
theorem stopEntries_twoMslActive (m : TimerHandles κ) (entries : List (UInt32 × Nat)) :
    (m.stopEntries entries).twoMslActive = m.twoMslActive := by
  induction entries generalizing m with
  | nil => rfl
  | cons entry rest ih =>
      rw [stopEntries, List.foldl_cons, ← stopEntries, ih]
      rfl

/-- Dropping entries closes their handles. -/
theorem dropEntries_handles (m : TimerHandles κ) (entries : List (UInt32 × Nat)) (p : Nat) :
    (entries.foldl dropEntry m).handles[p]? =
      m.handles[p]?.map fun t => if p ∈ entries.map Prod.snd then t.closed else t := by
  induction entries generalizing m with
  | nil => simp
  | cons entry rest ih =>
      rw [List.foldl_cons, ih, dropEntry, uvClose, uvTimerStop, List.getElem?_modify,
        List.getElem?_modify]
      cases m.handles[p]? with
      | none => rfl
      | some t =>
          by_cases hp : entry.2 = p
          · simp [hp, UvHandle.stopped, UvHandle.closed]
          · simp [hp, Ne.symm hp]

/-- Dropping entries erases their keys. -/
theorem dropEntries_timers (m : TimerHandles κ) (entries : List (UInt32 × Nat)) (k : UInt32) :
    (entries.foldl dropEntry m).timers.find? k =
      if k ∈ entries.map Prod.fst then none else m.timers.find? k := by
  induction entries generalizing m with
  | nil => simp
  | cons entry rest ih =>
      rw [List.foldl_cons, ih, dropEntry, OrderedMap.find?_erase]
      by_cases hk : k = entry.1
      · rw [if_pos hk, ite_self, if_pos (hk ▸ List.mem_cons_self)]
      · simp only [List.map_cons, List.mem_cons, hk, false_or, if_false]

/-- Dropping entries leaves the 2MSL timer as it is. -/
@[simp]
theorem dropEntries_twoMslActive (m : TimerHandles κ) (entries : List (UInt32 × Nat)) :
    (entries.foldl dropEntry m).twoMslActive = m.twoMslActive := by
  induction entries generalizing m with
  | nil => rfl
  | cons entry rest ih =>
      rw [List.foldl_cons, ih]
      rfl

/-- The rounds of {lit}`drop_timer_up_to` drop the entries before the bound. -/
theorem dropRounds_eq {ackNum : UInt32} (hsorted : entries.Pairwise fun a b => a.1 < b.1)
    (hstored : ∀ entry ∈ entries, m.timers.find? entry.1 = some entry.2) :
    dropRounds ackNum entries m =
      (entries.takeWhile fun entry => entry.1 < ackNum).foldl dropEntry m := by
  induction entries generalizing m with
  | nil => rfl
  | cons entry rest ih =>
      rw [List.pairwise_cons] at hsorted
      rw [dropRounds]
      split <;> rename_i hbound
      · rw [List.takeWhile_cons_of_neg (by simpa using hbound)]
        rfl
      · have hdrop : m.dropTimer entry.1 = m.dropEntry entry := by
          rw [dropTimer, hstored entry List.mem_cons_self]
        rw [List.takeWhile_cons_of_pos (by simpa using hbound), List.foldl_cons, hdrop]
        refine ih hsorted.2 ?_
        intro other hother
        have hne : other.1 ≠ entry.1 := (hsorted.1 other hother).ne'
        rw [dropEntry, OrderedMap.find?_erase, if_neg hne]
        exact hstored other (List.mem_cons_of_mem _ hother)

/-- The loop drops the entries below the number, in the order of the map. -/
theorem dropTimerUpTo_eq_foldl (m : TimerHandles κ) (ackNum : UInt32) :
    m.dropTimerUpTo ackNum =
      (m.timers.entries.takeWhile fun entry => entry.1 < ackNum).foldl dropEntry m :=
  dropRounds_eq m.timers.sorted fun _ hentry => OrderedMap.find?_of_mem_entries hentry

end Loops

/-! ## Active timers are in the map -/

/-- The map points at handles of its keys that are not closed, and at every active handle. -/
structure Tracked (m : TimerHandles κ) : Prop where
  stored : ∀ k p, m.timers.find? k = some p →
    ∃ t, m.handles[p]? = some t ∧ t.seqNum = k ∧ t.closing = false
  active : ∀ (p : Nat) (t : UvHandle κ), m.handles[p]? = some t → t.active = true →
    m.timers.find? t.seqNum = some p

section Tracked

variable {m m' : TimerHandles κ} {entries : List (UInt32 × Nat)} {p q : Nat} {t u : UvHandle κ}
  {ackNum : UInt32}

/-- A new manager has no timers. -/
theorem tracked_init : Tracked (init : TimerHandles κ) where
  stored k p hp := by
    rw [init, OrderedMap.find?_empty] at hp
    contradiction
  active p t ht := by simp [init] at ht

/-- At most one handle of a number is active. -/
theorem Tracked.unique (h : Tracked m) (hp : m.handles[p]? = some t) (ht : t.active = true)
    (hq : m.handles[q]? = some u) (hu : u.active = true) (heq : t.seqNum = u.seqNum) :
    p = q := by
  have hstored := h.active p t hp ht
  rw [heq, h.active q u hq hu, Option.some.injEq] at hstored
  exact hstored.symm

/-- Handles that are stopped stay where they are. -/
theorem Tracked.of_stopped (h : Tracked m) (htimers : m'.timers = m.timers) {P : Nat → Prop}
    [DecidablePred P]
    (hhandles : ∀ p, m'.handles[p]? = m.handles[p]?.map fun t => if P p then t.stopped else t) :
    Tracked m' := by
  constructor
  · intro k p hp
    rw [htimers] at hp
    rcases h.stored k p hp with ⟨t, ht, hseq, hclosing⟩
    rw [hhandles, ht]
    refine ⟨_, rfl, ?_⟩
    split
    · exact ⟨hseq, hclosing⟩
    · exact ⟨hseq, hclosing⟩
  · intro p t' ht' hactive
    rw [hhandles] at ht'
    rcases Option.map_eq_some_iff.mp ht' with ⟨t, ht, heq⟩
    split at heq
    · rw [← heq] at hactive
      contradiction
    · rw [htimers, ← heq]
      exact h.active p t ht (heq ▸ hactive)

/-- Stopping timers loses no handle. -/
theorem Tracked.stopEntries (h : Tracked m) (entries : List (UInt32 × Nat)) :
    Tracked (m.stopEntries entries) :=
  h.of_stopped (m.stopEntries_timers entries) (m.stopEntries_handles entries)

/-- Stopping one handle loses none. -/
theorem Tracked.uvTimerStop (h : Tracked m) (p : Nat) : Tracked (m.uvTimerStop p) :=
  h.stopEntries [(0, p)]

/-- Stopping the timer of a number loses no handle. -/
theorem Tracked.stopTimer (h : Tracked m) (seqNum : UInt32) : Tracked (m.stopTimer seqNum) := by
  rw [TimerHandles.stopTimer]
  split
  · exact h.uvTimerStop _
  · exact h

/-- Among stored entries, one has the pointer of a key exactly when it has the key. -/
theorem Tracked.mem_pointers_iff (h : Tracked m)
    (hentries : ∀ entry ∈ entries, m.timers.find? entry.1 = some entry.2) {k : UInt32}
    (hp : m.timers.find? k = some p) : p ∈ entries.map Prod.snd ↔ k ∈ entries.map Prod.fst := by
  rw [List.mem_map, List.mem_map]
  constructor
  · rintro ⟨entry, hentry, rfl⟩
    rcases h.stored k _ hp with ⟨t, ht, hseq, -⟩
    rcases h.stored entry.1 _ (hentries entry hentry) with ⟨t', ht', hseq', -⟩
    rw [ht, Option.some.injEq] at ht'
    exact ⟨entry, hentry, by rw [← hseq', ← ht', hseq]⟩
  · rintro ⟨entry, hentry, rfl⟩
    rw [hentries entry hentry, Option.some.injEq] at hp
    exact ⟨entry, hentry, hp⟩

/-- Entries that are dropped take their handles with them. -/
theorem Tracked.dropEntries (h : Tracked m)
    (hentries : ∀ entry ∈ entries, m.timers.find? entry.1 = some entry.2) :
    Tracked (entries.foldl dropEntry m) := by
  constructor
  · intro k p hp
    rw [dropEntries_timers] at hp
    split at hp <;> rename_i hk
    · contradiction
    rcases h.stored k p hp with ⟨t, ht, hseq, hclosing⟩
    have hkept : p ∉ entries.map Prod.snd := mt (h.mem_pointers_iff hentries hp).mp hk
    refine ⟨t, ?_, hseq, hclosing⟩
    rw [dropEntries_handles, ht, Option.map_some, if_neg hkept]
  · intro p t' ht' hactive
    rw [dropEntries_handles] at ht'
    rcases Option.map_eq_some_iff.mp ht' with ⟨t, ht, heq⟩
    split at heq <;> rename_i hp
    · rw [← heq] at hactive
      contradiction
    subst heq
    have hstored := h.active p t ht hactive
    rw [dropEntries_timers, if_neg (mt (h.mem_pointers_iff hentries hstored).mpr hp)]
    exact hstored

/-- The entry that was found is in the map. -/
theorem find?_of_mem_singleton {k : UInt32} (hfind : m.timers.find? k = some p) :
    ∀ entry ∈ [(k, p)], m.timers.find? entry.1 = some entry.2 := by
  intro entry hentry
  rw [List.mem_singleton.mp hentry, hfind]

/-- Dropping the timer of a number stops its handle first. -/
theorem Tracked.dropTimer (h : Tracked m) (seqNum : UInt32) : Tracked (m.dropTimer seqNum) := by
  rw [TimerHandles.dropTimer]
  split <;> rename_i hfind
  · exact h.dropEntries (find?_of_mem_singleton hfind)
  · exact h

/-- A stopped timer is started again under a new handle. -/
theorem startTimer_eq (m : TimerHandles κ) (seqNum : UInt32) (timeoutMs : UInt64) (callback : κ) :
    m.startTimer seqNum timeoutMs callback =
      { m.stopTimer seqNum with
        handles := (m.stopTimer seqNum).handles ++ [⟨seqNum, timeoutMs, callback, true, false⟩]
        timers := m.timers.insert seqNum m.handles.length } := by
  have hstop : (if (m.timers.find? seqNum).isSome then m.stopTimer seqNum else m) =
      m.stopTimer seqNum := by
    rw [stopTimer]
    cases m.timers.find? seqNum <;> rfl
  rw [startTimer, hstop]
  dsimp only
  rw [stopTimer_timers, stopTimer_length]

/-- After {lit}`stop_timer` no handle of the number is active. -/
theorem Tracked.not_active_stopTimer (h : Tracked m) {seqNum : UInt32}
    (ht : (m.stopTimer seqNum).handles[p]? = some t) (heq : t.seqNum = seqNum) :
    t.active = false := by
  by_contra hactive
  rw [Bool.not_eq_false] at hactive
  have hstored := (h.stopTimer seqNum).active p t ht hactive
  rw [stopTimer_timers, heq] at hstored
  rw [TimerHandles.stopTimer, hstored] at ht
  dsimp only at ht
  rw [TimerHandles.uvTimerStop, List.getElem?_modify_eq] at ht
  rcases Option.map_eq_some_iff.mp ht with ⟨u, -, hu⟩
  rw [← hu] at hactive
  contradiction

/-- A new handle takes the place of the one that its number had. -/
theorem Tracked.startTimer (h : Tracked m) (seqNum : UInt32) (timeoutMs : UInt64) (callback : κ) :
    Tracked (m.startTimer seqNum timeoutMs callback) := by
  have hstop := h.stopTimer seqNum
  have hsilent : ∀ (p : Nat) (t : UvHandle κ), (m.stopTimer seqNum).handles[p]? = some t →
      t.seqNum = seqNum → t.active = false := fun p t => h.not_active_stopTimer
  rw [startTimer_eq, ← m.stopTimer_timers seqNum, ← m.stopTimer_length seqNum]
  generalize m.stopTimer seqNum = s at hstop hsilent
  constructor
  · intro k p hp
    rw [OrderedMap.find?_insert] at hp
    split at hp <;> rename_i hk
    · cases hp
      exact ⟨_, List.getElem?_concat_length, hk.symm, rfl⟩
    · rcases hstop.stored k p hp with ⟨t, ht, hseq, hclosing⟩
      refine ⟨t, ?_, hseq, hclosing⟩
      rw [List.getElem?_append_left (List.getElem?_eq_some_iff.mp ht).1]
      exact ht
  · intro p t ht hactive
    rw [OrderedMap.find?_insert]
    rcases getElem?_concat_eq_some.mp ht with hold | ⟨rfl, rfl⟩
    · have hne : t.seqNum ≠ seqNum := by
        intro heq
        rw [hsilent p t hold heq] at hactive
        contradiction
      rw [if_neg hne]
      exact hstop.active p t hold hactive
    · exact if_pos rfl

/-- The entries that the loop visits are in the map. -/
theorem find?_of_mem_takeWhile {entry : UInt32 × Nat}
    (hentry : entry ∈ m.timers.entries.takeWhile fun entry => entry.1 < ackNum) :
    m.timers.find? entry.1 = some entry.2 :=
  OrderedMap.find?_of_mem_entries (OrderedMap.mem_takeWhile_entries.mp hentry).1

/-- Map and handles alone are tracked. -/
theorem Tracked.of_handles (h : Tracked m) (htimers : m'.timers = m.timers)
    (hhandles : m'.handles = m.handles) : Tracked m' := by
  constructor
  · rw [htimers, hhandles]
    exact h.stored
  · rw [htimers, hhandles]
    exact h.active

/-- Every call keeps the active handles in the map. -/
theorem Tracked.apply (h : Tracked m) (c : TimerCall κ) : Tracked (m.apply c) := by
  cases c with
  | startTimer seqNum timeoutMs callback => exact h.startTimer seqNum timeoutMs callback
  | stopTimer seqNum => exact h.stopTimer seqNum
  | dropTimer seqNum => exact h.dropTimer seqNum
  | stopTimersUpTo ackNum => exact h.stopEntries _
  | dropTimerUpTo ackNum =>
      change Tracked (m.dropTimerUpTo ackNum)
      rw [dropTimerUpTo_eq_foldl]
      exact h.dropEntries fun _ => find?_of_mem_takeWhile
  | stopAllTimers => exact (h.stopEntries m.timers.entries).of_handles rfl rfl
  | dropAllTimers => exact h.dropEntries fun _ => OrderedMap.find?_of_mem_entries
  | start2Msl => exact h.of_handles rfl rfl
  | stop2Msl => exact h.of_handles rfl rfl

/-- Any number of calls loses no handle. -/
theorem Tracked.calls (h : Tracked m) (calls : List (TimerCall κ)) :
    Tracked (calls.foldl TimerHandles.apply m) := by
  induction calls generalizing m with
  | nil => exact h
  | cons c rest ih => exact ih (h.apply c)

/-- A step keeps the active handles in the map, whatever the callback of an expiry calls. -/
theorem Tracked.step {e : TimerEvent κ} (h : Tracked m) (hstep : step m e = some m') :
    Tracked m' := by
  cases e with
  | call c =>
      cases hstep
      exact h.apply c
  | expire p calls =>
      rw [TimerHandles.step] at hstep
      split at hstep
      · cases hstep
        exact (h.uvTimerStop p).calls calls
      · contradiction

/-- In every run each active handle is in the map. -/
theorem tracked_run {es : List (TimerEvent κ)} (h : TimerHandles.step.run init es = some m) :
    Tracked m :=
  (StepFn.reachable_of_run_true h).invariant tracked_init fun _ _ _ hs _ hstep => hs.step hstep

/-! ## The bounded operations -/

/-- The handles with a number below the bound are inactive, the others as they were. -/
structure CutsBelow (ackNum : UInt32) (m m' : TimerHandles κ) : Prop where
  created : m'.handles.length = m.handles.length
  below : ∀ (p : Nat) (t : UvHandle κ), m.handles[p]? = some t → t.seqNum < ackNum →
    ∃ t' : UvHandle κ, m'.handles[p]? = some t' ∧ t'.seqNum = t.seqNum ∧ t'.active = false
  above : ∀ (p : Nat) (t : UvHandle κ), m.handles[p]? = some t → ackNum ≤ t.seqNum →
    m'.handles[p]? = some t
  stored : ∀ k, ackNum ≤ k → m'.timers.find? k = m.timers.find? k

/-- The pointers of the entries before the bound: those of all active handles below it, and of no
handle from it on. -/
theorem Tracked.pointer_below (h : Tracked m) (ht : m.handles[p]? = some t) :
    (t.active = true → t.seqNum < ackNum →
        p ∈ (m.timers.entries.takeWhile fun entry => entry.1 < ackNum).map Prod.snd) ∧
      (ackNum ≤ t.seqNum →
        p ∉ (m.timers.entries.takeWhile fun entry => entry.1 < ackNum).map Prod.snd) := by
  constructor
  · intro hactive hlt
    have hstored := h.active p t ht hactive
    refine List.mem_map.mpr ⟨(t.seqNum, p), ?_, rfl⟩
    exact OrderedMap.mem_takeWhile_entries.mpr ⟨OrderedMap.mem_entries_iff.mpr hstored, hlt⟩
  · rintro hle hmem
    rcases List.mem_map.mp hmem with ⟨entry, hentry, rfl⟩
    rcases h.stored _ _ (find?_of_mem_takeWhile hentry) with ⟨t', ht', hseq, -⟩
    rw [ht, Option.some.injEq] at ht'
    rw [ht', hseq] at hle
    exact absurd (OrderedMap.mem_takeWhile_entries.mp hentry).2 (not_lt.mpr hle)

/-- Stopping or closing the handles of the entries before the bound cuts below it. -/
theorem Tracked.cutsBelow (h : Tracked m) {f : UvHandle κ → UvHandle κ}
    (hf : ∀ t, (f t).seqNum = t.seqNum ∧ (f t).active = false)
    (hhandles : ∀ p, m'.handles[p]? = m.handles[p]?.map fun t =>
      if p ∈ (m.timers.entries.takeWhile fun entry => entry.1 < ackNum).map Prod.snd then f t
      else t)
    (hstored : ∀ k, ackNum ≤ k → m'.timers.find? k = m.timers.find? k) :
    CutsBelow ackNum m m' where
  created := by
    refine eq_of_forall_ge_iff fun p => ?_
    rw [← List.getElem?_eq_none_iff, ← List.getElem?_eq_none_iff, hhandles,
      Option.map_eq_none_iff]
  below p t ht hlt := by
    rw [hhandles, ht]
    refine ⟨_, rfl, ?_⟩
    split <;> rename_i hp
    · exact hf t
    · refine ⟨rfl, ?_⟩
      by_contra hactive
      rw [Bool.not_eq_false] at hactive
      exact hp ((h.pointer_below ht).1 hactive hlt)
  above p t ht hle := by
    rw [hhandles, ht, Option.map_some, if_neg ((h.pointer_below ht).2 hle)]
  stored := hstored

/-- {lit}`stop_timers_up_to` stops exactly the timers below the number. -/
theorem Tracked.cutsBelow_stopTimersUpTo (h : Tracked m) (ackNum : UInt32) :
    CutsBelow ackNum m (m.stopTimersUpTo ackNum) := by
  refine h.cutsBelow (f := UvHandle.stopped) (fun t => ⟨rfl, rfl⟩) (m.stopEntries_handles _) ?_
  intro k _
  rw [stopTimersUpTo, stopEntries_timers]

/-- {lit}`drop_timer_up_to` drops exactly the timers below the number. -/
theorem Tracked.cutsBelow_dropTimerUpTo (h : Tracked m) (ackNum : UInt32) :
    CutsBelow ackNum m (m.dropTimerUpTo ackNum) := by
  rw [dropTimerUpTo_eq_foldl]
  refine h.cutsBelow (f := UvHandle.closed) (fun t => ⟨rfl, rfl⟩) (m.dropEntries_handles _) ?_
  intro k hk
  rw [dropEntries_timers, if_neg]
  rw [List.mem_map]
  rintro ⟨entry, hentry, rfl⟩
  exact absurd (OrderedMap.mem_takeWhile_entries.mp hentry).2 (not_lt.mpr hk)

/-- All entries point at all active handles. -/
theorem Tracked.pointer_mem (h : Tracked m) (ht : m.handles[p]? = some t)
    (hactive : t.active = true) : p ∈ m.timers.entries.map Prod.snd :=
  List.mem_map.mpr ⟨(t.seqNum, p), OrderedMap.mem_entries_iff.mpr (h.active p t ht hactive), rfl⟩

/-- Stopping or closing the handles of all entries leaves none active. -/
theorem Tracked.none_active (h : Tracked m) {f : UvHandle κ → UvHandle κ}
    (hf : ∀ t, (f t).active = false)
    (hhandles : ∀ p, m'.handles[p]? = m.handles[p]?.map fun t =>
      if p ∈ m.timers.entries.map Prod.snd then f t else t) :
    ∀ t ∈ m'.handles, t.active = false := by
  intro t' ht'
  rcases List.mem_iff_getElem?.mp ht' with ⟨p, hp⟩
  rw [hhandles] at hp
  rcases Option.map_eq_some_iff.mp hp with ⟨t, ht, heq⟩
  split at heq <;> rename_i hmem
  · rw [← heq]
    exact hf t
  · rw [← heq]
    by_contra hactive
    rw [Bool.not_eq_false] at hactive
    exact hmem (h.pointer_mem ht hactive)

/-- After {lit}`stop_all_timers` no handle is active. -/
theorem Tracked.none_active_stopAllTimers (h : Tracked m) :
    ∀ t ∈ m.stopAllTimers.handles, t.active = false :=
  h.none_active (f := UvHandle.stopped) (fun _ => rfl) (m.stopEntries_handles _)

/-- After {lit}`drop_all_timers` no handle is active. -/
theorem Tracked.none_active_dropAllTimers (h : Tracked m) :
    ∀ t ∈ m.dropAllTimers.handles, t.active = false :=
  h.none_active (f := UvHandle.closed) (fun _ => rfl) (m.dropEntries_handles _)

end Tracked

end TimerHandles

end MyuTcp
