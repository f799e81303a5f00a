import MyuTcp.Network.TimerHandles

/-!
# Running timers are tracked

Whatever is called, and whatever the callbacks of expiring timers call, a packet timer that is
active is the one in {lit}`timers_`.  So the map alone, which is all that the sessions' model keeps
of a manager, shows every timer that can still fire.

Main results:

- Theorem {lit}`Tracked.manager_apply`: the operations on pointers refine those on maps of timers.
- Theorem {lit}`reaches_of_run`: a run with pointers is one without.
- Theorem {lit}`activeAt_manager`: a manager's active timers are the active handles.
- Theorem {lit}`timers_tracked`: the timers of every run.
-/

namespace MyuTcp

open Library

/-- The timer of a handle, without its pointer. -/
def UvHandle.timer {κ : Type} (t : UvHandle κ) : UvTimer κ := ⟨t.active, t.timeoutMs, t.callback⟩

namespace TimerManager

variable {κ : Type}

/-- The call on the abstract manager. -/
def apply (m : TimerManager κ) : TimerCall κ → TimerManager κ
  | .startTimer seqNum timeoutMs callback => m.startTimer seqNum timeoutMs callback
  | .stopTimer seqNum => m.stopTimer seqNum
  | .dropTimer seqNum => m.dropTimer seqNum
  | .stopTimersUpTo ackNum => m.stopTimersUpTo ackNum
  | .dropTimerUpTo ackNum => m.dropTimerUpTo ackNum
  | .stopAllTimers => m.stopAllTimers
  | .dropAllTimers => m.dropAllTimers
  | .start2Msl => m.start2Msl
  | .stop2Msl => m.stop2Msl

/-- A call, or an expiry with the calls of its callback. -/
inductive Step (m : TimerManager κ) : TimerManager κ → Prop
  | call (c : TimerCall κ) : Step m (m.apply c)
  | expire {k : UInt32} {callback : κ} {m' : TimerManager κ}
      (hfire : m.fire k = some (callback, m')) (calls : List (TimerCall κ)) :
      Step m (calls.foldl apply m')

/-- Sequences of steps. -/
abbrev Reaches : TimerManager κ → TimerManager κ → Prop := Relation.ReflTransGen Step

/-- Stopping a timer changes the entry of its number. -/
theorem find?_stopTimer (m : TimerManager κ) (seqNum k : UInt32) :
    (m.stopTimer seqNum).timers.find? k =
      if k = seqNum then (m.timers.find? k).map uvTimerStop else m.timers.find? k := by
  rw [stopTimer]
  split <;> rename_i hfind
  · rw [OrderedMap.find?_insert]
    split <;> rename_i hk
    · rw [hk, hfind]
      rfl
    · rfl
  · split <;> rename_i hk
    · rw [hk, hfind]
      rfl
    · rfl

/-- Dropping a timer removes the entry of its number. -/
theorem find?_dropTimer (m : TimerManager κ) (seqNum k : UInt32) :
    (m.dropTimer seqNum).timers.find? k = if k = seqNum then none else m.timers.find? k := by
  rw [dropTimer]
  split <;> rename_i hfind
  · exact OrderedMap.find?_erase _ _ _
  · split <;> rename_i hk
    · rw [hk, hfind]
    · rfl

/-- Starting a timer replaces the entry of its number. -/
theorem find?_startTimer (m : TimerManager κ) (seqNum k : UInt32) (timeoutMs : UInt64)
    (callback : κ) :
    (m.startTimer seqNum timeoutMs callback).timers.find? k =
      if k = seqNum then some ⟨true, timeoutMs, callback⟩ else m.timers.find? k := by
  rw [startTimer, OrderedMap.find?_insert]
  split <;> rename_i hk
  · rfl
  · split
    · rw [find?_stopTimer, if_neg hk]
    · rfl

/-- A manager is what is found in it. -/
theorem eq_of_find? {m n : TimerManager κ} (htimers : ∀ k, m.timers.find? k = n.timers.find? k)
    (htwoMsl : m.twoMslActive = n.twoMslActive) : m = n := by
  rcases m with ⟨timers, twoMslActive⟩
  rcases n with ⟨timers', twoMslActive'⟩
  rw [mk.injEq]
  exact ⟨OrderedMap.eq_of_find? htimers, htwoMsl⟩

end TimerManager

namespace TimerHandles

variable {κ : Type}

/-! ## Maps of timers -/

/-- The manager with the timers themselves in its map. -/
def manager (m : TimerHandles κ) : TimerManager κ where
  timers := m.timers.filterMapValues fun p => m.handles[p]?.map UvHandle.timer
  twoMslActive := m.twoMslActive

/-- The new managers correspond. -/
theorem manager_init : (init : TimerHandles κ).manager = TimerManager.init := by
  apply TimerManager.eq_of_find?
  · intro k
    rfl
  · rfl

section Manager

variable {m m' : TimerHandles κ} {entries : List (UInt32 × Nat)} {p : Nat} {t : UvHandle κ}
  {k : UInt32}

/-- The timer of a number is that of its handle. -/
theorem find?_manager (m : TimerHandles κ) (k : UInt32) :
    m.manager.timers.find? k =
      (m.timers.find? k).bind fun p => m.handles[p]?.map UvHandle.timer :=
  OrderedMap.find?_filterMapValues _ _ _

/-- The timer of a stored pointer. -/
theorem Tracked.find?_manager (h : Tracked m) (hp : m.timers.find? k = some p) :
    ∃ t : UvHandle κ, m.handles[p]? = some t ∧ t.seqNum = k ∧
      m.manager.timers.find? k = some t.timer := by
  rcases h.stored k p hp with ⟨t, ht, hseq, -⟩
  refine ⟨t, ht, hseq, ?_⟩
  rw [TimerHandles.find?_manager, hp, Option.bind_some, ht, Option.map_some]

/-- A number without a handle has no timer. -/
theorem find?_manager_of_none (hnone : m.timers.find? k = none) :
    m.manager.timers.find? k = none := by
  rw [find?_manager, hnone, Option.bind_none]

/-- Stopping entries stops the timers of their keys. -/
theorem Tracked.find?_manager_stopEntries (h : Tracked m)
    (hentries : ∀ entry ∈ entries, m.timers.find? entry.1 = some entry.2) (k : UInt32) :
    (m.stopEntries entries).manager.timers.find? k =
      if k ∈ entries.map Prod.fst then (m.manager.timers.find? k).map TimerManager.uvTimerStop
      else m.manager.timers.find? k := by
  cases hp : m.timers.find? k with
  | none =>
      rw [find?_manager_of_none hp, find?_manager_of_none (by rw [stopEntries_timers, hp])]
      exact (ite_self none).symm
  | some p =>
      rcases h.find?_manager hp with ⟨t, ht, -, hfind⟩
      rw [hfind, TimerHandles.find?_manager, stopEntries_timers, hp, Option.bind_some,
        stopEntries_handles, ht, Option.map_some, Option.map_some]
      by_cases hk : k ∈ entries.map Prod.fst
      · rw [if_pos ((h.mem_pointers_iff hentries hp).mpr hk), if_pos hk]
        rfl
      · rw [if_neg (mt (h.mem_pointers_iff hentries hp).mp hk), if_neg hk]

/-- Dropping entries loses their keys. -/
theorem Tracked.find?_manager_dropEntries (h : Tracked m)
    (hentries : ∀ entry ∈ entries, m.timers.find? entry.1 = some entry.2) (k : UInt32) :
    (entries.foldl dropEntry m).manager.timers.find? k =
      if k ∈ entries.map Prod.fst then none else m.manager.timers.find? k := by
  rw [TimerHandles.find?_manager, dropEntries_timers]
  split <;> rename_i hk
  · rfl
  · cases hp : m.timers.find? k with
    | none => rw [find?_manager_of_none hp, Option.bind_none]
    | some p =>
        rcases h.find?_manager hp with ⟨t, ht, -, hfind⟩
        rw [hfind, Option.bind_some, dropEntries_handles, ht, Option.map_some, Option.map_some,
          if_neg (mt (h.mem_pointers_iff hentries hp).mp hk)]

/-- The keys of the map are the numbers that are found. -/
theorem mem_keys_iff (m : TimerHandles κ) (k : UInt32) :
    k ∈ m.timers.entries.map Prod.fst ↔ (m.timers.find? k).isSome := by
  rw [List.mem_map, Option.isSome_iff_exists]
  constructor
  · rintro ⟨entry, hentry, rfl⟩
    exact ⟨_, OrderedMap.find?_of_mem_entries hentry⟩
  · rintro ⟨p, hp⟩
    exact ⟨(k, p), OrderedMap.mem_entries_iff.mpr hp, rfl⟩

/-- The loops visit the numbers below the given one. -/
theorem mem_keys_takeWhile_iff (m : TimerHandles κ) (ackNum k : UInt32) :
    k ∈ (m.timers.entries.takeWhile fun entry => entry.1 < ackNum).map Prod.fst ↔
      k < ackNum ∧ (m.timers.find? k).isSome := by
  rw [List.mem_map, Option.isSome_iff_exists]
  constructor
  · rintro ⟨entry, hentry, rfl⟩
    exact ⟨(OrderedMap.mem_takeWhile_entries.mp hentry).2, _, find?_of_mem_takeWhile hentry⟩
  · rintro ⟨hlt, p, hp⟩
    exact ⟨(k, p), OrderedMap.mem_takeWhile_entries.mpr ⟨OrderedMap.mem_entries_iff.mpr hp, hlt⟩,
      rfl⟩

/-! ## Each operation -/

/-- {lit}`stop_timer` on both levels. -/
theorem Tracked.manager_stopTimer (h : Tracked m) (seqNum : UInt32) :
    (m.stopTimer seqNum).manager = m.manager.stopTimer seqNum := by
  apply TimerManager.eq_of_find?
  · intro k
    rw [TimerManager.find?_stopTimer, TimerHandles.stopTimer]
    split <;> rename_i hfind
    · refine (h.find?_manager_stopEntries (find?_of_mem_singleton hfind) k).trans ?_
      simp only [List.map_cons, List.map_nil, List.mem_singleton]
    · split <;> rename_i hk
      · rw [hk, find?_manager_of_none hfind]
        rfl
      · rfl
  · rw [TimerManager.twoMslActive_stopTimer, TimerHandles.stopTimer]
    split <;> rfl

/-- {lit}`drop_timer` on both levels. -/
theorem Tracked.manager_dropTimer (h : Tracked m) (seqNum : UInt32) :
    (m.dropTimer seqNum).manager = m.manager.dropTimer seqNum := by
  apply TimerManager.eq_of_find?
  · intro k
    rw [TimerManager.find?_dropTimer, TimerHandles.dropTimer]
    split <;> rename_i hfind
    · refine (h.find?_manager_dropEntries (find?_of_mem_singleton hfind) k).trans ?_
      simp only [List.map_cons, List.map_nil, List.mem_singleton]
    · split <;> rename_i hk
      · rw [hk, find?_manager_of_none hfind]
      · rfl
  · rw [TimerHandles.dropTimer, TimerManager.dropTimer]
    split <;> split <;> rfl

/-- {lit}`stop_timers_up_to` on both levels. -/
theorem Tracked.manager_stopTimersUpTo (h : Tracked m) (ackNum : UInt32) :
    (m.stopTimersUpTo ackNum).manager = m.manager.stopTimersUpTo ackNum := by
  apply TimerManager.eq_of_find?
  · intro k
    rw [stopTimersUpTo, h.find?_manager_stopEntries (fun _ => find?_of_mem_takeWhile),
      TimerManager.stopTimersUpTo, OrderedMap.find?_mapValues]
    cases hp : m.timers.find? k with
    | none =>
        rw [find?_manager_of_none hp]
        exact ite_self none
    | some p =>
        by_cases hk : k < ackNum
        · rw [if_pos ((m.mem_keys_takeWhile_iff ackNum k).mpr ⟨hk, by rw [hp]; rfl⟩)]
          simp only [if_pos hk]
        · rw [if_neg fun hmem => hk ((m.mem_keys_takeWhile_iff ackNum k).mp hmem).1]
          simp only [if_neg hk, Option.map_id']
  · exact stopEntries_twoMslActive _ _

/-- {lit}`drop_timer_up_to` on both levels. -/
theorem Tracked.manager_dropTimerUpTo (h : Tracked m) (ackNum : UInt32) :
    (m.dropTimerUpTo ackNum).manager = m.manager.dropTimerUpTo ackNum := by
  apply TimerManager.eq_of_find?
  · intro k
    rw [dropTimerUpTo_eq_foldl, h.find?_manager_dropEntries (fun _ => find?_of_mem_takeWhile),
      TimerManager.dropTimerUpTo, OrderedMap.find?_dropBelow]
    cases hp : m.timers.find? k with
    | none =>
        rw [find?_manager_of_none hp, ite_self, ite_self]
    | some p =>
        by_cases hk : k < ackNum
        · rw [if_pos ((m.mem_keys_takeWhile_iff ackNum k).mpr ⟨hk, by rw [hp]; rfl⟩), if_pos hk]
        · rw [if_neg fun hmem => hk ((m.mem_keys_takeWhile_iff ackNum k).mp hmem).1, if_neg hk]
  · rw [dropTimerUpTo_eq_foldl]
    exact dropEntries_twoMslActive _ _

/-- {lit}`stop_all_timers` on both levels. -/
theorem Tracked.manager_stopAllTimers (h : Tracked m) :
    m.stopAllTimers.manager = m.manager.stopAllTimers := by
  apply TimerManager.eq_of_find?
  · intro k
    refine (h.find?_manager_stopEntries (fun _ => OrderedMap.find?_of_mem_entries) k).trans ?_
    rw [TimerManager.stopAllTimers, OrderedMap.find?_mapValues]
    split <;> rename_i hstored
    · rfl
    · rw [mem_keys_iff, Option.not_isSome_iff_eq_none] at hstored
      rw [find?_manager_of_none hstored]
      rfl
  · rfl

/-- {lit}`drop_all_timers` on both levels. -/
theorem Tracked.manager_dropAllTimers (h : Tracked m) :
    m.dropAllTimers.manager = m.manager.dropAllTimers := by
  apply TimerManager.eq_of_find?
  · intro k
    rw [dropAllTimers, h.find?_manager_dropEntries (fun _ => OrderedMap.find?_of_mem_entries),
      TimerManager.dropAllTimers, OrderedMap.find?_empty]
    split <;> rename_i hstored
    · rfl
    · rw [mem_keys_iff, Option.not_isSome_iff_eq_none] at hstored
      exact find?_manager_of_none hstored
  · exact dropEntries_twoMslActive _ _

/-- {lit}`start_timer` on both levels. -/
theorem Tracked.manager_startTimer (h : Tracked m) (seqNum : UInt32) (timeoutMs : UInt64)
    (callback : κ) :
    (m.startTimer seqNum timeoutMs callback).manager =
      m.manager.startTimer seqNum timeoutMs callback := by
  have hstop := h.stopTimer seqNum
  have hmanager := h.manager_stopTimer seqNum
  apply TimerManager.eq_of_find?
  · intro k
    rw [TimerManager.find?_startTimer, TimerHandles.find?_manager, startTimer_eq]
    dsimp only
    rw [OrderedMap.find?_insert]
    split <;> rename_i hk
    · rw [Option.bind_some, ← m.stopTimer_length seqNum, List.getElem?_concat_length]
      rfl
    · have hold : (m.stopTimer seqNum).manager.timers.find? k = m.manager.timers.find? k := by
        rw [hmanager, TimerManager.find?_stopTimer, if_neg hk]
      rw [← hold, TimerHandles.find?_manager, stopTimer_timers]
      cases hp : m.timers.find? k with
      | none => rfl
      | some p =>
          rcases hstop.stored k p (by rwa [stopTimer_timers]) with ⟨t, ht, -⟩
          rw [Option.bind_some, Option.bind_some,
            List.getElem?_append_left (List.getElem?_eq_some_iff.mp ht).1]
  · rw [TimerManager.startTimer, startTimer_eq]
    have htwoMsl := congrArg TimerManager.twoMslActive hmanager
    rw [TimerManager.twoMslActive_stopTimer] at htwoMsl
    refine Eq.trans ?_ (TimerManager.twoMslActive_startTimer _ _ _ _).symm
    exact htwoMsl

/-- A call on the pointers is the call on the timers. -/
theorem Tracked.manager_apply (h : Tracked m) (c : TimerCall κ) :
    (m.apply c).manager = m.manager.apply c := by
  cases c with
  | startTimer seqNum timeoutMs callback => exact h.manager_startTimer seqNum timeoutMs callback
  | stopTimer seqNum => exact h.manager_stopTimer seqNum
  | dropTimer seqNum => exact h.manager_dropTimer seqNum
  | stopTimersUpTo ackNum => exact h.manager_stopTimersUpTo ackNum
  | dropTimerUpTo ackNum => exact h.manager_dropTimerUpTo ackNum
  | stopAllTimers => exact h.manager_stopAllTimers
  | dropAllTimers => exact h.manager_dropAllTimers
  | start2Msl => rfl
  | stop2Msl => rfl

/-- Any calls on both levels. -/
theorem Tracked.manager_calls (h : Tracked m) (calls : List (TimerCall κ)) :
    (calls.foldl TimerHandles.apply m).manager = calls.foldl TimerManager.apply m.manager := by
  induction calls generalizing m with
  | nil => rfl
  | cons c rest ih => rw [List.foldl_cons, List.foldl_cons, ih (h.apply c), h.manager_apply c]

/-! ## Runs -/

/-- The active timers of the manager are the active handles, each under its own number. -/
theorem activeAt_manager (h : Tracked m) {u : UvTimer κ} :
    m.manager.activeAt k = some u ↔
      ∃ (p : Nat) (t : UvHandle κ), m.handles[p]? = some t ∧ t.active = true ∧ t.seqNum = k ∧
        t.timer = u := by
  rw [TimerManager.activeAt, Option.filter_eq_some_iff]
  constructor
  · rintro ⟨hfind, hactive⟩
    cases hp : m.timers.find? k with
    | none =>
        rw [find?_manager_of_none hp] at hfind
        contradiction
    | some p =>
        rcases h.find?_manager hp with ⟨t, ht, hseq, htimer⟩
        rw [htimer, Option.some.injEq] at hfind
        rw [← hfind] at hactive
        exact ⟨p, t, ht, hactive, hseq, hfind⟩
  · rintro ⟨p, t, ht, hactive, rfl, rfl⟩
    rcases h.find?_manager (h.active p t ht hactive) with ⟨t', ht', -, htimer⟩
    rw [ht, Option.some.injEq] at ht'
    rw [htimer, ← ht']
    exact ⟨rfl, hactive⟩

/-- A step of the pointers is one of the timers: an expiry is that of the handle's number. -/
theorem Tracked.manager_step (h : Tracked m) {e : TimerEvent κ}
    (hstep : TimerHandles.step m e = some m') : m.manager.Step m'.manager := by
  cases e with
  | call c =>
      cases hstep
      rw [show (m.apply c).manager = _ from h.manager_apply c]
      exact .call c
  | expire p calls =>
      rw [TimerHandles.step] at hstep
      split at hstep <;> rename_i hactive
      · cases hstep
        rcases (Option.any_eq_true _ _).mp hactive with ⟨t, ht, hactive⟩
        have hstored := h.active p t ht hactive
        have hstop : m.uvTimerStop p = m.stopTimer t.seqNum := by
          rw [TimerHandles.stopTimer, hstored]
        rw [(h.uvTimerStop p).manager_calls, hstop, h.manager_stopTimer]
        have hfire : m.manager.fire t.seqNum =
            some (t.callback, m.manager.stopTimer t.seqNum) := by
          rw [TimerManager.fire_eq_some_iff]
          exact ⟨t.timer, (activeAt_manager h).mpr ⟨p, t, ht, hactive, rfl, rfl⟩, rfl, rfl⟩
        exact .expire hfire calls
      · contradiction

/-- A run with pointers is one of the timers alone. -/
theorem reaches_of_run {es : List (TimerEvent κ)} (h : TimerHandles.step.run init es = some m) :
    TimerManager.init.Reaches m.manager := by
  have hreach := StepFn.reachable_of_run_true h
  have hinv : Tracked m ∧ TimerManager.init.Reaches m.manager := by
    refine hreach.invariant (P := fun m => Tracked m ∧ TimerManager.init.Reaches m.manager)
      ⟨tracked_init, ?_⟩ ?_
    · rw [manager_init]
    · rintro s e s' ⟨htracked, hreaches⟩ _ hs'
      exact ⟨htracked.step hs', hreaches.tail (htracked.manager_step hs')⟩
  exact hinv.2

/-- The manager does not lose a timer that runs. -/
structure KeepsTrack (m : TimerHandles κ) : Prop where
  stored : ∀ (p : Nat) (t : UvHandle κ), m.handles[p]? = some t → t.active = true →
    m.timers.find? t.seqNum = some p
  unique : ∀ (p q : Nat) (t u : UvHandle κ), m.handles[p]? = some t → t.active = true →
    m.handles[q]? = some u → u.active = true → t.seqNum = u.seqNum → p = q
  dropsBelow : ∀ ackNum, CutsBelow ackNum m (m.dropTimerUpTo ackNum)
  stopsBelow : ∀ ackNum, CutsBelow ackNum m (m.stopTimersUpTo ackNum)
  stopsAll : ∀ t ∈ m.stopAllTimers.handles, t.active = false
  dropsAll : ∀ t ∈ m.dropAllTimers.handles, t.active = false

/-- Whatever is called, also by the callbacks of expiring timers: every active timer is the one in
the map under its own number, {lit}`drop_timer_up_to` and {lit}`stop_timers_up_to` deactivate the
timers below their bound and leave the others as they were, and {lit}`stop_all_timers` and
{lit}`drop_all_timers` leave none active. -/
theorem timers_tracked {es : List (TimerEvent κ)} (h : TimerHandles.step.run init es = some m) :
    KeepsTrack m := by
  have htracked := tracked_run h
  exact
    { stored := htracked.active
      unique := fun p q t u hp ht hq hu heq => htracked.unique hp ht hq hu heq
      dropsBelow := htracked.cutsBelow_dropTimerUpTo
      stopsBelow := htracked.cutsBelow_stopTimersUpTo
      stopsAll := htracked.none_active_stopAllTimers
      dropsAll := htracked.none_active_dropAllTimers }

end Manager

/-- A timer whose callback starts it again, and is then started over by its owner. -/
def restartedRun : List (TimerEvent Unit) :=
  [.call (.startTimer 1 1000 ()), .call (.startTimer 3 1000 ()),
    .expire 0 [.startTimer 1 2000 ()], .call (.startTimer 1 1000 ()), .call (.dropTimerUpTo 3),
    .call (.startTimer 1 1000 ()), .call (.stopTimersUpTo 3)]

theorem timers_tracked_restarted :
    ∃ m, step.run init restartedRun = some m ∧
      m.handles.map (fun t => (t.seqNum, t.active)) =
        [(1, false), (3, true), (1, false), (1, false), (1, false)] ∧ KeepsTrack m := by
  have hrun : (step.run init restartedRun).isSome = true := by decide
  rcases Option.isSome_iff_exists.mp hrun with ⟨m, hm⟩
  have hactive : ((step.run init restartedRun).map fun m =>
      m.handles.map fun t => (t.seqNum, t.active)) =
        some [(1, false), (3, true), (1, false), (1, false), (1, false)] := by
    decide
  rw [hm, Option.map_some, Option.some.injEq] at hactive
  exact ⟨m, hm, hactive, timers_tracked hm⟩

end TimerHandles

end MyuTcp
