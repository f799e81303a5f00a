import MyuTcp.Library.OrderedMap
import MyuTcp.Library.SequenceSpace

/-!
# TimerManager

The packet timers of {lit}`src/network/TimerManager.cpp`, one per sequence number,
and the 2MSL timer.  A libuv handle is kept as its map entry: whether it is
active, the delay it was started with and its callback.  A handle that
{lit}`start_timer` overwrites in the map was stopped before and is never started
again, so it leaves the model.  The callback type is a parameter.

Main results:

- Theorem {lit}`activeAt_startTimer`: starting a timer arms exactly its own key.
- Theorem {lit}`activeAt_dropTimerUpTo`: dropping up to a bound disarms exactly the
  keys below it.
- Theorems {lit}`activeAt_stopTimer` and {lit}`activeAt_stopAllTimers`: stopping
  disarms one key, or all.
-/

namespace MyuTcp

open Library

/-- A one-shot libuv timer handle. -/
structure UvTimer (κ : Type) where
  active : Bool
  timeoutMs : UInt64
  callback : κ

/-- The timers of one session. -/
structure TimerManager (κ : Type) where
  timers : OrderedMap UInt32 (UvTimer κ)
  twoMslActive : Bool

namespace TimerManager

variable {κ : Type}

/-- A manager without packet timers. -/
def init : TimerManager κ where
  timers := OrderedMap.empty
  twoMslActive := false

/-- {lit}`uv_timer_stop` on one handle. -/
def uvTimerStop (t : UvTimer κ) : UvTimer κ := { t with active := false }

/-- Stop the timer of a sequence number; its entry stays in the map. -/
def stopTimer (m : TimerManager κ) (seqNum : UInt32) : TimerManager κ :=
  match m.timers.find? seqNum with
  | some timer => { m with timers := m.timers.insert seqNum (uvTimerStop timer) }
  | none => m

/-- Stop the timer of a sequence number and erase its entry. -/
def dropTimer (m : TimerManager κ) (seqNum : UInt32) : TimerManager κ :=
  match m.timers.find? seqNum with
  | some _ => { m with timers := m.timers.erase seqNum }
  | none => m

/-- Drop every packet timer. -/
def dropAllTimers (m : TimerManager κ) : TimerManager κ :=
  { m with timers := OrderedMap.empty }

/-- Drop the first timer for as long as its number is below {lit}`ackNum`. -/
def dropTimerUpTo (m : TimerManager κ) (ackNum : UInt32) : TimerManager κ :=
  { m with timers := m.timers.dropBelow ackNum }

/-- Stop the timers whose number is below {lit}`ackNum`. -/
def stopTimersUpTo (m : TimerManager κ) (ackNum : UInt32) : TimerManager κ :=
  { m with timers := m.timers.mapValues fun k t => if k < ackNum then uvTimerStop t else t }

/-- Start a new timer for a sequence number, stopping the one it may have. -/
def startTimer (m : TimerManager κ) (seqNum : UInt32) (timeoutMs : UInt64) (callback : κ) :
    TimerManager κ :=
  let m := if (m.timers.find? seqNum).isSome then m.stopTimer seqNum else m
  { m with timers := m.timers.insert seqNum ⟨true, timeoutMs, callback⟩ }

/-- Stop every packet timer and the 2MSL timer. -/
def stopAllTimers (m : TimerManager κ) : TimerManager κ where
  timers := m.timers.mapValues fun _ t => uvTimerStop t
  twoMslActive := false

/-- Start the 2MSL timer. -/
def start2Msl (m : TimerManager κ) : TimerManager κ := { m with twoMslActive := true }

/-- Stop the 2MSL timer. -/
def stop2Msl (m : TimerManager κ) : TimerManager κ := { m with twoMslActive := false }

/-- The active timer of a sequence number, if there is one. -/
def activeAt (m : TimerManager κ) (seqNum : UInt32) : Option (UvTimer κ) :=
  (m.timers.find? seqNum).filter UvTimer.active

/-- Expiry of a one-shot timer: libuv deactivates it and then runs its callback. -/
def fire (m : TimerManager κ) (seqNum : UInt32) : Option (κ × TimerManager κ) :=
  (m.activeAt seqNum).map fun t => (t.callback, m.stopTimer seqNum)

/-! ## Active timers after each operation -/

/-- No timer is active at first. -/
@[simp]
theorem activeAt_init (k : UInt32) : (init : TimerManager κ).activeAt k = none :=
  rfl

/-- The stopped timer is not active, the others are as they were. -/
theorem activeAt_stopTimer (m : TimerManager κ) (seqNum k : UInt32) :
    (m.stopTimer seqNum).activeAt k = if k = seqNum then none else m.activeAt k := by
  rw [stopTimer]
  split <;> rename_i hfind
  · by_cases hk : k = seqNum
    · simp [activeAt, hk, uvTimerStop]
    · simp [activeAt, OrderedMap.find?_insert_of_ne _ _ hk, hk]
  · by_cases hk : k = seqNum
    · simp [activeAt, hk, hfind]
    · simp [hk]

/-- The 2MSL timer is no timer of a number. -/
@[simp]
theorem twoMslActive_stopTimer (m : TimerManager κ) (seqNum : UInt32) :
    (m.stopTimer seqNum).twoMslActive = m.twoMslActive := by
  rw [stopTimer]
  split <;> rfl

/-- Exactly the timers below the number are dropped. -/
theorem activeAt_dropTimerUpTo (m : TimerManager κ) (ackNum k : UInt32) :
    (m.dropTimerUpTo ackNum).activeAt k = if k < ackNum then none else m.activeAt k := by
  simp only [activeAt, dropTimerUpTo, OrderedMap.find?_dropBelow]
  split <;> simp

/-- The started timer is active, the others are as they were. -/
theorem activeAt_startTimer (m : TimerManager κ) (seqNum k : UInt32) (timeoutMs : UInt64)
    (callback : κ) :
    (m.startTimer seqNum timeoutMs callback).activeAt k =
      if k = seqNum then some ⟨true, timeoutMs, callback⟩ else m.activeAt k := by
  by_cases hk : k = seqNum
  · simp [activeAt, startTimer, hk]
  · have hstop := m.activeAt_stopTimer seqNum k
    rw [if_neg hk] at hstop ⊢
    rw [activeAt, startTimer, OrderedMap.find?_insert_of_ne _ _ hk]
    split
    · exact hstop
    · rfl

/-- A started timer leaves the 2MSL timer alone. -/
@[simp]
theorem twoMslActive_startTimer (m : TimerManager κ) (seqNum : UInt32) (timeoutMs : UInt64)
    (callback : κ) :
    (m.startTimer seqNum timeoutMs callback).twoMslActive = m.twoMslActive := by
  rw [startTimer]
  split <;> simp

/-- No timer is active after all have been stopped. -/
@[simp]
theorem activeAt_stopAllTimers (m : TimerManager κ) (k : UInt32) :
    m.stopAllTimers.activeAt k = none := by
  simp only [activeAt, stopAllTimers, OrderedMap.find?_mapValues]
  cases m.timers.find? k <;> simp [uvTimerStop]

/-- The 2MSL timer leaves the timers of numbers alone when it starts. -/
@[simp]
theorem activeAt_start2Msl (m : TimerManager κ) (k : UInt32) :
    m.start2Msl.activeAt k = m.activeAt k :=
  rfl

/-- So it does when it stops. -/
@[simp]
theorem activeAt_stop2Msl (m : TimerManager κ) (k : UInt32) :
    m.stop2Msl.activeAt k = m.activeAt k :=
  rfl

/-- An active timer fires with its callback, and stops. -/
theorem fire_eq_some_iff (m : TimerManager κ) (k : UInt32) (cb : κ) (m' : TimerManager κ) :
    m.fire k = some (cb, m') ↔
      ∃ t, m.activeAt k = some t ∧ t.callback = cb ∧ m' = m.stopTimer k := by
  simp only [fire, Option.map_eq_some_iff, Prod.mk.injEq]
  exact ⟨fun ⟨t, h, h₁, h₂⟩ => ⟨t, h, h₁, h₂.symm⟩, fun ⟨t, h, h₁, h₂⟩ => ⟨t, h, h₁, h₂.symm⟩⟩

end TimerManager

end MyuTcp
