import Mathlib

/-!
# Partial transition systems

A system is given by one partial step function: an event either is not enabled
in a state, and the step is {lit}`none`, or it leads to exactly one next state.
This file fixes runs over event lists, reachability by steps that all meet a
side condition, the induction rule for invariants and the lockstep rule for two
runs of the same schedule.

Main results:

- Theorem {lit}`Reachable.invariant`: a property that holds at the start and is
  preserved by every admissible step holds in every reachable state.
- Theorem {lit}`Reachable.simulated`: a system whose steps another one matches reaches no more
  than that one does.
- Theorem {lit}`reachable_of_run`: the state at the end of a run whose steps all
  meet the side condition is reachable.
- Theorems {lit}`AllSteps.mono`, {lit}`AllSteps.and` and {lit}`allSteps_of_forall_mem`: how
  side conditions of runs compose.
- Theorem {lit}`AllSteps.of_invariant`: along a run whose steps meet a side condition, an
  invariant holds before every step.
- Theorems {lit}`AllSteps.iff_of_invariant` and {lit}`allSteps_iff_of_invariant`: side conditions
  that agree under an invariant agree along runs.
- Theorem {lit}`allSteps_withGhost`: a ghost component does not restrict the runs.
- Theorem {lit}`rel_run_iff`: two systems agree along a common schedule exactly when they agree
  after every step that both take.
-/

namespace MyuTcp.Library

variable {σ τ ε γ : Type*}

/-- A partial, deterministic step: {lit}`none` means that the event is not enabled. -/
abbrev StepFn (σ ε : Type*) := σ → ε → Option σ

/-- Related results of two steps: neither is enabled, or both lead to related states. -/
theorem optionRel_iff {R : σ → τ → Prop} {x : Option σ} {y : Option τ} :
    Option.Rel R x y ↔ (x = none ∧ y = none) ∨ ∃ s t, x = some s ∧ y = some t ∧ R s t := by
  constructor
  · intro h
    cases h with
    | some hst => exact Or.inr ⟨_, _, rfl, rfl, hst⟩
    | none => exact Or.inl ⟨rfl, rfl⟩
  · rintro (⟨rfl, rfl⟩ | ⟨s, t, rfl, rfl, hst⟩)
    · exact .none
    · exact .some hst

/-- A relation between outcomes may be weakened. -/
theorem optionRel_mono {R Q : σ → τ → Prop} (h : ∀ s t, R s t → Q s t) {x : Option σ}
    {y : Option τ} (hxy : Option.Rel R x y) : Option.Rel Q x y := by
  cases hxy with
  | some hst => exact .some (h _ _ hst)
  | none => exact .none

/-- A relation between images, as one between outcomes. -/
theorem optionRel_map_iff {σ' τ' : Type*} {R : σ' → τ' → Prop} {f : σ → σ'} {g : τ → τ'}
    {x : Option σ} {y : Option τ} :
    Option.Rel R (x.map f) (y.map g) ↔ Option.Rel (fun s t => R (f s) (g t)) x y := by
  cases x <;> cases y <;> simp

namespace StepFn

/-- Execute a list of events, stopping with {lit}`none` at the first disabled one. -/
def run (step : StepFn σ ε) : σ → List ε → Option σ
  | s, [] => some s
  | s, e :: es => (step s e).bind fun s' => step.run s' es

/-- Every step that the run of the event list from {lit}`s` takes meets {lit}`ok`. -/
def AllSteps (step : StepFn σ ε) (ok : σ → ε → Prop) : σ → List ε → Prop
  | _, [] => True
  | s, e :: es => ok s e ∧ ∀ s', step s e = some s' → step.AllSteps ok s' es

/-- Side conditions that agree at every step agree along every run. -/
theorem allSteps_congr {step : StepFn σ ε} {ok ok' : σ → ε → Prop}
    (h : ∀ s e, ok s e ↔ ok' s e) (s : σ) (es : List ε) :
    step.AllSteps ok s es ↔ step.AllSteps ok' s es := by
  induction es generalizing s with
  | nil => exact Iff.rfl
  | cons e es ih => exact and_congr (h s e) (forall_congr' fun s' => imp_congr_right fun _ => ih s')

/-- The steps of a run are its first step and those of the rest. -/
theorem allSteps_cons {step : StepFn σ ε} {ok : σ → ε → Prop} {s s' : σ} {e : ε}
    (h : step s e = some s') (es : List ε) :
    step.AllSteps ok s (e :: es) ↔ ok s e ∧ step.AllSteps ok s' es := by
  apply and_congr_right
  intro _
  constructor
  · exact fun hrest => hrest s' h
  · intro hrest s'' hs''
    rw [h, Option.some.injEq] at hs''
    rwa [← hs'']

/-- A weaker side condition is met by the same runs. -/
theorem AllSteps.mono {step : StepFn σ ε} {ok ok' : σ → ε → Prop}
    (h : ∀ s e, ok s e → ok' s e) {s : σ} {es : List ε} (hall : step.AllSteps ok s es) :
    step.AllSteps ok' s es := by
  induction es generalizing s with
  | nil => trivial
  | cons e es ih => exact ⟨h s e hall.1, fun s' hs' => ih (hall.2 s' hs')⟩

/-- Two conditions on all steps are one. -/
theorem AllSteps.and {step : StepFn σ ε} {ok ok' : σ → ε → Prop} {s : σ} {es : List ε}
    (hall : step.AllSteps ok s es) (hall' : step.AllSteps ok' s es) :
    step.AllSteps (fun s e => ok s e ∧ ok' s e) s es := by
  induction es generalizing s with
  | nil => trivial
  | cons e es ih =>
      exact ⟨⟨hall.1, hall'.1⟩, fun s' hs' => ih (hall.2 s' hs') (hall'.2 s' hs')⟩

/-- A property of all events of a list holds at every step of its run. -/
theorem allSteps_of_forall_mem {step : StepFn σ ε} {Q : ε → Prop} {es : List ε}
    (h : ∀ e ∈ es, Q e) (s : σ) : step.AllSteps (fun _ e => Q e) s es := by
  induction es generalizing s with
  | nil => trivial
  | cons e es ih =>
      rw [List.forall_mem_cons] at h
      exact ⟨h.1, fun s' _ => ih h.2 s'⟩

/-- Executable test of a side condition along a run. -/
def checkSteps (step : StepFn σ ε) (ok : σ → ε → Bool) : σ → List ε → Bool
  | _, [] => true
  | s, e :: es => ok s e && (step s e).all fun s' => step.checkSteps ok s' es

/-- A condition on all steps of a run may be evaluated. -/
theorem allSteps_of_check {step : StepFn σ ε} {ok : σ → ε → Bool} {P : σ → ε → Prop}
    (hok : ∀ s e, ok s e = true → P s e) {s : σ} {es : List ε}
    (h : step.checkSteps ok s es = true) : step.AllSteps P s es := by
  induction es generalizing s with
  | nil => trivial
  | cons e es ih =>
      rw [checkSteps, Bool.and_eq_true] at h
      refine ⟨hok s e h.1, fun s' hs' => ih ?_⟩
      rw [hs'] at h
      exact h.2

/-- States reached from {lit}`s₀` by steps that all meet {lit}`ok`. -/
inductive Reachable (step : StepFn σ ε) (ok : σ → ε → Prop) (s₀ : σ) : σ → Prop
  | start : Reachable step ok s₀ s₀
  | next {s s' : σ} {e : ε} (hs : Reachable step ok s₀ s) (hok : ok s e)
      (hstep : step s e = some s') : Reachable step ok s₀ s'

/-- No event leaves the state as it is. -/
@[simp]
theorem run_nil (step : StepFn σ ε) (s : σ) : step.run s [] = some s :=
  rfl

/-- A run is a step and the rest of the run. -/
@[simp]
theorem run_cons (step : StepFn σ ε) (s : σ) (e : ε) (es : List ε) :
    step.run s (e :: es) = (step s e).bind fun s' => step.run s' es :=
  rfl

/-- A run over a concatenation is the run of the second part after the first. -/
theorem run_append (step : StepFn σ ε) (s : σ) (es fs : List ε) :
    step.run s (es ++ fs) = (step.run s es).bind fun s' => step.run s' fs := by
  induction es generalizing s with
  | nil => rfl
  | cons e es ih =>
      simp only [List.cons_append, run_cons]
      cases step s e with
      | none => rfl
      | some s' => exact ih s'

/-- The induction rule for invariants. -/
theorem Reachable.invariant {step : StepFn σ ε} {ok : σ → ε → Prop} {s₀ s : σ}
    {P : σ → Prop} (h₀ : P s₀)
    (hstep : ∀ s e s', P s → ok s e → step s e = some s' → P s')
    (hs : step.Reachable ok s₀ s) : P s := by
  induction hs with
  | start => exact h₀
  | next _ hok hs' ih => exact hstep _ _ _ ih hok hs'

/-- Reachability composes. -/
theorem Reachable.trans {step : StepFn σ ε} {ok : σ → ε → Prop} {a b c : σ}
    (hab : step.Reachable ok a b) (hbc : step.Reachable ok b c) :
    step.Reachable ok a c := by
  induction hbc with
  | start => exact hab
  | next _ hok hs ih => exact .next ih hok hs

/-- The simulation rule: when every admissible step is matched by admissible steps of another
system, which may be none, every reachable state is matched by one that the other system reaches. -/
theorem Reachable.simulated {ε' : Type*} {step : StepFn σ ε} {ok : σ → ε → Prop}
    {step' : StepFn τ ε'} {ok' : τ → ε' → Prop} {R : σ → τ → Prop}
    (hmatch : ∀ s e s' t, R s t → ok s e → step s e = some s' →
      ∃ t', step'.Reachable ok' t t' ∧ R s' t')
    {s₀ s : σ} {t₀ : τ} (h₀ : R s₀ t₀) (hs : step.Reachable ok s₀ s) :
    ∃ t, step'.Reachable ok' t₀ t ∧ R s t := by
  induction hs with
  | start => exact ⟨t₀, .start, h₀⟩
  | next _ hok hstep ih =>
      rcases ih with ⟨t, ht, hR⟩
      rcases hmatch _ _ _ _ hR hok hstep with ⟨t', ht', hR'⟩
      exact ⟨t', ht.trans ht', hR'⟩

/-- Dropping part of the side condition keeps every reachable state reachable. -/
theorem Reachable.mono {step : StepFn σ ε} {ok ok' : σ → ε → Prop} {s₀ s : σ}
    (hle : ∀ s e, ok s e → ok' s e) (hs : step.Reachable ok s₀ s) :
    step.Reachable ok' s₀ s := by
  induction hs with
  | start => exact .start
  | next _ hok hs ih => exact .next ih (hle _ _ hok) hs

/-- A run whose steps all meet the side condition ends in a reachable state. -/
theorem reachable_of_run {step : StepFn σ ε} {ok : σ → ε → Prop} {s₀ s : σ}
    {es : List ε} (hall : step.AllSteps ok s₀ es) (hrun : step.run s₀ es = some s) :
    step.Reachable ok s₀ s := by
  induction es generalizing s₀ with
  | nil =>
      cases hrun
      exact .start
  | cons e es ih =>
      obtain ⟨hok, hrest⟩ := hall
      rw [run_cons] at hrun
      cases hse : step s₀ e with
      | none => simp [hse] at hrun
      | some s' =>
          rw [hse, Option.bind_some] at hrun
          exact (Reachable.next .start hok hse).trans (ih (hrest s' hse) hrun)

/-- Without a side condition every run ends in a reachable state. -/
theorem reachable_of_run_true {step : StepFn σ ε} {s₀ s : σ} {es : List ε}
    (hrun : step.run s₀ es = some s) : step.Reachable (fun _ _ => True) s₀ s := by
  refine reachable_of_run (?_ : step.AllSteps _ s₀ es) hrun
  clear hrun
  induction es generalizing s₀ with
  | nil => trivial
  | cons e es ih => exact ⟨trivial, fun s' _ => ih⟩

/-- Along a run whose steps meet {lit}`ok`, an invariant holds before every step. -/
theorem AllSteps.of_invariant {step : StepFn σ ε} {ok good : σ → ε → Prop} {P : σ → Prop}
    (hstep : ∀ s e s', P s → ok s e → step s e = some s' → P s')
    (hgood : ∀ s e, P s → ok s e → good s e) {s₀ : σ} {es : List ε} (h₀ : P s₀)
    (hall : step.AllSteps ok s₀ es) : step.AllSteps good s₀ es := by
  induction es generalizing s₀ with
  | nil => trivial
  | cons e es ih =>
      obtain ⟨hok, hrest⟩ := hall
      exact ⟨hgood s₀ e h₀ hok, fun s' hs' => ih (hstep s₀ e s' h₀ hok hs') (hrest s' hs')⟩

/-- Along a run whose steps meet a given condition, side conditions agree that agree as long as an
invariant holds, which they keep. -/
theorem AllSteps.iff_of_invariant {step : StepFn σ ε} {given good ok : σ → ε → Prop} {P : σ → Prop}
    (hiff : ∀ s e, P s → given s e → (good s e ↔ ok s e))
    (hstep : ∀ s e s', P s → given s e → ok s e → step s e = some s' → P s') {s₀ : σ}
    (h₀ : P s₀) {es : List ε} (hall : step.AllSteps given s₀ es) :
    step.AllSteps good s₀ es ↔ step.AllSteps ok s₀ es := by
  induction es generalizing s₀ with
  | nil => exact Iff.rfl
  | cons e es ih =>
      obtain ⟨hgiven, hall⟩ := hall
      have hrest : ok s₀ e → ∀ s', step s₀ e = some s' →
          (step.AllSteps good s' es ↔ step.AllSteps ok s' es) :=
        fun hok s' hs' => ih (hstep s₀ e s' h₀ hgiven hok hs') (hall s' hs')
      constructor
      · rintro ⟨hgood, hgoods⟩
        have hok := (hiff s₀ e h₀ hgiven).mp hgood
        exact ⟨hok, fun s' hs' => (hrest hok s' hs').mp (hgoods s' hs')⟩
      · rintro ⟨hok, hoks⟩
        refine ⟨(hiff s₀ e h₀ hgiven).mpr hok, ?_⟩
        exact fun s' hs' => (hrest hok s' hs').mpr (hoks s' hs')

/-- Side conditions that agree as long as an invariant holds, which they keep, agree along
every run. -/
theorem allSteps_iff_of_invariant {step : StepFn σ ε} {good ok : σ → ε → Prop} {P : σ → Prop}
    (hiff : ∀ s e, P s → (good s e ↔ ok s e))
    (hstep : ∀ s e s', P s → ok s e → step s e = some s' → P s') {s₀ : σ} (h₀ : P s₀)
    (es : List ε) : step.AllSteps good s₀ es ↔ step.AllSteps ok s₀ es := by
  have hall : step.AllSteps (fun _ _ => True) s₀ es :=
    allSteps_of_forall_mem (fun _ _ => trivial) s₀
  exact hall.iff_of_invariant (fun s e hs _ => hiff s e hs)
    (fun s e s' hs _ hok hs' => hstep s e s' hs hok hs') h₀

/-! ## Ghost components -/

/-- The system with a ghost component, which each step updates from the states before
and after it and which no step reads. -/
def withGhost (step : StepFn σ ε) (update : σ → ε → σ → γ → γ) : StepFn (σ × γ) ε :=
  fun x e => (step x.1 e).map fun s' => (s', update x.1 e s' x.2)

/-- A step with a ghost is a step, with the ghost updated. -/
theorem withGhost_eq_some {step : StepFn σ ε} {update : σ → ε → σ → γ → γ} {x y : σ × γ}
    {e : ε} :
    step.withGhost update x e = some y ↔
      step x.1 e = some y.1 ∧ y.2 = update x.1 e y.1 x.2 := by
  rw [withGhost, Option.map_eq_some_iff]
  constructor
  · rintro ⟨s', hs', rfl⟩
    exact ⟨hs', rfl⟩
  · rintro ⟨hs', hghost⟩
    exact ⟨y.1, hs', by rw [← hghost]⟩

/-- A side condition on the states alone does not depend on the ghost component. -/
theorem allSteps_withGhost {step : StepFn σ ε} {update : σ → ε → σ → γ → γ}
    {ok : σ → ε → Prop} {s : σ} {g : γ} {es : List ε} :
    (step.withGhost update).AllSteps (fun x e => ok x.1 e) (s, g) es ↔
      step.AllSteps ok s es := by
  induction es generalizing s g with
  | nil => exact Iff.rfl
  | cons e es ih =>
      refine and_congr Iff.rfl ⟨?_, ?_⟩
      · intro hrest s' hs'
        exact ih.mp (hrest (s', update s e s' g) (withGhost_eq_some.mpr ⟨hs', rfl⟩))
      · intro hrest y hy
        obtain ⟨hs', -⟩ := withGhost_eq_some.mp hy
        exact ih.mpr (hrest y.1 hs')

/-! ## Two systems in lockstep -/

/-- Two systems that take every event together. -/
def both (step : StepFn σ ε) (step' : StepFn τ ε) : StepFn (σ × τ) ε := fun x e =>
  (step x.1 e).bind fun s' => (step' x.2 e).map fun t' => (s', t')

/-- A step of both systems is a step of each. -/
theorem both_eq_some_iff {step : StepFn σ ε} {step' : StepFn τ ε} {x y : σ × τ} {e : ε} :
    step.both step' x e = some y ↔ step x.1 e = some y.1 ∧ step' x.2 e = some y.2 := by
  simp only [both, Option.bind_eq_some_iff, Option.map_eq_some_iff]
  constructor
  · rintro ⟨s', hs', t', ht', rfl⟩
    exact ⟨hs', ht'⟩
  · rintro ⟨hs', ht'⟩
    exact ⟨y.1, hs', y.2, ht', rfl⟩

/-- A side condition of one of the systems. -/
theorem AllSteps.both_left {step : StepFn σ ε} {step' : StepFn τ ε} {ok : σ → ε → Prop} {s : σ}
    {t : τ} {es : List ε} (hall : step.AllSteps ok s es) :
    (step.both step').AllSteps (fun x e => ok x.1 e) (s, t) es := by
  induction es generalizing s t with
  | nil => trivial
  | cons e es ih =>
      refine ⟨hall.1, fun y hy => ?_⟩
      exact ih (hall.2 y.1 (both_eq_some_iff.mp hy).1)

/-- Two systems agree along a common schedule exactly when they agree after every step that both
take. -/
theorem rel_run_iff {step : StepFn σ ε} {step' : StepFn τ ε} {R : σ → τ → Prop} {s : σ} {t : τ}
    (hR : R s t) {es : List ε} :
    (∀ n, Option.Rel R (step.run s (es.take n)) (step'.run t (es.take n))) ↔
      (step.both step').AllSteps
        (fun x e => Option.Rel R (step x.1 e) (step' x.2 e)) (s, t) es := by
  induction es generalizing s t with
  | nil => simp [AllSteps, hR]
  | cons e es ih =>
      constructor
      · intro hruns
        refine ⟨by simpa using hruns 1, fun y hy => ?_⟩
        rcases both_eq_some_iff.mp hy with ⟨hs, ht⟩
        have hfirst : R y.1 y.2 := by simpa [hs, ht] using hruns 1
        refine (ih hfirst).mp fun n => ?_
        have hrest := hruns (n + 1)
        rwa [List.take_succ_cons, run_cons, run_cons, hs, ht] at hrest
      · rintro ⟨hfirst, hrest⟩ n
        cases n with
        | zero => exact .some hR
        | succ n =>
            rw [List.take_succ_cons, run_cons, run_cons]
            rcases optionRel_iff.mp hfirst with ⟨hs, ht⟩ | ⟨s', t', hs, ht, hst⟩
            · rw [hs, ht]
              exact .none
            · rw [hs, ht]
              have hnext := hrest (s', t') (both_eq_some_iff.mpr ⟨hs, ht⟩)
              exact (ih hst).mpr hnext n

end StepFn

end MyuTcp.Library
