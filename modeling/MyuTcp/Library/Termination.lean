import Mathlib

/-!
# Termination of relations

A relation terminates from a point when no infinite chain of steps starts there.  A measure
into a well-founded order proves termination as long as a set of bad points is avoided; when
every bad point has a bad successor, avoiding them is also necessary.

Main results:

- Theorem {lit}`terminates_of_decreasing`: termination by a measure that decreases outside the
  bad points.
- Theorem {lit}`terminates_iff_avoids`: when bad points go on for ever, termination is to
  avoid them.
-/

namespace MyuTcp.Library

variable {α β : Type*} {r : α → α → Prop} {bad : α → Prop} {a b : α}

/-- No infinite chain of steps starts here. -/
def Terminates (r : α → α → Prop) (a : α) : Prop :=
  ¬ ∃ f : ℕ → α, f 0 = a ∧ ∀ n, r (f n) (f (n + 1))

/-- Termination is accessibility. -/
theorem terminates_iff_acc : Terminates r a ↔ Acc (flip r) a := by
  unfold Terminates
  rw [← not_iff_not, not_not, not_acc_iff_exists_descending_chain]
  rfl

/-- After a step the rest terminates. -/
theorem Terminates.step (h : Terminates r a) (hab : r a b) : Terminates r b := by
  rw [terminates_iff_acc] at h ⊢
  exact h.inv hab

/-- After any steps the rest terminates. -/
theorem Terminates.steps (h : Terminates r a) (hab : Relation.ReflTransGen r a b) :
    Terminates r b := by
  induction hab with
  | refl => exact h
  | tail _ hstep ih => exact ih.step hstep

/-- A measure that decreases at every step from a point that is not bad. -/
theorem terminates_of_decreasing [Preorder β] [WellFoundedLT β] (μ : α → β)
    (hdecrease : ∀ a b, ¬ bad a → r a b → μ b < μ a)
    (havoid : ∀ b, Relation.ReflTransGen r a b → ¬ bad b) : Terminates r a := by
  rw [terminates_iff_acc]
  generalize hm : μ a = m
  induction m using WellFoundedLT.induction generalizing a with
  | ind m ih =>
      subst hm
      constructor
      intro b hab
      have hlt : μ b < μ a := hdecrease a b (havoid a .refl) hab
      exact ih (μ b) hlt (fun c hbc => havoid c (.head hab hbc)) rfl

/-- A bad point with bad successors for ever. -/
theorem not_terminates_of_bad (hgo : ∀ a, bad a → ∃ b, r a b ∧ bad b) (ha : bad a) :
    ¬ Terminates r a := by
  rw [terminates_iff_acc]
  intro hacc
  induction hacc with
  | intro a _ ih =>
      rcases hgo a ha with ⟨b, hab, hb⟩
      exact ih b hab hb

/-- Termination is to avoid the bad points. -/
theorem terminates_iff_avoids [Preorder β] [WellFoundedLT β] (μ : α → β)
    (hdecrease : ∀ a b, ¬ bad a → r a b → μ b < μ a)
    (hgo : ∀ a, bad a → ∃ b, r a b ∧ bad b) (a : α) :
    Terminates r a ↔ ∀ b, Relation.ReflTransGen r a b → ¬ bad b := by
  constructor
  · intro h b hab hb
    exact not_terminates_of_bad hgo hb (h.steps hab)
  · exact terminates_of_decreasing μ hdecrease

/-! ## Where the chains end -/

/-- Every maximal chain of steps from here is finite and ends in a point with {lit}`P`. -/
inductive EndsIn (r : α → α → Prop) (P : α → Prop) : α → Prop
  | stop {a : α} (hstop : ∀ b, ¬ r a b) (ha : P a) : EndsIn r P a
  | step {a b : α} (hab : r a b) (hnext : ∀ c, r a c → EndsIn r P c) : EndsIn r P a

variable {P Q : α → Prop}

/-- The end may be described more weakly. -/
theorem EndsIn.mono (h : EndsIn r P a) (hle : ∀ a, P a → Q a) : EndsIn r Q a := by
  induction h with
  | stop hstop ha => exact .stop hstop (hle _ ha)
  | step hab _ ih => exact .step hab ih

/-- What ends somewhere terminates. -/
theorem EndsIn.terminates (h : EndsIn r P a) : Terminates r a := by
  rw [terminates_iff_acc]
  induction h with
  | stop hstop _ => exact ⟨_, fun b hab => absurd hab (hstop b)⟩
  | step _ _ ih => exact ⟨_, ih⟩

/-- Wherever the steps stop is an end. -/
theorem EndsIn.of_steps (h : EndsIn r P a) (hab : Relation.ReflTransGen r a b)
    (hstop : ∀ c, ¬ r b c) : P b := by
  induction h with
  | stop hend ha =>
      rcases Relation.ReflTransGen.cases_head hab with rfl | ⟨c, hac, -⟩
      · exact ha
      · exact absurd hac (hend c)
  | step hac _ ih =>
      rcases Relation.ReflTransGen.cases_head hab with rfl | ⟨d, had, hdb⟩
      · exact absurd hac (hstop _)
      · exact ih d had hdb

end MyuTcp.Library
