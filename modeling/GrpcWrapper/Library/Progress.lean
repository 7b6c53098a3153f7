import GrpcWrapper.Library.Transition

/-!
# Progress among other steps

`Inevitably` speaks about runs that take the steps in turn and no others.  Here
any steps may come in between.  Some steps *help* to reach a goal, others may set
it back, and what they set it back is their cost.  A system advances when helpful
steps are always possible and, until the goal is reached, no more of them are
taken than a bound and the cost of the run allow (`Advances`).  So a run with a
finite cost, in which helpful steps go on to be taken, reaches the goal.
-/

namespace Transition

variable {σ α : Type*}

/-- What the steps of a run cost together. -/
def total (cost : σ → α → ℕ) : List (σ × α) → ℕ
  | [] => 0
  | (s, a) :: tr => cost s a + total cost tr

@[simp] theorem total_nil (cost : σ → α → ℕ) : total cost [] = 0 := rfl

@[simp] theorem total_cons (cost : σ → α → ℕ) (s : σ) (a : α) (tr : List (σ × α)) :
    total cost ((s, a) :: tr) = cost s a + total cost tr := rfl

/-- Until the goal is reached, helpful steps can be taken, and no more of them are taken than
`bound` and the cost of the run allow. -/
def Advances (step : σ → α → σ → Prop) (helps : σ → α → Prop) (cost : σ → α → ℕ)
    (goal : σ → Prop) (bound : ℕ) (s : σ) : Prop :=
  ∀ (tr : List (σ × α)) (s' : σ), Run step s tr s' → (∀ t ∈ visited tr s', ¬ goal t) →
    (∀ sub : List (σ × α), sub.Sublist tr → (∀ p ∈ sub, helps p.1 p.2) →
      sub.length ≤ bound + total cost tr) ∧
    ∃ a s'', helps s' a ∧ step s' a s''

variable {step : σ → α → σ → Prop} {s : σ}

/-- A measure that helpful steps lower, and that no step raises by more than its cost. -/
theorem advances_of_measure {helps : σ → α → Prop} {cost : σ → α → ℕ} {goal I : σ → Prop}
    (μ : σ → ℕ)
    (lower : ∀ {s a s'}, I s → helps s a → step s a s' → goal s' ∨ I s' ∧ μ s' < μ s)
    (keep : ∀ {s a s'}, I s → ¬ helps s a → step s a s' →
      goal s' ∨ I s' ∧ μ s' ≤ μ s + cost s a)
    (live : ∀ {s}, I s → ¬ goal s → ∃ a s', helps s a ∧ step s a s') (h : I s) :
    Advances step helps cost goal (μ s) s := by
  intro tr s' run hgoal
  have hmeasure : I s' ∧ ∀ sub : List (σ × α), sub.Sublist tr →
      (∀ p ∈ sub, helps p.1 p.2) → sub.length + μ s' ≤ μ s + total cost tr := by
    induction run with
    | start =>
        refine ⟨h, fun sub hsub _ => ?_⟩
        rw [List.sublist_nil.mp hsub]
        simp
    | @step tr s₁ s₂ a run hs ih =>
        rw [visited_cons, List.forall_mem_cons] at hgoal
        obtain ⟨hI, hbound⟩ := ih hgoal.2
        rw [total_cons]
        by_cases ha : helps s₁ a
        · obtain ⟨hI', hlt⟩ := (lower hI ha hs).resolve_left hgoal.1
          refine ⟨hI', fun sub hsub hhelps => ?_⟩
          cases hsub with
          | cons _ hsub =>
              have hle := hbound sub hsub hhelps
              omega
          | cons_cons _ hsub =>
              have hle := hbound _ hsub (List.forall_mem_cons.mp hhelps).2
              rw [List.length_cons]
              omega
        · obtain ⟨hI', hle'⟩ := (keep hI ha hs).resolve_left hgoal.1
          refine ⟨hI', fun sub hsub hhelps => ?_⟩
          cases hsub with
          | cons _ hsub =>
              have hle := hbound sub hsub hhelps
              omega
          | cons_cons _ _ => exact absurd (List.forall_mem_cons.mp hhelps).1 ha
  refine ⟨fun sub hsub hhelps => ?_, live hmeasure.1 ?_⟩
  · have hle := hmeasure.2 sub hsub hhelps
    omega
  · exact hgoal s' List.mem_cons_self

end Transition
