import Mathlib.Data.List.Basic
import Mathlib.Tactic.Basic

/-!
# Runs of a labelled transition system

A *run* is kept as the list of its steps, newest first.  A step is a pair of
the state it left and the action it took, so a statement about every state
reached and a statement about every step taken are both quantifications over
one list.

`Run.invariant` is the induction over a run.  `Run.always_iff` is the rule for
an exact guard: when each step from a good reachable state leads to a good
state precisely under a condition on that state and the action, a run stays
good precisely when all its steps meet the condition.  `Run.avoids_iff` says the
same of bad steps that such a condition excludes later on.  `Reachable.map` carries
reachability along a projection that takes every step to a step or to nothing.
`inevitably_of_measure` shows that some of the actions, one after the other, lead
to a goal.

`Historically` speaks about a log that is kept newest first: every event stands
in a given relation to the events before it.  `recorded` reads one kind of thing
from such a log, in the order of the events.
-/

namespace Transition

variable {σ α σ' α' : Type*}

/-! ## Runs -/

/-- `Run step s₀ tr s`: the steps `tr`, newest first, lead from `s₀` to `s`. -/
inductive Run (step : σ → α → σ → Prop) (s₀ : σ) : List (σ × α) → σ → Prop where
  | start : Run step s₀ [] s₀
  | step {tr : List (σ × α)} {s s' : σ} {a : α} :
      Run step s₀ tr s → step s a s' → Run step s₀ ((s, a) :: tr) s'

/-- Some run from `s₀` ends in `s`. -/
def Reachable (step : σ → α → σ → Prop) (s₀ s : σ) : Prop := ∃ tr, Run step s₀ tr s

/-- The states of a run: the one it ends in and the ones its steps left. -/
def visited (tr : List (σ × α)) (s : σ) : List σ := s :: tr.map Prod.fst

/-- The steps of `step` that `allowed` admits. -/
def Restrict (step : σ → α → σ → Prop) (allowed : σ → α → Prop) (s : σ) (a : α) (s' : σ) : Prop :=
  step s a s' ∧ allowed s a

variable {step : σ → α → σ → Prop} {s₀ s s' : σ} {a : α} {tr : List (σ × α)}

@[simp] theorem visited_nil (s : σ) : visited ([] : List (σ × α)) s = [s] := rfl

@[simp] theorem visited_cons (s t : σ) (a : α) (tr : List (σ × α)) :
    visited ((t, a) :: tr) s = s :: visited tr t := rfl

theorem Run.reachable (run : Run step s₀ tr s) : Reachable step s₀ s := ⟨tr, run⟩

/-- A run leaves reachable states only, and takes steps. -/
theorem Run.of_mem (run : Run step s₀ tr s) {p : σ × α} (hp : p ∈ tr) :
    Reachable step s₀ p.1 ∧ ∃ s', step p.1 p.2 s' := by
  induction run with
  | start => cases hp
  | step run hs ih =>
      rcases List.mem_cons.mp hp with rfl | hp
      · exact ⟨run.reachable, _, hs⟩
      · exact ih hp

theorem Reachable.refl : Reachable step s₀ s₀ := ⟨[], .start⟩

theorem Reachable.tail (h : Reachable step s₀ s) (hs : step s a s') : Reachable step s₀ s' := by
  obtain ⟨tr, run⟩ := h
  exact ⟨_, run.step hs⟩

/-- What holds at the start and survives every step from a reachable state
holds at every reachable state. -/
theorem Reachable.invariant {I : σ → Prop} (h : Reachable step s₀ s) (start : I s₀)
    (keep : ∀ {s a s'}, Reachable step s₀ s → I s → step s a s' → I s') : I s := by
  obtain ⟨tr, run⟩ := h
  induction run with
  | start => exact start
  | step run hs ih => exact keep run.reachable ih hs

/-! ## Exact guards -/

/-- If a step from a good reachable state ends in a good state exactly under
`guard`, then a run visits good states only, exactly when each of its steps
met `guard`. -/
theorem Run.always_iff {P : σ → Prop} {guard : σ → α → Prop} (start : P s₀)
    (exact_step : ∀ {s a s'}, Reachable step s₀ s → P s → step s a s' → (P s' ↔ guard s a))
    (run : Run step s₀ tr s) :
    (∀ t ∈ visited tr s, P t) ↔ ∀ p ∈ tr, guard p.1 p.2 := by
  induction run with
  | start => simpa using start
  | @step tr s s' a run hs ih =>
      rw [visited_cons, List.forall_mem_cons, List.forall_mem_cons, ← ih]
      constructor
      · intro ⟨hlast, hrest⟩
        exact ⟨(exact_step run.reachable (hrest s List.mem_cons_self) hs).mp hlast, hrest⟩
      · intro ⟨hguard, hrest⟩
        exact ⟨(exact_step run.reachable (hrest s List.mem_cons_self) hs).mpr hguard, hrest⟩

/-- If steps that are not bad do not establish `P`, then a run without bad steps that
ends in `P` has been in it all the time. -/
theorem Run.always_of_last {P : σ → Prop} {bad : σ → α → Prop}
    (back : ∀ {s a s'}, Reachable step s₀ s → step s a s' → ¬ bad s a → P s' → P s)
    (run : Run step s₀ tr s) (hbad : ∀ p ∈ tr, ¬ bad p.1 p.2) (last : P s) :
    ∀ t ∈ visited tr s, P t := by
  induction run with
  | start => exact List.forall_mem_singleton.mpr last
  | step run hs ih =>
      rw [List.forall_mem_cons] at hbad
      rw [visited_cons, List.forall_mem_cons]
      exact ⟨last, ih hbad.2 (back run.reachable hs hbad.1 last)⟩

/-- `P` says that no bad step is to come.  If each step keeps `P` exactly under
`guard`, then a run takes no bad step if all its steps meet `guard`, and only then if
it ends in `P`. -/
theorem Run.avoids_iff {P : σ → Prop} {guard bad : σ → α → Prop} (start : P s₀)
    (exact_step : ∀ {s a s'}, Reachable step s₀ s → P s → step s a s' → (P s' ↔ guard s a))
    (safe : ∀ {s a s'}, Reachable step s₀ s → P s → step s a s' → ¬ bad s a)
    (back : ∀ {s a s'}, Reachable step s₀ s → step s a s' → ¬ bad s a → P s' → P s)
    (run : Run step s₀ tr s) :
    ((∀ p ∈ tr, guard p.1 p.2) → ∀ p ∈ tr, ¬ bad p.1 p.2) ∧
      (P s → ((∀ p ∈ tr, ¬ bad p.1 p.2) ↔ ∀ p ∈ tr, guard p.1 p.2)) := by
  have hiff := run.always_iff start exact_step
  have hsafe : (∀ p ∈ tr, guard p.1 p.2) → ∀ p ∈ tr, ¬ bad p.1 p.2 := by
    intro hguard p hp
    obtain ⟨hr, s', hs⟩ := run.of_mem hp
    have hvisited : p.1 ∈ visited tr s := List.mem_cons_of_mem _ (List.mem_map_of_mem hp)
    exact safe hr (hiff.mpr hguard p.1 hvisited) hs
  refine ⟨hsafe, fun last => ⟨fun hbad => ?_, hsafe⟩⟩
  exact hiff.mp (run.always_of_last back hbad last)

/-- A run whose steps are all allowed is a run of the restricted system. -/
theorem Run.restrict {allowed : σ → α → Prop} (run : Run step s₀ tr s)
    (h : ∀ p ∈ tr, allowed p.1 p.2) : Run (Restrict step allowed) s₀ tr s := by
  induction run with
  | start => exact .start
  | step run hs ih =>
      rw [List.forall_mem_cons] at h
      exact .step (ih h.2) ⟨hs, h.1⟩

theorem Reachable.of_restrict {allowed : σ → α → Prop}
    (h : Reachable (Restrict step allowed) s₀ s) : Reachable step s₀ s := by
  refine h.invariant (I := Reachable step s₀) .refl ?_
  intro s a s' _ ih hs
  exact ih.tail hs.1

/-! ## Progress -/

/-- Whatever steps of the actions in `turn` are taken from `s`, a state that
meets `goal` is reached, and until then there is such a step. -/
inductive Inevitably (step : σ → α → σ → Prop) (turn : α → Prop) (goal : σ → Prop) :
    σ → Prop where
  | done {s : σ} : goal s → Inevitably step turn goal s
  | wait {s : σ} :
      (∃ a s', turn a ∧ step s a s') →
      (∀ {a s'}, turn a → step s a s' → Inevitably step turn goal s') →
      Inevitably step turn goal s

/-- A measure that every step lowers leads to the goal. -/
theorem inevitably_of_measure {turn : α → Prop} {goal I : σ → Prop} (μ : σ → ℕ)
    (lower : ∀ {s a s'}, I s → turn a → step s a s' → I s' ∧ μ s' < μ s)
    (live : ∀ {s}, I s → ¬ goal s → ∃ a s', turn a ∧ step s a s') (h : I s) :
    Inevitably step turn goal s := by
  induction hn : μ s using Nat.strongRecOn generalizing s with
  | ind n ih =>
      by_cases hg : goal s
      · exact .done hg
      · refine .wait (live h hg) ?_
        intro a s' ha hs
        obtain ⟨h', hlt⟩ := lower h ha hs
        exact ih (μ s') (hn ▸ hlt) h' rfl

/-! ## Projections -/

/-- A projection that takes each step to a step or to no change takes
reachable states to reachable states. -/
theorem Reachable.map {step' : σ' → α' → σ' → Prop} (f : σ → σ') (h : Reachable step s₀ s)
    (sim : ∀ {s a s'}, step s a s' → f s' = f s ∨ ∃ b, step' (f s) b (f s')) :
    Reachable step' (f s₀) (f s) := by
  refine h.invariant (I := fun s => Reachable step' (f s₀) (f s)) .refl ?_
  intro s a s' _ ih hs
  rcases sim hs with heq | ⟨b, hb⟩
  · rw [heq]
    exact ih
  · exact ih.tail hb

/-! ## Scripts -/

/-- The run that takes the actions of a script in turn and leaves out those
that `perform` refuses. -/
def replay (perform : α → σ → Option σ) (s : σ) (tr : List (σ × α)) : List α → List (σ × α) × σ
  | [] => (tr, s)
  | a :: script =>
      match perform a s with
      | some s' => replay perform s' ((s, a) :: tr) script
      | none => replay perform s tr script

theorem Run.replay {perform : α → σ → Option σ}
    (sound : ∀ {s a s'}, perform a s = some s' → step s a s') (run : Run step s₀ tr s)
    (script : List α) :
    Run step s₀ (Transition.replay perform s tr script).1
      (Transition.replay perform s tr script).2 := by
  induction script generalizing s tr with
  | nil => exact run
  | cons a script ih =>
      rw [Transition.replay]
      cases hp : perform a s with
      | none => exact ih run
      | some s' => exact ih (run.step (sound hp))

/-! ## Logs -/

variable {ε : Type*}

/-- Every event of a log that is kept newest first stands in the relation `φ`
to the events before it. -/
def Historically (φ : ε → List ε → Prop) : List ε → Prop
  | [] => True
  | e :: past => φ e past ∧ Historically φ past

@[simp] theorem historically_nil (φ : ε → List ε → Prop) : Historically φ [] := trivial

@[simp] theorem historically_cons (φ : ε → List ε → Prop) (e : ε) (past : List ε) :
    Historically φ (e :: past) ↔ φ e past ∧ Historically φ past := Iff.rfl

instance decidableHistorically (φ : ε → List ε → Prop) [∀ e past, Decidable (φ e past)] :
    ∀ log, Decidable (Historically φ log)
  | [] => .isTrue trivial
  | e :: past =>
      have := decidableHistorically φ past
      inferInstanceAs (Decidable (φ e past ∧ Historically φ past))

/-- A log that is good as a whole was good at every earlier time. -/
theorem Historically.of_suffix {φ : ε → List ε → Prop} {past log : List ε} (h : Historically φ log)
    (hsuf : past <:+ log) : Historically φ past := by
  obtain ⟨later, rfl⟩ := hsuf
  induction later with
  | nil => exact h
  | cons e later ih => exact ih h.2

/-- What `f` finds in a log that is kept newest first, oldest first. -/
def recorded {β : Type*} (f : ε → List β) (log : List ε) : List β := log.reverse.flatMap f

@[simp] theorem recorded_nil {β : Type*} (f : ε → List β) : recorded f [] = [] := rfl

theorem recorded_cons {β : Type*} (f : ε → List β) (e : ε) (log : List ε) :
    recorded f (e :: log) = recorded f log ++ f e := by
  rw [recorded, List.reverse_cons, List.flatMap_append, List.flatMap_singleton, recorded]

/-- Events that `f` finds nothing in. -/
theorem recorded_append_left {β : Type*} {f : ε → List β} {later : List ε}
    (h : ∀ e ∈ later, f e = []) (log : List ε) : recorded f (later ++ log) = recorded f log := by
  induction later with
  | nil => rfl
  | cons e later ih =>
      rw [List.forall_mem_cons] at h
      rw [List.cons_append, recorded_cons, h.1, List.append_nil, ih h.2]

end Transition
