import Mathlib.Data.List.Nodup

/-!
# Agreement on the order of broadcasts

A log of rounds, each with its members and the list of those it was sent to.
When every round goes to each of its members once and to nobody else, what a
member receives is the sublist of the rounds it is a member of.  Two members
then receive the rounds they share in one order, with none lost and none
doubled.
-/

namespace Broadcast

variable {ρ ι : Type*} [DecidableEq ι] (members sent : ρ → List ι)

/-- The round `r` goes to each of its members once and to nobody else. -/
def Exact (r : ρ) : Prop := (sent r).Perm (members r) ∧ (members r).Nodup

/-- The rounds that `i` receives, once for each time it is sent one. -/
def received (i : ι) (rounds : List ρ) : List ρ :=
  rounds.flatMap fun r => ((sent r).filter fun j => j = i).map fun _ => r

/-- The rounds that have both `i` and `j` as members. -/
def shared (i j : ι) (rounds : List ρ) : List ρ :=
  rounds.filter fun r => i ∈ members r ∧ j ∈ members r

variable {members sent} {i j : ι} {rounds : List ρ}

/-- An exact round is received once by a member and not at all by others. -/
theorem Exact.filter_sent {r : ρ} (h : Exact members sent r) (i : ι) :
    ((sent r).filter fun j => j = i).map (fun _ => r) = if i ∈ members r then [r] else [] := by
  have hnodup : (sent r).Nodup := h.1.nodup_iff.mpr h.2
  rw [List.map_const', ← List.countP_eq_length_filter]
  show List.replicate ((sent r).count i) r = _
  rw [List.Nodup.count hnodup, ite_congr (propext h.1.mem_iff) (fun _ => rfl) (fun _ => rfl)]
  split <;> rfl

@[simp] theorem received_nil : received sent i [] = [] := rfl

theorem received_singleton (r : ρ) :
    received sent i [r] = ((sent r).filter fun j => j = i).map fun _ => r := by
  simp [received]

theorem received_append (rounds' : List ρ) :
    received sent i (rounds ++ rounds') = received sent i rounds ++ received sent i rounds' :=
  List.flatMap_append

theorem received_eq_filter (h : ∀ r ∈ rounds, Exact members sent r) (i : ι) :
    received sent i rounds = rounds.filter fun r => i ∈ members r := by
  induction rounds with
  | nil => rfl
  | cons r rounds ih =>
      rw [List.forall_mem_cons] at h
      rw [received, List.flatMap_cons, h.1.filter_sent, ← received, ih h.2, List.filter_cons]
      by_cases hi : i ∈ members r
      · simp [hi]
      · simp [hi]

/-- The shared rounds reach both members, in the order of the log. -/
theorem received_shared (h : ∀ r ∈ rounds, Exact members sent r) (i j : ι) :
    (received sent i rounds).filter (fun r => j ∈ members r) = shared members i j rounds ∧
      (received sent j rounds).filter (fun r => i ∈ members r) = shared members i j rounds := by
  rw [received_eq_filter h, received_eq_filter h, List.filter_filter, List.filter_filter]
  refine ⟨?_, ?_⟩
  · refine List.filter_congr fun r _ => ?_
    simp only [Bool.decide_and]
    exact Bool.and_comm _ _
  · refine List.filter_congr fun r _ => ?_
    simp only [Bool.decide_and]

end Broadcast
