import Mathlib.Data.List.Nodup

/-!
# Lists with distinct keys

Messages in flight are a list in which a key, such as an identifier, names each
message.  Taking out the first message with a key takes out that message alone.
-/

namespace Keyed

variable {α κ : Type*} [DecidableEq κ] {key : α → κ} {l : List α} {a b : α}

/-- With distinct keys, removing the first match of a key removes every match. -/
theorem eraseP_eq_filter (nodup : (l.map key).Nodup) (k : κ) :
    l.eraseP (fun b => key b = k) = l.filter fun b => key b ≠ k := by
  induction l with
  | nil => rfl
  | cons b l ih =>
      rw [List.map_cons, List.nodup_cons] at nodup
      by_cases heq : key b = k
      · have hrest : ∀ c ∈ l, key c ≠ k := by
          intro c hc hck
          exact nodup.1 (List.mem_map.mpr ⟨c, hc, hck.trans heq.symm⟩)
        rw [List.eraseP_cons_of_pos (by simpa using heq),
          List.filter_cons_of_neg (by simpa using heq),
          List.filter_eq_self.mpr (by simpa using hrest)]
      · rw [List.eraseP_cons_of_neg (by simpa using heq),
          List.filter_cons_of_pos (by simpa using heq), ih nodup.2]

theorem mem_eraseP (nodup : (l.map key).Nodup) (k : κ) :
    b ∈ l.eraseP (fun c => key c = k) ↔ b ∈ l ∧ key b ≠ k := by
  rw [eraseP_eq_filter nodup, List.mem_filter, decide_eq_true_iff]

omit [DecidableEq κ] in
/-- Two messages with one key are the same message. -/
theorem eq_of_key (nodup : (l.map key).Nodup) (ha : a ∈ l) (hb : b ∈ l)
    (heq : key a = key b) : a = b :=
  List.inj_on_of_nodup_map nodup ha hb heq

omit [DecidableEq κ] in
theorem nodup_concat (nodup : (l.map key).Nodup) (fresh : ∀ b ∈ l, key b ≠ key a) :
    ((l ++ [a]).map key).Nodup := by
  rw [List.map_append, List.map_singleton]
  refine List.Nodup.append nodup (List.nodup_singleton _) ?_
  intro k hk hk'
  obtain ⟨b, hb, rfl⟩ := List.mem_map.mp hk
  exact fresh b hb (List.mem_singleton.mp hk')

/-- A message is the only one with its key. -/
theorem filter_key_eq_singleton (nodup : (l.map key).Nodup) (ha : a ∈ l) :
    l.filter (fun b => key b = key a) = [a] := by
  induction l with
  | nil => cases ha
  | cons b l ih =>
      rw [List.map_cons, List.nodup_cons] at nodup
      rcases List.mem_cons.mp ha with rfl | ha
      · have hrest : ∀ c ∈ l, key c ≠ key a := fun c hc heq =>
          nodup.1 (List.mem_map.mpr ⟨c, hc, heq⟩)
        rw [List.filter_cons_of_pos (by simp), List.filter_eq_nil_iff.mpr (by simpa using hrest)]
      · have hne : key b ≠ key a := fun heq => nodup.1 (List.mem_map.mpr ⟨a, ha, heq.symm⟩)
        rw [List.filter_cons_of_neg (by simpa using hne), ih nodup.2 ha]

end Keyed
