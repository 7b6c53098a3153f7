import Mathlib.Data.List.Destutter

/-!
# The changes of a sequence

`changes a l` are the elements of `l` that differ from their predecessor, where
`a` is the predecessor of the first.
-/

namespace List

variable {α : Type*} [DecidableEq α]

/-- The elements of a list that differ from their predecessor. -/
def changes (a : α) (l : List α) : List α := (l.destutter' (· ≠ ·) a).tail

@[simp] theorem changes_nil (a : α) : changes a [] = [] := rfl

theorem changes_cons_self (a : α) (l : List α) : changes a (a :: l) = changes a l := by
  rw [changes, destutter'_cons_neg l (not_not_intro rfl)]
  rfl

theorem destutter'_eq_cons_changes (a : α) (l : List α) :
    l.destutter' (· ≠ ·) a = a :: changes a l := by
  induction l with
  | nil => rfl
  | cons b l ih =>
      by_cases hab : a = b
      · subst hab
        rw [changes_cons_self, destutter'_cons_neg l (not_not_intro rfl)]
        exact ih
      · rw [changes, destutter'_cons_pos l hab]
        rfl

theorem changes_cons_of_ne {a b : α} (hab : a ≠ b) (l : List α) :
    changes a (b :: l) = b :: changes b l := by
  rw [changes, destutter'_cons_pos l hab, tail_cons, destutter'_eq_cons_changes]

/-- No two changes in a row are the same. -/
theorem isChain_cons_changes (a : α) (l : List α) : (a :: changes a l).IsChain (· ≠ ·) := by
  rw [← destutter'_eq_cons_changes]
  exact isChain_destutter' (· ≠ ·) l a

theorem changes_concat (a b : α) (l : List α) :
    changes a (l ++ [b]) = changes a l ++ if l.getLastD a = b then [] else [b] := by
  induction l generalizing a with
  | nil =>
      rw [nil_append, changes_nil, nil_append, getLastD_nil]
      split
      · rename_i hab
        rw [hab, changes_cons_self]
        rfl
      · rename_i hab
        exact changes_cons_of_ne hab []
  | cons c l ih =>
      rw [cons_append, getLastD_cons]
      by_cases hac : a = c
      · subst hac
        rw [changes_cons_self, changes_cons_self, ih]
      · rw [changes_cons_of_ne hac, changes_cons_of_ne hac, ih]
        rfl

/-- The last change is to where the sequence ends. -/
theorem getLastD_changes (a : α) (l : List α) : (changes a l).getLastD a = l.getLastD a := by
  induction l generalizing a with
  | nil => rfl
  | cons b l ih =>
      by_cases hab : a = b
      · subst hab
        rw [changes_cons_self, getLastD_cons, ih]
      · rw [changes_cons_of_ne hab, getLastD_cons, getLastD_cons, ih]

end List
