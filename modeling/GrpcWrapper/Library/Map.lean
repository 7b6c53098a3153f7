import Mathlib.Data.List.AList

/-!
# Finite maps with `emplace`

A finite map is an association list without duplicate keys, so a map with two
entries for one key cannot be built.  `emplace` adds an entry only when the key
is absent; unlike `AList.insert` it never replaces a value.
-/

/-- A finite map from `κ` to `ν`. -/
abbrev Map (κ ν : Type*) := AList fun _ : κ => ν

namespace Map

variable {κ ν : Type*} [DecidableEq κ] {m : Map κ ν} {k k' : κ} {v v' : ν}

/-- Add an entry unless the key has one. -/
def emplace (m : Map κ ν) (k : κ) (v : ν) : Map κ ν :=
  if k ∈ m then m else m.insert k v

theorem emplace_of_notMem (h : k ∉ m) : m.emplace k v = m.insert k v := if_neg h

theorem lookup_emplace (h : k ∉ m) (k' : κ) :
    (m.emplace k v).lookup k' = if k' = k then some v else m.lookup k' := by
  rw [emplace_of_notMem h]
  by_cases heq : k' = k
  · subst heq
    rw [if_pos rfl, AList.lookup_insert]
  · rw [if_neg heq, AList.lookup_insert_ne heq]

@[simp] theorem mem_emplace : k' ∈ m.emplace k v ↔ k' = k ∨ k' ∈ m := by
  rw [emplace]
  split
  · rename_i hk
    constructor
    · exact Or.inr
    · rintro (rfl | h)
      · exact hk
      · exact h
  · exact AList.mem_insert m

theorem keys_emplace (h : k ∉ m) : (m.emplace k v).keys = k :: m.keys := by
  rw [emplace_of_notMem h, AList.keys_insert, List.erase_of_not_mem]
  exact fun hmem => h (AList.mem_keys.mpr hmem)

/-- A key whose value is replaced. -/
theorem keys_insert_perm (h : k ∈ m) : (m.insert k v).keys.Perm m.keys := by
  rw [AList.keys_insert]
  exact (List.perm_cons_erase (AList.mem_keys.mp h)).symm

theorem lookup_erase_eq (k k' : κ) (m : Map κ ν) :
    AList.lookup k' (m.erase k) = if k' = k then none else m.lookup k' := by
  by_cases heq : k' = k
  · subst heq
    rw [if_pos rfl, AList.lookup_erase]
  · rw [if_neg heq, AList.lookup_erase_ne heq]

theorem mem_iff_lookup : k ∈ m ↔ ∃ v, m.lookup k = some v := by
  rw [← AList.lookup_isSome, Option.isSome_iff_exists]

theorem mem_of_lookup (h : m.lookup k = some v) : k ∈ m := mem_iff_lookup.mpr ⟨v, h⟩

/-- From some number on, no key is in use. -/
theorem exists_forall_notMem (m : Map ℕ ν) : ∃ n, ∀ k, n ≤ k → k ∉ m := by
  have hbound : ∀ l : List ℕ, ∃ n, ∀ k ∈ l, k < n := by
    intro l
    induction l with
    | nil => exact ⟨0, List.forall_mem_nil _⟩
    | cons k l ih =>
        obtain ⟨n, hn⟩ := ih
        refine ⟨max (k + 1) n, List.forall_mem_cons.mpr ⟨by omega, fun k' hk' => ?_⟩⟩
        exact lt_of_lt_of_le (hn k' hk') (le_max_right _ _)
  obtain ⟨n, hn⟩ := hbound m.keys
  refine ⟨n, fun k hle hmem => ?_⟩
  exact Nat.not_le_of_lt (hn k (AList.mem_keys.mp hmem)) hle

/-- Apply a function to every value. -/
def mapValues (f : ν → ν) (m : Map κ ν) : Map κ ν where
  entries := m.entries.map fun e => ⟨e.1, f e.2⟩
  nodupKeys := by
    have hkeys : (m.entries.map fun e => (⟨e.1, f e.2⟩ : Sigma fun _ : κ => ν)).keys =
        m.entries.keys := by
      simp [List.keys, Function.comp_def]
    rw [List.NodupKeys, hkeys]
    exact m.nodupKeys

@[simp] theorem lookup_mapValues (f : ν → ν) (m : Map κ ν) (k : κ) :
    (m.mapValues f).lookup k = (m.lookup k).map f := by
  ext v
  show v ∈ (m.mapValues f).lookup k ↔ v ∈ (m.lookup k).map f
  rw [AList.mem_lookup_iff, Option.mem_def, Option.map_eq_some_iff]
  constructor
  · intro hm
    obtain ⟨⟨k', w⟩, hw, heq⟩ := List.mem_map.mp hm
    cases heq
    exact ⟨w, AList.mem_lookup_iff.mpr hw, rfl⟩
  · rintro ⟨w, hw, rfl⟩
    exact List.mem_map.mpr ⟨⟨k, w⟩, AList.mem_lookup_iff.mp hw, rfl⟩

/-- The values of a map, in the order of its entries. -/
def values (m : Map κ ν) : List ν := m.entries.map Sigma.snd

theorem mem_values : v ∈ m.values ↔ ∃ k, m.lookup k = some v := by
  rw [values]
  rw [List.mem_map]
  constructor
  · rintro ⟨⟨k, v⟩, hm, rfl⟩
    exact ⟨k, AList.mem_lookup_iff.mpr hm⟩
  · intro ⟨k, h⟩
    exact ⟨⟨k, v⟩, AList.mem_lookup_iff.mp h, rfl⟩

/-- A function of the values that no two keys share has no duplicates over the
values. -/
theorem nodup_map_values {β : Type*} (f : ν → β)
    (inj : ∀ {k k' v v'}, m.lookup k = some v → m.lookup k' = some v' → f v = f v' → k = k') :
    (m.values.map f).Nodup := by
  rw [values]
  rw [List.map_map]
  have hkeys : (m.entries.map Sigma.fst).Nodup := m.nodupKeys
  refine List.Nodup.map_on ?_ hkeys.of_map
  intro ⟨k, v⟩ hm ⟨k', v'⟩ hm' heq
  have hv := AList.mem_lookup_iff.mpr hm
  have hv' := AList.mem_lookup_iff.mpr hm'
  obtain rfl := inj hv hv' heq
  have heqv : v = v' := Option.some.inj (hv.symm.trans hv')
  rw [heqv]

end Map
