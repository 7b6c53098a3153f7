import GrpcWrapper.Library.Map

/-!
# Registries with one ticket for each entry

A registry is a map of entries, each of which may hold a slot that is open for
something from outside.  A *ticket* is outstanding for a slot: it names the key
of the entry and the slot.  An entry that is being set up has no slot yet and
no ticket.

`Registry.Sound` says that every other entry has exactly one ticket, which is
for the slot that the entry holds now, and that there are no further tickets.
There is one lemma for each way in which such a registry changes.
-/

namespace Registry

variable {κ η ς θ : Type*} [DecidableEq κ]

/-- Each entry has one ticket, for its present slot, unless it is being set up. -/
structure Sound (slot : η → Option ς) (key : θ → κ) (held : θ → ς) (entries : Map κ η)
    (pending : List κ) (tickets : List θ) : Prop where
  keysNodup : (tickets.map key).Nodup
  current : ∀ t ∈ tickets, key t ∉ pending ∧
    ∃ e, entries.lookup (key t) = some e ∧ slot e = some (held t)
  served : ∀ k ∈ entries, k ∉ pending → ∃ t ∈ tickets, key t = k
  pendingNodup : pending.Nodup
  empty : ∀ k ∈ pending, ∃ e, entries.lookup k = some e ∧ slot e = none

variable {slot : η → Option ς} {key : θ → κ} {held : θ → ς} {entries : Map κ η}
  {pending : List κ} {tickets tickets' : List θ} {t u : θ} {k : κ} {e e' : η}

theorem Sound.nil : Sound slot key held ∅ [] [] where
  keysNodup := List.nodup_nil
  current := by intro t ht; cases ht
  served := by intro k hk; exact absurd hk (AList.notMem_empty k)
  pendingNodup := List.nodup_nil
  empty := by intro k hk; cases hk

/-- The order of the tickets does not matter. -/
theorem Sound.perm (h : Sound slot key held entries pending tickets)
    (hperm : tickets.Perm tickets') : Sound slot key held entries pending tickets' where
  keysNodup := (hperm.map key).nodup_iff.mp h.keysNodup
  current := by
    intro t ht
    exact h.current t (hperm.mem_iff.mpr ht)
  served := by
    intro k hk hp
    obtain ⟨t, ht, heq⟩ := h.served k hk hp
    exact ⟨t, hperm.mem_iff.mp ht, heq⟩
  pendingNodup := h.pendingNodup
  empty := h.empty

/-- A ticket belongs to an entry. -/
theorem Sound.mem_entries (h : Sound slot key held entries pending tickets) (ht : t ∈ tickets) :
    key t ∈ entries := by
  obtain ⟨-, e, he, -⟩ := h.current t ht
  exact Map.mem_of_lookup he

/-- A new entry, to be set up. -/
theorem Sound.emplace (h : Sound slot key held entries pending tickets) (hk : k ∉ entries)
    (he : slot e = none) : Sound slot key held (entries.emplace k e) (k :: pending) tickets where
  keysNodup := h.keysNodup
  current := by
    intro t ht
    obtain ⟨hp, e', he', hs⟩ := h.current t ht
    have hne : key t ≠ k := fun heq => hk (heq ▸ h.mem_entries ht)
    refine ⟨List.not_mem_cons_of_ne_of_not_mem hne hp, e', ?_, hs⟩
    rw [Map.lookup_emplace hk, if_neg hne, he']
  served := by
    intro k' hk' hp
    obtain ⟨hne, hp⟩ := not_or.mp fun hor => hp (List.mem_cons.mpr hor)
    exact h.served k' ((Map.mem_emplace.mp hk').resolve_left hne) hp
  pendingNodup := by
    refine List.nodup_cons.mpr ⟨fun hp => ?_, h.pendingNodup⟩
    obtain ⟨e', he', -⟩ := h.empty k hp
    exact hk (Map.mem_of_lookup he')
  empty := by
    intro k' hk'
    by_cases heq : k' = k
    · exact ⟨e, by rw [Map.lookup_emplace hk, if_pos heq], he⟩
    · obtain ⟨e', he', hs⟩ := h.empty k' (List.mem_of_ne_of_mem heq hk')
      exact ⟨e', by rw [Map.lookup_emplace hk, if_neg heq, he'], hs⟩

/-- An entry is set up: it holds a slot now and has a ticket for it. -/
theorem Sound.activate (h : Sound slot key held entries pending tickets) (hk : key t ∈ pending)
    (he : slot e = some (held t)) :
    Sound slot key held (entries.insert (key t) e) (pending.erase (key t)) (t :: tickets) where
  keysNodup := by
    refine List.nodup_cons.mpr ⟨fun hm => ?_, h.keysNodup⟩
    obtain ⟨u, hu, heq⟩ := List.mem_map.mp hm
    exact (h.current u hu).1 (heq ▸ hk)
  current := by
    intro u hu
    rcases List.mem_cons.mp hu with rfl | hu
    · exact ⟨h.pendingNodup.not_mem_erase, e, AList.lookup_insert entries, he⟩
    · obtain ⟨hp, e', he', hs⟩ := h.current u hu
      have hne : key u ≠ key t := fun heq => hp (heq ▸ hk)
      refine ⟨fun hm => hp (List.mem_of_mem_erase hm), e', ?_, hs⟩
      rw [AList.lookup_insert_ne hne, he']
  served := by
    intro k hk' hp
    by_cases heq : k = key t
    · exact ⟨t, List.mem_cons_self, heq.symm⟩
    · have hk'' : k ∈ entries := ((AList.mem_insert entries).mp hk').resolve_left heq
      obtain ⟨u, hu, hku⟩ := h.served k hk'' fun hm => hp ((List.mem_erase_of_ne heq).mpr hm)
      exact ⟨u, List.mem_cons_of_mem t hu, hku⟩
  pendingNodup := h.pendingNodup.erase _
  empty := by
    intro k hk'
    have hne : k ≠ key t := by
      intro heq
      rw [heq] at hk'
      exact h.pendingNodup.not_mem_erase hk'
    obtain ⟨e', he', hs⟩ := h.empty k (List.mem_of_mem_erase hk')
    exact ⟨e', by rw [AList.lookup_insert_ne hne, he'], hs⟩

theorem Sound.ne_of_pending (h : Sound slot key held entries pending (t :: tickets))
    (hk : k ∈ pending) : k ≠ key t := by
  intro heq
  subst heq
  exact (h.current t List.mem_cons_self).1 hk

/-- An entry gets another slot, and its ticket is replaced. -/
theorem Sound.replace (h : Sound slot key held entries pending (t :: tickets))
    (hkey : key u = key t) (he : slot e = some (held u)) :
    Sound slot key held (entries.insert (key t) e) pending (u :: tickets) where
  keysNodup := by
    rw [List.map_cons, hkey, ← List.map_cons]
    exact h.keysNodup
  current := by
    intro v hv
    rcases List.mem_cons.mp hv with rfl | hv
    · rw [hkey]
      exact ⟨(h.current t List.mem_cons_self).1, e, AList.lookup_insert entries, he⟩
    · obtain ⟨hp, e', he', hs⟩ := h.current v (List.mem_cons_of_mem t hv)
      have hne : key v ≠ key t := by
        intro heq
        have hnodup := h.keysNodup
        rw [List.map_cons, List.nodup_cons] at hnodup
        exact hnodup.1 (List.mem_map.mpr ⟨v, hv, heq⟩)
      exact ⟨hp, e', by rw [AList.lookup_insert_ne hne, he'], hs⟩
  served := by
    intro k hk hp
    by_cases heq : k = key t
    · exact ⟨u, List.mem_cons_self, hkey.trans heq.symm⟩
    · obtain ⟨v, hv, hkv⟩ := h.served k (((AList.mem_insert entries).mp hk).resolve_left heq) hp
      rcases List.mem_cons.mp hv with rfl | hv
      · exact absurd hkv.symm heq
      · exact ⟨v, List.mem_cons_of_mem u hv, hkv⟩
  pendingNodup := h.pendingNodup
  empty := by
    intro k hk
    obtain ⟨e', he', hs⟩ := h.empty k hk
    exact ⟨e', by rw [AList.lookup_insert_ne (h.ne_of_pending hk), he'], hs⟩

/-- An entry goes with its ticket. -/
theorem Sound.erase (h : Sound slot key held entries pending (t :: tickets)) :
    Sound slot key held (AList.erase (key t) entries) pending tickets where
  keysNodup := (List.nodup_cons.mp h.keysNodup).2
  current := by
    intro u hu
    obtain ⟨hp, e', he', hs⟩ := h.current u (List.mem_cons_of_mem t hu)
    have hne : key u ≠ key t := fun heq =>
      (List.nodup_cons.mp h.keysNodup).1 (List.mem_map.mpr ⟨u, hu, heq⟩)
    exact ⟨hp, e', by rw [Map.lookup_erase_eq, if_neg hne, he'], hs⟩
  served := by
    intro k hk hp
    obtain ⟨hne, hk⟩ := AList.mem_erase.mp hk
    obtain ⟨u, hu, hku⟩ := h.served k hk hp
    rcases List.mem_cons.mp hu with rfl | hu
    · exact absurd hku.symm hne
    · exact ⟨u, hu, hku⟩
  pendingNodup := h.pendingNodup
  empty := by
    intro k hk
    obtain ⟨e', he', hs⟩ := h.empty k hk
    exact ⟨e', by rw [Map.lookup_erase_eq, if_neg (h.ne_of_pending hk), he'], hs⟩

/-- When an entry changes and keeps its slot, each entry keeps its slot. -/
theorem exists_insert (hk : entries.lookup k = some e) (he : slot e' = slot e) {k' : κ} {f : η}
    (hf : entries.lookup k' = some f) :
    ∃ f', (entries.insert k e').lookup k' = some f' ∧ slot f' = slot f := by
  by_cases heq : k' = k
  · subst heq
    obtain rfl : e = f := Option.some.inj (hk.symm.trans hf)
    exact ⟨e', AList.lookup_insert entries, he⟩
  · exact ⟨f, by rw [AList.lookup_insert_ne heq, hf], rfl⟩

/-- An entry changes and keeps its slot. -/
theorem Sound.update (h : Sound slot key held entries pending tickets)
    (hk : entries.lookup k = some e) (he : slot e' = slot e) :
    Sound slot key held (entries.insert k e') pending tickets where
  keysNodup := h.keysNodup
  current := by
    intro t ht
    obtain ⟨hp, f, hf, hs⟩ := h.current t ht
    obtain ⟨f', hf', hs'⟩ := exists_insert hk he hf
    exact ⟨hp, f', hf', hs'.trans hs⟩
  served := by
    intro k' hk' hp
    rcases (AList.mem_insert entries).mp hk' with rfl | hk'
    · exact h.served k' (Map.mem_of_lookup hk) hp
    · exact h.served k' hk' hp
  pendingNodup := h.pendingNodup
  empty := by
    intro k' hk'
    obtain ⟨f, hf, hs⟩ := h.empty k' hk'
    obtain ⟨f', hf', hs'⟩ := exists_insert hk he hf
    exact ⟨f', hf', hs'.trans hs⟩

/-- With no ticket outstanding and nothing being set up there is no entry. -/
theorem Sound.entries_eq_empty (h : Sound slot key held entries [] []) : entries = ∅ := by
  have hnil : entries.keys = [] := by
    refine List.eq_nil_iff_forall_not_mem.mpr fun k hk => ?_
    obtain ⟨t, ht, -⟩ := h.served k (AList.mem_keys.mpr hk) (by simp)
    cases ht
  exact AList.ext (List.map_eq_nil_iff.mp hnil)

/-- Every entry that is set up has exactly one ticket. -/
theorem Sound.existsUnique (h : Sound slot key held entries pending tickets) (hk : k ∈ entries)
    (hp : k ∉ pending) : ∃! t, t ∈ tickets ∧ key t = k := by
  obtain ⟨t, ht, heq⟩ := h.served k hk hp
  refine ⟨t, ⟨ht, heq⟩, ?_⟩
  intro u ⟨hu, hku⟩
  exact List.inj_on_of_nodup_map h.keysNodup hu ht (hku.trans heq.symm)

end Registry
