import GrpcWrapper.Library.Map

/-!
# Tags

A tag is the heap object whose address is handed to gRPC and comes back from a
completion queue.  The table owns the object: `makeTag` enters it under its own
address and `getTag` copies it out and frees it.  Where the allocator places a
new `Tag` is not the program's choice, so `makeTag` takes the address.
-/

namespace Grpcw.Server

/-- A `void*` that is not null.  A pointer that may be null is an
`Option Addr`. -/
abbrev Addr := Nat

/-- `ClientID`, with `none` for the null pointer. -/
abbrev ClientID := Option Addr

inductive TagLabel where
  | writing
  | done
deriving DecidableEq, Repr

structure Tag where
  data : Addr
  label : TagLabel
deriving DecidableEq, Repr

/-- The table of live tags, keyed by their addresses. -/
abbrev Tags := Map Addr Tag

/-- `make_tag`, where `tag` is the address of the new object and the pointer it
returns. -/
def makeTag (tag data : Addr) (label : TagLabel) (tags : Tags) : Tags :=
  tags.emplace tag ⟨data, label⟩

/-- `get_tag`; `none` is its failed assertion. -/
def getTag (key : Addr) (tags : Tags) : Option (Tag × Tags) :=
  (tags.lookup key).map fun tag => (tag, tags.erase key)

variable {tags : Tags} {tag key data : Addr} {label : TagLabel}

theorem lookup_makeTag (h : tag ∉ tags) (key : Addr) :
    (makeTag tag data label tags).lookup key =
      if key = tag then some ⟨data, label⟩ else tags.lookup key :=
  Map.lookup_emplace h key

@[simp] theorem mem_makeTag : key ∈ makeTag tag data label tags ↔ key = tag ∨ key ∈ tags :=
  Map.mem_emplace

theorem getTag_of_lookup {t : Tag} (h : tags.lookup key = some t) :
    getTag key tags = some (t, tags.erase key) := by
  rw [getTag, h]
  rfl

/-- A tag comes back as it was made, and the table is as it was before. -/
theorem getTag_makeTag (h : tag ∉ tags) :
    ∃ rest, getTag tag (makeTag tag data label tags) = some (⟨data, label⟩, rest) ∧
      ∀ key, rest.lookup key = tags.lookup key := by
  refine ⟨_, getTag_of_lookup (by rw [lookup_makeTag h, if_pos rfl]), ?_⟩
  intro key
  rw [Map.lookup_erase_eq, lookup_makeTag h]
  by_cases heq : key = tag
  · subst heq
    rw [if_pos rfl, AList.lookup_eq_none.mpr h]
  · rw [if_neg heq, if_neg heq]

end Grpcw.Server
