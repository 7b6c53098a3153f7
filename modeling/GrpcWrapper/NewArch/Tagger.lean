import GrpcWrapper.Library.Map
import GrpcWrapper.Server.Tag

/-!
# The tagger

The tags of the new architecture.  A `Tagger` is the table of live tags behind a
lock of its own, so each of its functions is one section.
-/

namespace Grpcw.NewArch

open Server (Addr)

inductive TagLabel where
  | clientConnectionChange
  | clientFinished
  | serverNewRpc
  | serverWriting
  | serverDone
deriving DecidableEq, Repr

structure Tag where
  data : Addr
  label : TagLabel
deriving DecidableEq, Repr

/-- `tags_`, keyed by the addresses of the tags. -/
abbrev Tagger := Map Addr Tag

/-- `make_tag`, where `tag` is the address of the new object. -/
def makeTag (tag data : Addr) (label : TagLabel) (tagger : Tagger) : Tagger :=
  tagger.emplace tag ⟨data, label⟩

/-- `get_tag`; `none` is the exception. -/
def getTag (key : Addr) (tagger : Tagger) : Option (Tag × Tagger) :=
  (tagger.lookup key).map fun tag => (tag, tagger.erase key)

theorem getTag_of_lookup {key : Addr} {tagger : Tagger} {tag : Tag}
    (h : tagger.lookup key = some tag) : getTag key tagger = some (tag, tagger.erase key) := by
  rw [getTag, h]
  rfl

end Grpcw.NewArch
