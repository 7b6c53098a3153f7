import GrpcWrapper.Server.StreamInvariant
import Mathlib.Data.Finset.Card

/-!
# Operations and tags in flight

What the handler's invariant says about gRPC.  A stream has at most one write
or finish at gRPC, `processing` is the set of the streams that have one, and
the thread that handles tags never frees a stream while gRPC works on it
(`reachable_oneInFlight`).  The table of tags is the list of operations
at gRPC in another form, so the assertion in `getTag` holds and a tag is never
taken for that of another operation (`reachable_tagTable`).
-/

namespace Grpcw.Server

open Transition

variable {Request Response Status : Type}

namespace StreamRpcHandler

variable {h : StreamRpcHandler Request Response Status} {op : Operation Response Status}
  {callOk : Bool} {s : Synchronized Request Response Status}

/-! ## One operation for each stream -/

/-- The writing tags at gRPC are for distinct connections, which are the ones
in `processing`, and those are active. -/
structure OneInFlight (h : StreamRpcHandler Request Response Status) : Prop where
  distinct : (h.writing.map Operation.data).Nodup
  processing : (h.writing.map Operation.data).toFinset = h.connections.processing
  active : ∀ key ∈ h.connections.processing, key ∈ h.connections.active
  /-- No responder has two operations. -/
  responder : (h.writing.map Operation.conn).Nodup

/-- No operation at gRPC is on a connection that `h'` has freed. -/
def FreesIdle (h h' : StreamRpcHandler Request Response Status) : Prop :=
  ∀ key c, h.Owns key c → ¬ h'.Owns key c → ∀ op ∈ h'.writing, op.data ≠ key ∧ op.conn ≠ c.serial

/-- Distinct addresses are distinct connections, as each operation is on the
connection that is active at its address. -/
theorem Inv.responder_nodup (hi : h.Inv) : (h.writing.map Operation.conn).Nodup := by
  refine List.Nodup.map_on ?_ hi.writingNodup.of_map
  intro op hop op' hop' heq
  have ho := hi.holds_writing hop
  have ho' := hi.holds_writing hop'
  rw [← heq] at ho'
  exact Keyed.eq_of_key hi.writingNodup hop hop' (hi.holds_inj ho ho')

theorem Inv.toFinset_writing (hi : h.Inv) :
    (h.writing.map Operation.data).toFinset = h.connections.processing := by
  ext key
  rw [List.mem_toFinset, List.mem_map, hi.processingMem]

theorem Inv.oneInFlight (hi : h.Inv) : h.OneInFlight where
  distinct := hi.writingNodup
  processing := hi.toFinset_writing
  active := fun _ hk => hi.processing_active hk
  responder := hi.responder_nodup

/-- In a state with the invariant, whatever connection is not held has no
operation at gRPC. -/
theorem Inv.freesIdle {h' : StreamRpcHandler Request Response Status} (hi : h.Inv) (hi' : h'.Inv)
    (hal : ∀ {key c}, h'.Owns key c → h.Owns key c) : FreesIdle h h' := by
  intro key c ho hno op hop
  obtain ⟨c', ha, hs⟩ := hi'.writingHome hop
  have ho' : h.Owns op.data c' := hal (.active ha)
  refine ⟨?_, ?_⟩
  · intro heq
    subst heq
    rw [hi.owns_key ho ho'] at hno
    exact hno (.active ha)
  · intro heq
    have hkey : op.data = key := hi.ownsInj ho' ho (hs.trans heq)
    subst hkey
    rw [hi.owns_key ho ho'] at hno
    exact hno (.active ha)

/-- Handling a tag adds no connection. -/
theorem Inv.owns_deliver {key : Addr} {c : StreamConnection Request} (hi : h.Inv)
    (hdel : h.Deliverable op) (hrun : h.runSynchronization op callOk = some s)
    (ho : s.handler.Owns key c) : h.Owns key c := by
  obtain ⟨-, ⟨-, heq⟩ | ⟨-, heq⟩⟩ := (Step.deliver hdel hrun).deliver_cases hi
  · rw [heq] at ho
    split at ho
    · exact ho
    · exact (owns_delete ho : (h.complete op callOk).Owns key c)
  · rw [heq] at ho
    split at ho
    · exact ho
    · exact (owns_delete ho : (h.notified op).Owns key c)

/-- In every reachable state each stream has at most one operation at gRPC, and
no round of `run_synchronization` frees a connection that has one. -/
theorem reachable_oneInFlight (hr : h.HandlerReachable) :
    h.OneInFlight ∧ ∀ op callOk s, h.Deliverable op → h.runSynchronization op callOk = some s →
      FreesIdle h s.handler := by
  have hi := HandlerReachable.inv hr
  refine ⟨hi.oneInFlight, ?_⟩
  intro op callOk s hdel hrun
  exact hi.freesIdle ((Step.deliver hdel hrun).inv hi) (hi.owns_deliver hdel hrun)

theorem reachable_oneInFlight_broadcast :
    (served broadcast).2.writing.length = 2 ∧ (served broadcast).2.OneInFlight :=
  ⟨by decide, (reachable_oneInFlight (served_run broadcast).reachable).1⟩

/-! ## The table of tags -/

/-- The table has one entry for each operation at gRPC, which says what the tag
was made for, and no other. -/
structure TagTable (h : StreamRpcHandler Request Response Status) : Prop where
  keys : ∀ tag, tag ∈ h.connections.tags ↔ ∃ op ∈ h.queue, op.tag = tag
  distinct : (h.queue.map Operation.tag).Nodup
  entry : ∀ op ∈ h.queue, h.connections.tags.lookup op.tag = some ⟨op.data, op.label⟩
  /-- One done tag for each connection whose done tag is awaited, and one
  writing tag for each element of `processing`. -/
  size : h.connections.tags.entries.length =
    (h.awaited.map Operation.conn).toFinset.card + h.connections.processing.card

/-- The tag of an operation at gRPC is decoded as that operation's. -/
def DecodesOwn (h : StreamRpcHandler Request Response Status) (op : Operation Response Status) :
    Prop :=
  getTag op.tag h.connections.tags =
    some (⟨op.data, op.label⟩, h.connections.tags.erase op.tag)

theorem Inv.mem_tags (hi : h.Inv) {tag : Addr} :
    tag ∈ h.connections.tags ↔ ∃ op ∈ h.queue, op.tag = tag := by
  refine ⟨?_, ?_⟩
  · exact hi.tagsMem
  · rintro ⟨op, hop, rfl⟩
    exact Map.mem_of_lookup (hi.tagsEntry hop)

/-- Every operation is a write, a finish or a notification. -/
theorem length_queue : h.queue.length = h.awaited.length + h.writing.length := by
  have hlabel : (fun op : Operation Response Status => decide (op.label = .writing)) =
      fun op => !decide (op.label = .done) := by
    funext op
    cases op.label <;> rfl
  unfold awaited writing
  rw [hlabel, List.length_eq_length_filter_add fun op : Operation Response Status =>
    decide (op.label = .done)]

theorem Inv.length_tags (hi : h.Inv) : h.connections.tags.entries.length = h.queue.length := by
  have hperm : h.connections.tags.keys.Perm (h.queue.map Operation.tag) := by
    rw [List.perm_ext_iff_of_nodup h.connections.tags.keys_nodup hi.tagsNodup]
    intro tag
    rw [← AList.mem_keys, hi.mem_tags, List.mem_map]
  have hlen := hperm.length_eq
  rw [List.length_map] at hlen
  rw [← hlen]
  exact (List.length_map _).symm

theorem Inv.size_tags (hi : h.Inv) :
    h.connections.tags.entries.length =
      (h.awaited.map Operation.conn).toFinset.card + h.connections.processing.card := by
  rw [hi.length_tags, length_queue, ← hi.toFinset_writing,
    List.toFinset_card_of_nodup hi.doneNodup, List.toFinset_card_of_nodup hi.writingNodup,
    List.length_map, List.length_map]

theorem Inv.tagTable (hi : h.Inv) : h.TagTable where
  keys := fun _ => hi.mem_tags
  distinct := hi.tagsNodup
  entry := fun _ hop => hi.tagsEntry hop
  size := hi.size_tags

/-- The assertion of `getTag` holds for every tag at gRPC. -/
theorem Inv.runSynchronization_isSome (hi : h.Inv) (hop : op ∈ h.queue) :
    (h.runSynchronization op callOk).isSome := by
  cases hl : op.label with
  | writing => rw [runSynchronization_writing hi hop hl]; rfl
  | done => rw [runSynchronization_done hi hop hl]; rfl

/-- In every reachable state the table is the operations at gRPC, and each tag
that comes back is decoded as the operation's it was made for. -/
theorem reachable_tagTable (hr : h.HandlerReachable) :
    h.TagTable ∧ ∀ op ∈ h.queue, h.DecodesOwn op ∧
      ∀ callOk, (h.runSynchronization op callOk).isSome := by
  have hi := HandlerReachable.inv hr
  refine ⟨hi.tagTable, ?_⟩
  intro op hop
  exact ⟨getTag_of_lookup (hi.tagsEntry hop), fun _ => hi.runSynchronization_isSome hop⟩

theorem reachable_tagTable_broadcast :
    (served broadcast).2.queue.length = 5 ∧ (served broadcast).2.TagTable :=
  ⟨by decide, (reachable_tagTable (served_run broadcast).reachable).1⟩

end StreamRpcHandler

end Grpcw.Server
