import GrpcWrapper.NewArch.AsyncServer

/-!
# Who owns a handler

`data_` owns the handlers, and what refers to them are tags and writers.  A
handler is referred to once: by the tag of its accept, then by the writer that
its callback was given, then by the tag of its `Finish`.  So the keys of `data_`
are the handlers of the operations at gRPC and of the writers (`Refers.owned`),
and the handler of an operation is there when its event comes.

The accepts are those of the registrations that have run and have not failed,
one for each.
-/

namespace Grpcw.NewArch

open Transition
open Server (Addr)

variable {Request Response Status : Type}

namespace AsyncServer

/-- The handlers with an outstanding accept. -/
def accepting (s : AsyncServer Request Response Status) : List Addr :=
  (s.ops.filter fun op => op.kind.rpc.isSome).map Operation.data

/-- The handlers whose `finish` was called and has not completed. -/
def finishing (s : AsyncServer Request Response Status) : List Addr :=
  (s.ops.filter fun op => !op.kind.rpc.isSome).map Operation.data

/-- Handlers, tags and writers. -/
structure Ownership (s : AsyncServer Request Response Status) : Prop where
  /-- `get_tag` finds the tag of each event, and the handler it refers to is there. -/
  event : ∀ op completedSuccessfully, s.runThread = .handling op completedSuccessfully →
    (∃ rest, getTag op.tag s.tagger = some (op.record, rest)) ∧ op.data ∈ s.data
  /-- No handler is gone while a tag refers to it. -/
  referred : ∀ op ∈ s.ops, op.data ∈ s.data
  /-- A registration has one handler with an outstanding accept. -/
  one : ∀ rpc ∈ s.registered, rpc ∉ s.failed →
    ∃! op, op ∈ s.ops ∧ op.kind = .accept rpc
  /-- No handler is kept for nothing. -/
  holds : s.data.keys.Perm (s.accepting ++ s.writers ++ s.finishing)

/-- The registrations of the outstanding accepts. -/
def accepts (l : List (Operation Response Status)) : List Nat :=
  l.filterMap fun op => op.kind.rpc

/-- The registrations whose task has not run. -/
def pending (s : AsyncServer Request Response Status) : List Nat :=
  s.tasks.filterMap InitTask.rpc

/-! ## What refers to handlers -/

/-- The tags of a list of operations, and the handlers that the operations and
some writers refer to. -/
structure Refers (tagger : Tagger) (data : Map Addr (UnaryRpcHandler Request))
    (l : List (Operation Response Status)) (writers : List Addr) : Prop where
  tagKeys : tagger.keys.Perm (l.map Operation.tag)
  tagEntry : ∀ op ∈ l, tagger.lookup op.tag = some op.record
  owned : data.keys.Perm (l.map Operation.data ++ writers)
  handler : ∀ op ∈ l, ∀ rpc, op.kind = .accept rpc →
    ∃ h, data.lookup op.data = some h ∧ h.rpc = rpc

namespace Refers

variable {tagger : Tagger} {data : Map Addr (UnaryRpcHandler Request)} {writers : List Addr}
  {l l' : List (Operation Response Status)} {op : Operation Response Status} {key tag : Addr}
  {rpc : Nat} {kind : OpKind Response Status}

theorem nil : Refers ∅ (∅ : Map Addr (UnaryRpcHandler Request))
    ([] : List (Operation Response Status)) [] where
  tagKeys := .nil
  tagEntry := List.forall_mem_nil _
  owned := .nil
  handler := List.forall_mem_nil _

theorem perm (h : Refers tagger data l writers) (hperm : l.Perm l') :
    Refers tagger data l' writers where
  tagKeys := h.tagKeys.trans (hperm.map _)
  tagEntry op hop := h.tagEntry op (hperm.mem_iff.mpr hop)
  owned := h.owned.trans ((hperm.map _).append_right _)
  handler op hop := h.handler op (hperm.mem_iff.mpr hop)

theorem tags_nodup (h : Refers tagger data l writers) : (l.map Operation.tag).Nodup :=
  h.tagKeys.nodup_iff.mp tagger.keys_nodup

theorem owners_nodup (h : Refers tagger data l writers) :
    (l.map Operation.data ++ writers).Nodup :=
  h.owned.nodup_iff.mp data.keys_nodup

/-- An operation's handler is there. -/
theorem mem_data (h : Refers tagger data l writers) (hop : op ∈ l) : op.data ∈ data :=
  AList.mem_keys.mpr (h.owned.mem_iff.mpr (List.mem_append_left _ (List.mem_map_of_mem hop)))

theorem mem_tagger (h : Refers tagger data l writers) (hop : op ∈ l) : op.tag ∈ tagger :=
  Map.mem_of_lookup (h.tagEntry op hop)

/-- A new operation gets a tag of its own. -/
theorem tagKeys_makeTag (h : Refers tagger data l writers) (htag : tag ∉ tagger)
    (label : TagLabel) :
    (makeTag tag key label tagger).keys.Perm (tag :: l.map Operation.tag) := by
  rw [makeTag, Map.keys_emplace htag]
  exact h.tagKeys.cons tag

/-- The new tag does not hide the others. -/
theorem tagEntry_makeTag {label : TagLabel} (h : Refers tagger data l writers)
    (htag : tag ∉ tagger) (hlabel : kind.label = label) :
    ∀ op ∈ ⟨tag, key, kind⟩ :: l,
      (makeTag tag key label tagger).lookup op.tag = some op.record := by
  rw [List.forall_mem_cons]
  constructor
  · rw [makeTag, Map.lookup_emplace htag, if_pos rfl, Operation.record, hlabel]
  · intro op hop
    have hne : op.tag ≠ tag := fun heq => htag (heq ▸ h.mem_tagger hop)
    rw [makeTag, Map.lookup_emplace htag, if_neg hne, h.tagEntry op hop]

/-- A handler is queued. -/
theorem queue (h : Refers tagger data l writers) (hkey : key ∉ data) (htag : tag ∉ tagger) :
    Refers (makeTag tag key .serverNewRpc tagger) (data.emplace key ⟨rpc, none⟩)
      (⟨tag, key, .accept rpc⟩ :: l) writers where
  tagKeys := h.tagKeys_makeTag htag _
  tagEntry := h.tagEntry_makeTag htag rfl
  owned := by
    rw [Map.keys_emplace hkey]
    exact h.owned.cons key
  handler := by
    rw [List.forall_mem_cons]
    refine ⟨?_, ?_⟩
    · intro rpc' heq
      cases heq
      exact ⟨⟨rpc, none⟩, by rw [Map.lookup_emplace hkey, if_pos rfl], rfl⟩
    · intro op hop rpc' heq
      obtain ⟨handler, hlookup, hrpc⟩ := h.handler op hop rpc' heq
      have hne : op.data ≠ key := fun heq => hkey (heq ▸ Map.mem_of_lookup hlookup)
      exact ⟨handler, by rw [Map.lookup_emplace hkey, if_neg hne, hlookup], hrpc⟩

/-- A writer is finished. -/
theorem finish (h : Refers tagger data l writers) (hkey : key ∈ writers) (htag : tag ∉ tagger)
    (hlabel : kind.label = .serverDone) :
    Refers (makeTag tag key .serverDone tagger) data (⟨tag, key, kind⟩ :: l)
      (writers.erase key) where
  tagKeys := h.tagKeys_makeTag htag _
  tagEntry := h.tagEntry_makeTag htag hlabel
  owned := by
    have hwriters := (List.perm_cons_erase hkey).append_left (l.map Operation.data)
    exact (h.owned.trans hwriters).trans List.perm_middle
  handler := by
    rw [List.forall_mem_cons]
    refine ⟨?_, h.handler⟩
    rintro rpc rfl
    cases hlabel

/-- The tag of an event is freed. -/
theorem lookup_erase (h : Refers tagger data (op :: l) writers) {op' : Operation Response Status}
    (hop : op' ∈ l) : AList.lookup op'.tag (tagger.erase op.tag) = some op'.record := by
  have hne : op'.tag ≠ op.tag := fun heq =>
    (List.nodup_cons.mp h.tags_nodup).1 (heq ▸ List.mem_map_of_mem hop)
  rw [Map.lookup_erase_eq, if_neg hne, h.tagEntry op' (List.mem_cons_of_mem _ hop)]

theorem tagKeys_erase (h : Refers tagger data (op :: l) writers) :
    (AList.erase op.tag tagger).keys.Perm (l.map Operation.tag) := by
  rw [AList.keys_erase]
  have hperm := h.tagKeys.erase op.tag
  rwa [List.map_cons, List.erase_cons_head] at hperm

/-- No two operations are of one handler. -/
theorem data_ne (h : Refers tagger data (op :: l) writers) {op' : Operation Response Status}
    (hop : op' ∈ l) : op'.data ≠ op.data := fun heq =>
  (List.nodup_cons.mp h.owners_nodup).1 (List.mem_append_left _ (heq ▸ List.mem_map_of_mem hop))

/-- The handler of an event is given to its callback. -/
theorem handOut (h : Refers tagger data (op :: l) writers) :
    Refers (tagger.erase op.tag) data l (op.data :: writers) where
  tagKeys := h.tagKeys_erase
  tagEntry _ hop := h.lookup_erase hop
  owned := h.owned.trans List.perm_middle.symm
  handler op' hop := h.handler op' (List.mem_cons_of_mem _ hop)

/-- The handler of an event is erased. -/
theorem erase (h : Refers tagger data (op :: l) writers) :
    Refers (tagger.erase op.tag) (data.erase op.data) l writers where
  tagKeys := h.tagKeys_erase
  tagEntry _ hop := h.lookup_erase hop
  owned := by
    rw [AList.keys_erase]
    have hperm := h.owned.erase op.data
    rwa [List.map_cons, List.cons_append, List.erase_cons_head] at hperm
  handler := by
    intro op' hop rpc heq
    obtain ⟨handler, hlookup, hrpc⟩ := h.handler op' (List.mem_cons_of_mem _ hop) rpc heq
    exact ⟨handler, by rw [Map.lookup_erase_eq, if_neg (h.data_ne hop), hlookup], hrpc⟩

/-- A handler gets a request. -/
theorem arrive {handler handler' : UnaryRpcHandler Request} (h : Refers tagger data l writers)
    (hlookup : data.lookup key = some handler) (hrpc : handler'.rpc = handler.rpc) :
    Refers tagger (data.insert key handler') l writers where
  tagKeys := h.tagKeys
  tagEntry := h.tagEntry
  owned := (Map.keys_insert_perm (Map.mem_of_lookup hlookup)).trans h.owned
  handler := by
    intro op hop rpc heq
    obtain ⟨old, hold, hrpc'⟩ := h.handler op hop rpc heq
    by_cases hkey : op.data = key
    · obtain rfl : handler = old := by
        rw [hkey, hlookup] at hold
        exact Option.some.inj hold
      exact ⟨handler', by rw [hkey, AList.lookup_insert], hrpc.trans hrpc'⟩
    · exact ⟨old, by rw [AList.lookup_insert_ne hkey, hold], hrpc'⟩

end Refers

/-! ## Outstanding accepts -/

theorem accepts_cons (op : Operation Response Status) (l : List (Operation Response Status)) :
    accepts (op :: l) = op.kind.rpc.toList ++ accepts l := by
  rw [accepts, List.filterMap_cons]
  cases op.kind.rpc with
  | none => rfl
  | some rpc => rfl

theorem mem_accepts {l : List (Operation Response Status)} {rpc : Nat} :
    rpc ∈ accepts l ↔ ∃ op ∈ l, op.kind = .accept rpc := by
  rw [accepts, List.mem_filterMap]
  refine exists_congr fun op => and_congr_right fun _ => ?_
  cases op.kind with
  | accept rpc' => exact ⟨fun h => congrArg _ (Option.some.inj h), fun h => by cases h; rfl⟩
  | finish response status => exact ⟨nofun, nofun⟩
  | finishWithError status => exact ⟨nofun, nofun⟩

/-- The registrations that have run and have not failed have one accept each. -/
structure Live (l : List (Operation Response Status)) (registered failed : List Nat) : Prop where
  nodup : (accepts l).Nodup
  mem : ∀ rpc, rpc ∈ accepts l ↔ rpc ∈ registered ∧ rpc ∉ failed

namespace Live

variable {l l' : List (Operation Response Status)} {op op' : Operation Response Status}
  {registered failed : List Nat} {rpc : Nat}

theorem nil : Live ([] : List (Operation Response Status)) [] [] where
  nodup := .nil
  mem _ := ⟨nofun, nofun⟩

theorem perm (h : Live l registered failed) (hperm : l.Perm l') : Live l' registered failed where
  nodup := (hperm.filterMap _).nodup_iff.mp h.nodup
  mem rpc := (hperm.filterMap _).mem_iff.symm.trans (h.mem rpc)

/-- The first accept of a registration. -/
theorem register (h : Live l registered failed) (hop : op.kind = .accept rpc)
    (hnew : rpc ∉ registered) (hfailed : rpc ∉ failed) :
    Live (op :: l) (registered ++ [rpc]) failed := by
  have heq : accepts (op :: l) = rpc :: accepts l :=
    List.filterMap_cons_some (by rw [hop]; rfl)
  refine ⟨?_, ?_⟩
  · rw [heq]
    exact List.nodup_cons.mpr ⟨fun hmem => hnew ((h.mem rpc).mp hmem).1, h.nodup⟩
  · intro rpc'
    rw [heq, List.mem_cons, h.mem, List.mem_append, List.mem_singleton]
    constructor
    · rintro (rfl | ⟨hreg, hfail⟩)
      · exact ⟨.inr rfl, hfailed⟩
      · exact ⟨.inl hreg, hfail⟩
    · rintro ⟨hreg | rfl, hfail⟩
      · exact .inr ⟨hreg, hfail⟩
      · exact .inl rfl

/-- The accept of a registration. -/
theorem unique (h : Live l registered failed) (hop : op ∈ l) (hop' : op' ∈ l)
    (hkind : op.kind = .accept rpc) (hkind' : op'.kind = .accept rpc) : op = op' := by
  by_contra hne
  have hpairs := List.pairwise_filterMap.mp h.nodup
  have hsymm : Std.Symm fun a b : Operation Response Status =>
      ∀ i, a.kind.rpc = some i → ∀ j, b.kind.rpc = some j → i ≠ j :=
    ⟨fun a b hab i hi j hj => (hab j hj i hi).symm⟩
  refine hpairs.forall hop hop' hne rpc ?_ rpc ?_ rfl
  · rw [hkind]
    rfl
  · rw [hkind']
    rfl

/-- A handler's place is taken by its clone. -/
theorem again (h : Live (op :: l) registered failed) (hop : op'.kind = op.kind) :
    Live (op' :: l) registered failed := by
  have heq : accepts (op' :: l) = accepts (op :: l) := by rw [accepts_cons, accepts_cons, hop]
  refine ⟨heq ▸ h.nodup, fun rpc => ?_⟩
  rw [heq, h.mem]

/-- What is not an accept does not count. -/
theorem cons_iff (hop : op.kind.rpc = none) :
    Live (op :: l) registered failed ↔ Live l registered failed := by
  have heq : accepts (op :: l) = accepts l := List.filterMap_cons_none hop
  constructor
  · intro h
    exact ⟨heq ▸ h.nodup, heq ▸ h.mem⟩
  · intro h
    exact ⟨heq.symm ▸ h.nodup, heq.symm ▸ h.mem⟩

/-- An operation fails. -/
theorem fail (h : Live (op :: l) registered failed) :
    Live l registered (op.kind.rpc.toList ++ failed) := by
  cases hop : op.kind.rpc with
  | none => exact (cons_iff hop).mp h
  | some rpc =>
      have heq : accepts (op :: l) = rpc :: accepts l := List.filterMap_cons_some hop
      have hnodup := h.nodup
      rw [heq, List.nodup_cons] at hnodup
      refine ⟨hnodup.2, fun rpc' => ?_⟩
      have hmem := h.mem rpc'
      rw [heq, List.mem_cons] at hmem
      rw [Option.toList_some, List.singleton_append, List.mem_cons, not_or]
      constructor
      · intro hl
        obtain ⟨hreg, hfail⟩ := hmem.mp (.inr hl)
        refine ⟨hreg, ?_, hfail⟩
        rintro rfl
        exact hnodup.1 hl
      · rintro ⟨hreg, hne, hfail⟩
        exact (hmem.mpr ⟨hreg, hfail⟩).resolve_left hne

end Live

/-! ## The invariant -/

structure Inv (s : AsyncServer Request Response Status) : Prop where
  refers : Refers s.tagger s.data s.ops s.writers
  live : Live s.ops s.registered s.failed
  order : s.registered ++ s.pending = List.range s.registrations
  failed : ∀ rpc ∈ s.failed, rpc ∈ s.registered

variable {s s' : AsyncServer Request Response Status} {a : Action Request Response Status}
  {op : Operation Response Status} {key tag : Addr} {rpc : Nat} {kind : OpKind Response Status}
  {tagger : Tagger} {completedSuccessfully : Bool}

theorem Inv.initial : (initial : AsyncServer Request Response Status).Inv where
  refers := .nil
  live := .nil
  order := rfl
  failed := List.forall_mem_nil _

/-- `get_tag` finds the tag of a live operation. -/
theorem Inv.getTag (h : s.Inv) (hop : op ∈ s.ops) :
    NewArch.getTag op.tag s.tagger = some (op.record, s.tagger.erase op.tag) :=
  getTag_of_lookup (h.refers.tagEntry op hop)

theorem mem_ops_of_handling (hrun : s.runThread = .handling op completedSuccessfully) :
    op ∈ s.ops := by
  rw [ops, hrun]
  exact List.mem_cons_self

/-- What an event's tag says, and what is left in the tagger. -/
theorem Inv.of_getTag (h : s.Inv) (hrun : s.runThread = .handling op completedSuccessfully)
    {found : Tag} (hget : NewArch.getTag op.tag s.tagger = some (found, tagger)) :
    found = op.record ∧ tagger = s.tagger.erase op.tag := by
  rw [h.getTag (mem_ops_of_handling hrun)] at hget
  cases hget
  exact ⟨rfl, rfl⟩

/-! ### Tasks -/

theorem tasks_registerAsync :
    s.registerAsync.tasks = s.tasks ++ [.register s.registrations] := by
  show s.runThread.tasks ++ List.filterMap id (s.initializationQueue ++ [some _]) = _
  rw [List.filterMap_append, ← List.append_assoc]
  rfl

theorem tasks_start : s.start.tasks = s.tasks := by
  show s.runThread.tasks ++ List.filterMap id (s.initializationQueue ++ [none]) = _
  rw [List.filterMap_append, ← List.append_assoc]
  exact List.append_nil _

theorem Inv.registerAsync (h : s.Inv) : s.registerAsync.Inv where
  refers := h.refers
  live := h.live
  order := by
    rw [pending, tasks_registerAsync, List.filterMap_append, ← List.append_assoc]
    show s.registered ++ s.pending ++ [s.registrations] = List.range (s.registrations + 1)
    rw [h.order, List.range_succ]
  failed := h.failed

theorem Inv.start (h : s.Inv) : s.start.Inv where
  refers := h.refers
  live := h.live
  order := by
    rw [pending, tasks_start]
    exact h.order
  failed := h.failed

/-- A step of the run thread that has no event in hand, before or after. -/
theorem Inv.move {queue : List (Option InitTask)} {phase : RunPhase Request Response Status}
    (h : s.Inv) (hops : phase.ops = s.runThread.ops)
    (hpending : (phase.tasks ++ queue.filterMap id).filterMap InitTask.rpc = s.pending) :
    Inv { s with initializationQueue := queue, runThread := phase } where
  refers := by
    rw [ops, hops]
    exact h.refers
  live := by
    rw [ops, hops]
    exact h.live
  order := by
    rw [pending, tasks, hpending]
    exact h.order
  failed := h.failed

/-- A task that has run was not registered before. -/
theorem Inv.notMem_registered (h : s.Inv) (hrun : s.runThread = .task (.register rpc)) :
    rpc ∉ s.registered := by
  have hnodup : (s.registered ++ s.pending).Nodup := h.order ▸ List.nodup_range
  rw [pending, tasks, hrun] at hnodup
  exact fun hmem => (List.nodup_append.mp hnodup).2.2 rpc hmem rpc List.mem_cons_self rfl

theorem Inv.register (h : s.Inv) (hrun : s.runThread = .task (.register rpc))
    (hkey : s.FreshKey key) (htag : tag ∉ s.tagger) :
    Inv { s.queueRpc key tag rpc with
      runThread := .initializing
      registered := s.registered ++ [rpc] } := by
  have hops : s.ops = s.serverQueue := by
    rw [ops, hrun]
    rfl
  have hperm := (List.perm_append_singleton ⟨tag, key, .accept rpc⟩ s.serverQueue).symm
  have hnew := h.notMem_registered hrun
  refine ⟨?_, ?_, ?_, ?_⟩
  · exact ((hops ▸ h.refers).queue hkey htag).perm hperm
  · exact ((hops ▸ h.live).register rfl hnew fun hfail => hnew (h.failed rpc hfail)).perm hperm
  · have horder := h.order
    rw [pending, tasks, hrun] at horder
    exact (List.append_assoc _ _ _).trans horder
  · exact fun rpc' hfail => List.mem_append_left _ (h.failed rpc' hfail)

/-! ### Events -/

theorem Inv.next {before after : List (Operation Response Status)} (h : s.Inv)
    (hrun : s.runThread = .waiting) (hqueue : s.serverQueue = before ++ op :: after) :
    Inv { s with
      serverQueue := before ++ after
      runThread := .handling op completedSuccessfully } := by
  have hperm : s.ops.Perm (op :: (before ++ after)) := by
    rw [ops, hrun, hqueue]
    exact List.perm_middle
  refine ⟨h.refers.perm hperm, h.live.perm hperm, ?_, h.failed⟩
  have horder := h.order
  rw [pending, tasks, hrun] at horder
  exact horder

theorem ops_of_handling (hrun : s.runThread = .handling op completedSuccessfully) :
    s.ops = op :: s.serverQueue := by
  rw [ops, hrun]
  rfl

/-- An event is handled, and the registrations stay as they are. -/
theorem Inv.order_of_handling (h : s.Inv)
    (hrun : s.runThread = .handling op completedSuccessfully) :
    s.registered ++ (s.initializationQueue.filterMap id).filterMap InitTask.rpc =
      List.range s.registrations := by
  have horder := h.order
  rw [pending, tasks, hrun] at horder
  exact horder

theorem OpKind.label_eq_serverNewRpc (h : kind.label = .serverNewRpc) :
    ∃ rpc, kind = .accept rpc := by
  cases kind with
  | accept rpc => exact ⟨rpc, rfl⟩
  | finish response status => cases h
  | finishWithError status => cases h

theorem OpKind.rpc_of_serverDone (h : kind.label = .serverDone) : kind.rpc = none := by
  cases kind with
  | accept rpc => cases h
  | finish response status => rfl
  | finishWithError status => rfl

theorem Inv.newRpc {handler : UnaryRpcHandler Request} (h : s.Inv)
    (hrun : s.runThread = .handling op true) (hlabel : op.kind.label = .serverNewRpc)
    (hlookup : s.data.lookup op.data = some handler) (hkey : s.FreshKey key)
    (htag : tag ∉ s.tagger.erase op.tag) :
    (s.newRpc handler op.record (s.tagger.erase op.tag) key tag).Inv := by
  obtain ⟨rpc, hkind⟩ := OpKind.label_eq_serverNewRpc hlabel
  have hrefers := ops_of_handling hrun ▸ h.refers
  have hlive := ops_of_handling hrun ▸ h.live
  obtain ⟨handler', hlookup', hrpc⟩ := hrefers.handler op List.mem_cons_self rpc hkind
  obtain rfl : handler = handler' := Option.some.inj (hlookup.symm.trans hlookup')
  have hperm := (List.perm_append_singleton ⟨tag, key, .accept handler.rpc⟩ s.serverQueue).symm
  refine ⟨(hrefers.handOut.queue hkey htag).perm hperm, ?_, h.order_of_handling hrun, h.failed⟩
  exact (hlive.again (by rw [hkind, hrpc])).perm hperm

theorem Inv.erase (h : s.Inv) (hrun : s.runThread = .handling op completedSuccessfully)
    (hlabel : completedSuccessfully = true → op.kind.label = .serverDone) :
    (s.erase op completedSuccessfully op.record (s.tagger.erase op.tag)).Inv := by
  have hrefers := ops_of_handling hrun ▸ h.refers
  have hlive := ops_of_handling hrun ▸ h.live
  refine ⟨hrefers.erase, ?_, h.order_of_handling hrun, ?_⟩
  · cases completedSuccessfully with
    | false => exact hlive.fail
    | true => exact (Live.cons_iff (OpKind.rpc_of_serverDone (hlabel rfl))).mp hlive
  · cases completedSuccessfully with
    | true => exact h.failed
    | false =>
        intro rpc hmem
        rcases List.mem_append.mp hmem with hmem | hmem
        · refine ((hlive.mem rpc).mp ?_).1
          rw [accepts_cons]
          exact List.mem_append_left _ hmem
        · exact h.failed rpc hmem

/-! ### Writers and gRPC -/

theorem Inv.finish (h : s.Inv) (hkey : key ∈ s.writers) (htag : tag ∉ s.tagger)
    (hlabel : kind.label = .serverDone) : (s.finish key tag kind).Inv := by
  have hperm : (⟨tag, key, kind⟩ :: s.ops).Perm (s.finish key tag kind).ops := by
    show List.Perm _ (s.runThread.ops ++ (s.serverQueue ++ [⟨tag, key, kind⟩]))
    rw [← List.append_assoc]
    exact (List.perm_append_singleton _ _).symm
  have hkind := OpKind.rpc_of_serverDone hlabel
  refine ⟨(h.refers.finish hkey htag hlabel).perm hperm, ?_, h.order, h.failed⟩
  exact ((Live.cons_iff hkind).mpr h.live).perm hperm

theorem Inv.arrive {handler : UnaryRpcHandler Request} {request : Request} (h : s.Inv)
    (hlookup : s.data.lookup key = some handler) : (s.arrive key handler request).Inv :=
  ⟨h.refers.arrive hlookup rfl, h.live, h.order, h.failed⟩

/-! ### Runs -/

theorem OpKind.label_ne_serverWriting : kind.label ≠ .serverWriting := by
  cases kind <;> nofun

theorem Step.inv (h : s.Inv) (hs : Step s a s') : s'.Inv := by
  cases hs with
  | registerAsync _ _ => exact h.registerAsync
  | start _ => exact h.start
  | destroy _ | acquire _ _ | shutdownServer _ | shutdownQueue _ | join _ _ | finishCall _ =>
      exact ⟨h.refers, h.live, h.order, h.failed⟩
  | pop hrun hqueue | popNull hrun hqueue =>
      refine h.move (by rw [hrun]; rfl) ?_
      rw [pending, tasks, hrun, hqueue]
      rfl
  | construct hrun _ | publish hrun _ =>
      have h' : Inv { s with runThread := .initializing } :=
        h.move (by rw [hrun]; rfl) (by rw [pending, tasks, hrun]; rfl)
      exact ⟨h'.refers, h'.live, h'.order, h'.failed⟩
  | register hrun _ hkey htag => exact h.register hrun hkey htag
  | next hrun hqueue => exact h.next hrun hqueue
  | newRpc hrun _ hget hlabel hlookup hkey htag =>
      obtain ⟨rfl, rfl⟩ := h.of_getTag hrun hget
      exact h.newRpc hrun hlabel hlookup hkey htag
  | erase hrun _ hget hlabel =>
      obtain ⟨rfl, rfl⟩ := h.of_getTag hrun hget
      exact h.erase hrun hlabel
  | ignore hrun _ hget hlabel =>
      obtain ⟨rfl, rfl⟩ := h.of_getTag hrun hget
      exact absurd hlabel OpKind.label_ne_serverWriting
  | returned hrun | exit hrun _ _ =>
      exact h.move (by rw [hrun]; rfl) (by rw [pending, tasks, hrun]; rfl)
  | finish _ _ hkey htag hlabel => exact h.finish hkey htag hlabel
  | arrive _ _ hlookup _ => exact h.arrive hlookup

theorem AsyncReachable.inv (hr : AsyncReachable s) : s.Inv :=
  hr.invariant .initial fun _ h hs => Step.inv h hs

/-- The operations are accepts and calls of `finish`. -/
theorem accepting_append_finishing :
    (s.ops.map Operation.data).Perm (s.accepting ++ s.finishing) := by
  rw [accepting, finishing, ← List.map_append]
  exact (List.filter_append_perm _ _).symm.map _

/-- Any registrations, in any order of events, with any success. -/
theorem reachable_ownership (hr : AsyncReachable s) : Ownership s where
  event op _ hrun := by
    have hop := mem_ops_of_handling hrun
    exact ⟨⟨_, hr.inv.getTag hop⟩, hr.inv.refers.mem_data hop⟩
  referred op hop := hr.inv.refers.mem_data hop
  one := by
    intro rpc hreg hfail
    obtain ⟨op, hop, hkind⟩ := mem_accepts.mp ((hr.inv.live.mem rpc).mpr ⟨hreg, hfail⟩)
    refine ⟨op, ⟨hop, hkind⟩, ?_⟩
    rintro op' ⟨hop', hkind'⟩
    exact hr.inv.live.unique hop' hop hkind' hkind
  holds := by
    have hperm := (accepting_append_finishing (s := s)).append_right s.writers
    refine (hr.inv.refers.owned.trans hperm).trans ?_
    rw [List.append_assoc, List.append_assoc]
    exact List.perm_append_comm.append_left _

/-- A call is accepted, and its callback leaves the answer to another thread. -/
theorem reachable_ownership_answered :
    ∃ s : AsyncServer Nat Nat Nat, AsyncReachable s ∧
      s.accepting = [2] ∧ s.finishing = [1] ∧ Ownership s := by
  have r : AsyncReachable (initial : AsyncServer Nat Nat Nat) := .refl
  have r := r.tail (.registerAsync rfl rfl)
  have r := r.tail (.start rfl)
  have r := r.tail (.pop rfl rfl)
  have r := r.tail (.construct rfl ⟨nofun, nofun⟩)
  have r := r.tail (.pop rfl rfl)
  have r := r.tail (.publish rfl ⟨nofun, nofun⟩)
  have r := r.tail (.pop rfl rfl)
  have r := r.tail (@Step.register _ _ _ _ 0 1 11 rfl ⟨nofun, nofun⟩ (AList.notMem_empty 1)
    (AList.notMem_empty 11))
  have r := r.tail (.popNull rfl rfl)
  have r := r.tail (@Step.arrive _ _ _ _ ⟨11, 1, .accept 0⟩ 0 ⟨0, none⟩ 7 List.mem_cons_self rfl rfl
    rfl)
  have r := r.tail (@Step.next _ _ _ _ ⟨11, 1, .accept 0⟩ [] [] true rfl rfl)
  have r := r.tail (@Step.newRpc _ _ _ _ _ _ _ _ 2 12 rfl ⟨nofun, nofun⟩ rfl rfl rfl
    (show 2 ∉ [1] by decide) (AList.notMem_empty 12))
  have r := r.tail (.returned rfl)
  have r := r.tail (@Step.finish _ _ _ _ 1 13 (.finish 7 0) false ⟨nofun, nofun⟩
    ⟨nofun, nofun⟩ List.mem_cons_self (show 13 ∉ [12] by decide) rfl)
  exact ⟨_, r, rfl, rfl, reachable_ownership r⟩

end AsyncServer

end Grpcw.NewArch
