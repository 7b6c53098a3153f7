import GrpcWrapper.Library.Keyed
import GrpcWrapper.Server.StreamRpcHandler
import Mathlib.Data.Finset.Basic

/-!
# The handler's invariant

`Inv` relates the four containers to each other and to the operations at gRPC.
The connections the handler owns have distinct addresses and distinct serial
numbers.  The keys of `tags` are the tags in flight, each entry holding what
its tag was made for.  The writing tags in flight are for distinct connections,
which are the ones in `processing` and are active.

Every section is a composition of a few updates, and there is one lemma for
each update: `accept`, `moveNext`, `addNext`, `issue`, `settle` (a tag leaves
the queue, the table and `processing`) and `delete`.  `Step.inv` puts them
together, and the lemmas `runSynchronization_writing` and
`runSynchronization_done` say what the handling of a tag comes to.
-/

namespace Grpcw.Server

open Transition

variable {Request Response Status : Type}

namespace StreamRpcHandler

variable {h h' : StreamRpcHandler Request Response Status}
  {op : Operation Response Status} {kind : OpKind Response Status}
  {key key' tag : Addr} {c c' : StreamConnection Request} {callOk : Bool}

/-! ## Owned connections and operations in flight -/

/-- The handler holds the connection `c` at the address `key`. -/
def Owns (h : StreamRpcHandler Request Response Status) (key : Addr)
    (c : StreamConnection Request) : Prop :=
  h.connections.active.lookup key = some c ∨ h.connections.next = some (key, c)

/-- The handler holds the connection with the serial number `conn` at `key`. -/
def Holds (h : StreamRpcHandler Request Response Status) (key : Addr) (conn : Nat) : Prop :=
  ∃ c, h.Owns key c ∧ c.serial = conn

/-- The writes and finishes at gRPC. -/
def writing (h : StreamRpcHandler Request Response Status) : List (Operation Response Status) :=
  h.queue.filter fun op => op.label = .writing

/-- The notifications at gRPC. -/
def awaited (h : StreamRpcHandler Request Response Status) : List (Operation Response Status) :=
  h.queue.filter fun op => op.label = .done

@[simp] theorem mem_writing : op ∈ h.writing ↔ op ∈ h.queue ∧ op.label = .writing := by
  simp [writing]

@[simp] theorem mem_awaited : op ∈ h.awaited ↔ op ∈ h.queue ∧ op.label = .done := by
  simp [awaited]

@[simp] theorem label_done : kind.label = .done ↔ kind = .notifyWhenDone := by
  cases kind <;> simp [OpKind.label]

theorem mem_writing_kind (hop : op ∈ h.writing) : op.kind ≠ .notifyWhenDone := by
  intro hk
  have hl := (mem_writing.mp hop).2
  rw [Operation.label, hk] at hl
  cases hl

theorem mem_awaited_kind (hop : op ∈ h.awaited) : op.kind = .notifyWhenDone :=
  label_done.mp (mem_awaited.mp hop).2

/-- What ties the containers of a handler to each other and to the operations
at gRPC. -/
structure Inv (h : StreamRpcHandler Request Response Status) : Prop where
  nextKey : ∀ {key c}, h.connections.next = some (key, c) → key ∉ h.connections.active
  ownsSerial : ∀ {key c}, h.Owns key c → c.serial < h.allocated
  ownsInj : ∀ {key key' c c'}, h.Owns key c → h.Owns key' c' → c.serial = c'.serial → key = key'
  opSerial : ∀ {op}, op ∈ h.queue → op.conn < h.allocated
  tagsNodup : (h.queue.map Operation.tag).Nodup
  tagsMem : ∀ {tag}, tag ∈ h.connections.tags → ∃ op ∈ h.queue, op.tag = tag
  tagsEntry : ∀ {op}, op ∈ h.queue →
    h.connections.tags.lookup op.tag = some ⟨op.data, op.label⟩
  writingNodup : (h.writing.map Operation.data).Nodup
  processingMem : ∀ {key}, key ∈ h.connections.processing ↔ ∃ op ∈ h.writing, op.data = key
  writingHome : ∀ {op}, op ∈ h.writing →
    ∃ c, h.connections.active.lookup op.data = some c ∧ c.serial = op.conn
  doneNodup : (h.awaited.map Operation.conn).Nodup
  doneHome : ∀ {op key c}, op ∈ h.awaited → h.Owns key c → c.serial = op.conn → key = op.data

theorem Inv.initial : (initial : StreamRpcHandler Request Response Status).Inv where
  nextKey := by intro key c hn; cases hn
  ownsSerial := by rintro key c (ha | hn); cases ha; cases hn
  ownsInj := by rintro key key' c c' (ha | hn); cases ha; cases hn
  opSerial := by intro op hop; cases hop
  tagsNodup := List.nodup_nil
  tagsMem := by intro tag ht; exact absurd ht (AList.notMem_empty tag)
  tagsEntry := by intro op hop; cases hop
  writingNodup := List.nodup_nil
  processingMem := by intro key; simp [StreamRpcHandler.initial]
  writingHome := by intro op hop; cases (mem_writing.mp hop).1
  doneNodup := List.nodup_nil
  doneHome := by intro op key c hop; cases (mem_awaited.mp hop).1

/-- The invariant does not read the callbacks or the log. -/
theorem Inv.congr (hi : h.Inv) (hc : h'.connections = h.connections) (hq : h'.queue = h.queue)
    (ha : h'.allocated = h.allocated) : h'.Inv := by
  obtain ⟨cb, db, con, q, al, log⟩ := h
  obtain ⟨cb', db', con', q', al', log'⟩ := h'
  cases hc
  cases hq
  cases ha
  exact ⟨hi.nextKey, hi.ownsSerial, hi.ownsInj, hi.opSerial, hi.tagsNodup, hi.tagsMem,
    hi.tagsEntry, hi.writingNodup, hi.processingMem, hi.writingHome, hi.doneNodup, hi.doneHome⟩

/-! ## Consequences -/

theorem Owns.active (ha : h.connections.active.lookup key = some c) : h.Owns key c := Or.inl ha

theorem Owns.next (hn : h.connections.next = some (key, c)) : h.Owns key c := Or.inr hn

/-- The object at an address is the connection the handler owns there. -/
theorem Inv.object_eq_some (hi : h.Inv) : h.connections.object key = some c ↔ h.Owns key c := by
  unfold Connections.object Owns
  cases ha : h.connections.active.lookup key with
  | some c' =>
      constructor
      · intro heq
        exact Or.inl heq
      · rintro (heq | hn)
        · exact heq
        · exact absurd (Map.mem_of_lookup ha) (hi.nextKey hn)
  | none =>
      cases hn : h.connections.next with
      | none => simp
      | some p =>
          obtain ⟨k, c'⟩ := p
          by_cases hk : k = key
          · simp [hk]
          · simp [hk]

theorem Inv.owns_key (hi : h.Inv) (ho : h.Owns key c) (ho' : h.Owns key c') : c = c' :=
  Option.some.inj ((hi.object_eq_some.mpr ho).symm.trans (hi.object_eq_some.mpr ho'))

theorem Inv.not_owns_of_object (hi : h.Inv) (hf : h.connections.object key = none) :
    ¬ h.Owns key c := by
  intro ho
  rw [hi.object_eq_some.mpr ho] at hf
  cases hf

/-- A new tag is not in flight. -/
theorem Inv.tag_ne (hi : h.Inv) (ht : h.FreshTag tag) (hop : op ∈ h.queue) : op.tag ≠ tag := by
  intro heq
  subst heq
  exact ht (Map.mem_of_lookup (hi.tagsEntry hop))

/-- An operation is issued with a tag of its own. -/
theorem Inv.tagsMem_concat {op₀ : Operation Response Status} {label : TagLabel} (hi : h.Inv)
    (hmem : tag ∈ makeTag op₀.tag key label h.connections.tags) :
    ∃ op ∈ h.queue ++ [op₀], op.tag = tag := by
  rcases mem_makeTag.mp hmem with rfl | hmem
  · exact ⟨op₀, List.mem_append_right _ (List.mem_singleton_self _), rfl⟩
  · obtain ⟨op, hop, heq⟩ := hi.tagsMem hmem
    exact ⟨op, List.mem_append_left _ hop, heq⟩

theorem Inv.tagsEntry_concat {op₀ : Operation Response Status} (hi : h.Inv)
    (ht : h.FreshTag op₀.tag) (hop : op ∈ h.queue ++ [op₀]) :
    (makeTag op₀.tag op₀.data op₀.label h.connections.tags).lookup op.tag =
      some ⟨op.data, op.label⟩ := by
  rw [lookup_makeTag ht]
  rcases List.mem_append.mp hop with hop | hop
  · rw [if_neg (hi.tag_ne ht hop), hi.tagsEntry hop]
  · rw [List.mem_singleton.mp hop, if_pos rfl]

theorem Inv.processing_active (hi : h.Inv) (hk : key ∈ h.connections.processing) :
    key ∈ h.connections.active := by
  obtain ⟨op, hop, rfl⟩ := hi.processingMem.mp hk
  obtain ⟨c, ha, -⟩ := hi.writingHome hop
  exact Map.mem_of_lookup ha

theorem Inv.next_notMem_processing (hi : h.Inv) (hn : h.connections.next = some (key, c)) :
    key ∉ h.connections.processing :=
  fun hk => hi.nextKey hn (hi.processing_active hk)

theorem Inv.writing_eq_nil (hi : h.Inv) : h.connections.processing = ∅ ↔ h.writing = [] := by
  constructor
  · intro hp
    refine List.eq_nil_iff_forall_not_mem.mpr fun op hop => ?_
    have hk : op.data ∈ h.connections.processing := hi.processingMem.mpr ⟨op, hop, rfl⟩
    rw [hp] at hk
    exact Finset.notMem_empty _ hk
  · intro hw
    refine Finset.eq_empty_of_forall_notMem fun key hk => ?_
    obtain ⟨op, hop, -⟩ := hi.processingMem.mp hk
    rw [hw] at hop
    cases hop

/-- No two active connections have one serial number. -/
theorem Inv.members_nodup (hi : h.Inv) : h.members.Nodup :=
  Map.nodup_map_values _ fun ha ha' heq => hi.ownsInj (.active ha) (.active ha') heq

theorem mem_members {conn : Nat} :
    conn ∈ h.members ↔ ∃ key c, h.connections.active.lookup key = some c ∧ c.serial = conn := by
  rw [members]
  rw [List.mem_map]
  constructor
  · rintro ⟨c, hc, rfl⟩
    obtain ⟨key, ha⟩ := Map.mem_values.mp hc
    exact ⟨key, c, ha, rfl⟩
  · rintro ⟨key, c, ha, rfl⟩
    exact ⟨c, Map.mem_values.mpr ⟨key, ha⟩, rfl⟩

/-! ## Accepting connections -/

theorem owns_accept {request : Request} (ho : (h.accept request).Owns key c) :
    ∃ c₀, h.Owns key c₀ ∧ c₀.serial = c.serial := by
  rcases ho with ha | hn
  · exact ⟨c, Or.inl ha, rfl⟩
  · obtain ⟨⟨k, c₀⟩, hn₀, heq⟩ := Option.map_eq_some_iff.mp hn
    cases heq
    exact ⟨c₀, Or.inr hn₀, rfl⟩

theorem Inv.accept {request : Request} (hi : h.Inv) : (h.accept request).Inv where
  nextKey := by
    intro key c hn
    obtain ⟨⟨k, c₀⟩, hn₀, heq⟩ := Option.map_eq_some_iff.mp hn
    cases heq
    exact hi.nextKey hn₀
  ownsSerial := by
    intro key c ho
    obtain ⟨c₀, ho₀, heq⟩ := owns_accept ho
    exact heq ▸ hi.ownsSerial ho₀
  ownsInj := by
    intro key key' c c' ho ho' hs
    obtain ⟨c₀, ho₀, heq⟩ := owns_accept ho
    obtain ⟨c₀', ho₀', heq'⟩ := owns_accept ho'
    exact hi.ownsInj ho₀ ho₀' (heq.trans (hs.trans heq'.symm))
  opSerial := hi.opSerial
  tagsNodup := hi.tagsNodup
  tagsMem := hi.tagsMem
  tagsEntry := hi.tagsEntry
  writingNodup := hi.writingNodup
  processingMem := hi.processingMem
  writingHome := hi.writingHome
  doneNodup := hi.doneNodup
  doneHome := by
    intro op key c hop ho hs
    obtain ⟨c₀, ho₀, heq⟩ := owns_accept ho
    exact hi.doneHome hop ho₀ (heq.trans hs)

theorem moveNext_none (hn : h.connections.next = none) : h.moveNext = h := by
  rw [moveNext]
  rw [hn]

theorem moveNext_some (hn : h.connections.next = some (key, c)) :
    h.moveNext =
      { h with
        connections :=
          { h.connections with
            next := none
            active := h.connections.active.emplace key c }
        log :=
          .activate c.serial ::
            if h.connectionCallback then .connect c.serial key c.request :: h.log else h.log } := by
  rw [moveNext]
  rw [hn]

@[simp] theorem moveNext_next : h.moveNext.connections.next = none := by
  cases hn : h.connections.next with
  | none => rw [moveNext_none hn, hn]
  | some p => rw [moveNext_some hn]

@[simp] theorem moveNext_processing :
    h.moveNext.connections.processing = h.connections.processing := by
  cases hn : h.connections.next with
  | none => rw [moveNext_none hn]
  | some p => rw [moveNext_some hn]

@[simp] theorem moveNext_tags : h.moveNext.connections.tags = h.connections.tags := by
  cases hn : h.connections.next with
  | none => rw [moveNext_none hn]
  | some p => rw [moveNext_some hn]

@[simp] theorem moveNext_queue : h.moveNext.queue = h.queue := by
  cases hn : h.connections.next with
  | none => rw [moveNext_none hn]
  | some p => rw [moveNext_some hn]

@[simp] theorem moveNext_allocated : h.moveNext.allocated = h.allocated := by
  cases hn : h.connections.next with
  | none => rw [moveNext_none hn]
  | some p => rw [moveNext_some hn]

@[simp] theorem moveNext_connectionCallback :
    h.moveNext.connectionCallback = h.connectionCallback := by
  cases hn : h.connections.next with
  | none => rw [moveNext_none hn]
  | some p => rw [moveNext_some hn]

@[simp] theorem moveNext_deletionCallback : h.moveNext.deletionCallback = h.deletionCallback := by
  cases hn : h.connections.next with
  | none => rw [moveNext_none hn]
  | some p => rw [moveNext_some hn]

/-- Moving `next` into `active` keeps what the handler owns. -/
theorem Inv.lookup_moveNext (hi : h.Inv) :
    h.moveNext.connections.active.lookup key = some c ↔ h.Owns key c := by
  cases hn : h.connections.next with
  | none =>
      rw [moveNext_none hn]
      simp [Owns, hn]
  | some p =>
      obtain ⟨k, c₀⟩ := p
      rw [moveNext_some hn]
      show AList.lookup key (h.connections.active.emplace k c₀) = some c ↔ _
      rw [Map.lookup_emplace (hi.nextKey hn)]
      by_cases hk : key = k
      · subst hk
        rw [if_pos rfl]
        constructor
        · intro heq
          cases heq
          exact .next hn
        · intro ho
          rw [hi.owns_key ho (.next hn)]
      · rw [if_neg hk]
        constructor
        · exact .active
        · rintro (ha | hn')
          · exact ha
          · rw [hn] at hn'
            cases hn'
            exact absurd rfl hk

theorem Inv.owns_moveNext (hi : h.Inv) : h.moveNext.Owns key c ↔ h.Owns key c := by
  rw [Owns]
  rw [moveNext_next, hi.lookup_moveNext]
  simp [Owns]

@[simp] theorem moveNext_writing : h.moveNext.writing = h.writing := by
  simp [writing]

@[simp] theorem moveNext_awaited : h.moveNext.awaited = h.awaited := by
  simp [awaited]

theorem Inv.moveNext (hi : h.Inv) : h.moveNext.Inv where
  nextKey := by intro key c hn; rw [moveNext_next] at hn; cases hn
  ownsSerial := by
    intro key c ho
    rw [moveNext_allocated]
    exact hi.ownsSerial (hi.owns_moveNext.mp ho)
  ownsInj := by
    intro key key' c c' ho ho'
    exact hi.ownsInj (hi.owns_moveNext.mp ho) (hi.owns_moveNext.mp ho')
  opSerial := by simpa using @hi.opSerial
  tagsNodup := by simpa using hi.tagsNodup
  tagsMem := by simpa using @hi.tagsMem
  tagsEntry := by simpa using @hi.tagsEntry
  writingNodup := by simpa using hi.writingNodup
  processingMem := by simpa using @hi.processingMem
  writingHome := by
    intro op hop
    rw [moveNext_writing] at hop
    obtain ⟨c, ha, hs⟩ := hi.writingHome hop
    exact ⟨c, hi.lookup_moveNext.mpr (.active ha), hs⟩
  doneNodup := by simpa using hi.doneNodup
  doneHome := by
    intro op key c hop ho
    rw [moveNext_awaited] at hop
    exact hi.doneHome hop (hi.owns_moveNext.mp ho)

theorem owns_addNext (hn : h.connections.next = none) :
    (h.addNext key tag).Owns key' c ↔
      h.Owns key' c ∨ (key' = key ∧ c = ⟨h.allocated, none⟩) := by
  unfold Owns
  rw [hn]
  simp only [addNext, reduceCtorEq, or_false, Option.some.injEq, Prod.mk.injEq]
  constructor
  · rintro (ha | ⟨rfl, rfl⟩)
    · exact Or.inl ha
    · exact Or.inr ⟨rfl, rfl⟩
  · rintro (ha | ⟨rfl, rfl⟩)
    · exact Or.inl ha
    · exact Or.inr ⟨rfl, rfl⟩

theorem addNext_writing : (h.addNext key tag).writing = h.writing := by
  simp [writing, addNext, Operation.label, OpKind.label]

theorem addNext_awaited :
    (h.addNext key tag).awaited = h.awaited ++ [⟨tag, key, h.allocated, .notifyWhenDone⟩] := by
  simp [awaited, addNext, Operation.label, OpKind.label]

theorem Inv.addNext (hi : h.Inv) (hn : h.connections.next = none) (hk : h.FreshKey key)
    (ht : h.FreshTag tag) : (h.addNext key tag).Inv where
  nextKey := by
    intro key' c hn' hmem
    cases hn'
    obtain ⟨c, ha⟩ := Map.mem_iff_lookup.mp hmem
    exact hi.not_owns_of_object hk (.active ha)
  ownsSerial := by
    intro key' c ho
    rcases (owns_addNext hn).mp ho with ho | ⟨-, rfl⟩
    · exact Nat.lt_succ_of_lt (hi.ownsSerial ho)
    · exact Nat.lt_succ_self _
  ownsInj := by
    intro k k' c c' ho ho' hs
    rcases (owns_addNext hn).mp ho with hold | ⟨hk₁, hc₁⟩
    · rcases (owns_addNext hn).mp ho' with hold' | ⟨-, hc₂⟩
      · exact hi.ownsInj hold hold' hs
      · exact absurd (hs.trans (congrArg _ hc₂)) (Nat.ne_of_lt (hi.ownsSerial hold))
    · rcases (owns_addNext hn).mp ho' with hold' | ⟨hk₂, -⟩
      · exact absurd (hs.symm.trans (congrArg _ hc₁)) (Nat.ne_of_lt (hi.ownsSerial hold'))
      · exact hk₁.trans hk₂.symm
  opSerial := by
    intro op hop
    rcases List.mem_append.mp hop with hop | hop
    · exact Nat.lt_succ_of_lt (hi.opSerial hop)
    · rw [List.mem_singleton.mp hop]
      exact Nat.lt_succ_self _
  tagsNodup := by
    exact Keyed.nodup_concat hi.tagsNodup fun op hop => hi.tag_ne ht hop
  tagsMem := fun hmem => hi.tagsMem_concat hmem
  tagsEntry := fun hop => hi.tagsEntry_concat ht hop
  writingNodup := by
    rw [addNext_writing]
    exact hi.writingNodup
  processingMem := by
    intro key'
    rw [addNext_writing]
    exact hi.processingMem
  writingHome := by
    intro op hop
    rw [addNext_writing] at hop
    exact hi.writingHome hop
  doneNodup := by
    rw [addNext_awaited]
    refine Keyed.nodup_concat hi.doneNodup ?_
    intro op hop
    exact Nat.ne_of_lt (hi.opSerial (mem_awaited.mp hop).1)
  doneHome := by
    intro op key' c hop ho hs
    rw [addNext_awaited] at hop
    rcases List.mem_append.mp hop with hop | hop
    · rcases (owns_addNext hn).mp ho with hold | ⟨-, hc⟩
      · exact hi.doneHome hop hold hs
      · have hlt := hi.opSerial (mem_awaited.mp hop).1
        rw [← hs, hc] at hlt
        exact absurd hlt (Nat.lt_irrefl _)
    · rw [List.mem_singleton.mp hop] at hs ⊢
      rcases (owns_addNext hn).mp ho with hold | ⟨hk', -⟩
      · exact absurd hs (Nat.ne_of_lt (hi.ownsSerial hold))
      · exact hk'

theorem Inv.freshKey_moveNext (hi : h.Inv) (hk : h.FreshKey key) : h.moveNext.FreshKey key := by
  rw [FreshKey]
  cases hobj : h.moveNext.connections.object key with
  | none => rfl
  | some c =>
      have ho := hi.owns_moveNext.mp (hi.moveNext.object_eq_some.mp hobj)
      exact absurd ho (hi.not_owns_of_object hk)

theorem Inv.activateNext (hi : h.Inv) (hk : h.FreshKey key) (ht : h.FreshTag tag) :
    (h.activateNext key tag).Inv := by
  refine hi.moveNext.addNext moveNext_next (hi.freshKey_moveNext hk) ?_
  rw [FreshTag]
  rw [moveNext_tags]
  exact ht

/-! ## Write and Finish -/

theorem issue_writing (hk : kind.label = .writing) (x : Target Request) :
    (h.issue kind x).writing = h.writing ++ [⟨x.tag, x.key, x.connection.serial, kind⟩] := by
  simp [writing, issue, Operation.label, hk]

theorem issue_awaited (hk : kind.label = .writing) (x : Target Request) :
    (h.issue kind x).awaited = h.awaited := by
  simp [awaited, issue, Operation.label, hk]

/-- A round of the loop keeps the invariant when the connection is active and
has no operation at gRPC. -/
theorem Inv.issue (hi : h.Inv) (hk : kind.label = .writing) {x : Target Request}
    (ha : h.connections.active.lookup x.key = some x.connection)
    (hp : x.key ∉ h.connections.processing) (ht : h.FreshTag x.tag) :
    (h.issue kind x).Inv where
  nextKey := hi.nextKey
  ownsSerial := hi.ownsSerial
  ownsInj := hi.ownsInj
  opSerial := by
    intro op hop
    rcases List.mem_append.mp hop with hop | hop
    · exact hi.opSerial hop
    · rw [List.mem_singleton.mp hop]
      exact hi.ownsSerial (.active ha)
  tagsNodup := by
    exact Keyed.nodup_concat hi.tagsNodup fun op hop => hi.tag_ne ht hop
  tagsMem := fun hmem => hi.tagsMem_concat hmem
  tagsEntry := by
    intro op hop
    show AList.lookup op.tag (makeTag x.tag x.key .writing h.connections.tags) = _
    rw [← hk]
    exact hi.tagsEntry_concat ht hop
  writingNodup := by
    rw [issue_writing hk]
    refine Keyed.nodup_concat hi.writingNodup ?_
    intro op hop heq
    exact hp (hi.processingMem.mpr ⟨op, hop, heq⟩)
  processingMem := by
    intro key
    rw [issue_writing hk]
    show key ∈ insert x.key h.connections.processing ↔ _
    rw [Finset.mem_insert, hi.processingMem]
    constructor
    · rintro (rfl | ⟨op, hop, rfl⟩)
      · exact ⟨_, List.mem_append_right _ (List.mem_singleton_self _), rfl⟩
      · exact ⟨op, List.mem_append_left _ hop, rfl⟩
    · rintro ⟨op, hop, rfl⟩
      rcases List.mem_append.mp hop with hop | hop
      · exact Or.inr ⟨op, hop, rfl⟩
      · exact Or.inl (by rw [List.mem_singleton.mp hop])
  writingHome := by
    intro op hop
    rw [issue_writing hk] at hop
    rcases List.mem_append.mp hop with hop | hop
    · exact hi.writingHome hop
    · rw [List.mem_singleton.mp hop]
      exact ⟨x.connection, ha, rfl⟩
  doneNodup := by
    rw [issue_awaited hk]
    exact hi.doneNodup
  doneHome := by
    intro op key c hop
    rw [issue_awaited hk] at hop
    exact hi.doneHome hop

/-- The operation a target is turned into. -/
def Target.operation (kind : OpKind Response Status) (x : Target Request) :
    Operation Response Status :=
  ⟨x.tag, x.key, x.connection.serial, kind⟩

/-- What the loop leaves: one operation for each target, the rest as it was. -/
theorem issueAll_frame (xs : List (Target Request)) :
    (issueAll kind xs h).connections.next = h.connections.next ∧
      (issueAll kind xs h).connections.active = h.connections.active ∧
      (issueAll kind xs h).queue = h.queue ++ xs.map (Target.operation kind) ∧
      (issueAll kind xs h).connections.processing =
        h.connections.processing ∪ (xs.map Target.key).toFinset ∧
      (issueAll kind xs h).allocated = h.allocated ∧
      (issueAll kind xs h).log = h.log ∧
      (issueAll kind xs h).connectionCallback = h.connectionCallback ∧
      (issueAll kind xs h).deletionCallback = h.deletionCallback := by
  induction xs generalizing h with
  | nil => simp [issueAll]
  | cons x xs ih =>
      obtain ⟨hn, ha, hq, hp, hal, hl, hcc, hdc⟩ := ih (h := h.issue kind x)
      refine ⟨hn, ha, ?_, ?_, hal, hl, hcc, hdc⟩
      · rw [issueAll, hq]
        simp [StreamRpcHandler.issue, Target.operation]
      · rw [issueAll, hp]
        ext key
        simp only [StreamRpcHandler.issue, Finset.mem_union, Finset.mem_insert, List.map_cons,
          List.toFinset_cons]
        tauto

theorem Inv.issueAll (hi : h.Inv) (hk : kind.label = .writing) {xs : List (Target Request)}
    (ha : ∀ x ∈ xs, h.connections.active.lookup x.key = some x.connection)
    (hp : ∀ x ∈ xs, x.key ∉ h.connections.processing) (ht : ∀ x ∈ xs, h.FreshTag x.tag)
    (hkeys : (xs.map Target.key).Nodup) (htags : (xs.map Target.tag).Nodup) :
    (issueAll kind xs h).Inv := by
  induction xs generalizing h with
  | nil => exact hi
  | cons x xs ih =>
      rw [List.map_cons, List.nodup_cons] at hkeys htags
      rw [List.forall_mem_cons] at ha hp ht
      refine ih (hi.issue hk ha.1 hp.1 ht.1) ha.2 ?_ ?_ hkeys.2 htags.2
      · intro y hy hmem
        rcases Finset.mem_insert.mp hmem with heq | hmem
        · exact hkeys.1 (List.mem_map.mpr ⟨y, hy, heq⟩)
        · exact hp.2 y hy hmem
      · intro y hy hmem
        rcases mem_makeTag.mp hmem with heq | hmem
        · exact htags.1 (List.mem_map.mpr ⟨y, hy, heq⟩)
        · exact ht.2 y hy hmem

theorem mem_targets_one {client : Addr} {x : Target Request}
    (hx : x ∈ targets h.connections (.one client tag)) :
    ∃ c, h.connections.active.lookup client = some c ∧ x = ⟨client, c, tag⟩ := by
  cases ha : h.connections.active.lookup client with
  | none => simp [targets, ha] at hx
  | some c => exact ⟨c, rfl, by simpa [targets, ha] using hx⟩

theorem lookup_of_mem_targets {recipients : Recipients} {x : Target Request}
    (hx : x ∈ targets h.connections recipients) :
    h.connections.active.lookup x.key = some x.connection := by
  cases recipients with
  | one client tag =>
      obtain ⟨c, ha, rfl⟩ := mem_targets_one hx
      exact ha
  | all order =>
      obtain ⟨p, -, hp⟩ := List.mem_filterMap.mp hx
      obtain ⟨c, ha, rfl⟩ := Option.map_eq_some_iff.mp hp
      exact ha

/-- The loop meets every pair of the iteration order. -/
theorem targets_all {order : List (Addr × Addr)}
    (hmem : ∀ p ∈ order, p.1 ∈ h.connections.active) :
    (targets h.connections (.all order)).map Target.key = order.map Prod.fst ∧
      (targets h.connections (.all order)).map Target.tag = order.map Prod.snd := by
  induction order with
  | nil => exact ⟨rfl, rfl⟩
  | cons p order ih =>
      rw [List.forall_mem_cons] at hmem
      obtain ⟨c, ha⟩ := Map.mem_iff_lookup.mp hmem.1
      obtain ⟨hkeys, htags⟩ := ih hmem.2
      simp only [targets] at hkeys htags
      simp [targets, ha, hkeys, htags]

theorem mem_active_of_perm {order : List (Addr × Addr)}
    (hperm : (order.map Prod.fst).Perm h.connections.active.keys) :
    ∀ p ∈ order, p.1 ∈ h.connections.active := fun _ hp =>
  AList.mem_keys.mpr (hperm.mem_iff.mp (List.mem_map_of_mem hp))

theorem Admits.keys_nodup {recipients : Recipients} (hadm : h.Admits recipients) :
    ((targets h.connections recipients).map Target.key).Nodup := by
  cases recipients with
  | one client tag => cases ha : h.connections.active.lookup client <;> simp [targets, ha]
  | all order =>
      obtain ⟨hperm, -, -⟩ := hadm
      rw [(targets_all (mem_active_of_perm hperm)).1, hperm.nodup_iff]
      exact h.connections.active.keys_nodup

theorem Admits.tags_nodup {recipients : Recipients} (hadm : h.Admits recipients) :
    ((targets h.connections recipients).map Target.tag).Nodup := by
  cases recipients with
  | one client tag => cases ha : h.connections.active.lookup client <;> simp [targets, ha]
  | all order =>
      obtain ⟨hperm, htags, -⟩ := hadm
      rw [(targets_all (mem_active_of_perm hperm)).2]
      exact htags

theorem Admits.freshTag {recipients : Recipients} (hadm : h.Admits recipients)
    {x : Target Request} (hx : x ∈ targets h.connections recipients) : h.FreshTag x.tag := by
  cases recipients with
  | one client tag =>
      obtain ⟨c, -, rfl⟩ := mem_targets_one hx
      exact hadm
  | all order =>
      obtain ⟨p, hp, heq⟩ := List.mem_filterMap.mp hx
      obtain ⟨c, -, rfl⟩ := Option.map_eq_some_iff.mp heq
      exact hadm.2.2 p hp

theorem Inv.send {recipients : Recipients} (hi : h.Inv) (hk : kind.label = .writing)
    (hp : h.connections.processing = ∅) (hadm : h.Admits recipients) :
    (h.send kind recipients).handler.Inv := by
  have hi' : ({ h with log := .call (h.callRecord kind recipients) :: h.log } :
      StreamRpcHandler Request Response Status).Inv := hi.congr rfl rfl rfl
  refine hi'.issueAll hk (fun x hx => lookup_of_mem_targets hx) ?_ (fun x hx => hadm.freshTag hx)
    hadm.keys_nodup hadm.tags_nodup
  intro x _ hmem
  exact Finset.notMem_empty _ (hp ▸ hmem)

/-! ## Handling tags -/

/-- An operation leaves the queue: its tag leaves the table, and a writing tag
leaves `processing`. -/
def settle (op : Operation Response Status) (h : StreamRpcHandler Request Response Status) :
    StreamRpcHandler Request Response Status :=
  { h with
    connections :=
      { h.connections with
        tags := h.connections.tags.erase op.tag
        processing :=
          if op.label = .writing then h.connections.processing.erase op.data
          else h.connections.processing }
    queue := h.queue.eraseP fun o => o.tag = op.tag }

/-- A writing tag is handled, up to the deletion path. -/
def complete (op : Operation Response Status) (callOk : Bool)
    (h : StreamRpcHandler Request Response Status) : StreamRpcHandler Request Response Status :=
  { h.settle op with log := .complete op.conn op.kind callOk :: h.log }

/-- A done tag is handled, up to the deletion path. -/
def notified (op : Operation Response Status) (h : StreamRpcHandler Request Response Status) :
    StreamRpcHandler Request Response Status :=
  { h.settle op with log := .done op.conn (h.connections.isNext op.conn) :: h.log }

variable {o : Operation Response Status}

theorem Inv.mem_settle (hi : h.Inv) (hop : op ∈ h.queue) :
    o ∈ (h.settle op).queue ↔ o ∈ h.queue ∧ o ≠ op := by
  show o ∈ h.queue.eraseP _ ↔ _
  rw [Keyed.mem_eraseP hi.tagsNodup]
  constructor
  · intro ⟨ho, hne⟩
    exact ⟨ho, fun heq => hne (congrArg _ heq)⟩
  · intro ⟨ho, hne⟩
    exact ⟨ho, fun heq => hne (Keyed.eq_of_key hi.tagsNodup ho hop heq)⟩

theorem Inv.mem_settle_writing (hi : h.Inv) (hop : op ∈ h.queue) :
    o ∈ (h.settle op).writing ↔ o ∈ h.writing ∧ o ≠ op := by
  rw [mem_writing, hi.mem_settle hop, mem_writing]
  tauto

theorem Inv.mem_settle_awaited (hi : h.Inv) (hop : op ∈ h.queue) :
    o ∈ (h.settle op).awaited ↔ o ∈ h.awaited ∧ o ≠ op := by
  rw [mem_awaited, hi.mem_settle hop, mem_awaited]
  tauto

theorem settle_writing_sublist : ((h.settle op).writing).Sublist h.writing :=
  List.eraseP_sublist.filter _

theorem settle_awaited_sublist : ((h.settle op).awaited).Sublist h.awaited :=
  List.eraseP_sublist.filter _

theorem Inv.mem_settle_processing (hi : h.Inv) (hop : op ∈ h.queue) :
    key ∈ (h.settle op).connections.processing ↔
      ∃ o ∈ (h.settle op).writing, o.data = key := by
  by_cases hl : op.label = .writing
  · have hopw : op ∈ h.writing := mem_writing.mpr ⟨hop, hl⟩
    simp only [settle, if_pos hl, Finset.mem_erase]
    rw [hi.processingMem]
    constructor
    · rintro ⟨hne, o, ho, rfl⟩
      exact ⟨o, (hi.mem_settle_writing hop).mpr ⟨ho, fun heq => hne (congrArg _ heq)⟩, rfl⟩
    · rintro ⟨o, ho, rfl⟩
      obtain ⟨ho, hne⟩ := (hi.mem_settle_writing hop).mp ho
      exact ⟨fun heq => hne (Keyed.eq_of_key hi.writingNodup ho hopw heq), o, ho, rfl⟩
  · simp only [settle, if_neg hl]
    rw [hi.processingMem]
    constructor
    · rintro ⟨o, ho, rfl⟩
      refine ⟨o, (hi.mem_settle_writing hop).mpr ⟨ho, ?_⟩, rfl⟩
      intro heq
      subst heq
      exact hl (mem_writing.mp ho).2
    · rintro ⟨o, ho, rfl⟩
      exact ⟨o, ((hi.mem_settle_writing hop).mp ho).1, rfl⟩

theorem Inv.settle (hi : h.Inv) (hop : op ∈ h.queue) : (h.settle op).Inv where
  nextKey := hi.nextKey
  ownsSerial := hi.ownsSerial
  ownsInj := hi.ownsInj
  opSerial := by
    intro o ho
    exact hi.opSerial ((hi.mem_settle hop).mp ho).1
  tagsNodup := hi.tagsNodup.sublist (List.eraseP_sublist.map _)
  tagsMem := by
    intro tag ht
    obtain ⟨hne, ht⟩ := AList.mem_erase.mp ht
    obtain ⟨o, ho, rfl⟩ := hi.tagsMem ht
    exact ⟨o, (hi.mem_settle hop).mpr ⟨ho, fun heq => hne (congrArg _ heq)⟩, rfl⟩
  tagsEntry := by
    intro o ho
    obtain ⟨ho, hne⟩ := (hi.mem_settle hop).mp ho
    have htag : o.tag ≠ op.tag := fun heq => hne (Keyed.eq_of_key hi.tagsNodup ho hop heq)
    show AList.lookup o.tag (h.connections.tags.erase op.tag) = _
    rw [Map.lookup_erase_eq, if_neg htag, hi.tagsEntry ho]
  writingNodup := hi.writingNodup.sublist (settle_writing_sublist.map _)
  processingMem := hi.mem_settle_processing hop
  writingHome := by
    intro o ho
    exact hi.writingHome ((hi.mem_settle_writing hop).mp ho).1
  doneNodup := hi.doneNodup.sublist (settle_awaited_sublist.map _)
  doneHome := by
    intro o key c ho
    exact hi.doneHome ((hi.mem_settle_awaited hop).mp ho).1

theorem Inv.complete (hi : h.Inv) (hop : op ∈ h.queue) : (h.complete op callOk).Inv :=
  (hi.settle hop).congr rfl rfl rfl

theorem Inv.notified (hi : h.Inv) (hop : op ∈ h.queue) : (h.notified op).Inv :=
  (hi.settle hop).congr rfl rfl rfl

variable {conn : Nat}

theorem lookup_delete :
    (h.delete conn key).connections.active.lookup key' =
      if key' = key then none else h.connections.active.lookup key' :=
  Map.lookup_erase_eq key key' h.connections.active

theorem owns_delete (ho : (h.delete conn key).Owns key' c) : h.Owns key' c := by
  rcases ho with ha | hn
  · rw [lookup_delete] at ha
    split at ha
    · cases ha
    · exact .active ha
  · exact .next hn

/-- Erasing a connection with no operation at gRPC keeps the invariant. -/
theorem Inv.delete (hi : h.Inv) (hk : key ∉ h.connections.processing) :
    (h.delete conn key).Inv where
  nextKey := by
    intro key' c hn hmem
    exact hi.nextKey hn (AList.mem_erase.mp hmem).2
  ownsSerial := by
    intro key' c ho
    exact hi.ownsSerial (owns_delete ho)
  ownsInj := by
    intro k k' c c' ho ho'
    exact hi.ownsInj (owns_delete ho) (owns_delete ho')
  opSerial := hi.opSerial
  tagsNodup := hi.tagsNodup
  tagsMem := hi.tagsMem
  tagsEntry := hi.tagsEntry
  writingNodup := hi.writingNodup
  processingMem := hi.processingMem
  writingHome := by
    intro op hop
    obtain ⟨c, ha, hs⟩ := hi.writingHome hop
    have hne : op.data ≠ key := by
      intro heq
      subst heq
      exact hk (hi.processingMem.mpr ⟨op, hop, rfl⟩)
    exact ⟨c, by rw [lookup_delete, if_neg hne, ha], hs⟩
  doneNodup := hi.doneNodup
  doneHome := by
    intro op key' c hop ho
    exact hi.doneHome hop (owns_delete ho)

/-- After its only operation has settled, a connection has none at gRPC. -/
theorem Inv.settled_notMem_processing (hl : op.label = .writing) :
    op.data ∉ (h.settle op).connections.processing := by
  simp [StreamRpcHandler.settle, hl]

/-- What the handling of a writing tag comes to. -/
theorem runSynchronization_writing (hi : h.Inv) (hop : op ∈ h.queue) (hl : op.label = .writing) :
    h.runSynchronization op callOk =
      some
        ⟨if callOk then h.complete op callOk
          else (h.complete op callOk).delete op.conn op.data,
          decide ((h.settle op).connections.processing = ∅)⟩ := by
  rw [runSynchronization]
  rw [getTag_of_lookup (hi.tagsEntry hop), hl]
  simp only [handleWriting, receive, StreamRpcHandler.complete, StreamRpcHandler.settle, hl,
    if_true]
  rfl

/-- What the handling of a done tag comes to. -/
theorem runSynchronization_done (hi : h.Inv) (hop : op ∈ h.queue) (hl : op.label = .done) :
    h.runSynchronization op callOk =
      some
        ⟨if op.data ∈ h.connections.processing then h.notified op
          else (h.notified op).delete op.conn op.data,
          false⟩ := by
  rw [runSynchronization]
  rw [getTag_of_lookup (hi.tagsEntry hop), hl]
  simp only [handleDone, receive, StreamRpcHandler.notified, StreamRpcHandler.settle, hl,
    reduceCtorEq, if_false]
  rfl

/-- The two ways in which a delivery changes the handler. -/
theorem Step.deliver_cases (hi : h.Inv) (hs : Step h (.deliver op callOk) h') :
    h.Deliverable op ∧
      (op ∈ h.writing ∧ h' = (if callOk then h.complete op callOk
          else (h.complete op callOk).delete op.conn op.data) ∨
        op ∈ h.awaited ∧ h' = (if op.data ∈ h.connections.processing then h.notified op
          else (h.notified op).delete op.conn op.data)) := by
  cases hs with
  | deliver hd hrun =>
      refine ⟨hd, ?_⟩
      cases hl : op.label with
      | writing =>
          rw [runSynchronization_writing hi hd.1 hl] at hrun
          cases hrun
          exact Or.inl ⟨mem_writing.mpr ⟨hd.1, hl⟩, rfl⟩
      | done =>
          rw [runSynchronization_done hi hd.1 hl] at hrun
          cases hrun
          exact Or.inr ⟨mem_awaited.mpr ⟨hd.1, hl⟩, rfl⟩

/-! ## Every reachable state -/

theorem Step.inv {a : Action Request Response Status} (hi : h.Inv) (hs : Step h a h') :
    h'.Inv := by
  cases hs with
  | onConnect => exact hi.congr rfl rfl rfl
  | onDelete => exact hi.congr rfl rfl rfl
  | accept _ => exact hi.accept
  | activateNext _ hk ht => exact hi.activateNext hk ht
  | write hp hadm => exact hi.send rfl hp hadm
  | finish hp hadm => exact hi.send rfl hp hadm
  | deliver hd hrun =>
      obtain ⟨-, ⟨hop, heq⟩ | ⟨hop, heq⟩⟩ := (Step.deliver hd hrun).deliver_cases hi
      · rw [heq]
        obtain ⟨hop, hl⟩ := mem_writing.mp hop
        split
        · exact hi.complete hop
        · exact (hi.complete hop).delete (Inv.settled_notMem_processing hl)
      · rw [heq]
        obtain ⟨hop, hl⟩ := mem_awaited.mp hop
        split
        · exact hi.notified hop
        · rename_i hk
          refine (hi.notified hop).delete ?_
          simpa [StreamRpcHandler.notified, StreamRpcHandler.settle, hl] using hk

theorem HandlerReachable.inv (hr : h.HandlerReachable) : h.Inv :=
  hr.invariant .initial fun _ hi hs => hs.inv hi

/-! ## What each section leaves alone

The results about runs read the log, the connections held and the operations at
gRPC.  These lemmas say what a section does to them. -/

variable {recipients : Recipients}

theorem Inv.holds_key {conn conn' : Nat} (hi : h.Inv) (ho : h.Holds key conn)
    (ho' : h.Holds key conn') : conn = conn' := by
  obtain ⟨c, hc, rfl⟩ := ho
  obtain ⟨c', hc', rfl⟩ := ho'
  rw [hi.owns_key hc hc']

theorem Inv.holds_inj (hi : h.Inv) (ho : h.Holds key conn) (ho' : h.Holds key' conn) :
    key = key' := by
  obtain ⟨c, hc, hs⟩ := ho
  obtain ⟨c', hc', hs'⟩ := ho'
  exact hi.ownsInj hc hc' (hs.trans hs'.symm)

theorem Inv.holds_awaited (hi : h.Inv) (hop : op ∈ h.awaited) (ho : h.Holds key op.conn) :
    key = op.data := by
  obtain ⟨c, hc, hs⟩ := ho
  exact hi.doneHome hop hc hs

/-- An operation at gRPC is on the connection at the address of its tag. -/
theorem Inv.holds_writing (hi : h.Inv) (hop : op ∈ h.writing) : h.Holds op.data op.conn := by
  obtain ⟨c, ha, hs⟩ := hi.writingHome hop
  exact ⟨c, .active ha, hs⟩

theorem mem_members_holds (hm : conn ∈ h.members) : ∃ key, h.Holds key conn := by
  obtain ⟨key, c, ha, hs⟩ := mem_members.mp hm
  exact ⟨key, c, .active ha, hs⟩

theorem isNext_iff : h.connections.isNext conn ↔
    ∃ key c, h.connections.next = some (key, c) ∧ c.serial = conn := by
  rw [Connections.isNext]
  cases hn : h.connections.next with
  | none => simp
  | some p =>
      obtain ⟨key, c⟩ := p
      simp

theorem holds_accept {request : Request} :
    (h.accept request).Holds key conn ↔ h.Holds key conn := by
  constructor
  · rintro ⟨c, hc, rfl⟩
    obtain ⟨c₀, hc₀, hs⟩ := owns_accept hc
    exact ⟨c₀, hc₀, hs⟩
  · rintro ⟨c, ha | hn, rfl⟩
    · exact ⟨c, .active ha, rfl⟩
    · exact ⟨{ c with request := some request }, .next (by simp [StreamRpcHandler.accept, hn]), rfl⟩

theorem Inv.holds_activateNext (hi : h.Inv) :
    (h.activateNext key tag).Holds key' conn ↔
      h.Holds key' conn ∨ (key' = key ∧ conn = h.allocated) := by
  unfold StreamRpcHandler.activateNext Holds
  simp only [owns_addNext moveNext_next, hi.owns_moveNext, moveNext_allocated]
  constructor
  · rintro ⟨c, hc | ⟨rfl, rfl⟩, rfl⟩
    · exact Or.inl ⟨c, hc, rfl⟩
    · exact Or.inr ⟨rfl, rfl⟩
  · rintro (⟨c, hc, rfl⟩ | ⟨rfl, rfl⟩)
    · exact ⟨c, Or.inl hc, rfl⟩
    · exact ⟨_, Or.inr ⟨rfl, rfl⟩, rfl⟩

@[simp] theorem activateNext_next :
    (h.activateNext key tag).connections.next = some (key, ⟨h.allocated, none⟩) := by
  simp [StreamRpcHandler.activateNext, StreamRpcHandler.addNext]

@[simp] theorem activateNext_awaited :
    (h.activateNext key tag).awaited = h.awaited ++ [⟨tag, key, h.allocated, .notifyWhenDone⟩] := by
  simp [StreamRpcHandler.activateNext, addNext_awaited]

@[simp] theorem activateNext_writing : (h.activateNext key tag).writing = h.writing := by
  simp [StreamRpcHandler.activateNext, addNext_writing]

@[simp] theorem activateNext_allocated :
    (h.activateNext key tag).allocated = h.allocated + 1 := by
  simp [StreamRpcHandler.activateNext, StreamRpcHandler.addNext]

theorem activateNext_log :
    (h.activateNext key tag).log =
      match h.connections.next with
      | none => h.log
      | some (key, c) =>
          .activate c.serial ::
            if h.connectionCallback then .connect c.serial key c.request :: h.log else h.log := by
  show h.moveNext.log = _
  cases hn : h.connections.next with
  | none => rw [moveNext_none hn]
  | some p => rw [moveNext_some hn]

theorem done_activateNext {b : Bool} :
    .done conn b ∈ (h.activateNext key tag).log ↔ .done conn b ∈ h.log := by
  rw [activateNext_log]
  split
  · rfl
  · split <;> simp

theorem log_suffix_activateNext : h.log <:+ (h.activateNext key tag).log := by
  rw [activateNext_log]
  split
  · exact List.suffix_rfl
  · split
    · exact (List.suffix_cons _ _).trans (List.suffix_cons _ _)
    · exact List.suffix_cons _ _

theorem Inv.mem_members_activateNext (hi : h.Inv) :
    conn ∈ (h.activateNext key tag).members ↔ ∃ key, h.Holds key conn := by
  rw [mem_members]
  show (∃ key c, h.moveNext.connections.active.lookup key = some c ∧ c.serial = conn) ↔ _
  simp only [hi.lookup_moveNext, Holds]

section Send

variable (h kind recipients)

@[simp] theorem send_log :
    (h.send kind recipients).handler.log = .call (h.callRecord kind recipients) :: h.log :=
  (issueAll_frame _).2.2.2.2.2.1

@[simp] theorem send_next :
    (h.send kind recipients).handler.connections.next = h.connections.next :=
  (issueAll_frame _).1

@[simp] theorem send_active :
    (h.send kind recipients).handler.connections.active = h.connections.active :=
  (issueAll_frame _).2.1

@[simp] theorem send_allocated : (h.send kind recipients).handler.allocated = h.allocated :=
  (issueAll_frame _).2.2.2.2.1

@[simp] theorem send_connectionCallback :
    (h.send kind recipients).handler.connectionCallback = h.connectionCallback :=
  (issueAll_frame _).2.2.2.2.2.2.1

@[simp] theorem send_deletionCallback :
    (h.send kind recipients).handler.deletionCallback = h.deletionCallback :=
  (issueAll_frame _).2.2.2.2.2.2.2

theorem send_queue :
    (h.send kind recipients).handler.queue =
      h.queue ++ (targets h.connections recipients).map (Target.operation kind) :=
  (issueAll_frame _).2.2.1

theorem send_processing :
    (h.send kind recipients).handler.connections.processing =
      h.connections.processing ∪
        ((targets h.connections recipients).map Target.key).toFinset :=
  (issueAll_frame _).2.2.2.1

@[simp] theorem owns_send :
    (h.send kind recipients).handler.Owns key c ↔ h.Owns key c := by
  simp [Owns]

@[simp] theorem holds_send :
    (h.send kind recipients).handler.Holds key conn ↔ h.Holds key conn := by
  simp [Holds]

@[simp] theorem send_members : (h.send kind recipients).handler.members = h.members := by
  simp [members]

variable {h kind recipients}

theorem send_awaited (hk : kind.label = .writing) :
    (h.send kind recipients).handler.awaited = h.awaited := by
  unfold awaited
  rw [send_queue, List.filter_append, List.append_right_eq_self]
  rw [List.filter_eq_nil_iff]
  intro op hop
  obtain ⟨x, -, rfl⟩ := List.mem_map.mp hop
  simp [Target.operation, Operation.label, hk]

theorem send_writing (hk : kind.label = .writing) :
    (h.send kind recipients).handler.writing =
      h.writing ++ (targets h.connections recipients).map (Target.operation kind) := by
  unfold writing
  rw [send_queue, List.filter_append, List.append_cancel_left_eq]
  rw [List.filter_eq_self]
  intro op hop
  obtain ⟨x, -, rfl⟩ := List.mem_map.mp hop
  simp [Target.operation, Operation.label, hk]

end Send

@[simp] theorem complete_log :
    (h.complete op callOk).log = .complete op.conn op.kind callOk :: h.log := rfl

@[simp] theorem holds_complete : (h.complete op callOk).Holds key conn ↔ h.Holds key conn := Iff.rfl

@[simp] theorem notified_log :
    (h.notified op).log = .done op.conn (h.connections.isNext op.conn) :: h.log := rfl

@[simp] theorem holds_notified : (h.notified op).Holds key conn ↔ h.Holds key conn := Iff.rfl

@[simp] theorem delete_log :
    (h.delete conn key).log =
      .delete conn key (h.connections.object key) h.deletionCallback :: h.log := rfl

theorem holds_delete {conn' : Nat} (ho : (h.delete conn key).Holds key' conn') :
    h.Holds key' conn' := by
  obtain ⟨c, hc, hs⟩ := ho
  exact ⟨c, owns_delete hc, hs⟩

theorem holds_delete_of_ne {conn' : Nat} (hne : key' ≠ key) (ho : h.Holds key' conn') :
    (h.delete conn key).Holds key' conn' := by
  obtain ⟨c, ha | hn, hs⟩ := ho
  · exact ⟨c, .active (by rw [lookup_delete, if_neg hne, ha]), hs⟩
  · exact ⟨c, .next hn, hs⟩

/-- What is still held at the erased address is `next`. -/
theorem next_of_holds_delete {conn' : Nat} (ho : (h.delete conn key).Holds key conn') :
    ∃ c, h.connections.next = some (key, c) ∧ c.serial = conn' := by
  obtain ⟨c, ha | hn, hs⟩ := ho
  · rw [lookup_delete, if_pos rfl] at ha
    cases ha
  · exact ⟨c, hn, hs⟩

theorem mem_members_delete {conn' : Nat} :
    conn' ∈ (h.delete conn key).members ↔
      ∃ key' c, key' ≠ key ∧ h.connections.active.lookup key' = some c ∧ c.serial = conn' := by
  rw [mem_members]
  constructor
  · intro ⟨key', c, ha, hs⟩
    rw [lookup_delete] at ha
    split at ha
    · cases ha
    · rename_i hne
      exact ⟨key', c, hne, ha, hs⟩
  · intro ⟨key', c, hne, ha, hs⟩
    exact ⟨key', c, by rw [lookup_delete, if_neg hne, ha], hs⟩

/-- The log only grows. -/
theorem Step.log_suffix {a : Action Request Response Status} (hi : h.Inv) (hs : Step h a h') :
    h.log <:+ h'.log := by
  cases hs with
  | onConnect => exact List.suffix_rfl
  | onDelete => exact List.suffix_rfl
  | accept _ => exact List.suffix_rfl
  | activateNext _ _ _ => exact log_suffix_activateNext
  | write _ _ => simp [StreamRpcHandler.write]
  | finish _ _ => simp [StreamRpcHandler.finish]
  | deliver hd hrun =>
      obtain ⟨-, ⟨-, heq⟩ | ⟨-, heq⟩⟩ := (Step.deliver hd hrun).deliver_cases hi
      · rw [heq]
        split
        · exact List.suffix_cons _ _
        · exact (List.suffix_cons _ _).trans (List.suffix_cons _ _)
      · rw [heq]
        split
        · exact List.suffix_cons _ _
        · exact (List.suffix_cons _ _).trans (List.suffix_cons _ _)

end StreamRpcHandler

end Grpcw.Server
