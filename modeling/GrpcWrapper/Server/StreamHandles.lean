import GrpcWrapper.Server.HostedServer

/-!
# The streams that a registration returns

`register_async_stream` returns a pointer to a handler that the server owns, to
be used until the server is destroyed.  The run thread erases the handler when
its accept fails, which is not only what happens at the end: the owner may shut
the server down long before.  So a stream stays valid as long as no accept of
its handler fails, and no longer (`handlesValid_iff`).
-/

namespace Grpcw.Server

open Transition

variable {Request Response Status : Type}

/-- The server owns a stream handler at the address. -/
def StreamAt (handlers : Map Addr (RpcHandler Request Response Status)) (tag : Addr) : Prop :=
  ∃ h, handlers.lookup tag = some (.stream h)

namespace StreamAt

variable {handlers : Map Addr (RpcHandler Request Response Status)} {tag key : Addr}
  {handler handler' : RpcHandler Request Response Status}

theorem emplace (h : StreamAt handlers tag) (hk : key ∉ handlers) :
    StreamAt (handlers.emplace key handler) tag := by
  obtain ⟨h, hl⟩ := h
  refine ⟨h, ?_⟩
  rw [Map.lookup_emplace hk, if_neg, hl]
  intro heq
  exact hk (heq ▸ Map.mem_of_lookup hl)

/-- A handler is replaced by one of its kind. -/
theorem insert (h : StreamAt handlers tag) (hl : handlers.lookup key = some handler)
    (hkind : ∀ h, handler = .stream h → ∃ h', handler' = .stream h') :
    StreamAt (handlers.insert key handler') tag := by
  obtain ⟨h, ht⟩ := h
  by_cases heq : tag = key
  · subst heq
    obtain ⟨h', rfl⟩ := hkind h (Option.some.inj (hl.symm.trans ht))
    exact ⟨h', AList.lookup_insert handlers⟩
  · exact ⟨h, by rw [AList.lookup_insert_ne heq, ht]⟩

theorem erase_iff : StreamAt (handlers.erase key) tag ↔ tag ≠ key ∧ StreamAt handlers tag := by
  constructor
  · intro ⟨h, hl⟩
    rw [Map.lookup_erase_eq] at hl
    split at hl
    · cases hl
    · exact ⟨‹_›, h, hl⟩
  · intro ⟨hne, h, hl⟩
    exact ⟨h, by rw [Map.lookup_erase_eq, if_neg hne, hl]⟩

end StreamAt

namespace RpcHandler

variable {handler handler' : RpcHandler Request Response Status}

theorem Activate.kind (hact : handler.Activate handler') :
    ∀ h, handler = .stream h → ∃ h', handler' = .stream h' := by
  intro h heq
  subst heq
  cases hact with
  | stream _ _ => exact ⟨_, rfl⟩

theorem kind_of_write {key : Addr} {request : Request}
    (hw : handler.write key request = some handler') :
    ∀ h, handler = .stream h → ∃ h', handler' = .stream h' := by
  intro h heq
  subst heq
  obtain ⟨-, heq⟩ := Option.ite_none_right_eq_some.mp hw
  exact ⟨_, (Option.some.inj heq).symm⟩

end RpcHandler

namespace GrpcAsyncServer

variable {s s' : GrpcAsyncServer Request Response Status} {tag : Addr}
  {action : Action Request Response Status}

/-- A handler leaves the map by an erasure only. -/
theorem Step.streamAt (hs : Step s action s') (ha : action ≠ .erase)
    (h : StreamAt s.rpcHandlers tag) : StreamAt s'.rpcHandlers tag := by
  cases hs with
  | emplace _ hk _ => exact h.emplace hk
  | register _ hl hact _ | activate _ hl hact _ => exact h.insert hl hact.kind
  | accept _ _ hl hw => exact h.insert hl (RpcHandler.kind_of_write hw)
  | reply _ hl _ | renew _ hl _ => exact h.insert hl nofun
  | stream hl _ _ => exact h.insert hl fun _ _ => ⟨_, rfl⟩
  | erase _ => exact absurd rfl ha
  | next _ _ _ | shutdown _ | queueShutdown _ | exit _ _ _ => exact h

/-- A registration returns the stream that it has activated. -/
theorem Step.streamAt_returned (hs : Step s action s') (ht : tag ∈ s.returned action) :
    StreamAt s'.rpcHandlers tag := by
  cases hs with
  | register _ hl hact _ =>
      rw [returned, hl] at ht
      cases hact with
      | stream _ _ =>
          obtain rfl := List.mem_singleton.mp ht
          exact ⟨_, AList.lookup_insert s.rpcHandlers⟩
      | nonStream _ => cases ht
  | emplace _ _ _ | accept _ _ _ _ | next _ _ _ | activate _ _ _ _ | reply _ _ _ | renew _ _ _
  | erase _ | stream _ _ _ | shutdown _ | queueShutdown _ | exit _ _ _ => cases ht

end GrpcAsyncServer

namespace HostedServer

variable {l l' : HostedServer Request Response Status} {a : Action Request Response Status}
  {tr : List (HostedServer Request Response Status × Action Request Response Status)}

/-- Every stream that was returned can be used until the server is destroyed. -/
def HandlesValid (l : HostedServer Request Response Status) : Prop :=
  l.destroying = false → ∀ tag ∈ l.streams, StreamAt l.server.rpcHandlers tag

/-- The accept whose failure is handled is not that of a stream in use. -/
def HandlesGuard (l : HostedServer Request Response Status) :
    Action Request Response Status → Prop
  | .server .erase =>
      l.destroying = false →
        ∀ a, l.server.runThread = .handling a false → a.tag ∉ l.streams
  | _ => True

theorem HandlesValid.step (h : l.HandlesValid) (hs : Step l a l') (ha : a ≠ .server .erase) :
    l'.HandlesValid := by
  intro hd
  cases hs with
  | finishCall _ => exact h hd
  | destroy _ _ => cases hd
  | server hs _ =>
      intro tag ht
      rcases List.mem_append.mp ht with ht | ht
      · exact hs.streamAt_returned ht
      · exact hs.streamAt (fun heq => ha (heq ▸ rfl)) (h hd tag ht)

theorem handlesValid_erase (h : l.HandlesValid) (hs : Step l (.server .erase) l') :
    l'.HandlesValid ↔ HandlesGuard l (.server .erase) := by
  cases hs with
  | server hs _ =>
      cases hs with
      | @erase a hrun =>
          refine forall_congr' fun hd => ?_
          constructor
          · intro hvalid b hb hm
            obtain rfl : a = b := by
              cases hrun.symm.trans hb
              rfl
            exact (StreamAt.erase_iff.mp (hvalid _ hm)).1 rfl
          · intro hguard tag ht
            refine StreamAt.erase_iff.mpr ⟨?_, h hd tag ht⟩
            intro heq
            exact hguard a hrun (heq ▸ ht)

/-- The streams of a server stay valid in a run exactly when no accept of theirs
fails before the destructor begins. -/
theorem handlesValid_iff (run : HostedRun tr l) :
    (∀ t ∈ visited tr l, HandlesValid t) ↔ ∀ p ∈ tr, HandlesGuard p.1 p.2 := by
  refine run.always_iff (fun _ tag ht => by cases ht) ?_
  intro l a l' _ h hs
  by_cases ha : a = .server .erase
  · subst ha
    exact handlesValid_erase h hs
  · refine iff_of_true (h.step hs ha) ?_
    rw [HandlesGuard]
    · trivial
    · exact ha

/-- A server is shut down, and its owner keeps a stream that is gone. -/
theorem not_handlesValid :
    ¬ ∀ tr (l : HostedServer Nat Nat Nat), HostedRun tr l → ∀ t ∈ visited tr l, HandlesValid t := by
  intro hall
  have r : HostedRun [] (initial : HostedServer Nat Nat Nat) := .start
  have r := r.step (.server (.emplace nofun (AList.notMem_empty 1) .stream) rfl)
  have r := r.step (.server (.register List.mem_cons_self rfl
    (@RpcHandler.Activate.stream _ _ _ _ 11 101 rfl (AList.notMem_empty 101)) rfl) rfl)
  have r := r.step (.server (.shutdown rfl) rfl)
  have r := r.step (.server (@GrpcAsyncServer.Step.next _ _ _ _ ⟨1, ⟨11, 0, none⟩⟩ [] [] false
    rfl rfl nofun) trivial)
  have r := r.step (.server (.erase rfl) trivial)
  obtain ⟨h, hl⟩ := hall _ _ r _ List.mem_cons_self rfl 1 List.mem_cons_self
  cases hl

/-- The stream of a server that takes a call. -/
theorem handlesValid_iff_called : ∃ l : HostedServer Nat Nat Nat,
    l.streams = [1] ∧ l.destroying = false ∧ HandlesValid l := by
  have r : HostedRun [] (initial : HostedServer Nat Nat Nat) := .start
  have r := r.step (.server (.emplace nofun (AList.notMem_empty 1) .stream) rfl)
  have r := r.step (.server (.register List.mem_cons_self rfl
    (@RpcHandler.Activate.stream _ _ _ _ 11 101 rfl (AList.notMem_empty 101)) rfl) rfl)
  have r := r.step (.server (@GrpcAsyncServer.Step.accept _ _ _ _ ⟨1, ⟨11, 0, none⟩⟩ [] [] 7 _ _
    rfl rfl rfl rfl) trivial)
  refine ⟨_, rfl, rfl, (handlesValid_iff r).mpr ?_ _ List.mem_cons_self⟩
  simp only [List.forall_mem_cons]
  exact ⟨trivial, trivial, trivial, List.forall_mem_nil _⟩

end HostedServer

end Grpcw.Server
