import GrpcWrapper.Library.Registry
import GrpcWrapper.Server.GrpcAsyncServer
import GrpcWrapper.Server.StreamInvariant

/-!
# The accepts of the server

Every handler in the map has exactly one accept, either at gRPC or with its
event being handled, and the accept is for the connection that the handler has
waiting now.  A handler that is being registered has none yet, and one that is
not in the map has none.  So the map is a registry whose tickets are the accepts
(`Registry.Sound`), and each step of the server is one of the ways in which such
a registry changes.

It follows that the server calls a stream handler's `activate_next` as the
handler expects, so that each stream handler in the map is one that its own
steps reach (`Inv.reachable`).
-/

namespace Grpcw.Server

open Transition

variable {Request Response Status : Type}

/-! ## Handlers and their slots -/

namespace RpcHandler

variable {handler handler' : RpcHandler Request Response Status} {slot : Slot Request}
  {key : Addr} {request : Request}

theorem slot_of_new (h : handler.New) : handler.slot = none := by
  cases h with
  | stream => rfl
  | nonStream => rfl

/-- A request is written into the connection that waits for it. -/
theorem write_slot (hs : handler.slot = some slot) :
    ∃ handler', handler.write slot.key request = some handler' ∧
      handler'.slot = some { slot with request := some request } := by
  cases handler with
  | stream h =>
      obtain ⟨p, hn, rfl⟩ := Option.map_eq_some_iff.mp hs
      refine ⟨.stream (h.accept request), ?_, ?_⟩
      · rw [write, hn]
        exact if_pos rfl
      · simp [RpcHandler.slot, StreamRpcHandler.accept, hn]
  | nonStream h =>
      obtain ⟨p, hc, rfl⟩ := Option.map_eq_some_iff.mp hs
      refine ⟨.nonStream (h.accept request), ?_, ?_⟩
      · rw [write, hc]
        exact if_pos rfl
      · simp [RpcHandler.slot, NonStreamRpcHandler.accept, hc]

theorem slot_of_write (hs : handler.slot = some slot)
    (hw : handler.write slot.key request = some handler') :
    handler'.slot = some { slot with request := some request } := by
  obtain ⟨handler'', hw', hs'⟩ := write_slot hs
  rw [hw] at hw'
  cases hw'
  exact hs'

end RpcHandler

/-- Nothing that a handler does by itself touches `next`. -/
theorem StreamRpcHandler.Step.own_next {h h' : StreamRpcHandler Request Response Status}
    {action : StreamRpcHandler.Action Request Response Status} (hi : h.Inv)
    (hs : StreamRpcHandler.Step h action h') (hown : action.own = true) :
    h'.connections.next = h.connections.next := by
  cases hs with
  | onConnect => rfl
  | onDelete => rfl
  | accept _ => cases hown
  | activateNext _ _ _ => cases hown
  | write _ _ => simp [StreamRpcHandler.write]
  | finish _ _ => simp [StreamRpcHandler.finish]
  | deliver hdel hrun =>
      obtain ⟨-, ⟨-, heq⟩ | ⟨-, heq⟩⟩ := (StreamRpcHandler.Step.deliver hdel hrun).deliver_cases hi
      · rw [heq]
        split <;> rfl
      · rw [heq]
        split <;> rfl

namespace GrpcAsyncServer

variable {s s' : GrpcAsyncServer Request Response Status} {tag : Addr} {a : Accept Request}
  {handler handler' : RpcHandler Request Response Status} {slot : Slot Request}
  {handlers : Map Addr (RpcHandler Request Response Status)}

/-! ## The invariant -/

/-- Each handler has one accept, for the connection that it has waiting. -/
abbrev Sound (handlers : Map Addr (RpcHandler Request Response Status)) (registering : List Addr)
    (accepts : List (Accept Request)) : Prop :=
  Registry.Sound RpcHandler.slot Accept.tag Accept.slot handlers registering accepts

/-- `P` holds of the stream handlers of a map. -/
def EachStream (P : StreamRpcHandler Request Response Status → Prop)
    (handlers : Map Addr (RpcHandler Request Response Status)) : Prop :=
  ∀ tag h, handlers.lookup tag = some (.stream h) → P h

/-- The stream handlers of a map are ones that their own steps reach. -/
def StreamsReachable (handlers : Map Addr (RpcHandler Request Response Status)) : Prop :=
  ∀ tag h, handlers.lookup tag = some (.stream h) → h.HandlerReachable

structure Inv (s : GrpcAsyncServer Request Response Status) : Prop where
  sound : Sound s.rpcHandlers s.registering s.accepts
  /-- An accept that succeeds holds a call. -/
  filled : ∀ a, s.runThread = .handling a true → a.slot.request.isSome
  reachable : StreamsReachable s.rpcHandlers

theorem Inv.initial : (initial : GrpcAsyncServer Request Response Status).Inv where
  sound := .nil
  filled := by intro a ha; cases ha
  reachable := by intro tag h hl; cases hl

/-! ## Every stream handler -/

section EachStream

variable {P : StreamRpcHandler Request Response Status → Prop}

theorem EachStream.insert (hp : EachStream P handlers) (hnew : ∀ h, handler = .stream h → P h) :
    EachStream P (handlers.insert tag handler) := by
  intro tag' h hl
  by_cases heq : tag' = tag
  · rw [heq, AList.lookup_insert] at hl
    exact hnew h (Option.some.inj hl)
  · rw [AList.lookup_insert_ne heq] at hl
    exact hp tag' h hl

theorem EachStream.emplace (hp : EachStream P handlers) (hk : tag ∉ handlers)
    (hnew : handler.New) (hinit : P .initial) : EachStream P (handlers.emplace tag handler) := by
  rw [Map.emplace_of_notMem hk]
  refine hp.insert ?_
  intro h heq
  subst heq
  cases hnew
  exact hinit

theorem EachStream.erase (hp : EachStream P handlers) : EachStream P (handlers.erase tag) := by
  intro tag' h hl
  rw [Map.lookup_erase_eq] at hl
  split at hl
  · cases hl
  · exact hp tag' h hl

end EachStream

/-! ## What handlers do for the server -/

/-- A handler whose waiting connection holds a call, or that has none, is
activated as it expects. -/
theorem Activate.reachable (hr : StreamsReachable handlers)
    (hl : handlers.lookup tag = some handler) (hact : handler.Activate handler')
    (hfull : ∀ slot, handler.slot = some slot → slot.request.isSome)
    {h : StreamRpcHandler Request Response Status} (heq : handler' = .stream h) :
    h.HandlerReachable := by
  cases hact with
  | @stream h₀ key t hk ht =>
      cases heq
      refine Reachable.tail (hr tag h₀ hl) (.activateNext ?_ hk ht)
      intro key c hn
      exact hfull ⟨key, c.serial, c.request⟩ (by simp [RpcHandler.slot, hn])
  | nonStream _ => cases heq

/-- A call is written into the empty connection of a handler. -/
theorem write_reachable (hr : StreamsReachable handlers)
    (hl : handlers.lookup tag = some handler) (hs : handler.slot = some slot)
    (hempty : slot.request = none) {request : Request}
    (hw : handler.write slot.key request = some handler')
    {h : StreamRpcHandler Request Response Status} (heq : handler' = .stream h) :
    h.HandlerReachable := by
  cases handler with
  | stream h₀ =>
      obtain ⟨⟨key, serial, req⟩, hn, rfl⟩ := Option.map_eq_some_iff.mp hs
      cases hempty
      rw [RpcHandler.write, hn] at hw
      simp only [Option.map_some, if_true] at hw
      cases hw
      cases heq
      exact Reachable.tail (hr tag h₀ hl) (.accept hn)
  | nonStream h₀ =>
      rw [RpcHandler.write] at hw
      split at hw
      · cases hw
        cases heq
      · cases hw

/-! ## One step -/

theorem accepts_middle (l before after : List (Accept Request)) :
    (l ++ (before ++ a :: after)).Perm (a :: (l ++ (before ++ after))) := by
  rw [← List.append_assoc, ← List.append_assoc]
  exact List.perm_middle

theorem accepts_concat (l queue : List (Accept Request)) :
    (l ++ (queue ++ [a])).Perm (a :: (l ++ queue)) := by
  rw [← List.append_assoc]
  exact List.perm_append_singleton a _

/-- The handler whose accept succeeded has its slot filled. -/
theorem Inv.full (hi : s.Inv) (hrun : s.runThread = .handling a true)
    (hl : s.rpcHandlers.lookup a.tag = some handler) :
    ∀ slot, handler.slot = some slot → slot.request.isSome := by
  intro slot hs
  have ha : a ∈ s.accepts := by simp [accepts, hrun, ServerPhase.accepts]
  obtain ⟨-, handler', hl', hs'⟩ := hi.sound.current a ha
  obtain rfl : handler = handler' := Option.some.inj (hl.symm.trans hl')
  obtain rfl : slot = a.slot := Option.some.inj (hs.symm.trans hs')
  exact hi.filled a hrun

/-- The accept whose event is handled is replaced by one for the next
connection. -/
theorem Inv.replace (hi : s.Inv) (hrun : s.runThread.accepts = [a])
    (hslot : handler'.slot = some slot) :
    Sound (s.rpcHandlers.insert a.tag handler') s.registering
      (s.serverQueue ++ [⟨a.tag, slot⟩]) := by
  have hsound := hi.sound
  rw [accepts, hrun, List.singleton_append] at hsound
  have hs' : Sound (s.rpcHandlers.insert a.tag handler') s.registering
      (⟨a.tag, slot⟩ :: s.serverQueue) := hsound.replace (u := ⟨a.tag, slot⟩) rfl hslot
  exact hs'.perm (List.perm_append_singleton _ _).symm

/-- A handler changes and keeps the connection that waits. -/
theorem Inv.update (hi : s.Inv) (hl : s.rpcHandlers.lookup tag = some handler)
    (hslot : handler'.slot = handler.slot)
    (hnew : ∀ h, handler' = .stream h → h.HandlerReachable) : (s.update tag handler').Inv where
  sound := hi.sound.update hl hslot
  filled := hi.filled
  reachable := EachStream.insert hi.reachable hnew

/-- A call goes into the connection of its accept. -/
theorem Inv.accept {before after : List (Accept Request)} {request : Request} (hi : s.Inv)
    (hq : s.serverQueue = before ++ a :: after) (hempty : a.slot.request = none)
    (hl : s.rpcHandlers.lookup a.tag = some handler)
    (hw : handler.write a.slot.key request = some handler') :
    (({ s with serverQueue := before ++ a.fill request :: after } :
      GrpcAsyncServer Request Response Status).update a.tag handler').Inv := by
  have hsound := hi.sound
  rw [accepts, hq] at hsound
  have hs₁ := hsound.perm (accepts_middle _ _ _)
  obtain ⟨-, e, he, hs⟩ := hs₁.current a List.mem_cons_self
  obtain rfl : handler = e := Option.some.inj (hl.symm.trans he)
  have hslot : handler'.slot = some (a.fill request).slot := RpcHandler.slot_of_write hs hw
  have hs₂ := hs₁.replace (u := a.fill request) rfl hslot
  exact ⟨hs₂.perm (accepts_middle _ _ _).symm, hi.filled,
    EachStream.insert hi.reachable fun _ => write_reachable hi.reachable hl hs hempty hw⟩

/-- `Next` takes an accept out of the queue. -/
theorem Inv.next {before after : List (Accept Request)} {callOk : Bool} (hi : s.Inv)
    (hrun : s.runThread = .waiting) (hq : s.serverQueue = before ++ a :: after)
    (hfull : callOk = true → a.slot.request.isSome) :
    ({ s with serverQueue := before ++ after, runThread := .handling a callOk } :
      GrpcAsyncServer Request Response Status).Inv where
  sound := by
    have hsound := hi.sound
    rw [accepts, hq] at hsound
    have hs' := hsound.perm (accepts_middle _ _ _)
    rw [hrun] at hs'
    exact hs'
  filled := by
    intro b hb
    cases hb
    exact hfull rfl
  reachable := hi.reachable

theorem Inv.activate (hi : s.Inv) (hrun : s.runThread = .handling a true)
    (hl : s.rpcHandlers.lookup a.tag = some handler) (hact : handler.Activate handler')
    (hslot : handler'.slot = some slot) :
    (({ s with runThread := .waiting } : GrpcAsyncServer Request Response Status).update
      a.tag handler' |>.request a.tag slot).Inv where
  sound := hi.replace (by rw [hrun]; rfl) hslot
  filled := by intro b hb; cases hb
  reachable := by
    refine EachStream.insert hi.reachable fun h heq => ?_
    exact Activate.reachable hi.reachable hl hact (hi.full hrun hl) heq

theorem Inv.register (hi : s.Inv) (hm : tag ∈ s.registering)
    (hl : s.rpcHandlers.lookup tag = some handler) (hact : handler.Activate handler')
    (hslot : handler'.slot = some slot) :
    (({ s with registering := s.registering.erase tag } :
      GrpcAsyncServer Request Response Status).update tag handler' |>.request tag slot).Inv where
  sound := by
    have hs' : Sound (s.rpcHandlers.insert tag handler') (s.registering.erase tag)
        (⟨tag, slot⟩ :: s.accepts) := hi.sound.activate (t := ⟨tag, slot⟩) hm hslot
    exact hs'.perm (accepts_concat _ _).symm
  filled := hi.filled
  reachable := by
    refine EachStream.insert hi.reachable fun h heq => Activate.reachable hi.reachable hl hact ?_ heq
    intro slot' hs'
    obtain ⟨e, he, hnone⟩ := hi.sound.empty tag hm
    obtain rfl : handler = e := Option.some.inj (hl.symm.trans he)
    rw [hnone] at hs'
    cases hs'

theorem Inv.reply {h : NonStreamRpcHandler Request Response Status} (hi : s.Inv)
    (hrun : s.runThread = .handling a true)
    (hl : s.rpcHandlers.lookup a.tag = some (.nonStream h)) :
    (({ s with runThread := .replying a } : GrpcAsyncServer Request Response Status).update
      a.tag (.nonStream h.reply)).Inv where
  sound := by
    have hsound := hi.sound
    rw [accepts, hrun] at hsound
    exact hsound.update hl (by simp [RpcHandler.slot])
  filled := by intro b hb; cases hb
  reachable := EachStream.insert hi.reachable fun _ heq => by cases heq

theorem Inv.renew {h : NonStreamRpcHandler Request Response Status} {key : Addr} (hi : s.Inv)
    (hrun : s.runThread = .replying a) :
    (({ s with runThread := .waiting } : GrpcAsyncServer Request Response Status).update
      a.tag (.nonStream (h.replied.renew key)) |>.request a.tag ⟨key, h.allocated, none⟩).Inv where
  sound := hi.replace (by rw [hrun]; rfl) rfl
  filled := by intro b hb; cases hb
  reachable := EachStream.insert hi.reachable fun _ heq => by cases heq

theorem Inv.erase (hi : s.Inv) (hrun : s.runThread = .handling a false) :
    ({ s with rpcHandlers := s.rpcHandlers.erase a.tag, runThread := .waiting } :
      GrpcAsyncServer Request Response Status).Inv where
  sound := by
    have hsound := hi.sound
    rw [accepts, hrun] at hsound
    exact hsound.erase
  filled := by intro b hb; cases hb
  reachable := EachStream.erase hi.reachable

theorem Inv.stream {h h' : StreamRpcHandler Request Response Status}
    {action : StreamRpcHandler.Action Request Response Status} (hi : s.Inv)
    (hl : s.rpcHandlers.lookup tag = some (.stream h)) (hown : action.own = true)
    (hs : StreamRpcHandler.Step h action h') : (s.update tag (.stream h')).Inv := by
  have hr := hi.reachable tag h hl
  have hinv := StreamRpcHandler.HandlerReachable.inv hr
  refine hi.update hl ?_ ?_
  · rw [RpcHandler.slot, RpcHandler.slot, hs.own_next hinv hown]
  · intro h'' heq
    cases heq
    exact Reachable.tail hr hs

theorem Step.inv {action : Action Request Response Status} (hi : s.Inv)
    (hs : Step s action s') : s'.Inv := by
  cases hs with
  | emplace _ hk hnew =>
      exact ⟨hi.sound.emplace hk (RpcHandler.slot_of_new hnew), hi.filled,
        EachStream.emplace hi.reachable hk hnew .refl⟩
  | register hm hl hact hslot => exact hi.register hm hl hact hslot
  | accept hq hempty hl hw => exact hi.accept hq hempty hl hw
  | next hrun hq hfull => exact hi.next hrun hq hfull
  | activate hrun hl hact hslot => exact hi.activate hrun hl hact hslot
  | reply hrun hl _ => exact hi.reply hrun hl
  | renew hrun _ _ => exact hi.renew hrun
  | erase hrun => exact hi.erase hrun
  | stream hl hown hs => exact hi.stream hl hown hs
  | shutdown _ => exact ⟨hi.sound, hi.filled, hi.reachable⟩
  | queueShutdown _ => exact ⟨hi.sound, hi.filled, hi.reachable⟩
  | exit hrun _ _ =>
      refine ⟨?_, ?_, hi.reachable⟩
      · have hsound := hi.sound
        rw [accepts, hrun] at hsound
        exact hsound
      · intro b hb
        cases hb

theorem ServerReachable.inv (hr : s.ServerReachable) : s.Inv :=
  hr.invariant .initial fun _ hi hs => hs.inv hi

/-! ## The discipline -/

/-- What the invariant says about the program. -/
structure AcceptDiscipline (s : GrpcAsyncServer Request Response Status) : Prop where
  /-- A registered handler has exactly one accept. -/
  one : ∀ tag ∈ s.rpcHandlers, tag ∉ s.registering → ∃! a, a ∈ s.accepts ∧ a.tag = tag
  once : s.accepts.Nodup
  /-- It is for the live connection that waits for a call. -/
  current : ∀ a ∈ s.accepts, ∃ handler, s.rpcHandlers.lookup a.tag = some handler ∧
    handler.slot = some a.slot
  /-- A handler that is not registered has none. -/
  none : ∀ tag, tag ∉ s.rpcHandlers ∨ tag ∈ s.registering → ∀ a ∈ s.accepts, a.tag ≠ tag
  /-- `rpc_handlers_.at(tag)` finds a handler. -/
  found : ∀ a callOk, s.runThread = .handling a callOk → (s.rpcHandlers.lookup a.tag).isSome
  /-- gRPC writes each request into a live connection. -/
  live : ∀ a ∈ s.serverQueue, ∀ request, ∃ handler, s.rpcHandlers.lookup a.tag = some handler ∧
    (handler.write a.slot.key request).isSome
  /-- No two accepts are for one connection. -/
  apart : (s.accepts.map fun a => (a.tag, a.slot.conn)).Nodup
  /-- When every accept has failed, nothing is left. -/
  emptied : s.accepts = [] → s.registering = [] → s.rpcHandlers = ∅

theorem Inv.acceptDiscipline (hi : s.Inv) : s.AcceptDiscipline where
  one := fun _ hk hp => hi.sound.existsUnique hk hp
  once := hi.sound.keysNodup.of_map
  current := fun a ha => (hi.sound.current a ha).2
  none := by
    rintro tag (hk | hp) a ha rfl
    · exact hk (hi.sound.mem_entries ha)
    · exact (hi.sound.current a ha).1 hp
  found := by
    intro a callOk hrun
    have ha : a ∈ s.accepts := by simp [accepts, hrun, ServerPhase.accepts]
    obtain ⟨-, handler, hl, -⟩ := hi.sound.current a ha
    rw [hl]
    rfl
  live := by
    intro a ha request
    obtain ⟨-, handler, hl, hs⟩ := hi.sound.current a (List.mem_append_right _ ha)
    obtain ⟨handler', hw, -⟩ := RpcHandler.write_slot hs
    exact ⟨handler, hl, by rw [hw]; rfl⟩
  apart := by
    have hnodup := hi.sound.keysNodup
    have hmap : s.accepts.map Accept.tag =
        (s.accepts.map fun a => (a.tag, a.slot.conn)).map Prod.fst := by
      rw [List.map_map]
      rfl
    rw [hmap] at hnodup
    exact hnodup.of_map
  emptied := by
    intro ha hp
    have hsound := hi.sound
    rw [ha, hp] at hsound
    exact hsound.entries_eq_empty

/-- In every reachable state of the server each registered handler has exactly
one accept, which is for its waiting connection, and no other handler has any. -/
theorem reachable_acceptDiscipline (hr : s.ServerReachable) : s.AcceptDiscipline :=
  (ServerReachable.inv hr).acceptDiscipline

/-- A stream handler is registered and a call arrives for it. -/
theorem reachable_acceptDiscipline_registered : ∃ s : GrpcAsyncServer Nat Nat Nat,
    s.accepts = [⟨1, ⟨11, 0, some 7⟩⟩] ∧ s.AcceptDiscipline := by
  have r : ServerReachable (initial : GrpcAsyncServer Nat Nat Nat) := .refl
  have r := r.tail (.emplace (by intro a ha; cases ha) (AList.notMem_empty 1) .stream)
  have r := r.tail (.register List.mem_cons_self rfl
    (.stream (rfl : StreamRpcHandler.FreshKey 11 .initial)
      (AList.notMem_empty 101)) rfl)
  have r := r.tail (@Step.accept _ _ _ _ ⟨1, ⟨11, 0, none⟩⟩ [] [] 7 _ _ rfl rfl rfl rfl)
  have r := r.tail (@Step.next _ _ _ _ ⟨1, ⟨11, 0, some 7⟩⟩ [] [] true rfl rfl fun _ => rfl)
  exact ⟨_, rfl, reachable_acceptDiscipline r⟩

/-- The stream handlers of a server are reached by their own steps, so all that
holds of a reachable handler holds of them. -/
theorem ServerReachable.stream_reachable (hr : s.ServerReachable)
    {h : StreamRpcHandler Request Response Status}
    (hl : s.rpcHandlers.lookup tag = some (.stream h)) : h.HandlerReachable :=
  (ServerReachable.inv hr).reachable tag h hl

end GrpcAsyncServer

end Grpcw.Server
