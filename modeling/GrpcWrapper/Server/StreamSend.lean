import GrpcWrapper.Server.StreamInvariant

/-!
# Calls for one client

`write` and `finish` for one client issue one operation if the client is in
`active` and none if it has left.  Either way nothing else changes
(`send_one_active`, `send_one_departed`).  The section keeps which of the two it
was in its variable `result`, but what is returned is `true`
(`targetedSend_iff`).
-/

namespace Grpcw.Server

namespace StreamRpcHandler

variable {Request Response Status : Type}

/-- The one operation of a call, and what else changes. -/
structure Serves (h : StreamRpcHandler Request Response Status) (client tag : Addr)
    (kind : OpKind Response Status) (h' : StreamRpcHandler Request Response Status) : Prop where
  queue : ∃ c, h.connections.active.lookup client = some c ∧
    h'.queue = h.queue ++ [⟨tag, client, c.serial, kind⟩]
  fresh : kind.label = .writing ∧ tag ∉ h.connections.tags ∧ ∀ op ∈ h.queue, op.tag ≠ tag
  connections : h'.connections =
    { h.connections with
      tags := makeTag tag client .writing h.connections.tags
      processing := {client} }

/-- Nothing is issued and nothing changes. -/
structure Skips (h h' : StreamRpcHandler Request Response Status) : Prop where
  queue : h'.queue = h.queue
  connections : h'.connections = h.connections

/-- What a call for one client does and what it tells its caller. -/
structure TargetedSend (h : StreamRpcHandler Request Response Status) (client tag : Addr)
    (kind : OpKind Response Status) (s : Sent Request Response Status) : Prop where
  serves : client ∈ h.connections.active → h.Serves client tag kind s.handler
  skips : client ∉ h.connections.active → h.Skips s.handler
  returned : s.returned = true ↔ ∃ op, s.handler.queue = h.queue ++ [op]

variable {h : StreamRpcHandler Request Response Status} {client tag : Addr}
  {kind : OpKind Response Status} {c : StreamConnection Request}

theorem targets_one_active (ha : h.connections.active.lookup client = some c) :
    targets h.connections (.one client tag) = [⟨client, c, tag⟩] := by
  rw [targets, ha]

theorem targets_one_departed (ha : client ∉ h.connections.active) :
    targets h.connections (.one client tag) = [] := by
  rw [targets, AList.lookup_eq_none.mpr ha]

/-- The client is there. -/
theorem send_one_active (hr : h.HandlerReachable) (hp : h.connections.processing = ∅)
    (hk : kind.label = .writing) (ht : h.FreshTag tag) (ha : client ∈ h.connections.active) :
    h.Serves client tag kind (h.send kind (.one client tag)).handler := by
  obtain ⟨c, hlookup⟩ := Map.mem_iff_lookup.mp ha
  have htargets : targets h.connections (.one client tag) = [⟨client, c, tag⟩] :=
    targets_one_active hlookup
  refine ⟨⟨c, hlookup, ?_⟩, ⟨hk, ht, fun op hop => hr.inv.tag_ne ht hop⟩, ?_⟩
  · rw [send_queue, htargets]
    rfl
  · rw [send, htargets, issueAll, issueAll, issue, hp, insert_empty_eq]

/-- The client has left. -/
theorem send_one_departed (ha : client ∉ h.connections.active) :
    h.Skips (h.send kind (.one client tag)).handler := by
  have htargets : targets h.connections (.one client tag) = [] := targets_one_departed ha
  refine ⟨?_, ?_⟩
  · rw [send_queue, htargets, List.map_nil, List.append_nil]
  · rw [send, htargets, issueAll]

/-- What is returned tells whether an operation was issued, exactly when one was. -/
theorem targetedSend_send_iff (hr : h.HandlerReachable) (hp : h.connections.processing = ∅)
    (hk : kind.label = .writing) (ht : h.FreshTag tag) :
    h.TargetedSend client tag kind (h.send kind (.one client tag)) ↔
      client ∈ h.connections.active := by
  constructor
  · intro htargeted
    by_contra ha
    obtain ⟨op, hop⟩ := htargeted.returned.mp rfl
    rw [(htargeted.skips ha).queue] at hop
    exact List.cons_ne_nil op [] (List.self_eq_append_right.mp hop)
  · intro ha
    have hserves := send_one_active hr hp hk ht ha
    obtain ⟨c, -, hqueue⟩ := hserves.queue
    exact ⟨fun _ => hserves, fun hnot => absurd ha hnot, fun _ => ⟨_, hqueue⟩, fun _ => rfl⟩

/-- A call for one client reports what it did, exactly when the client is there. -/
theorem targetedSend_iff (hr : h.HandlerReachable) (hp : h.connections.processing = ∅)
    (ht : h.FreshTag tag) :
    (∀ update : Response, h.TargetedSend client tag (.write update)
      (h.write update (.one client tag)) ↔ client ∈ h.connections.active) ∧
    (∀ status : Status, h.TargetedSend client tag (.finish status)
      (h.finish status (.one client tag)) ↔ client ∈ h.connections.active) :=
  ⟨fun _ => targetedSend_send_iff hr hp rfl ht, fun _ => targetedSend_send_iff hr hp rfl ht⟩

/-- A client arrives, and leaves while an update for it is under way. -/
def departure : List (Action Nat Nat Nat) :=
  [.activateNext 1 101, .accept 7, .activateNext 2 102, .write 5 (.one 1 103),
    .deliver ⟨103, 1, 0, .write 5⟩ false]

theorem departure_reachable : (served departure).2.HandlerReachable :=
  (served_run departure).reachable

theorem departure_freshTag : (served departure).2.FreshTag 104 :=
  show 104 ∉ (served departure).2.connections.tags by decide

/-- A call for the client that has left returns true all the same. -/
theorem not_targetedSend :
    ¬ ∀ h : StreamRpcHandler Nat Nat Nat, h.HandlerReachable → h.connections.processing = ∅ →
      ∀ (client tag : Addr) (update : Nat), h.FreshTag tag →
        h.TargetedSend client tag (.write update) (h.write update (.one client tag)) := by
  intro hall
  have htargeted := hall (served departure).2 departure_reachable rfl 1 104 6 departure_freshTag
  have hactive : 1 ∈ (served departure).2.connections.active :=
    (targetedSend_send_iff departure_reachable rfl rfl departure_freshTag).mp htargeted
  exact absurd hactive (by decide)

theorem targetedSend_iff_departure :
    (∀ update : Nat, (served departure).2.TargetedSend 1 104 (.write update)
      ((served departure).2.write update (.one 1 104)) ↔
        1 ∈ (served departure).2.connections.active) ∧
    (∀ status : Nat, (served departure).2.TargetedSend 1 104 (.finish status)
      ((served departure).2.finish status (.one 1 104)) ↔
        1 ∈ (served departure).2.connections.active) :=
  targetedSend_iff departure_reachable rfl departure_freshTag

end StreamRpcHandler

end Grpcw.Server
