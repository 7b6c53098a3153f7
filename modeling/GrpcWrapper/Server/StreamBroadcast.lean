import GrpcWrapper.Library.Broadcast
import GrpcWrapper.Server.StreamCalls

/-!
# Broadcasts

A call of `write` without a client is a broadcast.  It issues one write on
every active connection and on no other, and only when gRPC has given back all
that was issued before.  So the broadcasts are the rounds of a log, each sent
to exactly its members, and any two connections are sent the broadcasts they
share in one order (`broadcast_totalOrder`).
-/

namespace Grpcw.Server

open Transition

variable {Request Response Status : Type}

/-! ## Rounds -/

/-- A call of `write` for all clients. -/
def CallRecord.isBroadcast (r : CallRecord Response Status) : Bool :=
  match r.client, r.kind with
  | none, .write _ => true
  | _, _ => false

/-- The connections a call issued an operation on. -/
def CallRecord.sent (r : CallRecord Response Status) : List Nat := r.issues.map Prod.fst

def Event.broadcast : Event Request Response Status → List (CallRecord Response Status)
  | .call r => if r.isBroadcast then [r] else []
  | _ => []

namespace StreamRpcHandler

/-- The broadcasts, newest first. -/
def broadcasts (log : List (Event Request Response Status)) : List (CallRecord Response Status) :=
  log.flatMap Event.broadcast

/-- The broadcasts that were issued on `conn` while `other` was active. -/
def deliveredWith (conn other : Nat) (log : List (Event Request Response Status)) :
    List (CallRecord Response Status) :=
  (deliveries conn log).filter fun r => r.isBroadcast ∧ other ∈ r.members

/-- The broadcasts with both connections active were issued on both in one
order, none lost and none duplicated. -/
def SameOrder (conn conn' : Nat) (log : List (Event Request Response Status)) : Prop :=
  deliveredWith conn conn' log =
      Broadcast.shared CallRecord.members conn conn' (broadcasts log) ∧
    deliveredWith conn' conn log =
      Broadcast.shared CallRecord.members conn conn' (broadcasts log)

/-- One write of `update` for each active connection and no other, with fresh
tags. -/
structure IssuesToAll (h : StreamRpcHandler Request Response Status) (update : Response)
    (ops : List (Operation Response Status)) : Prop where
  kind : ∀ op ∈ ops, op.kind = .write update
  home : ∀ op ∈ ops, ∃ c, h.connections.active.lookup op.data = some c ∧ c.serial = op.conn
  exactly : (ops.map Operation.conn).Perm h.members
  membersNodup : h.members.Nodup
  notNext : ∀ key c, h.connections.next = some (key, c) →
    key ∉ ops.map Operation.data ∧ c.serial ∉ ops.map Operation.conn
  tagsNodup : (ops.map Operation.tag).Nodup
  tagsFresh : ∀ op ∈ ops, op.tag ∉ h.connections.tags ∧ ∀ o ∈ h.queue, o.tag ≠ op.tag

/-- gRPC has given back everything that was issued. -/
structure AllDelivered (h : StreamRpcHandler Request Response Status) : Prop where
  idle : h.writing = []
  settled : ∀ conn, issued conn h.log = completed conn h.log

variable {h h' : StreamRpcHandler Request Response Status} {a : Action Request Response Status}
  {kind : OpKind Response Status} {update : Response} {order : List (Addr × Addr)}
  {recipients : Recipients} {log : List (Event Request Response Status)}
  {e : Event Request Response Status}

/-! ## The section of a broadcast -/

/-- Whoever is active is in the iteration order, and whoever is in it is
active. -/
theorem Inv.targets_perm (hi : h.Inv) (hadm : h.Admits (.all order)) :
    ((targets h.connections (.all order)).map fun x => x.connection.serial).Perm h.members := by
  rw [List.perm_ext_iff_of_nodup (hi.targets_nodup hadm) hi.members_nodup]
  intro conn
  rw [mem_members, List.mem_map]
  refine ⟨?_, ?_⟩
  · rintro ⟨x, hx, rfl⟩
    exact ⟨x.key, x.connection, lookup_of_mem_targets hx, rfl⟩
  · rintro ⟨key, c, ha, rfl⟩
    have hkey : key ∈ order.map Prod.fst :=
      hadm.1.mem_iff.mpr (AList.mem_keys.mp (Map.mem_of_lookup ha))
    obtain ⟨p, hp, rfl⟩ := List.mem_map.mp hkey
    exact ⟨⟨p.1, c, p.2⟩, List.mem_filterMap.mpr ⟨p, hp, by simp [ha]⟩, rfl⟩

/-- A call never addresses `next`. -/
theorem Inv.next_notMem_targets (hi : h.Inv) {key : Addr} {c : StreamConnection Request}
    (hn : h.connections.next = some (key, c)) {x : Target Request}
    (hx : x ∈ targets h.connections recipients) : x.key ≠ key ∧ x.connection.serial ≠ c.serial := by
  have ha := lookup_of_mem_targets hx
  have hkey : x.key ≠ key := by
    intro heq
    subst heq
    exact hi.nextKey hn (Map.mem_of_lookup ha)
  exact ⟨hkey, fun heq => hkey (hi.ownsInj (.active ha) (.next hn) heq)⟩

theorem Inv.issuesToAll (hi : h.Inv) (hadm : h.Admits (.all order)) :
    IssuesToAll h update
      ((targets h.connections (.all order)).map (Target.operation (.write update))) where
  kind := by
    rw [List.forall_mem_map]
    exact fun _ _ => rfl
  home := by
    rw [List.forall_mem_map]
    exact fun x hx => ⟨x.connection, lookup_of_mem_targets hx, rfl⟩
  exactly := by
    rw [List.map_map]
    exact hi.targets_perm hadm
  membersNodup := hi.members_nodup
  notNext := by
    intro key c hn
    rw [List.map_map, List.map_map]
    refine ⟨?_, ?_⟩
    · intro hm
      obtain ⟨x, hx, heq⟩ := List.mem_map.mp hm
      exact (hi.next_notMem_targets hn hx).1 heq
    · intro hm
      obtain ⟨x, hx, heq⟩ := List.mem_map.mp hm
      exact (hi.next_notMem_targets hn hx).2 heq
  tagsNodup := by
    rw [List.map_map]
    exact hadm.tags_nodup
  tagsFresh := by
    rw [List.forall_mem_map]
    exact fun x hx => ⟨hadm.freshTag hx, fun o ho => hi.tag_ne (hadm.freshTag hx) ho⟩

theorem Balanced.allDelivered (hi : h.Inv) (hb : h.Balanced)
    (hp : h.connections.processing = ∅) : h.AllDelivered where
  idle := hi.writing_eq_nil.mp hp
  settled := fun _ => hb.barrier (hi.writing_eq_nil.mp hp)

/-! ## Agreement -/

/-- Every broadcast was sent to its members. -/
def ExactRounds (h : StreamRpcHandler Request Response Status) : Prop :=
  ∀ r ∈ broadcasts h.log, Broadcast.Exact CallRecord.members CallRecord.sent r

theorem broadcasts_cons : broadcasts (e :: log) = e.broadcast ++ broadcasts log := by
  simp [broadcasts]

theorem broadcasts_activateNext {key tag : Addr} :
    broadcasts (h.activateNext key tag).log = broadcasts h.log := by
  rw [activateNext_log]
  split
  · rfl
  · split <;> simp [broadcasts_cons, Event.broadcast]

theorem exact_callRecord (hi : h.Inv) (hadm : h.Admits recipients)
    (hcast : (h.callRecord kind recipients).isBroadcast) :
    Broadcast.Exact CallRecord.members CallRecord.sent (h.callRecord kind recipients) := by
  cases recipients with
  | one client tag => simp [callRecord, CallRecord.isBroadcast, Recipients.client] at hcast
  | all order =>
      refine ⟨?_, hi.members_nodup⟩
      rw [CallRecord.sent, callRecord, List.map_map]
      exact hi.targets_perm hadm

theorem ExactRounds.send (hi : h.Inv) (he : h.ExactRounds) (hadm : h.Admits recipients) :
    (h.send kind recipients).handler.ExactRounds := by
  intro r hr
  rw [send_log, broadcasts_cons] at hr
  rcases List.mem_append.mp hr with hr | hr
  · simp only [Event.broadcast] at hr
    split at hr
    · rename_i hcast
      rw [List.mem_singleton.mp hr]
      exact exact_callRecord hi hadm hcast
    · cases hr
  · exact he r hr

theorem ExactRounds.step (hi : h.Inv) (he : h.ExactRounds) (hs : Step h a h') :
    h'.ExactRounds := by
  cases hs with
  | onConnect => exact he
  | onDelete => exact he
  | accept _ => exact he
  | activateNext _ _ _ =>
      intro r hr
      rw [broadcasts_activateNext] at hr
      exact he r hr
  | write _ hadm => exact he.send hi hadm
  | finish _ hadm => exact he.send hi hadm
  | deliver hdel hrun =>
      intro r hr
      obtain ⟨-, ⟨-, heq⟩ | ⟨-, heq⟩⟩ := (Step.deliver hdel hrun).deliver_cases hi
      all_goals
        rw [heq] at hr
        split at hr <;> exact he r (by simpa [broadcasts_cons, Event.broadcast] using hr)

theorem HandlerReachable.exactRounds (hr : h.HandlerReachable) : h.ExactRounds := by
  refine hr.invariant ?_ fun hr he hs => he.step (HandlerReachable.inv hr) hs
  intro r hm
  cases hm

/-- The broadcasts among the calls that issued an operation on a connection. -/
theorem deliveries_broadcast (conn : Nat) :
    (deliveries conn log).filter CallRecord.isBroadcast =
      Broadcast.received CallRecord.sent conn (broadcasts log) := by
  induction log with
  | nil => rfl
  | cons e log ih =>
      rw [broadcasts_cons, Broadcast.received_append, ← ih, deliveries, List.flatMap_cons,
        List.filter_append, ← deliveries, List.append_cancel_right_eq]
      cases e with
      | call r =>
          by_cases hcast : r.isBroadcast
          · simp [Event.issuing, Event.broadcast, CallRecord.sent, hcast,
              Broadcast.received_singleton, List.filter_map, Function.comp_def]
          · simp [Event.issuing, Event.broadcast, hcast]
      | connect _ _ _ | activate _ | complete _ _ _ | done _ _ | delete _ _ _ _ => rfl

theorem ExactRounds.sameOrder (he : h.ExactRounds) (conn conn' : Nat) :
    SameOrder conn conn' h.log := by
  obtain ⟨h₁, h₂⟩ := Broadcast.received_shared he conn conn'
  have hsplit : ∀ i j, deliveredWith i j h.log =
      (Broadcast.received CallRecord.sent i (broadcasts h.log)).filter
        fun r => j ∈ r.members := by
    intro i j
    rw [deliveredWith, ← deliveries_broadcast, List.filter_filter]
    refine List.filter_congr fun r _ => ?_
    simp [Bool.and_comm]
  exact ⟨(hsplit _ _).trans h₁, (hsplit _ _).trans h₂⟩

/-- In every reachable state a broadcast issues one write on each active
connection and on no other, after gRPC has given back everything before it; and
any two connections were issued the broadcasts they share in one order. -/
theorem broadcast_totalOrder (hr : h.HandlerReachable) :
    (∀ update order h', Step h (.write update (.all order)) h' → h.AllDelivered ∧
      ∃ ops, IssuesToAll h update ops ∧ h'.queue = h.queue ++ ops ∧
        h'.log = .call ⟨.write update, none, h.members,
          ops.map fun op => (op.conn, op.tag)⟩ :: h.log) ∧
      ∀ conn conn', SameOrder conn conn' h.log := by
  have hi := HandlerReachable.inv hr
  refine ⟨?_, (HandlerReachable.exactRounds hr).sameOrder⟩
  intro update order h' hs
  cases hs with
  | write hp hadm =>
      refine ⟨(HandlerReachable.balanced hr).allDelivered hi hp, _, hi.issuesToAll hadm,
        send_queue h _ _, ?_⟩
      rw [StreamRpcHandler.write, send_log, callRecord, List.map_map]
      rfl

/-- The update comes back from both clients, and another one is handed to gRPC, for the second
client first. -/
def secondBroadcast : List (Action Nat Nat Nat) :=
  broadcast ++ [.deliver ⟨105, 2, 1, .write 5⟩ true, .deliver ⟨104, 1, 0, .write 5⟩ true,
    .write 6 (.all [(2, 106), (1, 107)])]

theorem broadcast_totalOrder_served :
    (deliveredWith 0 1 (served secondBroadcast).2.log).map CallRecord.kind = [.write 6, .write 5] ∧
      (deliveredWith 1 0 (served secondBroadcast).2.log).map CallRecord.kind =
        [.write 6, .write 5] ∧
      SameOrder 0 1 (served secondBroadcast).2.log :=
  ⟨by decide, by decide, (broadcast_totalOrder (served_run secondBroadcast).reachable).2 0 1⟩

end StreamRpcHandler

end Grpcw.Server
