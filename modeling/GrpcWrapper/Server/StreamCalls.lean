import GrpcWrapper.Server.StreamInFlight

/-!
# What a connection is sent

The log says which calls of `write` and `finish` issued an operation on a
connection, and which of its operations gRPC has given back.  `Inv.balanced`
relates the two to each other: the operations issued on a connection are the
ones given back, in the same order, and after them the one at gRPC if there is
one.
-/

namespace Grpcw.Server

open Transition

variable {Request Response Status : Type}

/-- The calls that issued an operation on `conn`, one for each operation. -/
def Event.issuing (conn : Nat) :
    Event Request Response Status → List (CallRecord Response Status)
  | .call record => (record.issues.filter fun p => p.1 = conn).map fun _ => record
  | _ => []

/-- The operation of `conn` that gRPC gave back. -/
def Event.completing (conn : Nat) :
    Event Request Response Status → List (OpKind Response Status)
  | .complete conn' kind _ => if conn' = conn then [kind] else []
  | _ => []

namespace StreamRpcHandler

/-- The calls that issued an operation on `conn`, newest first. -/
def deliveries (conn : Nat) (log : List (Event Request Response Status)) :
    List (CallRecord Response Status) :=
  log.flatMap (Event.issuing conn)

/-- The operations issued on `conn`, newest first. -/
def issued (conn : Nat) (log : List (Event Request Response Status)) :
    List (OpKind Response Status) :=
  (deliveries conn log).map CallRecord.kind

/-- The operations of `conn` that gRPC has given back, newest first. -/
def completed (conn : Nat) (log : List (Event Request Response Status)) :
    List (OpKind Response Status) :=
  log.flatMap (Event.completing conn)

/-- The operations of `conn` that are at gRPC. -/
def outstanding (conn : Nat) (h : StreamRpcHandler Request Response Status) :
    List (OpKind Response Status) :=
  (h.writing.filter fun op => op.conn = conn).map Operation.kind

/-- What was issued on a connection is at gRPC or has come back. -/
def Balanced (h : StreamRpcHandler Request Response Status) : Prop :=
  ∀ conn, issued conn h.log = outstanding conn h ++ completed conn h.log

variable {h h' : StreamRpcHandler Request Response Status} {op : Operation Response Status}
  {a : Action Request Response Status} {conn : Nat} {key tag : Addr} {callOk : Bool}
  {kind : OpKind Response Status} {recipients : Recipients}
  {e : Event Request Response Status} {log : List (Event Request Response Status)}

theorem issued_cons : issued conn (e :: log) =
    (e.issuing conn).map CallRecord.kind ++ issued conn log := by
  simp [issued, deliveries]

theorem completed_cons : completed conn (e :: log) = e.completing conn ++ completed conn log := by
  simp [completed]

theorem mem_completed : kind ∈ completed conn log ↔ ∃ ok, .complete conn kind ok ∈ log := by
  rw [completed]
  rw [List.mem_flatMap]
  refine ⟨?_, ?_⟩
  · intro ⟨e, he, hk⟩
    cases e with
    | complete conn' kind' ok =>
        simp only [Event.completing] at hk
        split at hk
        · rename_i heq
          subst heq
          rw [List.mem_singleton.mp hk]
          exact ⟨ok, he⟩
        · cases hk
    | connect _ _ _ | activate _ | call _ | done _ _ | delete _ _ _ _ => cases hk
  · intro ⟨ok, hm⟩
    exact ⟨_, hm, by simp [Event.completing]⟩

/-! ## Operations leave the queue one by one -/

theorem Inv.settle_writing (hi : h.Inv) :
    (h.settle op).writing = h.writing.filter fun o => o.tag ≠ op.tag := by
  unfold writing
  show (h.queue.eraseP fun o => o.tag = op.tag).filter _ = _
  rw [Keyed.eraseP_eq_filter hi.tagsNodup, List.filter_filter, List.filter_filter]
  exact List.filter_congr fun o _ => Bool.and_comm _ _

/-- A connection's only operation is gone when it has come back. -/
theorem Inv.outstanding_settle_self (hi : h.Inv) (hop : op ∈ h.writing) :
    outstanding op.conn h = [op.kind] ∧ outstanding op.conn (h.settle op) = [] := by
  have hself := Keyed.filter_key_eq_singleton hi.responder_nodup hop
  refine ⟨?_, ?_⟩
  · rw [outstanding, hself]
    rfl
  · rw [outstanding, hi.settle_writing, List.filter_comm, hself]
    simp

theorem Inv.outstanding_settle_ne (hi : h.Inv) (hop : op ∈ h.queue)
    (hne : ∀ o ∈ h.writing, o.conn = conn → o ≠ op) :
    outstanding conn (h.settle op) = outstanding conn h := by
  rw [outstanding]
  rw [hi.settle_writing, List.filter_filter]
  congr 1
  refine List.filter_congr fun o ho => ?_
  by_cases hconn : o.conn = conn
  · have htag : o.tag ≠ op.tag := fun heq =>
      hne o ho hconn (Keyed.eq_of_key hi.tagsNodup (mem_writing.mp ho).1 hop heq)
    simp [hconn, htag]
  · simp [hconn]

theorem Inv.outstanding_settle_done (hi : h.Inv) (hop : op ∈ h.awaited) :
    outstanding conn (h.settle op) = outstanding conn h := by
  refine hi.outstanding_settle_ne (mem_awaited.mp hop).1 ?_
  intro o ho _ heq
  subst heq
  exact mem_writing_kind ho (mem_awaited_kind hop)

/-- When nothing is being processed, all that was issued has come back. -/
theorem Balanced.barrier (hb : h.Balanced) (hw : h.writing = []) :
    issued conn h.log = completed conn h.log := by
  rw [hb conn, outstanding, hw]
  rfl

/-! ## One step -/

/-- A call has one target for each connection. -/
theorem Inv.targets_nodup (hi : h.Inv) (hadm : h.Admits recipients) :
    ((targets h.connections recipients).map fun x => x.connection.serial).Nodup := by
  refine List.Nodup.map_on ?_ hadm.keys_nodup.of_map
  intro x hx y hy heq
  have hkey := hi.ownsInj (.active (lookup_of_mem_targets hx)) (.active (lookup_of_mem_targets hy))
    heq
  exact Keyed.eq_of_key hadm.keys_nodup hx hy hkey

/-- The operations that a section hands to gRPC are the ones it is recorded
with. -/
theorem outstanding_send (hk : kind.label = .writing) :
    outstanding conn (h.send kind recipients).handler =
      outstanding conn h ++
        (Event.issuing conn (.call (h.callRecord kind recipients) :
          Event Request Response Status)).map CallRecord.kind := by
  unfold outstanding
  rw [send_writing hk, List.filter_append, List.map_append, List.append_cancel_left_eq]
  simp only [Event.issuing, callRecord, List.filter_map, List.map_map]
  rfl

theorem Balanced.send (hb : h.Balanced) (hk : kind.label = .writing) (hw : h.writing = []) :
    (h.send kind recipients).handler.Balanced := by
  intro conn
  rw [send_log, issued_cons, completed_cons, outstanding_send hk, hb.barrier hw]
  simp [outstanding, hw, Event.completing]

/-- A section that issues nothing and gives nothing back keeps the balance. -/
theorem Balanced.congr (hb : h.Balanced) (hiss : ∀ conn, issued conn h'.log = issued conn h.log)
    (hcomp : ∀ conn, completed conn h'.log = completed conn h.log)
    (hout : ∀ conn, outstanding conn h' = outstanding conn h) : h'.Balanced := by
  intro conn
  rw [hiss, hcomp, hout, hb conn]

theorem issued_activateNext : issued conn (h.activateNext key tag).log = issued conn h.log := by
  rw [activateNext_log]
  split
  · rfl
  · split <;> simp [issued_cons, Event.issuing]

theorem completed_activateNext :
    completed conn (h.activateNext key tag).log = completed conn h.log := by
  rw [activateNext_log]
  split
  · rfl
  · split <;> simp [completed_cons, Event.completing]

theorem Balanced.complete (hi : h.Inv) (hb : h.Balanced) (hop : op ∈ h.writing) :
    (h.complete op callOk).Balanced := by
  intro conn
  show issued conn (.complete op.conn op.kind callOk :: h.log) =
    outstanding conn (h.settle op) ++ completed conn (.complete op.conn op.kind callOk :: h.log)
  rw [issued_cons, completed_cons, hb conn]
  by_cases heq : op.conn = conn
  · subst heq
    obtain ⟨hbefore, hafter⟩ := hi.outstanding_settle_self hop
    simp [hbefore, hafter, Event.issuing, Event.completing]
  · rw [hi.outstanding_settle_ne (mem_writing.mp hop).1]
    · simp [Event.issuing, Event.completing, heq]
    · intro o _ hconn heq
      subst heq
      exact heq hconn

theorem Balanced.notified (hi : h.Inv) (hb : h.Balanced) (hop : op ∈ h.awaited) :
    (h.notified op).Balanced := by
  refine hb.congr ?_ ?_ ?_
  · intro conn
    simp [issued_cons, Event.issuing]
  · intro conn
    simp [completed_cons, Event.completing]
  · intro conn
    exact hi.outstanding_settle_done hop

theorem Balanced.delete (hb : h.Balanced) : (h.delete conn key).Balanced := by
  refine hb.congr ?_ ?_ ?_
  · intro conn
    simp [issued_cons, Event.issuing]
  · intro conn
    simp [completed_cons, Event.completing]
  · exact fun _ => rfl

theorem Balanced.step (hi : h.Inv) (hb : h.Balanced) (hs : Step h a h') : h'.Balanced := by
  cases hs with
  | onConnect => exact hb
  | onDelete => exact hb
  | accept _ => exact hb
  | activateNext _ _ _ =>
      refine hb.congr (fun _ => issued_activateNext) (fun _ => completed_activateNext) ?_
      intro conn
      simp [outstanding]
  | write hp _ => exact hb.send rfl (hi.writing_eq_nil.mp hp)
  | finish hp _ => exact hb.send rfl (hi.writing_eq_nil.mp hp)
  | deliver hdel hrun =>
      obtain ⟨-, ⟨hop, heq⟩ | ⟨hop, heq⟩⟩ := (Step.deliver hdel hrun).deliver_cases hi
      · rw [heq]
        split
        · exact hb.complete hi hop
        · exact (hb.complete hi hop).delete
      · rw [heq]
        split
        · exact hb.notified hi hop
        · exact (hb.notified hi hop).delete

theorem HandlerReachable.balanced (hr : h.HandlerReachable) : h.Balanced :=
  hr.invariant (fun _ => rfl) fun hr hb hs => hb.step (HandlerReachable.inv hr) hs

end StreamRpcHandler

end Grpcw.Server
