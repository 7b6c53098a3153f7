import GrpcWrapper.Server.StreamInvariant

/-!
# Deleting a connection

Two events delete a connection: a writing tag that comes back with `call_ok`
false, and the done tag.  Both reach the connection through the address in the
tag.  `DeletesOnce` says of a log that every deletion read the live connection
its tag was made for, and that this was the connection's only deletion.

The handler does not always keep this.  A done tag that is handled after a
failed writing tag of the same connection deletes it a second time, through an
address that is free by then or belongs to a later connection.  A done tag that
is handled while its connection is still `next` runs the deletion path and
leaves the connection to be activated, so a writing tag that fails afterwards
deletes it again.  `deletesOnce_iff` shows that there is no third way.
-/

namespace Grpcw.Server

open Transition

variable {Request Response Status : Type}

/-! ## The property -/

/-- The connection whose tag an event ran the deletion path for. -/
@[simp] def Event.deleted : Event Request Response Status → Option Nat
  | .delete conn _ _ _ => some conn
  | _ => none

/-- The connection whose writing tag came back with `call_ok` false. -/
@[simp] def Event.failed : Event Request Response Status → Option Nat
  | .complete conn _ false => some conn
  | _ => none

namespace StreamRpcHandler

/-- The deletion path has run for a tag of `conn`. -/
def Deleted (conn : Nat) (log : List (Event Request Response Status)) : Prop :=
  ∃ e ∈ log, e.deleted = some conn

/-- A writing tag of `conn` has come back with `call_ok` false. -/
def Failed (conn : Nat) (log : List (Event Request Response Status)) : Prop :=
  ∃ e ∈ log, e.failed = some conn

/-- A deletion reads the connection its tag was made for, and that connection
was not deleted before. -/
def OwnDeletion : Event Request Response Status → List (Event Request Response Status) → Prop
  | .delete conn _ object _, past =>
      (∃ c, object = some c ∧ c.serial = conn) ∧ ¬ Deleted conn past
  | _, _ => True

/-- Every connection is deleted at most once, and while the handler holds it. -/
def DeletesOnce (log : List (Event Request Response Status)) : Prop := Historically OwnDeletion log

/-- No done tag is handled after a failed writing tag of its connection, unless
a later connection at its address is being processed, and no writing tag fails
when the done tag of its connection was handled before the connection left
`next`. -/
def DeletionGuard (h : StreamRpcHandler Request Response Status) :
    Action Request Response Status → Prop
  | .deliver op callOk =>
      (op.kind = .notifyWhenDone → op.data ∈ h.connections.processing ∨ ¬ Failed op.conn h.log) ∧
        (op.kind ≠ .notifyWhenDone → callOk = true ∨ .done op.conn true ∉ h.log)
  | _ => True

instance {conn : Nat} {log : List (Event Request Response Status)} : Decidable (Deleted conn log) :=
  inferInstanceAs (Decidable (∃ e ∈ log, e.deleted = some conn))

instance {conn : Nat} {log : List (Event Request Response Status)} : Decidable (Failed conn log) :=
  inferInstanceAs (Decidable (∃ e ∈ log, e.failed = some conn))

instance : ∀ (e : Event Request Response Status) (past : List (Event Request Response Status)),
    Decidable (OwnDeletion e past)
  | .delete conn _ object _, past =>
      decidable_of_iff ((object.map StreamConnection.serial) = some conn ∧ ¬ Deleted conn past)
        (and_congr_left' Option.map_eq_some_iff)
  | .connect .., _ | .activate _, _ | .call _, _ | .complete .., _ | .done .., _ => .isTrue trivial

instance {log : List (Event Request Response Status)} : Decidable (DeletesOnce log) :=
  inferInstanceAs (Decidable (Historically OwnDeletion log))

instance [DecidableEq Request] [DecidableEq Response] [DecidableEq Status]
    {h : StreamRpcHandler Request Response Status} :
    ∀ a, Decidable (DeletionGuard h a)
  | .deliver op callOk =>
      inferInstanceAs (Decidable ((op.kind = .notifyWhenDone →
        op.data ∈ h.connections.processing ∨ ¬ Failed op.conn h.log) ∧
        (op.kind ≠ .notifyWhenDone → callOk = true ∨ .done op.conn true ∉ h.log)))
  | .onConnect | .onDelete | .accept _ | .activateNext .. | .write .. | .finish .. =>
      .isTrue trivial

variable {h h' : StreamRpcHandler Request Response Status} {op : Operation Response Status}
  {a : Action Request Response Status} {e : Event Request Response Status}
  {log : List (Event Request Response Status)} {conn : Nat} {key : Addr} {callOk : Bool}
  {kind : OpKind Response Status}

@[simp] theorem deleted_cons :
    Deleted conn (e :: log) ↔ e.deleted = some conn ∨ Deleted conn log := by
  simp [Deleted]

@[simp] theorem failed_cons :
    Failed conn (e :: log) ↔ e.failed = some conn ∨ Failed conn log := by
  simp [Failed]

@[simp] theorem ownDeletion_delete {id : Addr} {object : Option (StreamConnection Request)}
    {called : Bool} :
    OwnDeletion (.delete conn id object called) log ↔
      (∃ c, object = some c ∧ c.serial = conn) ∧ ¬ Deleted conn log := Iff.rfl

@[simp] theorem deletesOnce_cons :
    DeletesOnce (e :: log) ↔ OwnDeletion e log ∧ DeletesOnce log := Iff.rfl

/-! ## What the log says about the connections held -/

/-- As long as deletions go well, the log tells which connections are still
held: one whose done tag is awaited is held unless a writing tag of it failed,
and a deleted one is held only if its done tag found it in `next`. -/
structure DeletionHistory (h : StreamRpcHandler Request Response Status) : Prop where
  failed : ∀ {conn}, Failed conn h.log → Deleted conn h.log
  early : ∀ {conn}, .done conn true ∈ h.log → Deleted conn h.log
  deletedLt : ∀ {conn}, Deleted conn h.log → conn < h.allocated
  awaited : ∀ {op}, op ∈ h.awaited → ¬ Failed op.conn h.log →
    h.Holds op.data op.conn ∧ ¬ Deleted op.conn h.log
  held : ∀ {key conn}, h.Holds key conn → Deleted conn h.log → .done conn true ∈ h.log

theorem DeletionHistory.initial :
    (initial : StreamRpcHandler Request Response Status).DeletionHistory where
  failed := by rintro conn ⟨e, hm, -⟩; cases hm
  early := by intro conn hm; cases hm
  deletedLt := by rintro conn ⟨e, hm, -⟩; cases hm
  awaited := by intro op hop; cases hop
  held := by rintro key conn ⟨c, ha | hn, -⟩; cases ha; cases hn

/-- Sections that neither handle a tag nor change what is held keep the
history. -/
theorem DeletionHistory.congr (hd : h.DeletionHistory)
    (hdel : ∀ {conn}, Deleted conn h'.log ↔ Deleted conn h.log)
    (hfail : ∀ {conn}, Failed conn h'.log ↔ Failed conn h.log)
    (hdone : ∀ {conn b}, .done conn b ∈ h'.log ↔ .done conn b ∈ h.log)
    (haw : ∀ {op}, op ∈ h'.awaited → op ∈ h.awaited) (hal : h'.allocated = h.allocated)
    (hheld : ∀ {key conn}, h'.Holds key conn ↔ h.Holds key conn) : h'.DeletionHistory where
  failed := by
    intro conn hf
    exact hdel.mpr (hd.failed (hfail.mp hf))
  early := by
    intro conn hm
    exact hdel.mpr (hd.early (hdone.mp hm))
  deletedLt := by
    intro conn hm
    rw [hal]
    exact hd.deletedLt (hdel.mp hm)
  awaited := by
    intro op hop hf
    obtain ⟨hh, hn⟩ := hd.awaited (haw hop) (fun hf' => hf (hfail.mpr hf'))
    exact ⟨hheld.mpr hh, fun hm => hn (hdel.mp hm)⟩
  held := by
    intro key conn hh hm
    exact hdone.mpr (hd.held (hheld.mp hh) (hdel.mp hm))

theorem deleted_activateNext {key tag : Addr} :
    Deleted conn (h.activateNext key tag).log ↔ Deleted conn h.log := by
  rw [activateNext_log]
  split
  · rfl
  · split <;> simp

theorem failed_activateNext {key tag : Addr} :
    Failed conn (h.activateNext key tag).log ↔ Failed conn h.log := by
  rw [activateNext_log]
  split
  · rfl
  · split <;> simp

theorem DeletionHistory.activateNext {key tag : Addr} (hi : h.Inv) (hd : h.DeletionHistory) :
    (h.activateNext key tag).DeletionHistory where
  failed := by
    intro conn hf
    exact deleted_activateNext.mpr (hd.failed (failed_activateNext.mp hf))
  early := by
    intro conn hm
    exact deleted_activateNext.mpr (hd.early (done_activateNext.mp hm))
  deletedLt := by
    intro conn hm
    rw [activateNext_allocated]
    exact Nat.lt_succ_of_lt (hd.deletedLt (deleted_activateNext.mp hm))
  awaited := by
    intro op hop hf
    rw [failed_activateNext] at hf
    rw [deleted_activateNext, hi.holds_activateNext]
    rw [activateNext_awaited] at hop
    rcases List.mem_append.mp hop with hop | hop
    · obtain ⟨hh, hn⟩ := hd.awaited hop hf
      exact ⟨Or.inl hh, hn⟩
    · rw [List.mem_singleton.mp hop]
      exact ⟨Or.inr ⟨rfl, rfl⟩, fun hm => Nat.lt_irrefl _ (hd.deletedLt hm)⟩
  held := by
    intro key' conn hh hm
    rw [deleted_activateNext] at hm
    rw [done_activateNext]
    rcases hi.holds_activateNext.mp hh with hh | ⟨-, rfl⟩
    · exact hd.held hh hm
    · exact absurd (hd.deletedLt hm) (Nat.lt_irrefl _)

/-- Deleting its own connection leaves every other one where it was. -/
theorem Inv.holds_delete_own {conn' : Nat} {key' : Addr} (hi : h.Inv) (ho : h.Holds key conn)
    (ho' : h.Holds key' conn') (hne : conn' ≠ conn) : (h.delete conn key).Holds key' conn' := by
  refine holds_delete_of_ne ?_ ho'
  intro heq
  subst heq
  exact hne (hi.holds_key ho' ho)

/-- A failed writing tag deletes its connection. -/
theorem DeletionHistory.fail (hi : h.Inv) (hd : h.DeletionHistory) (hop : op ∈ h.writing) :
    ((h.complete op false).delete op.conn op.data).DeletionHistory where
  failed := by
    intro conn hf
    by_cases heq : op.conn = conn
    · simp [heq]
    · simp only [delete_log, complete_log, failed_cons, Event.failed, Option.some.injEq, heq,
        reduceCtorEq, false_or] at hf
      simp [hd.failed hf]
  early := by
    intro conn hm
    simp only [delete_log, complete_log, List.mem_cons, reduceCtorEq, false_or] at hm
    simp [hd.early hm]
  deletedLt := by
    intro conn hm
    simp only [delete_log, complete_log, deleted_cons, Event.deleted, Option.some.injEq,
      reduceCtorEq, false_or] at hm
    rcases hm with rfl | hm
    · exact hi.opSerial (mem_writing.mp hop).1
    · exact hd.deletedLt hm
  awaited := by
    intro o ho hf
    have hoq : o ∈ h.awaited := ((hi.mem_settle_awaited (mem_writing.mp hop).1).mp ho).1
    have hne : op.conn ≠ o.conn := by
      intro heq
      exact hf (by simp [heq])
    have hf' : ¬ Failed o.conn h.log := by
      intro hf'
      exact hf (by simp [hf'])
    obtain ⟨hh, hn⟩ := hd.awaited hoq hf'
    have hic : (h.complete op false).Inv := hi.complete (mem_writing.mp hop).1
    refine ⟨hic.holds_delete_own (hi.holds_writing hop) hh hne.symm, ?_⟩
    simp [hn, hne]
  held := by
    intro key conn hh hm
    simp only [delete_log, complete_log, deleted_cons, Event.deleted, Option.some.injEq,
      reduceCtorEq, false_or] at hm
    have hold : h.Holds key conn := holds_complete.mp (holds_delete hh)
    rcases hm with rfl | hm
    · -- it was active at its address, so nothing is left there
      have hkey : key = op.data := hi.holds_inj hold (hi.holds_writing hop)
      subst hkey
      obtain ⟨c, hn, -⟩ := next_of_holds_delete hh
      obtain ⟨c', ha, -⟩ := hi.writingHome hop
      exact absurd (Map.mem_of_lookup ha) (hi.nextKey hn)
    · simp [hd.held hold hm]

/-- A done tag whose connection has an operation at gRPC deletes nothing. -/
theorem DeletionHistory.defer (hi : h.Inv) (hd : h.DeletionHistory) (hop : op ∈ h.awaited)
    (hp : op.data ∈ h.connections.processing) : (h.notified op).DeletionHistory where
  failed := by
    intro conn hf
    simp only [notified_log, failed_cons, Event.failed, reduceCtorEq, false_or] at hf
    simp [hd.failed hf]
  early := by
    intro conn hm
    simp only [notified_log, List.mem_cons, Event.done.injEq] at hm
    rcases hm with ⟨rfl, hnext⟩ | hm
    · -- its connection is not `next`, whose address is not in `processing`
      obtain ⟨key, c, hn, hs⟩ := isNext_iff.mp hnext.symm
      have hkey : key = op.data := hi.doneHome hop (.next hn) hs
      exact absurd (hkey ▸ hp) (hi.next_notMem_processing hn)
    · simp [hd.early hm]
  deletedLt := by
    intro conn hm
    simp only [notified_log, deleted_cons, Event.deleted, reduceCtorEq, false_or] at hm
    exact hd.deletedLt hm
  awaited := by
    intro o ho hf
    have hoq : o ∈ h.awaited := ((hi.mem_settle_awaited (mem_awaited.mp hop).1).mp ho).1
    simp only [notified_log, failed_cons, Event.failed, reduceCtorEq, false_or] at hf
    obtain ⟨hh, hn⟩ := hd.awaited hoq hf
    exact ⟨hh, by simp [hn]⟩
  held := by
    intro key conn hh hm
    simp only [notified_log, deleted_cons, Event.deleted, reduceCtorEq, false_or] at hm
    simp [hd.held hh hm]

/-- A done tag that finds its own connection deletes it. -/
theorem DeletionHistory.finishDone (hi : h.Inv) (hd : h.DeletionHistory) (hop : op ∈ h.awaited)
    (hown : h.Holds op.data op.conn) :
    ((h.notified op).delete op.conn op.data).DeletionHistory where
  failed := by
    intro conn hf
    simp only [delete_log, notified_log, failed_cons, Event.failed, reduceCtorEq, false_or] at hf
    simp [hd.failed hf]
  early := by
    intro conn hm
    simp only [delete_log, notified_log, List.mem_cons, reduceCtorEq, Event.done.injEq,
      false_or] at hm
    rcases hm with ⟨rfl, -⟩ | hm
    · simp
    · simp [hd.early hm]
  deletedLt := by
    intro conn hm
    simp only [delete_log, notified_log, deleted_cons, Event.deleted, Option.some.injEq,
      reduceCtorEq, false_or] at hm
    rcases hm with rfl | hm
    · exact hi.opSerial (mem_awaited.mp hop).1
    · exact hd.deletedLt hm
  awaited := by
    intro o ho hf
    obtain ⟨hoq, hne⟩ := (hi.mem_settle_awaited (mem_awaited.mp hop).1).mp ho
    have hconn : o.conn ≠ op.conn := fun heq => hne (Keyed.eq_of_key hi.doneNodup hoq hop heq)
    simp only [delete_log, notified_log, failed_cons, Event.failed, reduceCtorEq, false_or] at hf
    obtain ⟨hh, hn⟩ := hd.awaited hoq hf
    have hin : (h.notified op).Inv := hi.notified (mem_awaited.mp hop).1
    exact ⟨hin.holds_delete_own hown hh hconn, by simp [hn, hconn.symm]⟩
  held := by
    intro key conn hh hm
    simp only [delete_log, notified_log, deleted_cons, Event.deleted, Option.some.injEq,
      reduceCtorEq, false_or] at hm
    have hold : h.Holds key conn := holds_notified.mp (holds_delete hh)
    rcases hm with rfl | hm
    · -- what is left at its address is `next`
      have hkey : key = op.data := hi.holds_inj hold hown
      subst hkey
      obtain ⟨c, hn, hs⟩ := next_of_holds_delete hh
      have hnext : h.connections.isNext op.conn = true := isNext_iff.mpr ⟨_, c, hn, hs⟩
      simp [hnext]
    · simp [hd.held hold hm]

/-! ## One step -/

theorem DeletionHistory.send {recipients : Recipients} (hd : h.DeletionHistory)
    (hk : kind.label = .writing) : (h.send kind recipients).handler.DeletionHistory := by
  refine hd.congr ?_ ?_ ?_ ?_ ?_ ?_
  all_goals simp [send_awaited hk]

theorem Inv.object_holds (hi : h.Inv) :
    (∃ c, h.connections.object key = some c ∧ c.serial = conn) ↔ h.Holds key conn := by
  simp only [hi.object_eq_some, Holds]

/-- The only awaited tags that can delete the wrong connection are those of
connections with a failed writing tag. -/
theorem DeletionHistory.awaited_iff (hd : h.DeletionHistory) (hop : op ∈ h.awaited) :
    h.Holds op.data op.conn ∧ ¬ Deleted op.conn h.log ↔ ¬ Failed op.conn h.log := by
  refine ⟨?_, ?_⟩
  · intro ⟨_, hn⟩ hf
    exact hn (hd.failed hf)
  · exact hd.awaited hop

theorem DeletionHistory.held_iff (hd : h.DeletionHistory) (ho : h.Holds key conn) :
    Deleted conn h.log ↔ .done conn true ∈ h.log :=
  ⟨hd.held ho, hd.early⟩

/-- When the deletions so far went well, the guard decides whether the next
step's goes well. -/
theorem deletesOnce_step (hi : h.Inv) (hd : h.DeletionHistory) (hok : DeletesOnce h.log)
    (hs : Step h a h') : DeletesOnce h'.log ↔ DeletionGuard h a := by
  cases hs with
  | onConnect => exact iff_of_true hok trivial
  | onDelete => exact iff_of_true hok trivial
  | accept _ => exact iff_of_true hok trivial
  | activateNext _ _ _ =>
      refine iff_of_true ?_ trivial
      rw [activateNext_log]
      split
      · exact hok
      · split <;> simpa [OwnDeletion] using hok
  | write _ _ => simpa [StreamRpcHandler.write, OwnDeletion, DeletionGuard] using hok
  | finish _ _ => simpa [StreamRpcHandler.finish, OwnDeletion, DeletionGuard] using hok
  | @deliver op callOk s hdel hrun =>
      obtain ⟨-, ⟨hop, heq⟩ | ⟨hop, heq⟩⟩ := (Step.deliver hdel hrun).deliver_cases hi
      · have hk := mem_writing_kind hop
        rw [heq]
        cases callOk with
        | true => simp [DeletionGuard, OwnDeletion, hk, hok]
        | false =>
            have ho := hi.holds_writing hop
            have hic : (h.complete op false).Inv := hi.complete (mem_writing.mp hop).1
            simp [DeletionGuard, hk, hok, hic.object_holds, ho, hd.held_iff ho, OwnDeletion]
      · have hk := mem_awaited_kind hop
        rw [heq]
        by_cases hp : op.data ∈ h.connections.processing
        · simp [DeletionGuard, OwnDeletion, hk, hok, hp]
        · have hin : (h.notified op).Inv := hi.notified (mem_awaited.mp hop).1
          simp [DeletionGuard, hk, hok, hp, hin.object_holds, hd.awaited_iff hop, OwnDeletion]

theorem DeletionHistory.step (hi : h.Inv) (hd : h.DeletionHistory) (hs : Step h a h')
    (hok : DeletesOnce h'.log) : h'.DeletionHistory := by
  cases hs with
  | onConnect => exact hd.congr Iff.rfl Iff.rfl Iff.rfl id rfl Iff.rfl
  | onDelete => exact hd.congr Iff.rfl Iff.rfl Iff.rfl id rfl Iff.rfl
  | accept _ => exact hd.congr Iff.rfl Iff.rfl Iff.rfl id rfl holds_accept
  | activateNext _ _ _ => exact hd.activateNext hi
  | write _ _ => exact hd.send rfl
  | finish _ _ => exact hd.send rfl
  | @deliver op callOk s hdel hrun =>
      obtain ⟨-, ⟨hop, heq⟩ | ⟨hop, heq⟩⟩ := (Step.deliver hdel hrun).deliver_cases hi
      · rw [heq]
        cases callOk with
        | true =>
            refine hd.congr ?_ ?_ ?_ ?_ rfl Iff.rfl
            · simp
            · simp
            · simp
            · intro o ho
              exact ((hi.mem_settle_awaited (mem_writing.mp hop).1).mp ho).1
        | false => exact hd.fail hi hop
      · rw [heq] at hok ⊢
        split
        · rename_i hp
          exact hd.defer hi hop hp
        · rename_i hp
          rw [if_neg hp] at hok
          have hin : (h.notified op).Inv := hi.notified (mem_awaited.mp hop).1
          exact hd.finishDone hi hop (hin.object_holds.mp hok.1.1)

/-! ## Every run -/

theorem HandlerReachable.deletionHistory (hr : h.HandlerReachable) (hok : DeletesOnce h.log) :
    h.DeletionHistory := by
  refine hr.invariant (I := fun h => DeletesOnce h.log → h.DeletionHistory)
    (fun _ => .initial) ?_ hok
  intro s a s' hr ih hs hok
  have hi := HandlerReachable.inv hr
  exact (ih (hok.of_suffix (hs.log_suffix hi))).step hi hs hok

variable {tr : List (StreamRpcHandler Request Response Status × Action Request Response Status)}

/-- A run deletes every connection at most once and while it is held, exactly
when all its deliveries meet the guard. -/
theorem deletesOnce_iff (run : HandlerRun tr h) :
    (∀ s ∈ visited tr h, DeletesOnce s.log) ↔ ∀ p ∈ tr, DeletionGuard p.1 p.2 := by
  refine run.always_iff (P := fun s => DeletesOnce s.log) ?_ ?_
  · exact historically_nil _
  intro s a s' hr hok hs
  exact deletesOnce_step (HandlerReachable.inv hr) (HandlerReachable.deletionHistory hr hok) hok hs

/-- A client that goes away while a write to it is at gRPC. -/
def cancelledWrite (order : List (Operation Nat Nat × Bool)) : List (Action Nat Nat Nat) :=
  [.onConnect, .onDelete, .activateNext 1 101, .accept 7, .activateNext 2 102,
    .write 5 (.all [(1, 103)])] ++ order.map fun p => .deliver p.1 p.2

/-- The write fails and then the done tag comes: the second deletion reads a
connection that the first one freed. -/
def doneLast : List (Operation Nat Nat × Bool) :=
  [(⟨103, 1, 0, .write 5⟩, false), (⟨101, 1, 0, .notifyWhenDone⟩, true)]

theorem not_deletesOnce :
    ¬ ∀ (tr : List (StreamRpcHandler Nat Nat Nat × Action Nat Nat Nat))
      (h : StreamRpcHandler Nat Nat Nat), HandlerRun tr h → ∀ s ∈ visited tr h, DeletesOnce s.log := by
  intro hall
  have hrun := served_run (cancelledWrite doneLast)
  exact absurd (hall _ _ hrun _ List.mem_cons_self) (by decide)

/-- With the two tags in the other order the connection is deleted once. -/
theorem deletesOnce_iff_doneFirst :
    DeletesOnce (served (cancelledWrite doneLast.reverse)).2.log :=
  (deletesOnce_iff (served_run (cancelledWrite doneLast.reverse))).mpr (by decide) _
    List.mem_cons_self

end StreamRpcHandler

end Grpcw.Server
