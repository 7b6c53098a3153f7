import GrpcWrapper.Server.StreamCalls
import GrpcWrapper.Server.StreamDone

/-!
# Destroying a stream handler

The destructor shuts `queue_` down and joins the thread that reads it.  Nothing
is handed to gRPC any more, and `Next` returns false when gRPC has given back
what it holds.  The one thing it never gives back is the notification of a
connection that no call was accepted into, which is `next`.

Two invariants say what is left then.  Every connection has one notification,
which is at gRPC or has been handled (`Accounted`).  A connection whose done tag
was handled and that is still in `active` has an operation at gRPC, or it was
forgotten (`Kept`).
-/

namespace Grpcw.Server

open Transition

variable {Request Response Status : Type}

/-- The connection whose done tag was handled. -/
def Event.notified : Event Request Response Status → List Nat
  | .done conn _ => [conn]
  | _ => []

namespace StreamRpcHandler

/-- The connections whose done tag was handled, newest first. -/
def notifications (log : List (Event Request Response Status)) : List Nat :=
  log.flatMap Event.notified

/-- Every connection has one notification. -/
def Accounted (h : StreamRpcHandler Request Response Status) : Prop :=
  (h.awaited.map Operation.conn ++ notifications h.log).Perm (List.range h.allocated)

/-- The done tag of `conn` was handled before it was active, or a write or finish succeeded
after it.  Both leave the connection in `active`. -/
def Forgotten (conn : Nat) (log : List (Event Request Response Status)) : Prop :=
  .done conn true ∈ log ∨
    ∃ kind past, .complete conn kind true :: past <:+ log ∧ .done conn false ∈ past

/-- Where the connections are whose done tag was handled while they were active. -/
def Kept (h : StreamRpcHandler Request Response Status) : Prop :=
  ∀ conn ∈ h.members, .done conn false ∈ h.log →
    Forgotten conn h.log ∨ ∃ op ∈ h.writing, op.conn = conn

variable {h h' : StreamRpcHandler Request Response Status} {op : Operation Response Status}
  {a : Action Request Response Status} {conn : Nat} {key tag : Addr} {callOk : Bool}
  {kind : OpKind Response Status} {recipients : Recipients}
  {e : Event Request Response Status} {log log' : List (Event Request Response Status)}

/-! ## Notifications -/

@[simp] theorem notifications_cons : notifications (e :: log) = e.notified ++ notifications log :=
  rfl

theorem mem_notifications : conn ∈ notifications log ↔ ∃ b, .done conn b ∈ log := by
  rw [notifications, List.mem_flatMap]
  constructor
  · rintro ⟨e, he, hconn⟩
    cases e with
    | done conn' b =>
        obtain rfl := List.mem_singleton.mp hconn
        exact ⟨b, he⟩
    | connect _ _ _ | activate _ | call _ | complete _ _ _ | delete _ _ _ _ => cases hconn
  · rintro ⟨b, hb⟩
    exact ⟨_, hb, List.mem_singleton_self _⟩

theorem notifications_activateNext :
    notifications (h.activateNext key tag).log = notifications h.log := by
  rw [activateNext_log]
  split
  · rfl
  · split <;> rfl

/-- A done tag that is handled moves from gRPC into the log. -/
theorem Inv.awaited_perm (hi : h.Inv) (hop : op ∈ h.awaited) :
    h.awaited.Perm (op :: (h.settle op).awaited) := by
  have hnodup := hi.tagsNodup.of_map
  have hopq := (mem_awaited.mp hop).1
  refine (List.perm_ext_iff_of_nodup (hnodup.filter _) ?_).mpr ?_
  · refine List.nodup_cons.mpr ⟨?_, (hnodup.filter _).sublist settle_awaited_sublist⟩
    intro hmem
    exact ((hi.mem_settle_awaited hopq).mp hmem).2 rfl
  · intro o
    rw [List.mem_cons, hi.mem_settle_awaited hopq]
    by_cases heq : o = op
    · subst heq
      exact iff_of_true hop (Or.inl rfl)
    · simp [heq]

/-- The notifications do not see a write or a finish come back. -/
theorem Inv.awaited_settle_writing (hi : h.Inv) (hop : op ∈ h.writing) :
    (h.settle op).awaited.Perm h.awaited := by
  have hnodup := hi.tagsNodup.of_map
  refine (List.perm_ext_iff_of_nodup ((hnodup.filter _).sublist settle_awaited_sublist)
    (hnodup.filter _)).mpr ?_
  intro o
  rw [hi.mem_settle_awaited (mem_writing.mp hop).1]
  refine and_iff_left_of_imp ?_
  rintro ho rfl
  exact mem_writing_kind hop (mem_awaited_kind ho)

theorem Accounted.congr (hacc : h.Accounted) (hal : h'.allocated = h.allocated)
    (haw : h'.awaited.Perm h.awaited) (hlog : notifications h'.log = notifications h.log) :
    h'.Accounted := by
  unfold Accounted
  rw [hal, hlog]
  exact ((haw.map _).append_right _).trans hacc

theorem Accounted.activateNext (hacc : h.Accounted) : (h.activateNext key tag).Accounted := by
  unfold Accounted
  rw [activateNext_awaited, notifications_activateNext, activateNext_allocated, List.map_append,
    List.append_assoc, List.range_succ]
  refine (List.Perm.append_left _ List.perm_append_comm).trans ?_
  rw [← List.append_assoc]
  exact hacc.append_right _

theorem Accounted.send (hacc : h.Accounted) (hk : kind.label = .writing) :
    (h.send kind recipients).handler.Accounted := by
  refine hacc.congr (send_allocated _ _ _) ?_ ?_
  · rw [send_awaited hk]
  · rw [send_log]
    rfl

theorem Accounted.notified (hi : h.Inv) (hacc : h.Accounted) (hop : op ∈ h.awaited) :
    (h.notified op).Accounted := by
  have hperm := (hi.awaited_perm hop).map Operation.conn
  refine List.Perm.trans ?_ hacc
  refine List.perm_middle.trans ?_
  exact hperm.symm.append_right _

theorem Accounted.step (hi : h.Inv) (hacc : h.Accounted) (hs : Step h a h') : h'.Accounted := by
  cases hs with
  | onConnect => exact hacc
  | onDelete => exact hacc
  | accept _ => exact hacc
  | activateNext _ _ _ => exact hacc.activateNext
  | write _ _ => exact hacc.send rfl
  | finish _ _ => exact hacc.send rfl
  | deliver hdel hrun =>
      obtain ⟨-, ⟨hop, heq⟩ | ⟨hop, heq⟩⟩ := (Step.deliver hdel hrun).deliver_cases hi
      · rw [heq]
        split
        · exact hacc.congr rfl (hi.awaited_settle_writing hop) rfl
        · exact hacc.congr rfl (hi.awaited_settle_writing hop) rfl
      · rw [heq]
        have hnot := hacc.notified hi hop
        split
        · exact hnot
        · exact hnot.congr rfl (List.Perm.refl _) rfl

theorem HandlerReachable.accounted (hr : h.HandlerReachable) : h.Accounted :=
  hr.invariant (List.Perm.refl _) fun hr hacc hs => hacc.step (HandlerReachable.inv hr) hs

/-! ## Connections that stay active -/

theorem Forgotten.mono (hf : Forgotten conn log) (hsuf : log <:+ log') : Forgotten conn log' := by
  rcases hf with hdone | ⟨kind, past, hlast, hdone⟩
  · exact Or.inl (hsuf.subset hdone)
  · exact Or.inr ⟨kind, past, hlast.trans hsuf, hdone⟩

/-- Sections that handle no done tag, add nothing to `active` and take nothing from gRPC. -/
theorem Kept.congr (hk : h.Kept) (hsuf : h.log <:+ h'.log)
    (hdone : ∀ {conn}, .done conn false ∈ h'.log → .done conn false ∈ h.log)
    (hw : ∀ op ∈ h.writing, op ∈ h'.writing) (hm : ∀ conn ∈ h'.members, conn ∈ h.members) :
    h'.Kept := by
  intro conn hmem hd
  rcases hk conn (hm conn hmem) (hdone hd) with hf | ⟨op, hop, hconn⟩
  · exact Or.inl (hf.mono hsuf)
  · exact Or.inr ⟨op, hw op hop, hconn⟩

theorem Kept.activateNext (hi : h.Inv) (hd : h.DoneHistory) (hk : h.Kept) :
    (h.activateNext key tag).Kept := by
  intro conn hmem hdone
  rw [done_activateNext] at hdone
  rw [activateNext_writing]
  obtain ⟨key', c, ha | hn, rfl⟩ := hi.mem_members_activateNext.mp hmem
  · refine (hk _ (mem_members.mpr ⟨key', c, ha, rfl⟩) hdone).imp_left fun hf => ?_
    exact hf.mono log_suffix_activateNext
  · exact absurd hdone (hd.notNext hn)

theorem Kept.send (hk : h.Kept) (hl : kind.label = .writing) :
    (h.send kind recipients).handler.Kept := by
  refine hk.congr ?_ ?_ ?_ ?_
  · rw [send_log]
    exact List.suffix_cons _ _
  · simp
  · intro op hop
    rw [send_writing hl]
    exact List.mem_append_left _ hop
  · simp

/-- A connection whose write succeeds after its done tag is forgotten. -/
theorem Kept.succeed (hi : h.Inv) (hk : h.Kept) (hop : op ∈ h.writing) :
    (h.complete op true).Kept := by
  intro conn hmem hdone
  simp only [complete_log, List.mem_cons, reduceCtorEq, false_or] at hdone
  by_cases heq : op.conn = conn
  · subst heq
    exact Or.inl (Or.inr ⟨op.kind, h.log, List.suffix_rfl, hdone⟩)
  · rcases hk conn hmem hdone with hf | ⟨o, ho, hconn⟩
    · exact Or.inl (hf.mono (List.suffix_cons _ _))
    · refine Or.inr ⟨o, (hi.mem_settle_writing (mem_writing.mp hop).1).mpr ⟨ho, ?_⟩, hconn⟩
      rintro rfl
      exact heq hconn

/-- One whose write fails is erased. -/
theorem Kept.fail (hi : h.Inv) (hk : h.Kept) (hop : op ∈ h.writing) :
    ((h.complete op false).delete op.conn op.data).Kept := by
  intro conn hmem hdone
  simp only [delete_log, complete_log, List.mem_cons, reduceCtorEq, false_or] at hdone
  have hmem' : conn ∈ (h.complete op false).members := members_delete_subset hmem
  have hne : conn ≠ op.conn := by
    rintro rfl
    exact notMem_members_delete (fun ho => hi.holds_inj ho (hi.holds_writing hop)) hmem
  rcases hk conn hmem' hdone with hf | ⟨o, ho, hconn⟩
  · refine Or.inl (hf.mono ?_)
    exact (List.suffix_cons _ _).trans (List.suffix_cons _ _)
  · refine Or.inr ⟨o, (hi.mem_settle_writing (mem_writing.mp hop).1).mpr ⟨ho, ?_⟩, hconn⟩
    rintro rfl
    exact hne hconn.symm

/-- A done tag is left to the operation of its connection. -/
theorem Kept.defer (hi : h.Inv) (hk : h.Kept) (hop : op ∈ h.awaited)
    (hp : op.data ∈ h.connections.processing) : (h.notified op).Kept := by
  intro conn hmem hdone
  rcases List.mem_cons.mp hdone with heq | hdone
  · obtain ⟨rfl, -⟩ := Event.done.inj heq
    obtain ⟨key, ho⟩ := mem_members_holds hmem
    obtain rfl := hi.holds_awaited hop ho
    obtain ⟨o, how, hdata⟩ := hi.processingMem.mp hp
    have hown := hi.holds_writing how
    rw [hdata] at hown
    exact Or.inr ⟨o, mem_writing_notified hi hop how, hi.holds_key hown ho⟩
  · rcases hk conn hmem hdone with hf | ⟨o, ho, hconn⟩
    · exact Or.inl (hf.mono (List.suffix_cons _ _))
    · exact Or.inr ⟨o, mem_writing_notified hi hop ho, hconn⟩

theorem Kept.erase (hi : h.Inv) (hk : h.Kept) (hop : op ∈ h.awaited) :
    ((h.notified op).delete op.conn op.data).Kept := by
  intro conn hmem hdone
  simp only [delete_log, List.mem_cons, reduceCtorEq, false_or] at hdone
  rcases List.mem_cons.mp hdone with heq | hdone
  · obtain ⟨rfl, -⟩ := Event.done.inj heq
    exact absurd hmem (notMem_members_delete fun ho => hi.holds_awaited hop ho)
  · have hmem' : conn ∈ (h.notified op).members := members_delete_subset hmem
    rcases hk conn hmem' hdone with hf | ⟨o, ho, hconn⟩
    · refine Or.inl (hf.mono ?_)
      exact (List.suffix_cons _ _).trans (List.suffix_cons _ _)
    · exact Or.inr ⟨o, mem_writing_notified hi hop ho, hconn⟩

theorem Kept.step (hi : h.Inv) (hd : h.DoneHistory) (hk : h.Kept) (hs : Step h a h') :
    h'.Kept := by
  cases hs with
  | onConnect => exact hk
  | onDelete => exact hk
  | accept _ => exact hk
  | activateNext _ _ _ => exact hk.activateNext hi hd
  | write _ _ => exact hk.send rfl
  | finish _ _ => exact hk.send rfl
  | @deliver op callOk s hdel hrun =>
      obtain ⟨-, ⟨hop, heq⟩ | ⟨hop, heq⟩⟩ := (Step.deliver hdel hrun).deliver_cases hi
      · rw [heq]
        cases callOk with
        | true => exact hk.succeed hi hop
        | false => exact hk.fail hi hop
      · rw [heq]
        split
        · rename_i hp
          exact hk.defer hi hop hp
        · exact hk.erase hi hop

theorem HandlerReachable.kept (hr : h.HandlerReachable) : h.Kept := by
  refine hr.invariant ?_ fun hr hk hs =>
    hk.step (HandlerReachable.inv hr) (HandlerReachable.doneHistory hr) hs
  intro conn hmem
  cases hmem

/-! ## The end -/

/-- The steps of the destructor. -/
def Action.IsDelivery : Action Request Response Status → Prop
  | .deliver _ _ => True
  | _ => False

/-- No call was accepted into the connection. -/
def Unaccepted (h : StreamRpcHandler Request Response Status) (conn : Nat) : Prop :=
  ∃ key, h.connections.next = some (key, ⟨conn, none⟩)

/-- What the destructor finds when `Next` returns false. -/
structure Drained (h : StreamRpcHandler Request Response Status) : Prop where
  /-- gRPC has nothing but the notification of a connection that waits for a call. -/
  queue : ∀ op ∈ h.queue, op.kind = .notifyWhenDone ∧ h.Unaccepted op.conn
  processing : h.connections.processing = ∅
  /-- No tag is left but the one for that notification. -/
  tags : h.connections.tags.entries.length ≤ 1
  /-- What was issued on a connection has come back once, in the order of the calls. -/
  completed : ∀ conn, StreamRpcHandler.completed conn h.log = issued conn h.log
  /-- Every other connection's done tag was handled, once. -/
  notified : ∀ conn < h.allocated, conn ∈ notifications h.log ∨ h.Unaccepted conn
  once : (notifications h.log).Nodup
  /-- The clients that are left were forgotten before. -/
  left : ∀ conn ∈ h.members, Forgotten conn h.log

theorem unaccepted_of_not_deliverable (hop : op ∈ h.queue) (hnot : ¬ h.Deliverable op) :
    op.kind = .notifyWhenDone ∧ h.Unaccepted op.conn := by
  have hkind : ¬ (op.kind = .notifyWhenDone → ∀ key connection,
      h.connections.next = some (key, connection) → connection.serial = op.conn →
        connection.request.isSome) := fun hall => hnot ⟨hop, hall⟩
  push Not at hkind
  obtain ⟨hkind, key, ⟨serial, request⟩, hn, rfl, hnone⟩ := hkind
  have hrequest : request = none := Option.not_isSome_iff_eq_none.mp hnone
  subst hrequest
  exact ⟨hkind, key, hn⟩

/-- A connection that waits for a call is not active. -/
theorem Unaccepted.notMem_members (hi : h.Inv) (hu : h.Unaccepted conn) : conn ∉ h.members := by
  intro hmem
  obtain ⟨key, c, ha, hs⟩ := mem_members.mp hmem
  obtain ⟨key', hn⟩ := hu
  obtain rfl := hi.ownsInj (.active ha) (.next hn) hs
  exact hi.nextKey hn (Map.mem_of_lookup ha)

/-- At most one connection waits for a call. -/
theorem Unaccepted.eq {conn' : Nat} (hu : h.Unaccepted conn) (hu' : h.Unaccepted conn') :
    conn = conn' := by
  obtain ⟨key, hn⟩ := hu
  obtain ⟨key', hn'⟩ := hu'
  cases hn.symm.trans hn'
  rfl

theorem Inv.length_awaited_le (hi : h.Inv) (hu : ∀ op ∈ h.awaited, h.Unaccepted op.conn) :
    h.awaited.length ≤ 1 := by
  cases hawaited : h.awaited with
  | nil => exact Nat.zero_le 1
  | cons op ops =>
      have hsub : h.awaited.map Operation.conn ⊆ [op.conn] := by
        intro conn hconn
        obtain ⟨op', hop', rfl⟩ := List.mem_map.mp hconn
        have hop : op ∈ h.awaited := hawaited ▸ List.mem_cons_self
        exact List.mem_singleton.mpr ((hu op' hop').eq (hu op hop))
      have hle := (hi.doneNodup.subperm hsub).length_le
      rwa [List.length_map, hawaited] at hle

/-- When gRPC can give nothing back, the handler is drained. -/
theorem drained_of_not_deliverable (hr : h.HandlerReachable)
    (hnot : ∀ op ∈ h.queue, ¬ h.Deliverable op) : h.Drained := by
  have hi := HandlerReachable.inv hr
  have hqueue := fun op hop => unaccepted_of_not_deliverable hop (hnot op hop)
  have hw : h.writing = [] := by
    refine List.eq_nil_iff_forall_not_mem.mpr fun op hop => ?_
    exact mem_writing_kind hop (hqueue op (mem_writing.mp hop).1).1
  have hacc := HandlerReachable.accounted hr
  have hnotified : ∀ conn < h.allocated, conn ∈ notifications h.log ∨ h.Unaccepted conn := by
    intro conn hlt
    rcases List.mem_append.mp (hacc.symm.subset (List.mem_range.mpr hlt)) with hmem | hmem
    · obtain ⟨op, hop, rfl⟩ := List.mem_map.mp hmem
      exact Or.inr (hqueue op (mem_awaited.mp hop).1).2
    · exact Or.inl hmem
  refine ⟨hqueue, hi.writing_eq_nil.mpr hw, ?_, ?_, hnotified, ?_, ?_⟩
  · rw [hi.length_tags, length_queue, hw, List.length_nil, Nat.add_zero]
    exact hi.length_awaited_le fun op hop => (hqueue op (mem_awaited.mp hop).1).2
  · intro conn
    exact ((HandlerReachable.balanced hr).barrier hw).symm
  · exact ((hacc.nodup_iff.mpr List.nodup_range).of_append_right)
  · intro conn hmem
    obtain ⟨key, c, ha, rfl⟩ := mem_members.mp hmem
    rcases hnotified _ (hi.ownsSerial (.active ha)) with hdone | hu
    · obtain ⟨b, hdone⟩ := mem_notifications.mp hdone
      cases b with
      | true => exact Or.inl hdone
      | false =>
          refine (HandlerReachable.kept hr _ hmem hdone).resolve_right ?_
          rintro ⟨op, hop, -⟩
          rw [hw] at hop
          cases hop
    · exact absurd hmem (hu.notMem_members hi)

/-- Each delivery takes one operation from gRPC. -/
theorem Step.deliver_lower (hi : h.Inv) (hs : Step h (.deliver op callOk) h') :
    h'.queue.length < h.queue.length := by
  obtain ⟨hdel, hcases⟩ := hs.deliver_cases hi
  have hq : h'.queue = (h.settle op).queue := by
    rcases hcases with ⟨-, heq⟩ | ⟨-, heq⟩
    · rw [heq]
      split <;> rfl
    · rw [heq]
      split <;> rfl
  rw [hq]
  show (h.queue.eraseP fun o => o.tag = op.tag).length < _
  rw [List.length_eraseP_of_mem hdel.1 (by simp)]
  exact Nat.sub_lt (List.length_pos_of_mem hdel.1) Nat.one_pos

/-- What gRPC can give back is handled, with either result. -/
theorem exists_deliver (hr : h.HandlerReachable) (hdel : h.Deliverable op) (callOk : Bool) :
    ∃ h', Step h (.deliver op callOk) h' ∧ h'.queue.length < h.queue.length := by
  have hi := HandlerReachable.inv hr
  have hsome : (h.runSynchronization op callOk).isSome := hi.runSynchronization_isSome hdel.1
  obtain ⟨s, hrun⟩ := Option.isSome_iff_exists.mp hsome
  have hs : Step h (.deliver op callOk) s.handler := .deliver hdel hrun
  exact ⟨s.handler, hs, hs.deliver_lower hi⟩

/-- Whatever state a handler is in and however gRPC answers, its destructor returns. -/
theorem reachable_drains (hr : h.HandlerReachable) :
    (∀ op, h.Deliverable op → ∀ callOk,
      ∃ h', Step h (.deliver op callOk) h' ∧ h'.queue.length < h.queue.length) ∧
    Inevitably Step Action.IsDelivery Drained h := by
  refine ⟨fun op => exists_deliver hr, ?_⟩
  refine inevitably_of_measure (I := fun h => h.HandlerReachable) (fun h => h.queue.length)
    ?_ ?_ hr
  · intro h a h' hr ha hs
    cases a with
    | deliver op callOk => exact ⟨hr.tail hs, hs.deliver_lower (HandlerReachable.inv hr)⟩
    | onConnect | onDelete | accept _ | activateNext _ _ | write _ _ | finish _ _ => cases ha
  · intro h hr hgoal
    by_contra hnone
    refine hgoal (drained_of_not_deliverable hr fun op hop hdel => hnone ?_)
    obtain ⟨h', hs, -⟩ := exists_deliver hr hdel true
    exact ⟨.deliver op true, h', trivial, hs⟩

/-- Two writes and the notifications of two calls are at gRPC. -/
theorem reachable_drains_broadcast :
    ¬ (served broadcast).2.Drained ∧
      Inevitably Step Action.IsDelivery Drained (served broadcast).2 :=
  ⟨fun h => absurd h.processing (by decide), (reachable_drains (served_run broadcast).reachable).2⟩

end StreamRpcHandler

end Grpcw.Server
