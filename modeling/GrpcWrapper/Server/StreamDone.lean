import GrpcWrapper.Server.StreamInFlight

/-!
# Connections that stay

When gRPC is finished with a call, its done tag comes through `queue_`, in any
order with the tags of the call's operations.  The done branch leaves a
connection with an operation at gRPC to the writing branch, which erases it
when `call_ok` is false.  `NoStale` says that this is enough: a connection whose
done tag was handled does not stay active once gRPC has given back its
operation.

It is not enough for an operation that comes back with `call_ok` true, as one
does that went out before the client left, or the `Finish` that ended the call.
`noStale_iff` shows that these are all the runs that leave a connection behind.
-/

namespace Grpcw.Server

open Transition

variable {Request Response Status : Type}

namespace StreamRpcHandler

variable {h h' : StreamRpcHandler Request Response Status} {op : Operation Response Status}
  {a : Action Request Response Status} {conn : Nat} {key tag : Addr} {callOk : Bool}
  {kind : OpKind Response Status} {c : StreamConnection Request}

/-! ## The property -/

/-- A connection that was active when its done tag was handled, and that has
nothing at gRPC, is not active any more. -/
def NoStale (h : StreamRpcHandler Request Response Status) : Prop :=
  ∀ conn, .done conn false ∈ h.log → (∀ op ∈ h.writing, op.conn ≠ conn) → conn ∉ h.members

/-- No write or finish succeeds after the done tag of its connection. -/
def StaleGuard (h : StreamRpcHandler Request Response Status) :
    Action Request Response Status → Prop
  | .deliver op true => op.kind ≠ .notifyWhenDone → .done op.conn false ∉ h.log
  | _ => True

instance [DecidableEq Request] [DecidableEq Response] [DecidableEq Status]
    {h : StreamRpcHandler Request Response Status} :
    ∀ a, Decidable (StaleGuard h a)
  | .deliver op true =>
      inferInstanceAs (Decidable (op.kind ≠ .notifyWhenDone → .done op.conn false ∉ h.log))
  | .onConnect | .onDelete | .accept _ | .activateNext .. | .write .. | .finish ..
  | .deliver _ false => .isTrue trivial

/-! ## What the log says about done tags -/

/-- The connections whose done tag was handled are not new, and one that was
not `next` then is not `next` later. -/
structure DoneHistory (h : StreamRpcHandler Request Response Status) : Prop where
  doneLt : ∀ {conn b}, .done conn b ∈ h.log → conn < h.allocated
  notNext : ∀ {key c}, h.connections.next = some (key, c) → .done c.serial false ∉ h.log

theorem DoneHistory.initial :
    (initial : StreamRpcHandler Request Response Status).DoneHistory where
  doneLt := by intro conn b hm; cases hm
  notNext := by intro key c hn; cases hn

theorem DoneHistory.activateNext (hd : h.DoneHistory) :
    (h.activateNext key tag).DoneHistory where
  doneLt := by
    intro conn b hm
    rw [activateNext_allocated]
    exact Nat.lt_succ_of_lt (hd.doneLt (done_activateNext.mp hm))
  notNext := by
    intro key' c hn hm
    rw [activateNext_next] at hn
    cases hn
    exact Nat.lt_irrefl _ (hd.doneLt (done_activateNext.mp hm))

theorem DoneHistory.congr (hd : h.DoneHistory) (hal : h'.allocated = h.allocated)
    (hdone : ∀ {conn b}, .done conn b ∈ h'.log → .done conn b ∈ h.log)
    (hnext : ∀ {key c}, h'.connections.next = some (key, c) →
      ∃ c', h.connections.next = some (key, c') ∧ c'.serial = c.serial) : h'.DoneHistory where
  doneLt := by
    intro conn b hm
    rw [hal]
    exact hd.doneLt (hdone hm)
  notNext := by
    intro key c hn hm
    obtain ⟨c', hn', hs⟩ := hnext hn
    exact hd.notNext hn' (hs ▸ hdone hm)

theorem DoneHistory.notified (hi : h.Inv) (hd : h.DoneHistory) (hop : op ∈ h.awaited) :
    (h.notified op).DoneHistory where
  doneLt := by
    intro conn b hm
    rcases List.mem_cons.mp hm with heq | hm
    · cases heq
      exact hi.opSerial (mem_awaited.mp hop).1
    · exact hd.doneLt hm
  notNext := by
    intro key c hn hm
    rcases List.mem_cons.mp hm with heq | hm
    · obtain ⟨hs, hb⟩ := Event.done.inj heq
      have hnext : h.connections.isNext op.conn = true := isNext_iff.mpr ⟨key, c, hn, hs⟩
      rw [hnext] at hb
      cases hb
    · exact hd.notNext hn hm

theorem DoneHistory.step (hi : h.Inv) (hd : h.DoneHistory) (hs : Step h a h') :
    h'.DoneHistory := by
  cases hs with
  | onConnect => exact hd.congr rfl id fun hn => ⟨_, hn, rfl⟩
  | onDelete => exact hd.congr rfl id fun hn => ⟨_, hn, rfl⟩
  | accept _ =>
      refine hd.congr rfl id ?_
      intro key c hn
      obtain ⟨⟨k, c₀⟩, hn₀, heq⟩ := Option.map_eq_some_iff.mp hn
      cases heq
      exact ⟨c₀, hn₀, rfl⟩
  | activateNext _ _ _ => exact hd.activateNext
  | write _ _ =>
      exact hd.congr (by simp [StreamRpcHandler.write]) (by simp [StreamRpcHandler.write])
        fun hn => ⟨_, by simpa [StreamRpcHandler.write] using hn, rfl⟩
  | finish _ _ =>
      exact hd.congr (by simp [StreamRpcHandler.finish]) (by simp [StreamRpcHandler.finish])
        fun hn => ⟨_, by simpa [StreamRpcHandler.finish] using hn, rfl⟩
  | deliver hdel hrun =>
      obtain ⟨-, ⟨hop, heq⟩ | ⟨hop, heq⟩⟩ := (Step.deliver hdel hrun).deliver_cases hi
      · rw [heq]
        split
        · exact hd.congr rfl (by simp) fun hn => ⟨_, hn, rfl⟩
        · exact hd.congr rfl (by simp) fun hn => ⟨_, hn, rfl⟩
      · rw [heq]
        have hdn := hd.notified hi hop
        split
        · exact hdn
        · exact hdn.congr rfl (by simp) fun hn => ⟨_, hn, rfl⟩

theorem HandlerReachable.doneHistory (hr : h.HandlerReachable) : h.DoneHistory :=
  hr.invariant .initial fun hr hd hs => hd.step (HandlerReachable.inv hr) hs

/-! ## One step -/

/-- Sections that handle no done tag, add nothing to `active` and take nothing
from gRPC leave no connection behind. -/
theorem NoStale.congr (hns : h.NoStale)
    (hdone : ∀ {conn}, .done conn false ∈ h'.log → .done conn false ∈ h.log)
    (hw : ∀ op ∈ h.writing, op ∈ h'.writing) (hm : ∀ conn ∈ h'.members, conn ∈ h.members) :
    h'.NoStale := by
  intro conn hd hidle hmem
  exact hns conn (hdone hd) (fun op hop => hidle op (hw op hop)) (hm conn hmem)

theorem members_delete_subset {conn' : Nat} (hm : conn' ∈ (h.delete conn key).members) :
    conn' ∈ h.members := by
  obtain ⟨key', c, -, ha, hs⟩ := mem_members_delete.mp hm
  exact mem_members.mpr ⟨key', c, ha, hs⟩

/-- What is erased at its own address is not active any more. -/
theorem notMem_members_delete (ho : ∀ {key'}, h.Holds key' conn → key' = key) :
    conn ∉ (h.delete conn key).members := by
  intro hm
  obtain ⟨key', c, hne, ha, hs⟩ := mem_members_delete.mp hm
  exact hne (ho ⟨c, .active ha, hs⟩)

theorem NoStale.activateNext (hi : h.Inv) (hd : h.DoneHistory) (hns : h.NoStale) :
    (h.activateNext key tag).NoStale := by
  intro conn hdone hidle hmem
  rw [done_activateNext] at hdone
  rw [activateNext_writing] at hidle
  obtain ⟨key', c, ha | hn, rfl⟩ := hi.mem_members_activateNext.mp hmem
  · exact hns _ hdone hidle (mem_members.mpr ⟨key', c, ha, rfl⟩)
  · exact hd.notNext hn hdone

/-- A write that succeeds leaves its connection behind when the done tag was
handled before. -/
theorem noStale_complete (hi : h.Inv) (hns : h.NoStale) (hop : op ∈ h.writing) :
    (h.complete op callOk).NoStale ↔ .done op.conn false ∉ h.log := by
  have hopq := (mem_writing.mp hop).1
  refine ⟨?_, ?_⟩
  · intro hns' hdone
    refine hns' op.conn (by simpa using hdone) ?_ ?_
    · intro o ho heq
      obtain ⟨ho, hne⟩ := (hi.mem_settle_writing hopq).mp ho
      exact hne (Keyed.eq_of_key hi.responder_nodup ho hop heq)
    · obtain ⟨c, ha, hs⟩ := hi.writingHome hop
      exact mem_members.mpr ⟨_, c, ha, hs⟩
  · intro hnd conn hdone hidle hmem
    simp only [complete_log, List.mem_cons, reduceCtorEq, false_or] at hdone
    refine hns conn hdone ?_ hmem
    intro o ho heq
    subst heq
    by_cases heq : o = op
    · exact hnd (heq ▸ hdone)
    · exact hidle o ((hi.mem_settle_writing hopq).mpr ⟨ho, heq⟩) rfl

/-- A write that fails leaves nothing behind. -/
theorem NoStale.fail (hi : h.Inv) (hns : h.NoStale) (hop : op ∈ h.writing) :
    ((h.complete op false).delete op.conn op.data).NoStale := by
  have hopq := (mem_writing.mp hop).1
  intro conn hdone hidle hmem
  simp only [delete_log, complete_log, List.mem_cons, reduceCtorEq, false_or] at hdone
  by_cases heq : conn = op.conn
  · subst heq
    refine notMem_members_delete ?_ hmem
    intro key' ho
    exact hi.holds_inj ho (hi.holds_writing hop)
  · have hmem' : conn ∈ (h.complete op false).members := members_delete_subset hmem
    refine hns conn hdone ?_ hmem'
    intro o ho heq
    subst heq
    refine hidle o ((hi.mem_settle_writing hopq).mpr ⟨ho, ?_⟩) rfl
    intro heq
    subst heq
    exact heq rfl

theorem mem_writing_notified (hi : h.Inv) (hop : op ∈ h.awaited) {o : Operation Response Status}
    (ho : o ∈ h.writing) : o ∈ (h.notified op).writing := by
  refine (hi.mem_settle_writing (mem_awaited.mp hop).1).mpr ⟨ho, ?_⟩
  intro heq
  subst heq
  have hl := (mem_writing.mp ho).2
  rw [(mem_awaited.mp hop).2] at hl
  cases hl

/-- A done tag is left to a write of its own connection only. -/
theorem NoStale.defer (hi : h.Inv) (hns : h.NoStale) (hop : op ∈ h.awaited)
    (hp : op.data ∈ h.connections.processing) : (h.notified op).NoStale := by
  intro conn hdone hidle hmem
  have hidle' : ∀ o ∈ h.writing, o.conn ≠ conn := fun o ho =>
    hidle o (mem_writing_notified hi hop ho)
  rcases List.mem_cons.mp hdone with heq | hdone
  · obtain ⟨rfl, -⟩ := Event.done.inj heq
    obtain ⟨key, ho⟩ := mem_members_holds hmem
    obtain rfl := hi.holds_awaited hop ho
    obtain ⟨o, how, hdata⟩ := hi.processingMem.mp hp
    have hown := hi.holds_writing how
    rw [hdata] at hown
    exact hidle' o how (hi.holds_key hown ho)
  · exact hns conn hdone hidle' hmem

theorem NoStale.finishDone (hi : h.Inv) (hns : h.NoStale) (hop : op ∈ h.awaited) :
    ((h.notified op).delete op.conn op.data).NoStale := by
  intro conn hdone hidle hmem
  simp only [delete_log, List.mem_cons, reduceCtorEq, false_or] at hdone
  rcases List.mem_cons.mp hdone with heq | hdone
  · obtain ⟨rfl, -⟩ := Event.done.inj heq
    refine notMem_members_delete ?_ hmem
    intro key' ho
    exact hi.holds_awaited hop ho
  · have hmem' : conn ∈ (h.notified op).members := members_delete_subset hmem
    exact hns conn hdone (fun o ho => hidle o (mem_writing_notified hi hop ho)) hmem'

theorem noStale_step (hi : h.Inv) (hd : h.DoneHistory) (hns : h.NoStale) (hs : Step h a h') :
    h'.NoStale ↔ StaleGuard h a := by
  cases hs with
  | onConnect => exact iff_of_true hns trivial
  | onDelete => exact iff_of_true hns trivial
  | accept _ => exact iff_of_true hns trivial
  | activateNext _ _ _ => exact iff_of_true (hns.activateNext hi hd) trivial
  | write _ _ =>
      refine iff_of_true (hns.congr ?_ ?_ ?_) trivial
      · simp [StreamRpcHandler.write]
      · intro op hop
        rw [StreamRpcHandler.write, send_writing rfl]
        exact List.mem_append_left _ hop
      · simp [StreamRpcHandler.write]
  | finish _ _ =>
      refine iff_of_true (hns.congr ?_ ?_ ?_) trivial
      · simp [StreamRpcHandler.finish]
      · intro op hop
        rw [StreamRpcHandler.finish, send_writing rfl]
        exact List.mem_append_left _ hop
      · simp [StreamRpcHandler.finish]
  | @deliver op callOk s hdel hrun =>
      obtain ⟨-, ⟨hop, heq⟩ | ⟨hop, heq⟩⟩ := (Step.deliver hdel hrun).deliver_cases hi
      · rw [heq]
        have hk := mem_writing_kind hop
        cases callOk with
        | true => simpa [StaleGuard, hk] using noStale_complete hi hns hop
        | false => exact iff_of_true (hns.fail hi hop) trivial
      · rw [heq]
        have hk := mem_awaited_kind hop
        have hguard : StaleGuard h (.deliver op callOk) := by
          cases callOk with
          | true => exact fun hne => absurd hk hne
          | false => trivial
        refine iff_of_true ?_ hguard
        split
        · rename_i hp
          exact hns.defer hi hop hp
        · exact hns.finishDone hi hop

/-! ## Every run -/

variable {tr : List (StreamRpcHandler Request Response Status × Action Request Response Status)}

/-- A run leaves no connection behind, exactly when no write or finish of it
succeeds after the done tag of its connection. -/
theorem noStale_iff (run : HandlerRun tr h) :
    (∀ s ∈ visited tr h, NoStale s) ↔ ∀ p ∈ tr, StaleGuard p.1 p.2 := by
  refine run.always_iff (P := NoStale) ?_ ?_
  · intro conn hm
    cases hm
  · intro s a s' hr hns hs
    exact noStale_step (HandlerReachable.inv hr) (HandlerReachable.doneHistory hr) hns hs

/-- A client is finished; the tags of the operation and of the call come back. -/
def finished (order : List (Operation Nat Nat × Bool)) : List (Action Nat Nat Nat) :=
  [.activateNext 1 101, .accept 7, .activateNext 2 102, .finish 0 (.one 1 103)] ++
    order.map fun p => .deliver p.1 p.2

/-- The done tag is handled while the finish is at gRPC, which then succeeds. -/
def finishLast : List (Operation Nat Nat × Bool) :=
  [(⟨101, 1, 0, .notifyWhenDone⟩, true), (⟨103, 1, 0, .finish 0⟩, true)]

theorem not_noStale :
    ¬ ∀ (tr : List (StreamRpcHandler Nat Nat Nat × Action Nat Nat Nat))
      (h : StreamRpcHandler Nat Nat Nat), HandlerRun tr h → ∀ s ∈ visited tr h, NoStale s := by
  intro hall
  have hstale := hall _ _ (served_run (finished finishLast)) _ List.mem_cons_self 0
  exact hstale (by decide) (by decide) (by decide)

/-- With the two tags in the other order the done tag erases the connection. -/
theorem noStale_iff_finishFirst : NoStale (served (finished finishLast.reverse)).2 :=
  (noStale_iff (served_run (finished finishLast.reverse))).mpr (by decide) _ List.mem_cons_self

end StreamRpcHandler

end Grpcw.Server
