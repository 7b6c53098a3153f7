import GrpcWrapper.Server.StreamCalls

/-!
# Nothing after finish

gRPC forbids a write or a second finish on a call that was finished.  The
handler keeps a finished connection in `active` until its done tag is handled,
so between the tag of the finish and the done tag a broadcast, or a call with
that client, reaches it again.

`NothingAfterFinish` says that this does not happen.  A run keeps it exactly
when no call addresses a connection whose finish has come back with `call_ok`
true (`nothingAfterFinish_iff`): before the tag of the finish the barrier on
`processing` holds every call back, and a finish that fails erases its
connection.
-/

namespace Grpcw.Server

open Transition

variable {Request Response Status : Type}

def OpKind.isFinish : OpKind Response Status → Bool
  | .finish _ => true
  | _ => false

/-- The connection whose finish came back with `call_ok` true. -/
def Event.finished : Event Request Response Status → Option Nat
  | .complete conn (.finish _) true => some conn
  | _ => none

namespace StreamRpcHandler

/-! ## The property -/

/-- A call issues at most one operation on a connection, and none on one that
was issued a finish before. -/
def Unfinished : Event Request Response Status → List (Event Request Response Status) → Prop
  | .call record, past =>
      (record.issues.map Prod.fst).Nodup ∧
        ∀ conn ∈ record.issues.map Prod.fst, ∀ kind ∈ issued conn past, kind.isFinish = false
  | _, _ => True

/-- No operation was issued on a connection after a finish. -/
def NothingAfterFinish (log : List (Event Request Response Status)) : Prop :=
  Historically Unfinished log

/-- No connection that these recipients are has had a successful finish. -/
def AddressesOpen (h : StreamRpcHandler Request Response Status) (recipients : Recipients) : Prop :=
  ∀ x ∈ targets h.connections recipients, ∀ e ∈ h.log, e.finished ≠ some x.connection.serial

/-- No call addresses a connection that is still active after a successful
finish. -/
def FinishGuard (h : StreamRpcHandler Request Response Status) :
    Action Request Response Status → Prop
  | .write _ recipients => AddressesOpen h recipients
  | .finish _ recipients => AddressesOpen h recipients
  | _ => True

instance : ∀ (e : Event Request Response Status) (past : List (Event Request Response Status)),
    Decidable (Unfinished e past)
  | .call record, past =>
      inferInstanceAs (Decidable ((record.issues.map Prod.fst).Nodup ∧
        ∀ conn ∈ record.issues.map Prod.fst, ∀ kind ∈ issued conn past, kind.isFinish = false))
  | .connect .., _ | .activate _, _ | .complete .., _ | .done .., _ | .delete .., _ =>
      .isTrue trivial

instance {log : List (Event Request Response Status)} : Decidable (NothingAfterFinish log) :=
  inferInstanceAs (Decidable (Historically Unfinished log))

instance {h : StreamRpcHandler Request Response Status} {recipients : Recipients} :
    Decidable (AddressesOpen h recipients) :=
  inferInstanceAs (Decidable (∀ x ∈ targets h.connections recipients,
    ∀ e ∈ h.log, e.finished ≠ some x.connection.serial))

instance {h : StreamRpcHandler Request Response Status} : ∀ a, Decidable (FinishGuard h a)
  | .write _ recipients => inferInstanceAs (Decidable (AddressesOpen h recipients))
  | .finish _ recipients => inferInstanceAs (Decidable (AddressesOpen h recipients))
  | .onConnect | .onDelete | .accept _ | .activateNext .. | .deliver .. => .isTrue trivial

variable {h h' : StreamRpcHandler Request Response Status} {op : Operation Response Status}
  {a : Action Request Response Status} {conn : Nat} {key tag : Addr} {callOk : Bool}
  {kind : OpKind Response Status} {recipients : Recipients}
  {e : Event Request Response Status} {log : List (Event Request Response Status)}

theorem finished_eq_some (heq : e.finished = some conn) :
    ∃ status, e = .complete conn (.finish status) true := by
  unfold Event.finished at heq
  split at heq
  · cases heq
    exact ⟨_, rfl⟩
  · cases heq

@[simp] theorem nothingAfterFinish_cons :
    NothingAfterFinish (e :: log) ↔ Unfinished e log ∧ NothingAfterFinish log := Iff.rfl

/-! ## Failed operations -/

/-- A connection with a failed operation is not held. -/
def FailedErased (h : StreamRpcHandler Request Response Status) : Prop :=
  ∀ conn kind, .complete conn kind false ∈ h.log →
    conn < h.allocated ∧ ∀ key, ¬ h.Holds key conn

theorem complete_activateNext :
    .complete conn kind callOk ∈ (h.activateNext key tag).log ↔
      .complete conn kind callOk ∈ h.log := by
  rw [activateNext_log]
  split
  · rfl
  · split <;> simp

theorem FailedErased.congr (hf : h.FailedErased) (hal : h.allocated ≤ h'.allocated)
    (hlog : ∀ {conn kind}, .complete conn kind false ∈ h'.log → .complete conn kind false ∈ h.log)
    (hheld : ∀ {key conn}, conn < h.allocated → h'.Holds key conn → h.Holds key conn) :
    h'.FailedErased := by
  intro conn kind hm
  obtain ⟨hlt, hno⟩ := hf conn kind (hlog hm)
  exact ⟨Nat.lt_of_lt_of_le hlt hal, fun key ho => hno key (hheld hlt ho)⟩

theorem FailedErased.fail (hi : h.Inv) (hf : h.FailedErased) (hop : op ∈ h.writing) :
    ((h.complete op false).delete op.conn op.data).FailedErased := by
  intro conn kind hm
  simp only [delete_log, complete_log, List.mem_cons, reduceCtorEq, Event.complete.injEq,
    false_or, and_true] at hm
  rcases hm with ⟨rfl, -⟩ | hm
  · refine ⟨hi.opSerial (mem_writing.mp hop).1, ?_⟩
    intro key ho
    have hold : h.Holds key op.conn := holds_complete.mp (holds_delete ho)
    obtain rfl := hi.holds_inj hold (hi.holds_writing hop)
    -- it was active at its address, so nothing is left there
    obtain ⟨c, hn, -⟩ := next_of_holds_delete ho
    obtain ⟨c', ha, -⟩ := hi.writingHome hop
    exact hi.nextKey hn (Map.mem_of_lookup ha)
  · obtain ⟨hlt, hno⟩ := hf conn kind hm
    exact ⟨hlt, fun key ho => hno key (holds_complete.mp (holds_delete ho))⟩

theorem FailedErased.step (hi : h.Inv) (hf : h.FailedErased) (hs : Step h a h') :
    h'.FailedErased := by
  cases hs with
  | onConnect => exact hf
  | onDelete => exact hf
  | accept _ => exact hf.congr (Nat.le_refl _) id fun _ => holds_accept.mp
  | activateNext _ _ _ =>
      refine hf.congr ?_ complete_activateNext.mp ?_
      · rw [activateNext_allocated]
        exact Nat.le_succ _
      · intro key conn hlt ho
        rcases hi.holds_activateNext.mp ho with ho | ⟨-, rfl⟩
        · exact ho
        · exact absurd hlt (Nat.lt_irrefl _)
  | write _ _ =>
      refine hf.congr ?_ ?_ fun _ => (holds_send h _ _).mp
      all_goals simp [StreamRpcHandler.write]
  | finish _ _ =>
      refine hf.congr ?_ ?_ fun _ => (holds_send h _ _).mp
      all_goals simp [StreamRpcHandler.finish]
  | @deliver op callOk s hdel hrun =>
      obtain ⟨-, ⟨hop, heq⟩ | ⟨hop, heq⟩⟩ := (Step.deliver hdel hrun).deliver_cases hi
      · rw [heq]
        cases callOk with
        | true => exact hf.congr (Nat.le_refl _) (by simp) fun _ => holds_complete.mp
        | false => exact hf.fail hi hop
      · rw [heq]
        split
        · exact hf.congr (Nat.le_refl _) (by simp) fun _ => holds_notified.mp
        · exact hf.congr (Nat.le_refl _) (by simp) fun _ ho => holds_notified.mp (holds_delete ho)

theorem HandlerReachable.failedErased (hr : h.HandlerReachable) : h.FailedErased := by
  refine hr.invariant ?_ fun hr hf hs => hf.step (HandlerReachable.inv hr) hs
  intro conn kind hm
  cases hm

/-! ## One step -/

/-- What an addressed connection was issued has come back, and it has come back
well, or the connection would not be there. -/
theorem unfinished_target (hi : h.Inv) (hb : h.Balanced) (hf : h.FailedErased)
    (hp : h.connections.processing = ∅) {x : Target Request}
    (hx : x ∈ targets h.connections recipients) :
    (∀ kind ∈ issued x.connection.serial h.log, kind.isFinish = false) ↔
      ∀ e ∈ h.log, e.finished ≠ some x.connection.serial := by
  rw [hb.barrier (hi.writing_eq_nil.mp hp)]
  refine ⟨?_, ?_⟩
  · intro hall e he heq
    obtain ⟨status, rfl⟩ := finished_eq_some heq
    cases hall _ (mem_completed.mpr ⟨true, he⟩)
  · intro hall kind hk
    obtain ⟨ok, hm⟩ := mem_completed.mp hk
    cases ok with
    | false => exact absurd ⟨_, .active (lookup_of_mem_targets hx), rfl⟩ ((hf _ _ hm).2 x.key)
    | true =>
        cases kind with
        | finish status => exact absurd rfl (hall _ hm)
        | notifyWhenDone | write _ => rfl

theorem unfinished_send (hi : h.Inv) (hb : h.Balanced) (hf : h.FailedErased)
    (hp : h.connections.processing = ∅) (hadm : h.Admits recipients) :
    Unfinished (.call (h.callRecord kind recipients)) h.log ↔ AddressesOpen h recipients := by
  have hconns : (h.callRecord kind recipients).issues.map Prod.fst =
      (targets h.connections recipients).map fun x => x.connection.serial := by
    rw [callRecord, List.map_map]
    rfl
  simp only [Unfinished, hconns, hi.targets_nodup hadm, true_and, List.forall_mem_map,
    AddressesOpen]
  exact forall₂_congr fun x hx => unfinished_target hi hb hf hp hx

/-- When nothing was issued after a finish so far, the guard decides about the
next step. -/
theorem nothingAfterFinish_step (hi : h.Inv) (hb : h.Balanced) (hf : h.FailedErased)
    (hok : NothingAfterFinish h.log) (hs : Step h a h') :
    NothingAfterFinish h'.log ↔ FinishGuard h a := by
  cases hs with
  | onConnect => exact iff_of_true hok trivial
  | onDelete => exact iff_of_true hok trivial
  | accept _ => exact iff_of_true hok trivial
  | activateNext _ _ _ =>
      refine iff_of_true ?_ trivial
      rw [activateNext_log]
      split
      · exact hok
      · split <;> simpa [Unfinished] using hok
  | write hp hadm =>
      rw [StreamRpcHandler.write, send_log, nothingAfterFinish_cons,
        unfinished_send hi hb hf hp hadm]
      exact and_iff_left hok
  | finish hp hadm =>
      rw [StreamRpcHandler.finish, send_log, nothingAfterFinish_cons,
        unfinished_send hi hb hf hp hadm]
      exact and_iff_left hok
  | deliver hdel hrun =>
      refine iff_of_true ?_ trivial
      obtain ⟨-, ⟨-, heq⟩ | ⟨-, heq⟩⟩ := (Step.deliver hdel hrun).deliver_cases hi
      · rw [heq]
        split <;> simpa [Unfinished] using hok
      · rw [heq]
        split <;> simpa [Unfinished] using hok

/-! ## Every run -/

variable {tr : List (StreamRpcHandler Request Response Status × Action Request Response Status)}

/-- A run issues nothing on a finished connection, exactly when none of its
calls addresses a connection after its finish has come back with `call_ok`
true. -/
theorem nothingAfterFinish_iff (run : HandlerRun tr h) :
    (∀ s ∈ visited tr h, NothingAfterFinish s.log) ↔ ∀ p ∈ tr, FinishGuard p.1 p.2 := by
  refine run.always_iff (P := fun s => NothingAfterFinish s.log) ?_ ?_
  · exact historically_nil _
  · intro s a s' hr hok hs
    exact nothingAfterFinish_step (HandlerReachable.inv hr) (HandlerReachable.balanced hr)
      (HandlerReachable.failedErased hr) hok hs

/-- One of two clients is finished, and the server goes on broadcasting. -/
def finishOne (rest : List (Action Nat Nat Nat)) : List (Action Nat Nat Nat) :=
  [.activateNext 1 101, .accept 7, .activateNext 2 102, .accept 8, .activateNext 3 103,
    .finish 0 (.one 1 104), .deliver ⟨104, 1, 0, .finish 0⟩ true] ++ rest

theorem not_nothingAfterFinish :
    ¬ ∀ (tr : List (StreamRpcHandler Nat Nat Nat × Action Nat Nat Nat))
      (h : StreamRpcHandler Nat Nat Nat), HandlerRun tr h →
        ∀ s ∈ visited tr h, NothingAfterFinish s.log := by
  intro hall
  have hrun := served_run (finishOne [.write 5 (.all [(1, 105), (2, 106)])])
  exact absurd (hall _ _ hrun _ List.mem_cons_self) (by decide)

/-- After the done tag of the finished client the broadcast goes to the other
one. -/
def broadcastAfterDone : List (Action Nat Nat Nat) :=
  finishOne [.deliver ⟨101, 1, 0, .notifyWhenDone⟩ true, .write 5 (.all [(2, 106)])]

theorem nothingAfterFinish_iff_done : NothingAfterFinish (served broadcastAfterDone).2.log :=
  (nothingAfterFinish_iff (served_run broadcastAfterDone)).mpr (by decide) _ List.mem_cons_self

end StreamRpcHandler

end Grpcw.Server
