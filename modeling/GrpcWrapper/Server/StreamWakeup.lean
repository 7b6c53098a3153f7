import GrpcWrapper.Library.Monitor
import GrpcWrapper.Server.StreamInvariant
import Mathlib.Data.Finset.Lattice.Lemmas

/-!
# Wake-ups of the writers

The handler with its threads: `connections_` is a monitor whose calls are those
of `write` and `finish`, which wait until `processing` is empty.  A call that
issues nothing has to pass on the wake-up that let it in.  It does so when
`active` is empty, and not when its client is the one that is not active, so
such a call drops the wake-up (`handlerMonitor_drops`).

The data of the monitor takes the steps of the handler (`handler_of_threads`),
so what holds of every reachable handler holds here.
-/

namespace Grpcw.Server

open Transition

variable {Request Response Status : Type} {ι : Type*}

namespace StreamRpcHandler

/-! ## Threads -/

inductive Thread (ι : Type*) where
  /-- gRPC, which fills in the request of `next`. -/
  | grpc
  /-- The run thread of the server. -/
  | run
  /-- `sync_thread_` -/
  | sync
  /-- A thread of the user. -/
  | user (i : ι)
deriving DecidableEq

/-- A call of `write` or `finish`. -/
inductive Call (Response Status : Type) where
  | write (update : Response) (client : ClientID)
  | finish (status : Status) (client : ClientID)

def Call.client : Call Response Status → ClientID
  | .write _ client => client
  | .finish _ client => client

/-- The section of a call, for some order of iteration and some addresses of
the new tags. -/
def Call.body (c : Call Response Status)
    (h : StreamRpcHandler Request Response Status) (recipients : Recipients) :
    Sent Request Response Status :=
  match c with
  | .write update _ => h.write update recipients
  | .finish status _ => h.finish status recipients

/-- The sections of a thread that do not wait. -/
inductive Section : Thread ι → StreamRpcHandler Request Response Status →
    StreamRpcHandler Request Response Status → Bool → Prop where
  | onConnect {i : ι} {h : StreamRpcHandler Request Response Status} :
      Section (.user i) h h.onConnect false
  | onDelete {i : ι} {h : StreamRpcHandler Request Response Status} :
      Section (.user i) h h.onDelete false
  /-- `register_async_stream` activates a new handler. -/
  | register {i : ι} {h h' : StreamRpcHandler Request Response Status} {key tag : Addr} :
      h.connections.next = none → Step h (.activateNext key tag) h' →
      Section (.user i) h h' false
  | accept {h h' : StreamRpcHandler Request Response Status} {request : Request} :
      Step h (.accept request) h' → Section .grpc h h' false
  | activateNext {h h' : StreamRpcHandler Request Response Status} {key tag : Addr} :
      Step h (.activateNext key tag) h' → Section .run h h' false
  /-- A round of `run_synchronization`. -/
  | deliver {h : StreamRpcHandler Request Response Status} {op : Operation Response Status}
      {callOk : Bool} {s : Synchronized Request Response Status} :
      h.Deliverable op → h.runSynchronization op callOk = some s →
      Section .sync h s.handler s.allStreamsProcessed

/-- `connections_` with the threads that use it. -/
def handlerMonitor (ι : Type*) (Request Response Status : Type) :
    Monitor (Thread ι) (Call Response Status) (StreamRpcHandler Request Response Status) where
  ready h := h.connections.processing = ∅
  calls t _ := ∃ i, t = .user i
  body c h h' notify := ∃ recipients, recipients.client = c.client ∧ h.Admits recipients ∧
    h' = (c.body h recipients).handler ∧ notify = (c.body h recipients).notify
  other := Section

/-- The call names a client that is not active while others are. -/
def Departed (c : Call Response Status) (h : StreamRpcHandler Request Response Status) : Prop :=
  h.connections.active.entries ≠ [] ∧ ∃ client, c.client = some client ∧
    client ∉ h.connections.active

variable {h h' : StreamRpcHandler Request Response Status} {kind : OpKind Response Status}
  {recipients : Recipients} {notify : Bool} {t : Thread ι}

/-! ## Dropped wake-ups -/

/-- A section that waits issues nothing exactly when it is for one client, who is
not active, or for all of none. -/
theorem targets_eq_nil (hadm : h.Admits recipients) :
    targets h.connections recipients = [] ↔
      h.connections.active.entries = [] ∨
        ∃ client, recipients.client = some client ∧ client ∉ h.connections.active := by
  cases recipients with
  | one client tag =>
      have hlookup : targets h.connections (.one client tag) = [] ↔
          client ∉ h.connections.active := by
        rw [← AList.lookup_eq_none]
        cases ha : h.connections.active.lookup client <;> simp [targets, ha]
      rw [hlookup]
      refine ⟨?_, ?_⟩
      · intro hc
        exact Or.inr ⟨client, rfl, hc⟩
      · rintro (hnil | ⟨client', heq, hc⟩)
        · intro hm
          obtain ⟨c, ha⟩ := Map.mem_iff_lookup.mp hm
          have hmem := AList.mem_lookup_iff.mp ha
          rw [hnil] at hmem
          cases hmem
        · cases heq
          exact hc
  | all order =>
      have hmem : ∀ p ∈ order, p.1 ∈ h.connections.active := fun p hp =>
        AList.mem_keys.mpr (hadm.1.mem_iff.mp (List.mem_map_of_mem hp))
      have hkeys : h.connections.active.keys = [] ↔ h.connections.active.entries = [] :=
        List.map_eq_nil_iff
      rw [← List.map_eq_nil_iff (f := Target.key), (targets_all hmem).1, ← hkeys]
      refine ⟨?_, ?_⟩
      · intro hnil
        exact Or.inl (List.perm_nil.mp (hnil ▸ hadm.1).symm)
      · rintro (hnil | ⟨client, heq, -⟩)
        · have hperm := hadm.1
          rw [hnil] at hperm
          exact List.perm_nil.mp hperm
        · cases heq

/-- A section drops its wake-up exactly when its client has departed. -/
theorem send_drops (hp : h.connections.processing = ∅) (hadm : h.Admits recipients) :
    (h.send kind recipients).handler.connections.processing = ∅ ∧
        (h.send kind recipients).notify = false ↔
      h.connections.active.entries ≠ [] ∧
        ∃ client, recipients.client = some client ∧ client ∉ h.connections.active := by
  have hnotify : (h.send kind recipients).notify = false ↔ h.connections.active.entries ≠ [] := by
    simp [StreamRpcHandler.send]
  rw [hnotify, send_processing, hp, Finset.empty_union, List.toFinset_eq_empty_iff,
    List.map_eq_nil_iff, targets_eq_nil hadm, and_comm, and_congr_right_iff]
  exact fun hne => or_iff_right hne

/-- The flag of a round of `run_synchronization` is set when the round has made
`processing` empty. -/
theorem notifies_deliver {op : Operation Response Status} {callOk : Bool}
    {s : Synchronized Request Response Status} (hrun : h.runSynchronization op callOk = some s)
    (hp : s.handler.connections.processing = ∅) :
    s.allStreamsProcessed = true ∨ h.connections.processing = ∅ := by
  rw [runSynchronization] at hrun
  split at hrun
  · cases hrun
  · split at hrun
    · cases hrun
      refine Or.inl (decide_eq_true ?_)
      cases callOk <;> exact hp
    · cases hrun
      refine Or.inr ?_
      simp only [handleDone] at hp
      split at hp <;> exact hp

/-- No other section makes `processing` empty without notifying. -/
theorem Section.notifies (hs : Section t h h' notify) (hp : h'.connections.processing = ∅) :
    notify = true ∨ h.connections.processing = ∅ := by
  cases hs with
  | deliver _ hrun => exact notifies_deliver hrun hp
  | onConnect => exact Or.inr hp
  | onDelete => exact Or.inr hp
  | accept hs =>
      cases hs with
      | accept _ => exact Or.inr hp
  | register _ hs =>
      cases hs with
      | activateNext _ _ _ => exact Or.inr (moveNext_processing ▸ hp)
  | activateNext hs =>
      cases hs with
      | activateNext _ _ _ => exact Or.inr (moveNext_processing ▸ hp)

theorem handlerMonitor_drops : (handlerMonitor ι Request Response Status).Drops Departed where
  body := by
    rintro c h h' notify ⟨recipients, hclient, hadm, rfl, rfl⟩ hp
    rw [Departed]
    rw [← hclient]
    cases c with
    | write update client => exact send_drops hp hadm
    | finish status client => exact send_drops hp hadm
  other := Section.notifies

/-! ## Every run -/

theorem Section.step (hs : Section t h h' notify) : ∃ a, Step h a h' := by
  cases hs with
  | onConnect => exact ⟨_, .onConnect⟩
  | onDelete => exact ⟨_, .onDelete⟩
  | register _ hs | accept hs | activateNext hs => exact ⟨_, hs⟩
  | deliver hdel hrun => exact ⟨_, .deliver hdel hrun⟩

variable {cfg : Monitor.Config (Thread ι) (Call Response Status)
    (StreamRpcHandler Request Response Status)}
  {tr : List (Monitor.Config (Thread ι) (Call Response Status)
    (StreamRpcHandler Request Response Status) × Monitor.Label (Thread ι) (Call Response Status))}

variable [DecidableEq ι]

theorem call_step {i : ι} {c : Call Response Status} (hidle : cfg.phase (.user i) = .idle) :
    (handlerMonitor ι Request Response Status).Step cfg (.call (.user i) c)
      (cfg.set (.user i) (.entering c)) :=
  .call hidle ⟨i, rfl⟩

theorem pass_step {c : Call Response Status} {x : Recipients} (harr : (cfg.phase t).Arriving c)
    (hp : cfg.data.connections.processing = ∅) (hx : x.client = c.client)
    (hadm : cfg.data.Admits x) :
    (handlerMonitor ι Request Response Status).Step cfg (.enter t)
      (({ cfg with data := (c.body cfg.data x).handler } : Monitor.Config _ _ _).set t
        (.after (c.body cfg.data x).notify)) :=
  .pass harr hp ⟨x, hx, hadm, rfl, rfl⟩

theorem park_step {c : Call Response Status} (harr : (cfg.phase t).Arriving c)
    (hp : cfg.data.connections.processing ≠ ∅) :
    (handlerMonitor ι Request Response Status).Step cfg (.enter t) (cfg.set t (.parked c)) :=
  .park harr hp

theorem other_step (hidle : cfg.phase t = .idle) (hs : Section t cfg.data h' notify) :
    (handlerMonitor ι Request Response Status).Step cfg (.other t)
      (({ cfg with data := h' } : Monitor.Config _ _ _).set t (.after notify)) :=
  .other hidle hs

/-- Whatever the threads do, the handler is one that its sections reach. -/
theorem handler_of_threads
    (hr : Reachable (handlerMonitor ι Request Response Status).Step (.start initial) cfg) :
    cfg.data.HandlerReachable := by
  refine Monitor.reachable_data ?_ Section.step hr
  rintro c h h' notify hp ⟨recipients, -, hadm, rfl, -⟩
  cases c with
  | write update client => exact ⟨_, .write hp hadm⟩
  | finish status client => exact ⟨_, .finish hp hadm⟩

/-- A run of the handler's threads loses no wake-up, exactly when each call for
a departed client leaves another wake-up on its way. -/
theorem wakeup_iff
    (run : Run (handlerMonitor ι Request Response Status).Step (.start initial) tr cfg) :
    (∀ s ∈ visited tr cfg, (handlerMonitor ι Request Response Status).NoLostWakeup s) ↔
      ∀ p ∈ tr, (handlerMonitor ι Request Response Status).LeavesWakeUp Departed p.1 p.2 :=
  Monitor.noLostWakeup_iff handlerMonitor_drops run

/-- The handler's states in the run below. -/
def parkedWriters : List (Action Nat Nat Nat) :=
  [.activateNext 1 101, .accept 7, .activateNext 2 102, .write 5 (.all [(1, 103)]),
    .deliver ⟨103, 1, 0, .write 5⟩ true]

/-- Thread 0 broadcasts to the one client.  Threads 1 and 2 park meanwhile, 1
for a client that has left and 2 for all.  The broadcast comes back and wakes
thread 1, which issues nothing and notifies nobody. -/
theorem parkedWriters_run : ∃ tr cfg,
    Run (handlerMonitor (Fin 3) Nat Nat Nat).Step (.start initial) tr cfg ∧
      cfg.data.connections.processing = ∅ ∧ cfg.phase (.user 2) = .parked (.write 8 none) ∧
      ∀ t, ¬ (cfg.phase t).WakeUp := by
  have at₁ : perform (.activateNext 1 101) initial = some (served (parkedWriters.take 1)).2 := rfl
  have at₂ : perform (.accept 7) (served (parkedWriters.take 1)).2 =
      some (served (parkedWriters.take 2)).2 := rfl
  have at₃ : perform (.activateNext 2 102) (served (parkedWriters.take 2)).2 =
      some (served (parkedWriters.take 3)).2 := rfl
  have back : runSynchronization ⟨103, 1, 0, .write 5⟩ true (served (parkedWriters.take 4)).2 =
      some ⟨(served parkedWriters).2, true⟩ := rfl
  have r : Run (handlerMonitor (Fin 3) Nat Nat Nat).Step (.start StreamRpcHandler.initial) []
      (.start StreamRpcHandler.initial) := .start
  have r := r.step (other_step (t := .user 0) rfl (.register rfl (step_iff_perform.mpr at₁)))
  have r := r.step (other_step (t := .grpc) rfl (.accept (step_iff_perform.mpr at₂)))
  have r := r.step (other_step (t := .run) rfl (.activateNext (step_iff_perform.mpr at₃)))
  have r := r.step (call_step (i := 0) (c := .write 5 none) rfl)
  have r := r.step (pass_step (t := .user 0) (c := .write 5 none) (x := .all [(1, 103)])
    (Or.inl rfl) rfl rfl (by decide))
  have r := r.step (call_step (i := 1) (c := .write 6 (some 9)) rfl)
  have r := r.step (park_step (t := .user 1) (Or.inl rfl) (by decide))
  have r := r.step (call_step (i := 2) (c := .write 8 none) rfl)
  have r := r.step (park_step (t := .user 2) (Or.inl rfl) (by decide))
  have r := r.step (other_step (t := .sync) rfl (.deliver (by decide) back))
  have r := r.step (.wake (t := Thread.sync) (u := Thread.user 1) rfl rfl)
  have r := r.step (pass_step (t := .user 1) (c := .write 6 (some 9)) (x := .one 9 104)
    (Or.inr rfl) rfl rfl (by decide))
  refine ⟨_, _, r, rfl, rfl, ?_⟩
  rintro (_ | _ | _ | i)
  · rintro (heq | ⟨c, heq⟩) <;> cases heq
  · rintro (heq | ⟨c, heq⟩) <;> cases heq
  · rintro (heq | ⟨c, heq⟩) <;> cases heq
  · match i with
    | 0 | 1 | 2 => rintro (heq | ⟨c, heq⟩) <;> cases heq

theorem not_noLostWakeup :
    ¬ ∀ tr cfg, Run (handlerMonitor (Fin 3) Nat Nat Nat).Step (.start initial) tr cfg →
      ∀ s ∈ visited tr cfg, (handlerMonitor (Fin 3) Nat Nat Nat).NoLostWakeup s := by
  intro hall
  obtain ⟨tr, cfg, run, hp, hparked, hnone⟩ := parkedWriters_run
  obtain ⟨t, ht⟩ := hall tr cfg run cfg List.mem_cons_self hp ⟨.user 2, _, hparked⟩
  exact hnone t ht

theorem wakeup_iff_parkedWriters : ∃ tr cfg,
    Run (handlerMonitor (Fin 3) Nat Nat Nat).Step (.start initial) tr cfg ∧
      cfg.phase (.user 2) = .parked (.write 8 none) ∧ (∀ t, ¬ (cfg.phase t).WakeUp) ∧
      ∃ p ∈ tr, ¬ (handlerMonitor (Fin 3) Nat Nat Nat).LeavesWakeUp Departed p.1 p.2 := by
  obtain ⟨tr, cfg, run, hp, hparked, hnone⟩ := parkedWriters_run
  refine ⟨tr, cfg, run, hparked, hnone, ?_⟩
  by_contra hleaves
  have hall := (wakeup_iff run).mpr fun p hp => by_contra fun h => hleaves ⟨p, hp, h⟩
  obtain ⟨t, ht⟩ := hall cfg List.mem_cons_self hp ⟨.user 2, _, hparked⟩
  exact hnone t ht

end StreamRpcHandler

end Grpcw.Server
