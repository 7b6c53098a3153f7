import GrpcWrapper.Library.SoleCaller
import GrpcWrapper.Server.StreamDrain
import GrpcWrapper.Server.StreamWakeup

/-!
# One writer

A program that writes on a stream from one thread only loses no wake-up, as a
section that drops one leaves nobody parked.  So `write` and `finish` return
there as long as gRPC gives back what it holds, for any client, and whatever
clients come and go meanwhile (`sole_writer_returns`).  The worker of the monitor
is the thread of `run_synchronization`, and its work is what gRPC holds.
-/

namespace Grpcw.Server

open Transition

variable {Request Response Status : Type} {ι : Type*}

namespace StreamRpcHandler

open Monitor (CalledBy HelpsCall Returned Worker callToGo setback)

variable {h h' : StreamRpcHandler Request Response Status} {t : Thread ι} {notify : Bool}

/-! ## New tags -/

/-- The allocator never runs out of addresses. -/
theorem exists_freshTag (h : StreamRpcHandler Request Response Status) :
    ∃ n : Addr, ∀ tag, n ≤ tag → h.FreshTag tag :=
  Map.exists_forall_notMem h.connections.tags

theorem exists_admits (h : StreamRpcHandler Request Response Status) (client : ClientID) :
    ∃ recipients : Recipients, recipients.client = client ∧ h.Admits recipients := by
  obtain ⟨n, hn⟩ := h.exists_freshTag
  cases client with
  | some client => exact ⟨.one client n, rfl, hn n (Nat.le_refl n)⟩
  | none =>
      have hlen : h.connections.active.keys.length =
          (List.range' n h.connections.active.keys.length).length := List.length_range'.symm
      refine ⟨.all (h.connections.active.keys.zip
        (List.range' n h.connections.active.keys.length)), rfl, ?_, ?_, ?_⟩
      · rw [List.map_fst_zip hlen.le]
      · rw [List.map_snd_zip hlen.ge]
        exact List.nodup_range'
      · intro p hp
        exact hn _ (List.mem_range'_1.mp (List.of_mem_zip hp).2).1

/-! ## The worker -/

theorem Section.queue_grows (hs : Section t h h' notify) (ht : t ≠ .sync) :
    h'.queue.length ≤ h.queue.length + 1 ∧ notify = false := by
  cases hs with
  | onConnect | onDelete => exact ⟨Nat.le_succ _, rfl⟩
  | accept hs =>
      cases hs with
      | accept _ => exact ⟨Nat.le_succ _, rfl⟩
  | register _ hs | activateNext hs =>
      cases hs with
      | activateNext _ _ _ =>
          refine ⟨?_, rfl⟩
          show (h.moveNext.queue ++ [_]).length ≤ _
          rw [List.length_append, moveNext_queue]
          exact Nat.le_refl _
  | deliver _ _ => exact absurd rfl ht

/-- What `processing` waits for can be given back. -/
theorem exists_deliver_writing (hr : h.HandlerReachable) (hp : h.connections.processing ≠ ∅) :
    ∃ h' op callOk, Step h (.deliver op callOk) h' := by
  have hi := HandlerReachable.inv hr
  obtain ⟨op, hop⟩ := List.exists_mem_of_ne_nil _ fun hw => hp (hi.writing_eq_nil.mpr hw)
  have hdel : h.Deliverable op := by
    refine ⟨(mem_writing.mp hop).1, fun hkind => ?_⟩
    exact absurd hkind (mem_writing_kind hop)
  obtain ⟨h', hs, -⟩ := exists_deliver hr hdel true
  exact ⟨h', op, true, hs⟩

theorem handlerMonitor_worker :
    Worker (handlerMonitor ι Request Response Status) Thread.sync (fun h => h.queue.length)
      HandlerReachable where
  body := by
    rintro c h h' notify hr hp ⟨recipients, -, hadm, rfl, -⟩
    cases c with
    | write update client => exact hr.tail (.write hp hadm)
    | finish status client => exact hr.tail (.finish hp hadm)
  other := by
    intro t h h' notify hr hs
    obtain ⟨a, hs⟩ := Section.step hs
    exact hr.tail hs
  notifies := Section.notifies
  quiet hs ht := (Section.queue_grows hs ht).2
  lower := by
    intro h h' notify hr hs
    cases hs with
    | deliver hdel hrun =>
        exact (Step.deliver hdel hrun).deliver_lower (HandlerReachable.inv hr)
  grows hs ht := (Section.queue_grows hs ht).1
  live := by
    intro h hr hp
    obtain ⟨h', op, callOk, hs⟩ := exists_deliver_writing hr hp
    cases hs with
    | @deliver _ _ s hdel hrun => exact ⟨s.handler, s.allStreamsProcessed, .deliver hdel hrun⟩
  passes := by
    intro h c _ _
    obtain ⟨recipients, hclient, hadm⟩ := h.exists_admits c.client
    exact ⟨_, _, recipients, hclient, hadm, rfl, rfl⟩

/-! ## The writer -/

variable [DecidableEq ι]
  {cfg : Monitor.Config (Thread ι) (Call Response Status)
    (StreamRpcHandler Request Response Status)} {i : ι}

/-- A call of `write` or `finish` by the only thread that makes any returns. -/
theorem sole_writer_returns
    (hr : Reachable (Restrict (handlerMonitor ι Request Response Status).Step
      (CalledBy (.user i))) (.start initial) cfg)
    (hcall : (cfg.phase (.user i)).InCall) :
    Advances (Restrict (handlerMonitor ι Request Response Status).Step (CalledBy (.user i)))
      (HelpsCall (.user i) .sync) (fun _ l => setback .sync l) (Returned (.user i))
      (callToGo (.user i) .sync (fun h => h.queue.length) cfg) cfg :=
  handlerMonitor_worker.sole_caller_returns (by intro h; cases h) .refl hr hcall

/-- The writer's second broadcast waits for its first. -/
theorem sole_writer_returns_waiting : ∃ cfg : Monitor.Config (Thread Unit) (Call Nat Nat)
      (StreamRpcHandler Nat Nat Nat),
    cfg.phase (.user ()) = .parked (.write 6 none) ∧
      Advances (Restrict (handlerMonitor Unit Nat Nat Nat).Step (CalledBy (.user ())))
        (HelpsCall (.user ()) .sync) (fun _ l => setback .sync l) (Returned (.user ())) 10 cfg := by
  have at₁ : perform (.activateNext 1 101) initial = some (served (parkedWriters.take 1)).2 := rfl
  have at₂ : perform (.accept 7) (served (parkedWriters.take 1)).2 =
      some (served (parkedWriters.take 2)).2 := rfl
  have at₃ : perform (.activateNext 2 102) (served (parkedWriters.take 2)).2 =
      some (served (parkedWriters.take 3)).2 := rfl
  have r : Reachable (Restrict (handlerMonitor Unit Nat Nat Nat).Step (CalledBy (.user ())))
      (.start StreamRpcHandler.initial) (.start StreamRpcHandler.initial) := .refl
  have r := r.tail ⟨other_step (t := .user ()) rfl (.register rfl (step_iff_perform.mpr at₁)),
    trivial⟩
  have r := r.tail ⟨other_step (t := .grpc) rfl (.accept (step_iff_perform.mpr at₂)), trivial⟩
  have r := r.tail ⟨other_step (t := .run) rfl (.activateNext (step_iff_perform.mpr at₃)), trivial⟩
  have r := r.tail ⟨call_step (i := ()) (c := .write 5 none) rfl, rfl⟩
  have r := r.tail ⟨pass_step (t := .user ()) (c := .write 5 none) (x := .all [(1, 103)])
    (Or.inl rfl) rfl rfl (by decide), trivial⟩
  have r := r.tail ⟨call_step (i := ()) (c := .write 6 none) rfl, rfl⟩
  have r := r.tail ⟨park_step (t := .user ()) (Or.inl rfl) (by decide), trivial⟩
  exact ⟨_, rfl, sole_writer_returns r ⟨_, Or.inr rfl⟩⟩

end StreamRpcHandler

end Grpcw.Server
