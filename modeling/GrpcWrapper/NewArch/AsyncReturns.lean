import GrpcWrapper.Library.Progress
import GrpcWrapper.NewArch.AsyncTeardown

/-!
# When the destructor of an asynchronous server returns

The run thread exits when it has popped the null task, which only `start` puts
in, and `server_queue_` was shut down and is empty.  So the destructor of a
server that was not started never returns.  The destructor of one that was
started does when the clients end their calls, as every accept comes back and is
not replaced once the server was shut down (`returns_iff_started`).

Until then it waits in `Shutdown` for the calls, with the lock that the run
thread needs for an event and `finish` needs on every other thread.  So nothing
is handled and nothing is answered there, and the destructor goes on only when
the clients give up those calls that were not answered before
(`shutdown_starves`).
-/

namespace Grpcw.NewArch

open Transition
open Server (Addr)

variable {Request Response Status : Type}

/-- How many steps the destructor is from its end. -/
def OwnerPhase.toGo : OwnerPhase → Nat
  | .using => 0
  | .destroying => 4
  | .shuttingDown => 3
  | .shuttingQueue => 2
  | .joining => 1
  | .destroyed => 0

/-- How many steps the run thread is from `Next`, or from its end, with nothing in the queues. -/
def RunPhase.toGo : RunPhase Request Response Status → Nat
  | .initializing => 3
  | .task _ => 6
  | .waiting => 1
  | .handling op completedSuccessfully =>
      if completedSuccessfully && op.kind.rpc.isSome then 7 else 2
  | .calling _ _ => 2
  | .exited => 0

namespace AsyncServer

/-- Whether the operation is an accept with a call, which is one that queues a handler. -/
def renews (data : Map Addr (UnaryRpcHandler Request)) (op : Operation Response Status) : Bool :=
  op.kind.rpc.isSome && (data.lookup op.data).any fun handler => handler.request.isSome

/-- A bound on the steps that the destructor waits for.  An accept with a call is replaced by
one without, and its writer may still be finished. -/
def toGo (s : AsyncServer Request Response Status) : Nat :=
  s.owner.toGo + s.calls + 4 * s.initializationQueue.length + s.runThread.toGo +
    2 * s.serverQueue.length + 5 * s.serverQueue.countP (renews s.data) + 2 * s.writers.length

/-- What the destructor waits for: its own steps, those of the run thread, and the ends of the
clients' calls. -/
def Action.Closes : Action Request Response Status → Prop
  | .finish _ _ _ _ | .arrive _ _ => False
  | _ => True

/-- What a call that arrives sets the destructor back. -/
def setback : Action Request Response Status → Nat
  | .arrive _ _ => 6
  | _ => 0

/-- The queue was shut down while the run thread had a handler to queue. -/
def Broken (s : AsyncServer Request Response Status) : Prop :=
  s.queueShutdown = true ∧ ¬ s.Quiet

variable {s s' : AsyncServer Request Response Status} {a : Action Request Response Status}
  {op : Operation Response Status} {key tag : Addr} {rpc : Nat}
  {tr : List (AsyncServer Request Response Status × Action Request Response Status)}

/-! ## What the destructor relies on -/

/-- The null task is there until it is popped. -/
def Started (s : AsyncServer Request Response Status) : Prop :=
  s.running = true → s.Serving ∨ none ∈ s.initializationQueue

theorem Started.step (h : s.Started) (hs : Step s a s') : s'.Started := by
  intro hrunning
  cases hs with
  | registerAsync _ _ => exact (h hrunning).imp_right (List.mem_append_left _)
  | start _ => exact Or.inr (List.mem_append_right _ (List.mem_singleton_self _))
  | destroy _ | acquire _ _ | shutdownServer _ | shutdownQueue _ | join _ _ | finish _ _ _ _ _
  | arrive _ _ _ _ | finishCall _ => exact h hrunning
  | pop hrun hqueue =>
      rcases h hrunning with hserving | hmem
      · exact absurd hrun hserving.1
      · rw [hqueue] at hmem
        rcases List.mem_cons.mp hmem with heq | hmem
        · cases heq
        · exact Or.inr hmem
  | construct hrun _ | publish hrun _ | register hrun _ _ _ =>
      rcases h hrunning with hserving | hmem
      · exact absurd hrun (hserving.2 _)
      · exact Or.inr hmem
  | popNull _ _ | next _ _ | newRpc _ _ _ _ _ _ _ | erase _ _ _ _ | ignore _ _ _ _ | returned _
  | exit _ _ _ =>
      refine Or.inl ⟨?_, ?_⟩
      · intro heq
        cases heq
      · intro task heq
        cases heq

theorem AsyncReachable.started (hr : AsyncReachable s) : s.Started := by
  refine hr.invariant ?_ fun _ h hs => h.step hs
  intro hrunning
  cases hrunning

/-- A server that was started, and whose destructor has begun after the pointers were set. -/
structure Closing (s : AsyncServer Request Response Status) : Prop where
  reachable : Reachable (Restrict Step Documented) initial s
  running : s.running = true
  published : s.published = true
  begun : s.owner ≠ .using
  shutdown : s.owner = .shuttingQueue → s.shutdown = true
  joining : s.owner = .joining → s.shutdown = true ∧ s.queueShutdown = true

theorem Closing.sound (h : s.Closing) : s.Sound := AsyncReachable.sound h.reachable.of_restrict

theorem Closing.step (h : s.Closing) (hs : Restrict Step Documented s a s') : s'.Closing := by
  have hr := h.reachable.tail hs
  obtain ⟨hs, -⟩ := hs
  cases hs with
  | registerAsync hown _ | start hown | destroy hown => exact absurd hown h.begun
  | acquire _ _ =>
      refine ⟨hr, h.running, h.published, ?_, ?_, ?_⟩ <;> intro heq <;> cases heq
  | shutdownServer _ =>
      refine ⟨hr, h.running, h.published, ?_, fun _ => h.published, ?_⟩ <;> intro heq <;> cases heq
  | shutdownQueue hown =>
      refine ⟨hr, h.running, h.published, ?_, ?_, fun _ => ⟨h.shutdown hown, h.published⟩⟩ <;>
        intro heq <;> cases heq
  | join _ _ =>
      refine ⟨hr, h.running, h.published, ?_, ?_, ?_⟩ <;> intro heq <;> cases heq
  | publish _ _ => exact ⟨hr, h.running, rfl, h.begun, h.shutdown, h.joining⟩
  | pop _ _ | popNull _ _ | construct _ _ | register _ _ _ _ | next _ _ | newRpc _ _ _ _ _ _ _
  | erase _ _ _ _ | ignore _ _ _ _ | returned _ | exit _ _ _ | finish _ _ _ _ _ | arrive _ _ _ _
  | finishCall _ => exact ⟨hr, h.running, h.published, h.begun, h.shutdown, h.joining⟩

/-! ## Operations that queue a handler -/

section Renews

variable {data data' : Map Addr (UnaryRpcHandler Request)}
  {l : List (Operation Response Status)}

theorem renews_congr (hlookup : data'.lookup op.data = data.lookup op.data) :
    renews data' op = renews data op := by
  rw [renews, renews, hlookup]

/-- A new handler has no call, and the others keep theirs. -/
theorem countP_emplace (hmem : ∀ op ∈ l, op.data ∈ data) (hkey : key ∉ data) :
    (l ++ [(⟨tag, key, .accept rpc⟩ : Operation Response Status)]).countP
        (renews (data.emplace key ⟨rpc, none⟩)) =
      l.countP (renews data) := by
  have hnew : renews (data.emplace key ⟨rpc, none⟩)
      (⟨tag, key, .accept rpc⟩ : Operation Response Status) = false := by
    rw [renews, Map.lookup_emplace hkey, if_pos rfl]
    rfl
  rw [List.countP_append, List.countP_singleton, hnew]
  refine List.countP_congr fun op hop => ?_
  have hne : op.data ≠ key := by
    rintro rfl
    exact hkey (hmem op hop)
  have hlookup : (data.emplace key ⟨rpc, none⟩).lookup op.data = data.lookup op.data := by
    rw [Map.lookup_emplace hkey, if_neg hne]
  rw [renews_congr hlookup]

theorem countP_erase (data : Map Addr (UnaryRpcHandler Request))
    (l : List (Operation Response Status)) (key : Addr) :
    l.countP (renews (data.erase key)) ≤ l.countP (renews data) := by
  refine List.countP_mono_left fun op _ => ?_
  by_cases heq : op.data = key
  · intro h
    rw [renews, heq, AList.lookup_erase, Option.any_none, Bool.and_false] at h
    cases h
  · rw [renews_congr (AList.lookup_erase_ne heq)]
    exact id

/-- A call arrives for one operation. -/
theorem countP_insert (data : Map Addr (UnaryRpcHandler Request)) (key : Addr)
    (handler : UnaryRpcHandler Request) (hnodup : (l.map Operation.data).Nodup) :
    l.countP (renews (data.insert key handler)) ≤ l.countP (renews data) + 1 := by
  induction l with
  | nil => exact Nat.zero_le _
  | cons op l ih =>
      rw [List.map_cons, List.nodup_cons] at hnodup
      rw [List.countP_cons, List.countP_cons]
      by_cases heq : op.data = key
      · have hcongr : l.countP (renews (data.insert key handler)) = l.countP (renews data) := by
          refine List.countP_congr fun op' hop' => ?_
          have hne : op'.data ≠ key := by
            rintro rfl
            exact hnodup.1 (heq ▸ List.mem_map_of_mem hop')
          rw [renews_congr (AList.lookup_insert_ne hne)]
        rw [hcongr]
        split <;> omega
      · rw [renews_congr (AList.lookup_insert_ne heq)]
        have hle := ih hnodup.2
        omega

/-- What is not an accept queues no handler. -/
theorem countP_finish {kind : OpKind Response Status} (hlabel : kind.label = .serverDone) :
    (l ++ [(⟨tag, key, kind⟩ : Operation Response Status)]).countP (renews data) =
      l.countP (renews data) := by
  rw [List.countP_append, List.countP_singleton, renews, OpKind.rpc_of_serverDone hlabel]
  rfl

end Renews

theorem Inv.serverQueue_nodup (h : s.Inv) : (s.serverQueue.map Operation.data).Nodup := by
  have hnodup := (List.nodup_append.mp h.refers.owners_nodup).1
  rw [ops, List.map_append] at hnodup
  exact (List.nodup_append.mp hnodup).2.1

theorem Inv.mem_data (h : s.Inv) (hop : op ∈ s.serverQueue) : op.data ∈ s.data :=
  h.refers.mem_data (List.mem_append_right _ hop)

/-! ## Each step -/

/-- A handler is queued, and the run thread goes on. -/
theorem toGo_queueRpc {tagger : Tagger} {phase : RunPhase Request Response Status}
    {writers : List Addr} {registered : List Nat} (hi : s.Inv) (hkey : s.FreshKey key)
    (hlt : phase.toGo + 2 + 2 * writers.length < s.runThread.toGo + 2 * s.writers.length) :
    toGo { ({ s with tagger := tagger } : AsyncServer Request Response Status).queueRpc key tag
        rpc with
      runThread := phase
      writers := writers
      registered := registered } < s.toGo := by
  simp only [toGo, queueRpc, countP_emplace (fun _ => hi.mem_data) hkey, List.length_append,
    List.length_singleton]
  omega

/-- `Next` returns an operation. -/
theorem toGo_next {completedSuccessfully : Bool} {before after : List (Operation Response Status)}
    (hrun : s.runThread = .waiting) (hqueue : s.serverQueue = before ++ op :: after)
    (hdoc : op.kind.rpc.isSome → completedSuccessfully = s.called op.data) :
    toGo { s with
      serverQueue := before ++ after
      runThread := .handling op completedSuccessfully } < s.toGo := by
  have hphase : (RunPhase.handling op completedSuccessfully :
      RunPhase Request Response Status).toGo ≤ 2 + 5 * if renews s.data op then 1 else 0 := by
    rw [RunPhase.toGo]
    cases hsome : op.kind.rpc.isSome with
    | true =>
        have hrenews : renews s.data op = completedSuccessfully := by
          rw [hdoc hsome, renews, hsome]
          rfl
        rw [hrenews]
        cases completedSuccessfully with
        | true => exact Nat.le_refl _
        | false => exact Nat.le_refl _
    | false =>
        rw [Bool.and_false, if_neg Bool.false_ne_true]
        exact Nat.le_add_right _ _
  simp only [toGo, hrun, hqueue, List.length_append, List.length_cons, List.countP_append,
    List.countP_cons]
  have hwaiting : RunPhase.toGo (.waiting : RunPhase Request Response Status) = 1 := rfl
  omega

/-- An event that queues no handler. -/
theorem toGo_erase {completedSuccessfully : Bool}
    (hrun : s.runThread = .handling op completedSuccessfully)
    (hlabel : completedSuccessfully = true → op.kind.label = .serverDone) :
    toGo (s.erase op completedSuccessfully op.record (s.tagger.erase op.tag)) < s.toGo := by
  have hcount := countP_erase s.data s.serverQueue op.data
  have hphase : s.runThread.toGo = 2 := by
    rw [hrun, RunPhase.toGo]
    cases completedSuccessfully with
    | true =>
        rw [OpKind.rpc_of_serverDone (hlabel rfl)]
        rfl
    | false => rfl
  simp only [toGo, erase, Operation.record, hphase]
  have hwaiting : RunPhase.toGo (.waiting : RunPhase Request Response Status) = 1 := rfl
  omega

theorem Closing.lower (h : s.Closing) (ha : a.Closes) (hs : Restrict Step Documented s a s') :
    s'.toGo < s.toGo := by
  have hi := h.sound.inv
  obtain ⟨hs, hdoc⟩ := hs
  cases hs with
  | registerAsync hown _ | start hown | destroy hown => exact absurd hown h.begun
  | acquire hown _ | shutdownServer hown | shutdownQueue hown | join hown _ =>
      simp only [toGo, hown, OwnerPhase.toGo]
      omega
  | pop hrun hqueue | popNull hrun hqueue =>
      simp only [toGo, hrun, hqueue, RunPhase.toGo, List.length_cons]
      omega
  | construct hrun _ | publish hrun _ =>
      simp only [toGo, hrun, RunPhase.toGo]
      omega
  | returned hrun | exit hrun _ _ =>
      simp only [toGo, hrun, RunPhase.toGo]
      omega
  | finishCall hcalls =>
      simp only [toGo, hcalls]
      omega
  | register hrun _ hkey _ =>
      refine toGo_queueRpc hi hkey ?_
      rw [hrun]
      exact Nat.add_lt_add_right (by show 3 + 2 < 6; decide) _
  | next hrun hqueue => exact toGo_next hrun hqueue fun hsome => (hdoc hsome).1
  | newRpc hrun _ hget hlabel _ hkey _ =>
      obtain ⟨rfl, rfl⟩ := hi.of_getTag hrun hget
      obtain ⟨rpc, hkind⟩ := OpKind.label_eq_serverNewRpc hlabel
      refine toGo_queueRpc hi hkey ?_
      rw [hrun, RunPhase.toGo, RunPhase.toGo, hkind, List.length_cons]
      show 2 + 2 + 2 * (s.writers.length + 1) < 7 + 2 * s.writers.length
      omega
  | erase hrun _ hget hlabel =>
      obtain ⟨rfl, rfl⟩ := hi.of_getTag hrun hget
      exact toGo_erase hrun hlabel
  | ignore hrun _ hget hlabel =>
      obtain ⟨rfl, rfl⟩ := hi.of_getTag hrun hget
      exact absurd hlabel OpKind.label_ne_serverWriting
  | finish _ _ _ _ _ | arrive _ _ _ _ => exact ha.elim

theorem Closing.keep (h : s.Closing) (ha : ¬ a.Closes) (hs : Restrict Step Documented s a s') :
    s'.toGo ≤ s.toGo + setback a := by
  have hi := h.sound.inv
  obtain ⟨hs, -⟩ := hs
  cases hs with
  | @finish key tag kind inCallback _ _ hkey _ hlabel =>
      have hlength := List.length_erase_of_mem hkey
      have hpos := List.length_pos_of_mem hkey
      simp only [toGo, finish, setback, countP_finish hlabel, hlength, List.length_append,
        List.length_singleton]
      omega
  | @arrive op _ handler request _ _ _ _ =>
      have hcount := countP_insert s.data op.data { handler with request := some request }
        hi.serverQueue_nodup
      simp only [toGo, arrive, setback]
      omega
  | registerAsync _ _ | start _ | destroy _ | acquire _ _ | shutdownServer _ | shutdownQueue _
  | join _ _ | pop _ _ | popNull _ _ | construct _ _ | publish _ _ | register _ _ _ _ | next _ _
  | newRpc _ _ _ _ _ _ _ | erase _ _ _ _ | ignore _ _ _ _ | returned _ | exit _ _ _
  | finishCall _ => exact absurd trivial ha

/-! ## A step is possible -/

theorem exists_fresh (s : AsyncServer Request Response Status) (tagger : Tagger) :
    ∃ key tag, s.FreshKey key ∧ tag ∉ tagger := by
  obtain ⟨key, hkey⟩ := Map.exists_forall_notMem s.data
  obtain ⟨tag, htag⟩ := Map.exists_forall_notMem tagger
  exact ⟨key, tag, hkey key le_rfl, htag tag le_rfl⟩

/-- The run thread runs the task that it has popped. -/
theorem live_task {task : InitTask} (hrun : s.runThread = .task task) (hlock : s.Unlocked) :
    ∃ a s', a.Closes ∧ Restrict Step Documented s a s' := by
  cases task with
  | construct => exact ⟨.construct, _, trivial, .construct hrun hlock, trivial⟩
  | publish => exact ⟨.publish, _, trivial, .publish hrun hlock, trivial⟩
  | register rpc =>
      obtain ⟨key, tag, hkey, htag⟩ := exists_fresh s s.tagger
      exact ⟨.register key tag, _, trivial, .register hrun hlock hkey htag, trivial⟩

/-- The run thread handles the event that it has. -/
theorem live_handling {completedSuccessfully : Bool} (hi : s.Inv)
    (hrun : s.runThread = .handling op completedSuccessfully) (hlock : s.Unlocked) :
    ∃ a s', a.Closes ∧ Restrict Step Documented s a s' := by
  have hop := mem_ops_of_handling hrun
  have hget := hi.getTag hop
  cases completedSuccessfully with
  | false =>
      refine ⟨.erase, _, trivial, .erase hrun hlock hget ?_, trivial⟩
      intro h
      cases h
  | true =>
      cases hkind : op.kind with
      | accept rpc =>
          obtain ⟨handler, hlookup, -⟩ := hi.refers.handler op hop rpc hkind
          obtain ⟨key, tag, hkey, htag⟩ := exists_fresh s (s.tagger.erase op.tag)
          have hlabel : op.record.label = .serverNewRpc := by
            rw [Operation.record, hkind]
            rfl
          exact ⟨.newRpc key tag, _, trivial, .newRpc hrun hlock hget hlabel hlookup hkey htag,
            trivial⟩
      | finish _ _ | finishWithError _ =>
          refine ⟨.erase, _, trivial, .erase hrun hlock hget fun _ => ?_, trivial⟩
          rw [Operation.record, hkind]
          rfl

/-- The destructor has let go of the lock. -/
theorem Closing.live_joining (h : s.Closing) (hown : s.owner = .joining) :
    ∃ a s', a.Closes ∧ Restrict Step Documented s a s' := by
  obtain ⟨hshutdown, hqueueShutdown⟩ := h.joining hown
  have hlock : s.Unlocked := by
    rw [Unlocked, hown]
    exact ⟨by decide, by decide⟩
  cases hrun : s.runThread with
  | initializing =>
      have hmem : none ∈ s.initializationQueue := by
        refine (AsyncReachable.started h.reachable.of_restrict h.running).resolve_left ?_
        exact fun hserving => hserving.1 hrun
      cases hqueue : s.initializationQueue with
      | nil =>
          rw [hqueue] at hmem
          cases hmem
      | cons task rest =>
          cases task with
          | none => exact ⟨.pop, _, trivial, .popNull hrun hqueue, trivial⟩
          | some task => exact ⟨.pop, _, trivial, .pop hrun hqueue, trivial⟩
  | task task => exact live_task hrun hlock
  | waiting =>
      cases hqueue : s.serverQueue with
      | nil => exact ⟨.exit, _, trivial, .exit hrun hqueueShutdown hqueue, trivial⟩
      | cons op rest =>
          have hstep : Step s (.next op (s.called op.data)) _ :=
            @Step.next _ _ _ _ _ [] rest _ hrun hqueue
          exact ⟨.next op (s.called op.data), _, trivial, hstep, fun _ => ⟨rfl, fun _ => hshutdown⟩⟩
  | handling op completedSuccessfully => exact live_handling h.sound.inv hrun hlock
  | calling handler request => exact ⟨.returned, _, trivial, .returned hrun, trivial⟩
  | exited => exact ⟨.join, _, trivial, .join hown hrun, trivial⟩

theorem Closing.live (h : s.Closing) (hgoal : s.owner ≠ .destroyed) :
    ∃ a s', a.Closes ∧ Restrict Step Documented s a s' := by
  cases hown : s.owner with
  | destroying =>
      by_cases hcalling : ∀ handler request, s.runThread ≠ .calling handler request
      · exact ⟨.acquire, _, trivial, .acquire hown hcalling, trivial⟩
      · push Not at hcalling
        obtain ⟨handler, request, hrun⟩ := hcalling
        exact ⟨.returned, _, trivial, .returned hrun, trivial⟩
  | shuttingDown => exact ⟨.shutdownServer, _, trivial, .shutdownServer hown, trivial⟩
  | shuttingQueue =>
      cases hcalls : s.calls with
      | zero => exact ⟨.shutdownQueue, _, trivial, .shutdownQueue hown, fun _ => hcalls⟩
      | succ n => exact ⟨.finishCall, _, trivial, .finishCall hcalls, trivial⟩
  | joining => exact h.live_joining hown
  | destroyed => exact absurd hown hgoal
  | _ => exact absurd hown h.begun

/-! ## The destructor -/

/-- A server that was not started. -/
structure Idle (s : AsyncServer Request Response Status) : Prop where
  reachable : AsyncReachable s
  running : s.running = false
  begun : s.owner ≠ .using

theorem Idle.step (h : s.Idle) (hs : Step s a s') : s'.Idle := by
  refine ⟨h.reachable.tail hs, ?_, ?_⟩
  · cases hs with
    | start hown => exact absurd hown h.begun
    | registerAsync hown _ | destroy hown => exact absurd hown h.begun
    | acquire _ _ | shutdownServer _ | shutdownQueue _ | join _ _ | pop _ _ | popNull _ _
    | construct _ _ | publish _ _ | register _ _ _ _ | next _ _ | newRpc _ _ _ _ _ _ _
    | erase _ _ _ _ | ignore _ _ _ _ | returned _ | exit _ _ _ | finish _ _ _ _ _
    | arrive _ _ _ _ | finishCall _ => exact h.running
  · cases hs with
    | registerAsync hown _ | start hown | destroy hown => exact absurd hown h.begun
    | acquire _ _ | shutdownServer _ | shutdownQueue _ | join _ _ =>
        intro heq
        cases heq
    | pop _ _ | popNull _ _ | construct _ _ | publish _ _ | register _ _ _ _ | next _ _
    | newRpc _ _ _ _ _ _ _ | erase _ _ _ _ | ignore _ _ _ _ | returned _ | exit _ _ _
    | finish _ _ _ _ _ | arrive _ _ _ _ | finishCall _ => exact h.begun

/-- The run thread of a server that was not started never exits. -/
theorem Idle.not_destroyed (h : s.Idle) : s.owner ≠ .destroyed := by
  intro hown
  have hsound := AsyncReachable.sound h.reachable
  have hserving : s.Serving := by
    refine serving_of (hsound.ordered.destroyed hown) ?_ ?_
    · intro heq
      cases heq
    · intro task heq
      cases heq
  exact (hsound.tasked.notStarted h.running).2 hserving

/-- The destructor returns when the server was started and the clients end their calls, whatever
else they and the other threads do, unless the queue is shut down while the run thread has a
handler to queue.  When it was not started, the destructor never returns. -/
theorem returns_iff_started (hr : Reachable (Restrict Step Documented) initial s)
    (hown : s.owner = .destroying) (hpub : s.published = true) :
    (s.running = true →
      Advances (Restrict Step Documented) (fun _ a => a.Closes) (fun _ a => setback a)
        (fun s => s.owner = .destroyed ∨ s.Broken) s.toGo s) ∧
    (s.running = false → ∀ tr s', Run Step s tr s' → s'.owner ≠ .destroyed) := by
  constructor
  · intro hrunning
    have hclosing : s.Closing := by
      refine ⟨hr, hrunning, hpub, ?_, ?_, ?_⟩ <;> rw [hown] <;> intro heq <;> cases heq
    refine advances_of_measure (I := Closing) toGo ?_ ?_ ?_ hclosing
    · intro s a s' h ha hs
      exact Or.inr ⟨h.step hs, h.lower ha hs⟩
    · intro s a s' h ha hs
      exact Or.inr ⟨h.step hs, h.keep ha hs⟩
    · intro s h hgoal
      exact h.live fun hdestroyed => hgoal (Or.inl hdestroyed)
  · intro hrunning tr s' run
    have hidle : s'.Idle := by
      induction run with
      | start =>
          refine ⟨hr.of_restrict, hrunning, ?_⟩
          rw [hown]
          intro heq
          cases heq
      | step _ hs ih => exact ih.step hs
    exact hidle.not_destroyed

/-- A server with an accepted call is about to be destroyed. -/
theorem returns_iff_started_called : ∃ s : AsyncServer Nat Nat Nat,
    s.owner = .destroying ∧ s.calls = 1 ∧
      Advances (Restrict Step Documented) (fun _ a => a.Closes) (fun _ a => setback a)
        (fun s => s.owner = .destroyed ∨ s.Broken) 13 s := by
  have r : Reachable (Restrict Step Documented) initial (initial : AsyncServer Nat Nat Nat) := .refl
  have r := r.tail ⟨.registerAsync rfl rfl, trivial⟩
  have r := r.tail ⟨.start rfl, trivial⟩
  have r := r.tail ⟨.pop rfl rfl, trivial⟩
  have r := r.tail ⟨.construct rfl ⟨by decide, by decide⟩, trivial⟩
  have r := r.tail ⟨.pop rfl rfl, trivial⟩
  have r := r.tail ⟨.publish rfl ⟨by decide, by decide⟩, trivial⟩
  have r := r.tail ⟨.pop rfl rfl, trivial⟩
  have r := r.tail ⟨@Step.register _ _ _ _ 0 1 11 rfl ⟨by decide, by decide⟩ (AList.notMem_empty 1)
    (AList.notMem_empty 11), trivial⟩
  have r := r.tail ⟨.popNull rfl rfl, trivial⟩
  have r := r.tail ⟨@Step.arrive _ _ _ _ ⟨11, 1, .accept 0⟩ 0 ⟨0, none⟩ 7 List.mem_cons_self rfl
    rfl rfl, rfl⟩
  have r := r.tail ⟨.destroy rfl, trivial⟩
  exact ⟨_, rfl, rfl, (returns_iff_started r rfl rfl).1 rfl⟩

/-! ## Waiting with the lock -/

def Action.isFinishCall : Action Request Response Status → Bool
  | .finishCall => true
  | _ => false

/-- What has happened while the destructor was in `Shutdown`: nothing was handled, registered or
answered, and the calls that are over were ended by their clients. -/
structure Starved (s : AsyncServer Request Response Status)
    (tr : List (AsyncServer Request Response Status × Action Request Response Status))
    (s' : AsyncServer Request Response Status) : Prop where
  data : s'.data = s.data
  tagger : s'.tagger = s.tagger
  ops : s'.ops.Perm s.ops
  writers : s'.writers = s.writers
  registered : s'.registered = s.registered
  shutdown : s'.shutdown = true
  calls : s'.calls + tr.countP (fun p => p.2.isFinishCall) = s.calls
  /-- `Shutdown` returns when every call was ended. -/
  leave : ∀ s'', Restrict Step Documented s' .shutdownQueue s'' →
    tr.countP (fun p => p.2.isFinishCall) = s.calls

variable {s₁ : AsyncServer Request Response Status}

theorem Starved.of_calls (hdata : s'.data = s.data) (htagger : s'.tagger = s.tagger)
    (hops : s'.ops.Perm s.ops) (hwriters : s'.writers = s.writers)
    (hreg : s'.registered = s.registered) (hshut : s'.shutdown = true)
    (hcalls : s'.calls + tr.countP (fun p => p.2.isFinishCall) = s.calls) : Starved s tr s' := by
  refine ⟨hdata, htagger, hops, hwriters, hreg, hshut, hcalls, ?_⟩
  rintro s'' ⟨-, hdoc⟩
  have hzero : s'.calls = 0 := hdoc hshut
  omega

/-- The run thread gets no further than the lock. -/
theorem Starved.step (h : Starved s tr s₁) (hs : Restrict Step Documented s₁ a s')
    (hown : s₁.owner = .shuttingQueue) (hwait : s'.owner = .shuttingQueue) :
    Starved s ((s₁, a) :: tr) s' := by
  have hlocked : ¬ s₁.Unlocked := fun hlock => hlock.2 hown
  have hmove : ∀ {b : Action Request Response Status} {t : AsyncServer Request Response Status},
      b.isFinishCall = false → t.data = s₁.data → t.tagger = s₁.tagger → t.ops.Perm s₁.ops →
      t.writers = s₁.writers → t.registered = s₁.registered → t.shutdown = s₁.shutdown →
      t.calls = s₁.calls → Starved s ((s₁, b) :: tr) t := by
    intro b t hb hdata htagger hops hwriters hreg hshut hcalls
    refine .of_calls (hdata.trans h.data) (htagger.trans h.tagger) (hops.trans h.ops)
      (hwriters.trans h.writers) (hreg.trans h.registered) (hshut.trans h.shutdown) ?_
    rw [List.countP_cons_of_neg (by rw [hb]; exact Bool.false_ne_true), hcalls]
    exact h.calls
  obtain ⟨hs, hdoc⟩ := hs
  cases hs with
  | registerAsync hown' _ | start hown' | destroy hown' | acquire hown' _ | shutdownServer hown'
  | join hown' _ => cases hown.symm.trans hown'
  | shutdownQueue _ => cases hwait
  | construct _ hlock | publish _ hlock | register _ hlock _ _ | newRpc _ hlock _ _ _ _ _
  | erase _ hlock _ _ | ignore _ hlock _ _ | finish hlock _ _ _ _ => exact absurd hlock hlocked
  | pop hrun _ | popNull hrun _ | returned hrun | exit hrun _ _ =>
      refine hmove rfl rfl rfl ?_ rfl rfl rfl rfl
      rw [AsyncServer.ops, AsyncServer.ops, hrun]
      exact .refl _
  | @next op before after _ hrun hqueue =>
      have hperm : (op :: (before ++ after)).Perm (before ++ op :: after) := List.perm_middle.symm
      refine hmove rfl rfl rfl ?_ rfl rfl rfl rfl
      rw [AsyncServer.ops, AsyncServer.ops, hrun, hqueue]
      exact hperm
  | arrive _ _ _ _ => cases h.shutdown.symm.trans hdoc
  | @finishCall n hcalls =>
      refine .of_calls h.data h.tagger h.ops h.writers h.registered h.shutdown ?_
      have hall := h.calls
      rw [hcalls] at hall
      rw [List.countP_cons_of_pos rfl]
      show n + (List.countP _ tr + 1) = s.calls
      omega

/-- While the destructor waits for the calls in `Shutdown`, the server does nothing about them. -/
theorem shutdown_starves (hr : Reachable (Restrict Step Documented) initial s)
    (hpub : s.published = true) (run : Run (Restrict Step Documented) s tr s')
    (hwait : ∀ t ∈ visited tr s', t.owner = .shuttingQueue) : Starved s tr s' := by
  induction run with
  | start =>
      have hown := hwait s List.mem_cons_self
      have hordered := (AsyncReachable.sound hr.of_restrict).ordered
      exact .of_calls rfl rfl (.refl _) rfl rfl ((hordered.shuttingQueue hown).trans hpub) rfl
  | step _ hs ih =>
      rw [visited_cons, List.forall_mem_cons] at hwait
      exact (ih hwait.2).step hs (hwait.2 _ List.mem_cons_self) hwait.1

/-- The run thread has the event of a call that its client gives up. -/
theorem shutdown_starves_called :
    ∃ (s s' : AsyncServer Nat Nat Nat) (tr : List (AsyncServer Nat Nat Nat × Action Nat Nat Nat)),
      s.calls = 1 ∧ s'.calls = 0 ∧ s'.runThread = .handling ⟨11, 1, .accept 0⟩ true ∧
        Starved s tr s' := by
  have r : Reachable (Restrict Step Documented) initial (initial : AsyncServer Nat Nat Nat) := .refl
  have r := r.tail ⟨.registerAsync rfl rfl, trivial⟩
  have r := r.tail ⟨.start rfl, trivial⟩
  have r := r.tail ⟨.pop rfl rfl, trivial⟩
  have r := r.tail ⟨.construct rfl ⟨by decide, by decide⟩, trivial⟩
  have r := r.tail ⟨.pop rfl rfl, trivial⟩
  have r := r.tail ⟨.publish rfl ⟨by decide, by decide⟩, trivial⟩
  have r := r.tail ⟨.pop rfl rfl, trivial⟩
  have r := r.tail ⟨@Step.register _ _ _ _ 0 1 11 rfl ⟨by decide, by decide⟩ (AList.notMem_empty 1)
    (AList.notMem_empty 11), trivial⟩
  have r := r.tail ⟨.popNull rfl rfl, trivial⟩
  have r := r.tail ⟨@Step.arrive _ _ _ _ ⟨11, 1, .accept 0⟩ 0 ⟨0, none⟩ 7 List.mem_cons_self rfl
    rfl rfl, rfl⟩
  have r := r.tail ⟨.destroy rfl, trivial⟩
  have r := r.tail ⟨.acquire rfl (by intro handler request heq; cases heq), trivial⟩
  have r := r.tail ⟨.shutdownServer rfl, trivial⟩
  have start : ∀ {s : AsyncServer Nat Nat Nat}, Reachable (Restrict Step Documented) initial s →
      Run (Restrict Step Documented) s [] s := fun _ => .start
  have run := (start r).step
    ⟨@Step.next _ _ _ _ ⟨11, 1, .accept 0⟩ [] [] true rfl rfl, fun _ => ⟨rfl, fun _ => rfl⟩⟩
  have run := run.step ⟨.finishCall rfl, trivial⟩
  refine ⟨_, _, _, ?_, ?_, ?_, shutdown_starves r ?_ run ?_⟩
  · rfl
  · rfl
  · rfl
  · rfl
  · simp only [visited_cons, visited_nil, List.forall_mem_cons]
    exact ⟨trivial, trivial, trivial, List.forall_mem_nil _⟩

end AsyncServer

end Grpcw.NewArch
