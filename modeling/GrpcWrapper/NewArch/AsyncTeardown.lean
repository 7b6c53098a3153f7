import GrpcWrapper.NewArch.HandlerOwnership

/-!
# The end of an asynchronous server

The destructor uses two pointers that a task of the run thread sets, and nothing
makes it wait for that task.  It shuts the queue down under the lock, but the run
thread asks nobody before it registers an accept: a registration whose task has
not run, or a call whose event has not been handled, is registered on the queue
all the same.

Whether that happens is decided twice: when the destructor takes the lock, by
whether the pointers are set, and when it shuts the queue down, by what is left to
the run thread (`Quiet`).
-/

namespace Grpcw.NewArch

open Transition

variable {Request Response Status : Type}

namespace AsyncServer

/-- What the destructor has to avoid: a pointer that is not set, and a handler that
is queued on a queue that was shut down. -/
def Unsafe (s : AsyncServer Request Response Status) : Action Request Response Status → Prop
  | .shutdownServer | .shutdownQueue => s.published = false
  | .register _ _ | .newRpc _ _ => s.queueShutdown = true
  | _ => False

/-- An accept has succeeded, and the run thread has still to handle it. -/
def Due (s : AsyncServer Request Response Status) (op : Operation Response Status) : Prop :=
  op.kind.rpc.isSome ∧
    (s.runThread = .handling op true ∨ op ∈ s.serverQueue ∧ s.called op.data = true)

/-- Nothing is left that makes the run thread queue a handler. -/
structure Quiet (s : AsyncServer Request Response Status) : Prop where
  tasks : ∀ rpc, .register rpc ∉ s.tasks
  accepts : ∀ op, ¬ s.Due op

/-- The condition on a step. -/
def Timely (s : AsyncServer Request Response Status) : Action Request Response Status → Prop
  | .acquire => s.published = true
  | .shutdownQueue => s.Quiet
  | _ => True

/-- A run from the construction on, with a gRPC that does as documented. -/
abbrev DocumentedRun
    (tr : List (AsyncServer Request Response Status × Action Request Response Status))
    (s : AsyncServer Request Response Status) : Prop :=
  Run (Restrict Step Documented) initial tr s

variable {s s' : AsyncServer Request Response Status} {a : Action Request Response Status}
  {op : Operation Response Status} {rpc : Nat}
  {tr : List (AsyncServer Request Response Status × Action Request Response Status)}

/-! ## The order of the tasks -/

/-- The run thread has popped the null task. -/
def Serving (s : AsyncServer Request Response Status) : Prop :=
  s.runThread ≠ .initializing ∧ ∀ task, s.runThread ≠ .task task

theorem serving_of {phase : RunPhase Request Response Status} (hrun : s.runThread = phase)
    (hinit : phase ≠ .initializing) (htask : ∀ task, phase ≠ .task task) : s.Serving := by
  subst hrun
  exact ⟨hinit, htask⟩

/-- What comes after the null task is null. -/
structure Tasked (s : AsyncServer Request Response Status) : Prop where
  order : s.initializationQueue.Pairwise fun x y => x = none → y = none
  notStarted : s.running = false → none ∉ s.initializationQueue ∧ ¬ s.Serving
  serving : s.Serving → ∀ task ∈ s.initializationQueue, task = none

theorem Tasked.initial : (initial : AsyncServer Request Response Status).Tasked where
  order := by
    show [some InitTask.construct, some InitTask.publish].Pairwise _
    decide
  notStarted _ := by
    refine ⟨?_, fun hs => hs.1 rfl⟩
    show none ∉ [some InitTask.construct, some InitTask.publish]
    decide
  serving hs := absurd rfl hs.1

theorem Tasked.registerAsync (h : s.Tasked) (hrun : s.running = false) :
    s.registerAsync.Tasked where
  order := by
    refine List.pairwise_append.mpr ⟨h.order, List.pairwise_singleton _ _, ?_⟩
    rintro x hx y - rfl
    exact absurd hx (h.notStarted hrun).1
  notStarted _ := by
    refine ⟨fun hmem => ?_, (h.notStarted hrun).2⟩
    rcases List.mem_append.mp hmem with hmem | hmem
    · exact (h.notStarted hrun).1 hmem
    · cases List.mem_singleton.mp hmem
  serving hs := absurd hs (h.notStarted hrun).2

theorem Tasked.start (h : s.Tasked) : s.start.Tasked where
  order := by
    refine List.pairwise_append.mpr ⟨h.order, List.pairwise_singleton _ _, ?_⟩
    intro x _ y hy _
    exact List.mem_singleton.mp hy
  notStarted := nofun
  serving hs := List.forall_mem_append.mpr ⟨h.serving hs, List.forall_mem_singleton.mpr rfl⟩

theorem Tasked.pop {task : InitTask} {rest : List (Option InitTask)} (h : s.Tasked)
    (hqueue : s.initializationQueue = some task :: rest) :
    Tasked { s with initializationQueue := rest, runThread := .task task } := by
  have horder := h.order
  rw [hqueue, List.pairwise_cons] at horder
  refine ⟨horder.2, fun hrun => ⟨fun hmem => ?_, fun hs => hs.2 task rfl⟩,
    fun hs => absurd rfl (hs.2 task)⟩
  exact (h.notStarted hrun).1 (hqueue ▸ List.mem_cons_of_mem _ hmem)

theorem Tasked.popNull {rest : List (Option InitTask)} (h : s.Tasked)
    (hqueue : s.initializationQueue = none :: rest) :
    Tasked { s with initializationQueue := rest, runThread := .waiting } := by
  have horder := h.order
  rw [hqueue, List.pairwise_cons] at horder
  refine ⟨horder.2, fun hrun => absurd ?_ (h.notStarted hrun).1,
    fun _ task hmem => horder.1 task hmem rfl⟩
  rw [hqueue]
  exact List.mem_cons_self

/-- Tasks are put in before the null task, and none after it. -/
theorem Step.tasked (h : s.Tasked) (hs : Step s a s') : s'.Tasked := by
  cases hs with
  | registerAsync _ hrun => exact h.registerAsync hrun
  | start _ => exact h.start
  | pop _ hqueue => exact h.pop hqueue
  | popNull _ hqueue => exact h.popNull hqueue
  | destroy _ | acquire _ _ | shutdownServer _ | shutdownQueue _ | join _ _ | finish _ _ _ _ _
  | arrive _ _ _ _ | finishCall _ => exact ⟨h.order, h.notStarted, h.serving⟩
  | construct _ _ | publish _ _ | register _ _ _ _ =>
      exact ⟨h.order, fun hr => ⟨(h.notStarted hr).1, fun hs => hs.1 rfl⟩,
        fun hs => absurd rfl hs.1⟩
  | next hrun _ | newRpc hrun _ _ _ _ _ _ | erase hrun _ _ _ | ignore hrun _ _ _
  | returned hrun | exit hrun _ _ =>
      have hserving := serving_of hrun nofun nofun
      exact ⟨h.order, fun hr => absurd hserving (h.notStarted hr).2, fun _ => h.serving hserving⟩

theorem Tasked.notMem_tasks (h : s.Tasked) (hrun : s.runThread = .exited) (task : InitTask) :
    task ∉ s.tasks := by
  have hserving := serving_of hrun nofun nofun
  intro hmem
  rw [tasks, hrun] at hmem
  obtain ⟨task', hmem, heq⟩ := List.mem_filterMap.mp hmem
  rw [h.serving hserving task' hmem] at heq
  cases heq

/-! ## The order of the destructor -/

structure Ordered (s : AsyncServer Request Response Status) : Prop where
  joining : s.queueShutdown = true → s.owner = .joining ∨ s.owner = .destroyed
  shutdown : s.queueShutdown = true → s.shutdown = true
  shuttingQueue : s.owner = .shuttingQueue → s.shutdown = s.published
  destroyed : s.owner = .destroyed → s.runThread = .exited
  exited : s.runThread = .exited → ∀ op ∈ s.serverQueue, op.kind.rpc = none

theorem Ordered.initial : (initial : AsyncServer Request Response Status).Ordered where
  joining := nofun
  shutdown := nofun
  shuttingQueue := nofun
  destroyed := nofun
  exited := nofun

/-- The queue is shut down by the destructor. -/
theorem Ordered.not_queueShutdown {phase : OwnerPhase} (h : s.Ordered) (hown : s.owner = phase)
    (hjoining : phase ≠ .joining) (hdestroyed : phase ≠ .destroyed) : s.queueShutdown ≠ true := by
  subst hown
  exact fun hq => (h.joining hq).elim hjoining hdestroyed

theorem Ordered.step (h : s.Ordered) (hs : Step s a s') : s'.Ordered := by
  cases hs with
  | registerAsync _ _ | start _ | finishCall _ | arrive _ _ _ _ =>
      exact ⟨h.joining, h.shutdown, h.shuttingQueue, h.destroyed, h.exited⟩
  | destroy hown | acquire hown _ =>
      have hopen := h.not_queueShutdown hown nofun nofun
      exact ⟨fun hq => absurd hq hopen, h.shutdown, nofun, nofun, h.exited⟩
  | shutdownServer hown =>
      have hopen := h.not_queueShutdown hown nofun nofun
      exact ⟨fun hq => absurd hq hopen, fun hq => absurd hq hopen, fun _ => rfl, nofun, h.exited⟩
  | shutdownQueue hown =>
      exact ⟨fun _ => .inl rfl, (h.shuttingQueue hown).trans, nofun, nofun, h.exited⟩
  | join _ hexit => exact ⟨fun _ => .inr rfl, h.shutdown, nofun, fun _ => hexit, h.exited⟩
  | pop hrun _ | popNull hrun _ | construct hrun _ | register hrun _ _ _ | next hrun _
  | newRpc hrun _ _ _ _ _ _ | erase hrun _ _ _ | ignore hrun _ _ _ | returned hrun =>
      refine ⟨h.joining, h.shutdown, h.shuttingQueue, fun hdestroyed => ?_, nofun⟩
      cases hrun.symm.trans (h.destroyed hdestroyed)
  | publish hrun hlock =>
      refine ⟨h.joining, h.shutdown, fun hown => absurd hown hlock.2, fun hdestroyed => ?_, nofun⟩
      cases hrun.symm.trans (h.destroyed hdestroyed)
  | exit _ _ hnil =>
      refine ⟨h.joining, h.shutdown, h.shuttingQueue, fun _ => rfl, fun _ => ?_⟩
      show ∀ op ∈ s.serverQueue, _
      rw [hnil]
      exact List.forall_mem_nil _
  | finish _ _ _ _ hlabel =>
      refine ⟨h.joining, h.shutdown, h.shuttingQueue, h.destroyed, fun hrun => ?_⟩
      refine List.forall_mem_append.mpr ⟨h.exited hrun, List.forall_mem_singleton.mpr ?_⟩
      exact OpKind.rpc_of_serverDone hlabel

structure Sound (s : AsyncServer Request Response Status) : Prop where
  inv : s.Inv
  tasked : s.Tasked
  ordered : s.Ordered

theorem AsyncReachable.sound (hr : AsyncReachable s) : s.Sound :=
  ⟨hr.inv, hr.invariant .initial fun _ h hs => Step.tasked h hs,
    hr.invariant .initial fun _ h hs => h.step hs⟩

/-! ## What is left to the run thread -/

theorem due_congr (hrun : s'.runThread = .handling op true ↔ s.runThread = .handling op true)
    (hqueue : op.kind.rpc.isSome → (op ∈ s'.serverQueue ∧ s'.called op.data = true ↔
      op ∈ s.serverQueue ∧ s.called op.data = true)) : s'.Due op ↔ s.Due op :=
  and_congr_right fun hsome => or_congr hrun (hqueue hsome)

/-- `Next` returns an accept with a call as one that has succeeded. -/
theorem due_next {op' : Operation Response Status} {completedSuccessfully : Bool}
    {before after : List (Operation Response Status)} (hrun : s.runThread = .waiting)
    (hqueue : s.serverQueue = before ++ op' :: after)
    (hdoc : op'.kind.rpc.isSome → completedSuccessfully = s.called op'.data) :
    Due { s with
      serverQueue := before ++ after
      runThread := .handling op' completedSuccessfully } op ↔ s.Due op := by
  refine and_congr_right fun hsome => ?_
  rw [hrun, hqueue, List.mem_append, List.mem_append, List.mem_cons]
  constructor
  · rintro (heq | ⟨hmem, hcalled⟩)
    · cases heq
      exact .inr ⟨.inr (.inl rfl), (hdoc hsome).symm⟩
    · exact .inr ⟨hmem.imp_right .inr, hcalled⟩
  · rintro (heq | ⟨hmem | rfl | hmem, hcalled⟩)
    · cases heq
    · exact .inr ⟨.inl hmem, hcalled⟩
    · exact .inl (by rw [hdoc hsome, hcalled])
    · exact .inr ⟨.inr hmem, hcalled⟩

/-- The event of a last operation, or of one that failed. -/
theorem due_erase {op' : Operation Response Status} {completedSuccessfully : Bool} (h : s.Inv)
    (hrun : s.runThread = .handling op' completedSuccessfully)
    (hlabel : completedSuccessfully = true → op'.kind.label = .serverDone) :
    (s.erase op' completedSuccessfully op'.record (s.tagger.erase op'.tag)).Due op ↔ s.Due op := by
  refine and_congr_right fun hsome => or_congr (iff_of_false nofun ?_) ?_
  · intro heq
    cases hrun.symm.trans heq
    rw [OpKind.rpc_of_serverDone (hlabel rfl)] at hsome
    cases hsome
  · refine and_congr_right fun hmem => ?_
    have hne : op.data ≠ op'.data := (ops_of_handling hrun ▸ h.refers).data_ne hmem
    show Option.any _ (AList.lookup op.data (s.data.erase op'.data)) = true ↔ _
    rw [Map.lookup_erase_eq, if_neg hne]
    rfl

/-- After the shutdown of the queue, accepts that have succeeded are dealt with by
queueing a handler only. -/
theorem Step.due_iff (h : s.Inv) (hs : Step s a s') (hdoc : Documented s a)
    (hshutdown : s.shutdown = true) (hshut : s.queueShutdown = true) (hsafe : ¬ Unsafe s a) :
    s'.Due op ↔ s.Due op := by
  cases hs with
  | registerAsync _ _ | start _ | destroy _ | acquire _ _ | shutdownServer _ | shutdownQueue _
  | join _ _ | finishCall _ => exact Iff.rfl
  | pop hrun _ | popNull hrun _ | construct hrun _ | publish hrun _ | returned hrun
  | exit hrun _ _ =>
      exact due_congr (iff_of_false nofun (by rw [hrun]; nofun)) fun _ => Iff.rfl
  | register _ _ _ _ | newRpc _ _ _ _ _ _ _ => exact absurd hshut hsafe
  | next hrun hqueue => exact due_next hrun hqueue fun hsome => (hdoc hsome).1
  | erase hrun _ hget hlabel =>
      obtain ⟨rfl, rfl⟩ := h.of_getTag hrun hget
      exact due_erase h hrun hlabel
  | ignore hrun _ hget hlabel =>
      obtain ⟨rfl, rfl⟩ := h.of_getTag hrun hget
      exact absurd hlabel OpKind.label_ne_serverWriting
  | finish _ _ _ _ hlabel =>
      refine due_congr Iff.rfl fun hsome => and_congr_left fun _ => ?_
      refine List.mem_append.trans (or_iff_left fun hmem => ?_)
      rw [List.mem_singleton.mp hmem, OpKind.rpc_of_serverDone hlabel] at hsome
      cases hsome
  | arrive _ _ _ _ => cases hdoc.symm.trans hshutdown

theorem register_mem_tasks {task : InitTask} (hrun : s.runThread = .task task)
    (htask : task.rpc = none) :
    .register rpc ∈ s.tasks ↔ .register rpc ∈ s.initializationQueue.filterMap id := by
  rw [tasks, hrun]
  refine List.mem_cons.trans (or_iff_right ?_)
  rintro rfl
  cases htask

/-- After the shutdown of the queue, registrations leave by queueing a handler only. -/
theorem Step.register_mem_iff (hs : Step s a s') (hown : s.owner ≠ .using)
    (hshut : s.queueShutdown = true) (hsafe : ¬ Unsafe s a) :
    .register rpc ∈ s'.tasks ↔ .register rpc ∈ s.tasks := by
  cases hs with
  | registerAsync hown' _ | start hown' => exact absurd hown' hown
  | destroy _ | acquire _ _ | shutdownServer _ | shutdownQueue _ | join _ _ | finishCall _
  | finish _ _ _ _ _ | arrive _ _ _ _ => exact Iff.rfl
  | pop hrun hqueue | popNull hrun hqueue =>
      rw [tasks, tasks, hrun, hqueue]
      rfl
  | construct hrun _ | publish hrun _ => exact (register_mem_tasks hrun rfl).symm
  | register _ _ _ _ | newRpc _ _ _ _ _ _ _ => exact absurd hshut hsafe
  | next hrun _ | erase hrun _ _ _ | ignore hrun _ _ _ | returned hrun | exit hrun _ _ =>
      rw [tasks, tasks, hrun]
      rfl

theorem Step.quiet_iff (h : s.Sound) (hs : Step s a s') (hdoc : Documented s a)
    (hshut : s.queueShutdown = true) (hsafe : ¬ Unsafe s a) : s'.Quiet ↔ s.Quiet := by
  have hown : s.owner ≠ .using := by
    intro hown
    exact h.ordered.not_queueShutdown hown nofun nofun hshut
  have htasks : ∀ rpc, .register rpc ∈ s'.tasks ↔ .register rpc ∈ s.tasks :=
    fun _ => hs.register_mem_iff hown hshut hsafe
  have hdue : ∀ op, s'.Due op ↔ s.Due op :=
    fun _ => hs.due_iff h.inv hdoc (h.ordered.shutdown hshut) hshut hsafe
  constructor
  · intro hq
    exact ⟨fun rpc hmem => hq.tasks rpc ((htasks rpc).mpr hmem),
      fun op hop => hq.accepts op ((hdue op).mpr hop)⟩
  · intro hq
    exact ⟨fun rpc hmem => hq.tasks rpc ((htasks rpc).mp hmem),
      fun op hop => hq.accepts op ((hdue op).mp hop)⟩

/-! ## Teardown -/

/-- Nothing has gone wrong, and nothing will. -/
structure Settled (s : AsyncServer Request Response Status) : Prop where
  published : s.owner = .shuttingDown ∨ s.owner = .shuttingQueue → s.published = true
  quiet : s.queueShutdown = true → s.Quiet

theorem Step.queueShutdown_eq (hs : Step s a s') (ha : a ≠ .shutdownQueue) :
    s'.queueShutdown = s.queueShutdown := by
  cases hs with
  | shutdownQueue _ => exact absurd rfl ha
  | registerAsync _ _ | start _ | destroy _ | acquire _ _ | shutdownServer _ | join _ _
  | finishCall _ | pop _ _ | popNull _ _ | construct _ _ | publish _ _ | register _ _ _ _
  | next _ _ | newRpc _ _ _ _ _ _ _ | erase _ _ _ _ | ignore _ _ _ _ | returned _ | exit _ _ _
  | finish _ _ _ _ _ | arrive _ _ _ _ => rfl

/-- The pointers are set while the destructor does not have the lock. -/
theorem Step.published_iff (hs : Step s a s') (hacquire : a ≠ .acquire)
    (hqueue : a ≠ .shutdownQueue) :
    (s'.owner = .shuttingDown ∨ s'.owner = .shuttingQueue → s'.published = true) ↔
      (s.owner = .shuttingDown ∨ s.owner = .shuttingQueue → s.published = true) := by
  cases hs with
  | acquire _ _ => exact absurd rfl hacquire
  | shutdownQueue _ => exact absurd rfl hqueue
  | destroy hown =>
      rw [hown]
      exact iff_of_true nofun nofun
  | join hown _ =>
      rw [hown]
      exact iff_of_true nofun nofun
  | shutdownServer hown =>
      rw [hown]
      exact ⟨fun h _ => h (.inr rfl), fun h _ => h (.inl rfl)⟩
  | publish _ hlock => exact iff_of_true (fun _ => rfl) fun hown => (hown.elim hlock.1 hlock.2).elim
  | registerAsync _ _ | start _ | finishCall _ | pop _ _ | popNull _ _ | construct _ _
  | register _ _ _ _ | next _ _ | newRpc _ _ _ _ _ _ _ | erase _ _ _ _ | ignore _ _ _ _
  | returned _ | exit _ _ _ | finish _ _ _ _ _ | arrive _ _ _ _ => exact Iff.rfl

theorem settled_iff_and : s.Settled ↔
    (s.owner = .shuttingDown ∨ s.owner = .shuttingQueue → s.published = true) ∧
      (s.queueShutdown = true → s.Quiet) :=
  ⟨fun h => ⟨h.published, h.quiet⟩, fun h => ⟨h.1, h.2⟩⟩

theorem Step.settled_iff (h : s.Sound) (hs : Step s a s') (hdoc : Documented s a)
    (hsafe : ¬ Unsafe s a) (hacquire : a ≠ .acquire) (hqueue : a ≠ .shutdownQueue) :
    s'.Settled ↔ s.Settled := by
  rw [settled_iff_and, settled_iff_and, hs.queueShutdown_eq hqueue]
  refine and_congr (hs.published_iff hacquire hqueue) (imp_congr_right fun hshut => ?_)
  exact hs.quiet_iff h hdoc hshut hsafe

/-- Before it takes the lock, the destructor has not used the pointers. -/
theorem Step.of_acquire (h : s.Sound) (hs : Step s .acquire s') :
    s.Settled ∧ (s'.Settled ↔ s.published = true) := by
  cases hs with
  | acquire hown _ =>
      have hopen := h.ordered.not_queueShutdown hown nofun nofun
      refine ⟨⟨by rw [hown]; nofun, fun hq => absurd hq hopen⟩, ?_, ?_⟩
      · intro h'
        exact h'.published (.inl rfl)
      · intro hpub
        exact ⟨fun _ => hpub, fun hq => absurd hq hopen⟩

/-- The queue is shut down through a pointer that is set. -/
theorem Step.of_shutdownQueue (h : s.Sound) (hs : Step s .shutdownQueue s') :
    (s.Settled ↔ s.published = true) ∧ (s.published = true → (s'.Settled ↔ s.Quiet)) := by
  cases hs with
  | shutdownQueue hown =>
      have hopen := h.ordered.not_queueShutdown hown nofun nofun
      refine ⟨⟨fun h' => h'.published (.inr hown), fun hpub => ⟨fun _ => hpub, fun hq =>
        absurd hq hopen⟩⟩, fun hpub => ⟨fun h' => ?_, fun hq => ?_⟩⟩
      · have hq := h'.quiet hpub
        exact ⟨hq.tasks, hq.accepts⟩
      · exact ⟨nofun, fun _ => ⟨hq.tasks, hq.accepts⟩⟩

/-- A settled server does nothing unsafe. -/
theorem Settled.not_unsafe (h : s.Settled) (hr : s.Inv) (hs : Step s a s') : ¬ Unsafe s a := by
  intro hbad
  cases hs with
  | shutdownServer hown => cases hbad.symm.trans (h.published (.inl hown))
  | shutdownQueue hown => cases hbad.symm.trans (h.published (.inr hown))
  | @register rpc _ _ hrun _ _ _ =>
      refine (h.quiet hbad).tasks rpc ?_
      rw [tasks, hrun]
      exact List.mem_cons_self
  | newRpc hrun _ hget hlabel _ _ _ =>
      obtain ⟨rfl, rfl⟩ := hr.of_getTag hrun hget
      obtain ⟨rpc, hkind⟩ := OpKind.label_eq_serverNewRpc hlabel
      exact (h.quiet hbad).accepts _ ⟨by rw [hkind]; rfl, .inl hrun⟩
  | registerAsync _ _ | start _ | destroy _ | acquire _ _ | join _ _ | finishCall _ | pop _ _
  | popNull _ _ | construct _ _ | publish _ _ | next _ _ | erase _ _ _ _ | ignore _ _ _ _
  | returned _ | exit _ _ _ | finish _ _ _ _ _ | arrive _ _ _ _ => exact hbad

theorem Settled.initial : (initial : AsyncServer Request Response Status).Settled where
  published := nofun
  quiet := nofun

/-- A server whose destructor has returned. -/
theorem Sound.settled (h : s.Sound) (hown : s.owner = .destroyed) : s.Settled := by
  have hexit := h.ordered.destroyed hown
  refine ⟨by rw [hown]; nofun, fun _ => ⟨fun rpc => h.tasked.notMem_tasks hexit _, ?_⟩⟩
  rintro op ⟨hsome, hrun | ⟨hmem, -⟩⟩
  · cases hexit.symm.trans hrun
  · rw [h.ordered.exited hexit op hmem] at hsome
    cases hsome

theorem settled_iff_timely (hr : Reachable (Restrict Step Documented) initial s) (h : s.Settled)
    (hs : Restrict Step Documented s a s') : s'.Settled ↔ Timely s a := by
  have hsound := AsyncReachable.sound hr.of_restrict
  obtain ⟨hs, hdoc⟩ := hs
  by_cases hacquire : a = .acquire
  · subst hacquire
    exact (hs.of_acquire hsound).2
  by_cases hqueue : a = .shutdownQueue
  · subst hqueue
    obtain ⟨hpub, hiff⟩ := hs.of_shutdownQueue hsound
    exact hiff (hpub.mp h)
  have hsafe := h.not_unsafe hsound.inv hs
  refine iff_of_true ((hs.settled_iff hsound hdoc hsafe hacquire hqueue).mpr h) ?_
  cases a <;> trivial

/-- A step that is not unsafe does not settle a server. -/
theorem settled_of_step (hr : Reachable (Restrict Step Documented) initial s)
    (hs : Restrict Step Documented s a s') (hsafe : ¬ Unsafe s a) (h' : s'.Settled) :
    s.Settled := by
  have hsound := AsyncReachable.sound hr.of_restrict
  obtain ⟨hs, hdoc⟩ := hs
  by_cases hacquire : a = .acquire
  · subst hacquire
    exact (hs.of_acquire hsound).1
  by_cases hqueue : a = .shutdownQueue
  · subst hqueue
    exact (hs.of_shutdownQueue hsound).1.mpr (eq_true_of_ne_false hsafe)
  exact (hs.settled_iff hsound hdoc hsafe hacquire hqueue).mp h'

/-- The teardown is safe if its steps are timely, and if the destructor returns only
then. -/
theorem safeTeardown_iff (run : DocumentedRun tr s) :
    ((∀ p ∈ tr, Timely p.1 p.2) → ∀ p ∈ tr, ¬ Unsafe p.1 p.2) ∧
      (s.owner = .destroyed →
        ((∀ p ∈ tr, ¬ Unsafe p.1 p.2) ↔ ∀ p ∈ tr, Timely p.1 p.2)) := by
  have havoids : ((∀ p ∈ tr, Timely p.1 p.2) → ∀ p ∈ tr, ¬ Unsafe p.1 p.2) ∧
      (s.Settled → ((∀ p ∈ tr, ¬ Unsafe p.1 p.2) ↔ ∀ p ∈ tr, Timely p.1 p.2)) :=
    run.avoids_iff .initial settled_iff_timely
      (fun hr h hs => h.not_unsafe (AsyncReachable.inv hr.of_restrict) hs.1) settled_of_step
  refine ⟨havoids.1, fun hown => havoids.2 ?_⟩
  exact (AsyncReachable.sound run.reachable.of_restrict).settled hown

/-- A server is destroyed before its run thread does anything. -/
theorem not_safeTeardown :
    ¬ ∀ tr (s : AsyncServer Nat Nat Nat), DocumentedRun tr s → ∀ p ∈ tr, ¬ Unsafe p.1 p.2 := by
  intro hall
  have r : DocumentedRun [] (initial : AsyncServer Nat Nat Nat) := .start
  have r := r.step ⟨.destroy rfl, trivial⟩
  have r := r.step ⟨.acquire rfl nofun, trivial⟩
  have r := r.step ⟨.shutdownServer rfl, trivial⟩
  exact hall _ _ r _ List.mem_cons_self rfl

/-- A call is answered, and the server is destroyed.  The queue is shut down while the run thread
has a failed accept in hand. -/
theorem safeTeardown_iff_answered :
    ∃ (tr : List (AsyncServer Nat Nat Nat × Action Nat Nat Nat)) (s : AsyncServer Nat Nat Nat),
      DocumentedRun tr s ∧ s.owner = .destroyed ∧
        (∃ p ∈ tr, p.2 = .finish 1 13 (.finish 7 0) false) ∧
        (∃ p ∈ tr, p.2 = .shutdownQueue ∧ p.1.runThread = .handling ⟨12, 2, .accept 0⟩ false) ∧
        ∀ p ∈ tr, ¬ Unsafe p.1 p.2 := by
  have r : DocumentedRun [] (initial : AsyncServer Nat Nat Nat) := .start
  have r := r.step ⟨.registerAsync rfl rfl, trivial⟩
  have r := r.step ⟨.start rfl, trivial⟩
  have r := r.step ⟨.pop rfl rfl, trivial⟩
  have r := r.step ⟨.construct rfl ⟨nofun, nofun⟩, trivial⟩
  have r := r.step ⟨.pop rfl rfl, trivial⟩
  have r := r.step ⟨.publish rfl ⟨nofun, nofun⟩, trivial⟩
  have r := r.step ⟨.pop rfl rfl, trivial⟩
  have r := r.step ⟨@Step.register _ _ _ _ 0 1 11 rfl ⟨nofun, nofun⟩ (AList.notMem_empty 1)
    (AList.notMem_empty 11), trivial⟩
  have r := r.step ⟨.popNull rfl rfl, trivial⟩
  have r := r.step ⟨@Step.arrive _ _ _ _ ⟨11, 1, .accept 0⟩ 0 ⟨0, none⟩ 7 List.mem_cons_self rfl
    rfl rfl, rfl⟩
  have r := r.step ⟨@Step.next _ _ _ _ ⟨11, 1, .accept 0⟩ [] [] true rfl rfl,
    fun _ => ⟨rfl, nofun⟩⟩
  have r := r.step ⟨@Step.newRpc _ _ _ _ _ _ _ _ 2 12 rfl ⟨nofun, nofun⟩ rfl rfl rfl
    (show 2 ∉ [1] by decide) (AList.notMem_empty 12), trivial⟩
  have r := r.step ⟨.returned rfl, trivial⟩
  have r := r.step ⟨@Step.finish _ _ _ _ 1 13 (.finish 7 0) false ⟨nofun, nofun⟩
    ⟨nofun, nofun⟩ List.mem_cons_self (show 13 ∉ [12] by decide) rfl, trivial⟩
  have r := r.step ⟨@Step.next _ _ _ _ ⟨13, 1, .finish 7 0⟩ [⟨12, 2, .accept 0⟩] [] true rfl rfl,
    nofun⟩
  have r := r.step ⟨@Step.erase _ _ _ _ _ _ _ _ rfl ⟨nofun, nofun⟩ rfl fun _ => rfl, trivial⟩
  have r := r.step ⟨.finishCall rfl, trivial⟩
  have r := r.step ⟨.destroy rfl, trivial⟩
  have r := r.step ⟨.acquire rfl nofun, trivial⟩
  have r := r.step ⟨.shutdownServer rfl, trivial⟩
  have r := r.step ⟨@Step.next _ _ _ _ ⟨12, 2, .accept 0⟩ [] [] false rfl rfl,
    fun _ => ⟨rfl, fun _ => rfl⟩⟩
  have r := r.step ⟨.shutdownQueue rfl, fun _ => rfl⟩
  have r := r.step ⟨@Step.erase _ _ _ _ _ _ _ _ rfl ⟨nofun, nofun⟩ rfl nofun, trivial⟩
  have r := r.step ⟨.exit rfl rfl rfl, trivial⟩
  have r := r.step ⟨.join rfl rfl, trivial⟩
  refine ⟨_, _, r, rfl, ?_, ?_, (safeTeardown_iff r).1 ?_⟩
  · simp
  · simp
  · simp only [List.forall_mem_cons]
    refine ⟨trivial, trivial, trivial, ⟨fun _ => List.not_mem_nil, ?_⟩, trivial, trivial, rfl,
      trivial, trivial, trivial, trivial, trivial, trivial, trivial, trivial, trivial, trivial,
      trivial, trivial, trivial, trivial, trivial, trivial, trivial, trivial, List.forall_mem_nil _⟩
    rintro op ⟨-, hrun | ⟨hmem, -⟩⟩
    · cases hrun
    · cases hmem

end AsyncServer

end Grpcw.NewArch
