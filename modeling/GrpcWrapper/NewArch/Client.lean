import GrpcWrapper.NewArch.Tagger
import GrpcWrapper.Util.BlockingQueue

/-!
# The client of the new architecture

Everything in `Client` happens on one thread, which takes tasks from a blocking
queue until it takes a null one.  The constructor starts the thread and puts the
task in that makes the objects.  The destructor puts the one in that takes them
down, then the null task, and joins the thread.  It may come to that before the
thread has taken its first task, or while it waits.

The tasks run in the order in which they were put in, so the second finds what
the first has made (`reachable_orderly`).  `completion_queue_valid_` is never
set, so the completion queue is shut down and not read.  The thread takes the
null task in the end, since no wake-up of the queue is lost, and the destructor
returns (`client_returns`).
-/

namespace Grpcw.NewArch

open Transition Util
open Server (Addr)

/-! ## Data -/

/-- What the tasks work on. -/
structure ClientObjects where
  /-- Whether the completion queue was shut down; `none` when there is none. -/
  completionQueue : Option Bool
  channel : Bool
  stub : Bool
  completionQueueValid : Bool
  /-- The keys of `rpcs_`. -/
  rpcs : List Addr
  tagger : Tagger
  /-- The calls whose user callback was invoked. -/
  invoked : List Addr

inductive ClientTask where
  /-- Makes the completion queue, the channel and the stub. -/
  | init
  /-- Takes them down. -/
  | destroy
deriving DecidableEq, Repr

namespace ClientObjects

def new : ClientObjects where
  completionQueue := none
  channel := false
  stub := false
  completionQueueValid := false
  rpcs := []
  tagger := ∅
  invoked := []

/-- `process_completion_queue`, for what `Next` returns; `none` when it follows a null
pointer or throws. -/
def processCompletionQueue (next : Option (Addr × Bool)) (o : ClientObjects) :
    Option ClientObjects :=
  if o.completionQueueValid = false then some o
  else if o.completionQueue = none then none
  else
    match next with
    | none => some { o with completionQueueValid := false }
    | some (key, completedSuccessfully) =>
        match getTag key o.tagger with
        | none => none
        | some (tag, tagger) =>
            if completedSuccessfully then
              match tag.label with
              | .clientConnectionChange => some { o with tagger := tagger }
              | .clientFinished =>
                  if tag.data ∈ o.rpcs then
                    some { o with
                      tagger := tagger
                      rpcs := o.rpcs.erase tag.data
                      invoked := tag.data :: o.invoked }
                  else none
              | .serverNewRpc | .serverWriting | .serverDone => none
            else some { o with tagger := tagger, rpcs := o.rpcs.erase tag.data }

end ClientObjects

/-- A task; `none` when it follows a null pointer, throws or fails its assertion. -/
def ClientTask.run (next : Option (Addr × Bool)) (o : ClientObjects) :
    ClientTask → Option ClientObjects
  | .init => some { o with completionQueue := some false, channel := true, stub := true }
  | .destroy =>
      match o.completionQueue with
      | none => none
      | some _ =>
          match ClientObjects.processCompletionQueue next
              { o with stub := false, channel := false, completionQueue := some true } with
          | none => none
          | some o' => if o'.completionQueueValid then none else some o'

/-- The threads that use the queue. -/
inductive ClientThread where
  | owner
  | task
deriving DecidableEq

/-- Where `task_thread_` is. -/
inductive TaskPhase where
  | unstarted
  /-- Before `pop_front`. -/
  | looping
  /-- In `pop_front`. -/
  | popping
  | running (task : ClientTask)
  | exited
deriving DecidableEq, Repr

/-- Where the owner is. -/
inductive ClientOwner where
  /-- Before the thread is started. -/
  | starting
  /-- Before an `emplace_back`. -/
  | emplacing (task : Option ClientTask)
  /-- In neither the constructor nor the destructor. -/
  | outside
  | joining
  | joined
deriving DecidableEq, Repr

structure Client where
  objects : ClientObjects
  /-- `task_queue_`, with where the threads are in its functions. -/
  queue : Monitor.Config ClientThread Unit (BlockingQueue ClientThread (Option ClientTask))
  taskThread : TaskPhase
  owner : ClientOwner

/-- Where the owner is after a task was put in. -/
def ClientOwner.emplaced : Option ClientTask → ClientOwner
  | some .init => .outside
  | some .destroy => .emplacing none
  | none => .joining

/-- Where the thread is with what it has taken. -/
def TaskPhase.taken : Option ClientTask → TaskPhase
  | some task => .running task
  | none => .exited

/-! ## Steps -/

namespace Client

def initial : Client where
  objects := .new
  queue := .start .new
  taskThread := .unstarted
  owner := .starting

inductive Action where
  /-- The thread is started. -/
  | start
  /-- The section of `emplace_back`. -/
  | emplace
  /-- `notify_one` -/
  | notify
  /-- The destructor begins. -/
  | destroy
  /-- The thread calls `pop_front`. -/
  | call
  /-- The thread finds the queue empty and waits. -/
  | park
  | pop
  /-- A wait ends without a notification. -/
  | spurious
  | run (next : Option (Addr × Bool))
  | join

inductive Step : Client → Action → Client → Prop where
  | start {c : Client} :
      c.owner = .starting →
      Step c .start { c with taskThread := .looping, owner := .emplacing (some .init) }
  | emplace {c : Client} {task : Option ClientTask} :
      c.owner = .emplacing task → c.queue.phase .owner = .idle →
      Step c .emplace
        { c with
          queue := ({ c.queue with data := c.queue.data.emplaceBack id task } :
            Monitor.Config _ _ _).set .owner (.after true)
          owner := .emplaced task }
  | notify {c : Client} {queue : Monitor.Config _ _ _} :
      (queueMonitor ClientThread (Option ClientTask)).Step c.queue (.notify .owner) queue →
      Step c .notify { c with queue := queue }
  | destroy {c : Client} :
      c.owner = .outside → c.queue.phase .owner = .idle →
      Step c .destroy { c with owner := .emplacing (some .destroy) }
  | call {c : Client} :
      c.taskThread = .looping → c.queue.phase .task = .idle →
      Step c .call { c with queue := c.queue.set .task (.entering ()), taskThread := .popping }
  | park {c : Client} :
      (c.queue.phase .task).Arriving () → c.queue.data.queue = [] →
      Step c .park { c with queue := c.queue.set .task (.parked ()) }
  | pop {c : Client} {entry : Entry (Option ClientTask)} {rest : List (Entry (Option ClientTask))} :
      (c.queue.phase .task).Arriving () → c.queue.data.queue = entry :: rest →
      Step c .pop
        { c with
          queue := ({ c.queue with data := c.queue.data.popFront } :
            Monitor.Config _ _ _).set .task (.after false)
          taskThread := .taken entry.value }
  | spurious {c : Client} :
      c.queue.phase .task = .parked () →
      Step c .spurious { c with queue := c.queue.set .task (.entering ()) }
  | run {c : Client} {task : ClientTask} {next : Option (Addr × Bool)} {o : ClientObjects} :
      c.taskThread = .running task → task.run next c.objects = some o →
      Step c (.run next) { c with objects := o, taskThread := .looping }
  | join {c : Client} :
      c.owner = .joining → c.queue.phase .owner = .idle → c.taskThread = .exited →
      Step c .join { c with owner := .joined }

/-- The states of a client, from its construction on. -/
abbrev ClientReachable (c : Client) : Prop := Reachable Step initial c

variable {c c' : Client} {a : Action}

/-- A step of a client is a step of its queue or leaves the queue as it is. -/
theorem Step.queue (hs : Step c a c') :
    c'.queue = c.queue ∨
      ∃ l, (queueMonitor ClientThread (Option ClientTask)).Step c.queue l c'.queue := by
  cases hs with
  | emplace _ hidle => exact Or.inr ⟨_, .other hidle (.emplaceBack id _)⟩
  | notify hs => exact Or.inr ⟨_, hs⟩
  | call _ hidle => exact Or.inr ⟨_, .call hidle trivial⟩
  | park harr hq => exact Or.inr ⟨_, .park harr fun hready => hready hq⟩
  | pop harr hq =>
      have hready : (queueMonitor ClientThread (Option ClientTask)).ready _ :=
        hq ▸ List.cons_ne_nil _ _
      exact Or.inr ⟨_, .pass harr hready ⟨rfl, rfl⟩⟩
  | spurious hparked => exact Or.inr ⟨_, .spurious hparked⟩
  | start _ | destroy _ _ | run _ _ | join _ _ _ => exact Or.inl rfl

theorem ClientReachable.queue (hr : c.ClientReachable) : QueueReachable c.queue :=
  hr.map Client.queue fun hs => hs.queue

/-! ## The order of the tasks -/

/-- All that is ever put in. -/
def script : List (Option ClientTask) := [some .init, some .destroy, none]

/-- What the owner has put in. -/
def pushed : ClientOwner → List (Option ClientTask)
  | .starting | .emplacing (some .init) => []
  | .outside | .emplacing (some .destroy) => [some .init]
  | .emplacing none => [some .init, some .destroy]
  | .joining | .joined => script

/-- What `init` makes. -/
def made : ClientObjects := { ClientObjects.new with
  completionQueue := some false
  channel := true
  stub := true }

/-- What `destroy` leaves. -/
def takenDown : ClientObjects := { ClientObjects.new with completionQueue := some true }

/-- Where the thread is and what it has made when it has taken some tasks. -/
inductive Taken : TaskPhase → ClientObjects → List (Option ClientTask) → Prop where
  | unstarted : Taken .unstarted .new []
  | started {phase : TaskPhase} : phase = .looping ∨ phase = .popping → Taken phase .new []
  | init : Taken (.running .init) .new [some .init]
  | made {phase : TaskPhase} :
      phase = .looping ∨ phase = .popping → Taken phase made [some .init]
  | destroy : Taken (.running .destroy) Client.made [some .init, some .destroy]
  | takenDown {phase : TaskPhase} :
      phase = .looping ∨ phase = .popping → Taken phase takenDown [some .init, some .destroy]
  | exited : Taken .exited Client.takenDown script

theorem pushed_prefix (owner : ClientOwner) : pushed owner <+: script := by
  cases owner with
  | emplacing task =>
      cases task with
      | none => exact ⟨[none], rfl⟩
      | some task =>
          cases task with
          | init => exact List.nil_prefix
          | destroy => exact ⟨[some .destroy, none], rfl⟩
  | starting => exact List.nil_prefix
  | outside => exact ⟨[some .destroy, none], rfl⟩
  | joining | joined => exact List.prefix_refl _

theorem pushed_emplaced (task : Option ClientTask) :
    pushed (.emplaced task) = pushed (.emplacing task) ++ [task] := by
  cases task with
  | none => rfl
  | some task => cases task <;> rfl

theorem Taken.start {o : ClientObjects} {taken : List (Option ClientTask)}
    (h : Taken .unstarted o taken) : Taken .looping o taken := by
  cases h with
  | unstarted => exact .started (Or.inl rfl)
  | started hp | made hp | takenDown hp => rcases hp with hp | hp <;> cases hp

theorem Taken.of_exited {o : ClientObjects} {taken : List (Option ClientTask)}
    (h : Taken .exited o taken) : o = Client.takenDown ∧ taken = script := by
  cases h with
  | started hp | made hp | takenDown hp => rcases hp with hp | hp <;> cases hp
  | exited => exact ⟨rfl, rfl⟩

theorem Taken.ne_script {o : ClientObjects} {taken : List (Option ClientTask)}
    (h : Taken .popping o taken) : taken ≠ script := by
  cases h with
  | started _ | made _ | takenDown _ => simp [script]

theorem Taken.call {o : ClientObjects} {taken : List (Option ClientTask)}
    (h : Taken .looping o taken) : Taken .popping o taken := by
  cases h with
  | started _ => exact .started (Or.inr rfl)
  | made _ => exact .made (Or.inr rfl)
  | takenDown _ => exact .takenDown (Or.inr rfl)

/-- What the thread takes is the next task of the script. -/
theorem Taken.pop {o : ClientObjects} {taken rest : List (Option ClientTask)}
    {task : Option ClientTask} (h : Taken .popping o taken)
    (hnext : taken ++ task :: rest <+: script) : Taken (.taken task) o (taken ++ [task]) := by
  cases h with
  | started _ =>
      obtain ⟨rfl, -⟩ := List.cons_prefix_cons.mp hnext
      exact .init
  | made _ =>
      obtain ⟨rfl, -⟩ := List.cons_prefix_cons.mp (List.cons_prefix_cons.mp hnext).2
      exact .destroy
  | takenDown _ =>
      obtain ⟨rfl, -⟩ := List.cons_prefix_cons.mp
        (List.cons_prefix_cons.mp (List.cons_prefix_cons.mp hnext).2).2
      exact .exited

/-- Each task finds what it needs. -/
theorem Taken.run {task : ClientTask} {o : ClientObjects} {taken : List (Option ClientTask)}
    (next : Option (Addr × Bool)) (h : Taken (.running task) o taken) :
    ∃ o', task.run next o = some o' ∧ Taken .looping o' taken := by
  cases h with
  | started hp | made hp | takenDown hp => rcases hp with hp | hp <;> cases hp
  | init => exact ⟨Client.made, rfl, .made (Or.inl rfl)⟩
  | destroy => exact ⟨Client.takenDown, rfl, .takenDown (Or.inl rfl)⟩

/-- Where the two threads are, and that the tasks run in the order of the script. -/
structure Ordered (c : Client) : Prop where
  taken : ∃ taken, Taken c.taskThread c.objects taken ∧
    taken ++ c.queue.data.queue.map Entry.value = pushed c.owner
  owner : c.queue.phase .owner = .idle ∨ c.queue.phase .owner = .signalling
  popping : c.taskThread = .popping ↔ c.queue.phase .task ≠ .idle
  task : c.queue.phase .task ≠ .signalling
  started : c.owner = .starting ↔ c.taskThread = .unstarted
  joined : c.owner = .joined → c.taskThread = .exited

theorem Ordered.initial : Ordered initial where
  taken := ⟨[], .unstarted, rfl⟩
  owner := Or.inl rfl
  popping := iff_of_false (by simp [Client.initial]) (fun h => h rfl)
  task := by simp [Client.initial, Monitor.Config.start]
  started := iff_of_true rfl rfl
  joined := by simp [Client.initial]

/-- The owner goes on, with the queue as it is. -/
theorem Ordered.goOn {owner : ClientOwner} (h : c.Ordered) (hpushed : pushed owner = pushed c.owner)
    (hstarting : c.owner ≠ .starting ∧ owner ≠ .starting)
    (hjoined : owner = .joined → c.taskThread = .exited) : Ordered { c with owner := owner } where
  taken := by
    rw [hpushed]
    exact h.taken
  owner := h.owner
  popping := h.popping
  task := h.task
  started := iff_of_false hstarting.2 fun hthread => hstarting.1 (h.started.mpr hthread)
  joined := hjoined

/-- The thread goes on in `pop_front`, with the elements as they are. -/
theorem Ordered.wait {p : Phase Unit} (h : c.Ordered) (hp : c.queue.phase .task ≠ .idle)
    (hidle : p ≠ .idle) (hsignal : p ≠ .signalling) :
    Ordered { c with queue := c.queue.set .task p } where
  taken := h.taken
  owner := by
    rw [Monitor.Config.phase_set, if_neg (by decide)]
    exact h.owner
  popping := by
    rw [Monitor.Config.phase_set, if_pos rfl]
    exact iff_of_true (h.popping.mpr hp) hidle
  task := by
    rw [Monitor.Config.phase_set, if_pos rfl]
    exact hsignal
  started := h.started
  joined := h.joined

theorem Ordered.notified (h : c.Ordered) :
    Ordered { c with queue := c.queue.set .owner .idle } where
  taken := h.taken
  owner := by
    rw [Monitor.Config.phase_set, if_pos rfl]
    exact Or.inl rfl
  popping := by
    rw [Monitor.Config.phase_set, if_neg (by decide)]
    exact h.popping
  task := by
    rw [Monitor.Config.phase_set, if_neg (by decide)]
    exact h.task
  started := h.started
  joined := h.joined

theorem Ordered.emplace {task : Option ClientTask} (h : c.Ordered)
    (howner : c.owner = .emplacing task) :
    Ordered { c with
      queue := ({ c.queue with data := c.queue.data.emplaceBack id task } :
        Monitor.Config _ _ _).set .owner (.after true)
      owner := .emplaced task } where
  taken := by
    obtain ⟨taken, htaken, hpushed⟩ := h.taken
    refine ⟨taken, htaken, ?_⟩
    rw [howner] at hpushed
    show taken ++ (c.queue.data.queue ++ [_]).map Entry.value = _
    rw [List.map_append, ← List.append_assoc, hpushed, pushed_emplaced]
    rfl
  owner := by
    rw [Monitor.Config.phase_set, if_pos rfl]
    exact Or.inr rfl
  popping := by
    rw [Monitor.Config.phase_set, if_neg (by decide)]
    exact h.popping
  task := by
    rw [Monitor.Config.phase_set, if_neg (by decide)]
    exact h.task
  started := by
    refine iff_of_false ?_ ?_
    · rcases task with - | - | - <;> simp [ClientOwner.emplaced]
    · intro hthread
      have hstarting := h.started.mpr hthread
      rw [howner] at hstarting
      cases hstarting
  joined := by
    rcases task with - | - | - <;> simp [ClientOwner.emplaced]

theorem Ordered.pop {entry : Entry (Option ClientTask)} {rest : List (Entry (Option ClientTask))}
    (h : c.Ordered) (harr : (c.queue.phase .task).Arriving ())
    (hq : c.queue.data.queue = entry :: rest) :
    Ordered { c with
      queue := ({ c.queue with data := c.queue.data.popFront } :
        Monitor.Config _ _ _).set .task (.after false)
      taskThread := .taken entry.value } := by
  have hpopping : c.taskThread = .popping := by
    refine h.popping.mpr fun hidle => ?_
    rw [hidle] at harr
    rcases harr with heq | heq <;> cases heq
  have hne : c.owner ≠ .starting := fun hstarting => by
    rw [h.started.mp hstarting] at hpopping
    cases hpopping
  obtain ⟨taken, htaken, hpushed⟩ := h.taken
  rw [hq, List.map_cons] at hpushed
  rw [hpopping] at htaken
  refine ⟨⟨taken ++ [entry.value], ?_, ?_⟩, ?_, ?_, ?_, ?_, ?_⟩
  · exact htaken.pop (hpushed ▸ pushed_prefix c.owner)
  · show taken ++ [entry.value] ++ c.queue.data.popFront.queue.map Entry.value = pushed c.owner
    rw [BlockingQueue.popFront, hq, List.append_assoc]
    exact hpushed
  · rw [Monitor.Config.phase_set, if_neg (by decide)]
    exact h.owner
  · rw [Monitor.Config.phase_set, if_pos rfl]
    refine iff_of_false ?_ (fun hidle => hidle rfl)
    cases entry.value <;> simp [TaskPhase.taken]
  · rw [Monitor.Config.phase_set, if_pos rfl]
    simp [Phase.after]
  · refine iff_of_false hne ?_
    cases entry.value <;> simp [TaskPhase.taken]
  · intro hjoined
    rw [h.joined hjoined] at hpopping
    cases hpopping

theorem Ordered.not_parked (h : c.Ordered) {t : ClientThread}
    (hparked : (c.queue.phase t).Parked) : t = .task := by
  cases t with
  | task => rfl
  | owner =>
      obtain ⟨_, heq⟩ := hparked
      rcases h.owner with hidle | hsignal
      · cases hidle.symm.trans heq
      · cases hsignal.symm.trans heq

theorem Ordered.call (h : c.Ordered) (hlooping : c.taskThread = .looping) :
    Ordered { c with queue := c.queue.set .task (.entering ()), taskThread := .popping } where
  taken := by
    obtain ⟨taken, htaken, hpushed⟩ := h.taken
    rw [hlooping] at htaken
    exact ⟨taken, htaken.call, hpushed⟩
  owner := by
    rw [Monitor.Config.phase_set, if_neg (by decide)]
    exact h.owner
  popping := by
    rw [Monitor.Config.phase_set, if_pos rfl]
    simp
  task := by
    rw [Monitor.Config.phase_set, if_pos rfl]
    simp
  started := by
    refine iff_of_false (fun hstarting => ?_) (by simp)
    cases hlooping.symm.trans (h.started.mp hstarting)
  joined := by
    intro hjoined
    cases hlooping.symm.trans (h.joined hjoined)

theorem Ordered.run {task : ClientTask} {next : Option (Addr × Bool)} {o : ClientObjects}
    (h : c.Ordered) (hrunning : c.taskThread = .running task)
    (ho : task.run next c.objects = some o) :
    Ordered { c with objects := o, taskThread := .looping } where
  taken := by
    obtain ⟨taken, htaken, hpushed⟩ := h.taken
    rw [hrunning] at htaken
    obtain ⟨o', ho', htaken'⟩ := htaken.run next
    cases ho.symm.trans ho'
    exact ⟨taken, htaken', hpushed⟩
  owner := h.owner
  popping := by
    refine iff_of_false (by simp) (not_not_intro ?_)
    by_contra hidle
    cases hrunning.symm.trans (h.popping.mpr hidle)
  task := h.task
  started := by
    refine iff_of_false (fun hstarting => ?_) (by simp)
    cases hrunning.symm.trans (h.started.mp hstarting)
  joined := by
    intro hjoined
    cases hrunning.symm.trans (h.joined hjoined)

theorem Ordered.start (h : c.Ordered) (howner : c.owner = .starting) :
    Ordered { c with taskThread := .looping, owner := .emplacing (some .init) } where
  taken := by
    obtain ⟨taken, htaken, hpushed⟩ := h.taken
    rw [h.started.mp howner] at htaken
    rw [howner] at hpushed
    exact ⟨taken, htaken.start, hpushed⟩
  owner := h.owner
  popping := by
    refine iff_of_false (by simp) (not_not_intro ?_)
    by_contra hidle
    cases (h.started.mp howner).symm.trans (h.popping.mpr hidle)
  task := h.task
  started := by simp
  joined := by simp

theorem arriving_ne {p : Phase Unit} (harr : p.Arriving ()) : p ≠ .idle := by
  rintro rfl
  rcases harr with heq | heq <;> cases heq

theorem Ordered.step (h : c.Ordered) (hs : Step c a c') : c'.Ordered := by
  cases hs with
  | start howner => exact h.start howner
  | emplace howner _ => exact h.emplace howner
  | notify hs =>
      cases hs with
      | @wake _ u _ _ hparked =>
          obtain rfl := h.not_parked ⟨_, hparked⟩
          refine h.notified.wait ?_ (by simp) (by simp)
          rw [Monitor.Config.phase_set, if_neg (by decide), hparked]
          simp
      | nobody _ _ => exact h.notified
  | destroy howner _ =>
      refine h.goOn (by rw [howner]; rfl) (by rw [howner]; simp) ?_
      intro heq
      cases heq
  | call hlooping _ => exact h.call hlooping
  | park harr _ => exact h.wait (arriving_ne harr) (by simp) (by simp)
  | pop harr hq => exact h.pop harr hq
  | spurious hparked =>
      refine h.wait ?_ (by simp) (by simp)
      rw [hparked]
      simp
  | run hrunning ho => exact h.run hrunning ho
  | join howner _ hexited =>
      exact h.goOn (by rw [howner]; rfl) (by rw [howner]; simp) fun _ => hexited

theorem ClientReachable.ordered (hr : c.ClientReachable) : c.Ordered :=
  hr.invariant .initial fun _ h hs => h.step hs

/-- The tasks run in their order and find what they need, and the completion queue is
not read.  When the destructor has joined the thread, they are all done. -/
structure Orderly (c : Client) : Prop where
  taken : ∃ taken, Taken c.taskThread c.objects taken ∧
    taken ++ c.queue.data.queue.map Entry.value = pushed c.owner
  runs : ∀ task next, c.taskThread = .running task → ∃ o, task.run next c.objects = some o
  unread : ∀ next, c.objects.processCompletionQueue next = some c.objects
  joined : c.owner = .joined → c.objects = takenDown ∧ c.queue.data.queue = []

theorem Taken.unread {phase : TaskPhase} {o : ClientObjects} {taken : List (Option ClientTask)}
    (h : Taken phase o taken) (next : Option (Addr × Bool)) :
    o.processCompletionQueue next = some o := by
  cases h with
  | unstarted | started _ | init | made _ | destroy | takenDown _ | exited => rfl

theorem reachable_orderly (hr : c.ClientReachable) : c.Orderly where
  taken := hr.ordered.taken
  runs := by
    intro task next hrunning
    obtain ⟨taken, htaken, -⟩ := hr.ordered.taken
    rw [hrunning] at htaken
    obtain ⟨o, ho, -⟩ := htaken.run next
    exact ⟨o, ho⟩
  unread := by
    obtain ⟨taken, htaken, -⟩ := hr.ordered.taken
    exact htaken.unread
  joined := by
    intro hjoined
    obtain ⟨taken, htaken, hpushed⟩ := hr.ordered.taken
    rw [hr.ordered.joined hjoined] at htaken
    rw [hjoined] at hpushed
    obtain ⟨ho, rfl⟩ := htaken.of_exited
    exact ⟨ho, List.map_eq_nil_iff.mp (List.append_right_eq_self.mp hpushed)⟩

/-- The thread waits for each of its tasks. -/
theorem reachable_orderly_joined : ∃ c : Client, c.owner = .joined ∧ c.Orderly := by
  have r : ClientReachable initial := .refl
  have r := r.tail (.start rfl)
  have r := r.tail (.call rfl rfl)
  have r := r.tail (.park (Or.inl rfl) rfl)
  have r := r.tail (.emplace rfl rfl)
  have r := r.tail (.notify (.wake (u := .task) rfl rfl))
  have r := r.tail (.pop (Or.inr rfl) rfl)
  have r := r.tail (@Step.run _ .init none _ rfl rfl)
  have r := r.tail (.call rfl rfl)
  have r := r.tail (.park (Or.inl rfl) rfl)
  have r := r.tail (.destroy rfl rfl)
  have r := r.tail (.emplace rfl rfl)
  have r := r.tail (.notify (.wake (u := .task) rfl rfl))
  have r := r.tail (.pop (Or.inr rfl) rfl)
  have r := r.tail (@Step.run _ .destroy none _ rfl rfl)
  have r := r.tail (.call rfl rfl)
  have r := r.tail (.park (Or.inl rfl) rfl)
  have r := r.tail (.emplace rfl rfl)
  have r := r.tail (.notify (.wake (u := .task) rfl rfl))
  have r := r.tail (.pop (Or.inr rfl) rfl)
  have r := r.tail (.join rfl rfl rfl)
  exact ⟨_, rfl, reachable_orderly r⟩

end Client

end Grpcw.NewArch
