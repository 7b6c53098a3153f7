import GrpcWrapper.Library.SoleCaller
import GrpcWrapper.NewArch.Client
import GrpcWrapper.Util.QueueWakeup

/-!
# The destructor of the client

The destructor waits for the thread, which waits for tasks.  The thread may be in
the wait when the destructor begins, before it, or with a task.  No wake-up of
the queue is lost, so it takes the null task in the end (`client_returns`).
Waits that end without a notification only add to the bound.
-/

namespace Grpcw.NewArch

open Transition Util

namespace Client

variable {c c' : Client} {a : Action}

/-! ## What is left to do -/

/-- What the owner has to go in the destructor. -/
def ownerToGo : ClientOwner → Nat
  | .emplacing (some .destroy) => 17
  | .emplacing none => 9
  | .joining => 1
  | .starting | .emplacing (some .init) | .outside | .joined => 0

/-- The destructor has begun, and has not returned. -/
def Destroying (c : Client) : Prop := ownerToGo c.owner ≠ 0

/-- What the thread has to go with a task. -/
def taskToGo : TaskPhase → Nat
  | .running _ => 4
  | .looping => 3
  | .unstarted | .popping | .exited => 0

/-- What the two threads have to go, with what is in the queue. -/
def threadsToGo (owner : ClientOwner) (phase : TaskPhase)
    (queue : Monitor.Config ClientThread Unit (BlockingQueue ClientThread (Option ClientTask))) :
    Nat :=
  ownerToGo owner + (queue.phase .owner).weight + taskToGo phase + (queue.phase .task).weight +
    4 * queue.data.queue.length

/-- A bound on the steps that the destructor waits for. -/
def toGo (c : Client) : Nat := threadsToGo c.owner c.taskThread c.queue

/-- All steps but the end of a wait without a notification. -/
def Helps (_ : Client) (a : Action) : Prop := a ≠ .spurious

def setBack (_ : Client) : Action → Nat
  | .spurious => 1
  | _ => 0

theorem Destroying.owner_cases (h : c.Destroying) :
    c.owner = .emplacing (some .destroy) ∨ c.owner = .emplacing none ∨ c.owner = .joining := by
  rw [Destroying] at h
  rcases howner : c.owner with - | (- | - | -) | - | - | - <;> simp [howner, ownerToGo] at h ⊢

theorem ownerToGo_emplaced {task : Option ClientTask} (h : c.Destroying)
    (howner : c.owner = .emplacing task) :
    ownerToGo (.emplaced task) ≠ 0 ∧ ownerToGo (.emplaced task) + 8 = ownerToGo c.owner := by
  rcases h.owner_cases with heq | heq | heq
  · cases howner.symm.trans heq
    rw [howner]
    decide
  · cases howner.symm.trans heq
    rw [howner]
    decide
  · cases howner.symm.trans heq

variable {owner : ClientOwner} {phase : TaskPhase} {p : Phase Unit}
  {queue : Monitor.Config ClientThread Unit (BlockingQueue ClientThread (Option ClientTask))}

theorem threadsToGo_owner : threadsToGo owner phase (queue.set .owner p) =
    ownerToGo owner + p.weight + taskToGo phase + (queue.phase .task).weight +
      4 * queue.data.queue.length := by
  rw [threadsToGo, Monitor.Config.phase_set, if_pos rfl, Monitor.Config.phase_set,
    if_neg (by decide), Monitor.Config.data_set]

theorem threadsToGo_task : threadsToGo owner phase (queue.set .task p) =
    ownerToGo owner + (queue.phase .owner).weight + taskToGo phase + p.weight +
      4 * queue.data.queue.length := by
  rw [threadsToGo, Monitor.Config.phase_set, if_neg (by decide), Monitor.Config.phase_set,
    if_pos rfl, Monitor.Config.data_set]

/-- All other steps leave less to do. -/
theorem lower (hr : c.ClientReachable) (h : c.Destroying) (ha : a ≠ .spurious)
    (hs : Step c a c') : c'.owner = .joined ∨ c'.Destroying ∧ c'.toGo < c.toGo := by
  cases hs with
  | start howner | destroy howner _ =>
      rw [Destroying, howner] at h
      exact absurd rfl h
  | join _ _ _ => exact Or.inl rfl
  | spurious _ => exact absurd rfl ha
  | @emplace task howner hidle =>
      obtain ⟨hne, hle⟩ := ownerToGo_emplaced h howner
      have hlength : (c.queue.data.emplaceBack id task).queue.length =
          c.queue.data.queue.length + 1 := List.length_append
      refine Or.inr ⟨hne, ?_⟩
      rw [toGo, threadsToGo_owner, hlength, Phase.after, if_pos rfl, Phase.weight_signalling, toGo,
        threadsToGo]
      dsimp only
      omega
  | notify hs =>
      cases hs with
      | wake hsignal hparked =>
          obtain rfl := hr.ordered.not_parked ⟨_, hparked⟩
          refine Or.inr ⟨h, ?_⟩
          rw [toGo, threadsToGo_task, Monitor.Config.phase_set, if_pos rfl, toGo, threadsToGo,
            hsignal, hparked, Monitor.Config.data_set]
          simp only [Phase.weight_idle, Phase.weight_woken, Phase.weight_signalling,
            Phase.weight_parked]
          omega
      | nobody hsignal _ =>
          refine Or.inr ⟨h, ?_⟩
          rw [toGo, threadsToGo_owner, toGo, threadsToGo, hsignal]
          simp only [Phase.weight_idle, Phase.weight_signalling]
          omega
  | call hlooping hidle =>
      refine Or.inr ⟨h, ?_⟩
      rw [toGo, threadsToGo_task, toGo, threadsToGo, hlooping, hidle]
      simp only [Phase.weight_entering, Phase.weight_idle, taskToGo]
      omega
  | park harr _ =>
      refine Or.inr ⟨h, ?_⟩
      rw [toGo, threadsToGo_task, toGo, threadsToGo, Phase.weight_of_arriving harr]
      simp only [Phase.weight_parked]
      omega
  | @pop entry rest harr hq =>
      have hlength : c.queue.data.popFront.queue = rest := by
        rw [BlockingQueue.popFront, hq]
      have htask : taskToGo (.taken entry.value) ≤ 4 := by
        cases entry.value <;> simp [TaskPhase.taken, taskToGo]
      refine Or.inr ⟨h, ?_⟩
      rw [toGo, threadsToGo_task, hlength, Phase.after, if_neg Bool.false_ne_true,
        Phase.weight_idle, toGo, threadsToGo, hq, List.length_cons, Phase.weight_of_arriving harr]
      dsimp only
      omega
  | run hrunning _ =>
      refine Or.inr ⟨h, ?_⟩
      rw [toGo, threadsToGo, toGo, threadsToGo, hrunning]
      simp only [taskToGo]
      omega

/-- A wait that ends without a notification sets the thread back by a step. -/
theorem keep (h : c.Destroying) (ha : a = .spurious) (hs : Step c a c') :
    c'.Destroying ∧ c'.toGo ≤ c.toGo + setBack c a := by
  subst ha
  cases hs with
  | spurious hparked =>
      refine ⟨h, ?_⟩
      rw [toGo, threadsToGo_task, toGo, threadsToGo, hparked, setBack]
      simp only [Phase.weight_entering, Phase.weight_parked]
      omega

/-! ## What can be done -/

/-- A thread that waits with nobody about to notify it finds no element. -/
theorem queue_nil_of_parked (hr : c.ClientReachable) (hidle : c.queue.phase .owner = .idle)
    (hparked : c.queue.phase .task = .parked ()) : c.queue.data.queue = [] := by
  by_contra hready
  obtain ⟨t, ht⟩ := BlockingQueue.stocked.noLostWakeup hr.queue hready ⟨.task, (), hparked⟩
  cases t with
  | owner =>
      rw [hidle] at ht
      exact Phase.not_wakeUp_idle ht
  | task =>
      rw [hparked] at ht
      exact Phase.not_parked_of_wakeUp ht (Phase.parked_parked ())

/-- In `pop_front` the thread can go on, unless it waits for the owner. -/
theorem live_popping (hr : c.ClientReachable) (hidle : c.queue.phase .owner = .idle)
    (hpopping : c.taskThread = .popping) (hpushed : pushed c.owner = script) :
    ∃ a c', Helps c a ∧ Step c a c' := by
  have harr : (c.queue.phase .task).Arriving () → ∃ a c', Helps c a ∧ Step c a c' := by
    intro harr
    cases hq : c.queue.data.queue with
    | nil => exact ⟨_, _, by simp [Helps], .park harr hq⟩
    | cons entry rest => exact ⟨_, _, by simp [Helps], .pop harr hq⟩
  have hbusy := hr.ordered.popping.mp hpopping
  cases hphase : c.queue.phase .task with
  | idle => exact absurd hphase hbusy
  | signalling => exact absurd hphase hr.ordered.task
  | entering _ => exact harr (Or.inl hphase)
  | woken _ => exact harr (Or.inr hphase)
  | parked _ =>
      obtain ⟨taken, htaken, heq⟩ := hr.ordered.taken
      rw [queue_nil_of_parked hr hidle hphase, List.map_nil, List.append_nil, hpushed] at heq
      rw [hpopping] at htaken
      exact absurd heq htaken.ne_script

theorem live (hr : c.ClientReachable) (h : c.Destroying) :
    ∃ a c', Helps c a ∧ Step c a c' := by
  rcases hr.ordered.owner with hidle | hsignal
  · by_cases howner : c.owner = .joining
    · cases hthread : c.taskThread with
      | unstarted =>
          cases howner.symm.trans (hr.ordered.started.mpr hthread)
      | looping =>
          have htask : c.queue.phase .task = .idle := by
            by_contra hbusy
            cases hthread.symm.trans (hr.ordered.popping.mpr hbusy)
          exact ⟨_, _, by simp [Helps], .call hthread htask⟩
      | popping => exact live_popping hr hidle hthread (by rw [howner]; rfl)
      | running task =>
          obtain ⟨taken, htaken, -⟩ := hr.ordered.taken
          rw [hthread] at htaken
          obtain ⟨o, ho, -⟩ := htaken.run none
          exact ⟨_, _, by simp [Helps], .run hthread ho⟩
      | exited => exact ⟨_, _, by simp [Helps], .join howner hidle hthread⟩
    · rcases h.owner_cases with heq | heq | heq
      · exact ⟨_, _, by simp [Helps], .emplace heq hidle⟩
      · exact ⟨_, _, by simp [Helps], .emplace heq hidle⟩
      · exact absurd heq howner
  · by_cases hparked : c.queue.phase .task = .parked ()
    · exact ⟨_, _, by simp [Helps], .notify (.wake hsignal hparked)⟩
    · refine ⟨_, _, by simp [Helps], .notify (.nobody hsignal fun t ht => hparked ?_)⟩
      obtain rfl := hr.ordered.not_parked ht
      obtain ⟨_, heq⟩ := ht
      exact heq

/-- The destructor returns, whatever the threads have come to when it begins. -/
theorem client_returns (hr : c.ClientReachable) (h : c.Destroying) :
    Advances Step Helps setBack (fun c => c.owner = .joined) c.toGo c := by
  refine advances_of_measure (I := fun c => c.ClientReachable ∧ c.Destroying) toGo ?_ ?_ ?_ ⟨hr, h⟩
  · intro c a c' ⟨hr, h⟩ ha hs
    exact (lower hr h ha hs).imp_right fun ⟨h', hlt⟩ => ⟨⟨hr.tail hs, h'⟩, hlt⟩
  · intro c a c' ⟨hr, h⟩ ha hs
    obtain ⟨h', hle⟩ := keep h (not_not.mp ha) hs
    exact Or.inr ⟨⟨hr.tail hs, h'⟩, hle⟩
  · intro c ⟨hr, h⟩ _
    exact live hr h

/-- The destructor begins when the thread has just been woken for its first task. -/
theorem client_returns_woken : ∃ c : Client, c.queue.phase .task = .woken () ∧
    Advances Step Helps setBack (fun c => c.owner = .joined) c.toGo c := by
  have r : ClientReachable initial := .refl
  have r := r.tail (.start rfl)
  have r := r.tail (.call rfl rfl)
  have r := r.tail (.park (Or.inl rfl) rfl)
  have r := r.tail (.emplace rfl rfl)
  have r := r.tail (.notify (.wake (u := .task) rfl rfl))
  have r := r.tail (.destroy rfl rfl)
  exact ⟨_, rfl, client_returns r (by simp [Destroying, ownerToGo])⟩

end Client

end Grpcw.NewArch
