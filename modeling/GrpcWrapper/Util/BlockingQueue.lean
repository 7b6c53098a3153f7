import GrpcWrapper.Library.Monitor

/-!
# The blocking queue

`BlockingQueue` is a `std::queue` under a lock, with a condition variable on
which `pop_front` waits.  Every member function is one section.  `push_back` and
`emplace_back` notify one waiting thread after theirs.  All other functions
notify nobody, and only `pop_front` waits.

`front` and `pop` are undefined on an empty `std::queue`.  Where the code may
come to that, the log says that `front` read `none`.
-/

namespace Grpcw.Util

variable {ι T : Type*}

/-- An element of the queue. -/
structure Entry (T : Type*) where
  /-- Which push it was; not part of the program. -/
  position : Nat
  value : T
deriving DecidableEq, Repr

/-- A section of the queue and what it returned. -/
inductive QueueEvent (ι T : Type*) where
  | push (entry : Entry T)
  /-- What `front` read, and how many elements are left. -/
  | popFront (front : Option (Entry T)) (left : Nat)
  /-- What `pop` removed, and what `front` read. -/
  | popAllButMostRecent (thread : ι) (dropped : List (Entry T)) (front : Option (Entry T))
  | empty (thread : ι) (result : Bool)
  | size (result : Nat)
  | clear (dropped : List (Entry T))
deriving DecidableEq, Repr

namespace QueueEvent

/-- The elements that a section has pushed. -/
def pushes : QueueEvent ι T → List (Entry T)
  | .push entry => [entry]
  | _ => []

/-- The element that a `pop_front` has returned. -/
def pops : QueueEvent ι T → List (Entry T)
  | .popFront front _ => front.toList
  | _ => []

/-- The elements that a section has removed and not returned. -/
def drops : QueueEvent ι T → List (Entry T)
  | .popAllButMostRecent _ dropped _ => dropped
  | .clear dropped => dropped
  | _ => []

end QueueEvent

structure BlockingQueue (ι T : Type*) where
  queue : List (Entry T)
  /-- The sections so far, newest first. -/
  log : List (QueueEvent ι T)

namespace BlockingQueue

def new : BlockingQueue ι T where
  queue := []
  log := []

/-- What `f` finds in the sections so far, in their order. -/
def history (f : QueueEvent ι T → List (Entry T)) (q : BlockingQueue ι T) : List (Entry T) :=
  Transition.recorded f q.log

/-- All elements that were pushed. -/
def pushed (q : BlockingQueue ι T) : List (Entry T) := q.history QueueEvent.pushes

/-- The elements that `pop_front` has returned. -/
def popped (q : BlockingQueue ι T) : List (Entry T) := q.history QueueEvent.pops

/-- The elements that were removed and not returned. -/
def dropped (q : BlockingQueue ι T) : List (Entry T) := q.history QueueEvent.drops

/-! ## The sections -/

/-- `push_back` -/
def pushBack (value : T) (q : BlockingQueue ι T) : BlockingQueue ι T where
  queue := q.queue ++ [⟨q.pushed.length, value⟩]
  log := .push ⟨q.pushed.length, value⟩ :: q.log

/-- `emplace_back`, which constructs the value in place. -/
def emplaceBack {Args : Type*} (construct : Args → T) (args : Args) (q : BlockingQueue ι T) :
    BlockingQueue ι T :=
  q.pushBack (construct args)

/-- `pop_front`, when it has stopped waiting. -/
def popFront (q : BlockingQueue ι T) : BlockingQueue ι T :=
  match q.queue with
  | [] => { q with log := .popFront none 0 :: q.log }
  | entry :: rest => ⟨rest, .popFront (some entry) rest.length :: q.log⟩

/-- `while (queue_.size() > n) { queue_.pop(); }`, with what it pops and what it
leaves. -/
def popWhile (n : Nat) : List (Entry T) → List (Entry T) × List (Entry T)
  | [] => ([], [])
  | entry :: rest =>
      if rest.length + 1 > n then
        (entry :: (popWhile n rest).1, (popWhile n rest).2)
      else ([], entry :: rest)

/-- `pop_all_but_most_recent` -/
def popAllButMostRecent (thread : ι) (q : BlockingQueue ι T) : BlockingQueue ι T where
  queue := (popWhile 1 q.queue).2
  log :=
    .popAllButMostRecent thread (popWhile 1 q.queue).1 (popWhile 1 q.queue).2.head? :: q.log

/-- `empty` -/
def empty (thread : ι) (q : BlockingQueue ι T) : BlockingQueue ι T :=
  { q with log := .empty thread q.queue.isEmpty :: q.log }

/-- `size` -/
def size (q : BlockingQueue ι T) : BlockingQueue ι T :=
  { q with log := .size q.queue.length :: q.log }

/-- `clear` -/
def clear (q : BlockingQueue ι T) : BlockingQueue ι T where
  queue := (popWhile 0 q.queue).2
  log := .clear (popWhile 0 q.queue).1 :: q.log

variable {q q' : BlockingQueue ι T} {e : QueueEvent ι T} {f : QueueEvent ι T → List (Entry T)}

/-- A section adds to the history. -/
theorem history_of_log (h : q'.log = e :: q.log) : q'.history f = q.history f ++ f e := by
  rw [history, h, Transition.recorded_cons, history]

theorem pushed_of_log (h : q'.log = e :: q.log) : q'.pushed = q.pushed ++ e.pushes :=
  history_of_log h

theorem popped_of_log (h : q'.log = e :: q.log) : q'.popped = q.popped ++ e.pops :=
  history_of_log h

theorem dropped_of_log (h : q'.log = e :: q.log) : q'.dropped = q.dropped ++ e.drops :=
  history_of_log h

/-- A section that has nothing to tell. -/
theorem history_eq_of_log (h : q'.log = e :: q.log) (he : f e = []) :
    q'.history f = q.history f := by
  rw [history_of_log h, he, List.append_nil]

@[simp] theorem popWhile_append (n : Nat) (l : List (Entry T)) :
    (popWhile n l).1 ++ (popWhile n l).2 = l := by
  induction l with
  | nil => rfl
  | cons entry rest ih =>
      rw [popWhile]
      split
      · exact congrArg (entry :: ·) ih
      · rfl

@[simp] theorem popWhile_zero (l : List (Entry T)) : popWhile 0 l = (l, []) := by
  induction l with
  | nil => rfl
  | cons entry rest ih => rw [popWhile, if_pos (Nat.succ_pos _), ih]

@[simp] theorem popWhile_one_concat (l : List (Entry T)) (entry : Entry T) :
    popWhile 1 (l ++ [entry]) = (l, [entry]) := by
  induction l with
  | nil => rfl
  | cons first rest ih =>
      rw [List.cons_append, popWhile, if_pos (by simp), ih]

/-! ## The threads -/

/-- The sections that do not wait. -/
inductive Section : ι → BlockingQueue ι T → BlockingQueue ι T → Bool → Prop where
  | pushBack {t : ι} {q : BlockingQueue ι T} (value : T) : Section t q (q.pushBack value) true
  | emplaceBack {t : ι} {q : BlockingQueue ι T} {Args : Type} (construct : Args → T)
      (args : Args) : Section t q (q.emplaceBack construct args) true
  | popAllButMostRecent {t : ι} {q : BlockingQueue ι T} :
      Section t q (q.popAllButMostRecent t) false
  | empty {t : ι} {q : BlockingQueue ι T} : Section t q (q.empty t) false
  | size {t : ι} {q : BlockingQueue ι T} : Section t q q.size false
  | clear {t : ι} {q : BlockingQueue ι T} : Section t q q.clear false

end BlockingQueue

/-- A queue with the threads that use it.  The calls are those of `pop_front`. -/
def queueMonitor (ι T : Type*) : Monitor ι Unit (BlockingQueue ι T) where
  ready q := q.queue ≠ []
  calls _ _ := True
  body _ q q' notify := q' = q.popFront ∧ notify = false
  other := BlockingQueue.Section

/-- What the threads of a queue can come to. -/
abbrev QueueReachable [DecidableEq ι] (cfg : Monitor.Config ι Unit (BlockingQueue ι T)) : Prop :=
  Transition.Reachable (queueMonitor ι T).Step (.start .new) cfg

end Grpcw.Util
