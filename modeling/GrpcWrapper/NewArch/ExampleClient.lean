import GrpcWrapper.Library.Transition

/-!
# The example client of the new architecture

`toggle_streaming` cancels the stream and joins its thread if there is a
context, and starts a thread if there is none.  It is the thread that makes the
context, in a section of its own, and so there may be a thread and no context
yet.  A `toggle_streaming` or a destructor that has the lock then takes it that there
is no stream.  It assigns to `stream_thread_`, or destroys it, while it is joinable,
and the process is terminated (`terminates_iff`).

The context is never reset.  Once the stream was opened, all that
`toggle_streaming` does is to cancel it again.
-/

namespace Grpcw.NewArch

open Transition

/-! ## Data -/

/-- Where the thread of the stream is. -/
inductive StreamPhase where
  /-- Before the section that opens the stream. -/
  | locking
  /-- In its loop. -/
  | reading
  | exited
deriving DecidableEq, Repr

/-- Where the owner of the client is. -/
inductive ToggleOwner where
  | idle
  /-- `toggle_streaming` has found no context, and is before the assignment. -/
  | launching
  /-- Has the lock and is before `join`, in `toggle_streaming` or in the destructor. -/
  | joining (destroying : Bool)
  /-- Before `stream_thread_` is destroyed. -/
  | ending
  | ended
  /-- `std::terminate` was called. -/
  | terminated
deriving DecidableEq, Repr

structure ExampleClient where
  /-- `stream_context_` is set. -/
  context : Bool
  /-- `stream_thread_`, if it is joinable. -/
  thread : Option StreamPhase
  owner : ToggleOwner
  /-- How often the stream was opened; not part of the program. -/
  opened : Nat
deriving DecidableEq, Repr

namespace ExampleClient

def initial : ExampleClient where
  context := false
  thread := none
  owner := .idle
  opened := 0

/-! ## Steps -/

/-- The section of `toggle_streaming`. -/
def toggle (c : ExampleClient) : ExampleClient :=
  { c with owner := if c.context then .joining false else .launching }

/-- `stream_thread_ = std::thread(…)` -/
def launch (c : ExampleClient) : ExampleClient :=
  match c.thread with
  | none => { c with thread := some .locking, owner := .idle }
  | some _ => { c with owner := .terminated }

/-- The section of the destructor. -/
def destroy (c : ExampleClient) : ExampleClient :=
  { c with owner := if c.context then .joining true else .ending }

/-- The destructor of `stream_thread_`. -/
def finish (c : ExampleClient) : ExampleClient :=
  { c with owner := if c.thread = none then .ended else .terminated }

inductive Action where
  | toggle
  | launch
  /-- `join` returns, or is not called. -/
  | joined
  | destroy
  | finish
  /-- The thread takes the lock and opens the stream. -/
  | openStream
  /-- `Read` returns false. -/
  | readEnd
deriving DecidableEq, Repr

inductive Step : ExampleClient → Action → ExampleClient → Prop where
  | toggle {c : ExampleClient} : c.owner = .idle → Step c .toggle c.toggle
  | launch {c : ExampleClient} : c.owner = .launching → Step c .launch c.launch
  | joined {c : ExampleClient} {destroying : Bool} :
      c.owner = .joining destroying → (∀ phase, c.thread = some phase → phase = .exited) →
      Step c .joined
        { c with thread := none, owner := if destroying then .ending else .idle }
  | destroy {c : ExampleClient} : c.owner = .idle → Step c .destroy c.destroy
  | finish {c : ExampleClient} : c.owner = .ending → Step c .finish c.finish
  | openStream {c : ExampleClient} :
      c.thread = some .locking → (∀ destroying, c.owner ≠ .joining destroying) →
      c.owner ≠ .terminated →
      Step c .openStream { c with context := true, thread := some .reading, opened := c.opened + 1 }
  | readEnd {c : ExampleClient} :
      c.thread = some .reading → c.owner ≠ .terminated →
      Step c .readEnd { c with thread := some .exited }

abbrev ExampleReachable (c : ExampleClient) : Prop := Reachable Step initial c

abbrev ExampleRun (tr : List (ExampleClient × Action)) (c : ExampleClient) : Prop :=
  Run Step initial tr c

variable {c c' : ExampleClient} {a : Action} {tr : List (ExampleClient × Action)}

/-! ## The stream is opened once -/

/-- What the thread and the owner know of the context. -/
structure OpenedOnce (c : ExampleClient) : Prop where
  opened : c.opened = if c.context then 1 else 0
  /-- A thread that has not opened the stream is the only one without a context. -/
  thread : c.context = false ↔ c.thread = some .locking ∨ c.thread = none ∧ c.opened = 0
  launching : c.owner = .launching → c.thread = none → c.opened = 0
  joining : ∀ destroying, c.owner = .joining destroying → c.context = true

theorem OpenedOnce.initial : OpenedOnce initial where
  opened := rfl
  thread := by decide
  launching := fun _ _ => rfl
  joining := by
    intro _ heq
    cases heq

theorem OpenedOnce.le (h : c.OpenedOnce) : c.opened ≤ 1 := by
  rw [h.opened]
  split
  · exact Nat.le_refl 1
  · exact Nat.zero_le 1

/-- The owner goes on, with the thread and the context as they are. -/
theorem OpenedOnce.goOn {owner : ToggleOwner} (h : c.OpenedOnce)
    (hlaunching : owner = .launching → c.context = false)
    (hjoining : ∀ destroying, owner = .joining destroying → c.context = true) :
    OpenedOnce { c with owner := owner } where
  opened := h.opened
  thread := h.thread
  launching := by
    intro heq _
    have hopened := h.opened
    rw [hlaunching heq] at hopened
    exact hopened
  joining := hjoining

theorem OpenedOnce.step (h : c.OpenedOnce) (hs : Step c a c') : c'.OpenedOnce := by
  cases hs with
  | toggle _ | destroy _ => refine h.goOn ?_ ?_ <;> cases c.context <;> simp
  | launch howner =>
      rw [launch]
      split
      · rename_i hthread
        have hcontext := h.thread.mpr (Or.inr ⟨hthread, h.launching howner hthread⟩)
        refine ⟨h.opened, iff_of_true hcontext (Or.inl rfl), ?_, ?_⟩
        · intro heq
          cases heq
        · intro _ heq
          cases heq
      · exact h.goOn (by simp) (by simp)
  | joined howner _ =>
      have hcontext := h.joining _ howner
      have hopened := h.opened
      rw [hcontext, if_pos rfl] at hopened
      refine ⟨h.opened, iff_of_false ?_ ?_, ?_, ?_⟩
      · rw [hcontext]
        simp
      · simp [hopened]
      · intro heq
        split at heq <;> cases heq
      · exact fun _ _ => hcontext
  | finish _ => refine h.goOn ?_ ?_ <;> split <;> simp
  | openStream hthread hfree _ =>
      have hopened := h.opened
      rw [h.thread.mpr (Or.inl hthread), if_neg Bool.false_ne_true] at hopened
      refine ⟨congrArg Nat.succ hopened, iff_of_false (by simp) (by simp), ?_, fun _ _ => rfl⟩
      intro _ heq
      cases heq
  | readEnd hthread _ =>
      have hcontext : c.context ≠ false := by
        intro heq
        rcases h.thread.mp heq with hlocking | ⟨hnone, -⟩
        · cases hthread.symm.trans hlocking
        · cases hthread.symm.trans hnone
      refine ⟨h.opened, iff_of_false hcontext (by simp), ?_, h.joining⟩
      intro _ heq
      cases heq

theorem ExampleReachable.openedOnce (hr : c.ExampleReachable) : c.OpenedOnce :=
  hr.invariant .initial fun _ h hs => h.step hs

/-! ## Termination of the process -/

/-- `std::terminate` is called: a joinable thread is assigned to, or destroyed. -/
def Terminates (c : ExampleClient) : Action → Prop
  | .launch | .finish => c.thread ≠ none
  | _ => False

/-- `toggle_streaming` and the destructor do not have the lock while the thread has yet to
open the stream. -/
def Guard (c : ExampleClient) : Action → Prop
  | .toggle | .destroy => c.thread ≠ some .locking
  | _ => True

/-- The process will not be terminated by what the owner is doing. -/
def Settled (c : ExampleClient) : Prop :=
  c.owner = .launching ∨ c.owner = .ending → c.thread = none

theorem settled_of_owner (hlaunching : c.owner ≠ .launching) (hending : c.owner ≠ .ending) :
    c.Settled := by
  rintro (heq | heq)
  · exact absurd heq hlaunching
  · exact absurd heq hending

/-- While there is a thread, the owner is not about to replace it. -/
theorem Settled.not_owner (h : c.Settled) (hthread : c.thread ≠ none) :
    c.owner ≠ .launching ∧ c.owner ≠ .ending :=
  ⟨fun heq => hthread (h (Or.inl heq)), fun heq => hthread (h (Or.inr heq))⟩

/-- The owner looks for a context. -/
theorem OpenedOnce.settled_iff (h : c.OpenedOnce) {found missing : ToggleOwner}
    (hfound : found ≠ .launching ∧ found ≠ .ending)
    (hmissing : missing = .launching ∨ missing = .ending) :
    Settled { c with owner := if c.context then found else missing } ↔
      c.thread ≠ some .locking := by
  cases hcontext : c.context with
  | true =>
      refine iff_of_true (settled_of_owner hfound.1 hfound.2) fun hlocking => ?_
      cases hcontext.symm.trans (h.thread.mpr (Or.inl hlocking))
  | false =>
      constructor
      · intro hsettled hlocking
        cases (hsettled hmissing).symm.trans hlocking
      · intro hlocking _
        exact ((h.thread.mp hcontext).resolve_left hlocking).1

theorem settled_step (hr : c.ExampleReachable) (h : c.Settled) (hs : Step c a c') :
    c'.Settled ↔ c.Guard a := by
  cases hs with
  | toggle _ => exact hr.openedOnce.settled_iff (by simp) (Or.inl rfl)
  | destroy _ => exact hr.openedOnce.settled_iff (by simp) (Or.inr rfl)
  | launch howner =>
      refine iff_of_true ?_ trivial
      rw [launch, h (Or.inl howner)]
      exact settled_of_owner (by simp) (by simp)
  | joined _ _ => exact iff_of_true (fun _ => rfl) trivial
  | finish howner =>
      refine iff_of_true ?_ trivial
      rw [finish, if_pos (h (Or.inr howner))]
      exact settled_of_owner (by simp) (by simp)
  | openStream hthread _ _ | readEnd hthread _ =>
      obtain ⟨hlaunching, hending⟩ := h.not_owner (by rw [hthread]; simp)
      exact iff_of_true (settled_of_owner hlaunching hending) trivial

theorem settled_safe (h : c.Settled) (hs : Step c a c') : ¬ c.Terminates a := by
  cases hs with
  | launch howner => exact not_not_intro (h (Or.inl howner))
  | finish howner => exact not_not_intro (h (Or.inr howner))
  | toggle _ | joined _ _ | destroy _ | openStream _ _ _ | readEnd _ _ => exact id

theorem settled_back (hs : Step c a c') (ha : ¬ c.Terminates a) (h : c'.Settled) : c.Settled := by
  cases hs with
  | launch _ | finish _ => exact fun _ => not_not.mp ha
  | toggle howner | destroy howner | joined howner _ =>
      exact settled_of_owner (by rw [howner]; simp) (by rw [howner]; simp)
  | openStream _ _ _ | readEnd _ _ =>
      obtain ⟨hlaunching, hending⟩ := h.not_owner (by simp)
      exact settled_of_owner hlaunching hending

/-- The process is not terminated if `toggle_streaming` and the destructor never have the
lock between the start of the thread and its section, and only then if the owner is not
about to replace or destroy a thread.  The stream is opened once at most. -/
theorem terminates_iff (run : ExampleRun tr c) :
    c.opened ≤ 1 ∧
      ((∀ p ∈ tr, p.1.Guard p.2) → ∀ p ∈ tr, ¬ p.1.Terminates p.2) ∧
      (c.Settled → ((∀ p ∈ tr, ¬ p.1.Terminates p.2) ↔ ∀ p ∈ tr, p.1.Guard p.2)) := by
  have hr : c.ExampleReachable := run.reachable
  refine ⟨hr.openedOnce.le, run.avoids_iff ?_ settled_step ?_ ?_⟩
  · exact settled_of_owner (by simp [initial]) (by simp [initial])
  · exact fun _ => settled_safe
  · exact fun _ => settled_back

/-- A client that opens its stream, cancels it, and tries to open another one. -/
theorem terminates_iff_cancelled : ∃ (tr : List (ExampleClient × Action)) (c : ExampleClient),
    ExampleRun tr c ∧ c.opened = 1 ∧ ∀ p ∈ tr, ¬ p.1.Terminates p.2 := by
  have r : ExampleRun [] initial := .start
  have r := r.step (.toggle rfl)
  have r := r.step (.launch rfl)
  have r := r.step (.openStream rfl (by simp [launch, toggle, initial]) (by decide))
  have r := r.step (.toggle rfl)
  have r := r.step (.readEnd rfl (by decide))
  have r := r.step (.joined rfl fun _ heq => (Option.some.inj heq).symm)
  have r := r.step (.toggle rfl)
  have r := r.step (.joined rfl fun _ heq => (Option.some_ne_none _ heq.symm).elim)
  refine ⟨_, _, r, rfl, (terminates_iff r).2.1 ?_⟩
  simp [Guard, launch, toggle, initial]

end ExampleClient

end Grpcw.NewArch
