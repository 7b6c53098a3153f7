import GrpcWrapper.Util.BlockingQueue
import Mathlib.Data.List.Pairwise

/-!
# First in, first out

What was removed from a queue and what is in it make up all that was pushed, in
the order of the pushes.  Each element leaves the queue once, from the front: it
is returned by a `pop_front`, or dropped by a `clear` or a
`pop_all_but_most_recent`.
-/

namespace Grpcw.Util

open Transition

variable {ι T : Type*}

namespace BlockingQueue

/-- The order of a queue. -/
structure FirstInFirstOut (q : BlockingQueue ι T) : Prop where
  positions : q.pushed.map Entry.position = List.range q.pushed.length
  contents : q.queue <:+ q.pushed
  increasing : (q.popped.map Entry.position).Pairwise (· < ·)
  /-- Nothing is lost and nothing comes twice. -/
  accounted : q.pushed.Perm (q.popped ++ q.dropped ++ q.queue)
  mostRecent : q.queue ≠ [] → ∃ dropped entry, q.pushed.getLast? = some entry ∧
    ∀ thread, q.popAllButMostRecent thread =
      ⟨[entry], .popAllButMostRecent thread dropped (some entry) :: q.log⟩

/-- The elements that have left are the first ones, and those that `pop_front`
has returned are among them, in order. -/
structure Removed (q : BlockingQueue ι T) (removed : List (Entry T)) : Prop where
  pushed : q.pushed = removed ++ q.queue
  popped : q.popped.Sublist removed
  accounted : removed.Perm (q.popped ++ q.dropped)
  positions : q.pushed.map Entry.position = List.range q.pushed.length

variable {q q' : BlockingQueue ι T} {removed dropped : List (Entry T)} {value : T}
  {entry : Entry T} {thread : ι} {t : ι} {notify : Bool}

theorem Removed.new : (new : BlockingQueue ι T).Removed [] where
  pushed := rfl
  popped := List.Sublist.refl _
  accounted := List.Perm.refl _
  positions := rfl

/-! ## One section -/

theorem Removed.pushBack (h : q.Removed removed) : (q.pushBack value).Removed removed := by
  have hlog : (q.pushBack value).log = .push ⟨q.pushed.length, value⟩ :: q.log := rfl
  have hpushed : (q.pushBack value).pushed = q.pushed ++ [⟨q.pushed.length, value⟩] :=
    pushed_of_log hlog
  have hpopped : (q.pushBack value).popped = q.popped := history_eq_of_log hlog rfl
  have hdropped : (q.pushBack value).dropped = q.dropped := history_eq_of_log hlog rfl
  refine ⟨?_, ?_, ?_, ?_⟩
  · calc
      (q.pushBack value).pushed = q.pushed ++ [⟨q.pushed.length, value⟩] := hpushed
      _ = (removed ++ q.queue) ++ [⟨q.pushed.length, value⟩] :=
        congrArg (· ++ [⟨q.pushed.length, value⟩]) h.pushed
      _ = removed ++ (q.pushBack value).queue := List.append_assoc _ _ _
  · rw [hpopped]
    exact h.popped
  · rw [hpopped, hdropped]
    exact h.accounted
  · rw [hpushed, List.map_append, h.positions, List.length_append, List.length_singleton,
      List.range_succ]
    rfl

theorem Removed.popFront {rest : List (Entry T)} (h : q.Removed removed)
    (hq : q.queue = entry :: rest) : q.popFront.Removed (removed ++ [entry]) := by
  have heq : q.popFront = ⟨rest, .popFront (some entry) rest.length :: q.log⟩ := by
    rw [BlockingQueue.popFront, hq]
  have hlog : q.popFront.log = .popFront (some entry) rest.length :: q.log := by rw [heq]
  have hpushed : q.popFront.pushed = q.pushed := history_eq_of_log hlog rfl
  have hpopped : q.popFront.popped = q.popped ++ [entry] := popped_of_log hlog
  have hdropped : q.popFront.dropped = q.dropped := history_eq_of_log hlog rfl
  refine ⟨?_, ?_, ?_, ?_⟩
  · rw [hpushed, h.pushed, hq, heq, List.append_assoc]
    rfl
  · rw [hpopped]
    exact h.popped.append (List.Sublist.refl _)
  · rw [hpopped, hdropped]
    refine (h.accounted.append_right [entry]).trans ?_
    rw [List.append_assoc, List.append_assoc]
    exact List.perm_append_comm.append_left _
  · rw [hpushed]
    exact h.positions

/-- A section drops what is in front. -/
theorem Removed.drop {e : QueueEvent ι T} (h : q.Removed removed)
    (hlog : q'.log = e :: q.log) (hpushes : e.pushes = []) (hpops : e.pops = [])
    (hq : q.queue = e.drops ++ q'.queue) : q'.Removed (removed ++ e.drops) := by
  have hpushed : q'.pushed = q.pushed := history_eq_of_log hlog hpushes
  have hpopped : q'.popped = q.popped := history_eq_of_log hlog hpops
  refine ⟨?_, ?_, ?_, ?_⟩
  · rw [hpushed, h.pushed, hq, List.append_assoc]
  · rw [hpopped]
    exact h.popped.trans (List.sublist_append_left _ _)
  · rw [hpopped, dropped_of_log hlog, ← List.append_assoc]
    exact h.accounted.append_right e.drops
  · rw [hpushed]
    exact h.positions

theorem Removed.section (h : q.Removed removed) (hs : Section t q q' notify) :
    ∃ removed, q'.Removed removed := by
  cases hs with
  | pushBack | emplaceBack => exact ⟨_, h.pushBack⟩
  | popAllButMostRecent | clear => exact ⟨_, h.drop rfl rfl rfl (popWhile_append _ _).symm⟩
  | empty | size => exact ⟨_, h.drop rfl rfl rfl rfl⟩

/-! ## The order -/

theorem Removed.firstInFirstOut (h : q.Removed removed) : q.FirstInFirstOut where
  positions := h.positions
  contents := ⟨removed, h.pushed.symm⟩
  increasing := by
    have hsub : q.popped.Sublist q.pushed := by
      rw [h.pushed]
      exact h.popped.trans (List.sublist_append_left _ _)
    refine List.Pairwise.sublist (hsub.map Entry.position) ?_
    rw [h.positions]
    exact List.pairwise_lt_range
  accounted := by
    rw [h.pushed]
    exact h.accounted.append_right q.queue
  mostRecent := by
    intro hne
    obtain ⟨dropped, entry, hq⟩ := (List.eq_nil_or_concat' q.queue).resolve_left hne
    refine ⟨dropped, entry, ?_, fun thread => ?_⟩
    · rw [h.pushed, hq, ← List.append_assoc, List.getLast?_concat]
    · rw [popAllButMostRecent, hq, popWhile_one_concat]
      rfl

end BlockingQueue

/-- Whatever the threads do, a queue keeps its order. -/
theorem reachable_firstInFirstOut [DecidableEq ι]
    {cfg : Monitor.Config ι Unit (BlockingQueue ι T)} (hr : QueueReachable cfg) :
    cfg.data.FirstInFirstOut := by
  have h : ∃ removed, cfg.data.Removed removed := by
    refine Monitor.data_invariant (I := fun q : BlockingQueue ι T => ∃ removed, q.Removed removed)
      ⟨[], .new⟩ ?_ ?_ hr
    · rintro _ q q' _ hready ⟨rfl, -⟩ ⟨removed, h⟩
      obtain ⟨entry, rest, hq⟩ := List.exists_cons_of_ne_nil hready
      exact ⟨_, h.popFront hq⟩
    · rintro t q q' notify hs ⟨removed, h⟩
      exact h.section hs
  obtain ⟨removed, h⟩ := h
  exact h.firstInFirstOut

/-- Of three values, the first is returned and the second is dropped. -/
theorem reachable_firstInFirstOut_dropped :
    ∃ cfg : Monitor.Config Nat Unit (BlockingQueue Nat Nat), QueueReachable cfg ∧
      cfg.data.popped = [⟨0, 5⟩] ∧ cfg.data.dropped = [⟨1, 6⟩] ∧ cfg.data.queue = [⟨2, 7⟩] ∧
      cfg.data.FirstInFirstOut := by
  have r : QueueReachable (.start (BlockingQueue.new : BlockingQueue Nat Nat)) := .refl
  have r := r.tail (.other (t := 1) rfl (.pushBack 5))
  have r := r.tail (.other (t := 2) rfl (.pushBack 6))
  have r := r.tail (.call (t := 0) (c := ()) rfl trivial)
  have r := r.tail (.pass (t := 0) (c := ()) (Or.inl rfl) (List.cons_ne_nil _ _) ⟨rfl, rfl⟩)
  have r := r.tail (.other (t := 3) rfl (.pushBack 7))
  have r := r.tail (.other (t := 0) rfl .popAllButMostRecent)
  exact ⟨_, r, rfl, rfl, rfl, reachable_firstInFirstOut r⟩

end Grpcw.Util
