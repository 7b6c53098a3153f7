import GrpcWrapper.Util.BlockingQueue

/-!
# Reads of an empty queue

`pop_front` waits until there is an element.  `pop_all_but_most_recent` neither
waits nor checks: it reads `front` after its loop, whatever the loop left.  A
thread that has called `empty` before knows what the queue was then.  The answer
still holds as long as nobody has emptied the queue since (`emptied_iff`), and
no longer.
-/

namespace Grpcw.Util

open Transition

variable {ι T : Type*} [DecidableEq ι]

namespace QueueEvent

/-- What the last `empty` of a thread has returned. -/
def lastCheck (t : ι) : List (QueueEvent ι T) → Option Bool
  | [] => none
  | .empty t' result :: past => if t' = t then some result else lastCheck t past
  | _ :: past => lastCheck t past

/-- Since the last `empty` of a thread, the last element was taken and none was
pushed after that. -/
def EmptiedSince (t : ι) : List (QueueEvent ι T) → Prop
  | [] => False
  | .push _ :: _ => False
  | .popFront _ left :: past => left = 0 ∨ EmptiedSince t past
  | .clear _ :: _ => True
  | .empty t' _ :: past => t' ≠ t ∧ EmptiedSince t past
  | .popAllButMostRecent _ _ _ :: past | .size _ :: past => EmptiedSince t past

/-- A thread calls `pop_all_but_most_recent` only if its last `empty` has returned
false. -/
def Checked : QueueEvent ι T → List (QueueEvent ι T) → Prop
  | .popAllButMostRecent t _ _, past => lastCheck t past = some false
  | _, _ => True

/-- Nobody empties the queue between a thread's `empty` and its
`pop_all_but_most_recent`. -/
def Undisturbed : QueueEvent ι T → List (QueueEvent ι T) → Prop
  | .popAllButMostRecent t _ _, past => ¬ EmptiedSince t past
  | _, _ => True

omit [DecidableEq ι] in
/-- `front` is read, and `pop` is called, on a queue with elements only. -/
def SafeRead : QueueEvent ι T → Prop
  | .popFront front _ | .popAllButMostRecent _ _ front => front ≠ none
  | _ => True

end QueueEvent

open QueueEvent

namespace BlockingQueue

/-- What is known of the emptiness of a queue. -/
structure Watched (q : BlockingQueue ι T) : Prop where
  emptied_iff : ∀ t, lastCheck t q.log = some false → (EmptiedSince t q.log ↔ q.queue = [])
  reads_iff : Historically Checked q.log →
    ((∀ e ∈ q.log, SafeRead e) ↔ Historically Undisturbed q.log)

variable {q q' : BlockingQueue ι T} {e : QueueEvent ι T} {t : ι} {notify : Bool}

theorem Watched.new : (new : BlockingQueue ι T).Watched where
  emptied_iff t heq := by cases heq
  reads_iff _ := ⟨fun _ => trivial, fun _ => List.forall_mem_nil _⟩

/-- One more section. -/
theorem Watched.log (h : q.Watched) (hlog : q'.log = e :: q.log)
    (hemptied : ∀ t, lastCheck t (e :: q.log) = some false →
      (EmptiedSince t (e :: q.log) ↔ q'.queue = []))
    (hread : Checked e q.log → (SafeRead e ↔ Undisturbed e q.log)) : q'.Watched where
  emptied_iff := by
    rw [hlog]
    exact hemptied
  reads_iff := by
    rw [hlog, historically_cons, historically_cons, List.forall_mem_cons]
    intro ⟨hchecked, hpast⟩
    exact and_congr (hread hchecked) (h.reads_iff hpast)

theorem Watched.popFront (h : q.Watched) (hready : q.queue ≠ []) : q.popFront.Watched := by
  obtain ⟨entry, rest, hq⟩ := List.exists_cons_of_ne_nil hready
  have heq : q.popFront = ⟨rest, .popFront (some entry) rest.length :: q.log⟩ := by
    rw [BlockingQueue.popFront, hq]
  refine h.log (e := .popFront (some entry) rest.length) (by rw [heq]) ?_ ?_
  · intro t hcheck
    have hnot : ¬ EmptiedSince t q.log := fun he => hready ((h.emptied_iff t hcheck).mp he)
    rw [EmptiedSince, heq, List.length_eq_zero_iff, or_iff_left hnot]
  · intro _
    exact iff_of_true (Option.some_ne_none entry) trivial

/-- What `front` reads in `pop_all_but_most_recent`. -/
theorem popWhile_one_eq_nil (l : List (Entry T)) : (popWhile 1 l).2 = [] ↔ l = [] := by
  rcases List.eq_nil_or_concat' l with rfl | ⟨dropped, entry, rfl⟩
  · exact Iff.rfl
  · rw [popWhile_one_concat]
    exact iff_of_false (List.cons_ne_nil _ _) (List.concat_ne_nil _ _)

theorem Watched.popAllButMostRecent (h : q.Watched) : (q.popAllButMostRecent t).Watched := by
  refine h.log rfl ?_ ?_
  · intro t' hcheck
    exact (h.emptied_iff t' hcheck).trans (popWhile_one_eq_nil q.queue).symm
  · intro hchecked
    rw [SafeRead, Undisturbed, Ne, List.head?_eq_none_iff, popWhile_one_eq_nil]
    exact not_congr (h.emptied_iff t hchecked).symm

theorem Watched.section (h : q.Watched) (hs : Section t q q' notify) : q'.Watched := by
  cases hs with
  | pushBack | emplaceBack =>
      refine h.log rfl ?_ fun _ => Iff.rfl
      intro t' _
      exact iff_of_false id (List.append_ne_nil_of_right_ne_nil _ (List.cons_ne_nil _ _))
  | popAllButMostRecent => exact h.popAllButMostRecent
  | empty =>
      refine h.log rfl ?_ fun _ => Iff.rfl
      intro t' hcheck
      rw [lastCheck] at hcheck
      by_cases heq : t = t'
      · rw [if_pos heq, Option.some.injEq, List.isEmpty_eq_false_iff] at hcheck
        exact iff_of_false (fun he => he.1 heq) hcheck
      · rw [if_neg heq] at hcheck
        exact (and_iff_right heq).trans (h.emptied_iff t' hcheck)
  | size => exact h.log rfl h.emptied_iff fun _ => Iff.rfl
  | clear =>
      refine h.log rfl ?_ fun _ => Iff.rfl
      intro t' _
      exact iff_of_true trivial (congrArg Prod.snd (popWhile_zero q.queue))

end BlockingQueue

/-- In a run in which each `pop_all_but_most_recent` comes after an `empty` of the
same thread that has returned false, `front` and `pop` are kept from an empty
queue exactly when nobody empties it in between. -/
theorem reads_iff_undisturbed {cfg : Monitor.Config ι Unit (BlockingQueue ι T)}
    (hr : QueueReachable cfg) (hchecked : Historically Checked cfg.data.log) :
    (∀ e ∈ cfg.data.log, SafeRead e) ↔ Historically Undisturbed cfg.data.log := by
  have h : cfg.data.Watched := by
    refine Monitor.data_invariant (I := BlockingQueue.Watched) .new ?_ ?_ hr
    · rintro _ q q' _ hready ⟨rfl, -⟩ h
      exact h.popFront hready
    · intro t q q' notify hs h
      exact h.section hs
  exact h.reads_iff hchecked

/-- Thread 1 finds an element, thread 2 takes it, and thread 1 goes on. -/
theorem taken_run : ∃ cfg : Monitor.Config Nat Unit (BlockingQueue Nat Nat), QueueReachable cfg ∧
    cfg.data.log =
      [.popAllButMostRecent 1 [] none, .popFront (some ⟨0, 5⟩) 0, .empty 1 false,
        .push ⟨0, 5⟩] := by
  have r : QueueReachable (.start (BlockingQueue.new : BlockingQueue Nat Nat)) := .refl
  have r := r.tail (.other (t := 0) rfl (.pushBack 5))
  have r := r.tail (.other (t := 1) rfl .empty)
  have r := r.tail (.call (t := 2) (c := ()) rfl trivial)
  have r := r.tail (.pass (t := 2) (c := ()) (Or.inl rfl) (List.cons_ne_nil _ _) ⟨rfl, rfl⟩)
  have r := r.tail (.other (t := 1) rfl .popAllButMostRecent)
  exact ⟨_, r, rfl⟩

theorem not_safeRead :
    ¬ ∀ cfg : Monitor.Config Nat Unit (BlockingQueue Nat Nat), QueueReachable cfg →
      Historically Checked cfg.data.log → ∀ e ∈ cfg.data.log, SafeRead e := by
  intro hall
  obtain ⟨cfg, hr, hlog⟩ := taken_run
  have hread := hall cfg hr
  rw [hlog] at hread
  exact hread ⟨rfl, trivial, trivial, trivial, trivial⟩ _ List.mem_cons_self rfl

theorem reads_iff_undisturbed_taken :
    ∃ cfg : Monitor.Config Nat Unit (BlockingQueue Nat Nat), QueueReachable cfg ∧
      cfg.data.log =
        [.popAllButMostRecent 1 [] none, .popFront (some ⟨0, 5⟩) 0, .empty 1 false,
          .push ⟨0, 5⟩] ∧
      ¬ Historically Undisturbed cfg.data.log := by
  obtain ⟨cfg, hr, hlog⟩ := taken_run
  have hchecked : Historically Checked cfg.data.log := by
    rw [hlog]
    exact ⟨rfl, trivial, trivial, trivial, trivial⟩
  refine ⟨cfg, hr, hlog, fun hundisturbed => ?_⟩
  have hread := (reads_iff_undisturbed hr hchecked).mpr hundisturbed
  rw [hlog] at hread
  exact hread _ List.mem_cons_self rfl

end Grpcw.Util
