import GrpcWrapper.Util.BlockingQueue

/-!
# Wake-ups of the blocking queue

`pop_front` waits while the queue is empty.  A push puts one element in and then,
with the lock released, notifies one thread.  A thread that comes late may take
the element that another was notified of, and `clear` may take any number, so a
notified thread may have to wait again.  There is still a wake-up on its way for
each element.
-/

namespace Grpcw.Util

open Transition

variable {ι T : Type*}

namespace BlockingQueue

/-- While a thread waits, no more elements are in the queue than there are threads
that were notified or are about to notify. -/
structure Awake (cfg : Monitor.Config ι Unit (BlockingQueue ι T)) : Prop where
  covered : (∃ t, (cfg.phase t).Parked) →
    (cfg.data.queue.length : ℕ∞) ≤
      {t | cfg.phase t = .woken ()}.encard + {t | cfg.phase t = .signalling}.encard
  /-- No thread is left waiting with an element there. -/
  noLostWakeup : (queueMonitor ι T).NoLostWakeup cfg

theorem length_popWhile (n : Nat) (l : List (Entry T)) : (popWhile n l).2.length ≤ l.length := by
  calc
    (popWhile n l).2.length ≤ ((popWhile n l).1 ++ (popWhile n l).2).length :=
      (List.sublist_append_right _ _).length_le
    _ = l.length := congrArg List.length (popWhile_append n l)

/-- Each push comes with a notification. -/
theorem Section.length_le {t : ι} {q q' : BlockingQueue ι T} {notify : Bool}
    (h : Section t q q' notify) : q'.queue.length ≤ q.queue.length + notify.toNat := by
  cases h with
  | pushBack | emplaceBack => exact Nat.le_of_eq List.length_append
  | popAllButMostRecent | clear => exact length_popWhile _ _
  | empty | size => exact Nat.le_refl _

theorem stocked [DecidableEq ι] :
    (queueMonitor ι T).Stocked fun q => q.queue.length where
  ready := List.length_pos_iff.symm
  body := by
    rintro _ q q' notify hready ⟨rfl, -⟩
    obtain ⟨entry, rest, hq⟩ := List.exists_cons_of_ne_nil hready
    rw [popFront, hq]
    exact Nat.le_refl _
  other := Section.length_le

end BlockingQueue

/-- Whatever the threads do, a queue keeps its wake-ups. -/
theorem reachable_awake [DecidableEq ι] {cfg : Monitor.Config ι Unit (BlockingQueue ι T)}
    (hr : QueueReachable cfg) : BlockingQueue.Awake cfg where
  covered := by
    intro hparked
    have hle := BlockingQueue.stocked.stock_le hr hparked
    have hunit : ∀ p : Phase Unit, (∃ c, p = .woken c) ↔ p = .woken () :=
      fun _ => Unique.exists_iff
    simpa only [hunit] using hle
  noLostWakeup := BlockingQueue.stocked.noLostWakeup hr

/-- Thread 0 waits and thread 1 has pushed, but not notified yet. -/
theorem reachable_awake_signalling : ∃ cfg : Monitor.Config Nat Unit (BlockingQueue Nat Nat),
    QueueReachable cfg ∧ (cfg.phase 0).Parked ∧ cfg.data.queue = [⟨0, 5⟩] ∧
      BlockingQueue.Awake cfg := by
  have r : QueueReachable (.start (BlockingQueue.new : BlockingQueue Nat Nat)) := .refl
  have r := r.tail (.call (t := 0) (c := ()) rfl trivial)
  have r := r.tail (.park (t := 0) (c := ()) (Or.inl rfl) (fun h => h rfl))
  have r := r.tail (.other (t := 1) rfl (.pushBack 5))
  exact ⟨_, r, ⟨(), rfl⟩, rfl, reachable_awake r⟩

end Grpcw.Util
