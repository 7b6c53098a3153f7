import GrpcWrapper.Client.StreamLifecycle

/-!
# The callbacks of a stream

The callbacks come in groups, one for each start that had an effect.  A group is
one `on_update_` for each message that the thread has read, in that order, and
then one `on_finish_`; while the thread runs it may be one `on_update_` behind,
and has no `on_finish_` yet (`Told`).  A stop returns after its thread has
exited, so a group is complete by then.  A stop does return: each step after
`TryCancel` brings the thread nearer to its end.
-/

namespace Grpcw.Client

open Transition

variable {Message Status : Type}

namespace LifecycleEvent

def begun : LifecycleEvent Message Status → List Nat
  | .started run => [run]
  | _ => []

def callbacks : LifecycleEvent Message Status → List (Callback Message Status)
  | .callback c => [c]
  | _ => []

/-- The message that the thread of a run has got. -/
def reads (n : Nat) : LifecycleEvent Message Status → List Message
  | .read run _ update => if run = n then [update] else []
  | _ => []

/-- No callback of a run comes after its stop has returned. -/
def InTime : LifecycleEvent Message Status → List (LifecycleEvent Message Status) → Prop
  | .callback c, past => .stopped c.run ∉ past
  | _, _ => True

/-- The calls of `on_update_` and `on_finish_`. -/
def trace (log : List (LifecycleEvent Message Status)) : List (Callback Message Status) :=
  recorded callbacks log

/-- Those of one run. -/
def group (n : Nat) (log : List (LifecycleEvent Message Status)) :
    List (Callback Message Status) :=
  (trace log).filter fun c => c.run = n

end LifecycleEvent

open LifecycleEvent

namespace StreamPhase

/-- The message that is read and not passed on. -/
def inHand : StreamPhase Message Status → List Message
  | .dispatching update => [update]
  | _ => []

/-- How many steps a thread has to its end, with no more messages. -/
def weight : StreamPhase Message Status → Nat
  | .dispatching _ => 7
  | .updating _ => 6
  | .reading => 5
  | .finishing => 4
  | .finished _ => 3
  | .exited | .none => 2

theorem one_lt_weight (p : StreamPhase Message Status) : 1 < p.weight := by
  cases p <;> simp [weight]

/-- How often `on_finish_` was called. -/
def reports : StreamPhase Message Status → Nat
  | .finished _ | .exited => 1
  | _ => 0

end StreamPhase

/-- What the thread of a run has read, and what it has told. -/
def Told (n : Nat) (phase : StreamPhase Message Status)
    (log : List (LifecycleEvent Message Status)) : Prop :=
  ∃ statuses : List Status, statuses.length = phase.reports ∧
    group n log ++ phase.inHand.map (.update n) =
      (recorded (reads n) log).map (.update n) ++ statuses.map (.finish n)

variable {n : Nat} {phase : StreamPhase Message Status}
  {log : List (LifecycleEvent Message Status)} {e : LifecycleEvent Message Status}

/-! ## The log -/

theorem group_cons : group n (e :: log) = group n log ++ e.callbacks.filter fun c => c.run = n := by
  rw [group, trace, recorded_cons, List.filter_append, group, trace]

theorem group_cons_eq (hcallbacks : ∀ c ∈ e.callbacks, c.run = n) :
    group n (e :: log) = group n log ++ e.callbacks := by
  rw [group_cons, List.filter_eq_self.mpr]
  intro c hc
  simpa using hcallbacks c hc

theorem group_cons_ne (hcallbacks : ∀ c ∈ e.callbacks, c.run ≠ n) :
    group n (e :: log) = group n log := by
  rw [group_cons, List.filter_eq_nil_iff.mpr, List.append_nil]
  intro c hc
  simpa using hcallbacks c hc

/-- What concerns another run. -/
theorem Told.other (h : Told n phase log) (hcallbacks : ∀ c ∈ e.callbacks, c.run ≠ n)
    (hreads : e.reads n = []) : Told n phase (e :: log) := by
  obtain ⟨statuses, hlength, heq⟩ := h
  refine ⟨statuses, hlength, ?_⟩
  rw [group_cons_ne hcallbacks, recorded_cons, hreads, List.append_nil]
  exact heq

theorem Told.read {reader : Nat} {update : Message} (h : Told n .reading log) :
    Told n (.dispatching update : StreamPhase Message Status) (.read n reader update :: log) := by
  obtain ⟨statuses, hlength, heq⟩ := h
  obtain rfl : statuses = [] := List.eq_nil_of_length_eq_zero hlength
  refine ⟨[], rfl, ?_⟩
  have hgroup : group n log = (recorded (reads n) log).map (.update n) := by
    simpa [StreamPhase.inHand] using heq
  rw [group_cons, recorded_cons]
  simp [callbacks, reads, StreamPhase.inHand, hgroup]

theorem Told.dispatch {update : Message}
    (h : Told n (.dispatching update : StreamPhase Message Status) log) :
    Told n (.updating update) (.callback (.update n update) :: log) := by
  obtain ⟨statuses, hlength, heq⟩ := h
  refine ⟨statuses, hlength, ?_⟩
  rw [group_cons, recorded_cons]
  simpa [callbacks, reads, StreamPhase.inHand, Callback.run] using heq

theorem Told.finish {status : Status} (h : Told n .finishing log) :
    Told n (.finished status : StreamPhase Message Status)
      (.callback (.finish n status) :: log) := by
  obtain ⟨statuses, hlength, heq⟩ := h
  obtain rfl : statuses = [] := List.eq_nil_of_length_eq_zero hlength
  refine ⟨[status], rfl, ?_⟩
  have hgroup : group n log = (recorded (reads n) log).map (.update n) := by
    simpa [StreamPhase.inHand] using heq
  rw [group_cons, recorded_cons]
  simp [callbacks, reads, StreamPhase.inHand, Callback.run, hgroup]

/-- A thread goes on and neither reads nor tells. -/
theorem Told.goOn {phase' : StreamPhase Message Status} (h : Told n phase log)
    (hhand : phase'.inHand = phase.inHand) (hreports : phase'.reports = phase.reports) :
    Told n phase' log := by
  rw [Told, hhand, hreports]
  exact h

/-- The callbacks of the last run come after those of all others. -/
theorem groups_cons {k : Nat} (h : trace log = (List.range (k + 1)).flatMap fun n => group n log)
    (hcallbacks : ∀ c ∈ e.callbacks, c.run = k) :
    trace (e :: log) = (List.range (k + 1)).flatMap fun n => group n (e :: log) := by
  have hearlier : ((List.range k).flatMap fun n => group n (e :: log)) =
      (List.range k).flatMap fun n => group n log := by
    refine List.flatMap_congr fun n hn => group_cons_ne fun c hc => ?_
    rw [hcallbacks c hc]
    exact Nat.ne_of_gt (List.mem_range.mp hn)
  rw [trace] at h
  rw [trace, recorded_cons, h, List.range_succ, List.flatMap_append, List.flatMap_append,
    List.flatMap_singleton, List.flatMap_singleton, hearlier, group_cons_eq hcallbacks,
    List.append_assoc]

/-- A run that has not begun has no callbacks. -/
theorem group_eq_nil {k : Nat} (h : trace log = (List.range k).flatMap fun n => group n log) :
    group k log = [] := by
  refine List.filter_eq_nil_iff.mpr fun c hc => ?_
  rw [h] at hc
  obtain ⟨n, hn, hmem⟩ := List.mem_flatMap.mp hc
  have hrun : c.run = n := by simpa using (List.mem_filter.mp hmem).2
  have hlt := List.mem_range.mp hn
  simp only [decide_eq_true_eq]
  omega

namespace StreamLifecycle

/-- A stop that is in its join returns. -/
def Returns (s : StreamLifecycle Message Status) : Prop :=
  Inevitably Step (fun a => ∀ stub, a ≠ .start stub ∧ a ≠ .stop)
    (fun s => s.phase = .idle ∧ s.streaming = false) s

/-- What holds of a stream, whatever is called and whatever gRPC does. -/
structure Lifecycle (s : StreamLifecycle Message Status) : Prop where
  oneAlive : ∀ {m n}, s.Alive m → s.Alive n → m = n
  /-- The threads of earlier starts have exited, and so their groups are complete. -/
  past : ∀ n, n + 1 < s.starts → s.threads n = .exited
  notReplaced : s.phase = .assigning → Joined s.streamThread
  notJoinable : s.streaming = false → Joined s.streamThread
  /-- One group for each effective start, in order. -/
  effective : recorded begun s.log = List.range s.starts
  groups : trace s.log = (List.range s.starts).flatMap fun n => group n s.log
  told : ∀ n, Told n (s.threads n) s.log
  /-- A thread reads from the reader of its start. -/
  ownReader : ∀ run reader update, .read run reader update ∈ s.log → reader = run
  /-- When a stop returns, its thread has exited. -/
  stopped : ∀ n, .stopped n ∈ s.log → s.threads n = .exited
  inTime : Historically InTime s.log
  returns : s.phase = .joining → s.Returns

variable {s s' : StreamLifecycle Message Status} {a : Action Message Status}

/-! ## One step -/

/-- What the log says. -/
structure History (s : StreamLifecycle Message Status) : Prop where
  effective : recorded begun s.log = List.range s.starts
  groups : trace s.log = (List.range s.starts).flatMap fun n => group n s.log
  told : ∀ n, Told n (s.threads n) s.log
  ownReader : ∀ run reader update, .read run reader update ∈ s.log → reader = run
  stopped : ∀ n, .stopped n ∈ s.log → s.threads n = .exited
  inTime : Historically InTime s.log

theorem History.new : (new : StreamLifecycle Message Status).History where
  effective := rfl
  groups := rfl
  told _ := ⟨[], rfl, rfl⟩
  ownReader _ _ _ hmem := absurd hmem List.not_mem_nil
  stopped _ hmem := absurd hmem List.not_mem_nil
  inTime := trivial

theorem History.told_of {run : Nat} (hh : s.History) (hthread : s.threads run = phase) :
    Told run phase s.log := by
  subst hthread
  exact hh.told run

/-- A thread that goes on leaves the others where they are. -/
theorem History.others (hh : s.History) {run : Nat} (hne : s.threads run ≠ .exited)
    (hthreads : s'.threads = Function.update s.threads run phase) (hmem : .stopped n ∈ s.log) :
    s'.threads n = .exited := by
  have hexited := hh.stopped n hmem
  have hrun : n ≠ run := by
    rintro rfl
    exact hne hexited
  rw [hthreads, Function.update_of_ne hrun]
  exact hexited

/-- A thread goes on, and the log stays. -/
theorem History.goOn (hh : s.History) {run : Nat} {old : StreamPhase Message Status}
    (hthread : s.threads run = old) (hne : old ≠ .exited)
    (hthreads : s'.threads = Function.update s.threads run phase)
    (hstarts : s'.starts = s.starts) (hlog : s'.log = s.log)
    (hhand : phase.inHand = old.inHand) (hreports : phase.reports = old.reports) :
    s'.History := by
  subst hthread
  refine ⟨?_, ?_, ?_, ?_, ?_, ?_⟩
  · rw [hlog, hstarts]
    exact hh.effective
  · rw [hlog, hstarts]
    exact hh.groups
  · intro n
    rw [hlog, hthreads, Function.update_apply]
    split
    · rename_i heq
      subst heq
      exact (hh.told n).goOn hhand hreports
    · exact hh.told n
  · rw [hlog]
    exact hh.ownReader
  · intro n hmem
    exact hh.others hne hthreads (hlog ▸ hmem)
  · rw [hlog]
    exact hh.inTime

/-- The last thread goes on, and the log tells. -/
theorem History.tell (hh : s.History) {run : Nat} (hlast : s.starts = run + 1)
    (hne : s.threads run ≠ .exited)
    (hthreads : s'.threads = Function.update s.threads run phase)
    (hstarts : s'.starts = s.starts) (hlog : s'.log = e :: s.log) (hbegun : e.begun = [])
    (hcallbacks : ∀ c ∈ e.callbacks, c.run = run) (hreads : ∀ n, n ≠ run → e.reads n = [])
    (htold : Told run phase (e :: s.log))
    (hreader : ∀ run reader update, e = .read run reader update → reader = run)
    (hstopped : ∀ n, e ≠ .stopped n) (hin : e.InTime s.log) : s'.History := by
  refine ⟨?_, ?_, ?_, ?_, ?_, ?_⟩
  · rw [hlog, hstarts, recorded_cons, hbegun, List.append_nil]
    exact hh.effective
  · have hgroups := hh.groups
    rw [hlast] at hgroups
    rw [hlog, hstarts, hlast]
    exact groups_cons hgroups hcallbacks
  · intro n
    rw [hlog, hthreads, Function.update_apply]
    split
    · rename_i heq
      subst heq
      exact htold
    · rename_i hn
      refine (hh.told n).other (fun c hc => ?_) (hreads n hn)
      rw [hcallbacks c hc]
      exact Ne.symm hn
  · intro run reader update hmem
    rw [hlog] at hmem
    rcases List.mem_cons.mp hmem with heq | hmem
    · exact hreader run reader update heq.symm
    · exact hh.ownReader run reader update hmem
  · intro n hmem
    rw [hlog] at hmem
    rcases List.mem_cons.mp hmem with heq | hmem
    · exact absurd heq.symm (hstopped n)
    · exact hh.others hne hthreads hmem
  · rw [hlog]
    exact ⟨hin, hh.inTime⟩

/-- A callback of a thread that is alive is in time. -/
theorem History.inTime_of_alive (hh : s.History) {c : Callback Message Status}
    (hne : s.threads c.run ≠ .exited) : (LifecycleEvent.callback c).InTime s.log :=
  fun hmem => hne (hh.stopped c.run hmem)

/-- A statement of a call that leaves the threads and the log alone. -/
theorem History.keep (hh : s.History) (hthreads : s'.threads = s.threads)
    (hstarts : s'.starts = s.starts) (hlog : s'.log = s.log) : s'.History := by
  refine ⟨?_, ?_, ?_, hlog ▸ hh.ownReader, ?_, hlog ▸ hh.inTime⟩
  · rw [hlog, hstarts]
    exact hh.effective
  · rw [hlog, hstarts]
    exact hh.groups
  · rw [hlog, hthreads]
    exact hh.told
  · rw [hlog, hthreads]
    exact hh.stopped

theorem History.start {stub : Stub} (hh : s.History) : (s.start stub).History := by
  rw [StreamLifecycle.start]
  split
  · exact hh
  · have hfresh : group s.starts s.log = [] := group_eq_nil hh.groups
    refine ⟨?_, ?_, ?_, ?_, ?_, ⟨trivial, hh.inTime⟩⟩
    · show recorded begun (.started s.starts :: s.log) = List.range (s.starts + 1)
      rw [recorded_cons, hh.effective, List.range_succ]
      rfl
    · refine groups_cons ?_ (List.forall_mem_nil _)
      rw [hh.groups, List.range_succ, List.flatMap_append, List.flatMap_singleton, hfresh,
        List.append_nil]
    · exact fun n => (hh.told n).other (List.forall_mem_nil _) rfl
    · intro run reader update hmem
      exact hh.ownReader run reader update ((List.mem_cons.mp hmem).resolve_left (by simp))
    · intro n hmem
      exact hh.stopped n ((List.mem_cons.mp hmem).resolve_left (by simp))

theorem History.stop (hh : s.History) : s.stop.History := by
  rw [StreamLifecycle.stop]
  split
  · exact hh.keep rfl rfl rfl
  · exact hh

theorem History.clear {c : ClientContext} (hh : s.History) (hc : s.Control)
    (hphase : s.phase = .clearing) (hcontext : s.context = some c) :
    ({ s with context := none, phase := .idle, log := .stopped c.run :: s.log } :
      StreamLifecycle Message Status).History := by
  have hstage := hc.stage
  rw [hphase, hcontext] at hstage
  obtain ⟨hstarts, hlast, -⟩ := hstage.clear
  have hrun : s.starts - 1 = c.run := by omega
  refine ⟨?_, ?_, ?_, ?_, ?_, ⟨trivial, hh.inTime⟩⟩
  · show recorded begun (.stopped c.run :: s.log) = List.range s.starts
    rw [recorded_cons, hh.effective]
    exact List.append_nil _
  · have hgroups := hh.groups
    rw [hstarts] at hgroups
    show trace (.stopped c.run :: s.log) = (List.range s.starts).flatMap _
    rw [hstarts]
    exact groups_cons hgroups (List.forall_mem_nil _)
  · exact fun n => (hh.told n).other (List.forall_mem_nil _) rfl
  · intro run reader update hmem
    exact hh.ownReader run reader update ((List.mem_cons.mp hmem).resolve_left (by simp))
  · intro n hmem
    rcases List.mem_cons.mp hmem with heq | hmem
    · cases heq
      exact hrun ▸ hlast
    · exact hh.stopped n hmem

theorem Step.history (hc : s.Control) (hh : s.History) (hs : Step s a s') : s'.History := by
  cases hs with
  | start _ => exact hh.start
  | openReader _ _ | assign _ _ | cancel _ _ | joined _ _ _ => exact hh.keep rfl rfl rfl
  | spawn hphase hcontext =>
      have hstage := hc.stage
      rw [hphase, hcontext] at hstage
      obtain ⟨hstarts, hlast, -⟩ := hstage.spawn
      rw [hstarts] at hlast
      exact hh.goOn hlast (by simp) rfl rfl rfl rfl rfl
  | stop _ => exact hh.stop
  | clear hphase hcontext => exact hh.clear hc hphase hcontext
  | @read run reader stub update hthread hreader _ =>
      have ha : s.Alive run := alive_of_threads hthread (by simp) (by simp)
      refine hh.tell (hc.starts_eq ha) ha.2 rfl rfl rfl rfl (List.forall_mem_nil _) ?_
        (hh.told_of hthread).read ?_ (by simp) trivial
      · intro n hne
        exact if_neg hne.symm
      · intro run' reader' update' heq
        cases heq
        exact hc.reader_eq ha hreader
  | readEnd hthread | updated hthread | exit hthread =>
      exact hh.goOn hthread (by simp) rfl rfl rfl rfl rfl
  | @dispatch run update hthread =>
      have ha : s.Alive run := alive_of_threads hthread (by simp) (by simp)
      refine hh.tell (hc.starts_eq ha) ha.2 rfl rfl rfl rfl ?_ (fun _ _ => rfl)
        (hh.told_of hthread).dispatch (by simp) (by simp) (hh.inTime_of_alive ha.2)
      simp [callbacks, Callback.run]
  | @finish run status hthread =>
      have ha : s.Alive run := alive_of_threads hthread (by simp) (by simp)
      refine hh.tell (hc.starts_eq ha) ha.2 rfl rfl rfl rfl ?_ (fun _ _ => rfl)
        (hh.told_of hthread).finish (by simp) (by simp) (hh.inTime_of_alive ha.2)
      simp [callbacks, Callback.run]

theorem LifecycleReachable.history (hr : s.LifecycleReachable) : s.History :=
  hr.invariant .new fun hr hh hs => Step.history (LifecycleReachable.control hr) hh hs

/-! ## The end of a stop -/

/-- A bound on the steps until the stop returns.  A message takes three. -/
def remaining (s : StreamLifecycle Message Status) : Nat :=
  match s.phase, s.context with
  | .joining, some ⟨_, some left⟩ => 3 * left + (s.threads (s.starts - 1)).weight
  | .clearing, _ => 1
  | _, _ => 0

/-- A stop is in its join or after it. -/
structure Ending (s : StreamLifecycle Message Status) : Prop where
  control : s.Control
  phase : s.phase = .joining ∨ s.phase = .clearing ∨ s.phase = .idle ∧ s.streaming = false

theorem context_of_not_streaming (hoff : s.streaming = false) : s.context = none :=
  Option.isSome_eq_false_iff.mp hoff |> Option.isNone_iff_eq_none.mp

/-- Only in the join is there a thread that goes on. -/
theorem Ending.joining_of_alive (he : s.Ending) (ha : s.Alive n) :
    ∃ left, s.phase = .joining ∧ s.context = some ⟨n, some left⟩ := by
  have hstage := he.control.stage_alive ha
  rcases he.phase with hphase | hphase | ⟨hphase, hoff⟩
  · rw [hphase] at hstage
    obtain ⟨m, left, hcontext, -, hstarts, -⟩ := hstage.joining_inv
    obtain rfl := Nat.succ.inj hstarts
    exact ⟨left, hphase, hcontext⟩
  · rw [hphase] at hstage
    exact absurd hstage.clearing_inv.2 ha.2
  · rw [hphase, context_of_not_streaming hoff] at hstage
    exact absurd hstage.start.2 (not_or.mpr ⟨ha.2, Nat.succ_ne_zero n⟩)

theorem remaining_joining {left : Nat} (hphase : s.phase = .joining)
    (hcontext : s.context = some ⟨n, some left⟩) (hstarts : s.starts = n + 1) :
    s.remaining = 3 * left + (s.threads n).weight := by
  rw [remaining, hphase, hcontext, hstarts]
  rfl

/-- A thread that does not read a message. -/
theorem Ending.goOn (he : s.Ending) (ha : s.Alive n) (hc : s'.Control)
    (hphase : s'.phase = s.phase) (hcontext : s'.context = s.context)
    (hstarts : s'.starts = s.starts) (hlt : (s'.threads n).weight < (s.threads n).weight) :
    s'.Ending ∧ s'.remaining < s.remaining := by
  obtain ⟨left, hjoining, hleft⟩ := he.joining_of_alive ha
  have hlast := he.control.starts_eq ha
  refine ⟨⟨hc, Or.inl (hphase.trans hjoining)⟩, ?_⟩
  rw [remaining_joining hjoining hleft hlast,
    remaining_joining (hphase.trans hjoining) (hcontext.trans hleft) (hstarts.trans hlast)]
  omega

/-- A message is one less that may come. -/
theorem Ending.read (he : s.Ending) (hthread : s.threads n = .reading) {update : Message}
    (hleft : ∀ c, s.context = some c → c.left ≠ some 0)
    (hc : s'.Control) (hphase : s'.phase = s.phase)
    (hcontext : s'.context = s.context.map ClientContext.take) (hstarts : s'.starts = s.starts)
    (hdispatch : s'.threads n = .dispatching update) :
    s'.Ending ∧ s'.remaining < s.remaining := by
  have ha : s.Alive n := alive_of_threads hthread (by simp) (by simp)
  obtain ⟨left, hjoining, hsome⟩ := he.joining_of_alive ha
  have hlast := he.control.starts_eq ha
  have hpos : left ≠ 0 := by
    rintro rfl
    exact hleft _ hsome rfl
  have htaken : s'.context = some ⟨n, some (left - 1)⟩ := by
    rw [hcontext, hsome]
    rfl
  refine ⟨⟨hc, Or.inl (hphase.trans hjoining)⟩, ?_⟩
  rw [remaining_joining hjoining hsome hlast,
    remaining_joining (hphase.trans hjoining) htaken (hstarts.trans hlast), hthread, hdispatch]
  simp only [StreamPhase.weight]
  omega

theorem Ending.lower (he : s.Ending) (hturn : ∀ stub, a ≠ .start stub ∧ a ≠ .stop)
    (hs : Step s a s') : s'.Ending ∧ s'.remaining < s.remaining := by
  have hc := hs.control he.control
  cases hs with
  | @start stub _ => exact absurd rfl (hturn stub).1
  | stop => exact absurd rfl (hturn ⟨none⟩).2
  | openReader hphase _ | spawn hphase _ | assign hphase _ | cancel hphase _ =>
      rcases he.phase with heq | heq | ⟨heq, -⟩ <;> exact absurd (hphase.symm.trans heq) (by simp)
  | joined hphase _ _ =>
      have hstage := he.control.stage
      rw [hphase] at hstage
      obtain ⟨n, left, hcontext, -, hstarts, hnone⟩ := hstage.joining_inv
      refine ⟨⟨hc, Or.inr (Or.inl rfl)⟩, ?_⟩
      rw [remaining_joining hphase hcontext hstarts]
      exact Nat.lt_add_left _ (s.threads n).one_lt_weight
  | clear hphase hcontext =>
      refine ⟨⟨hc, Or.inr (Or.inr ⟨rfl, rfl⟩)⟩, ?_⟩
      rw [remaining, remaining, hphase]
      exact Nat.zero_lt_one
  | read hthread _ hleft =>
      exact he.read hthread hleft hc rfl rfl rfl (Function.update_self ..)
  | readEnd hthread | dispatch hthread | updated hthread | finish hthread | exit hthread =>
      refine he.goOn (alive_of_threads hthread (by simp) (by simp)) hc rfl rfl rfl ?_
      simp [hthread, move, StreamPhase.weight]

theorem Ending.live [Inhabited Status] (he : s.Ending)
    (hgoal : ¬ (s.phase = .idle ∧ s.streaming = false)) :
    ∃ a s', (∀ stub, a ≠ .start stub ∧ a ≠ .stop) ∧ Step s a s' := by
  have hstage := he.control.stage
  rcases he.phase with hphase | hphase | hoff
  · rw [hphase] at hstage
    obtain ⟨n, left, hcontext, hthread, hstarts, hnone⟩ := hstage.joining_inv
    rw [hstarts] at hnone
    cases hlast : s.threads n with
    | none => exact absurd hlast hnone
    | reading => exact ⟨_, _, by simp, .readEnd hlast⟩
    | dispatching update => exact ⟨_, _, by simp, .dispatch hlast⟩
    | updating update => exact ⟨_, _, by simp, .updated hlast⟩
    | finishing => exact ⟨.finish n default, _, by simp, .finish hlast⟩
    | finished status => exact ⟨_, _, by simp, .exit hlast⟩
    | exited => exact ⟨_, _, by simp, .joined hphase hthread hlast⟩
  · rw [hphase] at hstage
    obtain ⟨⟨c, hcontext⟩, -⟩ := hstage.clearing_inv
    exact ⟨_, _, by simp, .clear hphase hcontext⟩
  · exact absurd hoff hgoal

theorem Control.returns [Inhabited Status] (hc : s.Control) (hphase : s.phase = .joining) :
    s.Returns :=
  inevitably_of_measure remaining (I := Ending) Ending.lower Ending.live ⟨hc, Or.inl hphase⟩

/-! ## Every run -/

/-- The life of a stream, whatever is called and whatever gRPC does. -/
theorem reachable_lifecycle [Inhabited Status] (hr : s.LifecycleReachable) : s.Lifecycle where
  oneAlive := by
    intro m n hm hn
    have hlast := hr.control.starts_eq hm
    have hlast' := hr.control.starts_eq hn
    omega
  past _ := hr.control.past
  notReplaced := by
    intro hphase
    have hstage := hr.control.stage
    rw [hphase] at hstage
    exact hstage.joined_of_assigning
  notJoinable := by
    intro hoff
    have hstage := hr.control.stage
    rw [context_of_not_streaming hoff] at hstage
    exact hstage.joined_of_not_streaming
  effective := hr.history.effective
  groups := hr.history.groups
  told := hr.history.told
  ownReader := hr.history.ownReader
  stopped := hr.history.stopped
  inTime := hr.history.inTime
  returns := hr.control.returns

/-- A stream gives one message, is stopped, and is started again. -/
theorem reachable_lifecycle_stopped : ∃ s : StreamLifecycle Nat Nat, s.LifecycleReachable ∧
    trace s.log = [.update 0 7, .finish 0 0] ∧ .stopped 0 ∈ s.log ∧ s.starts = 2 ∧
      s.Lifecycle := by
  have r : (new : StreamLifecycle Nat Nat).LifecycleReachable := .refl
  have r := r.tail (a := .start ⟨some 1⟩) (.start rfl)
  have r := r.tail (.openReader rfl rfl)
  have r := r.tail (.spawn rfl rfl)
  have r := r.tail (.assign rfl rfl)
  have r := r.tail (a := .read 0 7) (.read rfl rfl fun _ heq => by cases heq; simp)
  have r := r.tail (a := .dispatch 0) (.dispatch rfl)
  have r := r.tail (a := .updated 0) (.updated rfl)
  have r := r.tail (.stop rfl)
  have r := r.tail (a := .cancel 0) (.cancel rfl rfl)
  have r := r.tail (a := .readEnd 0) (.readEnd rfl)
  have r := r.tail (a := .finish 0 0) (.finish rfl)
  have r := r.tail (a := .exit 0) (.exit rfl)
  have r := r.tail (.joined rfl rfl rfl)
  have r := r.tail (.clear rfl rfl)
  have r := r.tail (a := .start ⟨some 1⟩) (.start rfl)
  exact ⟨_, r, rfl, List.mem_cons_of_mem _ List.mem_cons_self, rfl, reachable_lifecycle r⟩

end StreamLifecycle

end Grpcw.Client
