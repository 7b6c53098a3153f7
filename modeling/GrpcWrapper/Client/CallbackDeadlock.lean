import GrpcWrapper.Client.StreamUpdates

/-!
# Callbacks that ask for the lock

`stop_stream` joins the thread of a stream in the locked code.  A callback of the
stream that calls `get_state` or `use_stub` at that time waits for the lock, and
neither thread goes on, whatever else is done (`Deadlocked.lasts`).  The run
thread calls its callback outside the locked code, and `kill_streams_and_channel`
joins it there, so no other callback can bring this about (`deadlockFree_iff`).
-/

namespace Grpcw.Client

open Transition

variable {Message Status : Type}

namespace GrpcClient

/-- `on_finish` sets the callback of a stream that is registered. -/
theorem Step.finishes_onStreamFinish {c c' : GrpcClient} {key : Nat}
    (hs : Step c (.onStreamFinish key) c') (hm : key ∈ c.shared.streams) :
    c'.finishes key = true := by
  cases hs with
  | onStreamFinish _ =>
      obtain ⟨t, ht⟩ := Option.isSome_iff_exists.mp (AList.lookup_isSome.mpr hm)
      rw [finishes, SharedData.onStreamFinish, ht]
      exact (congrArg (Option.any _) (AList.lookup_insert c.shared.streams)).trans rfl

theorem stops_cases {c : GrpcClient} {a : Action} (h : c.Stops a) :
    a = .kill ∨ ∃ x, a = .handle x := by
  cases a with
  | kill => exact Or.inl rfl
  | handle x => exact Or.inr ⟨x, rfl⟩
  | call _ | shutdownQueue | join | connect _ _ | connectInProcess | report | start
  | registerStream _ | onStreamUpdate _ | onStreamFinish _ | useStub | next _ | exit
  | runReport => exact h.elim

end GrpcClient

namespace ClientThreads

variable {calls : Callbacks Message Status} {s s' : ClientThreads Message Status}
  {a : Action Message Status} {key : Nat} {t : StreamThread Message Status}

/-! ## Who waits for whom -/

/-- The thread that has the lock. -/
def holder (s : ClientThreads Message Status) : Option Thread :=
  s.lock.map Stopping.thread

/-- A thread is in the `join` of another one, which has not come to its end. -/
inductive Joins (s : ClientThreads Message Status) : Thread → Thread → Prop where
  /-- In `stop_stream`. -/
  | stopStream {action : GrpcClient.Action} {key : Nat} {left : List Nat} :
      s.lock = some ⟨action, key :: left, true⟩ → (s.streams key).phase ≠ .exited →
      Joins s (Stopping.thread ⟨action, key :: left, true⟩) (.stream key)
  /-- In `kill_streams_and_channel`. -/
  | kill {call : OwnerCall} {phase : RunPhase} :
      s.client.owner = .joining call → s.client.runThread = .joinable phase → phase ≠ .exited →
      Joins s .owner .run

/-- A thread goes on when it has the lock. -/
inductive NeedsLock (s : ClientThreads Message Status) : Thread → Prop where
  | kill {call : OwnerCall} : s.client.owner = .killing call → NeedsLock s .owner
  | connect : s.client.owner = .connecting → NeedsLock s .owner
  | connectInProcess {channel : Option Channel} :
      s.client.owner = .connectingInProcess channel → NeedsLock s .owner
  | handle {resultOk : Bool} :
      s.client.runThread = .joinable (.handling resultOk) → NeedsLock s .run
  /-- In `get_state` or `use_stub`, called from a callback. -/
  | ask {thread : Thread} : s.asking thread = true → NeedsLock s thread

/-- A thread waits for the lock that another one has. -/
def WaitsForLock (s : ClientThreads Message Status) (thread : Thread) : Prop :=
  s.NeedsLock thread ∧ ∃ other, s.holder = some other ∧ other ≠ thread

/-- The thread that has the lock is in the `join` of one that waits for the
lock. -/
def Deadlocked (s : ClientThreads Message Status) : Prop :=
  ∃ thread other, s.holder = some thread ∧ s.Joins thread other ∧ s.WaitsForLock other

/-! ## The threads that ask -/

/-- A stream's thread asks for the lock in a callback that may do so. -/
def AsksInCallback (calls : Callbacks Message Status) (s : ClientThreads Message Status) : Prop :=
  ∀ key, s.asking (.stream key) = true → s.MayAsk calls (.stream key)

/-- A thread outside a callback does not ask. -/
theorem AsksInCallback.not_asking {phase : StreamPhase Message Status}
    (h : s.AsksInCallback calls) (hphase : (s.streams key).phase = phase)
    (hupdating : ∀ update, phase ≠ .updating update)
    (hfinished : ∀ status, phase ≠ .finished status) : s.asking (.stream key) = false := by
  refine Bool.eq_false_iff.mpr fun hask => ?_
  rcases h key hask with ⟨update, hat, -⟩ | ⟨status, hat, -⟩
  · exact hupdating update (hphase.symm.trans hat)
  · exact hfinished status (hphase.symm.trans hat)

/-- The threads that ask stay where they are. -/
theorem AsksInCallback.of_streams (h : s.AsksInCallback calls) (hasking : s'.asking = s.asking)
    (hstreams : ∀ key, s.asking (.stream key) = true → s'.streams key = s.streams key) :
    s'.AsksInCallback calls := by
  intro key hask
  rw [hasking] at hask
  have hmay := h key hask
  rw [MayAsk, hstreams key hask]
  exact hmay

/-- The thread of one stream goes on. -/
theorem AsksInCallback.update (h : s.AsksInCallback calls)
    (hask : s.asking (.stream key) = false) :
    AsksInCallback calls { s with streams := Function.update s.streams key t } := by
  refine h.of_streams rfl fun key' hask' => ?_
  refine Function.update_of_ne (fun heq => ?_) _ _
  rw [heq, hask] at hask'
  cases hask'

theorem AsksInCallback.step (h : s.AsksInCallback calls) (hthreads : s.ThreadInv)
    (hs : Step calls s a s') : s'.AsksInCallback calls := by
  cases hs with
  | client hs _ _ _ =>
      refine h.of_streams rfl fun key hask => ?_
      refine started_of_streaming (by_contra fun hstr => ?_)
      rw [h.not_asking (hthreads.streaming key hstr) nofun nofun] at hask
      cases hask
  | joined _ hphase => exact AsksInCallback.update h (h.not_asking hphase nofun nofun)
  | read hphase | readEnd hphase | finish hphase =>
      exact h.update (h.not_asking hphase nofun nofun)
  | dispatch hphase => split <;> exact h.update (h.not_asking hphase nofun nofun)
  | updated _ hask | exit _ hask => exact h.update hask
  | @ask thread hmay _ =>
      intro key hask
      by_cases heq : thread = .stream key
      · rw [heq] at hmay
        exact hmay
      · refine h key ?_
        rw [← hask]
        exact (Function.update_of_ne (Ne.symm heq) _ _).symm
  | @answer thread _ _ =>
      intro key hask
      by_cases heq : thread = .stream key
      · rw [heq] at hask
        cases (Function.update_self _ _ _).symm.trans hask
      · refine h key ?_
        rw [← hask]
        exact (Function.update_of_ne (Ne.symm heq) _ _).symm
  | acquire _ _ _ _ | skip _ _ | cancel _ _ | release _ _ => exact h

theorem ThreadsReachable.asksInCallback (hr : s.ThreadsReachable calls) :
    s.AsksInCallback calls :=
  hr.invariant (fun _ hask => by cases hask) fun hr h hs =>
    h.step (ThreadsReachable.threadInv hr) hs

/-! ## Where a deadlock can be -/

/-- The owner has the lock in a kill only. -/
theorem SectionInv.killing (h : s.SectionInv) (hholder : s.holder = some .owner) :
    ∃ call, s.client.owner = .killing call := by
  obtain ⟨⟨action, left, joining⟩, hw, hthread⟩ := Option.map_eq_some_iff.mp hholder
  obtain ⟨c, hs⟩ := h.ends _ hw
  rcases GrpcClient.stops_cases (h.stops _ hw) with haction | ⟨x, haction⟩
  · rw [haction] at hs
    cases hs with
    | kill hkilling => exact ⟨_, hkilling⟩
  · rw [Stopping.thread, haction] at hthread
    cases hthread

/-- A section that stops the streams joins the thread of a stream that asks. -/
theorem deadlocked_iff (hr : s.ThreadsReachable calls) :
    s.Deadlocked ↔ ∃ action key left, s.lock = some ⟨action, key :: left, true⟩ ∧
      s.asking (.stream key) = true := by
  constructor
  · rintro ⟨thread, other, hholder, hjoins, hneeds, -⟩
    cases hjoins with
    | @stopStream action key left hlock _ =>
        refine ⟨action, key, left, hlock, ?_⟩
        cases hneeds with
        | ask hask => exact hask
    | @kill call phase hjoining _ _ =>
        obtain ⟨call', hkilling⟩ := (ThreadsReachable.sectionInv hr).killing hholder
        cases hjoining.symm.trans hkilling
  · rintro ⟨action, key, left, hlock, hask⟩
    have hholder : s.holder = some (Stopping.thread ⟨action, key :: left, true⟩) :=
      congrArg (Option.map Stopping.thread) hlock
    refine ⟨_, _, hholder, .stopStream hlock ?_, .ask hask, _, hholder, ?_⟩
    · have hasks := ThreadsReachable.asksInCallback hr
      rcases hasks key hask with ⟨update, hat, -⟩ | ⟨status, hat, -⟩ <;>
      · rw [hat]
        nofun
    · rw [Stopping.thread]
      split <;> nofun

/-- Neither thread goes on. -/
theorem Deadlocked.step (hr : s.ThreadsReachable calls) (h : s.Deadlocked)
    (hs : Step calls s a s') : s'.Deadlocked := by
  obtain ⟨action, key, left, hlock, hask⟩ := (deadlocked_iff hr).mp h
  refine (deadlocked_iff (hr.tail hs)).mpr ?_
  cases hs with
  | acquire _ _ hfree _ | answer _ hfree => cases hlock.symm.trans hfree
  | skip hlock' _ | cancel hlock' _ | release hlock' _ => cases hlock.symm.trans hlock'
  | joined hlock' hphase =>
      cases hlock.symm.trans hlock'
      rw [(ThreadsReachable.asksInCallback hr).not_asking hphase nofun nofun] at hask
      cases hask
  | @ask thread _ _ =>
      refine ⟨action, key, left, hlock, ?_⟩
      show Function.update s.asking thread true (.stream key) = true
      by_cases heq : Thread.stream key = thread
      · rw [heq, Function.update_self]
      · rw [Function.update_of_ne heq]
        exact hask
  | dispatch _ => split <;> exact ⟨action, key, left, hlock, hask⟩
  | client _ _ _ _ | read _ | readEnd _ | updated _ _ | finish _ | exit _ _ =>
      exact ⟨action, key, left, hlock, hask⟩

/-- Whatever else goes on, the deadlock lasts. -/
theorem Deadlocked.lasts (hr : s.ThreadsReachable calls) (h : s.Deadlocked)
    (hrest : Reachable (Step calls) s s') : s'.Deadlocked := by
  have hboth : ThreadsReachable calls s' ∧ Deadlocked s' := by
    refine hrest.invariant (I := fun s => ThreadsReachable calls s ∧ Deadlocked s) ⟨hr, h⟩ ?_
    rintro s a s' - ⟨hr, h⟩ hs
    exact ⟨hr.tail hs, h.step hr hs⟩
  exact hboth.2

/-! ## Deadlocks -/

/-- A kill comes while the thread of a stream asks for the lock. -/
theorem exists_deadlocked (hr : s.ThreadsReachable calls) (howner : s.client.owner = .idle)
    (hlock : s.lock = none) (hstr : s.client.shared.streamingAt key = some true)
    (hask : s.asking (.stream key) = true) :
    ∃ s', ThreadsReachable calls s' ∧ Deadlocked s' := by
  obtain ⟨t, ht, -⟩ := Option.map_eq_some_iff.mp hstr
  have hm : key ∈ s.client.shared.streams.keys := AList.mem_keys.mpr (Map.mem_of_lookup ht)
  have hr := hr.tail (.client (@GrpcClient.Step.call _ .kill howner) id nofun nofun)
  have hr := hr.tail (.acquire (.kill rfl) trivial hlock (List.perm_cons_erase hm).symm)
  have hr := hr.tail (.cancel rfl hstr)
  exact ⟨_, hr, (deadlocked_iff hr).mpr ⟨_, _, _, rfl, hask⟩⟩

theorem exists_deadlocked_onUpdate {update : Message} (h : calls.onUpdate key update) :
    ∃ s, ThreadsReachable calls s ∧ Deadlocked s := by
  obtain ⟨tr, s, r, hreg, -⟩ := exists_registered calls key
  have hattach : GrpcClient.Step s.client (.onStreamUpdate key) _ := .onStreamUpdate hreg.owner
  have hthread : ∀ c', started s.client c' s.streams key = ⟨.reading, [], []⟩ :=
    fun _ => (started_of_streaming hreg.streaming).trans hreg.thread
  have hr := r.reachable.tail (.client hattach id (fun _ => hreg.lock) nofun)
  have hr := hr.tail (@Step.read _ _ _ _ key update (congrArg StreamThread.phase (hthread _)))
  have hr := hr.tail (@Step.pass _ _ _ _ key update (by simp)
    (hattach.updates_onStreamUpdate.mpr hreg.mem))
  have hr := hr.tail (@Step.ask _ _ _ _ (.stream key) (Or.inl ⟨update, by simp, h⟩)
    (hreg.asking _))
  refine exists_deadlocked hr hreg.owner hreg.lock ?_ (Function.update_self _ _ _)
  exact (congrFun SharedData.streamingAt_onStreamUpdate key).trans hreg.streaming

theorem exists_deadlocked_onFinish {status : Status} (h : calls.onFinish key status) :
    ∃ s, ThreadsReachable calls s ∧ Deadlocked s := by
  obtain ⟨tr, s, r, hreg, -⟩ := exists_registered calls key
  have hattach : GrpcClient.Step s.client (.onStreamFinish key) _ := .onStreamFinish hreg.owner
  have hthread : ∀ c', started s.client c' s.streams key = ⟨.reading, [], []⟩ :=
    fun _ => (started_of_streaming hreg.streaming).trans hreg.thread
  have hr := r.reachable.tail (.client hattach id (fun _ => hreg.lock) nofun)
  have hr := hr.tail (@Step.readEnd _ _ _ _ key (congrArg StreamThread.phase (hthread _)))
  have hr := hr.tail (@Step.finishCall _ _ _ _ key status move_phase
    (hattach.finishes_onStreamFinish hreg.mem))
  have hr := hr.tail (@Step.ask _ _ _ _ (.stream key) (Or.inr ⟨status, move_phase, h⟩)
    (hreg.asking _))
  refine exists_deadlocked hr hreg.owner hreg.lock ?_ (Function.update_self _ _ _)
  exact (congrFun SharedData.streamingAt_onStreamFinish key).trans hreg.streaming

/-- There is never a deadlock, exactly when no callback of a stream calls
`get_state` or `use_stub`. -/
theorem deadlockFree_iff (calls : Callbacks Message Status) :
    (∀ s, ThreadsReachable calls s → ¬ Deadlocked s) ↔
      (∀ key update, ¬ calls.onUpdate key update) ∧ ∀ key status, ¬ calls.onFinish key status := by
  constructor
  · intro hfree
    refine ⟨fun key update h => ?_, fun key status h => ?_⟩
    · obtain ⟨s, hr, hdead⟩ := exists_deadlocked_onUpdate h
      exact hfree s hr hdead
    · obtain ⟨s, hr, hdead⟩ := exists_deadlocked_onFinish h
      exact hfree s hr hdead
  · rintro ⟨hupdate, hfinish⟩ s hr hdead
    obtain ⟨_, key, _, _, hask⟩ := (deadlocked_iff hr).mp hdead
    rcases ThreadsReachable.asksInCallback hr key hask with ⟨update, -, h⟩ | ⟨status, -, h⟩
    · exact hupdate key update h
    · exact hfinish key status h

/-- An `on_update` callback that calls `use_stub`. -/
theorem not_deadlockFree :
    ¬ ∀ (calls : Callbacks Nat Nat) (s : ClientThreads Nat Nat),
      ThreadsReachable calls s → ¬ Deadlocked s := by
  intro hall
  let calls : Callbacks Nat Nat := ⟨fun _ => False, fun _ _ => True, fun _ _ => False⟩
  obtain ⟨s, hr, hdead⟩ := @exists_deadlocked_onUpdate _ _ calls 5 7 trivial
  exact hall calls s hr hdead

end ClientThreads

end Grpcw.Client
