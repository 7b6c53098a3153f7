import GrpcWrapper.Client.StreamStates

/-!
# The watches of a session

While the channel of a session is alive, one watch for its state is outstanding
or its event is in the hands of the run thread, so every change is seen once.
No watch is issued on a queue that was shut down, since the kill takes the
channel away first.  The run thread then has at most one event left, and after
it the queue is empty, `Next` returns false and the thread ends.
-/

namespace Grpcw.Client

open Transition

/-- The events that the run thread has in hand. -/
def RunThread.handled : RunThread → Nat
  | .joinable phase => phase.handled
  | .null | .joined => 0

theorem RunThread.handled_of_not_joinable {t : RunThread} (h : ¬ t.Joinable) : t.handled = 0 := by
  cases t with
  | null | joined => rfl
  | joinable phase => exact absurd ⟨phase, rfl⟩ h

/-- How many events were handled since the last kill, if no session has been
opened after it. -/
def eventsSinceKill : List ClientEvent → Option Nat
  | [] => none
  | .kill :: _ => some 0
  | .connect _ _ :: _ => none
  | .event _ _ :: past => (eventsSinceKill past).map (· + 1)
  | .connectInProcess :: past | .watch _ :: past | .report _ :: past => eventsSinceKill past

namespace GrpcClient

/-- The watches that are outstanding or whose event is being handled. -/
def outstanding (c : GrpcClient) : Nat := c.watches + c.runThread.handled

/-- The actions of the run thread. -/
def Action.ofRunThread : Action → Prop
  | .next _ | .exit | .handle _ | .runReport => True
  | _ => False

/-- The run thread has left its loop. -/
def Ended (c : GrpcClient) : Prop := ∀ phase, c.runThread = .joinable phase → phase = .exited

structure WatchDiscipline (c : GrpcClient) : Prop where
  /-- A session whose channel is alive has one watch. -/
  one : c.usingInProcessServer = false → c.shared.channel.isSome → c.outstanding = 1
  /-- No watch was issued on a queue after its shutdown. -/
  notLate : .watch true ∉ c.log
  /-- The run thread handles at most one event after a kill. -/
  lastEvent : ∀ n, eventsSinceKill c.log = some n → n ≤ 1
  /-- While the owner waits for it, the run thread gets to its end. -/
  exits : ∀ call, c.owner = .joining call → Inevitably Step Action.ofRunThread Ended c
  /-- The owner goes on when the thread is joined, and `queue_` is replaced then. -/
  joins : ∀ {c'}, Step c .join c' → c.Ended ∧ ¬ c'.runThread.Joinable
  /-- `run_thread_` is replaced when there is no thread to join. -/
  starts : ∀ {c'}, Step c .start c' → ¬ c.runThread.Joinable

variable {c c' : GrpcClient} {a : Action}

/-! ## The watches of a stage -/

theorem Open.outstanding {phase : RunPhase} {watches : Nat} (h : Open c phase watches) :
    c.outstanding = 1 := by
  rw [GrpcClient.outstanding, GrpcClient.watches, h.queue, h.thread]
  exact h.one

theorem Closing.outstanding {phase : RunPhase} {q : Queue} (h : Closing c phase q) :
    c.outstanding = q.watches + phase.handled := by
  rw [GrpcClient.outstanding, GrpcClient.watches, h.queue, h.thread]
  rfl

/-- An address session's channel is alive while the session is opening or open. -/
theorem Stage.outstanding_of_alive (h : c.Stage) (haddress : c.usingInProcessServer = false)
    (hsome : c.shared.channel.isSome) : c.outstanding = 1 := by
  have hnone : c.shared.channel ≠ none := Option.isSome_iff_ne_none.mp hsome
  cases h with
  | closed h => exact absurd (h.address haddress).1 hnone
  | connecting h | connectingInProcess h | closing h => exact absurd h.channel hnone
  | opening h =>
      rw [GrpcClient.outstanding, watches, h.queue, RunThread.handled_of_not_joinable h.thread]
      rfl
  | opened h => exact h.outstanding

theorem Stage.outstanding_le (h : c.Stage) : c.outstanding ≤ 1 := by
  cases h with
  | closed h | connectingInProcess h =>
      rw [GrpcClient.outstanding, h.watches, RunThread.handled_of_not_joinable h.thread]
      decide
  | connecting h | opening h =>
      rw [GrpcClient.outstanding, watches, h.queue, RunThread.handled_of_not_joinable h.thread]
      decide
  | opened h => exact Nat.le_of_eq h.outstanding
  | closing h =>
      rw [h.outstanding]
      rcases h.left with hone | ⟨hzero, -⟩
      · exact Nat.le_of_eq hone
      · omega

/-! ## The log -/

/-- What the log says of the watches and of the events since the last kill. -/
structure WatchLog (c : GrpcClient) : Prop where
  notLate : .watch true ∉ c.log
  /-- An event that is left takes the place of one that was handled. -/
  left : ∀ n, eventsSinceKill c.log = some n → n + c.outstanding ≤ 1
  /-- A session is opened after the kill. -/
  opened : c.usingInProcessServer = false → c.shared.channel.isSome →
    eventsSinceKill c.log = none

theorem WatchLog.initial : WatchLog initial where
  notLate := nofun
  left := nofun
  opened := fun _ h => by cases h

theorem late_of_cons {e : ClientEvent} {log : List ClientEvent} (hm : .watch true ∈ e :: log)
    (hne : .watch true ≠ e) : .watch true ∈ log :=
  (List.mem_cons.mp hm).resolve_left hne

/-- Steps that log nothing about watches and events. -/
theorem WatchLog.congr (h : c.WatchLog) (hlate : .watch true ∈ c'.log → .watch true ∈ c.log)
    (hevents : eventsSinceKill c'.log = eventsSinceKill c.log)
    (hout : c'.outstanding ≤ c.outstanding)
    (hlive : c'.usingInProcessServer = false → c'.shared.channel.isSome →
      c.usingInProcessServer = false ∧ c.shared.channel.isSome) : c'.WatchLog where
  notLate := fun hm => h.notLate (hlate hm)
  left := by
    intro n hn
    rw [hevents] at hn
    exact Nat.le_trans (Nat.add_le_add_left hout n) (h.left n hn)
  opened := by
    intro haddress hsome
    rw [hevents]
    exact h.opened (hlive haddress hsome).1 (hlive haddress hsome).2

theorem WatchLog.kill {call : OwnerCall} (h : c.WatchLog) (hstage : c.Stage) :
    WatchLog (c.kill call) where
  notLate := fun hm => h.notLate (late_of_cons hm (by simp))
  left := by
    intro n hn
    obtain rfl : 0 = n := Option.some.inj hn
    rw [Nat.zero_add]
    exact hstage.outstanding_le
  opened := fun _ hsome => by cases hsome

/-- A new queue has no watches and was not shut down. -/
theorem WatchLog.connect {channel : Channel} {x : ConnectivityState} (h : c.WatchLog)
    (hc : c.Connecting) : WatchLog (c.connect channel x) := by
  have hevents : eventsSinceKill (c.connect channel x).log = none := rfl
  refine ⟨?_, ?_, fun _ _ => hevents⟩
  · intro hm
    have hlate : c.queue.any Queue.shutdown = false := by
      rw [hc.queue]
      rfl
    have hm : .watch true ∈ ClientEvent.watch (c.queue.any Queue.shutdown) ::
        .connect c.shared.connectionState x :: c.log := hm
    rw [hlate] at hm
    exact h.notLate (late_of_cons (late_of_cons hm (by simp)) (by simp))
  · intro n hn
    rw [hevents] at hn
    cases hn

theorem WatchLog.handle {resultOk : Bool} {x : ConnectivityState} {s : SharedData.Handled}
    (h : c.WatchLog) (hstage : c.Stage) (ht : c.runThread = .joinable (.handling resultOk))
    (hs : HandledAs c.shared resultOk x s) : WatchLog (c.handle resultOk x s) := by
  obtain ⟨hchannel, hwatch⟩ := hs.watch
  rcases hstage.of_joinable ht with ⟨n, hopen⟩ | ⟨q, hclosing⟩
  · -- the session is open, and its watch is issued again
    have hnone := h.opened hopen.address hopen.channel
    have hlog : (c.handle resultOk x s).log =
        .watch false :: .event resultOk (c.stateRead resultOk x) :: c.log := by
      rw [GrpcClient.handle, hwatch, hopen.channel]
      simp only [if_true, watch, hopen.queue, Option.any_some]
    have hevents : eventsSinceKill (c.handle resultOk x s).log = none := by
      rw [hlog]
      show (eventsSinceKill c.log).map _ = none
      rw [hnone]
      rfl
    refine ⟨?_, ?_, fun _ _ => hevents⟩
    · intro hm
      rw [hlog] at hm
      exact h.notLate (late_of_cons (late_of_cons hm (by simp)) (by simp))
    · intro n hn
      rw [hevents] at hn
      cases hn
  · -- the channel is gone: this was the last event
    have hlog : (c.handle resultOk x s).log =
        .event resultOk (c.stateRead resultOk x) :: c.log := by
      rw [GrpcClient.handle, hwatch, hclosing.channel]
      rfl
    have hqueue : (c.handle resultOk x s).queue = c.queue := by
      rw [GrpcClient.handle, hwatch, hclosing.channel]
      rfl
    have hleft : c.outstanding = c.watches + 1 := by
      rw [GrpcClient.outstanding, ht]
      rfl
    have hout : (c.handle resultOk x s).outstanding = c.watches := by
      rw [GrpcClient.outstanding, GrpcClient.watches, hqueue, handle_runThread]
      show c.watches + (afterEvent s.report).handled = c.watches
      rw [handled_afterEvent]
      rfl
    refine ⟨?_, ?_, ?_⟩
    · intro hm
      rw [hlog] at hm
      exact h.notLate (late_of_cons hm (by simp))
    · intro n hn
      rw [hlog] at hn
      obtain ⟨m, hm, rfl⟩ := Option.map_eq_some_iff.mp hn
      have hle := h.left m hm
      rw [hleft] at hle
      rw [hout]
      omega
    · intro _ hsome
      rw [handle_shared, hchannel, hclosing.channel] at hsome
      cases hsome

theorem WatchLog.join {call : OwnerCall} (h : c.WatchLog) (hstage : c.Stage)
    (ho : c.owner = .joining call)
    (hj : ∀ phase, c.runThread = .joinable phase → phase = .exited) :
    WatchLog (c.join call) := by
  have hlog : (c.join call).log = c.log := by cases call <;> rfl
  have hthread : (c.join call).runThread.handled = 0 :=
    RunThread.handled_of_not_joinable (by cases call <;> exact RunThread.not_joinable_joined)
  have hwatches : (c.join call).watches = 0 := by
    cases call with
    | changeServer _ => rfl
    | kill | changeServerInProcess _ => exact (hstage.of_join ho hj).1
  refine h.congr ?_ (by rw [hlog]) ?_ ?_
  · rw [hlog]
    exact id
  · rw [GrpcClient.outstanding, hwatches, hthread]
    exact Nat.zero_le _
  · intro _ hsome
    rw [join_shared, (hstage.of_join ho hj).2.1] at hsome
    cases hsome

theorem WatchLog.step (h : c.WatchLog) (hstage : c.Stage) (hs : Step c a c') :
    c'.WatchLog := by
  cases hs with
  | call _ | useStub => exact h.congr id rfl (Nat.le_refl _) fun h₁ h₂ => ⟨h₁, h₂⟩
  | kill _ => exact h.kill hstage
  | @shutdownQueue call _ =>
      refine h.congr id rfl ?_ fun h₁ h₂ => ⟨h₁, h₂⟩
      rw [GrpcClient.outstanding, GrpcClient.outstanding, watches_shutdownQueue]
      exact Nat.le_refl _
  | join ho hj => exact h.join hstage ho hj
  | connect ho => exact h.connect (hstage.of_connecting (by rw [ho]; rfl))
  | connectInProcess ho =>
      have hc := hstage.of_connectingInProcess (by rw [ho]; rfl)
      refine h.congr ?_ rfl (Nat.le_refl _) ?_
      · exact fun hm => late_of_cons hm (by simp)
      · intro haddress
        exact absurd (haddress.symm.trans hc.inProcess) (by decide)
  | report _ =>
      refine h.congr ?_ rfl (Nat.le_refl _) fun h₁ h₂ => ⟨h₁, h₂⟩
      exact fun hm => late_of_cons hm (by simp)
  | start ho =>
      have hthread := (hstage.of_opening (by rw [ho]; rfl)).thread
      refine h.congr id rfl ?_ fun h₁ h₂ => ⟨h₁, h₂⟩
      rw [GrpcClient.outstanding, GrpcClient.outstanding,
        RunThread.handled_of_not_joinable hthread]
      exact Nat.le_refl _
  | registerStream _ _ hd =>
      obtain ⟨-, hchannel, -⟩ := registerStream_pointers hd
      exact h.congr id rfl (Nat.le_refl _) fun h₁ h₂ => ⟨h₁, hchannel ▸ h₂⟩
  | onStreamUpdate _ =>
      obtain ⟨-, hchannel, -⟩ := onStreamUpdate_pointers (d := c.shared) _
      exact h.congr id rfl (Nat.le_refl _) fun h₁ h₂ => ⟨h₁, hchannel ▸ h₂⟩
  | onStreamFinish _ =>
      obtain ⟨-, hchannel, -⟩ := onStreamFinish_pointers (d := c.shared) _
      exact h.congr id rfl (Nat.le_refl _) fun h₁ h₂ => ⟨h₁, hchannel ▸ h₂⟩
  | next ht hq hn =>
      refine h.congr id rfl ?_ fun h₁ h₂ => ⟨h₁, h₂⟩
      rw [GrpcClient.outstanding, GrpcClient.outstanding, watches, watches, hq, ht]
      exact Nat.le_of_eq hn.symm
  | exit ht hq =>
      refine h.congr id rfl ?_ fun h₁ h₂ => ⟨h₁, h₂⟩
      rw [GrpcClient.outstanding, GrpcClient.outstanding, ht]
      exact Nat.le_refl _
  | handle ht hh => exact h.handle hstage ht (handleEvent_cases hh)
  | runReport ht =>
      refine h.congr ?_ rfl ?_ fun h₁ h₂ => ⟨h₁, h₂⟩
      · exact fun hm => late_of_cons hm (by simp)
      · rw [GrpcClient.outstanding, GrpcClient.outstanding, ht]
        exact Nat.le_refl _

theorem ClientReachable.watchLog (hr : c.ClientReachable) : c.WatchLog :=
  hr.invariant .initial fun hr h hs => h.step (ClientReachable.stage hr) hs

/-! ## The end of the run thread -/

/-- The steps that the run thread has still to take once the queue is shut
down. -/
def toGo (c : GrpcClient) : Nat :=
  match c.runThread with
  | .joinable .waiting => 1 + 3 * c.watches
  | .joinable (.handling _) => 3 + 3 * c.watches
  | .joinable (.reporting _) => 2 + 3 * c.watches
  | .joinable .exited | .null | .joined => 0

/-- While the owner waits for it, the run thread can go on. -/
theorem ClientReachable.run_thread_live {call : OwnerCall} (hr : c.ClientReachable)
    (ho : c.owner = .joining call) (hend : ¬ c.Ended) :
    ∃ a c', Action.ofRunThread a ∧ Step c a c' := by
  rw [Ended, not_forall] at hend
  obtain ⟨phase, hphase⟩ := hend
  rw [Classical.not_imp] at hphase
  obtain ⟨ht, hne⟩ := hphase
  rcases (ClientReachable.stage hr).of_joinable ht with ⟨n, h⟩ | ⟨q, h⟩
  · have hplace := h.place
    rw [ho] at hplace
    cases hplace
  · cases phase with
    | waiting =>
        obtain ⟨shutdown, watches⟩ := q
        cases watches with
        | zero =>
            obtain rfl : shutdown = true := h.shutdown call ho
            exact ⟨.exit, _, trivial, .exit ht h.queue⟩
        | succ n => exact ⟨.next true, _, trivial, .next ht h.queue rfl⟩
    | handling resultOk =>
        have hstub := isSome_handleEvent (ClientReachable.stubWithChannel hr) resultOk .idle
        obtain ⟨s, hs⟩ := Option.isSome_iff_exists.mp hstub
        exact ⟨.handle .idle, _, trivial, .handle ht hs⟩
    | reporting state => exact ⟨.runReport, _, trivial, .runReport ht⟩
    | exited => exact absurd rfl hne

/-- The run thread comes nearer to its end, and the owner waits on. -/
theorem toGo_lt {call : OwnerCall} (hstage : c.Stage) (ho : c.owner = .joining call)
    (ha : Action.ofRunThread a) (hs : Step c a c') :
    c'.owner = .joining call ∧ c'.toGo < c.toGo := by
  cases hs with
  | call _ | kill _ | shutdownQueue _ | join _ _ | connect _ | connectInProcess _ | report _
  | start _ | registerStream _ _ _ | onStreamUpdate _ | onStreamFinish _ | useStub => exact ha.elim
  | next ht hq hn =>
      refine ⟨ho, ?_⟩
      rw [toGo, toGo, ht]
      simp only [watches, hq, Option.elim_some, hn]
      omega
  | exit ht hq =>
      refine ⟨ho, ?_⟩
      rw [toGo, toGo, ht]
      simp only [watches, hq, Option.elim_some]
      decide
  | runReport ht =>
      refine ⟨ho, ?_⟩
      rw [toGo, toGo, ht]
      simp only [watches]
      omega
  | @handle resultOk x s ht hh =>
      have hs := handleEvent_cases hh
      refine ⟨by rw [handle_owner]; exact ho, ?_⟩
      rcases hstage.of_joinable ht with ⟨n, h⟩ | ⟨q, h⟩
      · have hplace := h.place
        rw [ho] at hplace
        cases hplace
      · have hwatches : (c.handle resultOk x s).watches = c.watches := by
          rw [watches, watches, GrpcClient.handle, hs.watch.2, h.channel]
          rfl
        rw [toGo, toGo, handle_runThread, ht, hwatches]
        cases s.report with
        | none =>
            show 1 + 3 * c.watches < 3 + 3 * c.watches
            omega
        | some state =>
            show 2 + 3 * c.watches < 3 + 3 * c.watches
            omega

theorem ClientReachable.exits {call : OwnerCall} (hr : c.ClientReachable)
    (ho : c.owner = .joining call) : Inevitably Step Action.ofRunThread Ended c := by
  refine inevitably_of_measure (I := fun c => c.ClientReachable ∧ c.owner = .joining call) toGo
    ?_ ?_ ⟨hr, ho⟩
  · intro s a s' ⟨hr, ho⟩ ha hs
    obtain ⟨ho', hlt⟩ := toGo_lt (ClientReachable.stage hr) ho ha hs
    exact ⟨⟨hr.tail hs, ho'⟩, hlt⟩
  · intro s ⟨hr, ho⟩ hend
    exact ClientReachable.run_thread_live hr ho hend

/-! ## The discipline -/

theorem reachable_watchDiscipline (hr : c.ClientReachable) : c.WatchDiscipline where
  one := (ClientReachable.stage hr).outstanding_of_alive
  notLate := (ClientReachable.watchLog hr).notLate
  lastEvent := by
    intro n hn
    have hle := (ClientReachable.watchLog hr).left n hn
    omega
  exits := fun _ => ClientReachable.exits hr
  joins := by
    intro c' hs
    cases hs with
    | @join call ho hj =>
        refine ⟨hj, ?_⟩
        cases call <;> exact RunThread.not_joinable_joined
  starts := by
    intro c' hs
    cases hs with
    | start ho => exact ((ClientReachable.stage hr).of_opening (by rw [ho]; rfl)).thread

/-- A session loses its connection and is killed. -/
theorem reachable_watchDiscipline_lostConnection :
    (played lostConnection).2.runThread = .joined ∧ (played lostConnection).2.WatchDiscipline :=
  ⟨by decide, reachable_watchDiscipline (played_run lostConnection).reachable⟩

end GrpcClient

end Grpcw.Client
