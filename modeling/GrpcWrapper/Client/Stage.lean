import GrpcWrapper.Client.Sections

/-!
# The stages of a client

Between two sections a client is in one of six stages.  It is *closed*, with no
run thread, or a session with an address is *open*, with a run thread that has
one watch.  A kill takes an open client through *closing*, in which the run
thread handles what is left of its watch and sets the state.  `change_server`
takes a closed one through *connecting* and, for an address, *opening*.

A stage says where the threads are, what is left of the watches, and what the
state is worth.  Every step leads from a stage to a stage (`Step.stage`).
-/

namespace Grpcw.Client

open Transition

/-! ## Phases -/

/-- Where the owner is, as far as the stages go. -/
inductive Place where
  /-- Outside a call, or before the section of a kill. -/
  | before
  /-- In a kill, past its section. -/
  | killed
  | connecting
  | connectingInProcess
  /-- Past the section for an address, before the run thread is started. -/
  | opening
deriving DecidableEq

def OwnerPhase.place : OwnerPhase → Place
  | .idle | .killing _ => .before
  | .shuttingDown _ | .joining _ => .killed
  | .connecting => .connecting
  | .connectingInProcess _ => .connectingInProcess
  | .reporting _ | .starting => .opening

theorem place_afterConnect (stored state : ConnectivityState) :
    (GrpcClient.afterConnect stored state).place = .opening := by
  rw [GrpcClient.afterConnect]
  split <;> rfl

/-- `run_thread_->joinable()` -/
def RunThread.Joinable (t : RunThread) : Prop := ∃ phase, t = .joinable phase

theorem RunThread.not_joinable_joined {t : RunThread} : ¬ (GrpcClient.joined t).Joinable := by
  intro ⟨phase, heq⟩
  cases t <;> cases heq

/-- The events that the run thread has in hand. -/
def RunPhase.handled : RunPhase → Nat
  | .handling _ => 1
  | .waiting | .reporting _ | .exited => 0

@[simp] theorem handled_afterEvent (report : Option GrpcClientState) :
    (GrpcClient.afterEvent report).handled = 0 := by
  cases report <;> rfl

theorem afterEvent_ne_exited (report : Option GrpcClientState) :
    GrpcClient.afterEvent report ≠ .exited := by
  cases report <;> nofun

namespace GrpcClient

/-- The watches that are outstanding on the present queue. -/
def watches (c : GrpcClient) : Nat := c.queue.elim 0 Queue.watches

/-! ## Stages -/

/-- No session with an address.  The state is right unless the last server was
in-process, when it is `READY`. -/
structure Closed (c : GrpcClient) : Prop where
  thread : ¬ c.runThread.Joinable
  place : c.owner.place = .before ∨ c.owner.place = .killed ∧ c.shared.channel = none
  watches : c.watches = 0
  address : c.usingInProcessServer = false →
    c.shared.channel = none ∧ c.getState = .notConnected
  inProcess : c.usingInProcessServer = true → c.shared.connectionState = .ready

structure Connecting (c : GrpcClient) : Prop where
  thread : ¬ c.runThread.Joinable
  place : c.owner.place = .connecting
  queue : c.queue = some ⟨false, 0⟩
  channel : c.shared.channel = none
  address : c.usingInProcessServer = false

structure ConnectingInProcess (c : GrpcClient) : Prop where
  thread : ¬ c.runThread.Joinable
  place : c.owner.place = .connectingInProcess
  watches : c.watches = 0
  channel : c.shared.channel = none
  inProcess : c.usingInProcessServer = true

/-- The session has its channel and no run thread yet. -/
structure Opening (c : GrpcClient) : Prop where
  thread : ¬ c.runThread.Joinable
  place : c.owner.place = .opening
  queue : c.queue = some ⟨false, 1⟩
  channel : c.shared.channel.isSome
  address : c.usingInProcessServer = false

structure Open (c : GrpcClient) (phase : RunPhase) (watches : Nat) : Prop where
  thread : c.runThread = .joinable phase
  place : c.owner.place = .before
  queue : c.queue = some ⟨false, watches⟩
  one : watches + phase.handled = 1
  alive : phase ≠ .exited
  channel : c.shared.channel.isSome
  address : c.usingInProcessServer = false

/-- A kill has taken the channel away.  The run thread has one event to handle
still, or the state is right. -/
structure Closing (c : GrpcClient) (phase : RunPhase) (q : Queue) : Prop where
  thread : c.runThread = .joinable phase
  place : c.owner.place = .killed
  queue : c.queue = some q
  shutdown : ∀ call, c.owner = .joining call → q.shutdown = true
  left : q.watches + phase.handled = 1 ∨
    q.watches + phase.handled = 0 ∧ c.getState = .notConnected
  exited : phase = .exited → q.watches = 0
  channel : c.shared.channel = none
  address : c.usingInProcessServer = false

inductive Stage (c : GrpcClient) : Prop where
  | closed : Closed c → Stage c
  | connecting : Connecting c → Stage c
  | connectingInProcess : ConnectingInProcess c → Stage c
  | opening : Opening c → Stage c
  | opened {phase : RunPhase} {watches : Nat} : Open c phase watches → Stage c
  | closing {phase : RunPhase} {q : Queue} : Closing c phase q → Stage c

variable {c c' : GrpcClient} {a : Action} {call : OwnerCall} {phase : RunPhase}

theorem Stage.initial : Stage initial := by
  refine .closed ⟨?_, Or.inl rfl, rfl, fun _ => ⟨rfl, rfl⟩, ?_⟩
  · intro ⟨phase, h⟩
    cases h
  · intro h
    cases h

/-- Of the shared data, a stage speaks of the channel and the state only. -/
theorem Stage.congr {d : SharedData} (h : c.Stage) (hchannel : d.channel = c.shared.channel)
    (hstate : d.connectionState = c.shared.connectionState) :
    Stage { c with shared := d } := by
  have hget : ({ c with shared := d } : GrpcClient).getState = c.getState := by
    rw [getState, getState, hstate]
  cases h with
  | closed h =>
      refine .closed ⟨h.thread, ?_, h.watches, ?_, ?_⟩
      · rw [hchannel]
        exact h.place
      · rw [hchannel, hget]
        exact h.address
      · rw [hstate]
        exact h.inProcess
  | connecting h =>
      exact .connecting ⟨h.thread, h.place, h.queue, hchannel.trans h.channel, h.address⟩
  | connectingInProcess h =>
      exact .connectingInProcess
        ⟨h.thread, h.place, h.watches, hchannel.trans h.channel, h.inProcess⟩
  | opening h =>
      exact .opening ⟨h.thread, h.place, h.queue, hchannel ▸ h.channel, h.address⟩
  | opened h =>
      exact .opened ⟨h.thread, h.place, h.queue, h.one, h.alive, hchannel ▸ h.channel, h.address⟩
  | closing h =>
      exact .closing ⟨h.thread, h.place, h.queue, h.shutdown, hget ▸ h.left, h.exited,
        hchannel.trans h.channel, h.address⟩

/-! ## Which stage it is -/

theorem Stage.of_before (h : c.Stage) (ho : c.owner.place = .before) :
    Closed c ∨ ∃ phase watches, Open c phase watches := by
  cases h with
  | closed h => exact Or.inl h
  | opened h => exact Or.inr ⟨_, _, h⟩
  | connecting h | connectingInProcess h | opening h | closing h =>
      exact absurd (ho.symm.trans h.place) (by decide)

theorem Stage.of_killed (h : c.Stage) (ho : c.owner.place = .killed) :
    (Closed c ∧ c.shared.channel = none) ∨ ∃ phase q, Closing c phase q := by
  cases h with
  | closed h =>
      refine Or.inl ⟨h, ?_⟩
      rcases h.place with hp | ⟨-, hchannel⟩
      · exact absurd (ho.symm.trans hp) (by decide)
      · exact hchannel
  | closing h => exact Or.inr ⟨_, _, h⟩
  | connecting h | connectingInProcess h | opening h | opened h =>
      exact absurd (ho.symm.trans h.place) (by decide)

theorem Closed.place_ne {place : Place} (h : Closed c) (hbefore : place ≠ .before)
    (hkilled : place ≠ .killed) : c.owner.place ≠ place := by
  rcases h.place with hp | ⟨hp, -⟩
  · rw [hp]
    exact Ne.symm hbefore
  · rw [hp]
    exact Ne.symm hkilled

theorem Stage.of_connecting (h : c.Stage) (ho : c.owner.place = .connecting) : Connecting c := by
  cases h with
  | closed h => exact absurd ho (h.place_ne (by decide) (by decide))
  | connecting h => exact h
  | connectingInProcess h | opening h | opened h | closing h =>
      exact absurd (ho.symm.trans h.place) (by decide)

theorem Stage.of_connectingInProcess (h : c.Stage) (ho : c.owner.place = .connectingInProcess) :
    ConnectingInProcess c := by
  cases h with
  | closed h => exact absurd ho (h.place_ne (by decide) (by decide))
  | connectingInProcess h => exact h
  | connecting h | opening h | opened h | closing h =>
      exact absurd (ho.symm.trans h.place) (by decide)

theorem Stage.of_opening (h : c.Stage) (ho : c.owner.place = .opening) : Opening c := by
  cases h with
  | closed h => exact absurd ho (h.place_ne (by decide) (by decide))
  | opening h => exact h
  | connecting h | connectingInProcess h | opened h | closing h =>
      exact absurd (ho.symm.trans h.place) (by decide)

/-- While the run thread may be joined, a session is open or closing. -/
theorem Stage.of_joinable (h : c.Stage) (ht : c.runThread = .joinable phase) :
    (∃ watches, Open c phase watches) ∨ ∃ q, Closing c phase q := by
  cases h with
  | opened h =>
      obtain rfl := RunThread.joinable.inj (ht.symm.trans h.thread)
      exact Or.inl ⟨_, h⟩
  | closing h =>
      obtain rfl := RunThread.joinable.inj (ht.symm.trans h.thread)
      exact Or.inr ⟨_, h⟩
  | closed h | connecting h | connectingInProcess h | opening h =>
      exact absurd ⟨phase, ht⟩ h.thread

/-! ## One step -/

theorem Stage.beginCall (h : c.Stage) (ho : c.owner = .idle) :
    Stage { c with owner := .killing call } := by
  rcases h.of_before (by rw [ho]; rfl) with h | ⟨phase, n, h⟩
  · exact .closed ⟨h.thread, Or.inl rfl, h.watches, h.address, h.inProcess⟩
  · exact .opened ⟨h.thread, rfl, h.queue, h.one, h.alive, h.channel, h.address⟩

theorem Stage.kill (h : c.Stage) (ho : c.owner = .killing call) : Stage (c.kill call) := by
  rcases h.of_before (by rw [ho]; rfl) with h | ⟨phase, n, h⟩
  · refine .closed ⟨h.thread, Or.inr ⟨rfl, rfl⟩, h.watches, ?_, h.inProcess⟩
    intro haddress
    exact ⟨rfl, (h.address haddress).2⟩
  · refine .closing ⟨h.thread, rfl, h.queue, ?_, Or.inl h.one, ?_, rfl, h.address⟩
    · intro call' heq
      cases heq
    · intro heq
      exact absurd heq h.alive

theorem watches_shutdownQueue : (c.shutdownQueue call).watches = c.watches := by
  rw [watches, watches, shutdownQueue]
  cases c.queue <;> rfl

theorem Stage.shutdownQueue (h : c.Stage) (ho : c.owner = .shuttingDown call) :
    Stage (c.shutdownQueue call) := by
  rcases h.of_killed (by rw [ho]; rfl) with ⟨h, hchannel⟩ | ⟨phase, q, h⟩
  · exact .closed ⟨h.thread, Or.inr ⟨rfl, hchannel⟩, watches_shutdownQueue.trans h.watches,
      h.address, h.inProcess⟩
  · refine .closing (q := { q with shutdown := true })
      ⟨h.thread, rfl, ?_, fun _ _ => rfl, h.left, h.exited, h.channel, h.address⟩
    rw [GrpcClient.shutdownQueue, h.queue]
    rfl

/-- At the end of a kill nothing is left to handle.  The state is right unless
the server was in-process. -/
theorem Stage.of_join (h : c.Stage) (ho : c.owner = .joining call)
    (hj : ∀ phase, c.runThread = .joinable phase → phase = .exited) :
    c.watches = 0 ∧ c.shared.channel = none ∧
      (c.usingInProcessServer = false → c.getState = .notConnected) ∧
      (c.usingInProcessServer = true → c.shared.connectionState = .ready) := by
  rcases h.of_killed (by rw [ho]; rfl) with ⟨h, hchannel⟩ | ⟨phase, q, h⟩
  · exact ⟨h.watches, hchannel, fun haddress => (h.address haddress).2, h.inProcess⟩
  · obtain rfl := hj phase h.thread
    have hwatches : q.watches = 0 := h.exited rfl
    refine ⟨?_, h.channel, fun _ => ?_, fun hin => ?_⟩
    · rw [watches, h.queue]
      exact hwatches
    · rcases h.left with hone | ⟨-, hstate⟩
      · rw [hwatches] at hone
        cases hone
      · exact hstate
    · rw [h.address] at hin
      cases hin

theorem Stage.join (h : c.Stage) (ho : c.owner = .joining call)
    (hj : ∀ phase, c.runThread = .joinable phase → phase = .exited) : Stage (c.join call) := by
  obtain ⟨hwatches, hchannel, haddress, hin⟩ := h.of_join ho hj
  cases call with
  | kill =>
      exact .closed ⟨RunThread.not_joinable_joined, Or.inl rfl, hwatches,
        fun hu => ⟨hchannel, haddress hu⟩, hin⟩
  | changeServer address =>
      exact .connecting ⟨RunThread.not_joinable_joined, rfl, rfl, hchannel, rfl⟩
  | changeServerInProcess channel =>
      exact .connectingInProcess ⟨RunThread.not_joinable_joined, rfl, hwatches, hchannel, rfl⟩

theorem Stage.connect {channel : Channel} {x : ConnectivityState} (h : c.Stage)
    (ho : c.owner = .connecting) : Stage (c.connect channel x) := by
  have h := h.of_connecting (by rw [ho]; rfl)
  refine .opening ⟨h.thread, place_afterConnect _ _, ?_, rfl, h.address⟩
  rw [GrpcClient.connect, watch]
  simp only [h.queue, Option.map_some]

theorem Stage.connectInProcess {channel : Option Channel} (h : c.Stage)
    (ho : c.owner = .connectingInProcess channel) : Stage (c.connectInProcess channel) := by
  have h := h.of_connectingInProcess (by rw [ho]; rfl)
  refine .closed ⟨h.thread, Or.inl rfl, h.watches, ?_, fun _ => rfl⟩
  intro haddress
  exact absurd (haddress.symm.trans h.inProcess) (by decide)

theorem Stage.report {state : GrpcClientState} (h : c.Stage) (ho : c.owner = .reporting state) :
    Stage { c with owner := .starting, log := .report state :: c.log } := by
  have h := h.of_opening (by rw [ho]; rfl)
  exact .opening ⟨h.thread, rfl, h.queue, h.channel, h.address⟩

theorem Stage.start (h : c.Stage) (ho : c.owner = .starting) :
    Stage { c with runThread := .joinable .waiting, owner := .idle } := by
  have h := h.of_opening (by rw [ho]; rfl)
  exact .opened ⟨rfl, rfl, h.queue, rfl, nofun, h.channel, h.address⟩

theorem Stage.next {q : Queue} {n : Nat} {resultOk : Bool} (h : c.Stage)
    (ht : c.runThread = .joinable .waiting) (hq : c.queue = some q) (hn : q.watches = n + 1) :
    Stage { c with
      queue := some { q with watches := n }
      runThread := .joinable (.handling resultOk) } := by
  rcases h.of_joinable ht with ⟨m, h⟩ | ⟨q', h⟩
  · obtain rfl : q = ⟨false, m⟩ := Option.some.inj (hq.symm.trans h.queue)
    cases hn
    exact .opened ⟨rfl, h.place, rfl, h.one, nofun, h.channel, h.address⟩
  · obtain rfl : q = q' := Option.some.inj (hq.symm.trans h.queue)
    have hleft := h.left
    rw [hn] at hleft
    exact .closing ⟨rfl, h.place, rfl, h.shutdown, hleft, nofun, h.channel, h.address⟩

theorem Stage.exit (h : c.Stage) (ht : c.runThread = .joinable .waiting)
    (hq : c.queue = some ⟨true, 0⟩) : Stage { c with runThread := .joinable .exited } := by
  rcases h.of_joinable ht with ⟨m, h⟩ | ⟨q', h⟩
  · cases hq.symm.trans h.queue
  · obtain rfl : (⟨true, 0⟩ : Queue) = q' := Option.some.inj (hq.symm.trans h.queue)
    exact .closing ⟨rfl, h.place, hq, h.shutdown, h.left, fun _ => rfl, h.channel, h.address⟩

theorem Stage.handle {resultOk : Bool} {x : ConnectivityState} {s : SharedData.Handled}
    (h : c.Stage) (ht : c.runThread = .joinable (.handling resultOk))
    (hs : HandledAs c.shared resultOk x s) : Stage (c.handle resultOk x s) := by
  rcases h.of_joinable ht with ⟨m, h⟩ | ⟨q, h⟩
  · -- the watch that came back is replaced
    obtain ⟨hchannel, hwatch⟩ := hs.watch
    rw [GrpcClient.handle, hwatch, h.channel]
    have hm : m = 0 := by
      have hone := h.one
      rw [RunPhase.handled] at hone
      omega
    refine @Stage.opened _ (afterEvent s.report) (m + 1)
      ⟨rfl, h.place, ?_, ?_, afterEvent_ne_exited _, ?_, h.address⟩
    · simp only [if_true, watch, h.queue, Option.map_some]
    · rw [handled_afterEvent, hm]
    · exact hchannel ▸ h.channel
  · have hq : q.watches = 0 := by
      rcases h.left with hone | ⟨hzero, -⟩
      · rw [RunPhase.handled] at hone
        omega
      · rw [RunPhase.handled] at hzero
        omega
    rw [GrpcClient.handle, hs.watch.2, h.channel]
    refine @Stage.closing _ (afterEvent s.report) q
      ⟨rfl, h.place, h.queue, h.shutdown, Or.inr ⟨?_, ?_⟩, fun _ => hq, ?_, h.address⟩
    · rw [handled_afterEvent, hq]
    · cases hs with
      | observed hsome _ _ | deadline hsome _ =>
          rw [h.channel] at hsome
          cases hsome
      | finished _ hnot => exact hnot
      | disconnected _ _ => rfl
    · exact hs.watch.1.trans h.channel

theorem Stage.runReport {state : GrpcClientState} (h : c.Stage)
    (ht : c.runThread = .joinable (.reporting state)) :
    Stage { c with runThread := .joinable .waiting, log := .report state :: c.log } := by
  rcases h.of_joinable ht with ⟨m, h⟩ | ⟨q, h⟩
  · exact .opened ⟨rfl, h.place, h.queue, h.one, nofun, h.channel, h.address⟩
  · exact .closing ⟨rfl, h.place, h.queue, h.shutdown, h.left, nofun, h.channel, h.address⟩

theorem Step.stage (h : c.Stage) (hs : Step c a c') : c'.Stage := by
  cases hs with
  | call ho => exact h.beginCall ho
  | kill ho => exact h.kill ho
  | shutdownQueue ho => exact h.shutdownQueue ho
  | join ho hj => exact h.join ho hj
  | connect ho => exact h.connect ho
  | connectInProcess ho => exact h.connectInProcess ho
  | report ho => exact h.report ho
  | start ho => exact h.start ho
  | registerStream _ _ hd =>
      obtain ⟨-, hchannel, hstate⟩ := registerStream_pointers hd
      exact h.congr hchannel hstate
  | onStreamUpdate _ =>
      obtain ⟨-, hchannel, hstate⟩ := onStreamUpdate_pointers (d := c.shared) _
      exact h.congr hchannel hstate
  | onStreamFinish _ =>
      obtain ⟨-, hchannel, hstate⟩ := onStreamFinish_pointers (d := c.shared) _
      exact h.congr hchannel hstate
  | useStub => exact h
  | next ht hq hn => exact h.next ht hq hn
  | exit ht hq => exact h.exit ht hq
  | handle ht hh => exact h.handle ht (handleEvent_cases hh)
  | runReport ht => exact h.runReport ht

theorem ClientReachable.stage (hr : c.ClientReachable) : c.Stage :=
  hr.invariant .initial fun _ h hs => hs.stage h

end GrpcClient

end Grpcw.Client
