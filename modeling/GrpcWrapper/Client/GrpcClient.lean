import GrpcWrapper.Client.GrpcClientStream
import GrpcWrapper.Library.Transition

/-!
# The client

`GrpcClient` has an owner thread, which changes servers and registers streams,
and while it is connected to an address a run thread, which handles the events
of `queue_`.  Any thread may use the stub.  What the threads share is under one
lock, and a step is a section of it or an action of one thread between two
sections; `kill_streams_and_channel` alone takes three.

gRPC is the environment.  A channel may be in any state when it is asked, and
an outstanding watch comes back at any time and with any `result_ok`.  `Next`
returns false when the queue was shut down and has no watch outstanding.

`log` is not part of the program.  It lists, newest first, what the threads
did.
-/

namespace Grpcw.Client

open Transition

/-! ## Data -/

/-- All the data shared between threads. -/
structure SharedData where
  connectionState : ConnectivityState
  channel : Option Channel
  stub : Option Stub
  streams : Streams

/-- `queue_`; the only tag in it is `connection_change_tag`. -/
structure Queue where
  shutdown : Bool
  /-- How many state watches are outstanding. -/
  watches : Nat
deriving DecidableEq, Repr

/-- Where the run thread is in `run`. -/
inductive RunPhase where
  /-- In `Next`. -/
  | waiting
  /-- Before the section for an event. -/
  | handling (resultOk : Bool)
  /-- Before the callback. -/
  | reporting (state : GrpcClientState)
  | exited
deriving DecidableEq, Repr

/-- `run_thread_` -/
inductive RunThread where
  | null
  | joinable (phase : RunPhase)
  | joined
deriving DecidableEq, Repr

/-- The functions of the owner that take more than a section. -/
inductive OwnerCall where
  | changeServer (address : String)
  /-- `change_server(in_process_channel)` -/
  | changeServerInProcess (channel : Option Channel)
  /-- `kill_streams_and_channel`, and the destructor. -/
  | kill
deriving DecidableEq, Repr

/-- Where the owner is.  All three calls begin with `kill_streams_and_channel`. -/
inductive OwnerPhase where
  | idle
  /-- Before the section of the kill. -/
  | killing (call : OwnerCall)
  /-- Before `queue_->Shutdown()`. -/
  | shuttingDown (call : OwnerCall)
  /-- Before `run_thread_->join()`. -/
  | joining (call : OwnerCall)
  /-- Before the section of `change_server(address, …)`. -/
  | connecting
  /-- Before the section of `change_server(in_process_channel)`. -/
  | connectingInProcess (channel : Option Channel)
  /-- Before the callback of `change_server`. -/
  | reporting (state : GrpcClientState)
  /-- Before the run thread is started. -/
  | starting
deriving DecidableEq, Repr

inductive ClientEvent where
  | kill
  /-- A section of `change_server`: the state it found and the one it read. -/
  | connect (stored state : ConnectivityState)
  | connectInProcess
  /-- A section of the run thread, and the state that it read if it read one. -/
  | event (resultOk : Bool) (state : Option ConnectivityState)
  /-- `NotifyOnStateChange`; `late` when the queue was shut down. -/
  | watch (late : Bool)
  /-- `connection_change_callback(state)` -/
  | report (state : GrpcClientState)
deriving DecidableEq, Repr

structure GrpcClient where
  shared : SharedData
  usingInProcessServer : Bool
  serverAddress : String
  queue : Option Queue
  runThread : RunThread
  owner : OwnerPhase
  log : List ClientEvent

/-! ## Sections -/

namespace SharedData

/-- The loop over `streams` that starts them; `none` when it follows a null
stub. -/
def startStreams (stub : Option Stub) (streams : Streams) : Option Streams :=
  if streams.entries = [] then some streams
  else stub.map fun s => streams.mapValues (GrpcClientStream.startStream s)

/-- The loop over `streams` that stops them. -/
def stopStreams (streams : Streams) : Streams := streams.mapValues GrpcClientStream.stopStream

/-- The section of `kill_streams_and_channel`. -/
def kill (d : SharedData) : SharedData :=
  { d with streams := stopStreams d.streams, stub := none, channel := none }

/-- The section of `change_server(address, …)`, for the new channel and the state
that it is in. -/
def connect (channel : Channel) (state : ConnectivityState) (d : SharedData) : SharedData :=
  { d with
    channel := some channel
    stub := some (newStub (some channel))
    connectionState := state }

/-- The section of `change_server(in_process_channel)`. -/
def connectInProcess (channel : Option Channel) (d : SharedData) : SharedData :=
  { d with
    channel := channel
    stub := some (newStub channel)
    connectionState := .ready }

/-- The section of `register_stream`, for the address of the new stream; `none`
when it follows a null stub. -/
def registerStream (key : Nat) (d : SharedData) : Option SharedData :=
  if d.channel.isSome ∧ d.connectionState = .ready then
    d.stub.map fun s =>
      { d with streams := d.streams.emplace key (GrpcClientStream.new.startStream s) }
  else
    some { d with streams := d.streams.emplace key GrpcClientStream.new }

/-- The section of `on_stream_update`. -/
def onStreamUpdate (key : Nat) (d : SharedData) : SharedData :=
  match d.streams.lookup key with
  | some s => { d with streams := d.streams.insert key { s with onUpdate := true } }
  | none => d

/-- The section of `on_stream_finish`. -/
def onStreamFinish (key : Nat) (d : SharedData) : SharedData :=
  match d.streams.lookup key with
  | some s => { d with streams := d.streams.insert key { s with onFinish := true } }
  | none => d

/-- What `use_stub` returns, and the stubs that `usage_func` is called with;
`none` when it follows a null stub. -/
def useStub (d : SharedData) : Option (Bool × List Stub) :=
  if d.connectionState = .ready then d.stub.map fun s => (true, [s]) else some (false, [])

/-- What a section of the run thread leaves: the data, the state to report if it
changed, and whether the channel was asked for another event. -/
structure Handled where
  data : SharedData
  report : Option GrpcClientState
  watch : Bool

/-- The section of `run` when the channel is alive and in the state `x`; `none`
when it follows a null stub. -/
def observe (x : ConnectivityState) (d : SharedData) : Option Handled :=
  let d' := { d with connectionState := x }
  if toCncClientState x = toCncClientState d.connectionState then some ⟨d', none, true⟩
  else if x = .ready then
    (startStreams d.stub d.streams).map fun streams =>
      ⟨{ d' with streams := streams }, some (toCncClientState x), true⟩
  else
    some ⟨{ d' with streams := stopStreams d.streams }, some (toCncClientState x), true⟩

/-- The section of `run`; `x` is the state of the channel if it is asked for. -/
def handleEvent (resultOk : Bool) (x : ConnectivityState) (d : SharedData) : Option Handled :=
  match d.channel with
  | some _ => if resultOk then d.observe x else some ⟨d, none, true⟩
  | none =>
      if toCncClientState d.connectionState = .notConnected then some ⟨d, none, false⟩
      else
        some ⟨{ d with connectionState := .shutdown }, some (toCncClientState .shutdown), false⟩

end SharedData

/-! ## Steps of the threads -/

namespace GrpcClient

def initial : GrpcClient where
  shared := ⟨.idle, none, none, ∅⟩
  usingInProcessServer := false
  serverAddress := ""
  queue := none
  runThread := .null
  owner := .idle
  log := []

/-- `get_state` -/
def getState (c : GrpcClient) : GrpcClientState := toCncClientState c.shared.connectionState

/-- `NotifyOnStateChange` with `queue_` and `connection_change_tag`. -/
def watch (c : GrpcClient) : GrpcClient :=
  { c with
    queue := c.queue.map fun q => { q with watches := q.watches + 1 }
    log := .watch (c.queue.any Queue.shutdown) :: c.log }

/-- The section of the kill. -/
def kill (call : OwnerCall) (c : GrpcClient) : GrpcClient :=
  { c with shared := c.shared.kill, owner := .shuttingDown call, log := .kill :: c.log }

/-- `queue_->Shutdown()`, if there is a queue. -/
def shutdownQueue (call : OwnerCall) (c : GrpcClient) : GrpcClient :=
  { c with
    queue := c.queue.map fun q => { q with shutdown := true }
    owner := .joining call }

/-- `join` returns, or is not called. -/
def joined : RunThread → RunThread
  | .null => .null
  | .joinable _ => .joined
  | .joined => .joined

/-- The end of the kill, and what the calls do before their own sections. -/
def join (call : OwnerCall) (c : GrpcClient) : GrpcClient :=
  match call with
  | .kill => { c with runThread := joined c.runThread, owner := .idle }
  | .changeServer address =>
      { c with
        runThread := joined c.runThread
        usingInProcessServer := false
        serverAddress := address
        queue := some ⟨false, 0⟩
        owner := .connecting }
  | .changeServerInProcess channel =>
      { c with
        runThread := joined c.runThread
        usingInProcessServer := true
        serverAddress := "In-Process"
        owner := .connectingInProcess channel }

/-- What the owner does after the section of `change_server`. -/
def afterConnect (stored state : ConnectivityState) : OwnerPhase :=
  if toCncClientState state = toCncClientState stored then .starting
  else .reporting (toCncClientState state)

/-- The section of `change_server(address, …)`. -/
def connect (channel : Channel) (x : ConnectivityState) (c : GrpcClient) : GrpcClient :=
  watch
    { c with
      shared := c.shared.connect channel x
      owner := afterConnect c.shared.connectionState x
      log := .connect c.shared.connectionState x :: c.log }

/-- The section of `change_server(in_process_channel)`. -/
def connectInProcess (channel : Option Channel) (c : GrpcClient) : GrpcClient :=
  { c with
    shared := c.shared.connectInProcess channel
    owner := .idle
    log := .connectInProcess :: c.log }

/-- The state that a section of the run thread read. -/
def stateRead (resultOk : Bool) (x : ConnectivityState) (c : GrpcClient) :
    Option ConnectivityState :=
  if c.shared.channel.isSome ∧ resultOk then some x else none

/-- What the run thread does after a section. -/
def afterEvent : Option GrpcClientState → RunPhase
  | some state => .reporting state
  | none => .waiting

/-- The section of `run`, with what it leaves. -/
def handle (resultOk : Bool) (x : ConnectivityState) (s : SharedData.Handled) (c : GrpcClient) :
    GrpcClient :=
  let c' : GrpcClient :=
    { c with
      shared := s.data
      runThread := .joinable (afterEvent s.report)
      log := .event resultOk (c.stateRead resultOk x) :: c.log }
  if s.watch then c'.watch else c'

inductive Action where
  | call (call : OwnerCall)
  | kill
  | shutdownQueue
  | join
  | connect (channel : Channel) (state : ConnectivityState)
  | connectInProcess
  | report
  | start
  | registerStream (key : Nat)
  | onStreamUpdate (key : Nat)
  | onStreamFinish (key : Nat)
  | useStub
  | next (resultOk : Bool)
  | exit
  | handle (state : ConnectivityState)
  | runReport
deriving DecidableEq, Repr

inductive Step : GrpcClient → Action → GrpcClient → Prop where
  | call {c : GrpcClient} {call : OwnerCall} :
      c.owner = .idle → Step c (.call call) { c with owner := .killing call }
  | kill {c : GrpcClient} {call : OwnerCall} :
      c.owner = .killing call → Step c .kill (c.kill call)
  | shutdownQueue {c : GrpcClient} {call : OwnerCall} :
      c.owner = .shuttingDown call → Step c .shutdownQueue (c.shutdownQueue call)
  /-- `join` returns when the thread has left its loop. -/
  | join {c : GrpcClient} {call : OwnerCall} :
      c.owner = .joining call → (∀ phase, c.runThread = .joinable phase → phase = .exited) →
      Step c .join (c.join call)
  | connect {c : GrpcClient} {channel : Channel} {x : ConnectivityState} :
      c.owner = .connecting → Step c (.connect channel x) (c.connect channel x)
  | connectInProcess {c : GrpcClient} {channel : Option Channel} :
      c.owner = .connectingInProcess channel →
      Step c .connectInProcess (c.connectInProcess channel)
  | report {c : GrpcClient} {state : GrpcClientState} :
      c.owner = .reporting state →
      Step c .report { c with owner := .starting, log := .report state :: c.log }
  | start {c : GrpcClient} :
      c.owner = .starting →
      Step c .start { c with runThread := .joinable .waiting, owner := .idle }
  | registerStream {c : GrpcClient} {key : Nat} {d : SharedData} :
      c.owner = .idle → key ∉ c.shared.streams → c.shared.registerStream key = some d →
      Step c (.registerStream key) { c with shared := d }
  | onStreamUpdate {c : GrpcClient} {key : Nat} :
      c.owner = .idle →
      Step c (.onStreamUpdate key) { c with shared := c.shared.onStreamUpdate key }
  | onStreamFinish {c : GrpcClient} {key : Nat} :
      c.owner = .idle →
      Step c (.onStreamFinish key) { c with shared := c.shared.onStreamFinish key }
  /-- Any thread may use the stub at any time. -/
  | useStub {c : GrpcClient} : Step c .useStub c
  | next {c : GrpcClient} {q : Queue} {n : Nat} {resultOk : Bool} :
      c.runThread = .joinable .waiting → c.queue = some q → q.watches = n + 1 →
      Step c (.next resultOk)
        { c with
          queue := some { q with watches := n }
          runThread := .joinable (.handling resultOk) }
  /-- `Next` returns false. -/
  | exit {c : GrpcClient} :
      c.runThread = .joinable .waiting → c.queue = some ⟨true, 0⟩ →
      Step c .exit { c with runThread := .joinable .exited }
  | handle {c : GrpcClient} {resultOk : Bool} {x : ConnectivityState} {s : SharedData.Handled} :
      c.runThread = .joinable (.handling resultOk) →
      c.shared.handleEvent resultOk x = some s → Step c (.handle x) (c.handle resultOk x s)
  | runReport {c : GrpcClient} {state : GrpcClientState} :
      c.runThread = .joinable (.reporting state) →
      Step c .runReport { c with runThread := .joinable .waiting, log := .report state :: c.log }

/-- The states of a client from its construction on. -/
abbrev ClientReachable (c : GrpcClient) : Prop := Reachable Step initial c

/-- The runs of a client from its construction on. -/
abbrev ClientRun (tr : List (GrpcClient × Action)) (c : GrpcClient) : Prop :=
  Run Step initial tr c

/-! ## Running the model

A step is determined by its action, so it can be computed. -/

/-- The client after an action, or `none` when the action cannot be taken. -/
def perform (a : Action) (c : GrpcClient) : Option GrpcClient :=
  match a with
  | .call call => if c.owner = .idle then some { c with owner := .killing call } else none
  | .kill =>
      match c.owner with
      | .killing call => some (c.kill call)
      | _ => none
  | .shutdownQueue =>
      match c.owner with
      | .shuttingDown call => some (c.shutdownQueue call)
      | _ => none
  | .join =>
      match c.owner, c.runThread with
      | .joining call, .null | .joining call, .joined | .joining call, .joinable .exited =>
          some (c.join call)
      | _, _ => none
  | .connect channel x => if c.owner = .connecting then some (c.connect channel x) else none
  | .connectInProcess =>
      match c.owner with
      | .connectingInProcess channel => some (c.connectInProcess channel)
      | _ => none
  | .report =>
      match c.owner with
      | .reporting state => some { c with owner := .starting, log := .report state :: c.log }
      | _ => none
  | .start =>
      if c.owner = .starting then some { c with runThread := .joinable .waiting, owner := .idle }
      else none
  | .registerStream key =>
      if c.owner = .idle ∧ key ∉ c.shared.streams then
        (c.shared.registerStream key).map fun d => { c with shared := d }
      else none
  | .onStreamUpdate key =>
      if c.owner = .idle then some { c with shared := c.shared.onStreamUpdate key } else none
  | .onStreamFinish key =>
      if c.owner = .idle then some { c with shared := c.shared.onStreamFinish key } else none
  | .useStub => some c
  | .next resultOk =>
      match c.runThread, c.queue with
      | .joinable .waiting, some ⟨shutdown, n + 1⟩ =>
          some { c with queue := some ⟨shutdown, n⟩, runThread := .joinable (.handling resultOk) }
      | _, _ => none
  | .exit =>
      if c.runThread = .joinable .waiting ∧ c.queue = some ⟨true, 0⟩ then
        some { c with runThread := .joinable .exited }
      else none
  | .handle x =>
      match c.runThread with
      | .joinable (.handling resultOk) =>
          (c.shared.handleEvent resultOk x).map fun s => c.handle resultOk x s
      | _ => none
  | .runReport =>
      match c.runThread with
      | .joinable (.reporting state) =>
          some { c with runThread := .joinable .waiting, log := .report state :: c.log }
      | _ => none

variable {c c' : GrpcClient} {a : Action}

theorem perform_of_step (hs : Step c a c') : perform a c = some c' := by
  cases hs with
  | call h | connect h | start h | onStreamUpdate h | onStreamFinish h => exact if_pos h
  | kill h | shutdownQueue h | connectInProcess h | report h | runReport h => simp [perform, h]
  | join h hj =>
      cases ht : c.runThread with
      | null | joined => simp [perform, h, ht]
      | joinable phase =>
          obtain rfl := hj phase ht
          simp [perform, h, ht]
  | registerStream h hk hd => simp [perform, h, hk, hd]
  | useStub => rfl
  | @next q n _ ht hq hn =>
      obtain ⟨shutdown, watches⟩ := q
      cases hn
      simp [perform, ht, hq]
  | exit ht hq => exact if_pos ⟨ht, hq⟩
  | handle ht hh => simp [perform, ht, hh]

theorem step_of_perform (hp : perform a c = some c') : Step c a c' := by
  cases a with
  | call _ | connect _ _ | start | onStreamUpdate _ | onStreamFinish _ =>
      obtain ⟨h, heq⟩ := Option.ite_none_right_eq_some.mp hp
      cases heq
      constructor
      exact h
  | kill | shutdownQueue | connectInProcess | report | runReport =>
      simp only [perform] at hp
      split at hp <;> cases hp
      constructor
      assumption
  | registerStream key =>
      obtain ⟨⟨h, hk⟩, heq⟩ := Option.ite_none_right_eq_some.mp hp
      obtain ⟨d, hd, rfl⟩ := Option.map_eq_some_iff.mp heq
      exact .registerStream h hk hd
  | exit =>
      obtain ⟨⟨ht, hq⟩, heq⟩ := Option.ite_none_right_eq_some.mp hp
      cases heq
      exact .exit ht hq
  | useStub =>
      cases hp
      exact .useStub
  | join =>
      simp only [perform] at hp
      split at hp <;> cases hp
      all_goals
        refine .join ‹_› ?_
        intro phase hphase
        simp_all
  | next resultOk =>
      simp only [perform] at hp
      split at hp <;> cases hp
      exact .next ‹_› ‹_› rfl
  | handle x =>
      simp only [perform] at hp
      split at hp
      · obtain ⟨s, hh, rfl⟩ := Option.map_eq_some_iff.mp hp
        exact .handle ‹_› hh
      · cases hp

theorem step_iff_perform : Step c a c' ↔ perform a c = some c' :=
  ⟨perform_of_step, step_of_perform⟩

/-- The steps and the last state of the run that a script gives. -/
def played (script : List Action) : List (GrpcClient × Action) × GrpcClient :=
  replay perform initial [] script

theorem played_run (script : List Action) : ClientRun (played script).1 (played script).2 :=
  Run.replay step_iff_perform.mpr .start script

end GrpcClient

end Grpcw.Client
