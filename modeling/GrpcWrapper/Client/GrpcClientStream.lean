import GrpcWrapper.Library.Map

/-!
# Client states and streams

The states of a channel, the coarser states that a user of the client sees, and
the object of one streaming call.  A stream reads on a thread of its own, which
changes none of the fields below, so only `startStream` and `stopStream` change
them.
-/

namespace Grpcw.Client

/-- `grpc_connectivity_state` -/
inductive ConnectivityState where
  | idle
  | connecting
  | ready
  | transientFailure
  | shutdown
deriving DecidableEq, Repr

inductive GrpcClientState where
  | notConnected
  | attemptingToConnect
  | connected
deriving DecidableEq, Repr

/-- `to_cnc_client_state` -/
def toCncClientState : ConnectivityState → GrpcClientState
  | .shutdown => .notConnected
  | .idle => .notConnected
  | .connecting => .attemptingToConnect
  | .transientFailure => .attemptingToConnect
  | .ready => .connected

theorem toCncClientState_connected {x : ConnectivityState} :
    toCncClientState x = .connected ↔ x = .ready := by
  cases x <;> simp [toCncClientState]

/-- The identity of a channel.  A channel that may be null is an
`Option Channel`. -/
abbrev Channel := Nat

/-- A stub of the service, which keeps a pointer to its channel. -/
structure Stub where
  channel : Option Channel
deriving DecidableEq, Repr

/-- `Service::NewStub` -/
def newStub (channel : Option Channel) : Stub := ⟨channel⟩

/-- The fields say which pointers are not null and which callbacks are set. -/
structure GrpcClientStream where
  context : Bool
  /-- The stub that `reader_` was opened with. -/
  reader : Option Stub
  streamThread : Bool
  onUpdate : Bool
  onFinish : Bool
deriving DecidableEq, Repr

namespace GrpcClientStream

/-- A stream as the constructor leaves it. -/
def new : GrpcClientStream where
  context := false
  reader := none
  streamThread := false
  onUpdate := false
  onFinish := false

/-- `streaming` -/
def streaming (s : GrpcClientStream) : Bool := s.context

/-- `start_stream` -/
def startStream (stub : Stub) (s : GrpcClientStream) : GrpcClientStream :=
  if s.streaming then s
  else { s with context := true, reader := some stub, streamThread := true }

/-- `stop_stream`; the thread is joined and its object stays. -/
def stopStream (s : GrpcClientStream) : GrpcClientStream :=
  if s.streaming then { s with context := false } else s

@[simp] theorem streaming_startStream (stub : Stub) (s : GrpcClientStream) :
    (s.startStream stub).streaming = true := by
  cases h : s.streaming
  · rw [startStream, h]
    rfl
  · rw [startStream, h]
    exact h

@[simp] theorem streaming_stopStream (s : GrpcClientStream) : s.stopStream.streaming = false := by
  cases h : s.streaming
  · rw [stopStream, h]
    exact h
  · rw [stopStream, h]
    rfl

end GrpcClientStream

/-- `streams`, keyed by their addresses. -/
abbrev Streams := Map Nat GrpcClientStream

end Grpcw.Client
