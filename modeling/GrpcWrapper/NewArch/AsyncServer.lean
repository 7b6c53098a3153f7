import GrpcWrapper.Library.Transition
import GrpcWrapper.NewArch.Tagger

/-!
# The server of the new architecture

`AsyncServer` is set up by tasks that its run thread takes from
`initialization_queue_`: one constructs the gRPC server, one publishes the
pointers that the destructor uses, and one queues the first handler of each
registered call.  A null task, which `start` puts in, ends this, and the run
thread goes on to read `server_queue_`.

A handler serves one call.  When its accept comes back with a call, it is cloned,
the clone's accept is registered, and the callback gets the handler as a
`UnaryWriter`, on which it calls `finish` then or later, from any thread.  The
handler goes when the tag of that operation comes back.

Tasks, events and calls of `finish` from other threads are sections of one
lock.  The run thread keeps it while the callback runs, and the destructor
while it shuts the server and the queue down.  The constructor puts its two
tasks in while the run thread may already wait for them, which is the same as
if they were there from the start.

gRPC and the allocator are the environment.  `server_queue_` returns every
operation once, in any order and with any success.  `Documented` holds of the
steps that gRPC's documentation admits.
-/

namespace Grpcw.NewArch

open Transition
open Server (Addr)

variable {Request Response Status : Type}

/-! ## Data -/

structure UnaryRpcHandler (Request : Type) where
  /-- Which registration its `register_rpc_` and `on_request_` are from. -/
  rpc : Nat
  /-- `connection_.request`; empty until gRPC accepts a call. -/
  request : Option Request
deriving DecidableEq

/-- What gRPC is asked to do with a handler's connection. -/
inductive OpKind (Response Status : Type) where
  /-- `service_.*register_rpc_` -/
  | accept (rpc : Nat)
  | finish (response : Response) (status : Status)
  | finishWithError (status : Status)
deriving DecidableEq

def OpKind.label : OpKind Response Status → TagLabel
  | .accept _ => .serverNewRpc
  | .finish _ _ | .finishWithError _ => .serverDone

/-- The registration that an accept is for. -/
def OpKind.rpc : OpKind Response Status → Option Nat
  | .accept rpc => some rpc
  | _ => none

/-- An operation that gRPC holds, or that has come back. -/
structure Operation (Response Status : Type) where
  /-- The address of the tag. -/
  tag : Addr
  /-- The address of the handler. -/
  data : Addr
  kind : OpKind Response Status
deriving DecidableEq

/-- What the tag of an operation says. -/
def Operation.record (op : Operation Response Status) : Tag := ⟨op.data, op.kind.label⟩

inductive InitTask where
  /-- Builds the service, the queue and the server. -/
  | construct
  /-- Sets `shutdown_server_queue_` and `shutdown_server_`. -/
  | publish
  | register (rpc : Nat)
deriving DecidableEq

/-- Where the run thread is. -/
inductive RunPhase (Request Response Status : Type) where
  /-- In `initialization_queue_.pop_front`. -/
  | initializing
  /-- Before the lock, with a task. -/
  | task (task : InitTask)
  /-- In `server_queue_->Next`. -/
  | waiting
  /-- Before the lock, with an event. -/
  | handling (op : Operation Response Status) (completedSuccessfully : Bool)
  /-- In `on_request_`, called for a handler. -/
  | calling (handler : Addr) (request : Option Request)
  | exited
deriving DecidableEq

/-- Where the owner is. -/
inductive OwnerPhase where
  /-- Outside the destructor. -/
  | using
  /-- Before the lock. -/
  | destroying
  /-- Has the lock, before `shutdown_server_->Shutdown()`. -/
  | shuttingDown
  /-- Has the lock, before `shutdown_server_queue_->Shutdown()`. -/
  | shuttingQueue
  | joining
  | destroyed
deriving DecidableEq

structure AsyncServer (Request Response Status : Type) where
  /-- `server_queue_` and `server_` are set. -/
  constructed : Bool
  /-- `shutdown_server_queue_` and `shutdown_server_` are set. -/
  published : Bool
  data : Map Addr (UnaryRpcHandler Request)
  tagger : Tagger
  running : Bool
  initializationQueue : List (Option InitTask)
  runThread : RunPhase Request Response Status
  owner : OwnerPhase
  /-- The operations that `server_queue_` has yet to return. -/
  serverQueue : List (Operation Response Status)
  /-- The writers that were handed out, and on which no `finish` was called. -/
  writers : List Addr
  /-- How often `register_async` was called. -/
  registrations : Nat
  /-- The registrations whose task has run. -/
  registered : List Nat
  /-- Those of which an accept has failed. -/
  failed : List Nat
  /-- How many accepted calls are not finished. -/
  calls : Nat
  /-- `shutdown_server_->Shutdown()` was called. -/
  shutdown : Bool
  /-- `shutdown_server_queue_->Shutdown()` was called. -/
  queueShutdown : Bool

/-- The operation whose event is in hand. -/
def RunPhase.ops : RunPhase Request Response Status → List (Operation Response Status)
  | .handling op _ => [op]
  | _ => []

/-- The task in hand. -/
def RunPhase.tasks : RunPhase Request Response Status → List InitTask
  | .task t => [t]
  | _ => []

def InitTask.rpc : InitTask → Option Nat
  | .register rpc => some rpc
  | _ => none

namespace AsyncServer

/-- `AsyncServer` -/
def initial : AsyncServer Request Response Status where
  constructed := false
  published := false
  data := ∅
  tagger := ∅
  running := false
  initializationQueue := [some .construct, some .publish]
  runThread := .initializing
  owner := .using
  serverQueue := []
  writers := []
  registrations := 0
  registered := []
  failed := []
  calls := 0
  shutdown := false
  queueShutdown := false

/-- The operations whose tags are live. -/
def ops (s : AsyncServer Request Response Status) : List (Operation Response Status) :=
  s.runThread.ops ++ s.serverQueue

/-- The tasks that the run thread has yet to run, of those that were put in. -/
def tasks (s : AsyncServer Request Response Status) : List InitTask :=
  s.runThread.tasks ++ s.initializationQueue.filterMap id

/-- The owner does not have the lock. -/
def Unlocked (s : AsyncServer Request Response Status) : Prop :=
  s.owner ≠ .shuttingDown ∧ s.owner ≠ .shuttingQueue

instance {s : AsyncServer Request Response Status} : Decidable s.Unlocked :=
  inferInstanceAs (Decidable (_ ∧ _))

/-! ## The functions -/

/-- `register_async`, while the server is not running; else it throws. -/
def registerAsync (s : AsyncServer Request Response Status) :
    AsyncServer Request Response Status :=
  { s with
    initializationQueue := s.initializationQueue ++ [some (.register s.registrations)]
    registrations := s.registrations + 1 }

/-- `start` -/
def start (s : AsyncServer Request Response Status) : AsyncServer Request Response Status :=
  { s with initializationQueue := s.initializationQueue ++ [none], running := true }

/-- `queue_rpc`, for a new handler at the address `key` and its tag at `tag`. -/
def queueRpc (key tag : Addr) (rpc : Nat) (s : AsyncServer Request Response Status) :
    AsyncServer Request Response Status :=
  { s with
    data := s.data.emplace key ⟨rpc, none⟩
    tagger := makeTag tag key .serverNewRpc s.tagger
    serverQueue := s.serverQueue ++ [⟨tag, key, .accept rpc⟩] }

/-- gRPC puts a call into a handler. -/
def arrive (key : Addr) (handler : UnaryRpcHandler Request) (request : Request)
    (s : AsyncServer Request Response Status) : AsyncServer Request Response Status :=
  { s with
    data := s.data.insert key { handler with request := some request }
    calls := s.calls + 1 }

/-- The event of an accept with a call: the handler `tag.data` is cloned, the clone
is queued and the callback is called. -/
def newRpc (handler : UnaryRpcHandler Request) (tag : Tag) (tagger : Tagger) (key newTag : Addr)
    (s : AsyncServer Request Response Status) : AsyncServer Request Response Status :=
  { ({ s with tagger := tagger } : AsyncServer Request Response Status).queueRpc key newTag
      handler.rpc with
    runThread := .calling tag.data handler.request
    writers := tag.data :: s.writers }

/-- The event of a handler's last operation, or of one that failed. -/
def erase (op : Operation Response Status) (completedSuccessfully : Bool) (tag : Tag)
    (tagger : Tagger) (s : AsyncServer Request Response Status) :
    AsyncServer Request Response Status :=
  { s with
    data := s.data.erase tag.data
    tagger := tagger
    runThread := .waiting
    failed :=
      if completedSuccessfully then s.failed else op.kind.rpc.toList ++ s.failed }

/-- `finish` and `finish_with_error` of the handler at `key`. -/
def finish (key tag : Addr) (kind : OpKind Response Status)
    (s : AsyncServer Request Response Status) : AsyncServer Request Response Status :=
  { s with
    tagger := makeTag tag key .serverDone s.tagger
    serverQueue := s.serverQueue ++ [⟨tag, key, kind⟩]
    writers := s.writers.erase key }

/-! ## Steps -/

/-- No live handler is at the address. -/
def FreshKey (key : Addr) (s : AsyncServer Request Response Status) : Prop := key ∉ s.data

inductive Action (Request Response Status : Type) where
  -- the owner
  | registerAsync
  | start
  | destroy
  | acquire
  | shutdownServer
  | shutdownQueue
  | join
  -- the run thread
  | pop
  | construct
  | publish
  | register (key tag : Addr)
  | next (op : Operation Response Status) (completedSuccessfully : Bool)
  | newRpc (key tag : Addr)
  | erase
  | ignore
  /-- The callback returns. -/
  | returned
  | exit
  /-- `finish` or `finish_with_error`, `inCallback` when the run thread calls it. -/
  | finish (key tag : Addr) (kind : OpKind Response Status) (inCallback : Bool)
  -- gRPC
  | arrive (key : Addr) (request : Request)
  | finishCall

inductive Step : AsyncServer Request Response Status → Action Request Response Status →
    AsyncServer Request Response Status → Prop where
  | registerAsync {s : AsyncServer Request Response Status} :
      s.owner = .using → s.running = false → Step s .registerAsync s.registerAsync
  | start {s : AsyncServer Request Response Status} : s.owner = .using → Step s .start s.start
  /-- The destructor begins. -/
  | destroy {s : AsyncServer Request Response Status} :
      s.owner = .using → Step s .destroy { s with owner := .destroying }
  | acquire {s : AsyncServer Request Response Status} :
      s.owner = .destroying → (∀ handler request, s.runThread ≠ .calling handler request) →
      Step s .acquire { s with owner := .shuttingDown }
  /-- Undefined unless the pointer is set. -/
  | shutdownServer {s : AsyncServer Request Response Status} :
      s.owner = .shuttingDown →
      Step s .shutdownServer { s with owner := .shuttingQueue, shutdown := s.published }
  | shutdownQueue {s : AsyncServer Request Response Status} :
      s.owner = .shuttingQueue →
      Step s .shutdownQueue { s with owner := .joining, queueShutdown := s.published }
  | join {s : AsyncServer Request Response Status} :
      s.owner = .joining → s.runThread = .exited → Step s .join { s with owner := .destroyed }
  | pop {s : AsyncServer Request Response Status} {task : InitTask}
      {rest : List (Option InitTask)} :
      s.runThread = .initializing → s.initializationQueue = some task :: rest →
      Step s .pop { s with initializationQueue := rest, runThread := .task task }
  /-- The null task. -/
  | popNull {s : AsyncServer Request Response Status} {rest : List (Option InitTask)} :
      s.runThread = .initializing → s.initializationQueue = none :: rest →
      Step s .pop { s with initializationQueue := rest, runThread := .waiting }
  | construct {s : AsyncServer Request Response Status} :
      s.runThread = .task .construct → s.Unlocked →
      Step s .construct { s with constructed := true, runThread := .initializing }
  | publish {s : AsyncServer Request Response Status} :
      s.runThread = .task .publish → s.Unlocked →
      Step s .publish { s with published := true, runThread := .initializing }
  | register {s : AsyncServer Request Response Status} {rpc : Nat} {key tag : Addr} :
      s.runThread = .task (.register rpc) → s.Unlocked → s.FreshKey key → tag ∉ s.tagger →
      Step s (.register key tag)
        { s.queueRpc key tag rpc with
          runThread := .initializing
          registered := s.registered ++ [rpc] }
  | next {s : AsyncServer Request Response Status} {op : Operation Response Status}
      {before after : List (Operation Response Status)} {completedSuccessfully : Bool} :
      s.runThread = .waiting → s.serverQueue = before ++ op :: after →
      Step s (.next op completedSuccessfully)
        { s with
          serverQueue := before ++ after
          runThread := .handling op completedSuccessfully }
  /-- A new tag may get the address of the one that was freed. -/
  | newRpc {s : AsyncServer Request Response Status} {op : Operation Response Status}
      {tag : Tag} {tagger : Tagger} {handler : UnaryRpcHandler Request} {key newTag : Addr} :
      s.runThread = .handling op true → s.Unlocked → getTag op.tag s.tagger = some (tag, tagger) →
      tag.label = .serverNewRpc → s.data.lookup tag.data = some handler → s.FreshKey key →
      newTag ∉ tagger → Step s (.newRpc key newTag) (s.newRpc handler tag tagger key newTag)
  | erase {s : AsyncServer Request Response Status} {op : Operation Response Status}
      {completedSuccessfully : Bool} {tag : Tag} {tagger : Tagger} :
      s.runThread = .handling op completedSuccessfully → s.Unlocked →
      getTag op.tag s.tagger = some (tag, tagger) →
      (completedSuccessfully = true → tag.label = .serverDone) →
      Step s .erase (s.erase op completedSuccessfully tag tagger)
  /-- A tag with the label `ServerWriting`. -/
  | ignore {s : AsyncServer Request Response Status} {op : Operation Response Status}
      {tag : Tag} {tagger : Tagger} :
      s.runThread = .handling op true → s.Unlocked → getTag op.tag s.tagger = some (tag, tagger) →
      tag.label = .serverWriting → Step s .ignore { s with tagger := tagger, runThread := .waiting }
  | returned {s : AsyncServer Request Response Status} {handler : Addr}
      {request : Option Request} :
      s.runThread = .calling handler request → Step s .returned { s with runThread := .waiting }
  | exit {s : AsyncServer Request Response Status} :
      s.runThread = .waiting → s.queueShutdown = true → s.serverQueue = [] →
      Step s .exit { s with runThread := .exited }
  /-- On the run thread in a callback, or on a thread that takes the lock. -/
  | finish {s : AsyncServer Request Response Status} {key tag : Addr}
      {kind : OpKind Response Status} {inCallback : Bool} :
      s.Unlocked →
      (inCallback = true ↔ ∃ handler request, s.runThread = .calling handler request) →
      key ∈ s.writers → tag ∉ s.tagger → kind.label = .serverDone →
      Step s (.finish key tag kind inCallback) (s.finish key tag kind)
  | arrive {s : AsyncServer Request Response Status} {op : Operation Response Status} {rpc : Nat}
      {handler : UnaryRpcHandler Request} {request : Request} :
      op ∈ s.serverQueue → op.kind = .accept rpc → s.data.lookup op.data = some handler →
      handler.request = none → Step s (.arrive op.data request) (s.arrive op.data handler request)
  /-- A client completes or cancels a call. -/
  | finishCall {s : AsyncServer Request Response Status} {n : Nat} :
      s.calls = n + 1 → Step s .finishCall { s with calls := n }

/-- The states of a server from its construction on. -/
abbrev AsyncReachable (s : AsyncServer Request Response Status) : Prop := Reachable Step initial s

/-- gRPC has put a call into the handler at the address. -/
def called (s : AsyncServer Request Response Status) (key : Addr) : Bool :=
  (s.data.lookup key).any fun handler => handler.request.isSome

/-- What gRPC documents.  A server that was shut down takes no calls.  An accept
succeeds when it has a call, and fails when the server is shut down.  `Shutdown`
returns when all calls are finished. -/
def Documented (s : AsyncServer Request Response Status) :
    Action Request Response Status → Prop
  | .arrive _ _ => s.shutdown = false
  | .next op completedSuccessfully =>
      op.kind.rpc.isSome → completedSuccessfully = s.called op.data ∧
        (completedSuccessfully = false → s.shutdown = true)
  | .shutdownQueue => s.shutdown = true → s.calls = 0
  | _ => True

end AsyncServer

end Grpcw.NewArch
