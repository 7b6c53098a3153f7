import GrpcWrapper.Server.NonStreamRpcHandler
import GrpcWrapper.Server.StreamRpcHandler

/-!
# The server

`GrpcAsyncServer` owns the handlers, in a map under a lock, and a run thread
that reads `server_queue_`.  An accept that a handler has registered there comes
back when gRPC has put a call into its connection, or fails when the server
shuts down.  The run thread then has the handler activate its next connection,
or erases it.

A registration is not one section: it enters the handler in the map and
activates it after that.  Several may be under way on different threads.  The
answer of a non-streaming call takes the run thread two steps, between which it
waits.  All else is what the handlers do between accepts.
-/

namespace Grpcw.Server

open Transition

variable {Request Response Status : Type}

/-! ## Handlers and accepts -/

/-- `AsyncRpcHandlerInterface` -/
inductive RpcHandler (Request Response Status : Type) where
  | stream (handler : StreamRpcHandler Request Response Status)
  | nonStream (handler : NonStreamRpcHandler Request Response Status)

/-- A connection that waits for a call. -/
structure Slot (Request : Type) where
  key : Addr
  conn : Nat
  request : Option Request
deriving DecidableEq

/-- An accept that gRPC holds, or whose event is being handled: the handler's
address and the connection it was registered with. -/
structure Accept (Request : Type) where
  tag : Addr
  slot : Slot Request
deriving DecidableEq

/-- gRPC has put a request into the connection. -/
def Accept.fill (request : Request) (a : Accept Request) : Accept Request :=
  { a with slot := { a.slot with request := some request } }

namespace RpcHandler

/-- The object that the next call goes into: `next` of a stream handler and
`connection_` of the other kind. -/
def slot : RpcHandler Request Response Status → Option (Slot Request)
  | .stream h => h.connections.next.map fun p => ⟨p.1, p.2.serial, p.2.request⟩
  | .nonStream h => h.connection.map fun p => ⟨p.1, p.2.serial, p.2.request⟩

/-- gRPC writes a request through a pointer to a connection; `none` when the
handler has no such connection waiting. -/
def write (key : Addr) (request : Request) :
    RpcHandler Request Response Status → Option (RpcHandler Request Response Status)
  | .stream h =>
      if h.connections.next.map Prod.fst = some key then some (.stream (h.accept request))
      else none
  | .nonStream h =>
      if h.connection.map Prod.fst = some key then some (.nonStream (h.accept request)) else none

/-- A handler as its constructor leaves it. -/
inductive New : RpcHandler Request Response Status → Prop where
  | stream : New (.stream .initial)
  | nonStream {callback : Option Request → Response × Status} :
      New (.nonStream (.new callback))

/-- What `activate_next` does up to the registration of the accept, for some
address of the new connection and of its tag.  A non-streaming handler has no
connection, or has answered the request in it. -/
inductive Activate : RpcHandler Request Response Status → RpcHandler Request Response Status →
    Prop where
  | stream {h : StreamRpcHandler Request Response Status} {key tag : Addr} :
      h.FreshKey key → h.FreshTag tag →
      Activate (.stream h) (.stream (h.activateNext key tag))
  | nonStream {h : NonStreamRpcHandler Request Response Status} {key : Addr} :
      h.connection = none → Activate (.nonStream h) (.nonStream (h.renew key))

end RpcHandler

/-! ## The server -/

/-- Where the run thread is. -/
inductive ServerPhase (Request : Type) where
  /-- In `Next`. -/
  | waiting
  | handling (accept : Accept Request) (callOk : Bool)
  /-- In the wait of a non-streaming handler. -/
  | replying (accept : Accept Request)
  | exited

structure GrpcAsyncServer (Request Response Status : Type) where
  rpcHandlers : Map Addr (RpcHandler Request Response Status)
  /-- The handlers that are in the map and not yet activated. -/
  registering : List Addr
  /-- The accepts that `server_queue_` has yet to return. -/
  serverQueue : List (Accept Request)
  runThread : ServerPhase Request
  /-- `server_->Shutdown()` was called. -/
  shutdown : Bool
  /-- `server_queue_->Shutdown()` was called. -/
  queueShutdown : Bool

/-- The accept whose event is being handled. -/
def ServerPhase.accepts : ServerPhase Request → List (Accept Request)
  | .handling accept _ => [accept]
  | .replying accept => [accept]
  | .waiting => []
  | .exited => []

/-- What a handler does other than take a call and activate its next
connection. -/
def StreamRpcHandler.Action.own : StreamRpcHandler.Action Request Response Status → Bool
  | .accept _ => false
  | .activateNext _ _ => false
  | _ => true

namespace GrpcAsyncServer

def initial : GrpcAsyncServer Request Response Status where
  rpcHandlers := ∅
  registering := []
  serverQueue := []
  runThread := .waiting
  shutdown := false
  queueShutdown := false

/-- The accepts that are outstanding or whose event is being handled. -/
def accepts (s : GrpcAsyncServer Request Response Status) : List (Accept Request) :=
  s.runThread.accepts ++ s.serverQueue

/-- A handler has changed. -/
def update (tag : Addr) (handler : RpcHandler Request Response Status)
    (s : GrpcAsyncServer Request Response Status) : GrpcAsyncServer Request Response Status :=
  { s with rpcHandlers := s.rpcHandlers.insert tag handler }

/-- A handler has registered an accept for its new connection. -/
def request (tag : Addr) (slot : Slot Request) (s : GrpcAsyncServer Request Response Status) :
    GrpcAsyncServer Request Response Status :=
  { s with serverQueue := s.serverQueue ++ [⟨tag, slot⟩] }

inductive Action (Request Response Status : Type) where
  | emplace (tag : Addr)
  | register (tag : Addr)
  | accept (tag : Addr) (request : Request)
  | next (accept : Accept Request) (callOk : Bool)
  | activate
  | reply
  | renew
  | erase
  | stream (tag : Addr) (action : StreamRpcHandler.Action Request Response Status)
  | shutdown
  | queueShutdown
  | exit

inductive Step : GrpcAsyncServer Request Response Status → Action Request Response Status →
    GrpcAsyncServer Request Response Status → Prop where
  /-- The section of `register_async` and `register_async_stream`.  The run thread
  keeps the lock while it waits for an answer. -/
  | emplace {s : GrpcAsyncServer Request Response Status} {tag : Addr}
      {handler : RpcHandler Request Response Status} :
      (∀ a, s.runThread ≠ .replying a) → tag ∉ s.rpcHandlers → handler.New →
      Step s (.emplace tag)
        { s with
          rpcHandlers := s.rpcHandlers.emplace tag handler
          registering := tag :: s.registering }
  /-- The `activate_next` of a registration. -/
  | register {s : GrpcAsyncServer Request Response Status} {tag : Addr}
      {handler handler' : RpcHandler Request Response Status} {slot : Slot Request} :
      tag ∈ s.registering → s.rpcHandlers.lookup tag = some handler →
      handler.Activate handler' → handler'.slot = some slot →
      Step s (.register tag)
        (({ s with registering := s.registering.erase tag } :
          GrpcAsyncServer Request Response Status).update tag handler' |>.request tag slot)
  /-- gRPC puts a call into the connection of an accept. -/
  | accept {s : GrpcAsyncServer Request Response Status} {a : Accept Request}
      {before after : List (Accept Request)} {request : Request}
      {handler handler' : RpcHandler Request Response Status} :
      s.serverQueue = before ++ a :: after → a.slot.request = none →
      s.rpcHandlers.lookup a.tag = some handler →
      handler.write a.slot.key request = some handler' →
      Step s (.accept a.tag request)
        (({ s with serverQueue := before ++ a.fill request :: after } :
          GrpcAsyncServer Request Response Status).update a.tag handler')
  /-- `Next` returns an accept.  One that succeeds holds a call. -/
  | next {s : GrpcAsyncServer Request Response Status} {a : Accept Request}
      {before after : List (Accept Request)} {callOk : Bool} :
      s.runThread = .waiting → s.serverQueue = before ++ a :: after →
      (callOk = true → a.slot.request.isSome) →
      Step s (.next a callOk)
        { s with serverQueue := before ++ after, runThread := .handling a callOk }
  /-- The section for a successful accept, of a handler that need not reply. -/
  | activate {s : GrpcAsyncServer Request Response Status} {a : Accept Request}
      {handler handler' : RpcHandler Request Response Status} {slot : Slot Request} :
      s.runThread = .handling a true → s.rpcHandlers.lookup a.tag = some handler →
      handler.Activate handler' → handler'.slot = some slot →
      Step s .activate
        (({ s with runThread := .waiting } : GrpcAsyncServer Request Response Status).update
          a.tag handler' |>.request a.tag slot)
  /-- The section for a successful accept of a non-streaming handler, up to the
  wait. -/
  | reply {s : GrpcAsyncServer Request Response Status} {a : Accept Request}
      {h : NonStreamRpcHandler Request Response Status} :
      s.runThread = .handling a true → s.rpcHandlers.lookup a.tag = some (.nonStream h) →
      h.connection ≠ none →
      Step s .reply
        (({ s with runThread := .replying a } : GrpcAsyncServer Request Response Status).update
          a.tag (.nonStream h.reply))
  /-- The rest of that section. -/
  | renew {s : GrpcAsyncServer Request Response Status} {a : Accept Request}
      {h : NonStreamRpcHandler Request Response Status} {key : Addr} :
      s.runThread = .replying a → s.rpcHandlers.lookup a.tag = some (.nonStream h) →
      h.FreshKey key →
      Step s .renew
        (({ s with runThread := .waiting } : GrpcAsyncServer Request Response Status).update
          a.tag (.nonStream (h.replied.renew key)) |>.request a.tag ⟨key, h.allocated, none⟩)
  /-- The section for a failed accept. -/
  | erase {s : GrpcAsyncServer Request Response Status} {a : Accept Request} :
      s.runThread = .handling a false →
      Step s .erase { s with rpcHandlers := s.rpcHandlers.erase a.tag, runThread := .waiting }
  /-- Writers, users and gRPC make a stream handler take a step. -/
  | stream {s : GrpcAsyncServer Request Response Status} {tag : Addr}
      {h h' : StreamRpcHandler Request Response Status}
      {action : StreamRpcHandler.Action Request Response Status} :
      s.rpcHandlers.lookup tag = some (.stream h) → action.own = true →
      StreamRpcHandler.Step h action h' → Step s (.stream tag action) (s.update tag (.stream h'))
  /-- Not while a registration is under way. -/
  | shutdown {s : GrpcAsyncServer Request Response Status} :
      s.registering = [] → Step s .shutdown { s with shutdown := true }
  | queueShutdown {s : GrpcAsyncServer Request Response Status} :
      s.shutdown = true → Step s .queueShutdown { s with queueShutdown := true }
  /-- `Next` returns false. -/
  | exit {s : GrpcAsyncServer Request Response Status} :
      s.runThread = .waiting → s.queueShutdown = true → s.serverQueue = [] →
      Step s .exit { s with runThread := .exited }

/-- The states of a server from its construction on. -/
abbrev ServerReachable (s : GrpcAsyncServer Request Response Status) : Prop :=
  Reachable Step initial s

/-- The runs of a server from its construction on. -/
abbrev ServerRun
    (tr : List (GrpcAsyncServer Request Response Status × Action Request Response Status))
    (s : GrpcAsyncServer Request Response Status) : Prop :=
  Run Step initial tr s

end GrpcAsyncServer

end Grpcw.Server
