import GrpcWrapper.Server.GrpcAsyncServer

/-!
# A server and its owner

The owner of a server registers handlers, keeps the streams that
`register_async_stream` returns, may shut the server down, and destroys it.
The destructor shuts the server down, which waits for the calls that gRPC has
accepted, then shuts `server_queue_` down and joins the run thread.

What gRPC does in a step is open, as it is in the steps of the server.
`Documented` holds of the steps that its documentation admits.
-/

namespace Grpcw.Server

open Transition

variable {Request Response Status : Type}

/-- `StreamRpcHandlerCallbackSetter::stream`, for the handler that was registered
at `tag`; the other kind of handler has no stream. -/
def RpcHandler.streams (tag : Addr) : RpcHandler Request Response Status → List Addr
  | .stream _ => [tag]
  | .nonStream _ => []

namespace GrpcAsyncServer

/-- The calls that gRPC accepts in a step. -/
def Action.accepted : Action Request Response Status → Nat
  | .accept _ _ => 1
  | _ => 0

/-- The stream that a registration returns. -/
def returned (s : GrpcAsyncServer Request Response Status) :
    Action Request Response Status → List Addr
  | .register tag => (s.rpcHandlers.lookup tag).elim [] (RpcHandler.streams tag)
  | _ => []

end GrpcAsyncServer

structure HostedServer (Request Response Status : Type) where
  server : GrpcAsyncServer Request Response Status
  /-- The `StreamInterface` pointers that were returned. -/
  streams : List Addr
  /-- How many accepted calls are not finished. -/
  calls : Nat
  /-- The destructor has begun. -/
  destroying : Bool

namespace HostedServer

def initial : HostedServer Request Response Status where
  server := .initial
  streams := []
  calls := 0
  destroying := false

inductive Action (Request Response Status : Type) where
  | server (action : GrpcAsyncServer.Action Request Response Status)
  /-- A client completes or cancels a call. -/
  | finishCall
  | destroy

/-- Nothing is called on a server that is being destroyed, and the destructor
shuts the queue down once. -/
def Admits (l : HostedServer Request Response Status) :
    GrpcAsyncServer.Action Request Response Status → Prop
  | .emplace _ | .register _ | .shutdown => l.destroying = false
  | .queueShutdown => l.destroying = true ∧ l.server.queueShutdown = false
  | _ => True

inductive Step : HostedServer Request Response Status → Action Request Response Status →
    HostedServer Request Response Status → Prop where
  | server {l : HostedServer Request Response Status}
      {action : GrpcAsyncServer.Action Request Response Status}
      {s : GrpcAsyncServer Request Response Status} :
      GrpcAsyncServer.Step l.server action s → l.Admits action →
      Step l (.server action)
        { l with
          server := s
          streams := l.server.returned action ++ l.streams
          calls := l.calls + action.accepted }
  | finishCall {l : HostedServer Request Response Status} {n : Nat} :
      l.calls = n + 1 → Step l .finishCall { l with calls := n }
  /-- The destructor begins with `shutdown_and_wait`. -/
  | destroy {l : HostedServer Request Response Status}
      {s : GrpcAsyncServer Request Response Status} :
      l.destroying = false → GrpcAsyncServer.Step l.server .shutdown s →
      Step l .destroy { l with server := s, destroying := true }

/-- What gRPC documents.  A server that was shut down takes no calls.  An accept
succeeds when it has a call, and fails when the server is shut down.  `Shutdown`
returns when all calls are finished. -/
def Documented (l : HostedServer Request Response Status) :
    Action Request Response Status → Prop
  | .server (.accept _ _) => l.server.shutdown = false
  | .server (.next accept callOk) =>
      callOk = accept.slot.request.isSome ∧ (callOk = false → l.server.shutdown = true)
  | .server .queueShutdown => l.calls = 0
  | _ => True

/-- The states of a server until the end of its destructor. -/
abbrev HostedReachable (l : HostedServer Request Response Status) : Prop :=
  Reachable Step initial l

abbrev HostedRun
    (tr : List (HostedServer Request Response Status × Action Request Response Status))
    (l : HostedServer Request Response Status) : Prop :=
  Run Step initial tr l

/-- The runs in which gRPC does what it documents. -/
abbrev DocumentedRun
    (tr : List (HostedServer Request Response Status × Action Request Response Status))
    (l : HostedServer Request Response Status) : Prop :=
  Run (Restrict Step Documented) initial tr l

variable {l : HostedServer Request Response Status}

/-- A server takes its own steps only. -/
theorem HostedReachable.server (hr : l.HostedReachable) : l.server.ServerReachable := by
  refine hr.map HostedServer.server ?_
  intro l a l' hs
  cases hs with
  | server hs _ => exact Or.inr ⟨_, hs⟩
  | finishCall _ => exact Or.inl rfl
  | destroy _ hs => exact Or.inr ⟨_, hs⟩

end HostedServer

end Grpcw.Server
