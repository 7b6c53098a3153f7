import GrpcWrapper.Library.Transition
import GrpcWrapper.Server.NonStreamRpcHandler

/-!
# Activating the next connection

`activate_next` of a non-streaming handler, one statement at a time.  It calls
`callback_` on the request of the connection, hands the answer to the
connection's responder with the address of its local variable `response` as the
tag, waits for that tag in the private `queue_`, replaces the connection, and
registers an accept for the new one.  It is called once with no connection, and
then for each accept that comes back with a call.  The handler is destroyed while
it does not run.

gRPC is the environment.  It fills in the request of a connection whose accept
is registered, and `queue_` returns any operation that was handed over, with any
`call_ok`.  What `callback_` answers is left open.  A failed assertion is
recorded, and the run goes on as it does with assertions turned off.
-/

namespace Grpcw.Server

open Transition

variable {Request Response Status : Type}

/-! ## The handler -/

/-- A `responder.Finish` that gRPC holds, with its tag. -/
structure PendingReply (Response Status : Type) where
  tag : Addr
  reply : Reply Response Status
deriving DecidableEq

/-- Where `activate_next` and the destructor stand. -/
inductive ActivatePhase (Response Status : Type) where
  | idle
  /-- The local variable `response` has an address. -/
  | calling (response : Addr)
  | answered (response : Addr) (answer : Response × Status)
  /-- In `queue_.Next`. -/
  | waiting (response : Addr)
  | replacing
  | requesting
  /-- In the loop of the destructor. -/
  | draining
  | destroyed
deriving DecidableEq

/-- The assertions of `activate_next` and of the destructor. -/
inductive Assertion where
  /-- `Next` returns an event. -/
  | event
  | callOk
  /-- `recv_tag == &response` -/
  | recvTag
  /-- `not call_ok`, in the destructor. -/
  | notCallOk
deriving DecidableEq

inductive ReplyEvent (Request Response Status : Type) where
  /-- gRPC has put a request into a connection. -/
  | accepted (conn : Nat) (request : Request)
  /-- `callback_` has answered what it read in a connection. -/
  | called (conn : Nat) (request : Option Request) (answer : Response × Status)
  | finish (reply : Reply Response Status)
  /-- `queue_` has returned an operation. -/
  | completed (conn : Nat)
  | asserted (assertion : Assertion) (holds : Bool)
  /-- `connection_` is a new object. -/
  | replaced (conn : Nat)
  /-- An accept was registered. -/
  | registered (conn : Nat)
  /-- The destructor has met an operation. -/
  | drained (conn : Nat)
deriving DecidableEq

namespace ReplyEvent

def accepts : ReplyEvent Request Response Status → List (Nat × Option Request)
  | .accepted conn request => [(conn, some request)]
  | _ => []

def requests : ReplyEvent Request Response Status → List (Nat × Option Request)
  | .called conn request _ => [(conn, request)]
  | _ => []

def answers : ReplyEvent Request Response Status → List (Reply Response Status)
  | .called conn _ answer => [⟨conn, answer.1, answer.2⟩]
  | _ => []

def finishes : ReplyEvent Request Response Status → List (Reply Response Status)
  | .finish reply => [reply]
  | _ => []

def completions : ReplyEvent Request Response Status → List Nat
  | .completed conn => [conn]
  | _ => []

/-- A connection is replaced, and an accept registered, only when all requests
have been replied to. -/
def InOrder : ReplyEvent Request Response Status → List (ReplyEvent Request Response Status) → Prop
  | .replaced _, past | .registered _, past =>
      recorded completions past = (recorded accepts past).map Prod.fst
  | _, _ => True

end ReplyEvent

structure NonStreamActivation (Request Response Status : Type) where
  connection : Option (Addr × NonStreamRpcConnection Request)
  /-- The operations that `queue_` has yet to return. -/
  queue : List (PendingReply Response Status)
  queueShutdown : Bool
  /-- How many connections have been allocated. -/
  allocated : Nat
  /-- gRPC may fill in the connection. -/
  registered : Bool
  phase : ActivatePhase Response Status
  log : List (ReplyEvent Request Response Status)

namespace NonStreamActivation

def new : NonStreamActivation Request Response Status where
  connection := none
  queue := []
  queueShutdown := false
  allocated := 0
  registered := false
  phase := .idle
  log := []

/-- The request in the connection. -/
def held (h : NonStreamActivation Request Response Status) : List (Nat × Option Request) :=
  match h.connection with
  | some (_, ⟨serial, some request⟩) => [(serial, some request)]
  | _ => []

/-- A request that `callback_` was not called on yet. -/
def unanswered (h : NonStreamActivation Request Response Status) : List (Nat × Option Request) :=
  match h.phase with
  | .answered _ _ | .waiting _ | .replacing => []
  | _ => h.held

/-- An answer that was not handed to gRPC yet. -/
def unsent (h : NonStreamActivation Request Response Status) : List (Reply Response Status) :=
  match h.phase, h.connection with
  | .answered _ answer, some (_, c) => [⟨c.serial, answer.1, answer.2⟩]
  | _, _ => []

/-- `activate_next` runs. -/
def Running (h : NonStreamActivation Request Response Status) : Prop :=
  h.phase ≠ .idle ∧ h.phase ≠ .draining ∧ h.phase ≠ .destroyed

/-! ## Steps -/

/-- gRPC puts a request into the connection. -/
def accept (request : Request) (h : NonStreamActivation Request Response Status) :
    NonStreamActivation Request Response Status :=
  match h.connection with
  | none => h
  | some (key, c) =>
      { h with
        connection := some (key, { c with request := some request })
        log := .accepted c.serial request :: h.log }

/-- `activate_next` is called: `if (connection_)`. -/
def activate (response : Addr) (h : NonStreamActivation Request Response Status) :
    NonStreamActivation Request Response Status :=
  { h with
    registered := false
    phase := if h.connection.isSome then .calling response else .replacing }

/-- `callback_(connection_->request, &response)` -/
def call (response : Addr) (c : NonStreamRpcConnection Request) (answer : Response × Status)
    (h : NonStreamActivation Request Response Status) :
    NonStreamActivation Request Response Status :=
  { h with
    phase := .answered response answer
    log := .called c.serial c.request answer :: h.log }

/-- `connection_->responder.Finish(response, status, &response)` -/
def finish (response : Addr) (c : NonStreamRpcConnection Request) (answer : Response × Status)
    (h : NonStreamActivation Request Response Status) :
    NonStreamActivation Request Response Status :=
  { h with
    queue := h.queue ++ [⟨response, ⟨c.serial, answer.1, answer.2⟩⟩]
    phase := .waiting response
    log := .finish ⟨c.serial, answer.1, answer.2⟩ :: h.log }

/-- `Next` returns an operation, and leaves `rest`. -/
def replied (response : Addr) (op : PendingReply Response Status) (callOk : Bool)
    (rest : List (PendingReply Response Status))
    (h : NonStreamActivation Request Response Status) :
    NonStreamActivation Request Response Status :=
  { h with
    queue := rest
    phase := .replacing
    log :=
      .asserted .recvTag (decide (op.tag = response)) :: .asserted .callOk callOk ::
        .completed op.reply.conn :: h.log }

/-- `Next` returns false. -/
def unreplied (h : NonStreamActivation Request Response Status) :
    NonStreamActivation Request Response Status :=
  { h with phase := .replacing, log := .asserted .event false :: h.log }

/-- `connection_ = std::make_unique<..>()` -/
def replace (key : Addr) (h : NonStreamActivation Request Response Status) :
    NonStreamActivation Request Response Status :=
  { h with
    connection := some (key, ⟨h.allocated, none⟩)
    allocated := h.allocated + 1
    phase := .requesting
    log := .replaced h.allocated :: h.log }

/-- `(service_.*stream_func_)(..)` -/
def request (c : NonStreamRpcConnection Request)
    (h : NonStreamActivation Request Response Status) :
    NonStreamActivation Request Response Status :=
  { h with
    registered := true
    phase := .idle
    log := .registered c.serial :: h.log }

/-- The destructor: `queue_.Shutdown()`.  gRPC has no accept left then. -/
def destroy (h : NonStreamActivation Request Response Status) :
    NonStreamActivation Request Response Status :=
  { h with queueShutdown := true, registered := false, phase := .draining }

/-- A round of the destructor's loop. -/
def drain (op : PendingReply Response Status) (callOk : Bool)
    (rest : List (PendingReply Response Status))
    (h : NonStreamActivation Request Response Status) :
    NonStreamActivation Request Response Status :=
  { h with
    queue := rest
    log := .asserted .notCallOk (!callOk) :: .drained op.reply.conn :: h.log }

/-- `activate_next` is called to register the handler, and when the accept has
come back with a call. -/
def Activatable (h : NonStreamActivation Request Response Status) : Prop :=
  h.connection = none ∨ h.registered = true ∧ h.held ≠ []

inductive Action (Request Response Status : Type) where
  | accept (request : Request)
  | activate (response : Addr)
  | call (answer : Response × Status)
  | finish
  | replied (op : PendingReply Response Status) (callOk : Bool)
  | unreplied
  | replace (key : Addr)
  | request
  | destroy
  | drain (op : PendingReply Response Status) (callOk : Bool)
  | drained

inductive Step : NonStreamActivation Request Response Status → Action Request Response Status →
    NonStreamActivation Request Response Status → Prop where
  | accept {h : NonStreamActivation Request Response Status} {key : Addr} {serial : Nat}
      {request : Request} :
      h.registered = true → h.connection = some (key, ⟨serial, none⟩) →
      Step h (.accept request) (h.accept request)
  | activate {h : NonStreamActivation Request Response Status} {response : Addr} :
      h.phase = .idle → h.Activatable → Step h (.activate response) (h.activate response)
  | call {h : NonStreamActivation Request Response Status} {response key : Addr}
      {c : NonStreamRpcConnection Request} {answer : Response × Status} :
      h.phase = .calling response → h.connection = some (key, c) →
      Step h (.call answer) (h.call response c answer)
  | finish {h : NonStreamActivation Request Response Status} {response key : Addr}
      {c : NonStreamRpcConnection Request} {answer : Response × Status} :
      h.phase = .answered response answer → h.connection = some (key, c) →
      Step h .finish (h.finish response c answer)
  | replied {h : NonStreamActivation Request Response Status} {response : Addr}
      {op : PendingReply Response Status} {before after : List (PendingReply Response Status)}
      {callOk : Bool} :
      h.phase = .waiting response → h.queue = before ++ op :: after →
      Step h (.replied op callOk) (h.replied response op callOk (before ++ after))
  /-- The queue is drained and was shut down. -/
  | unreplied {h : NonStreamActivation Request Response Status} {response : Addr} :
      h.phase = .waiting response → h.queueShutdown = true → h.queue = [] →
      Step h .unreplied h.unreplied
  | replace {h : NonStreamActivation Request Response Status} {key : Addr} :
      h.phase = .replacing → (∀ c, h.connection ≠ some (key, c)) →
      Step h (.replace key) (h.replace key)
  | request {h : NonStreamActivation Request Response Status} {key : Addr}
      {c : NonStreamRpcConnection Request} :
      h.phase = .requesting → h.connection = some (key, c) → Step h .request (h.request c)
  | destroy {h : NonStreamActivation Request Response Status} :
      h.phase = .idle → Step h .destroy h.destroy
  | drain {h : NonStreamActivation Request Response Status} {op : PendingReply Response Status}
      {before after : List (PendingReply Response Status)} {callOk : Bool} :
      h.phase = .draining → h.queue = before ++ op :: after →
      Step h (.drain op callOk) (h.drain op callOk (before ++ after))
  | drained {h : NonStreamActivation Request Response Status} :
      h.phase = .draining → h.queue = [] → Step h .drained { h with phase := .destroyed }

/-- The states of a handler from its construction on. -/
abbrev ActivationReachable (h : NonStreamActivation Request Response Status) : Prop :=
  Reachable Step new h

end NonStreamActivation

end Grpcw.Server
