import GrpcWrapper.Server.Tag

/-!
# The handler of a non-streaming call

`NonStreamRpcHandler` serves one unary call of a service.  It holds a single
connection, which gRPC fills in.  `activate_next` answers the request that
arrived in it, waits in a queue of its own until the answer is sent, and puts a
new connection in its place.  The wait splits the function in two, `reply` and
`renew`.
-/

namespace Grpcw.Server

variable {Request Response Status : Type}

/-- The object a client's call lives in. -/
structure NonStreamRpcConnection (Request : Type) where
  /-- Which connection this is; not part of the program. -/
  serial : Nat
  /-- Empty until gRPC accepts the call. -/
  request : Option Request
deriving DecidableEq

/-- A `responder.Finish` that gRPC holds. -/
structure Reply (Response Status : Type) where
  conn : Nat
  response : Response
  status : Status
deriving DecidableEq

structure NonStreamRpcHandler (Request Response Status : Type) where
  /-- The implementation of the call. -/
  callback : Option Request → Response × Status
  connection : Option (Addr × NonStreamRpcConnection Request)
  /-- The answers that `queue_` has yet to return. -/
  queue : List (Reply Response Status)
  /-- How many connections have been allocated. -/
  allocated : Nat

namespace NonStreamRpcHandler

/-- A handler as the constructor leaves it. -/
def new (callback : Option Request → Response × Status) :
    NonStreamRpcHandler Request Response Status where
  callback := callback
  connection := none
  queue := []
  allocated := 0

/-- gRPC accepts a call: it fills in the request of the connection. -/
def accept (request : Request) (h : NonStreamRpcHandler Request Response Status) :
    NonStreamRpcHandler Request Response Status :=
  { h with
    connection := h.connection.map fun p => (p.1, { p.2 with request := some request }) }

/-- The first half of `activate_next`: the request is answered. -/
def reply (h : NonStreamRpcHandler Request Response Status) :
    NonStreamRpcHandler Request Response Status :=
  match h.connection with
  | none => h
  | some (_, connection) =>
      let answer := h.callback connection.request
      { h with queue := h.queue ++ [⟨connection.serial, answer.1, answer.2⟩] }

/-- `queue_.Next` returns the oldest answer. -/
def replied (h : NonStreamRpcHandler Request Response Status) :
    NonStreamRpcHandler Request Response Status :=
  { h with queue := h.queue.tail }

/-- The second half of `activate_next`: a new connection at the address `key`. -/
def renew (key : Addr) (h : NonStreamRpcHandler Request Response Status) :
    NonStreamRpcHandler Request Response Status :=
  { h with
    connection := some (key, ⟨h.allocated, none⟩)
    allocated := h.allocated + 1 }

/-- No live connection is at the address. -/
def FreshKey (key : Addr) (h : NonStreamRpcHandler Request Response Status) : Prop :=
  ∀ c, h.connection ≠ some (key, c)

variable {h : NonStreamRpcHandler Request Response Status}

@[simp] theorem reply_connection : h.reply.connection = h.connection := by
  cases hc : h.connection with
  | none => rw [reply, hc, hc]
  | some p => rw [reply, hc]

end NonStreamRpcHandler

end Grpcw.Server
