import GrpcWrapper.Library.Transition
import GrpcWrapper.Server.Tag
import Mathlib.Data.Finset.Insert
import Mathlib.Data.Finset.Erase

/-!
# The stream handler

`StreamRpcHandler` serves one server-streaming call of a service.  It holds the
connection gRPC is to fill in next, the connections of the clients that have
arrived, the keys of the connections with an operation at gRPC, and the table
of tags.  All four change in critical sections of one lock, so a step of the
system is a whole section: `activateNext` on the thread that reads the server
queue, `write` and `finish` on any thread, and the handling of one tag on the
thread of `runSynchronization`.

gRPC is the environment.  It accepts a call into `next`, and it gives back
every operation handed to it, in any order and with any `call_ok`, the
notification of a finished call only after the call was accepted.  An operation
counts as delivered when `runSynchronization` handles it: the thread keeps the
tag it has taken from the queue until it has the lock.  The allocator is the
environment too: a new object may get any address that no live object has, so
the address of a deleted connection or of a handled tag may come back.

Two things are recorded that the program does not have.  A serial number tells
apart connections that lived at one address, and `log` lists, newest first,
what the handler did.
-/

namespace Grpcw.Server

open Transition

variable {Request Response Status : Type}

/-! ## Data -/

/-- The object a client's call lives in.  `request` is empty until gRPC accepts
the call. -/
structure StreamConnection (Request : Type) where
  /-- Which connection this is; not part of the program. -/
  serial : Nat
  request : Option Request
deriving DecidableEq

/-- What gRPC is asked to do with a connection. -/
inductive OpKind (Response Status : Type) where
  /-- `context.AsyncNotifyWhenDone` -/
  | notifyWhenDone
  /-- `responder.Write` -/
  | write (update : Response)
  /-- `responder.Finish` -/
  | finish (status : Status)
deriving DecidableEq

/-- The label of the tag that an operation is handed over with. -/
def OpKind.label : OpKind Response Status → TagLabel
  | .notifyWhenDone => .done
  | .write _ => .writing
  | .finish _ => .writing

/-- An operation that gRPC holds. -/
structure Operation (Response Status : Type) where
  /-- The address of the tag. -/
  tag : Addr
  /-- The address of the connection the tag was made for. -/
  data : Addr
  /-- The serial number of that connection. -/
  conn : Nat
  kind : OpKind Response Status
deriving DecidableEq

def Operation.label (op : Operation Response Status) : TagLabel := op.kind.label

/-- The data under the lock. -/
structure Connections (Request : Type) where
  next : Option (Addr × StreamConnection Request)
  active : Map Addr (StreamConnection Request)
  processing : Finset Addr
  tags : Tags

/-- A critical section of `write` or `finish`. -/
structure CallRecord (Response Status : Type) where
  kind : OpKind Response Status
  client : ClientID
  /-- The serial numbers in `active`. -/
  members : List Nat
  /-- The connections an operation was issued on, with its tag. -/
  issues : List (Nat × Addr)
deriving DecidableEq

inductive Event (Request Response Status : Type) where
  /-- `connection_callback_(request, id)` -/
  | connect (conn : Nat) (id : Addr) (request : Option Request)
  /-- A connection was moved into `active`. -/
  | activate (conn : Nat)
  | call (record : CallRecord Response Status)
  /-- A writing tag was handled. -/
  | complete (conn : Nat) (kind : OpKind Response Status) (callOk : Bool)
  /-- A done tag was handled; `isNext` when the connection was still `next`. -/
  | done (conn : Nat) (isNext : Bool)
  /-- The deletion path ran for a tag of `conn` with `data = id`.  `object` is
  the live connection at that address, whose request is read if there is one,
  and `called` tells whether there is a `deletion_callback_` to read it for. -/
  | delete (conn : Nat) (id : Addr) (object : Option (StreamConnection Request)) (called : Bool)
deriving DecidableEq

/-- The handler, the operations gRPC holds for it, and its history. -/
structure StreamRpcHandler (Request Response Status : Type) where
  /-- Whether `connection_callback_` is set. -/
  connectionCallback : Bool
  /-- Whether `deletion_callback_` is set. -/
  deletionCallback : Bool
  connections : Connections Request
  /-- The operations that `queue_` has yet to return. -/
  queue : List (Operation Response Status)
  /-- How many connections have been allocated. -/
  allocated : Nat
  log : List (Event Request Response Status)

/-- A handler as the constructor leaves it. -/
def StreamRpcHandler.initial : StreamRpcHandler Request Response Status where
  connectionCallback := false
  deletionCallback := false
  connections := ⟨none, ∅, ∅, ∅⟩
  queue := []
  allocated := 0
  log := []

/-- The live connection at an address. -/
def Connections.object (c : Connections Request) (key : Addr) :
    Option (StreamConnection Request) :=
  match c.active.lookup key, c.next with
  | some connection, _ => some connection
  | none, some (nextKey, connection) => if nextKey = key then some connection else none
  | none, none => none

/-- Whether a connection is the one in `next`. -/
def Connections.isNext (c : Connections Request) (conn : Nat) : Bool :=
  match c.next with
  | some (_, connection) => connection.serial == conn
  | none => false

/-! ## Accepting connections -/

namespace StreamRpcHandler

/-- `on_connect` -/
def onConnect (h : StreamRpcHandler Request Response Status) :
    StreamRpcHandler Request Response Status :=
  { h with connectionCallback := true }

/-- `on_delete` -/
def onDelete (h : StreamRpcHandler Request Response Status) :
    StreamRpcHandler Request Response Status :=
  { h with deletionCallback := true }

/-- gRPC accepts a call: it fills in the request of `next`. -/
def accept (request : Request) (h : StreamRpcHandler Request Response Status) :
    StreamRpcHandler Request Response Status :=
  { h with
    connections :=
      { h.connections with
        next := h.connections.next.map fun p => (p.1, { p.2 with request := some request }) } }

/-- The first half of `activate_next`: `next` becomes an active connection. -/
def moveNext (h : StreamRpcHandler Request Response Status) :
    StreamRpcHandler Request Response Status :=
  match h.connections.next with
  | none => h
  | some (key, connection) =>
      { h with
        connections :=
          { h.connections with
            next := none
            active := h.connections.active.emplace key connection }
        log :=
          .activate connection.serial ::
            if h.connectionCallback then
              .connect connection.serial key connection.request :: h.log
            else h.log }

/-- The second half of `activate_next`: a new `next` at the address `key`, its
done tag at the address `tag`. -/
def addNext (key tag : Addr) (h : StreamRpcHandler Request Response Status) :
    StreamRpcHandler Request Response Status :=
  { h with
    connections :=
      { h.connections with
        next := some (key, ⟨h.allocated, none⟩)
        tags := makeTag tag key .done h.connections.tags }
    queue := h.queue ++ [⟨tag, key, h.allocated, .notifyWhenDone⟩]
    allocated := h.allocated + 1 }

/-- `activate_next` -/
def activateNext (key tag : Addr) (h : StreamRpcHandler Request Response Status) :
    StreamRpcHandler Request Response Status :=
  h.moveNext.addNext key tag

/-! ## Write and Finish -/

/-- The client argument of `write` and `finish`, with the addresses of the new
tags.  `all` is the null client; it lists the keys of `active` in the order in
which the loop meets them. -/
inductive Recipients where
  | one (client tag : Addr)
  | all (order : List (Addr × Addr))

def Recipients.client : Recipients → ClientID
  | .one client _ => some client
  | .all _ => none

/-- A connection to issue an operation on, and the address of its tag. -/
structure Target (Request : Type) where
  key : Addr
  connection : StreamConnection Request
  tag : Addr

/-- The connections a call is issued on: the addressed one if it is active, or
all active ones. -/
def targets (c : Connections Request) : Recipients → List (Target Request)
  | .one client tag =>
      match c.active.lookup client with
      | some connection => [⟨client, connection, tag⟩]
      | none => []
  | .all order =>
      order.filterMap fun p =>
        (c.active.lookup p.1).map fun connection => ⟨p.1, connection, p.2⟩

/-- One round of the loop in `write` and `finish`. -/
def issue (kind : OpKind Response Status) (x : Target Request)
    (h : StreamRpcHandler Request Response Status) : StreamRpcHandler Request Response Status :=
  { h with
    connections :=
      { h.connections with
        tags := makeTag x.tag x.key .writing h.connections.tags
        processing := insert x.key h.connections.processing }
    queue := h.queue ++ [⟨x.tag, x.key, x.connection.serial, kind⟩] }

def issueAll (kind : OpKind Response Status) :
    List (Target Request) → StreamRpcHandler Request Response Status →
      StreamRpcHandler Request Response Status
  | [], h => h
  | x :: xs, h => issueAll kind xs (h.issue kind x)

/-- The serial numbers in `active`. -/
def members (h : StreamRpcHandler Request Response Status) : List Nat :=
  h.connections.active.values.map StreamConnection.serial

/-- What a section of `write` or `finish` is recorded as. -/
def callRecord (kind : OpKind Response Status) (recipients : Recipients)
    (h : StreamRpcHandler Request Response Status) : CallRecord Response Status where
  kind := kind
  client := recipients.client
  members := h.members
  issues := (targets h.connections recipients).map fun x => (x.connection.serial, x.tag)

/-- The handler after a section of `write` or `finish`, and the section's two
local variables. -/
structure Sent (Request Response Status : Type) where
  handler : StreamRpcHandler Request Response Status
  notify : Bool
  result : Bool

/-- What `write` and `finish` return. -/
def Sent.returned (_ : Sent Request Response Status) : Bool := true

/-- The section that `write` and `finish` share. -/
def send (kind : OpKind Response Status) (recipients : Recipients)
    (h : StreamRpcHandler Request Response Status) : Sent Request Response Status where
  handler :=
    issueAll kind (targets h.connections recipients)
      { h with log := .call (h.callRecord kind recipients) :: h.log }
  notify := h.connections.active.entries.isEmpty
  result :=
    match recipients with
    | .one client _ => decide (client ∈ h.connections.active)
    | .all _ => true

/-- `write` -/
def write (update : Response) (recipients : Recipients)
    (h : StreamRpcHandler Request Response Status) : Sent Request Response Status :=
  h.send (.write update) recipients

/-- `finish` -/
def finish (status : Status) (recipients : Recipients)
    (h : StreamRpcHandler Request Response Status) : Sent Request Response Status :=
  h.send (.finish status) recipients

/-! ## Handling tags -/

/-- The deletion path, which both branches of `run_synchronization` have: the
callback reads the request at `data`, then the key `data` is erased. -/
def delete (conn : Nat) (data : Addr) (h : StreamRpcHandler Request Response Status) :
    StreamRpcHandler Request Response Status :=
  { h with
    connections := { h.connections with active := h.connections.active.erase data }
    log := .delete conn data (h.connections.object data) h.deletionCallback :: h.log }

/-- The handler after a round of `run_synchronization`, and the round's flag
`all_streams_processed`. -/
structure Synchronized (Request Response Status : Type) where
  handler : StreamRpcHandler Request Response Status
  allStreamsProcessed : Bool

/-- The writing branch; `tag` is the decoded tag of the operation `op`. -/
def handleWriting (op : Operation Response Status) (tag : Tag) (callOk : Bool)
    (h : StreamRpcHandler Request Response Status) : Synchronized Request Response Status :=
  let processing := h.connections.processing.erase tag.data
  let h' : StreamRpcHandler Request Response Status :=
    { h with
      connections := { h.connections with processing := processing }
      log := .complete op.conn op.kind callOk :: h.log }
  ⟨if callOk then h' else h'.delete op.conn tag.data, decide (processing = ∅)⟩

/-- The done branch. -/
def handleDone (op : Operation Response Status) (tag : Tag)
    (h : StreamRpcHandler Request Response Status) : Synchronized Request Response Status :=
  let h' : StreamRpcHandler Request Response Status :=
    { h with log := .done op.conn (h.connections.isNext op.conn) :: h.log }
  ⟨if tag.data ∈ h.connections.processing then h' else h'.delete op.conn tag.data, false⟩

/-- The handler when a tag has been taken from the queue and `getTag` has left
the table `tags`. -/
def receive (op : Operation Response Status) (tags : Tags)
    (h : StreamRpcHandler Request Response Status) : StreamRpcHandler Request Response Status :=
  { h with
    connections := { h.connections with tags := tags }
    queue := h.queue.eraseP fun o => o.tag = op.tag }

/-- A round of `run_synchronization`, for the operation that `queue_` returns.
The program sees its tag only.  `none` is the failed assertion of `getTag`. -/
def runSynchronization (op : Operation Response Status) (callOk : Bool)
    (h : StreamRpcHandler Request Response Status) :
    Option (Synchronized Request Response Status) :=
  match getTag op.tag h.connections.tags with
  | none => none
  | some (tag, tags) =>
      match tag.label with
      | .writing => some ((h.receive op tags).handleWriting op tag callOk)
      | .done => some ((h.receive op tags).handleDone op tag)

/-! ## Steps -/

/-- No live connection is at the address. -/
def FreshKey (key : Addr) (h : StreamRpcHandler Request Response Status) : Prop :=
  h.connections.object key = none

/-- No live tag is at the address. -/
def FreshTag (tag : Addr) (h : StreamRpcHandler Request Response Status) : Prop :=
  tag ∉ h.connections.tags

/-- The allocator and the map's iteration order admit these recipients. -/
def Admits (h : StreamRpcHandler Request Response Status) : Recipients → Prop
  | .one _ tag => h.FreshTag tag
  | .all order =>
      (order.map Prod.fst).Perm h.connections.active.keys ∧ (order.map Prod.snd).Nodup ∧
        ∀ p ∈ order, h.FreshTag p.2

/-- `activate_next` is called once to register the handler and then for each
accepted call. -/
def Activatable (h : StreamRpcHandler Request Response Status) : Prop :=
  ∀ key connection, h.connections.next = some (key, connection) → connection.request.isSome

/-- gRPC may return the operation: the notification of a call comes after the
call was accepted. -/
def Deliverable (h : StreamRpcHandler Request Response Status)
    (op : Operation Response Status) : Prop :=
  op ∈ h.queue ∧ (op.kind = .notifyWhenDone → ∀ key connection,
    h.connections.next = some (key, connection) → connection.serial = op.conn →
      connection.request.isSome)

inductive Action (Request Response Status : Type) where
  | onConnect
  | onDelete
  | accept (request : Request)
  | activateNext (key tag : Addr)
  | write (update : Response) (recipients : Recipients)
  | finish (status : Status) (recipients : Recipients)
  | deliver (op : Operation Response Status) (callOk : Bool)

inductive Step : StreamRpcHandler Request Response Status → Action Request Response Status →
    StreamRpcHandler Request Response Status → Prop where
  | onConnect {h : StreamRpcHandler Request Response Status} : Step h .onConnect h.onConnect
  | onDelete {h : StreamRpcHandler Request Response Status} : Step h .onDelete h.onDelete
  | accept {h : StreamRpcHandler Request Response Status} {key : Addr} {serial : Nat}
      {request : Request} :
      h.connections.next = some (key, ⟨serial, none⟩) →
      Step h (.accept request) (h.accept request)
  | activateNext {h : StreamRpcHandler Request Response Status} {key tag : Addr} :
      h.Activatable → h.FreshKey key → h.FreshTag tag →
      Step h (.activateNext key tag) (h.activateNext key tag)
  | write {h : StreamRpcHandler Request Response Status} {update : Response}
      {recipients : Recipients} :
      h.connections.processing = ∅ → h.Admits recipients →
      Step h (.write update recipients) (h.write update recipients).handler
  | finish {h : StreamRpcHandler Request Response Status} {status : Status}
      {recipients : Recipients} :
      h.connections.processing = ∅ → h.Admits recipients →
      Step h (.finish status recipients) (h.finish status recipients).handler
  | deliver {h : StreamRpcHandler Request Response Status} {op : Operation Response Status}
      {callOk : Bool} {s : Synchronized Request Response Status} :
      h.Deliverable op → h.runSynchronization op callOk = some s →
      Step h (.deliver op callOk) s.handler

/-- The states of a handler from its construction on. -/
abbrev HandlerReachable (h : StreamRpcHandler Request Response Status) : Prop :=
  Reachable Step initial h

/-- The runs of a handler from its construction on. -/
abbrev HandlerRun (tr : List (StreamRpcHandler Request Response Status ×
      Action Request Response Status))
    (h : StreamRpcHandler Request Response Status) : Prop :=
  Run Step initial tr h

/-! ## Running the model

A step is determined by its action, so it can be computed. -/

section Perform

variable {h h' : StreamRpcHandler Request Response Status}

instance : Decidable h.Activatable :=
  decidable_of_iff (∀ p ∈ h.connections.next, p.2.request.isSome)
    ⟨fun hall key c hn => hall (key, c) hn, fun hact p hn => hact p.1 p.2 hn⟩

instance : ∀ recipients, Decidable (h.Admits recipients)
  | .one _ tag => inferInstanceAs (Decidable (tag ∉ h.connections.tags))
  | .all order =>
      inferInstanceAs (Decidable ((order.map Prod.fst).Perm h.connections.active.keys ∧
        (order.map Prod.snd).Nodup ∧ ∀ p ∈ order, p.2 ∉ h.connections.tags))

variable [DecidableEq Response] [DecidableEq Status]

instance {op : Operation Response Status} : Decidable (h.Deliverable op) :=
  decidable_of_iff (op ∈ h.queue ∧ (op.kind = .notifyWhenDone → ∀ p ∈ h.connections.next,
      p.2.serial = op.conn → p.2.request.isSome))
    (and_congr_right fun _ => forall_congr' fun _ =>
      ⟨fun hall key c hn => hall (key, c) hn, fun hdel p hn => hdel p.1 p.2 hn⟩)

/-- The handler after an action, or `none` when the action cannot be taken. -/
def perform (a : Action Request Response Status) (h : StreamRpcHandler Request Response Status) :
    Option (StreamRpcHandler Request Response Status) :=
  match a with
  | .onConnect => some h.onConnect
  | .onDelete => some h.onDelete
  | .accept request =>
      match h.connections.next with
      | some (_, ⟨_, none⟩) => some (h.accept request)
      | _ => none
  | .activateNext key tag =>
      if h.Activatable ∧ h.connections.object key = none ∧ tag ∉ h.connections.tags then
        some (h.activateNext key tag)
      else none
  | .write update recipients =>
      if h.connections.processing = ∅ ∧ h.Admits recipients then
        some (h.write update recipients).handler
      else none
  | .finish status recipients =>
      if h.connections.processing = ∅ ∧ h.Admits recipients then
        some (h.finish status recipients).handler
      else none
  | .deliver op callOk =>
      if h.Deliverable op then (h.runSynchronization op callOk).map Synchronized.handler else none

theorem step_iff_perform {a : Action Request Response Status} :
    Step h a h' ↔ perform a h = some h' := by
  refine ⟨?_, ?_⟩
  · intro hs
    cases hs with
    | onConnect => rfl
    | onDelete => rfl
    | accept hn => simp [perform, hn]
    | activateNext hact hk ht => exact if_pos ⟨hact, hk, ht⟩
    | write hp hadm => exact if_pos ⟨hp, hadm⟩
    | finish hp hadm => exact if_pos ⟨hp, hadm⟩
    | deliver hdel hrun => simp [perform, hdel, hrun]
  · intro hp
    cases a with
    | onConnect =>
        cases hp
        exact .onConnect
    | onDelete =>
        cases hp
        exact .onDelete
    | accept request =>
        simp only [perform] at hp
        split at hp
        · cases hp
          exact .accept ‹_›
        · cases hp
    | activateNext key tag =>
        obtain ⟨⟨hact, hk, ht⟩, heq⟩ := Option.ite_none_right_eq_some.mp hp
        cases heq
        exact .activateNext hact hk ht
    | write update recipients =>
        obtain ⟨⟨hproc, hadm⟩, heq⟩ := Option.ite_none_right_eq_some.mp hp
        cases heq
        exact .write hproc hadm
    | finish status recipients =>
        obtain ⟨⟨hproc, hadm⟩, heq⟩ := Option.ite_none_right_eq_some.mp hp
        cases heq
        exact .finish hproc hadm
    | deliver op callOk =>
        obtain ⟨hdel, heq⟩ := Option.ite_none_right_eq_some.mp hp
        obtain ⟨s, hrun, rfl⟩ := Option.map_eq_some_iff.mp heq
        exact .deliver hdel hrun

/-- The steps and the last state of the run that a script gives. -/
def served (script : List (Action Request Response Status)) :
    List (StreamRpcHandler Request Response Status × Action Request Response Status) ×
      StreamRpcHandler Request Response Status :=
  replay perform initial [] script

theorem served_run (script : List (Action Request Response Status)) :
    HandlerRun (served script).1 (served script).2 :=
  Run.replay step_iff_perform.mpr .start script

/-- Two clients arrive, and an update for both is handed to gRPC. -/
def broadcast : List (Action Nat Nat Nat) :=
  [.onConnect, .onDelete, .activateNext 1 101, .accept 7, .activateNext 2 102, .accept 8,
    .activateNext 3 103, .write 5 (.all [(1, 104), (2, 105)])]

example : (served broadcast).1.length = broadcast.length := by decide

end Perform

end StreamRpcHandler

end Grpcw.Server
