import GrpcWrapper.Library.Channel
import GrpcWrapper.Server.StreamBroadcast
import GrpcWrapper.Client.StreamCallbacks

/-!
# A stream handler and its clients

The handler of one streaming call, any number of client streams, and gRPC in
between.  The handler and the clients take the steps of their own systems
(`StreamRpcHandler.Step`, `StreamLifecycle.Step`); what they exchange goes over
a channel for each call that a client makes.  The handler's connections are
bound to calls when gRPC accepts them, each call at most once and in any order,
also after the client has given it up.

A write of the handler is sent on the channels of the calls whose connections it
was issued on, and a finish ends them.  A client's thread reads the channel of
the call its reader was opened for, and its `Read` returns false when the
channel is drained.  A client has set both callbacks before its stream starts, as
in `StreamLifecycle`.  gRPC may cut a channel at any time: the client cancels, a
deadline passes, the network fails, or the call is never accepted.
-/

namespace Grpcw.Server

variable {Response Status : Type}

/-! ## What a list of operations says -/

namespace OpKind

def update : OpKind Response Status → Option Response
  | .write update => some update
  | _ => none

def status : OpKind Response Status → Option Status
  | .finish status => some status
  | _ => none

/-- The operations before the first finish. -/
def spoken (ops : List (OpKind Response Status)) : List (OpKind Response Status) :=
  ops.takeWhile fun kind => kind.status.isNone

/-- The messages of a call on which the operations `ops` were issued. -/
def messages (ops : List (OpKind Response Status)) : List Response := (spoken ops).filterMap update

/-- The status it ends with. -/
def outcome (ops : List (OpKind Response Status)) : Option Status := ops.findSome? status

variable {ops : List (OpKind Response Status)} {kind : OpKind Response Status}

theorem outcome_concat : outcome (ops ++ [kind]) = (outcome ops).or kind.status := by
  rw [outcome, List.findSome?_append]
  cases hk : kind.status <;> simp [outcome, hk]

theorem messages_concat :
    messages (ops ++ [kind]) =
      if (outcome ops).isSome then messages ops else messages ops ++ kind.update.toList := by
  induction ops with
  | nil => cases kind <;> rfl
  | cons op ops ih =>
      cases op with
      | finish status => rfl
      | notifyWhenDone => exact ih
      | write update =>
          show update :: messages (ops ++ [kind]) = _
          rw [ih]
          show _ = if (outcome ops).isSome then update :: messages ops
            else update :: messages ops ++ kind.update.toList
          split <;> rfl

end OpKind

end Grpcw.Server

namespace Grpcw.Client.StreamLifecycle

/-- How many starts have opened their reader. -/
def opened {Message Status : Type} (s : StreamLifecycle Message Status) : Nat :=
  match s.phase with
  | .opening _ => s.starts - 1
  | _ => s.starts

end Grpcw.Client.StreamLifecycle

namespace Grpcw.System

open Transition Server Client StreamRpcHandler

variable {ι Request Response Status : Type} [DecidableEq ι]

/-! ## The system -/

/-- A call that a client makes: the client, and which of its starts. -/
abbrev CallID (ι : Type) := ι × Nat

structure Streaming (ι Request Response Status : Type) where
  server : StreamRpcHandler Request Response Status
  client : ι → StreamLifecycle Response Status
  /-- The serial number of the connection that a call was accepted into. -/
  connection : CallID ι → Option Nat
  channel : CallID ι → Channel Response Status

namespace Streaming

def initial : Streaming ι Request Response Status where
  server := .initial
  client := fun _ => .new
  connection := fun _ => none
  channel := fun _ => .new

/-- gRPC sends what it was handed. -/
def carry : OpKind Response Status → Channel Response Status → Channel Response Status
  | .notifyWhenDone, c => c
  | .write update, c => c.send update
  | .finish status, c => c.finish status

/-- The operations that a section issues on the connection of a call. -/
def addressed (record : CallRecord Response Status) (p : CallID ι)
    (s : Streaming ι Request Response Status) : List (OpKind Response Status) :=
  (record.issues.filter fun q => some q.1 = s.connection p).map fun _ => record.kind

/-- The operations of a section go out on the channels of its connections. -/
def transmit (record : CallRecord Response Status) (s : Streaming ι Request Response Status) :
    CallID ι → Channel Response Status :=
  fun p => (s.addressed record p).foldl (fun c kind => carry kind c) (s.channel p)

/-- What a step of the handler does to the channels. -/
def sentBy (s : Streaming ι Request Response Status) :
    StreamRpcHandler.Action Request Response Status → CallID ι → Channel Response Status
  | .write update recipients => s.transmit (s.server.callRecord (.write update) recipients)
  | .finish status recipients => s.transmit (s.server.callRecord (.finish status) recipients)
  | _ => s.channel

/-- The call that a client's threads read from. -/
def reading (i : ι) (s : Streaming ι Request Response Status) : Option (CallID ι) :=
  (s.client i).reader.map fun reader => (i, reader.1)

/-- What the channels admit of a client. -/
def Admits (s : Streaming ι Request Response Status) (i : ι) :
    StreamLifecycle.Action Response Status → Prop
  | .read _ update => ∃ p ∈ s.reading i, (s.channel p).flight.head? = some update
  | .readEnd _ => ∃ p ∈ s.reading i, (s.channel p).Drained
  | .finish _ status => ∃ p ∈ s.reading i,
      (s.channel p).cut ∨ (s.channel p).ending = some status
  | _ => True

/-- What a step of a client does to the channels. -/
def readBy (s : Streaming ι Request Response Status) (i : ι) :
    StreamLifecycle.Action Response Status → CallID ι → Channel Response Status
  | .read _ _ => fun p => if s.reading i = some p then (s.channel p).receive else s.channel p
  | _ => s.channel

inductive Action (ι Request Response Status : Type) where
  /-- A section of the handler. -/
  | serve (a : StreamRpcHandler.Action Request Response Status)
  /-- gRPC accepts a call into `next`. -/
  | accept (request : Request) (call : CallID ι)
  /-- A step of a client. -/
  | client (i : ι) (a : StreamLifecycle.Action Response Status)
  /-- gRPC cuts the channel of a call, after `k` of the messages in flight. -/
  | sever (call : CallID ι) (k : Nat)

inductive Step : Streaming ι Request Response Status → Action ι Request Response Status →
    Streaming ι Request Response Status → Prop where
  | serve {s : Streaming ι Request Response Status}
      {a : StreamRpcHandler.Action Request Response Status}
      {h : StreamRpcHandler Request Response Status} :
      (∀ request, a ≠ .accept request) → s.server.Step a h →
      Step s (.serve a) { s with server := h, channel := s.sentBy a }
  | accept {s : Streaming ι Request Response Status} {request : Request} {call : CallID ι}
      {key : Addr} {serial : Nat} :
      s.server.connections.next = some (key, ⟨serial, none⟩) →
      call.2 < (s.client call.1).opened → s.connection call = none →
      Step s (.accept request call)
        { s with
          server := s.server.accept request
          connection := Function.update s.connection call (some serial) }
  | client {s : Streaming ι Request Response Status} {i : ι}
      {a : StreamLifecycle.Action Response Status} {c : StreamLifecycle Response Status} :
      (s.client i).Step a c → s.Admits i a →
      Step s (.client i a)
        { s with client := Function.update s.client i c, channel := s.readBy i a }
  | sever {s : Streaming ι Request Response Status} {call : CallID ι} {k : Nat} :
      Step s (.sever call k)
        { s with channel := Function.update s.channel call ((s.channel call).sever k) }

abbrev StreamingReachable (s : Streaming ι Request Response Status) : Prop :=
  Reachable Step initial s

variable {s s' : Streaming ι Request Response Status} {a : Action ι Request Response Status}

/-! ## The parts -/

/-- The handler of the system is a handler. -/
theorem StreamingReachable.server (hr : s.StreamingReachable) : s.server.HandlerReachable := by
  refine Reachable.map Streaming.server hr ?_
  intro s a s' hs
  cases hs with
  | serve _ hstep => exact Or.inr ⟨_, hstep⟩
  | accept hn _ _ => exact Or.inr ⟨_, .accept hn⟩
  | client _ _ => exact Or.inl rfl
  | sever => exact Or.inl rfl

/-- Each client of the system is a client. -/
theorem StreamingReachable.client (hr : s.StreamingReachable) (i : ι) :
    (s.client i).LifecycleReachable := by
  refine Reachable.map (fun s => Streaming.client s i) hr ?_
  intro s a s' hs
  cases hs with
  | serve _ _ => exact Or.inl rfl
  | accept _ _ _ => exact Or.inl rfl
  | @client j a c hstep _ =>
      by_cases hi : i = j
      · subst hi
        refine Or.inr ⟨a, ?_⟩
        show (s.client i).Step a (Function.update s.client i c i)
        rw [Function.update_self]
        exact hstep
      · exact Or.inl (Function.update_of_ne hi _ _)
  | sever => exact Or.inl rfl

/-! ## Connections and calls -/

/-- Nothing has been issued on a connection that is not active yet. -/
structure Unused (h : StreamRpcHandler Request Response Status) : Prop where
  next : ∀ {key c}, h.connections.next = some (key, c) → issued c.serial h.log = []
  future : ∀ {conn}, h.allocated ≤ conn → issued conn h.log = []

variable {h h' : StreamRpcHandler Request Response Status}

theorem Unused.initial : Unused (.initial : StreamRpcHandler Request Response Status) :=
  ⟨fun _ => rfl, fun _ => rfl⟩

/-- A section that allocates nothing, and issues nothing on such connections. -/
theorem Unused.keep (hu : Unused h)
    (hnext : ∀ {key c}, h'.connections.next = some (key, c) →
      ∃ c₀, h.connections.next = some (key, c₀) ∧ c₀.serial = c.serial)
    (hallocated : h'.allocated = h.allocated)
    (hissued : ∀ conn, (∀ key c, h.connections.active.lookup key = some c → c.serial ≠ conn) →
      issued conn h'.log = issued conn h.log) (hi : h.Inv) : Unused h' where
  next := by
    intro key c hn
    obtain ⟨c₀, hn₀, heq⟩ := hnext hn
    rw [← heq, hissued]
    · exact hu.next hn₀
    · intro key' c' ha hserial
      have hkey := hi.ownsInj (.active ha) (.next hn₀) hserial
      exact hi.nextKey hn₀ (hkey ▸ Map.mem_of_lookup ha)
  future := by
    intro conn hle
    rw [hallocated] at hle
    rw [hissued]
    · exact hu.future hle
    · rintro key c ha rfl
      exact absurd (hi.ownsSerial (.active ha)) (Nat.not_lt.mpr hle)

theorem Unused.activateNext {key tag : Addr} (hu : Unused h) : Unused (h.activateNext key tag) where
  next := by
    intro key' c hn
    rw [activateNext_next] at hn
    cases hn
    rw [issued_activateNext]
    exact hu.future (Nat.le_refl _)
  future := by
    intro conn hle
    rw [activateNext_allocated] at hle
    rw [issued_activateNext]
    exact hu.future (Nat.le_of_succ_le hle)

theorem Unused.send (hu : Unused h) (hi : h.Inv) {kind : OpKind Response Status}
    {recipients : Recipients} : Unused (h.send kind recipients).handler := by
  refine hu.keep (fun {key c} hn => ⟨c, send_next h _ _ ▸ hn, rfl⟩) (send_allocated h _ _) ?_ hi
  intro conn hactive
  have hissuing : Event.issuing conn
      (.call (h.callRecord kind recipients) : Event Request Response Status) = [] := by
    rw [Event.issuing, List.map_eq_nil_iff, List.filter_eq_nil_iff]
    intro q hq hconn
    obtain ⟨x, hx, rfl⟩ := List.mem_map.mp hq
    exact hactive _ _ (lookup_of_mem_targets hx) (of_decide_eq_true hconn)
  rw [send_log, issued_cons, hissuing]
  rfl

theorem Unused.step {a : StreamRpcHandler.Action Request Response Status} (hu : Unused h)
    (hi : h.Inv) (hs : h.Step a h') : Unused h' := by
  cases hs with
  | onConnect | onDelete =>
      exact hu.keep (fun hn => ⟨_, hn, rfl⟩) rfl (fun _ _ => rfl) hi
  | accept _ =>
      refine hu.keep (fun hn => ?_) rfl (fun _ _ => rfl) hi
      obtain ⟨⟨_, c₀⟩, hn₀, heq⟩ := Option.map_eq_some_iff.mp hn
      cases heq
      exact ⟨c₀, hn₀, rfl⟩
  | activateNext _ _ _ => exact hu.activateNext
  | write _ _ | finish _ _ => exact hu.send hi
  | deliver hdel hrun =>
      obtain ⟨-, ⟨-, heq⟩ | ⟨-, heq⟩⟩ := (StreamRpcHandler.Step.deliver hdel hrun).deliver_cases hi
      all_goals
        rw [heq]
        refine hu.keep (fun {_ c} hn => ⟨c, ?_, rfl⟩) ?_ (fun conn _ => ?_) hi
        · split at hn <;> exact hn
        · split <;> rfl
        · split <;> simp [issued_cons, Event.issuing]

/-- Which connections of the handler are bound to calls. -/
structure Bound (s : Streaming ι Request Response Status) : Prop where
  /-- A connection serves one call. -/
  unique : ∀ {p p' conn}, s.connection p = some conn → s.connection p' = some conn → p = p'
  allocated : ∀ {p conn}, s.connection p = some conn → conn < s.server.allocated
  waiting : ∀ {p key serial}, s.server.connections.next = some (key, ⟨serial, none⟩) →
    s.connection p ≠ some serial

theorem Bound.accept {request : Request} {key : Addr} {serial : Nat} {call : CallID ι}
    (hb : Bound s) (hi : s.server.Inv)
    (hn : s.server.connections.next = some (key, ⟨serial, none⟩)) :
    Bound { s with
      server := s.server.accept request
      connection := Function.update s.connection call (some serial) } := by
  have hcases : ∀ {p conn}, Function.update s.connection call (some serial) p = some conn →
      p = call ∧ conn = serial ∨ p ≠ call ∧ s.connection p = some conn := by
    intro p conn hp
    by_cases hcall : p = call
    · subst hcall
      rw [Function.update_self] at hp
      cases hp
      exact Or.inl ⟨rfl, rfl⟩
    · rw [Function.update_of_ne hcall] at hp
      exact Or.inr ⟨hcall, hp⟩
  refine ⟨?_, ?_, ?_⟩
  · intro p p' conn hp hp'
    rcases hcases hp with ⟨rfl, rfl⟩ | ⟨-, hold⟩
    · rcases hcases hp' with ⟨rfl, -⟩ | ⟨-, hold'⟩
      · rfl
      · exact absurd hold' (hb.waiting hn)
    · rcases hcases hp' with ⟨-, rfl⟩ | ⟨-, hold'⟩
      · exact absurd hold (hb.waiting hn)
      · exact hb.unique hold hold'
  · intro p conn hp
    rcases hcases hp with ⟨-, rfl⟩ | ⟨-, hp⟩
    · exact hi.ownsSerial (.next hn)
    · exact hb.allocated hp
  · intro p key' serial' hn'
    have hnext : (s.server.accept request).connections.next =
        some (key, ⟨serial, some request⟩) := by
      rw [StreamRpcHandler.accept, hn]
      rfl
    have heq := hnext.symm.trans hn'
    cases heq

omit [DecidableEq ι] in
theorem Bound.serve {a : StreamRpcHandler.Action Request Response Status}
    {channel : CallID ι → Channel Response Status} (hb : Bound s) (hi : s.server.Inv)
    (hs : s.server.Step a h') (haccept : ∀ request, a ≠ .accept request) :
    Bound { s with server := h', channel := channel } := by
  have hkeep : h'.allocated = s.server.allocated →
      h'.connections.next = s.server.connections.next →
      Bound { s with server := h', channel := channel } := by
    intro hallocated hnext
    refine ⟨hb.unique, fun hp => ?_, fun hn => hb.waiting (hnext ▸ hn)⟩
    exact hallocated ▸ hb.allocated hp
  cases hs with
  | onConnect | onDelete => exact hkeep rfl rfl
  | @accept _ _ request _ => exact absurd rfl (haccept request)
  | activateNext _ _ _ =>
      refine ⟨hb.unique, fun hp => ?_, fun {p _ _} hn hp => ?_⟩
      · rw [activateNext_allocated]
        exact Nat.lt_succ_of_lt (hb.allocated hp)
      · rw [activateNext_next] at hn
        cases hn
        exact Nat.lt_irrefl _ (hb.allocated hp)
  | write _ _ | finish _ _ => exact hkeep (send_allocated _ _ _) (send_next _ _ _)
  | deliver hdel hrun =>
      obtain ⟨-, ⟨-, heq⟩ | ⟨-, heq⟩⟩ := (StreamRpcHandler.Step.deliver hdel hrun).deliver_cases hi
      all_goals
        refine hkeep ?_ ?_
        · rw [heq]
          split <;> rfl
        · rw [heq]
          split <;> rfl

theorem Step.bound (hb : Bound s) (hi : s.server.Inv) (hs : Step s a s') : Bound s' := by
  cases hs with
  | serve haccept hstep => exact hb.serve hi hstep haccept
  | accept hn _ _ => exact hb.accept hi hn
  | client _ _ => exact ⟨hb.unique, hb.allocated, hb.waiting⟩
  | sever => exact ⟨hb.unique, hb.allocated, hb.waiting⟩

theorem StreamingReachable.bound (hr : s.StreamingReachable) : Bound s := by
  refine hr.invariant ⟨(fun hp => by cases hp), (fun hp => by cases hp), fun hn => by cases hn⟩ ?_
  intro s a s' hr hb hs
  exact hs.bound hb (HandlerReachable.inv (StreamingReachable.server hr))

theorem StreamingReachable.unused (hr : s.StreamingReachable) : Unused s.server :=
  (StreamingReachable.server hr).invariant .initial fun hr hu hs =>
    hu.step (HandlerReachable.inv hr) hs

/-! ## Running the model -/

section Perform

variable [DecidableEq Response] [DecidableEq Status]

instance (i : ι) : ∀ a, Decidable (s.Admits i a)
  | .read _ update =>
      inferInstanceAs (Decidable (∃ p ∈ s.reading i, (s.channel p).flight.head? = some update))
  | .readEnd _ => inferInstanceAs (Decidable (∃ p ∈ s.reading i, (s.channel p).Drained))
  | .finish _ status =>
      inferInstanceAs (Decidable (∃ p ∈ s.reading i,
        (s.channel p).cut ∨ (s.channel p).ending = some status))
  | .start _ | .openReader | .spawn | .assign | .stop | .cancel _ | .joined | .clear
  | .dispatch _ | .updated _ | .exit _ => .isTrue trivial

/-- The system after an action, or `none` when the action cannot be taken. -/
def perform (a : Action ι Request Response Status) (s : Streaming ι Request Response Status) :
    Option (Streaming ι Request Response Status) :=
  match a with
  | .serve (.accept _) => none
  | .serve a =>
      (StreamRpcHandler.perform a s.server).map fun h =>
        { s with server := h, channel := s.sentBy a }
  | .accept request call =>
      match s.server.connections.next with
      | some (_, ⟨serial, none⟩) =>
          if call.2 < (s.client call.1).opened ∧ s.connection call = none then
            some { s with
              server := s.server.accept request
              connection := Function.update s.connection call (some serial) }
          else none
      | _ => none
  | .client i a =>
      if s.Admits i a then
        (StreamLifecycle.perform a (s.client i)).map fun c =>
          { s with client := Function.update s.client i c, channel := s.readBy i a }
      else none
  | .sever call k =>
      some { s with channel := Function.update s.channel call ((s.channel call).sever k) }

theorem step_of_perform (hp : perform a s = some s') : Step s a s' := by
  unfold perform at hp
  split at hp
  · cases hp
  · rename_i haccept
    obtain ⟨h, hstep, rfl⟩ := Option.map_eq_some_iff.mp hp
    exact .serve (fun request heq => haccept request (heq ▸ rfl)) (step_iff_perform.mpr hstep)
  · split at hp
    · obtain ⟨⟨hopened, hcall⟩, heq⟩ := Option.ite_none_right_eq_some.mp hp
      cases heq
      exact .accept ‹_› hopened hcall
    · cases hp
  · obtain ⟨hadm, heq⟩ := Option.ite_none_right_eq_some.mp hp
    obtain ⟨c, hstep, rfl⟩ := Option.map_eq_some_iff.mp heq
    exact .client (StreamLifecycle.step_of_perform hstep) hadm
  · cases hp
    exact .sever

/-- The system after a script. -/
def streamed (script : List (Action ι Request Response Status)) :
    Streaming ι Request Response Status :=
  (replay perform initial [] script).2

theorem streamed_reachable (script : List (Action ι Request Response Status)) :
    (streamed script).StreamingReachable :=
  (Run.replay step_of_perform .start script).reachable

end Perform

end Streaming

end Grpcw.System
