import GrpcWrapper.Client.StreamStates
import Mathlib.Logic.Function.Basic

/-!
# The threads of a client

A stream that is streaming has a thread, which reads messages until there are
no more and passes each to `on_update_` if that is set at the time.  It takes no
lock.  `stop_stream` joins it, and so the two sections that stop streams, that of
a kill and that of the run thread for a state other than `READY`, are not one
step here: they take the lock, stop one stream after the other, and let the lock
go.  All other sections are one step of `GrpcClient`, taken while the lock is
free.

A callback may call `get_state` or `use_stub`.  Then its thread waits for the
lock before it goes on.  Which callbacks do is a parameter.

A client with its threads takes the steps of `GrpcClient` and no others
(`ThreadsReachable.client`).
-/

namespace Grpcw.Client

open Transition

variable {Message Status : Type}

/-! ## The thread of a stream -/

/-- Where the thread is in the function that `start_stream` gives it. -/
inductive StreamPhase (Message Status : Type) where
  /-- There is no thread, or it was joined. -/
  | none
  /-- In `Read`. -/
  | reading
  /-- Before the test of `on_update_`. -/
  | dispatching (update : Message)
  /-- In `on_update_`. -/
  | updating (update : Message)
  /-- In `Finish`. -/
  | finishing
  /-- In `on_finish_`. -/
  | finished (status : Status)
  | exited

/-- The thread of a stream and its history. -/
structure StreamThread (Message Status : Type) where
  phase : StreamPhase Message Status
  /-- The messages that `Read` returned. -/
  read : List Message
  /-- The messages that were passed to `on_update_`. -/
  passed : List Message

namespace StreamThread

/-- A stream that was never started. -/
def new : StreamThread Message Status where
  phase := .none
  read := []
  passed := []

/-- The message that is read and not dispatched. -/
def inHand (t : StreamThread Message Status) : List Message :=
  match t.phase with
  | .dispatching update => [update]
  | _ => []

end StreamThread

/-! ## Threads and callbacks -/

inductive Thread where
  | owner
  | run
  /-- The thread of the stream at an address. -/
  | stream (key : Nat)
deriving DecidableEq

/-- Which calls of the callbacks may call `get_state` or `use_stub`. -/
structure Callbacks (Message Status : Type) where
  connection : GrpcClientState → Prop
  onUpdate : Nat → Message → Prop
  onFinish : Nat → Status → Prop

namespace GrpcClient

/-- The actions that are sections. -/
def Action.locks : Action → Bool
  | .kill | .connect _ _ | .connectInProcess | .registerStream _ | .onStreamUpdate _
  | .onStreamFinish _ | .useStub | .handle _ => true
  | .call _ | .shutdownQueue | .join | .report | .start | .next _ | .exit | .runReport => false

/-- The thread whose callback returns with an action. -/
def Action.returns : Action → Option Thread
  | .report => some .owner
  | .runReport => some .run
  | _ => none

/-- The sections that stop the streams. -/
def Stops (c : GrpcClient) : Action → Prop
  | .kill => True
  | .handle x =>
      c.runThread = .joinable (.handling true) ∧ c.shared.channel.isSome ∧
        toCncClientState x ≠ c.getState ∧ x ≠ .ready
  | _ => False

/-- Whether `on_update_` of the stream at an address is set. -/
def updates (c : GrpcClient) (key : Nat) : Bool :=
  (c.shared.streams.lookup key).any GrpcClientStream.onUpdate

/-- Whether `on_finish_` of the stream at an address is set. -/
def finishes (c : GrpcClient) (key : Nat) : Bool :=
  (c.shared.streams.lookup key).any GrpcClientStream.onFinish

end GrpcClient

/-- A section that stops the streams and has the lock. -/
structure Stopping where
  action : GrpcClient.Action
  /-- The streams that are still to be stopped. -/
  left : List Nat
  /-- The first of them was cancelled and its thread is being joined. -/
  joining : Bool

/-- The thread that runs the section. -/
def Stopping.thread (w : Stopping) : Thread :=
  match w.action with
  | .handle _ => .run
  | _ => .owner

structure ClientThreads (Message Status : Type) where
  client : GrpcClient
  /-- The section that has the lock between two steps. -/
  lock : Option Stopping
  /-- The threads of the streams, by their addresses. -/
  streams : Nat → StreamThread Message Status
  /-- The threads that are in a call from a callback. -/
  asking : Thread → Bool

/-! ## Steps -/

namespace ClientThreads

def initial : ClientThreads Message Status where
  client := .initial
  lock := none
  streams := fun _ => .new
  asking := fun _ => false

/-- The thread of a stream goes on. -/
def move (key : Nat) (phase : StreamPhase Message Status) (s : ClientThreads Message Status) :
    ClientThreads Message Status :=
  { s with streams := Function.update s.streams key { s.streams key with phase := phase } }

/-- The threads after a section that may have started streams. -/
def started (c c' : GrpcClient) (streams : Nat → StreamThread Message Status) (key : Nat) :
    StreamThread Message Status :=
  if c.shared.streamingAt key ≠ some true ∧ c'.shared.streamingAt key = some true then
    { streams key with phase := .reading }
  else streams key

/-- A thread is in a callback that may call `get_state` or `use_stub`. -/
def MayAsk (calls : Callbacks Message Status) (s : ClientThreads Message Status) : Thread → Prop
  | .owner => ∃ state, s.client.owner = .reporting state ∧ calls.connection state
  | .run => ∃ state, s.client.runThread = .joinable (.reporting state) ∧ calls.connection state
  | .stream key =>
      (∃ update, (s.streams key).phase = .updating update ∧ calls.onUpdate key update) ∨
        ∃ status, (s.streams key).phase = .finished status ∧ calls.onFinish key status

inductive Action (Message Status : Type) where
  /-- An action outside the lock, or a whole section. -/
  | client (action : GrpcClient.Action)
  /-- A section that stops the streams takes the lock, and meets them in some
  order. -/
  | acquire (action : GrpcClient.Action) (order : List Nat)
  /-- A stream that is not streaming. -/
  | skip
  /-- `TryCancel` -/
  | cancel
  /-- `join` returns, for the thread of a stream. -/
  | joined
  /-- The section has stopped the streams. -/
  | release
  /-- `Read` returns a message. -/
  | read (key : Nat) (update : Message)
  /-- `Read` returns false. -/
  | readEnd (key : Nat)
  | dispatch (key : Nat)
  /-- `on_update_` returns. -/
  | updated (key : Nat)
  /-- `Finish` returns. -/
  | finish (key : Nat) (status : Status)
  /-- `on_finish_` returns. -/
  | exit (key : Nat)
  /-- A callback calls `get_state` or `use_stub`. -/
  | ask (thread : Thread)
  /-- The call has had the lock. -/
  | answer (thread : Thread)

inductive Step (calls : Callbacks Message Status) : ClientThreads Message Status →
    Action Message Status → ClientThreads Message Status → Prop where
  | client {s : ClientThreads Message Status} {a : GrpcClient.Action} {c : GrpcClient} :
      GrpcClient.Step s.client a c → ¬ s.client.Stops a → (a.locks = true → s.lock = none) →
      (∀ t, a.returns = some t → s.asking t = false) →
      Step calls s (.client a)
        { s with client := c, streams := started s.client c s.streams }
  | acquire {s : ClientThreads Message Status} {a : GrpcClient.Action} {c : GrpcClient}
      {order : List Nat} :
      GrpcClient.Step s.client a c → s.client.Stops a → s.lock = none →
      order.Perm s.client.shared.streams.keys →
      Step calls s (.acquire a order) { s with lock := some ⟨a, order, false⟩ }
  | skip {s : ClientThreads Message Status} {a : GrpcClient.Action} {key : Nat}
      {left : List Nat} :
      s.lock = some ⟨a, key :: left, false⟩ → s.client.shared.streamingAt key ≠ some true →
      Step calls s .skip { s with lock := some ⟨a, left, false⟩ }
  | cancel {s : ClientThreads Message Status} {a : GrpcClient.Action} {key : Nat}
      {left : List Nat} :
      s.lock = some ⟨a, key :: left, false⟩ → s.client.shared.streamingAt key = some true →
      Step calls s .cancel { s with lock := some ⟨a, key :: left, true⟩ }
  | joined {s : ClientThreads Message Status} {a : GrpcClient.Action} {key : Nat}
      {left : List Nat} :
      s.lock = some ⟨a, key :: left, true⟩ → (s.streams key).phase = .exited →
      Step calls s .joined (({ s with lock := some ⟨a, left, false⟩ } :
        ClientThreads Message Status).move key .none)
  | release {s : ClientThreads Message Status} {a : GrpcClient.Action} {c : GrpcClient} :
      s.lock = some ⟨a, [], false⟩ → GrpcClient.Step s.client a c →
      Step calls s .release { s with client := c, lock := none }
  | read {s : ClientThreads Message Status} {key : Nat} {update : Message} :
      (s.streams key).phase = .reading →
      Step calls s (.read key update)
        { s with
          streams := Function.update s.streams key
            { s.streams key with
              phase := .dispatching update
              read := (s.streams key).read ++ [update] } }
  | readEnd {s : ClientThreads Message Status} {key : Nat} :
      (s.streams key).phase = .reading → Step calls s (.readEnd key) (s.move key .finishing)
  /-- A message is dropped when `on_update_` is not set. -/
  | dispatch {s : ClientThreads Message Status} {key : Nat} {update : Message} :
      (s.streams key).phase = .dispatching update →
      Step calls s (.dispatch key)
        (if s.client.updates key then
          { s with
            streams := Function.update s.streams key
              { s.streams key with
                phase := .updating update
                passed := (s.streams key).passed ++ [update] } }
        else s.move key .reading)
  | updated {s : ClientThreads Message Status} {key : Nat} {update : Message} :
      (s.streams key).phase = .updating update → s.asking (.stream key) = false →
      Step calls s (.updated key) (s.move key .reading)
  | finish {s : ClientThreads Message Status} {key : Nat} {status : Status} :
      (s.streams key).phase = .finishing →
      Step calls s (.finish key status)
        (s.move key (if s.client.finishes key then .finished status else .exited))
  | exit {s : ClientThreads Message Status} {key : Nat} {status : Status} :
      (s.streams key).phase = .finished status → s.asking (.stream key) = false →
      Step calls s (.exit key) (s.move key .exited)
  | ask {s : ClientThreads Message Status} {t : Thread} :
      s.MayAsk calls t → s.asking t = false →
      Step calls s (.ask t) { s with asking := Function.update s.asking t true }
  | answer {s : ClientThreads Message Status} {t : Thread} :
      s.asking t = true → s.lock = none →
      Step calls s (.answer t) { s with asking := Function.update s.asking t false }

/-- The states of a client and its threads, from its construction on. -/
abbrev ThreadsReachable (calls : Callbacks Message Status) (s : ClientThreads Message Status) :
    Prop :=
  Reachable (Step calls) initial s

abbrev ThreadsRun (calls : Callbacks Message Status)
    (tr : List (ClientThreads Message Status × Action Message Status))
    (s : ClientThreads Message Status) : Prop :=
  Run (Step calls) initial tr s

variable {calls : Callbacks Message Status} {s s' : ClientThreads Message Status}
  {a : Action Message Status}

/-- A message is passed to `on_update_`. -/
theorem Step.pass {key : Nat} {update : Message}
    (hphase : (s.streams key).phase = .dispatching update) (hu : s.client.updates key = true) :
    Step calls s (.dispatch key)
      { s with
        streams := Function.update s.streams key
          { s.streams key with
            phase := .updating update
            passed := (s.streams key).passed ++ [update] } } := by
  have hs := @Step.dispatch _ _ calls _ _ _ hphase
  rw [if_pos hu] at hs
  exact hs

/-- A message is dropped. -/
theorem Step.drop {key : Nat} {update : Message}
    (hphase : (s.streams key).phase = .dispatching update) (hu : s.client.updates key = false) :
    Step calls s (.dispatch key) (s.move key .reading) := by
  have hs := @Step.dispatch _ _ calls _ _ _ hphase
  rw [if_neg (Bool.eq_false_iff.mp hu)] at hs
  exact hs

/-- The status is passed to `on_finish_`. -/
theorem Step.finishCall {key : Nat} {status : Status} (hphase : (s.streams key).phase = .finishing)
    (hf : s.client.finishes key = true) :
    Step calls s (.finish key status) (s.move key (.finished status)) := by
  have hs := @Step.finish _ _ calls _ _ status hphase
  rw [if_pos hf] at hs
  exact hs

/-- A step with threads is a step of the client or leaves it as it is. -/
theorem Step.client_eq (hs : Step calls s a s') :
    s'.client = s.client ∨ ∃ action, GrpcClient.Step s.client action s'.client := by
  cases hs with
  | client hs _ _ _ => exact Or.inr ⟨_, hs⟩
  | release _ hs => exact Or.inr ⟨_, hs⟩
  | dispatch _ =>
      refine Or.inl ?_
      split <;> rfl
  | acquire _ _ _ _ | skip _ _ | cancel _ _ | joined _ _ | read _ | readEnd _ | updated _ _
  | finish _ | exit _ _ | ask _ _ | answer _ _ => exact Or.inl rfl

theorem ThreadsReachable.client (hr : s.ThreadsReachable calls) : s.client.ClientReachable :=
  hr.map ClientThreads.client fun hs => hs.client_eq

end ClientThreads

/-! ## Which streams have a thread -/

/-- A loop that starts the streams leaves those that are streaming. -/
theorem SharedData.streamingAt_startStreams {d : SharedData} {x : ConnectivityState}
    {streams : Streams} {key : Nat} (hs : startStreams d.stub d.streams = some streams)
    (h : d.streamingAt key = some true) :
    streamingAt { d with connectionState := x, streams := streams } key = some true := by
  rw [startStreams] at hs
  split at hs
  · cases hs
    exact h
  · obtain ⟨stub, -, rfl⟩ := Option.map_eq_some_iff.mp hs
    obtain ⟨t, ht, -⟩ := Option.map_eq_some_iff.mp h
    rw [streamingAt_mapValues, ht, Option.map_some, GrpcClientStream.streaming_startStream]

namespace GrpcClient

variable {c c' : GrpcClient} {a : Action} {key : Nat}

/-- Outside the lock the shared data stays as it is. -/
theorem Step.shared_eq (hs : Step c a c') (ha : a.locks = false) : c'.shared = c.shared := by
  cases hs with
  | kill _ | connect _ | connectInProcess _ | registerStream _ _ _ | onStreamUpdate _
  | onStreamFinish _ | useStub | handle _ _ => cases ha
  | join _ _ => exact join_shared
  | call _ | shutdownQueue _ | report _ | start _ | next _ _ _ | exit _ _ | runReport _ => rfl

/-- A section that stops the streams stops them all. -/
theorem Step.not_streaming (hs : Step c a c') (ha : c.Stops a) : ¬ c'.shared.Streaming := by
  cases hs with
  | kill _ => exact SharedData.not_streaming_stopStreams
  | @handle resultOk x s ht hh =>
      obtain ⟨ht', hsome, hnew, hx⟩ := ha
      have hok : RunPhase.handling resultOk = .handling true :=
        RunThread.joinable.inj (ht.symm.trans ht')
      cases hok
      rw [handle_shared]
      cases handleEvent_cases hh with
      | observed _ _ ho =>
          cases ho with
          | same heq => exact absurd heq hnew
          | started _ hready _ => exact absurd hready hx
          | stopped _ _ => exact SharedData.not_streaming_stopStreams
      | deadline _ hok => cases hok
      | finished hnone _ | disconnected hnone _ =>
          rw [hnone] at hsome
          cases hsome
  | call _ | shutdownQueue _ | join _ _ | connect _ | connectInProcess _ | report _ | start _
  | registerStream _ _ _ | onStreamUpdate _ | onStreamFinish _ | useStub | next _ _ _ | exit _ _
  | runReport _ => exact ha.elim

/-- No other section stops a stream. -/
theorem Step.streaming (hs : Step c a c') (ha : ¬ c.Stops a)
    (h : c.shared.streamingAt key = some true) : c'.shared.streamingAt key = some true := by
  cases hs with
  | kill _ => exact absurd trivial ha
  | @handle resultOk x s ht hh =>
      rw [handle_shared]
      cases handleEvent_cases hh with
      | observed hsome hok ho =>
          cases ho with
          | same _ => exact h
          | started _ _ hstreams => exact SharedData.streamingAt_startStreams hstreams h
          | stopped hnew hx =>
              subst hok
              exact absurd ⟨ht, hsome, hnew, hx⟩ ha
      | deadline _ _ | finished _ _ | disconnected _ _ => exact h
  | registerStream _ hk hd =>
      obtain ⟨b, -, hstr⟩ := SharedData.streamingAt_registerStream hk hd
      rw [hstr, if_neg, h]
      intro heq
      rw [heq] at h
      obtain ⟨t, ht, -⟩ := Option.map_eq_some_iff.mp h
      exact hk (Map.mem_of_lookup ht)
  | onStreamUpdate _ =>
      rw [SharedData.streamingAt_onStreamUpdate]
      exact h
  | onStreamFinish _ =>
      rw [SharedData.streamingAt_onStreamFinish]
      exact h
  | join _ _ =>
      rw [join_shared]
      exact h
  | call _ | shutdownQueue _ | connect _ | connectInProcess _ | report _ | start _ | useStub
  | next _ _ _ | exit _ _ | runReport _ => exact h

/-- A section that stops the streams stays what it is while other threads take
steps outside the lock. -/
theorem Step.keeps_section {b : Action} {d : GrpcClient} (hstage : c.Stage) (hs : Step c a c')
    (ha : a.locks = false) (hb : c.Stops b) (hd : Step c b d) :
    c'.Stops b ∧ ∃ d, Step c' b d := by
  have hshared := hs.shared_eq ha
  cases hd with
  | kill ho =>
      refine ⟨trivial, ?_⟩
      cases hs with
      | call h | shutdownQueue h | join h _ | report h | start h => cases ho.symm.trans h
      | next _ _ _ | exit _ _ | runReport _ => exact ⟨_, .kill ho⟩
      | kill _ | connect _ | connectInProcess _ | registerStream _ _ _ | onStreamUpdate _
      | onStreamFinish _ | useStub | handle _ _ => cases ha
  | @handle resultOk x t ht hh =>
      have hthread : c'.runThread = c.runThread := by
        cases hs with
        | call _ | shutdownQueue _ | report _ => rfl
        | join _ hj => cases hj _ ht
        | start ho => exact absurd ⟨_, ht⟩ (hstage.of_opening (by rw [ho]; rfl)).thread
        | next h _ _ | exit h _ | runReport h => cases ht.symm.trans h
        | kill _ | connect _ | connectInProcess _ | registerStream _ _ _ | onStreamUpdate _
        | onStreamFinish _ | useStub | handle _ _ => cases ha
      refine ⟨?_, _, .handle (hthread.trans ht) (by rw [hshared]; exact hh)⟩
      rw [Stops, hthread, getState, hshared]
      exact hb
  | call _ | shutdownQueue _ | join _ _ | connect _ | connectInProcess _ | report _ | start _
  | registerStream _ _ _ | onStreamUpdate _ | onStreamFinish _ | useStub | next _ _ _ | exit _ _
  | runReport _ => exact hb.elim

end GrpcClient

namespace ClientThreads

variable {calls : Callbacks Message Status} {s s' : ClientThreads Message Status}
  {a : Action Message Status} {key : Nat} {phase : StreamPhase Message Status}

/-- The section that has the lock is one that stops the streams, and can come to
its end. -/
structure SectionInv (s : ClientThreads Message Status) : Prop where
  stops : ∀ w, s.lock = some w → s.client.Stops w.action
  ends : ∀ w, s.lock = some w → ∃ c, GrpcClient.Step s.client w.action c
  nodup : ∀ w, s.lock = some w → w.left.Nodup

theorem SectionInv.of_free (hlock : s.lock = none) : s.SectionInv := by
  refine ⟨?_, ?_, ?_⟩ <;>
  · intro w hw
    cases hlock.symm.trans hw

/-- The section goes on. -/
theorem SectionInv.of_lock {w w' : Stopping} (h : s.SectionInv) (hlock : s.lock = some w)
    (hlock' : s'.lock = some w') (hclient : s'.client = s.client)
    (haction : w'.action = w.action) (hleft : w'.left.Sublist w.left) : s'.SectionInv where
  stops := by
    intro v hv
    cases hlock'.symm.trans hv
    rw [hclient, haction]
    exact h.stops w hlock
  ends := by
    intro v hv
    cases hlock'.symm.trans hv
    rw [hclient, haction]
    exact h.ends w hlock
  nodup := by
    intro v hv
    cases hlock'.symm.trans hv
    exact (h.nodup w hlock).sublist hleft

theorem SectionInv.congr (h : s.SectionInv) (hclient : s'.client = s.client)
    (hlock : s'.lock = s.lock) : s'.SectionInv where
  stops := by
    rw [hclient, hlock]
    exact h.stops
  ends := by
    rw [hclient, hlock]
    exact h.ends
  nodup := by
    rw [hlock]
    exact h.nodup

/-- A step of the client that is taken while a section has the lock is outside
the lock. -/
theorem locks_eq_false {w : Stopping} {action : GrpcClient.Action} (hw : s.lock = some w)
    (hlock : action.locks = true → s.lock = none) : action.locks = false := by
  refine Bool.eq_false_iff.mpr fun ha => ?_
  rw [hlock ha] at hw
  cases hw

theorem SectionInv.step (h : s.SectionInv) (hr : s.client.ClientReachable)
    (hs : Step calls s a s') : s'.SectionInv := by
  cases hs with
  | @client a c hs _ hlock _ =>
      have hkeep : ∀ w, s.lock = some w →
          c.Stops w.action ∧ ∃ d, GrpcClient.Step c w.action d := by
        intro w hw
        obtain ⟨d, hd⟩ := h.ends w hw
        exact hs.keeps_section (GrpcClient.ClientReachable.stage hr) (locks_eq_false hw hlock)
          (h.stops w hw) hd
      exact ⟨fun w hw => (hkeep w hw).1, fun w hw => (hkeep w hw).2, h.nodup⟩
  | acquire hs hstop _ hperm =>
      refine ⟨?_, ?_, ?_⟩
      · intro w hw
        cases hw
        exact hstop
      · intro w hw
        cases hw
        exact ⟨_, hs⟩
      · intro w hw
        cases hw
        exact hperm.nodup_iff.mpr (AList.keys_nodup _)
  | skip hlock _ => exact h.of_lock hlock rfl rfl rfl (List.sublist_cons_self _ _)
  | cancel hlock _ => exact h.of_lock hlock rfl rfl rfl (List.Sublist.refl _)
  | joined hlock _ => exact h.of_lock hlock rfl rfl rfl (List.sublist_cons_self _ _)
  | release _ _ => exact .of_free rfl
  | dispatch _ => split <;> exact h.congr rfl rfl
  | read _ | readEnd _ | updated _ _ | finish _ | exit _ _ | ask _ _ | answer _ _ =>
      exact h.congr rfl rfl

theorem ThreadsReachable.sectionInv (hr : s.ThreadsReachable calls) : s.SectionInv :=
  hr.invariant (.of_free rfl) fun hr h hs => h.step (ThreadsReachable.client hr) hs

@[simp] theorem move_phase : ((s.move key phase).streams key).phase = phase := by
  simp [move]

theorem move_of_ne {key' : Nat} (hne : key' ≠ key) :
    (s.move key phase).streams key' = s.streams key' :=
  Function.update_of_ne hne _ _

theorem started_of_streaming {c c' : GrpcClient} {streams : Nat → StreamThread Message Status}
    (h : c.shared.streamingAt key = some true) : started c c' streams key = streams key :=
  if_neg fun hst => hst.1 h

/-- The streams that are streaming have a thread, and no others, but for those
that a section which stops the streams is through with. -/
structure ThreadInv (s : ClientThreads Message Status) : Prop where
  streaming : ∀ key, s.client.shared.streamingAt key ≠ some true →
    (s.streams key).phase = .none
  stopped : ∀ w, s.lock = some w → ∀ key ∉ w.left, (s.streams key).phase = .none
  running : ∀ key, s.client.shared.streamingAt key = some true →
    (∀ w, s.lock = some w → key ∈ w.left) → (s.streams key).phase ≠ .none

theorem ThreadInv.initial : (initial : ClientThreads Message Status).ThreadInv where
  streaming := fun _ _ => rfl
  stopped := fun _ h => by cases h
  running := fun _ h => by cases h

/-- The threads that there are go on. -/
theorem ThreadInv.of_phase (h : s.ThreadInv) (hclient : s'.client = s.client)
    (hlock : s'.lock = s.lock)
    (hphase : ∀ key, (s'.streams key).phase = .none ↔ (s.streams key).phase = .none) :
    s'.ThreadInv where
  streaming := by
    intro key hstr
    rw [hclient] at hstr
    exact (hphase key).mpr (h.streaming key hstr)
  stopped := by
    intro w hw key hm
    rw [hlock] at hw
    exact (hphase key).mpr (h.stopped w hw key hm)
  running := by
    intro key hstr hleft hnone
    rw [hclient] at hstr
    rw [hlock] at hleft
    exact h.running key hstr hleft ((hphase key).mp hnone)

/-- The thread of one stream goes on. -/
theorem ThreadInv.update {t : StreamThread Message Status} (h : s.ThreadInv)
    (hne : (s.streams key).phase ≠ .none) (ht : t.phase ≠ .none) :
    ThreadInv { s with streams := Function.update s.streams key t } := by
  exact h.of_phase rfl rfl <|
    (Function.forall_update_iff s.streams fun key t =>
      t.phase = .none ↔ (s.streams key).phase = .none).mpr
        ⟨iff_of_false ht hne, fun _ _ => Iff.rfl⟩

theorem ThreadInv.client {c : GrpcClient} {action : GrpcClient.Action} (h : s.ThreadInv)
    (hs : GrpcClient.Step s.client action c) (hstop : ¬ s.client.Stops action)
    (hlock : action.locks = true → s.lock = none) :
    ThreadInv { s with client := c, streams := started s.client c s.streams } where
  streaming := by
    intro key hstr
    have hbefore : s.client.shared.streamingAt key ≠ some true :=
      fun heq => hstr (hs.streaming hstop heq)
    show (started s.client c s.streams key).phase = .none
    rw [started, if_neg fun hst => hstr hst.2]
    exact h.streaming key hbefore
  stopped := by
    intro w hw key hm
    show (started s.client c s.streams key).phase = .none
    rw [started, hs.shared_eq (locks_eq_false hw hlock), if_neg fun hst => hst.1 hst.2]
    exact h.stopped w hw key hm
  running := by
    intro key hstr hleft
    show (started s.client c s.streams key).phase ≠ .none
    rw [started]
    split
    · nofun
    · rename_i hnew
      refine h.running key ?_ hleft
      by_contra hbefore
      exact hnew ⟨hbefore, hstr⟩

/-- A section that stops the streams begins. -/
theorem ThreadInv.acquire {action : GrpcClient.Action} {order : List Nat} (h : s.ThreadInv)
    (hfree : s.lock = none) (hperm : order.Perm s.client.shared.streams.keys) :
    ThreadInv { s with lock := some ⟨action, order, false⟩ } where
  streaming := h.streaming
  stopped := by
    intro w hw key hm
    cases hw
    refine h.streaming key fun hstr => hm (hperm.mem_iff.mpr ?_)
    obtain ⟨t, ht, -⟩ := Option.map_eq_some_iff.mp hstr
    exact AList.mem_keys.mpr (Map.mem_of_lookup ht)
  running := by
    intro key hstr _
    refine h.running key hstr fun w hw => ?_
    cases hfree.symm.trans hw

/-- It passes a stream that is not streaming. -/
theorem ThreadInv.skip {action : GrpcClient.Action} {left : List Nat} (h : s.ThreadInv)
    (hlock : s.lock = some ⟨action, key :: left, false⟩)
    (hstr : s.client.shared.streamingAt key ≠ some true) :
    ThreadInv { s with lock := some ⟨action, left, false⟩ } where
  streaming := h.streaming
  stopped := by
    intro w hw key' hm
    cases hw
    by_cases heq : key' = key
    · rw [heq]
      exact h.streaming key hstr
    · exact h.stopped _ hlock key' (List.not_mem_cons_of_ne_of_not_mem heq hm)
  running := by
    intro key' hstr' hleft
    refine h.running key' hstr' fun w hw => ?_
    cases hlock.symm.trans hw
    exact List.mem_cons_of_mem key (hleft _ rfl)

/-- It has joined the thread of a stream. -/
theorem ThreadInv.joined {action : GrpcClient.Action} {left : List Nat} (h : s.ThreadInv)
    (hlock : s.lock = some ⟨action, key :: left, true⟩) (hnodup : (key :: left).Nodup) :
    ThreadInv (({ s with lock := some ⟨action, left, false⟩ } :
      ClientThreads Message Status).move key .none) where
  streaming := by
    intro key' hstr
    by_cases heq : key' = key
    · rw [heq, move_phase]
    · rw [move_of_ne heq]
      exact h.streaming key' hstr
  stopped := by
    intro w hw key' hm
    cases hw
    by_cases heq : key' = key
    · rw [heq, move_phase]
    · rw [move_of_ne heq]
      exact h.stopped _ hlock key' (List.not_mem_cons_of_ne_of_not_mem heq hm)
  running := by
    intro key' hstr' hleft
    have hm : key' ∈ left := hleft _ rfl
    have hne : key' ≠ key := by
      intro heq
      rw [heq] at hm
      exact (List.nodup_cons.mp hnodup).1 hm
    rw [move_of_ne hne]
    refine h.running key' hstr' fun w hw => ?_
    cases hlock.symm.trans hw
    exact List.mem_cons_of_mem key hm

theorem ThreadInv.step (h : s.ThreadInv) (hsec : s.SectionInv) (hs : Step calls s a s') :
    s'.ThreadInv := by
  cases hs with
  | client hs hstop hlock _ => exact h.client hs hstop hlock
  | acquire _ _ hfree hperm => exact h.acquire hfree hperm
  | skip hlock hstr => exact h.skip hlock hstr
  | @cancel a key left hlock _ =>
      refine ⟨h.streaming, ?_, ?_⟩
      · intro w hw key' hm
        cases hw
        exact h.stopped _ hlock key' hm
      · intro key' hstr' hleft
        have hm : key' ∈ key :: left := hleft _ rfl
        refine h.running key' hstr' fun w hw => ?_
        cases hlock.symm.trans hw
        exact hm
  | joined hlock _ => exact h.joined hlock (hsec.nodup _ hlock)
  | release hlock hs =>
      refine ⟨fun key _ => h.stopped _ hlock key List.not_mem_nil, ?_, ?_⟩
      · intro w hw
        cases hw
      · intro key hstr _
        exact absurd ⟨key, hstr⟩ (hs.not_streaming (hsec.stops _ hlock))
  | read hphase | readEnd hphase | updated hphase _ | exit hphase _ =>
      exact h.update (by rw [hphase]; nofun) nofun
  | finish hphase =>
      refine h.update (by rw [hphase]; nofun) ?_
      show (if s.client.finishes _ then StreamPhase.finished _ else .exited) ≠ .none
      split <;> nofun
  | dispatch hphase =>
      split <;> exact h.update (by rw [hphase]; nofun) nofun
  | ask _ _ | answer _ _ => exact h.of_phase rfl rfl fun _ => Iff.rfl

theorem ThreadsReachable.threadInv (hr : s.ThreadsReachable calls) : s.ThreadInv :=
  hr.invariant .initial fun hr h hs => h.step (ThreadsReachable.sectionInv hr) hs

/-! ## A client with a stream -/

/-- A client that has an in-process server and has registered a stream, whose
thread is in `Read`. -/
structure Registered (s : ClientThreads Message Status) (key : Nat) : Prop where
  owner : s.client.owner = .idle
  keys : s.client.shared.streams.keys = [key]
  streaming : s.client.shared.streamingAt key = some true
  updates : s.client.updates key = false
  lock : s.lock = none
  thread : s.streams key = { phase := .reading, read := [], passed := [] }
  asking : ∀ t, s.asking t = false

theorem Registered.mem (h : s.Registered key) : key ∈ s.client.shared.streams :=
  AList.mem_keys.mpr (by rw [h.keys]; exact List.mem_singleton_self key)

theorem exists_registered (calls : Callbacks Message Status) (key : Nat) :
    ∃ tr s, ThreadsRun calls tr s ∧ Registered s key ∧
      ∀ p ∈ tr, ∀ key, p.2 ≠ .client (.onStreamUpdate key) := by
  have r : ThreadsRun calls [] initial := .start
  have r := r.step (.client (@GrpcClient.Step.call _ (.changeServerInProcess (some 1)) rfl) id
    nofun nofun)
  have r := r.step (.acquire (.kill rfl) trivial rfl (List.Perm.refl []))
  have r := r.step (.release rfl (.kill rfl))
  have r := r.step (.client (.shutdownQueue rfl) id nofun nofun)
  have r := r.step (.client (.join rfl nofun) id nofun nofun)
  have r := r.step (.client (.connectInProcess rfl) id (fun _ => rfl) nofun)
  have r := r.step (.client (@GrpcClient.Step.registerStream _ key _ rfl (AList.notMem_empty key)
    rfl) id (fun _ => rfl) nofun)
  have hlookup : AList.lookup key ((∅ : Streams).emplace key (GrpcClientStream.new.startStream
      (newStub (some 1)))) = some (GrpcClientStream.new.startStream (newStub (some 1))) := by
    rw [Map.lookup_emplace (AList.notMem_empty key), if_pos rfl]
  have hstreaming := congrArg (Option.map GrpcClientStream.streaming) hlookup
  refine ⟨_, _, r, ⟨rfl, rfl, hstreaming, congrArg (Option.any GrpcClientStream.onUpdate) hlookup,
    rfl, ?_, fun _ => rfl⟩, ?_⟩
  · exact if_pos ⟨nofun, hstreaming⟩
  · simp only [List.forall_mem_cons]
    refine ⟨?_, ?_, ?_, ?_, ?_, ?_, ?_, ?_⟩ <;>
    · intro _ h
      cases h

end ClientThreads

end Grpcw.Client
