import GrpcWrapper.Client.Stage
import GrpcWrapper.Client.StubSafety

/-!
# When streams stream

Streams are started when they are registered with a connected client and when
the run thread reads `READY`.  They are stopped by a kill and when the run
thread reads another state.  So a stream is streaming only with a live channel
in the state `READY` (`reachable_streamsConnected`).

The converse is what the user wants, that with such a channel all streams are
streaming.  It fails for the streams that are registered before a
`change_server` which connects at once: neither form of it starts streams, and
the run thread sees no change (`streamsRunning_iff`).
-/

namespace Grpcw.Client

open Transition

namespace SharedData

/-- Whether the stream at an address is streaming. -/
def streamingAt (d : SharedData) (key : Nat) : Option Bool :=
  (d.streams.lookup key).map GrpcClientStream.streaming

/-- Some registered stream is streaming. -/
def Streaming (d : SharedData) : Prop := ∃ key, d.streamingAt key = some true

/-- All registered streams are streaming. -/
def AllStreaming (d : SharedData) : Prop := ∀ key, d.streamingAt key ≠ some false

variable {d d' : SharedData} {streams : Streams} {key : Nat}

theorem streamingAt_mapValues {x : ConnectivityState} {channel : Option Channel}
    {stub : Option Stub} (f : GrpcClientStream → GrpcClientStream) :
    streamingAt ⟨x, channel, stub, streams.mapValues f⟩ key =
      (streams.lookup key).map fun s => (f s).streaming := by
  rw [streamingAt, Map.lookup_mapValues, Option.map_map]
  rfl

theorem not_streaming_stopStreams {x : ConnectivityState} {channel : Option Channel}
    {stub : Option Stub} : ¬ Streaming ⟨x, channel, stub, stopStreams streams⟩ := by
  intro ⟨key, hs⟩
  rw [stopStreams, streamingAt_mapValues] at hs
  obtain ⟨s, -, heq⟩ := Option.map_eq_some_iff.mp hs
  rw [GrpcClientStream.streaming_stopStream] at heq
  cases heq

theorem allStreaming_startStreams {x : ConnectivityState} {channel : Option Channel}
    {stub stub' : Option Stub} {streams' : Streams}
    (h : startStreams stub streams = some streams') :
    AllStreaming ⟨x, channel, stub', streams'⟩ := by
  intro key hs
  rw [startStreams] at h
  split at h
  · rename_i hnil
    cases h
    have hempty : streams = ∅ := AList.ext hnil
    rw [hempty] at hs
    cases hs
  · obtain ⟨t, -, rfl⟩ := Option.map_eq_some_iff.mp h
    rw [streamingAt_mapValues] at hs
    obtain ⟨s, -, heq⟩ := Option.map_eq_some_iff.mp hs
    rw [GrpcClientStream.streaming_startStream] at heq
    cases heq

/-- A new stream is streaming if the client is connected. -/
theorem streamingAt_registerStream (hk : key ∉ d.streams)
    (hd : d.registerStream key = some d') :
    ∃ b, (b = true ↔ d.channel.isSome ∧ d.connectionState = .ready) ∧
      ∀ key', d'.streamingAt key' = if key' = key then some b else d.streamingAt key' := by
  have hemplace : ∀ (s : GrpcClientStream) (key' : Nat),
      ((d.streams.emplace key s).lookup key').map GrpcClientStream.streaming =
        if key' = key then some s.streaming else d.streamingAt key' := by
    intro s key'
    rw [Map.lookup_emplace hk]
    split <;> rfl
  rw [registerStream] at hd
  split at hd
  · rename_i hready
    obtain ⟨t, -, rfl⟩ := Option.map_eq_some_iff.mp hd
    exact ⟨_, iff_of_true (GrpcClientStream.streaming_startStream t _) hready, hemplace _⟩
  · rename_i hready
    cases hd
    have hnew : GrpcClientStream.new.streaming = false := rfl
    exact ⟨_, iff_of_false (by rw [hnew]; decide) hready, hemplace _⟩

/-- Changing a stream's callbacks leaves alone which streams are streaming. -/
theorem streamingAt_insert {s s' : GrpcClientStream} (hl : d.streams.lookup key = some s)
    (hs : s'.streaming = s.streaming) :
    streamingAt { d with streams := d.streams.insert key s' } = d.streamingAt := by
  funext key'
  rw [streamingAt, streamingAt]
  by_cases heq : key' = key
  · subst heq
    rw [AList.lookup_insert, hl, Option.map_some, Option.map_some, hs]
  · rw [AList.lookup_insert_ne heq]

theorem streamingAt_onStreamUpdate : (d.onStreamUpdate key).streamingAt = d.streamingAt := by
  rw [onStreamUpdate]
  split
  · rename_i s hl
    exact streamingAt_insert hl rfl
  · rfl

theorem streamingAt_onStreamFinish : (d.onStreamFinish key).streamingAt = d.streamingAt := by
  rw [onStreamFinish]
  split
  · rename_i s hl
    exact streamingAt_insert hl rfl
  · rfl

theorem Streaming.congr (h : d.Streaming) (heq : d.streamingAt = d'.streamingAt) :
    d'.Streaming := by
  rw [Streaming, ← heq]
  exact h

theorem AllStreaming.congr (h : d.AllStreaming) (heq : d.streamingAt = d'.streamingAt) :
    d'.AllStreaming := by
  rw [AllStreaming, ← heq]
  exact h

end SharedData

/-- A call of `change_server` is in progress. -/
def OwnerPhase.changing : OwnerPhase → Bool
  | .idle => false
  | .killing call | .shuttingDown call | .joining call => call != .kill
  | .connecting | .connectingInProcess _ | .reporting _ | .starting => true

namespace GrpcClient

variable {c c' : GrpcClient} {a : Action}

/-! ## One step -/

/-- A stream is streaming only with a channel that is ready, and none is before
the run thread starts. -/
structure StreamInv (c : GrpcClient) : Prop where
  connected : c.shared.Streaming → c.shared.channel.isSome ∧ c.shared.connectionState = .ready
  opening : c.owner.place = .opening → ¬ c.shared.Streaming

theorem StreamInv.initial : StreamInv initial where
  connected := by
    intro ⟨key, hs⟩
    cases hs
  opening := nofun

/-- Without a channel no stream is streaming. -/
theorem StreamInv.not_streaming (h : c.StreamInv) (hnone : c.shared.channel = none) :
    ¬ c.shared.Streaming := by
  intro hs
  have hsome := (h.connected hs).1
  rw [hnone] at hsome
  cases hsome

/-- Steps that leave the channel, the state and the streams alone. -/
theorem StreamInv.congr (h : c.StreamInv) (hchannel : c'.shared.channel = c.shared.channel)
    (hstate : c'.shared.connectionState = c.shared.connectionState)
    (hstreams : c'.shared.streamingAt = c.shared.streamingAt)
    (hplace : c'.owner.place = .opening → c.owner.place = .opening) : c'.StreamInv where
  connected := by
    intro hs
    rw [hchannel, hstate]
    exact h.connected (hs.congr hstreams)
  opening := by
    intro hp hs
    exact h.opening (hplace hp) (hs.congr hstreams)

/-- A section leaves no stream streaming. -/
theorem StreamInv.of_not (h : ¬ c.shared.Streaming) : c.StreamInv where
  connected := fun hs => absurd hs h
  opening := fun _ => h

theorem StreamInv.handle {resultOk : Bool} {x : ConnectivityState} {s : SharedData.Handled}
    (h : c.StreamInv) (hstage : c.Stage) (ht : c.runThread = .joinable (.handling resultOk))
    (hs : HandledAs c.shared resultOk x s) : StreamInv (c.handle resultOk x s) := by
  have howner : (c.handle resultOk x s).owner.place ≠ .opening := by
    rw [handle_owner]
    rcases hstage.of_joinable ht with ⟨n, hopen⟩ | ⟨q, hclosing⟩
    · rw [hopen.place]
      decide
    · rw [hclosing.place]
      decide
  refine ⟨?_, fun hp => absurd hp howner⟩
  rw [handle_shared]
  cases hs with
  | observed hsome _ ho =>
      cases ho with
      | same heq =>
          intro hstr
          have hready := (h.connected hstr).2
          rw [hready] at heq
          exact ⟨hsome, toCncClientState_connected.mp heq⟩
      | started _ hready _ => exact fun _ => ⟨hsome, hready⟩
      | stopped _ _ => exact fun hstr => absurd hstr SharedData.not_streaming_stopStreams
  | deadline _ _ | finished _ _ => exact h.connected
  | disconnected hnone _ => exact fun hstr => absurd hstr (h.not_streaming hnone)

theorem StreamInv.registerStream {key : Nat} {d : SharedData} (h : c.StreamInv)
    (ho : c.owner = .idle) (hk : key ∉ c.shared.streams)
    (hd : c.shared.registerStream key = some d) : StreamInv { c with shared := d } := by
  obtain ⟨-, hchannel, hstate⟩ := registerStream_pointers hd
  obtain ⟨b, hb, hstr⟩ := SharedData.streamingAt_registerStream hk hd
  refine ⟨?_, by rw [ho]; nofun⟩
  intro ⟨key', hs⟩
  rw [hchannel, hstate]
  rw [hstr] at hs
  split at hs
  · exact hb.mp (Option.some.inj hs)
  · exact h.connected ⟨key', hs⟩

theorem StreamInv.step (h : c.StreamInv) (hstage : c.Stage) (hs : Step c a c') :
    c'.StreamInv := by
  cases hs with
  | call _ | shutdownQueue _ | next _ _ _ | exit _ _ | runReport _ | useStub =>
      exact h.congr rfl rfl rfl (by first | exact id | nofun)
  | join ho hj =>
      refine .of_not ?_
      rw [join_shared]
      exact h.not_streaming (hstage.of_join ho hj).2.1
  | kill _ => exact .of_not SharedData.not_streaming_stopStreams
  | connect ho =>
      have hc := hstage.of_connecting (by rw [ho]; rfl)
      exact .of_not (h.not_streaming hc.channel)
  | connectInProcess ho =>
      have hc := hstage.of_connectingInProcess (by rw [ho]; rfl)
      exact .of_not (h.not_streaming hc.channel)
  | report ho => exact .of_not (h.opening (by rw [ho]; rfl))
  | start ho => exact .of_not (h.opening (by rw [ho]; rfl))
  | registerStream ho hk hd => exact h.registerStream ho hk hd
  | onStreamUpdate ho =>
      obtain ⟨-, hchannel, hstate⟩ := onStreamUpdate_pointers (d := c.shared) _
      exact h.congr hchannel hstate SharedData.streamingAt_onStreamUpdate id
  | onStreamFinish ho =>
      obtain ⟨-, hchannel, hstate⟩ := onStreamFinish_pointers (d := c.shared) _
      exact h.congr hchannel hstate SharedData.streamingAt_onStreamFinish id
  | handle ht hh => exact h.handle hstage ht (handleEvent_cases hh)

theorem ClientReachable.streamInv (hr : c.ClientReachable) : c.StreamInv :=
  hr.invariant .initial fun hr h hs => h.step (ClientReachable.stage hr) hs

/-! ## No stream without a connection -/

/-- A stream is streaming only with a channel that is ready, and no section
starts one with a null stub. -/
structure StreamsConnected (c : GrpcClient) : Prop where
  connected : ∀ key s, c.shared.streams.lookup key = some s → s.streaming = true →
    c.shared.channel.isSome ∧ c.shared.stub.isSome ∧ c.shared.connectionState = .ready
  registers : ∀ key, (c.shared.registerStream key).isSome
  handles : ∀ resultOk x, (c.shared.handleEvent resultOk x).isSome

/-- With a stub for its channel, no section follows a null stub. -/
theorem isSome_registerStream {d : SharedData} (h : d.channel.isSome → d.stub.isSome)
    (key : Nat) : (d.registerStream key).isSome := by
  rw [SharedData.registerStream]
  split
  · rename_i hready
    rw [Option.isSome_map]
    exact h hready.1
  · rfl

theorem isSome_handleEvent {d : SharedData} (h : d.channel.isSome → d.stub.isSome)
    (resultOk : Bool) (x : ConnectivityState) : (d.handleEvent resultOk x).isSome := by
  rw [SharedData.handleEvent]
  split
  · rename_i channel hchannel
    have hstub : d.stub.isSome := h (by rw [hchannel]; rfl)
    split
    · rw [SharedData.observe]
      split
      · rfl
      · split
        · rw [Option.isSome_map, SharedData.startStreams]
          split
          · rfl
          · rw [Option.isSome_map]
            exact hstub
        · rfl
    · rfl
  · split <;> rfl

theorem reachable_streamsConnected (hr : c.ClientReachable) : c.StreamsConnected where
  connected := by
    intro key s hl hs
    have hstreaming : c.shared.Streaming := ⟨key, by rw [SharedData.streamingAt, hl, ← hs]; rfl⟩
    obtain ⟨hchannel, hready⟩ := (ClientReachable.streamInv hr).connected hstreaming
    exact ⟨hchannel, ClientReachable.stubWithChannel hr hchannel, hready⟩
  registers := isSome_registerStream (ClientReachable.stubWithChannel hr)
  handles := isSome_handleEvent (ClientReachable.stubWithChannel hr)

/-- An in-process client registers a stream. -/
def registeredInProcess : List Action :=
  [.call (.changeServerInProcess (some 1)), .kill, .shutdownQueue, .join, .connectInProcess,
    .registerStream 5]

theorem reachable_streamsConnected_registered :
    (played registeredInProcess).2.shared.streamingAt 5 = some true ∧
      (played registeredInProcess).2.StreamsConnected :=
  ⟨by decide, reachable_streamsConnected (played_run registeredInProcess).reachable⟩

/-! ## Every stream with a connection -/

/-- Unless the server is being changed, all streams are streaming when the
client is connected. -/
def StreamsRunning (c : GrpcClient) : Prop :=
  c.owner.changing = false → c.shared.channel.isSome → c.shared.connectionState = .ready →
    c.shared.AllStreaming

/-- No stream is registered when `change_server` makes a connection that is
ready: an in-process one, or one to an address whose channel was read as
`READY`. -/
def RunningGuard (c : GrpcClient) : Action → Prop
  | .connectInProcess => ∀ channel, c.owner = .connectingInProcess (some channel) →
      c.shared.streams.entries = []
  | .start => c.shared.connectionState = .ready → c.shared.streams.entries = []
  | _ => True

instance {c : GrpcClient} : ∀ a, Decidable (RunningGuard c a)
  | .connectInProcess =>
      match ho : c.owner with
      | .connectingInProcess (some channel) =>
          decidable_of_iff (c.shared.streams.entries = [])
            ⟨fun h _ _ => h, fun h => h channel ho⟩
      | .connectingInProcess none => .isTrue fun channel heq => by rw [ho] at heq; cases heq
      | .idle | .killing _ | .shuttingDown _ | .joining _ | .connecting | .reporting _
      | .starting => .isTrue fun channel heq => by rw [ho] at heq; cases heq
  | .start =>
      inferInstanceAs (Decidable (c.shared.connectionState = .ready →
        c.shared.streams.entries = []))
  | .call _ | .kill | .shutdownQueue | .join | .connect .. | .report | .registerStream _
  | .onStreamUpdate _ | .onStreamFinish _ | .useStub | .next _ | .exit | .handle _
  | .runReport => .isTrue trivial

/-- When no stream is streaming, all are only if there are none. -/
theorem allStreaming_iff {d : SharedData} (h : ¬ d.Streaming) :
    d.AllStreaming ↔ d.streams.entries = [] := by
  refine ⟨?_, ?_⟩
  · intro hall
    have hkeys : d.streams.keys = [] := by
      refine List.eq_nil_iff_forall_not_mem.mpr fun key hk => ?_
      obtain ⟨s, hl⟩ := Map.mem_iff_lookup.mp (AList.mem_keys.mpr hk)
      have hstr : d.streamingAt key = some s.streaming := by
        rw [SharedData.streamingAt, hl]
        rfl
      cases hs : s.streaming with
      | true => exact h ⟨key, hstr.trans (congrArg some hs)⟩
      | false => exact hall key (hstr.trans (congrArg some hs))
    exact List.map_eq_nil_iff.mp hkeys
  · intro hnil key hs
    have hempty : d.streams = ∅ := AList.ext hnil
    rw [SharedData.streamingAt, hempty] at hs
    cases hs

theorem StreamsRunning.congr (h : c.StreamsRunning)
    (hchannel : c'.shared.channel = c.shared.channel)
    (hstate : c'.shared.connectionState = c.shared.connectionState)
    (hstreams : c'.shared.streamingAt = c.shared.streamingAt)
    (howner : c'.owner.changing = false → c.owner.changing = false) : c'.StreamsRunning := by
  intro ho hsome hready
  rw [hchannel] at hsome
  rw [hstate] at hready
  exact (h (howner ho) hsome hready).congr hstreams.symm

/-- Without a channel there is nothing to show. -/
theorem StreamsRunning.of_none (h : c.shared.channel = none) : c.StreamsRunning := by
  intro _ hsome
  rw [h] at hsome
  cases hsome

theorem StreamsRunning.registerStream {key : Nat} {d : SharedData} (h : c.StreamsRunning)
    (ho : c.owner = .idle) (hk : key ∉ c.shared.streams)
    (hd : c.shared.registerStream key = some d) : StreamsRunning { c with shared := d } := by
  obtain ⟨-, hchannel, hstate⟩ := registerStream_pointers hd
  obtain ⟨b, hb, hstr⟩ := SharedData.streamingAt_registerStream hk hd
  intro _ hsome hready key' hs
  rw [hchannel] at hsome
  rw [hstate] at hready
  rw [hstr] at hs
  split at hs
  · rw [hb.mpr ⟨hsome, hready⟩] at hs
    cases hs
  · exact h (by rw [ho]; rfl) hsome hready key' hs

theorem StreamsRunning.handle {resultOk : Bool} {x : ConnectivityState}
    {s : SharedData.Handled} (h : c.StreamsRunning) (hs : HandledAs c.shared resultOk x s) :
    StreamsRunning (c.handle resultOk x s) := by
  intro ho
  rw [handle_owner] at ho
  rw [handle_shared]
  cases hs with
  | observed hsome _ hobs =>
      cases hobs with
      | same heq =>
          -- the state was `READY` before, so nothing had to be started
          intro _ hready
          have hready : x = .ready := hready
          rw [hready] at heq
          exact h ho hsome (toCncClientState_connected.mp heq.symm)
      | started _ _ hstreams => exact fun _ _ => SharedData.allStreaming_startStreams hstreams
      | stopped _ hne => exact fun _ hready => absurd hready hne
  | deadline _ _ | finished _ _ => exact h ho
  | disconnected hnone _ =>
      intro hsome
      have hsome : c.shared.channel.isSome := hsome
      rw [hnone] at hsome
      cases hsome

/-- The guard decides about the next client. -/
theorem streamsRunning_step (hi : c.StreamInv) (hstage : c.Stage) (h : c.StreamsRunning)
    (hs : Step c a c') : c'.StreamsRunning ↔ RunningGuard c a := by
  cases hs with
  | @call call ho =>
      refine iff_of_true ?_ trivial
      exact h.congr rfl rfl rfl fun _ => by rw [ho]; rfl
  | kill _ => exact iff_of_true (.of_none rfl) trivial
  | shutdownQueue ho =>
      refine iff_of_true (h.congr rfl rfl rfl fun hc => ?_) trivial
      rw [ho]
      exact hc
  | join ho hj =>
      refine iff_of_true (.of_none ?_) trivial
      rw [join_shared]
      exact (hstage.of_join ho hj).2.1
  | @connect channel x ho =>
      refine iff_of_true ?_ trivial
      intro hc
      have hc : (afterConnect c.shared.connectionState x).changing = false := hc
      rw [afterConnect] at hc
      split at hc <;> cases hc
  | @connectInProcess channel ho =>
      have hnone := hi.not_streaming (hstage.of_connectingInProcess (by rw [ho]; rfl)).channel
      have hall : (c.connectInProcess channel).shared.AllStreaming ↔
          c.shared.streams.entries = [] := allStreaming_iff hnone
      refine ⟨?_, ?_⟩
      · intro hrun channel' heq
        obtain rfl := OwnerPhase.connectingInProcess.inj (ho.symm.trans heq)
        exact hall.mp (hrun rfl rfl rfl)
      · intro hguard _ hsome _
        obtain ⟨channel', rfl⟩ := Option.isSome_iff_exists.mp hsome
        exact hall.mpr (hguard channel' ho)
  | report ho => exact iff_of_true (fun hc => by cases hc) trivial
  | start ho =>
      have hall : c.shared.AllStreaming ↔ c.shared.streams.entries = [] :=
        allStreaming_iff (hi.opening (by rw [ho]; rfl))
      have hsome := (hstage.of_opening (by rw [ho]; rfl)).channel
      exact ⟨fun hrun hready => hall.mp (hrun rfl hsome hready),
        fun hguard _ _ hready => hall.mpr (hguard hready)⟩
  | registerStream ho hk hd => exact iff_of_true (h.registerStream ho hk hd) trivial
  | onStreamUpdate _ =>
      obtain ⟨-, hchannel, hstate⟩ := onStreamUpdate_pointers (d := c.shared) _
      exact iff_of_true (h.congr hchannel hstate SharedData.streamingAt_onStreamUpdate id) trivial
  | onStreamFinish _ =>
      obtain ⟨-, hchannel, hstate⟩ := onStreamFinish_pointers (d := c.shared) _
      exact iff_of_true (h.congr hchannel hstate SharedData.streamingAt_onStreamFinish id) trivial
  | useStub => exact iff_of_true h trivial
  | next _ _ _ | exit _ _ | runReport _ =>
      exact iff_of_true (h.congr rfl rfl rfl id) trivial
  | handle _ hh => exact iff_of_true (h.handle (handleEvent_cases hh)) trivial

/-- In all clients of a run the streams are running, exactly when no server is
connected at once while a stream is registered. -/
theorem streamsRunning_iff {tr : List (GrpcClient × Action)} (run : ClientRun tr c) :
    (∀ s ∈ visited tr c, StreamsRunning s) ↔ ∀ p ∈ tr, RunningGuard p.1 p.2 := by
  refine run.always_iff (.of_none rfl) ?_
  intro s a s' hr h hs
  exact streamsRunning_step (ClientReachable.streamInv hr) (ClientReachable.stage hr) h hs

/-- A stream is registered, and then the client is connected in-process. -/
def registeredBefore : List Action :=
  [.registerStream 5, .call (.changeServerInProcess (some 1)), .kill, .shutdownQueue, .join,
    .connectInProcess]

theorem not_streamsRunning :
    ¬ ∀ tr c, ClientRun tr c → ∀ s ∈ visited tr c, StreamsRunning s := by
  intro hall
  have hrun := hall _ _ (played_run registeredBefore) _ List.mem_cons_self
  exact hrun (by decide) (by decide) (by decide) 5 (by decide)

/-- A stream is registered, and then the client connects to an address. -/
def registeredWhileConnecting : List Action :=
  [.registerStream 5, .call (.changeServer "host:1"), .kill, .shutdownQueue, .join,
    .connect 1 .connecting, .report, .start, .next true, .handle .ready, .runReport]

theorem streamsRunning_iff_connected : StreamsRunning (played registeredWhileConnecting).2 :=
  (streamsRunning_iff (played_run registeredWhileConnecting)).mpr (by decide) _
    List.mem_cons_self

example : (played registeredWhileConnecting).2.shared.streamingAt 5 = some true := by decide

end GrpcClient

end Grpcw.Client
