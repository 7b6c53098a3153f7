import GrpcWrapper.Client.GrpcClient

/-!
# What the sections of the client do

The section of the run thread has six outcomes, which `HandledAs` lists with the
conditions under which each arises.  The other sections are short enough to be
read off, except for what they leave alone.
-/

namespace Grpcw.Client

namespace GrpcClient

variable {c : GrpcClient} {d : SharedData}

/-! ## The run thread -/

/-- The section of `run` for a live channel, when an event is worth reading. -/
inductive Observed (d : SharedData) (x : ConnectivityState) : SharedData.Handled → Prop where
  /-- The client state is the one that was reported before. -/
  | same :
      toCncClientState x = toCncClientState d.connectionState →
      Observed d x ⟨{ d with connectionState := x }, none, true⟩
  | started {streams : Streams} :
      toCncClientState x ≠ toCncClientState d.connectionState → x = .ready →
      SharedData.startStreams d.stub d.streams = some streams →
      Observed d x
        ⟨{ d with connectionState := x, streams := streams }, some (toCncClientState x), true⟩
  | stopped :
      toCncClientState x ≠ toCncClientState d.connectionState → x ≠ .ready →
      Observed d x
        ⟨{ d with connectionState := x, streams := SharedData.stopStreams d.streams },
          some (toCncClientState x), true⟩

/-- The section of `run`. -/
inductive HandledAs (d : SharedData) (resultOk : Bool) (x : ConnectivityState) :
    SharedData.Handled → Prop where
  | observed {s : SharedData.Handled} :
      d.channel.isSome → resultOk = true → Observed d x s → HandledAs d resultOk x s
  /-- The watch has reached its deadline. -/
  | deadline : d.channel.isSome → resultOk = false → HandledAs d resultOk x ⟨d, none, true⟩
  | finished :
      d.channel = none → toCncClientState d.connectionState = .notConnected →
      HandledAs d resultOk x ⟨d, none, false⟩
  | disconnected :
      d.channel = none → toCncClientState d.connectionState ≠ .notConnected →
      HandledAs d resultOk x
        ⟨{ d with connectionState := .shutdown }, some .notConnected, false⟩

theorem observe_cases {x : ConnectivityState} {s : SharedData.Handled}
    (hs : d.observe x = some s) : Observed d x s := by
  rw [SharedData.observe] at hs
  split at hs
  · rename_i hsame
    cases hs
    exact .same hsame
  · rename_i hnew
    split at hs
    · rename_i hready
      obtain ⟨streams, hstreams, rfl⟩ := Option.map_eq_some_iff.mp hs
      exact .started hnew hready hstreams
    · rename_i hready
      cases hs
      exact .stopped hnew hready

theorem handleEvent_cases {resultOk : Bool} {x : ConnectivityState}
    {s : SharedData.Handled} (hs : d.handleEvent resultOk x = some s) :
    HandledAs d resultOk x s := by
  rw [SharedData.handleEvent] at hs
  split at hs
  · rename_i channel hchannel
    have hsome : d.channel.isSome := by rw [hchannel]; rfl
    cases resultOk with
    | true => exact .observed hsome rfl (observe_cases hs)
    | false =>
        cases hs
        exact .deadline hsome rfl
  · rename_i hchannel
    split at hs
    · rename_i hnot
      cases hs
      exact .finished hchannel hnot
    · rename_i hnot
      cases hs
      exact .disconnected hchannel hnot

/-- The channel is asked for another event as long as it is alive. -/
theorem HandledAs.watch {resultOk : Bool} {x : ConnectivityState}
    {s : SharedData.Handled} (hs : HandledAs d resultOk x s) :
    s.data.channel = d.channel ∧ s.watch = d.channel.isSome := by
  cases hs with
  | observed hsome _ ho =>
      rw [hsome]
      cases ho <;> exact ⟨rfl, rfl⟩
  | deadline hsome _ => exact ⟨rfl, hsome.symm⟩
  | finished hnone _ => exact ⟨rfl, by rw [hnone]; rfl⟩
  | disconnected hnone _ => exact ⟨rfl, by rw [hnone]; rfl⟩

/-! ## What they leave alone -/

/-- The run thread leaves the stub and the channel alone, and does not set the
state to `READY` without a channel. -/
theorem handleEvent_pointers {resultOk : Bool} {x : ConnectivityState} {s : SharedData.Handled}
    (hs : d.handleEvent resultOk x = some s) :
    s.data.stub = d.stub ∧ s.data.channel = d.channel ∧
      (s.data.connectionState = .ready → d.channel.isSome) := by
  cases handleEvent_cases hs with
  | observed hsome _ ho => cases ho <;> exact ⟨rfl, rfl, fun _ => hsome⟩
  | deadline hsome _ => exact ⟨rfl, rfl, fun _ => hsome⟩
  | finished _ hnot =>
      refine ⟨rfl, rfl, fun hready => ?_⟩
      rw [hready] at hnot
      cases hnot
  | disconnected _ _ =>
      refine ⟨rfl, rfl, fun hready => ?_⟩
      cases hready

theorem registerStream_pointers {key : Nat} {d' : SharedData}
    (hd : d.registerStream key = some d') :
    d'.stub = d.stub ∧ d'.channel = d.channel ∧ d'.connectionState = d.connectionState := by
  rw [SharedData.registerStream] at hd
  split at hd
  · obtain ⟨s, -, rfl⟩ := Option.map_eq_some_iff.mp hd
    exact ⟨rfl, rfl, rfl⟩
  · cases hd
    exact ⟨rfl, rfl, rfl⟩

theorem onStreamUpdate_pointers (key : Nat) :
    (d.onStreamUpdate key).stub = d.stub ∧ (d.onStreamUpdate key).channel = d.channel ∧
      (d.onStreamUpdate key).connectionState = d.connectionState := by
  rw [SharedData.onStreamUpdate]
  split <;> exact ⟨rfl, rfl, rfl⟩

theorem onStreamFinish_pointers (key : Nat) :
    (d.onStreamFinish key).stub = d.stub ∧ (d.onStreamFinish key).channel = d.channel ∧
      (d.onStreamFinish key).connectionState = d.connectionState := by
  rw [SharedData.onStreamFinish]
  split <;> exact ⟨rfl, rfl, rfl⟩

@[simp] theorem handle_shared {resultOk : Bool} {x : ConnectivityState}
    {s : SharedData.Handled} : (c.handle resultOk x s).shared = s.data := by
  rw [GrpcClient.handle]
  split <;> rfl

@[simp] theorem handle_owner {resultOk : Bool} {x : ConnectivityState}
    {s : SharedData.Handled} : (c.handle resultOk x s).owner = c.owner := by
  rw [GrpcClient.handle]
  split <;> rfl

@[simp] theorem handle_runThread {resultOk : Bool} {x : ConnectivityState}
    {s : SharedData.Handled} :
    (c.handle resultOk x s).runThread = .joinable (afterEvent s.report) := by
  rw [GrpcClient.handle]
  split <;> rfl

@[simp] theorem join_shared {call : OwnerCall} : (c.join call).shared = c.shared := by
  cases call <;> rfl

end GrpcClient

end Grpcw.Client
