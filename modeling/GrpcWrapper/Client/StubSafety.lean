import GrpcWrapper.Client.Sections

/-!
# The stub is alive when the state says so

`use_stub` follows the stub when `connection_state` is `GRPC_CHANNEL_READY` and
looks at nothing else.  That is safe as long as the state is `READY` only while
the stub and the channel are there, which `StubSafe` says of a client.

The kill deletes both and leaves the state to the run thread, which sets it
later when there is one.  So the property fails when the section of a kill
finds the state `READY`, and when an in-process client is given a null channel,
and in no other way (`stubSafe_iff`).
-/

namespace Grpcw.Client

open Transition

namespace GrpcClient

/-! ## The property -/

/-- The state is `READY` only with a live stub and channel; `use_stub` follows no
null stub; and without a channel it returns false and calls nothing. -/
structure StubSafe (c : GrpcClient) : Prop where
  live : c.shared.connectionState = .ready → c.shared.stub.isSome ∧ c.shared.channel.isSome
  follows : c.shared.useStub.isSome
  refuses : c.shared.channel = none → c.shared.useStub = some (false, [])

/-- A kill does not find the state `READY`, and an in-process channel is not
null. -/
def StubGuard (c : GrpcClient) : Action → Prop
  | .kill => c.shared.connectionState ≠ .ready
  | .connectInProcess => c.owner ≠ .connectingInProcess none
  | _ => True

instance {c : GrpcClient} : ∀ a, Decidable (StubGuard c a)
  | .kill => inferInstanceAs (Decidable (c.shared.connectionState ≠ .ready))
  | .connectInProcess => inferInstanceAs (Decidable (c.owner ≠ .connectingInProcess none))
  | .call _ | .shutdownQueue | .join | .connect .. | .report | .start | .registerStream _
  | .onStreamUpdate _ | .onStreamFinish _ | .useStub | .next _ | .exit | .handle _
  | .runReport => .isTrue trivial

variable {c c' : GrpcClient} {a : Action} {d : SharedData}

/-- What `use_stub` does follows from the first part. -/
theorem stubSafe_of_live
    (hl : c.shared.connectionState = .ready → c.shared.stub.isSome ∧ c.shared.channel.isSome) :
    c.StubSafe where
  live := hl
  follows := by
    rw [SharedData.useStub]
    split
    · rename_i hready
      rw [Option.isSome_map]
      exact (hl hready).1
    · rfl
  refuses := by
    intro hnone
    rw [SharedData.useStub, if_neg]
    intro hready
    rw [hnone] at hl
    cases (hl hready).2

/-! ## One step -/

/-- A channel never comes without a stub. -/
def StubWithChannel (c : GrpcClient) : Prop :=
  c.shared.channel.isSome → c.shared.stub.isSome

theorem StubWithChannel.congr (hw : c.StubWithChannel) (hstub : c'.shared.stub = c.shared.stub)
    (hchannel : c'.shared.channel = c.shared.channel) : c'.StubWithChannel := by
  rw [StubWithChannel]
  rw [hstub, hchannel]
  exact hw

theorem StubWithChannel.step (hw : c.StubWithChannel) (hs : Step c a c') :
    c'.StubWithChannel := by
  cases hs with
  | kill _ => exact fun hc => hc
  | connect _ => exact fun _ => rfl
  | connectInProcess _ => exact fun _ => rfl
  | join _ _ => exact hw.congr (by rw [join_shared]) (by rw [join_shared])
  | registerStream _ _ hd =>
      obtain ⟨hstub, hchannel, -⟩ := registerStream_pointers hd
      exact hw.congr hstub hchannel
  | onStreamUpdate _ =>
      obtain ⟨hstub, hchannel, -⟩ := onStreamUpdate_pointers (d := c.shared) _
      exact hw.congr hstub hchannel
  | onStreamFinish _ =>
      obtain ⟨hstub, hchannel, -⟩ := onStreamFinish_pointers (d := c.shared) _
      exact hw.congr hstub hchannel
  | handle _ hh =>
      obtain ⟨hstub, hchannel, -⟩ := handleEvent_pointers hh
      exact hw.congr (by rw [handle_shared, hstub]) (by rw [handle_shared, hchannel])
  | call _ | shutdownQueue _ | report _ | start _ | useStub | next _ _ _ | exit _ _
  | runReport _ => exact hw

theorem ClientReachable.stubWithChannel (hr : c.ClientReachable) : c.StubWithChannel :=
  hr.invariant (fun hc => hc) fun _ hw hs => hw.step hs

/-- Sections that change neither the pointers nor the state. -/
theorem StubSafe.congr (hsafe : c.StubSafe) (h : c'.shared.stub = c.shared.stub ∧
    c'.shared.channel = c.shared.channel ∧
    c'.shared.connectionState = c.shared.connectionState) : c'.StubSafe := by
  obtain ⟨hstub, hchannel, hstate⟩ := h
  refine stubSafe_of_live ?_
  rw [hstub, hchannel, hstate]
  exact hsafe.live

/-- From a safe client the guard decides whether the next one is safe. -/
theorem stubSafe_step (hw : c.StubWithChannel) (hsafe : c.StubSafe) (hs : Step c a c') :
    c'.StubSafe ↔ StubGuard c a := by
  cases hs with
  | kill _ =>
      refine ⟨?_, ?_⟩
      · intro hsafe' hready
        cases (hsafe'.live hready).1
      · intro hne
        exact stubSafe_of_live fun hready => absurd hready hne
  | @connectInProcess channel howner =>
      cases channel with
      | none =>
          refine iff_of_false ?_ fun hne => hne howner
          intro hsafe'
          cases (hsafe'.live rfl).2
      | some channel =>
          refine iff_of_true (stubSafe_of_live fun _ => ⟨rfl, rfl⟩) ?_
          intro heq
          rw [howner] at heq
          cases heq
  | connect _ => exact iff_of_true (stubSafe_of_live fun _ => ⟨rfl, rfl⟩) trivial
  | join _ _ =>
      refine iff_of_true (hsafe.congr ?_) trivial
      rw [join_shared]
      exact ⟨rfl, rfl, rfl⟩
  | registerStream _ _ hd => exact iff_of_true (hsafe.congr (registerStream_pointers hd)) trivial
  | onStreamUpdate _ => exact iff_of_true (hsafe.congr (onStreamUpdate_pointers _)) trivial
  | onStreamFinish _ => exact iff_of_true (hsafe.congr (onStreamFinish_pointers _)) trivial
  | handle _ hh =>
      refine iff_of_true (stubSafe_of_live ?_) trivial
      obtain ⟨hstub, hchannel, hready⟩ := handleEvent_pointers hh
      rw [handle_shared, hstub, hchannel]
      intro hr
      exact ⟨hw (hready hr), hready hr⟩
  | call _ | shutdownQueue _ | report _ | start _ | useStub | next _ _ _ | exit _ _
  | runReport _ => exact iff_of_true (hsafe.congr ⟨rfl, rfl, rfl⟩) trivial

/-! ## Every run -/

variable {tr : List (GrpcClient × Action)}

/-- All clients of a run are safe, exactly when no kill finds the state `READY`
and no in-process channel is null. -/
theorem stubSafe_iff (run : ClientRun tr c) :
    (∀ s ∈ visited tr c, StubSafe s) ↔ ∀ p ∈ tr, StubGuard p.1 p.2 := by
  refine run.always_iff (stubSafe_of_live ?_) ?_
  · intro hready
    cases hready
  · intro s a s' hr hsafe hs
    exact stubSafe_step (ClientReachable.stubWithChannel hr) hsafe hs

/-- An in-process client is disconnected. -/
def disconnectInProcess : List Action :=
  [.call (.changeServerInProcess (some 1)), .kill, .shutdownQueue, .join, .connectInProcess,
    .call .kill, .kill]

theorem not_stubSafe :
    ¬ ∀ tr c, ClientRun tr c → ∀ s ∈ visited tr c, StubSafe s := by
  intro hall
  have hsafe := hall _ _ (played_run disconnectInProcess) _ List.mem_cons_self
  exact absurd (hsafe.live rfl).1 (by decide)

/-- A client connects to an address, loses the connection, and is disconnected. -/
def lostConnection : List Action :=
  [.call (.changeServer "host:1"), .kill, .shutdownQueue, .join, .connect 1 .connecting, .report,
    .start, .next true, .handle .ready, .runReport, .next true, .handle .transientFailure,
    .runReport, .call .kill, .kill, .shutdownQueue, .next false, .handle .shutdown, .runReport,
    .exit, .join]

example : (played lostConnection).1.length = lostConnection.length := by decide

theorem stubSafe_iff_lostConnection : StubSafe (played lostConnection).2 :=
  (stubSafe_iff (played_run lostConnection)).mpr (by decide) _ List.mem_cons_self

end GrpcClient

end Grpcw.Client
