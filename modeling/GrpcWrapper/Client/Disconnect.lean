import GrpcWrapper.Client.StreamStates

/-!
# What a kill leaves

When `kill_streams_and_channel` returns, the channel, the stub, the streams and
the watches are gone, whatever came before.  The state is `not_connected` after
a session with an address, where the run thread has set it.  An in-process
server has no run thread, and the kill leaves the state at `READY`.  So a kill
is complete exactly when the last server was not an in-process one
(`disconnected_iff`).
-/

namespace Grpcw.Client

open Transition

/-- Between the section of a kill and the next one of `change_server`. -/
def Place.cut : Place → Bool
  | .killed | .connecting | .connectingInProcess => true
  | .before | .opening => false

namespace GrpcClient

variable {c c' : GrpcClient} {a : Action} {call : OwnerCall}

/-- The client when a kill returns. -/
def killed (c : GrpcClient) : GrpcClient := { c with runThread := joined c.runThread }

/-- `kill_streams_and_channel` ends here, and `change_server` goes on. -/
theorem join_kill : c.join .kill = { c.killed with owner := .idle } := rfl

/-- A client that is disconnected, and starts no stream. -/
structure Disconnected (c : GrpcClient) : Prop where
  channel : c.shared.channel = none
  stub : c.shared.stub = none
  streams : ∀ key s, c.shared.streams.lookup key = some s → s.streaming = false
  watches : c.watches = 0
  state : c.getState = .notConnected
  registers : ∀ key, c.shared.registerStream key =
    some { c.shared with streams := c.shared.streams.emplace key .new }

/-! ## The stub -/

/-- The stub is gone from the section of a kill to the next one of
`change_server`. -/
def StubCut (c : GrpcClient) : Prop := c.owner.place.cut = true → c.shared.stub = none

theorem StubCut.step (h : c.StubCut) (hs : Step c a c') : c'.StubCut := by
  cases hs with
  | call _ | connectInProcess _ | report _ | start _ => intro hp; cases hp
  | kill _ => exact fun _ => rfl
  | shutdownQueue ho => exact fun _ => h (by rw [ho]; rfl)
  | join ho _ =>
      intro _
      rw [join_shared]
      exact h (by rw [ho]; rfl)
  | @connect channel x _ =>
      intro hp
      have hopening : (c.connect channel x).owner.place = .opening := place_afterConnect _ _
      rw [hopening] at hp
      cases hp
  | registerStream ho _ _ | onStreamUpdate ho | onStreamFinish ho =>
      intro hp
      have hp : c.owner.place.cut = true := hp
      rw [ho] at hp
      cases hp
  | useStub | next _ _ _ | exit _ _ | runReport _ => exact h
  | handle _ hh =>
      intro hp
      rw [handle_owner] at hp
      rw [handle_shared, (handleEvent_pointers hh).1]
      exact h hp

theorem ClientReachable.stubCut (hr : c.ClientReachable) : c.StubCut := by
  refine hr.invariant ?_ fun _ h hs => h.step hs
  intro hp
  cases hp

/-! ## A kill returns -/

/-- Only the state depends on what the server was. -/
theorem disconnected_killed (hr : c.ClientReachable) (hs : Step c .join c') :
    c.killed.Disconnected ↔ c.usingInProcessServer = false := by
  cases hs with
  | join ho hj =>
      have hstub := ClientReachable.stubCut hr
      have hcut : c.owner.place.cut = true := by rw [ho]; rfl
      obtain ⟨hwatches, hchannel, haddress, hin⟩ := (ClientReachable.stage hr).of_join ho hj
      refine ⟨?_, ?_⟩
      · intro hd
        cases hu : c.usingInProcessServer with
        | false => rfl
        | true =>
            have hstate : toCncClientState c.shared.connectionState = .notConnected := hd.state
            rw [hin hu] at hstate
            cases hstate
      · intro hu
        refine ⟨hchannel, hstub hcut, ?_, hwatches,
          haddress hu, ?_⟩
        · intro key s hl
          have hnot := (ClientReachable.streamInv hr).not_streaming hchannel
          refine Bool.eq_false_iff.mpr fun hstr => hnot ⟨key, ?_⟩
          have hl : c.shared.streams.lookup key = some s := hl
          rw [SharedData.streamingAt, hl, ← hstr]
          rfl
        · intro key
          refine if_neg fun hready => ?_
          have hsome : c.shared.channel.isSome := hready.1
          rw [hchannel] at hsome
          cases hsome

/-- Every kill of a run disconnects the client, exactly when none comes while the
last server is an in-process one. -/
theorem disconnected_iff {tr : List (GrpcClient × Action)} (run : ClientRun tr c) :
    (∀ p ∈ tr, p.2 = .join → Disconnected p.1.killed) ↔
      ∀ p ∈ tr, p.2 = .join → p.1.usingInProcessServer = false := by
  refine forall₂_congr fun p hp => forall_congr' fun hjoin => ?_
  obtain ⟨hr, s', hs⟩ := run.of_mem hp
  rw [hjoin] at hs
  exact disconnected_killed hr hs

/-- The in-process client of `disconnectInProcess`, up to the end of the kill. -/
def killInProcess : List Action := disconnectInProcess ++ [.shutdownQueue, .join]

theorem not_disconnected :
    ¬ ∀ tr c, ClientRun tr c → ∀ p ∈ tr, p.2 = .join → Disconnected p.1.killed := by
  intro hall
  have hd := hall _ _ (played_run killInProcess) _ List.mem_cons_self rfl
  exact absurd hd.state (by decide)

theorem disconnected_iff_lostConnection :
    ∃ p ∈ (played lostConnection).1, p.2 = .join ∧ Disconnected p.1.killed :=
  ⟨_, List.mem_cons_self, rfl,
    (disconnected_iff (played_run lostConnection)).mpr (by decide) _ List.mem_cons_self rfl⟩

end GrpcClient

end Grpcw.Client
