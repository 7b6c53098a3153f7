import GrpcWrapper.Client.KillReturns

/-!
# What a step leaves of a stream

A stream that is registered stays registered, and once `on_finish_` is set it
stays set.  A step takes the thread of a stream away only by joining it, and a
stream that is started is in `Read`.
-/

namespace Grpcw.Client

open Transition

variable {Message Status : Type}

/-! ## The callback -/

namespace GrpcClient

variable {c c' : GrpcClient} {a : Action} {key : Nat}

theorem onFinish_startStream (stub : Stub) (s : GrpcClientStream) :
    (s.startStream stub).onFinish = s.onFinish := by
  rw [GrpcClientStream.startStream]
  split <;> rfl

theorem onFinish_stopStream (s : GrpcClientStream) : s.stopStream.onFinish = s.onFinish := by
  rw [GrpcClientStream.stopStream]
  split <;> rfl

/-- The stream at an address was there before, and keeps its callback. -/
def Kept (key : Nat) (streams : Streams) (t' : GrpcClientStream) : Prop :=
  ∃ t, streams.lookup key = some t ∧ (t.onFinish = true → t'.onFinish = true)

theorem Kept.refl {streams : Streams} {t : GrpcClientStream} (h : streams.lookup key = some t) :
    Kept key streams t := ⟨t, h, id⟩

theorem Kept.mapValues {streams : Streams} {t' : GrpcClientStream}
    {f : GrpcClientStream → GrpcClientStream} (hf : ∀ t, (f t).onFinish = t.onFinish)
    (h : (streams.mapValues f).lookup key = some t') : Kept key streams t' := by
  rw [Map.lookup_mapValues] at h
  obtain ⟨t, ht, rfl⟩ := Option.map_eq_some_iff.mp h
  exact ⟨t, ht, fun hset => (hf t).trans hset⟩

theorem Kept.startStreams {stub : Option Stub} {streams streams' : Streams}
    {t' : GrpcClientStream} (hs : SharedData.startStreams stub streams = some streams')
    (h : streams'.lookup key = some t') : Kept key streams t' := by
  rw [SharedData.startStreams] at hs
  split at hs
  · cases hs
    exact .refl h
  · obtain ⟨s, -, rfl⟩ := Option.map_eq_some_iff.mp hs
    exact .mapValues (onFinish_startStream s) h

theorem kept_emplace {streams : Streams} {key' : Nat} {s t' : GrpcClientStream}
    (hk : key' ∉ streams) (h : (streams.emplace key' s).lookup key = some t') :
    key' = key ∨ Kept key streams t' := by
  rw [Map.lookup_emplace hk] at h
  split at h
  · exact Or.inl (Eq.symm ‹_›)
  · exact Or.inr (.refl h)

/-- A stream whose callback is set or replaced. -/
theorem Kept.insert {streams : Streams} {key' : Nat} {s s' t' : GrpcClientStream}
    (hl : streams.lookup key' = some s) (hset : s.onFinish = true → s'.onFinish = true)
    (h : (streams.insert key' s').lookup key = some t') : Kept key streams t' := by
  by_cases heq : key = key'
  · subst heq
    rw [AList.lookup_insert] at h
    cases h
    exact ⟨s, hl, hset⟩
  · rw [AList.lookup_insert_ne heq] at h
    exact .refl h

/-- Streams are added by `register_stream` only, and no callback is taken away. -/
theorem Step.kept {t' : GrpcClientStream} (hs : Step c a c')
    (h : c'.shared.streams.lookup key = some t') :
    a = .registerStream key ∨ Kept key c.shared.streams t' := by
  cases hs with
  | kill _ => exact Or.inr (.mapValues onFinish_stopStream h)
  | @handle resultOk x s ht hh =>
      rw [handle_shared] at h
      cases handleEvent_cases hh with
      | observed _ _ ho =>
          cases ho with
          | same _ => exact Or.inr (.refl h)
          | started _ _ hstreams => exact Or.inr (.startStreams hstreams h)
          | stopped _ _ => exact Or.inr (.mapValues onFinish_stopStream h)
      | deadline _ _ | finished _ _ | disconnected _ _ => exact Or.inr (.refl h)
  | @registerStream key' d _ hk hd =>
      have hkept : key' = key ∨ Kept key c.shared.streams t' := by
        rw [SharedData.registerStream] at hd
        split at hd
        · obtain ⟨s, -, rfl⟩ := Option.map_eq_some_iff.mp hd
          exact kept_emplace hk h
        · cases hd
          exact kept_emplace hk h
      exact hkept.imp_left (congrArg Action.registerStream)
  | @onStreamUpdate key' _ =>
      refine Or.inr ?_
      revert h
      rw [SharedData.onStreamUpdate]
      split
      · rename_i s hl
        exact .insert hl id
      · exact .refl
  | @onStreamFinish key' _ =>
      refine Or.inr ?_
      revert h
      rw [SharedData.onStreamFinish]
      split
      · rename_i s hl
        exact .insert hl fun _ => rfl
      · exact .refl
  | join _ _ =>
      rw [join_shared] at h
      exact Or.inr (.refl h)
  | call _ | shutdownQueue _ | connect _ | connectInProcess _ | report _ | start _ | useStub
  | next _ _ _ | exit _ _ | runReport _ => exact Or.inr (.refl h)

/-- `on_finish` sets the callback. -/
theorem Step.onStreamFinish_lookup {t' : GrpcClientStream} (hs : Step c (.onStreamFinish key) c')
    (h : c'.shared.streams.lookup key = some t') : t'.onFinish = true := by
  cases hs with
  | onStreamFinish _ =>
      revert h
      rw [SharedData.onStreamFinish]
      split
      · intro h
        rw [AList.lookup_insert] at h
        cases h
        rfl
      · rename_i hl
        intro h
        cases hl.symm.trans h

end GrpcClient

/-! ## The thread -/

namespace ClientThreads

variable {calls : Callbacks Message Status} {s s' : ClientThreads Message Status}
  {a : Action Message Status} {key : Nat}

/-- The streams that a step starts. -/
def Opens (s s' : ClientThreads Message Status) (key : Nat) : Prop :=
  s.client.shared.streamingAt key ≠ some true ∧ s'.client.shared.streamingAt key = some true

/-- A section that stops the streams is no `register_stream`. -/
theorem Step.kept {t' : GrpcClientStream} (hsec : s.SectionInv) (hs : Step calls s a s')
    (h : s'.client.shared.streams.lookup key = some t') :
    a = .client (.registerStream key) ∨ GrpcClient.Kept key s.client.shared.streams t' := by
  cases hs with
  | client hs _ _ _ => exact (hs.kept h).imp_left (congrArg Action.client)
  | release hlock hs =>
      refine Or.inr ((hs.kept h).resolve_left ?_)
      intro heq
      have hstop := hsec.stops _ hlock
      rw [heq] at hstop
      exact hstop
  | dispatch _ =>
      revert h
      split <;> exact fun h => Or.inr (.refl h)
  | acquire _ _ _ _ | skip _ _ | cancel _ _ | joined _ _ | read _ | readEnd _ | updated _ _
  | finish _ | exit _ _ | ask _ _ | answer _ _ => exact Or.inr (.refl h)

theorem Step.onStreamFinish_lookup {t' : GrpcClientStream}
    (hs : Step calls s (.client (.onStreamFinish key)) s')
    (h : s'.client.shared.streams.lookup key = some t') : t'.onFinish = true := by
  cases hs with
  | client hs _ _ _ => exact hs.onStreamFinish_lookup h

/-- Only a section of the client starts streams, and it starts their threads. -/
theorem Step.opens (hsec : s.SectionInv) (hs : Step calls s a s') (h : Opens s s' key) :
    (s'.streams key).phase = .reading := by
  cases hs with
  | client hs _ _ _ => exact congrArg StreamThread.phase (if_pos h)
  | release hlock hs => exact absurd ⟨key, h.2⟩ (hs.not_streaming (hsec.stops _ hlock))
  | dispatch _ =>
      revert h
      split <;> exact fun h => absurd h.2 h.1
  | acquire _ _ _ _ | skip _ _ | cancel _ _ | joined _ _ | read _ | readEnd _ | updated _ _
  | finish _ | exit _ _ | ask _ _ | answer _ _ => exact absurd h.2 h.1

/-- The thread of a stream without `on_finish_` exits. -/
theorem Step.finishQuiet {status : Status} (hphase : (s.streams key).phase = .finishing)
    (hf : s.client.finishes key = false) :
    Step calls s (.finish key status) (s.move key .exited) := by
  have hs := @Step.finish _ _ calls _ _ status hphase
  rw [if_neg (Bool.eq_false_iff.mp hf)] at hs
  exact hs

/-- A section of the client leaves the threads that there are. -/
theorem Step.streams_eq {action : GrpcClient.Action} (hs : Step calls s (.client action) s')
    (h : s.client.shared.streamingAt key = some true) : s'.streams key = s.streams key := by
  cases hs with
  | client _ _ _ _ => exact started_of_streaming h

theorem update_phase_ne_none {key' : Nat} {t : StreamThread Message Status}
    (h : (s.streams key).phase ≠ .none) (ht : t.phase ≠ .none) :
    (Function.update s.streams key' t key).phase ≠ .none := by
  rw [Function.update_apply]
  split
  · exact ht
  · exact h

/-- The thread of a stream is there until it is joined. -/
theorem Step.phase_ne_none (hs : Step calls s a s') (h : (s.streams key).phase ≠ .none)
    (ha : a = .joined → s.joining ≠ some key) : (s'.streams key).phase ≠ .none := by
  cases hs with
  | client _ _ _ _ =>
      show (started _ _ _ key).phase ≠ .none
      rw [started]
      split
      · intro hnone
        cases hnone
      · exact h
  | @joined _ key' left hlock _ =>
      have hne : key ≠ key' := by
        intro heq
        exact ha rfl (joining_eq_some.mpr ⟨_, left, heq ▸ hlock⟩)
      rw [move_of_ne hne]
      exact h
  | dispatch _ => split <;> exact update_phase_ne_none h (by simp)
  | read _ | readEnd _ | updated _ _ | exit _ _ => exact update_phase_ne_none h (by simp)
  | finish _ =>
      refine update_phase_ne_none h ?_
      show (if _ then StreamPhase.finished _ else .exited) ≠ .none
      split <;> simp
  | acquire _ _ _ _ | skip _ _ | cancel _ _ | release _ _ | ask _ _ | answer _ _ => exact h

theorem Step.joined_phase (hs : Step calls s .joined s') (hj : s.joining = some key) :
    (s'.streams key).phase = .none := by
  obtain ⟨_, _, hlock⟩ := joining_eq_some.mp hj
  cases hs with
  | joined hlock' _ =>
      cases hlock.symm.trans hlock'
      exact move_phase

end ClientThreads

end Grpcw.Client
