import GrpcWrapper.Client.ClientThreads

/-!
# The updates of a stream

`register_stream` starts the stream at once when the client is connected, and
`on_update_` is set by the call after it.  What the thread of the stream reads
and dispatches before that is dropped.  From then on each message is passed on,
so no update is lost exactly when nothing has been dispatched by the time the
callback is set (`noUpdateLost_iff`).
-/

namespace Grpcw.Client

open Transition

variable {Message Status : Type}

namespace GrpcClient

variable {c c' : GrpcClient} {a : Action} {key : Nat}

/-! ## Who sets `on_update_` -/

theorem any_onUpdate_mapValues {streams : Streams} {f : GrpcClientStream → GrpcClientStream}
    (hf : ∀ s, (f s).onUpdate = s.onUpdate) :
    ((streams.mapValues f).lookup key).any GrpcClientStream.onUpdate =
      (streams.lookup key).any GrpcClientStream.onUpdate := by
  rw [Map.lookup_mapValues]
  cases streams.lookup key with
  | none => rfl
  | some s => exact hf s

theorem onUpdate_startStream (stub : Stub) (s : GrpcClientStream) :
    (s.startStream stub).onUpdate = s.onUpdate := by
  rw [GrpcClientStream.startStream]
  split <;> rfl

theorem onUpdate_stopStream (s : GrpcClientStream) : s.stopStream.onUpdate = s.onUpdate := by
  rw [GrpcClientStream.stopStream]
  split <;> rfl

theorem any_onUpdate_emplace {streams : Streams} {key' : Nat} {s : GrpcClientStream}
    (hk : key' ∉ streams) (hs : s.onUpdate = false) :
    ((streams.emplace key' s).lookup key).any GrpcClientStream.onUpdate =
      (streams.lookup key).any GrpcClientStream.onUpdate := by
  rw [Map.lookup_emplace hk]
  split
  · rename_i heq
    rw [heq, AList.lookup_eq_none.mpr hk]
    exact hs
  · rfl

theorem any_onUpdate_startStreams {stub : Option Stub} {streams streams' : Streams}
    (h : SharedData.startStreams stub streams = some streams') :
    (streams'.lookup key).any GrpcClientStream.onUpdate =
      (streams.lookup key).any GrpcClientStream.onUpdate := by
  rw [SharedData.startStreams] at h
  split at h
  · cases h
    rfl
  · obtain ⟨t, -, rfl⟩ := Option.map_eq_some_iff.mp h
    exact any_onUpdate_mapValues (onUpdate_startStream t)

/-- Nothing but `on_update` sets the callback of a stream. -/
theorem Step.updates_eq (hs : Step c a c') (ha : a ≠ .onStreamUpdate key) :
    c'.updates key = c.updates key := by
  cases hs with
  | kill _ => exact any_onUpdate_mapValues onUpdate_stopStream
  | @handle resultOk x s ht hh =>
      rw [updates, handle_shared]
      cases handleEvent_cases hh with
      | observed _ _ ho =>
          cases ho with
          | same _ => rfl
          | started _ _ hstreams => exact any_onUpdate_startStreams hstreams
          | stopped _ _ => exact any_onUpdate_mapValues onUpdate_stopStream
      | deadline _ _ | finished _ _ | disconnected _ _ => rfl
  | @registerStream key' d _ hk hd =>
      rw [SharedData.registerStream] at hd
      split at hd
      · obtain ⟨t, -, rfl⟩ := Option.map_eq_some_iff.mp hd
        exact any_onUpdate_emplace hk (onUpdate_startStream t _)
      · cases hd
        exact any_onUpdate_emplace hk rfl
  | @onStreamUpdate key' _ =>
      have hne : key ≠ key' := fun heq => ha (heq ▸ rfl)
      rw [updates, updates, SharedData.onStreamUpdate]
      split
      · exact congrArg _ (AList.lookup_insert_ne hne)
      · rfl
  | @onStreamFinish key' _ =>
      rw [updates, updates, SharedData.onStreamFinish]
      split
      · rename_i s hl
        by_cases heq : key = key'
        · subst heq
          rw [hl]
          exact (congrArg (Option.any _) (AList.lookup_insert c.shared.streams)).trans rfl
        · exact congrArg _ (AList.lookup_insert_ne heq)
      · rfl
  | join _ _ => rw [updates, join_shared, updates]
  | call _ | shutdownQueue _ | connect _ | connectInProcess _ | report _ | start _ | useStub
  | next _ _ _ | exit _ _ | runReport _ => rfl

/-- `on_update` sets the callback of a stream that is registered. -/
theorem Step.updates_onStreamUpdate (hs : Step c (.onStreamUpdate key) c') :
    c'.updates key = true ↔ key ∈ c.shared.streams := by
  cases hs with
  | onStreamUpdate _ =>
      rw [updates, SharedData.onStreamUpdate]
      split
      · rename_i s hl
        refine iff_of_true ?_ (Map.mem_of_lookup hl)
        exact (congrArg (Option.any _) (AList.lookup_insert c.shared.streams)).trans rfl
      · rename_i hl
        rw [hl]
        exact iff_of_false (by decide) (AList.lookup_eq_none.mp hl)

end GrpcClient

namespace ClientThreads

variable {calls : Callbacks Message Status} {s s' : ClientThreads Message Status}
  {a : Action Message Status} {key : Nat} {t : StreamThread Message Status}
  {tr : List (ClientThreads Message Status × Action Message Status)}

/-! ## The property -/

/-- Every message that was read from a stream with a callback has been passed to
it, once and in order, but for the one that is about to be. -/
def NoUpdateLost (s : ClientThreads Message Status) : Prop :=
  ∀ key, s.client.updates key = true →
    (s.streams key).read = (s.streams key).passed ++ (s.streams key).inHand

/-- No message has been dispatched when the callback of a stream is set. -/
def AttachGuard (s : ClientThreads Message Status) : Action Message Status → Prop
  | .client (.onStreamUpdate key) =>
      key ∈ s.client.shared.streams → s.client.updates key = false →
        (s.streams key).read = (s.streams key).inHand
  | _ => True

/-- Nothing is passed to a callback that is not there. -/
def NothingPassed (s : ClientThreads Message Status) : Prop :=
  ∀ key, s.client.updates key = false → (s.streams key).passed = []

/-! ## One step -/

/-- A section that stops the streams sets no callback. -/
theorem SectionInv.updates_eq {w : Stopping} {c : GrpcClient} (h : s.SectionInv)
    (hlock : s.lock = some w) (hs : GrpcClient.Step s.client w.action c) :
    c.updates key = s.client.updates key := by
  refine hs.updates_eq fun heq => ?_
  have hstops := h.stops w hlock
  rw [heq] at hstops
  exact hstops

/-- The thread of one stream goes on. -/
theorem NoUpdateLost.update (h : s.NoUpdateLost)
    (ht : s.client.updates key = true → t.read = t.passed ++ t.inHand) :
    NoUpdateLost { s with streams := Function.update s.streams key t } :=
  (Function.forall_update_iff s.streams fun key t =>
    s.client.updates key = true → t.read = t.passed ++ t.inHand).mpr ⟨ht, fun key' _ => h key'⟩

theorem NothingPassed.update (h : s.NothingPassed)
    (ht : s.client.updates key = false → t.passed = []) :
    NothingPassed { s with streams := Function.update s.streams key t } :=
  (Function.forall_update_iff s.streams fun key t =>
    s.client.updates key = false → t.passed = []).mpr ⟨ht, fun key' _ => h key'⟩

theorem inHand_of_phase {phase : StreamPhase Message Status} (h : t.phase = phase)
    (hne : ∀ update, phase ≠ .dispatching update) : t.inHand = [] := by
  rw [StreamThread.inHand, h]
  cases phase with
  | dispatching update => exact absurd rfl (hne update)
  | none | reading | updating _ | finishing | finished _ | exited => rfl

/-- A thread with no message in hand goes on to another phase. -/
theorem NoUpdateLost.move {phase : StreamPhase Message Status} (h : s.NoUpdateLost)
    (hbefore : (s.streams key).inHand = []) (hafter : ∀ update, phase ≠ .dispatching update) :
    (s.move key phase).NoUpdateLost := by
  refine h.update fun hu => ?_
  have hnone : StreamThread.inHand { s.streams key with phase := phase } = [] :=
    inHand_of_phase rfl hafter
  rw [hnone, h key hu, hbefore]

/-- A stream is started with no message in hand. -/
theorem started_history (h : s.ThreadInv) (c : GrpcClient) (key : Nat) :
    (started s.client c s.streams key).read = (s.streams key).read ∧
      (started s.client c s.streams key).passed = (s.streams key).passed ∧
      (started s.client c s.streams key).inHand = (s.streams key).inHand := by
  rw [started]
  split
  · rename_i hst
    refine ⟨rfl, rfl, ?_⟩
    rw [inHand_of_phase (h.streaming key hst.1)]
    · rfl
    · intro update hd
      cases hd
  · exact ⟨rfl, rfl, rfl⟩

theorem NothingPassed.client {c : GrpcClient} {action : GrpcClient.Action}
    (h : s.NothingPassed) (hthreads : s.ThreadInv) (hs : GrpcClient.Step s.client action c) :
    NothingPassed { s with client := c, streams := started s.client c s.streams } := by
  intro key hu
  show (started s.client c s.streams key).passed = []
  rw [(started_history hthreads c key).2.1]
  refine h key ?_
  by_cases ha : action = .onStreamUpdate key
  · subst ha
    have hnot : key ∉ s.client.shared.streams := by
      intro hm
      have hu : c.updates key = false := hu
      rw [hs.updates_onStreamUpdate.mpr hm] at hu
      cases hu
    rw [GrpcClient.updates, AList.lookup_eq_none.mpr hnot]
    rfl
  · rw [← hs.updates_eq ha]
    exact hu

theorem NothingPassed.step (h : s.NothingPassed) (hthreads : s.ThreadInv)
    (hsec : s.SectionInv) (hs : Step calls s a s') : s'.NothingPassed := by
  cases hs with
  | client hs _ _ _ => exact h.client hthreads hs
  | release hlock hs =>
      intro key hu
      exact h key ((hsec.updates_eq hlock hs).symm.trans hu)
  | @joined _ key _ _ _ => exact h.update (h key)
  | @read key _ _ | @readEnd key _ | @updated key _ _ _ | @finish key _ _ | @exit key _ _ _ =>
      exact h.update (h key)
  | @dispatch key update _ =>
      split
      · rename_i hu
        refine h.update fun hu' => ?_
        rw [hu] at hu'
        cases hu'
      · exact h.update (h key)
  | acquire _ _ _ _ | skip _ _ | cancel _ _ | ask _ _ | answer _ _ => exact h

theorem ThreadsReachable.nothingPassed (hr : s.ThreadsReachable calls) : s.NothingPassed := by
  refine hr.invariant (fun _ _ => rfl) ?_
  intro s a s' hr h hs
  exact h.step (ThreadsReachable.threadInv hr) (ThreadsReachable.sectionInv hr) hs

/-! ## One step of the property -/

theorem NoUpdateLost.client {c : GrpcClient} {action : GrpcClient.Action} (h : s.NoUpdateLost)
    (hthreads : s.ThreadInv) (hs : GrpcClient.Step s.client action c)
    (hguard : ∀ key, action = .onStreamUpdate key → key ∈ s.client.shared.streams →
      s.client.updates key = false → (s.streams key).read =
        (s.streams key).passed ++ (s.streams key).inHand) :
    NoUpdateLost { s with client := c, streams := started s.client c s.streams } := by
  intro key hu
  obtain ⟨hread, hpassed, hhand⟩ := started_history hthreads c key
  show (started s.client c s.streams key).read = (started s.client c s.streams key).passed ++
    (started s.client c s.streams key).inHand
  rw [hread, hpassed, hhand]
  by_cases ha : action = .onStreamUpdate key
  · subst ha
    cases hbefore : s.client.updates key with
    | true => exact h key hbefore
    | false => exact hguard key rfl (hs.updates_onStreamUpdate.mp hu) hbefore
  · refine h key ?_
    rw [← hs.updates_eq ha]
    exact hu

/-- Setting the callback of a stream loses nothing exactly when nothing has been
dispatched. -/
theorem noUpdateLost_onStreamUpdate (h : s.NoUpdateLost) (hnothing : s.NothingPassed)
    (hthreads : s.ThreadInv) (hs : Step calls s (.client (.onStreamUpdate key)) s') :
    s'.NoUpdateLost ↔ AttachGuard s (.client (.onStreamUpdate key)) := by
  cases hs with
  | @client _ c hs _ _ _ =>
      constructor
      · intro h' hm hu
        have hlost := h' key (hs.updates_onStreamUpdate.mpr hm)
        obtain ⟨hread, hpassed, hhand⟩ := started_history hthreads c key
        have hlost : (started s.client c s.streams key).read =
            (started s.client c s.streams key).passed ++
              (started s.client c s.streams key).inHand := hlost
        rw [hread, hpassed, hhand, hnothing key hu] at hlost
        exact hlost
      · intro hguard
        refine h.client hthreads hs ?_
        intro key' heq hm hu
        cases heq
        rw [hnothing key hu]
        exact hguard hm hu

theorem NoUpdateLost.step (h : s.NoUpdateLost) (hthreads : s.ThreadInv) (hsec : s.SectionInv)
    (hs : Step calls s a s') (ha : ∀ key, a ≠ .client (.onStreamUpdate key)) :
    s'.NoUpdateLost := by
  cases hs with
  | client hs _ _ _ =>
      refine h.client hthreads hs ?_
      intro key heq
      exact absurd (heq ▸ rfl) (ha key)
  | release hlock hs =>
      intro key hu
      exact h key ((hsec.updates_eq hlock hs).symm.trans hu)
  | joined _ hphase => exact NoUpdateLost.move h (inHand_of_phase hphase nofun) nofun
  | readEnd hphase => exact h.move (inHand_of_phase hphase nofun) nofun
  | updated hphase _ => exact h.move (inHand_of_phase hphase nofun) nofun
  | exit hphase _ => exact h.move (inHand_of_phase hphase nofun) nofun
  | finish hphase =>
      refine h.move (inHand_of_phase hphase nofun) ?_
      intro update
      split <;> nofun
  | read hphase =>
      refine h.update fun hu => ?_
      show _ ++ [_] = _ ++ [_]
      rw [h _ hu, inHand_of_phase hphase nofun, List.append_nil]
  | @dispatch key update hphase =>
      split
      · refine h.update fun hu => ?_
        have hlost := h key hu
        rw [StreamThread.inHand, hphase] at hlost
        exact hlost.trans (List.append_nil _).symm
      · rename_i hnot
        exact h.update fun hu => absurd hu hnot
  | acquire _ _ _ _ | skip _ _ | cancel _ _ | ask _ _ | answer _ _ => exact h

/-! ## The runs -/

/-- No update of a stream is lost, exactly in the runs in which nothing has been
dispatched whenever a callback is set. -/
theorem noUpdateLost_iff (run : ThreadsRun calls tr s) :
    (∀ t ∈ visited tr s, NoUpdateLost t) ↔ ∀ p ∈ tr, AttachGuard p.1 p.2 := by
  refine run.always_iff (fun _ _ => rfl) ?_
  intro s a s' hr h hs
  have hthreads := ThreadsReachable.threadInv hr
  by_cases ha : ∃ key, a = .client (.onStreamUpdate key)
  · obtain ⟨key, rfl⟩ := ha
    exact noUpdateLost_onStreamUpdate h (ThreadsReachable.nothingPassed hr) hthreads hs
  · refine iff_of_true (h.step hthreads (ThreadsReachable.sectionInv hr) hs ?_) ?_
    · intro key heq
      exact ha ⟨key, heq⟩
    · rw [AttachGuard]
      · trivial
      · intro key heq
        exact ha ⟨key, heq⟩

/-- The callback of a registered stream is set before the first message comes. -/
theorem noUpdateLost_iff_registered : ∃ (calls : Callbacks Nat Nat) (tr : _)
    (s : ClientThreads Nat Nat), ThreadsRun calls tr s ∧ (s.streams 5).read = [7] ∧
      s.NoUpdateLost := by
  let calls : Callbacks Nat Nat := ⟨fun _ => False, fun _ _ => False, fun _ _ => False⟩
  obtain ⟨tr, s, r, hreg, hnone⟩ := exists_registered calls 5
  have hattach : GrpcClient.Step s.client (.onStreamUpdate 5) _ := .onStreamUpdate hreg.owner
  have r := r.step (.client hattach id (fun _ => hreg.lock) nofun)
  have hthread : ∀ c', started s.client c' s.streams 5 = ⟨.reading, [], []⟩ :=
    fun _ => (started_of_streaming hreg.streaming).trans hreg.thread
  have r := r.step (@Step.read _ _ _ _ 5 7 (congrArg StreamThread.phase (hthread _)))
  refine ⟨calls, _, _, r, ?_, (noUpdateLost_iff r).mpr ?_ _ List.mem_cons_self⟩
  · simp [hthread]
  · simp only [List.forall_mem_cons]
    refine ⟨trivial, ?_, ?_⟩
    · intro _ _
      rw [hreg.thread]
      rfl
    · intro p hp
      rw [AttachGuard]
      · trivial
      · exact hnone p hp

/-- A connected client registers a stream, whose first message is dispatched
before the callback is set. -/
theorem not_noUpdateLost :
    ¬ ∀ (calls : Callbacks Nat Nat) tr s, ThreadsRun calls tr s →
      ∀ t ∈ visited tr s, NoUpdateLost t := by
  intro hall
  let calls : Callbacks Nat Nat := ⟨fun _ => False, fun _ _ => False, fun _ _ => False⟩
  obtain ⟨tr, s, r, hreg, -⟩ := exists_registered calls 5
  have hattach : GrpcClient.Step s.client (.onStreamUpdate 5) _ := .onStreamUpdate hreg.owner
  have r := r.step (@Step.read _ _ _ _ 5 7 (by rw [hreg.thread]))
  have r := r.step (@Step.drop _ _ _ _ 5 7 (by simp) hreg.updates)
  have r := r.step (.client hattach id (fun _ => hreg.lock) nofun)
  have hlost := hall _ _ _ r _ List.mem_cons_self 5 (hattach.updates_onStreamUpdate.mpr hreg.mem)
  simp [started, move, hreg.thread, StreamThread.inHand] at hlost

end ClientThreads

end Grpcw.Client
