import GrpcWrapper.Client.ThreadSteps

/-!
# The example client

`toggle_streaming` cancels the stream of time updates if there is one, and
registers one if not.  It knows of the stream by `stream_context_`, a pointer
that the function which starts a stream sets to the context of the stream, and
that `on_finish_` sets back.  The context belongs to the stream, which frees it
when it is stopped.

Two things can go wrong.  A stream that ends before `toggle_streaming` has set
its `on_finish_` does not set the pointer back.  And `on_finish_` runs on the
thread of the stream, so it may set the pointer back when `toggle_streaming` has
found it and is about to follow it.  Nothing else can go wrong
(`safe_iff_attached`).
-/

namespace Grpcw.Example

open Client Transition

variable {Message Status : Type}

/-! ## Data -/

/-- Where the thread that owns the client is. -/
inductive Toggle where
  /-- Before the constructor. -/
  | constructing
  /-- In no call of `toggle_streaming`. -/
  | outside
  /-- `toggle_streaming` has found a context, and is before `TryCancel`. -/
  | cancelling
  /-- It has found none, and is before `register_stream`. -/
  | registering
  | settingUpdate (key : Nat)
  | settingFinish (key : Nat)
  | destroying
deriving DecidableEq

/-- The stream that is being registered. -/
def Toggle.setting : Toggle → Option Nat
  | .settingUpdate key | .settingFinish key => some key
  | _ => none

structure ExampleClient (Message Status : Type) where
  /-- `grpc_client_` -/
  threads : ClientThreads Message Status
  /-- `stream_context_`, as the address of the stream. -/
  streamContext : Option Nat
  toggle : Toggle
  /-- The streams that have called `on_finish_`, which has not yet set the pointer back. -/
  entered : Nat → Bool

/-- The callbacks print, and call no function of the client. -/
def printing : Callbacks Message Status := ⟨fun _ => False, fun _ _ => False, fun _ _ => False⟩

namespace ExampleClient

def initial : ExampleClient Message Status where
  threads := .initial
  streamContext := none
  toggle := .constructing
  entered := fun _ => false

/-! ## Steps -/

/-- `stream_context_` after a step of the threads.  Each stream that is started sets it,
in some order. -/
def Points (t t' : ClientThreads Message Status) (p p' : Option Nat) : Prop :=
  (∃ key, ClientThreads.Opens t t' key ∧ p' = some key) ∨
    (∀ key, ¬ ClientThreads.Opens t t' key) ∧ p' = p

/-- The streams that are in `on_finish_` after an action of the threads. -/
def enters (s : ExampleClient Message Status) :
    ClientThreads.Action Message Status → Nat → Bool
  | .finish key _ =>
      if s.threads.client.finishes key then Function.update s.entered key true else s.entered
  | _ => s.entered

/-- What goes on beside the calls of the owner, and in those that it is in. -/
def Elsewhere (s : ExampleClient Message Status) :
    ClientThreads.Action Message Status → Prop
  | .client (.call _) | .client (.registerStream _) | .client (.onStreamUpdate _)
  | .client (.onStreamFinish _) => False
  | .exit key => s.entered key = false
  | _ => True

inductive Action (Message Status : Type) where
  | construct (address : String)
  /-- `toggle_streaming` looks at `stream_context_`. -/
  | test
  /-- `TryCancel` -/
  | cancel
  | register (key : Nat)
  | setUpdate
  | setFinish
  | destroy
  | elsewhere (action : ClientThreads.Action Message Status)
  /-- `on_finish_` sets the pointer back. -/
  | forget (key : Nat)

inductive Step : ExampleClient Message Status → Action Message Status →
    ExampleClient Message Status → Prop where
  | construct {s : ExampleClient Message Status} {address : String}
      {t : ClientThreads Message Status} :
      s.toggle = .constructing →
      ClientThreads.Step printing s.threads (.client (.call (.changeServer address))) t →
      Step s (.construct address) { s with threads := t, toggle := .outside }
  | test {s : ExampleClient Message Status} :
      s.toggle = .outside → s.threads.client.owner = .idle →
      Step s .test
        { s with toggle := if s.streamContext.isSome then .cancelling else .registering }
  | cancel {s : ExampleClient Message Status} :
      s.toggle = .cancelling → Step s .cancel { s with toggle := .outside }
  | register {s : ExampleClient Message Status} {key : Nat} {t : ClientThreads Message Status}
      {p : Option Nat} :
      s.toggle = .registering →
      ClientThreads.Step printing s.threads (.client (.registerStream key)) t →
      Points s.threads t s.streamContext p →
      Step s (.register key)
        { s with threads := t, streamContext := p, toggle := .settingUpdate key }
  | setUpdate {s : ExampleClient Message Status} {key : Nat} {t : ClientThreads Message Status} :
      s.toggle = .settingUpdate key →
      ClientThreads.Step printing s.threads (.client (.onStreamUpdate key)) t →
      Step s .setUpdate { s with threads := t, toggle := .settingFinish key }
  | setFinish {s : ExampleClient Message Status} {key : Nat} {t : ClientThreads Message Status} :
      s.toggle = .settingFinish key →
      ClientThreads.Step printing s.threads (.client (.onStreamFinish key)) t →
      Step s .setFinish { s with threads := t, toggle := .outside }
  | destroy {s : ExampleClient Message Status} {t : ClientThreads Message Status} :
      s.toggle = .outside →
      ClientThreads.Step printing s.threads (.client (.call .kill)) t →
      Step s .destroy { s with threads := t, toggle := .destroying }
  | elsewhere {s : ExampleClient Message Status} {a : ClientThreads.Action Message Status}
      {t : ClientThreads Message Status} {p : Option Nat} :
      s.Elsewhere a → ClientThreads.Step printing s.threads a t →
      Points s.threads t s.streamContext p →
      Step s (.elsewhere a) { s with threads := t, streamContext := p, entered := s.enters a }
  | forget {s : ExampleClient Message Status} {key : Nat} :
      s.entered key = true →
      Step s (.forget key)
        { s with streamContext := none, entered := Function.update s.entered key false }

/-- The states of an example client, from its construction on. -/
abbrev ExampleReachable (s : ExampleClient Message Status) : Prop := Reachable Step initial s

abbrev ExampleRun (tr : List (ExampleClient Message Status × Action Message Status))
    (s : ExampleClient Message Status) : Prop :=
  Run Step initial tr s

variable {s s' : ExampleClient Message Status} {a : Action Message Status}
  {tr : List (ExampleClient Message Status × Action Message Status)}

theorem ExampleReachable.threads (hr : s.ExampleReachable) :
    s.threads.ThreadsReachable printing := by
  refine hr.map ExampleClient.threads ?_
  intro s a s' hs
  cases hs with
  | construct _ hs | register _ hs _ | setUpdate _ hs | setFinish _ hs | destroy _ hs
  | elsewhere _ hs _ => exact Or.inr ⟨_, hs⟩
  | test _ _ | cancel _ | forget _ => exact Or.inl rfl

/-! ## The pointer -/

/-- The context that `stream_context_` points to is there, and the pointer is not null between
the test and the `TryCancel` of `toggle_streaming`. -/
structure Safe (s : ExampleClient Message Status) : Prop where
  alive : ∀ key, s.streamContext = some key → (s.threads.streams key).phase ≠ .none
  found : s.toggle = .cancelling → s.streamContext ≠ none

/-- No stream is stopped while the pointer is to it, and no `on_finish_` sets the pointer
back after `toggle_streaming` has found it. -/
def Guard (s : ExampleClient Message Status) : Action Message Status → Prop
  | .elsewhere .joined => ∀ key, s.threads.joining = some key → s.streamContext ≠ some key
  | .forget _ => s.toggle ≠ .cancelling
  | _ => True

theorem Safe.initial : (initial : ExampleClient Message Status).Safe where
  alive := by
    intro key hp
    cases hp
  found := by
    intro htoggle
    cases htoggle

/-- The pointer is set by a stream that is started, or stays. -/
def Follows (s s' : ExampleClient Message Status) : Prop :=
  (∃ key, ClientThreads.Opens s.threads s'.threads key ∧ s'.streamContext = some key) ∨
    s'.streamContext = s.streamContext

theorem Points.follows
    (h : Points s.threads s'.threads s.streamContext s'.streamContext) : s.Follows s' :=
  h.imp_right And.right

/-- A step of the threads that joins no stream with a pointer to it. -/
theorem Safe.thread {action : ClientThreads.Action Message Status} (h : s.Safe)
    (hr : s.ExampleReachable) (hs : ClientThreads.Step printing s.threads action s'.threads)
    (hp : s.Follows s')
    (hjoined : action = .joined → ∀ key, s.threads.joining = some key → s.streamContext ≠ some key)
    (htoggle : s'.toggle = .cancelling → s.toggle = .cancelling) : s'.Safe := by
  have hsec := ClientThreads.ThreadsReachable.sectionInv hr.threads
  refine ⟨?_, ?_⟩
  · intro key hkey
    rcases hp with ⟨key', hopens, hset⟩ | heq
    · cases hset.symm.trans hkey
      rw [hs.opens hsec hopens]
      simp
    · rw [heq] at hkey
      exact hs.phase_ne_none (h.alive key hkey) fun ha hj => hjoined ha key hj hkey
  · intro hcancel
    rcases hp with ⟨key', -, hset⟩ | heq
    · rw [hset]
      simp
    · rw [heq]
      exact h.found (htoggle hcancel)

/-- A stream is stopped: the pointer to it is good no more. -/
theorem safe_joined {t : ClientThreads Message Status} {p : Option Nat} (hr : s.ExampleReachable)
    (h : s.Safe) (hs : ClientThreads.Step printing s.threads .joined t)
    (hp : Points s.threads t s.streamContext p) :
    Safe { s with threads := t, streamContext := p, entered := s.enters .joined } ↔
      s.Guard (.elsewhere .joined) := by
  constructor
  · intro hsafe key hj hkey
    have hnone : ∀ key, ¬ ClientThreads.Opens s.threads t key := by
      intro key' hopens
      cases hs with
      | joined _ _ => exact hopens.1 hopens.2
    rcases hp with ⟨key', hopens, -⟩ | ⟨-, rfl⟩
    · exact hnone key' hopens
    · exact hsafe.alive key hkey (hs.joined_phase hj)
  · intro hguard
    exact h.thread hr hs hp.follows (fun _ => hguard) id

theorem safe_step (hr : s.ExampleReachable) (h : s.Safe) (hs : Step s a s') :
    s'.Safe ↔ s.Guard a := by
  cases hs with
  | test _ _ =>
      refine iff_of_true ⟨h.alive, ?_⟩ trivial
      intro hcancel hnone
      rw [hnone] at hcancel
      cases hcancel
  | cancel _ =>
      refine iff_of_true ⟨h.alive, ?_⟩ trivial
      intro hcancel
      cases hcancel
  | construct _ hs | setUpdate _ hs | setFinish _ hs | destroy _ hs =>
      refine iff_of_true (h.thread hr hs (Or.inr rfl) ?_ ?_) trivial
      · intro ha
        cases ha
      · intro hcancel
        cases hcancel
  | register _ hs hp =>
      refine iff_of_true (h.thread hr hs hp.follows ?_ ?_) trivial
      · intro ha
        cases ha
      · intro hcancel
        cases hcancel
  | @elsewhere a t p _ hs hp =>
      by_cases ha : a = .joined
      · subst ha
        exact safe_joined hr h hs hp
      · refine iff_of_true (h.thread hr hs hp.follows (fun heq => absurd heq ha) id) ?_
        cases a <;> first | exact trivial | exact absurd rfl ha
  | forget _ =>
      constructor
      · intro hsafe hcancel
        exact hsafe.found hcancel rfl
      · intro hguard
        refine ⟨?_, fun hcancel => absurd hcancel hguard⟩
        intro key hkey
        cases hkey

/-- A run of the client never follows a bad pointer, exactly when its steps meet `Guard`. -/
theorem safe_iff (run : ExampleRun tr s) :
    (∀ t ∈ visited tr s, t.Safe) ↔ ∀ p ∈ tr, p.1.Guard p.2 :=
  run.always_iff .initial safe_step

/-! ## Streams with their callback -/

/-- No stream ends before `toggle_streaming` has set its `on_finish_`. -/
def Attached (s : ExampleClient Message Status) (a : Action Message Status) : Prop :=
  ∀ key status, a = .elsewhere (.finish key status) → s.toggle.setting ≠ some key

/-- The thread of a stream is to set the pointer back, if `on_finish_` is set in time. -/
def Pending (phase : StreamPhase Message Status) (entered : Bool) : Prop :=
  match phase with
  | .reading | .dispatching _ | .updating _ | .finishing => True
  | .finished _ => entered = true
  | .none | .exited => False

/-- Every stream has its `on_finish_` but for the one that is being registered, and the
one that the pointer is to is going to set it back. -/
structure Owned (s : ExampleClient Message Status) : Prop where
  callback : ∀ key t, s.threads.client.shared.streams.lookup key = some t →
    t.onFinish = true ∨ s.toggle.setting = some key
  pending : ∀ key, s.streamContext = some key →
    Pending (s.threads.streams key).phase (s.entered key)

theorem Owned.initial : (initial : ExampleClient Message Status).Owned where
  callback := by
    intro key t hl
    cases hl
  pending := by
    intro key hkey
    cases hkey

variable {action : ClientThreads.Action Message Status} {t : ClientThreads Message Status}
  {key : Nat}

theorem pending_update {key' : Nat} {thread : StreamThread Message Status}
    (h : Pending (s.threads.streams key).phase (s.entered key))
    (ht : key = key' → Pending thread.phase (s.entered key)) :
    Pending (Function.update s.threads.streams key' thread key).phase (s.entered key) := by
  rw [Function.update_apply]
  split
  · exact ht ‹_›
  · exact h

/-- `on_finish_` is called. -/
theorem pending_finish {key' : Nat} {status : Status}
    (h : Pending (s.threads.streams key).phase (s.entered key))
    (hfinish : key' = key → s.threads.client.finishes key = true) :
    Pending ((s.threads.move key' (if s.threads.client.finishes key' then .finished status
      else .exited)).streams key).phase (s.enters (.finish key' status) key) := by
  rw [enters]
  by_cases heq : key' = key
  · subst heq
    rw [ClientThreads.move_phase, if_pos (hfinish rfl), if_pos (hfinish rfl),
      Function.update_self]
    rfl
  · rw [ClientThreads.move_of_ne (Ne.symm heq)]
    split
    · rw [Function.update_of_ne (Ne.symm heq)]
      exact h
    · exact h

theorem pending_thread (h : Pending (s.threads.streams key).phase (s.entered key))
    (hs : ClientThreads.Step printing s.threads action t)
    (hexit : ∀ key, action = .exit key → s.entered key = false)
    (hfinish : ∀ status, action = .finish key status →
      (s.threads.streams key).phase = .finishing → s.threads.client.finishes key = true) :
    Pending (t.streams key).phase (s.enters action key) := by
  cases hs with
  | client _ _ _ _ =>
      show Pending (ClientThreads.started _ _ _ key).phase (s.entered key)
      rw [ClientThreads.started]
      split
      · trivial
      · exact h
  | joined _ hexited =>
      refine pending_update h ?_
      rintro rfl
      rw [hexited] at h
      exact h
  | dispatch _ => split <;> exact pending_update h fun _ => trivial
  | read _ | readEnd _ | updated _ _ => exact pending_update h fun _ => trivial
  | finish hphase =>
      refine pending_finish h ?_
      rintro rfl
      exact hfinish _ rfl hphase
  | exit hphase _ =>
      refine pending_update h ?_
      rintro rfl
      rw [hphase] at h
      exact absurd ((hexit _ rfl).symm.trans h) Bool.false_ne_true
  | acquire _ _ _ _ | skip _ _ | cancel _ _ | release _ _ | ask _ _ | answer _ _ => exact h

/-- A stream that ends while it is not being registered calls its `on_finish_`. -/
theorem Owned.finishes (h : s.Owned) (hr : s.ExampleReachable)
    (hphase : (s.threads.streams key).phase = .finishing)
    (hsetting : s.toggle.setting ≠ some key) : s.threads.client.finishes key = true := by
  have hstreaming : s.threads.client.shared.streamingAt key = some true := by
    by_contra hnot
    have hnone := (ClientThreads.ThreadsReachable.threadInv hr.threads).streaming key hnot
    cases hphase.symm.trans hnone
  obtain ⟨u, hu, -⟩ := Option.map_eq_some_iff.mp hstreaming
  rw [GrpcClient.finishes, hu]
  exact (h.callback key u hu).resolve_right hsetting

/-- A step of the threads, and the place of the owner after it. -/
theorem Owned.thread (h : s.Owned) (hr : s.ExampleReachable)
    (hs : ClientThreads.Step printing s.threads action s'.threads)
    (hp : s.Follows s')
    (hexit : ∀ key, action = .exit key → s.entered key = false)
    (hfinish : ∀ key status, action = .finish key status → s.toggle.setting ≠ some key)
    (hentered : s'.entered = s.enters action)
    (hregister : ∀ key, action = .client (.registerStream key) → s'.toggle.setting = some key)
    (hsetting : ∀ key, s.toggle.setting = some key →
      s'.toggle.setting = some key ∨ action = .client (.onStreamFinish key)) : s'.Owned where
  callback := by
    intro key u hl
    have hsec := ClientThreads.ThreadsReachable.sectionInv hr.threads
    rcases hs.kept hsec hl with hnew | ⟨v, hv, hkeep⟩
    · exact Or.inr (hregister key hnew)
    · rcases h.callback key v hv with hset | hstill
      · exact Or.inl (hkeep hset)
      · rcases hsetting key hstill with hstill | hdone
        · exact Or.inr hstill
        · rw [hdone] at hs
          exact Or.inl (hs.onStreamFinish_lookup hl)
  pending := by
    intro key hkey
    rw [hentered]
    rcases hp with ⟨key', hopens, hset⟩ | heq
    · cases hset.symm.trans hkey
      rw [hs.opens (ClientThreads.ThreadsReachable.sectionInv hr.threads) hopens]
      trivial
    · rw [heq] at hkey
      refine pending_thread (h.pending key hkey) hs hexit ?_
      intro status ha hphase
      exact h.finishes hr hphase (hfinish key status ha)

/-- A call of the client by its owner. -/
theorem Owned.call {action : GrpcClient.Action} (h : s.Owned) (hr : s.ExampleReachable)
    (hs : ClientThreads.Step printing s.threads (.client action) s'.threads)
    (hp : s.Follows s')
    (hentered : s'.entered = s.entered)
    (hregister : ∀ key, action = .registerStream key → s'.toggle.setting = some key)
    (hsetting : ∀ key, s.toggle.setting = some key →
      s'.toggle.setting = some key ∨ action = .onStreamFinish key) : s'.Owned := by
  refine h.thread hr hs hp ?_ ?_ hentered ?_ ?_
  · intro key heq
    cases heq
  · intro key status heq
    cases heq
  · intro key heq
    exact hregister key (ClientThreads.Action.client.inj heq)
  · intro key hstill
    exact (hsetting key hstill).imp_right (congrArg ClientThreads.Action.client)

/-- The owner goes on, and is registering no stream. -/
theorem Owned.goOn {toggle : Toggle} (h : s.Owned) (hnone : s.toggle.setting = none) :
    Owned { s with toggle := toggle } where
  callback := by
    intro key u hl
    refine Or.inl ((h.callback key u hl).resolve_right ?_)
    rw [hnone]
    simp
  pending := h.pending

theorem Owned.step (h : s.Owned) (hr : s.ExampleReachable) (hs : Step s a s')
    (ha : s.Attached a) : s'.Owned := by
  cases hs with
  | test htoggle _ | cancel htoggle => exact h.goOn (by rw [htoggle]; rfl)
  | forget _ =>
      refine ⟨h.callback, ?_⟩
      intro key hkey
      cases hkey
  | construct htoggle hs | destroy htoggle hs =>
      refine h.call hr hs (Or.inr rfl) rfl ?_ ?_
      · intro _ heq
        cases heq
      · intro _ heq
        rw [htoggle] at heq
        cases heq
  | register htoggle hs hp =>
      refine h.call hr hs hp.follows rfl ?_ ?_
      · intro _ heq
        cases heq
        rfl
      · intro _ heq
        rw [htoggle] at heq
        cases heq
  | setUpdate htoggle hs =>
      refine h.call hr hs (Or.inr rfl) rfl ?_ ?_
      · intro _ heq
        cases heq
      · intro _ heq
        rw [htoggle] at heq
        exact Or.inl heq
  | setFinish htoggle hs =>
      refine h.call hr hs (Or.inr rfl) rfl ?_ ?_
      · intro _ heq
        cases heq
      · intro _ heq
        rw [htoggle] at heq
        cases heq
        exact Or.inr rfl
  | @elsewhere action t p hel hs hp =>
      refine h.thread hr hs hp.follows ?_ ?_ rfl ?_ fun _ => Or.inl
      · rintro key rfl
        exact hel
      · rintro key status rfl
        exact ha key status rfl
      · rintro key rfl
        exact hel.elim

theorem owned (hr : Reachable (Restrict Step Attached) initial s) : s.Owned :=
  hr.invariant .initial fun hr h hs => h.step hr.of_restrict hs.1 hs.2

/-- The thread of a stream that is joined has set the pointer back. -/
theorem Owned.not_joining (h : s.Owned) (hs : ClientThreads.Step printing s.threads .joined t) :
    ∀ key, s.threads.joining = some key → s.streamContext ≠ some key := by
  intro key hj hkey
  obtain ⟨_, _, hlock⟩ := ClientThreads.joining_eq_some.mp hj
  cases hs with
  | joined hlock' hexited =>
      cases hlock.symm.trans hlock'
      have hpending := h.pending key hkey
      rw [hexited] at hpending
      exact hpending

/-- If no stream ends before its `on_finish_` is set, the client follows no bad pointer
exactly when `on_finish_` never sets the pointer back between the two statements of
`toggle_streaming` that use it. -/
theorem safe_iff_attached (run : ExampleRun tr s) (hattached : ∀ p ∈ tr, p.1.Attached p.2) :
    (∀ t ∈ visited tr s, t.Safe) ↔
      ∀ p ∈ tr, p.1.toggle = .cancelling → ∀ key, p.2 ≠ .forget key := by
  rw [safe_iff run]
  refine forall₂_congr fun p hp => ?_
  obtain ⟨hr, s', hs, -⟩ := (run.restrict hattached).of_mem hp
  obtain ⟨s, a⟩ := p
  constructor
  · rintro hguard hcancel key rfl
    exact hguard hcancel
  · intro hforget
    cases hs with
    | forget _ => exact fun hcancel => hforget hcancel _ rfl
    | @elsewhere action _ _ _ hs _ =>
        by_cases ha : action = .joined
        · subst ha
          exact (owned hr).not_joining hs
        · cases action <;> first | exact trivial | exact absurd rfl ha
    | construct _ _ | test _ _ | cancel _ | register _ _ _ | setUpdate _ _ | setFinish _ _
    | destroy _ _ => trivial

/-! ## A client that toggles its stream -/

/-- A step that starts no stream. -/
theorem Step.still (hs : ClientThreads.Step printing s.threads action t)
    (hel : s.Elsewhere action) (hstill : ∀ key, ¬ ClientThreads.Opens s.threads t key) :
    Step s (.elsewhere action) { s with threads := t, entered := s.enters action } :=
  .elsewhere hel hs (Or.inr ⟨hstill, rfl⟩)

/-- A step that leaves the shared data. -/
theorem Step.unshared (hs : ClientThreads.Step printing s.threads action t)
    (hel : s.Elsewhere action) (hshared : t.client.shared = s.threads.client.shared) :
    Step s (.elsewhere action) { s with threads := t, entered := s.enters action } := by
  refine .still hs hel fun key hopens => ?_
  rw [ClientThreads.Opens, hshared] at hopens
  exact hopens.1 hopens.2

/-- A client that is connected and has no streams. -/
structure Connected (s : ExampleClient Message Status) : Prop where
  shared : s.threads.client.shared = ⟨.ready, some 1, some (newStub (some 1)), ∅⟩
  owner : s.threads.client.owner = .idle
  run : s.threads.client.runThread = .joinable .waiting
  queue : s.threads.client.queue = some ⟨false, 1⟩
  lock : s.threads.lock = none
  thread : ∀ key, s.threads.streams key = .new
  asking : ∀ t, s.threads.asking t = false
  toggle : s.toggle = .registering

theorem exists_connected : ∃ (tr : List (ExampleClient Nat Nat × Action Nat Nat))
    (s : ExampleClient Nat Nat), ExampleRun tr s ∧ s.Connected ∧
      ∀ p ∈ tr, p.1.Attached p.2 ∧ ∀ key, p.2 ≠ .forget key := by
  have r : ExampleRun [] (initial : ExampleClient Nat Nat) := .start
  have r := r.step (@Step.construct _ _ _ "0.0.0.0:50055" _ rfl (.client (.call rfl) id
    (by intro h; cases h) (by intro _ h; cases h)))
  have r := r.step (.unshared (.acquire (.kill rfl) trivial rfl (List.Perm.refl [])) trivial rfl)
  have r := r.step (.still (.release rfl (.kill rfl)) trivial (by intro _ h; cases h.2))
  have r := r.step (.unshared (.client (.shutdownQueue rfl) id (by intro h; cases h)
    (by intro _ h; cases h)) trivial rfl)
  have r := r.step (.unshared (.client (.join rfl (by intro _ h; cases h)) id
    (by intro h; cases h) (by intro _ h; cases h)) trivial rfl)
  have r := r.step (.still (.client (@GrpcClient.Step.connect _ 1 .ready rfl) id
    (fun _ => rfl) (by intro _ h; cases h)) trivial (by intro _ h; cases h.2))
  have r := r.step (.unshared (.client (@GrpcClient.Step.report _ .connected rfl) id
    (by intro h; cases h) (by intro _ _; rfl)) trivial rfl)
  have r := r.step (.unshared (.client (.start rfl) id
    (by intro h; cases h) (by intro _ h; cases h)) trivial rfl)
  have r := r.step (.test rfl rfl)
  refine ⟨_, _, r, ⟨rfl, rfl, rfl, rfl, rfl, fun _ => rfl, fun _ => rfl, rfl⟩, ?_⟩
  simp [Attached]

/-- A connected client whose stream is being registered. -/
structure Registering (s : ExampleClient Message Status) (key : Nat) : Prop where
  stream : s.threads.Registered key
  finishes : s.threads.client.finishes key = false
  run : s.threads.client.runThread = .joinable .waiting
  queue : s.threads.client.queue = some ⟨false, 1⟩
  channel : s.threads.client.shared.channel = some 1
  state : s.threads.client.shared.connectionState = .ready
  context : s.streamContext = some key
  toggle : s.toggle = .settingUpdate key

theorem exists_registering : ∃ (tr : List (ExampleClient Nat Nat × Action Nat Nat))
    (s : ExampleClient Nat Nat), ExampleRun tr s ∧ s.Registering 5 ∧
      ∀ p ∈ tr, p.1.Attached p.2 ∧ ∀ key, p.2 ≠ .forget key := by
  obtain ⟨tr, s, r, hconn, htr⟩ := exists_connected
  have hlookup : AList.lookup 5 ((∅ : Streams).emplace 5 (GrpcClientStream.new.startStream
      (newStub (some 1)))) = some (GrpcClientStream.new.startStream (newStub (some 1))) := by
    rw [Map.lookup_emplace (AList.notMem_empty 5), if_pos rfl]
  have hstreaming := congrArg (Option.map GrpcClientStream.streaming) hlookup
  have hnone : s.threads.client.shared.streamingAt 5 ≠ some true := by
    rw [hconn.shared]
    intro h
    cases h
  have hregister := @GrpcClient.Step.registerStream s.threads.client 5 _ hconn.owner
    (by rw [hconn.shared]; exact AList.notMem_empty 5) (by rw [hconn.shared]; rfl)
  have r := r.step (.register hconn.toggle (.client hregister id (fun _ => hconn.lock)
    (by intro _ h; cases h)) (Or.inl ⟨5, ⟨hnone, hstreaming⟩, rfl⟩))
  refine ⟨_, _, r, ⟨⟨hconn.owner, rfl, hstreaming,
    congrArg (Option.any GrpcClientStream.onUpdate) hlookup, hconn.lock, ?_, hconn.asking⟩,
    congrArg (Option.any GrpcClientStream.onFinish) hlookup, hconn.run, hconn.queue, rfl, rfl,
    rfl, rfl⟩, ?_⟩
  · show ClientThreads.started _ _ _ 5 = _
    rw [ClientThreads.started, if_pos ⟨hnone, hstreaming⟩, hconn.thread]
    rfl
  · refine List.forall_mem_cons.mpr ⟨?_, htr⟩
    simp [Attached]

/-- The callbacks of a stream are set. -/
theorem exists_setCallbacks (run : ExampleRun tr s) (howner : s.threads.client.owner = .idle)
    (hlock : s.threads.lock = none) (htoggle : s.toggle = .settingUpdate key) :
    ∃ s₁ s₂, ExampleRun ((s₁, .setFinish) :: (s, .setUpdate) :: tr) s₂ ∧
      s₂.threads.client.owner = .idle ∧ s₂.threads.streams = s.threads.streams ∧
      s₂.streamContext = s.streamContext ∧ s₂.toggle = .outside := by
  have run := run.step (.setUpdate htoggle (.client (.onStreamUpdate howner) id
    (fun _ => hlock) (by intro _ h; cases h)))
  have run := run.step (.setFinish rfl (.client (.onStreamFinish howner) id
    (fun _ => hlock) (by intro _ h; cases h)))
  refine ⟨_, _, run, howner, ?_, rfl, rfl⟩
  funext key
  show ClientThreads.started _ _ (ClientThreads.started _ _ _) key = _
  rw [ClientThreads.started, SharedData.streamingAt_onStreamFinish, if_neg fun h => h.1 h.2,
    ClientThreads.started, SharedData.streamingAt_onStreamUpdate, if_neg fun h => h.1 h.2]

/-- A client registers its stream, cancels it and is told of its end. -/
theorem safe_iff_attached_toggled : ∃ (tr : List (ExampleClient Nat Nat × Action Nat Nat))
    (s : ExampleClient Nat Nat), ExampleRun tr s ∧ (∃ p ∈ tr, p.2 = .cancel) ∧
      (∃ p ∈ tr, p.2 = .forget 5) ∧ ∀ t ∈ visited tr s, t.Safe := by
  obtain ⟨tr, s, r, hreg, htr⟩ := exists_registering
  obtain ⟨s₁, s₂, r, howner, hstreams, hcontext, htoggle⟩ :=
    exists_setCallbacks r hreg.stream.owner hreg.stream.lock hreg.toggle
  have hphase : (s₂.threads.streams 5).phase = .reading := by
    rw [hstreams, hreg.stream.thread]
  have r := r.step (.test htoggle howner)
  have r := r.step (.cancel (by simp [hcontext, hreg.context]))
  have r := r.step (.unshared (@ClientThreads.Step.readEnd _ _ _ _ 5 hphase) trivial rfl)
  have hattached : Run (Restrict Step Attached) initial _ _ := r.restrict (by
    simpa [Attached] using fun p q hp => (htr (p, q) hp).1)
  have hfinishes := (owned hattached.reachable).finishes r.reachable ClientThreads.move_phase
    (by simp [Toggle.setting])
  have r := r.step (.unshared (@ClientThreads.Step.finishCall _ _ _ _ 5 0
    ClientThreads.move_phase hfinishes) trivial rfl)
  have r := r.step (@Step.forget _ _ _ 5 (by
    show (if _ then _ else _ : Nat → Bool) 5 = true
    rw [if_pos hfinishes, Function.update_self]))
  refine ⟨_, _, r, by simp, by simp, (safe_iff_attached r ?_).mpr ?_⟩
  · simpa [Attached, Toggle.setting] using fun p q hp => (htr (p, q) hp).1
  · simpa using fun p q hp _ => (htr (p, q) hp).2

/-- A stream whose callback is set too late leaves the pointer behind: the run thread
stops the stream, and `toggle_streaming` follows the pointer to its context. -/
theorem exists_dangling : ∃ (tr : List (ExampleClient Nat Nat × Action Nat Nat))
    (s : ExampleClient Nat Nat), ExampleRun tr s ∧ (∀ p ∈ tr, ∀ key, p.2 ≠ .forget key) ∧
      s.toggle = .cancelling ∧ ¬ s.Safe := by
  obtain ⟨tr, s, r, hreg, htr⟩ := exists_registering
  obtain ⟨handled, hhandled⟩ : ∃ handled,
      s.threads.client.shared.handleEvent true .transientFailure = some handled := by
    rw [SharedData.handleEvent, hreg.channel]
    simp [SharedData.observe, hreg.state, toCncClientState]
  have hstop : toCncClientState .transientFailure ≠ s.threads.client.getState := by
    rw [GrpcClient.getState, hreg.state]
    decide
  have hchannel : s.threads.client.shared.channel.isSome := by
    rw [hreg.channel]
    rfl
  have r := r.step (.unshared (@ClientThreads.Step.readEnd _ _ _ _ 5
    (by rw [hreg.stream.thread])) trivial rfl)
  have r := r.step (.unshared (@ClientThreads.Step.finishQuiet _ _ _ _ 5 0
    ClientThreads.move_phase hreg.finishes) trivial rfl)
  have hnext := @ClientThreads.Step.client _ _ printing
    ((s.threads.move 5 .finishing).move 5 .exited) _ _
    (@GrpcClient.Step.next _ _ _ true hreg.run hreg.queue rfl) id (by intro h; cases h)
    (by intro _ h; cases h)
  have hexited := hnext.streams_eq hreg.stream.streaming
  have r := r.step (.unshared hnext trivial rfl)
  have hhandle := @GrpcClient.Step.handle { s.threads.client with
    queue := some ⟨false, 0⟩, runThread := .joinable (.handling true) } true _ _ rfl hhandled
  have hstops : GrpcClient.Stops { s.threads.client with
      queue := some ⟨false, 0⟩, runThread := .joinable (.handling true) }
      (.handle .transientFailure) := ⟨rfl, hchannel, hstop, by decide⟩
  have r := r.step (.unshared (.acquire hhandle hstops hreg.stream.lock
    (List.Perm.of_eq hreg.stream.keys.symm)) trivial rfl)
  have r := r.step (.unshared (.cancel rfl hreg.stream.streaming) trivial rfl)
  have r := r.step (.unshared (.joined rfl (by rw [hexited, ClientThreads.move_phase])) trivial rfl)
  have r := r.step (.still (.release rfl hhandle) trivial
    fun key hopens => hhandle.not_streaming hstops ⟨key, hopens.2⟩)
  obtain ⟨s₁, s₂, r, howner, hstreams, hcontext, htoggle⟩ :=
    exists_setCallbacks r (GrpcClient.handle_owner.trans hreg.stream.owner) rfl hreg.toggle
  have r := r.step (.test htoggle howner)
  refine ⟨_, _, r, ?_, ?_, ?_⟩
  · simpa using fun p q hp => (htr (p, q) hp).2
  · simp [hcontext, hreg.context]
  · intro hsafe
    refine hsafe.alive 5 (hcontext.trans hreg.context) ?_
    show (s₂.threads.streams 5).phase = .none
    rw [hstreams]
    exact ClientThreads.move_phase

end ExampleClient

end Grpcw.Example
