import GrpcWrapper.Library.Progress
import GrpcWrapper.Client.CallbackDeadlock
import GrpcWrapper.Client.StreamCallbacks
import GrpcWrapper.Client.WatchDiscipline

/-!
# A kill returns

A section that stops the streams has the lock until every thread that it joins has
ended, and `kill_streams_and_channel` then waits for the run thread.  When no
callback of a stream asks for the lock, both come to their end: all other threads
may do what they like in between, as long as gRPC returns finitely many messages on
a stream that was cancelled and, for the kill, the callback of the run thread calls
`get_state` and `use_stub` finitely often (`section_releases`, `kill_returns`).

The streams that are still to be stopped may read on.  Their threads do not count:
each stream has a constant share in the measure until its turn comes, and then the
share is what its thread has to go.
-/

namespace Grpcw.Client

open Transition

variable {Message Status : Type}

/-- Before the section of a kill, in it or past it. -/
def OwnerPhase.InKill : OwnerPhase → Prop
  | .killing _ | .shuttingDown _ | .joining _ => True
  | .idle | .connecting | .connectingInProcess _ | .reporting _ | .starting => False

theorem StreamPhase.weight_le (p : StreamPhase Message Status) : p.weight ≤ 7 := by
  cases p <;> simp [weight]

namespace ClientThreads

variable {calls : Callbacks Message Status} {s s' : ClientThreads Message Status}
  {a : Action Message Status} {key : Nat}

/-! ## The section -/

/-- The stream whose thread is being joined. -/
def joining (s : ClientThreads Message Status) : Option Nat :=
  match s.lock with
  | some ⟨_, key :: _, true⟩ => some key
  | _ => none

/-- The steps that a section waits for: its own, and those of the thread that it joins. -/
inductive HelpsSection (s : ClientThreads Message Status) : Action Message Status → Prop where
  | skip : HelpsSection s .skip
  | cancel : HelpsSection s .cancel
  | joined : HelpsSection s .joined
  | release : HelpsSection s .release
  | readEnd {key : Nat} : s.joining = some key → HelpsSection s (.readEnd key)
  | dispatch {key : Nat} : s.joining = some key → HelpsSection s (.dispatch key)
  | updated {key : Nat} : s.joining = some key → HelpsSection s (.updated key)
  | finish {key : Nat} {status : Status} :
      s.joining = some key → HelpsSection s (.finish key status)
  | exit {key : Nat} : s.joining = some key → HelpsSection s (.exit key)

/-- What sets a section back: a message on the stream that was cancelled. -/
def setBack (s : ClientThreads Message Status) : Action Message Status → Nat
  | .read key _ => if s.joining = some key then 3 else 0
  | _ => 0

/-- A bound on the steps that the section has to go. -/
def sectionToGo (s : ClientThreads Message Status) : Nat :=
  match s.lock with
  | none | some ⟨_, [], true⟩ => 0
  | some ⟨_, left, false⟩ => 10 * left.length + 1
  | some ⟨_, key :: left, true⟩ => 10 * left.length + (s.streams key).phase.weight

theorem joining_eq_some : s.joining = some key ↔
    ∃ action left, s.lock = some ⟨action, key :: left, true⟩ := by
  rw [joining]
  constructor
  · intro h
    split at h
    · cases h
      exact ⟨_, _, ‹_›⟩
    · cases h
  · rintro ⟨action, left, hlock⟩
    rw [hlock]

/-- Threads that are not being joined do not count. -/
theorem sectionToGo_congr (hlock : s'.lock = s.lock)
    (hphase : ∀ key, s.joining = some key →
      (s'.streams key).phase.weight = (s.streams key).phase.weight) :
    s'.sectionToGo = s.sectionToGo := by
  rw [sectionToGo, hlock, sectionToGo]
  split
  · rfl
  · rfl
  · rfl
  · rw [hphase _ (joining_eq_some.mpr ⟨_, _, ‹_›⟩)]

/-- The thread of another stream goes on. -/
theorem sectionToGo_other {t : StreamThread Message Status} (hne : s.joining ≠ some key) :
    ({ s with streams := Function.update s.streams key t } :
      ClientThreads Message Status).sectionToGo = s.sectionToGo := by
  refine sectionToGo_congr rfl fun key' hkey' => ?_
  have hne' : key' ≠ key := by
    rintro rfl
    exact hne hkey'
  show (Function.update s.streams key t key').phase.weight = _
  rw [Function.update_of_ne hne']

/-- The thread that is being joined goes on. -/
theorem sectionToGo_joining {t : StreamThread Message Status} {k : Nat}
    (hjoining : s.joining = some key)
    (hweight : t.phase.weight ≤ (s.streams key).phase.weight + k) :
    ({ s with streams := Function.update s.streams key t } :
      ClientThreads Message Status).sectionToGo ≤ s.sectionToGo + k := by
  obtain ⟨action, left, hlock⟩ := joining_eq_some.mp hjoining
  simp only [sectionToGo, hlock, Function.update_self]
  omega

theorem sectionToGo_joining_lt {t : StreamThread Message Status}
    (hjoining : s.joining = some key)
    (hweight : t.phase.weight < (s.streams key).phase.weight) :
    ({ s with streams := Function.update s.streams key t } :
      ClientThreads Message Status).sectionToGo < s.sectionToGo := by
  obtain ⟨action, left, hlock⟩ := joining_eq_some.mp hjoining
  simp only [sectionToGo, hlock, Function.update_self]
  omega

/-- The stream whose thread is being joined is streaming. -/
def Joining (s : ClientThreads Message Status) : Prop :=
  ∀ w, s.lock = some w → w.joining = true →
    ∃ key left, w.left = key :: left ∧ s.client.shared.streamingAt key = some true

theorem Joining.congr (h : s.Joining) (hlock : s'.lock = s.lock)
    (hshared : ∀ w, s.lock = some w → s'.client.shared = s.client.shared) : s'.Joining := by
  intro w hw hjoining
  rw [hlock] at hw
  rw [hshared w hw]
  exact h w hw hjoining

theorem Joining.step (h : s.Joining) (hs : Step calls s a s') : s'.Joining := by
  cases hs with
  | client hs _ hlock _ =>
      exact h.congr rfl fun w hw => hs.shared_eq (locks_eq_false hw hlock)
  | acquire _ _ _ _ | skip _ _ | joined _ _ =>
      intro w hw hjoining
      cases hw
      cases hjoining
  | cancel _ hstr =>
      intro w hw _
      cases hw
      exact ⟨_, _, rfl, hstr⟩
  | release _ _ =>
      intro w hw
      cases hw
  | dispatch _ => split <;> exact h.congr rfl fun _ _ => rfl
  | read _ | readEnd _ | updated _ _ | finish _ | exit _ _ | ask _ _ | answer _ _ =>
      exact h.congr rfl fun _ _ => rfl

theorem ThreadsReachable.joining (hr : s.ThreadsReachable calls) : s.Joining :=
  hr.invariant (fun _ hw => by cases hw) fun _ h hs => h.step hs

/-- A step that the section waits for: it lets the lock go, or has less to go. -/
theorem section_lower {w : Stopping} (hlock : s.lock = some w) (hhelps : HelpsSection s a)
    (hs : Step calls s a s') :
    (s'.lock = none ∧ GrpcClient.Step s.client w.action s'.client) ∨
      s'.client = s.client ∧ (∃ w', s'.lock = some w' ∧ w'.action = w.action) ∧
        s'.sectionToGo < s.sectionToGo := by
  cases hs with
  | client _ _ _ _ | acquire _ _ _ _ | read _ | ask _ _ | answer _ _ => cases hhelps
  | skip hlock' _ =>
      cases hlock.symm.trans hlock'
      refine Or.inr ⟨rfl, ⟨_, rfl, rfl⟩, ?_⟩
      simp only [sectionToGo, hlock, List.length_cons]
      omega
  | @cancel action key left hlock' _ =>
      cases hlock.symm.trans hlock'
      refine Or.inr ⟨rfl, ⟨_, rfl, rfl⟩, ?_⟩
      simp only [sectionToGo, hlock, List.length_cons]
      have hle := (s.streams key).phase.weight_le
      omega
  | @joined action key left hlock' hphase =>
      cases hlock.symm.trans hlock'
      refine Or.inr ⟨rfl, ⟨_, rfl, rfl⟩, ?_⟩
      simp only [sectionToGo, hlock, hphase, move, StreamPhase.weight]
      omega
  | release hlock' hstep =>
      cases hlock.symm.trans hlock'
      exact Or.inl ⟨rfl, hstep⟩
  | readEnd hphase =>
      cases hhelps with
      | readEnd hjoining =>
          refine Or.inr ⟨rfl, ⟨w, hlock, rfl⟩, sectionToGo_joining_lt hjoining ?_⟩
          simp [hphase, StreamPhase.weight]
  | dispatch hphase =>
      cases hhelps with
      | dispatch hjoining =>
          split
          · refine Or.inr ⟨rfl, ⟨w, hlock, rfl⟩, sectionToGo_joining_lt hjoining ?_⟩
            simp [hphase, StreamPhase.weight]
          · refine Or.inr ⟨rfl, ⟨w, hlock, rfl⟩, sectionToGo_joining_lt hjoining ?_⟩
            simp [hphase, StreamPhase.weight]
  | updated hphase _ =>
      cases hhelps with
      | updated hjoining =>
          refine Or.inr ⟨rfl, ⟨w, hlock, rfl⟩, sectionToGo_joining_lt hjoining ?_⟩
          simp [hphase, StreamPhase.weight]
  | finish hphase =>
      cases hhelps with
      | finish hjoining =>
          refine Or.inr ⟨rfl, ⟨w, hlock, rfl⟩, sectionToGo_joining_lt hjoining ?_⟩
          rw [hphase]
          show (if s.client.finishes _ then StreamPhase.finished _ else .exited).weight < _
          split <;> simp [StreamPhase.weight]
  | exit hphase _ =>
      cases hhelps with
      | exit hjoining =>
          refine Or.inr ⟨rfl, ⟨w, hlock, rfl⟩, sectionToGo_joining_lt hjoining ?_⟩
          simp [hphase, StreamPhase.weight]

/-- Any other step leaves the section where it is. -/
theorem section_keep {w : Stopping} (hlock : s.lock = some w) (hhelps : ¬ HelpsSection s a)
    (hs : Step calls s a s') :
    s'.lock = some w ∧ s'.sectionToGo ≤ s.sectionToGo + s.setBack a ∧
      (s'.client = s.client ∨
        ∃ action, action.locks = false ∧ GrpcClient.Step s.client action s'.client) := by
  have hother : ∀ {key : Nat} {t : StreamThread Message Status},
      s.joining ≠ some key →
      ({ s with streams := Function.update s.streams key t } :
        ClientThreads Message Status).sectionToGo ≤ s.sectionToGo :=
    fun hne => Nat.le_of_eq (sectionToGo_other hne)
  cases hs with
  | skip _ _ => exact absurd .skip hhelps
  | cancel _ _ => exact absurd .cancel hhelps
  | joined _ _ => exact absurd .joined hhelps
  | release _ _ => exact absurd .release hhelps
  | acquire _ _ hfree _ | answer _ hfree => cases hlock.symm.trans hfree
  | @client action c hstep _ hfree _ =>
      have hlocks := locks_eq_false hlock hfree
      have hstreams : started s.client c s.streams = s.streams := by
        funext key
        rw [started, hstep.shared_eq hlocks]
        exact if_neg fun hst => hst.1 hst.2
      refine ⟨hlock, ?_, Or.inr ⟨action, hlocks, hstep⟩⟩
      exact Nat.le_of_eq (sectionToGo_congr rfl fun key _ => by rw [hstreams])
  | @read key update hphase =>
      refine ⟨hlock, ?_, Or.inl rfl⟩
      rw [setBack]
      split
      · rename_i hjoining
        exact sectionToGo_joining hjoining (by simp [hphase, StreamPhase.weight])
      · exact hother ‹_›
  | readEnd _ => exact ⟨hlock, hother fun h => hhelps (.readEnd h), Or.inl rfl⟩
  | dispatch _ =>
      split
      · exact ⟨hlock, hother fun h => hhelps (.dispatch h), Or.inl rfl⟩
      · exact ⟨hlock, hother fun h => hhelps (.dispatch h), Or.inl rfl⟩
  | updated _ _ => exact ⟨hlock, hother fun h => hhelps (.updated h), Or.inl rfl⟩
  | finish _ => exact ⟨hlock, hother fun h => hhelps (.finish h), Or.inl rfl⟩
  | exit _ _ => exact ⟨hlock, hother fun h => hhelps (.exit h), Or.inl rfl⟩
  | ask _ _ => exact ⟨hlock, Nat.le_add_right _ _, Or.inl rfl⟩

/-- The callbacks of the streams do not ask for the lock. -/
structure Quiet (calls : Callbacks Message Status) : Prop where
  onUpdate : ∀ key update, ¬ calls.onUpdate key update
  onFinish : ∀ key status, ¬ calls.onFinish key status

theorem Quiet.not_asking (hq : Quiet calls) (hr : s.ThreadsReachable calls) (key : Nat) :
    s.asking (.stream key) = false := by
  refine Bool.eq_false_iff.mpr fun hask => ?_
  rcases ThreadsReachable.asksInCallback hr key hask with ⟨update, -, h⟩ | ⟨status, -, h⟩
  · exact hq.onUpdate key update h
  · exact hq.onFinish key status h

/-- The section, or the thread that it joins, can go on. -/
theorem section_live [Inhabited Status] {w : Stopping} (hq : Quiet calls)
    (hr : s.ThreadsReachable calls) (hlock : s.lock = some w) :
    ∃ a s', HelpsSection s a ∧ Step calls s a s' := by
  obtain ⟨action, left, isJoining⟩ := w
  cases isJoining with
  | false =>
      cases left with
      | nil =>
          obtain ⟨c, hstep⟩ := (ThreadsReachable.sectionInv hr).ends _ hlock
          exact ⟨.release, _, .release, .release hlock hstep⟩
      | cons key left =>
          by_cases hstr : s.client.shared.streamingAt key = some true
          · exact ⟨.cancel, _, .cancel, .cancel hlock hstr⟩
          · exact ⟨.skip, _, .skip, .skip hlock hstr⟩
  | true =>
      obtain ⟨key, left', hleft, hstr⟩ := ThreadsReachable.joining hr _ hlock rfl
      change left = key :: left' at hleft
      subst hleft
      have hjoining : s.joining = some key := joining_eq_some.mpr ⟨action, left', hlock⟩
      have halive : (s.streams key).phase ≠ .none := by
        refine (ThreadsReachable.threadInv hr).running key hstr fun w hw => ?_
        cases hlock.symm.trans hw
        exact List.mem_cons_self
      cases hphase : (s.streams key).phase with
      | none => exact absurd hphase halive
      | reading => exact ⟨.readEnd key, _, .readEnd hjoining, .readEnd hphase⟩
      | dispatching update => exact ⟨.dispatch key, _, .dispatch hjoining, .dispatch hphase⟩
      | updating update =>
          exact ⟨.updated key, _, .updated hjoining, .updated hphase (hq.not_asking hr key)⟩
      | finishing => exact ⟨.finish key default, _, .finish hjoining, .finish hphase⟩
      | finished status =>
          exact ⟨.exit key, _, .exit hjoining, .exit hphase (hq.not_asking hr key)⟩
      | exited => exact ⟨.joined, _, .joined, .joined hlock hphase⟩

/-- Whoever has the lock lets it go. -/
theorem section_releases [Inhabited Status] {w : Stopping} (hq : Quiet calls)
    (hr : s.ThreadsReachable calls) (hlock : s.lock = some w) :
    Advances (Step calls) HelpsSection setBack (fun s => s.lock = none) s.sectionToGo s := by
  refine advances_of_measure (I := fun s => s.ThreadsReachable calls ∧ ∃ w, s.lock = some w)
    sectionToGo ?_ ?_ ?_ ⟨hr, w, hlock⟩
  · intro s a s' ⟨hr, w, hlock⟩ hhelps hs
    rcases section_lower hlock hhelps hs with ⟨hfree, -⟩ | ⟨-, ⟨w', hlock', -⟩, hlt⟩
    · exact Or.inl hfree
    · exact Or.inr ⟨⟨hr.tail hs, w', hlock'⟩, hlt⟩
  · intro s a s' ⟨hr, w, hlock⟩ hhelps hs
    obtain ⟨hlock', hle, -⟩ := section_keep hlock hhelps hs
    exact Or.inr ⟨⟨hr.tail hs, w, hlock'⟩, hle⟩
  · intro s ⟨hr, w, hlock⟩ _
    exact section_live hq hr hlock

/-- A client with one stream is killed, and its connection callback may ask for the lock. -/
theorem exists_killing : ∃ s : ClientThreads Nat Nat,
    s.ThreadsReachable ⟨fun _ => True, fun _ _ => False, fun _ _ => False⟩ ∧
      s.client.shared.streamingAt 5 = some true ∧ s.lock = some ⟨.kill, [5], false⟩ := by
  obtain ⟨tr, s, r, hreg, -⟩ := @exists_registered Nat Nat
    ⟨fun _ => True, fun _ _ => False, fun _ _ => False⟩ 5
  have hr := r.reachable.tail (.client (@GrpcClient.Step.call _ .kill hreg.owner) id nofun nofun)
  have hr := hr.tail (.acquire (.kill rfl) trivial hreg.lock (List.Perm.of_eq hreg.keys.symm))
  exact ⟨_, hr, hreg.streaming, rfl⟩

theorem section_releases_killing : ∃ s : ClientThreads Nat Nat, s.lock.isSome ∧
    Advances (Step ⟨fun _ => True, fun _ _ => False, fun _ _ => False⟩) HelpsSection setBack
      (fun s => s.lock = none) s.sectionToGo s := by
  obtain ⟨s, hr, -, hlock⟩ := exists_killing
  exact ⟨s, by rw [hlock]; rfl, section_releases ⟨fun _ _ => id, fun _ _ => id⟩ hr hlock⟩

/-! ## The kill -/

/-- The steps that a kill waits for: those of its section, its own, and those of the run
thread when it is joined. -/
inductive HelpsKill (s : ClientThreads Message Status) : Action Message Status → Prop where
  | stopping {a : Action Message Status} : HelpsSection s a → HelpsKill s a
  | shutdownQueue : HelpsKill s (.client .shutdownQueue)
  | runThread {call : OwnerCall} {action : GrpcClient.Action} :
      s.client.owner = .joining call → action.ofRunThread → HelpsKill s (.client action)
  | answer {call : OwnerCall} : s.client.owner = .joining call → HelpsKill s (.answer .run)
  | join : HelpsKill s (.client .join)

/-- What sets a kill back: what sets its section back, and a call of `get_state` or
`use_stub` from the callback of the run thread. -/
def killSetBack (s : ClientThreads Message Status) : Action Message Status → Nat
  | .ask .run => 1
  | a => s.setBack a

theorem setBack_le (s : ClientThreads Message Status) (a : Action Message Status) :
    s.setBack a ≤ s.killSetBack a := by
  unfold killSetBack
  split
  · exact Nat.zero_le 1
  · exact Nat.le_refl _

/-- The kill has returned: the owner is past it, no stream has a thread, and there is no run
thread. -/
structure Returned (s : ClientThreads Message Status) : Prop where
  owner : ¬ s.client.owner.InKill
  streams : ∀ key, (s.streams key).phase = .none
  runThread : ¬ s.client.runThread.Joinable

/-- A kill that has not returned is in its section or past it. -/
inductive Killing (s : ClientThreads Message Status) : Prop where
  | stopping {call : OwnerCall} {left : List Nat} {joining : Bool} :
      s.client.owner = .killing call → s.lock = some ⟨.kill, left, joining⟩ → Killing s
  | past : s.client.owner.place = .killed → s.lock = none → Killing s

/-- A bound on the steps that the kill has to go. -/
def killToGo (s : ClientThreads Message Status) : Nat :=
  match s.client.owner with
  | .killing _ => s.sectionToGo + 10
  | .shuttingDown _ => 9
  | .joining _ => s.client.toGo + (if s.asking .run then 1 else 0) + 1
  | _ => 0

theorem toGo_le {c : GrpcClient} (h : c.Stage) : c.toGo ≤ 5 := by
  have hle := h.outstanding_le
  rw [GrpcClient.outstanding] at hle
  rw [GrpcClient.toGo]
  split <;> rename_i ht <;> simp only [ht, RunThread.handled, RunPhase.handled] at hle <;> omega

/-- Past its section, a kill has taken the channel away. -/
theorem channel_of_killed (hr : s.ThreadsReachable calls)
    (hplace : s.client.owner.place = .killed) : s.client.shared.channel = none := by
  rcases (GrpcClient.ClientReachable.stage (ThreadsReachable.client hr)).of_killed hplace with
    ⟨-, hchannel⟩ | ⟨phase, q, hclosing⟩
  · exact hchannel
  · exact hclosing.channel

/-- Without a channel no stream has a thread. -/
theorem phase_of_channel (hr : s.ThreadsReachable calls) (hnone : s.client.shared.channel = none)
    (key : Nat) : (s.streams key).phase = .none := by
  have hnot := (GrpcClient.ClientReachable.streamInv (ThreadsReachable.client hr)).not_streaming
    hnone
  exact (ThreadsReachable.threadInv hr).streaming key fun hstr => hnot ⟨key, hstr⟩

theorem lock_of_helps (hhelps : HelpsSection s a) (hs : Step calls s a s') : s.lock ≠ none := by
  intro hfree
  have hnot : ∀ key, s.joining ≠ some key := by
    intro key hjoining
    obtain ⟨action, left, hlock⟩ := joining_eq_some.mp hjoining
    cases hfree.symm.trans hlock
  cases hhelps with
  | skip =>
      cases hs with
      | skip hlock _ => cases hfree.symm.trans hlock
  | cancel =>
      cases hs with
      | cancel hlock _ => cases hfree.symm.trans hlock
  | joined =>
      cases hs with
      | joined hlock _ => cases hfree.symm.trans hlock
  | release =>
      cases hs with
      | release hlock _ => cases hfree.symm.trans hlock
  | readEnd h | dispatch h | updated h | finish h | exit h => exact hnot _ h

/-- The owner's steps outside a section are taken past it. -/
theorem Killing.lower (hk : s.Killing) (hr : s.ThreadsReachable calls) (hhelps : HelpsKill s a)
    (hs : Step calls s a s') :
    s'.Returned ∨ s'.Killing ∧ s'.killToGo < s.killToGo := by
  have hr' := hr.tail hs
  cases hhelps with
  | stopping hhelps =>
      cases hk with
      | past _ hfree => exact absurd hfree (lock_of_helps hhelps hs)
      | @stopping call left joining howner hlock =>
          rcases section_lower hlock hhelps hs with ⟨hfree, hkill⟩ |
            ⟨hclient, ⟨⟨action, left', joining'⟩, hlock', haction⟩, hlt⟩
          · have howner' : s'.client.owner = .shuttingDown call := by
              generalize s'.client = c at hkill
              cases hkill with
              | kill howner' =>
                  cases howner.symm.trans howner'
                  rfl
            refine Or.inr ⟨.past (by rw [howner']; rfl) hfree, ?_⟩
            rw [killToGo, howner', killToGo, howner]
            show 9 < s.sectionToGo + 10
            omega
          · obtain rfl : action = .kill := haction
            have howner' : s'.client.owner = .killing call := by rw [hclient, howner]
            refine Or.inr ⟨.stopping howner' hlock', ?_⟩
            rw [killToGo, howner', killToGo, howner]
            exact Nat.add_lt_add_right hlt 10
  | shutdownQueue =>
      cases hs with
      | client hstep _ _ _ =>
          cases hstep with
          | @shutdownQueue call howner =>
              cases hk with
              | stopping howner' _ => cases howner.symm.trans howner'
              | past _ hfree =>
                  refine Or.inr ⟨.past rfl hfree, ?_⟩
                  have hle := toGo_le
                    (GrpcClient.ClientReachable.stage (ThreadsReachable.client hr'))
                  have hask : (if s.asking .run then 1 else 0) ≤ 1 := by split <;> decide
                  show (s.client.shutdownQueue call).toGo + (if s.asking .run then 1 else 0) + 1 <
                    s.killToGo
                  rw [killToGo, howner]
                  change (s.client.shutdownQueue call).toGo ≤ 5 at hle
                  show _ < 9
                  omega
  | @runThread call action howner hrun =>
      cases hs with
      | client hstep _ _ _ =>
          cases hk with
          | stopping howner' _ => cases howner.symm.trans howner'
          | past _ hfree =>
              obtain ⟨howner', hlt⟩ := GrpcClient.toGo_lt
                (GrpcClient.ClientReachable.stage (ThreadsReachable.client hr)) howner hrun hstep
              refine Or.inr ⟨.past (by rw [howner']; rfl) hfree, ?_⟩
              simp only [killToGo, howner, howner']
              omega
  | @answer call howner =>
      cases hs with
      | answer hask hfree =>
          cases hk with
          | stopping howner' _ => cases howner.symm.trans howner'
          | past hplace _ =>
              refine Or.inr ⟨.past hplace hfree, ?_⟩
              simp [killToGo, howner, hask]
  | join =>
      cases hs with
      | client hstep _ _ _ =>
          cases hstep with
          | @join call howner hended =>
              cases hk with
              | stopping howner' _ => cases howner.symm.trans howner'
              | past hplace hfree =>
                  have hnone := channel_of_killed hr hplace
                  refine Or.inl ⟨?_, phase_of_channel hr' ?_, ?_⟩
                  · cases call <;> exact id
                  · show (s.client.join call).shared.channel = none
                    rw [GrpcClient.join_shared]
                    exact hnone
                  · cases call <;> exact RunThread.not_joinable_joined

/-- What the owner is in, other steps of the client leave. -/
theorem owner_of_killing {c c' : GrpcClient} {action : GrpcClient.Action} {call : OwnerCall}
    (hs : GrpcClient.Step c action c') (howner : c.owner = .killing call)
    (hlocks : action.locks = false) : c'.owner = .killing call := by
  cases hs with
  | next _ _ _ | exit _ _ | runReport _ => exact howner
  | call h | shutdownQueue h | join h _ | report h | start h => cases howner.symm.trans h
  | kill _ | connect _ | connectInProcess _ | registerStream _ _ _ | onStreamUpdate _
  | onStreamFinish _ | useStub | handle _ _ => cases hlocks

/-- In the kill, past its section, no other step is the owner's. -/
theorem owner_of_killed {c c' : GrpcClient} {action : GrpcClient.Action}
    (hs : GrpcClient.Step c action c') (hplace : c.owner.place = .killed)
    (hshutdown : action ≠ .shutdownQueue) (hjoin : action ≠ .join) :
    c'.owner = c.owner := by
  cases hs with
  | next _ _ _ | exit _ _ | runReport _ | useStub => rfl
  | handle _ _ => exact GrpcClient.handle_owner
  | shutdownQueue _ => exact absurd rfl hshutdown
  | join _ _ => exact absurd rfl hjoin
  | call h | kill h | connect h | connectInProcess h | report h | start h | registerStream h _ _
  | onStreamUpdate h | onStreamFinish h =>
      cases hplace.symm.trans (congrArg OwnerPhase.place h)

theorem place_killed {p : OwnerPhase} (hplace : p.place = .killed) :
    (∃ call, p = .shuttingDown call) ∨ ∃ call, p = .joining call := by
  cases p with
  | shuttingDown call => exact Or.inl ⟨call, rfl⟩
  | joining call => exact Or.inr ⟨call, rfl⟩
  | idle | killing _ | connecting | connectingInProcess _ | reporting _ | starting => cases hplace

/-- Past the section, a kill waits for the run thread only. -/
theorem killToGo_congr (hplace : s.client.owner.place = .killed)
    (howner : s'.client.owner = s.client.owner)
    (hjoining : ∀ call, s.client.owner = .joining call →
      s'.client.toGo = s.client.toGo ∧ s'.asking .run = s.asking .run) :
    s'.killToGo = s.killToGo := by
  rcases place_killed hplace with ⟨call, hcall⟩ | ⟨call, hcall⟩
  · simp only [killToGo, howner, hcall]
  · obtain ⟨htoGo, hasking⟩ := hjoining call hcall
    simp only [killToGo, howner, hcall, htoGo, hasking]

/-- Past the section, no section that stops the streams can begin. -/
theorem not_stops_of_killed (hr : s.ThreadsReachable calls)
    (hplace : s.client.owner.place = .killed) {action : GrpcClient.Action} {c : GrpcClient}
    (hs : GrpcClient.Step s.client action c) : ¬ s.client.Stops action := by
  intro hstops
  rcases GrpcClient.stops_cases hstops with rfl | ⟨x, rfl⟩
  · cases hs with
    | kill howner =>
        rw [howner] at hplace
        cases hplace
  · obtain ⟨-, hsome, -, -⟩ := hstops
    rw [channel_of_killed hr hplace] at hsome
    cases hsome

theorem Killing.keep_past (hr : s.ThreadsReachable calls)
    (hplace : s.client.owner.place = .killed) (hfree : s.lock = none)
    (hhelps : ¬ HelpsKill s a) (hs : Step calls s a s') :
    s'.Killing ∧ s'.killToGo ≤ s.killToGo + s.killSetBack a := by
  have hsame : ∀ {s' : ClientThreads Message Status}, s'.client = s.client → s'.lock = none →
      s'.asking = s.asking → s'.Killing ∧ s'.killToGo ≤ s.killToGo + s.killSetBack a := by
    intro s' hclient hfree' hasking
    refine ⟨.past (by rw [hclient, hplace]) hfree', Nat.le_trans (Nat.le_of_eq ?_)
      (Nat.le_add_right _ _)⟩
    refine killToGo_congr hplace (by rw [hclient]) fun _ _ => ?_
    rw [hclient, hasking]
    exact ⟨rfl, rfl⟩
  cases hs with
  | @client action c hstep _ _ _ =>
      have howner : c.owner = s.client.owner := by
        refine owner_of_killed hstep hplace ?_ ?_
        · rintro rfl
          exact hhelps .shutdownQueue
        · rintro rfl
          exact hhelps .join
      refine ⟨.past (by rw [← hplace, ← howner]) hfree, Nat.le_of_eq ?_⟩
      refine killToGo_congr hplace howner fun call hcall => ?_
      cases hstep with
      | next _ _ _ | exit _ _ | runReport _ | handle _ _ =>
          exact absurd (.runThread hcall trivial) hhelps
      | useStub => exact ⟨rfl, rfl⟩
      | shutdownQueue _ => exact absurd .shutdownQueue hhelps
      | join _ _ => exact absurd .join hhelps
      | call h | kill h | connect h | connectInProcess h | report h | start h
      | registerStream h _ _ | onStreamUpdate h | onStreamFinish h =>
          cases hcall.symm.trans h
  | acquire hstep hstops _ _ => exact absurd hstops (not_stops_of_killed hr hplace hstep)
  | skip hlock _ | cancel hlock _ | joined hlock _ | release hlock _ =>
      cases hfree.symm.trans hlock
  | dispatch _ =>
      split
      · exact hsame rfl hfree rfl
      · exact hsame rfl hfree rfl
  | read _ | readEnd _ | updated _ _ | finish _ | exit _ _ => exact hsame rfl hfree rfl
  | @ask thread _ _ =>
      refine ⟨.past hplace hfree, ?_⟩
      by_cases hthread : thread = .run
      · subst hthread
        rcases place_killed hplace with ⟨call, hcall⟩ | ⟨call, hcall⟩
        · simp only [killToGo, hcall]
          exact Nat.le_add_right _ _
        · simp only [killToGo, hcall, killSetBack, Function.update_self, if_pos]
          omega
      · refine Nat.le_trans (Nat.le_of_eq ?_) (Nat.le_add_right _ _)
        refine killToGo_congr hplace rfl fun _ _ => ⟨rfl, ?_⟩
        exact Function.update_of_ne (Ne.symm hthread) _ _
  | @answer thread hask _ =>
      refine ⟨.past hplace hfree, Nat.le_of_eq (killToGo_congr hplace rfl fun call hcall => ?_)⟩
      refine ⟨rfl, Function.update_of_ne ?_ _ _⟩
      rintro rfl
      exact hhelps (.answer hcall)

theorem Killing.keep (hk : s.Killing) (hr : s.ThreadsReachable calls) (hhelps : ¬ HelpsKill s a)
    (hs : Step calls s a s') : s'.Killing ∧ s'.killToGo ≤ s.killToGo + s.killSetBack a := by
  cases hk with
  | past hplace hfree => exact Killing.keep_past hr hplace hfree hhelps hs
  | @stopping call left joining howner hlock =>
      obtain ⟨hlock', hle, hclient⟩ := section_keep hlock (fun h => hhelps (.stopping h)) hs
      have howner' : s'.client.owner = .killing call := by
        rcases hclient with hclient | ⟨action, hlocks, hstep⟩
        · rw [hclient, howner]
        · exact owner_of_killing hstep howner hlocks
      refine ⟨.stopping howner' hlock', ?_⟩
      have hsetBack := setBack_le s a
      simp only [killToGo, howner, howner']
      omega

theorem Killing.live [Inhabited Status] (hk : s.Killing) (hq : Quiet calls)
    (hr : s.ThreadsReachable calls) : ∃ a s', HelpsKill s a ∧ Step calls s a s' := by
  cases hk with
  | stopping _ hlock =>
      obtain ⟨a, s', hhelps, hs⟩ := section_live hq hr hlock
      exact ⟨a, s', .stopping hhelps, hs⟩
  | past hplace hfree =>
      rcases place_killed hplace with ⟨call, hcall⟩ | ⟨call, hcall⟩
      · exact ⟨_, _, .shutdownQueue, .client (.shutdownQueue hcall) id nofun nofun⟩
      · by_cases hended : s.client.Ended
        · exact ⟨_, _, .join, .client (.join hcall hended) id nofun nofun⟩
        · cases hask : s.asking .run with
          | true => exact ⟨_, _, .answer hcall, .answer hask hfree⟩
          | false =>
              obtain ⟨action, c, hrun, hstep⟩ := GrpcClient.ClientReachable.run_thread_live
                (ThreadsReachable.client hr) hcall hended
              refine ⟨_, _, .runThread hcall hrun, .client hstep
                (not_stops_of_killed hr hplace hstep) (fun _ => hfree) ?_⟩
              intro thread hthread
              cases hstep with
              | runReport _ =>
                  cases hthread
                  exact hask
              | report h => cases hcall.symm.trans h
              | _ => cases hthread

/-- Only the owner has the lock for a kill. -/
theorem owner_of_lock {left : List Nat} {joining : Bool} (hr : s.ThreadsReachable calls)
    (hlock : s.lock = some ⟨.kill, left, joining⟩) : ∃ call, s.client.owner = .killing call := by
  refine SectionInv.killing (ThreadsReachable.sectionInv hr) ?_
  rw [holder, hlock]
  rfl

/-- Once `kill_streams_and_channel` has the lock it returns, with every thread joined that the
client had. -/
theorem kill_returns [Inhabited Status] {left : List Nat} {joining : Bool} (hq : Quiet calls)
    (hr : s.ThreadsReachable calls) (hlock : s.lock = some ⟨.kill, left, joining⟩) :
    Advances (Step calls) HelpsKill killSetBack Returned s.killToGo s := by
  obtain ⟨call, howner⟩ := owner_of_lock hr hlock
  refine advances_of_measure (I := fun s => s.ThreadsReachable calls ∧ s.Killing) killToGo
    ?_ ?_ ?_ ⟨hr, .stopping howner hlock⟩
  · intro s a s' ⟨hr, hk⟩ hhelps hs
    exact (hk.lower hr hhelps hs).imp id fun h => ⟨⟨hr.tail hs, h.1⟩, h.2⟩
  · intro s a s' ⟨hr, hk⟩ hhelps hs
    obtain ⟨hk', hle⟩ := hk.keep hr hhelps hs
    exact Or.inr ⟨⟨hr.tail hs, hk'⟩, hle⟩
  · intro s ⟨hr, hk⟩ _
    exact hk.live hq hr

theorem kill_returns_killing : ∃ s : ClientThreads Nat Nat, s.lock.isSome ∧ ¬ s.Returned ∧
    Advances (Step ⟨fun _ => True, fun _ _ => False, fun _ _ => False⟩) HelpsKill killSetBack
      Returned s.killToGo s := by
  obtain ⟨s, hr, -, hlock⟩ := exists_killing
  obtain ⟨call, howner⟩ := owner_of_lock hr hlock
  refine ⟨s, by rw [hlock]; rfl, fun hreturned => ?_,
    kill_returns ⟨fun _ _ => id, fun _ _ => id⟩ hr hlock⟩
  have hnot := hreturned.owner
  rw [howner] at hnot
  exact hnot trivial

end ClientThreads

end Grpcw.Client
