import GrpcWrapper.Client.Stage
import GrpcWrapper.Client.StubSafety
import GrpcWrapper.Library.Changes

/-!
# The reports of a session

A session with an address reports the client state each time it changes:
`change_server` compares the state it reads with the one that was stored, the
run thread compares each state that it reads with the one before, and after the
kill it reports that the client is not connected, unless that was the last
state.  The two threads never have a report to make at the same time, and none
is left when the run thread is joined.  So the reports of a session are the
changes of the states that it went through, the last of which is
`not_connected`.
-/

namespace Grpcw.Client

open Transition

/-! ## Sessions -/

/-- A session with an address, as the log tells of it. -/
structure Session where
  /-- The state that `change_server` found. -/
  stored : ConnectivityState
  /-- The states that `change_server` and then the run thread read. -/
  states : List ConnectivityState
  /-- The calls of `connection_change_callback`. -/
  reports : List GrpcClientState
deriving DecidableEq, Repr

namespace Session

def clientStates (s : Session) : List GrpcClientState := s.states.map toCncClientState

/-- The client state that was read last. -/
def last (s : Session) : GrpcClientState := s.clientStates.getLastD (toCncClientState s.stored)

/-- What a session that has ended should have reported. -/
def calls (s : Session) : List GrpcClientState :=
  s.clientStates.changes (toCncClientState s.stored) ++
    if s.last = .notConnected then [] else [.notConnected]

/-- The calls are the changes of the states with `not_connected` after them. -/
theorem calls_eq (s : Session) :
    s.calls =
      (s.clientStates ++ [GrpcClientState.notConnected]).changes (toCncClientState s.stored) := by
  rw [List.changes_concat]
  rfl

theorem isChain_calls (s : Session) : s.calls.IsChain (· ≠ ·) := by
  rw [calls_eq]
  exact (List.isChain_cons_changes _ _).tail

theorem getLast?_calls (s : Session) (h : s.calls ≠ []) :
    s.calls.getLast? = some .notConnected := by
  have hlast := List.getLastD_changes (toCncClientState s.stored)
    (s.clientStates ++ [GrpcClientState.notConnected])
  rw [← calls_eq, List.getLastD_concat, List.getLastD_eq_getLast?] at hlast
  obtain ⟨state, hstate⟩ := Option.isSome_iff_exists.mp (List.getLast?_isSome.mpr h)
  rw [hstate] at hlast ⊢
  rw [← hlast]
  rfl

end Session

/-- The sessions of a log, newest first. -/
def sessions : List ClientEvent → List Session
  | [] => []
  | .connect stored state :: past => ⟨stored, [state], []⟩ :: sessions past
  | .event _ (some state) :: past =>
      (sessions past).modifyHead fun s => { s with states := s.states ++ [state] }
  | .report state :: past =>
      (sessions past).modifyHead fun s => { s with reports := s.reports ++ [state] }
  | .event _ none :: past | .kill :: past | .connectInProcess :: past | .watch _ :: past =>
      sessions past

instance : ∀ t : RunThread, Decidable t.Joinable
  | .joinable phase => .isTrue ⟨phase, rfl⟩
  | .null | .joined => .isFalse nofun

namespace GrpcClient

/-- A session is under way from the section of its `change_server` until its run
thread is joined. -/
def UnderWay (c : GrpcClient) : Prop := c.owner.place = .opening ∨ c.runThread.Joinable

instance (c : GrpcClient) : Decidable c.UnderWay :=
  inferInstanceAs (Decidable (c.owner.place = .opening ∨ c.runThread.Joinable))

/-- The sessions that are over. -/
def ended (c : GrpcClient) : List Session :=
  if c.UnderWay then (sessions c.log).tail else sessions c.log

structure ConnectionTrace (c : GrpcClient) : Prop where
  ended : ∀ s ∈ c.ended, s.reports = s.calls
  /-- A session under way has made the first of the calls. -/
  underWay : ∀ s ∈ sessions c.log, s.reports <+: s.calls
  changing : ∀ s ∈ sessions c.log, s.reports.IsChain (· ≠ ·)
  last : ∀ s ∈ c.ended, s.reports ≠ [] → s.reports.getLast? = some .notConnected
  /-- A session is over when its run thread is joined. -/
  closes : ∀ {c'}, Step c .join c' → c.UnderWay →
    ¬ c'.UnderWay ∧ c'.getState = .notConnected

/-! ## The reports that are due -/

end GrpcClient

def OwnerPhase.pending : OwnerPhase → List GrpcClientState
  | .reporting state => [state]
  | _ => []

def RunThread.pending : RunThread → List GrpcClientState
  | .joinable (.reporting state) => [state]
  | _ => []

namespace GrpcClient

/-- The reports that a thread is about to make. -/
def pending (c : GrpcClient) : List GrpcClientState := c.owner.pending ++ c.runThread.pending

/-- The report that the end of the session will bring. -/
def closing (c : GrpcClient) : List GrpcClientState :=
  if c.getState = .notConnected then [] else [.notConnected]

/-- A session that is under way. -/
structure Going (c : GrpcClient) (s : Session) : Prop where
  calls : s.reports ++ (c.pending ++ c.closing) = s.calls
  /-- Without a channel the state may have been set at the end of the session. -/
  last : c.shared.channel.isSome → s.last = c.getState

structure Traced (c : GrpcClient) : Prop where
  going : c.UnderWay → ∃ s ∈ (sessions c.log).head?, c.Going s
  ended : ∀ s ∈ c.ended, s.reports = s.calls

variable {c c' : GrpcClient} {a : Action} {call : OwnerCall} {phase : RunPhase}

theorem Traced.initial : Traced initial where
  going := by
    intro h
    exact absurd h (by decide)
  ended := nofun

theorem not_underWay (hplace : c.owner.place ≠ .opening) (hthread : ¬ c.runThread.Joinable) :
    ¬ c.UnderWay := fun h => h.elim hplace hthread

/-- Steps that report nothing and read no state. -/
theorem Traced.congr (h : c.Traced) (hlog : sessions c'.log = sessions c.log)
    (hway : c'.UnderWay ↔ c.UnderWay) (hpending : c'.pending = c.pending)
    (hstate : c'.getState = c.getState)
    (hchannel : c'.shared.channel.isSome → c.shared.channel.isSome) : c'.Traced where
  going := by
    intro hw
    obtain ⟨s, hs, hg⟩ := h.going (hway.mp hw)
    rw [hlog]
    refine ⟨s, hs, ?_, ?_⟩
    · rw [hpending, closing, hstate]
      exact hg.calls
    · intro hsome
      rw [hstate]
      exact hg.last (hchannel hsome)
  ended := by
    have heq : c'.ended = c.ended := by
      rw [GrpcClient.ended, GrpcClient.ended, hlog]
      exact if_congr hway rfl rfl
    rw [heq]
    exact h.ended

/-- Steps outside a session that begin none. -/
theorem Traced.idle (h : c.Traced) (hlog : sessions c'.log = sessions c.log)
    (hway : ¬ c.UnderWay) (hway' : ¬ c'.UnderWay) : c'.Traced where
  going := fun hw => absurd hw hway'
  ended := by
    have hended := h.ended
    rw [GrpcClient.ended, if_neg hway] at hended
    rw [GrpcClient.ended, if_neg hway', hlog]
    exact hended

/-- A step that makes the report that is pending. -/
theorem Traced.report {state : GrpcClientState} (h : c.Traced)
    (hlog : c'.log = .report state :: c.log) (hway : c.UnderWay) (hway' : c'.UnderWay)
    (hpending : c.pending = [state]) (hpending' : c'.pending = [])
    (hstate : c'.getState = c.getState)
    (hchannel : c'.shared.channel = c.shared.channel) : c'.Traced := by
  obtain ⟨s, hs, hg⟩ := h.going hway
  obtain ⟨past, hpast⟩ : ∃ past, sessions c.log = s :: past :=
    ⟨_, List.eq_cons_of_mem_head? hs⟩
  have hsessions : sessions c'.log = { s with reports := s.reports ++ [state] } :: past := by
    rw [hlog, sessions, hpast]
    rfl
  refine ⟨fun _ => ?_, ?_⟩
  · rw [hsessions]
    refine ⟨_, rfl, ?_, ?_⟩
    · show (s.reports ++ [state]) ++ (c'.pending ++ c'.closing) = s.calls
      rw [← hg.calls, hpending, hpending', List.append_assoc, closing, closing, hstate]
      rfl
    · rw [hchannel, hstate]
      exact hg.last
  · have hended := h.ended
    rw [GrpcClient.ended, if_pos hway, hpast] at hended
    rw [GrpcClient.ended, if_pos hway', hsessions]
    exact hended

/-- A state was read and replaces the last one. -/
theorem Traced.read {resultOk : Bool} {x : ConnectivityState} (h : c.Traced)
    (hlog : sessions c'.log = sessions (.event resultOk (some x) :: c.log))
    (hway : c.UnderWay) (hway' : c'.UnderWay) (hsome : c.shared.channel.isSome)
    (hpending : c.pending = [])
    (hpending' : c'.pending =
      if c.getState = toCncClientState x then [] else [toCncClientState x])
    (hstate : c'.shared.connectionState = x) : c'.Traced := by
  obtain ⟨s, hs, hg⟩ := h.going hway
  obtain ⟨past, hpast⟩ : ∃ past, sessions c.log = s :: past :=
    ⟨_, List.eq_cons_of_mem_head? hs⟩
  have hlast := hg.last hsome
  have hreports : s.reports = s.clientStates.changes (toCncClientState s.stored) := by
    have hcalls := hg.calls
    rw [hpending, List.nil_append, closing, ← hlast, Session.calls] at hcalls
    exact List.append_cancel_right hcalls
  have hget : c'.getState = toCncClientState x := by
    rw [getState, hstate]
  have hsessions : sessions c'.log = { s with states := s.states ++ [x] } :: past := by
    rw [hlog, sessions, hpast]
    rfl
  have hstates : Session.clientStates { s with states := s.states ++ [x] } =
      s.clientStates ++ [toCncClientState x] := List.map_append
  have hlast' : Session.last { s with states := s.states ++ [x] } = toCncClientState x := by
    rw [Session.last, hstates, List.getLastD_concat]
  refine ⟨fun _ => ?_, ?_⟩
  · rw [hsessions]
    refine ⟨_, rfl, ?_, ?_⟩
    · rw [Session.calls, hlast', hstates, List.changes_concat, closing, hget, hpending',
        ← hlast, ← List.append_assoc]
      show (s.reports ++ _) ++ _ = _
      rw [hreports]
      rfl
    · intro _
      rw [hlast', hget]
  · have hended := h.ended
    rw [GrpcClient.ended, if_pos hway, hpast] at hended
    rw [GrpcClient.ended, if_pos hway', hsessions]
    exact hended

/-! ## One step -/

theorem Observed.reports {d : SharedData} {x : ConnectivityState} {s : SharedData.Handled}
    (h : Observed d x s) :
    s.data.connectionState = x ∧
      RunThread.pending (.joinable (afterEvent s.report)) =
        if toCncClientState d.connectionState = toCncClientState x then []
        else [toCncClientState x] := by
  cases h with
  | same hsame =>
      rw [if_pos hsame.symm]
      exact ⟨rfl, rfl⟩
  | started hnew _ _ | stopped hnew _ =>
      rw [if_neg fun heq => hnew heq.symm]
      exact ⟨rfl, rfl⟩

theorem pending_of_place {o : OwnerPhase} (h : o.place ≠ .opening) : o.pending = [] := by
  cases o with
  | reporting _ => exact absurd rfl h
  | idle | killing _ | shuttingDown _ | joining _ | connecting | connectingInProcess _
  | starting => rfl

theorem pending_of_not_joinable {t : RunThread} (h : ¬ t.Joinable) : t.pending = [] := by
  cases t with
  | joinable phase => exact absurd ⟨phase, rfl⟩ h
  | null | joined => rfl

/-- The owner reports nothing while there is a run thread to join. -/
theorem Stage.place_of_joinable (h : c.Stage) (ht : c.runThread.Joinable) :
    c.owner.place ≠ .opening := by
  obtain ⟨phase, ht⟩ := ht
  intro heq
  rcases h.of_joinable ht with ⟨_, h⟩ | ⟨_, h⟩
  · exact absurd (heq.symm.trans h.place) (by decide)
  · exact absurd (heq.symm.trans h.place) (by decide)

theorem Traced.handle {resultOk : Bool} {x : ConnectivityState} {s : SharedData.Handled}
    (h : c.Traced) (hstage : c.Stage) (ht : c.runThread = .joinable (.handling resultOk))
    (hs : HandledAs c.shared resultOk x s) : Traced (c.handle resultOk x s) := by
  have hway : c.UnderWay := Or.inr ⟨_, ht⟩
  have hway' : UnderWay (c.handle resultOk x s) := Or.inr ⟨_, handle_runThread⟩
  have howner := pending_of_place (hstage.place_of_joinable ⟨_, ht⟩)
  have hpending : c.pending = [] := by
    rw [pending, howner, ht]
    rfl
  have hpending' : (c.handle resultOk x s).pending =
      RunThread.pending (.joinable (afterEvent s.report)) := by
    rw [pending, handle_owner, howner, handle_runThread]
    rfl
  have hlog : sessions (c.handle resultOk x s).log =
      sessions (.event resultOk (c.stateRead resultOk x) :: c.log) := by
    rw [GrpcClient.handle]
    split <;> rfl
  have hnone : ¬ (c.shared.channel.isSome ∧ resultOk) →
      sessions (c.handle resultOk x s).log = sessions c.log := by
    intro hread
    rw [hlog, stateRead, if_neg hread]
    rfl
  cases hs with
  | observed hsome hok ho =>
      obtain ⟨hstate, hreport⟩ := ho.reports
      rw [stateRead, if_pos ⟨hsome, hok⟩] at hlog
      refine h.read hlog hway hway' hsome hpending (hpending'.trans hreport) ?_
      rw [handle_shared]
      exact hstate
  | deadline hsome hok =>
      refine h.congr (hnone ?_) (iff_of_true hway' hway) ?_ ?_ ?_
      · rw [hok]
        exact fun hread => Bool.false_ne_true hread.2
      · rw [hpending, hpending']
        rfl
      · rw [getState, getState, handle_shared]
      · intro _
        exact hsome
  | finished hchannel hnot =>
      refine h.congr (hnone ?_) (iff_of_true hway' hway) ?_ ?_ ?_
      · rw [hchannel]
        exact fun hread => Bool.false_ne_true hread.1
      · rw [hpending, hpending']
        rfl
      · rw [getState, getState, handle_shared]
      · rw [handle_shared]
        exact id
  | disconnected hchannel hnot =>
      have hsessions := hnone (by
        rw [hchannel]
        exact fun hread => Bool.false_ne_true hread.1)
      refine ⟨fun _ => ?_, ?_⟩
      · -- the report that was to come is pending now
        obtain ⟨t, ht', hg⟩ := h.going hway
        rw [hsessions]
        refine ⟨t, ht', ?_, ?_⟩
        · rw [← hg.calls, hpending, hpending', closing, closing, getState, getState, handle_shared,
            if_neg hnot]
          rfl
        · rw [handle_shared, hchannel]
          intro hsome
          cases hsome
      · rw [GrpcClient.ended, if_pos hway', hsessions]
        have hended := h.ended
        rw [GrpcClient.ended, if_pos hway] at hended
        exact hended

/-- `change_server` begins a session, and reports the state if it changed. -/
theorem Traced.connect {channel : Channel} {x : ConnectivityState} (h : c.Traced)
    (hc : c.Connecting) : Traced (c.connect channel x) := by
  have hplace : c.owner.place ≠ .opening := by
    rw [hc.place]
    nofun
  have hway : ¬ c.UnderWay := not_underWay hplace hc.thread
  have hway' : UnderWay (c.connect channel x) := Or.inl (place_afterConnect _ _)
  have hget : (c.connect channel x).getState = toCncClientState x := rfl
  have hlog : sessions (c.connect channel x).log =
      ⟨c.shared.connectionState, [x], []⟩ :: sessions c.log := rfl
  have hthread := pending_of_not_joinable hc.thread
  have hpending : (c.connect channel x).pending =
      List.changes c.getState [toCncClientState x] := by
    show (afterConnect _ _).pending ++ c.runThread.pending = _
    rw [hthread, List.append_nil, afterConnect, getState]
    split
    · rename_i hsame
      rw [hsame, List.changes_cons_self]
      rfl
    · rename_i hnew
      rw [List.changes_cons_of_ne fun heq => hnew heq.symm]
      rfl
  refine ⟨fun _ => ?_, ?_⟩
  · rw [hlog]
    refine ⟨_, rfl, ?_, fun _ => rfl⟩
    rw [hpending, closing, hget]
    rfl
  · rw [GrpcClient.ended, if_pos hway', hlog]
    have hended := h.ended
    rw [GrpcClient.ended, if_neg hway] at hended
    exact hended

/-- When the run thread is joined, no report is due. -/
theorem Traced.join (h : c.Traced) (hstage : c.Stage) (ho : c.owner = .joining call)
    (hj : ∀ phase, c.runThread = .joinable phase → phase = .exited) :
    Traced (c.join call) := by
  have hlog : (c.join call).log = c.log := by cases call <;> rfl
  have hway' : ¬ UnderWay (c.join call) := by
    cases call <;> exact not_underWay nofun RunThread.not_joinable_joined
  have hplace : c.owner.place ≠ .opening := by
    rw [ho]
    nofun
  by_cases ht : c.runThread.Joinable
  · have hway : c.UnderWay := Or.inr ht
    obtain ⟨s, hs, hg⟩ := h.going hway
    obtain ⟨phase, ht⟩ := ht
    obtain rfl := hj phase ht
    have hcalls : s.reports = s.calls := by
      have hcalls := hg.calls
      obtain ⟨-, -, haddress, -⟩ := hstage.of_join ho hj
      have hin : c.usingInProcessServer = false := by
        rcases hstage.of_joinable ht with ⟨_, h⟩ | ⟨_, h⟩
        · exact h.address
        · exact h.address
      rw [pending, pending_of_place hplace, ht, closing, if_pos (haddress hin)] at hcalls
      rw [← hcalls]
      exact (List.append_nil _).symm
    have hpast := List.eq_cons_of_mem_head? hs
    refine ⟨fun hw => absurd hw hway', ?_⟩
    have hended := h.ended
    rw [GrpcClient.ended, if_pos hway] at hended
    rw [GrpcClient.ended, if_neg hway', hlog, hpast, List.forall_mem_cons]
    exact ⟨hcalls, hended⟩
  · exact h.idle (by rw [hlog]) (not_underWay hplace ht) hway'

theorem Traced.step (h : c.Traced) (hstage : c.Stage) (hs : Step c a c') : c'.Traced := by
  cases hs with
  | call ho =>
      refine h.congr rfl ?_ ?_ rfl id
      · rw [UnderWay, UnderWay, ho]
        rfl
      · rw [pending, pending, ho]
        rfl
  | kill ho =>
      refine h.congr rfl ?_ ?_ rfl nofun
      · rw [UnderWay, UnderWay, ho]
        exact or_congr_left (iff_of_false nofun nofun)
      · rw [pending, pending, ho]
        rfl
  | shutdownQueue ho =>
      refine h.congr rfl ?_ ?_ rfl id
      · rw [UnderWay, UnderWay, ho]
        rfl
      · rw [pending, pending, ho]
        rfl
  | join ho hj => exact h.join hstage ho hj
  | connect ho => exact h.connect (hstage.of_connecting (by rw [ho]; rfl))
  | connectInProcess ho =>
      have hc := hstage.of_connectingInProcess (by rw [ho]; rfl)
      refine h.idle rfl (not_underWay ?_ hc.thread) (not_underWay nofun hc.thread)
      rw [ho]
      nofun
  | report ho =>
      have hc := hstage.of_opening (by rw [ho]; rfl)
      have hthread := pending_of_not_joinable hc.thread
      refine h.report rfl (Or.inl hc.place) (Or.inl rfl) ?_ ?_ rfl rfl
      · rw [pending, ho, hthread]
        rfl
      · rw [pending, hthread]
        rfl
  | start ho =>
      have hc := hstage.of_opening (by rw [ho]; rfl)
      refine h.congr rfl (iff_of_true (Or.inr ⟨_, rfl⟩) (Or.inl hc.place)) ?_ rfl id
      rw [pending, pending, ho, pending_of_not_joinable hc.thread]
      rfl
  | registerStream _ _ hd =>
      obtain ⟨-, hchannel, hstate⟩ := registerStream_pointers hd
      refine h.congr rfl Iff.rfl rfl ?_ (hchannel ▸ id)
      rw [getState, getState, hstate]
  | onStreamUpdate _ =>
      obtain ⟨-, hchannel, hstate⟩ := onStreamUpdate_pointers (d := c.shared) _
      refine h.congr rfl Iff.rfl rfl ?_ (hchannel ▸ id)
      rw [getState, getState, hstate]
  | onStreamFinish _ =>
      obtain ⟨-, hchannel, hstate⟩ := onStreamFinish_pointers (d := c.shared) _
      refine h.congr rfl Iff.rfl rfl ?_ (hchannel ▸ id)
      rw [getState, getState, hstate]
  | useStub => exact h
  | next ht hq hn =>
      refine h.congr rfl ?_ ?_ rfl id
      · rw [UnderWay, UnderWay, ht]
        exact or_congr_right (iff_of_true ⟨_, rfl⟩ ⟨_, rfl⟩)
      · rw [pending, pending, ht]
        rfl
  | exit ht hq =>
      refine h.congr rfl ?_ ?_ rfl id
      · rw [UnderWay, UnderWay, ht]
        exact or_congr_right (iff_of_true ⟨_, rfl⟩ ⟨_, rfl⟩)
      · rw [pending, pending, ht]
        rfl
  | handle ht hh => exact h.handle hstage ht (handleEvent_cases hh)
  | runReport ht =>
      have howner := pending_of_place (hstage.place_of_joinable ⟨_, ht⟩)
      refine h.report rfl (Or.inr ⟨_, ht⟩) (Or.inr ⟨_, rfl⟩) ?_ ?_ rfl rfl
      · rw [pending, howner, ht]
        rfl
      · rw [pending, howner]
        rfl

theorem ClientReachable.traced (hr : c.ClientReachable) : c.Traced :=
  hr.invariant .initial fun hr h hs => h.step (ClientReachable.stage hr) hs

/-! ## The trace -/

/-- A session has made the first of its calls. -/
theorem Traced.made (h : c.Traced) : ∀ s ∈ sessions c.log, s.reports <+: s.calls := by
  have hended := h.ended
  rw [GrpcClient.ended] at hended
  by_cases hway : c.UnderWay
  · rw [if_pos hway] at hended
    obtain ⟨s, hs, hg⟩ := h.going hway
    rw [List.eq_cons_of_mem_head? hs, List.forall_mem_cons]
    refine ⟨⟨_, hg.calls⟩, ?_⟩
    intro t ht
    exact hended t ht ▸ List.prefix_refl _
  · rw [if_neg hway] at hended
    intro t ht
    exact hended t ht ▸ List.prefix_refl _

theorem reachable_connectionTrace (hr : c.ClientReachable) : c.ConnectionTrace where
  ended := (ClientReachable.traced hr).ended
  underWay := (ClientReachable.traced hr).made
  changing := by
    intro s hs
    obtain ⟨rest, heq⟩ := (ClientReachable.traced hr).made s hs
    have hchain := s.isChain_calls
    rw [← heq] at hchain
    exact hchain.left_of_append
  last := by
    intro s hs hne
    have hcalls := (ClientReachable.traced hr).ended s hs
    rw [hcalls] at hne ⊢
    exact s.getLast?_calls hne
  closes := by
    intro c' hs hway
    have hstage := ClientReachable.stage hr
    cases hs with
    | @join call ho hj =>
        refine ⟨?_, ?_⟩
        · cases call <;> exact not_underWay nofun RunThread.not_joinable_joined
        · obtain ⟨-, -, haddress, -⟩ := hstage.of_join ho hj
          rw [getState, join_shared]
          rcases hway with hplace | ⟨phase, ht⟩
          · rw [ho] at hplace
            cases hplace
          · rcases hstage.of_joinable ht with ⟨_, h⟩ | ⟨_, h⟩
            · exact haddress h.address
            · exact haddress h.address

/-- A session that connects and loses its connection makes four reports. -/
theorem reachable_connectionTrace_lostConnection :
    (sessions (played lostConnection).2.log).map Session.reports =
        [[.attemptingToConnect, .connected, .attemptingToConnect, .notConnected]] ∧
      (played lostConnection).2.ConnectionTrace :=
  ⟨by decide, reachable_connectionTrace (played_run lostConnection).reachable⟩

end GrpcClient

end Grpcw.Client
