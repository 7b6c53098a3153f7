import GrpcWrapper.System.Delivery

/-!
# What two clients are told

Two clients of the handler that are active for the same broadcasts are told them in
one order: of the broadcasts for both, one client has been told a first part of what
the other has been told (`reachable_agreement`).  The order is the one in which the
handler's lock was taken; each client may be behind, and neither skips.

A client catches up: while the handler and the owner of its stream do nothing, its
thread comes to have told everything that was written on its connection, and the
status if the stream was finished (`reachable_catchesUp`).
-/

namespace Grpcw.Client

open Transition LifecycleEvent

variable {Message Status : Type}

/-- A thread that has reported has called `on_finish_`. -/
theorem Told.reported {n : Nat} {phase : StreamPhase Message Status}
    {log : List (LifecycleEvent Message Status)} (h : Told n phase log)
    (hreports : phase.reports = 1) : ∃ status, .callback (.finish n status) ∈ log := by
  obtain ⟨statuses, hlength, heq⟩ := h
  obtain ⟨status, rfl⟩ := List.length_eq_one_iff.mp (hlength.trans hreports)
  have hhand : phase.inHand = [] := by
    cases phase with
    | finished _ | exited => rfl
    | _ => cases hreports
  rw [hhand, List.map_nil, List.append_nil] at heq
  refine ⟨status, mem_group (c := .finish n status).mp ?_⟩
  show Callback.finish n status ∈ group n log
  rw [heq]
  exact List.mem_append_right _ (List.mem_singleton_self _)

namespace StreamLifecycle

/-- The run whose thread takes a step. -/
def Action.thread : Action Message Status → Option Nat
  | .read run _ | .readEnd run | .dispatch run | .updated run | .finish run _ | .exit run =>
      some run
  | _ => none

/-- Where the last thread is alive, its reader has been opened. -/
theorem Stage.reader_isSome {p : LifecyclePhase} {context : Option ClientContext}
    {reader : Option (Nat × Stub)} {thread : Option ThreadObject} {starts : Nat}
    {last : StreamPhase Message Status} (h : Stage p context reader thread starts last)
    (hlast : last ≠ .none) (hexited : last ≠ .exited) (hstarts : starts ≠ 0) :
    reader.isSome := by
  cases h with
  | off _ hend => exact absurd hend (not_or.mpr ⟨hexited, hstarts⟩)
  | opening _ => exact absurd rfl hlast
  | spawning _ | assigning _ _ | on _ | cancelling _ | joining _ | clearing => rfl

/-- While a thread is alive, `reader_` is the reader of its start. -/
theorem Control.reader_of_alive {s : StreamLifecycle Message Status} {n : Nat} (hc : s.Control)
    (ha : s.Alive n) : ∃ stub, s.reader = some (n, stub) := by
  have hsome := (hc.stage_alive ha).reader_isSome ha.1 ha.2 (Nat.succ_ne_zero n)
  obtain ⟨⟨run, stub⟩, hreader⟩ := Option.isSome_iff_exists.mp hsome
  obtain rfl := hc.reader_eq ha hreader
  exact ⟨stub, hreader⟩

/-- A step of a thread brings it nearer to its end, unless it reads. -/
theorem Step.thread {s s' : StreamLifecycle Message Status} {a : Action Message Status} {n : Nat}
    (hs : Step s a s') (ha : a.thread = some n) :
    (s'.threads n).weight < (s.threads n).weight + 3 * (a.reads n).length ∧
      s'.threads n ≠ .none ∧
      (s'.context = s.context ∨ s'.context = s.context.map ClientContext.take) := by
  cases hs with
  | start _ | openReader _ _ | spawn _ _ | assign _ _ | stop _ | cancel _ _ | joined _ _ _
  | clear _ _ => cases ha
  | read hthread _ _ =>
      cases ha
      simp [move, hthread, StreamPhase.weight, Action.reads]
  | readEnd hthread | dispatch hthread | updated hthread | finish hthread | exit hthread =>
      cases ha
      simp [move, hthread, StreamPhase.weight, Action.reads]

end StreamLifecycle

end Grpcw.Client

namespace Grpcw.System.Streaming

open Transition Server Client StreamRpcHandler StreamLifecycle

variable {ι Request Response Status : Type} {s s' : Streaming ι Request Response Status}

/-! ## Agreement -/

/-- `records` is what a client was told, call by call: the first of the calls of `write` that
were issued on its connection. -/
structure Accounts (s : Streaming ι Request Response Status) (p : CallID ι) (conn : Nat)
    (records : List (CallRecord Response Status)) : Prop where
  told : LifecycleEvent.told p.2 (s.client p.1).log =
    records.filterMap fun r => r.kind.update
  issued : records <+: (deliveries conn s.server.log).reverse

/-- The broadcasts for two connections, oldest first. -/
def broadcastsTo (conn conn' : Nat) (s : Streaming ι Request Response Status) :
    List (CallRecord Response Status) :=
  (Broadcast.shared CallRecord.members conn conn' (broadcasts s.server.log)).reverse

/-- Of the broadcasts for both connections, two clients were told first parts, and one of
them a first part of what the other was told. -/
def Agree (s : Streaming ι Request Response Status) (conn conn' : Nat)
    (records records' : List (CallRecord Response Status)) : Prop :=
  let both := fun other (r : CallRecord Response Status) =>
    decide (r.isBroadcast ∧ other ∈ r.members)
  records.filter (both conn') <+: s.broadcastsTo conn conn' ∧
    records'.filter (both conn) <+: s.broadcastsTo conn conn' ∧
    (records.filter (both conn') <+: records'.filter (both conn) ∨
      records'.filter (both conn) <+: records.filter (both conn'))

/-- What a client was told can be accounted for. -/
theorem accounts_of_prefix {p : CallID ι} {conn : Nat}
    (h : LifecycleEvent.told p.2 (s.client p.1).log <+: OpKind.messages (s.operations conn)) :
    ∃ records, s.Accounts p conn records := by
  rw [operations, StreamRpcHandler.issued, ← List.map_reverse, OpKind.messages, OpKind.spoken,
    List.takeWhile_map, List.filterMap_map] at h
  obtain ⟨records, hrecords, htold⟩ := List.prefix_filterMap_iff.mp h
  exact ⟨records, htold, hrecords.trans (List.takeWhile_prefix _)⟩

/-- Two clients account for their broadcasts in one order. -/
theorem Accounts.agree {p p' : CallID ι} {conn conn' : Nat}
    {records records' : List (CallRecord Response Status)} (h : s.Accounts p conn records)
    (h' : s.Accounts p' conn' records') (hsame : SameOrder conn conn' s.server.log) :
    s.Agree conn conn' records records' := by
  have hfirst : ∀ {c c' : Nat} {rs : List (CallRecord Response Status)},
      rs <+: (deliveries c s.server.log).reverse →
      deliveredWith c c' s.server.log =
        Broadcast.shared CallRecord.members conn conn' (broadcasts s.server.log) →
      (rs.filter fun r => decide (r.isBroadcast ∧ c' ∈ r.members)) <+:
        s.broadcastsTo conn conn' := by
    intro c c' rs hrs hshared
    have hprefix := hrs.filter fun r => decide (r.isBroadcast ∧ c' ∈ r.members)
    rw [List.filter_reverse] at hprefix
    rw [broadcastsTo, ← hshared]
    exact hprefix
  have hleft := hfirst h.issued hsame.1
  have hright := hfirst h'.issued hsame.2
  exact ⟨hleft, hright, List.prefix_or_prefix_of_prefix hleft hright⟩

variable [DecidableEq ι]

/-- In every run, two clients that have been accepted are told the broadcasts for both of
them in one order. -/
theorem reachable_agreement (hr : s.StreamingReachable) {p p' : CallID ι} {conn conn' : Nat}
    (hp : s.connection p = some conn) (hp' : s.connection p' = some conn') :
    ∃ records records', s.Accounts p conn records ∧ s.Accounts p' conn' records' ∧
      s.Agree conn conn' records records' := by
  have htold : ∀ {q c}, s.connection q = some c →
      LifecycleEvent.told q.2 (s.client q.1).log <+: OpKind.messages (s.operations c) := by
    intro q c hq
    rw [operations, ← ((StreamingReachable.carries hr).bound hq).1]
    exact (StreamingReachable.receipt hr).told_spoken
      ((StreamingReachable.client hr q.1).history.told q.2)
  obtain ⟨records, h⟩ := accounts_of_prefix (htold hp)
  obtain ⟨records', h'⟩ := accounts_of_prefix (htold hp')
  have hexact := HandlerReachable.exactRounds (StreamingReachable.server hr)
  exact ⟨records, records', h, h', h.agree h' (hexact.sameOrder conn conn')⟩

/-- Two clients, of which one has been told the broadcast for both. -/
def behind : List (Action Bool Nat Nat Nat) :=
  .serve (.activateNext 1 101) :: arrival false 2 102 ++ arrival true 3 103 ++
    [.serve (.write 5 (.all [(1, 104), (2, 105)])), .client false (.read 0 5),
      .client false (.dispatch 0)]

theorem reachable_agreement_behind :
    LifecycleEvent.told 0 ((streamed behind).client false).log = [5] ∧
      LifecycleEvent.told 0 ((streamed behind).client true).log = [] ∧
      (broadcastsTo 0 1 (streamed behind)).length = 1 ∧
      ∃ records records', (streamed behind).Accounts (false, 0) 0 records ∧
        (streamed behind).Accounts (true, 0) 1 records' ∧
        (streamed behind).Agree 0 1 records records' :=
  ⟨by decide, by decide, by decide,
    reachable_agreement (streamed_reachable behind) (by decide) (by decide)⟩

/-! ## Catching up -/

/-- A client has been told all there is to tell for now. -/
def CaughtUp (i : ι) (n conn : Nat) (s : Streaming ι Request Response Status) : Prop :=
  LifecycleEvent.told n (s.client i).log = OpKind.messages (s.operations conn) ∧
    ∀ status, OpKind.outcome (s.operations conn) = some status →
      LifecycleEvent.group n (s.client i).log =
        (OpKind.messages (s.operations conn)).map (.update n) ++ [.finish n status]

/-- A step of the thread of a call. -/
def Action.OfThread (i : ι) (n : Nat) : Action ι Request Response Status → Prop
  | .client j a => j = i ∧ a.thread = some n
  | _ => False

/-- The thread of a call follows its connection: neither the client nor gRPC has given the
call up. -/
structure Following (i : ι) (n conn : Nat) (s : Streaming ι Request Response Status) : Prop where
  reachable : s.StreamingReachable
  bound : s.connection (i, n) = some conn
  uncut : (s.channel (i, n)).cut = false
  notCancelled : ∀ c, (s.client i).context = some c → c.left = none
  begun : (s.client i).threads n ≠ .none

/-- How many steps the thread has to go. -/
def behindBy (i : ι) (n : Nat) (s : Streaming ι Request Response Status) : Nat :=
  3 * (s.channel (i, n)).flight.length + ((s.client i).threads n).weight

variable {i : ι} {n conn : Nat} {a : Action ι Request Response Status}

/-- What the thread of a call reads is one less in flight. -/
theorem flight_readBy {c : StreamLifecycle Response Status}
    {a : StreamLifecycle.Action Response Status} (hc : (s.client i).Control)
    (hs : (s.client i).Step a c) (hadm : s.Admits i a) (ha : a.thread = some n) :
    (s.readBy i a (i, n)).flight.length + (a.reads n).length =
      (s.channel (i, n)).flight.length := by
  cases a with
  | read run update =>
      cases ha
      obtain ⟨p, hp, hflight⟩ := hadm
      obtain rfl := reading_eq hc (hs.alive (Or.inl ⟨update, rfl⟩)) hp
      have hreading : s.reading i = some (i, n) := hp
      obtain ⟨rest, hrest⟩ := List.head?_eq_some_iff.mp hflight
      simp only [readBy, StreamLifecycle.Action.reads, hreading, if_true]
      simp [Channel.receive, hrest]
  | _ => rfl

theorem Following.lower (hf : Following i n conn s) (ha : a.OfThread i n) (hs : Step s a s') :
    Following i n conn s' ∧ behindBy i n s' < behindBy i n s := by
  have hr' := hf.reachable.tail hs
  cases hs with
  | serve _ _ | accept _ _ _ | sever => exact ha.elim
  | @client j a c hstep hadm =>
      obtain ⟨rfl, hthread⟩ := ha
      have hc := (StreamingReachable.client hf.reachable j).control
      obtain ⟨hweight, hnone, hcontext⟩ := hstep.thread hthread
      have hflight := flight_readBy hc hstep hadm hthread
      have hclient : Function.update s.client j c j = c := Function.update_self ..
      refine ⟨⟨hr', hf.bound, readBy_keeps.2.2.trans hf.uncut, ?_, ?_⟩, ?_⟩
      · intro c₀ (heq : (Function.update s.client j c j).context = some c₀)
        rw [hclient] at heq
        rcases hcontext with hsame | htake
        · exact hf.notCancelled c₀ (hsame ▸ heq)
        · obtain ⟨c₁, hc₁, rfl⟩ := Option.map_eq_some_iff.mp (htake.symm.trans heq)
          rw [ClientContext.take, hf.notCancelled c₁ hc₁]
          rfl
      · show (Function.update s.client j c j).threads n ≠ .none
        rwa [hclient]
      · show 3 * (s.readBy j a (j, n)).flight.length +
          ((Function.update s.client j c j).threads n).weight < _
        rw [hclient, behindBy]
        omega

/-- What is told when nothing is in flight and nothing in hand. -/
theorem Following.told_eq (hf : Following i n conn s)
    (hflight : (s.channel (i, n)).flight = [])
    (hhand : ((s.client i).threads n).inHand = []) :
    LifecycleEvent.told n (s.client i).log = OpKind.messages (s.operations conn) := by
  have htold := ((StreamingReachable.client hf.reachable i).history.told n).told_append
  rw [hhand, List.append_nil] at htold
  rw [htold, (StreamingReachable.receipt hf.reachable).reads,
    Channel.received_eq_sent hflight hf.uncut,
    ((StreamingReachable.carries hf.reachable).bound hf.bound).1]
  rfl

/-- A thread that has reported has told everything. -/
theorem Following.caughtUp (hf : Following i n conn s)
    (hreports : ((s.client i).threads n).reports = 1) : CaughtUp i n conn s := by
  have htold := (StreamingReachable.client hf.reachable i).history.told n
  obtain ⟨status, hmem⟩ := htold.reported hreports
  obtain ⟨houtcome, hgroup⟩ :=
    StreamingReachable.complete hf.reachable hf.bound hmem hf.uncut
  have hdrained := (StreamingReachable.receipt hf.reachable).drained (htold.finished hmem).1
  refine ⟨hf.told_eq hdrained.flight_eq_nil ?_, ?_⟩
  · cases hphase : (s.client i).threads n with
    | finished _ | exited => rfl
    | _ =>
        rw [hphase] at hreports
        cases hreports
  · intro status' houtcome'
    obtain rfl := Option.some_inj.mp (houtcome.symm.trans houtcome')
    exact hgroup

/-- A thread that is behind can go on. -/
theorem Following.live (hf : Following i n conn s) (hgoal : ¬ CaughtUp i n conn s) :
    ∃ a s', a.OfThread i n ∧ Step s a s' := by
  have hc := (StreamingReachable.client hf.reachable i).control
  have hreading : (s.client i).Alive n → s.reading i = some (i, n) := by
    intro ha
    obtain ⟨stub, hreader⟩ := hc.reader_of_alive ha
    rw [reading, hreader]
    rfl
  have hending : (s.channel (i, n)).ending = OpKind.outcome (s.operations conn) :=
    ((StreamingReachable.carries hf.reachable).bound hf.bound).2
  cases hphase : (s.client i).threads n with
  | none => exact absurd hphase hf.begun
  | finished _ | exited => exact absurd (hf.caughtUp (by rw [hphase]; rfl)) hgoal
  | dispatching update =>
      exact ⟨.client i (.dispatch n), _, ⟨rfl, rfl⟩, .client (.dispatch hphase) trivial⟩
  | updating update =>
      exact ⟨.client i (.updated n), _, ⟨rfl, rfl⟩, .client (.updated hphase) trivial⟩
  | finishing =>
      have ha : (s.client i).Alive n := alive_of_threads hphase (by simp) (by simp)
      have hdrained := (StreamingReachable.receipt hf.reachable).drained (i := i) (n := n)
        (by rw [hphase]; trivial)
      have hsome := hdrained.2.resolve_left (by simp [hf.uncut])
      obtain ⟨status, hstatus⟩ := Option.isSome_iff_exists.mp hsome
      exact ⟨.client i (.finish n status), _, ⟨rfl, rfl⟩,
        .client (.finish hphase) ⟨_, hreading ha, Or.inr hstatus⟩⟩
  | reading =>
      have ha : (s.client i).Alive n := alive_of_threads hphase (by simp) (by simp)
      obtain ⟨stub, hreader⟩ := hc.reader_of_alive ha
      cases hflight : (s.channel (i, n)).flight with
      | cons update rest =>
          have hleft : ∀ c, (s.client i).context = some c → c.left ≠ some 0 := by
            intro c hcontext
            rw [hf.notCancelled c hcontext]
            simp
          exact ⟨.client i (.read n update), _, ⟨rfl, rfl⟩,
            .client (.read hphase hreader hleft) ⟨_, hreading ha, by rw [hflight]; rfl⟩⟩
      | nil =>
          cases hend : (s.channel (i, n)).ending with
          | some status =>
              have hdrained : (s.channel (i, n)).Drained :=
                ⟨by rw [hflight]; rfl, Or.inr (by rw [hend]; rfl)⟩
              exact ⟨.client i (.readEnd n), _, ⟨rfl, rfl⟩,
                .client (.readEnd hphase) ⟨_, hreading ha, hdrained⟩⟩
          | none =>
              refine absurd ⟨hf.told_eq hflight (by rw [hphase]; rfl), ?_⟩ hgoal
              intro status houtcome
              rw [← hending, hend] at houtcome
              cases houtcome

/-- Whatever has happened before: a client whose call is accepted and not given up, and whose
thread has begun, catches up when its thread goes on. -/
theorem reachable_catchesUp (hr : s.StreamingReachable) (hp : s.connection (i, n) = some conn)
    (hcut : (s.channel (i, n)).cut = false)
    (hcancel : ∀ c, (s.client i).context = some c → c.left = none)
    (hbegun : (s.client i).threads n ≠ .none) :
    Inevitably Step (Action.OfThread i n) (CaughtUp i n conn) s :=
  inevitably_of_measure (behindBy i n) Following.lower Following.live
    ⟨hr, hp, hcut, hcancel, hbegun⟩

theorem reachable_catchesUp_behind :
    ¬ CaughtUp true 0 1 (streamed behind) ∧
      Inevitably Step (Action.OfThread true 0) (CaughtUp true 0 1) (streamed behind) :=
  ⟨fun h => absurd h.1 (by decide),
    reachable_catchesUp (streamed_reachable behind) (by decide) (by decide)
      (fun c hc => by
        have hleft : ∀ c ∈ ((streamed behind).client true).context, c.left = none := by decide
        exact hleft c hc)
      (fun h => absurd (congrArg StreamPhase.weight h) (by decide))⟩

end Grpcw.System.Streaming
