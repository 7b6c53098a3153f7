import GrpcWrapper.System.Streaming

/-!
# What a client is told

Everything that is sent on the channel of a call was issued on the connection
that the call is bound to (`Carried`), and everything that a client's thread reads
was received on the channel of the thread's start (`Read`).  With `Told`, which
says that a thread passes on what it reads, this gives the path of an update from
`write` to `on_update_`: a client is told a first part of what was written on its
connection, in order and with nothing else in between, and all of it, with the
status of the finish, if its stream has ended on a channel that was not cut
(`reachable_delivery`).
-/

namespace Grpcw.Client

open Transition

variable {Message Status : Type}

/-! ## What a step of a client shows -/

/-- The thread has got the end of its stream. -/
def StreamPhase.Over : StreamPhase Message Status → Prop
  | .finishing | .finished _ | .exited => True
  | _ => False

def Callback.message : Callback Message Status → Option Message
  | .update _ message => some message
  | .finish _ _ => none

namespace LifecycleEvent

/-- The messages that `on_update_` was called with in a run. -/
def told (n : Nat) (log : List (LifecycleEvent Message Status)) : List Message :=
  (group n log).filterMap Callback.message

end LifecycleEvent

open LifecycleEvent

/-- What was told was read, and the rest is in hand. -/
theorem Told.told_append {n : Nat} {phase : StreamPhase Message Status}
    {log : List (LifecycleEvent Message Status)} (h : Told n phase log) :
    told n log ++ phase.inHand = recorded (reads n) log := by
  obtain ⟨statuses, -, heq⟩ := h
  have hmap := congrArg (List.filterMap Callback.message) heq
  rw [List.filterMap_append, List.filterMap_append, List.filterMap_map, List.filterMap_map,
    List.filterMap_map] at hmap
  have hupdate : ∀ l : List Message,
      l.filterMap ((Callback.message : Callback Message Status → _) ∘ .update n) = l :=
    fun l => List.filterMap_some
  have hfinish : statuses.filterMap ((Callback.message : Callback Message Status → _) ∘
      .finish n) = [] := List.filterMap_eq_nil_iff.mpr fun _ _ => rfl
  rw [hupdate, hupdate, hfinish, List.append_nil] at hmap
  exact hmap

theorem mem_group {c : Callback Message Status} {log : List (LifecycleEvent Message Status)} :
    c ∈ group c.run log ↔ .callback c ∈ log := by
  rw [group, trace, recorded, List.mem_filter, List.mem_flatMap]
  constructor
  · rintro ⟨⟨e, he, hc⟩, -⟩
    cases e with
    | callback c' =>
        rw [List.mem_singleton.mp hc]
        exact List.mem_reverse.mp he
    | started _ | read _ _ _ | stopped _ => cases hc
  · intro hmem
    exact ⟨⟨_, List.mem_reverse.mpr hmem, List.mem_singleton_self c⟩, decide_eq_true rfl⟩

/-- Once the status is reported, the thread has passed on all that it read. -/
theorem Told.finished {n : Nat} {phase : StreamPhase Message Status} {status : Status}
    {log : List (LifecycleEvent Message Status)} (h : Told n phase log)
    (hmem : .callback (.finish n status) ∈ log) :
    phase.Over ∧
      group n log = (recorded (reads n) log).map (.update n) ++ [.finish n status] := by
  obtain ⟨statuses, hlength, heq⟩ := h
  have hgroup : Callback.finish n status ∈ group n log :=
    mem_group (c := .finish n status).mpr hmem
  have hstatus : Callback.finish n status ∈
      (recorded (reads n) log).map (.update n) ++ statuses.map (.finish n) :=
    heq ▸ List.mem_append_left _ hgroup
  have hreported : status ∈ statuses := by simpa using hstatus
  cases phase with
  | finished _ | exited =>
      obtain ⟨status', rfl⟩ := List.length_eq_one_iff.mp hlength
      obtain rfl := List.mem_singleton.mp hreported
      exact ⟨trivial, (List.append_nil _).symm.trans heq⟩
  | none | reading | dispatching _ | updating _ | finishing =>
      obtain rfl := List.eq_nil_of_length_eq_zero hlength
      cases hreported

namespace StreamLifecycle

/-- What a step reads, by run. -/
def Action.reads (n : Nat) : Action Message Status → List Message
  | .read run update => if run = n then [update] else []
  | _ => []

variable {s s' : StreamLifecycle Message Status} {a : Action Message Status}

theorem recorded_reads_cons {n : Nat} {e : LifecycleEvent Message Status}
    {log : List (LifecycleEvent Message Status)} (he : e.reads n = []) :
    recorded (LifecycleEvent.reads n) (e :: log) =
      recorded (LifecycleEvent.reads n) log ++ [] := by
  rw [recorded_cons, he]

/-- A thread that goes on and has not got the end. -/
theorem over_of_update {threads : Nat → StreamPhase Message Status} {run n : Nat}
    {phase : StreamPhase Message Status} (hphase : phase.Over → (threads run).Over)
    (hover : (Function.update threads run phase n).Over) : (threads n).Over := by
  by_cases hn : n = run
  · subst hn
    rw [Function.update_self] at hover
    exact hphase hover
  · rwa [Function.update_of_ne hn] at hover

/-- A run reads, ends and reports in its own steps only. -/
theorem Step.observed (hs : Step s a s') (n : Nat) :
    recorded (LifecycleEvent.reads n) s'.log =
        recorded (LifecycleEvent.reads n) s.log ++ a.reads n ∧
      ((s'.threads n).Over → (s.threads n).Over ∨ a = .readEnd n) ∧
      ∀ status, .callback (.finish n status) ∈ s'.log →
        .callback (.finish n status) ∈ s.log ∨ a = .finish n status := by
  have hother : ∀ {e : LifecycleEvent Message Status} {status : Status},
      e ≠ .callback (.finish n status) → .callback (.finish n status) ∈ e :: s.log →
      .callback (.finish n status) ∈ s.log :=
    fun hne hmem => (List.mem_cons.mp hmem).resolve_left hne.symm
  cases hs with
  | start _ =>
      rw [StreamLifecycle.start]
      split
      · exact ⟨(List.append_nil _).symm, Or.inl, fun _ => Or.inl⟩
      · exact ⟨recorded_reads_cons rfl, Or.inl, fun _ hmem => Or.inl (hother (by simp) hmem)⟩
  | stop _ =>
      rw [StreamLifecycle.stop]
      split <;> exact ⟨(List.append_nil _).symm, Or.inl, fun _ => Or.inl⟩
  | openReader _ _ | assign _ _ | cancel _ _ | joined _ _ _ =>
      exact ⟨(List.append_nil _).symm, Or.inl, fun _ => Or.inl⟩
  | spawn _ _ | updated _ =>
      exact ⟨(List.append_nil _).symm, fun hover => Or.inl (over_of_update False.elim hover),
        fun _ => Or.inl⟩
  | clear _ _ =>
      exact ⟨recorded_reads_cons rfl, Or.inl, fun _ hmem => Or.inl (hother (by simp) hmem)⟩
  | read _ _ _ =>
      exact ⟨recorded_cons _ _ _, fun hover => Or.inl (over_of_update False.elim hover),
        fun _ hmem => Or.inl (hother (by simp) hmem)⟩
  | @readEnd run _ =>
      refine ⟨(List.append_nil _).symm, fun hover => ?_, fun _ => Or.inl⟩
      by_cases hn : n = run
      · exact Or.inr (hn ▸ rfl)
      · change (Function.update s.threads run .finishing n).Over at hover
        rw [Function.update_of_ne hn] at hover
        exact Or.inl hover
  | dispatch _ =>
      exact ⟨recorded_reads_cons rfl, fun hover => Or.inl (over_of_update False.elim hover),
        fun _ hmem => Or.inl (hother (by simp) hmem)⟩
  | @finish run status hthread =>
      refine ⟨recorded_reads_cons rfl,
        fun hover => Or.inl (over_of_update (fun _ => hthread ▸ trivial) hover), ?_⟩
      intro status' hmem
      rcases List.mem_cons.mp hmem with heq | hmem
      · cases heq
        exact Or.inr rfl
      · exact Or.inl hmem
  | exit hthread =>
      exact ⟨(List.append_nil _).symm,
        fun hover => Or.inl (over_of_update (fun _ => hthread ▸ trivial) hover), fun _ => Or.inl⟩

/-- The thread of a run that goes on is alive. -/
theorem Step.alive {n : Nat} (hs : Step s a s')
    (ha : (∃ update, a = .read n update) ∨ a = .readEnd n ∨ ∃ status, a = .finish n status) :
    s.Alive n := by
  rcases ha with ⟨update, rfl⟩ | rfl | ⟨status, rfl⟩
  · cases hs with
    | read hthread _ _ => exact alive_of_threads hthread (by simp) (by simp)
  · cases hs with
    | readEnd hthread => exact alive_of_threads hthread (by simp) (by simp)
  · cases hs with
    | finish hthread => exact alive_of_threads hthread (by simp) (by simp)

/-- A thread that gets or has got the end reads nothing more. -/
theorem Step.reads_eq_nil {n : Nat} (hs : Step s a s') (hover : (s.threads n).Over) :
    a.reads n = [] := by
  cases hs with
  | @read run _ _ _ hthread _ _ =>
      refine if_neg ?_
      rintro rfl
      rw [hthread] at hover
      exact hover
  | _ => rfl

end StreamLifecycle

end Grpcw.Client

namespace Grpcw.System

open Transition Server Client StreamRpcHandler StreamLifecycle

variable {ι Request Response Status : Type}

/-! ## From the handler to the channel -/

namespace Streaming

/-- A channel holds what a list of operations, newest first, says. -/
def Carried (c : Channel Response Status) (ops : List (OpKind Response Status)) : Prop :=
  c.sent = OpKind.messages ops.reverse ∧ c.ending = OpKind.outcome ops.reverse

variable {c : Channel Response Status} {ops kinds : List (OpKind Response Status)}
  {kind : OpKind Response Status}

theorem Carried.carry (h : Carried c ops) : Carried (carry kind c) (kind :: ops) := by
  obtain ⟨hsent, hending⟩ := h
  rw [Carried, List.reverse_cons, OpKind.messages_concat, OpKind.outcome_concat, ← hsent, ← hending]
  cases kind with
  | notifyWhenDone => exact ⟨by simp [Streaming.carry, OpKind.update], (Option.or_none).symm⟩
  | finish status => exact ⟨by simp [Streaming.carry, Channel.finish, OpKind.update], rfl⟩
  | write update =>
      refine ⟨?_, Channel.ending_send.trans (Option.or_none).symm⟩
      cases hend : c.ending with
      | none => exact Channel.sent_send hend
      | some _ => exact congrArg Channel.sent (Channel.send_ended (by rw [hend]; rfl))

theorem Carried.foldl (h : Carried c ops) :
    Carried (kinds.foldl (fun c kind => Streaming.carry kind c) c) (kinds.reverse ++ ops) := by
  induction kinds generalizing c ops with
  | nil => exact h
  | cons kind kinds ih =>
      rw [List.foldl_cons, List.reverse_cons, List.append_assoc]
      exact ih h.carry

theorem later_carry : c.Later (carry kind c) := by
  cases kind with
  | notifyWhenDone => exact .refl
  | write update => exact Channel.later_send
  | finish status => exact Channel.later_finish

theorem later_foldl : c.Later (kinds.foldl (fun c kind => carry kind c) c) := by
  induction kinds generalizing c with
  | nil => exact .refl
  | cons kind kinds ih => exact later_carry.trans ih

variable {s s' : Streaming ι Request Response Status} {a : Action ι Request Response Status}
  {record : CallRecord Response Status} {p : CallID ι}

/-- The channel of a bound call gets the operations of its connection. -/
theorem addressed_eq {conn : Nat} (hp : s.connection p = some conn) :
    s.addressed record p =
      (Event.issuing conn (.call record : Event Request Response Status)).map CallRecord.kind := by
  rw [addressed, Event.issuing, List.map_map]
  refine congrArg (List.map _) (List.filter_congr fun q _ => ?_)
  rw [hp]
  exact decide_eq_decide.mpr Option.some_inj

theorem addressed_none (hp : s.connection p = none) : s.addressed record p = [] := by
  rw [addressed, List.map_eq_nil_iff, List.filter_eq_nil_iff]
  intro q _ hq
  rw [hp] at hq
  cases of_decide_eq_true hq

/-- The operations of a section are all of one kind. -/
theorem reverse_addressed : (s.addressed record p).reverse = s.addressed record p := by
  rw [addressed, List.map_const', List.reverse_replicate]

/-- The channels hold what was issued on the connections. -/
structure Carries (s : Streaming ι Request Response Status) : Prop where
  bound : ∀ {p conn}, s.connection p = some conn →
    Carried (s.channel p) (issued conn s.server.log)
  free : ∀ {p}, s.connection p = none → Carried (s.channel p) []

theorem Carries.send {kind : OpKind Response Status} {recipients : Recipients}
    (hc : s.Carries) :
    ({ s with
        server := (s.server.send kind recipients).handler
        channel := s.transmit (s.server.callRecord kind recipients) } :
      Streaming ι Request Response Status).Carries where
  bound := by
    intro p conn (hp : s.connection p = some conn)
    show Carried _ (issued conn (s.server.send kind recipients).handler.log)
    rw [send_log, issued_cons, ← addressed_eq hp, ← reverse_addressed]
    exact (hc.bound hp).foldl
  free := by
    intro p (hp : s.connection p = none)
    show Carried ((s.addressed _ p).foldl _ _) []
    rw [addressed_none hp]
    exact hc.free hp

/-- A section sends on the channels what it issues, or does neither. -/
theorem issued_serve {h' : StreamRpcHandler Request Response Status}
    {a : StreamRpcHandler.Action Request Response Status} (hi : s.server.Inv)
    (hs : s.server.Step a h') :
    (∃ kind recipients, h' = (s.server.send kind recipients).handler ∧
      s.sentBy a = s.transmit (s.server.callRecord kind recipients)) ∨
    (∀ conn, issued conn h'.log = issued conn s.server.log) ∧ s.sentBy a = s.channel := by
  cases hs with
  | onConnect | onDelete => exact Or.inr ⟨fun _ => rfl, rfl⟩
  | accept _ => exact Or.inr ⟨fun _ => rfl, rfl⟩
  | activateNext _ _ _ => exact Or.inr ⟨fun _ => issued_activateNext, rfl⟩
  | @write update recipients _ _ => exact Or.inl ⟨.write update, recipients, rfl, rfl⟩
  | @finish status recipients _ _ => exact Or.inl ⟨.finish status, recipients, rfl, rfl⟩
  | deliver hdel hrun =>
      refine Or.inr ⟨fun conn => ?_, rfl⟩
      obtain ⟨-, ⟨-, heq⟩ | ⟨-, heq⟩⟩ := (StreamRpcHandler.Step.deliver hdel hrun).deliver_cases hi
      all_goals
        rw [heq]
        split <;> simp [issued_cons, Event.issuing]

/-- Steps that send nothing. -/
theorem Carries.keep (hc : s.Carries) (hconnection : s'.connection = s.connection)
    (hissued : ∀ conn, issued conn s'.server.log = issued conn s.server.log)
    (hsent : ∀ p, (s'.channel p).sent = (s.channel p).sent)
    (hending : ∀ p, (s'.channel p).ending = (s.channel p).ending) : s'.Carries where
  bound := by
    intro p conn hp
    rw [Carried, hsent, hending, hissued]
    exact hc.bound (hconnection ▸ hp)
  free := by
    intro p hp
    rw [Carried, hsent, hending]
    exact hc.free (hconnection ▸ hp)

/-- A client has read what was received for its starts. -/
structure Receipt (s : Streaming ι Request Response Status) : Prop where
  reads : ∀ i n, recorded (LifecycleEvent.reads n) (s.client i).log = (s.channel (i, n)).received
  drained : ∀ {i n}, ((s.client i).threads n).Over → (s.channel (i, n)).Drained
  status : ∀ {i n status}, .callback (.finish n status) ∈ (s.client i).log →
    (s.channel (i, n)).cut = false → (s.channel (i, n)).ending = some status

/-- Nothing is received. -/
theorem Receipt.later (hrec : s.Receipt) (hclient : s'.client = s.client)
    (hlater : ∀ p, (s.channel p).Later (s'.channel p)) : s'.Receipt where
  reads i n := by
    rw [hclient, (hlater _).received]
    exact hrec.reads i n
  drained := by
    intro i n hover
    rw [hclient] at hover
    exact (hlater _).drained (hrec.drained hover)
  status := by
    intro i n status hmem hcut
    rw [hclient] at hmem
    exact (hlater _).ending (hrec.status hmem ((hlater _).uncut hcut))

/-- A thread that is alive reads the channel of its start. -/
theorem reading_eq {i : ι} {n : Nat} (hc : (s.client i).Control) (ha : (s.client i).Alive n)
    (hp : s.reading i = some p) : p = (i, n) := by
  obtain ⟨⟨run, stub⟩, hreader, rfl⟩ := Option.map_eq_some_iff.mp hp
  rw [hc.reader_eq ha hreader]

/-- What a run was told was received on its channel. -/
theorem Receipt.told_spoken (hrec : s.Receipt) {i : ι} {n : Nat}
    (htold : Told n ((s.client i).threads n) (s.client i).log) :
    LifecycleEvent.told n (s.client i).log <+: (s.channel (i, n)).sent := by
  have hread : LifecycleEvent.told n (s.client i).log <+: (s.channel (i, n)).received := by
    rw [← hrec.reads, ← htold.told_append]
    exact List.prefix_append _ _
  exact hread.trans (Channel.received_prefix _)

theorem later_sentBy {a : StreamRpcHandler.Action Request Response Status} :
    (s.channel p).Later (s.sentBy a p) := by
  cases a with
  | write _ _ | finish _ _ => exact later_foldl
  | _ => exact .refl

variable [DecidableEq ι]

theorem Carries.accept {h : StreamRpcHandler Request Response Status} {conn : Nat}
    {call : CallID ι} (hc : s.Carries) (hlog : h.log = s.server.log)
    (hunused : issued conn s.server.log = []) (hcall : s.connection call = none) :
    ({ s with server := h, connection := Function.update s.connection call (some conn) } :
      Streaming ι Request Response Status).Carries where
  bound := by
    intro p conn' (hp : Function.update s.connection call (some conn) p = some conn')
    show Carried (s.channel p) (issued conn' h.log)
    rw [hlog]
    by_cases hne : p = call
    · subst hne
      rw [Function.update_self] at hp
      cases hp
      rw [hunused]
      exact hc.free hcall
    · rw [Function.update_of_ne hne] at hp
      exact hc.bound hp
  free := by
    intro p (hp : Function.update s.connection call (some conn) p = none)
    refine hc.free ?_
    by_cases hne : p = call
    · exact hne ▸ hcall
    · rwa [Function.update_of_ne hne] at hp

theorem readBy_keeps {i : ι} {a : StreamLifecycle.Action Response Status} :
    (s.readBy i a p).sent = (s.channel p).sent ∧
      (s.readBy i a p).ending = (s.channel p).ending ∧
        (s.readBy i a p).cut = (s.channel p).cut := by
  cases a with
  | read _ _ =>
      simp only [readBy]
      split <;> exact ⟨rfl, rfl, rfl⟩
  | _ => exact ⟨rfl, rfl, rfl⟩

theorem sever_keeps {call : CallID ι} {k : Nat} :
    (Function.update s.channel call ((s.channel call).sever k) p).sent = (s.channel p).sent ∧
      (Function.update s.channel call ((s.channel call).sever k) p).ending =
        (s.channel p).ending := by
  rw [Function.update_apply]
  split
  · subst p
    exact ⟨rfl, rfl⟩
  · exact ⟨rfl, rfl⟩

theorem Step.carries (hc : s.Carries) (hu : Unused s.server) (hi : s.server.Inv)
    (hs : Step s a s') : s'.Carries := by
  cases hs with
  | serve _ hstep =>
      rcases issued_serve hi hstep with ⟨kind, recipients, rfl, hsent⟩ | ⟨hissued, hsent⟩
      · rw [hsent]
        exact hc.send
      · rw [hsent]
        exact hc.keep rfl hissued (fun _ => rfl) fun _ => rfl
  | accept hn _ hcall => exact hc.accept rfl (hu.next hn) hcall
  | client _ _ =>
      exact hc.keep rfl (fun _ => rfl) (fun _ => readBy_keeps.1) fun _ => readBy_keeps.2.1
  | sever =>
      exact hc.keep rfl (fun _ => rfl) (fun _ => sever_keeps.1) fun _ => sever_keeps.2

theorem StreamingReachable.carries (hr : s.StreamingReachable) : s.Carries := by
  refine hr.invariant ⟨(fun hp => by cases hp), fun _ => ⟨rfl, rfl⟩⟩ ?_
  intro s a s' hr hc hs
  exact hs.carries hc (StreamingReachable.unused hr)
    (HandlerReachable.inv (StreamingReachable.server hr))

/-! ## From the channel to the client -/

/-- A step of a client is felt by its own channels only. -/
theorem readBy_other {i j : ι} {n : Nat} {a : StreamLifecycle.Action Response Status}
    (hne : j ≠ i) : s.readBy i a (j, n) = s.channel (j, n) := by
  cases a with
  | read _ _ =>
      refine if_neg fun hp => ?_
      obtain ⟨_, -, heq⟩ := Option.map_eq_some_iff.mp hp
      exact hne (congrArg Prod.fst heq).symm
  | _ => rfl

/-- What a client's step receives on the channel of a start is what the start's thread reads. -/
theorem received_readBy {i : ι} {c : StreamLifecycle Response Status}
    {a : StreamLifecycle.Action Response Status} (hc : (s.client i).Control)
    (hs : (s.client i).Step a c) (hadm : s.Admits i a) (n : Nat) :
    (s.readBy i a (i, n)).received = (s.channel (i, n)).received ++ a.reads n ∧
      (a.reads n = [] → s.readBy i a (i, n) = s.channel (i, n)) := by
  cases a with
  | read run update =>
      obtain ⟨p, hp, hflight⟩ := hadm
      obtain rfl := reading_eq hc (hs.alive (Or.inl ⟨update, rfl⟩)) hp
      have hreading : s.reading i = some (i, run) := hp
      simp only [readBy, StreamLifecycle.Action.reads, hreading]
      by_cases hn : run = n
      · subst hn
        rw [if_pos rfl, if_pos rfl]
        exact ⟨Channel.received_receive hflight, fun hnil => absurd hnil (List.cons_ne_nil _ _)⟩
      · have hne : ¬ some (i, run) = some (i, n) := by simpa using hn
        rw [if_neg hne, if_neg hn]
        exact ⟨(List.append_nil _).symm, fun _ => rfl⟩
  | _ => exact ⟨(List.append_nil _).symm, fun _ => rfl⟩

theorem Receipt.client {i : ι} {c : StreamLifecycle Response Status}
    {a : StreamLifecycle.Action Response Status} (hrec : s.Receipt) (hc : (s.client i).Control)
    (hs : (s.client i).Step a c) (hadm : s.Admits i a) :
    ({ s with client := Function.update s.client i c, channel := s.readBy i a } :
      Streaming ι Request Response Status).Receipt := by
  have hself : Function.update s.client i c i = c := Function.update_self ..
  have hother : ∀ j, j ≠ i → Function.update s.client i c j = s.client j :=
    fun j hne => Function.update_of_ne hne ..
  refine ⟨?_, ?_, ?_⟩
  · intro j n
    show recorded _ (Function.update s.client i c j).log = (s.readBy i a (j, n)).received
    by_cases hj : j = i
    · subst hj
      rw [hself, (hs.observed n).1, (received_readBy hc hs hadm n).1, hrec.reads]
    · rw [hother j hj, readBy_other hj, hrec.reads]
  · intro j n (hover : ((Function.update s.client i c j).threads n).Over)
    show (s.readBy i a (j, n)).Drained
    by_cases hj : j = i
    · subst hj
      rw [hself] at hover
      rcases (hs.observed n).2.1 hover with hover | rfl
      · rw [(received_readBy hc hs hadm n).2 (hs.reads_eq_nil hover)]
        exact hrec.drained hover
      · obtain ⟨p, hp, hdrained⟩ := hadm
        obtain rfl := reading_eq hc (hs.alive (Or.inr (Or.inl rfl))) hp
        exact hdrained
    · rw [hother j hj] at hover
      rw [readBy_other hj]
      exact hrec.drained hover
  · intro j n status hmem hcut
    have hmem' : .callback (.finish n status) ∈ (Function.update s.client i c j).log := hmem
    change (s.readBy i a (j, n)).cut = false at hcut
    show (s.readBy i a (j, n)).ending = some status
    by_cases hj : j = i
    · subst hj
      rw [hself] at hmem'
      rw [readBy_keeps.2.2] at hcut
      rw [readBy_keeps.2.1]
      rcases (hs.observed n).2.2 status hmem' with hmem' | rfl
      · exact hrec.status hmem' hcut
      · obtain ⟨p, hp, hending⟩ := hadm
        obtain rfl := reading_eq hc (hs.alive (Or.inr (Or.inr ⟨status, rfl⟩))) hp
        exact hending.resolve_left (by simp [hcut])
    · rw [hother j hj] at hmem'
      rw [readBy_other hj] at hcut ⊢
      exact hrec.status hmem' hcut

theorem Step.receipt (hrec : s.Receipt) (hc : ∀ i, (s.client i).Control) (hs : Step s a s') :
    s'.Receipt := by
  cases hs with
  | serve _ _ => exact hrec.later rfl fun _ => later_sentBy
  | accept _ _ _ => exact hrec.later rfl fun _ => .refl
  | @client i _ _ hstep hadm => exact hrec.client (hc i) hstep hadm
  | @sever call k =>
      refine hrec.later rfl fun p => ?_
      show Channel.Later _ (Function.update s.channel call _ p)
      rw [Function.update_apply]
      split
      · subst p
        exact Channel.later_sever
      · exact .refl

theorem StreamingReachable.receipt (hr : s.StreamingReachable) : s.Receipt := by
  refine hr.invariant ⟨fun _ _ => rfl, False.elim, fun hmem => absurd hmem List.not_mem_nil⟩ ?_
  intro s a s' hr hrec hs
  exact hs.receipt hrec fun i => (StreamingReachable.client hr i).control

/-! ## The path of an update -/

/-- The operations that were issued on a connection, oldest first. -/
def operations (conn : Nat) (s : Streaming ι Request Response Status) :
    List (OpKind Response Status) :=
  (issued conn s.server.log).reverse

/-- What the handler does reaches the clients. -/
structure Delivery (s : Streaming ι Request Response Status) : Prop where
  /-- A connection serves one call. -/
  oneCall : ∀ {p p' conn}, s.connection p = some conn → s.connection p' = some conn → p = p'
  /-- A client is told a first part of what was written on its connection. -/
  told : ∀ {conn i n}, s.connection (i, n) = some conn →
    LifecycleEvent.told n (s.client i).log <+: OpKind.messages (s.operations conn)
  /-- A call that was not accepted tells nothing. -/
  silent : ∀ {i n}, s.connection (i, n) = none →
    LifecycleEvent.told n (s.client i).log = []
  /-- A stream that has ended, and was not cut, was told everything and the status of the
  finish. -/
  complete : ∀ {conn i n status}, s.connection (i, n) = some conn →
    .callback (.finish n status) ∈ (s.client i).log → (s.channel (i, n)).cut = false →
    OpKind.outcome (s.operations conn) = some status ∧
      LifecycleEvent.group n (s.client i).log =
        (OpKind.messages (s.operations conn)).map (.update n) ++ [.finish n status]

theorem StreamingReachable.complete (hr : s.StreamingReachable) {conn n : Nat} {i : ι}
    {status : Status} (hp : s.connection (i, n) = some conn)
    (hmem : .callback (.finish n status) ∈ (s.client i).log)
    (hcut : (s.channel (i, n)).cut = false) :
    OpKind.outcome (s.operations conn) = some status ∧
      LifecycleEvent.group n (s.client i).log =
        (OpKind.messages (s.operations conn)).map (.update n) ++ [.finish n status] := by
  have hrec := StreamingReachable.receipt hr
  obtain ⟨hsent, hending⟩ := (StreamingReachable.carries hr).bound hp
  obtain ⟨hover, hgroup⟩ := ((StreamingReachable.client hr i).history.told n).finished hmem
  have hreceived := Channel.received_eq_sent (hrec.drained hover).flight_eq_nil hcut
  refine ⟨hending.symm.trans (hrec.status hmem hcut), ?_⟩
  rw [hgroup, hrec.reads, hreceived, hsent]
  rfl

/-- In every run of the handler and its clients, whatever gRPC delays, refuses or cuts. -/
theorem reachable_delivery (hr : s.StreamingReachable) : s.Delivery where
  oneCall := (StreamingReachable.bound hr).unique
  told := by
    intro conn i n hp
    have htold := (StreamingReachable.client hr i).history.told n
    rw [operations, ← ((StreamingReachable.carries hr).bound hp).1]
    exact (StreamingReachable.receipt hr).told_spoken htold
  silent := by
    intro i n hfree
    have htold := (StreamingReachable.client hr i).history.told n
    have hprefix := (StreamingReachable.receipt hr).told_spoken htold
    rw [((StreamingReachable.carries hr).free hfree).1] at hprefix
    exact List.prefix_nil.mp hprefix
  complete := StreamingReachable.complete hr

/-- A client streams, and its call is accepted; the next connection is at `key`. -/
def arrival (i : ι) (key tag : Nat) : List (Action ι Nat Nat Nat) :=
  [.client i (.start ⟨some 1⟩), .client i .openReader, .client i .spawn, .client i .assign,
    .accept 7 (i, 0), .serve (.activateNext key tag)]

/-- A client is written one update, and its stream is finished. -/
def finished : List (Action Unit Nat Nat Nat) :=
  .serve (.activateNext 1 101) :: arrival () 2 102 ++
    [.serve (.write 5 (.all [(1, 103)])), .client () (.read 0 5), .client () (.dispatch 0),
      .client () (.updated 0), .serve (.deliver ⟨103, 1, 0, .write 5⟩ true),
      .serve (.finish 9 (.one 1 104)), .client () (.readEnd 0), .client () (.finish 0 9)]

theorem reachable_delivery_finished :
    (streamed finished).connection ((), 0) = some 0 ∧
      LifecycleEvent.group 0 ((streamed finished).client ()).log = [.update 0 5, .finish 0 9] ∧
      (streamed finished).Delivery :=
  ⟨by decide, by decide, reachable_delivery (streamed_reachable finished)⟩

end Streaming

end Grpcw.System
