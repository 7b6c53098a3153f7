import GrpcWrapper.Server.AcceptDiscipline

/-!
# Arrivals at a stream

`register_async_stream` registers the first accept of a stream before it returns
the setter for the callbacks, so the run thread may activate a connection of
which `on_connect` has not heard yet.  `activate_next` then moves it into
`active` without a call of `connection_callback_`, and nothing makes up for it.

The callback has been called for every connection that became active exactly
when it was set at each activation (`allGreeted_iff`).
-/

namespace Grpcw.Server

open Transition

variable {Request Response Status : Type}

namespace StreamRpcHandler

/-! ## The property of a handler -/

/-- `connection_callback_` was called for every connection that was moved into
`active`, and for those that are there with their addresses and requests. -/
structure Greeted (h : StreamRpcHandler Request Response Status) : Prop where
  reported : ∀ conn, .activate conn ∈ h.log → ∃ id request, .connect conn id request ∈ h.log
  active : ∀ {key c}, h.connections.active.lookup key = some c →
    .connect c.serial key c.request ∈ h.log

/-- The connection in `next` has not been reported. -/
def NextUnreported (h : StreamRpcHandler Request Response Status) : Prop :=
  ∀ conn id request, .connect conn id request ∈ h.log →
    conn < h.allocated ∧ ∀ p ∈ h.connections.next, p.2.serial ≠ conn

/-- What all sections but `activate_next` leave alone. -/
structure NoArrival (h h' : StreamRpcHandler Request Response Status) : Prop where
  connects : ∀ {conn id request}, .connect conn id request ∈ h'.log ↔
    .connect conn id request ∈ h.log
  activates : ∀ {conn}, .activate conn ∈ h'.log ↔ .activate conn ∈ h.log
  active : ∀ {key c}, h'.connections.active.lookup key = some c →
    h.connections.active.lookup key = some c
  next : ∀ {p'}, p' ∈ h'.connections.next → ∃ p ∈ h.connections.next, p.2.serial = p'.2.serial
  allocated : h'.allocated = h.allocated

variable {h h' : StreamRpcHandler Request Response Status} {a : Action Request Response Status}
  {key tag : Addr} {conn : Nat} {op : Operation Response Status} {callOk : Bool}
  {kind : OpKind Response Status} {c : StreamConnection Request}

theorem Greeted.initial : (initial : StreamRpcHandler Request Response Status).Greeted where
  reported := nofun
  active := fun ha => by cases ha

theorem NextUnreported.initial :
    (initial : StreamRpcHandler Request Response Status).NextUnreported :=
  fun _ _ _ hm => by cases hm

/-! ## Sections without an arrival -/

theorem NoArrival.accept {request : Request} : NoArrival h (h.accept request) where
  connects := Iff.rfl
  activates := Iff.rfl
  active := id
  next := by
    intro p' hp
    obtain ⟨p, hn, rfl⟩ := Option.map_eq_some_iff.mp hp
    exact ⟨p, hn, rfl⟩
  allocated := rfl

theorem NoArrival.send {recipients : Recipients} :
    NoArrival h (h.send kind recipients).handler where
  connects := by simp
  activates := by simp
  active := by
    rw [send_active]
    exact id
  next := by
    rw [send_next]
    exact fun hp => ⟨_, hp, rfl⟩
  allocated := send_allocated h kind recipients

theorem NoArrival.complete : NoArrival h (h.complete op callOk) where
  connects := by simp
  activates := by simp
  active := id
  next := fun hp => ⟨_, hp, rfl⟩
  allocated := rfl

theorem NoArrival.notified : NoArrival h (h.notified op) where
  connects := by simp
  activates := by simp
  active := id
  next := fun hp => ⟨_, hp, rfl⟩
  allocated := rfl

theorem NoArrival.delete (hk : NoArrival h h') : NoArrival h (h'.delete conn key) where
  connects := by
    intro conn id request
    rw [← hk.connects]
    simp
  activates := by
    intro conn
    rw [← hk.activates]
    simp
  active := by
    intro key' c ha
    rw [lookup_delete] at ha
    split at ha
    · cases ha
    · exact hk.active ha
  next := hk.next
  allocated := hk.allocated

theorem Step.noArrival (hi : h.Inv) (hs : Step h a h')
    (ha : ∀ key tag, a ≠ .activateNext key tag) : NoArrival h h' := by
  cases hs with
  | onConnect | onDelete => exact ⟨Iff.rfl, Iff.rfl, id, fun hp => ⟨_, hp, rfl⟩, rfl⟩
  | accept _ => exact .accept
  | activateNext _ _ _ => exact absurd rfl (ha _ _)
  | write _ _ | finish _ _ => exact .send
  | deliver hdel hrun =>
      obtain ⟨-, ⟨-, heq⟩ | ⟨-, heq⟩⟩ := (Step.deliver hdel hrun).deliver_cases hi
      · rw [heq]
        split
        · exact .complete
        · exact NoArrival.complete.delete
      · rw [heq]
        split
        · exact .notified
        · exact NoArrival.notified.delete

theorem Greeted.of_noArrival (hg : h.Greeted) (hk : NoArrival h h') : h'.Greeted where
  reported := by
    intro conn hm
    obtain ⟨id, request, hc⟩ := hg.reported conn (hk.activates.mp hm)
    exact ⟨id, request, hk.connects.mpr hc⟩
  active := fun ha => hk.connects.mpr (hg.active (hk.active ha))

theorem NextUnreported.of_noArrival (hn : h.NextUnreported) (hk : NoArrival h h') :
    h'.NextUnreported := by
  intro conn id request hm
  obtain ⟨hlt, hne⟩ := hn conn id request (hk.connects.mp hm)
  refine ⟨hk.allocated ▸ hlt, ?_⟩
  intro p' hp'
  obtain ⟨p, hp, hs⟩ := hk.next hp'
  exact hs ▸ hne p hp

/-! ## Activations -/

theorem connect_activateNext_iff {id : Addr} {request : Option Request} :
    .connect conn id request ∈ (h.activateNext key tag).log ↔
      .connect conn id request ∈ h.log ∨
        h.connectionCallback = true ∧ h.connections.next = some (id, ⟨conn, request⟩) := by
  rw [activateNext_log]
  cases hn : h.connections.next with
  | none => simp
  | some p =>
      obtain ⟨key', serial, request'⟩ := p
      by_cases hc : h.connectionCallback = true
      · simp only [hc, if_true, List.mem_cons, reduceCtorEq, false_or, Event.connect.injEq,
          true_and, Option.some.injEq, Prod.mk.injEq, StreamConnection.mk.injEq]
        constructor
        · rintro (⟨rfl, rfl, rfl⟩ | hm)
          · exact Or.inr ⟨rfl, rfl, rfl⟩
          · exact Or.inl hm
        · rintro (hm | ⟨rfl, rfl, rfl⟩)
          · exact Or.inr hm
          · exact Or.inl ⟨rfl, rfl, rfl⟩
      · simp [hc]

theorem activate_activateNext_iff :
    .activate conn ∈ (h.activateNext key tag).log ↔
      .activate conn ∈ h.log ∨ ∃ p ∈ h.connections.next, p.2.serial = conn := by
  rw [activateNext_log]
  cases hn : h.connections.next with
  | none => simp
  | some p =>
      have hiff : (.activate conn ∈ if h.connectionCallback then
          .connect p.2.serial p.1 p.2.request :: h.log else h.log) ↔ .activate conn ∈ h.log := by
        split <;> simp
      simp only [List.mem_cons, Event.activate.injEq, hiff, Option.mem_some_iff, exists_eq_left']
      rw [or_comm, eq_comm]

theorem NextUnreported.activateNext (hi : h.Inv) (hn : h.NextUnreported) :
    (h.activateNext key tag).NextUnreported := by
  intro conn id request hm
  have hlt : conn < h.allocated := by
    rcases connect_activateNext_iff.mp hm with hm | ⟨-, hnext⟩
    · exact (hn conn id request hm).1
    · exact hi.ownsSerial (.next hnext)
  rw [activateNext_allocated, activateNext_next]
  refine ⟨Nat.lt_succ_of_lt hlt, ?_⟩
  intro p hp
  cases hp
  exact (Nat.ne_of_lt hlt).symm

theorem HandlerReachable.nextUnreported (hr : h.HandlerReachable) : h.NextUnreported := by
  refine hr.invariant (I := NextUnreported) .initial ?_
  intro h a h' hr hn hs
  have hi := HandlerReachable.inv hr
  by_cases ha : ∃ key tag, a = .activateNext key tag
  · obtain ⟨key, tag, rfl⟩ := ha
    cases hs with
    | activateNext _ _ _ => exact hn.activateNext hi
  · refine hn.of_noArrival (hs.noArrival hi ?_)
    intro key tag heq
    exact ha ⟨key, tag, heq⟩

/-- An activation greets the connection it moves if the callback is set. -/
theorem greeted_activateNext (hr : h.HandlerReachable) (hg : h.Greeted) :
    (h.activateNext key tag).Greeted ↔
      (h.connections.next.isSome → h.connectionCallback = true) := by
  have hi := HandlerReachable.inv hr
  constructor
  · intro hg' hsome
    obtain ⟨p, hn⟩ := Option.isSome_iff_exists.mp hsome
    obtain ⟨id, request, hm⟩ := hg'.reported p.2.serial
      (activate_activateNext_iff.mpr (Or.inr ⟨p, hn, rfl⟩))
    rcases connect_activateNext_iff.mp hm with hm | ⟨hc, -⟩
    · exact absurd rfl ((HandlerReachable.nextUnreported hr _ _ _ hm).2 p hn)
    · exact hc
  · intro hc
    refine ⟨?_, ?_⟩
    · intro conn hm
      rcases activate_activateNext_iff.mp hm with hm | ⟨p, hn, rfl⟩
      · obtain ⟨id, request, hm⟩ := hg.reported conn hm
        exact ⟨id, request, connect_activateNext_iff.mpr (Or.inl hm)⟩
      · refine ⟨p.1, p.2.request, connect_activateNext_iff.mpr (Or.inr ⟨hc ?_, hn⟩)⟩
        rw [hn]
        rfl
    · intro key' c ha
      rw [connect_activateNext_iff]
      rcases hi.lookup_moveNext.mp ha with ha | hn
      · exact Or.inl (hg.active ha)
      · refine Or.inr ⟨hc ?_, hn⟩
        rw [hn]
        rfl

end StreamRpcHandler

theorem RpcHandler.write_stream {handler : RpcHandler Request Response Status} {key : Addr}
    {request : Request} {h : StreamRpcHandler Request Response Status}
    (hw : handler.write key request = some (.stream h)) :
    ∃ h₀, handler = .stream h₀ ∧ h = h₀.accept request := by
  cases handler with
  | stream h₀ =>
      obtain ⟨-, heq⟩ := Option.ite_none_right_eq_some.mp hw
      exact ⟨h₀, rfl, (RpcHandler.stream.inj (Option.some.inj heq)).symm⟩
  | nonStream _ =>
      obtain ⟨-, heq⟩ := Option.ite_none_right_eq_some.mp hw
      cases heq

namespace GrpcAsyncServer

open StreamRpcHandler (Greeted greeted_activateNext NoArrival)

variable {s s' : GrpcAsyncServer Request Response Status} {tag : Addr} {a : Accept Request}
  {action : Action Request Response Status}
  {handler handler' : RpcHandler Request Response Status} {slot : Slot Request}
  {tr : List (GrpcAsyncServer Request Response Status × Action Request Response Status)}

/-! ## The property of a server -/

/-- No stream of the server has missed a connection. -/
def AllGreeted (s : GrpcAsyncServer Request Response Status) : Prop :=
  EachStream Greeted s.rpcHandlers

/-- A stream whose connection is activated has its connection callback. -/
def GreetGuard (s : GrpcAsyncServer Request Response Status) :
    Action Request Response Status → Prop
  | .activate => ∀ a h, s.runThread = .handling a true →
      s.rpcHandlers.lookup a.tag = some (.stream h) → h.connectionCallback = true
  | _ => True

/-- A handler that is activated for the first time has no connection to move. -/
theorem AllGreeted.register (hg : s.AllGreeted) (hr : s.ServerReachable)
    (hm : tag ∈ s.registering) (hl : s.rpcHandlers.lookup tag = some handler)
    (hact : handler.Activate handler') : EachStream Greeted (s.rpcHandlers.insert tag handler') := by
  refine EachStream.insert hg ?_
  intro h heq
  cases hact with
  | nonStream _ => cases heq
  | @stream h₀ key t _ _ =>
      cases heq
      refine (greeted_activateNext (ServerReachable.stream_reachable hr hl) (hg tag h₀ hl)).mpr ?_
      intro hsome
      obtain ⟨e, he, hnone⟩ := (ServerReachable.inv hr).sound.empty tag hm
      obtain rfl := Option.some.inj (hl.symm.trans he)
      rw [Option.map_eq_none_iff.mp hnone] at hsome
      cases hsome

/-- The run thread activates the connection of an accept. -/
theorem allGreeted_activate (hr : s.ServerReachable) (hg : s.AllGreeted)
    (hrun : s.runThread = .handling a true) (hl : s.rpcHandlers.lookup a.tag = some handler)
    (hact : handler.Activate handler') :
    EachStream Greeted (s.rpcHandlers.insert a.tag handler') ↔ GreetGuard s .activate := by
  have hthe : ∀ {b}, s.runThread = .handling b true → b = a := by
    intro b hb
    cases hrun.symm.trans hb
    rfl
  cases hact with
  | nonStream hnone =>
      refine iff_of_true (EachStream.insert hg nofun) ?_
      intro b h hb hlb
      cases hthe hb
      cases hl.symm.trans hlb
  | @stream h₀ key t _ _ =>
      have hiff : (h₀.activateNext key t).Greeted ↔ _ :=
        greeted_activateNext (ServerReachable.stream_reachable hr hl) (hg a.tag h₀ hl)
      constructor
      · intro hall b h hb hlb
        cases hthe hb
        cases hl.symm.trans hlb
        refine hiff.mp (hall a.tag _ (AList.lookup_insert s.rpcHandlers)) ?_
        have ha : a ∈ s.accepts := by simp [accepts, hrun, ServerPhase.accepts]
        obtain ⟨-, e, he, hslot⟩ := (ServerReachable.inv hr).sound.current a ha
        obtain rfl := Option.some.inj (hl.symm.trans he)
        exact Option.isSome_map.symm.trans (by rw [RpcHandler.slot] at hslot; rw [hslot]; rfl)
      · intro hguard
        refine EachStream.insert hg ?_
        intro h heq
        cases heq
        exact hiff.mpr fun _ => hguard a h₀ hrun hl

theorem AllGreeted.step (hg : s.AllGreeted) (hr : s.ServerReachable) (hs : Step s action s')
    (ha : action ≠ .activate) : s'.AllGreeted := by
  cases hs with
  | activate _ _ _ _ => exact absurd rfl ha
  | emplace _ hk hnew => exact EachStream.emplace hg hk hnew .initial
  | register hm hl hact _ =>
      have hg' := hg.register hr hm hl hact
      exact hg'
  | accept _ _ hl hw =>
      refine EachStream.insert hg ?_
      intro h heq
      subst heq
      obtain ⟨h₀, rfl, rfl⟩ := RpcHandler.write_stream hw
      exact (hg _ h₀ hl).of_noArrival .accept
  | reply _ _ _ | renew _ _ _ => exact EachStream.insert hg nofun
  | erase _ => exact EachStream.erase hg
  | @stream tag h h' action hl hown hs =>
      refine EachStream.insert hg ?_
      intro h'' heq
      cases heq
      refine (hg tag h hl).of_noArrival
        (hs.noArrival (StreamRpcHandler.HandlerReachable.inv
          (ServerReachable.stream_reachable hr hl)) ?_)
      intro key t heq
      subst heq
      cases hown
  | next _ _ _ | shutdown _ | queueShutdown _ | exit _ _ _ => exact hg

/-- `connection_callback_` has been called for every connection that became
active, exactly in the runs in which each activation finds it set. -/
theorem allGreeted_iff (run : ServerRun tr s) :
    (∀ t ∈ visited tr s, AllGreeted t) ↔ ∀ p ∈ tr, GreetGuard p.1 p.2 := by
  refine run.always_iff (fun tag h hl => by cases hl) ?_
  intro s action s' hr hg hs
  by_cases ha : action = .activate
  · subst ha
    cases hs with
    | activate hrun hl hact _ => exact allGreeted_activate hr hg hrun hl hact
  · refine iff_of_true (hg.step hr hs ha) ?_
    rw [GreetGuard]
    · trivial
    · exact ha

/-- A client calls a stream whose callbacks have not been set yet. -/
theorem not_allGreeted :
    ¬ ∀ tr (s : GrpcAsyncServer Nat Nat Nat), ServerRun tr s → ∀ t ∈ visited tr s, AllGreeted t := by
  intro hall
  have r : ServerRun [] (initial : GrpcAsyncServer Nat Nat Nat) := .start
  have r := r.step (.emplace nofun (AList.notMem_empty 1) .stream)
  have r := r.step (.register List.mem_cons_self rfl
    (@RpcHandler.Activate.stream _ _ _ _ 11 101 rfl (AList.notMem_empty 101)) rfl)
  have r := r.step (@Step.accept _ _ _ _ ⟨1, ⟨11, 0, none⟩⟩ [] [] 7 _ _ rfl rfl rfl rfl)
  have r := r.step (@Step.next _ _ _ _ ⟨1, ⟨11, 0, some 7⟩⟩ [] [] true rfl rfl fun _ => rfl)
  have r := r.step (.activate rfl rfl
    (@RpcHandler.Activate.stream _ _ _ _ 12 102 rfl
      (show 102 ∉ makeTag 101 11 .done ∅ by decide)) rfl)
  obtain ⟨id, request, hm⟩ := (hall _ _ r _ List.mem_cons_self 1 _ rfl).reported 0
    List.mem_cons_self
  rcases List.mem_cons.mp hm with heq | hm
  · cases heq
  · cases hm

/-- The callbacks of a stream are set before a client calls it. -/
theorem allGreeted_iff_installed : ∃ s : GrpcAsyncServer Nat Nat Nat,
    s.AllGreeted ∧ ∃ h, s.rpcHandlers.lookup 1 = some (.stream h) ∧ .activate 0 ∈ h.log := by
  have r : ServerRun [] (initial : GrpcAsyncServer Nat Nat Nat) := .start
  have r := r.step (.emplace nofun (AList.notMem_empty 1) .stream)
  have r := r.step (.register List.mem_cons_self rfl
    (@RpcHandler.Activate.stream _ _ _ _ 11 101 rfl (AList.notMem_empty 101)) rfl)
  have r := r.step (@Step.stream _ _ _ _ 1 _ _ .onConnect rfl rfl .onConnect)
  have r := r.step (@Step.accept _ _ _ _ ⟨1, ⟨11, 0, none⟩⟩ [] [] 7 _ _ rfl rfl rfl rfl)
  have r := r.step (@Step.next _ _ _ _ ⟨1, ⟨11, 0, some 7⟩⟩ [] [] true rfl rfl fun _ => rfl)
  have r := r.step (.activate rfl rfl
    (@RpcHandler.Activate.stream _ _ _ _ 12 102 rfl
      (show 102 ∉ makeTag 101 11 .done ∅ by decide)) rfl)
  refine ⟨_, (allGreeted_iff r).mpr ?_ _ List.mem_cons_self, _, rfl, List.mem_cons_self⟩
  simp only [List.forall_mem_cons]
  refine ⟨?_, trivial, trivial, trivial, trivial, trivial, List.forall_mem_nil _⟩
  intro a h hrun hl
  cases hrun
  cases hl
  rfl

end GrpcAsyncServer

end Grpcw.Server
