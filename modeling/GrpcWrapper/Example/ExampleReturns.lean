import GrpcWrapper.Example.ExampleServer

/-!
# The destructor of the example server returns

The destructor joins the ticker, which may be asleep, or in a `write` that waits
for operations at gRPC.  The write that it makes after its sleep is the last.
From then on the destructor waits for the server only.

Meanwhile clients come, so `write` may have more connections to write on than
there were.  Each is one that the run thread has activated, and that takes the
run thread closer to its end.  So what the destructor waits for is bounded by the
state it begins in and by the calls that arrive (`destructor_joins`).  The ends of
the clients' calls are part of it: a client that never ends its call of the time
stream keeps the server.
-/

namespace Grpcw

open Server Transition

variable {Request Response Status : Type}

/-! ## What a writer may wait for -/

namespace Server

/-- The operations at gRPC, and with `writes` those that one more broadcast adds. -/
def StreamRpcHandler.load (writes : Bool) (h : StreamRpcHandler Request Response Status) : Nat :=
  h.queue.length + if writes then h.connections.active.keys.length else 0

namespace StreamRpcHandler

variable {h h' : StreamRpcHandler Request Response Status} {writes : Bool}

theorem load_le {n m : Nat} (hqueue : h'.queue.length ≤ h.queue.length + n)
    (hactive : h'.connections.active.keys.length ≤ h.connections.active.keys.length + m) :
    h'.load writes ≤ h.load writes + (n + m) := by
  rw [load, load]
  cases writes with
  | true =>
      rw [if_pos rfl, if_pos rfl]
      omega
  | false =>
      rw [if_neg Bool.false_ne_true, if_neg Bool.false_ne_true]
      omega

/-- A new client, and the notification of the next one. -/
theorem load_activateNext (key tag : Addr) :
    (h.activateNext key tag).load writes ≤ h.load writes + 2 := by
  refine load_le (n := 1) (m := 1) ?_ ?_
  · show (h.moveNext.queue ++ [_]).length ≤ _
    rw [List.length_append, moveNext_queue]
    exact Nat.le_refl _
  · show h.moveNext.connections.active.keys.length ≤ _
    rw [moveNext]
    split
    · exact Nat.le_succ _
    · rename_i key connection _
      show (h.connections.active.emplace key connection).keys.length ≤ _
      by_cases hk : key ∈ h.connections.active
      · rw [Map.emplace, if_pos hk]
        exact Nat.le_succ _
      · rw [Map.keys_emplace hk]
        exact Nat.le_refl _

theorem load_deliver {op : Operation Response Status} {callOk : Bool} (hi : h.Inv)
    (hs : Step h (.deliver op callOk) h') : h'.load writes < h.load writes := by
  have hlt := hs.deliver_lower hi
  have hdelete : (h.connections.active.erase op.data).keys.length ≤
      h.connections.active.keys.length := by
    rw [AList.keys_erase]
    exact List.length_erase_le
  have hactive : h'.connections.active.keys.length ≤ h.connections.active.keys.length := by
    rcases (hs.deliver_cases hi).2 with ⟨-, rfl⟩ | ⟨-, rfl⟩
    · split
      · exact Nat.le_refl _
      · exact hdelete
    · split
      · exact Nat.le_refl _
      · exact hdelete
  rw [load, load]
  split
  · omega
  · omega

/-- A broadcast adds an operation for each client. -/
theorem load_write {update : Response} {order : List (Addr × Addr)} (hadm : h.Admits (.all order)) :
    (h.write update (.all order)).handler.load false ≤ h.load true := by
  have htargets : (targets h.connections (.all order)).length ≤
      h.connections.active.keys.length := by
    rw [← hadm.1.length_eq, List.length_map]
    exact List.length_filterMap_le _ _
  rw [load, load, if_neg Bool.false_ne_true, if_pos rfl, write, send_queue, List.length_append,
    List.length_map]
  omega

end StreamRpcHandler

/-- What a writer on the handler may wait for. -/
def RpcHandler.load (writes : Bool) : RpcHandler Request Response Status → Nat
  | .stream h => h.load writes
  | .nonStream _ => 0

namespace RpcHandler

variable {handler handler' : RpcHandler Request Response Status} {writes : Bool}

theorem Activate.load_le (hact : handler.Activate handler') :
    handler'.load writes ≤ handler.load writes + 2 := by
  cases hact with
  | stream _ _ => exact StreamRpcHandler.load_activateNext _ _
  | nonStream _ => exact Nat.zero_le _

theorem load_of_write {key : Addr} {request : Request}
    (hw : handler.write key request = some handler') :
    handler'.load writes = handler.load writes := by
  cases handler with
  | stream h =>
      obtain ⟨-, heq⟩ := Option.ite_none_right_eq_some.mp hw
      rw [← Option.some.inj heq]
      rfl
  | nonStream h =>
      obtain ⟨-, heq⟩ := Option.ite_none_right_eq_some.mp hw
      rw [← Option.some.inj heq]
      rfl

end RpcHandler

/-- What a writer on the handler at an address may wait for. -/
def loadAt (writes : Bool) (handlers : Map Addr (RpcHandler Request Response Status))
    (tag : Addr) : Nat :=
  (handlers.lookup tag).elim 0 (RpcHandler.load writes)

section LoadAt

variable {handlers : Map Addr (RpcHandler Request Response Status)} {tag key : Addr}
  {handler handler' : RpcHandler Request Response Status} {writes : Bool}

theorem loadAt_insert {n : Nat} (hl : handlers.lookup key = some handler)
    (hle : handler'.load writes ≤ handler.load writes + n) :
    loadAt writes (handlers.insert key handler') tag ≤ loadAt writes handlers tag + n := by
  rw [loadAt, loadAt]
  by_cases heq : tag = key
  · subst heq
    rw [AList.lookup_insert, hl]
    exact hle
  · rw [AList.lookup_insert_ne heq]
    exact Nat.le_add_right _ _

theorem loadAt_erase : loadAt writes (handlers.erase key) tag ≤ loadAt writes handlers tag := by
  rw [loadAt, loadAt, Map.lookup_erase_eq]
  split
  · exact Nat.zero_le _
  · exact Nat.le_refl _

/-- A step of the run thread brings one client at most, and one notification. -/
theorem GrpcAsyncServer.Step.load_le {s s' : GrpcAsyncServer Request Response Status}
    {action : GrpcAsyncServer.Action Request Response Status}
    (hs : GrpcAsyncServer.Step s action s') (ha : action.OnRunThread) :
    loadAt writes s'.rpcHandlers tag ≤ loadAt writes s.rpcHandlers tag + 2 := by
  cases hs with
  | activate _ hl hact _ => exact loadAt_insert hl hact.load_le
  | reply _ hl _ | renew _ hl _ => exact loadAt_insert hl (Nat.zero_le _)
  | erase _ => exact loadAt_erase.trans (Nat.le_add_right _ _)
  | next _ _ _ | exit _ _ _ => exact Nat.le_add_right _ _
  | emplace _ _ _ | register _ _ _ _ | accept _ _ _ _ | stream _ _ _ | shutdown _
  | queueShutdown _ => exact ha.elim

end LoadAt

/-- A call that is accepted is one to handle. -/
theorem GrpcAsyncServer.toGo_accept {s s' : GrpcAsyncServer Request Response Status} {key : Addr}
    {request : Request} (hs : GrpcAsyncServer.Step s (.accept key request) s') :
    s'.toGo = s.toGo + 3 ∧ s'.queueShutdown = s.queueShutdown := by
  cases hs with
  | @accept a _ _ _ _ _ hqueue hnone _ _ =>
      refine ⟨?_, rfl⟩
      have hfill : (a.fill request).slot.request.isSome = true := rfl
      simp only [toGo, update, hqueue, hnone, hfill, List.length_append, List.length_cons,
        List.countP_append, List.countP_cons, Option.isSome_none, Bool.false_eq_true, if_false,
        if_true]
      omega

namespace HostedServer

variable {l l' : HostedServer Request Response Status} {b : Action Request Response Status}

/-- It is one to wait for, too. -/
theorem toGo_accept {key : Addr} {request : Request}
    (hs : Step l (.server (.accept key request)) l') : l'.toGo ≤ l.toGo + 4 := by
  cases hs with
  | server hs _ =>
      obtain ⟨hgo, hq⟩ := GrpcAsyncServer.toGo_accept hs
      simp only [toGo, hgo, hq, GrpcAsyncServer.Action.accepted]
      omega

/-- A shutdown is nothing to the run thread. -/
theorem toGo_shutdown {s : GrpcAsyncServer Request Response Status}
    (hs : GrpcAsyncServer.Step l.server .shutdown s) {streams : List Addr} {destroying : Bool} :
    toGo { l with server := s, streams := streams, destroying := destroying } = l.toGo ∧
      s.rpcHandlers = l.server.rpcHandlers := by
  cases hs with
  | shutdown _ => exact ⟨rfl, rfl⟩

end HostedServer

end Server

namespace Example

variable {s s' : ExampleServer Request Status} {a : ExampleServer.Action Request Status}
  {l l' : HostedServer Request String Status} {b : HostedServer.Action Request String Status}
  {tag : Addr}

/-! ## What the destructor waits for -/

/-- How many steps the ticker is from its end, once it is told to stop. -/
def Ticker.toGo : Ticker → Nat
  | .checking => 1
  | .sleeping => 3
  | .writing _ => 2
  | .exited => 0

/-- A write is still to come. -/
def Ticker.writes : Ticker → Bool
  | .sleeping | .writing _ => true
  | .checking | .exited => false

/-- How many steps the destructor is from the destruction of the server. -/
def Owner.toGo : Owner → Nat
  | .joining => 2
  | .shutting => 1
  | _ => 0

namespace ExampleServer

/-- The operations that the ticker may wait for. -/
def load (s : ExampleServer Request Status) : Nat :=
  s.timeStream.elim 0 (loadAt (s.ticker.elim false Ticker.writes) s.hosted.server.rpcHandlers)

/-- A bound on the steps that the destructor waits for. -/
def toGo (s : ExampleServer Request Status) : Nat :=
  s.owner.toGo + (if s.hosted.destroying then 0 else 1) + s.ticker.elim 0 Ticker.toGo + s.load +
    3 * s.hosted.toGo

/-- The steps that bring the destructor on, the ends of the clients' calls among them.  Calls
that arrive do not, and what other streams are given back is nothing to the ticker. -/
def Helps (s : ExampleServer Request Status) : Action Request Status → Prop
  | .hosted (.server (.accept _ _)) => False
  | .hosted (.server (.stream tag _)) => s.timeStream = some tag
  | _ => True

/-- What a call that arrives sets the destructor back. -/
def setback : Action Request Status → Nat
  | .hosted (.server (.accept _ _)) => 12
  | _ => 0

/-- The ticker was joined, and the run thread of the server can be, or gRPC has aborted. -/
def Destroyed (s : ExampleServer Request Status) : Prop :=
  s.ticker = some .exited ∧ (s.hosted.Ended ∨ s.hosted.Broken)

/-- The destructor has begun. -/
structure Stopping (s : ExampleServer Request Status) : Prop where
  reachable : s.ExampleReachable
  stopping : s.owner.stopping = true

theorem Stopping.inv (h : s.Stopping) : s.Inv := ExampleReachable.inv h.reachable

theorem Stopping.step (h : s.Stopping) (hs : Step s a s') : s'.Stopping := by
  refine ⟨h.reachable.tail hs, ?_⟩
  cases hs with
  | hosted _ _ _ | check _ | tick _ | write _ _ _ | destroy _ _ => exact h.stopping
  | stop _ | join _ _ | shutdown _ _ => rfl
  | emplaceStream ho _ _ | registerStream ho _ | emplaceNow ho _ _ | registerNow ho _
  | startTicker ho =>
      have hstop := h.stopping
      rw [ho] at hstop
      cases hstop

/-! ## Each step -/

/-- What goes on in the server by itself. -/
theorem elsewhere_cases (hb : Elsewhere b) :
    b.Closes ∨ (∃ key request, b = .server (.accept key request)) ∨
      ∃ key op callOk, b = .server (.stream key (.deliver op callOk)) := by
  cases b with
  | finishCall => exact Or.inl trivial
  | destroy => exact hb.elim
  | server action =>
      cases action with
      | next _ _ | activate | reply | renew | erase | exit | queueShutdown => exact Or.inl trivial
      | accept key request => exact Or.inr (Or.inl ⟨key, request, rfl⟩)
      | stream key action =>
          obtain ⟨op, callOk, rfl⟩ := hb
          exact Or.inr (Or.inr ⟨key, op, callOk, rfl⟩)
      | emplace _ | register _ | shutdown => exact hb.elim

theorem elsewhere_of_closes (hb : b.Closes) : Elsewhere b := by
  cases b with
  | finishCall => trivial
  | destroy => exact hb.elim
  | server action =>
      cases action with
      | next _ _ | activate | reply | renew | erase | exit | queueShutdown => trivial
      | emplace _ | register _ | accept _ _ | stream _ _ | shutdown => exact hb.elim

theorem load_hosted_le {n : Nat}
    (hle : ∀ writes tag, loadAt writes l.server.rpcHandlers tag ≤
      loadAt writes s.hosted.server.rpcHandlers tag + n) :
    load { s with hosted := l } ≤ s.load + n := by
  simp only [load]
  cases s.timeStream with
  | none => exact Nat.zero_le _
  | some tag => exact hle _ tag

/-- A step of the run thread, or the end of a call. -/
theorem toGo_closes (hs : HostedServer.Step s.hosted b l) (hdoc : s.hosted.Documented b)
    (hb : b.Closes) : toGo { s with hosted := l } < s.toGo := by
  have hlt := hs.toGo_lower hdoc hb
  have hd := (kept_of_step hs (elsewhere_of_closes hb)).destroying
  have hload : load { s with hosted := l } ≤ s.load + 2 := by
    refine load_hosted_le fun writes tag => ?_
    cases hs with
    | finishCall _ => exact Nat.le_add_right _ _
    | destroy _ _ => exact hb.elim
    | @server action t hs _ =>
        cases action with
        | next _ _ | activate | reply | renew | erase | exit => exact hs.load_le trivial
        | queueShutdown =>
            cases hs with
            | queueShutdown _ => exact Nat.le_add_right _ _
        | emplace _ | register _ | accept _ _ | stream _ _ | shutdown => exact hb.elim
  simp only [toGo, hd]
  omega

theorem toGo_accept {key : Addr} {request : Request}
    (hs : HostedServer.Step s.hosted (.server (.accept key request)) l) :
    toGo { s with hosted := l } ≤ s.toGo + 12 := by
  have hle := HostedServer.toGo_accept hs
  have hd := (kept_of_step hs trivial).destroying
  have hload : load { s with hosted := l } ≤ s.load + 0 := by
    refine load_hosted_le fun writes tag => ?_
    cases hs with
    | server hs _ =>
        cases hs with
        | accept _ _ hl hw => exact loadAt_insert hl (RpcHandler.load_of_write hw).le
  simp only [toGo, hd]
  omega

/-- A stream handler takes a step, which is nothing to the run thread. -/
theorem toGo_stream {key : Addr} {action : StreamRpcHandler.Action Request String Status}
    (hs : HostedServer.Step l (.server (.stream key action)) l') :
    l'.toGo = l.toGo ∧ l'.destroying = l.destroying ∧ ∃ h h',
      l.server.rpcHandlers.lookup key = some (.stream h) ∧ StreamRpcHandler.Step h action h' ∧
        l'.server.rpcHandlers = l.server.rpcHandlers.insert key (.stream h') := by
  cases hs with
  | server hs _ =>
      cases hs with
      | stream hl _ hs => exact ⟨rfl, rfl, _, _, hl, hs, rfl⟩

/-- gRPC gives an operation back. -/
theorem toGo_deliver {key : Addr} {op : Operation String Status} {callOk : Bool}
    (hr : s.ExampleReachable)
    (hs : HostedServer.Step s.hosted (.server (.stream key (.deliver op callOk))) l) :
    toGo { s with hosted := l } ≤ s.toGo ∧
      (s.timeStream = some key → toGo { s with hosted := l } < s.toGo) := by
  obtain ⟨hgo, hd, h, h', hl, hs, heq⟩ := toGo_stream hs
  have hserver := HostedServer.HostedReachable.server (ExampleReachable.hosted hr).of_restrict
  have hi := StreamRpcHandler.HandlerReachable.inv
    (GrpcAsyncServer.ServerReachable.stream_reachable hserver hl)
  have hlt : ∀ writes, h'.load writes < h.load writes :=
    fun _ => StreamRpcHandler.load_deliver hi hs
  constructor
  · have hload : load { s with hosted := l } ≤ s.load + 0 := by
      refine load_hosted_le fun writes tag => ?_
      rw [heq]
      exact loadAt_insert hl (hlt writes).le
    simp only [toGo, hgo, hd]
    omega
  · intro hstream
    have hload : load { s with hosted := l } < s.load := by
      simp only [load, hstream, Option.elim_some, loadAt, heq, AList.lookup_insert, hl]
      exact hlt _
    simp only [toGo, hgo, hd]
    omega

/-- The last write. -/
theorem toGo_write {time : String} {order : List (Addr × Addr)}
    (ht : s.ticker = some (.writing time)) (hstream : s.timeStream = some tag)
    (hs : HostedServer.Step s.hosted (.server (.stream tag (.write time (.all order)))) l) :
    toGo { s with hosted := l, ticker := some .checking } < s.toGo := by
  obtain ⟨hgo, hd, h, h', hl, hs, heq⟩ := toGo_stream hs
  have hload : load { s with hosted := l, ticker := some .checking } ≤ s.load := by
    simp only [load, hstream, ht, Option.elim_some, loadAt, heq, AList.lookup_insert, hl]
    cases hs with
    | write _ hadm => exact StreamRpcHandler.load_write hadm
  simp only [toGo, hgo, hd, ht, Option.elim_some, Ticker.toGo]
  omega

theorem Stopping.lower (h : s.Stopping) (ha : s.Helps a) (hs : Step s a s') :
    s'.toGo < s.toGo := by
  cases hs with
  | @hosted b l hb hdoc hs =>
      rcases elsewhere_cases hb with hb | ⟨key, request, rfl⟩ | ⟨key, op, callOk, rfl⟩
      · exact toGo_closes hs hdoc hb
      · exact ha.elim
      · exact (toGo_deliver h.reachable hs).2 ha
  | check ht =>
      have hkeep := h.inv.stopping h.stopping
      simp only [toGo, load, ht, hkeep, Bool.false_eq_true, if_false, Option.elim_some,
        Ticker.toGo, Ticker.writes]
      omega
  | tick ht =>
      simp only [toGo, load, ht, Option.elim_some, Ticker.toGo, Ticker.writes]
      omega
  | write ht hstream hs => exact toGo_write ht hstream hs
  | stop ho =>
      have hstop := h.stopping
      rw [ho] at hstop
      cases hstop
  | join ho ht =>
      simp only [toGo, load, ho, Owner.toGo]
      omega
  | shutdown ho hs =>
      cases hs with
      | server hs _ =>
          obtain ⟨hgo, heq⟩ := HostedServer.toGo_shutdown hs
          simp only [toGo, load, ho, Owner.toGo, heq]
          refine Nat.lt_of_le_of_lt (Nat.add_le_add_left (Nat.mul_le_mul_left 3 hgo.le) _) ?_
          omega
  | destroy ho hs =>
      cases hs with
      | destroy hd hs =>
          obtain ⟨hgo, heq⟩ := HostedServer.toGo_shutdown hs
          simp only [toGo, load, ho, Owner.toGo, heq, hd]
          refine Nat.lt_of_le_of_lt (Nat.add_le_add_left (Nat.mul_le_mul_left 3 hgo.le) _) ?_
          simp only [Bool.false_eq_true, if_false, if_true]
          omega
  | emplaceStream ho _ _ | registerStream ho _ | emplaceNow ho _ _ | registerNow ho _
  | startTicker ho =>
      have hstop := h.stopping
      rw [ho] at hstop
      cases hstop

theorem Stopping.keep (h : s.Stopping) (ha : ¬ s.Helps a) (hs : Step s a s') :
    s'.toGo ≤ s.toGo + setback a := by
  cases hs with
  | @hosted b l hb hdoc hs =>
      rcases elsewhere_cases hb with hb | ⟨key, request, rfl⟩ | ⟨key, op, callOk, rfl⟩
      · exact (toGo_closes hs hdoc hb).le.trans (Nat.le_add_right _ _)
      · exact toGo_accept hs
      · exact (toGo_deliver h.reachable hs).1
  | check _ | tick _ | write _ _ _ | stop _ | join _ _ | shutdown _ _ | destroy _ _
  | emplaceStream _ _ _ | registerStream _ _ | emplaceNow _ _ _ | registerNow _ _
  | startTicker _ => exact absurd trivial ha

/-! ## The destructor -/

/-- The ticker goes on, or waits for gRPC, until it can be joined. -/
theorem Stopping.live_joining (h : s.Stopping) (ho : s.owner = .joining) :
    ∃ a s', s.Helps a ∧ Step s a s' := by
  have hi := h.inv
  obtain ⟨t, ht⟩ := Option.isSome_iff_exists.mp (hi.started (by rw [ho]; rfl))
  cases t with
  | checking => exact ⟨.check, _, trivial, .check ht⟩
  | sleeping => exact ⟨.tick 0, _, trivial, .tick ht⟩
  | writing time =>
      obtain ⟨-, tag, h', hstream, hl⟩ := hi.writing ht
      have hserver :=
        HostedServer.HostedReachable.server (ExampleReachable.hosted h.reachable).of_restrict
      have hreach := GrpcAsyncServer.ServerReachable.stream_reachable hserver hl
      rcases write_or_deliver hreach ht hstream hl with ⟨order, s', hs⟩ | ⟨op, callOk, s', hs⟩
      · exact ⟨.write order, s', trivial, hs⟩
      · exact ⟨.hosted (.server (.stream tag (.deliver op callOk))), s', hstream, hs⟩
  | exited => exact ⟨.join, _, trivial, .join ho ht⟩

theorem helps_of_closes (hb : b.Closes) : s.Helps (.hosted b) := by
  cases b with
  | finishCall => trivial
  | destroy => exact hb.elim
  | server action =>
      cases action with
      | next _ _ | activate | reply | renew | erase | exit | queueShutdown => trivial
      | emplace _ | register _ | accept _ _ | stream _ _ | shutdown => exact hb.elim

/-- The server can be shut down, and destroyed. -/
theorem Stopping.live_shutting (h : s.Stopping) (ho : s.owner ≠ .joining)
    (hd : s.hosted.destroying = false) : ∃ a s', s.Helps a ∧ Step s a s' := by
  have hi := h.inv
  have hreg : s.hosted.server.registering = s.owner.registering := hi.registering
  cases howner : s.owner with
  | joining => exact absurd howner ho
  | shutting =>
      rw [howner] at hreg
      exact ⟨.shutdown, _, trivial, .shutdown howner (.server (.shutdown hreg) hd)⟩
  | ending =>
      rw [howner] at hreg
      exact ⟨.destroy, _, trivial, .destroy howner (.destroy hd (.shutdown hreg))⟩
  | emplacingStream | registeringStream _ | emplacingNow | registeringNow _ | starting
  | serving =>
      have hstop := h.stopping
      rw [howner] at hstop
      cases hstop

theorem Stopping.live (h : s.Stopping) (hgoal : ¬ s.Destroyed) :
    ∃ a s', s.Helps a ∧ Step s a s' := by
  by_cases ho : s.owner = .joining
  · exact h.live_joining ho
  cases hd : s.hosted.destroying with
  | false => exact h.live_shutting ho hd
  | true =>
      have hexit := h.inv.joined (by rw [h.inv.destroying hd]; rfl)
      have hdestroying : s.hosted.Destroying := ⟨ExampleReachable.hosted h.reachable, hd⟩
      obtain ⟨b, l, hb, hs, hdoc⟩ := hdestroying.live fun hend => hgoal ⟨hexit, hend⟩
      exact ⟨.hosted b, _, helps_of_closes hb, .hosted (elsewhere_of_closes hb) hdoc hs⟩

/-- Once the destructor has begun it joins the ticker and destroys the server, if the clients
end their calls, whatever else they do meanwhile. -/
theorem destructor_joins (hr : s.ExampleReachable) (hstop : s.owner.stopping = true) :
    Advances Step Helps (fun _ a => setback a) Destroyed s.toGo s := by
  refine advances_of_measure (I := Stopping) toGo ?_ ?_ Stopping.live ⟨hr, hstop⟩
  · intro s a s' h ha hs
    exact Or.inr ⟨h.step hs, h.lower ha hs⟩
  · intro s a s' h ha hs
    exact Or.inr ⟨h.step hs, h.keep ha hs⟩

/-- A server with a client is destroyed while its ticker sleeps. -/
theorem destructor_joins_sleeping : ∃ s : ExampleServer Nat Nat,
    s.owner = .joining ∧ s.ticker = some .sleeping ∧ s.hosted.calls = 1 ∧
      Advances Step Helps (fun _ a => setback a) Destroyed 30 s := by
  have r : (initial : ExampleServer Nat Nat).ExampleReachable := .refl
  have r := r.tail (@Step.emplaceStream _ _ _ 1 _ rfl (.server (.emplace (by intro a ha; cases ha)
    (AList.notMem_empty 1) .stream) rfl) rfl)
  have r := r.tail (.registerStream rfl (.server (.register List.mem_cons_self rfl
    (@RpcHandler.Activate.stream _ _ _ _ 11 101 rfl (AList.notMem_empty 101)) rfl) rfl))
  have r := r.tail (@Step.emplaceNow _ _ _ 2 _ (fun _ => (getTime .compound 0, 0)) rfl
    (.server (.emplace (by intro a ha; cases ha) (by decide) .nonStream) rfl) rfl)
  have r := r.tail (.registerNow rfl (.server (.register List.mem_cons_self rfl
    (@RpcHandler.Activate.nonStream _ _ _ _ 12 rfl) rfl) rfl))
  have r := r.tail (.startTicker rfl)
  have r := r.tail (.check rfl)
  have r := r.tail (.hosted (a := .server (.accept 1 7)) trivial rfl (.server
    (@GrpcAsyncServer.Step.accept _ _ _ _ ⟨1, ⟨11, 0, none⟩⟩ [] [⟨2, ⟨12, 0, none⟩⟩] 7 _ _
      rfl rfl rfl rfl) trivial))
  have r := r.tail (.hosted (a := .server (.next ⟨1, ⟨11, 0, some 7⟩⟩ true)) trivial
    ⟨rfl, by intro h; cases h⟩ (.server
    (@GrpcAsyncServer.Step.next _ _ _ _ ⟨1, ⟨11, 0, some 7⟩⟩ [] [⟨2, ⟨12, 0, none⟩⟩] true
      rfl rfl (fun _ => rfl)) trivial))
  have r := r.tail (.hosted (a := .server .activate) trivial trivial (.server (.activate rfl rfl
    (@RpcHandler.Activate.stream _ _ _ _ 13 102 rfl (by rw [StreamRpcHandler.FreshTag]; decide))
      rfl) trivial))
  have r := r.tail (.stop rfl)
  exact ⟨_, rfl, rfl, rfl, destructor_joins r rfl⟩

end ExampleServer

end Example

end Grpcw
