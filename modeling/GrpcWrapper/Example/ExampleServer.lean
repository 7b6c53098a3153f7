import GrpcWrapper.Example.Clock
import GrpcWrapper.Server.ServerReturns
import GrpcWrapper.Server.SoleWriter
import GrpcWrapper.Server.StreamHandles

/-!
# The example server

`ExampleServer` owns a server with two calls, a stream of time updates and a
getter, and a thread that writes the time on the stream each second.  The pointer
to the stream is one into the server.  The destructor stops the thread and joins
it, then shuts the server down and destroys it.

What the server, gRPC and the stream's own thread do goes on meanwhile
(`Elsewhere`).  They never change what the owner's steps have set up, and an
accept fails only when the server was shut down.  So the stream is there whenever
the ticker writes on it (`reachable_tickerSafe`).
-/

namespace Grpcw.Example

open Server Transition

variable {Request Status : Type}

/-! ## Data -/

/-- The loop of `ticker_`. -/
inductive Ticker where
  /-- About to look at `keep_ticking_`. -/
  | checking
  | sleeping
  /-- In `time_stream_->write`. -/
  | writing (time : String)
  | exited

/-- Where the constructor and the destructor are. -/
inductive Owner where
  | emplacingStream
  | registeringStream (tag : Addr)
  | emplacingNow
  | registeringNow (tag : Addr)
  /-- About to start the ticker. -/
  | starting
  | serving
  /-- `keep_ticking_` is false. -/
  | joining
  /-- The ticker was joined. -/
  | shutting
  /-- `shutdown_and_wait` was called, and `server_` is next. -/
  | ending

/-- The handler that the owner is registering. -/
def Owner.registering : Owner → List Addr
  | .registeringStream tag | .registeringNow tag => [tag]
  | _ => []

/-- The stream was returned. -/
def Owner.pointing : Owner → Bool
  | .emplacingStream | .registeringStream _ => false
  | _ => true

/-- The ticker was started. -/
def Owner.ticking : Owner → Bool
  | .serving | .joining | .shutting | .ending => true
  | _ => false

/-- The destructor has begun. -/
def Owner.stopping : Owner → Bool
  | .joining | .shutting | .ending => true
  | _ => false

/-- The ticker was joined. -/
def Owner.joined : Owner → Bool
  | .shutting | .ending => true
  | _ => false

structure ExampleServer (Request Status : Type) where
  /-- `server_` -/
  hosted : HostedServer Request String Status
  timeStream : Option Addr
  keepTicking : Bool
  ticker : Option Ticker
  owner : Owner

/-- What the server, its clients and gRPC do by themselves.  Only the ticker writes. -/
def Elsewhere : HostedServer.Action Request String Status → Prop
  | .server (.emplace _) | .server (.register _) | .server .shutdown | .destroy => False
  | .server (.stream _ action) => ∃ op callOk, action = .deliver op callOk
  | _ => True

namespace ExampleServer

def initial : ExampleServer Request Status where
  hosted := .initial
  timeStream := none
  keepTicking := true
  ticker := none
  owner := .emplacingStream

/-! ## Steps -/

inductive Action (Request Status : Type) where
  | hosted (action : HostedServer.Action Request String Status)
  | emplaceStream (tag : Addr)
  | registerStream
  | emplaceNow (tag : Addr)
  | registerNow
  | startTicker
  | check
  /-- The sleep is over, `elapsed` nanoseconds after the start of the server. -/
  | tick (elapsed : Int)
  | write (order : List (Addr × Addr))
  | stop
  | join
  | shutdown
  | destroy

inductive Step : ExampleServer Request Status → Action Request Status →
    ExampleServer Request Status → Prop where
  | hosted {s : ExampleServer Request Status} {a : HostedServer.Action Request String Status}
      {l : HostedServer Request String Status} :
      Elsewhere a → s.hosted.Documented a → HostedServer.Step s.hosted a l →
      Step s (.hosted a) { s with hosted := l }
  /-- `register_async_stream`, in two steps. -/
  | emplaceStream {s : ExampleServer Request Status} {tag : Addr}
      {l : HostedServer Request String Status} :
      s.owner = .emplacingStream → HostedServer.Step s.hosted (.server (.emplace tag)) l →
      l.server.rpcHandlers.lookup tag = some (.stream .initial) →
      Step s (.emplaceStream tag) { s with hosted := l, owner := .registeringStream tag }
  | registerStream {s : ExampleServer Request Status} {tag : Addr}
      {l : HostedServer Request String Status} :
      s.owner = .registeringStream tag →
      HostedServer.Step s.hosted (.server (.register tag)) l →
      Step s .registerStream
        { s with hosted := l, timeStream := some tag, owner := .emplacingNow }
  /-- `register_async`, in two steps.  The getter reads the clock. -/
  | emplaceNow {s : ExampleServer Request Status} {tag : Addr}
      {l : HostedServer Request String Status} {callback : Option Request → String × Status} :
      s.owner = .emplacingNow → HostedServer.Step s.hosted (.server (.emplace tag)) l →
      l.server.rpcHandlers.lookup tag = some (.nonStream (.new callback)) →
      Step s (.emplaceNow tag) { s with hosted := l, owner := .registeringNow tag }
  | registerNow {s : ExampleServer Request Status} {tag : Addr}
      {l : HostedServer Request String Status} :
      s.owner = .registeringNow tag →
      HostedServer.Step s.hosted (.server (.register tag)) l →
      Step s .registerNow { s with hosted := l, owner := .starting }
  | startTicker {s : ExampleServer Request Status} :
      s.owner = .starting →
      Step s .startTicker
        { s with keepTicking := true, ticker := some .checking, owner := .serving }
  | check {s : ExampleServer Request Status} :
      s.ticker = some .checking →
      Step s .check
        { s with ticker := if s.keepTicking then some .sleeping else some .exited }
  | tick {s : ExampleServer Request Status} {elapsed : Int} :
      s.ticker = some .sleeping →
      Step s (.tick elapsed) { s with ticker := some (.writing (getTime .compound elapsed)) }
  /-- The section of `write` through the pointer. -/
  | write {s : ExampleServer Request Status} {tag : Addr} {time : String}
      {order : List (Addr × Addr)} {l : HostedServer Request String Status} :
      s.ticker = some (.writing time) → s.timeStream = some tag →
      HostedServer.Step s.hosted (.server (.stream tag (.write time (.all order)))) l →
      Step s (.write order) { s with hosted := l, ticker := some .checking }
  /-- The destructor. -/
  | stop {s : ExampleServer Request Status} :
      s.owner = .serving → Step s .stop { s with keepTicking := false, owner := .joining }
  | join {s : ExampleServer Request Status} :
      s.owner = .joining → s.ticker = some .exited → Step s .join { s with owner := .shutting }
  | shutdown {s : ExampleServer Request Status} {l : HostedServer Request String Status} :
      s.owner = .shutting → HostedServer.Step s.hosted (.server .shutdown) l →
      Step s .shutdown { s with hosted := l, owner := .ending }
  | destroy {s : ExampleServer Request Status} {l : HostedServer Request String Status} :
      s.owner = .ending → HostedServer.Step s.hosted .destroy l →
      Step s .destroy { s with hosted := l }

/-- The states of an example server, as gRPC documents its part. -/
abbrev ExampleReachable (s : ExampleServer Request Status) : Prop := Reachable Step initial s

/-! ## The owner's server -/

variable {s s' : ExampleServer Request Status} {a : Action Request Status}
  {l l' : HostedServer Request String Status} {tag : Addr}

/-- The server takes its own steps only. -/
theorem ExampleReachable.hosted (hr : s.ExampleReachable) :
    Reachable (Restrict HostedServer.Step HostedServer.Documented) .initial s.hosted := by
  refine hr.map ExampleServer.hosted ?_
  intro s a s' hs
  cases hs with
  | hosted _ hdoc hs => exact Or.inr ⟨_, hs, hdoc⟩
  | emplaceStream _ hs _ | registerStream _ hs | emplaceNow _ hs _ | registerNow _ hs
  | write _ _ hs | shutdown _ hs | destroy _ hs => exact Or.inr ⟨_, hs, trivial⟩
  | startTicker _ | check _ | tick _ | stop _ | join _ _ => exact Or.inl rfl

/-- What goes on elsewhere does not undo the owner's steps. -/
structure Kept (l l' : HostedServer Request String Status) : Prop where
  shutdown : l'.server.shutdown = l.server.shutdown
  registering : l'.server.registering = l.server.registering
  destroying : l'.destroying = l.destroying

theorem Kept.of_server {action : GrpcAsyncServer.Action Request String Status}
    {t : GrpcAsyncServer Request String Status} (hs : GrpcAsyncServer.Step l.server action t)
    (ha : Elsewhere (.server action)) :
    t.shutdown = l.server.shutdown ∧ t.registering = l.server.registering := by
  cases hs with
  | emplace _ _ _ | register _ _ _ _ | shutdown _ => exact ha.elim
  | accept _ _ _ _ | next _ _ _ | activate _ _ _ _ | reply _ _ _ | renew _ _ _ | erase _
  | stream _ _ _ | queueShutdown _ | exit _ _ _ => exact ⟨rfl, rfl⟩

theorem kept_of_step {b : HostedServer.Action Request String Status}
    (hs : HostedServer.Step l b l') (hb : Elsewhere b) : Kept l l' := by
  cases hs with
  | finishCall _ => exact ⟨rfl, rfl, rfl⟩
  | destroy _ _ => exact hb.elim
  | server hs _ =>
      obtain ⟨hshut, hreg⟩ := Kept.of_server hs hb
      exact ⟨hshut, hreg, rfl⟩

/-- A write through the pointer. -/
theorem kept_of_write {action : StreamRpcHandler.Action Request String Status}
    (hs : HostedServer.Step l (.server (.stream tag action)) l') : Kept l l' := by
  cases hs with
  | server hs _ =>
      cases hs with
      | stream _ _ _ => exact ⟨rfl, rfl, rfl⟩

theorem streamAt_of_step {b : HostedServer.Action Request String Status}
    (hs : HostedServer.Step l b l') (hb : b ≠ .server .erase)
    (h : StreamAt l.server.rpcHandlers tag) : StreamAt l'.server.rpcHandlers tag := by
  cases hs with
  | finishCall _ => exact h
  | destroy _ hs => exact hs.streamAt (by intro heq; cases heq) h
  | server hs _ => exact hs.streamAt (fun heq => hb (congrArg _ heq)) h

/-! ## The ticker -/

/-- The address of the stream, from the time its handler is in the map. -/
def Holds (s : ExampleServer Request Status) (tag : Addr) : Prop :=
  s.timeStream = some tag ∨ s.owner = .registeringStream tag

structure Inv (s : ExampleServer Request Status) : Prop where
  alive : ∀ tag, s.Holds tag → s.hosted.server.shutdown = false →
    StreamAt s.hosted.server.rpcHandlers tag
  /-- An accept fails after the shutdown. -/
  failing : ∀ a, s.hosted.server.runThread = .handling a false →
    s.hosted.server.shutdown = true
  closed : s.hosted.server.shutdown = true → s.owner = .ending
  destroying : s.hosted.destroying = true → s.owner = .ending
  registering : s.hosted.server.registering = s.owner.registering
  pointing : s.owner.pointing = true → s.timeStream.isSome
  unstarted : s.owner.ticking = false → s.ticker = none
  started : s.owner.ticking = true → s.ticker.isSome
  stopping : s.owner.stopping = true → s.keepTicking = false
  joined : s.owner.joined = true → s.ticker = some .exited

theorem Inv.initial : (initial : ExampleServer Request Status).Inv where
  alive := by
    rintro tag (heq | heq) <;> cases heq
  failing := by
    intro a ha
    cases ha
  closed h := absurd h Bool.false_ne_true
  destroying h := absurd h Bool.false_ne_true
  registering := rfl
  pointing h := absurd h Bool.false_ne_true
  unstarted _ := rfl
  started h := absurd h Bool.false_ne_true
  stopping h := absurd h Bool.false_ne_true
  joined h := absurd h Bool.false_ne_true

/-- A failed accept that is handled was returned by `Next` after the shutdown. -/
theorem failing_of_step {b : HostedServer.Action Request String Status}
    (hfail : ∀ a, l.server.runThread = .handling a false → l.server.shutdown = true)
    (hdoc : l.Documented b) (hs : HostedServer.Step l b l') :
    ∀ a, l'.server.runThread = .handling a false → l'.server.shutdown = true := by
  intro a ha
  cases hs with
  | finishCall _ => exact hfail a ha
  | destroy _ hs =>
      cases hs with
      | shutdown _ => rfl
  | server hs _ =>
      cases hs with
      | next _ _ _ =>
          cases ha
          exact hdoc.2 rfl
      | emplace _ _ _ | register _ _ _ _ | accept _ _ _ _ | stream _ _ _ | queueShutdown _ =>
          exact hfail a ha
      | shutdown _ => rfl
      | activate _ _ _ _ | reply _ _ _ | renew _ _ _ | erase _ | exit _ _ _ => cases ha

/-- What goes on elsewhere, and the writes, leave the owner where it is. -/
theorem Inv.kept {t : Option Ticker} (hi : s.Inv) (hk : Kept s.hosted l)
    (halive : ∀ tag, s.Holds tag → l.server.shutdown = false →
      StreamAt l.server.rpcHandlers tag)
    (hfail : ∀ a, l.server.runThread = .handling a false → l.server.shutdown = true)
    (hnone : s.ticker = none → t = none) (hsome : s.ticker.isSome → t.isSome)
    (hexit : s.ticker = some .exited → t = some .exited) :
    ({ s with hosted := l, ticker := t } : ExampleServer Request Status).Inv where
  alive := halive
  failing := hfail
  closed hshut := hi.closed (hk.shutdown ▸ hshut)
  destroying hd := hi.destroying (hk.destroying ▸ hd)
  registering := hk.registering.trans hi.registering
  pointing := hi.pointing
  unstarted ho := hnone (hi.unstarted ho)
  started ho := hsome (hi.started ho)
  stopping := hi.stopping
  joined ho := hexit (hi.joined ho)

/-- The ticker does something by itself. -/
theorem Inv.ticker {t t' : Ticker} (hi : s.Inv) (ht : s.ticker = some t) (hne : t ≠ .exited) :
    ({ s with ticker := some t' } : ExampleServer Request Status).Inv := by
  refine hi.kept ⟨rfl, rfl, rfl⟩ hi.alive hi.failing ?_ (fun _ => rfl) ?_
  · intro hnone
    cases ht.symm.trans hnone
  · intro hexit
    exact absurd (Option.some.inj (ht.symm.trans hexit)) hne

theorem Inv.hosted {b : HostedServer.Action Request String Status} (hi : s.Inv)
    (hb : Elsewhere b) (hdoc : s.hosted.Documented b) (hs : HostedServer.Step s.hosted b l) :
    ({ s with hosted := l } : ExampleServer Request Status).Inv := by
  have hk := kept_of_step hs hb
  refine hi.kept hk ?_ (failing_of_step hi.failing hdoc hs) id id id
  intro tag hholds hopen
  rw [hk.shutdown] at hopen
  by_cases heq : b = .server .erase
  · subst heq
    cases hs with
    | server hs _ =>
        cases hs with
        | erase hrun => exact absurd (hopen.symm.trans (hi.failing _ hrun)) Bool.false_ne_true
  · exact streamAt_of_step hs heq (hi.alive tag hholds hopen)

/-- The section of a registration that puts a handler into the map. -/
theorem emplace_eq (hs : HostedServer.Step l (.server (.emplace tag)) l') :
    l'.server.shutdown = l.server.shutdown ∧ l'.destroying = l.destroying ∧
      l'.server.registering = tag :: l.server.registering := by
  cases hs with
  | server hs _ =>
      cases hs with
      | emplace _ _ _ => exact ⟨rfl, rfl, rfl⟩

theorem register_eq (hs : HostedServer.Step l (.server (.register tag)) l') :
    l'.server.shutdown = l.server.shutdown ∧ l'.destroying = l.destroying ∧
      l'.server.registering = l.server.registering.erase tag := by
  cases hs with
  | server hs _ =>
      cases hs with
      | register _ _ _ _ => exact ⟨rfl, rfl, rfl⟩

/-- The owner goes on to register, or to start the ticker. -/
theorem Inv.construct {o : Owner} {stream : Option Addr} (hi : s.Inv)
    (hticking : s.owner.ticking = false) (ho : o.ticking = false)
    (hstop : o.stopping = false) (hjoined : o.joined = false)
    (hshut : l.server.shutdown = s.hosted.server.shutdown)
    (hd : l.destroying = s.hosted.destroying) (hreg : l.server.registering = o.registering)
    (hpointing : o.pointing = true → stream.isSome)
    (halive : ∀ tag, stream = some tag ∨ o = .registeringStream tag →
      l.server.shutdown = false → StreamAt l.server.rpcHandlers tag)
    (hfail : ∀ a, l.server.runThread = .handling a false → l.server.shutdown = true) :
    ({ s with hosted := l, timeStream := stream, owner := o } :
      ExampleServer Request Status).Inv where
  alive := halive
  failing := hfail
  closed h := by
    have hend := hi.closed (hshut ▸ h)
    rw [hend] at hticking
    cases hticking
  destroying h := by
    have hend := hi.destroying (hd ▸ h)
    rw [hend] at hticking
    cases hticking
  registering := hreg
  pointing := hpointing
  unstarted _ := hi.unstarted hticking
  started h := absurd (ho.symm.trans h) Bool.false_ne_true
  stopping h := absurd (hstop.symm.trans h) Bool.false_ne_true
  joined h := absurd (hjoined.symm.trans h) Bool.false_ne_true

theorem Inv.open_of_ne (hi : s.Inv) (ho : s.owner ≠ .ending) :
    s.hosted.server.shutdown = false ∧ s.hosted.destroying = false := by
  constructor
  · refine Bool.eq_false_of_not_eq_true fun h => ?_
    exact ho (hi.closed h)
  · refine Bool.eq_false_of_not_eq_true fun h => ?_
    exact ho (hi.destroying h)

/-- The owner goes on with the server as it is. -/
theorem Inv.proceed {t : Option Ticker} {o : Owner} {keep : Bool} (hi : s.Inv)
    (ho : s.owner ≠ .ending) (hpointing : s.owner.pointing = true)
    (hnone : s.owner.registering = []) (hnone' : o.registering = [])
    (hticking : o.ticking = true) (ht : t.isSome) (hstop : o.stopping = true → keep = false)
    (hjoined : o.joined = true → t = some .exited) :
    ({ s with keepTicking := keep, ticker := t, owner := o } :
      ExampleServer Request Status).Inv where
  alive := by
    rintro tag (hstream | heq) hopen
    · exact hi.alive tag (Or.inl hstream) hopen
    · have heq : o = .registeringStream tag := heq
      rw [heq] at hticking
      cases hticking
  failing := hi.failing
  closed h := absurd ((hi.open_of_ne ho).1.symm.trans h) Bool.false_ne_true
  destroying h := absurd ((hi.open_of_ne ho).2.symm.trans h) Bool.false_ne_true
  registering := (hi.registering.trans hnone).trans hnone'.symm
  pointing _ := hi.pointing hpointing
  unstarted h := absurd (h.symm.trans hticking) Bool.false_ne_true
  started _ := ht
  stopping := hstop
  joined := hjoined

theorem Inv.start (hi : s.Inv) (ho : s.owner = .starting) :
    ({ s with keepTicking := true, ticker := some .checking, owner := .serving } :
      ExampleServer Request Status).Inv := by
  refine hi.proceed ?_ ?_ ?_ rfl rfl rfl ?_ ?_
  · rw [ho]
    exact Owner.noConfusion
  · rw [ho]
    rfl
  · rw [ho]
    rfl
  · exact fun h => absurd h Bool.false_ne_true
  · exact fun h => absurd h Bool.false_ne_true

theorem Inv.stop (hi : s.Inv) (ho : s.owner = .serving) :
    ({ s with keepTicking := false, owner := .joining } :
      ExampleServer Request Status).Inv := by
  refine hi.proceed ?_ ?_ ?_ rfl rfl (hi.started ?_) (fun _ => rfl) ?_
  · rw [ho]
    exact Owner.noConfusion
  · rw [ho]
    rfl
  · rw [ho]
    rfl
  · rw [ho]
    rfl
  · exact fun h => absurd h Bool.false_ne_true

theorem Inv.join (hi : s.Inv) (ho : s.owner = .joining) (ht : s.ticker = some .exited) :
    ({ s with owner := .shutting } : ExampleServer Request Status).Inv := by
  refine hi.proceed ?_ ?_ ?_ rfl rfl (hi.started ?_) (fun _ => hi.stopping ?_) (fun _ => ht)
  · rw [ho]
    exact Owner.noConfusion
  · rw [ho]
    rfl
  · rw [ho]
    rfl
  · rw [ho]
    rfl
  · rw [ho]
    rfl

/-- The server is shut down. -/
theorem Inv.close (hi : s.Inv) (hjoined : s.owner.joined = true)
    (hpointing : s.owner.pointing = true) (hstop : s.owner.stopping = true)
    (hnone : s.owner.registering = []) (hshut : l.server.shutdown = true)
    (hreg : l.server.registering = s.hosted.server.registering) :
    ({ s with hosted := l, owner := .ending } : ExampleServer Request Status).Inv where
  alive tag _ hopen := absurd (hopen.symm.trans hshut) Bool.false_ne_true
  failing _ _ := hshut
  closed _ := rfl
  destroying _ := rfl
  registering := hreg.trans (hi.registering.trans hnone)
  pointing _ := hi.pointing hpointing
  unstarted h := absurd h.symm Bool.false_ne_true
  started _ := by
    show s.ticker.isSome
    rw [hi.joined hjoined]
    rfl
  stopping _ := hi.stopping hstop
  joined _ := hi.joined hjoined

theorem Inv.shutdown (hi : s.Inv) (ho : s.owner = .shutting)
    (hs : HostedServer.Step s.hosted (.server .shutdown) l) :
    ({ s with hosted := l, owner := .ending } : ExampleServer Request Status).Inv := by
  cases hs with
  | server hs _ =>
      cases hs with
      | shutdown _ =>
          exact hi.close (by rw [ho]; rfl) (by rw [ho]; rfl) (by rw [ho]; rfl)
            (by rw [ho]; rfl) rfl rfl

theorem Inv.destroy (hi : s.Inv) (ho : s.owner = .ending)
    (hs : HostedServer.Step s.hosted .destroy l) :
    ({ s with hosted := l } : ExampleServer Request Status).Inv := by
  cases hs with
  | destroy _ hs =>
      cases hs with
      | shutdown _ =>
          have h := hi.close (l := { s.hosted with
            server := { s.hosted.server with shutdown := true }, destroying := true })
            (by rw [ho]; rfl) (by rw [ho]; rfl) (by rw [ho]; rfl) (by rw [ho]; rfl) rfl rfl
          rw [← ho] at h
          exact h

theorem Inv.step (hi : s.Inv) (hs : Step s a s') : s'.Inv := by
  cases hs with
  | hosted hb hdoc hs => exact hi.hosted hb hdoc hs
  | @emplaceStream tag l ho hs hnew =>
      obtain ⟨hshut, hd, hreg⟩ := emplace_eq hs
      have hticking : s.owner.ticking = false := by rw [ho]; rfl
      refine hi.construct hticking rfl rfl rfl hshut hd ?_ ?_ ?_
        (failing_of_step (b := .server (.emplace tag)) hi.failing trivial hs)
      · rw [hreg, hi.registering, ho]
        rfl
      · exact fun h => absurd h Bool.false_ne_true
      · rintro tag' (hstream | heq) hopen
        · exact streamAt_of_step hs (by intro heq; cases heq)
            (hi.alive tag' (Or.inl hstream) (hshut ▸ hopen))
        · cases heq
          exact ⟨_, hnew⟩
  | @registerStream tag l ho hs =>
      obtain ⟨hshut, hd, hreg⟩ := register_eq hs
      have hticking : s.owner.ticking = false := by rw [ho]; rfl
      refine hi.construct hticking rfl rfl rfl hshut hd ?_ (fun _ => rfl) ?_
        (failing_of_step (b := .server (.register tag)) hi.failing trivial hs)
      · rw [hreg, hi.registering, ho]
        exact List.erase_cons_head tag []
      · rintro tag' (heq | heq) hopen
        · cases heq
          exact streamAt_of_step hs (by intro heq; cases heq)
            (hi.alive tag (Or.inr ho) (hshut ▸ hopen))
        · cases heq
  | @emplaceNow tag l _ ho hs _ =>
      obtain ⟨hshut, hd, hreg⟩ := emplace_eq hs
      have hticking : s.owner.ticking = false := by rw [ho]; rfl
      refine hi.construct hticking rfl rfl rfl hshut hd ?_ ?_ ?_
        (failing_of_step (b := .server (.emplace tag)) hi.failing trivial hs)
      · rw [hreg, hi.registering, ho]
        rfl
      · exact fun _ => hi.pointing (by rw [ho]; rfl)
      · rintro tag' (hstream | heq) hopen
        · exact streamAt_of_step hs (by intro heq; cases heq)
            (hi.alive tag' (Or.inl hstream) (hshut ▸ hopen))
        · cases heq
  | @registerNow tag l ho hs =>
      obtain ⟨hshut, hd, hreg⟩ := register_eq hs
      have hticking : s.owner.ticking = false := by rw [ho]; rfl
      refine hi.construct hticking rfl rfl rfl hshut hd ?_ ?_ ?_
        (failing_of_step (b := .server (.register tag)) hi.failing trivial hs)
      · rw [hreg, hi.registering, ho]
        exact List.erase_cons_head tag []
      · exact fun _ => hi.pointing (by rw [ho]; rfl)
      · rintro tag' (hstream | heq) hopen
        · exact streamAt_of_step hs (by intro heq; cases heq)
            (hi.alive tag' (Or.inl hstream) (hshut ▸ hopen))
        · cases heq
  | startTicker ho => exact hi.start ho
  | check ht =>
      split
      · exact hi.ticker ht (by intro heq; cases heq)
      · exact hi.ticker ht (by intro heq; cases heq)
  | tick ht => exact hi.ticker ht (by intro heq; cases heq)
  | @write tag time order l ht hstream hs =>
      have hk := kept_of_write hs
      have hfail := failing_of_step (b := .server (.stream tag (.write time (.all order))))
        hi.failing trivial hs
      refine hi.kept hk ?_ hfail ?_ (fun _ => rfl) ?_
      · intro tag' hholds hopen
        exact streamAt_of_step hs (by intro heq; cases heq)
          (hi.alive tag' hholds (hk.shutdown ▸ hopen))
      · intro hnone
        cases ht.symm.trans hnone
      · intro hexit
        cases ht.symm.trans hexit
  | stop ho => exact hi.stop ho
  | join ho ht => exact hi.join ho ht
  | shutdown ho hs => exact hi.shutdown ho hs
  | destroy ho hs => exact hi.destroy ho hs

theorem ExampleReachable.inv (hr : s.ExampleReachable) : s.Inv :=
  hr.invariant .initial fun _ hi hs => hi.step hs

/-! ## The writes -/

/-- What the ticker can rely on. -/
structure TickerSafe (s : ExampleServer Request Status) : Prop where
  /-- The handler that it writes on is in the map, and is one that its own steps reach. -/
  stream : ∀ time, s.ticker = some (.writing time) → ∃ tag h, s.timeStream = some tag ∧
    s.hosted.server.rpcHandlers.lookup tag = some (.stream h) ∧ h.HandlerReachable
  /-- The server is shut down when the ticker was joined. -/
  closed : s.hosted.server.shutdown = true → s.ticker = some .exited ∧ s.keepTicking = false
  /-- A write is possible, or it waits for an operation that gRPC can give back. -/
  write : ∀ time, s.ticker = some (.writing time) →
    (∃ order s', Step s (.write order) s') ∨
      ∃ tag op callOk s', s.timeStream = some tag ∧
        Step s (.hosted (.server (.stream tag (.deliver op callOk)))) s'

/-- A stream handler takes a step of its own in the owner's server. -/
theorem hosted_stream {h h' : StreamRpcHandler Request String Status}
    {action : StreamRpcHandler.Action Request String Status}
    (hl : l.server.rpcHandlers.lookup tag = some (.stream h)) (hown : action.own = true)
    (hs : StreamRpcHandler.Step h action h') :
    HostedServer.Step l (.server (.stream tag action))
      { l with server := l.server.update tag (.stream h'), streams := [] ++ l.streams } :=
  .server (.stream hl hown hs) trivial

theorem Inv.writing (hi : s.Inv) {time : String} (ht : s.ticker = some (.writing time)) :
    s.owner ≠ .ending ∧ ∃ tag h, s.timeStream = some tag ∧
      s.hosted.server.rpcHandlers.lookup tag = some (.stream h) := by
  have hne : s.owner ≠ .ending := by
    intro ho
    cases ht.symm.trans (hi.joined (by rw [ho]; rfl))
  have hpointing : s.owner.pointing = true := by
    cases ho : s.owner with
    | emplacingStream | registeringStream _ =>
        cases ht.symm.trans (hi.unstarted (by rw [ho]; rfl))
    | emplacingNow | registeringNow _ | starting | serving | joining | shutting | ending => rfl
  obtain ⟨tag, hstream⟩ := Option.isSome_iff_exists.mp (hi.pointing hpointing)
  obtain ⟨h, hl⟩ := hi.alive tag (Or.inl hstream) (hi.open_of_ne hne).1
  exact ⟨hne, tag, h, hstream, hl⟩

/-- A write that cannot go on waits for gRPC. -/
theorem write_or_deliver {h : StreamRpcHandler Request String Status} {time : String}
    (hr : h.HandlerReachable) (ht : s.ticker = some (.writing time))
    (hstream : s.timeStream = some tag)
    (hl : s.hosted.server.rpcHandlers.lookup tag = some (.stream h)) :
    (∃ order s', Step s (.write order) s') ∨
      ∃ op callOk s', Step s (.hosted (.server (.stream tag (.deliver op callOk)))) s' := by
  by_cases hp : h.connections.processing = ∅
  · obtain ⟨recipients, hclient, hadm⟩ := h.exists_admits none
    cases recipients with
    | one client tag => cases hclient
    | all order =>
        exact Or.inl ⟨order, _, .write ht hstream (hosted_stream hl rfl (.write hp hadm))⟩
  · obtain ⟨h', op, callOk, hs⟩ := StreamRpcHandler.exists_deliver_writing hr hp
    exact Or.inr ⟨op, callOk, _, .hosted ⟨op, callOk, rfl⟩ trivial (hosted_stream hl rfl hs)⟩

/-- In every reachable state the ticker's stream is there when it writes, and the server is shut
down only after the ticker. -/
theorem reachable_tickerSafe (hr : s.ExampleReachable) : s.TickerSafe := by
  have hi := ExampleReachable.inv hr
  have hserver := HostedServer.HostedReachable.server (ExampleReachable.hosted hr).of_restrict
  refine ⟨?_, ?_, ?_⟩
  · intro time ht
    obtain ⟨-, tag, h, hstream, hl⟩ := hi.writing ht
    exact ⟨tag, h, hstream, hl, GrpcAsyncServer.ServerReachable.stream_reachable hserver hl⟩
  · intro hshut
    have ho := hi.closed hshut
    exact ⟨hi.joined (by rw [ho]; rfl), hi.stopping (by rw [ho]; rfl)⟩
  · intro time ht
    obtain ⟨-, tag, h, hstream, hl⟩ := hi.writing ht
    have hreach := GrpcAsyncServer.ServerReachable.stream_reachable hserver hl
    refine (write_or_deliver hreach ht hstream hl).imp_right ?_
    rintro ⟨op, callOk, s', hs⟩
    exact ⟨tag, op, callOk, s', hstream, hs⟩

/-- The ticker is about to write for the first time. -/
theorem reachable_tickerSafe_ticking : ∃ s : ExampleServer Nat Nat,
    s.ticker = some (.writing (getTime .compound 1000000000)) ∧ s.TickerSafe := by
  have r : (initial : ExampleServer Nat Nat).ExampleReachable := .refl
  have r := r.tail (@Step.emplaceStream _ _ _ 1 _ rfl (.server (.emplace (by intro a ha; cases ha)
    (AList.notMem_empty 1) .stream) rfl) rfl)
  have r := r.tail (.registerStream rfl (.server (.register List.mem_cons_self rfl
    (@RpcHandler.Activate.stream _ _ _ _ 11 101 rfl (AList.notMem_empty 101)) rfl) rfl))
  have r := r.tail (@Step.emplaceNow _ _ _ 2 _ (fun _ => (getTime .compound 0, 0)) rfl
    (.server (.emplace (by intro a ha; cases ha) (by decide) .nonStream) rfl) rfl)
  have r := r.tail (.registerNow rfl (.server (.register List.mem_cons_self rfl
    (@RpcHandler.Activate.nonStream _ _ _ _ 12 rfl) rfl) rfl))
  have r := r.tail (.startTicker rfl)
  have r := r.tail (.check rfl)
  have r := r.tail (@Step.tick _ _ _ 1000000000 rfl)
  exact ⟨_, rfl, reachable_tickerSafe r⟩

end ExampleServer

end Grpcw.Example
