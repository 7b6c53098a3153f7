import GrpcWrapper.Client.ClientThreads

/-!
# The life of a stream

`start_stream` and `stop_stream` one statement at a time, and the threads that
read.  A start makes a new context, opens a reader with it, and makes a thread
that reads from `reader_`, whatever that is at the time.  A stop cancels the
context, joins the thread and clears the context.  `streaming` looks at the
context only.  The calls are serialised, and both callbacks are set.

gRPC is the environment: it returns messages and ends the stream when it likes.
After `TryCancel` it returns no more than a number of messages that it chooses
then.

`Stage` says for each statement what the three fields are and how far the last
thread has come.  All earlier threads have exited.
-/

namespace Grpcw.Client

open Transition

variable {Message Status : Type}

/-! ## The stream and its threads -/

/-- `grpc::ClientContext` -/
structure ClientContext where
  /-- Which start made it; not part of the program. -/
  run : Nat
  /-- After `TryCancel`, how many more messages are returned. -/
  left : Option Nat
deriving DecidableEq

/-- `Read` returns a message. -/
def ClientContext.take (c : ClientContext) : ClientContext := { c with left := c.left.map (· - 1) }

/-- `std::thread` -/
structure ThreadObject where
  /-- The start whose thread it stands for. -/
  run : Nat
  joinable : Bool
deriving DecidableEq

/-- Where the call of `start_stream` or `stop_stream` stands. -/
inductive LifecyclePhase where
  | idle
  /-- About to call `init_func_`. -/
  | opening (stub : Stub)
  /-- About to make the thread. -/
  | spawning
  /-- About to assign `stream_thread_`. -/
  | assigning
  /-- About to call `TryCancel`. -/
  | cancelling
  | joining
  /-- About to clear `context_`. -/
  | clearing
deriving DecidableEq

inductive Callback (Message Status : Type) where
  | update (run : Nat) (update : Message)
  | finish (run : Nat) (status : Status)
deriving DecidableEq

def Callback.run : Callback Message Status → Nat
  | .update run _ => run
  | .finish run _ => run

inductive LifecycleEvent (Message Status : Type) where
  /-- A start that has an effect. -/
  | started (run : Nat)
  /-- The thread of `run` has got a message from a reader. -/
  | read (run reader : Nat) (update : Message)
  | callback (callback : Callback Message Status)
  /-- The stop of a run returns. -/
  | stopped (run : Nat)
deriving DecidableEq

structure StreamLifecycle (Message Status : Type) where
  context : Option ClientContext
  /-- The start that opened the reader, and the stub it was opened with. -/
  reader : Option (Nat × Stub)
  streamThread : Option ThreadObject
  phase : LifecyclePhase
  /-- How many starts had an effect. -/
  starts : Nat
  /-- The thread of each of them. -/
  threads : Nat → StreamPhase Message Status
  log : List (LifecycleEvent Message Status)

namespace StreamLifecycle

def new : StreamLifecycle Message Status where
  context := none
  reader := none
  streamThread := none
  phase := .idle
  starts := 0
  threads := fun _ => .none
  log := []

/-- `streaming` -/
def streaming (s : StreamLifecycle Message Status) : Bool := s.context.isSome

/-- `start_stream`, up to the new context. -/
def start (stub : Stub) (s : StreamLifecycle Message Status) : StreamLifecycle Message Status :=
  if s.streaming then s
  else
    { s with
      context := some ⟨s.starts, none⟩
      phase := .opening stub
      starts := s.starts + 1
      log := .started s.starts :: s.log }

/-- `stop_stream`, up to `TryCancel`. -/
def stop (s : StreamLifecycle Message Status) : StreamLifecycle Message Status :=
  if s.streaming then { s with phase := .cancelling } else s

/-- The thread of a run goes on. -/
def move (run : Nat) (phase : StreamPhase Message Status)
    (s : StreamLifecycle Message Status) : StreamLifecycle Message Status :=
  { s with threads := Function.update s.threads run phase }

inductive Action (Message Status : Type) where
  | start (stub : Stub)
  | openReader
  | spawn
  | assign
  | stop
  | cancel (left : Nat)
  | joined
  | clear
  /-- `Read` returns a message. -/
  | read (run : Nat) (update : Message)
  /-- `Read` returns false. -/
  | readEnd (run : Nat)
  /-- `on_update_` is called. -/
  | dispatch (run : Nat)
  /-- `on_update_` returns. -/
  | updated (run : Nat)
  /-- `Finish` returns, and `on_finish_` is called. -/
  | finish (run : Nat) (status : Status)
  /-- `on_finish_` returns. -/
  | exit (run : Nat)

inductive Step : StreamLifecycle Message Status → Action Message Status →
    StreamLifecycle Message Status → Prop where
  | start {s : StreamLifecycle Message Status} {stub : Stub} :
      s.phase = .idle → Step s (.start stub) (s.start stub)
  | openReader {s : StreamLifecycle Message Status} {stub : Stub} {c : ClientContext} :
      s.phase = .opening stub → s.context = some c →
      Step s .openReader { s with reader := some (c.run, stub), phase := .spawning }
  | spawn {s : StreamLifecycle Message Status} {c : ClientContext} :
      s.phase = .spawning → s.context = some c →
      Step s .spawn (({ s with phase := .assigning } :
        StreamLifecycle Message Status).move c.run .reading)
  | assign {s : StreamLifecycle Message Status} {c : ClientContext} :
      s.phase = .assigning → s.context = some c →
      Step s .assign { s with streamThread := some ⟨c.run, true⟩, phase := .idle }
  | stop {s : StreamLifecycle Message Status} : s.phase = .idle → Step s .stop s.stop
  | cancel {s : StreamLifecycle Message Status} {c : ClientContext} {left : Nat} :
      s.phase = .cancelling → s.context = some c →
      Step s (.cancel left)
        { s with context := some { c with left := some left }, phase := .joining }
  | joined {s : StreamLifecycle Message Status} {run : Nat} :
      s.phase = .joining → s.streamThread = some ⟨run, true⟩ → s.threads run = .exited →
      Step s .joined { s with streamThread := some ⟨run, false⟩, phase := .clearing }
  | clear {s : StreamLifecycle Message Status} {c : ClientContext} :
      s.phase = .clearing → s.context = some c →
      Step s .clear { s with context := none, phase := .idle, log := .stopped c.run :: s.log }
  | read {s : StreamLifecycle Message Status} {run reader : Nat} {stub : Stub}
      {update : Message} :
      s.threads run = .reading → s.reader = some (reader, stub) →
      (∀ c, s.context = some c → c.left ≠ some 0) →
      Step s (.read run update)
        (({ s with
            context := s.context.map ClientContext.take
            log := .read run reader update :: s.log } :
          StreamLifecycle Message Status).move run (.dispatching update))
  | readEnd {s : StreamLifecycle Message Status} {run : Nat} :
      s.threads run = .reading → Step s (.readEnd run) (s.move run .finishing)
  | dispatch {s : StreamLifecycle Message Status} {run : Nat} {update : Message} :
      s.threads run = .dispatching update →
      Step s (.dispatch run) (({ s with log := .callback (.update run update) :: s.log } :
        StreamLifecycle Message Status).move run (.updating update))
  | updated {s : StreamLifecycle Message Status} {run : Nat} {update : Message} :
      s.threads run = .updating update → Step s (.updated run) (s.move run .reading)
  | finish {s : StreamLifecycle Message Status} {run : Nat} {status : Status} :
      s.threads run = .finishing →
      Step s (.finish run status) (({ s with log := .callback (.finish run status) :: s.log } :
        StreamLifecycle Message Status).move run (.finished status))
  | exit {s : StreamLifecycle Message Status} {run : Nat} {status : Status} :
      s.threads run = .finished status → Step s (.exit run) (s.move run .exited)

/-- What calls of a stream, its threads and gRPC can come to. -/
abbrev LifecycleReachable (s : StreamLifecycle Message Status) : Prop := Reachable Step new s

/-! ## Where the threads are -/

/-- The thread of a run is alive. -/
def Alive (s : StreamLifecycle Message Status) (run : Nat) : Prop :=
  s.threads run ≠ .none ∧ s.threads run ≠ .exited

/-- The object may be replaced. -/
def Joined (thread : Option ThreadObject) : Prop := ∀ t, thread = some t → t.joinable = false

/-- For each statement: the context, the reader, the thread object, the number of
starts and the phase of the last thread. -/
inductive Stage : LifecyclePhase → Option ClientContext → Option (Nat × Stub) →
    Option ThreadObject → Nat → StreamPhase Message Status → Prop where
  | off {reader : Option (Nat × Stub)} {thread : Option ThreadObject} {starts : Nat}
      {last : StreamPhase Message Status} :
      Joined thread → (last = .exited ∨ starts = 0) → Stage .idle none reader thread starts last
  | opening {stub : Stub} {n : Nat} {left : Option Nat} {reader : Option (Nat × Stub)}
      {thread : Option ThreadObject} :
      Joined thread → Stage (.opening stub) (some ⟨n, left⟩) reader thread (n + 1) .none
  | spawning {stub : Stub} {n : Nat} {left : Option Nat} {thread : Option ThreadObject} :
      Joined thread → Stage .spawning (some ⟨n, left⟩) (some (n, stub)) thread (n + 1) .none
  | assigning {stub : Stub} {n : Nat} {left : Option Nat} {thread : Option ThreadObject}
      {last : StreamPhase Message Status} :
      Joined thread → last ≠ .none →
      Stage .assigning (some ⟨n, left⟩) (some (n, stub)) thread (n + 1) last
  | on {stub : Stub} {n : Nat} {left : Option Nat} {last : StreamPhase Message Status} :
      last ≠ .none →
      Stage .idle (some ⟨n, left⟩) (some (n, stub)) (some ⟨n, true⟩) (n + 1) last
  | cancelling {stub : Stub} {n : Nat} {left : Option Nat} {last : StreamPhase Message Status} :
      last ≠ .none →
      Stage .cancelling (some ⟨n, left⟩) (some (n, stub)) (some ⟨n, true⟩) (n + 1) last
  | joining {stub : Stub} {n left : Nat} {last : StreamPhase Message Status} :
      last ≠ .none →
      Stage .joining (some ⟨n, some left⟩) (some (n, stub)) (some ⟨n, true⟩) (n + 1) last
  | clearing {stub : Stub} {n : Nat} {left : Option Nat} :
      Stage .clearing (some ⟨n, left⟩) (some (n, stub)) (some ⟨n, false⟩) (n + 1) .exited

structure Control (s : StreamLifecycle Message Status) : Prop where
  past : ∀ {n}, n + 1 < s.starts → s.threads n = .exited
  future : ∀ {n}, s.starts ≤ n → s.threads n = .none
  stage : Stage s.phase s.context s.reader s.streamThread s.starts (s.threads (s.starts - 1))

variable {s s' : StreamLifecycle Message Status} {a : Action Message Status} {n : Nat}
  {phase : StreamPhase Message Status}

theorem Control.new : (new : StreamLifecycle Message Status).Control where
  past hlt := absurd hlt (Nat.not_lt_zero _)
  future _ := rfl
  stage := .off (fun _ heq => by cases heq) (Or.inr rfl)

/-- Only the last thread may be alive. -/
theorem Control.starts_eq (hc : s.Control) (ha : s.Alive n) : s.starts = n + 1 := by
  have hlt : n < s.starts := Nat.lt_of_not_le fun hle => ha.1 (hc.future hle)
  have hle : ¬ n + 1 < s.starts := fun hlt => ha.2 (hc.past hlt)
  omega

/-! ## One statement -/

namespace Stage

variable {p : LifecyclePhase} {context : Option ClientContext} {c : ClientContext}
  {reader : Option (Nat × Stub)} {thread : Option ThreadObject} {starts run : Nat}
  {last last' : StreamPhase Message Status} {stub : Stub}

/-- Where the last thread may be alive, it may be anywhere. -/
theorem goOn (h : Stage p context reader thread starts last) (hlast : last ≠ .none)
    (hexited : last ≠ .exited) (hstarts : starts ≠ 0) (hnone : last' ≠ .none) :
    Stage p context reader thread starts last' := by
  cases h with
  | off _ hend => exact absurd hend (not_or.mpr ⟨hexited, hstarts⟩)
  | opening _ | spawning _ => exact absurd rfl hlast
  | assigning hjoined _ => exact .assigning hjoined hnone
  | on _ => exact .on hnone
  | cancelling _ => exact .cancelling hnone
  | joining _ => exact .joining hnone
  | clearing => exact absurd rfl hexited

theorem take (h : Stage p context reader thread starts last) :
    Stage p (context.map ClientContext.take) reader thread starts last := by
  cases h with
  | off hjoined hend => exact .off hjoined hend
  | opening hjoined => exact .opening hjoined
  | spawning hjoined => exact .spawning hjoined
  | assigning hjoined hnone => exact .assigning hjoined hnone
  | on hnone => exact .on hnone
  | cancelling hnone => exact .cancelling hnone
  | joining hnone => exact .joining hnone
  | clearing => exact .clearing

theorem start (h : Stage .idle none reader thread starts last) :
    Joined thread ∧ (last = .exited ∨ starts = 0) := by
  cases h with
  | off hjoined hend => exact ⟨hjoined, hend⟩

theorem openReader (h : Stage (.opening stub) (some c) reader thread starts last) :
    Stage .spawning (some c) (some (c.run, stub)) thread starts last := by
  cases h with
  | opening hjoined => exact .spawning hjoined

theorem spawn (h : Stage .spawning (some c) reader thread starts last) :
    starts = c.run + 1 ∧ last = .none ∧
      Stage .assigning (some c) reader thread starts (.reading : StreamPhase Message Status) := by
  cases h with
  | spawning hjoined => exact ⟨rfl, rfl, .assigning hjoined (by simp)⟩

theorem assign (h : Stage .assigning (some c) reader thread starts last) :
    Stage .idle (some c) reader (some ⟨c.run, true⟩) starts last := by
  cases h with
  | assigning _ hnone => exact .on hnone

theorem stop (h : Stage .idle (some c) reader thread starts last) :
    Stage .cancelling (some c) reader thread starts last := by
  cases h with
  | on hnone => exact .cancelling hnone

theorem cancel {left : Nat} (h : Stage .cancelling (some c) reader thread starts last) :
    Stage .joining (some { c with left := some left }) reader thread starts last := by
  cases h with
  | cancelling hnone => exact .joining hnone

theorem joined (h : Stage .joining context reader (some ⟨run, true⟩) starts last) :
    starts = run + 1 ∧
      (last = .exited → Stage .clearing context reader (some ⟨run, false⟩) starts last) := by
  cases h with
  | joining _ =>
      refine ⟨rfl, ?_⟩
      rintro rfl
      exact .clearing

/-- In the join, there is a thread to join. -/
theorem joining_inv (h : Stage .joining context reader thread starts last) :
    ∃ n left, context = some ⟨n, some left⟩ ∧ thread = some ⟨n, true⟩ ∧ starts = n + 1 ∧
      last ≠ .none := by
  cases h with
  | joining hnone => exact ⟨_, _, rfl, rfl, rfl, hnone⟩

theorem clearing_inv (h : Stage .clearing context reader thread starts last) :
    (∃ c, context = some c) ∧ last = .exited := by
  cases h with
  | clearing => exact ⟨⟨_, rfl⟩, rfl⟩

theorem clear (h : Stage .clearing (some c) reader thread starts last) :
    starts = c.run + 1 ∧ last = .exited ∧ Stage .idle none reader thread starts last := by
  cases h with
  | clearing =>
      refine ⟨rfl, rfl, .off ?_ (Or.inl rfl)⟩
      rintro t heq
      cases heq
      rfl

/-- A thread that is alive has the reader of its start. -/
theorem reader_eq {r : Nat × Stub} (h : Stage p context (some r) thread starts last)
    (hlast : last ≠ .none) (hexited : last ≠ .exited) (hstarts : starts ≠ 0) :
    starts = r.1 + 1 := by
  cases h with
  | off _ hend => exact absurd hend (not_or.mpr ⟨hexited, hstarts⟩)
  | opening _ => exact absurd rfl hlast
  | spawning _ | assigning _ _ | on _ | cancelling _ | joining _ | clearing => rfl

/-- A thread object that is replaced is not joinable. -/
theorem joined_of_assigning (h : Stage .assigning context reader thread starts last) :
    Joined thread := by
  cases h with
  | assigning hjoined _ => exact hjoined

/-- Without a context nothing is left to join. -/
theorem joined_of_not_streaming (h : Stage p none reader thread starts last) : Joined thread := by
  cases h with
  | off hjoined _ => exact hjoined

end Stage

/-! ## One step -/

/-- The last thread goes on. -/
theorem Control.last {run : Nat} (hc : s.Control) (hstarts : s.starts = run + 1)
    (hthreads : s'.threads = Function.update s.threads run phase) (hkeep : s'.starts = s.starts)
    (hstage : Stage s'.phase s'.context s'.reader s'.streamThread s.starts phase) :
    s'.Control := by
  have hphase : ∀ n, s'.threads n = if n = run then phase else s.threads n := by
    intro n
    rw [hthreads, Function.update_apply]
  refine ⟨?_, ?_, ?_⟩
  · intro n hlt
    rw [hphase, if_neg (by omega)]
    exact hc.past (hkeep ▸ hlt)
  · intro n hle
    rw [hphase, if_neg (by omega)]
    exact hc.future (hkeep ▸ hle)
  · rw [hphase, if_pos (by omega), hkeep]
    exact hstage

theorem Control.move {run : Nat} (hc : s.Control) (ha : s.Alive run) (hnone : phase ≠ .none) :
    (s.move run phase).Control := by
  have hstarts := hc.starts_eq ha
  have hlast : s.starts - 1 = run := by omega
  have hstage := hc.stage
  rw [hlast] at hstage
  exact hc.last hstarts rfl rfl (hstage.goOn ha.1 ha.2 (by omega) hnone)

/-- A statement of a call that leaves the threads alone. -/
theorem Control.keep (hc : s.Control) (hthreads : s'.threads = s.threads)
    (hstarts : s'.starts = s.starts)
    (hstage : Stage s'.phase s'.context s'.reader s'.streamThread s.starts
      (s.threads (s.starts - 1))) : s'.Control where
  past hlt := by
    rw [hthreads]
    exact hc.past (hstarts ▸ hlt)
  future hle := by
    rw [hthreads]
    exact hc.future (hstarts ▸ hle)
  stage := by
    rw [hthreads, hstarts]
    exact hstage

theorem Control.start {stub : Stub} (hc : s.Control) (hphase : s.phase = .idle) :
    (s.start stub).Control := by
  have hstage := hc.stage
  cases hcontext : s.context with
  | some c =>
      have heq : s.start stub = s := if_pos (by rw [streaming, hcontext]; rfl)
      exact heq.symm ▸ hc
  | none =>
      have heq : s.start stub = { s with
          context := some ⟨s.starts, none⟩
          phase := .opening stub
          starts := s.starts + 1
          log := .started s.starts :: s.log } :=
        if_neg (by rw [streaming, hcontext]; exact Bool.false_ne_true)
      rw [hphase, hcontext] at hstage
      obtain ⟨hjoined, hend⟩ := hstage.start
      rw [heq]
      refine ⟨?_, ?_, ?_⟩
      · intro n (hlt : n + 1 < s.starts + 1)
        by_cases hlast : n + 1 < s.starts
        · exact hc.past hlast
        · obtain rfl : n = s.starts - 1 := by omega
          exact hend.resolve_right (by omega)
      · intro n (hle : s.starts + 1 ≤ n)
        exact hc.future (Nat.le_of_succ_le hle)
      · show Stage _ _ _ _ (s.starts + 1) (s.threads s.starts)
        rw [hc.future (Nat.le_refl _)]
        exact .opening hjoined

theorem Control.stop (hc : s.Control) (hphase : s.phase = .idle) : s.stop.Control := by
  have hstage := hc.stage
  cases hcontext : s.context with
  | none =>
      have heq : s.stop = s := if_neg (by rw [streaming, hcontext]; exact Bool.false_ne_true)
      exact heq.symm ▸ hc
  | some c =>
      have heq : s.stop = { s with phase := .cancelling } :=
        if_pos (by rw [streaming, hcontext]; rfl)
      rw [hphase, hcontext] at hstage
      rw [heq]
      refine hc.keep rfl rfl ?_
      show Stage .cancelling s.context _ _ _ _
      rw [hcontext]
      exact hstage.stop

theorem Control.spawn {c : ClientContext} (hc : s.Control) (hphase : s.phase = .spawning)
    (hcontext : s.context = some c) :
    (({ s with phase := .assigning } : StreamLifecycle Message Status).move c.run
      .reading).Control := by
  have hstage := hc.stage
  rw [hphase, hcontext] at hstage
  obtain ⟨hstarts, -, hafter⟩ := hstage.spawn
  exact hc.last hstarts rfl rfl (hcontext.symm ▸ hafter)

theorem alive_of_threads (hthread : s.threads n = phase) (hnone : phase ≠ .none)
    (hexited : phase ≠ .exited) : s.Alive n := by
  rw [Alive, hthread]
  exact ⟨hnone, hexited⟩

theorem Step.control (hc : s.Control) (hs : Step s a s') : s'.Control := by
  have hstage := hc.stage
  cases hs with
  | start hphase => exact hc.start hphase
  | openReader hphase hcontext =>
      rw [hphase, hcontext] at hstage
      exact hc.keep rfl rfl (hcontext ▸ hstage.openReader)
  | spawn hphase hcontext => exact hc.spawn hphase hcontext
  | assign hphase hcontext =>
      rw [hphase, hcontext] at hstage
      exact hc.keep rfl rfl (hcontext ▸ hstage.assign)
  | stop hphase => exact hc.stop hphase
  | cancel hphase hcontext =>
      rw [hphase, hcontext] at hstage
      exact hc.keep rfl rfl hstage.cancel
  | joined hphase hthread hexited =>
      rw [hphase, hthread] at hstage
      obtain ⟨hstarts, hafter⟩ := hstage.joined
      refine hc.keep rfl rfl (hafter ?_)
      rw [hstarts]
      exact hexited
  | clear hphase hcontext =>
      rw [hphase, hcontext] at hstage
      exact hc.keep rfl rfl hstage.clear.2.2
  | @read run reader _ update hread _ _ =>
      have htaken : ({ s with
          context := s.context.map ClientContext.take
          log := .read run reader update :: s.log } : StreamLifecycle Message Status).Control :=
        hc.keep rfl rfl hstage.take
      exact htaken.move (alive_of_threads hread (by simp) (by simp)) (by simp)
  | @dispatch run update hread =>
      have hlogged : ({ s with log := .callback (.update run update) :: s.log } :
          StreamLifecycle Message Status).Control := hc.keep rfl rfl hstage
      exact hlogged.move (alive_of_threads hread (by simp) (by simp)) (by simp)
  | @finish run status hread =>
      have hlogged : ({ s with log := .callback (.finish run status) :: s.log } :
          StreamLifecycle Message Status).Control := hc.keep rfl rfl hstage
      exact hlogged.move (alive_of_threads hread (by simp) (by simp)) (by simp)
  | readEnd hread | updated hread | exit hread =>
      exact hc.move (alive_of_threads hread (by simp) (by simp)) (by simp)

/-- A thread that is alive is the last one. -/
theorem Control.stage_alive (hc : s.Control) (ha : s.Alive n) :
    Stage s.phase s.context s.reader s.streamThread (n + 1) (s.threads n) := by
  have hstage := hc.stage
  rw [hc.starts_eq ha] at hstage
  exact hstage

/-- It reads from the reader of its start. -/
theorem Control.reader_eq {reader : Nat} {stub : Stub} (hc : s.Control) (ha : s.Alive n)
    (hreader : s.reader = some (reader, stub)) : reader = n := by
  have hstage := hc.stage_alive ha
  rw [hreader] at hstage
  have heq := hstage.reader_eq ha.1 ha.2 (Nat.succ_ne_zero n)
  exact (Nat.succ.inj heq).symm

theorem LifecycleReachable.control (hr : s.LifecycleReachable) : s.Control :=
  hr.invariant .new fun _ hc hs => Step.control hc hs

/-! ## The stream as a whole -/

/-- The stream that the client has.  A start counts from its first statement, and
a stop from its last. -/
def stream (s : StreamLifecycle Message Status) : GrpcClientStream where
  context := s.streaming
  reader :=
    match s.phase with
    | .opening stub => some stub
    | _ => s.reader.map Prod.snd
  streamThread :=
    match s.phase with
    | .opening _ | .spawning | .assigning => true
    | _ => s.streamThread.isSome
  onUpdate := true
  onFinish := true

/-- What a step does to that stream. -/
def Action.effect : Action Message Status → GrpcClientStream → GrpcClientStream
  | .start stub, stream => stream.startStream stub
  | .clear, stream => stream.stopStream
  | _, stream => stream

/-- Each statement is a call of the stream, or none. -/
theorem Step.stream (hs : Step s a s') : s'.stream = a.effect s.stream := by
  cases hs with
  | start hphase =>
      cases hcontext : s.context <;>
        simp [StreamLifecycle.start, StreamLifecycle.stream, Action.effect, streaming,
          GrpcClientStream.startStream, GrpcClientStream.streaming, hphase, hcontext]
  | stop hphase =>
      cases hcontext : s.context <;>
        simp [StreamLifecycle.stop, StreamLifecycle.stream, Action.effect, streaming, hphase,
          hcontext]
  | openReader hphase _ | spawn hphase _ | assign hphase _ =>
      simp [StreamLifecycle.stream, Action.effect, streaming, move, hphase]
  | cancel hphase hcontext =>
      simp [StreamLifecycle.stream, Action.effect, streaming, hphase, hcontext]
  | joined hphase hthread _ =>
      simp [StreamLifecycle.stream, Action.effect, streaming, hphase, hthread]
  | clear hphase hcontext =>
      simp [StreamLifecycle.stream, Action.effect, streaming, GrpcClientStream.stopStream,
        GrpcClientStream.streaming, hphase, hcontext]
  | read _ _ _ => simp [StreamLifecycle.stream, Action.effect, streaming, move]
  | readEnd _ | dispatch _ | updated _ | finish _ | exit _ => rfl

/-! ## Running the model

A step is determined by its action, so it can be computed. -/

/-- The stream after an action, or `none` when the action cannot be taken. -/
def perform (a : Action Message Status) (s : StreamLifecycle Message Status) :
    Option (StreamLifecycle Message Status) :=
  match a with
  | .start stub => if s.phase = .idle then some (s.start stub) else none
  | .openReader =>
      match s.phase, s.context with
      | .opening stub, some c => some { s with reader := some (c.run, stub), phase := .spawning }
      | _, _ => none
  | .spawn =>
      match s.phase, s.context with
      | .spawning, some c =>
          some (({ s with phase := .assigning } : StreamLifecycle Message Status).move c.run
            .reading)
      | _, _ => none
  | .assign =>
      match s.phase, s.context with
      | .assigning, some c => some { s with streamThread := some ⟨c.run, true⟩, phase := .idle }
      | _, _ => none
  | .stop => if s.phase = .idle then some s.stop else none
  | .cancel left =>
      match s.phase, s.context with
      | .cancelling, some c =>
          some { s with context := some { c with left := some left }, phase := .joining }
      | _, _ => none
  | .joined =>
      match s.phase, s.streamThread with
      | .joining, some ⟨run, true⟩ =>
          match s.threads run with
          | .exited => some { s with streamThread := some ⟨run, false⟩, phase := .clearing }
          | _ => none
      | _, _ => none
  | .clear =>
      match s.phase, s.context with
      | .clearing, some c =>
          some { s with context := none, phase := .idle, log := .stopped c.run :: s.log }
      | _, _ => none
  | .read run update =>
      match s.threads run, s.reader with
      | .reading, some (reader, _) =>
          if ∀ c ∈ s.context, c.left ≠ some 0 then
            some (({ s with
                context := s.context.map ClientContext.take
                log := .read run reader update :: s.log } :
              StreamLifecycle Message Status).move run (.dispatching update))
          else none
      | _, _ => none
  | .readEnd run =>
      match s.threads run with
      | .reading => some (s.move run .finishing)
      | _ => none
  | .dispatch run =>
      match s.threads run with
      | .dispatching update =>
          some (({ s with log := .callback (.update run update) :: s.log } :
            StreamLifecycle Message Status).move run (.updating update))
      | _ => none
  | .updated run =>
      match s.threads run with
      | .updating _ => some (s.move run .reading)
      | _ => none
  | .finish run status =>
      match s.threads run with
      | .finishing =>
          some (({ s with log := .callback (.finish run status) :: s.log } :
            StreamLifecycle Message Status).move run (.finished status))
      | _ => none
  | .exit run =>
      match s.threads run with
      | .finished _ => some (s.move run .exited)
      | _ => none

theorem step_of_perform (hp : perform a s = some s') : Step s a s' := by
  cases a with
  | start stub =>
      obtain ⟨hphase, heq⟩ := Option.ite_none_right_eq_some.mp hp
      cases heq
      exact .start hphase
  | stop =>
      obtain ⟨hphase, heq⟩ := Option.ite_none_right_eq_some.mp hp
      cases heq
      exact .stop hphase
  | openReader =>
      simp only [perform] at hp
      split at hp
      · cases hp
        exact .openReader ‹_› ‹_›
      · cases hp
  | spawn =>
      simp only [perform] at hp
      split at hp
      · cases hp
        exact .spawn ‹_› ‹_›
      · cases hp
  | assign =>
      simp only [perform] at hp
      split at hp
      · cases hp
        exact .assign ‹_› ‹_›
      · cases hp
  | cancel left =>
      simp only [perform] at hp
      split at hp
      · cases hp
        exact .cancel ‹_› ‹_›
      · cases hp
  | joined =>
      simp only [perform] at hp
      split at hp
      · split at hp
        · cases hp
          exact .joined ‹_› ‹_› ‹_›
        · cases hp
      · cases hp
  | clear =>
      simp only [perform] at hp
      split at hp
      · cases hp
        exact .clear ‹_› ‹_›
      · cases hp
  | read run update =>
      simp only [perform] at hp
      split at hp
      · obtain ⟨hleft, heq⟩ := Option.ite_none_right_eq_some.mp hp
        cases heq
        exact .read ‹_› ‹_› fun c hc => hleft c hc
      · cases hp
  | readEnd run =>
      simp only [perform] at hp
      split at hp
      · cases hp
        exact .readEnd ‹_›
      · cases hp
  | dispatch run =>
      simp only [perform] at hp
      split at hp
      · cases hp
        exact .dispatch ‹_›
      · cases hp
  | updated run =>
      simp only [perform] at hp
      split at hp
      · cases hp
        exact .updated ‹_›
      · cases hp
  | finish run status =>
      simp only [perform] at hp
      split at hp
      · cases hp
        exact .finish ‹_›
      · cases hp
  | exit run =>
      simp only [perform] at hp
      split at hp
      · cases hp
        exact .exit ‹_›
      · cases hp

end StreamLifecycle

end Grpcw.Client
