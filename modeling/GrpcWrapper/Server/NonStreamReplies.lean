import GrpcWrapper.Server.NonStreamActivation

/-!
# One reply for each request

The requests of a non-streaming handler, the calls of its callback, the `Finish`
operations and their completions form one line.  At most one of them is ahead of
the next, and where `activate_next` stands tells which (`Ledger`).  So the
callback is called once on each request, in the order of arrival, and the answer
goes to the responder of that request.  A connection is replaced only when all
are level.
-/

namespace Grpcw.Server

open Transition

variable {Request Response Status : Type}

open ReplyEvent

/-! ## The ledger -/

/-- How far the requests, calls, operations and completions of a log are apart. -/
structure Ledger (log : List (ReplyEvent Request Response Status))
    (unanswered : List (Nat × Option Request)) (unsent : List (Reply Response Status))
    (outstanding : List Nat) : Prop where
  called : recorded accepts log = recorded requests log ++ unanswered
  finished : recorded answers log = recorded finishes log ++ unsent
  completed : (recorded finishes log).map Reply.conn = recorded completions log ++ outstanding
  inOrder : Historically InOrder log

namespace Ledger

variable {log : List (ReplyEvent Request Response Status)} {e : ReplyEvent Request Response Status}
  {unanswered unanswered' : List (Nat × Option Request)}
  {unsent unsent' : List (Reply Response Status)} {outstanding outstanding' : List Nat}

theorem nil : Ledger ([] : List (ReplyEvent Request Response Status)) [] [] [] where
  called := rfl
  finished := rfl
  completed := rfl
  inOrder := trivial

/-- One event. -/
theorem cons (h : Ledger log unanswered unsent outstanding)
    (hunanswered : unanswered ++ e.accepts = e.requests ++ unanswered')
    (hunsent : unsent ++ e.answers = e.finishes ++ unsent')
    (houtstanding : outstanding ++ e.finishes.map Reply.conn = e.completions ++ outstanding')
    (hin : e.InOrder log) : Ledger (e :: log) unanswered' unsent' outstanding' where
  called := by
    rw [recorded_cons, recorded_cons, h.called, List.append_assoc, hunanswered, List.append_assoc]
  finished := by
    rw [recorded_cons, recorded_cons, h.finished, List.append_assoc, hunsent, List.append_assoc]
  completed := by
    rw [recorded_cons, recorded_cons, List.map_append, h.completed, List.append_assoc,
      houtstanding, List.append_assoc]
  inOrder := ⟨hin, h.inOrder⟩

/-- An answer is for the request that was read. -/
theorem conn_answers (log : List (ReplyEvent Request Response Status)) :
    (recorded answers log).map Reply.conn = (recorded requests log).map Prod.fst := by
  induction log with
  | nil => rfl
  | cons e past ih =>
      rw [recorded_cons, recorded_cons, List.map_append, List.map_append, ih]
      cases e <;> rfl

/-- With nothing ahead, all requests have been replied to. -/
theorem level (h : Ledger log [] [] []) :
    recorded completions log = (recorded accepts log).map Prod.fst := by
  have hcalled := h.called
  have hfinished := h.finished
  have hcompleted := h.completed
  rw [List.append_nil] at hcalled hfinished hcompleted
  rw [hcalled, ← conn_answers, hfinished, hcompleted]

end Ledger

/-! ## The invariant -/

namespace NonStreamActivation

/-- What a handler has done for its requests. -/
structure OneReply (h : NonStreamActivation Request Response Status) : Prop where
  /-- The callback is called on each request once, in order. -/
  called : recorded accepts h.log = recorded requests h.log ++ h.unanswered
  /-- Each request has a responder of its own. -/
  ownResponder : (recorded accepts h.log).map Prod.fst =
    List.range (recorded accepts h.log).length
  /-- Each answer is handed to the responder of its request once. -/
  finished : recorded answers h.log = recorded finishes h.log ++ h.unsent
  completed : (recorded finishes h.log).map Reply.conn =
    recorded completions h.log ++ h.queue.map fun op => op.reply.conn
  /-- No connection is replaced, and no accept registered, before that. -/
  inOrder : Historically InOrder h.log
  quiet : ¬ h.Running → h.queue = []
  undrained : ∀ conn, .drained conn ∉ h.log

/-- Where `activate_next` stands, and what the connection and the queue are like
then; whether an accept is registered, and whether the queue is shut down. -/
inductive Stage : ActivatePhase Response Status → Option (NonStreamRpcConnection Request) →
    List (PendingReply Response Status) → Bool → Bool → Prop where
  | idle {c : Option (NonStreamRpcConnection Request)} {registered : Bool} :
      Stage .idle c [] registered false
  | calling {response : Addr} {serial : Nat} {request : Request} :
      Stage (.calling response) (some ⟨serial, some request⟩) [] false false
  | answered {response : Addr} {answer : Response × Status} {serial : Nat} {request : Request} :
      Stage (.answered response answer) (some ⟨serial, some request⟩) [] false false
  | waiting {response : Addr} {reply : Reply Response Status} {serial : Nat} {request : Request} :
      Stage (.waiting response) (some ⟨serial, some request⟩) [⟨response, reply⟩] false false
  | first : Stage .replacing none [] false false
  | replacing {serial : Nat} {request : Request} :
      Stage .replacing (some ⟨serial, some request⟩) [] false false
  | requesting {serial : Nat} : Stage .requesting (some ⟨serial, none⟩) [] false false
  | draining {c : Option (NonStreamRpcConnection Request)} : Stage .draining c [] false true
  | destroyed {c : Option (NonStreamRpcConnection Request)} : Stage .destroyed c [] false true

/-- How many connections have got a request, and how many there were. -/
inductive Filled : Option (NonStreamRpcConnection Request) → Nat → Nat → Prop where
  | first : Filled none 0 0
  | waiting {serial : Nat} : Filled (some ⟨serial, none⟩) serial (serial + 1)
  | filled {serial : Nat} {request : Request} :
      Filled (some ⟨serial, some request⟩) (serial + 1) (serial + 1)

theorem Filled.of_waiting {serial n allocated : Nat}
    (h : Filled (some ⟨serial, none⟩ : Option (NonStreamRpcConnection Request)) n allocated) :
    n = serial ∧ allocated = serial + 1 := by
  cases h
  exact ⟨rfl, rfl⟩

theorem Filled.eq_of_request {c : Option (NonStreamRpcConnection Request)} {n allocated : Nat}
    (h : Filled c n allocated) (hc : ∀ serial, c ≠ some ⟨serial, none⟩) : n = allocated := by
  cases h with
  | first | filled => rfl
  | waiting => exact absurd rfl (hc _)

structure Inv (h : NonStreamActivation Request Response Status) : Prop where
  ledger : Ledger h.log h.unanswered h.unsent (h.queue.map fun op => op.reply.conn)
  stage : Stage h.phase (h.connection.map Prod.snd) h.queue h.registered h.queueShutdown
  conns : (recorded accepts h.log).map Prod.fst = List.range (recorded accepts h.log).length
  filled : Filled (h.connection.map Prod.snd) (recorded accepts h.log).length h.allocated
  undrained : ∀ conn, .drained conn ∉ h.log

variable {h h' : NonStreamActivation Request Response Status} {key response : Addr}
  {c : NonStreamRpcConnection Request} {serial : Nat} {r : Request} {answer : Response × Status}
  {op : PendingReply Response Status} {before after : List (PendingReply Response Status)}
  {callOk : Bool}

theorem Inv.new : (new : NonStreamActivation Request Response Status).Inv where
  ledger := .nil
  stage := .idle
  conns := rfl
  filled := .first
  undrained _ := List.not_mem_nil

/-- A step that puts no request into the connection, and drains nothing. -/
theorem Inv.keep {l : List (ReplyEvent Request Response Status)} (hi : h.Inv)
    (hlog : h'.log = l ++ h.log)
    (hl : ∀ e ∈ l, e.accepts = [] ∧ ∀ conn, e ≠ .drained conn)
    (hledger : Ledger (l ++ h.log) h'.unanswered h'.unsent
      (h'.queue.map fun op => op.reply.conn))
    (hstage : Stage h'.phase (h'.connection.map Prod.snd) h'.queue h'.registered h'.queueShutdown)
    (hfilled : Filled (h'.connection.map Prod.snd) (recorded accepts h.log).length h'.allocated) :
    h'.Inv := by
  have hrecorded : recorded accepts h'.log = recorded accepts h.log := by
    rw [hlog]
    exact recorded_append_left (fun e he => (hl e he).1) h.log
  refine ⟨hlog ▸ hledger, hstage, ?_, ?_, ?_⟩
  · rw [hrecorded]
    exact hi.conns
  · rw [hrecorded]
    exact hfilled
  · intro conn hmem
    rw [hlog] at hmem
    rcases List.mem_append.mp hmem with hnew | hmem
    · exact (hl _ hnew).2 conn rfl
    · exact hi.undrained conn hmem

/-! ## One step -/

/-- An accept is registered only while `activate_next` does not run. -/
theorem Inv.idle_of_registered (hi : h.Inv) (hreg : h.registered = true) : h.phase = .idle := by
  obtain ⟨connection, queue, shutdown, allocated, _, phase, log⟩ := h
  obtain rfl : _ = true := hreg
  have hstage := hi.stage
  dsimp only at hstage
  generalize connection.map Prod.snd = c at hstage
  cases hstage
  rfl

theorem Inv.accept (hi : h.Inv) (hreg : h.registered = true)
    (hc : h.connection = some (key, ⟨serial, none⟩)) : (h.accept r).Inv := by
  have hphase := hi.idle_of_registered hreg
  obtain ⟨_, queue, shutdown, allocated, registered, phase, log⟩ := h
  obtain rfl : _ = some _ := hc
  obtain rfl : phase = .idle := hphase
  obtain ⟨hlength, rfl⟩ : (recorded accepts log).length = serial ∧ allocated = serial + 1 :=
    Filled.of_waiting hi.filled
  have hconn : (recorded accepts (.accepted serial r :: log)).length = serial + 1 := by
    rw [recorded_cons, List.length_append, hlength]
    rfl
  have hledger := hi.ledger
  cases hi.stage
  refine ⟨hledger.cons (e := .accepted serial r) rfl rfl rfl trivial, .idle, ?_, ?_, ?_⟩
  · show (recorded accepts (.accepted serial r :: log)).map Prod.fst =
      List.range (recorded accepts (.accepted serial r :: log)).length
    rw [hconn, recorded_cons, List.map_append, hi.conns, hlength, List.range_succ]
    rfl
  · show Filled _ (recorded accepts (.accepted serial r :: log)).length _
    rw [hconn]
    exact .filled
  · intro conn hmem
    exact hi.undrained conn ((List.mem_cons.mp hmem).resolve_left (by simp))

theorem Inv.activate (hi : h.Inv) (hphase : h.phase = .idle) (hact : h.Activatable) :
    (h.activate response).Inv := by
  obtain ⟨connection, queue, shutdown, allocated, registered, phase, log⟩ := h
  obtain rfl : phase = .idle := hphase
  match connection, hact with
  | none, _ =>
      have hledger := hi.ledger
      have hfilled := hi.filled
      cases hi.stage
      exact hi.keep (l := []) rfl (List.forall_mem_nil _) hledger .first hfilled
  | some (key, ⟨serial, some r⟩), _ =>
      have hledger := hi.ledger
      have hfilled := hi.filled
      cases hi.stage
      exact hi.keep (l := []) rfl (List.forall_mem_nil _) hledger .calling hfilled
  | some (key, ⟨serial, none⟩), .inr ⟨_, hheld⟩ => exact absurd rfl hheld

theorem Inv.call (hi : h.Inv) (hphase : h.phase = .calling response)
    (hc : h.connection = some (key, c)) : (h.call response c answer).Inv := by
  obtain ⟨_, queue, shutdown, allocated, registered, _, log⟩ := h
  obtain rfl : _ = some _ := hc
  obtain rfl : _ = ActivatePhase.calling _ := hphase
  have hledger := hi.ledger
  have hfilled := hi.filled
  cases hi.stage
  refine hi.keep (l := [_]) rfl ?_ (hledger.cons rfl rfl rfl trivial) .answered hfilled
  simp [accepts]

theorem Inv.finish (hi : h.Inv) (hphase : h.phase = .answered response answer)
    (hc : h.connection = some (key, c)) : (h.finish response c answer).Inv := by
  obtain ⟨_, queue, shutdown, allocated, registered, _, log⟩ := h
  obtain rfl : _ = some _ := hc
  obtain rfl : _ = ActivatePhase.answered _ _ := hphase
  have hledger := hi.ledger
  have hfilled := hi.filled
  cases hi.stage
  refine hi.keep (l := [_]) rfl ?_ (hledger.cons rfl rfl rfl trivial) .waiting hfilled
  simp [accepts]

/-- In the wait, `queue_` holds the one operation that it waits for. -/
theorem Inv.queue_waiting (hi : h.Inv) (hphase : h.phase = .waiting response) :
    ∃ reply, h.queue = [⟨response, reply⟩] := by
  obtain ⟨connection, queue, shutdown, allocated, registered, _, log⟩ := h
  obtain rfl : _ = ActivatePhase.waiting _ := hphase
  have hstage := hi.stage
  dsimp only at hstage
  generalize connection.map Prod.snd = c at hstage
  cases hstage
  exact ⟨_, rfl⟩

/-- What `Next` returns then is that operation. -/
theorem Inv.replied_op (hi : h.Inv) (hphase : h.phase = .waiting response)
    (hq : h.queue = before ++ op :: after) :
    op.tag = response ∧ before = [] ∧ after = [] := by
  obtain ⟨reply, hqueue⟩ := hi.queue_waiting hphase
  rw [hqueue] at hq
  obtain ⟨hbefore, hafter⟩ | ⟨-, hnil⟩ := List.append_eq_singleton_iff.mp hq.symm
  · cases hafter
    exact ⟨rfl, hbefore, rfl⟩
  · exact absurd hnil (List.cons_ne_nil _ _)

theorem Inv.replied (hi : h.Inv) (hphase : h.phase = .waiting response)
    (hq : h.queue = before ++ op :: after) :
    (h.replied response op callOk (before ++ after)).Inv := by
  obtain ⟨-, rfl, rfl⟩ := hi.replied_op hphase hq
  obtain ⟨connection, _, shutdown, allocated, registered, _, log⟩ := h
  obtain rfl : _ = [op] := hq
  obtain rfl : _ = ActivatePhase.waiting _ := hphase
  have hledger : Ledger log [] [] [op.reply.conn] := hi.ledger
  have hfilled := hi.filled
  have hafter : Ledger (.asserted .recvTag (decide (op.tag = response)) ::
      .asserted .callOk callOk :: .completed op.reply.conn :: log) [] [] [] := by
    have hcompleted := hledger.cons (e := .completed op.reply.conn) rfl rfl rfl trivial
    have hok := hcompleted.cons (e := .asserted .callOk callOk) rfl rfl rfl trivial
    exact hok.cons rfl rfl rfl trivial
  match connection with
  | some (key, ⟨serial, some r⟩) =>
      cases hi.stage
      refine hi.keep (l := [_, _, _]) rfl ?_ hafter .replacing hfilled
      simp [accepts]

theorem Inv.replace (hi : h.Inv) (hphase : h.phase = .replacing) : (h.replace key).Inv := by
  obtain ⟨connection, queue, shutdown, allocated, registered, _, log⟩ := h
  obtain rfl : _ = ActivatePhase.replacing := hphase
  have hlevel : Ledger log [] [] (queue.map fun op => op.reply.conn) := hi.ledger
  have hfull : (recorded accepts log).length = allocated ∧ queue = [] ∧ registered = false ∧
      shutdown = false := by
    match connection with
    | none =>
        have heq := hi.filled.eq_of_request (by simp)
        cases hi.stage
        exact ⟨heq, rfl, rfl, rfl⟩
    | some (key, ⟨serial, some r⟩) =>
        have heq := hi.filled.eq_of_request (by simp)
        cases hi.stage
        exact ⟨heq, rfl, rfl, rfl⟩
  obtain ⟨hlength, rfl, rfl, rfl⟩ := hfull
  refine hi.keep (l := [_]) rfl ?_ (hlevel.cons rfl rfl rfl hlevel.level) .requesting ?_
  · simp [accepts]
  · rw [hlength]
    exact .waiting

theorem Inv.request (hi : h.Inv) (hphase : h.phase = .requesting)
    (hc : h.connection = some (key, c)) : (h.request c).Inv := by
  obtain ⟨_, queue, shutdown, allocated, registered, _, log⟩ := h
  obtain rfl : _ = some _ := hc
  obtain rfl : _ = ActivatePhase.requesting := hphase
  have hledger := hi.ledger
  have hfilled := hi.filled
  cases hi.stage
  refine hi.keep (l := [_]) rfl ?_ (hledger.cons rfl rfl rfl ?_) .idle hfilled
  · simp [accepts]
  · exact hledger.level

/-- Without `activate_next` the queue is empty. -/
theorem Inv.queue_eq_nil (hi : h.Inv) (hr : ¬ h.Running) : h.queue = [] := by
  obtain ⟨connection, queue, shutdown, allocated, registered, phase, log⟩ := h
  have hstage := hi.stage
  dsimp only at hstage ⊢
  generalize connection.map Prod.snd = c at hstage
  cases hstage with
  | waiting => exact absurd ⟨by simp, by simp, by simp⟩ hr
  | _ => rfl

theorem Inv.destroy (hi : h.Inv) (hphase : h.phase = .idle) : h.destroy.Inv := by
  have hqueue : h.queue = [] := hi.queue_eq_nil fun hr => hr.1 hphase
  obtain ⟨connection, _, shutdown, allocated, registered, _, log⟩ := h
  obtain rfl : _ = ActivatePhase.idle := hphase
  obtain rfl : _ = [] := hqueue
  exact hi.keep (l := []) rfl (List.forall_mem_nil _) hi.ledger .draining hi.filled

theorem Inv.drained (hi : h.Inv) (hphase : h.phase = .draining) :
    ({ h with phase := .destroyed } : NonStreamActivation Request Response Status).Inv := by
  obtain ⟨connection, queue, shutdown, allocated, registered, _, log⟩ := h
  obtain rfl : _ = ActivatePhase.draining := hphase
  have hstage := hi.stage
  have hdestroyed : Stage .destroyed (connection.map Prod.snd) queue registered shutdown := by
    dsimp only at hstage
    generalize connection.map Prod.snd = c at hstage ⊢
    cases hstage
    exact .destroyed
  exact hi.keep (l := []) rfl (List.forall_mem_nil _) hi.ledger hdestroyed hi.filled

theorem Step.inv {a : Action Request Response Status} (hi : h.Inv) (hs : Step h a h') :
    h'.Inv := by
  cases hs with
  | accept hreg hc => exact hi.accept hreg hc
  | activate hphase hact => exact hi.activate hphase hact
  | call hphase hc => exact hi.call hphase hc
  | finish hphase hc => exact hi.finish hphase hc
  | replied hphase hq => exact hi.replied hphase hq
  | unreplied hphase _ hq =>
      obtain ⟨reply, hqueue⟩ := hi.queue_waiting hphase
      exact absurd (hqueue.symm.trans hq) (List.cons_ne_nil _ _)
  | replace hphase _ => exact hi.replace hphase
  | request hphase hc => exact hi.request hphase hc
  | destroy hphase => exact hi.destroy hphase
  | drain hphase hq =>
      have hqueue := hi.queue_eq_nil fun hr => hr.2.1 hphase
      exact absurd (hq.symm.trans hqueue) (by simp)
  | drained hphase _ => exact hi.drained hphase

theorem ActivationReachable.inv (hr : h.ActivationReachable) : h.Inv :=
  hr.invariant .new fun _ hi hs => Step.inv hi hs

/-! ## Every run -/

/-- Whatever requests arrive and whatever the callback answers, each request is
replied to once before the next one is accepted. -/
theorem reachable_oneReply (hr : h.ActivationReachable) : h.OneReply where
  called := hr.inv.ledger.called
  ownResponder := hr.inv.conns
  finished := hr.inv.ledger.finished
  completed := hr.inv.ledger.completed
  inOrder := hr.inv.ledger.inOrder
  quiet := hr.inv.queue_eq_nil
  undrained := hr.inv.undrained

/-- One request has been replied to and the next accept is registered. -/
theorem reachable_oneReply_registered :
    ∃ h : NonStreamActivation Nat Nat Nat, h.ActivationReachable ∧
      recorded accepts h.log = [(0, some 7)] ∧ recorded finishes h.log = [⟨0, 14, 0⟩] ∧
      recorded completions h.log = [0] ∧ h.registered = true ∧ h.OneReply := by
  have r : (new : NonStreamActivation Nat Nat Nat).ActivationReachable := .refl
  have r := r.tail (a := .activate 500) (.activate rfl (Or.inl rfl))
  have r := r.tail (a := .replace 1) (.replace rfl fun _ heq => by cases heq)
  have r := r.tail (.request rfl rfl)
  have r := r.tail (a := .accept 7) (.accept rfl rfl)
  have r := r.tail (a := .activate 500) (.activate rfl (Or.inr ⟨rfl, fun heq => by cases heq⟩))
  have r := r.tail (a := .call (14, 0)) (.call rfl rfl)
  have r := r.tail (.finish rfl rfl)
  have r := r.tail (@Step.replied _ _ _ _ _ _ [] [] true rfl rfl)
  have r := r.tail (a := .replace 2) (.replace rfl fun _ heq => by cases heq)
  have r := r.tail (.request rfl rfl)
  exact ⟨_, r, rfl, rfl, rfl, rfl, reachable_oneReply r⟩

/-! ## The handler as a whole -/

/-- The handler that the server has, when `callback` gives the answers. -/
def handler (callback : Option Request → Response × Status)
    (h : NonStreamActivation Request Response Status) :
    NonStreamRpcHandler Request Response Status where
  callback := callback
  connection := h.connection
  queue := (h.queue.map PendingReply.reply) ++ h.unsent
  allocated := h.allocated

/-- What a step does to that handler. -/
def Action.effect : Action Request Response Status →
    NonStreamRpcHandler Request Response Status → NonStreamRpcHandler Request Response Status
  | .accept r, handler => handler.accept r
  | .call _, handler => handler.reply
  | .replied _ _, handler => handler.replied
  | .replace key, handler => handler.renew key
  | _, handler => handler

/-- The answer is that of the callback. -/
def AnswersBy (callback : Option Request → Response × Status)
    (h : NonStreamActivation Request Response Status) : Action Request Response Status → Prop
  | .call answer => ∀ key c, h.connection = some (key, c) → answer = callback c.request
  | _ => True

/-- An answer is on its way to gRPC in one phase only. -/
theorem unsent_eq_nil (hphase : ∀ response answer, h.phase ≠ .answered response answer) :
    h.unsent = [] := by
  unfold unsent
  split
  · rename_i heq _
    exact absurd heq (hphase _ _)
  · rfl

/-- A step that is inside `activate_next`. -/
theorem handler_congr {callback : Option Request → Response × Status}
    (hc : h'.connection = h.connection) (hq : h'.queue = h.queue) (hu : h'.unsent = h.unsent)
    (ha : h'.allocated = h.allocated) : h'.handler callback = h.handler callback := by
  rw [handler, handler, hc, hq, hu, ha]

/-- Each step of `activate_next` is one of the handler, or none. -/
theorem Step.handler {callback : Option Request → Response × Status}
    {a : Action Request Response Status} (hi : h.Inv) (hs : Step h a h')
    (hanswer : h.AnswersBy callback a) :
    h'.handler callback = a.effect (h.handler callback) := by
  cases hs with
  | accept hreg hc =>
      have hphase := hi.idle_of_registered hreg
      simp [NonStreamActivation.handler, NonStreamActivation.accept, Action.effect,
        NonStreamRpcHandler.accept, unsent, hphase, hc]
  | @activate response hphase _ =>
      have hunsent : (h.activate response).unsent = [] := by
        refine unsent_eq_nil fun r answer => ?_
        rw [NonStreamActivation.activate]
        split <;> simp
      exact handler_congr rfl rfl (hunsent.trans (unsent_eq_nil (by simp [hphase])).symm) rfl
  | call hphase hc =>
      have heq := hanswer _ _ hc
      simp [NonStreamActivation.handler, NonStreamActivation.call, Action.effect,
        NonStreamRpcHandler.reply, unsent, hphase, hc, heq]
  | finish hphase hc =>
      simp [NonStreamActivation.handler, NonStreamActivation.finish, Action.effect, unsent,
        hphase, hc]
  | replied hphase hq =>
      obtain ⟨-, rfl, rfl⟩ := hi.replied_op hphase hq
      simp [NonStreamActivation.handler, NonStreamActivation.replied, Action.effect,
        NonStreamRpcHandler.replied, unsent, hphase, hq]
  | unreplied hphase _ hq =>
      obtain ⟨reply, hqueue⟩ := hi.queue_waiting hphase
      exact absurd (hqueue.symm.trans hq) (List.cons_ne_nil _ _)
  | replace hphase _ =>
      simp [NonStreamActivation.handler, NonStreamActivation.replace, Action.effect,
        NonStreamRpcHandler.renew, unsent, hphase]
  | request hphase _ => exact handler_congr rfl rfl (unsent_eq_nil (by simp [hphase])).symm rfl
  | destroy hphase => exact handler_congr rfl rfl (unsent_eq_nil (by simp [hphase])).symm rfl
  | drain hphase hq =>
      have hqueue := hi.queue_eq_nil fun hr => hr.2.1 hphase
      exact absurd (hq.symm.trans hqueue) (by simp)
  | drained hphase _ => exact handler_congr rfl rfl (unsent_eq_nil (by simp [hphase])).symm rfl

end NonStreamActivation

end Grpcw.Server
