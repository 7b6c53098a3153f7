import GrpcWrapper.Server.StreamDone

/-!
# Connect before delete

The accept event of a call comes through the queue of the server and its done
tag through the queue of the handler.  Two threads read the two queues and meet
only at the lock, so the done tag may be handled while the call's connection is
still in `next`.

`ConnectsFirst` says that a deletion is reported after the connection it is
about, and that a connection whose done tag was handled is not activated.  With
both callbacks set before a client arrives, a run keeps it exactly when no done
tag it handles carries the address of `next` (`connectsFirst_iff`).  Such a tag
is that of the call in `next`, or one left over from a deleted connection whose
address `next` has been given.
-/

namespace Grpcw.Server

open Transition

variable {Request Response Status : Type}

/-- The connection an event reports as connected, and its address. -/
def Event.connected : Event Request Response Status → Option (Nat × Addr)
  | .connect conn id _ => some (conn, id)
  | _ => none

namespace StreamRpcHandler

/-! ## The property -/

/-- The callbacks are set before gRPC accepts a call. -/
def Installed (h : StreamRpcHandler Request Response Status) :
    Action Request Response Status → Prop
  | .accept _ => h.connectionCallback = true ∧ h.deletionCallback = true
  | _ => True

/-- A call of `deletion_callback_` for a tag of `conn` comes after the call of
`connection_callback_` for `conn`, and after the one for the object whose
request it reads.  A connection is activated before its done tag is handled. -/
def ConnectedBefore :
    Event Request Response Status → List (Event Request Response Status) → Prop
  | .delete conn id object true, past =>
      (∃ e ∈ past, e.connected = some (conn, id)) ∧
        ∀ c, object = some c → .connect c.serial id c.request ∈ past
  | .activate conn, past => ∀ isNext, .done conn isNext ∉ past
  | _, _ => True

/-- Every deletion follows its connection, and no activation a done tag. -/
def ConnectsFirst (log : List (Event Request Response Status)) : Prop :=
  Historically ConnectedBefore log

/-- A done tag does not carry the address of `next`. -/
def ConnectGuard (h : StreamRpcHandler Request Response Status) :
    Action Request Response Status → Prop
  | .deliver op _ => op.kind = .notifyWhenDone → ∀ p ∈ h.connections.next, p.1 ≠ op.data
  | _ => True

instance [DecidableEq Request] [DecidableEq Response] [DecidableEq Status] :
    ∀ (e : Event Request Response Status) (past : List (Event Request Response Status)),
      Decidable (ConnectedBefore e past)
  | .delete conn id object true, past =>
      inferInstanceAs (Decidable ((∃ e ∈ past, e.connected = some (conn, id)) ∧
        ∀ c ∈ object, .connect c.serial id c.request ∈ past))
  | .activate conn, past =>
      inferInstanceAs (Decidable (∀ isNext, .done conn isNext ∉ past))
  | .connect .., _ | .call _, _ | .complete .., _ | .done .., _ | .delete _ _ _ false, _ =>
      .isTrue trivial

instance [DecidableEq Request] [DecidableEq Response] [DecidableEq Status]
    {log : List (Event Request Response Status)} : Decidable (ConnectsFirst log) :=
  inferInstanceAs (Decidable (Historically ConnectedBefore log))

instance [DecidableEq Response] [DecidableEq Status]
    {h : StreamRpcHandler Request Response Status} : ∀ a, Decidable (ConnectGuard h a)
  | .deliver op _ =>
      inferInstanceAs (Decidable (op.kind = .notifyWhenDone →
        ∀ p ∈ h.connections.next, p.1 ≠ op.data))
  | .onConnect | .onDelete | .accept _ | .activateNext .. | .write .. | .finish .. =>
      .isTrue trivial

instance {h : StreamRpcHandler Request Response Status} : ∀ a, Decidable (Installed h a)
  | .accept _ =>
      inferInstanceAs (Decidable (h.connectionCallback = true ∧ h.deletionCallback = true))
  | .onConnect | .onDelete | .activateNext .. | .write .. | .finish .. | .deliver .. =>
      .isTrue trivial

variable {h h' : StreamRpcHandler Request Response Status} {op : Operation Response Status}
  {a : Action Request Response Status} {conn : Nat} {id key tag : Addr} {callOk : Bool}
  {kind : OpKind Response Status} {c : StreamConnection Request} {request : Option Request}
  {e : Event Request Response Status} {log : List (Event Request Response Status)}

@[simp] theorem connectsFirst_cons :
    ConnectsFirst (e :: log) ↔ ConnectedBefore e log ∧ ConnectsFirst log := Iff.rfl

/-! ## What the log says about connections -/

/-- Every active connection was reported with its request, as was every one
whose done tag is awaited unless it is `next`.  The one in `next` was not, and
its done tag was not handled. -/
structure ConnectHistory (h : StreamRpcHandler Request Response Status) : Prop where
  installed : ∀ {key c}, h.Owns key c → c.request.isSome →
    h.connectionCallback = true ∧ h.deletionCallback = true
  reported : ∀ {conn id request}, .connect conn id request ∈ h.log →
    conn < h.allocated ∧ h.deletionCallback = true
  active : ∀ {key c}, h.connections.active.lookup key = some c →
    .connect c.serial key c.request ∈ h.log
  awaited : ∀ {op}, op ∈ h.awaited →
    (∃ c, h.connections.next = some (op.data, c) ∧ c.serial = op.conn) ∨
      ∃ request, .connect op.conn op.data request ∈ h.log
  next : ∀ {key c}, h.connections.next = some (key, c) →
    (∀ id request, .connect c.serial id request ∉ h.log) ∧ ∀ b, .done c.serial b ∉ h.log

theorem ConnectHistory.initial :
    (initial : StreamRpcHandler Request Response Status).ConnectHistory where
  installed := by rintro key c (ha | hn); cases ha; cases hn
  reported := by intro conn id request hm; cases hm
  active := by intro key c ha; cases ha
  awaited := by intro op hop; cases hop
  next := by intro key c hn; cases hn

/-- Sections that neither accept nor activate a call, and that handle no done
tag of `next`, keep the history. -/
theorem ConnectHistory.congr (hc : h.ConnectHistory)
    (hcc : h.connectionCallback = true → h'.connectionCallback = true)
    (hdc : h.deletionCallback = true → h'.deletionCallback = true)
    (hal : h'.allocated = h.allocated) (hnext : h'.connections.next = h.connections.next)
    (hact : ∀ {key c}, h'.connections.active.lookup key = some c →
      h.connections.active.lookup key = some c)
    (haw : ∀ {op}, op ∈ h'.awaited → op ∈ h.awaited)
    (hrep : ∀ {conn id request}, .connect conn id request ∈ h'.log ↔
      .connect conn id request ∈ h.log)
    (hdone : ∀ {key c b}, h.connections.next = some (key, c) → .done c.serial b ∈ h'.log →
      .done c.serial b ∈ h.log) : h'.ConnectHistory where
  installed := by
    intro key c ho hsome
    have ho' : h.Owns key c := by
      rcases ho with ha | hn
      · exact .active (hact ha)
      · exact .next (hnext ▸ hn)
    obtain ⟨h₁, h₂⟩ := hc.installed ho' hsome
    exact ⟨hcc h₁, hdc h₂⟩
  reported := by
    intro conn id request hm
    obtain ⟨hlt, hd⟩ := hc.reported (hrep.mp hm)
    exact ⟨hal ▸ hlt, hdc hd⟩
  active := by
    intro key c ha
    exact hrep.mpr (hc.active (hact ha))
  awaited := by
    intro op hop
    rcases hc.awaited (haw hop) with ⟨c, hn, hs⟩ | ⟨request, hm⟩
    · exact Or.inl ⟨c, hnext ▸ hn, hs⟩
    · exact Or.inr ⟨request, hrep.mpr hm⟩
  next := by
    intro key c hn
    rw [hnext] at hn
    obtain ⟨hnew, hnd⟩ := hc.next hn
    exact ⟨fun id request hm => hnew id request (hrep.mp hm),
      fun b hm => hnd b (hdone hn hm)⟩

theorem ConnectHistory.accept {request : Request} (hc : h.ConnectHistory)
    (hcc : h.connectionCallback = true) (hdc : h.deletionCallback = true) :
    (h.accept request).ConnectHistory where
  installed := fun _ _ => ⟨hcc, hdc⟩
  reported := hc.reported
  active := hc.active
  awaited := by
    intro op hop
    rcases hc.awaited hop with ⟨c, hn, hs⟩ | hm
    · exact Or.inl ⟨{ c with request := some request }, by simp [StreamRpcHandler.accept, hn], hs⟩
    · exact Or.inr hm
  next := by
    intro key c hn
    obtain ⟨⟨k, c₀⟩, hn₀, heq⟩ := Option.map_eq_some_iff.mp hn
    cases heq
    obtain ⟨hnew, hnd⟩ := hc.next hn₀
    exact ⟨hnew, hnd⟩

/-- The log after `activate_next`, when the call in `next` was accepted. -/
theorem ConnectHistory.activateNext_log (hc : h.ConnectHistory)
    (hn : h.connections.next = some (key, c)) (hsome : c.request.isSome) {key' tag : Addr} :
    (h.activateNext key' tag).log =
      .activate c.serial :: .connect c.serial key c.request :: h.log := by
  rw [StreamRpcHandler.activateNext_log, hn]
  simp only [(hc.installed (.next hn) hsome).1, if_true]

theorem activateNext_log_none (hn : h.connections.next = none) :
    (h.activateNext key tag).log = h.log := by
  rw [activateNext_log, hn]

theorem connect_activateNext (hm : .connect conn id request ∈ h.log) :
    .connect conn id request ∈ (h.activateNext key tag).log :=
  log_suffix_activateNext.subset hm

@[simp] theorem activateNext_connectionCallback :
    (h.activateNext key tag).connectionCallback = h.connectionCallback := by
  simp [StreamRpcHandler.activateNext, StreamRpcHandler.addNext]

@[simp] theorem activateNext_deletionCallback :
    (h.activateNext key tag).deletionCallback = h.deletionCallback := by
  simp [StreamRpcHandler.activateNext, StreamRpcHandler.addNext]

/-- What `activate_next` adds to the reports is the report of `next`. -/
theorem ConnectHistory.connect_of_activateNext (hc : h.ConnectHistory) (hact : h.Activatable)
    (hm : .connect conn id request ∈ (h.activateNext key tag).log) :
    .connect conn id request ∈ h.log ∨
      h.connections.next = some (id, ⟨conn, request⟩) ∧ request.isSome := by
  cases hn : h.connections.next with
  | none =>
      rw [activateNext_log_none hn] at hm
      exact Or.inl hm
  | some p =>
      obtain ⟨key', c⟩ := p
      have hsome := hact key' c hn
      rw [hc.activateNext_log hn hsome] at hm
      simp only [List.mem_cons, reduceCtorEq, Event.connect.injEq, false_or] at hm
      rcases hm with ⟨rfl, rfl, rfl⟩ | hm
      · exact Or.inr ⟨rfl, hsome⟩
      · exact Or.inl hm

theorem ConnectHistory.activateNext (hi : h.Inv) (hd : h.DoneHistory) (hc : h.ConnectHistory)
    (hact : h.Activatable) : (h.activateNext key tag).ConnectHistory where
  installed := by
    intro key' c ho hsome
    rw [activateNext_connectionCallback, activateNext_deletionCallback]
    rcases (owns_addNext moveNext_next).mp ho with ho | ⟨-, rfl⟩
    · exact hc.installed (hi.owns_moveNext.mp ho) hsome
    · cases hsome
  reported := by
    intro conn id request hm
    rw [activateNext_allocated, activateNext_deletionCallback]
    rcases hc.connect_of_activateNext hact hm with hm | ⟨hn, hsome⟩
    · exact ⟨Nat.lt_succ_of_lt (hc.reported hm).1, (hc.reported hm).2⟩
    · exact ⟨Nat.lt_succ_of_lt (hi.ownsSerial (.next hn)), (hc.installed (.next hn) hsome).2⟩
  active := by
    intro key' c ha
    rcases hi.lookup_moveNext.mp ha with ha | hn
    · exact connect_activateNext (hc.active ha)
    · rw [hc.activateNext_log hn (hact _ _ hn)]
      exact List.mem_cons_of_mem _ List.mem_cons_self
  awaited := by
    intro op hop
    rw [activateNext_awaited] at hop
    rcases List.mem_append.mp hop with hop | hop
    · rcases hc.awaited hop with ⟨c, hn, hs⟩ | ⟨request, hm⟩
      · refine Or.inr ⟨c.request, ?_⟩
        rw [hc.activateNext_log hn (hact _ _ hn), hs]
        exact List.mem_cons_of_mem _ List.mem_cons_self
      · exact Or.inr ⟨request, connect_activateNext hm⟩
    · rw [List.mem_singleton.mp hop]
      exact Or.inl ⟨_, activateNext_next, rfl⟩
  next := by
    intro key' c hn
    rw [activateNext_next] at hn
    cases hn
    refine ⟨?_, ?_⟩
    · intro id request hm
      rcases hc.connect_of_activateNext hact hm with hm | ⟨hn, -⟩
      · exact Nat.lt_irrefl _ (hc.reported hm).1
      · exact Nat.lt_irrefl _ (hi.ownsSerial (.next hn))
    · intro b hm
      exact Nat.lt_irrefl _ (hd.doneLt (done_activateNext.mp hm))

theorem ConnectHistory.complete (callOk : Bool) (hi : h.Inv) (hc : h.ConnectHistory)
    (hop : op ∈ h.queue) : (h.complete op callOk).ConnectHistory := by
  refine hc.congr id id rfl rfl id ?_ ?_ ?_
  · intro o ho
    exact ((hi.mem_settle_awaited hop).mp ho).1
  · simp
  · simp

/-- A done tag with another address than `next` is not the one of `next`. -/
theorem ConnectHistory.notified (hi : h.Inv) (hc : h.ConnectHistory) (hop : op ∈ h.awaited)
    (hne : ∀ p ∈ h.connections.next, p.1 ≠ op.data) : (h.notified op).ConnectHistory := by
  refine hc.congr id id rfl rfl id ?_ ?_ ?_
  · intro o ho
    exact ((hi.mem_settle_awaited (mem_awaited.mp hop).1).mp ho).1
  · simp
  · intro key c b hn hm
    rcases List.mem_cons.mp hm with heq | hm
    · obtain ⟨hs, -⟩ := Event.done.inj heq
      exact absurd (hi.doneHome hop (.next hn) hs) (hne _ hn)
    · exact hm

/-! ## One step -/

theorem ConnectHistory.delete (hc : h.ConnectHistory) : (h.delete conn key).ConnectHistory := by
  refine hc.congr id id rfl rfl ?_ id ?_ ?_
  · intro key' c ha
    rw [lookup_delete] at ha
    split at ha
    · cases ha
    · exact ha
  · simp
  · intro key' c b _ hm
    simpa using hm

theorem ConnectHistory.send {recipients : Recipients} (hc : h.ConnectHistory)
    (hk : kind.label = .writing) : (h.send kind recipients).handler.ConnectHistory := by
  refine hc.congr ?_ ?_ ?_ ?_ ?_ ?_ ?_ ?_
  all_goals simp [send_awaited hk]

/-- The steps that meet the guard keep the history. -/
theorem ConnectHistory.step (hi : h.Inv) (hd : h.DoneHistory) (hc : h.ConnectHistory)
    (hs : Step h a h') (hinst : Installed h a) (hguard : ConnectGuard h a) :
    h'.ConnectHistory := by
  cases hs with
  | onConnect => exact hc.congr (fun _ => rfl) id rfl rfl id id Iff.rfl fun _ => id
  | onDelete => exact hc.congr id (fun _ => rfl) rfl rfl id id Iff.rfl fun _ => id
  | accept _ => exact hc.accept hinst.1 hinst.2
  | activateNext hact _ _ => exact hc.activateNext hi hd hact
  | write _ _ => exact hc.send rfl
  | finish _ _ => exact hc.send rfl
  | @deliver op callOk s hdel hrun =>
      obtain ⟨-, ⟨hop, heq⟩ | ⟨hop, heq⟩⟩ := (Step.deliver hdel hrun).deliver_cases hi
      · have hcc := hc.complete callOk hi (mem_writing.mp hop).1
        rw [heq]
        split
        · exact hcc
        · exact hcc.delete
      · have hcn := hc.notified hi hop (hguard (mem_awaited_kind hop))
        rw [heq]
        split
        · exact hcn
        · exact hcn.delete

/-- A deletion at the address of an active connection, or of none, follows the
reports it needs. -/
theorem ConnectHistory.connectedBefore (hi : h.Inv) (hc : h.ConnectHistory)
    (hconn : ∃ request, .connect conn key request ∈ h.log)
    (hne : ∀ p ∈ h.connections.next, p.1 ≠ key) {called : Bool} :
    ConnectedBefore (.delete conn key (h.connections.object key) called) h.log := by
  cases called with
  | false => trivial
  | true =>
      obtain ⟨request, hm⟩ := hconn
      refine ⟨⟨_, hm, rfl⟩, ?_⟩
      intro c hobj
      rcases hi.object_eq_some.mp hobj with ha | hn
      · exact hc.active ha
      · exact absurd rfl (hne _ hn)

theorem ConnectHistory.connectsFirst_activateNext (hc : h.ConnectHistory) (hact : h.Activatable)
    (hok : ConnectsFirst h.log) : ConnectsFirst (h.activateNext key tag).log := by
  cases hn : h.connections.next with
  | none =>
      rw [activateNext_log_none hn]
      exact hok
  | some p =>
      obtain ⟨key', c⟩ := p
      rw [hc.activateNext_log hn (hact _ _ hn)]
      refine ⟨?_, trivial, hok⟩
      intro b hm
      simp only [List.mem_cons, reduceCtorEq, false_or] at hm
      exact (hc.next hn).2 b hm

/-- The done tag that carries the address of `next` deletes a connection that
was not reported. -/
theorem ConnectHistory.next_deleted (hi : h.Inv) (hc : h.ConnectHistory)
    (hdel : h.Deliverable op) (hop : op ∈ h.awaited)
    (hn : h.connections.next = some (op.data, c)) :
    ¬ ConnectsFirst ((h.notified op).delete op.conn op.data).log := by
  have hcalled : h.deletionCallback = true := by
    rcases hc.awaited hop with ⟨c', hn', hs⟩ | ⟨request, hm⟩
    · have hsome := hdel.2 (mem_awaited_kind hop) _ _ hn' hs
      exact (hc.installed (.next hn') hsome).2
    · exact (hc.reported hm).2
  have hin : (h.notified op).Inv := hi.notified (mem_awaited.mp hop).1
  have hobj : (h.notified op).connections.object op.data = some c :=
    hin.object_eq_some.mpr (.next hn)
  intro ⟨hbefore, _⟩
  have hcalled' : (h.notified op).deletionCallback = true := hcalled
  rw [hobj, hcalled'] at hbefore
  have hm := hbefore.2 c rfl
  simp only [notified_log, List.mem_cons, reduceCtorEq, false_or] at hm
  exact (hc.next hn).1 _ _ hm

/-- When the deletions so far followed their connections, the guard decides
about the next step's. -/
theorem connectsFirst_step (hi : h.Inv) (hc : h.ConnectHistory) (hok : ConnectsFirst h.log)
    (hs : Step h a h') : ConnectsFirst h'.log ↔ ConnectGuard h a := by
  cases hs with
  | onConnect => exact iff_of_true hok trivial
  | onDelete => exact iff_of_true hok trivial
  | accept _ => exact iff_of_true hok trivial
  | activateNext hact _ _ => exact iff_of_true (hc.connectsFirst_activateNext hact hok) trivial
  | write _ _ => simpa [StreamRpcHandler.write, ConnectedBefore, ConnectGuard] using hok
  | finish _ _ => simpa [StreamRpcHandler.finish, ConnectedBefore, ConnectGuard] using hok
  | @deliver op callOk s hdel hrun =>
      obtain ⟨-, ⟨hop, heq⟩ | ⟨hop, heq⟩⟩ := (Step.deliver hdel hrun).deliver_cases hi
      · have hguard : ConnectGuard h (.deliver op callOk) :=
          fun hk => absurd hk (mem_writing_kind hop)
        refine iff_of_true ?_ hguard
        rw [heq]
        split
        · exact ⟨trivial, hok⟩
        · -- its connection is active, so it is not `next` that is erased
          obtain ⟨c, ha, hs⟩ := hi.writingHome hop
          have hne : ∀ p ∈ h.connections.next, p.1 ≠ op.data := by
            rintro ⟨key, c'⟩ hn rfl
            exact hi.nextKey hn (Map.mem_of_lookup ha)
          have hcc := hc.complete callOk hi (mem_writing.mp hop).1
          refine ⟨hcc.connectedBefore (hi.complete (mem_writing.mp hop).1) ?_ hne, trivial, hok⟩
          exact ⟨_, List.mem_cons_of_mem _ (hs ▸ hc.active ha)⟩
      · rw [heq]
        by_cases hguard : ∀ p ∈ h.connections.next, p.1 ≠ op.data
        · refine iff_of_true ?_ fun _ => hguard
          split
          · exact ⟨trivial, hok⟩
          · have hcn := hc.notified hi hop hguard
            refine ⟨hcn.connectedBefore (hi.notified (mem_awaited.mp hop).1) ?_ hguard,
              trivial, hok⟩
            rcases hc.awaited hop with ⟨c, hn, -⟩ | ⟨request, hm⟩
            · exact absurd rfl (hguard _ hn)
            · exact ⟨request, List.mem_cons_of_mem _ hm⟩
        · refine iff_of_false ?_ fun hall => hguard (hall (mem_awaited_kind hop))
          simp only [ne_eq, not_forall, not_not] at hguard
          obtain ⟨⟨key, c⟩, hn, rfl⟩ := hguard
          rw [if_neg (hi.next_notMem_processing hn)]
          exact hc.next_deleted hi hdel hop hn

/-! ## Every run -/

theorem connectHistory_of_reachable (hr : Reachable (Restrict Step Installed) initial h)
    (hok : ConnectsFirst h.log) : h.ConnectHistory := by
  refine hr.invariant (I := fun h => ConnectsFirst h.log → h.ConnectHistory)
    (fun _ => .initial) ?_ hok
  intro s a s' hr ih hs hok
  have hi := HandlerReachable.inv hr.of_restrict
  have hok₀ := hok.of_suffix (hs.1.log_suffix hi)
  have hc := ih hok₀
  exact hc.step hi (HandlerReachable.doneHistory hr.of_restrict) hs.1 hs.2
    ((connectsFirst_step hi hc hok₀ hs.1).mp hok)

variable {tr : List (StreamRpcHandler Request Response Status × Action Request Response Status)}

/-- With both callbacks set before the first client arrives, a run deletes only
what it has reported, and activates nothing that is done, exactly when no done
tag it handles carries the address of `next`. -/
theorem connectsFirst_iff (run : HandlerRun tr h) (hinst : ∀ p ∈ tr, Installed p.1 p.2) :
    (∀ s ∈ visited tr h, ConnectsFirst s.log) ↔ ∀ p ∈ tr, ConnectGuard p.1 p.2 := by
  refine (run.restrict hinst).always_iff (P := fun s => ConnectsFirst s.log) ?_ ?_
  · exact historically_nil _
  · intro s a s' hr hok hs
    exact connectsFirst_step (HandlerReachable.inv hr.of_restrict)
      (connectHistory_of_reachable hr hok) hok hs.1

/-- A client connects and cancels at once: its done tag comes before the server
thread has activated its connection. -/
def cancelledAtOnce : List (Action Nat Nat Nat) :=
  [.onConnect, .onDelete, .activateNext 1 101, .accept 7,
    .deliver ⟨101, 1, 0, .notifyWhenDone⟩ true, .activateNext 2 102]

theorem not_connectsFirst :
    ¬ ∀ (tr : List (StreamRpcHandler Nat Nat Nat × Action Nat Nat Nat))
      (h : StreamRpcHandler Nat Nat Nat), HandlerRun tr h → (∀ p ∈ tr, Installed p.1 p.2) →
        ∀ s ∈ visited tr h, ConnectsFirst s.log := by
  intro hall
  exact absurd (hall _ _ (served_run cancelledAtOnce) (by decide) _ List.mem_cons_self) (by decide)

theorem connectsFirst_iff_broadcast : ConnectsFirst (served broadcast).2.log :=
  (connectsFirst_iff (served_run broadcast) (by decide)).mpr (by decide) _ List.mem_cons_self

end StreamRpcHandler

end Grpcw.Server
