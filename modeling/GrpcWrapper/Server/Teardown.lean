import GrpcWrapper.Server.HostedServer

/-!
# The end of a server

The destructor takes no lock, and nothing tells the run thread.  A call may be
finished although the event of its accept has not been handled, or its handler
has not gone on from its answer.  Then the destructor does not wait for the run
thread, which has an accept to register all the same, and gRPC aborts when that
is done on a queue that was shut down.

Whether that happens is decided when the queue is shut down: it does not if
the run thread has no successful accept in hand then and none waits for it
(`notLate_iff_quiet`).
-/

namespace Grpcw.Server

open Transition

variable {Request Response Status : Type}

namespace GrpcAsyncServer

/-- The steps that register an accept on `server_queue_`. -/
def Action.registers : Action Request Response Status → Prop
  | .register _ | .activate | .renew => True
  | _ => False

/-- No accept has succeeded that the run thread has still to handle. -/
structure Quiet (s : GrpcAsyncServer Request Response Status) : Prop where
  handling : ∀ a, s.runThread ≠ .handling a true
  replying : ∀ a, s.runThread ≠ .replying a
  queue : ∀ a ∈ s.serverQueue, a.slot.request = none

variable {s : GrpcAsyncServer Request Response Status}

/-- A quiet server registers an accept only when it is told to. -/
theorem Quiet.registers {action : Action Request Response Status}
    {s' : GrpcAsyncServer Request Response Status} (hq : s.Quiet) (hs : Step s action s')
    (hreg : action.registers) : ∃ tag, action = .register tag := by
  cases hs with
  | register _ _ _ _ => exact ⟨_, rfl⟩
  | activate hrun _ _ _ => exact absurd hrun (hq.handling _)
  | renew hrun _ _ => exact absurd hrun (hq.replying _)
  | emplace _ _ _ | accept _ _ _ _ | next _ _ _ | reply _ _ _ | erase _ | stream _ _ _
  | shutdown _ | queueShutdown _ | exit _ _ _ => exact hreg.elim

theorem Quiet.congr {s' : GrpcAsyncServer Request Response Status}
    (hrun : s'.runThread = s.runThread) (hqueue : s'.serverQueue = s.serverQueue) :
    s'.Quiet ↔ s.Quiet := by
  constructor
  · intro h
    exact ⟨hrun ▸ h.handling, hrun ▸ h.replying, hqueue ▸ h.queue⟩
  · intro h
    exact ⟨hrun ▸ h.handling, hrun ▸ h.replying, hqueue ▸ h.queue⟩

/-- A run thread that has no successful accept leaves it to the queue. -/
theorem quiet_iff_queue (phase : ServerPhase Request) (hrun : s.runThread = phase)
    (hhandling : ∀ a, phase ≠ .handling a true) (hreplying : ∀ a, phase ≠ .replying a) :
    s.Quiet ↔ ∀ a ∈ s.serverQueue, a.slot.request = none := by
  subst hrun
  exact ⟨Quiet.queue, fun h => ⟨hhandling, hreplying, h⟩⟩

/-- `Next` returns an accept to a run thread that waits. -/
theorem quiet_next {accept : Accept Request} {before after : List (Accept Request)}
    (hrun : s.runThread = .waiting)
    (hqueue : s.serverQueue = before ++ accept :: after) :
    Quiet { s with
      serverQueue := before ++ after
      runThread := .handling accept accept.slot.request.isSome } ↔ s.Quiet := by
  constructor
  · intro h
    refine ⟨fun b hb => ?_, fun b hb => ?_, ?_⟩
    · cases hrun.symm.trans hb
    · cases hrun.symm.trans hb
    · intro b hb
      rw [hqueue, List.mem_append, List.mem_cons] at hb
      rcases hb with hb | rfl | hb
      · exact h.queue b (List.mem_append_left _ hb)
      · cases hb : b.slot.request with
        | none => rfl
        | some request => exact absurd (by rw [hb]; rfl) (h.handling b)
      · exact h.queue b (List.mem_append_right _ hb)
  · intro h
    have hnone : accept.slot.request = none := by
      refine h.queue accept ?_
      rw [hqueue]
      exact List.mem_append_right _ List.mem_cons_self
    refine ⟨fun b hb => ?_, nofun, ?_⟩
    · rw [hnone] at hb
      cases hb
    · intro b hb
      refine h.queue b ?_
      rw [hqueue]
      rcases List.mem_append.mp hb with hb | hb
      · exact List.mem_append_left _ hb
      · exact List.mem_append_right _ (List.mem_cons_of_mem _ hb)

end GrpcAsyncServer

namespace HostedServer

open GrpcAsyncServer (Quiet quiet_iff_queue quiet_next)

variable {l l' : HostedServer Request Response Status} {a : Action Request Response Status}
  {s s' : GrpcAsyncServer Request Response Status}
  {action : GrpcAsyncServer.Action Request Response Status}
  {tr : List (HostedServer Request Response Status × Action Request Response Status)}

/-- An accept is registered on a queue that was shut down. -/
def Late (l : HostedServer Request Response Status) (a : Action Request Response Status) : Prop :=
  ∃ action, a = .server action ∧ action.registers ∧ l.server.queueShutdown = true

/-! ## The order of the destructor -/

structure Ordered (l : HostedServer Request Response Status) : Prop where
  destroying : l.server.queueShutdown = true → l.destroying = true
  shutdown : l.server.queueShutdown = true → l.server.shutdown = true
  exited : l.server.runThread = .exited →
    l.server.queueShutdown = true ∧ l.server.serverQueue = []

theorem Ordered.initial : (initial : HostedServer Request Response Status).Ordered where
  destroying := nofun
  shutdown := nofun
  exited := nofun

theorem Ordered.step (h : l.Ordered) (hs : Step l a l') : l'.Ordered := by
  cases hs with
  | finishCall _ => exact ⟨h.destroying, h.shutdown, h.exited⟩
  | destroy _ hs =>
      cases hs with
      | shutdown _ => exact ⟨fun _ => rfl, fun _ => rfl, h.exited⟩
  | server hs hadm =>
      cases hs with
      | emplace _ _ _ => exact ⟨h.destroying, h.shutdown, h.exited⟩
      | register _ _ _ _ =>
          refine ⟨h.destroying, h.shutdown, ?_⟩
          intro hexit
          have hd := h.destroying (h.exited hexit).1
          rw [hadm] at hd
          cases hd
      | accept hq _ _ _ =>
          refine ⟨h.destroying, h.shutdown, ?_⟩
          intro hexit
          have hnil := (h.exited hexit).2
          rw [hq] at hnil
          exact absurd hnil (List.append_ne_nil_of_right_ne_nil _ (List.cons_ne_nil _ _))
      | next _ _ _ | activate _ _ _ _ | reply _ _ _ | renew _ _ _ | erase _ =>
          exact ⟨h.destroying, h.shutdown, nofun⟩
      | stream _ _ _ => exact ⟨h.destroying, h.shutdown, h.exited⟩
      | shutdown _ => exact ⟨h.destroying, fun _ => rfl, h.exited⟩
      | queueShutdown hshut =>
          exact ⟨fun _ => hadm.1, fun _ => hshut, fun hexit => ⟨rfl, (h.exited hexit).2⟩⟩
      | exit hrun hq hnil => exact ⟨h.destroying, h.shutdown, fun _ => ⟨hq, hnil⟩⟩

theorem HostedReachable.ordered (hr : l.HostedReachable) : l.Ordered :=
  hr.invariant .initial fun _ h hs => h.step hs

/-- From the shutdown of the queue on, only a late registration makes a server
quiet or otherwise. -/
theorem Step.quiet_iff (ho : l.Ordered) (hs : Step l a l') (hdoc : Documented l a)
    (hshut : l.server.queueShutdown = true) (hlate : ¬ Late l a) :
    l'.server.Quiet ↔ l.server.Quiet := by
  cases hs with
  | finishCall _ => exact Iff.rfl
  | destroy hd hs => exact absurd (hd.symm.trans (ho.destroying hshut)) (by decide)
  | server hs hadm =>
      cases hs with
      | emplace _ _ _ | stream _ _ _ | shutdown _ | queueShutdown _ => exact Quiet.congr rfl rfl
      | register _ _ _ _ | activate _ _ _ _ | renew _ _ _ =>
          exact absurd ⟨_, rfl, trivial, hshut⟩ hlate
      | accept _ _ _ _ => exact absurd (hdoc.symm.trans (ho.shutdown hshut)) (by decide)
      | next hrun hqueue _ =>
          obtain ⟨rfl, -⟩ := hdoc
          exact quiet_next hrun hqueue
      | reply hrun _ _ =>
          refine iff_of_false (fun h => ?_) (fun h => ?_)
          · exact h.replying _ rfl
          · exact h.handling _ hrun
      | erase hrun =>
          exact (quiet_iff_queue .waiting rfl nofun nofun).trans
            (quiet_iff_queue (.handling _ false) hrun nofun nofun).symm
      | exit hrun _ _ =>
          exact (quiet_iff_queue .exited rfl nofun nofun).trans
            (quiet_iff_queue .waiting hrun nofun nofun).symm

/-- A quiet server whose queue is shut down registers nothing. -/
theorem not_late_of_quiet (ho : l.Ordered) (hs : Step l a l')
    (hq : l.server.queueShutdown = true → l.server.Quiet) : ¬ Late l a := by
  intro ⟨action, heq, hreg, hshut⟩
  subst heq
  cases hs with
  | server hs hadm =>
      obtain ⟨tag, rfl⟩ := (hq hshut).registers hs hreg
      exact absurd (hadm.symm.trans (ho.destroying hshut)) (by decide)

theorem Step.queueShutdown_eq (hs : Step l a l') (ha : a ≠ .server .queueShutdown) :
    l'.server.queueShutdown = l.server.queueShutdown := by
  cases hs with
  | finishCall _ => rfl
  | destroy _ hs =>
      cases hs with
      | shutdown _ => rfl
  | server hs _ =>
      cases hs with
      | queueShutdown _ => exact absurd rfl ha
      | emplace _ _ _ | register _ _ _ _ | accept _ _ _ _ | next _ _ _ | activate _ _ _ _
      | reply _ _ _ | renew _ _ _ | erase _ | stream _ _ _ | shutdown _ | exit _ _ _ => rfl

/-- The step that shuts the queue down does nothing else. -/
theorem Step.of_queueShutdown (hs : Step l (.server .queueShutdown) l') :
    l'.server.queueShutdown = true ∧ (l'.server.Quiet ↔ l.server.Quiet) := by
  cases hs with
  | server hs _ =>
      cases hs with
      | queueShutdown _ => exact ⟨rfl, Quiet.congr rfl rfl⟩

/-! ## Registrations after the shutdown -/

/-- The server is quiet when its queue is shut down. -/
def QuietAtShutdown
    (tr : List (HostedServer Request Response Status × Action Request Response Status)) : Prop :=
  ∀ p ∈ tr, p.2 = .server .queueShutdown → p.1.server.Quiet

/-- Shutting down the queue of a quiet server is what leaves it quiet. -/
theorem quiet_iff_guard (hr : Reachable (Restrict Step Documented) initial l)
    (hq : l.server.queueShutdown = true → l.server.Quiet) (hs : Restrict Step Documented l a l') :
    (l'.server.queueShutdown = true → l'.server.Quiet) ↔
      (a = .server .queueShutdown → l.server.Quiet) := by
  have ho := HostedReachable.ordered hr.of_restrict
  obtain ⟨hs, hdoc⟩ := hs
  by_cases ha : a = .server .queueShutdown
  · subst ha
    obtain ⟨hshut, hiff⟩ := hs.of_queueShutdown
    rw [forall_prop_of_true hshut, forall_prop_of_true rfl]
    exact hiff
  · refine iff_of_true ?_ fun heq => absurd heq ha
    intro hshut
    rw [hs.queueShutdown_eq ha] at hshut
    exact (hs.quiet_iff ho hdoc hshut (not_late_of_quiet ho hs hq)).mpr (hq hshut)

/-- A step that registers nothing late does not make a server quiet. -/
theorem quiet_of_step (hr : Reachable (Restrict Step Documented) initial l)
    (hs : Restrict Step Documented l a l') (hlate : ¬ Late l a)
    (hq : l'.server.queueShutdown = true → l'.server.Quiet)
    (hshut : l.server.queueShutdown = true) : l.server.Quiet := by
  have ho := HostedReachable.ordered hr.of_restrict
  obtain ⟨hs, hdoc⟩ := hs
  refine (hs.quiet_iff ho hdoc hshut hlate).mp (hq ?_)
  by_cases ha : a = .server .queueShutdown
  · subst ha
    exact hs.of_queueShutdown.1
  · rw [hs.queueShutdown_eq ha]
    exact hshut

theorem Ordered.quiet_of_exited (ho : l.Ordered) (hexit : l.server.runThread = .exited) :
    l.server.Quiet := by
  rw [quiet_iff_queue .exited hexit nofun nofun, (ho.exited hexit).2]
  exact List.forall_mem_nil _

/-- No accept is registered on the queue after its shutdown if the server is
quiet then, and in a run up to the end of the run thread only if it is. -/
theorem notLate_iff_quiet (run : DocumentedRun tr l) :
    (QuietAtShutdown tr → ∀ p ∈ tr, ¬ Late p.1 p.2) ∧
      (l.server.runThread = .exited →
        ((∀ p ∈ tr, ¬ Late p.1 p.2) ↔ QuietAtShutdown tr)) := by
  have havoids : (QuietAtShutdown tr → ∀ p ∈ tr, ¬ Late p.1 p.2) ∧
      ((l.server.queueShutdown = true → l.server.Quiet) →
        ((∀ p ∈ tr, ¬ Late p.1 p.2) ↔ QuietAtShutdown tr)) :=
    run.avoids_iff nofun quiet_iff_guard
      (fun hr hq hs => not_late_of_quiet (HostedReachable.ordered hr.of_restrict) hs.1 hq)
      quiet_of_step
  refine ⟨havoids.1, fun hexit => havoids.2 fun _ => ?_⟩
  exact (HostedReachable.ordered run.reachable.of_restrict).quiet_of_exited hexit

/-- A call is answered and finished, and the destructor goes on before its
handler does. -/
theorem not_notLate :
    ¬ ∀ tr (l : HostedServer Nat Nat Nat), DocumentedRun tr l → ∀ p ∈ tr, ¬ Late p.1 p.2 := by
  intro hall
  have r : DocumentedRun [] (initial : HostedServer Nat Nat Nat) := .start
  have r := r.step ⟨.server (.emplace nofun (AList.notMem_empty 1)
    (@RpcHandler.New.nonStream _ _ _ fun request => (request.getD 0, 0))) rfl, trivial⟩
  have r := r.step ⟨.server (.register List.mem_cons_self rfl
    (@RpcHandler.Activate.nonStream _ _ _ _ 11 rfl) rfl) rfl, trivial⟩
  have r := r.step ⟨.server (@GrpcAsyncServer.Step.accept _ _ _ _ ⟨1, ⟨11, 0, none⟩⟩ [] [] 7 _ _
    rfl rfl rfl rfl) trivial, rfl⟩
  have r := r.step ⟨.server (@GrpcAsyncServer.Step.next _ _ _ _ ⟨1, ⟨11, 0, some 7⟩⟩ [] [] true
    rfl rfl fun _ => rfl) trivial, rfl, nofun⟩
  have r := r.step ⟨.server (.reply rfl rfl nofun) trivial, trivial⟩
  have r := r.step ⟨.finishCall rfl, trivial⟩
  have r := r.step ⟨.destroy rfl (.shutdown rfl), trivial⟩
  have r := r.step ⟨.server (.queueShutdown rfl) ⟨rfl, rfl⟩, rfl⟩
  have r := r.step
    ⟨.server (@GrpcAsyncServer.Step.renew _ _ _ _ _ _ 12 rfl rfl nofun) trivial, trivial⟩
  exact hall _ _ r _ List.mem_cons_self ⟨_, rfl, trivial, rfl⟩

/-- A call is answered and finished, and its handler goes on before the destructor does.  The
queue is shut down while the run thread has a failed accept in hand. -/
theorem notLate_iff_quiet_answered :
    ∃ (tr : List (HostedServer Nat Nat Nat × Action Nat Nat Nat)) (l : HostedServer Nat Nat Nat),
      DocumentedRun tr l ∧ (∃ p ∈ tr, p.2 = .server .reply) ∧ (∃ p ∈ tr, p.2 = .finishCall) ∧
        l.server.runThread = .exited ∧ ∀ p ∈ tr, ¬ Late p.1 p.2 := by
  have r : DocumentedRun [] (initial : HostedServer Nat Nat Nat) := .start
  have r := r.step ⟨.server (.emplace nofun (AList.notMem_empty 1)
    (@RpcHandler.New.nonStream _ _ _ fun request => (request.getD 0, 0))) rfl, trivial⟩
  have r := r.step ⟨.server (.register List.mem_cons_self rfl
    (@RpcHandler.Activate.nonStream _ _ _ _ 11 rfl) rfl) rfl, trivial⟩
  have r := r.step ⟨.server (@GrpcAsyncServer.Step.accept _ _ _ _ ⟨1, ⟨11, 0, none⟩⟩ [] [] 7 _ _
    rfl rfl rfl rfl) trivial, rfl⟩
  have r := r.step ⟨.server (@GrpcAsyncServer.Step.next _ _ _ _ ⟨1, ⟨11, 0, some 7⟩⟩ [] [] true
    rfl rfl fun _ => rfl) trivial, rfl, nofun⟩
  have r := r.step ⟨.server (.reply rfl rfl nofun) trivial, trivial⟩
  have r := r.step ⟨.finishCall rfl, trivial⟩
  have r := r.step
    ⟨.server (@GrpcAsyncServer.Step.renew _ _ _ _ _ _ 12 rfl rfl nofun) trivial, trivial⟩
  have r := r.step ⟨.destroy rfl (.shutdown rfl), trivial⟩
  have r := r.step ⟨.server (@GrpcAsyncServer.Step.next _ _ _ _ ⟨1, ⟨12, 1, none⟩⟩ [] [] false
    rfl rfl nofun) trivial, rfl, fun _ => rfl⟩
  have r := r.step ⟨.server (.queueShutdown rfl) ⟨rfl, rfl⟩, rfl⟩
  have r := r.step ⟨.server (.erase rfl) trivial, trivial⟩
  have r := r.step ⟨.server (.exit rfl rfl rfl) trivial, trivial⟩
  refine ⟨_, _, r, ?_, ?_, rfl, (notLate_iff_quiet r).1 ?_⟩
  · simp
  · simp
  · simp only [QuietAtShutdown, List.forall_mem_cons]
    exact ⟨nofun, nofun, fun _ => ⟨nofun, nofun, nofun⟩, nofun, nofun, nofun, nofun, nofun, nofun,
      nofun, nofun, nofun, List.forall_mem_nil _⟩

end HostedServer

end Grpcw.Server
