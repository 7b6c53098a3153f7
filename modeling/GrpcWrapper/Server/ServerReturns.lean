import GrpcWrapper.Library.Progress
import GrpcWrapper.Server.AcceptDiscipline
import GrpcWrapper.Server.Teardown

/-!
# The destructor of a server returns

From the shutdown of the server on, gRPC accepts no calls.  The accepts that
hold one are handled, which registers an accept that will fail, and a failed
accept erases its handler.  So what the run thread has to do grows less with each
of its steps, whatever the stream handlers and their writers do meanwhile.

The destructor waits for the clients' calls, shuts the queue down and joins the
run thread, which then has erased every handler (`destructor_returns`).  The one
other way this can end is a queue that is shut down under a run thread with a
successful accept, which gRPC aborts.
-/

namespace Grpcw.Server

open Transition

variable {Request Response Status : Type}

/-- The connection that `activate_next` adds waits for a call. -/
theorem RpcHandler.Activate.slot_request {handler handler' : RpcHandler Request Response Status}
    {slot : Slot Request} (hact : handler.Activate handler') (hslot : handler'.slot = some slot) :
    slot.request = none := by
  cases hact with
  | stream _ _ =>
      rw [RpcHandler.slot, StreamRpcHandler.activateNext_next] at hslot
      cases hslot
      rfl
  | nonStream _ =>
      cases hslot
      rfl

/-- How many steps the run thread is from its end, with nothing in the queue. -/
def ServerPhase.toGo : ServerPhase Request → Nat
  | .waiting => 1
  | .handling _ true => 5
  | .handling _ false => 2
  | .replying _ => 4
  | .exited => 0

namespace GrpcAsyncServer

/-- How many steps the run thread is from its end.  An accept that holds a call is replaced by
one that does not. -/
def toGo (s : GrpcAsyncServer Request Response Status) : Nat :=
  s.runThread.toGo + 2 * s.serverQueue.length +
    3 * s.serverQueue.countP fun a => a.slot.request.isSome

/-- The steps of the run thread. -/
def Action.OnRunThread : Action Request Response Status → Prop
  | .next _ _ | .activate | .reply | .renew | .erase | .exit => True
  | _ => False

variable {s s' : GrpcAsyncServer Request Response Status} {action : Action Request Response Status}

/-- `Next` returns an accept. -/
theorem toGo_next {accept : Accept Request} {before after : List (Accept Request)}
    (hrun : s.runThread = .waiting) (hqueue : s.serverQueue = before ++ accept :: after) :
    toGo { s with
      serverQueue := before ++ after
      runThread := .handling accept accept.slot.request.isSome } < s.toGo := by
  simp only [toGo, hqueue, hrun, List.length_append, List.length_cons, List.countP_append,
    List.countP_cons]
  cases accept.slot.request.isSome with
  | true =>
      simp only [ServerPhase.toGo, if_true]
      omega
  | false =>
      simp only [ServerPhase.toGo, Bool.false_eq_true, if_false]
      omega

/-- The run thread goes on without a new accept. -/
theorem toGo_phase (hqueue : s'.serverQueue = s.serverQueue)
    (hlt : s'.runThread.toGo < s.runThread.toGo) : s'.toGo < s.toGo := by
  simp only [toGo, hqueue]
  omega

/-- An accept is handled by registering the next one. -/
theorem toGo_request {a : Accept Request} (hqueue : s'.serverQueue = s.serverQueue ++ [a])
    (hnone : a.slot.request = none) (hlt : s'.runThread.toGo + 2 < s.runThread.toGo) :
    s'.toGo < s.toGo := by
  simp only [toGo, hqueue, List.length_append, List.countP_append, List.countP_singleton, hnone,
    Option.isSome_none, Bool.false_eq_true, if_false, List.length_singleton]
  omega

theorem Step.toGo_lower (hs : Step s action s') (ha : action.OnRunThread)
    (hdoc : ∀ accept callOk, action = .next accept callOk →
      callOk = accept.slot.request.isSome) :
    s'.toGo < s.toGo ∧ s'.queueShutdown = s.queueShutdown := by
  cases hs with
  | next hrun hqueue _ =>
      obtain rfl := hdoc _ _ rfl
      exact ⟨toGo_next hrun hqueue, rfl⟩
  | activate hrun _ hact hslot =>
      refine ⟨toGo_request rfl (hact.slot_request hslot) ?_, rfl⟩
      rw [hrun]
      exact (by decide : 3 < 5)
  | reply hrun _ _ =>
      refine ⟨toGo_phase rfl ?_, rfl⟩
      rw [hrun]
      exact (by decide : 4 < 5)
  | renew hrun _ _ =>
      refine ⟨toGo_request rfl rfl ?_, rfl⟩
      rw [hrun]
      exact (by decide : 3 < 4)
  | erase hrun =>
      refine ⟨toGo_phase rfl ?_, rfl⟩
      rw [hrun]
      exact (by decide : 1 < 2)
  | exit hrun _ _ =>
      refine ⟨toGo_phase rfl ?_, rfl⟩
      rw [hrun]
      exact (by decide : 0 < 1)
  | emplace _ _ _ | register _ _ _ _ | accept _ _ _ _ | stream _ _ _ | shutdown _
  | queueShutdown _ => exact ha.elim

end GrpcAsyncServer

namespace HostedServer

open GrpcAsyncServer (Quiet)

variable {l l' : HostedServer Request Response Status} {a : Action Request Response Status}

/-- The steps that the destructor waits for: its own, those of the run thread, and the ends of
the clients' calls. -/
def Action.Closes : Action Request Response Status → Prop
  | .finishCall => True
  | .server .queueShutdown => True
  | .server action => action.OnRunThread
  | .destroy => False

/-- The run thread can be joined. -/
structure Ended (l : HostedServer Request Response Status) : Prop where
  exited : l.server.runThread = .exited
  /-- Every handler was destroyed. -/
  handlers : l.server.rpcHandlers = ∅
  calls : l.calls = 0

/-- The queue was shut down while the run thread had an accept to register. -/
def Broken (l : HostedServer Request Response Status) : Prop :=
  l.server.queueShutdown = true ∧ ¬ l.server.Quiet

/-- A bound on the steps that the destructor waits for. -/
def toGo (l : HostedServer Request Response Status) : Nat :=
  l.calls + (if l.server.queueShutdown then 0 else 1) + l.server.toGo

/-! ## Closing -/

/-- What the destructor has seen to. -/
structure Closing (l : HostedServer Request Response Status) : Prop where
  shutdown : l.destroying = true → l.server.shutdown = true
  registering : l.destroying = true → l.server.registering = []
  calls : l.server.queueShutdown = true → l.calls = 0

theorem Closing.initial : (initial : HostedServer Request Response Status).Closing where
  shutdown hd := absurd hd Bool.false_ne_true
  registering _ := rfl
  calls _ := rfl

/-- Steps that are taken before the destructor begins. -/
theorem Closing.before (h : l.Closing) (hd : l.destroying = false)
    (hd' : l'.destroying = l.destroying)
    (hq : l'.server.queueShutdown = l.server.queueShutdown) (hcalls : l'.calls = l.calls) :
    l'.Closing where
  shutdown hdestroying := absurd (hdestroying.symm.trans (hd'.trans hd)) Bool.false_ne_true.symm
  registering hdestroying := absurd (hdestroying.symm.trans (hd'.trans hd)) Bool.false_ne_true.symm
  calls hshut := hcalls.trans (h.calls (hq ▸ hshut))

theorem Closing.step (ho : l.Ordered) (h : l.Closing) (hs : Restrict Step Documented l a l') :
    l'.Closing := by
  obtain ⟨hs, hdoc⟩ := hs
  cases hs with
  | @finishCall n hcalls =>
      refine ⟨h.shutdown, h.registering, fun hshut => ?_⟩
      exact absurd ((h.calls hshut).symm.trans hcalls) (Nat.succ_ne_zero n).symm
  | destroy hd hs =>
      cases hs with
      | shutdown hnil =>
          refine ⟨fun _ => rfl, fun _ => hnil, fun hshut => ?_⟩
          exact absurd ((ho.destroying hshut).symm.trans hd) Bool.false_ne_true.symm
  | server hs hadm =>
      cases hs with
      | emplace _ _ _ | register _ _ _ _ | shutdown _ => exact h.before hadm rfl rfl rfl
      | accept _ _ _ _ =>
          refine ⟨h.shutdown, h.registering, fun hshut => ?_⟩
          exact absurd ((ho.shutdown hshut).symm.trans hdoc) Bool.false_ne_true.symm
      | next _ _ _ | activate _ _ _ _ | reply _ _ _ | renew _ _ _ | erase _ | stream _ _ _
      | exit _ _ _ => exact ⟨h.shutdown, h.registering, h.calls⟩
      | queueShutdown _ => exact ⟨h.shutdown, h.registering, fun _ => hdoc⟩

/-- The states of a server while it is destroyed, as gRPC documents its part. -/
structure Destroying (l : HostedServer Request Response Status) : Prop where
  reachable : Reachable (Restrict Step Documented) initial l
  destroying : l.destroying = true

theorem closing_of_reachable (hr : Reachable (Restrict Step Documented) initial l) :
    l.Closing :=
  hr.invariant .initial fun hr h hs =>
    h.step (HostedReachable.ordered hr.of_restrict) hs

/-! ## Each step -/

theorem Destroying.step (h : l.Destroying) (hs : Restrict Step Documented l a l') :
    l'.Destroying := by
  refine ⟨h.reachable.tail hs, ?_⟩
  obtain ⟨hs, -⟩ := hs
  cases hs with
  | finishCall _ | server _ _ => exact h.destroying
  | destroy hd _ => rfl

/-- A step of the run thread, in a server that is closed from outside. -/
theorem toGo_server {s : GrpcAsyncServer Request Response Status} {streams : List Addr} {n : Nat}
    (hn : n = l.calls) (h : s.toGo < l.server.toGo ∧ s.queueShutdown = l.server.queueShutdown) :
    toGo { l with server := s, streams := streams, calls := n } < l.toGo := by
  simp only [toGo, h.2, hn]
  exact Nat.add_lt_add_left h.1 _

theorem Step.toGo_lower (hs : Step l a l') (hdoc : Documented l a) (ha : a.Closes) :
    l'.toGo < l.toGo := by
  cases hs with
  | finishCall hcalls =>
      simp only [toGo, hcalls]
      omega
  | destroy _ _ => exact ha.elim
  | @server action _ hs hadm =>
      cases action with
      | next accept callOk =>
          refine toGo_server rfl (hs.toGo_lower trivial ?_)
          intro accept' callOk' heq
          cases heq
          exact hdoc.1
      | activate | reply | renew | erase | exit =>
          refine toGo_server rfl (hs.toGo_lower trivial ?_)
          intro accept callOk heq
          cases heq
      | queueShutdown =>
          cases hs with
          | queueShutdown _ =>
              simp only [toGo, hadm.2, GrpcAsyncServer.Action.accepted, if_true]
              exact Nat.add_lt_add_right (Nat.lt_succ_self _) _
      | emplace _ | register _ | accept _ _ | stream _ _ | shutdown => exact ha.elim

/-- Nothing is registered while a server is destroyed, and no call is accepted.  What the stream
handlers do is nothing to the run thread. -/
theorem Destroying.keep (h : l.Destroying) (ha : ¬ a.Closes)
    (hs : Restrict Step Documented l a l') : l'.toGo = l.toGo := by
  have hc := closing_of_reachable h.reachable
  obtain ⟨hs, hdoc⟩ := hs
  cases hs with
  | finishCall _ => exact absurd trivial ha
  | destroy hd _ => exact absurd (h.destroying.symm.trans hd) Bool.false_ne_true.symm
  | server hs hadm =>
      cases hs with
      | emplace _ _ _ | register _ _ _ _ | shutdown _ =>
          exact absurd (h.destroying.symm.trans hadm) Bool.false_ne_true.symm
      | accept _ _ _ _ =>
          exact absurd ((hc.shutdown h.destroying).symm.trans hdoc) Bool.false_ne_true.symm
      | stream _ _ _ => rfl
      | next _ _ _ | activate _ _ _ _ | reply _ _ _ | renew _ _ _ | erase _ | queueShutdown _
      | exit _ _ _ => exact absurd trivial ha

/-- A run thread that has exited has erased every handler. -/
theorem Destroying.ended (h : l.Destroying) (hexit : l.server.runThread = .exited) :
    l.Ended := by
  have hr := h.reachable.of_restrict
  have hc := closing_of_reachable h.reachable
  obtain ⟨hshut, hnil⟩ := (HostedReachable.ordered hr).exited hexit
  have haccepts : l.server.accepts = [] := by
    rw [GrpcAsyncServer.accepts, hexit, hnil]
    rfl
  have hi := GrpcAsyncServer.ServerReachable.inv (HostedReachable.server hr)
  exact ⟨hexit, hi.acceptDiscipline.emptied haccepts (hc.registering h.destroying),
    hc.calls hshut⟩

/-- On a quiet server whose queue was shut down, the run thread goes on. -/
theorem Destroying.run_thread_live (h : l.Destroying) (hshut : l.server.queueShutdown = true)
    (hq : l.server.Quiet) (hnot : l.server.runThread ≠ .exited) :
    ∃ a l', a.Closes ∧ Restrict Step Documented l a l' := by
  cases hrun : l.server.runThread with
  | waiting =>
      cases hqueue : l.server.serverQueue with
      | nil => exact ⟨.server .exit, _, trivial, .server (.exit hrun hshut hqueue) trivial, trivial⟩
      | cons accept rest =>
          have hnone : accept.slot.request.isSome = false := by
            rw [hq.queue accept (hqueue ▸ List.mem_cons_self)]
            rfl
          have hshutdown := (closing_of_reachable h.reachable).shutdown h.destroying
          have hstep : GrpcAsyncServer.Step l.server (.next accept false) _ :=
            @GrpcAsyncServer.Step.next _ _ _ _ _ [] rest _ hrun hqueue fun h => absurd h (by decide)
          exact ⟨.server (.next accept false), _, trivial, .server hstep trivial, hnone.symm,
            fun _ => hshutdown⟩
  | handling accept callOk =>
      cases callOk with
      | true => exact absurd hrun (hq.handling accept)
      | false => exact ⟨.server .erase, _, trivial, .server (.erase hrun) trivial, trivial⟩
  | replying accept => exact absurd hrun (hq.replying accept)
  | exited => exact absurd hrun hnot

theorem Destroying.live (h : l.Destroying) (hgoal : ¬ (l.Ended ∨ l.Broken)) :
    ∃ a l', a.Closes ∧ Restrict Step Documented l a l' := by
  cases hcalls : l.calls with
  | succ n => exact ⟨.finishCall, _, trivial, .finishCall hcalls, trivial⟩
  | zero =>
      cases hshut : l.server.queueShutdown with
      | false =>
          have hshutdown := (closing_of_reachable h.reachable).shutdown h.destroying
          exact ⟨.server .queueShutdown, _, trivial,
            .server (.queueShutdown hshutdown) ⟨h.destroying, hshut⟩, hcalls⟩
      | true =>
          have hq : l.server.Quiet := by
            by_contra hnot
            exact hgoal (Or.inr ⟨hshut, hnot⟩)
          exact h.run_thread_live hshut hq fun hexit => hgoal (Or.inl (h.ended hexit))

/-- The destructor returns, and every handler is destroyed when it does, unless the queue is
shut down while the run thread has an accept to register. -/
theorem destructor_returns (hr : Reachable (Restrict Step Documented) initial l)
    (hd : l.destroying = true) :
    Advances (Restrict Step Documented) (fun _ a => a.Closes) (fun _ _ => 0)
      (fun l => l.Ended ∨ l.Broken) l.toGo l := by
  refine advances_of_measure (I := Destroying) toGo ?_ ?_ Destroying.live ⟨hr, hd⟩
  · intro l a l' h ha hs
    exact Or.inr ⟨h.step hs, hs.1.toGo_lower hs.2 ha⟩
  · intro l a l' h ha hs
    exact Or.inr ⟨h.step hs, (h.keep ha hs).le⟩

/-- A server with a stream that has taken a call begins to be destroyed. -/
theorem destructor_returns_streaming : ∃ l : HostedServer Nat Nat Nat,
    l.calls = 1 ∧ (1 : Addr) ∈ l.server.rpcHandlers ∧
      Advances (Restrict Step Documented) (fun _ a => a.Closes) (fun _ _ => 0)
        (fun l => l.Ended ∨ l.Broken) 8 l := by
  have r : DocumentedRun [] (initial : HostedServer Nat Nat Nat) := .start
  have r := r.step ⟨.server (.emplace (by intro a ha; cases ha)
    (AList.notMem_empty 1) .stream) rfl, trivial⟩
  have r := r.step ⟨.server (.register List.mem_cons_self rfl
    (@RpcHandler.Activate.stream _ _ _ _ 11 101 rfl (AList.notMem_empty 101)) rfl) rfl, trivial⟩
  have r := r.step ⟨.server (@GrpcAsyncServer.Step.accept _ _ _ _ ⟨1, ⟨11, 0, none⟩⟩ [] [] 7 _ _
    rfl rfl rfl rfl) trivial, rfl⟩
  have r := r.step ⟨.destroy rfl (.shutdown rfl), trivial⟩
  exact ⟨_, rfl, by decide, destructor_returns r.reachable rfl⟩

end HostedServer

end Grpcw.Server
