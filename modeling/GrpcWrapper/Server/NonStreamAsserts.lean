import GrpcWrapper.Server.NonStreamReplies

/-!
# The assertions of a non-streaming handler

That `Next` returns an event, that its tag is the address of `response`, and that
the destructor meets no event, follows from how the queue is used.  `call_ok` is
another matter: gRPC reports with it whether the answer was sent, and the client
may have gone before that.
-/

namespace Grpcw.Server

open Transition

variable {Request Response Status : Type}

namespace NonStreamActivation

/-- No assertion has failed. -/
def AssertionsHold (h : NonStreamActivation Request Response Status) : Prop :=
  ∀ assertion, .asserted assertion false ∉ h.log

/-- A `Finish` comes back sent. -/
def Sent (_ : NonStreamActivation Request Response Status) : Action Request Response Status → Prop
  | .replied _ callOk => callOk = true
  | _ => True

variable {h h' : NonStreamActivation Request Response Status} {a : Action Request Response Status}
  {tr : List (NonStreamActivation Request Response Status × Action Request Response Status)}
  {e : ReplyEvent Request Response Status}

/-- A step that asserts nothing. -/
theorem AssertionsHold.keep (hok : h.AssertionsHold) (hlog : h'.log = e :: h.log)
    (he : ∀ assertion, e ≠ .asserted assertion false) : h'.AssertionsHold := by
  intro assertion hmem
  rw [hlog] at hmem
  rcases List.mem_cons.mp hmem with heq | hmem
  · exact he assertion heq.symm
  · exact hok assertion hmem

/-- The assertions after the wait hold if the answer was sent. -/
theorem assertionsHold_replied {response : Addr} {op : PendingReply Response Status}
    {before after : List (PendingReply Response Status)} {callOk : Bool} (hi : h.Inv)
    (hok : h.AssertionsHold) (hphase : h.phase = .waiting response)
    (hq : h.queue = before ++ op :: after) :
    (h.replied response op callOk (before ++ after)).AssertionsHold ↔ callOk = true := by
  obtain ⟨htag, -, -⟩ := hi.replied_op hphase hq
  constructor
  · intro hafter
    have hcall := hafter .callOk
    cases callOk with
    | true => rfl
    | false => exact absurd (List.mem_cons_of_mem _ List.mem_cons_self) hcall
  · rintro rfl assertion hmem
    simp only [replied, htag, decide_true, List.mem_cons, ReplyEvent.asserted.injEq,
      Bool.false_eq_true, and_false, reduceCtorEq, false_or] at hmem
    exact hok assertion hmem

theorem assertionsHold_step (hi : h.Inv) (hok : h.AssertionsHold) (hs : Step h a h') :
    h'.AssertionsHold ↔ h.Sent a := by
  cases hs with
  | replied hphase hq => exact assertionsHold_replied hi hok hphase hq
  | @accept _ serial request _ hc =>
      have hlog : (h.accept request).log = .accepted serial request :: h.log := by
        rw [accept, hc]
      exact iff_of_true (hok.keep hlog (by simp)) trivial
  | call _ _ => exact iff_of_true (hok.keep (e := .called _ _ _) rfl (by simp)) trivial
  | finish _ _ => exact iff_of_true (hok.keep (e := .finish _) rfl (by simp)) trivial
  | replace _ _ => exact iff_of_true (hok.keep (e := .replaced _) rfl (by simp)) trivial
  | request _ _ => exact iff_of_true (hok.keep (e := .registered _) rfl (by simp)) trivial
  | activate _ _ | destroy _ | drained _ _ => exact iff_of_true hok trivial
  | unreplied hphase _ hq =>
      obtain ⟨reply, hqueue⟩ := hi.queue_waiting hphase
      exact absurd (hqueue.symm.trans hq) (List.cons_ne_nil _ _)
  | drain hphase hq =>
      have hqueue := hi.queue_eq_nil fun hr => hr.2.1 hphase
      exact absurd (hq.symm.trans hqueue) (by simp)

/-- No assertion fails in a run, exactly when each `Finish` comes back sent. -/
theorem assertionsHold_iff (run : Run Step new tr h) :
    (∀ s ∈ visited tr h, s.AssertionsHold) ↔ ∀ p ∈ tr, p.1.Sent p.2 :=
  run.always_iff (P := AssertionsHold) (fun _ => List.not_mem_nil)
    fun hr hok hs => assertionsHold_step (ActivationReachable.inv hr) hok hs

/-- The client cancels its call before the answer is sent. -/
theorem cancelled_run : ∃ tr, ∃ h : NonStreamActivation Nat Nat Nat,
    Run Step new tr h ∧ .asserted .callOk false ∈ h.log := by
  have r : Run Step (new : NonStreamActivation Nat Nat Nat) [] new := .start
  have r := r.step (a := .activate 500) (.activate rfl (Or.inl rfl))
  have r := r.step (a := .replace 1) (.replace rfl fun _ heq => by cases heq)
  have r := r.step (.request rfl rfl)
  have r := r.step (a := .accept 7) (.accept rfl rfl)
  have r := r.step (a := .activate 500) (.activate rfl (Or.inr ⟨rfl, fun heq => by cases heq⟩))
  have r := r.step (a := .call (14, 0)) (.call rfl rfl)
  have r := r.step (.finish rfl rfl)
  have r := r.step (@Step.replied _ _ _ _ _ _ [] [] false rfl rfl)
  exact ⟨_, _, r, List.mem_cons_of_mem _ List.mem_cons_self⟩

theorem not_assertionsHold :
    ¬ ∀ tr, ∀ h : NonStreamActivation Nat Nat Nat, Run Step new tr h →
      ∀ s ∈ visited tr h, s.AssertionsHold := by
  intro hall
  obtain ⟨tr, h, run, hmem⟩ := cancelled_run
  exact hall tr h run h List.mem_cons_self .callOk hmem

theorem assertionsHold_iff_cancelled : ∃ tr, ∃ h : NonStreamActivation Nat Nat Nat,
    Run Step new tr h ∧ .asserted .callOk false ∈ h.log ∧ ∃ p ∈ tr, ¬ p.1.Sent p.2 := by
  obtain ⟨tr, h, run, hmem⟩ := cancelled_run
  refine ⟨tr, h, run, hmem, ?_⟩
  by_contra hsent
  have hall := (assertionsHold_iff run).mpr fun p hp => by_contra fun h => hsent ⟨p, hp, h⟩
  exact hall h List.mem_cons_self .callOk hmem

end NonStreamActivation

end Grpcw.Server
