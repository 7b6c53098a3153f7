import GrpcWrapper.Library.Monitor
import GrpcWrapper.Library.Progress

/-!
# A monitor with one caller

When one thread makes all the calls of a monitor, a wake-up that its call drops
is one that nobody waits for.  What a call waits for is the work of another
thread, the *worker*.  If the worker can go on while the data is not ready, its
sections use up the work, and it notifies when it has made the data ready, then
every call comes to its end, its own notification with it
(`Worker.sole_caller_returns`).  Other threads may
add to the work meanwhile, and waits may end without a notification.  Both only
add to the bound.
-/

open Transition

namespace Phase

variable {κ : Type*}

/-- Between the beginning of a call and its body. -/
def InCall (p : Phase κ) : Prop := ∃ c, p.Arriving c ∨ p = .parked c

/-- A bound on the steps of a call, beside those that it waits for. -/
def weight : Phase κ → ℕ
  | .entering _ | .woken _ => 2
  | .parked _ => 1
  | .signalling => 2
  | .idle => 0

@[simp] theorem weight_entering (c : κ) : (entering c).weight = 2 := rfl

@[simp] theorem weight_parked (c : κ) : (parked c).weight = 1 := rfl

@[simp] theorem weight_woken (c : κ) : (woken c).weight = 2 := rfl

@[simp] theorem weight_signalling : (signalling : Phase κ).weight = 2 := rfl

@[simp] theorem weight_idle : (idle : Phase κ).weight = 0 := rfl

theorem InCall.ne_idle {p : Phase κ} (h : p.InCall) : p ≠ .idle := by
  rintro rfl
  obtain ⟨c, (heq | heq) | heq⟩ := h <;> cases heq

theorem InCall.ne_signalling {p : Phase κ} (h : p.InCall) : p ≠ .signalling := by
  rintro rfl
  obtain ⟨c, (heq | heq) | heq⟩ := h <;> cases heq

theorem weight_of_arriving {p : Phase κ} {c : κ} (h : p.Arriving c) : p.weight = 2 := by
  rcases h with rfl | rfl <;> rfl

theorem weight_after (notify : Bool) : (after notify : Phase κ).weight ≤ 2 := by
  cases notify with
  | true => exact Nat.le_refl 2
  | false => exact Nat.zero_le 2

end Phase

namespace Monitor

variable {τ κ σ : Type*} [DecidableEq τ]

/-- The calls are those of `t₀`. -/
def CalledBy (t₀ : τ) (_ : Config τ κ σ) : Label τ κ → Prop
  | .call t _ => t = t₀
  | _ => True

/-- What `w` does for the calls: it notifies, and it gets the data ready. -/
structure Worker (m : Monitor τ κ σ) (w : τ) (work : σ → ℕ) (I : σ → Prop) : Prop where
  body : ∀ {c s s' notify}, I s → m.ready s → m.body c s s' notify → I s'
  other : ∀ {t s s' notify}, I s → m.other t s s' notify → I s'
  notifies : ∀ {t s s' notify}, m.other t s s' notify → m.ready s' → notify = true ∨ m.ready s
  /-- Nobody else notifies. -/
  quiet : ∀ {t s s' notify}, m.other t s s' notify → t ≠ w → notify = false
  lower : ∀ {s s' notify}, I s → m.other w s s' notify → work s' < work s
  grows : ∀ {t s s' notify}, m.other t s s' notify → t ≠ w → work s' ≤ work s + 1
  live : ∀ {s}, I s → ¬ m.ready s → ∃ s' notify, m.other w s s' notify
  passes : ∀ {s} (c : κ), I s → m.ready s → ∃ s' notify, m.body c s s' notify

/-- The steps that a call of `t₀` waits for: its own, and until it has passed those of the
worker. -/
inductive HelpsCall (t₀ w : τ) (cfg : Config τ κ σ) : Label τ κ → Prop where
  | enter : HelpsCall t₀ w cfg (.enter t₀)
  | leave : HelpsCall t₀ w cfg (.notify t₀)
  | work : (cfg.phase t₀).InCall → HelpsCall t₀ w cfg (.other w)
  | notify : (cfg.phase t₀).InCall → HelpsCall t₀ w cfg (.notify w)

/-- What other steps set a call back. -/
def setback (w : τ) : Label τ κ → ℕ
  | .other t => if t = w then 0 else 3
  | .spurious _ => 1
  | _ => 0

/-- A bound on the steps that a call of `t₀` waits for.  Once it has passed, all that is
left is its notification. -/
def callToGo (t₀ w : τ) (work : σ → ℕ) (cfg : Config τ κ σ) : ℕ :=
  match cfg.phase t₀ with
  | .idle => 0
  | .signalling => 1
  | p => 3 * work cfg.data + (cfg.phase w).weight + p.weight

/-- Where the threads are when `t₀` makes all the calls. -/
structure Sole (m : Monitor τ κ σ) (t₀ w : τ) (I : σ → Prop) (cfg : Config τ κ σ) : Prop where
  data : I cfg.data
  others : ∀ t, t ≠ t₀ → cfg.phase t = .idle ∨ t = w ∧ cfg.phase t = .signalling
  /-- A caller that could go on is about to be notified. -/
  notified : m.ready cfg.data → (cfg.phase t₀).Parked → cfg.phase w = .signalling

variable {m : Monitor τ κ σ} {t₀ w : τ} {work : σ → ℕ} {I : σ → Prop} {cfg cfg' : Config τ κ σ}
  {l : Label τ κ}

omit [DecidableEq τ] in
theorem callToGo_of_inCall (h : (cfg.phase t₀).InCall) :
    callToGo t₀ w work cfg =
      3 * work cfg.data + (cfg.phase w).weight + (cfg.phase t₀).weight := by
  rw [callToGo]
  split
  · exact absurd ‹_› h.ne_idle
  · exact absurd ‹_› h.ne_signalling
  · rfl

omit [DecidableEq τ] in
theorem callToGo_of_passed (h : cfg.phase t₀ = .signalling) : callToGo t₀ w work cfg = 1 := by
  rw [callToGo, h]

theorem callToGo_caller {s : σ} {p : Phase κ} (hw : w ≠ t₀) (hp : p.InCall) :
    callToGo t₀ w work (({ cfg with data := s } : Config τ κ σ).set t₀ p) =
      3 * work s + (cfg.phase w).weight + p.weight := by
  rw [callToGo_of_inCall, Config.phase_set, Config.phase_set, if_pos rfl, if_neg hw]
  · rfl
  · rw [Config.phase_set, if_pos rfl]
    exact hp

theorem callToGo_worker {s : σ} {p : Phase κ} (hw : w ≠ t₀) (h : (cfg.phase t₀).InCall) :
    callToGo t₀ w work (({ cfg with data := s } : Config τ κ σ).set w p) =
      3 * work s + p.weight + (cfg.phase t₀).weight := by
  rw [callToGo_of_inCall, Config.phase_set, Config.phase_set, if_pos rfl, if_neg hw.symm]
  · rfl
  · rw [Config.phase_set, if_neg hw.symm]
    exact h

/-! ## Where the threads are -/

theorem Sole.not_arriving {t : τ} {c : κ} (h : m.Sole t₀ w I cfg)
    (harr : (cfg.phase t).Arriving c) : t = t₀ := by
  by_contra hne
  rcases h.others t hne with heq | ⟨-, heq⟩ <;> rw [heq] at harr <;>
    rcases harr with harr | harr <;> cases harr

theorem Sole.eq_of_parked {t : τ} {c : κ} (h : m.Sole t₀ w I cfg)
    (hp : cfg.phase t = .parked c) : t = t₀ := by
  by_contra hne
  rcases h.others t hne with heq | ⟨-, heq⟩ <;> cases hp.symm.trans heq

/-- The caller goes on. -/
theorem Sole.caller {s : σ} {p : Phase κ} (h : m.Sole t₀ w I cfg) (hw : w ≠ t₀) (hs : I s)
    (hp : m.ready s → p.Parked → cfg.phase w = .signalling) :
    m.Sole t₀ w I (({ cfg with data := s } : Config τ κ σ).set t₀ p) where
  data := hs
  others := by
    intro t hne
    rw [Config.phase_set, if_neg hne]
    exact h.others t hne
  notified := by
    intro hready hparked
    rw [Config.phase_set, if_pos rfl] at hparked
    rw [Config.phase_set, if_neg hw]
    exact hp hready hparked

/-- Another section is run, by the worker or by a thread that does not notify. -/
theorem Sole.other {t : τ} {s : σ} {notify : Bool} (hm : m.Worker w work I)
    (h : m.Sole t₀ w I cfg) (hidle : cfg.phase t = .idle) (ho : m.other t cfg.data s notify) :
    m.Sole t₀ w I (({ cfg with data := s } : Config τ κ σ).set t (.after notify)) where
  data := hm.other h.data ho
  others := by
    intro u hne
    rw [Config.phase_set]
    split
    · rename_i heq
      subst heq
      cases notify with
      | false => exact Or.inl rfl
      | true =>
          refine Or.inr ⟨?_, rfl⟩
          by_contra hu
          exact Bool.false_ne_true (hm.quiet ho hu).symm
    · exact h.others u hne
  notified := by
    intro hready hparked
    rw [Config.phase_set] at hparked ⊢
    split at hparked
    · exact absurd hparked (Phase.not_parked_after _)
    · have hsignal := fun hr => h.notified hr hparked
      split
      · rename_i heq
        subst heq
        rcases hm.notifies ho hready with rfl | hr
        · rfl
        · cases hidle.symm.trans (hsignal hr)
      · rename_i hne
        refine hsignal ((hm.notifies ho hready).resolve_left ?_)
        rw [hm.quiet ho (Ne.symm hne)]
        exact Bool.false_ne_true

theorem Sole.step (hm : m.Worker w work I) (hw : w ≠ t₀) (h : m.Sole t₀ w I cfg)
    (hs : Restrict m.Step (CalledBy t₀) cfg l cfg') : m.Sole t₀ w I cfg' := by
  obtain ⟨hs, hcall⟩ := hs
  cases hs with
  | call _ _ =>
      obtain rfl : _ = t₀ := hcall
      exact h.caller hw h.data fun _ hp => absurd hp (Phase.not_parked_entering _)
  | pass harr hready hbody =>
      obtain rfl := h.not_arriving harr
      exact h.caller hw (hm.body h.data hready hbody) fun _ hp =>
        absurd hp (Phase.not_parked_after _)
  | park harr hready =>
      obtain rfl := h.not_arriving harr
      exact h.caller hw h.data fun hr => absurd hr hready
  | spurious hp =>
      obtain rfl := h.eq_of_parked hp
      exact h.caller hw h.data fun _ hp => absurd hp (Phase.not_parked_entering _)
  | other hidle ho => exact h.other hm hidle ho
  | @wake t u c hsignal hp =>
      obtain rfl := h.eq_of_parked hp
      refine ⟨h.data, ?_, ?_⟩
      · intro v hne
        rw [Config.phase_set, if_neg hne, Config.phase_set]
        split
        · exact Or.inl rfl
        · exact h.others v hne
      · intro _ hparked
        rw [Config.phase_set, if_pos rfl] at hparked
        exact absurd hparked (Phase.not_parked_of_wakeUp (Phase.wakeUp_woken c))
  | @nobody t hsignal hnone =>
      refine ⟨h.data, ?_, ?_⟩
      · intro u hne
        rw [Config.phase_set]
        split
        · exact Or.inl rfl
        · exact h.others u hne
      · intro _ hparked
        rw [Config.phase_set] at hparked
        split at hparked
        · exact absurd hparked Phase.not_parked_idle
        · exact absurd hparked (hnone t₀)

theorem Worker.sole {s₀ : σ} (hm : m.Worker w work I) (hw : w ≠ t₀) (hs : I s₀)
    (hr : Reachable (Restrict m.Step (CalledBy t₀)) (.start s₀) cfg) : m.Sole t₀ w I cfg := by
  refine hr.invariant ⟨hs, fun _ _ => Or.inl rfl, ?_⟩ fun _ h hs => h.step hm hw hs
  intro _ hp
  exact absurd hp Phase.not_parked_idle

/-! ## Each step -/

/-- The caller is in its call, and the others are where they can be. -/
structure Calling (m : Monitor τ κ σ) (t₀ w : τ) (I : σ → Prop) (cfg : Config τ κ σ) : Prop where
  sole : m.Sole t₀ w I cfg
  inCall : (cfg.phase t₀).InCall

/-- The caller is in its call, or it has passed and is about to notify. -/
inductive Returning (m : Monitor τ κ σ) (t₀ w : τ) (I : σ → Prop) (cfg : Config τ κ σ) :
    Prop where
  | calling : m.Calling t₀ w I cfg → Returning m t₀ w I cfg
  | passed : cfg.phase t₀ = .signalling → Returning m t₀ w I cfg

/-- The caller has returned. -/
def Returned (t₀ : τ) (cfg : Config τ κ σ) : Prop := cfg.phase t₀ = .idle

omit [DecidableEq τ] in
theorem Calling.eq_of_signalling {t : τ} (h : m.Calling t₀ w I cfg)
    (hsignal : cfg.phase t = .signalling) : t = w := by
  have hne : t ≠ t₀ := by
    rintro rfl
    exact h.inCall.ne_signalling hsignal
  rcases h.sole.others t hne with hidle | ⟨heq, -⟩
  · cases hidle.symm.trans hsignal
  · exact heq

/-- The caller is about to look at the data: it passes, or it parks. -/
theorem Calling.enter (hm : m.Worker w work I) (hw : w ≠ t₀) (h : m.Calling t₀ w I cfg)
    (hs : m.Step cfg (.enter t₀) cfg') :
    Returned t₀ cfg' ∨
      m.Returning t₀ w I cfg' ∧ callToGo t₀ w work cfg' < callToGo t₀ w work cfg := by
  have hsole := h.sole.step hm hw ⟨hs, trivial⟩
  cases hs with
  | @pass _ c s notify harr _ _ =>
      cases notify with
      | false =>
          refine Or.inl ?_
          rw [Returned, Config.phase_set, if_pos rfl]
          rfl
      | true =>
          refine Or.inr ⟨.passed ?_, ?_⟩
          · rw [Config.phase_set, if_pos rfl]
            rfl
          · rw [callToGo_of_inCall h.inCall, Phase.weight_of_arriving harr, callToGo,
              Config.phase_set, if_pos rfl]
            exact Nat.lt_of_lt_of_le Nat.one_lt_two (Nat.le_add_left _ _)
  | @park _ c harr _ =>
      have hparked : (Phase.parked c).InCall := ⟨c, Or.inr rfl⟩
      refine Or.inr ⟨.calling ⟨hsole, ?_⟩, ?_⟩
      · rw [Config.phase_set, if_pos rfl]
        exact hparked
      · refine (callToGo_caller hw hparked).trans_lt ?_
        rw [callToGo_of_inCall h.inCall, Phase.weight_of_arriving harr]
        exact Nat.lt_succ_self _

/-- The worker goes on. -/
theorem Calling.other (hm : m.Worker w work I) (hw : w ≠ t₀) (h : m.Calling t₀ w I cfg)
    (hs : m.Step cfg (.other w) cfg') :
    m.Calling t₀ w I cfg' ∧ callToGo t₀ w work cfg' < callToGo t₀ w work cfg := by
  have hsole := h.sole.step hm hw ⟨hs, trivial⟩
  cases hs with
  | @other _ s notify hidle ho =>
      refine ⟨⟨hsole, ?_⟩, ?_⟩
      · rw [Config.phase_set, if_neg hw.symm]
        exact h.inCall
      · have hlt := hm.lower h.sole.data ho
        have hafter := Phase.weight_after (κ := κ) notify
        rw [callToGo_worker hw h.inCall, callToGo_of_inCall h.inCall]
        omega

theorem Calling.notify (hm : m.Worker w work I) (hw : w ≠ t₀) (h : m.Calling t₀ w I cfg)
    (hs : m.Step cfg (.notify w) cfg') :
    m.Calling t₀ w I cfg' ∧ callToGo t₀ w work cfg' < callToGo t₀ w work cfg := by
  have hsole := h.sole.step hm hw ⟨hs, trivial⟩
  cases hs with
  | @wake _ u c hsignal hp =>
      obtain rfl := h.sole.eq_of_parked hp
      have hcalling : Calling m u w I ((cfg.set w .idle).set u (.woken c)) := by
        refine ⟨hsole, ?_⟩
        rw [Config.phase_set, if_pos rfl]
        exact ⟨c, Or.inl (Or.inr rfl)⟩
      refine ⟨hcalling, ?_⟩
      rw [callToGo_of_inCall hcalling.inCall, Config.phase_set, Config.phase_set, if_neg hw,
        if_pos rfl, Config.phase_set, if_pos rfl, callToGo_of_inCall h.inCall, hsignal, hp]
      show 3 * work cfg.data + 0 + 2 < 3 * work cfg.data + 2 + 1
      omega
  | nobody hsignal _ =>
      refine ⟨⟨hsole, ?_⟩, ?_⟩
      · rw [Config.phase_set, if_neg hw.symm]
        exact h.inCall
      · refine (callToGo_worker hw h.inCall).trans_lt ?_
        rw [callToGo_of_inCall h.inCall, hsignal]
        show _ + 0 + _ < _ + 2 + _
        omega

/-- What other steps can be taken: a spurious wake-up, and sections of other threads. -/
theorem Calling.keep (hm : m.Worker w work I) (hw : w ≠ t₀) (h : m.Calling t₀ w I cfg)
    (hl : ¬ HelpsCall t₀ w cfg l) (hs : Restrict m.Step (CalledBy t₀) cfg l cfg') :
    m.Calling t₀ w I cfg' ∧
      callToGo t₀ w work cfg' ≤ callToGo t₀ w work cfg + setback w l := by
  have hsole := h.sole.step hm hw hs
  obtain ⟨hs, hcall⟩ := hs
  cases hs with
  | call hidle _ =>
      obtain rfl : _ = t₀ := hcall
      exact absurd hidle h.inCall.ne_idle
  | pass harr _ _ | park harr _ =>
      obtain rfl := h.sole.not_arriving harr
      exact absurd .enter hl
  | @spurious t c hp =>
      obtain rfl := h.sole.eq_of_parked hp
      have hentering : (Phase.entering c).InCall := ⟨c, Or.inl (Or.inl rfl)⟩
      refine ⟨⟨hsole, ?_⟩, ?_⟩
      · rw [Config.phase_set, if_pos rfl]
        exact hentering
      · refine (callToGo_caller hw hentering).trans_le ?_
        rw [callToGo_of_inCall h.inCall, hp]
        exact Nat.le_refl _
  | @other t s notify hidle ho =>
      have htw : t ≠ w := by
        rintro rfl
        exact hl (.work h.inCall)
      have ht : t₀ ≠ t := by
        rintro rfl
        exact h.inCall.ne_idle hidle
      have hphase : ((({ cfg with data := s } : Config τ κ σ).set t (.after notify)).phase t₀) =
          cfg.phase t₀ := by
        rw [Config.phase_set, if_neg ht]
      have hcalling : Calling m t₀ w I _ := ⟨hsole, hphase ▸ h.inCall⟩
      have hle := hm.grows ho htw
      refine ⟨hcalling, ?_⟩
      rw [callToGo_of_inCall hcalling.inCall, hphase, Config.phase_set, if_neg htw.symm, setback,
        if_neg htw, callToGo_of_inCall h.inCall]
      show 3 * work s + (cfg.phase w).weight + (cfg.phase t₀).weight ≤ _
      omega
  | wake hsignal _ | nobody hsignal _ =>
      obtain rfl := h.eq_of_signalling hsignal
      exact absurd (.notify h.inCall) hl

/-- A notification can be delivered. -/
theorem exists_notify {t : τ} (h : cfg.phase t = .signalling) :
    ∃ cfg', m.Step cfg (.notify t) cfg' := by
  by_cases hparked : ∃ u, (cfg.phase u).Parked
  · obtain ⟨u, c, hu⟩ := hparked
    exact ⟨_, .wake h hu⟩
  · exact ⟨_, .nobody h fun u hu => hparked ⟨u, hu⟩⟩

theorem Calling.live (hm : m.Worker w work I) (hw : w ≠ t₀) (h : m.Calling t₀ w I cfg) :
    ∃ l cfg', HelpsCall t₀ w cfg l ∧ Restrict m.Step (CalledBy t₀) cfg l cfg' := by
  by_cases hsignal : cfg.phase w = .signalling
  · obtain ⟨cfg', hs⟩ := exists_notify (m := m) hsignal
    exact ⟨_, cfg', .notify h.inCall, hs, trivial⟩
  · obtain ⟨c, harr | hp⟩ := h.inCall
    · by_cases hready : m.ready cfg.data
      · obtain ⟨s, notify, hbody⟩ := hm.passes c h.sole.data hready
        exact ⟨_, _, .enter, .pass harr hready hbody, trivial⟩
      · exact ⟨_, _, .enter, .park harr hready, trivial⟩
    · have hready : ¬ m.ready cfg.data := fun hr => hsignal (h.sole.notified hr ⟨c, hp⟩)
      have hidle := (h.sole.others w hw).resolve_right fun hw => hsignal hw.2
      obtain ⟨s, notify, ho⟩ := hm.live h.sole.data hready
      exact ⟨_, _, .work h.inCall, .other hidle ho, trivial⟩

/-- Its own notification takes a caller that has passed to its end. -/
theorem Returned.of_notify (hs : m.Step cfg (.notify t₀) cfg') : Returned t₀ cfg' := by
  cases hs with
  | @wake _ u c hsignal hp =>
      have hu : t₀ ≠ u := by
        rintro rfl
        cases hsignal.symm.trans hp
      rw [Returned, Config.phase_set, if_neg hu, Config.phase_set, if_pos rfl]
  | nobody _ _ => rw [Returned, Config.phase_set, if_pos rfl]

/-- Other steps leave a caller that has passed where it is. -/
theorem phase_of_passed (h : cfg.phase t₀ = .signalling) (hl : l ≠ .notify t₀)
    (hs : m.Step cfg l cfg') : cfg'.phase t₀ = .signalling := by
  have hother : ∀ {t : τ} {s : σ} {p : Phase κ}, cfg.phase t ≠ .signalling →
      (({ cfg with data := s } : Config τ κ σ).set t p).phase t₀ = .signalling := by
    intro t s p ht
    rw [Config.phase_set, if_neg]
    · exact h
    · rintro rfl
      exact ht h
  cases hs with
  | call hidle _ | other hidle _ => exact hother (by rw [hidle]; nofun)
  | pass harr _ _ | park harr _ =>
      refine hother fun hsignal => ?_
      rcases harr with heq | heq <;> cases heq.symm.trans hsignal
  | spurious hp => exact hother (by rw [hp]; nofun)
  | @wake t u c _ hp =>
      have hu : t₀ ≠ u := by
        rintro rfl
        cases h.symm.trans hp
      have ht : t₀ ≠ t := by
        rintro rfl
        exact hl rfl
      rw [Config.phase_set, if_neg hu, Config.phase_set, if_neg ht]
      exact h
  | @nobody t _ _ =>
      have ht : t₀ ≠ t := by
        rintro rfl
        exact hl rfl
      rw [Config.phase_set, if_neg ht]
      exact h

/-! ## The end of a call -/

theorem Returning.lower (hm : m.Worker w work I) (hw : w ≠ t₀) (h : m.Returning t₀ w I cfg)
    (hl : HelpsCall t₀ w cfg l) (hs : m.Step cfg l cfg') :
    Returned t₀ cfg' ∨
      m.Returning t₀ w I cfg' ∧ callToGo t₀ w work cfg' < callToGo t₀ w work cfg := by
  cases hl with
  | leave => exact Or.inl (.of_notify hs)
  | enter =>
      cases h with
      | calling h => exact h.enter hm hw hs
      | passed h =>
          cases hs with
          | pass harr _ _ | park harr _ => rcases harr with heq | heq <;> cases h.symm.trans heq
  | work hin =>
      cases h with
      | calling h => exact Or.inr ((h.other hm hw hs).imp_left .calling)
      | passed h => exact absurd h hin.ne_signalling
  | notify hin =>
      cases h with
      | calling h => exact Or.inr ((h.notify hm hw hs).imp_left .calling)
      | passed h => exact absurd h hin.ne_signalling

theorem Returning.keep (hm : m.Worker w work I) (hw : w ≠ t₀) (h : m.Returning t₀ w I cfg)
    (hl : ¬ HelpsCall t₀ w cfg l) (hs : Restrict m.Step (CalledBy t₀) cfg l cfg') :
    m.Returning t₀ w I cfg' ∧
      callToGo t₀ w work cfg' ≤ callToGo t₀ w work cfg + setback w l := by
  cases h with
  | calling h => exact (h.keep hm hw hl hs).imp_left .calling
  | passed h =>
      have h' : cfg'.phase t₀ = .signalling := by
        refine phase_of_passed h ?_ hs.1
        rintro rfl
        exact hl .leave
      refine ⟨.passed h', ?_⟩
      rw [callToGo_of_passed h', callToGo_of_passed h]
      exact Nat.le_add_right _ _

theorem Returning.live (hm : m.Worker w work I) (hw : w ≠ t₀) (h : m.Returning t₀ w I cfg) :
    ∃ l cfg', HelpsCall t₀ w cfg l ∧ Restrict m.Step (CalledBy t₀) cfg l cfg' := by
  cases h with
  | calling h => exact h.live hm hw
  | passed h =>
      obtain ⟨cfg', hs⟩ := exists_notify (m := m) h
      exact ⟨_, cfg', .leave, hs, trivial⟩

/-- Every call of the one caller comes to its end. -/
theorem Worker.sole_caller_returns {s₀ : σ} (hm : m.Worker w work I) (hw : w ≠ t₀) (hs : I s₀)
    (hr : Reachable (Restrict m.Step (CalledBy t₀)) (.start s₀) cfg)
    (hcall : (cfg.phase t₀).InCall) :
    Advances (Restrict m.Step (CalledBy t₀)) (HelpsCall t₀ w) (fun _ l => setback w l)
      (Returned t₀) (callToGo t₀ w work cfg) cfg := by
  refine advances_of_measure (I := m.Returning t₀ w I) (callToGo t₀ w work) ?_ ?_ ?_
    (.calling ⟨hm.sole hw hs hr, hcall⟩)
  · intro cfg l cfg' h hl hs
    exact h.lower hm hw hl hs.1
  · intro cfg l cfg' h hl hs
    exact Or.inr (h.keep hm hw hl hs)
  · intro cfg h _
    exact h.live hm hw

end Monitor
