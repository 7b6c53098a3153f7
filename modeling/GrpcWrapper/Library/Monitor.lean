import GrpcWrapper.Library.Transition
import Mathlib.Data.Set.Card
import Mathlib.Logic.Function.Basic

/-!
# Monitors and lost wake-ups

A monitor is data under a lock with one condition variable.  A *call* takes the
lock, waits until the data is `ready`, runs its body, and after the lock is
released notifies one waiting thread if the body said so.  Other sections take
the lock without waiting and may notify as well.  A thread that is notified
takes the lock again and looks at the data again.

`NoLostWakeup` is the property that keeps such a program from stopping: when
the data is ready and a thread is parked, a wake-up is on its way.  A body that
leaves the data ready and notifies nobody *drops* the wake-up that it consumed.
If the other sections notify whenever they make the data ready, then a run
keeps the property exactly when no dropped wake-up was the last one
(`noLostWakeup_iff`).

When the data holds a stock that a call takes from and a section that adds to it
notifies, there are at least as many wake-ups on their way as there is stock
(`Stocked.stock_le`).
-/

open Transition

/-- What a thread is doing. -/
inductive Phase (κ : Type*) where
  | idle
  /-- About to take the lock for the call `c`. -/
  | entering (c : κ)
  /-- In the wait of the call `c`. -/
  | parked (c : κ)
  /-- Notified, and about to take the lock again. -/
  | woken (c : κ)
  /-- Has left the lock and is about to notify. -/
  | signalling

namespace Phase

variable {κ : Type*}

/-- The call of a thread that is about to take the lock. -/
def Arriving (p : Phase κ) (c : κ) : Prop := p = .entering c ∨ p = .woken c

def Parked (p : Phase κ) : Prop := ∃ c, p = .parked c

/-- A wake-up is on its way to the thread or from it. -/
def WakeUp (p : Phase κ) : Prop := p = .signalling ∨ ∃ c, p = .woken c

/-- What follows a section. -/
def after (notify : Bool) : Phase κ := if notify then .signalling else .idle

@[simp] theorem not_parked_after (notify : Bool) : ¬ (after notify : Phase κ).Parked := by
  intro ⟨c, heq⟩
  cases notify <;> cases heq

@[simp] theorem wakeUp_after (notify : Bool) :
    (after notify : Phase κ).WakeUp ↔ notify = true := by
  cases notify <;> simp [after, WakeUp]

@[simp] theorem parked_parked (c : κ) : (Phase.parked c).Parked := ⟨c, rfl⟩

@[simp] theorem not_parked_idle : ¬ (idle : Phase κ).Parked := by rintro ⟨c, heq⟩; cases heq

@[simp] theorem not_parked_entering (c : κ) : ¬ (entering c).Parked := by
  intro ⟨c', heq⟩
  cases heq

@[simp] theorem wakeUp_woken (c : κ) : (woken c).WakeUp := Or.inr ⟨c, rfl⟩

@[simp] theorem not_wakeUp_idle : ¬ (idle : Phase κ).WakeUp := by simp [WakeUp]

theorem Arriving.not_parked {p : Phase κ} {c : κ} (h : p.Arriving c) : ¬ p.Parked := by
  rintro ⟨c', rfl⟩
  rcases h with heq | heq <;> cases heq

theorem Arriving.unique {p : Phase κ} {c c' : κ} (h : p.Arriving c) (h' : p.Arriving c') :
    c = c' := by
  rcases h with rfl | rfl <;> rcases h' with heq | heq <;> cases heq <;> rfl

theorem not_parked_of_wakeUp {p : Phase κ} (h : p.WakeUp) : ¬ p.Parked := by
  rintro ⟨c, rfl⟩
  rcases h with heq | ⟨c', heq⟩ <;> cases heq

end Phase

/-- A monitor over data `σ`, with threads `τ` and calls `κ`. -/
structure Monitor (τ κ σ : Type*) where
  /-- The predicate that calls wait for. -/
  ready : σ → Prop
  /-- Which threads make which calls. -/
  calls : τ → κ → Prop
  /-- The body of a call: the data before and after, and whether to notify. -/
  body : κ → σ → σ → Bool → Prop
  /-- The sections of a thread that do not wait. -/
  other : τ → σ → σ → Bool → Prop

namespace Monitor

variable {τ κ σ : Type*} [DecidableEq τ]

structure Config (τ κ σ : Type*) where
  data : σ
  phase : τ → Phase κ

/-- All threads idle. -/
def Config.start (s : σ) : Config τ κ σ := ⟨s, fun _ => .idle⟩

def Config.set (cfg : Config τ κ σ) (t : τ) (p : Phase κ) : Config τ κ σ :=
  { cfg with phase := Function.update cfg.phase t p }

inductive Label (τ κ : Type*) where
  | call (t : τ) (c : κ)
  | enter (t : τ)
  | other (t : τ)
  | notify (t : τ)
  | spurious (t : τ)

inductive Step (m : Monitor τ κ σ) : Config τ κ σ → Label τ κ → Config τ κ σ → Prop where
  | call {cfg : Config τ κ σ} {t : τ} {c : κ} :
      cfg.phase t = .idle → m.calls t c → Step m cfg (.call t c) (cfg.set t (.entering c))
  /-- The thread takes the lock, finds the data ready and runs the body. -/
  | pass {cfg : Config τ κ σ} {t : τ} {c : κ} {s : σ} {b : Bool} :
      (cfg.phase t).Arriving c → m.ready cfg.data → m.body c cfg.data s b →
      Step m cfg (.enter t) (({ cfg with data := s } : Config τ κ σ).set t (.after b))
  /-- The thread takes the lock, finds the data not ready and waits. -/
  | park {cfg : Config τ κ σ} {t : τ} {c : κ} :
      (cfg.phase t).Arriving c → ¬ m.ready cfg.data →
      Step m cfg (.enter t) (cfg.set t (.parked c))
  | other {cfg : Config τ κ σ} {t : τ} {s : σ} {b : Bool} :
      cfg.phase t = .idle → m.other t cfg.data s b →
      Step m cfg (.other t) (({ cfg with data := s } : Config τ κ σ).set t (.after b))
  /-- `notify_one` wakes some parked thread. -/
  | wake {cfg : Config τ κ σ} {t u : τ} {c : κ} :
      cfg.phase t = .signalling → cfg.phase u = .parked c →
      Step m cfg (.notify t) ((cfg.set t .idle).set u (.woken c))
  /-- `notify_one` finds no parked thread. -/
  | nobody {cfg : Config τ κ σ} {t : τ} :
      cfg.phase t = .signalling → (∀ u, ¬ (cfg.phase u).Parked) →
      Step m cfg (.notify t) (cfg.set t .idle)
  /-- A wait may end without a notification. -/
  | spurious {cfg : Config τ κ σ} {t : τ} {c : κ} :
      cfg.phase t = .parked c → Step m cfg (.spurious t) (cfg.set t (.entering c))

/-- With the data ready and a thread parked, a wake-up is on its way. -/
def NoLostWakeup (m : Monitor τ κ σ) (cfg : Config τ κ σ) : Prop :=
  m.ready cfg.data → (∃ t, (cfg.phase t).Parked) → ∃ u, (cfg.phase u).WakeUp

/-- `drops c s`: the body of `c`, run on `s`, leaves the data ready and notifies
nobody.  Other sections notify when they make the data ready. -/
structure Drops (m : Monitor τ κ σ) (drops : κ → σ → Prop) : Prop where
  body : ∀ {c s s' notify}, m.body c s s' notify → m.ready s →
    (m.ready s' ∧ notify = false ↔ drops c s)
  other : ∀ {t s s' notify}, m.other t s s' notify → m.ready s' → notify = true ∨ m.ready s

/-- A call that drops a wake-up leaves another one on its way if a thread is
parked. -/
def LeavesWakeUp (m : Monitor τ κ σ) (drops : κ → σ → Prop) (cfg : Config τ κ σ) :
    Label τ κ → Prop
  | .enter t => ∀ c, (cfg.phase t).Arriving c → m.ready cfg.data → drops c cfg.data →
      (∃ u, (cfg.phase u).Parked) → ∃ u, u ≠ t ∧ (cfg.phase u).WakeUp
  | _ => True

variable {m : Monitor τ κ σ} {drops : κ → σ → Prop} {cfg cfg' : Config τ κ σ} {l : Label τ κ}
  {t u : τ} {p : Phase κ}

/-! ## One step -/

@[simp] theorem Config.data_set : (cfg.set t p).data = cfg.data := rfl

theorem Config.phase_set :
    (cfg.set t p).phase u = if u = t then p else cfg.phase u :=
  Function.update_apply cfg.phase t p u

theorem Config.exists_set {P : Phase κ → Prop} :
    (∃ u, P ((cfg.set t p).phase u)) ↔ P p ∨ ∃ u, u ≠ t ∧ P (cfg.phase u) := by
  constructor
  · intro ⟨u, hu⟩
    rw [Config.phase_set] at hu
    split at hu
    · exact Or.inl hu
    · exact Or.inr ⟨u, ‹_›, hu⟩
  · rintro (hp | ⟨u, hne, hu⟩)
    · exact ⟨t, by rwa [Config.phase_set, if_pos rfl]⟩
    · exact ⟨u, by rwa [Config.phase_set, if_neg hne]⟩

omit [DecidableEq τ] in
/-- A thread that is in no such phase can be left out. -/
theorem exists_ne {P : Phase κ → Prop} (h : ¬ P (cfg.phase t)) :
    (∃ u, u ≠ t ∧ P (cfg.phase u)) ↔ ∃ u, P (cfg.phase u) := by
  constructor
  · intro ⟨u, _, hu⟩
    exact ⟨u, hu⟩
  · intro ⟨u, hu⟩
    refine ⟨u, ?_, hu⟩
    intro heq
    subst heq
    exact h hu

/-- A thread that has no wake-up does a step that neither makes the data ready
nor parks it. -/
theorem NoLostWakeup.quiet {s : σ} (hok : m.NoLostWakeup cfg)
    (hready : m.ready s → m.ready cfg.data) (hp : ¬ p.Parked) (hidle : ¬ (cfg.phase t).WakeUp) :
    m.NoLostWakeup (({ cfg with data := s } : Config τ κ σ).set t p) := by
  intro hs hparked
  rw [Config.exists_set] at hparked ⊢
  obtain ⟨u, -, hu⟩ := hparked.resolve_left hp
  obtain ⟨v, hv⟩ := hok (hready hs) ⟨u, hu⟩
  refine Or.inr ⟨v, ?_, hv⟩
  intro heq
  subst heq
  exact hidle hv

/-- After a section that notifies, a wake-up is on its way. -/
theorem noLostWakeup_signalling {s : σ} :
    m.NoLostWakeup (({ cfg with data := s } : Config τ κ σ).set t (.after true)) := by
  intro _ _
  rw [Config.exists_set]
  exact Or.inl ((Phase.wakeUp_after true).mpr rfl)

/-- The body of a call keeps the property unless it drops the last wake-up. -/
theorem noLostWakeup_pass (hd : Drops m drops) {c : κ} {s : σ} {notify : Bool}
    (harr : (cfg.phase t).Arriving c) (hready : m.ready cfg.data)
    (hbody : m.body c cfg.data s notify) :
    m.NoLostWakeup (({ cfg with data := s } : Config τ κ σ).set t (.after notify)) ↔
      m.LeavesWakeUp drops cfg (.enter t) := by
  have hparked : (∃ u, u ≠ t ∧ (cfg.phase u).Parked) ↔ ∃ u, (cfg.phase u).Parked :=
    exists_ne harr.not_parked
  unfold NoLostWakeup LeavesWakeUp
  rw [Config.exists_set, Config.exists_set]
  simp only [Config.data_set, Phase.not_parked_after, Phase.wakeUp_after, false_or, hparked]
  constructor
  · intro hok c' harr' _ hdrops
    rw [← harr.unique harr', ← hd.body hbody hready] at hdrops
    obtain ⟨hs, rfl⟩ := hdrops
    intro hex
    exact (hok hs hex).resolve_left Bool.false_ne_true
  · intro hleaves hs hex
    cases notify with
    | true => exact Or.inl rfl
    | false => exact Or.inr (hleaves c harr hready ((hd.body hbody hready).mp ⟨hs, rfl⟩) hex)

theorem noLostWakeup_step (hd : Drops m drops) (hok : m.NoLostWakeup cfg)
    (hs : m.Step cfg l cfg') : m.NoLostWakeup cfg' ↔ m.LeavesWakeUp drops cfg l := by
  cases hs with
  | call hidle _ =>
      refine iff_of_true (hok.quiet id (Phase.not_parked_entering _) ?_) trivial
      rw [hidle]
      exact Phase.not_wakeUp_idle
  | pass harr hready hbody => exact noLostWakeup_pass hd harr hready hbody
  | park harr hready =>
      refine iff_of_true (fun hr => absurd hr hready) ?_
      intro _ _ hr
      exact absurd hr hready
  | @other _ s notify hidle hother =>
      refine iff_of_true ?_ trivial
      cases notify with
      | true => exact noLostWakeup_signalling
      | false =>
          refine hok.quiet ?_ (Phase.not_parked_after false) ?_
          · intro hr
            exact (hd.other hother hr).resolve_left Bool.false_ne_true
          · rw [hidle]
            exact Phase.not_wakeUp_idle
  | wake _ _ =>
      refine iff_of_true ?_ trivial
      intro _ _
      rw [Config.exists_set]
      exact Or.inl (Phase.wakeUp_woken _)
  | nobody _ hnone =>
      refine iff_of_true ?_ trivial
      intro _ hparked
      rw [Config.exists_set] at hparked
      obtain ⟨u, -, hu⟩ := hparked.resolve_left Phase.not_parked_idle
      exact absurd hu (hnone u)
  | spurious hpark =>
      refine iff_of_true (hok.quiet id (Phase.not_parked_entering _) ?_) trivial
      rw [hpark]
      exact fun hw => Phase.not_parked_of_wakeUp hw (Phase.parked_parked _)

/-! ## Every run -/

/-- A run loses no wake-up, exactly when each call that drops one leaves another
one on its way. -/
theorem noLostWakeup_iff {s₀ : σ} {tr : List (Config τ κ σ × Label τ κ)} (hd : Drops m drops)
    (run : Run m.Step (.start s₀) tr cfg) :
    (∀ s ∈ visited tr cfg, m.NoLostWakeup s) ↔ ∀ p ∈ tr, m.LeavesWakeUp drops p.1 p.2 := by
  refine run.always_iff (P := m.NoLostWakeup) ?_ fun _ hok hs => noLostWakeup_step hd hok hs
  intro _ ⟨t, ht⟩
  exact absurd ht Phase.not_parked_idle

/-- The data of a monitor takes the steps of its sections. -/
theorem reachable_data {α : Type*} {step : σ → α → σ → Prop} {s₀ : σ}
    (hbody : ∀ {c s s' notify}, m.ready s → m.body c s s' notify → ∃ a, step s a s')
    (hother : ∀ {t s s' notify}, m.other t s s' notify → ∃ a, step s a s')
    (hr : Reachable m.Step (.start s₀) cfg) : Reachable step s₀ cfg.data := by
  refine hr.map Config.data ?_
  intro cfg l cfg' hs
  cases hs with
  | pass _ hready hb => exact Or.inr (hbody hready hb)
  | other _ ho => exact Or.inr (hother ho)
  | call _ _ | park _ _ | wake _ _ | nobody _ _ | spurious _ => exact Or.inl rfl

/-- What the sections keep holds of the data at any time. -/
theorem data_invariant {I : σ → Prop} {s₀ : σ} (start : I s₀)
    (hbody : ∀ {c s s' notify}, m.ready s → m.body c s s' notify → I s → I s')
    (hother : ∀ {t s s' notify}, m.other t s s' notify → I s → I s')
    (hr : Reachable m.Step (.start s₀) cfg) : I cfg.data := by
  refine hr.invariant (I := fun cfg => I cfg.data) start ?_
  intro cfg l cfg' _ h hs
  cases hs with
  | pass _ hready hb => exact hbody hready hb h
  | other _ ho => exact hother ho h
  | call _ _ | park _ _ | wake _ _ | nobody _ _ | spurious _ => exact h

/-! ## Counting wake-ups -/

/-- The data is ready when there is stock.  A call takes some, and a section that
adds to it adds one and notifies. -/
structure Stocked (m : Monitor τ κ σ) (stock : σ → ℕ) : Prop where
  ready : ∀ {s}, m.ready s ↔ 0 < stock s
  body : ∀ {c s s' notify}, m.ready s → m.body c s s' notify → stock s' + 1 ≤ stock s
  other : ∀ {t s s' notify}, m.other t s s' notify → stock s' ≤ stock s + notify.toNat

/-- While a thread is parked, there is a wake-up for each piece of stock. -/
def Covered (stock : σ → ℕ) (cfg : Config τ κ σ) : Prop :=
  (∃ t, (cfg.phase t).Parked) →
    ∃ threads : Finset τ, (∀ t ∈ threads, (cfg.phase t).WakeUp) ∧ stock cfg.data ≤ threads.card

variable {stock : σ → ℕ} {threads : Finset τ}

/-- The wake-ups of all threads but one stay when that one goes on. -/
theorem wakeUp_set (h : ∀ u ∈ threads, (cfg.phase u).WakeUp) (hp : t ∈ threads → p.WakeUp) :
    ∀ u ∈ threads, ((cfg.set t p).phase u).WakeUp := by
  intro u hu
  rw [Config.phase_set]
  split
  · rename_i heq
    exact hp (heq ▸ hu)
  · exact h u hu

/-- A thread that has no wake-up goes on, and does not park. -/
theorem Covered.quiet {s : σ} (h : Covered stock cfg) (hle : stock s ≤ stock cfg.data)
    (hp : ¬ p.Parked) (hidle : ¬ (cfg.phase t).WakeUp) :
    Covered stock (({ cfg with data := s } : Config τ κ σ).set t p) := by
  intro hparked
  rw [Config.exists_set] at hparked
  obtain ⟨u, -, hu⟩ := hparked.resolve_left hp
  obtain ⟨threads, hwake, hcard⟩ := h ⟨u, hu⟩
  refine ⟨threads, wakeUp_set hwake fun ht => ?_, hle.trans hcard⟩
  exact absurd (hwake t ht) hidle

/-- A thread that has no wake-up adds one to the stock and notifies. -/
theorem Covered.signalling {s : σ} (h : Covered stock cfg) (hle : stock s ≤ stock cfg.data + 1)
    (hidle : ¬ (cfg.phase t).WakeUp) :
    Covered stock (({ cfg with data := s } : Config τ κ σ).set t .signalling) := by
  intro hparked
  rw [Config.exists_set] at hparked
  obtain ⟨u, -, hu⟩ := hparked.resolve_left (Phase.not_parked_of_wakeUp (Or.inl rfl))
  obtain ⟨threads, hwake, hcard⟩ := h ⟨u, hu⟩
  have ht : t ∉ threads := fun ht => hidle (hwake t ht)
  refine ⟨insert t threads, ?_, ?_⟩
  · intro v hv
    rw [Config.phase_set]
    split
    · exact Or.inl rfl
    · exact hwake v ((Finset.mem_insert.mp hv).resolve_left ‹_›)
  · rw [Finset.card_insert_of_notMem ht]
    exact hle.trans (Nat.succ_le_succ hcard)

/-- A call takes from the stock, and may use up the wake-up of its thread. -/
theorem Covered.pass {s : σ} (h : Covered stock cfg) (hle : stock s + 1 ≤ stock cfg.data)
    (hp : ¬ p.Parked) : Covered stock (({ cfg with data := s } : Config τ κ σ).set t p) := by
  intro hparked
  rw [Config.exists_set] at hparked
  obtain ⟨u, -, hu⟩ := hparked.resolve_left hp
  obtain ⟨threads, hwake, hcard⟩ := h ⟨u, hu⟩
  refine ⟨threads.erase t, ?_, ?_⟩
  · refine wakeUp_set (fun v hv => hwake v (Finset.mem_of_mem_erase hv)) fun ht => ?_
    exact absurd rfl (Finset.ne_of_mem_erase ht)
  · have hone : threads.card - 1 ≤ (threads.erase t).card := Finset.pred_card_le_card_erase
    show stock s ≤ _
    omega

/-- A notification passes the wake-up on. -/
theorem Covered.wake {c : κ} (h : Covered stock cfg) (hu : cfg.phase u = .parked c) :
    Covered stock ((cfg.set t p).set u (.woken c)) := by
  intro _
  obtain ⟨threads, hwake, hcard⟩ := h ⟨u, c, hu⟩
  have hnot : u ∉ threads := by
    intro hm
    exact Phase.not_parked_of_wakeUp (hwake u hm) ⟨c, hu⟩
  refine ⟨insert u (threads.erase t), ?_, ?_⟩
  · intro v hv
    rw [Config.phase_set, Config.phase_set]
    split
    · exact Phase.wakeUp_woken c
    · rename_i hne
      have hv := (Finset.mem_insert.mp hv).resolve_left hne
      rw [if_neg (Finset.ne_of_mem_erase hv)]
      exact hwake v (Finset.mem_of_mem_erase hv)
  · rw [Finset.card_insert_of_notMem fun hm => hnot (Finset.mem_of_mem_erase hm)]
    have hone : threads.card - 1 ≤ (threads.erase t).card := Finset.pred_card_le_card_erase
    show stock cfg.data ≤ _
    omega

theorem Covered.step (hm : Stocked m stock) (h : Covered stock cfg) (hs : m.Step cfg l cfg') :
    Covered stock cfg' := by
  cases hs with
  | call hidle _ =>
      refine h.quiet (Nat.le_refl _) (Phase.not_parked_entering _) ?_
      rw [hidle]
      exact Phase.not_wakeUp_idle
  | pass _ hready hb => exact h.pass (hm.body hready hb) (Phase.not_parked_after _)
  | park _ hready =>
      intro _
      refine ⟨∅, fun _ ht => absurd ht (Finset.notMem_empty _), ?_⟩
      exact Nat.le_of_not_lt fun hlt => hready (hm.ready.mpr hlt)
  | @other t s notify hidle ho =>
      have hwake : ¬ (cfg.phase t).WakeUp := by
        rw [hidle]
        exact Phase.not_wakeUp_idle
      cases notify with
      | true => exact h.signalling (hm.other ho) hwake
      | false => exact h.quiet (hm.other ho) (Phase.not_parked_after false) hwake
  | wake _ hu => exact h.wake hu
  | nobody _ hnone =>
      intro hparked
      rw [Config.exists_set] at hparked
      obtain ⟨u, -, hu⟩ := hparked.resolve_left Phase.not_parked_idle
      exact absurd hu (hnone u)
  | spurious hpark =>
      refine h.quiet (Nat.le_refl _) (Phase.not_parked_entering _) ?_
      rw [hpark]
      exact fun hw => Phase.not_parked_of_wakeUp hw (Phase.parked_parked _)

theorem Stocked.covered {s₀ : σ} (hm : Stocked m stock)
    (hr : Reachable m.Step (.start s₀) cfg) : Covered stock cfg := by
  refine hr.invariant ?_ fun _ h hs => h.step hm hs
  intro ⟨t, ht⟩
  exact absurd ht Phase.not_parked_idle

/-- While a thread is parked, there is at most as much stock as there are threads
that were notified or are about to notify. -/
theorem Stocked.stock_le {s₀ : σ} (hm : Stocked m stock) (hr : Reachable m.Step (.start s₀) cfg)
    (hparked : ∃ t, (cfg.phase t).Parked) :
    (stock cfg.data : ℕ∞) ≤
      {t | ∃ c, cfg.phase t = .woken c}.encard + {t | cfg.phase t = .signalling}.encard := by
  obtain ⟨threads, hwake, hcard⟩ := hm.covered hr hparked
  calc
    (stock cfg.data : ℕ∞) ≤ (threads.card : ℕ∞) := Nat.cast_le.mpr hcard
    _ = (threads : Set τ).encard := (Set.encard_coe_eq_coe_finsetCard threads).symm
    _ ≤ ({t | ∃ c, cfg.phase t = .woken c} ∪ {t | cfg.phase t = .signalling}).encard :=
      Set.encard_le_encard fun t ht => (hwake t ht).symm
    _ ≤ _ := Set.encard_union_le _ _

theorem Stocked.noLostWakeup {s₀ : σ} (hm : Stocked m stock)
    (hr : Reachable m.Step (.start s₀) cfg) : m.NoLostWakeup cfg := by
  intro hready hparked
  obtain ⟨threads, hwake, hcard⟩ := hm.covered hr hparked
  have hpos : 0 < threads.card := (hm.ready.mp hready).trans_le hcard
  obtain ⟨t, ht⟩ := Finset.card_pos.mp hpos
  exact ⟨t, hwake t ht⟩

end Monitor
