import Mathlib.Data.List.Basic

/-!
# Channels

One side sends messages and then ends the channel; the other side receives them
in that order.  A channel that is cut loses what is in flight from some message
on, and carries nothing more.  What a channel has carried is recorded, so that
"in order, none twice, none made up" is a field (`order`), and so is "none lost"
for a channel that was not cut (`whole`).
-/

/-- A channel for messages in `α` that its sender ends with a value in `β`. -/
structure Channel (α β : Type*) where
  /-- What was sent before the end, oldest first. -/
  sent : List α
  ending : Option β
  /-- What was received, oldest first. -/
  received : List α
  flight : List α
  cut : Bool
  order : received ++ flight <+: sent
  whole : cut = false → received ++ flight = sent

namespace Channel

variable {α β : Type*} {c : Channel α β}

def new : Channel α β where
  sent := []
  ending := none
  received := []
  flight := []
  cut := false
  order := List.prefix_rfl
  whole _ := rfl

instance : Inhabited (Channel α β) := ⟨new⟩

/-- After the end nothing is sent. -/
def send (x : α) (c : Channel α β) : Channel α β :=
  if c.ending.isSome then c
  else
    { c with
      sent := c.sent ++ [x]
      flight := if c.cut then c.flight else c.flight ++ [x]
      order := by
        split
        · exact c.order.trans (List.prefix_append _ _)
        · rename_i hcut
          refine ⟨[], ?_⟩
          rw [List.append_nil, ← List.append_assoc, c.whole (Bool.not_eq_true _ ▸ hcut)]
      whole := by
        intro hcut
        rw [if_neg (by simp [hcut]), ← List.append_assoc, c.whole hcut] }

/-- The first end counts. -/
def finish (e : β) (c : Channel α β) : Channel α β :=
  { c with ending := c.ending.or (some e) }

/-- Of the messages in flight only the first `k` will arrive. -/
def sever (k : ℕ) (c : Channel α β) : Channel α β :=
  { c with
    flight := c.flight.take k
    cut := true
    order := ((List.prefix_append_right_inj _).mpr (List.take_prefix k _)).trans c.order
    whole hcut := absurd hcut (Bool.false_ne_true ∘ Eq.symm) }

/-- The next message arrives. -/
def receive (c : Channel α β) : Channel α β :=
  { c with
    received := c.received ++ c.flight.take 1
    flight := c.flight.drop 1
    order := by
      rw [List.append_assoc, List.take_append_drop]
      exact c.order
    whole := by
      rw [List.append_assoc, List.take_append_drop]
      exact c.whole }

/-- Nothing more will arrive. -/
def Drained (c : Channel α β) : Prop := c.flight.isEmpty ∧ (c.cut ∨ c.ending.isSome)

instance (c : Channel α β) : Decidable c.Drained := inferInstanceAs (Decidable (_ ∧ _))

theorem Drained.flight_eq_nil (h : c.Drained) : c.flight = [] := List.isEmpty_iff.mp h.1

/-! ## What was received -/

theorem received_prefix (c : Channel α β) : c.received <+: c.sent :=
  (List.prefix_append _ _).trans c.order

/-- A channel that is not cut has delivered what is not in flight. -/
theorem received_eq_sent (hflight : c.flight = []) (hcut : c.cut = false) :
    c.received = c.sent := by
  have hwhole := c.whole hcut
  rwa [hflight, List.append_nil] at hwhole

theorem received_receive {x : α} (hflight : c.flight.head? = some x) :
    c.receive.received = c.received ++ [x] := by
  obtain ⟨rest, heq⟩ := List.head?_eq_some_iff.mp hflight
  show c.received ++ c.flight.take 1 = _
  rw [heq]
  rfl

/-! ## What each operation leaves alone -/

theorem send_ended {x : α} (hend : c.ending.isSome) : c.send x = c := if_pos hend

theorem sent_send {x : α} (hend : c.ending = none) : (c.send x).sent = c.sent ++ [x] := by
  rw [send, if_neg (by simp [hend])]

@[simp] theorem ending_send {x : α} : (c.send x).ending = c.ending := by
  rw [send]
  split <;> rfl

@[simp] theorem received_send {x : α} : (c.send x).received = c.received := by
  rw [send]
  split <;> rfl

@[simp] theorem cut_send {x : α} : (c.send x).cut = c.cut := by
  rw [send]
  split <;> rfl

theorem flight_send {x : α} :
    (c.send x).flight = if c.cut || c.ending.isSome then c.flight else c.flight ++ [x] := by
  rw [send]
  cases hend : c.ending.isSome
  · rw [if_neg Bool.false_ne_true, Bool.or_false]
  · rw [if_pos rfl, Bool.or_true, if_pos rfl]

theorem Drained.send {x : α} (h : c.Drained) : (c.send x).Drained := by
  obtain ⟨hflight, hcut | hend⟩ := h
  · refine ⟨?_, Or.inl (cut_send.trans hcut)⟩
    rw [flight_send, hcut, Bool.true_or, if_pos rfl, hflight]
  · rw [send_ended hend]
    exact ⟨hflight, Or.inr hend⟩

theorem Drained.finish {e : β} (h : c.Drained) : (c.finish e).Drained := by
  refine ⟨h.1, Or.inr ?_⟩
  rw [Channel.finish, Option.isSome_or]
  exact Bool.or_true _

theorem Drained.sever {k : ℕ} (h : c.Drained) : (c.sever k).Drained := by
  refine ⟨?_, Or.inl rfl⟩
  show (c.flight.take k).isEmpty
  rw [h.flight_eq_nil, List.take_nil]
  rfl

/-! ## Later states

What the receiver can rely on while it does not receive. -/

/-- `c'` is what `c` may have become with nothing received. -/
structure Later (c c' : Channel α β) : Prop where
  received : c'.received = c.received
  drained : c.Drained → c'.Drained
  uncut : c'.cut = false → c.cut = false
  ending : ∀ {e}, c.ending = some e → c'.ending = some e

theorem Later.refl : c.Later c := ⟨rfl, id, id, id⟩

theorem Later.trans {c' c'' : Channel α β} (h : c.Later c') (h' : c'.Later c'') : c.Later c'' where
  received := h'.received.trans h.received
  drained hd := h'.drained (h.drained hd)
  uncut hcut := h.uncut (h'.uncut hcut)
  ending he := h'.ending (h.ending he)

theorem later_send {x : α} : c.Later (c.send x) where
  received := received_send
  drained := Drained.send
  uncut hcut := cut_send.symm.trans hcut
  ending he := ending_send.trans he

theorem later_finish {e : β} : c.Later (c.finish e) where
  received := rfl
  drained := Drained.finish
  uncut := id
  ending he := congrArg (Option.or · (some e)) he

theorem later_sever {k : ℕ} : c.Later (c.sever k) where
  received := rfl
  drained := Drained.sever
  uncut hcut := absurd hcut (Bool.false_ne_true ∘ Eq.symm)
  ending := id

end Channel
