import Mathlib.Tactic.Lemma

/-! The faults of steps that are taken one after the other. -/

namespace HttpTemplate.Faults

variable {ε φ α β γ : Type}

def faultOf : Except ε α → Option ε
  | .error e => some e
  | .ok _ => none

@[simp] lemma faultOf_error (e : ε) : faultOf (.error e : Except ε α) = some e := rfl

@[simp] lemma faultOf_ok (a : α) : faultOf (.ok a : Except ε α) = none := rfl

lemma faultOf_eq_none {x : Except ε α} : faultOf x = none ↔ ∃ a, x = .ok a := by
  cases x <;> simp

lemma faultOf_eq_some {x : Except ε α} {e : ε} : faultOf x = some e ↔ x = .error e := by
  cases x <;> simp

lemma faultOf_map (f : α → β) (x : Except ε α) : faultOf (x.map f) = faultOf x := by
  cases x <;> rfl

lemma faultOf_bind {x : Except ε α} {f : α → Except ε β} {r : Option ε}
    (h : ∀ a, faultOf (f a) = r) : faultOf (x >>= f) = (faultOf x).or r := by
  cases x with
  | error e => rfl
  | ok a => exact h a

@[simp] lemma faultOf_bind_pure (x : Except ε α) (f : α → β) :
    faultOf (x >>= fun a => pure (f a)) = faultOf x := by
  cases x <;> rfl

lemma faultOf_pair (x : Except ε α) (y : Except ε β) (f : α → β → γ) :
    faultOf (x >>= fun a => y >>= fun b => pure (f a b)) = (faultOf x).or (faultOf y) :=
  faultOf_bind fun a => faultOf_bind_pure y (f a)

lemma bind_eq_ok {x : Except ε α} {f : α → Except ε β} {b : β} :
    x >>= f = .ok b ↔ ∃ a, x = .ok a ∧ f a = .ok b := by
  cases x <;> simp [bind, Except.bind]

lemma bind_eq_error {x : Except ε α} {f : α → Except ε β} {e : ε} :
    x >>= f = .error e ↔ x = .error e ∨ ∃ a, x = .ok a ∧ f a = .error e := by
  cases x <;> simp [bind, Except.bind]

lemma toOption_eq_some {x : Except ε α} {a : α} : x.toOption = some a ↔ x = .ok a := by
  cases x <;> simp [Except.toOption]

lemma map_eq_ok {x : Except ε α} {f : α → β} {b : β} :
    x.map f = .ok b ↔ ∃ a, x = .ok a ∧ f a = b := by
  cases x <;> simp [Except.map]

lemma map_eq_error {x : Except ε α} {f : α → β} {e : ε} :
    x.map f = .error e ↔ x = .error e := by
  cases x <;> simp [Except.map]

lemma mapError_eq_ok {x : Except ε α} {f : ε → φ} {a : α} : x.mapError f = .ok a ↔ x = .ok a := by
  cases x with
  | error d =>
    change Except.error (f d) = Except.ok a ↔ _
    simp
  | ok b =>
    change Except.ok b = Except.ok a ↔ _
    simp

lemma mapError_eq_error {x : Except ε α} {f : ε → φ} {e : φ} :
    x.mapError f = .error e ↔ ∃ d, x = .error d ∧ f d = e := by
  cases x with
  | error d =>
    change Except.error (f d) = Except.error e ↔ _
    simp
  | ok a =>
    change Except.ok a = Except.error e ↔ _
    simp

lemma forM_eq_ok {xs : List α} {f : α → Except ε Unit} :
    xs.forM f = .ok () ↔ ∀ x ∈ xs, f x = .ok () := by
  rw [List.forM_eq_forM]
  induction xs with
  | nil => simp [pure, Except.pure]
  | cons x xs ih =>
    rw [List.forM_cons, bind_eq_ok, ih, List.forall_mem_cons]
    exact ⟨fun ⟨_, hx, hxs⟩ => ⟨hx, hxs⟩, fun ⟨hx, hxs⟩ => ⟨(), hx, hxs⟩⟩

end HttpTemplate.Faults
