/-!
# Outcomes of computations that may fail

A computation that goes on with the value of another one succeeds just where both do, and
fails as the first of them that fails.
-/

set_option autoImplicit false

namespace ListingGrid

variable {ε α β : Type}

theorem bind_eq_ok {x : Except ε α} {f : α → Except ε β} {b : β} :
    x >>= f = .ok b ↔ ∃ a, x = .ok a ∧ f a = .ok b := by
  cases x with
  | error e => simp [bind, Except.bind]
  | ok a => simp [bind, Except.bind]

theorem bind_congr_ok {x : Except ε α} {f g : α → Except ε β}
    (h : ∀ a, x = .ok a → f a = g a) : x >>= f = x >>= g := by
  cases x with
  | error e => rfl
  | ok a => exact h a rfl

theorem eq_ok_of_toOption {x : Except ε α} {a : α} (h : x.toOption = some a) : x = .ok a := by
  cases x with
  | error e => simp [Except.toOption] at h
  | ok b => exact congrArg Except.ok (Option.some.inj h)

theorem ok_of_toOption {x : Except ε α} {f : α → β} {b : β} (h : x.toOption.map f = some b) :
    ∃ a, x = .ok a ∧ f a = b := by
  obtain ⟨a, ha, hb⟩ := Option.map_eq_some_iff.mp h
  exact ⟨a, eq_ok_of_toOption ha, hb⟩

theorem ok_of_any {x : Except ε α} {check : α → Bool} (h : x.toOption.any check = true) :
    ∃ a, x = .ok a ∧ check a = true := by
  obtain ⟨a, ha, hcheck⟩ := (Option.any_eq_true ..).mp h
  exact ⟨a, eq_ok_of_toOption ha, hcheck⟩

def errorOf? : Except ε α → Option ε
  | .ok _ => none
  | .error e => some e

theorem errorOf?_eq_some {x : Except ε α} {e : ε} : errorOf? x = some e ↔ x = .error e := by
  cases x <;> simp [errorOf?]

theorem errorOf?_eq_none {x : Except ε α} : errorOf? x = none ↔ ∃ a, x = .ok a := by
  cases x <;> simp [errorOf?]

theorem errorOf?_bind (x : Except ε α) {f : α → Except ε β} {next : Option ε}
    (h : ∀ a, x = .ok a → errorOf? (f a) = next) : errorOf? (x >>= f) = (errorOf? x).or next := by
  cases x with
  | error e => rfl
  | ok a => exact h a rfl

/-- A step that cannot fail adds no error. -/
theorem errorOf?_last (x : Except ε α) {f : α → Except ε β}
    (h : ∀ a, x = .ok a → errorOf? (f a) = none) : errorOf? (x >>= f) = errorOf? x :=
  (errorOf?_bind x h).trans (Option.or_none ..)

end ListingGrid
