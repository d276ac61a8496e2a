namespace ApiSkeleton

variable {ε α β : Type}

@[simp] theorem ok_bind (a : α) (f : α → Except ε β) : (Except.ok a >>= f) = f a := rfl

@[simp] theorem error_bind (e : ε) (f : α → Except ε β) : (Except.error e >>= f) = .error e := rfl

@[simp] theorem pure_eq_ok (a : α) : (pure a : Except ε α) = .ok a := rfl

theorem bind_eq_ok_iff {x : Except ε α} {f : α → Except ε β} {b : β} :
    (x >>= f) = .ok b ↔ ∃ a, x = .ok a ∧ f a = .ok b := by
  cases x <;> simp

theorem toOption_eq_some_iff {x : Except ε α} {a : α} : x.toOption = some a ↔ x = .ok a := by
  cases x <;> simp [Except.toOption]

/-- The computation has a result. -/
def Succeeds (x : Except ε α) : Prop := ∃ a, x = .ok a

@[simp] theorem succeeds_ok (a : α) : Succeeds (.ok a : Except ε α) := ⟨a, rfl⟩

@[simp] theorem not_succeeds_error (e : ε) : ¬ Succeeds (.error e : Except ε α) := by
  rintro ⟨a, h⟩
  cases h

/-- Two steps in a row succeed exactly if both do, where the condition for the second one does not
    hang on the result of the first. -/
theorem succeeds_bind_iff {x : Except ε α} {f : α → Except ε β} {p : Prop}
    (hnext : ∀ a, Succeeds (f a) ↔ p) : Succeeds (x >>= f) ↔ Succeeds x ∧ p := by
  cases x with
  | error e => simp
  | ok a => simpa using hnext a

/-- What is done with the result of the last step does not matter. -/
theorem succeeds_return_iff {x : Except ε α} {f : α → β} :
    Succeeds (do return f (← x)) ↔ Succeeds x := by
  rw [succeeds_bind_iff (p := True) (by simp), and_true]

theorem succeeds_both_iff {γ : Type} {x : Except ε α} {y : Except ε β} {f : α → β → γ} :
    Succeeds (do let a ← x; return f a (← y)) ↔ Succeeds x ∧ Succeeds y :=
  succeeds_bind_iff fun _ => succeeds_return_iff

end ApiSkeleton
