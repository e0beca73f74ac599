import LineEditor.Error

/-! Calculations that may fail, what can be said of both of their ends at once, and the errors that
stop a command before it has done anything. -/
namespace LineEditor

variable {ε α β γ δ : Type}

theorem ok_bind (a : α) (f : α → Except ε β) : (Except.ok a >>= f) = f a := pure_bind a f

theorem error_bind (e : ε) (f : α → Except ε β) : (Except.error e >>= f) = .error e := rfl

theorem of_bind_ok {x : Except ε α} {f : α → Except ε β} {b : β} (h : (x >>= f) = .ok b) :
    ∃ a, x = .ok a ∧ f a = .ok b := by
  cases x with
  | ok a => exact ⟨a, rfl, h⟩
  | error e => cases h

theorem of_bind_error {x : Except ε α} {f : α → Except ε β} {e : ε} (h : (x >>= f) = .error e) :
    x = .error e ∨ ∃ a, x = .ok a ∧ f a = .error e := by
  cases x with
  | ok a => exact .inr ⟨a, rfl, h⟩
  | error other =>
      cases h
      exact .inl rfl

structure Meets (x : Except ε α) (good : α → Prop) (bad : ε → Prop) : Prop where
  value : ∀ a, x = .ok a → good a
  error : ∀ e, x = .error e → bad e

namespace Meets

variable {x : Except ε α} {good good' : α → Prop} {bad : ε → Prop}

theorem ok {a : α} (h : good a) : Meets (.ok a : Except ε α) good bad where
  value := by
    rintro _ ⟨⟩
    exact h
  error := by
    rintro _ ⟨⟩

theorem fail {e : ε} (h : bad e) : Meets (.error e : Except ε α) good bad where
  value := by
    rintro _ ⟨⟩
  error := by
    rintro _ ⟨⟩
    exact h

theorem mono (h : Meets x good bad) (weaker : ∀ a, good a → good' a) : Meets x good' bad where
  value a hx := weaker a (h.value a hx)
  error := h.error

theorem bind {f : α → Except ε β} {last : β → Prop} (h : Meets x good bad)
    (rest : ∀ a, good a → Meets (f a) last bad) : Meets (x >>= f) last bad := by
  cases x with
  | ok a => exact rest a (h.value a rfl)
  | error e => exact .fail (h.error e rfl)

end Meets

/-- Two calculations fail alike, or have values that are related. -/
inductive Agree (R : α → β → Prop) : Except ε α → Except ε β → Prop where
  | ok {a : α} {b : β} (h : R a b) : Agree R (.ok a) (.ok b)
  | error (e : ε) : Agree R (.error e) (.error e)

namespace Agree

theorem bind {R : α → β → Prop} {S : γ → δ → Prop} {x : Except ε α} {y : Except ε β}
    {f : α → Except ε γ} {g : β → Except ε δ} (h : Agree R x y)
    (rest : ∀ a b, R a b → Agree S (f a) (g b)) : Agree S (x >>= f) (y >>= g) := by
  cases h with
  | ok related => exact rest _ _ related
  | error e => exact .error e

theorem bind_right {R : α → β → Prop} {S : α → δ → Prop} {x : Except ε α} {y : Except ε β}
    {g : β → Except ε δ} (h : Agree R x y) (rest : ∀ a b, R a b → Agree S (.ok a) (g b)) :
    Agree S x (y >>= g) := by
  cases h with
  | ok related => exact rest _ _ related
  | error e => exact .error e

theorem of_ok {R : α → β → Prop} {x : Except ε α} {b : β} (h : Agree R x (.ok b)) :
    ∃ a, x = .ok a ∧ R a b := by
  cases h with
  | ok related => exact ⟨_, rfl, related⟩

theorem of_error {R : α → β → Prop} {x : Except ε α} {e : ε} (h : Agree R x (.error e)) :
    x = .error e := by
  cases h with
  | error => rfl

theorem eq {x y : Except ε α} (h : Agree Eq x y) : x = y := by
  cases h with
  | ok same => rw [same]
  | error => rfl

theorem refl (x : Except ε α) : Agree Eq x x := by
  cases x with
  | ok a => exact .ok rfl
  | error e => exact .error e

end Agree

/-- An error other than the warning of unwritten changes and the failure of the output. -/
def EditorError.IsRefusal (e : EditorError) : Prop := e ≠ .modified ∧ e ≠ .cannotWriteOutput

instance (e : EditorError) : Decidable e.IsRefusal := inferInstanceAs (Decidable (_ ∧ _))

def EditorError.IsAddressing (e : EditorError) : Prop :=
  e.kind = .address ∨ e.kind = .pattern ∨ e.kind = .noMatch

theorem EditorError.IsAddressing.isRefusal {e : EditorError} (h : e.IsAddressing) :
    e.IsRefusal := by
  constructor <;> rintro rfl <;> simp [IsAddressing, kind] at h

end LineEditor
