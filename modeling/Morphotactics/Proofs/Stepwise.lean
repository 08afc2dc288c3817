import Mathlib.Init

/-! Steps that may fail, one after the other. -/
namespace Morphotactics

variable {ε α β : Type}

@[simp] theorem pure_eq_ok_iff {a b : α} : (pure a : Except ε α) = .ok b ↔ a = b :=
  ⟨Except.ok.inj, congrArg Except.ok⟩

theorem bind_eq_ok_iff {first : Except ε α} {second : α → Except ε β} {b : β} :
    first >>= second = .ok b ↔ ∃ a, first = .ok a ∧ second a = .ok b := by
  cases first <;> simp [bind, Except.bind]

theorem bind_eq_error_iff {first : Except ε α} {second : α → Except ε β} {e : ε} :
    first >>= second = .error e ↔
      first = .error e ∨ ∃ a, first = .ok a ∧ second a = .error e := by
  cases first <;> simp [bind, Except.bind]

theorem exists_eq_ok_iff {outcome : Except ε α} :
    (∃ a, outcome = .ok a) ↔ ∀ error, outcome ≠ .error error := by
  cases outcome <;> simp

theorem mapError_eq_error_iff {ε' : Type} {result : Except ε α} {wrap : ε → ε'} {e' : ε'} :
    result.mapError wrap = .error e' ↔ ∃ e, result = .error e ∧ wrap e = e' := by
  cases result with
  | ok a =>
    refine ⟨fun h => ?_, ?_⟩
    · cases h
    · rintro ⟨e, h, -⟩
      cases h
  | error e =>
    refine ⟨fun h => ⟨e, rfl, Except.error.inj h⟩, ?_⟩
    rintro ⟨_, h, rfl⟩
    rw [← Except.error.inj h]
    rfl

end Morphotactics
