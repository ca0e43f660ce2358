import Mathlib.Data.List.Forall2

namespace TelegramDrive

universe u v w

/-!
# Computations that succeed or fail

What a successful sequence of fallible steps says about each of its steps.
-/

namespace Results

variable {Error : Type u} {α : Type v} {β : Type v}

theorem bind_ok {first : Except Error α} {next : α -> Except Error β} {result : β}
    (done : (first >>= next) = .ok result) :
    Exists fun value => first = .ok value ∧ next value = .ok result := by
  cases first with
  | error error => cases done
  | ok value => exact ⟨value, rfl, done⟩

/-- A sequence of two steps fails in the first or behind it. -/
theorem bind_error {first : Except Error α} {next : α -> Except Error β} {error : Error}
    (failed : (first >>= next) = .error error) :
    first = .error error ∨ Exists fun value => first = .ok value ∧ next value = .error error := by
  cases first with
  | error other =>
    cases failed
    exact Or.inl rfl
  | ok value => exact Or.inr ⟨value, rfl, failed⟩

/-- A batch of steps succeeds item by item. -/
theorem mapM_ok {step : α -> Except Error β} {items : List α} {results : List β}
    (done : items.mapM step = .ok results) :
    List.Forall₂ (fun item result => step item = .ok result) items results := by
  induction items generalizing results with
  | nil =>
    cases done
    exact .nil
  | cons item items ih =>
    rw [List.mapM_cons] at done
    rcases bind_ok done with ⟨result, first, rest⟩
    rcases bind_ok rest with ⟨others, later, final⟩
    cases final
    exact .cons first (ih later)

/-- What a result has is decidable, when it is decidable of a value. -/
instance decidableExistsOk {result : Except Error α} {holds : α -> Prop} [DecidablePred holds] :
    Decidable (Exists fun value => result = .ok value ∧ holds value) :=
  match result with
  | .error _ => isFalse nofun
  | .ok value => decidable_of_iff (holds value) ⟨fun held => ⟨value, rfl, held⟩, fun ⟨_, same, held⟩ =>
      Except.ok.inj same ▸ held⟩

end Results
end TelegramDrive
