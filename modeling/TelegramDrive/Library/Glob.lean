import Mathlib.Data.List.TakeDrop

namespace TelegramDrive

universe u

/-!
# Glob patterns

A pattern is a list of items, of which one stands for any list of items and another
one for any single item.  A value matches a pattern when it can be split along the
pattern.  The relation goes from the left to the right; a matcher that keeps, for
each prefix of the value, whether a prefix of the pattern matches it goes along by
the rules for a pattern that is extended at its end.
-/

section Globs

variable {α : Type u} (star one : α)

/-- The value is split along the pattern. -/
inductive Glob : List α -> List α -> Prop
  | done : Glob [] []
  | star {pattern rest : List α} (skipped : List α) (later : Glob pattern rest) :
      Glob (star :: pattern) (skipped ++ rest)
  | one {pattern value : List α} (item : α) (later : Glob pattern value) : Glob (one :: pattern) (item :: value)
  | exact {pattern value : List α} {item : α} (notStar : item ≠ star) (notOne : item ≠ one)
      (later : Glob pattern value) : Glob (item :: pattern) (item :: value)

variable {star one}

namespace Glob

theorem append {first second front behind : List α} (left : Glob star one first front)
    (right : Glob star one second behind) : Glob star one (first ++ second) (front ++ behind) := by
  induction left with
  | done => exact right
  | star skipped later ih =>
    rw [List.cons_append, List.append_assoc]
    exact .star skipped ih
  | one item later ih => exact .one item ih
  | exact notStar notOne later ih => exact .exact notStar notOne ih

variable {value pattern : List α}

/-- A value that matches two patterns in a row is split between them. -/
theorem split {first second : List α} (matched : Glob star one (first ++ second) value) :
    Exists fun front => Exists fun behind => value = front ++ behind ∧ Glob star one first front ∧
      Glob star one second behind := by
  induction first generalizing value with
  | nil => exact ⟨[], value, rfl, .done, matched⟩
  | cons item first ih =>
    rw [List.cons_append] at matched
    cases matched with
    | star skipped later =>
      rcases ih later with ⟨front, behind, rfl, left, right⟩
      exact ⟨skipped ++ front, behind, (List.append_assoc _ _ _).symm, .star skipped left, right⟩
    | one head later =>
      rcases ih later with ⟨front, behind, rfl, left, right⟩
      exact ⟨head :: front, behind, rfl, .one head left, right⟩
    | exact notStar notOne later =>
      rcases ih later with ⟨front, behind, rfl, left, right⟩
      exact ⟨item :: front, behind, rfl, .exact notStar notOne left, right⟩

theorem nil_iff : Glob star one [] value ↔ value = [] := by
  constructor
  · intro matched
    cases matched
    rfl
  · rintro rfl
    exact .done

/-- A last star matches whatever stands behind a prefix that matches. -/
theorem snoc_star_iff : Glob star one (pattern ++ [star]) value ↔
    Exists fun front => Exists fun behind => value = front ++ behind ∧ Glob star one pattern front := by
  constructor
  · intro matched
    rcases matched.split with ⟨front, behind, same, left, _⟩
    exact ⟨front, behind, same, left⟩
  · rintro ⟨front, behind, rfl, left⟩
    have right : Glob star one [star] (behind ++ []) := .star behind .done
    rw [List.append_nil] at right
    exact left.append right

theorem snoc_iff (apart : star ≠ one) {item : α} (notStar : item ≠ star) :
    Glob star one (pattern ++ [item]) value ↔ Exists fun front => Exists fun last =>
      value = front ++ [last] ∧ Glob star one pattern front ∧ (item = one ∨ item = last) := by
  constructor
  · intro matched
    rcases matched.split with ⟨front, behind, rfl, left, right⟩
    cases right with
    | star => exact (notStar rfl).elim
    | one last later =>
      cases later
      exact ⟨front, last, rfl, left, Or.inl rfl⟩
    | exact _ _ later =>
      cases later
      exact ⟨front, item, rfl, left, Or.inr rfl⟩
  · rintro ⟨front, last, rfl, left, same⟩
    by_cases wild : item = one
    · subst wild
      exact left.append (.one last .done)
    · rcases same with same | rfl
      · exact (wild same).elim
      · exact left.append (.exact notStar wild .done)

theorem snoc_nil (apart : star ≠ one) {item : α} (notStar : item ≠ star) :
    ¬ Glob star one (pattern ++ [item]) [] := by
  rw [snoc_iff apart notStar]
  rintro ⟨front, last, same, _⟩
  exact List.append_ne_nil_of_right_ne_nil _ (List.cons_ne_nil _ _) same.symm

end Glob
end Globs
end TelegramDrive
