import Mathlib.Data.List.Basic

namespace TelegramDrive

/-!
# The order of texts by their code points

Texts compared byte by byte in UTF-8 stand in the order of their code points.
-/

namespace BinaryOrder

/-- Lexicographic order. -/
def codesLe : List Nat -> List Nat -> Bool
  | [], _ => true
  | _ :: _, [] => false
  | one :: ones, two :: twos => decide (one < two) || (decide (one = two) && codesLe ones twos)

theorem codesLe_total (ones twos : List Nat) : codesLe ones twos = true ∨ codesLe twos ones = true := by
  induction ones generalizing twos with
  | nil => exact Or.inl rfl
  | cons one ones ih =>
    cases twos with
    | nil => exact Or.inr rfl
    | cons two twos =>
      simp only [codesLe, Bool.or_eq_true, Bool.and_eq_true, decide_eq_true_eq]
      rcases Nat.lt_trichotomy one two with less | rfl | more
      · exact Or.inl (Or.inl less)
      · rcases ih twos with low | high
        · exact Or.inl (Or.inr ⟨rfl, low⟩)
        · exact Or.inr (Or.inr ⟨rfl, high⟩)
      · exact Or.inr (Or.inl more)

theorem codesLe_trans {ones twos threes : List Nat} (first : codesLe ones twos = true)
    (second : codesLe twos threes = true) : codesLe ones threes = true := by
  induction ones generalizing twos threes with
  | nil => rfl
  | cons one ones ih =>
    cases twos with
    | nil => cases first
    | cons two twos =>
      cases threes with
      | nil => cases second
      | cons three threes =>
        simp only [codesLe, Bool.or_eq_true, Bool.and_eq_true, decide_eq_true_eq] at first second ⊢
        rcases first with less | ⟨rfl, low⟩
        · rcases second with again | ⟨rfl, _⟩
          · exact Or.inl (Nat.lt_trans less again)
          · exact Or.inl less
        · rcases second with again | ⟨rfl, lower⟩
          · exact Or.inl again
          · exact Or.inr ⟨rfl, ih low lower⟩

end BinaryOrder

/-- A text stands before another, or is the same. -/
def TextLe (one two : String) : Prop :=
  BinaryOrder.codesLe (one.toList.map Char.toNat) (two.toList.map Char.toNat) = true

instance : DecidableRel TextLe := fun one two =>
  inferInstanceAs (Decidable (BinaryOrder.codesLe (one.toList.map Char.toNat) (two.toList.map Char.toNat) = true))

theorem textLe_total (one two : String) : TextLe one two ∨ TextLe two one := BinaryOrder.codesLe_total _ _

theorem textLe_trans {one two three : String} (first : TextLe one two) (second : TextLe two three) :
    TextLe one three :=
  BinaryOrder.codesLe_trans first second

end TelegramDrive
