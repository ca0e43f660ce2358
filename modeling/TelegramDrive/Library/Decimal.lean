import Mathlib.Data.List.Basic

namespace TelegramDrive

/-!
# Numbers as decimal texts

Different numbers have different texts, made of digits and perhaps a sign, so a number
can be told from what follows it by any other character.
-/

namespace Decimal

def ofInt : Int -> List Char
  | .ofNat number => Nat.toDigits 10 number
  | .negSucc number => '-' :: Nat.toDigits 10 (number + 1)

theorem toDigits_injective {one two : Nat} (same : Nat.toDigits 10 one = Nat.toDigits 10 two) : one = two := by
  have read := congrArg (fun digits => Nat.ofDigitChars 10 digits 0) same
  simpa using read

theorem isDigit_toDigits {number : Nat} {character : Char} (member : character ∈ Nat.toDigits 10 number) :
    character.isDigit = true :=
  Nat.isDigit_of_mem_toDigits (by decide) (by decide) member

theorem mem_ofInt {number : Int} {character : Char} (member : character ∈ ofInt number) :
    character = '-' ∨ character.isDigit = true := by
  cases number with
  | ofNat number => exact Or.inr (isDigit_toDigits member)
  | negSucc number =>
    rcases List.mem_cons.mp member with sign | digit
    · exact Or.inl sign
    · exact Or.inr (isDigit_toDigits digit)

theorem notMem_ofInt {separator : Char} (unsigned : separator ≠ '-') (other : separator.isDigit = false)
    (number : Int) : separator ∉ ofInt number := by
  intro member
  rcases mem_ofInt member with sign | digit
  · exact unsigned sign
  · exact absurd (other.symm.trans digit) Bool.false_ne_true

theorem toDigits_ne_signed (one two : Nat) : Nat.toDigits 10 one ≠ '-' :: Nat.toDigits 10 two := by
  intro same
  have sign : '-' ∈ Nat.toDigits 10 one := same ▸ List.mem_cons_self
  exact absurd (isDigit_toDigits sign) (by decide)

theorem ofInt_injective {one two : Int} (same : ofInt one = ofInt two) : one = two := by
  cases one with
  | ofNat one =>
    cases two with
    | ofNat two => exact congrArg Int.ofNat (toDigits_injective same)
    | negSucc two => exact absurd same (toDigits_ne_signed one (two + 1))
  | negSucc one =>
    cases two with
    | ofNat two => exact absurd same.symm (toDigits_ne_signed two (one + 1))
    | negSucc two => exact congrArg Int.negSucc (Nat.succ.inj (toDigits_injective (List.cons.inj same).2))

theorem split_at_first {Item : Type} {one two front rest : List Item} {separator : Item} (first : separator ∉ one)
    (second : separator ∉ front) (same : one ++ separator :: two = front ++ separator :: rest) :
    one = front ∧ two = rest := by
  induction one generalizing front with
  | nil =>
    cases front with
    | nil => exact ⟨rfl, (List.cons.inj same).2⟩
    | cons head front => exact absurd ((List.cons.inj same).1 ▸ List.mem_cons_self) second
  | cons item one ih =>
    cases front with
    | nil => exact absurd ((List.cons.inj same).1 ▸ List.mem_cons_self) first
    | cons head front =>
      have heads := (List.cons.inj same).1
      have tails := ih (fun member => first (List.mem_cons_of_mem _ member))
        (fun member => second (List.mem_cons_of_mem _ member)) (List.cons.inj same).2
      exact ⟨congr (congrArg List.cons heads) tails.1, tails.2⟩

end Decimal
end TelegramDrive
