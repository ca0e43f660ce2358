import Mathlib.Data.List.GetD

namespace TelegramDrive

/-!
# Base64 texts without padding

Bytes in groups of three are written as four digits of six bits each, in the
alphabet for addresses, and an incomplete last group with as many digits as it
needs.  A strict reader takes only texts that are written so; a lenient one passes
over the bits that a last digit has too many.
-/

namespace Base64Url

/-- The digit of a number below 64. -/
def digit (number : Nat) : Char :=
  if number < 26 then Char.ofNat (number + 65)
  else if number < 52 then Char.ofNat (number + 71)
  else if number < 62 then Char.ofNat (number - 4)
  else if number = 62 then '-'
  else '_'

/-- The number of a digit. -/
def value (character : Char) : Option Nat :=
  let code := character.toNat
  if 65 ≤ code ∧ code ≤ 90 then some (code - 65)
  else if 97 ≤ code ∧ code ≤ 122 then some (code - 71)
  else if 48 ≤ code ∧ code ≤ 57 then some (code + 4)
  else if code = 45 then some 62
  else if code = 95 then some 63
  else none

def encode : List UInt8 -> List Char
  | [] => []
  | [one] => [digit (one.toNat / 4), digit (one.toNat % 4 * 16)]
  | [one, two] =>
    [digit (one.toNat / 4), digit (one.toNat % 4 * 16 + two.toNat / 16), digit (two.toNat % 16 * 4)]
  | one :: two :: three :: rest =>
    digit (one.toNat / 4) :: digit (one.toNat % 4 * 16 + two.toNat / 16) ::
      digit (two.toNat % 16 * 4 + three.toNat / 64) :: digit (three.toNat % 64) :: encode rest

/-- Read digits back. -/
def decode (strict : Bool) : List Char -> Option (List UInt8)
  | [] => some []
  | [_] => none
  | [one, two] => do
      let one ← value one
      let two ← value two
      if strict && decide (two % 16 ≠ 0) then none else some [UInt8.ofNat (one * 4 + two / 16)]
  | [one, two, three] => do
      let one ← value one
      let two ← value two
      let three ← value three
      if strict && decide (three % 4 ≠ 0) then none
      else some [UInt8.ofNat (one * 4 + two / 16), UInt8.ofNat (two % 16 * 16 + three / 4)]
  | one :: two :: three :: four :: rest => do
      let one ← value one
      let two ← value two
      let three ← value three
      let four ← value four
      let rest ← decode strict rest
      some (UInt8.ofNat (one * 4 + two / 16) :: UInt8.ofNat (two % 16 * 16 + three / 4) ::
        UInt8.ofNat (three % 4 * 64 + four) :: rest)

/-! ## Reading what was written -/

/-- Every digit is read back. -/
theorem value_digit {number : Nat} (small : number < 64) : value (digit number) = some number := by
  have every : forall other : Fin 64, value (digit other.val) = some other.val := by
    decide +kernel
  exact every ⟨number, small⟩

theorem byte_lt (byte : UInt8) : byte.toNat < 256 := byte.toNat_lt

theorem byte_of {number : Nat} {byte : UInt8} (same : number = byte.toNat) : UInt8.ofNat number = byte := by
  rw [same]
  exact UInt8.ofNat_toNat

/-- Both readers read what was written. -/
theorem decode_encode (strict : Bool) (bytes : List UInt8) : decode strict (encode bytes) = some bytes := by
  induction bytes using encode.induct with
  | case1 => rfl
  | case2 one =>
    have bound := byte_lt one
    have first : one.toNat / 4 < 64 := by omega
    have second : one.toNat % 4 * 16 < 64 := by omega
    have exact : one.toNat % 4 * 16 % 16 = 0 := by omega
    have whole : one.toNat / 4 * 4 + one.toNat % 4 * 16 / 16 = one.toNat := by omega
    simp only [encode, decode, value_digit first, value_digit second, exact, byte_of whole, Option.bind_eq_bind,
      Option.bind_some, ne_eq, not_true, decide_false, Bool.and_false, Bool.false_eq_true, if_false]
  | case3 one two =>
    have boundOne := byte_lt one
    have boundTwo := byte_lt two
    have first : one.toNat / 4 < 64 := by omega
    have second : one.toNat % 4 * 16 + two.toNat / 16 < 64 := by omega
    have third : two.toNat % 16 * 4 < 64 := by omega
    have exact : two.toNat % 16 * 4 % 4 = 0 := by omega
    have wholeOne : one.toNat / 4 * 4 + (one.toNat % 4 * 16 + two.toNat / 16) / 16 = one.toNat := by omega
    have wholeTwo : (one.toNat % 4 * 16 + two.toNat / 16) % 16 * 16 + two.toNat % 16 * 4 / 4 = two.toNat := by
      omega
    simp only [encode, decode, value_digit first, value_digit second, value_digit third, exact,
      byte_of wholeOne, byte_of wholeTwo, Option.bind_eq_bind, Option.bind_some, ne_eq, not_true, decide_false,
      Bool.and_false, Bool.false_eq_true, if_false]
  | case4 one two three rest ih =>
    have boundOne := byte_lt one
    have boundTwo := byte_lt two
    have boundThree := byte_lt three
    have first : one.toNat / 4 < 64 := by omega
    have second : one.toNat % 4 * 16 + two.toNat / 16 < 64 := by omega
    have third : two.toNat % 16 * 4 + three.toNat / 64 < 64 := by omega
    have fourth : three.toNat % 64 < 64 := by omega
    have wholeOne : one.toNat / 4 * 4 + (one.toNat % 4 * 16 + two.toNat / 16) / 16 = one.toNat := by omega
    have wholeTwo : (one.toNat % 4 * 16 + two.toNat / 16) % 16 * 16 +
        (two.toNat % 16 * 4 + three.toNat / 64) / 4 = two.toNat := by omega
    have wholeThree : (two.toNat % 16 * 4 + three.toNat / 64) % 4 * 64 + three.toNat % 64 = three.toNat := by
      omega
    simp only [encode, decode, value_digit first, value_digit second, value_digit third, value_digit fourth,
      byte_of wholeOne, byte_of wholeTwo, byte_of wholeThree, ih, Option.bind_eq_bind,
      Option.bind_some]

/-- Different bytes are written differently. -/
theorem encode_injective {one two : List UInt8} (same : encode one = encode two) : one = two := by
  have read := decode_encode true one
  rw [same, decode_encode true two] at read
  exact (Option.some.inj read).symm

theorem mem_encode {bytes : List UInt8} {character : Char} (member : character ∈ encode bytes) :
    Exists fun number => character = digit number := by
  induction bytes using encode.induct with
  | case1 => exact absurd member List.not_mem_nil
  | case2 one =>
    simp only [encode, List.mem_cons, List.not_mem_nil, or_false] at member
    rcases member with rfl | rfl
    · exact ⟨_, rfl⟩
    · exact ⟨_, rfl⟩
  | case3 one two =>
    simp only [encode, List.mem_cons, List.not_mem_nil, or_false] at member
    rcases member with rfl | rfl | rfl
    · exact ⟨_, rfl⟩
    · exact ⟨_, rfl⟩
    · exact ⟨_, rfl⟩
  | case4 one two three rest ih =>
    simp only [encode, List.mem_cons] at member
    rcases member with rfl | rfl | rfl | rfl | later
    · exact ⟨_, rfl⟩
    · exact ⟨_, rfl⟩
    · exact ⟨_, rfl⟩
    · exact ⟨_, rfl⟩
    · exact ih later

theorem digit_ne_dot (number : Nat) : digit number ≠ '.' := by
  by_cases small : number < 64
  · have every : forall other : Fin 64, digit other.val ≠ '.' := by decide +kernel
    exact every ⟨number, small⟩
  · have last : digit number = '_' := by
      unfold digit
      rw [if_neg (by omega), if_neg (by omega), if_neg (by omega), if_neg (by omega)]
    rw [last]
    decide

theorem dot_notMem_encode (bytes : List UInt8) : '.' ∉ encode bytes := by
  intro member
  rcases mem_encode member with ⟨number, same⟩
  exact digit_ne_dot number same.symm

/-! ## Writing what was read -/

theorem digit_value {character : Char} {number : Nat} (read : value character = some number) :
    digit number = character ∧ number < 64 := by
  unfold value at read
  dsimp only at read
  have same : Char.ofNat character.toNat = character := Char.ofNat_toNat character
  split at read
  next capital =>
    cases read
    unfold digit
    rw [if_pos (by omega), show character.toNat - 65 + 65 = character.toNat by omega]
    exact ⟨same, by omega⟩
  · split at read
    next small =>
      cases read
      unfold digit
      rw [if_neg (by omega), if_pos (by omega), show character.toNat - 71 + 71 = character.toNat by omega]
      exact ⟨same, by omega⟩
    · split at read
      next decimal =>
        cases read
        unfold digit
        rw [if_neg (by omega), if_neg (by omega), if_pos (by omega),
          show character.toNat + 4 - 4 = character.toNat by omega]
        exact ⟨same, by omega⟩
      · split at read
        next minus =>
          cases read
          rw [minus] at same
          exact ⟨same, by decide⟩
        · split at read
          next underscore =>
            cases read
            rw [underscore] at same
            exact ⟨same, by decide⟩
          · cases read

/-- The strict reader takes only what the writer writes. -/
theorem encode_decode {text : List Char} {bytes : List UInt8} (read : decode true text = some bytes) :
    encode bytes = text := by
  induction text using decode.induct generalizing bytes with
  | case1 =>
    cases read
    rfl
  | case2 one => cases read
  | case3 one two =>
    simp only [decode, Option.bind_eq_bind, Option.bind_eq_some_iff] at read
    rcases read with ⟨first, readFirst, second, readSecond, rest⟩
    split at rest
    · cases rest
    next exactly =>
      cases rest
      rcases digit_value readFirst with ⟨rfl, boundFirst⟩
      rcases digit_value readSecond with ⟨rfl, boundSecond⟩
      simp only [Bool.true_and, decide_eq_true_eq, not_not] at exactly
      have byte : (UInt8.ofNat (first * 4 + second / 16)).toNat = first * 4 + second / 16 := by
        rw [UInt8.toNat_ofNat']
        omega
      simp only [encode, byte]
      rw [show (first * 4 + second / 16) / 4 = first by omega,
        show (first * 4 + second / 16) % 4 * 16 = second by omega]
  | case4 one two three =>
    simp only [decode, Option.bind_eq_bind, Option.bind_eq_some_iff] at read
    rcases read with ⟨first, readFirst, second, readSecond, third, readThird, rest⟩
    split at rest
    · cases rest
    next exactly =>
      cases rest
      rcases digit_value readFirst with ⟨rfl, boundFirst⟩
      rcases digit_value readSecond with ⟨rfl, boundSecond⟩
      rcases digit_value readThird with ⟨rfl, boundThird⟩
      simp only [Bool.true_and, decide_eq_true_eq, not_not] at exactly
      have one : (UInt8.ofNat (first * 4 + second / 16)).toNat = first * 4 + second / 16 := by
        rw [UInt8.toNat_ofNat']
        omega
      have two : (UInt8.ofNat (second % 16 * 16 + third / 4)).toNat = second % 16 * 16 + third / 4 := by
        rw [UInt8.toNat_ofNat']
        omega
      simp only [encode, one, two]
      rw [show (first * 4 + second / 16) / 4 = first by omega,
        show (first * 4 + second / 16) % 4 * 16 + (second % 16 * 16 + third / 4) / 16 = second by omega,
        show (second % 16 * 16 + third / 4) % 16 * 4 = third by omega]
  | case5 one two three four rest ih =>
    simp only [decode, Option.bind_eq_bind, Option.bind_eq_some_iff] at read
    rcases read with ⟨first, readFirst, second, readSecond, third, readThird, fourth, readFourth, others,
      readRest, whole⟩
    cases whole
    rcases digit_value readFirst with ⟨rfl, boundFirst⟩
    rcases digit_value readSecond with ⟨rfl, boundSecond⟩
    rcases digit_value readThird with ⟨rfl, boundThird⟩
    rcases digit_value readFourth with ⟨rfl, boundFourth⟩
    have one : (UInt8.ofNat (first * 4 + second / 16)).toNat = first * 4 + second / 16 := by
      rw [UInt8.toNat_ofNat']
      omega
    have two : (UInt8.ofNat (second % 16 * 16 + third / 4)).toNat = second % 16 * 16 + third / 4 := by
      rw [UInt8.toNat_ofNat']
      omega
    have three : (UInt8.ofNat (third % 4 * 64 + fourth)).toNat = third % 4 * 64 + fourth := by
      rw [UInt8.toNat_ofNat']
      omega
    simp only [encode, one, two, three]
    rw [ih readRest, show (first * 4 + second / 16) / 4 = first by omega,
      show (first * 4 + second / 16) % 4 * 16 + (second % 16 * 16 + third / 4) / 16 = second by omega,
      show (second % 16 * 16 + third / 4) % 16 * 4 + (third % 4 * 64 + fourth) / 64 = third by omega,
      show (third % 4 * 64 + fourth) % 64 = fourth by omega]

end Base64Url
end TelegramDrive
