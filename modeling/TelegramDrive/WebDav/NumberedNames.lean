import TelegramDrive.WebDav.PortableNames

namespace TelegramDrive
namespace WebDav

/-!
# Names with a number

A number is put before the extension of a name.  It keeps a name clean, makes it longer by a
known length, and different numbers make names that differ in lower case.
-/

/-! ## The place of the number -/

theorem splitName_cases (name : Name) : splitName name = (name, []) ∨
    Exists fun stem => Exists fun extension => stem ≠ [] ∧ extension ≠ [] ∧ '.' ∉ extension ∧
      name = stem ++ '.' :: extension ∧ splitName name = (stem, '.' :: extension) := by
  unfold splitName
  dsimp only
  split
  · exact Or.inl rfl
  next parts =>
    rw [not_or] at parts
    refine Or.inr ⟨_, _, parts.1, parts.2, ?_, ?_, rfl⟩
    · intro member
      have other := List.mem_rtakeWhile_imp member
      exact absurd other (by decide)
    · have some : (name.rdropWhile fun character => decide (character ≠ '.')) ≠ [] := by
        intro nothing
        rw [nothing] at parts
        exact parts.1 rfl
      have last := List.rdropWhile_last_not (fun character => decide (character ≠ '.')) name some
      rw [decide_eq_true_eq, not_not] at last
      have whole := List.rdropWhile_append_rtakeWhile (p := fun character => decide (character ≠ '.')) (l := name)
      rw [← List.dropLast_append_getLast some, last, List.append_assoc, List.singleton_append] at whole
      exact whole.symm

theorem splitName_append (name : Name) : (splitName name).1 ++ (splitName name).2 = name := by
  rcases splitName_cases name with whole | ⟨stem, extension, -, -, -, same, parts⟩
  · rw [whole, List.append_nil]
  · rw [parts]
    exact same.symm

theorem disambiguateName_length (name : Name) (id : List Char) :
    (disambiguateName name id).length = name.length + 3 + id.length := by
  have parts := congrArg List.length (splitName_append name)
  unfold disambiguateName
  simp only [List.length_append, List.length_cons, List.length_nil] at parts ⊢
  omega

/-! ## Numbers -/

/-- What a number is displayed with. -/
def Numeric (id : List Char) : Prop := forall character, character ∈ id -> character = '-' ∨ character.isDigit = true

theorem numeric_toDigits (number : Nat) : Numeric (Nat.toDigits 10 number) := by
  intro character member
  exact Or.inr (Nat.isDigit_of_mem_toDigits (by decide) (by decide) member)

theorem numeric_displayed (id : Int) : Numeric (displayed id) := by
  cases id with
  | ofNat number => exact numeric_toDigits number
  | negSucc number =>
    intro character member
    rcases List.mem_cons.mp member with sign | digit
    · exact Or.inl sign
    · exact numeric_toDigits (number + 1) character digit

theorem toDigits_injective {one other : Nat} (same : Nat.toDigits 10 one = Nat.toDigits 10 other) : one = other := by
  have read := congrArg (fun digits => Nat.ofDigitChars 10 digits 0) same
  simpa using read

theorem numeric_character {character : Char} (numeric : character = '-' ∨ character.isDigit = true) :
    character.toNat < 128 ∧ character.toLower = character ∧ portable character = character ∧ character ≠ '.' := by
  rcases numeric with rfl | digit
  · decide
  · have range : 48 ≤ character.toNat ∧ character.toNat ≤ 57 := by
      unfold Char.isDigit at digit
      rw [Bool.and_eq_true, decide_eq_true_eq, decide_eq_true_eq] at digit
      exact digit
    have digits : forall number : Fin 10, (Char.ofNat (48 + number)).toNat < 128 ∧
        (Char.ofNat (48 + number)).toLower = Char.ofNat (48 + number) ∧
        portable (Char.ofNat (48 + number)) = Char.ofNat (48 + number) ∧ Char.ofNat (48 + number) ≠ '.' := by decide
    have here := digits ⟨character.toNat - 48, by omega⟩
    have same : 48 + (character.toNat - 48) = character.toNat := by omega
    simp only [same, Char.ofNat_toNat] at here
    exact here

/-! ## Lower case -/

section Lower

variable {table : CaseTable}

theorem separates_ascii {character : Char} (ascii : character.toNat < 128) (letter : character.isAlpha = false)
    (marked : decide (character.toNat ∈ [0x27, 0x2E, 0x3A, 0x5E, 0x60]) = false) : table.Separates character := by
  constructor
  · exact (table.cased_ascii character ascii).trans letter
  · exact (table.ignorable_ascii character ascii).trans marked
  · rintro rfl
    exact absurd ascii (by decide)

theorem lowercase_numeric {id : List Char} (numeric : Numeric id) : table.lowercase id = id := by
  apply CaseTable.lowercase_plain
  intro character member
  rcases numeric_character (numeric character member) with ⟨ascii, lower, -, -⟩
  constructor
  · rintro rfl
    exact absurd ascii (by decide)
  · rw [table.lower_ascii character ascii, lower]

theorem lowercase_disambiguateName (name : Name) {id : List Char} (numeric : Numeric id) :
    table.lowercase (disambiguateName name id) =
      table.lowercase (splitName name).1 ++ ([' ', '('] ++ id ++ [')'] ++ table.lowercase (splitName name).2) := by
  have space : table.Separates ' ' := separates_ascii (by decide) (by decide) (by decide)
  have opening : table.Separates '(' := separates_ascii (by decide) (by decide) (by decide)
  have closing : table.Separates ')' := separates_ascii (by decide) (by decide) (by decide)
  have inner : table.lowercase ('(' :: (id ++ ')' :: (splitName name).2)) =
      ['('] ++ (id ++ [')'] ++ table.lowercase (splitName name).2) := by
    have front := CaseTable.lowercase_separated opening [] (id ++ ')' :: (splitName name).2)
    rw [List.nil_append] at front
    rw [front, CaseTable.lowercase_separated closing, lowercase_numeric numeric, table.lower_ascii '(' (by decide),
      table.lower_ascii ')' (by decide)]
    rfl
  have whole : disambiguateName name id =
      (splitName name).1 ++ ' ' :: ('(' :: (id ++ ')' :: (splitName name).2)) := by
    unfold disambiguateName
    simp only [List.append_assoc, List.cons_append, List.nil_append]
  rw [whole, CaseTable.lowercase_separated space, inner, table.lower_ascii ' ' (by decide)]
  simp only [List.append_assoc, List.cons_append, List.nil_append]
  rfl

/-- Different numbers give names that differ in lower case. -/
theorem disambiguateName_injective {name : Name} {one other : List Char} (numeric : Numeric one)
    (numeric' : Numeric other)
    (same : table.lowercase (disambiguateName name one) = table.lowercase (disambiguateName name other)) :
    one = other := by
  rw [lowercase_disambiguateName name numeric, lowercase_disambiguateName name numeric'] at same
  have tails := List.append_cancel_left same
  simp only [List.append_assoc, List.cons_append, List.nil_append, List.cons.injEq, true_and] at tails
  have endings : one ++ (')' :: table.lowercase (splitName name).2) =
      other ++ (')' :: table.lowercase (splitName name).2) := tails
  exact List.append_cancel_right endings

theorem lowercase_length_disambiguateName (table : CaseTable) (name : Name) {id : List Char} (numeric : Numeric id) :
    (table.lowercase (disambiguateName name id)).length = (table.lowercase name).length + 3 + id.length := by
  have parts := CaseTable.lowercase_length_append table (splitName name).1 (splitName name).2
  rw [splitName_append] at parts
  rw [lowercase_disambiguateName name numeric]
  simp only [List.length_append, List.length_cons, List.length_nil]
  omega

/-- No two attempts for an item have the same lower case. -/
theorem aliasAttempt_injective (table : CaseTable) (candidate : Name) :
    Function.Injective fun number => table.lowercase (aliasAttempt candidate number) := by
  have longer : forall number, (table.lowercase candidate).length <
      (table.lowercase (aliasAttempt candidate (number + 1))).length := by
    intro number
    have length := lowercase_length_disambiguateName table candidate (numeric_toDigits (number + 2))
    show _ < (table.lowercase (disambiguateName candidate _)).length
    omega
  intro one other same
  change table.lowercase (aliasAttempt candidate one) = table.lowercase (aliasAttempt candidate other) at same
  cases one with
  | zero =>
    cases other with
    | zero => rfl
    | succ other =>
      have bound := longer other
      rw [← same] at bound
      exact absurd bound (Nat.lt_irrefl _)
  | succ one =>
    cases other with
    | zero =>
      have bound := longer one
      rw [same] at bound
      exact absurd bound (Nat.lt_irrefl _)
    | succ other =>
      have digits := disambiguateName_injective (numeric_toDigits _) (numeric_toDigits _) same
      have equal := toDigits_injective digits
      omega

end Lower

/-! ## Clean names with a number -/

theorem takeWhile_stem {front rest : List Char} (dot : '.' ∈ front) :
    ((front ++ rest).takeWhile fun character => decide (character ≠ '.')) =
      front.takeWhile fun character => decide (character ≠ '.') := by
  induction front with
  | nil => cases dot
  | cons first front ih =>
    by_cases same : first = '.'
    · rw [same]
      rfl
    · have kept : decide (first ≠ '.') = true := decide_eq_true same
      rcases List.mem_cons.mp dot with here | later
      · exact (same here.symm).elim
      · simp only [List.cons_append, List.takeWhile_cons, kept, if_true]
        rw [ih later]

theorem Clean.disambiguate {name : Name} (clean : Clean name) {id : List Char} (numeric : Numeric id) :
    Clean (disambiguateName name id) := by
  have parts := splitName_append name
  have front : forall character, character ∈ (splitName name).1 -> character ∈ name := by
    intro character member
    rw [← parts]
    exact List.mem_append_left _ member
  have back : forall character, character ∈ (splitName name).2 -> character ∈ name := by
    intro character member
    rw [← parts]
    exact List.mem_append_right _ member
  constructor
  · intro character member
    unfold disambiguateName at member
    simp only [List.mem_append, List.mem_cons, List.not_mem_nil, or_false] at member
    rcases member with member | (((rfl | rfl) | member) | rfl) | member
    · exact clean.portable character (front character member)
    · decide
    · decide
    · exact (numeric_character (numeric character member)).2.2.1
    · decide
    · exact clean.portable character (back character member)
  · intro nothing
    have length := disambiguateName_length name id
    rw [nothing, List.length_nil] at length
    omega
  · intro character last
    unfold disambiguateName at last
    rcases splitName_cases name with whole | ⟨stem, extension, -, some, -, same, split⟩
    · rw [whole, List.append_nil, ← List.append_assoc, List.getLast?_concat] at last
      cases last
      decide
    · apply clean.ends character
      rw [split] at last
      rw [same]
      rw [← List.append_assoc, List.getLast?_append_of_ne_nil _ (List.cons_ne_nil _ _)] at last
      rw [List.getLast?_append_of_ne_nil _ (List.cons_ne_nil _ _)]
      exact last
  · by_cases dot : '.' ∈ (splitName name).1
    · have free := clean.free
      unfold isWindowsReservedName at free ⊢
      unfold disambiguateName
      rw [takeWhile_stem dot]
      rw [← parts, takeWhile_stem dot] at free
      exact free
    · apply reserved_space
      unfold disambiguateName
      rw [List.takeWhile_append_of_pos (by
        intro character member
        rw [decide_eq_true_eq]
        rintro rfl
        exact dot member)]
      exact List.mem_append_right _ List.mem_cons_self

end WebDav
end TelegramDrive
