import Mathlib.Data.List.Basic

namespace TelegramDrive

/-!
# Lower case

The lower case of a text is that of its characters, except for the capital sigma, whose form
depends on whether it ends a word.  The tables of characters are a parameter, of which only
the part in ASCII is fixed.  A character that is neither a letter nor ignored beside letters
separates a text: both sides get their lower case on their own.
-/

/-- What a table of Unicode says about characters. -/
structure CaseTable where
  lower : Char -> List Char
  cased : Char -> Bool
  ignorable : Char -> Bool
  lower_ascii : forall character : Char, character.toNat < 128 -> lower character = [character.toLower]
  cased_ascii : forall character : Char, character.toNat < 128 -> cased character = character.isAlpha
  ignorable_ascii : forall character : Char, character.toNat < 128 ->
    ignorable character = decide (character.toNat ∈ [0x27, 0x2E, 0x3A, 0x5E, 0x60])

namespace CaseTable

variable (table : CaseTable)

def capitalSigma : Char := Char.ofNat 0x3A3

def smallSigma : Char := Char.ofNat 0x3C3

def finalSigma : Char := Char.ofNat 0x3C2

def caseIgnorableThenCased (text : List Char) : Bool :=
  match text.dropWhile table.ignorable with
  | character :: _ => table.cased character
  | [] => false

/-- The form of a capital sigma between two texts, the first of which is reversed. -/
def mapUppercaseSigma (before after : List Char) : Char :=
  if table.caseIgnorableThenCased before && !table.caseIgnorableThenCased after then finalSigma else smallSigma

def lowerOne (before after : List Char) (character : Char) : List Char :=
  if character = capitalSigma then [table.mapUppercaseSigma before after] else table.lower character

def lowercaseFrom : List Char -> List Char -> List Char
  | _, [] => []
  | before, character :: after =>
    table.lowerOne before after character ++ lowercaseFrom (character :: before) after

/-- `str::to_lowercase` -/
def lowercase (text : List Char) : List Char := table.lowercaseFrom [] text

/-- A character that the lower case of no other character depends on. -/
structure Separates (character : Char) : Prop where
  cased : table.cased character = false
  ignorable : table.ignorable character = false
  letter : character ≠ capitalSigma

variable {table}

theorem caseIgnorableThenCased_append {separator : Char} (separates : table.Separates separator)
    (text rest : List Char) :
    table.caseIgnorableThenCased (text ++ separator :: rest) = table.caseIgnorableThenCased text := by
  unfold caseIgnorableThenCased
  induction text with
  | nil =>
    rw [List.nil_append, List.dropWhile_cons_of_neg (by rw [separates.ignorable]; exact Bool.false_ne_true)]
    exact separates.cased
  | cons character text ih =>
    rw [List.cons_append]
    cases ignored : table.ignorable character with
    | true =>
      rw [List.dropWhile_cons_of_pos ignored, List.dropWhile_cons_of_pos ignored]
      exact ih
    | false =>
      have kept : ¬ table.ignorable character = true := by
        rw [ignored]
        exact Bool.false_ne_true
      rw [List.dropWhile_cons_of_neg kept, List.dropWhile_cons_of_neg kept]

/-- What stands before a separator does not matter behind it. -/
theorem lowercaseFrom_append {separator : Char} (separates : table.Separates separator) (before earlier text : List Char) :
    table.lowercaseFrom (before ++ separator :: earlier) text = table.lowercaseFrom before text := by
  induction text generalizing before with
  | nil => rfl
  | cons character text ih =>
    have one : table.lowerOne (before ++ separator :: earlier) text character =
        table.lowerOne before text character := by
      unfold lowerOne mapUppercaseSigma
      rw [caseIgnorableThenCased_append separates]
    rw [lowercaseFrom, lowercaseFrom, one]
    exact congrArg _ (ih (character :: before))

theorem lowercaseFrom_separated {separator : Char} (separates : table.Separates separator) (before text rest : List Char) :
    table.lowercaseFrom before (text ++ separator :: rest) =
      table.lowercaseFrom before text ++ table.lower separator ++ table.lowercase rest := by
  induction text generalizing before with
  | nil =>
    have one : table.lowerOne before rest separator = table.lower separator := if_neg separates.letter
    rw [List.nil_append, lowercaseFrom, lowercaseFrom, List.nil_append, one]
    exact congrArg _ (lowercaseFrom_append separates [] before rest)
  | cons character text ih =>
    have one : table.lowerOne before (text ++ separator :: rest) character =
        table.lowerOne before text character := by
      unfold lowerOne mapUppercaseSigma
      rw [caseIgnorableThenCased_append separates]
    rw [List.cons_append, lowercaseFrom, lowercaseFrom, one, ih, List.append_assoc,
      List.append_assoc, List.append_assoc]

/-- The sides of a separator get their lower case on their own. -/
theorem lowercase_separated {separator : Char} (separates : table.Separates separator) (text rest : List Char) :
    table.lowercase (text ++ separator :: rest) =
      table.lowercase text ++ table.lower separator ++ table.lowercase rest :=
  lowercaseFrom_separated separates [] text rest

/-- The length of the lower case does not depend on the surroundings. -/
theorem lowercaseFrom_length (before other text : List Char) :
    (table.lowercaseFrom before text).length = (table.lowercaseFrom other text).length := by
  induction text generalizing before other with
  | nil => rfl
  | cons character text ih =>
    rw [lowercaseFrom, lowercaseFrom, List.length_append, List.length_append,
      ih (character :: before) (character :: other)]
    unfold lowerOne
    split <;> rfl

theorem lowercase_length_append (table : CaseTable) (text rest : List Char) :
    (table.lowercase (text ++ rest)).length = (table.lowercase text).length + (table.lowercase rest).length := by
  have general : forall before, (table.lowercaseFrom before (text ++ rest)).length =
      (table.lowercaseFrom before text).length + (table.lowercase rest).length := by
    induction text with
    | nil =>
      intro before
      rw [List.nil_append, lowercaseFrom, List.length_nil, Nat.zero_add]
      exact lowercaseFrom_length before [] rest
    | cons character text ih =>
      intro before
      rw [List.cons_append, lowercaseFrom, lowercaseFrom, List.length_append, List.length_append,
        ih, Nat.add_assoc]
      unfold lowerOne
      split <;> rfl
  exact general []

theorem lowercase_plain {text : List Char} (plain : forall character, character ∈ text ->
    character ≠ capitalSigma ∧ table.lower character = [character]) : table.lowercase text = text := by
  have general : forall before, table.lowercaseFrom before text = text := by
    induction text with
    | nil => exact fun _ => rfl
    | cons character text ih =>
      intro before
      rcases plain character List.mem_cons_self with ⟨letter, lower⟩
      have one : table.lowerOne before text character = [character] := (if_neg letter).trans lower
      rw [lowercaseFrom, one, ih (fun other member => plain other (List.mem_cons_of_mem _ member)),
        List.singleton_append]
  exact general []

end CaseTable
end TelegramDrive
