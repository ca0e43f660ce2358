import TelegramDrive.Library.FirstFree
import TelegramDrive.Library.Lowercase
import Mathlib.Data.List.DropRight

namespace TelegramDrive
namespace WebDav

/-!
# Names that WebDAV shows

A remote name may be any text, while the clients of WebDAV need names that are file names on
every system.  A name is first made portable.  Where names of one folder meet, each of them
gets a number in parentheses, and a further one as long as the result is taken.
-/

abbrev Name := List Char

/-! ## Portable names -/

/-- `char::is_control` -/
def isControl (character : Char) : Bool :=
  decide (character.toNat < 0x20 ∨ (0x7F ≤ character.toNat ∧ character.toNat < 0xA0))

def forbidden : List Char := "<>:\"/\\|?*".toList

def portable (character : Char) : Char :=
  if character ∈ forbidden then '_' else if isControl character then '_' else character

def withoutPlus : List Char -> List Char
  | '+' :: digits => digits
  | digits => digits

/-- `str::parse` for a `u8`. -/
def parseU8 (text : List Char) : Option Nat :=
  let digits := withoutPlus text
  if digits ≠ [] ∧ digits.all Char.isDigit = true ∧ Nat.ofDigitChars 10 digits 0 ≤ 255 then
    some (Nat.ofDigitChars 10 digits 0)
  else none

def stripFront (front text : List Char) : Option (List Char) :=
  if front.isPrefixOf text then some (text.drop front.length) else none

/-- A stem in capitals that names a device. -/
def isDevice (stem : List Char) : Bool :=
  decide (stem ∈ ["CON".toList, "PRN".toList, "AUX".toList, "NUL".toList]) ||
    (((stripFront "COM".toList stem).or (stripFront "LPT".toList stem)).bind parseU8).any fun number =>
      decide (1 ≤ number ∧ number ≤ 9)

def isWindowsReservedName (name : Name) : Bool :=
  isDevice ((name.takeWhile fun character => decide (character ≠ '.')).map Char.toUpper)

/-- The characters that are taken from the end. -/
def isTrailing (character : Char) : Bool := decide (character = '.' ∨ character = ' ')

def maxNameLength : Nat := 240

/-- `sanitize_name` up to its last step. -/
def cleanName (name : Name) : Name :=
  let trimmed := (name.map portable).rdropWhile isTrailing
  let named := if trimmed = [] then "Untitled".toList else trimmed
  if isWindowsReservedName named then '_' :: named else named

def sanitizeName (name : Name) : Name :=
  let sanitized := cleanName name
  if maxNameLength < sanitized.length then sanitized.take maxNameLength else sanitized

inductive FsError
  | forbidden
deriving DecidableEq

def validatePortableName (name : Name) : Except FsError Name :=
  if name = [] ∨ name = ['.'] ∨ name = ['.', '.'] ∨
      (name.any fun character => decide (character = '/' ∨ character.toNat = 0)) = true then .error .forbidden
  else if sanitizeName name ≠ name then .error .forbidden
  else .ok (sanitizeName name)

/-! ## Numbers in names -/

/-- The parts of a name around a number: before its extension, and the extension with its dot. -/
def splitName (name : Name) : Name × Name :=
  let extension := name.rtakeWhile fun character => decide (character ≠ '.')
  let stem := (name.rdropWhile fun character => decide (character ≠ '.')).dropLast
  if stem = [] ∨ extension = [] then (name, []) else (stem, '.' :: extension)

/-- `disambiguate_name`, with the text of the number. -/
def disambiguateName (name : Name) (id : List Char) : Name :=
  (splitName name).1 ++ ([' ', '('] ++ id ++ [')'] ++ (splitName name).2)

/-- An integer as it is displayed. -/
def displayed : Int -> List Char
  | .ofNat number => Nat.toDigits 10 number
  | .negSucc number => '-' :: Nat.toDigits 10 (number + 1)

/-- The names that `unique_aliases` tries for an item. -/
def aliasAttempt (candidate : Name) : Nat -> Name
  | 0 => candidate
  | number + 1 => disambiguateName candidate (Nat.toDigits 10 (number + 2))

section Aliases

variable (table : CaseTable)

/-- The first attempt whose lower case is not used.  The loop of the source has no bound; here
it has one that is never reached. -/
def firstFree (used : List (List Char)) (attempt : Nat -> List Char) : Option (List Char) :=
  (FirstFree.search used (fun number => table.lowercase (attempt number)) (used.length + 1) 0).map attempt

def candidate (total : List Char -> Nat) (id : Int) (name : Name) : Name :=
  if 1 < total (table.lowercase name) then disambiguateName name (displayed id) else name

def aliasesFrom (total : List Char -> Nat) : List (List Char) -> List (Int × Name) -> Option (List Name)
  | _, [] => some []
  | used, (id, name) :: items => do
      let unique <- firstFree table used (aliasAttempt (candidate table total id name))
      let others <- aliasesFrom total (table.lowercase unique :: used) items
      return unique :: others

/-- How many names have a lower case. -/
def totals (names : List Name) (key : List Char) : Nat :=
  names.countP fun name => decide (table.lowercase name = key)

def uniqueAliases (items : List (Int × Name)) : Option (List Name) :=
  let sanitized := items.map fun (id, name) => (id, sanitizeName name)
  aliasesFrom table (totals table (sanitized.map Prod.snd)) [] sanitized

end Aliases

end WebDav
end TelegramDrive
