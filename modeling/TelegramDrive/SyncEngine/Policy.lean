import Mathlib.Data.List.Destutter
import Mathlib.Data.List.Sort
import Mathlib.Data.String.Basic

namespace TelegramDrive
namespace SyncEngine

/-!
# Preferences of a mapping and its ignore patterns

The preferences apply to preview and execution alike.  Patterns are matched by
a rolling row of booleans, one for each prefix of the value, so no backtracking
is involved.  A pattern with a trailing slash names a directory and is tested
against the text before every slash of a path; any other pattern is tested
against the whole path and, when it contains no slash, against the last
component.

The functions below work on the characters of a path.  Nothing here reads a
file system.
-/

structure SyncPreferences where
  ignorePatterns : List String
  propagateDeletions : Bool
  pauseOnConflicts : Bool
  adoptMatchingFiles : Bool
deriving DecidableEq

instance : Inhabited SyncPreferences where
  default :=
    { ignorePatterns := [".git/", "node_modules/", ".DS_Store"]
      propagateDeletions := false
      pauseOnConflicts := true
      adoptMatchingFiles := false }

/-! ## The wildcard matcher -/

/-- The row of `*`: an entry is set from the first set entry of the previous
row on.  `carried` is the entry just computed. -/
def starRow : Bool -> List Bool -> List Bool
  | _, [] => []
  | carried, entry :: rest => (entry || carried) :: starRow (entry || carried) rest

/-- The row of any other pattern character, without its first entry. -/
def characterRow (character : Char) : List Char -> List Bool -> List Bool
  | actual :: value, entry :: rest =>
    (entry && (character == '?' || character == actual)) :: characterRow character value rest
  | _, _ => []

def nextRow (value : List Char) (previous : List Bool) (character : Char) : List Bool :=
  if character = '*' then starRow false previous
  else false :: characterRow character value previous

/-- `wildcard_match`: `*` stands for any run of characters, `?` for one. -/
def wildcardMatch (pattern value : List Char) : Bool :=
  (pattern.foldl (nextRow value) (true :: List.replicate value.length false)).getLast? == some true

/-! ## Slashes -/

/-- The texts that stand before some slash of a path, shortest first. -/
def directoryPrefixes : List Char -> List (List Char)
  | [] => []
  | character :: rest =>
    (if character = '/' then [[]] else []) ++ (directoryPrefixes rest).map (character :: ·)

/-- The text after the last slash. -/
def baseName (path : List Char) : List Char :=
  (path.reverse.takeWhile (· ≠ '/')).reverse

/-- `strip_suffix('/')`. -/
def stripTrailingSlash (pattern : List Char) : Option (List Char) :=
  if pattern.getLast? = some '/' then some pattern.dropLast else none

theorem mem_directoryPrefixes {directory path : List Char} :
    directory ∈ directoryPrefixes path ↔ Exists fun rest => path = directory ++ '/' :: rest := by
  induction path generalizing directory with
  | nil => simp [directoryPrefixes]
  | cons character path ih =>
    rw [directoryPrefixes, List.mem_append, List.mem_map]
    cases directory with
    | nil =>
      by_cases slash : character = '/'
      · simp [slash]
      · simp [slash]
    | cons first directory =>
      constructor
      · rintro (impossible | ⟨shorter, member, same⟩)
        · split at impossible <;> simp at impossible
        · rcases List.cons.inj same with ⟨rfl, rfl⟩
          rcases ih.mp member with ⟨rest, split⟩
          exact ⟨rest, by rw [split, List.cons_append]⟩
      · rintro ⟨rest, split⟩
        rw [List.cons_append] at split
        rcases List.cons.inj split with ⟨sameHead, sameTail⟩
        exact .inr ⟨directory, ih.mpr ⟨rest, sameTail⟩, by rw [sameHead]⟩

theorem directoryPrefixes_append {directory path : List Char} (extension : List Char)
    (member : directory ∈ directoryPrefixes path) :
    directory ∈ directoryPrefixes (path ++ extension) := by
  rw [mem_directoryPrefixes] at member ⊢
  rcases member with ⟨rest, rfl⟩
  exact ⟨rest ++ extension, by simp⟩

/-! ## Ignored paths -/

/-- A directory pattern matches through some directory named in the path. -/
def matchesDirectoryPattern (pattern path : List Char) : Bool :=
  (directoryPrefixes path).any fun directory =>
    wildcardMatch pattern directory ||
      (!pattern.contains '/' && wildcardMatch pattern (baseName directory))

/-- A pattern without a trailing slash matches the path or its last component. -/
def matchesFilePattern (pattern path : List Char) : Bool :=
  wildcardMatch pattern path ||
    (!pattern.contains '/' && wildcardMatch pattern (baseName path))

def matchesIgnorePattern (pattern path : List Char) : Bool :=
  match stripTrailingSlash pattern with
  | some directoryPattern => matchesDirectoryPattern directoryPattern path
  | none => matchesFilePattern pattern path

/-- Reserved staging artifacts, whatever the patterns. -/
def reservedSuffix : List Char := ".td-sync-tmp".toList

def isReserved (path : List Char) : Bool := reservedSuffix.isSuffixOf path

namespace SyncPreferences

/-- `ignores`: a reserved staging artifact, or a path some pattern matches. -/
def ignores (preferences : SyncPreferences) (relativePath : String) : Bool :=
  isReserved relativePath.toList ||
    preferences.ignorePatterns.any fun pattern =>
      matchesIgnorePattern pattern.toList relativePath.toList

end SyncPreferences

theorem matchesDirectoryPattern_append {pattern path : List Char} (extension : List Char)
    (matched : matchesDirectoryPattern pattern path = true) :
    matchesDirectoryPattern pattern (path ++ extension) = true := by
  rw [matchesDirectoryPattern, List.any_eq_true] at matched ⊢
  rcases matched with ⟨directory, member, accepted⟩
  exact ⟨directory, directoryPrefixes_append extension member, accepted⟩

private theorem reservedSuffix_getLast : reservedSuffix.getLast? = some 'p' := by decide

theorem isReserved_append_slash (path : List Char) : isReserved (path ++ ['/']) = false := by
  rw [Bool.eq_false_iff, isReserved, Ne, List.isSuffixOf_iff_suffix]
  rintro ⟨before, same⟩
  have last : (before ++ reservedSuffix).getLast? = (path ++ ['/']).getLast? := by rw [same]
  rw [List.getLast?_append, reservedSuffix_getLast, List.getLast?_concat, Option.some_or] at last
  exact absurd (Option.some.inj last) (by decide)

/-! ## Validation -/

/-- The characters `trim` removes, the Unicode white space. -/
def isTrimmed (character : Char) : Bool :=
  let code := character.toNat
  (9 ≤ code && code ≤ 13) || code == 0x20 || code == 0x85 || code == 0xA0 || code == 0x1680 ||
    (0x2000 ≤ code && code ≤ 0x200A) || code == 0x2028 || code == 0x2029 || code == 0x202F ||
    code == 0x205F || code == 0x3000

/-- `char::is_control`: the category Cc. -/
def isControl (character : Char) : Bool :=
  let code := character.toNat
  code ≤ 0x1F || (0x7F ≤ code && code ≤ 0x9F)

def trim (text : List Char) : List Char :=
  (((text.dropWhile isTrimmed).reverse).dropWhile isTrimmed).reverse

/-- The components of a pattern between its slashes. -/
def splitSlashes : List Char -> List (List Char)
  | [] => [[]]
  | character :: rest =>
    match splitSlashes rest with
    | [] => [[character]]
    | part :: parts => if character = '/' then [] :: part :: parts else (character :: part) :: parts

/-- One pattern as `validated` checks it, after trimming. -/
def validatedPattern (pattern : String) : Except String String :=
  let trimmed := trim pattern.toList
  if (String.ofList trimmed).utf8ByteSize > 256 || trimmed.any isControl then
    .error "Each ignore pattern must contain at most 256 printable bytes"
  else if trimmed.head? == some '/' || trimmed.contains '\\' ||
      (splitSlashes trimmed).any (fun part => part == "..".toList || part == ".".toList) then
    .error "Ignore patterns must be relative paths using / separators"
  else .ok (String.ofList trimmed)

/-- Removal of equal neighbours. -/
def dedup (patterns : List String) : List String := patterns.destutter (· ≠ ·)

def SyncPreferences.validated (preferences : SyncPreferences) : Except String SyncPreferences :=
  if preferences.ignorePatterns.length > 128 then
    .error "Use at most 128 ignore patterns"
  else do
    let patterns <- preferences.ignorePatterns.mapM validatedPattern
    .ok { preferences with
      ignorePatterns := dedup ((patterns.filter (· ≠ "")).insertionSort (· ≤ ·)) }

end SyncEngine
end TelegramDrive
