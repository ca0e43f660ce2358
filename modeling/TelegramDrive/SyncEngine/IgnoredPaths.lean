import TelegramDrive.SyncEngine.LocalScan

namespace TelegramDrive
namespace SyncEngine

/-!
# Ignoring a path on both sides

The walk tests directory names, with and without a trailing slash, while the
remote and the recorded trees are filtered by whole paths.  The two agree on a
directory pattern: what it matches it also matches after any extension.  They
differ on the other patterns, and on the reserved suffix, since a directory
that such a pattern names is pruned although the paths below it are not ignored.
-/

/-- `retain_tree_paths`: the ignored paths leave all three trees. -/
def retainTreePaths (preferences : SyncPreferences) (trees : FileTree × FileTree × SyncedTree) :
    FileTree × FileTree × SyncedTree :=
  (trees.1.filter fun path _ => !preferences.ignores path,
    trees.2.1.filter fun path _ => !preferences.ignores path,
    trees.2.2.filter fun path _ => !preferences.ignores path)

/-- A directory is pruned by its reserved name, or by a pattern without a
trailing slash that matches its path or its path with a slash. -/
def prunedByName (preferences : SyncPreferences) (directory : List Char) : Bool :=
  isReserved directory ||
    preferences.ignorePatterns.any fun pattern =>
      stripTrailingSlash pattern.toList == none &&
        (matchesFilePattern pattern.toList directory ||
          matchesFilePattern pattern.toList (directory ++ ['/']))

/-- A directory pattern that prunes a directory matches the paths below it too. -/
theorem matchesIgnorePattern_below {pattern directory rest : List Char}
    (matched : matchesIgnorePattern pattern directory = true ∨
      matchesIgnorePattern pattern (directory ++ ['/']) = true) :
    matchesIgnorePattern pattern (directory ++ '/' :: rest) = true ∨
      (stripTrailingSlash pattern = none ∧ (matchesFilePattern pattern directory = true ∨
        matchesFilePattern pattern (directory ++ ['/']) = true)) := by
  unfold matchesIgnorePattern at matched ⊢
  cases stripped : stripTrailingSlash pattern with
  | none =>
    rw [stripped] at matched
    exact .inr ⟨rfl, matched⟩
  | some directoryPattern =>
    rw [stripped] at matched
    left
    rcases matched with bare | slashed
    · exact matchesDirectoryPattern_append ('/' :: rest) bare
    · have extended := matchesDirectoryPattern_append rest slashed
      rwa [List.append_assoc, List.singleton_append] at extended

private theorem ignores_iff (preferences : SyncPreferences) (path : List Char) :
    preferences.ignores (String.ofList path) = true ↔
      isReserved path = true ∨ Exists fun pattern => pattern ∈ preferences.ignorePatterns ∧
        matchesIgnorePattern pattern.toList path = true := by
  rw [SyncPreferences.ignores, Bool.or_eq_true, List.any_eq_true, String.toList_ofList]

private theorem prunedByName_iff (preferences : SyncPreferences) (directory : List Char) :
    prunedByName preferences directory = true ↔
      isReserved directory = true ∨ Exists fun pattern => pattern ∈ preferences.ignorePatterns ∧
        stripTrailingSlash pattern.toList = none ∧
          (matchesFilePattern pattern.toList directory = true ∨
            matchesFilePattern pattern.toList (directory ++ ['/']) = true) := by
  simp [prunedByName]

private theorem ofList_append_slash (directory : List Char) :
    String.ofList directory ++ "/" = String.ofList (directory ++ ['/']) :=
  String.ofList_append.symm

/-- A pruned directory makes the paths below it ignored, or is pruned by its name. -/
theorem pruned_below (rest : List Char) {preferences : SyncPreferences} {directory : List Char}
    (pruned : preferences.ignores (String.ofList directory) = true ∨
      preferences.ignores (String.ofList directory ++ "/") = true) :
    preferences.ignores (String.ofList (directory ++ '/' :: rest)) = true ∨
      prunedByName preferences directory = true := by
  rw [ofList_append_slash, ignores_iff, ignores_iff, isReserved_append_slash] at pruned
  rw [ignores_iff, prunedByName_iff]
  have named : isReserved directory = true ∨ Exists fun pattern =>
      pattern ∈ preferences.ignorePatterns ∧ (matchesIgnorePattern pattern.toList directory = true ∨
        matchesIgnorePattern pattern.toList (directory ++ ['/']) = true) := by
    rcases pruned with (reserved | ⟨pattern, member, bare⟩) | (impossible | ⟨pattern, member, slashed⟩)
    · exact .inl reserved
    · exact .inr ⟨pattern, member, .inl bare⟩
    · cases impossible
    · exact .inr ⟨pattern, member, .inr slashed⟩
  rcases named with reserved | ⟨pattern, member, matched⟩
  · exact .inr (.inl reserved)
  · rcases matchesIgnorePattern_below matched with below | byName
    · exact .inl (.inr ⟨pattern, member, below⟩)
    · exact .inr (.inr ⟨pattern, member, byName⟩)

theorem pruned_of_prunedByName {preferences : SyncPreferences} {directory : List Char}
    (named : prunedByName preferences directory = true) :
    preferences.ignores (String.ofList directory) = true ∨
      preferences.ignores (String.ofList directory ++ "/") = true := by
  rw [ofList_append_slash, ignores_iff, ignores_iff]
  rcases (prunedByName_iff preferences directory).mp named with
    reserved | ⟨pattern, member, stripped, matched⟩
  · exact .inl (.inl reserved)
  · have same : forall path, matchesIgnorePattern pattern.toList path =
        matchesFilePattern pattern.toList path := by
      intro path
      rw [matchesIgnorePattern, stripped]
    exact Or.imp (fun bare => .inr ⟨pattern, member, by rw [same, bare]⟩)
      (fun slashed => .inr ⟨pattern, member, by rw [same, slashed]⟩) matched

/-- The walk omits the ignored paths and those below a directory pruned by its name. -/
theorem scanOmits_iff (preferences : SyncPreferences) (path : String) :
    scanOmits preferences path = true ↔
      preferences.ignores path = true ∨ Exists fun directory =>
        directory ∈ directoryPrefixes path.toList ∧ prunedByName preferences directory = true := by
  rw [scanOmits, Bool.or_eq_true, List.any_eq_true]
  constructor
  · rintro (ignored | ⟨directory, member, pruned⟩)
    · exact .inl ignored
    · rcases mem_directoryPrefixes.mp member with ⟨rest, split⟩
      have below := pruned_below rest (by simpa using pruned)
      rw [← split, String.ofList_toList] at below
      exact Or.imp id (fun named => ⟨directory, member, named⟩) below
  · refine Or.imp id ?_
    rintro ⟨directory, member, named⟩
    exact ⟨directory, member, by simpa using pruned_of_prunedByName named⟩

/-! ## Agreement -/

private theorem mem_retainTreePaths (preferences : SyncPreferences)
    (trees : FileTree × FileTree × SyncedTree) {path : String}
    (ignored : preferences.ignores path = true) :
    path ∉ (retainTreePaths preferences trees).2.1 ∧ path ∉ (retainTreePaths preferences trees).2.2 := by
  simp [retainTreePaths, Std.TreeMap.mem_filter, ignored]

/-- For an existing file, the scan omits the path exactly when it is ignored, and
then the remote and recorded trees lose it too, if and only if the path is
ignored or no directory named in it is pruned by its name. -/
theorem scan_agrees_with_ignores_iff {root : String} {preferences : SyncPreferences}
    {mode : LocalScanMode} {synced : Option SyncedTree} {now : Int} {entries : Entries}
    {scan : LocalScan} (scanned : scanLocal root preferences mode synced now entries = .ok scan)
    {components : List DiskName} {file : DiskFile}
    (existing : (components, file) ∈ allFiles entries) (trees : FileTree × FileTree × SyncedTree) :
    ((joinPath components ∉ scan.tree ↔ preferences.ignores (joinPath components) = true) ∧
        (joinPath components ∉ scan.tree ->
          joinPath components ∉ (retainTreePaths preferences trees).2.1 ∧
            joinPath components ∉ (retainTreePaths preferences trees).2.2)) ↔
      (preferences.ignores (joinPath components) = true ∨
        forall directory, directory ∈ directoryPrefixes (joinPath components).toList ->
          prunedByName preferences directory = false) := by
  have omitted : joinPath components ∉ scan.tree ↔
      scanOmits preferences (joinPath components) = true := by
    rw [mem_scanLocal scanned existing, Bool.not_eq_false]
  rw [omitted, scanOmits_iff]
  constructor
  · rintro ⟨agree, -⟩
    by_cases ignored : preferences.ignores (joinPath components) = true
    · exact .inl ignored
    · right
      intro directory member
      rw [Bool.eq_false_iff]
      exact fun named => ignored (agree.mp (.inr ⟨directory, member, named⟩))
  · intro condition
    have onlyIgnored : (preferences.ignores (joinPath components) = true ∨ Exists fun directory =>
        directory ∈ directoryPrefixes (joinPath components).toList ∧
          prunedByName preferences directory = true) ->
        preferences.ignores (joinPath components) = true := by
      rintro (ignored | ⟨directory, member, named⟩)
      · exact ignored
      · rcases condition with ignored | clear
        · exact ignored
        · rw [clear directory member] at named
          cases named
    exact ⟨⟨onlyIgnored, .inl⟩, fun left => mem_retainTreePaths preferences trees (onlyIgnored left)⟩

/-! ## A directory named by a pattern without a slash -/

def buildComponents : List DiskName :=
  [⟨"build", true, by decide, by decide⟩, ⟨"x", true, by decide, by decide⟩]

def buildFile : DiskFile :=
  { metadata := .ok { fileSize := 1, modifiedAt := some 0 }, digest := .ok "00" }

/-- The folder holds `build/x` and nothing else. -/
def buildFolder : Entries :=
  .more ⟨"build", true, by decide, by decide⟩
    (.directory (.more ⟨"x", true, by decide, by decide⟩ (.file buildFile) .none)) .none

def buildPreferences (pattern : String) : SyncPreferences :=
  { (default : SyncPreferences) with ignorePatterns := [pattern] }

def buildRemote : FileTree :=
  (∅ : FileTree).insert (joinPath buildComponents)
    { hash := "v2:1", fileSize := 1, modifiedAt := some 0, messageId := some 7 }

private theorem buildFolder_files : (buildComponents, buildFile) ∈ allFiles buildFolder :=
  List.mem_singleton_self _

/-- The validated pattern `build` prunes the directory of that name, while the
path of the file in it is not ignored and stays in the remote tree. -/
theorem build_pattern_prunes_unignored_file :
    (buildPreferences "build").validated = .ok (buildPreferences "build") ∧
      (allFiles buildFolder).map (fun found => joinPath found.1) = ["build/x"] ∧
      (scanLocal "/sync" (buildPreferences "build") .hashEveryFile none 100 buildFolder).toOption.map
        (fun scan => decide ("build/x" ∈ scan.tree)) = some false ∧
      (buildPreferences "build").ignores "build/x" = false ∧
      "build/x" ∈ (retainTreePaths (buildPreferences "build") (∅, buildRemote, ∅)).2.1 := by
  decide +kernel

/-- With the directory pattern `build/` the two sides agree on that file. -/
theorem build_directory_pattern_agrees :
    Exists fun scan : LocalScan =>
      scanLocal "/sync" (buildPreferences "build/") .hashEveryFile none 100 buildFolder = .ok scan ∧
        ((joinPath buildComponents ∉ scan.tree ↔
            (buildPreferences "build/").ignores (joinPath buildComponents) = true) ∧
          (joinPath buildComponents ∉ scan.tree ->
            joinPath buildComponents ∉
                (retainTreePaths (buildPreferences "build/") (∅, buildRemote, ∅)).2.1 ∧
              joinPath buildComponents ∉
                (retainTreePaths (buildPreferences "build/") (∅, buildRemote, ∅)).2.2)) :=
  have ignored : (buildPreferences "build/").ignores (joinPath buildComponents) = true := by
    decide +kernel
  have scanned : scanLocal "/sync" (buildPreferences "build/") .hashEveryFile none 100 buildFolder =
      .ok default := rfl
  ⟨default, scanned,
    (scan_agrees_with_ignores_iff scanned buildFolder_files (∅, buildRemote, ∅)).mpr (.inl ignored)⟩

end SyncEngine
end TelegramDrive
