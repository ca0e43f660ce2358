import Mathlib.Data.List.Infix
import TelegramDrive.SyncEngine.Policy
import TelegramDrive.SyncEngine.Trees

namespace TelegramDrive
namespace SyncEngine

/-!
# The walk over a mapped local folder

A folder is a tree of names.  The walk visits a directory only when the ignore
patterns accept it, with and without a trailing slash, and reports the files it
reaches.  `scanLocal` then builds the local tree: it hashes a file, or reuses
the hash recorded for it while the size and the settled modification time still
agree with the record.

The order of the entries of a directory is the order of the list.  A symbolic
link, and anything else that is neither a file nor a directory, is `special`.
-/

/-- A name in a directory, as `to_string_lossy` shows it. -/
structure DiskName where
  text : String
  utf8 : Bool
  nonempty : text ≠ ""
  noSlash : '/' ∉ text.toList
deriving DecidableEq

/-- `modifiedAt` is a whole second, absent before the epoch. -/
structure FileMetadata where
  fileSize : Nat
  modifiedAt : Option Int
deriving DecidableEq

/-- A regular file: what asking for its metadata and what hashing it gives. -/
structure DiskFile where
  metadata : Except String FileMetadata
  digest : Except String String

mutual

inductive Node
  | file (content : DiskFile)
  | directory (entries : Entries)
  | special

inductive Entries
  | none
  | more (name : DiskName) (node : Node) (rest : Entries)

end

/-- The components of a relative path joined with slashes. -/
def joinPath : List DiskName -> String
  | [] => ""
  | [name] => name.text
  | name :: rest => name.text ++ "/" ++ joinPath rest

/-- The `filter_entry` closure. -/
def filterEntry (preferences : SyncPreferences) (components : List DiskName) (isDirectory : Bool) :
    Bool :=
  let relative := joinPath components
  !(preferences.ignores relative || (isDirectory && preferences.ignores (relative ++ "/")))

/-! ## The walk -/

section Walk

variable (keep : List DiskName -> Bool -> Bool)

mutual

def walkNode (components : List DiskName) : Node -> List (List DiskName × DiskFile)
  | .file content => if keep components false then [(components, content)] else []
  | .directory entries => if keep components true then walkEntries components entries else []
  | .special => []

/-- The files below the directory `above` that the walk reaches. -/
def walkEntries (above : List DiskName) : Entries -> List (List DiskName × DiskFile)
  | .none => []
  | .more name node rest => walkNode (above ++ [name]) node ++ walkEntries above rest

end

end Walk

/-- Every file below a directory, whatever the preferences. -/
def allFiles (entries : Entries) : List (List DiskName × DiskFile) :=
  walkEntries (fun _ _ => true) [] entries

mutual

private theorem walkNode_below (components : List DiskName) (node : Node)
    {found : List DiskName × DiskFile} (member : found ∈ walkNode (fun _ _ => true) components node) :
    components <+: found.1 := by
  cases node with
  | file content =>
    rw [walkNode, if_pos rfl, List.mem_singleton] at member
    rw [member]
  | directory entries =>
    rw [walkNode, if_pos rfl] at member
    rcases walkEntries_below components entries member with ⟨name, below⟩
    exact (List.prefix_append _ _).trans below
  | special => simp [walkNode] at member

/-- A file found below a directory extends it by at least one name. -/
private theorem walkEntries_below (above : List DiskName) (entries : Entries)
    {found : List DiskName × DiskFile} (member : found ∈ walkEntries (fun _ _ => true) above entries) :
    Exists fun name => above ++ [name] <+: found.1 := by
  cases entries with
  | none => simp [walkEntries] at member
  | more name node rest =>
    rw [walkEntries, List.mem_append] at member
    rcases member with here | later
    · exact ⟨name, walkNode_below (above ++ [name]) node here⟩
    · exact walkEntries_below above rest later

end

/-- The file itself and every directory strictly between it and the walk's
start pass the filter. -/
structure Admitted (keep : List DiskName -> Bool -> Bool) (start : List DiskName -> Prop)
    (components : List DiskName) : Prop where
  file : keep components false = true
  directories : forall directory, start directory -> directory <+: components ->
    directory ≠ components -> keep directory true = true

mutual

private theorem mem_walkNode (keep : List DiskName -> Bool -> Bool) (components : List DiskName)
    (node : Node) (found : List DiskName × DiskFile) :
    found ∈ walkNode keep components node ↔
      found ∈ walkNode (fun _ _ => true) components node ∧
        Admitted keep (components <+: ·) found.1 := by
  cases node with
  | file content =>
    simp only [walkNode, if_pos, List.mem_singleton]
    constructor
    · intro member
      split at member
      next accepted =>
        rw [List.mem_singleton] at member
        subst member
        refine ⟨rfl, accepted, ?_⟩
        intro directory above below different
        exact absurd (below.eq_of_length_le above.length_le) different
      · simp at member
    · rintro ⟨rfl, admitted⟩
      simp [admitted.file]
  | directory entries =>
    simp only [walkNode, if_pos]
    constructor
    · intro member
      split at member
      next accepted =>
        rcases (mem_walkEntries keep components entries found).mp member with ⟨reached, admitted⟩
        refine ⟨reached, admitted.file, ?_⟩
        intro directory above below different
        by_cases same : directory = components
        · rw [same, accepted]
        · exact admitted.directories directory ⟨above, same⟩ below different
      · simp at member
    · rintro ⟨reached, admitted⟩
      rcases walkEntries_below components entries reached with ⟨name, below⟩
      have inside : components <+: found.1 := (List.prefix_append _ _).trans below
      have different : components ≠ found.1 := by
        intro same
        have shorter := below.length_le
        rw [← same, List.length_append, List.length_singleton] at shorter
        omega
      rw [if_pos (admitted.directories components List.prefix_rfl inside different)]
      refine (mem_walkEntries keep components entries found).mpr ⟨reached, admitted.file, ?_⟩
      intro directory start
      exact admitted.directories directory start.1
  | special => simp [walkNode]

private theorem mem_walkEntries (keep : List DiskName -> Bool -> Bool) (above : List DiskName)
    (entries : Entries) (found : List DiskName × DiskFile) :
    found ∈ walkEntries keep above entries ↔
      found ∈ walkEntries (fun _ _ => true) above entries ∧
        Admitted keep (fun directory => above <+: directory ∧ directory ≠ above) found.1 := by
  cases entries with
  | none => simp [walkEntries]
  | more name node rest =>
    rw [walkEntries, walkEntries, List.mem_append, List.mem_append,
      mem_walkNode keep (above ++ [name]) node found, mem_walkEntries keep above rest found,
      or_and_right]
    refine or_congr (and_congr_right fun reached => ?_) Iff.rfl
    have below := walkNode_below (above ++ [name]) node reached
    constructor
    · intro admitted
      refine ⟨admitted.file, ?_⟩
      rintro directory ⟨start, different⟩ inside
      refine admitted.directories directory (List.prefix_of_prefix_length_le below inside ?_) inside
      have longer : above.length ≠ directory.length :=
        fun same => different (start.eq_of_length same).symm
      have := start.length_le
      rw [List.length_append, List.length_singleton]
      omega
    · intro admitted
      refine ⟨admitted.file, ?_⟩
      intro directory start
      refine admitted.directories directory ⟨(List.prefix_append _ _).trans start, ?_⟩
      rintro rfl
      have shorter := start.length_le
      rw [List.length_append, List.length_singleton] at shorter
      omega

end

theorem mem_walk (keep : List DiskName -> Bool -> Bool) (entries : Entries)
    (found : List DiskName × DiskFile) :
    found ∈ walkEntries keep [] entries ↔
      found ∈ allFiles entries ∧ Admitted keep (· ≠ []) found.1 := by
  rw [mem_walkEntries, allFiles]
  simp only [List.nil_prefix, true_and]

/-! ## Paths as text -/

theorem joinPath_more (name next : DiskName) (rest : List DiskName) :
    (joinPath (name :: next :: rest)).toList =
      name.text.toList ++ '/' :: (joinPath (next :: rest)).toList := by
  simp [joinPath]

private theorem directoryPrefixes_component {name : List Char} (noSlash : '/' ∉ name) :
    directoryPrefixes name = [] := by
  rw [List.eq_nil_iff_forall_not_mem]
  intro directory member
  rcases mem_directoryPrefixes.mp member with ⟨rest, rfl⟩
  simp at noSlash

private theorem directoryPrefixes_more {name : List Char} (noSlash : '/' ∉ name) (rest : List Char) :
    directoryPrefixes (name ++ '/' :: rest) =
      name :: (directoryPrefixes rest).map (name ++ '/' :: ·) := by
  induction name with
  | nil => simp [directoryPrefixes]
  | cons character name ih =>
    rw [List.mem_cons, not_or] at noSlash
    rw [List.cons_append, directoryPrefixes, if_neg (Ne.symm noSlash.1),
      ih noSlash.2]
    simp

theorem mem_directoryPrefixes_joinPath {directory : List Char} (components : List DiskName) :
    directory ∈ directoryPrefixes (joinPath components).toList ↔
      Exists fun ancestor : List DiskName => ancestor ≠ [] ∧ ancestor <+: components ∧
        ancestor ≠ components ∧ directory = (joinPath ancestor).toList := by
  induction components generalizing directory with
  | nil =>
    simp only [joinPath, String.toList_empty, directoryPrefixes, List.not_mem_nil, false_iff]
    rintro ⟨ancestor, nonempty, below, -⟩
    exact nonempty (List.prefix_nil.mp below)
  | cons name rest ih =>
    cases rest with
    | nil =>
      rw [joinPath, directoryPrefixes_component name.noSlash]
      simp only [List.not_mem_nil, false_iff]
      rintro ⟨ancestor, nonempty, below, different, -⟩
      rcases List.prefix_cons_iff.mp below with rfl | ⟨tail, rfl, inside⟩
      · exact nonempty rfl
      · exact different (by rw [List.prefix_nil.mp inside])
    | cons next rest =>
      rw [joinPath_more, directoryPrefixes_more name.noSlash, List.mem_cons, List.mem_map]
      constructor
      · rintro (rfl | ⟨shorter, member, rfl⟩)
        · exact ⟨[name], by simp, by simp, by simp, rfl⟩
        · rcases ih.mp member with ⟨ancestor, nonempty, below, different, rfl⟩
          refine ⟨name :: ancestor, by simp, by simpa using below, by simpa using different, ?_⟩
          cases ancestor with
          | nil => exact absurd rfl nonempty
          | cons first ancestor => rw [joinPath_more]
      · rintro ⟨ancestor, nonempty, below, different, rfl⟩
        rcases List.prefix_cons_iff.mp below with rfl | ⟨tail, rfl, inside⟩
        · exact absurd rfl nonempty
        cases tail with
        | nil => exact .inl rfl
        | cons first tail =>
          refine .inr ⟨(joinPath (first :: tail)).toList, ?_, (joinPath_more _ _ _).symm⟩
          exact ih.mpr
            ⟨first :: tail, by simp, inside, by simpa using different, rfl⟩

/-- Whether the walk leaves out a file at a path: the path is ignored, or a
directory named in it is, with or without a trailing slash. -/
def scanOmits (preferences : SyncPreferences) (relativePath : String) : Bool :=
  preferences.ignores relativePath ||
    (directoryPrefixes relativePath.toList).any fun directory =>
      preferences.ignores (String.ofList directory) ||
        preferences.ignores (String.ofList directory ++ "/")

/-- The filter of the walk, read on the joined path. -/
theorem admitted_iff_not_scanOmits (preferences : SyncPreferences) (components : List DiskName) :
    Admitted (filterEntry preferences) (· ≠ []) components ↔
      scanOmits preferences (joinPath components) = false := by
  rw [scanOmits, Bool.or_eq_false_iff, List.any_eq_false]
  constructor
  · rintro ⟨file, directories⟩
    refine ⟨by simpa [filterEntry] using file, ?_⟩
    intro directory member
    rcases (mem_directoryPrefixes_joinPath components).mp member with
      ⟨ancestor, nonempty, below, different, rfl⟩
    simpa [filterEntry] using directories ancestor nonempty below different
  · rintro ⟨file, directories⟩
    refine ⟨by simpa [filterEntry] using file, ?_⟩
    intro ancestor nonempty below different
    have accepted := directories (joinPath ancestor).toList
      ((mem_directoryPrefixes_joinPath components).mpr ⟨ancestor, nonempty, below, different, rfl⟩)
    simpa [filterEntry] using accepted

/-! ## Hashing and recorded hashes -/

inductive LocalScanMode
  | hashEveryFile
  | reuseRecordedHashes
deriving DecidableEq

structure RecordedLocalFile where
  fileSize : Nat
  modifiedAt : Option Int
  hash : String

/-- The result of a scan.  `refreshMetadata` lists unchanged files whose
recorded size or modification time is out of date. -/
structure LocalScan where
  tree : FileTree
  hashed : Nat
  reused : Nat
  refreshMetadata : List (String × TreeEntry)

instance : Inhabited LocalScan where
  default := { tree := ∅, hashed := 0, reused := 0, refreshMetadata := [] }

/-- `RACY_MTIME_WINDOW_SECS`. -/
def racyMtimeWindowSecs : Int := 2

/-- A modification time is trusted once another write can no longer share its second. -/
def settledMtime (modifiedAt : Option Int) (now : Int) : Option Int :=
  modifiedAt.filter fun modifiedAt => now - modifiedAt ≥ racyMtimeWindowSecs

def recordedLocalFiles (synced : SyncedTree) : Std.TreeMap String RecordedLocalFile :=
  synced.filterMap fun _ entry =>
    if entry.syncStatus = .synced then
      (entry.localHash.filter (· ≠ "")).map fun hash =>
        { fileSize := entry.fileSize, modifiedAt := entry.localMtime, hash := hash }
    else none

def metadataMatches (previous : RecordedLocalFile) (metadata : FileMetadata) (now : Int) : Bool :=
  previous.fileSize == metadata.fileSize && previous.modifiedAt.isSome &&
    previous.modifiedAt == settledMtime metadata.modifiedAt now

/-- The recorded hash a scan uses instead of reading the file. -/
def reusableHash (mode : LocalScanMode) (previous : Option RecordedLocalFile)
    (metadata : FileMetadata) (now : Int) : Option String :=
  match mode, previous with
  | .reuseRecordedHashes, some previous =>
    if metadataMatches previous metadata now then some previous.hash else none
  | _, _ => none

/-- Add one hashed file to the scan.  A file whose content is as recorded while
its metadata is not is listed for a refresh once its time has settled. -/
def LocalScan.addFile (scan : LocalScan) (relativePath : String)
    (previous : Option RecordedLocalFile) (metadata : FileMetadata) (now : Int) (hash : String) :
    LocalScan :=
  let entry : TreeEntry :=
    { hash := hash
      fileSize := metadata.fileSize
      modifiedAt := metadata.modifiedAt
      messageId := none }
  let stale := previous.any fun previous =>
    previous.hash == hash && !metadataMatches previous metadata now
  { scan with
    tree := scan.tree.insert relativePath entry
    refreshMetadata :=
      if stale && (settledMtime metadata.modifiedAt now).isSome then
        scan.refreshMetadata ++ [(relativePath, entry)]
      else scan.refreshMetadata }

/-- The names the scan loop itself passes over. -/
def namedReserved (components : List DiskName) : Bool :=
  components.getLast?.any fun name => isReserved name.text.toList

/-- One step of the loop of `scan_local`. -/
def scanFile (root : String) (recorded : Std.TreeMap String RecordedLocalFile)
    (mode : LocalScanMode) (now : Int) (scan : LocalScan) (found : List DiskName × DiskFile) :
    Except String LocalScan :=
  let relativePath := joinPath found.1
  let previous := recorded[relativePath]?
  if namedReserved found.1 then .ok scan
  else if !found.1.all (·.utf8) then
    .error ("Folder contains a non-UTF-8 filename that cannot be represented safely: " ++
      root ++ "/" ++ relativePath)
  else
    match found.2.metadata with
    | .error message => .error message
    | .ok metadata =>
      match reusableHash mode previous metadata now with
      | some hash =>
        .ok ({ scan with reused := scan.reused + 1 }.addFile relativePath previous metadata now hash)
      | none =>
        match found.2.digest with
        | .error message => .error message
        | .ok hash =>
          .ok ({ scan with hashed := scan.hashed + 1 }.addFile relativePath previous metadata
            now hash)

/-- `scan_local` over a folder whose content stands still while it is read. -/
def scanLocal (root : String) (preferences : SyncPreferences) (mode : LocalScanMode)
    (synced : Option SyncedTree) (now : Int) (entries : Entries) : Except String LocalScan :=
  (walkEntries (filterEntry preferences) [] entries).foldlM
    (scanFile root ((synced.map recordedLocalFiles).getD ∅) mode now) default

/-! ## Which files a scan reports -/

@[simp] theorem LocalScan.addFile_tree (scan : LocalScan) (relativePath : String)
    (previous : Option RecordedLocalFile) (metadata : FileMetadata) (now : Int) (hash : String) :
    (scan.addFile relativePath previous metadata now hash).tree =
      scan.tree.insert relativePath
        { hash := hash, fileSize := metadata.fileSize, modifiedAt := metadata.modifiedAt,
          messageId := none } := rfl

theorem contains_scanFile {root : String} {recorded : Std.TreeMap String RecordedLocalFile}
    {mode : LocalScanMode} {now : Int} {scan next : LocalScan} {found : List DiskName × DiskFile}
    (scanned : scanFile root recorded mode now scan found = .ok next) (path : String) :
    path ∈ next.tree ↔
      path ∈ scan.tree ∨ (namedReserved found.1 = false ∧ joinPath found.1 = path) := by
  unfold scanFile at scanned
  cases reserved : namedReserved found.1 with
  | true =>
    rw [reserved, if_pos rfl] at scanned
    cases scanned
    simp
  | false =>
    rw [reserved, if_neg Bool.false_ne_true] at scanned
    split at scanned
    · cases scanned
    · split at scanned
      · cases scanned
      · split at scanned
        · cases scanned
          simp [Std.TreeMap.mem_insert, or_comm]
        · split at scanned <;> cases scanned
          simp [Std.TreeMap.mem_insert, or_comm]

/-- A scan that succeeds holds exactly the paths of the files it was given. -/
theorem contains_foldlM_scanFile {root : String} {recorded : Std.TreeMap String RecordedLocalFile}
    {mode : LocalScanMode} {now : Int} (files : List (List DiskName × DiskFile))
    {scan final : LocalScan}
    (scanned : files.foldlM (scanFile root recorded mode now) scan = .ok final) (path : String) :
    path ∈ final.tree ↔
      path ∈ scan.tree ∨ Exists fun found => found ∈ files ∧
        namedReserved found.1 = false ∧ joinPath found.1 = path := by
  induction files generalizing scan with
  | nil =>
    cases scanned
    simp
  | cons found files ih =>
    rw [List.foldlM_cons] at scanned
    cases first : scanFile root recorded mode now scan found with
    | error message =>
      rw [first] at scanned
      cases scanned
    | ok middle =>
      rw [first] at scanned
      rw [ih scanned, contains_scanFile first, or_assoc]
      simp [or_and_right, exists_or]

private theorem joinPath_suffix (components : List DiskName) (name : DiskName)
    (last : components.getLast? = some name) :
    name.text.toList <:+ (joinPath components).toList := by
  induction components with
  | nil => simp at last
  | cons first rest ih =>
    cases rest with
    | nil =>
      cases last
      exact List.suffix_rfl
    | cons next rest =>
      rw [joinPath_more]
      rw [List.getLast?_cons_cons] at last
      exact (ih last).trans ⟨first.text.toList ++ ['/'], by simp⟩

theorem ignores_of_namedReserved (preferences : SyncPreferences) {components : List DiskName}
    (reserved : namedReserved components = true) :
    preferences.ignores (joinPath components) = true := by
  rw [namedReserved, Option.any_eq_true] at reserved
  rcases reserved with ⟨name, last, named⟩
  have suffix := (List.isSuffixOf_iff_suffix.mp named).trans (joinPath_suffix components name last)
  rw [SyncPreferences.ignores, isReserved, List.isSuffixOf_iff_suffix.mpr suffix, Bool.true_or]

theorem mem_scanLocal {root : String} {preferences : SyncPreferences} {mode : LocalScanMode}
    {synced : Option SyncedTree} {now : Int} {entries : Entries} {scan : LocalScan}
    (scanned : scanLocal root preferences mode synced now entries = .ok scan)
    {components : List DiskName} {file : DiskFile}
    (existing : (components, file) ∈ allFiles entries) :
    joinPath components ∈ scan.tree ↔ scanOmits preferences (joinPath components) = false := by
  rw [contains_foldlM_scanFile _ scanned]
  constructor
  · rintro (empty | ⟨found, walked, -, same⟩)
    · exact absurd empty Std.TreeMap.not_mem_emptyc
    · rw [← same]
      exact (admitted_iff_not_scanOmits preferences found.1).mp ((mem_walk _ _ _).mp walked).2
  · intro kept
    have admitted := (admitted_iff_not_scanOmits preferences components).mpr kept
    refine .inr ⟨(components, file), (mem_walk _ _ _).mpr ⟨existing, admitted⟩, ?_, rfl⟩
    rw [Bool.eq_false_iff]
    intro reserved
    have ignored := ignores_of_namedReserved preferences reserved
    rw [scanOmits, ignored, Bool.true_or] at kept
    cases kept

end SyncEngine
end TelegramDrive
