import TelegramDrive.Library.Machine
import TelegramDrive.SyncEngine.Reconcile

namespace TelegramDrive
namespace SyncEngine

/-!
# Reusing recorded hashes

Files are written while scans run and rows are recorded.  A file has a content,
named by its digest, and the time of its last write; its modification time is
the whole second of that write.  Reading the metadata of a file and reading its
content are two steps, and a row is recorded later still, at the time
`upsert_state` runs.

A scan trusts a recorded hash when size and settled modification time agree
with the row.  That is sound as long as no row is recorded with a modification
time in whose second the file was written again after it was hashed.  The code
checks that the time has settled when it records the row, and not when the
content was hashed, so the condition on the run cannot be dropped.
-/

/-- A file and the nanosecond of its last write. -/
structure WrittenFile where
  digest : String
  fileSize : Nat
  writtenAt : Nat
deriving DecidableEq

/-- The whole second of a time in nanoseconds. -/
def wholeSecond (nanoseconds : Nat) : Int := ((nanoseconds / 1000000000 : Nat) : Int)

def WrittenFile.metadata (file : WrittenFile) : FileMetadata :=
  { fileSize := file.fileSize, modifiedAt := some (wholeSecond file.writtenAt) }

/-- A scan under way or completed: the rows and the second it started from, the
files added so far, and a file whose metadata was read but not its content. -/
structure Scanning where
  mode : LocalScanMode
  now : Int
  recorded : Std.TreeMap String RecordedLocalFile
  result : LocalScan
  pending : Option (String × FileMetadata)

structure FolderState where
  clock : Nat
  files : Std.TreeMap String WrittenFile
  rows : SyncedTree
  scanning : Option Scanning

/-- The local entry a row is recorded from: the entry of the latest scan, none,
or the file a download has just written. -/
inductive RecordSource
  | scanned
  | absent
  | downloaded (hash : String) (fileSize : Nat)
deriving DecidableEq

inductive FolderEvent
  | tick (nanoseconds : Nat)
  | write (path digest : String) (fileSize : Nat)
  | remove (path : String)
  | beginScan (mode : LocalScanMode)
  | readMetadata (path : String)
  | readContent
  | record (path : String) (source : RecordSource) (remoteEntry : Option TreeEntry)
      (status : SyncStatus)
  | refresh
  | mark (path : String) (status : SyncStatus)
  | forget (path : String)
deriving DecidableEq

namespace FolderState

def initial : FolderState := { clock := 0, files := ∅, rows := ∅, scanning := none }

/-- The local entry of a source. -/
def sourceEntry (state : FolderState) (path : String) : RecordSource -> Option TreeEntry
  | .scanned => state.scanning.bind fun scanning => scanning.result.tree[path]?
  | .absent => none
  | .downloaded hash fileSize =>
    some { hash := hash, fileSize := fileSize, modifiedAt := none, messageId := none }

/-- Start over with the rows as they are now. -/
def beginScan (state : FolderState) (mode : LocalScanMode) : FolderState :=
  { state with
    scanning := some
      { mode := mode
        now := wholeSecond state.clock
        recorded := recordedLocalFiles state.rows
        result := default
        pending := none } }

/-- Read the metadata of a file; its recorded hash is reused at once. -/
def readMetadata (state : FolderState) (path : String) : Option FolderState :=
  match state.scanning, state.files[path]? with
  | some scanning, some file =>
    match scanning.pending,
        reusableHash scanning.mode scanning.recorded[path]? file.metadata scanning.now with
    | none, some hash =>
      some { state with
        scanning := some { scanning with
          result := { scanning.result with reused := scanning.result.reused + 1 }.addFile path
            scanning.recorded[path]? file.metadata scanning.now hash } }
    | none, none =>
      some { state with
        scanning := some { scanning with pending := some (path, file.metadata) } }
    | some _, _ => none
  | _, _ => none

/-- Hash the file whose metadata was read. -/
def readContent (state : FolderState) : Option FolderState :=
  match state.scanning with
  | none => none
  | some scanning =>
    match scanning.pending with
    | none => none
    | some (path, metadata) =>
      (state.files[path]?).map fun file =>
        { state with
          scanning := some { scanning with
            pending := none
            result := { scanning.result with hashed := scanning.result.hashed + 1 }.addFile path
              scanning.recorded[path]? metadata scanning.now file.digest } }

end FolderState

/-- One step of the folder, the scanner or the recorder.  `mark` is
`set_state_status`, which never writes `synced`. -/
def folderMachine : Machine FolderState FolderEvent where
  step state event :=
    match event with
    | .tick nanoseconds => some { state with clock := state.clock + nanoseconds }
    | .write path digest fileSize =>
      some { state with
        files := state.files.insert path
          { digest := digest, fileSize := fileSize, writtenAt := state.clock } }
    | .remove path => some { state with files := state.files.erase path }
    | .beginScan mode => some (state.beginScan mode)
    | .readMetadata path => state.readMetadata path
    | .readContent => state.readContent
    | .record path source remoteEntry status =>
      some { state with
        rows := applyWrites state.rows
          [upsertState path (state.sourceEntry path source) remoteEntry status
            (wholeSecond state.clock)] }
    | .refresh =>
      state.scanning.map fun scanning =>
        { state with
          rows := applyWrites state.rows
            (refreshWrites scanning.result.tree scanning.result.refreshMetadata) }
    | .mark path status =>
      if status = .synced then none
      else some { state with rows := applyWrites state.rows [.setStatus path status] }
    | .forget path => some { state with rows := applyWrites state.rows [.delete path] }


/-! ## Trust in a recorded triple -/

/-- A recorded size, modification time and hash can be reused from now on: that
second is over, and the file, if last written in it with that size, has that hash. -/
structure Trusted (clock : Nat) (files : Std.TreeMap String WrittenFile) (path : String) (fileSize : Nat)
    (modifiedAt : Int) (hash : String) : Prop where
  passed : modifiedAt < wholeSecond clock
  same : forall file, files[path]? = some file -> wholeSecond file.writtenAt = modifiedAt ->
    file.fileSize = fileSize -> file.digest = hash

theorem wholeSecond_mono {earlier later : Nat} (order : earlier ≤ later) :
    wholeSecond earlier ≤ wholeSecond later :=
  Int.ofNat_le.mpr (Nat.div_le_div_right order)

variable {state next : FolderState} {path hash : String}

theorem Trusted.later {fileSize : Nat} {modifiedAt : Int}
    (trusted : Trusted state.clock state.files path fileSize modifiedAt hash)
    (clock : state.clock ≤ next.clock)
    (files : forall file, next.files[path]? = some file ->
      state.files[path]? = some file ∨ file.writtenAt = state.clock) :
    Trusted next.clock next.files path fileSize modifiedAt hash where
  passed := Int.lt_of_lt_of_le trusted.passed (wholeSecond_mono clock)
  same file found second size := by
    rcases files file found with before | written
    · exact trusted.same file before second size
    · have passed := trusted.passed
      rw [written] at second
      omega

/-- A row in sync whose hash may be reused is trusted. -/
def RowTrusted (clock : Nat) (files : Std.TreeMap String WrittenFile) (path : String)
    (row : Option SyncedEntry) : Prop :=
  forall entry hash modifiedAt, row = some entry -> entry.syncStatus = .synced ->
    entry.localHash = some hash -> entry.localMtime = some modifiedAt ->
    Trusted clock files path entry.fileSize modifiedAt hash

/-- A scan works from trusted records, started no later than now, and lists for
refreshing only what may be reused. -/
structure ScanTrusted (clock : Nat) (files : Std.TreeMap String WrittenFile)
    (scanning : Scanning) : Prop where
  started : scanning.now ≤ wholeSecond clock
  recorded : forall (path : String) previous modifiedAt, scanning.recorded[path]? = some previous ->
    previous.modifiedAt = some modifiedAt ->
    Trusted clock files path previous.fileSize modifiedAt previous.hash
  refreshes : forall path entry modifiedAt, (path, entry) ∈ scanning.result.refreshMetadata ->
    entry.modifiedAt = some modifiedAt -> Trusted clock files path entry.fileSize modifiedAt entry.hash

/-- The invariant of the folder. -/
structure FolderTrusted (state : FolderState) : Prop where
  rows : forall path : String, RowTrusted state.clock state.files path state.rows[path]?
  scan : forall scanning, state.scanning = some scanning -> ScanTrusted state.clock state.files scanning

/-- A row is about to be recorded in sync with a settled modification time, and
after the scan hashed the file it was written again, with other content of that
size, within the second of that time. -/
def rewrittenWithinSecond (state : FolderState) : FolderEvent -> Bool
  | .record path .scanned _ .synced =>
    match state.sourceEntry path .scanned, state.files[path]? with
    | some entry, some file =>
      settledMtime entry.modifiedAt (wholeSecond state.clock) == some (wholeSecond file.writtenAt) &&
        file.fileSize == entry.fileSize && file.digest != entry.hash
    | _, _ => false
  | _ => false

/-! ## The steps preserve trust -/

theorem initial_trusted : FolderTrusted FolderState.initial where
  rows path entry hash modifiedAt found := by simp [FolderState.initial] at found
  scan scanning impossible := by cases impossible

/-- A step that leaves rows and scan alone preserves trust when it only lets
time pass, or changes files now. -/
theorem FolderTrusted.later (trusted : FolderTrusted state)
    (rows : next.rows = state.rows) (scanning : next.scanning = state.scanning)
    (clock : state.clock ≤ next.clock)
    (files : forall (path : String) file, next.files[path]? = some file ->
      state.files[path]? = some file ∨ file.writtenAt = state.clock) :
    FolderTrusted next where
  rows path entry hash modifiedAt found status local_ time := by
    rw [rows] at found
    exact (trusted.rows path entry hash modifiedAt found status local_ time).later clock (files path)
  scan scan found := by
    rw [scanning] at found
    have before := trusted.scan scan found
    exact
      { started := before.started.trans (wholeSecond_mono clock)
        recorded := fun path previous modifiedAt entry time =>
          (before.recorded path previous modifiedAt entry time).later clock (files path)
        refreshes := fun path entry modifiedAt member time =>
          (before.refreshes path entry modifiedAt member time).later clock (files path) }

/-- Statements whose every result is trusted preserve trust. -/
theorem FolderTrusted.write (trusted : FolderTrusted state) {writes : List StateWrite}
    (preserved : forall write, write ∈ writes -> forall row, RowTrusted state.clock state.files write.path row ->
      RowTrusted state.clock state.files write.path (write.effect row)) :
    FolderTrusted { state with rows := applyWrites state.rows writes } where
  rows path := by
    refine applyWrites_invariant (RowTrusted state.clock state.files path) state.rows ?_
      (trusted.rows path)
    rintro write member rfl row before
    exact preserved write member row before
  scan := trusted.scan

theorem recordedLocalFiles_row {rows : SyncedTree} {previous : RecordedLocalFile}
    (found : (recordedLocalFiles rows)[path]? = some previous) :
    Exists fun row => rows[path]? = some row ∧ row.syncStatus = .synced ∧
      row.localHash = some previous.hash ∧ row.localMtime = previous.modifiedAt ∧
        row.fileSize = previous.fileSize := by
  rw [recordedLocalFiles, Std.TreeMap.getElem?_filterMap', Option.bind_eq_some_iff] at found
  rcases found with ⟨row, present, selected⟩
  split at selected
  next status =>
    rcases Option.map_eq_some_iff.mp selected with ⟨hash, kept, rfl⟩
    exact ⟨row, present, status, (Option.filter_eq_some_iff.mp kept).1, rfl, rfl⟩
  · cases selected

theorem beginScan_trusted (trusted : FolderTrusted state)
    (mode : LocalScanMode) : FolderTrusted (state.beginScan mode) where
  rows := trusted.rows
  scan scanning found := by
    cases found
    refine ⟨Int.le_refl _, ?_, ?_⟩
    · intro path previous modifiedAt entry time
      rcases recordedLocalFiles_row entry with ⟨row, present, status, hash, mtime, size⟩
      have old := trusted.rows path row previous.hash modifiedAt present status hash (mtime.trans time)
      rwa [size] at old
    · intro path entry modifiedAt member
      cases member

theorem settledMtime_eq_some {modifiedAt : Option Int} {now second : Int}
    (settled : settledMtime modifiedAt now = some second) :
    modifiedAt = some second ∧ second + 2 ≤ now := by
  rw [settledMtime, Option.filter_eq_some_iff] at settled
  have old : now - second ≥ racyMtimeWindowSecs := by simpa using settled.2
  unfold racyMtimeWindowSecs at old
  exact ⟨settled.1, by omega⟩

/-- Adding a file keeps the scan trusted when the file still has the content
that was hashed, or the added entry is not listed for a refresh. -/
theorem addFile_trusted {scanning : Scanning}
    (trusted : ScanTrusted state.clock state.files scanning) {previous : Option RecordedLocalFile}
    {metadata : FileMetadata} (result : LocalScan)
    (same : result.refreshMetadata = scanning.result.refreshMetadata)
    (pending : Option (String × FileMetadata))
    (hashed : forall second, settledMtime metadata.modifiedAt scanning.now = some second ->
      (previous.any fun previous =>
        previous.hash == hash && !metadataMatches previous metadata scanning.now) = true ->
      forall file, state.files[path]? = some file -> file.digest = hash) :
    ScanTrusted state.clock state.files { scanning with
      pending := pending
      result := result.addFile path previous metadata scanning.now hash } where
  started := trusted.started
  recorded := trusted.recorded
  refreshes := by
    intro other entry modifiedAt member time
    simp only [LocalScan.addFile] at member
    split at member
    next listed =>
      rw [List.mem_append, List.mem_singleton, same] at member
      rcases member with before | now
      · exact trusted.refreshes other entry modifiedAt before time
      · cases now
        rw [Bool.and_eq_true, Option.isSome_iff_exists] at listed
        rcases listed with ⟨stale, second, settled⟩
        rcases settledMtime_eq_some settled with ⟨atSecond, passed⟩
        cases time.symm.trans atSecond
        refine ⟨?_, fun file found _ _ => hashed modifiedAt settled stale file found⟩
        have started := trusted.started
        omega
    · rw [same] at member
      exact trusted.refreshes other entry modifiedAt member time

theorem readMetadata_trusted (trusted : FolderTrusted state)
    (moved : state.readMetadata path = some next) : FolderTrusted next := by
  unfold FolderState.readMetadata at moved
  split at moved
  next scanning file scan present =>
    have before := trusted.scan scanning scan
    split at moved
    next hash idle reused =>
      cases moved
      refine ⟨trusted.rows, ?_⟩
      intro after found
      cases found
      refine addFile_trusted before { scanning.result with reused := scanning.result.reused + 1 }
        rfl scanning.pending ?_
      -- a reused entry matches its record, so it is never listed
      intro second settled stale
      unfold reusableHash at reused
      split at reused
      next previous _ recorded =>
        split at reused
        next matched => simp [recorded, matched] at stale
        · cases reused
      · cases reused
    · cases moved
      refine ⟨trusted.rows, ?_⟩
      intro after found
      cases found
      exact ⟨before.started, before.recorded, before.refreshes⟩
    · cases moved
  · cases moved

theorem readContent_trusted (trusted : FolderTrusted state)
    (moved : state.readContent = some next) : FolderTrusted next := by
  unfold FolderState.readContent at moved
  split at moved
  · cases moved
  next scanning scan =>
    split at moved
    · cases moved
    next path metadata pending =>
      rcases Option.map_eq_some_iff.mp moved with ⟨file, present, rfl⟩
      refine ⟨trusted.rows, ?_⟩
      intro after found
      cases found
      refine addFile_trusted (trusted.scan scanning scan)
        { scanning.result with hashed := scanning.result.hashed + 1 } rfl none ?_
      intro second settled stale current here
      have same : some current = some file := here.symm.trans present
      rw [Option.some.inj same]

theorem record_trusted {source : RecordSource} {remoteEntry : Option TreeEntry} {status : SyncStatus}
    (allowed : rewrittenWithinSecond state (.record path source remoteEntry status) = false) :
    RowTrusted state.clock state.files path
      ((upsertState path (state.sourceEntry path source) remoteEntry status
        (wholeSecond state.clock)).effect none) := by
  intro row hash second recorded synced localHash time
  cases recorded
  change status = .synced at synced
  subst synced
  change Option.map (·.hash) (state.sourceEntry path source) = some hash at localHash
  change settledMtime ((state.sourceEntry path source).bind (·.modifiedAt)) (wholeSecond state.clock) =
    some second at time
  rcases Option.map_eq_some_iff.mp localHash with ⟨entry, sourced, rfl⟩
  rw [sourced, Option.bind_some] at time
  rcases settledMtime_eq_some time with ⟨atSecond, passed⟩
  refine ⟨by omega, ?_⟩
  intro file present written size
  cases source with
  | absent => cases sourced
  | downloaded digest bytes =>
    cases sourced
    cases atSecond
  | scanned =>
    by_contra changed
    have sameSize : file.fileSize = entry.fileSize := by
      rw [size, sourced]
      rfl
    simp [rewrittenWithinSecond, sourced, present, written, time, sameSize, changed] at allowed

theorem folderMachine_trusted {event : FolderEvent}
    (allowed : rewrittenWithinSecond state event = false) (trusted : FolderTrusted state)
    (moved : folderMachine.step state event = some next) : FolderTrusted next := by
  cases event with
  | tick nanoseconds =>
    cases moved
    exact trusted.later rfl rfl (Nat.le_add_right _ _) fun path file found => .inl found
  | write path digest fileSize =>
    cases moved
    refine trusted.later rfl rfl (Nat.le_refl _) ?_
    intro other file found
    rw [Std.TreeMap.getElem?_insert] at found
    split at found
    · cases found
      exact .inr rfl
    · exact .inl found
  | remove path =>
    cases moved
    refine trusted.later rfl rfl (Nat.le_refl _) ?_
    intro other file found
    rw [Std.TreeMap.getElem?_erase] at found
    split at found
    · cases found
    · exact .inl found
  | beginScan mode =>
    cases moved
    exact beginScan_trusted trusted mode
  | readMetadata path => exact readMetadata_trusted trusted moved
  | readContent => exact readContent_trusted trusted moved
  | record path source remoteEntry status =>
    cases moved
    refine trusted.write fun write member row _ => ?_
    rw [List.mem_singleton.mp member]
    exact record_trusted allowed
  | refresh =>
    rcases Option.map_eq_some_iff.mp moved with ⟨scanning, scan, rfl⟩
    refine trusted.write fun write member row before => ?_
    rcases List.mem_map.mp member with ⟨⟨path, entry⟩, listed, rfl⟩
    intro refreshed hash second found status localHash time
    rcases Option.map_eq_some_iff.mp found with ⟨old, present, rfl⟩
    unfold StateWrite.refreshed at status localHash time ⊢
    split at status
    next applies =>
      rw [if_pos applies] at localHash time ⊢
      have fresh := (trusted.scan scanning scan).refreshes path entry second
        (List.mem_filter.mp listed).1 time
      rw [applies.1, Option.some.injEq] at localHash
      rw [← localHash]
      exact fresh
    next skipped =>
      rw [if_neg skipped] at localHash time ⊢
      exact before old hash second present status localHash time
  | mark path status =>
    simp only [folderMachine] at moved
    split at moved
    · cases moved
    next failing =>
      cases moved
      refine trusted.write fun write member row before => ?_
      rw [List.mem_singleton.mp member]
      intro marked hash second found synced
      rcases Option.map_eq_some_iff.mp found with ⟨old, present, rfl⟩
      exact absurd synced failing
  | forget path =>
    cases moved
    refine trusted.write fun write member row _ => ?_
    rw [List.mem_singleton.mp member]
    intro gone hash second found
    cases found


/-! ## Agreement of the two scan modes -/

theorem reusableHash_eq {clock : Nat} {files : Std.TreeMap String WrittenFile}
    {mode : LocalScanMode} {previous : Option RecordedLocalFile} {now : Int}
    (trusted : forall record modifiedAt, previous = some record ->
      record.modifiedAt = some modifiedAt ->
      Trusted clock files path record.fileSize modifiedAt record.hash)
    {file : WrittenFile} (present : files[path]? = some file)
    (reused : reusableHash mode previous file.metadata now = some hash) : file.digest = hash := by
  unfold reusableHash at reused
  split at reused
  next record =>
    split at reused
    next matched =>
      cases reused
      rw [metadataMatches, Bool.and_eq_true, Bool.and_eq_true, beq_iff_eq, beq_iff_eq,
        Option.isSome_iff_exists] at matched
      rcases matched with ⟨⟨size, modifiedAt, recorded⟩, same⟩
      rw [recorded] at same
      have second := (settledMtime_eq_some same.symm).1
      exact (trusted record modifiedAt rfl recorded).same file present (Option.some.inj second)
        size.symm
    · cases reused
  · cases reused

/-- A folder on disk whose files are those of the model. -/
def Shows (files : Std.TreeMap String WrittenFile) (entries : Entries) : Prop :=
  forall found, found ∈ allFiles entries -> Exists fun file => files[joinPath found.1]? = some file ∧
    found.2 = { metadata := .ok file.metadata, digest := .ok file.digest }

/-- One file is added with the same entry in both modes. -/
theorem scanFile_modes (root : String) {recorded : Std.TreeMap String RecordedLocalFile} {now : Int}
    {reusing hashing : LocalScan} (same : reusing.tree = hashing.tree)
    {found : List DiskName × DiskFile} {file : WrittenFile}
    (shown : found.2 = { metadata := .ok file.metadata, digest := .ok file.digest })
    (agree : forall hash, reusableHash .reuseRecordedHashes recorded[joinPath found.1]? file.metadata
      now = some hash -> file.digest = hash) :
    (scanFile root recorded .reuseRecordedHashes now reusing found).map (·.tree) =
      (scanFile root recorded .hashEveryFile now hashing found).map (·.tree) := by
  unfold scanFile
  simp only [shown]
  have never : reusableHash .hashEveryFile recorded[joinPath found.1]? file.metadata now = none := rfl
  rw [never]
  split
  · exact congrArg Except.ok same
  · split
    · rfl
    · cases reused : reusableHash .reuseRecordedHashes recorded[joinPath found.1]? file.metadata now with
      | none => simp [Except.map, same]
      | some hash => simp [Except.map, same, agree hash reused]

theorem foldlM_scanFile_modes {root : String} {recorded : Std.TreeMap String RecordedLocalFile}
    {now : Int} (files : Std.TreeMap String WrittenFile)
    (agree : forall (path : String) (file : WrittenFile) (hash : String), files[path]? = some file ->
      reusableHash .reuseRecordedHashes recorded[path]? file.metadata now = some hash ->
      file.digest = hash)
    (walked : List (List DiskName × DiskFile))
    (shown : forall found, found ∈ walked -> Exists fun file =>
      files[joinPath found.1]? = some file ∧
        found.2 = { metadata := .ok file.metadata, digest := .ok file.digest })
    {reusing hashing : LocalScan} (same : reusing.tree = hashing.tree) :
    (walked.foldlM (scanFile root recorded .reuseRecordedHashes now) reusing).map (·.tree) =
      (walked.foldlM (scanFile root recorded .hashEveryFile now) hashing).map (·.tree) := by
  induction walked generalizing reusing hashing with
  | nil => exact congrArg Except.ok same
  | cons found walked ih =>
    rcases shown found List.mem_cons_self with ⟨file, present, disk⟩
    have first := scanFile_modes root same disk (fun hash => agree _ file hash present)
    rw [List.foldlM_cons, List.foldlM_cons]
    generalize scanFile root recorded .reuseRecordedHashes now reusing found = one at first
    generalize scanFile root recorded .hashEveryFile now hashing found = two at first
    rcases one with message | one <;> rcases two with message' | two <;>
      simp only [Except.map, Except.error.injEq, Except.ok.injEq, reduceCtorEq] at first
    · rw [first]
      rfl
    · exact ih (fun later member => shown later (List.mem_cons_of_mem found member))
        first

/-- In every run that records no file rewritten within the second of its
recorded time, the scan under way reuses a hash only where the file has it, and
a scan of the folder as it stands gives the same tree in both modes. -/
theorem incremental_scan_agrees {events : List FolderEvent} {final : FolderState}
    (run : folderMachine.Run (fun state event => !rewrittenWithinSecond state event)
      FolderState.initial events final) :
    (forall (scanning : Scanning) (path : String) (file : WrittenFile) (hash : String),
        final.scanning = some scanning ->
        final.files[path]? = some file ->
        reusableHash scanning.mode scanning.recorded[path]? file.metadata scanning.now = some hash ->
        file.digest = hash) ∧
      forall root preferences entries, Shows final.files entries ->
        (scanLocal root preferences .reuseRecordedHashes (some final.rows) (wholeSecond final.clock)
            entries).map (·.tree) =
          (scanLocal root preferences .hashEveryFile (some final.rows) (wholeSecond final.clock)
            entries).map (·.tree) := by
  have trusted : FolderTrusted final := run.invariant _
    (fun state event next allowed before moved =>
      folderMachine_trusted (Bool.not_eq_true' _ ▸ allowed) before moved) initial_trusted
  constructor
  · intro scanning path file hash scan present reused
    exact reusableHash_eq (fun record modifiedAt recorded time =>
      (trusted.scan scanning scan).recorded path record modifiedAt recorded time) present reused
  · intro root preferences entries shows
    have begun := beginScan_trusted trusted .reuseRecordedHashes
    refine foldlM_scanFile_modes final.files ?_ _ ?_ rfl
    · intro path file hash present reused
      exact reusableHash_eq (fun record modifiedAt recorded time =>
        (begun.scan _ rfl).recorded path record modifiedAt recorded time) present reused
    · intro found walked
      exact shows found ((mem_walk _ _ _).mp walked).1


/-! ## A rewrite in the second of the recorded time -/

/-- A file is written at second 10 and scanned half a second later.  `edited`
tells whether it is written again in that second, after the scan hashed it.  Its
row is recorded at second 12, by an adoption, and the next scan begins. -/
def adoptionSchedule (edited : Bool) : List FolderEvent :=
  [.tick 10000000000, .write "notes" "00" 1, .tick 500000000, .beginScan .hashEveryFile,
    .readMetadata "notes", .readContent] ++
  (if edited then [.write "notes" "11" 1] else []) ++
  [.tick 1500000000,
    .record "notes" .scanned
      (some { hash := "v2:1", fileSize := 1, modifiedAt := some 5, messageId := some 7 }) .synced,
    .beginScan .reuseRecordedHashes]

def notesFolder (digest : String) : Entries :=
  .more ⟨"notes", true, by decide, by decide⟩
    (.file { metadata := .ok { fileSize := 1, modifiedAt := some 10 }, digest := .ok digest }) .none

/-- After the edited schedule the scan reuses a hash the file no longer has. -/
theorem edited_second_reuses_stale_hash :
    ((folderMachine.replay FolderState.initial (adoptionSchedule true)).map fun final =>
      ((final.files["notes"]?).map (·.digest),
        [LocalScanMode.reuseRecordedHashes, .hashEveryFile].map fun mode =>
          (scanLocal "/sync" default mode (some final.rows) (wholeSecond final.clock)
            (notesFolder "11")).toOption.bind fun scan => (scan.tree["notes"]?).map (·.hash))) =
      some (some "11", [some "00", some "11"]) := by
  decide +kernel

/-- The schedule without the edit meets the condition, and both modes agree after it. -/
theorem unedited_second_agrees :
    Exists fun final =>
      (folderMachine.guarded fun state event => !rewrittenWithinSecond state event).replay
          FolderState.initial (adoptionSchedule false) = some final ∧
        (forall (scanning : Scanning) (path : String) (file : WrittenFile) (hash : String),
          final.scanning = some scanning ->
          final.files[path]? = some file ->
          reusableHash scanning.mode scanning.recorded[path]? file.metadata scanning.now = some hash ->
          file.digest = hash) ∧
        forall root preferences entries, Shows final.files entries ->
          (scanLocal root preferences .reuseRecordedHashes (some final.rows) (wholeSecond final.clock)
              entries).map (·.tree) =
            (scanLocal root preferences .hashEveryFile (some final.rows) (wholeSecond final.clock)
              entries).map (·.tree) := by
  refine (Option.isSome_iff_exists.mp ?_).imp fun final replayed =>
    ⟨replayed, incremental_scan_agrees (Machine.run_of_guarded_replay replayed)⟩
  decide +kernel

end SyncEngine
end TelegramDrive
