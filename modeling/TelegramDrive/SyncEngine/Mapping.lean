import TelegramDrive.Library.Machine
import TelegramDrive.SyncEngine.Reconcile

namespace TelegramDrive
namespace SyncEngine

/-!
# One mapping over many cycles

The machine below runs the cycles of one mapping against a folder and a
Telegram channel that others change at any time.  A cycle prepares a plan,
carries its operations out one by one, journals what it superseded, deletes
that, and records the results; it may stop after every statement it sends to the
database, and after every operation.

The local tree is the folder as it is, so a scan here returns the hashes that
the files have; the reuse of recorded hashes is the subject of another module.
A message is listed with the path the remote scan maps it to, and Telegram
numbers the messages of a channel in order.  A fingerprint is a digest of the
message id among others, so it determines that id: `messageOf` is that function,
and it is `none` for the hash of a file content, which has no `v2:` in front.
Statements of the database do not fail here.
-/

/-! ## The remote scan -/

/-- `insert_remote_file`, for a message mapped to a path. -/
def insertRemoteFile (preferences : SyncPreferences) (tree : FileTree) (file : String × TreeEntry) :
    Except String FileTree :=
  match tree[file.1]? with
  | some existing =>
    if preferences.ignores file.1 then .ok tree
    else
      .error ("Multiple Telegram messages map to the same sync path '" ++ file.1 ++ "' (message " ++
        toString (existing.messageId.getD 0) ++ " and " ++ toString (file.2.messageId.getD 0) ++
        "); rename or remove the duplicate before syncing")
  | none => .ok (tree.insert file.1 file.2)

/-- The remote tree of the messages of a channel. -/
def scanRemote (preferences : SyncPreferences) (messages : List (String × TreeEntry)) :
    Except String FileTree :=
  messages.foldlM (insertRemoteFile preferences) ∅

variable {preferences : SyncPreferences}

theorem insertRemoteFile_ok {tree next : FileTree}
    {file : String × TreeEntry} (inserted : insertRemoteFile preferences tree file = .ok next) :
    (tree[file.1]? = none ∧ next = tree.insert file.1 file.2) ∨
      (preferences.ignores file.1 = true ∧ next = tree) := by
  unfold insertRemoteFile at inserted
  split at inserted
  · split at inserted
    next ignored =>
      cases inserted
      exact .inr ⟨ignored, rfl⟩
    · cases inserted
  next free =>
    cases inserted
    exact .inl ⟨free, rfl⟩

variable {messages : List (String × TreeEntry)}

private theorem foldlM_insertRemoteFile {tree next : FileTree}
    (scanned : messages.foldlM (insertRemoteFile preferences) tree = .ok next) :
    (forall (path : String) (entry : TreeEntry), next[path]? = some entry ->
        tree[path]? = some entry ∨ (path, entry) ∈ messages) ∧
      (forall (path : String) (entry : TreeEntry), tree[path]? = some entry ->
        next[path]? = some entry) ∧
      forall (path : String) (entry : TreeEntry), preferences.ignores path = false ->
        (path, entry) ∈ messages -> next[path]? = some entry := by
  induction messages generalizing tree with
  | nil =>
    cases scanned
    exact ⟨fun path entry => .inl, fun path entry => id, fun path entry _ => nofun⟩
  | cons file messages ih =>
    rw [List.foldlM_cons] at scanned
    cases inserted : insertRemoteFile preferences tree file with
    | error message =>
      rw [inserted] at scanned
      cases scanned
    | ok middle =>
      rw [inserted] at scanned
      rcases ih scanned with ⟨found, kept, complete⟩
      rcases insertRemoteFile_ok inserted with ⟨free, rfl⟩ | ⟨ignored, rfl⟩
      · refine ⟨?_, ?_, ?_⟩
        · intro path entry present
          rcases found path entry present with here | later
          · rw [Std.TreeMap.getElem?_insert] at here
            split at here
            next same =>
              rw [← compare_eq_iff_eq.mp same, ← Option.some.inj here]
              exact .inr List.mem_cons_self
            · exact .inl here
          · exact .inr (List.mem_cons_of_mem file later)
        · intro path entry present
          apply kept
          rw [Std.TreeMap.getElem?_insert, if_neg]
          · exact present
          · intro same
            rw [← compare_eq_iff_eq.mp same, free] at present
            cases present
        · intro path entry retained member
          rcases List.mem_cons.mp member with rfl | later
          · apply kept
            rw [Std.TreeMap.getElem?_insert_self]
          · exact complete path entry retained later
      · refine ⟨?_, kept, ?_⟩
        · intro path entry present
          exact (found path entry present).imp_right (List.mem_cons_of_mem file)
        · intro path entry retained member
          rcases List.mem_cons.mp member with rfl | later
          · rw [ignored] at retained
            cases retained
          · exact complete path entry retained later

theorem mem_of_scanRemote
    {tree : FileTree} (scanned : scanRemote preferences messages = .ok tree) {path : String}
    {entry : TreeEntry} (present : tree[path]? = some entry) : (path, entry) ∈ messages :=
  ((foldlM_insertRemoteFile scanned).1 path entry present).resolve_left (by simp)

/-- A complete scan has every message of a path that is not ignored, so it has
only one of them. -/
theorem scanRemote_of_mem
    {tree : FileTree} (scanned : scanRemote preferences messages = .ok tree) {path : String}
    {entry : TreeEntry} (retained : preferences.ignores path = false)
    (member : (path, entry) ∈ messages) : tree[path]? = some entry :=
  (foldlM_insertRemoteFile scanned).2.2 path entry retained member

/-! ## State -/

/-- An entry of the persisted list of superseded messages. -/
structure PendingCleanup where
  relativePath : String
  oldMessageId : Int
  newMessageId : Int
  oldRemoteHash : Option String
  replaced : oldMessageId ≠ newMessageId
deriving DecidableEq

/-- A cycle after its preparation.  `unsaved` are the results that were not yet
looked at for superseded messages. -/
structure Cycle where
  prepared : PreparedReconciliation
  waiting : List SyncOperation
  results : List ExecutionResult
  unsaved : List ExecutionResult
  journaled : Bool

/-- The cycle of an accepted preparation, without its settled skips. -/
def Cycle.begin (prepared : PreparedReconciliation) : Cycle where
  prepared := prepared
  waiting := (dropSettledSkips prepared).operations
  results := []
  unsaved := []
  journaled := false

/-- What happened so far, for the statements about runs; no step reads it.  A
version of a file is a path with a hash of that side. -/
structure SyncHistory where
  localSynced : List (String × String)
  remoteSynced : List (String × String)
  uploaded : List Int
  moved : List Int
  superseded : List PendingCleanup
  chosen : Std.TreeMap String SyncStatus

structure Mapping where
  localTree : FileTree
  messages : List (String × TreeEntry)
  lastMessageId : Int
  rows : SyncedTree
  cleanups : List PendingCleanup
  cycle : Option Cycle
  history : SyncHistory

namespace Mapping

/-- No file, no message and no recorded state. -/
def empty : Mapping where
  localTree := ∅
  messages := []
  lastMessageId := 0
  rows := ∅
  cleanups := []
  cycle := none
  history :=
    { localSynced := [], remoteSynced := [], uploaded := [], moved := [], superseded := [], chosen := ∅ }

def localHash (mapping : Mapping) (path : String) : Option String :=
  mapping.localTree[path]?.map (·.hash)

def findMessage (mapping : Mapping) (messageId : Option Int) : Option (String × TreeEntry) :=
  mapping.messages.find? fun file => file.2.messageId = messageId

/-- A message is deleted, by whom it may be. -/
def withdraw (mapping : Mapping) (messageId : Int) : Mapping :=
  { mapping with messages := mapping.messages.filter fun file => file.2.messageId ≠ some messageId }

/-- Statements are sent to the database. -/
def write (mapping : Mapping) (writes : List StateWrite) : Mapping :=
  { mapping with rows := applyWrites mapping.rows writes }

end Mapping

/-! ## Carrying an operation out -/

/-- How one operation ended.  A published message may be left without a journal
entry, when the file changed meanwhile or the account did, and its path may fail
to be written into its caption. -/
inductive Outcome
  | succeeded (entry : TreeEntry) (copyPath : String)
  | failed (detail : String)
  | renameFailed (entry : TreeEntry) (detail : String)
  | orphaned (entry : TreeEntry) (detail : String)

section Steps

variable (messageOf : String -> Option Int)

/-- An entry that a scan can give a message: its fingerprint is not empty and names its id. -/
def IsFingerprinted (entry : TreeEntry) : Prop :=
  entry.messageId.isSome = true ∧ messageOf entry.hash = entry.messageId ∧ entry.hash ≠ ""

instance (entry : TreeEntry) : Decidable (IsFingerprinted messageOf entry) :=
  inferInstanceAs (Decidable (_ ∧ _))

/-- An entry that a new message can have: Telegram gave it the next id. -/
def Mapping.Admits (mapping : Mapping) (entry : TreeEntry) : Prop :=
  IsFingerprinted messageOf entry ∧ mapping.lastMessageId < entry.messageId.getD 0

instance (mapping : Mapping) (entry : TreeEntry) : Decidable (mapping.Admits messageOf entry) :=
  inferInstanceAs (Decidable (_ ∧ _))

/-- A new message appears at a path. -/
def Mapping.post (mapping : Mapping) (path : String) (entry : TreeEntry) : Mapping :=
  { mapping with
    messages := mapping.messages ++ [(path, entry)]
    lastMessageId := entry.messageId.getD 0 }

/-- An uploaded message appears at a path. -/
def Mapping.publish (mapping : Mapping) (path : String) (entry : TreeEntry) : Mapping :=
  { mapping.post path entry with
    history := { mapping.history with
      uploaded := entry.messageId.toList ++ mapping.history.uploaded } }

/-- The message with the id of an entry changes to that entry, or to another path. -/
def Mapping.edit (mapping : Mapping) (path : String) (entry : TreeEntry) : Mapping :=
  { mapping with
    messages := mapping.messages.map fun file =>
      if file.2.messageId = entry.messageId then (path, entry) else file
    history := { mapping.history with
      moved := ((mapping.messages.filter fun file =>
        decide (file.2.messageId = entry.messageId ∧ file.1 ≠ path)).filterMap (·.2.messageId)) ++
          mapping.history.moved } }

/-- The hash of the uploaded file was verified, and its message is journaled. -/
def Mapping.journalPublished (mapping : Mapping) (now : Int) (path : String) (localEntry : TreeEntry)
    (entry : TreeEntry) : Mapping :=
  let published := mapping.publish path entry
  { published with
    rows := applyWrites mapping.rows
      (entry.messageId.toList.map fun messageId => journalUpload path localEntry messageId now)
    history := { published.history with
      localSynced := (path, localEntry.hash) :: published.history.localSynced
      remoteSynced := (path, entry.hash) :: published.history.remoteSynced } }

/-- A downloaded file appears at its destination.  The message is fetched by
its id, in the version it has by then. -/
def Mapping.receive (mapping : Mapping) (path destination : String) (keepBoth : Bool)
    (fetched entry : TreeEntry) : Mapping :=
  { mapping with
    localTree := mapping.localTree.insert destination entry
    history := { mapping.history with
      localSynced := if keepBoth then mapping.history.localSynced
        else (path, entry.hash) :: mapping.history.localSynced
      remoteSynced := (path, fetched.hash) :: mapping.history.remoteSynced } }

/-- The effect of one operation of `execute`, `none` when it cannot end so. -/
def Mapping.carryOut (mapping : Mapping) (now : Int) : SyncOperation -> Outcome -> Option Mapping
  | .upload path localEntry, .succeeded entry _ | .upload path localEntry, .renameFailed entry _ =>
    if mapping.localHash path = some localEntry.hash ∧ mapping.Admits messageOf entry then
      some (mapping.journalPublished now path localEntry entry)
    else none
  | .upload path _, .orphaned entry _ =>
    if mapping.Admits messageOf entry then some (mapping.publish path entry) else none
  | .download path remoteEntry keepBoth expected, .succeeded entry copyPath =>
    if remoteEntry.messageId.isSome ∧ messageOf entry.hash = none ∧
        mapping.localHash (if keepBoth then copyPath else path) =
          (if keepBoth then none else expected) then
      (mapping.findMessage remoteEntry.messageId).map fun fetched =>
        mapping.receive path (if keepBoth then copyPath else path) keepBoth fetched.2 entry
    else none
  | .deleteLocal path expected, .succeeded _ _ =>
    if mapping.localHash path = some expected then
      some { mapping with localTree := mapping.localTree.erase path }
    else none
  | .deleteRemote _ messageId expected, .succeeded _ _ =>
    if (mapping.findMessage (some messageId)).any fun file => decide (file.2.hash = expected) then
      some (mapping.withdraw messageId)
    else none
  | .skip _, .succeeded _ _ => some mapping
  | _, .failed _ => some mapping
  | _, _ => none

/-- What carrying an operation out can do. -/
inductive Carries (mapping : Mapping) (now : Int) : SyncOperation -> Outcome -> Mapping -> Prop
  | failed {operation : SyncOperation} (detail : String) :
      Carries mapping now operation (.failed detail) mapping
  | uploaded {path copyPath : String} {localEntry entry : TreeEntry}
      (verified : mapping.localHash path = some localEntry.hash)
      (admitted : mapping.Admits messageOf entry) :
      Carries mapping now (.upload path localEntry) (.succeeded entry copyPath)
        (mapping.journalPublished now path localEntry entry)
  | unnamed {path detail : String} {localEntry entry : TreeEntry}
      (verified : mapping.localHash path = some localEntry.hash)
      (admitted : mapping.Admits messageOf entry) :
      Carries mapping now (.upload path localEntry) (.renameFailed entry detail)
        (mapping.journalPublished now path localEntry entry)
  | orphaned {path detail : String} {localEntry entry : TreeEntry}
      (admitted : mapping.Admits messageOf entry) :
      Carries mapping now (.upload path localEntry) (.orphaned entry detail)
        (mapping.publish path entry)
  | downloaded {path copyPath : String} {remoteEntry entry : TreeEntry} {keepBoth : Bool}
      {expected : Option String} {fetched : String × TreeEntry}
      (content : messageOf entry.hash = none)
      (verified : mapping.localHash (if keepBoth then copyPath else path) =
        (if keepBoth then none else expected))
      (found : mapping.findMessage remoteEntry.messageId = some fetched) :
      Carries mapping now (.download path remoteEntry keepBoth expected) (.succeeded entry copyPath)
        (mapping.receive path (if keepBoth then copyPath else path) keepBoth fetched.2 entry)
  | deletedLocal {path expected copyPath : String} {entry : TreeEntry}
      (verified : mapping.localHash path = some expected) :
      Carries mapping now (.deleteLocal path expected) (.succeeded entry copyPath)
        { mapping with localTree := mapping.localTree.erase path }
  | deletedRemote {path expected copyPath : String} {messageId : Int} {entry : TreeEntry}
      {file : String × TreeEntry} (found : mapping.findMessage (some messageId) = some file)
      (verified : file.2.hash = expected) :
      Carries mapping now (.deleteRemote path messageId expected) (.succeeded entry copyPath)
        (mapping.withdraw messageId)
  | skipped {path copyPath : String} {entry : TreeEntry} :
      Carries mapping now (.skip path) (.succeeded entry copyPath) mapping

theorem carries_of_carryOut {mapping next : Mapping} {now : Int} {operation : SyncOperation}
    {outcome : Outcome} (carried : mapping.carryOut messageOf now operation outcome = some next) :
    Carries messageOf mapping now operation outcome next := by
  unfold Mapping.carryOut at carried
  split at carried
  next path localEntry entry copyPath =>
    split at carried <;> cases carried
    next enabled => exact .uploaded enabled.1 enabled.2
  next path localEntry entry detail =>
    split at carried <;> cases carried
    next enabled => exact .unnamed enabled.1 enabled.2
  next path localEntry entry detail =>
    split at carried <;> cases carried
    next admitted => exact .orphaned admitted
  next path remoteEntry keepBoth expected entry copyPath =>
    by_cases enabled : remoteEntry.messageId.isSome ∧ messageOf entry.hash = none ∧
        mapping.localHash (if keepBoth then copyPath else path) =
          (if keepBoth then none else expected)
    · rw [if_pos enabled] at carried
      rcases Option.map_eq_some_iff.mp carried with ⟨fetched, found, rfl⟩
      exact .downloaded enabled.2.1 enabled.2.2 found
    · rw [if_neg enabled] at carried
      cases carried
  next path expected entry copyPath =>
    split at carried <;> cases carried
    next verified => exact .deletedLocal verified
  next path messageId expected entry copyPath =>
    split at carried <;> cases carried
    next found =>
      cases present : mapping.findMessage (some messageId) with
      | none =>
        rw [present] at found
        cases found
      | some file =>
        rw [present] at found
        exact .deletedRemote present (of_decide_eq_true found)
  · cases carried
    exact .skipped
  · cases carried
    exact .failed _
  · cases carried

/-- The result that `execute` reports for an operation. -/
def executionResult (operation : SyncOperation) (outcome : Outcome) : ExecutionResult :=
  { relativePath := operation.path
    action := operation.action
    success := match outcome with
      | .succeeded _ _ => true
      | _ => false
    detail := match outcome with
      | .succeeded _ _ => none
      | .failed detail | .renameFailed _ detail | .orphaned _ detail => some detail
    messageId := match operation, outcome with
      | .upload _ _, .succeeded entry _ | .upload _ _, .renameFailed entry _ => entry.messageId
      | _, _ => none
    localHash := match operation, outcome with
      | .download _ _ false _, .succeeded entry _ => some entry.hash
      | _, _ => none }

@[simp] theorem executionResult_path (operation : SyncOperation) (outcome : Outcome) :
    (executionResult operation outcome).relativePath = operation.path := rfl

theorem uploaded_of_result {operation : SyncOperation} {outcome : Outcome}
    (success : (executionResult operation outcome).success = true)
    (action : (executionResult operation outcome).action = .upload) :
    Exists fun path => Exists fun localEntry => Exists fun entry => Exists fun copyPath =>
      operation = .upload path localEntry ∧ outcome = .succeeded entry copyPath := by
  cases outcome with
  | succeeded entry copyPath =>
    rcases operation with ⟨path, localEntry⟩ | ⟨_, _, _ | _, _⟩ | _ | _ | _ | _ <;> cases action
    exact ⟨path, localEntry, entry, copyPath, rfl, rfl⟩
  | failed | renameFailed | orphaned => cases success

/-! ## The phases of a cycle -/

/-- The statements that ran before the cycle stopped, all of them if it did not. -/
def executed (stopAfter : Option Nat) (writes : List StateWrite) : List StateWrite :=
  match stopAfter with
  | none => writes
  | some count => writes.take count

/-- The paths a preparation adopts without a transfer. -/
def adoptedPaths (preferences : SyncPreferences) (localTree remoteTree : FileTree)
    (synced : SyncedTree) : List String :=
  if preferences.adoptMatchingFiles then
    (adoptMatchingFiles localTree remoteTree
      (resumeInterruptedUploads localTree remoteTree synced).1).2
  else []

/-- The history after some files were adopted. -/
def SyncHistory.adopt (history : SyncHistory) (localTree remoteTree : FileTree)
    (paths : List String) : SyncHistory :=
  { history with
    localSynced := (paths.filterMap fun path => localTree[path]?.map fun entry => (path, entry.hash)) ++
      history.localSynced
    remoteSynced := (paths.filterMap fun path => remoteTree[path]?.map fun entry => (path, entry.hash)) ++
      history.remoteSynced }

variable (pair : SyncPair)

/-- The local scan: every file that the walk reaches, with its hash. -/
def Mapping.scan (mapping : Mapping) (refreshMetadata : List (String × TreeEntry)) : LocalScan where
  tree := mapping.localTree.filter fun path _ => !scanOmits pair.preferences path
  hashed := 0
  reused := 0
  refreshMetadata := refreshMetadata

/-- A cycle begins when no superseded message is left to delete and the scan of
the channel is complete. -/
def Mapping.prepare (mapping : Mapping) (clock : String -> Int)
    (refreshMetadata : List (String × TreeEntry)) (stopAfter : Option Nat) : Option Mapping :=
  if mapping.cycle.isNone ∧ mapping.cleanups = [] then
    match scanRemote pair.preferences mapping.messages with
    | .error _ => none
    | .ok remote =>
      let scan := mapping.scan pair refreshMetadata
      let (writes, outcome) := prepareReconciliation pair clock scan mapping.rows remote
      let ran := executed stopAfter writes
      let trees := retainTreePaths pair.preferences (scan.tree, remote, mapping.rows)
      let adopted := (adoptedPaths pair.preferences trees.1 trees.2.1 trees.2.2).filter fun path =>
        ran.any fun write => decide (write.path = path)
      some
        { mapping with
          rows := applyWrites mapping.rows ran
          history := mapping.history.adopt trees.1 trees.2.1 adopted
          cycle := if stopAfter.isSome then none else outcome.toOption.map .begin }
  else none

/-- What a preparation can do. -/
structure Prepares (mapping : Mapping) (clock : String -> Int)
    (refreshMetadata : List (String × TreeEntry)) (stopAfter : Option Nat) (next : Mapping)
    (remote : FileTree) (trees : FileTree × FileTree × SyncedTree) (writes : List StateWrite) :
    Prop where
  idle : mapping.cycle = none
  cleaned : mapping.cleanups = []
  scanned : scanRemote pair.preferences mapping.messages = .ok remote
  retained : trees = retainTreePaths pair.preferences
    ((mapping.scan pair refreshMetadata).tree, remote, mapping.rows)
  planned : writes = (prepareReconciliation pair clock (mapping.scan pair refreshMetadata)
    mapping.rows remote).1
  localTree : next.localTree = mapping.localTree
  messages : next.messages = mapping.messages
  lastMessageId : next.lastMessageId = mapping.lastMessageId
  rows : next.rows = applyWrites mapping.rows (executed stopAfter writes)
  cleanups : next.cleanups = []
  history : next.history = mapping.history.adopt trees.1 trees.2.1
    ((adoptedPaths pair.preferences trees.1 trees.2.1 trees.2.2).filter fun path =>
      (executed stopAfter writes).any fun write => decide (write.path = path))
  cycle : forall cycle, next.cycle = some cycle -> stopAfter = none ∧ Exists fun prepared =>
    cycle = .begin prepared ∧ PreparedFrom pair clock (mapping.scan pair refreshMetadata) trees writes
      prepared

theorem prepares_of_prepare {mapping next : Mapping} {clock : String -> Int}
    {refreshMetadata : List (String × TreeEntry)} {stopAfter : Option Nat}
    (moved : mapping.prepare pair clock refreshMetadata stopAfter = some next) :
    Exists fun remote => Exists fun trees => Exists fun writes =>
      Prepares pair mapping clock refreshMetadata stopAfter next remote trees writes := by
  unfold Mapping.prepare at moved
  split at moved
  next enabled =>
    split at moved
    · cases moved
    next remote scanned =>
      cases prepares : prepareReconciliation pair clock (mapping.scan pair refreshMetadata)
        mapping.rows remote with | mk writes outcome =>
      simp only [prepares, Option.some.injEq] at moved
      subst moved
      refine ⟨remote, _, writes, Option.isNone_iff_eq_none.mp enabled.1, enabled.2, scanned, rfl,
        by rw [prepares], rfl, rfl, rfl, rfl, enabled.2, rfl, ?_⟩
      intro cycle present
      change (if stopAfter.isSome then none else outcome.toOption.map Cycle.begin) = some cycle
        at present
      split at present
      · cases present
      next whole =>
        rw [Option.not_isSome_iff_eq_none] at whole
        cases outcome with
        | error error => cases present
        | ok prepared =>
          cases present
          exact ⟨whole, prepared, rfl, prepareReconciliation_ok prepares⟩
  · cases moved

/-- The message at a path that a new one replaces, if there was another. -/
def replacedMessage (prepared : PreparedReconciliation) (path : String) (newMessageId : Option Int) :
    Option PendingCleanup :=
  match prepared.remoteTree[path]?, newMessageId with
  | some superseded, some newMessageId =>
    match superseded.messageId with
    | some oldMessageId =>
      if replaced : oldMessageId ≠ newMessageId then
        some
          { relativePath := path
            oldMessageId := oldMessageId
            newMessageId := newMessageId
            oldRemoteHash := some superseded.hash
            replaced := replaced }
      else none
    | none => none
  | _, _ => none

/-- The message that a successful upload superseded, for the pending list. -/
def supersededBy (prepared : PreparedReconciliation) (result : ExecutionResult) :
    Option PendingCleanup :=
  if result.success = true ∧ result.action = .upload then
    replacedMessage prepared result.relativePath result.messageId
  else none

/-- The result of an operation joins those of the cycle. -/
def Mapping.report (mapping : Mapping) (cycle : Cycle) (operation : SyncOperation)
    (waiting : List SyncOperation) (outcome : Outcome) : Mapping :=
  let result := executionResult operation outcome
  { mapping with
    cycle := some
      { cycle with
        waiting := waiting
        results := cycle.results ++ [result]
        unsaved := cycle.unsaved ++ [result] }
    history := { mapping.history with
      superseded :=
        (replacedMessage cycle.prepared operation.path result.messageId).toList ++
          mapping.history.superseded } }

/-- The next waiting operation is carried out. -/
def Mapping.perform (mapping : Mapping) (now : Int) (outcome : Outcome) : Option Mapping :=
  match mapping.cycle with
  | none => none
  | some cycle =>
    match cycle.waiting with
    | [] => none
    | operation :: waiting =>
      (mapping.carryOut messageOf now operation outcome).map fun next =>
        next.report cycle operation waiting outcome

/-- The loop of `reconcile_pair` that saves superseded messages, one result at a time. -/
def Mapping.savePending (mapping : Mapping) : Option Mapping :=
  match mapping.cycle with
  | none => none
  | some cycle =>
    match cycle.waiting, cycle.unsaved with
    | [], result :: unsaved =>
      some
        { mapping with
          cleanups := match supersededBy cycle.prepared result with
            | some item => if item ∈ mapping.cleanups then mapping.cleanups
                else mapping.cleanups ++ [item]
            | none => mapping.cleanups
          cycle := some { cycle with unsaved := unsaved } }
    | _, _ => none

/-- `journal_uploads`, after the whole batch. -/
def Mapping.journal (mapping : Mapping) (clock : String -> Int) (stopAfter : Option Nat) :
    Option Mapping :=
  match mapping.cycle with
  | none => none
  | some cycle =>
    if cycle.waiting = [] ∧ cycle.unsaved = [] ∧ cycle.journaled = false then
      some
        { mapping.write (executed stopAfter
            (journalUploads clock cycle.prepared.localTree cycle.results)) with
          cycle := if stopAfter.isSome then none else some { cycle with journaled := true } }
    else none

inductive CleanupAction
  | deleteOld
  | alreadyGone
  | preserveOld
deriving DecidableEq

def cleanupAction (oldExists newExists oldUnchanged : Bool) : CleanupAction :=
  match oldExists, newExists, oldUnchanged with
  | false, _, _ => .alreadyGone
  | true, true, true => .deleteOld
  | true, _, _ => .preserveOld

/-- What is to be done about an entry of the pending list. -/
def Mapping.actionFor (mapping : Mapping) (item : PendingCleanup) : CleanupAction :=
  let old := mapping.findMessage (some item.oldMessageId)
  cleanupAction old.isSome (mapping.findMessage (some item.newMessageId)).isSome
    (old.any fun file => decide (item.oldRemoteHash = some file.2.hash))

/-- What `retry_pending_cleanup` does about an entry.  A preserved message is an
error that ends the cycle. -/
def Mapping.settle (mapping : Mapping) (item : PendingCleanup) : Mapping :=
  match mapping.actionFor item with
  | .deleteOld => mapping.withdraw item.oldMessageId
  | .alreadyGone => mapping
  | .preserveOld =>
    { mapping.write [.setStatus item.relativePath .conflict] with
      cycle := none }

/-- One round of `replay_pending_cleanup`, before a cycle or in it.  The entry
stays in the list when the cycle stops before the list is saved. -/
def Mapping.cleanUp (mapping : Mapping) (saved : Bool) : Option Mapping :=
  match mapping.cleanups with
  | [] => none
  | item :: rest =>
    if mapping.cycle.all (·.journaled) then
      if saved then some { mapping.settle item with cleanups := rest }
      else some { mapping.settle item with cycle := none }
    else none

/-- The messages that `journal_uploads` returns for reading back. -/
def journaledUploads (localTree : FileTree) (results : List ExecutionResult) :
    List (String × Int) :=
  (results.filter fun result => result.success && decide (result.action = .upload)).filterMap
    fun result =>
      match result.messageId, localTree[result.relativePath]? with
      | some messageId, some _ => some (result.relativePath, messageId)
      | _, _ => none

/-- `uploaded_tree`: the entries of these messages, at the paths they were uploaded for. -/
def readBackTree (uploads : List (String × Int)) (messages : List (String × TreeEntry)) : FileTree :=
  messages.foldl (fun tree file =>
    match uploads.find? fun upload => file.2.messageId = some upload.2 with
    | some upload => tree.insert upload.1 file.2
    | none => tree) ∅

/-- The results are recorded, with the uploads read back if that was possible. -/
def Mapping.finish (mapping : Mapping) (clock : String -> Int) (readBack : Bool)
    (stopAfter : Option Nat) : Option Mapping :=
  match mapping.cycle with
  | none => none
  | some cycle =>
    if cycle.journaled = true ∧ mapping.cleanups = [] then
      let uploaded :=
        if readBack then
          readBackTree (journaledUploads cycle.prepared.localTree cycle.results) mapping.messages
        else ∅
      some
        { mapping.write (executed stopAfter
            (recordResults clock cycle.prepared cycle.results uploaded)) with
          cycle := none }
    else none

/-- `cmd_resolve_conflict`, which waits for the cycle to end. -/
def Mapping.resolve (mapping : Mapping) (path : String) (chosen : SyncStatus) : Option Mapping :=
  if mapping.cycle.isNone ∧ chosen.isResolution = true then
    if mapping.rows[path]?.any fun row => decide (row.syncStatus = .conflict) then
      some
        { mapping.write [.setStatus path chosen] with
          history := { mapping.history with chosen := mapping.history.chosen.insert path chosen } }
    else some mapping
  else none

/-! ## The machine -/

inductive MappingEvent
  | editLocal (path : String) (entry : Option TreeEntry)
  | post (path : String) (entry : TreeEntry)
  | edit (path : String) (entry : TreeEntry)
  | withdraw (messageId : Int)
  | resolve (path : String) (chosen : SyncStatus)
  | prepare (clock : String -> Int) (refreshMetadata : List (String × TreeEntry))
      (stopAfter : Option Nat)
  | perform (now : Int) (outcome : Outcome)
  | savePending
  | journal (clock : String -> Int) (stopAfter : Option Nat)
  | cleanUp (saved : Bool)
  | finish (clock : String -> Int) (readBack : Bool) (stopAfter : Option Nat)
  | abandon

def mappingMachine : Machine Mapping MappingEvent where
  step mapping
    | .editLocal path entry =>
      if entry.all fun entry => decide (messageOf entry.hash = none) then
        some { mapping with localTree := mapping.localTree.alter path fun _ => entry }
      else none
    | .post path entry =>
      if mapping.Admits messageOf entry then some (mapping.post path entry) else none
    | .edit path entry =>
      if IsFingerprinted messageOf entry then some (mapping.edit path entry) else none
    | .withdraw messageId => some (mapping.withdraw messageId)
    | .resolve path chosen => mapping.resolve path chosen
    | .prepare clock refreshMetadata stopAfter =>
      mapping.prepare pair clock refreshMetadata stopAfter
    | .perform now outcome => mapping.perform messageOf now outcome
    | .savePending => mapping.savePending
    | .journal clock stopAfter => mapping.journal clock stopAfter
    | .cleanUp saved => mapping.cleanUp saved
    | .finish clock readBack stopAfter => mapping.finish clock readBack stopAfter
    | .abandon => some { mapping with cycle := none }

end Steps

/-! ## What the steps do -/

section Inversion

variable {mapping next : Mapping}

theorem perform_eq_some {messageOf : String -> Option Int} {now : Int} {outcome : Outcome}
    (moved : mapping.perform messageOf now outcome = some next) :
    Exists fun cycle => Exists fun operation => Exists fun waiting => Exists fun after =>
      mapping.cycle = some cycle ∧ cycle.waiting = operation :: waiting ∧
        Carries messageOf mapping now operation outcome after ∧
        next = after.report cycle operation waiting outcome := by
  unfold Mapping.perform at moved
  split at moved
  · cases moved
  next cycle running =>
    split at moved
    · cases moved
    next operation waiting pending =>
      rcases Option.map_eq_some_iff.mp moved with ⟨after, carried, rfl⟩
      exact ⟨cycle, operation, waiting, after, running, pending,
        carries_of_carryOut messageOf carried, rfl⟩

theorem savePending_eq_some (moved : mapping.savePending = some next) :
    Exists fun cycle => Exists fun result => Exists fun unsaved =>
      mapping.cycle = some cycle ∧ cycle.waiting = [] ∧ cycle.unsaved = result :: unsaved ∧
        next = { mapping with
          cleanups := match supersededBy cycle.prepared result with
            | some item => if item ∈ mapping.cleanups then mapping.cleanups
                else mapping.cleanups ++ [item]
            | none => mapping.cleanups
          cycle := some { cycle with unsaved := unsaved } } := by
  unfold Mapping.savePending at moved
  split at moved
  · cases moved
  next cycle running =>
    split at moved
    next result unsaved idle pending =>
      cases moved
      exact ⟨cycle, result, unsaved, running, idle, pending, rfl⟩
    · cases moved

theorem journal_eq_some {clock : String -> Int} {stopAfter : Option Nat}
    (moved : mapping.journal clock stopAfter = some next) :
    Exists fun cycle => mapping.cycle = some cycle ∧ cycle.waiting = [] ∧ cycle.unsaved = [] ∧
      next = { mapping.write (executed stopAfter
          (journalUploads clock cycle.prepared.localTree cycle.results)) with
        cycle := if stopAfter.isSome then none else some { cycle with journaled := true } } := by
  unfold Mapping.journal at moved
  split at moved
  · cases moved
  next cycle running =>
    split at moved
    next enabled =>
      cases moved
      exact ⟨cycle, running, enabled.1, enabled.2.1, rfl⟩
    · cases moved

theorem settle_cases (mapping : Mapping) (item : PendingCleanup) :
    (mapping.actionFor item = .deleteOld ∧
        mapping.settle item = mapping.withdraw item.oldMessageId) ∨
      (mapping.actionFor item = .alreadyGone ∧ mapping.settle item = mapping) ∨
      (mapping.actionFor item = .preserveOld ∧
        mapping.settle item = { mapping.write [.setStatus item.relativePath .conflict] with
          cycle := none }) := by
  unfold Mapping.settle
  split
  next action => exact .inl ⟨action, rfl⟩
  next action => exact .inr (.inl ⟨action, rfl⟩)
  next action => exact .inr (.inr ⟨action, rfl⟩)

theorem cleanUp_eq_some {saved : Bool} (moved : mapping.cleanUp saved = some next) :
    Exists fun item => Exists fun rest =>
      mapping.cleanups = item :: rest ∧ mapping.cycle.all (·.journaled) = true ∧
        ((saved = true ∧ next = { mapping.settle item with cleanups := rest }) ∨
          (saved = false ∧ next = { mapping.settle item with cycle := none })) := by
  unfold Mapping.cleanUp at moved
  split at moved
  · cases moved
  next item rest waiting =>
    split at moved
    next journaled =>
      refine ⟨item, rest, waiting, journaled, ?_⟩
      cases saved <;> cases moved
      · exact .inr ⟨rfl, rfl⟩
      · exact .inl ⟨rfl, rfl⟩
    · cases moved

theorem finish_eq_some {clock : String -> Int} {readBack : Bool} {stopAfter : Option Nat}
    (moved : mapping.finish clock readBack stopAfter = some next) :
    Exists fun cycle => Exists fun uploaded => mapping.cycle = some cycle ∧
      cycle.journaled = true ∧
      (uploaded = ∅ ∨ uploaded =
        readBackTree (journaledUploads cycle.prepared.localTree cycle.results) mapping.messages) ∧
      next = { mapping.write (executed stopAfter
          (recordResults clock cycle.prepared cycle.results uploaded)) with
        cycle := none } := by
  unfold Mapping.finish at moved
  split at moved
  · cases moved
  next cycle running =>
    split at moved
    next enabled =>
      cases moved
      refine ⟨cycle, _, running, enabled.1, ?_, rfl⟩
      cases readBack with
      | true => exact .inr rfl
      | false => exact .inl rfl
    · cases moved

theorem resolve_eq_some {path : String} {chosen : SyncStatus}
    (moved : mapping.resolve path chosen = some next) :
    next = mapping ∨ (mapping.cycle = none ∧ chosen.isResolution = true ∧
      next = { mapping.write [.setStatus path chosen] with
        history := { mapping.history with chosen := mapping.history.chosen.insert path chosen } }) := by
  unfold Mapping.resolve at moved
  split at moved
  next idle =>
    split at moved <;> cases moved
    · exact .inr ⟨Option.isNone_iff_eq_none.mp idle.1, idle.2, rfl⟩
    · exact .inl rfl
  · cases moved

end Inversion

/-! ## What the steps write -/

theorem journalPublished_rows {mapping : Mapping} {now : Int} {path : String}
    {localEntry entry : TreeEntry} {messageId : Int} (given : entry.messageId = some messageId) :
    (mapping.journalPublished now path localEntry entry).rows =
      applyWrites mapping.rows [journalUpload path localEntry messageId now] := by
  simp only [Mapping.journalPublished, given, Option.toList_some, List.map_cons, List.map_nil]

theorem Carries.rows_other {messageOf : String -> Option Int} {mapping next : Mapping} {now : Int} {operation : SyncOperation}
    {outcome : Outcome} (carries : Carries messageOf mapping now operation outcome next)
    {other : String} (different : other ≠ operation.path) :
    next.rows[other]? = mapping.rows[other]? := by
  cases carries with
  | uploaded verified admitted | unnamed verified admitted =>
    rcases Option.isSome_iff_exists.mp admitted.1.1 with ⟨messageId, given⟩
    rw [journalPublished_rows given, applyWrites_singleton]
    exact if_neg (Ne.symm different)
  | failed | downloaded | orphaned | deletedLocal | deletedRemote | skipped => rfl

/-- Choices are only made by the user. -/
theorem Carries.chosen {messageOf : String -> Option Int} {mapping next : Mapping} {now : Int} {operation : SyncOperation}
    {outcome : Outcome} (carries : Carries messageOf mapping now operation outcome next) :
    next.history.chosen = mapping.history.chosen := by
  cases carries <;> rfl

theorem executed_subset {stopAfter : Option Nat} {writes : List StateWrite} {write : StateWrite}
    (member : write ∈ executed stopAfter writes) : write ∈ writes := by
  cases stopAfter with
  | none => exact member
  | some count => exact List.mem_of_mem_take member

theorem mem_journalUploads {clock : String -> Int} {localTree : FileTree}
    {results : List ExecutionResult} {write : StateWrite}
    (member : write ∈ journalUploads clock localTree results) :
    Exists fun result => result ∈ results ∧ result.success = true ∧ result.action = .upload ∧
      Exists fun messageId => Exists fun localEntry => result.messageId = some messageId ∧
        localTree[result.relativePath]? = some localEntry ∧
        write = journalUpload result.relativePath localEntry messageId (clock result.relativePath) := by
  rcases List.mem_filterMap.mp member with ⟨result, listed, journaled⟩
  rcases List.mem_filter.mp listed with ⟨present, succeeded⟩
  rw [Bool.and_eq_true, decide_eq_true_eq] at succeeded
  refine ⟨result, present, succeeded.1, succeeded.2, ?_⟩
  split at journaled
  next messageId localEntry given copy =>
    cases journaled
    exact ⟨messageId, localEntry, given, copy, rfl⟩
  · cases journaled

theorem mem_prepareReconciliation {pair : SyncPair} {clock : String -> Int} {scan : LocalScan}
    {rows : SyncedTree} {remote : FileTree} {trees : FileTree × FileTree × SyncedTree}
    (retained : trees = retainTreePaths pair.preferences (scan.tree, remote, rows))
    {write : StateWrite} (member : write ∈ (prepareReconciliation pair clock scan rows remote).1) :
    write ∈ bookkeepingWrites pair.preferences clock scan trees ∨
      Exists fun path => pair.preferences.ignores path = false ∧
        write = conflictWrite clock trees.1 trees.2.1
          (baseline pair.preferences trees.1 trees.2.1 trees.2.2).1 path := by
  cases prepares : prepareReconciliation pair clock scan rows remote with | mk writes outcome =>
  rw [prepares] at member
  cases outcome with
  | error error =>
    left
    unfold prepareReconciliation at prepares
    simp only at prepares
    split at prepares
    · rw [← (Prod.mk.inj prepares).1, ← retained] at member
      exact member
    · cases (Prod.mk.inj prepares).2
  | ok prepared =>
    have from_ := prepareReconciliation_ok prepares
    rw [from_.written] at member
    rcases List.mem_append.mp member with book | conflict
    · exact .inl (retained ▸ book)
    · rcases List.mem_map.mp conflict with ⟨operation, planned, rfl⟩
      refine .inr ⟨operation.path, (from_.planned (List.mem_filter.mp planned).1).1, ?_⟩
      rw [from_.localTree, from_.remoteTree, from_.synced, ← retained]

/-- The statements of the results of one cycle concern different paths. -/
theorem recordResults_distinct (clock : String -> Int) (prepared : PreparedReconciliation)
    {results : List ExecutionResult} (uploaded : FileTree) (stopAfter : Option Nat)
    (distinct : (results.map (·.relativePath)).Nodup) :
    ((executed stopAfter (recordResults clock prepared results uploaded)).map StateWrite.path).Nodup := by
  have all : ((recordResults clock prepared results uploaded).map StateWrite.path).Nodup := by
    rw [List.Nodup, List.pairwise_map] at distinct ⊢
    refine distinct.filterMap _ ?_
    intro one two different first firstWrite second secondWrite
    rw [recordResult_path firstWrite, recordResult_path secondWrite]
    exact different
  cases stopAfter with
  | none => exact all
  | some count => exact all.sublist ((List.take_sublist _ _).map _)

theorem mem_of_readBackTree {uploads : List (String × Int)} {path : String} {entry : TreeEntry}
    (present : (readBackTree uploads messages)[path]? = some entry) :
    Exists fun file => file ∈ messages ∧ file.2 = entry ∧ Exists fun messageId =>
      (path, messageId) ∈ uploads ∧ entry.messageId = some messageId := by
  have grows : forall (messages : List (String × TreeEntry)) (tree : FileTree),
      (messages.foldl (fun tree file =>
        match uploads.find? fun upload => file.2.messageId = some upload.2 with
        | some upload => tree.insert upload.1 file.2
        | none => tree) tree)[path]? = some entry ->
      tree[path]? = some entry ∨ Exists fun file => file ∈ messages ∧ file.2 = entry ∧
        Exists fun messageId => (path, messageId) ∈ uploads ∧ entry.messageId = some messageId := by
    intro messages
    induction messages with
    | nil => exact fun tree => .inl
    | cons file messages ih =>
      intro tree found
      rw [List.foldl_cons] at found
      rcases ih _ found with here | ⟨later, member, rest⟩
      · split at here
        next upload listed =>
          rw [Std.TreeMap.getElem?_insert] at here
          split at here
          next same =>
            cases here
            right
            refine ⟨file, List.mem_cons_self, rfl, upload.2, ?_, ?_⟩
            · rw [← compare_eq_iff_eq.mp same]
              exact List.mem_of_find?_eq_some listed
            · have unique := List.find?_some listed
              exact of_decide_eq_true unique
          · exact .inl here
        · exact .inl here
      · exact .inr ⟨later, List.mem_cons_of_mem file member, rest⟩
  exact (grows messages ∅ present).resolve_left (by simp)

theorem mem_journaledUploads {localTree : FileTree} {results : List ExecutionResult}
    {upload : String × Int} (member : upload ∈ journaledUploads localTree results) :
    Exists fun result => result ∈ results ∧ result.success = true ∧ result.action = .upload ∧
      result.relativePath = upload.1 ∧ result.messageId = some upload.2 := by
  rcases List.mem_filterMap.mp member with ⟨result, listed, returned⟩
  rcases List.mem_filter.mp listed with ⟨present, succeeded⟩
  rw [Bool.and_eq_true, decide_eq_true_eq] at succeeded
  refine ⟨result, present, succeeded.1, succeeded.2, ?_⟩
  split at returned
  next messageId localEntry given copy =>
    cases returned
    exact ⟨rfl, given⟩
  · cases returned

theorem scan_getElem? {pair : SyncPair} {mapping : Mapping}
    (refreshMetadata : List (String × TreeEntry)) {path : String} {entry : TreeEntry}
    (present : (mapping.scan pair refreshMetadata).tree[path]? = some entry) :
    mapping.localTree[path]? = some entry ∧ scanOmits pair.preferences path = false := by
  change (mapping.localTree.filter fun path _ => !scanOmits pair.preferences path)[path]? =
    some entry at present
  rw [Std.TreeMap.getElem?_filter'] at present
  cases found : mapping.localTree[path]? with
  | none =>
    rw [found] at present
    cases present
  | some entry' =>
    cases omitted : scanOmits pair.preferences path <;> simp [found, omitted] at present
    exact ⟨congrArg some present, rfl⟩

/-! ## The numbering of messages -/

/-- Every message has its own id, up to the last one given, and a fingerprint that names it. -/
structure Mapping.Numbered (messageOf : String -> Option Int) (mapping : Mapping) : Prop where
  prints : forall file, file ∈ mapping.messages -> IsFingerprinted messageOf file.2
  last : forall file, file ∈ mapping.messages -> file.2.messageId.getD 0 ≤ mapping.lastMessageId
  distinct : (mapping.messages.map fun file => file.2.messageId).Nodup

section Numbering

variable {messageOf : String -> Option Int} {mapping next : Mapping}

theorem empty_numbered : Mapping.empty.Numbered messageOf := ⟨nofun, nofun, List.nodup_nil⟩

theorem Mapping.Numbered.frame (numbered : mapping.Numbered messageOf)
    (messages : next.messages = mapping.messages)
    (lastMessageId : next.lastMessageId = mapping.lastMessageId) : next.Numbered messageOf := by
  refine ⟨?_, ?_, ?_⟩ <;> rw [messages]
  · exact numbered.prints
  · rw [lastMessageId]
    exact numbered.last
  · exact numbered.distinct

/-- The id of a new message is not that of an earlier one. -/
theorem Mapping.Numbered.fresh (numbered : mapping.Numbered messageOf) {entry : TreeEntry}
    (admitted : mapping.Admits messageOf entry) {file : String × TreeEntry}
    (member : file ∈ mapping.messages) : file.2.messageId ≠ entry.messageId := by
  intro same
  have bounded := numbered.last file member
  have later := admitted.2
  rw [same] at bounded
  omega

theorem Mapping.Numbered.post (numbered : mapping.Numbered messageOf) {path : String}
    {entry : TreeEntry} (admitted : mapping.Admits messageOf entry) :
    (mapping.post path entry).Numbered messageOf := by
  refine ⟨?_, ?_, ?_⟩
  · intro file member
    rcases List.mem_append.mp member with old | new
    · exact numbered.prints file old
    · rw [List.mem_singleton.mp new]
      exact admitted.1
  · intro file member
    change _ ≤ entry.messageId.getD 0
    rcases List.mem_append.mp member with old | new
    · exact (numbered.last file old).trans (Int.le_of_lt admitted.2)
    · rw [List.mem_singleton.mp new]
  · change ((mapping.messages ++ [(path, entry)]).map fun file => file.2.messageId).Nodup
    rw [List.map_append, List.map_singleton, List.nodup_append]
    refine ⟨numbered.distinct, List.nodup_singleton _, ?_⟩
    intro id old new member same
    rcases List.mem_map.mp old with ⟨file, listed, rfl⟩
    rw [List.mem_singleton.mp member] at same
    exact numbered.fresh admitted listed same

theorem Mapping.Numbered.edit (numbered : mapping.Numbered messageOf) {path : String}
    {entry : TreeEntry} (print : IsFingerprinted messageOf entry) :
    (mapping.edit path entry).Numbered messageOf := by
  refine ⟨?_, ?_, ?_⟩
  · intro file member
    rcases List.mem_map.mp member with ⟨old, listed, rfl⟩
    split
    · exact print
    · exact numbered.prints old listed
  · intro file member
    rcases List.mem_map.mp member with ⟨old, listed, rfl⟩
    split
    next same =>
      rw [← same]
      exact numbered.last old listed
    · exact numbered.last old listed
  · have same : ((mapping.edit path entry).messages.map fun file => file.2.messageId) =
        mapping.messages.map fun file => file.2.messageId := by
      change ((mapping.messages.map _).map _) = _
      rw [List.map_map]
      refine List.map_congr_left fun file _ => ?_
      rw [Function.comp_apply]
      split
      next same => exact same.symm
      · rfl
    rw [same]
    exact numbered.distinct

theorem Mapping.Numbered.withdraw (numbered : mapping.Numbered messageOf) (messageId : Int) :
    (mapping.withdraw messageId).Numbered messageOf :=
  ⟨fun file member => numbered.prints file (List.mem_filter.mp member).1,
    fun file member => numbered.last file (List.mem_filter.mp member).1,
    numbered.distinct.sublist (List.filter_sublist.map _)⟩

theorem Carries.numbered {now : Int} {operation : SyncOperation} {outcome : Outcome}
    (carries : Carries messageOf mapping now operation outcome next)
    (numbered : mapping.Numbered messageOf) : next.Numbered messageOf := by
  cases carries with
  | uploaded verified admitted | unnamed verified admitted | orphaned admitted =>
    exact (numbered.post admitted).frame rfl rfl
  | deletedRemote found verified => exact numbered.withdraw _
  | failed | downloaded | deletedLocal | skipped => exact numbered.frame rfl rfl

end Numbering

/-! ## Concrete schedules -/

/-- The fingerprints of the messages that the schedules of later modules use. -/
def sampleMessageOf (hash : String) : Option Int :=
  if hash = "v2:7" then some 7 else if hash = "v2:8" then some 8 else none

def samplePair (direction : Direction) : SyncPair where
  syncDirection := direction
  preferences := default

def sampleEntry (hash : String) (fileSize : Nat) (messageId : Option Int) : TreeEntry :=
  { hash := hash, fileSize := fileSize, modifiedAt := none, messageId := messageId }

/-- A cycle with one operation, from its preparation to the recorded result. -/
def sampleCycle (outcome : Outcome) : List MappingEvent :=
  [.prepare (fun _ => 0) [] none, .perform 0 outcome, .savePending, .journal (fun _ => 0) none,
    .finish (fun _ => 0) true none]

end SyncEngine
end TelegramDrive
