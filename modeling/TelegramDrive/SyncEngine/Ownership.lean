import TelegramDrive.SyncEngine.Mapping

namespace TelegramDrive
namespace SyncEngine

/-!
# Only transferred versions are replaced or deleted

An upload over a Telegram file, a download over a local file and the two
deletions each remove a version that may exist nowhere else.  They are safe when
that version once went to or came from the other side.

The planner knows this only through the rows.  A row that is not a conflict, nor
a resolution of one, counts as the record of a transfer: the copy that still has
its recorded hash is taken for one the other side already has.  The invariant
says which rows deserve that.  It can fail in three ways, which
`recordsTransfers` lists: a failed operation turns a row that never stood for a
transfer into such a record, a kept copy does, and the row of a pending upload
does when its message was changed before it was read back.
-/

/-! ## Versions -/

/-- The version that an operation replaces or deletes was transferred, or the
user chose the other copy. -/
def Safe (history : SyncHistory) (prepared : PreparedReconciliation) : SyncOperation -> Prop
  | .upload path _ => forall superseded, prepared.remoteTree[path]? = some superseded ->
      (path, superseded.hash) ∈ history.remoteSynced ∨
        prepared.synced[path]?.map (·.syncStatus) = some .keepLocal
  | .download path _ false expected => forall replaced, expected = some replaced ->
      (path, replaced) ∈ history.localSynced ∨
        prepared.synced[path]?.map (·.syncStatus) = some .keepRemote
  | .deleteLocal path deleted => (path, deleted) ∈ history.localSynced
  | .deleteRemote path _ deleted => (path, deleted) ∈ history.remoteSynced
  | .download _ _ true _ | .conflict _ | .skip _ => True

instance (row : SyncedEntry) : Decidable row.IsOrdinary := inferInstanceAs (Decidable (_ ∧ _))

/-- The row has this version of the message for the one in sync: by its
fingerprint, or by its id while the fingerprint is not yet known. -/
def SyncedEntry.Claims (row : SyncedEntry) (entry : TreeEntry) : Prop :=
  row.IsOrdinary ∧ row.localHash ≠ none ∧
    (row.remoteHash = some entry.hash ∨
      (row.syncStatus = .syncing ∧ entry.messageId = row.messageId))

instance (row : SyncedEntry) (entry : TreeEntry) : Decidable (row.Claims entry) :=
  inferInstanceAs (Decidable (_ ∧ _ ∧ (_ ∨ _ ∧ _)))

/-- The history grew. -/
structure SyncHistory.Grows (before after : SyncHistory) : Prop where
  localSynced : forall version, version ∈ before.localSynced -> version ∈ after.localSynced
  remoteSynced : forall version, version ∈ before.remoteSynced -> version ∈ after.remoteSynced

theorem SyncHistory.Grows.refl (history : SyncHistory) : history.Grows history :=
  ⟨fun _ => id, fun _ => id⟩

variable {before after history : SyncHistory} {operation : SyncOperation}
   {prepared : PreparedReconciliation}

theorem Safe.grows (safe : Safe before prepared operation)
    (grows : before.Grows after) : Safe after prepared operation := by
  rcases operation with ⟨path, localEntry⟩ | ⟨path, remoteEntry, _ | _, expected⟩ | ⟨path, deleted⟩ |
    ⟨path, messageId, deleted⟩ | path | path
  · intro superseded present
    exact (safe superseded present).imp_left (grows.remoteSynced _)
  · intro replaced exists_
    exact (safe replaced exists_).imp_left (grows.localSynced _)
  · trivial
  · exact grows.localSynced _ safe
  · exact grows.remoteSynced _ safe
  · trivial
  · trivial

/-! ## Rows that stand for a transfer -/

/-- What the row of a path promises when it is neither a conflict nor a
resolution: with both hashes its local version was transferred, and so was the
version it claims. -/
structure RowAnchored (history : SyncHistory) (messages : List (String × TreeEntry)) (path : String)
    (row : SyncedEntry) : Prop where
  localCopy : row.IsOrdinary -> row.remoteHash ≠ none ∨ row.syncStatus = .syncing ->
    forall hash, row.localHash = some hash -> (path, hash) ∈ history.localSynced
  remoteCopy : forall entry, (path, entry) ∈ messages -> row.Claims entry ->
    (path, entry.hash) ∈ history.remoteSynced

/-- The row of a path after a statement, if it has one, is anchored. -/
def Anchors (history : SyncHistory) (messages : List (String × TreeEntry)) (path : String)
    (row : Option SyncedEntry) : Prop :=
  forall entry, row = some entry -> RowAnchored history messages path entry

variable {path : String} {messages : List (String × TreeEntry)} {row : SyncedEntry}

theorem RowAnchored.mono {later : List (String × TreeEntry)} (anchored : RowAnchored before messages path row)
    (grows : before.Grows after)
    (appeared : forall entry, (path, entry) ∈ later -> (path, entry) ∈ messages ∨
      (row.Claims entry -> (path, entry.hash) ∈ after.remoteSynced)) :
    RowAnchored after later path row := by
  refine ⟨fun ordinary both hash recorded =>
    grows.localSynced _ (anchored.localCopy ordinary both hash recorded), ?_⟩
  intro entry member claims
  rcases appeared entry member with old | known
  · exact grows.remoteSynced _ (anchored.remoteCopy entry old claims)
  · exact known claims

theorem Anchors.grows {row : Option SyncedEntry} (anchors : Anchors before messages path row)
    (grows : before.Grows after) : Anchors after messages path row :=
  fun entry present => (anchors entry present).mono grows fun _ => .inl

/-- A conflict, or a resolution of one, promises nothing. -/
theorem RowAnchored.of_not_ordinary (special : ¬row.IsOrdinary) :
    RowAnchored history messages path row :=
  ⟨fun ordinary => absurd ordinary special, fun _ _ claims => absurd claims.1 special⟩

/-- A row with one hash promises nothing unless it is a pending upload. -/
theorem RowAnchored.of_half (half : row.localHash = none ∨ row.remoteHash = none)
    (settled : row.syncStatus ≠ .syncing) : RowAnchored history messages path row := by
  constructor
  · intro ordinary both hash recorded
    rcases half with missing | missing
    · rw [missing] at recorded
      cases recorded
    · exact absurd missing (both.resolve_right settled)
  · rintro entry member ⟨ordinary, copied, same | ⟨pending, same⟩⟩
    · rcases half with missing | missing
      · exact absurd missing copied
      · rw [missing] at same
        cases same
    · exact absurd pending settled

/-- Of a row only the hashes, the message id and the status matter. -/
theorem RowAnchored.congr {other : SyncedEntry} (anchored : RowAnchored history messages path row)
    (localHash : other.localHash = row.localHash) (remoteHash : other.remoteHash = row.remoteHash)
    (messageId : other.messageId = row.messageId) (status : other.syncStatus = row.syncStatus) :
    RowAnchored history messages path other := by
  have ordinary : other.IsOrdinary ↔ row.IsOrdinary := by
    unfold SyncedEntry.IsOrdinary
    rw [status]
  constructor
  · rw [ordinary, localHash, remoteHash, status]
    exact anchored.localCopy
  · intro entry member claims
    refine anchored.remoteCopy entry member ?_
    unfold SyncedEntry.Claims at claims ⊢
    rw [← ordinary, ← localHash, ← remoteHash, ← messageId, ← status]
    exact claims

/-- A row with both hashes and no pending upload is anchored by its two versions. -/
theorem RowAnchored.of_versions (settled : row.syncStatus ≠ .syncing)
    (localCopy : forall hash, row.localHash = some hash -> (path, hash) ∈ history.localSynced)
    (remoteCopy : forall entry, (path, entry) ∈ messages -> row.remoteHash = some entry.hash ->
      (path, entry.hash) ∈ history.remoteSynced) : RowAnchored history messages path row := by
  refine ⟨fun _ _ => localCopy, ?_⟩
  rintro entry member ⟨-, -, same | ⟨pending, -⟩⟩
  · exact remoteCopy entry member same
  · exact absurd pending settled

theorem RowAnchored.marked {status : SyncStatus}
    (anchored : RowAnchored history messages path row) (ordinary : row.IsOrdinary)
    (settled : status ≠ .syncing) :
    RowAnchored history messages path { row with syncStatus := status } := by
  constructor
  · intro _ both hash recorded
    exact anchored.localCopy ordinary (.inl (both.resolve_right settled)) hash recorded
  · rintro entry member ⟨-, copied, same | ⟨pending, -⟩⟩
    · exact anchored.remoteCopy entry member ⟨ordinary, copied, .inl same⟩
    · exact absurd pending settled

/-! ## The condition on a run -/

/-- No row takes a version of a message for one in sync that was never transferred. -/
def Mapping.unclaimed (mapping : Mapping) (path : String) (entry : TreeEntry) : Bool :=
  mapping.rows[path]?.all fun row =>
    decide (row.Claims entry -> (path, entry.hash) ∈ mapping.history.remoteSynced)

/-- The messages at a path with this fingerprint are in a version that was transferred. -/
def Mapping.fetched (mapping : Mapping) (path : String) (hash : Option String) : Bool :=
  mapping.messages.all fun file =>
    decide (file.1 = path ∧ hash = some file.2.hash -> (path, file.2.hash) ∈ mapping.history.remoteSynced)

/-- The row knows one copy of two, still unchanged and never transferred: it was
left by a first transfer that failed. -/
def halfRecorded (history : SyncHistory) (path : String) (localEntry remoteEntry : TreeEntry)
    (row : SyncedEntry) : Bool :=
  decide (row.IsOrdinary ∧
    ((row.remoteHash = none ∧ row.localHash = some localEntry.hash ∧
        (path, localEntry.hash) ∉ history.localSynced) ∨
      (row.localHash = none ∧ row.remoteHash = some remoteEntry.hash ∧
        (path, remoteEntry.hash) ∉ history.remoteSynced)))

/-- Recording the result does not make a record of a transfer out of versions
that were not transferred. -/
def Mapping.recordsTransfer (mapping : Mapping) (prepared : PreparedReconciliation)
    (result : ExecutionResult) : Bool :=
  let path := result.relativePath
  if result.success then
    match result.action with
    | .keepBoth =>
      (prepared.localTree[path]?.all fun entry =>
        decide ((path, entry.hash) ∈ mapping.history.localSynced)) &&
          mapping.fetched path (prepared.remoteTree[path]?.map (·.hash))
    | .download => mapping.fetched path (prepared.remoteTree[path]?.map (·.hash))
    | _ => true
  else
    decide (result.action = .conflict) || mapping.rows[path]?.all fun row =>
      decide row.IsOrdinary || row.localHash.isNone || row.remoteHash.isNone ||
        ((row.localHash.all fun hash => decide ((path, hash) ∈ mapping.history.localSynced)) &&
          mapping.fetched path row.remoteHash)

/-- The steps that keep every row a record of what was transferred. -/
def recordsTransfers (pair : SyncPair) (mapping : Mapping) : MappingEvent -> Bool
  | .post path entry | .edit path entry => mapping.unclaimed path entry
  | .prepare _ _ _ =>
    mapping.messages.all fun file =>
      scanOmits pair.preferences file.1 || mapping.localTree[file.1]?.all fun localEntry =>
        mapping.rows[file.1]?.all fun row =>
          !halfRecorded mapping.history file.1 localEntry file.2 row
  | .perform _ (.orphaned entry _) =>
    (mapping.cycle.bind (·.waiting.head?)).all fun operation =>
      mapping.unclaimed operation.path entry
  | .finish _ _ _ =>
    mapping.cycle.all fun cycle => cycle.results.all (mapping.recordsTransfer cycle.prepared)
  | _ => true

/-! ## The invariant -/

/-- What the preparation of a bidirectional mapping established about an operation. -/
structure Foreseen (history : SyncHistory) (prepared : PreparedReconciliation)
    (operation : SyncOperation) : Prop where
  warranted : Warranted prepared.localTree[operation.path]? prepared.remoteTree[operation.path]?
    prepared.synced[operation.path]? operation
  unrecorded : prepared.synced[operation.path]? = none -> operation.isConflict = true ∨
    prepared.localTree[operation.path]? = none ∨ prepared.remoteTree[operation.path]? = none
  unskipped : operation.isSkip = false
  safe : Safe history prepared operation

/-- What carrying an operation out left behind for the recording of its result. -/
def Carried (mapping : Mapping) : SyncOperation -> Outcome -> Prop
  | .upload path localEntry, .succeeded entry _ =>
    (path, localEntry.hash) ∈ mapping.history.localSynced ∧ entry.messageId ≠ none ∧
      Exists fun row => mapping.rows[path]? = some row ∧ row.syncStatus = .syncing ∧
        row.localHash ≠ none ∧ row.messageId = entry.messageId
  | .download path _ false _, .succeeded entry _ => (path, entry.hash) ∈ mapping.history.localSynced
  | .conflict _, .succeeded _ _ => False
  | _, _ => True

/-- A result is that of a foreseen operation. -/
def ResultAnchored (mapping : Mapping) (prepared : PreparedReconciliation)
    (result : ExecutionResult) : Prop :=
  Exists fun operation => Exists fun outcome => result = executionResult operation outcome ∧
    Foreseen mapping.history prepared operation ∧ Carried mapping operation outcome

structure CycleAnchored (mapping : Mapping) (cycle : Cycle) : Prop where
  waiting : forall operation, operation ∈ cycle.waiting ->
    Foreseen mapping.history cycle.prepared operation
  results : forall result, result ∈ cycle.results -> ResultAnchored mapping cycle.prepared result
  distinct : (cycle.results.map (·.relativePath) ++ cycle.waiting.map SyncOperation.path).Nodup

variable (messageOf : String -> Option Int)

/-- Rows stand for transfers, and the two kinds of hash differ. -/
structure FolderAnchored (mapping : Mapping) : Prop where
  rows : forall path, Anchors mapping.history mapping.messages path mapping.rows[path]?
  files : forall (path : String) (entry : TreeEntry), mapping.localTree[path]? = some entry ->
    messageOf entry.hash = none
  numbered : mapping.Numbered messageOf

structure Anchored (mapping : Mapping) : Prop extends FolderAnchored messageOf mapping where
  cycle : forall cycle, mapping.cycle = some cycle -> CycleAnchored mapping cycle

theorem empty_anchored : Anchored messageOf Mapping.empty := by
  refine ⟨⟨?_, ?_, ?_⟩, ?_⟩
  · intro path row present
    simp [Mapping.empty] at present
  · intro path entry present
    simp [Mapping.empty] at present
  · exact empty_numbered
  · intro cycle present
    cases present

variable {messageOf}

theorem Foreseen.grows (foreseen : Foreseen before prepared operation)
    (grows : before.Grows after) : Foreseen after prepared operation :=
  { foreseen with safe := foreseen.safe.grows grows }

variable {mapping next : Mapping} {outcome : Outcome}

theorem Carried.mono
    (carried : Carried mapping operation outcome) (grows : mapping.history.Grows next.history)
    (same : next.rows[operation.path]? = mapping.rows[operation.path]?) :
    Carried next operation outcome := by
  unfold Carried at carried ⊢
  split at carried
  · rw [SyncOperation.path] at same
    rw [same]
    exact ⟨grows.localSynced _ carried.1, carried.2⟩
  · exact grows.localSynced _ carried
  · exact carried
  · trivial

theorem ResultAnchored.mono {result : ExecutionResult} (anchored : ResultAnchored mapping prepared result)
    (grows : mapping.history.Grows next.history)
    (same : next.rows[result.relativePath]? = mapping.rows[result.relativePath]?) :
    ResultAnchored next prepared result := by
  rcases anchored with ⟨operation, outcome, rfl, foreseen, carried⟩
  exact ⟨operation, outcome, rfl, foreseen.grows grows, carried.mono grows same⟩

theorem CycleAnchored.frame {cycle after : Cycle}
    (anchored : CycleAnchored mapping cycle) (history : next.history = mapping.history)
    (rows : next.rows = mapping.rows) (prepared : after.prepared = cycle.prepared)
    (waiting : after.waiting = cycle.waiting) (results : after.results = cycle.results) :
    CycleAnchored next after := by
  have grows : mapping.history.Grows next.history := history ▸ .refl _
  refine ⟨?_, ?_, ?_⟩
  · rw [waiting, prepared]
    exact fun operation member => (anchored.waiting operation member).grows grows
  · rw [results, prepared]
    exact fun result member => (anchored.results result member).mono grows (by rw [rows])
  · rw [waiting, results]
    exact anchored.distinct

/-! ## Changes from outside -/

theorem editLocal_anchored (anchored : Anchored messageOf mapping) {entry : Option TreeEntry}
    (content : (entry.all fun entry => decide (messageOf entry.hash = none)) = true) :
    Anchored messageOf { mapping with localTree := mapping.localTree.alter path fun _ => entry } := by
  refine ⟨⟨anchored.rows, ?_, anchored.numbered.frame rfl rfl⟩, fun cycle present =>
    (anchored.cycle cycle present).frame rfl rfl rfl rfl rfl⟩
  intro other found present
  rw [Std.TreeMap.getElem?_alter] at present
  split at present
  · rw [present] at content
    exact of_decide_eq_true content
  · exact anchored.files other found present

/-- Messages change so that no row claims a new one in an unknown version. -/
theorem messages_anchored (anchored : Anchored messageOf mapping)
    (numbered : next.Numbered messageOf) (localTree : next.localTree = mapping.localTree)
    (rows : next.rows = mapping.rows) (cycle : next.cycle = mapping.cycle)
    (grows : mapping.history.Grows next.history)
    (appeared : forall path entry, (path, entry) ∈ next.messages ->
      (path, entry) ∈ mapping.messages ∨ mapping.unclaimed path entry = true) :
    Anchored messageOf next := by
  refine ⟨⟨?_, ?_, numbered⟩, ?_⟩
  · intro path row present
    rw [rows] at present
    refine (anchored.rows path row present).mono grows fun entry member => ?_
    refine (appeared path entry member).imp_right fun unclaimed claims => ?_
    rw [Mapping.unclaimed, present] at unclaimed
    exact grows.remoteSynced _ (of_decide_eq_true unclaimed claims)
  · rw [localTree]
    exact anchored.files
  · intro running present
    rw [cycle] at present
    have before := anchored.cycle running present
    exact ⟨fun operation member => (before.waiting operation member).grows grows,
      fun result member => (before.results result member).mono grows (by rw [rows]), before.distinct⟩

variable {entry localEntry one two remoteEntry : TreeEntry}

theorem publish_anchored (anchored : Anchored messageOf mapping) (admitted : mapping.Admits messageOf entry)
    (unclaimed : mapping.unclaimed path entry = true) :
    Anchored messageOf (mapping.publish path entry) := by
  refine messages_anchored anchored ((anchored.numbered.post admitted).frame rfl rfl) rfl rfl rfl
    ⟨fun _ => id, fun _ => id⟩ ?_
  intro other found member
  rcases List.mem_append.mp member with old | new
  · exact .inl old
  · rcases Prod.mk.inj (List.mem_singleton.mp new) with ⟨rfl, rfl⟩
    exact .inr unclaimed

theorem post_anchored (anchored : Anchored messageOf mapping) (admitted : mapping.Admits messageOf entry)
    (unclaimed : mapping.unclaimed path entry = true) :
    Anchored messageOf (mapping.post path entry) := by
  refine messages_anchored anchored (anchored.numbered.post admitted) rfl rfl rfl (.refl _) ?_
  intro other found member
  rcases List.mem_append.mp member with old | new
  · exact .inl old
  · rcases Prod.mk.inj (List.mem_singleton.mp new) with ⟨rfl, rfl⟩
    exact .inr unclaimed

theorem edit_anchored (anchored : Anchored messageOf mapping) (print : IsFingerprinted messageOf entry)
    (unclaimed : mapping.unclaimed path entry = true) :
    Anchored messageOf (mapping.edit path entry) := by
  refine messages_anchored anchored (anchored.numbered.edit print) rfl rfl rfl
    ⟨fun _ => id, fun _ => id⟩ ?_
  intro other found member
  rcases List.mem_map.mp member with ⟨file, listed, changed⟩
  split at changed
  · cases changed
    exact .inr unclaimed
  · exact .inl (changed ▸ listed)

theorem withdraw_anchored (anchored : Anchored messageOf mapping)
    (messageId : Int) : Anchored messageOf (mapping.withdraw messageId) :=
  messages_anchored anchored (anchored.numbered.withdraw messageId) rfl rfl rfl (.refl _)
    fun _ _ member => .inl (List.mem_filter.mp member).1

theorem anchors_applyWrites {rows : SyncedTree} {writes : List StateWrite}
    (each : forall write, write ∈ writes -> write.path = path -> forall row,
      Anchors history messages path row -> Anchors history messages path (write.effect row))
    (start : Anchors history messages path rows[path]?) :
    Anchors history messages path (applyWrites rows writes)[path]? :=
  applyWrites_invariant (Anchors history messages path) rows each start

/-- Marking a conflict or a resolution anchors a row, whatever it was. -/
theorem setStatus_anchors {status : SyncStatus} (special : status = .conflict ∨ status.isResolution = true)
    (row : Option SyncedEntry) :
    Anchors history messages path ((StateWrite.setStatus path status).effect row) := by
  intro marked present
  rcases Option.map_eq_some_iff.mp present with ⟨before, -, rfl⟩
  refine .of_not_ordinary ?_
  rintro ⟨notConflict, notResolution⟩
  rcases special with conflict | resolution
  · exact notConflict conflict
  · rw [resolution] at notResolution
    cases notResolution

theorem resolve_anchored (anchored : Anchored messageOf mapping)
    {chosen : SyncStatus} (moved : mapping.resolve path chosen = some next) :
    Anchored messageOf next := by
  rcases resolve_eq_some moved with rfl | ⟨idle, isResolution, rfl⟩
  · exact anchored
  · refine ⟨⟨?_, anchored.files, anchored.numbered.frame rfl rfl⟩, ?_⟩
    · intro other
      refine anchors_applyWrites ?_ ((anchored.rows other).grows ⟨fun _ => id, fun _ => id⟩)
      intro write member same row _
      rw [List.mem_singleton.mp member] at same ⊢
      cases same
      exact setStatus_anchors (.inr isResolution) row
    · intro cycle present
      change mapping.cycle = some cycle at present
      rw [idle] at present
      cases present

/-! ## Carrying an operation out -/

theorem journalPublished_grows (mapping : Mapping) (now : Int) (path : String)
    (localEntry entry : TreeEntry) :
    mapping.history.Grows (mapping.journalPublished now path localEntry entry).history :=
  ⟨fun _ => List.mem_cons_of_mem _, fun _ => List.mem_cons_of_mem _⟩

/-- The row of a pending upload is anchored once its message and its file are
known to be the same. -/
theorem journalUpload_anchors {messageId now : Int}
    (prints : forall file, file ∈ messages -> file.2.hash ≠ "")
    (localCopy : (path, localEntry.hash) ∈ history.localSynced)
    (remoteCopy : forall entry, (path, entry) ∈ messages -> entry.messageId = some messageId ->
      (path, entry.hash) ∈ history.remoteSynced) (row : Option SyncedEntry) :
    Anchors history messages path
      ((journalUpload path localEntry messageId now).effect row) := by
  intro journaled present
  cases present
  constructor
  · intro _ _ hash recorded
    cases recorded
    exact localCopy
  · rintro entry member ⟨-, -, same | ⟨-, same⟩⟩
    · exact absurd (Option.some.inj same).symm (prints _ member)
    · exact remoteCopy entry member same

theorem journalPublished_anchored (anchored : FolderAnchored messageOf mapping) (now : Int)
    (admitted : mapping.Admits messageOf entry) :
    FolderAnchored messageOf (mapping.journalPublished now path localEntry entry) := by
  rcases Option.isSome_iff_exists.mp admitted.1.1 with ⟨messageId, given⟩
  have numbered : (mapping.journalPublished now path localEntry entry).Numbered messageOf :=
    (anchored.numbered.post admitted).frame rfl rfl
  refine ⟨?_, anchored.files, numbered⟩
  intro other
  rw [journalPublished_rows given]
  by_cases same : other = path
  · subst same
    rw [applyWrites_singleton, journalUpload_path, if_pos rfl]
    refine journalUpload_anchors (fun file member => (numbered.prints file member).2.2)
      List.mem_cons_self ?_ _
    intro found member unused
    rcases List.mem_append.mp member with old | new
    · exact absurd (unused.trans given.symm) (anchored.numbered.fresh admitted old)
    · rw [(Prod.mk.inj (List.mem_singleton.mp new)).2]
      exact List.mem_cons_self
  · rw [applyWrites_singleton, journalUpload_path, if_neg (Ne.symm same)]
    intro row present
    refine (anchored.rows other row present).mono
      (journalPublished_grows mapping now path localEntry entry) ?_
    intro found member
    rcases List.mem_append.mp member with old | new
    · exact .inl old
    · exact absurd (Prod.mk.inj (List.mem_singleton.mp new)).1 same

theorem Carries.grows {now : Int} (carries : Carries messageOf mapping now operation outcome next) :
    mapping.history.Grows next.history := by
  cases carries with
  | uploaded | unnamed => exact journalPublished_grows mapping now _ _ _
  | downloaded =>
    refine ⟨fun version member => ?_, fun _ => List.mem_cons_of_mem _⟩
    change version ∈ if _ then _ else _
    split
    · exact member
    · exact List.mem_cons_of_mem _ member
  | failed | orphaned | deletedLocal | deletedRemote | skipped => exact ⟨fun _ => id, fun _ => id⟩

theorem Carries.anchored {now : Int} (carries : Carries messageOf mapping now operation outcome next)
    (before : Anchored messageOf mapping)
    (unclaimed : forall entry detail, outcome = .orphaned entry detail ->
      mapping.unclaimed operation.path entry = true) : FolderAnchored messageOf next := by
  have grows := carries.grows
  cases carries with
  | failed | skipped => exact before.toFolderAnchored
  | uploaded verified admitted | unnamed verified admitted =>
    exact journalPublished_anchored before.toFolderAnchored now admitted
  | @orphaned path detail localEntry entry admitted =>
    exact (publish_anchored before admitted (unclaimed entry detail rfl)).toFolderAnchored
  | @downloaded path copyPath remoteEntry received keepBoth expected fetched content verified found =>
    refine ⟨fun other => (before.rows other).grows grows, ?_, before.numbered.frame rfl rfl⟩
    intro other entry present
    change (mapping.localTree.insert _ _)[other]? = some entry at present
    generalize (if keepBoth then copyPath else path) = destination at present
    rw [Std.TreeMap.getElem?_insert] at present
    split at present
    · cases present
      exact content
    · exact before.files other entry present
  | deletedLocal verified =>
    refine ⟨before.rows, ?_, before.numbered.frame rfl rfl⟩
    intro other entry present
    change (mapping.localTree.erase _)[other]? = some entry at present
    rw [Std.TreeMap.getElem?_erase] at present
    split at present
    · cases present
    · exact before.files other entry present
  | deletedRemote found verified => exact (withdraw_anchored before _).toFolderAnchored

theorem Carries.carried {now : Int} (carries : Carries messageOf mapping now operation outcome next) :
    Carried next operation outcome := by
  cases carries with
  | @uploaded path copyPath localEntry entry verified admitted =>
    rcases Option.isSome_iff_exists.mp admitted.1.1 with ⟨messageId, given⟩
    refine ⟨List.mem_cons_self, by rw [given]; exact Option.some_ne_none _, ?_⟩
    rw [journalPublished_rows given, applyWrites_singleton]
    exact ⟨_, if_pos rfl, rfl, Option.some_ne_none _, given.symm⟩
  | @downloaded path copyPath remoteEntry entry keepBoth expected fetched content verified found =>
    cases keepBoth with
    | true => trivial
    | false => exact List.mem_cons_self
  | failed =>
    rcases operation with _ | ⟨_, _, _ | _, _⟩ | _ | _ | _ | _ <;> trivial
  | unnamed | orphaned | deletedLocal | deletedRemote | skipped => trivial

theorem perform_anchored {now : Int} (anchored : Anchored messageOf mapping)
    (unclaimed : forall entry detail, outcome = .orphaned entry detail ->
      ((mapping.cycle.bind (·.waiting.head?)).all fun operation =>
        mapping.unclaimed operation.path entry) = true)
    (moved : mapping.perform messageOf now outcome = some next) : Anchored messageOf next := by
  rcases perform_eq_some moved with ⟨cycle, operation, waiting, after, running, pending, carries, rfl⟩
  have cycleBefore := anchored.cycle cycle running
  have folder := carries.anchored anchored fun entry detail orphan => by
    have free := unclaimed entry detail orphan
    rw [running, Option.bind_some, pending, List.head?_cons] at free
    exact free
  have distinct := cycleBefore.distinct
  rw [pending, List.map_cons] at distinct
  have grows : mapping.history.Grows (after.report cycle operation waiting outcome).history :=
    ⟨carries.grows.localSynced, carries.grows.remoteSynced⟩
  have reported : after.history.Grows (after.report cycle operation waiting outcome).history :=
    ⟨fun _ => id, fun _ => id⟩
  refine ⟨⟨fun path => (folder.rows path).grows reported, folder.files,
    folder.numbered.frame rfl rfl⟩, ?_⟩
  intro current present
  cases present
  refine ⟨?_, ?_, ?_⟩
  · intro later member
    refine (cycleBefore.waiting later ?_).grows grows
    rw [pending]
    exact List.mem_cons_of_mem _ member
  · intro result member
    rcases List.mem_append.mp member with old | new
    · refine (cycleBefore.results result old).mono grows (carries.rows_other ?_)
      intro same
      refine (List.disjoint_of_nodup_append distinct) (List.mem_map_of_mem old) ?_
      rw [same]
      exact List.mem_cons_self
    · rw [List.mem_singleton.mp new]
      refine ⟨operation, outcome, rfl, ?_, carries.carried.mono reported rfl⟩
      refine (cycleBefore.waiting operation ?_).grows grows
      rw [pending]
      exact List.mem_cons_self
  · change ((cycle.results ++ [executionResult operation outcome]).map (·.relativePath) ++
      waiting.map SyncOperation.path).Nodup
    rw [List.map_append, List.append_assoc]
    exact distinct

/-! ## Journals, cleanup and results -/

theorem savePending_anchored (anchored : Anchored messageOf mapping)
    (moved : mapping.savePending = some next) : Anchored messageOf next := by
  rcases savePending_eq_some moved with ⟨cycle, result, unsaved, running, -, -, rfl⟩
  refine ⟨⟨anchored.rows, anchored.files, anchored.numbered.frame rfl rfl⟩, ?_⟩
  intro current present
  cases present
  exact (anchored.cycle cycle running).frame rfl rfl rfl rfl rfl

theorem ResultAnchored.uploaded {result : ExecutionResult} (anchored : ResultAnchored mapping prepared result)
    (success : result.success = true) (action : result.action = .upload) :
    Exists fun localEntry => Exists fun messageId => Exists fun row =>
      prepared.localTree[result.relativePath]? = some localEntry ∧
      (result.relativePath, localEntry.hash) ∈ mapping.history.localSynced ∧
      result.messageId = some messageId ∧ mapping.rows[result.relativePath]? = some row ∧
      row.syncStatus = .syncing ∧ row.localHash ≠ none ∧ row.messageId = some messageId := by
  rcases anchored with ⟨operation, outcome, rfl, foreseen, carried⟩
  rcases uploaded_of_result success action with ⟨path, localEntry, entry, copyPath, rfl, rfl⟩
  rcases carried with ⟨localCopy, given, row, present, pending, copied, same⟩
  rcases Option.ne_none_iff_exists'.mp given with ⟨messageId, id⟩
  exact ⟨localEntry, messageId, row, foreseen.warranted.1, localCopy, id, present, pending, copied,
    same.trans id⟩

/-- The versions of the message of a pending upload are known. -/
theorem pending_remoteCopy (anchored : FolderAnchored messageOf mapping)
    {messageId : Int} (present : mapping.rows[path]? = some row)
    (pending : row.syncStatus = .syncing) (copied : row.localHash ≠ none)
    (same : row.messageId = some messageId)
    (member : (path, entry) ∈ mapping.messages) (id : entry.messageId = some messageId) :
    (path, entry.hash) ∈ mapping.history.remoteSynced := by
  refine (anchored.rows path row present).remoteCopy entry member ⟨?_, copied, .inr ⟨pending, ?_⟩⟩
  · constructor <;> rw [pending] <;> decide
  · rw [id, same]

theorem CycleAnchored.result_unique {cycle : Cycle}
    (anchored : CycleAnchored mapping cycle) {one two : ExecutionResult} (first : one ∈ cycle.results)
    (second : two ∈ cycle.results) (same : one.relativePath = two.relativePath) : one = two :=
  List.inj_on_of_nodup_map (List.Nodup.of_append_left anchored.distinct) first second same

variable {clock : String -> Int}

/-- Journaling the uploads of a cycle again keeps their rows pending. -/
theorem journal_carried {cycle : Cycle} {writes : List StateWrite} (anchored : CycleAnchored mapping cycle)
    (journaled : forall write, write ∈ writes ->
      write ∈ journalUploads clock cycle.prepared.localTree cycle.results)
    (history : next.history = mapping.history) (rows : next.rows = applyWrites mapping.rows writes)
    {result : ExecutionResult} (member : result ∈ cycle.results) :
    ResultAnchored next cycle.prepared result := by
  rcases anchored.results result member with ⟨operation, outcome, reported, foreseen, carried⟩
  refine ⟨operation, outcome, reported, history ▸ foreseen, ?_⟩
  unfold Carried at carried ⊢
  split at carried
  next path localEntry entry copyPath =>
    rcases carried with ⟨localCopy, given, pendingRow⟩
    refine ⟨history ▸ localCopy, given, ?_⟩
    rw [rows]
    refine applyWrites_invariant (fun row => Exists fun pending => row = some pending ∧
      pending.syncStatus = .syncing ∧ pending.localHash ≠ none ∧
        pending.messageId = entry.messageId) mapping.rows ?_ pendingRow
    intro write listed same row _
    rcases mem_journalUploads (journaled write listed) with
      ⟨other, present, -, -, messageId, copy, id, -, rfl⟩
    have unique : other = result := by
      refine anchored.result_unique present member ?_
      rw [reported]
      exact same
    rw [unique, reported] at id
    exact ⟨_, rfl, rfl, Option.some_ne_none _, id.symm⟩
  · exact history ▸ carried
  · exact carried
  · trivial

theorem journal_anchored {stopAfter : Option Nat}
    (anchored : Anchored messageOf mapping) (moved : mapping.journal clock stopAfter = some next) :
    Anchored messageOf next := by
  rcases journal_eq_some moved with ⟨cycle, running, -, -, rfl⟩
  have cycleBefore := anchored.cycle cycle running
  refine ⟨⟨?_, anchored.files, anchored.numbered.frame rfl rfl⟩, ?_⟩
  · intro path
    refine anchors_applyWrites ?_ (anchored.rows path)
    intro write member same row _
    rcases mem_journalUploads (executed_subset member) with
      ⟨result, listed, success, action, messageId, localEntry, given, copy, rfl⟩
    rcases (cycleBefore.results result listed).uploaded success action with
      ⟨planned, recorded, pendingRow, copy', known, given', present, pending, copied, id⟩
    cases copy.symm.trans copy'
    cases given.symm.trans given'
    cases same
    refine journalUpload_anchors (fun file member => (anchored.numbered.prints file member).2.2) known ?_ row
    exact fun entry member unique =>
      pending_remoteCopy anchored.toFolderAnchored present pending copied id member unique
  · intro current present
    split at present
    · cases present
    · cases present
      refine ⟨cycleBefore.waiting, ?_, cycleBefore.distinct⟩
      intro result member
      have journaled : forall write, write ∈ executed stopAfter
          (journalUploads clock cycle.prepared.localTree cycle.results) ->
          write ∈ journalUploads clock cycle.prepared.localTree cycle.results :=
        fun write => executed_subset
      refine journal_carried cycleBefore journaled ?_ ?_ member <;> rfl

theorem settle_anchored (anchored : Anchored messageOf mapping)
    (item : PendingCleanup) : Anchored messageOf (mapping.settle item) := by
  rcases settle_cases mapping item with ⟨-, done⟩ | ⟨-, done⟩ | ⟨-, done⟩ <;> rw [done]
  · exact withdraw_anchored anchored item.oldMessageId
  · exact anchored
  · refine ⟨⟨?_, anchored.files, anchored.numbered.frame rfl rfl⟩, nofun⟩
    intro path
    refine anchors_applyWrites ?_ (anchored.rows path)
    intro write member same row _
    rw [List.mem_singleton.mp member] at same ⊢
    cases same
    exact setStatus_anchors (.inl rfl) row

theorem cleanUp_anchored {saved : Bool}
    (anchored : Anchored messageOf mapping) (moved : mapping.cleanUp saved = some next) :
    Anchored messageOf next := by
  rcases cleanUp_eq_some moved with ⟨item, rest, -, -, ⟨-, rfl⟩ | ⟨-, rfl⟩⟩
  · have settled := settle_anchored anchored item
    exact ⟨⟨settled.rows, settled.files, settled.numbered.frame rfl rfl⟩, fun cycle present =>
      (settled.cycle cycle present).frame rfl rfl rfl rfl rfl⟩
  · have settled := settle_anchored anchored item
    exact ⟨⟨settled.rows, settled.files, settled.numbered.frame rfl rfl⟩, nofun⟩

theorem fetched_iff {hash : Option String} :
    mapping.fetched path hash = true ↔ forall entry, (path, entry) ∈ mapping.messages ->
      hash = some entry.hash -> (path, entry.hash) ∈ mapping.history.remoteSynced := by
  rw [Mapping.fetched, List.all_eq_true]
  constructor
  · intro all entry member same
    exact of_decide_eq_true (all _ member) ⟨rfl, same⟩
  · rintro all ⟨other, entry⟩ member
    rw [decide_eq_true_eq]
    rintro ⟨rfl, same⟩
    exact all entry member same

theorem failureStatus_conflict {result : ExecutionResult} (conflict : result.action = .conflict) :
    failureStatus result = .conflict := if_pos conflict

theorem failureStatus_ne_syncing (result : ExecutionResult) : failureStatus result ≠ .syncing := by
  unfold failureStatus
  split
  · decide
  · split
    · decide
    · split <;> decide

variable {uploaded localTree remoteTree : FileTree}

theorem failure_anchors {write : StateWrite} (failed : (executionResult operation outcome).success = false)
    (foreseen : Foreseen mapping.history prepared operation)
    (before : Anchors mapping.history mapping.messages operation.path mapping.rows[operation.path]?)
    (condition : mapping.recordsTransfer prepared (executionResult operation outcome) = true)
    (recorded : recordResult clock prepared uploaded (executionResult operation outcome) = some write) :
    Anchors mapping.history mapping.messages operation.path
      (write.effect mapping.rows[operation.path]?) := by
  rw [Mapping.recordsTransfer, failed, if_neg Bool.false_ne_true, Bool.or_eq_true,
    decide_eq_true_eq] at condition
  rw [recordResult, failed, Bool.not_false, if_pos rfl] at recorded
  split at recorded
  · cases recorded
    rcases condition with conflict | condition
    · rw [failureStatus_conflict conflict]
      exact setStatus_anchors (.inl rfl) _
    · intro marked present
      rcases Option.map_eq_some_iff.mp present with ⟨row, found, rfl⟩
      rw [executionResult_path, found, Option.all_some] at condition
      simp only [Bool.or_eq_true, decide_eq_true_eq, Option.isNone_iff_eq_none, Bool.and_eq_true] at condition
      rcases condition with ((ordinary | half) | half) | ⟨localCopy, remoteCopy⟩
      · exact (before row found).marked ordinary (failureStatus_ne_syncing _)
      · exact .of_half (.inl half) (failureStatus_ne_syncing _)
      · exact .of_half (.inr half) (failureStatus_ne_syncing _)
      · refine .of_versions (failureStatus_ne_syncing _) ?_ (fetched_iff.mp remoteCopy)
        intro hash known
        change row.localHash = some hash at known
        rw [known] at localCopy
        exact of_decide_eq_true localCopy
  next absent =>
    cases recorded
    intro row present
    cases present
    rcases foreseen.unrecorded (Std.TreeMap.getElem?_eq_none absent) with conflict | half
    · have marked : (executionResult operation outcome).action = .conflict := by
        cases operation <;> first | rfl | cases conflict
      refine .of_not_ordinary fun ordinary => ordinary.1 ?_
      exact failureStatus_conflict marked
    · refine .of_half ?_ (failureStatus_ne_syncing _)
      refine half.imp ?_ ?_ <;> intro missing
      · exact Option.map_eq_none_iff.mpr missing
      · exact Option.map_eq_none_iff.mpr missing

theorem readBack_known {cycle : Cycle} (anchored : FolderAnchored messageOf mapping)
    (running : CycleAnchored mapping cycle) {uploadedEntry : TreeEntry}
    (present : (readBackTree (journaledUploads cycle.prepared.localTree cycle.results)
      mapping.messages)[path]? = some uploadedEntry)
    (member : (path, entry) ∈ mapping.messages) (same : uploadedEntry.hash = entry.hash) :
    (path, entry.hash) ∈ mapping.history.remoteSynced := by
  rcases mem_of_readBackTree present with ⟨file, listed, rfl, messageId, returned, id⟩
  rcases mem_journaledUploads returned with ⟨result, reported, success, action, here, given⟩
  rcases (running.results result reported).uploaded success action with
    ⟨localEntry, pendingId, row, -, -, given', found, pending, copied, rowId⟩
  cases given.symm.trans given'
  rw [here] at found
  refine pending_remoteCopy anchored found pending copied rowId member ?_
  have one := (anchored.numbered.prints _ listed).2.1
  have two := (anchored.numbered.prints _ member).2.1
  rw [← two, ← same, one, id]

theorem success_anchors {cycle : Cycle} {copyPath : String}
    {write : StateWrite} (anchored : FolderAnchored messageOf mapping)
    (running : CycleAnchored mapping cycle)
    (readBack : uploaded = ∅ ∨
      uploaded = readBackTree (journaledUploads cycle.prepared.localTree cycle.results) mapping.messages)
    (foreseen : Foreseen mapping.history cycle.prepared operation)
    (carried : Carried mapping operation (.succeeded entry copyPath))
    (condition : mapping.recordsTransfer cycle.prepared
      (executionResult operation (.succeeded entry copyPath)) = true)
    (recorded : recordResult clock cycle.prepared uploaded
      (executionResult operation (.succeeded entry copyPath)) = some write)
    (row : Option SyncedEntry) :
    Anchors mapping.history mapping.messages operation.path (write.effect row) := by
  rcases operation with ⟨path, localEntry⟩ | ⟨path, remoteEntry, _ | _, expected⟩ | ⟨path, deleted⟩ |
    ⟨path, messageId, deleted⟩ | path | path
  · rcases Option.map_eq_some_iff.mp recorded with ⟨uploadedEntry, present, rfl⟩
    intro synced written
    cases written
    refine .of_versions nofun ?_ ?_
    · intro hash known
      have planned : cycle.prepared.localTree[path]? = some localEntry := foreseen.warranted.1
      change cycle.prepared.localTree[path]?.map (·.hash) = some hash at known
      rw [planned] at known
      cases known
      exact carried.1
    · intro found member same
      rcases readBack with rfl | rfl
      · simp at present
      · exact readBack_known anchored running present member (Option.some.inj same)
  · have remoteCopy := fetched_iff.mp
      (show mapping.fetched path (cycle.prepared.remoteTree[path]?.map (·.hash)) = true from condition)
    have planned : cycle.prepared.remoteTree[path]? = some remoteEntry := foreseen.warranted.1
    cases recorded
    intro synced written
    cases written
    refine .of_versions nofun ?_ remoteCopy
    intro hash known
    change (verifiedDownload cycle.prepared.remoteTree[path]? (some entry.hash)).map (·.hash) =
      some hash at known
    rw [planned] at known
    cases known
    exact carried
  · have both : ((cycle.prepared.localTree[path]?.all fun entry =>
          decide ((path, entry.hash) ∈ mapping.history.localSynced)) &&
        mapping.fetched path (cycle.prepared.remoteTree[path]?.map (·.hash))) = true := condition
    rw [Bool.and_eq_true] at both
    have copies := recordResult_bothCopies rfl (.inl rfl) recorded
    simp only [executionResult_path, SyncOperation.path] at copies
    rcases copies with ⟨-, rfl⟩ | rfl
    · exact nofun
    · intro synced written
      cases written
      refine .of_versions nofun ?_ (fetched_iff.mp both.2)
      intro hash known
      rcases Option.map_eq_some_iff.mp known with ⟨found, present, rfl⟩
      rw [present] at both
      exact of_decide_eq_true both.1
  · cases recorded
    exact nofun
  · cases recorded
    exact nofun
  · exact carried.elim
  · exact absurd foreseen.unskipped nofun

theorem finish_anchored {readBack : Bool} {stopAfter : Option Nat} (anchored : Anchored messageOf mapping)
    (condition : (mapping.cycle.all fun cycle =>
      cycle.results.all (mapping.recordsTransfer cycle.prepared)) = true)
    (moved : mapping.finish clock readBack stopAfter = some next) : Anchored messageOf next := by
  rcases finish_eq_some moved with ⟨cycle, uploaded, running, -, either, rfl⟩
  rw [running, Option.all_some, List.all_eq_true] at condition
  have cycleBefore := anchored.cycle cycle running
  refine ⟨⟨?_, anchored.files, anchored.numbered.frame rfl rfl⟩, nofun⟩
  intro path
  change Anchors mapping.history mapping.messages path (applyWrites mapping.rows (executed stopAfter
    (recordResults clock cycle.prepared cycle.results uploaded)))[path]?
  by_cases concerned : Exists fun write => write ∈ executed stopAfter
      (recordResults clock cycle.prepared cycle.results uploaded) ∧ write.path = path
  · rcases concerned with ⟨write, member, rfl⟩
    have distinct := recordResults_distinct clock cycle.prepared uploaded stopAfter
      (List.Nodup.of_append_left cycleBefore.distinct)
    rw [applyWrites_of_mem mapping.rows distinct member]
    rcases List.mem_filterMap.mp (executed_subset member) with ⟨result, listed, recorded⟩
    have holds := condition result listed
    rcases cycleBefore.results result listed with ⟨operation, outcome, rfl, foreseen, carried⟩
    rw [recordResult_path recorded]
    cases outcome with
    | succeeded entry copyPath =>
      exact success_anchors anchored.toFolderAnchored cycleBefore either foreseen carried holds
        recorded _
    | failed detail | renameFailed entry detail | orphaned entry detail =>
      exact failure_anchors rfl foreseen (anchored.rows _) holds recorded
  · rw [applyWrites_of_absent]
    · exact anchored.rows path
    · exact fun write member same => concerned ⟨write, member, same⟩

/-! ## Preparation -/

theorem SyncHistory.adopt_grows (history : SyncHistory) (localTree remoteTree : FileTree)
    (paths : List String) : history.Grows (history.adopt localTree remoteTree paths) :=
  ⟨fun _ => List.mem_append_right _, fun _ => List.mem_append_right _⟩

theorem SyncHistory.adopt_known (history : SyncHistory) {paths : List String} (member : path ∈ paths)
    (copy : localTree[path]? = some one) (message : remoteTree[path]? = some two) :
    (path, one.hash) ∈ (history.adopt localTree remoteTree paths).localSynced ∧
      (path, two.hash) ∈ (history.adopt localTree remoteTree paths).remoteSynced := by
  refine ⟨List.mem_append_left _ (List.mem_filterMap.mpr ⟨path, member, ?_⟩),
    List.mem_append_left _ (List.mem_filterMap.mpr ⟨path, member, ?_⟩)⟩
  · rw [copy, Option.map_some]
  · rw [message, Option.map_some]

theorem conflictWrite_anchors {synced : SyncedTree} {other : String} (row : Option SyncedEntry) :
    Anchors history messages other
      ((conflictWrite clock localTree remoteTree synced path).effect row) := by
  intro written present
  refine .of_not_ordinary fun ordinary => ordinary.1 ?_
  unfold conflictWrite at present
  split at present
  · rcases Option.map_eq_some_iff.mp present with ⟨before, -, rfl⟩
    rfl
  · cases present
    rfl

/-- A path that the preparation baselines has two copies that were transferred
before, or that it adopts. -/
theorem baselined_known {pair : SyncPair} {remote : FileTree} {scan : LocalScan}
    (anchored : FolderAnchored messageOf mapping)
    (scanned : scanRemote pair.preferences mapping.messages = .ok remote)
    {trees : FileTree × FileTree × SyncedTree}
    (retained : trees = retainTreePaths pair.preferences (scan.tree, remote, mapping.rows))
    {adopted : List String}
    (complete : path ∈ adoptedPaths pair.preferences trees.1 trees.2.1 trees.2.2 -> path ∈ adopted)
    (baselined : path ∈ (baseline pair.preferences trees.1 trees.2.1 trees.2.2).2)
    (copy : trees.1[path]? = some one) (message : trees.2.1[path]? = some two) :
    (path, one.hash) ∈ (mapping.history.adopt trees.1 trees.2.1 adopted).localSynced ∧
      (path, two.hash) ∈ (mapping.history.adopt trees.1 trees.2.1 adopted).remoteSynced := by
  have either : path ∈ (resumeInterruptedUploads trees.1 trees.2.1 trees.2.2).2 ∨
      path ∈ adoptedPaths pair.preferences trees.1 trees.2.1 trees.2.2 := by
    unfold baseline at baselined
    unfold adoptedPaths
    split at baselined
    next adopting =>
      rw [if_pos adopting]
      exact List.mem_append.mp baselined
    · exact .inl baselined
  rcases either with resumed | adopts
  · have grows := mapping.history.adopt_grows trees.1 trees.2.1 adopted
    rcases List.mem_filter.mp resumed with ⟨-, completed⟩
    rcases Option.isSome_iff_exists.mp completed with ⟨after, completes⟩
    rcases Option.bind_eq_some_iff.mp completes with ⟨row, recorded, resumes⟩
    rw [copy, message] at resumes
    simp only [resumedEntry] at resumes
    split at resumes
    next pending =>
      rcases pending with ⟨syncing, given, same, unchanged⟩
      have retainedRow : mapping.rows[path]? = some row := by
        rw [retained, retainTreePaths_synced] at recorded
        split at recorded
        · cases recorded
        · exact recorded
      have retainedMessage : remote[path]? = some two := by
        rw [retained, retainTreePaths_remote] at message
        split at message
        · cases message
        · exact message
      have ordinary : row.IsOrdinary := by
        constructor <;> rw [syncing] <;> decide
      have promise := anchored.rows path row retainedRow
      refine ⟨grows.localSynced _ (promise.localCopy ordinary (.inr syncing) _ unchanged),
        grows.remoteSynced _ (promise.remoteCopy two (mem_of_scanRemote scanned retainedMessage) ?_)⟩
      refine ⟨ordinary, ?_, .inr ⟨syncing, same⟩⟩
      rw [unchanged]
      exact Option.some_ne_none _
    · cases resumes
  · exact mapping.history.adopt_known (complete adopts) copy message

/-- A bidirectional mapping plans only a conflict for two copies without a row. -/
theorem operationAt_unrecorded {propagateDeletions : Bool} (different : one.hash ≠ two.hash)
    (planned : operationAt .bidirectional propagateDeletions path (some one) (some two) none =
      some operation) : operation = .conflict path := by
  have compared : planPath path (some one) (some two) none = some (.conflict path) := by
    simp [planPath, comparePath, different]
  rw [operationAt, compared, Option.map_some] at planned
  cases propagateDeletions <;> exact (Option.some.inj planned).symm

theorem operationAt_skip {propagateDeletions : Bool}
    {localEntry remoteEntry : Option TreeEntry} {previous : Option SyncedEntry}
    (planned : operationAt .bidirectional propagateDeletions path localEntry remoteEntry previous =
      some operation) (skip : operation.isSkip = true)
    (unsettled : unsettledSkip localEntry remoteEntry previous = true) :
    Exists fun one => Exists fun two => localEntry = some one ∧ remoteEntry = some two ∧
      one.hash = two.hash := by
  rcases Option.map_eq_some_iff.mp planned with ⟨compared, selected, rfl⟩
  have plain : directed .bidirectional localEntry remoteEntry previous compared = compared := by
    unfold directed redirect
    split <;> rfl
  rw [plain] at skip
  unfold planPath at selected
  rcases localEntry with _ | one <;> rcases remoteEntry with _ | two <;>
    rcases previous with _ | row <;> simp [comparePath, unsettledSkip] at selected unsettled
  all_goals
    try cases status : row.syncStatus <;> simp [status, resolution] at selected
  all_goals
    grind [withhold, SyncOperation.isSkip, SyncOperation.isDelete]

section Prepared

variable {pair : SyncPair} {mapping : Mapping} {clock : String -> Int} {scan : LocalScan}
  {remote : FileTree} {writes : List StateWrite} {prepared : PreparedReconciliation}
  {history : SyncHistory}

/-- The row a plan compared with is anchored, and both its hashes are there
unless it is the row as it was recorded. -/
theorem planned_row_anchored (anchored : FolderAnchored messageOf mapping)
    (from_ : PreparedFrom pair clock scan
      (retainTreePaths pair.preferences (scan.tree, remote, mapping.rows)) writes prepared)
    (grows : mapping.history.Grows history)
    (known : forall path one two, path ∈ (baseline pair.preferences prepared.localTree
        prepared.remoteTree (retainTreePaths pair.preferences (scan.tree, remote, mapping.rows)).2.2).2 ->
      prepared.localTree[path]? = some one -> prepared.remoteTree[path]? = some two ->
      (path, one.hash) ∈ history.localSynced ∧ (path, two.hash) ∈ history.remoteSynced)
    {path : String} (kept : pair.preferences.ignores path = false) {row : SyncedEntry}
    (present : prepared.synced[path]? = some row) :
    RowAnchored history mapping.messages path row ∧
      ((row.localHash ≠ none ∧ row.remoteHash ≠ none) ∨ mapping.rows[path]? = some row) := by
  rcases from_.entries kept with ⟨localSame, remoteSame, rowSame⟩
  rw [rowSame] at present
  by_cases baselined : isBaselined pair.preferences scan.tree[path]? remote[path]? mapping.rows[path]?
  · rcases baselineRow_of_baselined baselined with
      ⟨one, two, after, copy, message, baselinedRow, localHash, remoteHash, -, synced⟩
    cases baselinedRow.symm.trans present
    have listed : path ∈ (baseline pair.preferences prepared.localTree prepared.remoteTree
        (retainTreePaths pair.preferences (scan.tree, remote, mapping.rows)).2.2).2 := by
      rw [mem_baseline_paths, localSame, remoteSame, retainTreePaths_synced, kept]
      exact baselined
    rcases known path one two listed (localSame.trans copy) (remoteSame.trans message) with
      ⟨localCopy, remoteCopy⟩
    refine ⟨.of_versions ?_ ?_ ?_, .inl ?_⟩
    · rw [synced]
      decide
    · intro hash recorded
      cases localHash.symm.trans recorded
      exact localCopy
    · intro entry _ recorded
      rw [← Option.some.inj (remoteHash.symm.trans recorded)]
      exact remoteCopy
    · rw [localHash, remoteHash]
      exact ⟨Option.some_ne_none _, Option.some_ne_none _⟩
  · rw [baselineRow_of_not_baselined baselined] at present
    exact ⟨(anchored.rows path row present).mono grows fun _ => .inl, .inr present⟩

/-- A planned operation replaces or deletes only a version its row stands for. -/
theorem safe_of_warranted {path : String} {operation : SyncOperation} (at_ : operation.path = path)
    (warranted : Warranted prepared.localTree[path]? prepared.remoteTree[path]?
      prepared.synced[path]? operation)
    (scanned : forall entry, prepared.remoteTree[path]? = some entry -> (path, entry) ∈ mapping.messages)
    (anchored : forall row, prepared.synced[path]? = some row ->
      RowAnchored history mapping.messages path row)
    (complete : forall localEntry remoteEntry row, prepared.localTree[path]? = some localEntry ->
      prepared.remoteTree[path]? = some remoteEntry -> prepared.synced[path]? = some row ->
      halfRecorded history path localEntry remoteEntry row = false) :
    Safe history prepared operation := by
  rcases operation with ⟨_, localEntry⟩ | ⟨_, remoteEntry, _ | _, expected⟩ | ⟨_, deleted⟩ |
    ⟨_, messageId, deleted⟩ | _ | _ <;> rw [SyncOperation.path] at at_ <;> subst at_
  · intro superseded present
    rcases warranted with ⟨copy, absent | ⟨row, recorded, chosen | ⟨ordinary, -, same⟩⟩⟩
    · rw [absent] at present
      cases present
    · right
      rw [recorded, Option.map_some, chosen]
    · left
      rw [present, Option.map_some] at same
      by_cases copied : row.localHash = none
      · have whole := complete localEntry superseded row copy present recorded
        by_contra unknown
        rw [halfRecorded, decide_eq_false_iff_not] at whole
        exact whole ⟨ordinary, .inr ⟨copied, same, unknown⟩⟩
      · exact (anchored row recorded).remoteCopy superseded (scanned superseded present)
          ⟨ordinary, copied, .inl same⟩
  · intro replaced exists_
    rw [Warranted, if_neg Bool.false_ne_true] at warranted
    rcases warranted with
      ⟨message, expectedSame, absent | ⟨row, recorded, chosen | ⟨ordinary, -, same⟩⟩⟩
    · rw [expectedSame, absent] at exists_
      cases exists_
    · right
      rw [recorded, Option.map_some, chosen]
    · left
      rw [expectedSame] at exists_
      rcases Option.map_eq_some_iff.mp exists_ with ⟨localEntry, copy, rfl⟩
      rw [copy, Option.map_some] at same
      by_cases half : row.remoteHash = none
      · have whole := complete localEntry remoteEntry row copy message recorded
        by_contra unknown
        rw [halfRecorded, decide_eq_false_iff_not] at whole
        exact whole ⟨ordinary, .inl ⟨half, same, unknown⟩⟩
      · exact (anchored row recorded).localCopy ordinary (.inl half) _ same
  · trivial
  · rcases warranted with ⟨-, -, row, recorded, ordinary, same, both⟩
    exact (anchored row recorded).localCopy ordinary (.inl both) _ same
  · rcases warranted with ⟨-, message, -, row, recorded, ordinary, same, both⟩
    rcases Option.map_eq_some_iff.mp message with ⟨entry, present, rfl⟩
    exact (anchored row recorded).remoteCopy entry (scanned entry present) ⟨ordinary, both, .inl same⟩
  · trivial
  · trivial

theorem waiting_foreseen (bidirectional : pair.syncDirection = .bidirectional)
    (from_ : PreparedFrom pair clock scan
      (retainTreePaths pair.preferences (scan.tree, remote, mapping.rows)) writes prepared)
    (scanned : forall path entry, prepared.remoteTree[path]? = some entry ->
      (path, entry) ∈ mapping.messages)
    (anchored : forall path row, pair.preferences.ignores path = false ->
      prepared.synced[path]? = some row -> RowAnchored history mapping.messages path row)
    (complete : forall path localEntry remoteEntry row, pair.preferences.ignores path = false ->
      prepared.localTree[path]? = some localEntry -> prepared.remoteTree[path]? = some remoteEntry ->
      prepared.synced[path]? = some row -> halfRecorded history path localEntry remoteEntry row = false)
    (different : forall (path : String) (one two : TreeEntry), prepared.localTree[path]? = some one ->
      prepared.remoteTree[path]? = some two -> one.hash ≠ two.hash)
    {operation : SyncOperation} (waiting : operation ∈ (dropSettledSkips prepared).operations) :
    Foreseen history prepared operation := by
  rcases List.mem_filter.mp waiting with ⟨member, retained⟩
  rcases from_.planned member with ⟨kept, planned⟩
  rw [bidirectional] at planned
  have warranted := operationAt_warranted planned
  refine ⟨warranted, ?_, ?_, ?_⟩
  · intro absent
    cases copy : prepared.localTree[operation.path]? with
    | none => exact .inr (.inl rfl)
    | some one =>
      cases message : prepared.remoteTree[operation.path]? with
      | none => exact .inr (.inr rfl)
      | some two =>
        rw [absent, copy, message] at planned
        rw [operationAt_unrecorded (different _ one two copy message) planned]
        exact .inl rfl
  · rw [Bool.eq_false_iff]
    intro skip
    have unsettled := retained
    rw [SyncEngine.unsettled, skip, Bool.not_true, Bool.false_or] at unsettled
    rcases operationAt_skip planned skip unsettled with ⟨one, two, copy, message, same⟩
    exact different _ one two copy message same
  · exact safe_of_warranted rfl warranted (fun entry => scanned _ entry)
      (fun row => anchored _ row kept) (fun one two row => complete _ one two row kept)

end Prepared

theorem halfRecorded_grows (grows : before.Grows after)
    (whole : halfRecorded before path localEntry remoteEntry row = false) :
    halfRecorded after path localEntry remoteEntry row = false := by
  rw [halfRecorded, decide_eq_false_iff_not] at whole ⊢
  rintro ⟨ordinary, half⟩
  refine whole ⟨ordinary, half.imp ?_ ?_⟩
  · exact fun unknown => ⟨unknown.1, unknown.2.1, fun known => unknown.2.2 (grows.localSynced _ known)⟩
  · exact fun unknown => ⟨unknown.1, unknown.2.1, fun known => unknown.2.2 (grows.remoteSynced _ known)⟩

theorem halfRecorded_of_both (both : row.localHash ≠ none ∧ row.remoteHash ≠ none) :
    halfRecorded history path localEntry remoteEntry row = false := by
  rw [halfRecorded, decide_eq_false_iff_not]
  rintro ⟨-, ⟨missing, -⟩ | ⟨missing, -⟩⟩
  · exact both.2 missing
  · exact both.1 missing

theorem bookkeeping_anchors {pair : SyncPair} {scan : LocalScan} {trees : FileTree × FileTree × SyncedTree}
    {write : StateWrite} (member : write ∈ bookkeepingWrites pair.preferences clock scan trees)
    (known : forall (one two : TreeEntry),
      write.path ∈ (baseline pair.preferences trees.1 trees.2.1 trees.2.2).2 ->
      trees.1[write.path]? = some one -> trees.2.1[write.path]? = some two ->
      (write.path, one.hash) ∈ history.localSynced ∧ (write.path, two.hash) ∈ history.remoteSynced)
    {row : Option SyncedEntry} (before : Anchors history mapping.messages write.path row) :
    Anchors history mapping.messages write.path (write.effect row) := by
  rcases List.mem_append.mp member with early | refresh
  · rcases List.mem_append.mp early with vanished | recorded
    · rcases List.mem_map.mp vanished with ⟨path, -, rfl⟩
      exact nofun
    · rcases List.mem_map.mp recorded with ⟨path, listed, rfl⟩
      intro row' written
      cases written
      rcases baselineRow_of_baselined ((mem_baseline_paths _ _ _ _ _).mp listed) with
        ⟨one, two, -, copy, message, -, -, -, -, -⟩
      rcases known one two listed copy message with ⟨localCopy, remoteCopy⟩
      refine .of_versions nofun ?_ ?_
      · intro hash present
        change trees.1[path]?.map (·.hash) = some hash at present
        rw [copy] at present
        cases present
        exact localCopy
      · intro entry _ present
        change trees.2.1[path]?.map (·.hash) = some entry.hash at present
        rw [message] at present
        rw [← Option.some.inj present]
        exact remoteCopy
  · rcases List.mem_map.mp refresh with ⟨entry, -, rfl⟩
    intro row' written
    rcases Option.map_eq_some_iff.mp written with ⟨old, present, rfl⟩
    refine (before old present).congr ?_ ?_ ?_ ?_ <;> unfold StateWrite.refreshed <;> split <;> rfl

theorem prepare_anchored {pair : SyncPair}
    {refreshMetadata : List (String × TreeEntry)} {stopAfter : Option Nat}
    (bidirectional : pair.syncDirection = .bidirectional) (anchored : Anchored messageOf mapping)
    (condition : recordsTransfers pair mapping (.prepare clock refreshMetadata stopAfter) = true)
    (moved : mapping.prepare pair clock refreshMetadata stopAfter = some next) :
    Anchored messageOf next := by
  rcases prepares_of_prepare pair moved with ⟨remote, trees, writes, prepares⟩
  generalize selected : ((adoptedPaths pair.preferences trees.1 trees.2.1 trees.2.2).filter
    fun path => (executed stopAfter writes).any fun write => decide (write.path = path)) = adopted
  have history := prepares.history
  rw [selected] at history
  have grows := mapping.history.adopt_grows trees.1 trees.2.1 adopted
  rw [← history] at grows
  -- a statement that ran for an adopted path makes its adoption known
  have known : forall (path : String) (one two : TreeEntry) (write : StateWrite),
      write ∈ executed stopAfter writes -> write.path = path ->
      path ∈ (baseline pair.preferences trees.1 trees.2.1 trees.2.2).2 ->
      trees.1[path]? = some one -> trees.2.1[path]? = some two ->
      (path, one.hash) ∈ next.history.localSynced ∧ (path, two.hash) ∈ next.history.remoteSynced := by
    intro path one two write ran same listed copy message
    rw [history]
    refine baselined_known anchored.toFolderAnchored prepares.scanned prepares.retained ?_ listed copy
      message
    intro adopts
    rw [← selected, List.mem_filter, List.any_eq_true]
    exact ⟨adopts, write, ran, decide_eq_true same⟩
  refine ⟨⟨?_, ?_, ?_⟩, ?_⟩
  · intro path
    rw [prepares.rows, prepares.messages]
    refine anchors_applyWrites ?_ ((anchored.rows path).grows grows)
    intro write ran same row before
    subst same
    have member := executed_subset ran
    rw [prepares.planned] at member
    rcases mem_prepareReconciliation prepares.retained member with book | ⟨_, -, rfl⟩
    · exact bookkeeping_anchors book (fun one two => known _ one two write ran rfl) before
    · exact conflictWrite_anchors row
  · rw [prepares.localTree]
    exact anchored.files
  · exact anchored.numbered.frame prepares.messages prepares.lastMessageId
  · intro cycle present
    rcases prepares.cycle cycle present with ⟨rfl, prepared, rfl, from_⟩
    have planned := from_
    rw [prepares.retained] at planned
    have messages : forall (path : String) (entry : TreeEntry),
        prepared.remoteTree[path]? = some entry -> (path, entry) ∈ mapping.messages := by
      intro path entry message
      rw [planned.remoteTree, retainTreePaths_remote] at message
      split at message
      · cases message
      · exact mem_of_scanRemote prepares.scanned message
    have files : forall (path : String) (entry : TreeEntry),
        prepared.localTree[path]? = some entry ->
        mapping.localTree[path]? = some entry ∧ scanOmits pair.preferences path = false := by
      intro path entry copy
      rw [planned.localTree, retainTreePaths_local] at copy
      split at copy
      · cases copy
      · exact scan_getElem? refreshMetadata copy
    have rows : forall (path : String) (row : SyncedEntry), pair.preferences.ignores path = false ->
        prepared.synced[path]? = some row -> RowAnchored next.history mapping.messages path row ∧
          ((row.localHash ≠ none ∧ row.remoteHash ≠ none) ∨ mapping.rows[path]? = some row) := by
      intro path row kept recorded
      refine planned_row_anchored anchored.toFolderAnchored planned grows ?_ kept recorded
      intro path one two listed copy message
      rw [← prepares.retained, from_.localTree, from_.remoteTree] at listed
      rw [from_.localTree] at copy
      rw [from_.remoteTree] at message
      refine known path one two (upsertState path trees.1[path]? trees.2.1[path]? .synced (clock path))
        ?_ rfl listed copy message
      rw [executed, from_.written]
      refine List.mem_append_left _ (List.mem_append_left _ (List.mem_append_right _ ?_))
      exact List.mem_map_of_mem listed
    refine ⟨?_, fun _ listed => absurd listed List.not_mem_nil, ?_⟩
    · intro operation waiting
      refine waiting_foreseen bidirectional planned messages
        (fun path row kept recorded => (rows path row kept recorded).1) ?_ ?_ waiting
      · intro path localEntry remoteEntry row kept copy message recorded
        rcases (rows path row kept recorded).2 with both | recordedBefore
        · exact halfRecorded_of_both both
        · rcases files path localEntry copy with ⟨file, reached⟩
          refine halfRecorded_grows grows ?_
          have whole := List.all_eq_true.mp condition _ (messages path remoteEntry message)
          rw [reached, file, recordedBefore, Bool.false_or] at whole
          exact Bool.not_eq_true' _ ▸ whole
      · intro path one two copy message same
        have content := anchored.files path one (files path one copy).1
        have print := anchored.numbered.prints _ (messages path two message)
        rw [same, print.2.1] at content
        have given := print.1
        rw [content] at given
        cases given
    · change ((dropSettledSkips prepared).operations.map SyncOperation.path).Nodup
      have all := operationsForPolicy_paths_nodup prepared.localTree prepared.remoteTree
        prepared.synced pair.syncDirection pair.preferences.propagateDeletions
      rw [← from_.operations] at all
      exact all.sublist (List.filter_sublist.map _)

theorem mappingMachine_anchored {pair : SyncPair} {event : MappingEvent}
    (bidirectional : pair.syncDirection = .bidirectional)
    (condition : recordsTransfers pair mapping event = true) (anchored : Anchored messageOf mapping)
    (moved : (mappingMachine messageOf pair).step mapping event = some next) :
    Anchored messageOf next := by
  cases event with
  | editLocal path entry =>
    simp only [mappingMachine] at moved
    split at moved
    next content =>
      cases moved
      exact editLocal_anchored anchored content
    · cases moved
  | post path entry =>
    simp only [mappingMachine] at moved
    split at moved
    next admitted =>
      cases moved
      exact post_anchored anchored admitted condition
    · cases moved
  | edit path entry =>
    simp only [mappingMachine] at moved
    split at moved
    next print =>
      cases moved
      exact edit_anchored anchored print condition
    · cases moved
  | withdraw messageId =>
    cases moved
    exact withdraw_anchored anchored messageId
  | resolve path chosen => exact resolve_anchored anchored moved
  | prepare clock refreshMetadata stopAfter => exact prepare_anchored bidirectional anchored condition moved
  | perform now outcome =>
    refine perform_anchored anchored ?_ moved
    intro entry detail orphan
    subst orphan
    exact condition
  | savePending => exact savePending_anchored anchored moved
  | journal clock stopAfter => exact journal_anchored anchored moved
  | cleanUp saved => exact cleanUp_anchored anchored moved
  | finish clock readBack stopAfter => exact finish_anchored anchored condition moved
  | abandon =>
    cases moved
    exact ⟨⟨anchored.rows, anchored.files, anchored.numbered.frame rfl rfl⟩, nofun⟩

/-- In every run of a bidirectional mapping whose steps keep the rows records of
transfers, an operation about to be carried out replaces or deletes only a
version that was transferred before, or one the user chose to give up. -/
theorem sync_removes_only_transferred {pair : SyncPair} {events : List MappingEvent} {final : Mapping}
    (bidirectional : pair.syncDirection = .bidirectional)
    (run : (mappingMachine messageOf pair).Run
      (fun mapping event => recordsTransfers pair mapping event = true) Mapping.empty events final) :
    forall cycle operation, final.cycle = some cycle -> operation ∈ cycle.waiting ->
      Safe final.history cycle.prepared operation := by
  have anchored : Anchored messageOf final := run.invariant _
    (fun mapping event next condition before moved =>
      mappingMachine_anchored bidirectional condition before moved) (empty_anchored messageOf)
  intro cycle operation running waiting
  exact ((anchored.cycle cycle running).waiting operation waiting).safe


/-! ## A first transfer that fails -/

/-- A new local file, whose upload succeeds or fails, and then a Telegram file
appears at its path or the local file changes. -/
def firstUpload (uploaded : Bool) : List MappingEvent :=
  .editLocal "notes" (some (sampleEntry "aa" 1 none)) ::
    sampleCycle (if uploaded then .succeeded (sampleEntry "v2:7" 1 (some 7)) ""
      else .failed "Telegram is offline") ++
  [if uploaded then .editLocal "notes" (some (sampleEntry "bb" 2 none))
    else .post "notes" (sampleEntry "v2:7" 2 (some 7)),
    .prepare (fun _ => 0) [] none]

/-- After the failed upload the row has only the local hash, so the Telegram file
counts as the newer copy: the next cycle is about to download it over the local
version, which was never transferred and nobody gave up. -/
theorem failed_upload_row_gives_up_local :
    Exists fun final => Exists fun cycle => Exists fun operation =>
      (mappingMachine sampleMessageOf (samplePair .bidirectional)).replay Mapping.empty
          (firstUpload false) = some final ∧
        final.cycle = some cycle ∧ operation ∈ cycle.waiting ∧
        ¬Safe final.history cycle.prepared operation := by
  have shape : ((mappingMachine sampleMessageOf (samplePair .bidirectional)).replay Mapping.empty
      (firstUpload false)).any (fun final => decide (final.history.localSynced = [] ∧
        Exists fun cycle => final.cycle = some cycle ∧
          cycle.waiting = [.download "notes" (sampleEntry "v2:7" 2 (some 7)) false (some "aa")] ∧
          cycle.prepared.synced["notes"]?.map (·.syncStatus) = some .error)) = true := by
    decide +kernel
  rcases (Option.any_eq_true _ _).mp shape with ⟨final, replayed, facts⟩
  rcases of_decide_eq_true facts with ⟨transferred, cycle, running, waiting, status⟩
  refine ⟨final, cycle, _, replayed, running, waiting ▸ List.mem_singleton.mpr rfl, ?_⟩
  intro safe
  rcases safe "aa" rfl with known | chosen
  · rw [transferred] at known
    cases known
  · rw [status] at chosen
    cases chosen

/-- After the successful upload an edit is about to replace the uploaded version,
and that version is known. -/
theorem uploaded_version_replaced :
    Exists fun final => Exists fun cycle =>
      ((mappingMachine sampleMessageOf (samplePair .bidirectional)).guarded
          (recordsTransfers (samplePair .bidirectional))).replay Mapping.empty (firstUpload true) =
        some final ∧ final.cycle = some cycle ∧
      Safe final.history cycle.prepared (.upload "notes" (sampleEntry "bb" 2 none)) := by
  have shape : Exists fun final => ((mappingMachine sampleMessageOf (samplePair .bidirectional)).guarded
      (recordsTransfers (samplePair .bidirectional))).replay Mapping.empty (firstUpload true) = some final ∧
        Exists fun cycle => final.cycle = some cycle ∧ .upload "notes" (sampleEntry "bb" 2 none) ∈ cycle.waiting := by
    decide +kernel
  rcases shape with ⟨final, replayed, cycle, running, waiting⟩
  exact ⟨final, cycle, replayed, running, sync_removes_only_transferred rfl
    (Machine.run_of_guarded_replay replayed) cycle _ running waiting⟩

end SyncEngine
end TelegramDrive
