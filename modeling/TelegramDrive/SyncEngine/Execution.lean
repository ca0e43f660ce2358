import TelegramDrive.SyncEngine.Reconcile

namespace TelegramDrive
namespace SyncEngine

/-!
# What a successful operation does to the two trees

An upload leaves a new message at its path, a download the file it fetched.
What these look like is decided outside the program, so they are parameters of
an execution: `published` is the entry under which an uploaded message is read
back, `downloaded` the file a download left, and `copyPath` the fresh name that
a kept copy gets beside the existing file.
-/

structure Outcomes where
  published : String -> TreeEntry
  downloaded : String -> TreeEntry
  copyPath : String -> String
  publishedId : forall path, (published path).messageId ≠ none

variable (outcomes : Outcomes)

/-- The entries at the path of an operation after it succeeded. -/
def transferred (operation : SyncOperation) (entries : Option TreeEntry × Option TreeEntry) :
    Option TreeEntry × Option TreeEntry :=
  match operation with
  | .upload path _ => (entries.1, some (outcomes.published path))
  | .download path _ false _ => (some (outcomes.downloaded path), entries.2)
  | .deleteLocal _ _ => (none, entries.2)
  | .deleteRemote _ _ _ => (entries.1, none)
  | .download _ _ true _ | .conflict _ | .skip _ => entries

/-- The effect of the operations on the local and the remote tree, at their own paths. -/
def transfers : KeyedUpdates (FileTree × FileTree) String (Option TreeEntry × Option TreeEntry)
    SyncOperation where
  look trees path := (trees.1[path]?, trees.2[path]?)
  key := SyncOperation.path
  effect := transferred outcomes
  apply trees operation :=
    match operation with
    | .upload path _ => (trees.1, trees.2.insert path (outcomes.published path))
    | .download path _ false _ => (trees.1.insert path (outcomes.downloaded path), trees.2)
    | .deleteLocal path _ => (trees.1.erase path, trees.2)
    | .deleteRemote path _ _ => (trees.1, trees.2.erase path)
    | .download _ _ true _ | .conflict _ | .skip _ => trees
  look_apply_same trees operation := by
    rcases operation with _ | ⟨_, _, _ | _, _⟩ | _ | _ | _ | _ <;>
      simp [transferred, SyncOperation.path]
  look_apply_other trees operation other different := by
    rcases operation with _ | ⟨_, _, _ | _, _⟩ | _ | _ | _ | _ <;>
      simp_all [SyncOperation.path, Std.TreeMap.getElem?_insert, Std.TreeMap.getElem?_erase]

/-- A kept copy is a new local file. -/
def keepCopy (trees : FileTree × FileTree) (operation : SyncOperation) : FileTree × FileTree :=
  match operation with
  | .download path _ true _ =>
    (trees.1.insert (outcomes.copyPath path) (outcomes.downloaded path), trees.2)
  | _ => trees

/-- One operation carried out. -/
def performOperation (trees : FileTree × FileTree) (operation : SyncOperation) :
    FileTree × FileTree :=
  keepCopy outcomes ((transfers outcomes).apply trees operation) operation

/-- The result the executor reports for an operation that succeeded. -/
def successResult (operation : SyncOperation) : ExecutionResult :=
  { relativePath := operation.path
    action := operation.action
    success := true
    detail := none
    messageId :=
      match operation with
      | .upload path _ => (outcomes.published path).messageId
      | _ => none
    localHash :=
      match operation with
      | .download path _ false _ => some (outcomes.downloaded path).hash
      | _ => none }

/-- The journal entry the executor writes when an upload is published. -/
def executionJournal (clock : String -> Int) (operation : SyncOperation) : Option StateWrite :=
  match operation with
  | .upload path localEntry =>
    (outcomes.published path).messageId.map fun messageId =>
      journalUpload path localEntry messageId (clock path)
  | _ => none

/-- The read-back entries of the uploads of a batch. -/
def uploadedTree (operations : List SyncOperation) : FileTree :=
  operations.foldl (fun tree operation =>
    match operation with
    | .upload path _ => tree.insert path (outcomes.published path)
    | _ => tree) ∅

/-- The statements of a cycle whose every operation succeeded, after its plan. -/
def completedWrites (clock : String -> Int) (prepared : PreparedReconciliation) : List StateWrite :=
  let results := prepared.operations.map (successResult outcomes)
  prepared.operations.filterMap (executionJournal outcomes clock) ++
    journalUploads clock prepared.localTree results ++
      recordResults clock prepared results (uploadedTree outcomes prepared.operations)

/-! ## Batches -/

theorem uploadedTree_of_mem {operations : List SyncOperation} {path : String} {entry : TreeEntry}
    (member : SyncOperation.upload path entry ∈ operations) :
    (uploadedTree outcomes operations)[path]? = some (outcomes.published path) := by
  have grows : forall (operations : List SyncOperation) (tree : FileTree),
      (tree[path]? = some (outcomes.published path) ∨
        SyncOperation.upload path entry ∈ operations) ->
      (operations.foldl (fun tree operation =>
        match operation with
        | .upload path _ => tree.insert path (outcomes.published path)
        | _ => tree) tree)[path]? = some (outcomes.published path) := by
    intro operations
    induction operations with
    | nil =>
      intro tree present
      simpa using present
    | cons operation operations ih =>
      intro tree present
      rw [List.foldl_cons]
      apply ih
      rcases present with here | member
      · left
        cases operation <;> simp_all [Std.TreeMap.getElem?_insert]
      · rcases List.mem_cons.mp member with rfl | later
        · left
          simp
        · exact .inr later
  exact grows operations ∅ (.inr member)

/-- Without kept copies a batch only changes the paths of its operations. -/
theorem foldl_performOperation {operations : List SyncOperation}
    (noCopies : forall path entry expected, .download path entry true expected ∉ operations)
    (trees : FileTree × FileTree) :
    operations.foldl (performOperation outcomes) trees =
      (transfers outcomes).applyAll trees operations := by
  induction operations generalizing trees with
  | nil => rfl
  | cons operation operations ih =>
    rw [List.foldl_cons, KeyedUpdates.applyAll_cons, ih fun path entry expected =>
      fun later => noCopies path entry expected (List.mem_cons_of_mem operation later)]
    congr 1
    rcases operation with _ | ⟨path, entry, _ | _, expected⟩ | _ | _ | _ | _ <;> try rfl
    exact absurd List.mem_cons_self (noCopies path entry expected)

end SyncEngine
end TelegramDrive
