import TelegramDrive.Workspace.CarriedFiles

namespace TelegramDrive
namespace Workspace

/-!
# Lists of changes

Each change of a list meets the store that the changes before it have left.  The list as a
whole is applied or not at all, it touches no file that it does not name, and its moves carry
everything exactly where each of them can.
-/

namespace LocalStore

def changeKeys : Change -> List Key
  | .rename folder message _ => [fileKey folder message]
  | .delete folder message => [fileKey folder message]
  | .move source message target newMessage => [fileKey source message, fileKey target newMessage]

def runChanges (store : Store) (changes : List Change) : Except String Store := changes.foldlM Store.applyChange store

/-- Every move of a list goes to a key that is not in use when its turn comes. -/
def FreshMoves (store : Store) (changes : List Change) : Prop :=
  forall first source message target newMessage rest before,
    changes = first ++ .move source message target newMessage :: rest -> runChanges store first = .ok before ->
    Fresh before (fileKey target newMessage)

/-- Everything that each move should carry can come along. -/
def CarriableMoves (store : Store) (changes : List Change) : Prop :=
  forall first source message target newMessage rest before,
    changes = first ++ .move source message target newMessage :: rest -> runChanges store first = .ok before ->
    Carriable before (fileKey source message)

/-- What a list of changes should do. -/
structure Carried (store : Store) (changes : List Change) (next : Store) : Prop where
  moved : forall first source message target newMessage rest before after,
    changes = first ++ .move source message target newMessage :: rest -> runChanges store first = .ok before ->
    before.applyChange (.move source message target newMessage) = .ok after ->
    after.attached (fileKey target newMessage) = before.attached (fileKey source message) ∧
      after.files (fileKey source message) = none ∧ after.records "envelope-v1" (fileKey source message) = none
  frame : forall key, (forall change, change ∈ changes -> key ∉ changeKeys change) ->
    Agrees store next key ∧ next.attached key = store.attached key ∧
      forall view, next.activity view key = store.activity view key

/-- All changes with what they carry, or an error and none of them. -/
def AllOrNothing (store : Store) (changes : List Change) (result : Except String Unit × Store) : Prop :=
  ((Exists fun error => result.1 = .error error) ∧ result.2 = store) ∨
    (result.1 = .ok () ∧ Carried store changes result.2)

variable {store next : Store}

/-- A changed name is written to the row of the file, and nowhere else. -/
theorem renameFile_spec {key : Key} {name : String} (consistent : Consistent store)
    (done : store.renameFile key name = .ok next) :
    Consistent next ∧ forall other, other ≠ key -> Agrees store next other := by
  unfold Store.renameFile at done
  rcases Results.bind_ok done with ⟨found, read, rest⟩
  cases found with
  | none =>
    cases rest
    exact ⟨consistent, fun other _ => Agrees.refl store other⟩
  | some file =>
    rcases file_some read with ⟨row, cached, listed, readable, same, -, -⟩
    have named : file.key = key := same.trans (consistent.files key row cached listed readable)
    rcases rememberLocalFile_ok rest with ⟨previous, newRow, -, rfl, written⟩
    change Consistent (store.putFile file.key newRow) ∧ forall other, other ≠ key ->
      Agrees store (store.putFile file.key newRow) other
    rw [named]
    constructor
    · constructor
      · intro other row file' listed readable'
        by_cases here : other = key
        · change Function.update store.files key (some newRow) other = some row at listed
          rw [here, Function.update_self] at listed
          cases listed
          cases written.symm.trans readable'
          rw [(protect_same _).1, keep_key]
          exact named.trans here.symm
        · change Function.update store.files key (some newRow) other = some row at listed
          rw [Function.update_of_ne here] at listed
          exact consistent.files other row file' listed readable'
      · exact consistent.opened
      · exact consistent.tags
      · exact consistent.collections
    · intro other different
      exact ⟨Function.update_of_ne different _ _, rfl, rfl, fun _ => rfl⟩

/-- One change keeps the store consistent and touches the files it names. -/
theorem applyChange_spec {change : Change} (consistent : Consistent store)
    (fresh : forall source message target newMessage, change = .move source message target newMessage ->
      Fresh store (fileKey target newMessage))
    (done : store.applyChange change = .ok next) :
    Consistent next ∧ forall key, key ∉ changeKeys change -> Agrees store next key := by
  cases change with
  | rename folder message name =>
    rcases renameFile_spec consistent done with ⟨kept, frame⟩
    exact ⟨kept, fun key outside => frame key fun same => outside (List.mem_singleton.mpr same)⟩
  | delete folder message =>
    cases done
    exact ⟨consistent.forget _, fun key outside =>
      forgetFile_agrees store fun same => outside (List.mem_singleton.mpr same)⟩
  | move source message target newMessage =>
    have spec := moveFile_spec consistent (fresh _ _ _ _ rfl) done
    refine ⟨spec.consistent, ?_⟩
    intro key outside
    refine spec.frame key ?_ ?_
    · exact fun same => outside (List.mem_cons.mpr (Or.inl same))
    · exact fun same => outside (List.mem_cons_of_mem _ (List.mem_singleton.mpr same))

variable {changes first rest : List Change}

theorem runChanges_cons {change : Change} :
    runChanges store (change :: changes) = store.applyChange change >>= fun next => runChanges next changes := by
  unfold runChanges
  rw [List.foldlM_cons]

theorem FreshMoves.tail {middle : Store} {change : Change}
    (fresh : FreshMoves store (change :: changes)) (done : store.applyChange change = .ok middle) :
    FreshMoves middle changes := by
  intro first source message target newMessage rest before split ran
  refine fresh (change :: first) source message target newMessage rest before (by rw [split]; rfl) ?_
  rw [runChanges_cons, done]
  exact ran

/-- A list of changes keeps the store consistent and touches the files it names. -/
theorem runChanges_spec (consistent : Consistent store) (fresh : FreshMoves store changes)
    (done : runChanges store changes = .ok next) :
    Consistent next ∧ forall key, (forall change, change ∈ changes -> key ∉ changeKeys change) ->
      Agrees store next key := by
  induction changes generalizing store with
  | nil =>
    cases done
    exact ⟨consistent, fun key _ => Agrees.refl _ key⟩
  | cons change changes ih =>
    rw [runChanges_cons] at done
    rcases Results.bind_ok done with ⟨middle, one, rest⟩
    have here : forall source message target newMessage, change = .move source message target newMessage ->
        Fresh store (fileKey target newMessage) := by
      rintro source message target newMessage rfl
      exact fresh [] source message target newMessage changes store rfl rfl
    rcases applyChange_spec consistent here one with ⟨kept, frame⟩
    rcases ih kept (fresh.tail one) rest with ⟨kept', frame'⟩
    refine ⟨kept', ?_⟩
    intro key outside
    exact (frame key (outside change List.mem_cons_self)).trans
      (frame' key fun other member => outside other (List.mem_cons_of_mem _ member))

theorem runChanges_append (done : runChanges store (first ++ rest) = .ok next) :
    Exists fun middle => runChanges store first = .ok middle ∧ runChanges middle rest = .ok next := by
  unfold runChanges at done ⊢
  rw [List.foldlM_append] at done
  exact Results.bind_ok done

theorem FreshMoves.front (fresh : FreshMoves store (first ++ rest)) :
    FreshMoves store first := by
  intro earlier source message target newMessage later before split ran
  refine fresh earlier source message target newMessage (later ++ rest) before ?_ ran
  rw [split, List.append_assoc]
  rfl

theorem move_spec {source target : Option Int} {message newMessage : Int}
    {before after : Store} (consistent : Consistent store) (fresh : FreshMoves store changes)
    (split : changes = first ++ .move source message target newMessage :: rest)
    (ran : runChanges store first = .ok before)
    (done : before.applyChange (.move source message target newMessage) = .ok after) :
    MoveSpec before after (fileKey source message) (fileKey target newMessage) := by
  have free := fresh first source message target newMessage rest before split ran
  subst split
  exact moveFile_spec (runChanges_spec consistent fresh.front ran).1 free done

/-- A list of changes does what it should exactly where all its moves can carry everything. -/
theorem carried_iff (consistent : Consistent store) (fresh : FreshMoves store changes)
    (done : runChanges store changes = .ok next) : Carried store changes next ↔ CarriableMoves store changes := by
  constructor
  · intro carried first source message target newMessage rest before split ran
    have whole := done
    rw [split] at whole
    rcases runChanges_append whole with ⟨middle, ran', later⟩
    cases ran.symm.trans ran'
    rw [runChanges_cons] at later
    rcases Results.bind_ok later with ⟨after, moved, -⟩
    have spec := move_spec consistent fresh split ran moved
    exact spec.carried.mp (carried.moved first source message target newMessage rest before after split ran moved).1
  · intro carriable
    constructor
    · intro first source message target newMessage rest before after split ran moved
      have spec := move_spec consistent fresh split ran moved
      exact ⟨spec.carried.mpr (carriable first source message target newMessage rest before split ran), spec.file,
        spec.envelope⟩
    · intro key outside
      have agrees := (runChanges_spec consistent fresh done).2 key outside
      exact ⟨agrees, agrees.attached, agrees.activity⟩

theorem applyFrom_ok {interruptions : Interruptions} {index : Nat}
    (done : store.applyFrom interruptions index changes = .ok next) : runChanges store changes = .ok next := by
  induction changes generalizing store index with
  | nil => exact done
  | cons change changes ih =>
    rw [Store.applyFrom] at done
    split at done
    · cases done
    · rcases Results.bind_ok done with ⟨middle, one, rest⟩
      rw [runChanges_cons, one]
      exact ih rest

/-- Changes are applied as a whole or not at all, and carry everything exactly where what was
moved had not been opened, and was cached or had nothing attached. -/
theorem moves_carry_everything (interruptions : Interruptions) (store : Store) (changes : List Change)
    (consistent : Consistent store) (fresh : FreshMoves store changes) :
    AllOrNothing store changes (store.applyChanges interruptions changes) ↔
      ((store.applyChanges interruptions changes).1 = .ok () -> CarriableMoves store changes) := by
  have failed : forall error, AllOrNothing store changes (.error error, store) ↔
      ((Except.error error : Except String Unit) = .ok () -> CarriableMoves store changes) := by
    intro error
    refine ⟨?_, fun _ => Or.inl ⟨⟨error, rfl⟩, rfl⟩⟩
    intro _ done
    cases done
  unfold Store.applyChanges
  split
  · exact failed _
  · split
    · exact failed _
    next next ran =>
      split
      · exact failed _
      · have carried := carried_iff consistent fresh (applyFrom_ok ran)
        constructor
        · rintro (⟨⟨error, stopped⟩, -⟩ | ⟨-, all⟩)
          · cases stopped
          · exact fun _ => carried.mp all
        · intro carriable
          exact Or.inr ⟨rfl, carried.mpr (carriable rfl)⟩

/-! ## A file of Saved Messages that is moved -/

def someFile : FileMetadata :=
  ⟨5, none, "report.pdf", 1024, some "application/pdf", some "pdf", "2024-05-01", "pdf", "plain", false, false⟩

def someRow : FileRow := ⟨"saved", some someFile, "Saved Messages", "scan"⟩

/-- A store with one file, which is tagged and a favorite, and its other records. -/
def someStore (opened : Option OpenedFile) : Store where
  files key := if key = fileKey none 5 then some someRow else none
  tags key := if key = fileKey none 5 then ["work"] else []
  collections _ := []
  records kind key :=
    if key = fileKey none 5 then
      if kind = "favorite" then some (.bool true)
      else if kind = "opened" then opened.map .opened
      else none
    else none

def someChange : Change := .move none 5 (some 10) 7

def uninterrupted : Interruptions := ⟨none, fun _ => none, none⟩

theorem someStore_consistent {opened : Option OpenedFile} (named : forall file, opened = some file ->
    file.key = fileKey none 5) : Consistent (someStore opened) := by
  constructor
  · intro key row file listed readable
    change (if key = fileKey none 5 then some someRow else none) = some row at listed
    split at listed
    next here =>
      cases listed
      cases readable
      exact here.symm
    · cases listed
  · intro key file recorded
    change (if key = fileKey none 5 then opened.map Value.opened else none) = some (.opened file) at recorded
    split at recorded
    next here =>
      rcases Option.map_eq_some_iff.mp recorded with ⟨opened, same, equal⟩
      cases equal
      exact (named file same).trans here.symm
    · cases recorded
  · intro key
    change ((if key = fileKey none 5 then ["work"] else []).map foldTag).Nodup
    split
    · exact List.nodup_singleton _
    · exact List.nodup_nil
  · exact fun _ => List.nodup_nil

theorem someStore_fresh (opened : Option OpenedFile) : Fresh (someStore opened) (fileKey (some 10) 7) := by
  have other : fileKey (some 10) 7 ≠ fileKey none 5 := by decide
  constructor
  · show (if fileKey (some 10) 7 = fileKey none 5 then some someRow else none) = none
    rw [if_neg other]
  · show (if fileKey (some 10) 7 = fileKey none 5 then ["work"] else []) = []
    rw [if_neg other]
  · rfl
  · intro kind
    unfold someStore
    dsimp only
    rw [if_neg other]

theorem singleton_split {change other : Change}
    (split : [change] = first ++ other :: rest) : first = [] ∧ change = other := by
  cases first with
  | nil => exact ⟨rfl, (List.cons.inj split).1⟩
  | cons earlier first =>
    have lengths := congrArg List.length split
    simp only [List.length_cons, List.length_append, List.length_nil] at lengths
    omega

theorem someStore_freshMoves (opened : Option OpenedFile) : FreshMoves (someStore opened) [someChange] := by
  intro first source message target newMessage rest before split ran
  rcases singleton_split split with ⟨rfl, same⟩
  cases ran
  cases same
  exact someStore_fresh opened

/-- A file that was never opened takes its tag and its flag along. -/
theorem moves_carry_everything_here :
    AllOrNothing (someStore none) [someChange] ((someStore none).applyChanges uninterrupted [someChange]) := by
  refine (moves_carry_everything uninterrupted (someStore none) [someChange]
    (someStore_consistent (fun file absent => by cases absent)) (someStore_freshMoves none)).mpr fun _ => ?_
  intro first source message target newMessage rest before split ran
  rcases singleton_split split with ⟨rfl, same⟩
  cases ran
  cases same
  constructor
  · decide
  · intro absent
    exact absurd absent (by decide)

def someOpened : OpenedFile := ⟨none, 5, 1700000000, 3⟩

/-- What was opened stays behind. -/
theorem opened_file_is_forgotten :
    Consistent (someStore (some someOpened)) ∧ FreshMoves (someStore (some someOpened)) [someChange] ∧
      ¬ AllOrNothing (someStore (some someOpened)) [someChange]
        ((someStore (some someOpened)).applyChanges uninterrupted [someChange]) := by
  refine ⟨someStore_consistent ?_, someStore_freshMoves _, ?_⟩
  · intro file same
    cases same
    rfl
  · rintro (⟨⟨error, stopped⟩, -⟩ | ⟨-, carried⟩)
    · have answered : ((someStore (some someOpened)).applyChanges uninterrupted [someChange]).1 = .ok () := by
        decide +kernel
      cases answered.symm.trans stopped
    · have done : Exists fun after => (someStore (some someOpened)).applyChange someChange = .ok after ∧
          (after.attached (fileKey (some 10) 7)).history = none := by decide +kernel
      rcases done with ⟨after, ran, lost⟩
      have moved := (carried.moved [] none 5 (some 10) 7 [] _ after rfl rfl ran).1
      rw [moved] at lost
      exact absurd lost (by decide)

end LocalStore
end Workspace
end TelegramDrive
