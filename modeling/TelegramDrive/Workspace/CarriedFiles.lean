import TelegramDrive.Workspace.AppliedChanges
import Mathlib.Data.List.Nodup

namespace TelegramDrive
namespace Workspace

/-!
# What a move carries

After a move the new key should have what the user attached to the old one.  Tags,
memberships and flags come along where the file is cached; what was opened stays behind.
-/

namespace LocalStore

/-! ## Moved rows -/

section Rows

variable {fold : String -> List Char}

theorem moveRows_all {rows target : List String} (distinct : (rows.map fold).Nodup)
    (apart : forall row, row ∈ rows -> fold row ∉ target.map fold) :
    moveRows fold rows target = ([], target ++ rows) := by
  induction rows generalizing target with
  | nil =>
    rw [moveRows, List.append_nil]
  | cons row rows ih =>
    rw [List.map_cons, List.nodup_cons] at distinct
    rw [moveRows, if_neg (apart row List.mem_cons_self), ih distinct.2, List.append_assoc,
      List.singleton_append]
    intro other member equal
    rw [List.map_append, List.mem_append] at equal
    rcases equal with before | new
    · exact apart other (List.mem_cons_of_mem _ member) before
    · apply distinct.1
      rw [List.map_singleton, List.mem_singleton] at new
      rw [← new]
      exact List.mem_map_of_mem member

theorem moveRows_distinct {rows target : List String} (distinct : (rows.map fold).Nodup)
    (distinct' : (target.map fold).Nodup) :
    ((moveRows fold rows target).1.map fold).Sublist (rows.map fold) ∧
      ((moveRows fold rows target).2.map fold).Nodup := by
  induction rows generalizing target with
  | nil => exact ⟨List.Sublist.refl _, distinct'⟩
  | cons row rows ih =>
    rw [List.map_cons, List.nodup_cons] at distinct
    rw [moveRows]
    split
    · rcases ih distinct.2 distinct' with ⟨left, moved⟩
      exact ⟨left.cons_cons (fold row), moved⟩
    next absent =>
      have added : ((target ++ [row]).map fold).Nodup := by
        rw [List.map_append, List.map_singleton, List.nodup_append]
        refine ⟨distinct', List.nodup_singleton _, ?_⟩
        intro one inside other here same
        rw [List.mem_singleton.mp here] at same
        exact absent (same ▸ inside)
      rcases ih distinct.2 added with ⟨left, moved⟩
      exact ⟨left.trans (List.sublist_cons_self _ _), moved⟩

variable {table : Key -> List String} {old new : Key}

theorem moveKey_other {key : Key} (other : key ≠ old) (other' : key ≠ new) :
    moveKey fold table old new key = table key := by
  unfold moveKey
  split
  · rfl
  · dsimp only
    rw [Function.update_of_ne other', Function.update_of_ne other]

theorem moveKey_fresh (different : old ≠ new) (distinct : ((table old).map fold).Nodup) (fresh : table new = []) :
    moveKey fold table old new new = table old := by
  have moved : moveRows fold (table old) [] = ([], [] ++ table old) :=
    moveRows_all distinct fun _ _ => List.not_mem_nil
  unfold moveKey
  rw [if_neg different, fresh, moved]
  exact Function.update_self ..

theorem moveKey_distinct (distinct : forall key, ((table key).map fold).Nodup) (key : Key) :
    ((moveKey fold table old new key).map fold).Nodup := by
  unfold moveKey
  split
  · exact distinct key
  · have moved := moveRows_distinct (distinct old) (distinct new)
    dsimp only
    by_cases here : key = new
    · rw [here, Function.update_self]
      exact moved.2
    · rw [Function.update_of_ne here]
      by_cases there : key = old
      · rw [there, Function.update_self]
        exact (distinct old).sublist moved.1
      · rw [Function.update_of_ne there]
        exact distinct key

end Rows

/-! ## What is attached to a file -/

structure Attached where
  tags : List String
  collections : List String
  favorite : Option Bool
  pinned : Option Bool
  history : Option (Int × Nat)
deriving DecidableEq

/-- A flag as it is shown, if it can be read: its record, else that of the cached file. -/
def Store.shownFlag (store : Store) (kind : String) (cached : FileMetadata -> Bool) (key : Key) : Option Bool :=
  match store.records kind key with
  | some (.bool value) => some value
  | some _ => none
  | none =>
    match store.files key with
    | none => some false
    | some row => row.metadata.map cached

def Store.attached (store : Store) (key : Key) : Attached where
  tags := store.tags key
  collections := store.collections key
  favorite := store.shownFlag "favorite" FileMetadata.isFavorite key
  pinned := store.shownFlag "pin" FileMetadata.isPinned key
  history := (store.history key).map fun opened => (opened.lastOpenedAt, opened.openCount)

def Attached.nothing : Attached := ⟨[], [], some false, some false, none⟩

/-- A key that is not in use. -/
structure Fresh (store : Store) (key : Key) : Prop where
  file : store.files key = none
  tags : store.tags key = []
  collections : store.collections key = []
  records : forall kind, store.records kind key = none

/-- What the writers and the tables of a store ensure: files and what was opened stand under
their own keys, and no row stands twice. -/
structure Consistent (store : Store) : Prop where
  files : forall key row file, store.files key = some row -> row.metadata = some file -> file.key = key
  opened : forall key file, store.records "opened" key = some (.opened file) -> file.key = key
  tags : forall key, ((store.tags key).map foldTag).Nodup
  collections : forall key, ((store.collections key).map String.toList).Nodup

/-- Nothing under a key is different. -/
structure Agrees (store next : Store) (key : Key) : Prop where
  files : next.files key = store.files key
  tags : next.tags key = store.tags key
  collections : next.collections key = store.collections key
  records : forall kind, next.records kind key = store.records kind key

theorem Agrees.refl (store : Store) (key : Key) : Agrees store store key := ⟨rfl, rfl, rfl, fun _ => rfl⟩

variable {store next : Store}

theorem Agrees.trans {middle : Store} {key : Key} (first : Agrees store middle key)
    (second : Agrees middle next key) : Agrees store next key :=
  ⟨second.files.trans first.files, second.tags.trans first.tags, second.collections.trans first.collections,
    fun kind => (second.records kind).trans (first.records kind)⟩

theorem Agrees.attached {key : Key} (agrees : Agrees store next key) :
    next.attached key = store.attached key := by
  unfold Store.attached Store.shownFlag Store.history
  rw [agrees.files, agrees.tags, agrees.collections, agrees.records, agrees.records, agrees.records]

theorem Agrees.activity {key : Key} (agrees : Agrees store next key) (view : View) :
    next.activity view key = store.activity view key := by
  unfold Store.activity Store.file Store.flag Store.history
  rw [agrees.files, agrees.records, agrees.records, agrees.records]

theorem Fresh.attached {key : Key} (fresh : Fresh store key) : store.attached key = .nothing := by
  unfold Store.attached Store.shownFlag Store.history
  rw [fresh.file, fresh.tags, fresh.collections, fresh.records, fresh.records, fresh.records]
  rfl

/-! ## The statements of a change -/

theorem file_none {key : Key} : store.file key = .ok none ↔ store.files key = none := by
  unfold Store.file
  constructor
  · intro done
    split at done
    · assumption
    · split at done
      · cases done
      · rcases Results.bind_ok done with ⟨_, -, rest⟩
        rcases Results.bind_ok rest with ⟨_, -, last⟩
        cases last
  · intro absent
    rw [absent]

theorem file_some {key : Key} {file : FileMetadata} (found : store.file key = .ok (some file)) :
    Exists fun row => Exists fun cached => store.files key = some row ∧ row.metadata = some cached ∧
      file.key = cached.key ∧ store.shownFlag "favorite" FileMetadata.isFavorite key = some file.isFavorite ∧
      store.shownFlag "pin" FileMetadata.isPinned key = some file.isPinned := by
  have flags : forall {kind : String} {recorded : Option Bool} {row : FileRow} {cached : FileMetadata}
      (field : FileMetadata -> Bool), store.files key = some row -> row.metadata = some cached ->
      store.flag kind key = .ok recorded -> store.shownFlag kind field key = some (recorded.getD (field cached)) := by
    intro kind recorded row cached field listed readable flag
    unfold Store.flag at flag
    unfold Store.shownFlag
    rw [listed]
    split at flag
    next absent =>
      cases flag
      rw [absent]
      dsimp only
      rw [readable]
      rfl
    next value present =>
      cases flag
      rw [present]
      rfl
    · cases flag
  unfold Store.file at found
  cases listed : store.files key with
  | none =>
    rw [listed] at found
    cases found
  | some row =>
    rw [listed] at found
    dsimp only at found
    cases readable : row.metadata with
    | none =>
      rw [readable] at found
      cases found
    | some cached =>
      rw [readable] at found
      rcases Results.bind_ok found with ⟨favorite, favoriteFound, rest⟩
      rcases Results.bind_ok rest with ⟨pinned, pinnedFound, last⟩
      cases last
      exact ⟨row, cached, rfl, readable, rfl, flags _ listed readable favoriteFound,
        flags _ listed readable pinnedFound⟩

theorem protect_same (file : FileMetadata) : file.protect.key = file.key ∧
    file.protect.isFavorite = file.isFavorite ∧ file.protect.isPinned = file.isPinned := by
  unfold FileMetadata.protect
  split <;> exact ⟨rfl, rfl, rfl⟩

theorem keep_key (file : FileMetadata) (previous : Option FileMetadata) : (file.keep previous).key = file.key := by
  cases previous <;> rfl

theorem rememberLocalFile_ok {file : FileMetadata} (done : store.rememberLocalFile file = .ok next) :
    Exists fun previous => Exists fun row => store.file file.key = .ok previous ∧
      next = store.putFile file.key row ∧ row.metadata = some (file.keep previous).protect := by
  unfold Store.rememberLocalFile at done
  split at done
  · cases done
  · rcases Results.bind_ok done with ⟨previous, found, rest⟩
    cases rest
    refine ⟨previous, _, found, rfl, ?_⟩
    cases store.files file.key <;> rfl

theorem copyRecord_ok {old new : Key} {kind : String}
    (done : Store.copyRecord old new store kind = .ok next) :
    next = { store with
      records := fun other => if other = kind then
        Function.update (store.records other) new ((store.records other old).or (store.records other new))
        else store.records other } := by
  have same : forall other, store.records kind old = none -> other = kind ->
      Function.update (store.records other) new ((store.records other old).or (store.records other new)) =
        store.records other := by
    rintro other absent rfl
    rw [absent, Option.none_or]
    exact Function.update_eq_self new (store.records other)
  unfold Store.copyRecord at done
  rcases Results.bind_ok done with ⟨value, found, rest⟩
  unfold Store.value at found
  cases recorded : store.records kind old with
  | none =>
    rw [recorded] at found
    cases found
    cases rest
    cases store with
    | mk files tags collections records =>
      simp only [Store.mk.injEq, true_and]
      funext other
      split
      next here => exact (same other recorded here).symm
      · rfl
  | some present =>
    rw [recorded] at found
    have read : value = some present := by
      cases present with
      | damaged text => cases found
      | bool value | opened file | json text =>
        cases found
        rfl
    subst read
    change store.putRecord kind new present = .ok next at rest
    unfold Store.putRecord at rest
    split at rest
    · cases rest
      simp only [Store.mk.injEq, true_and]
      funext other
      split
      next here =>
        rw [here, recorded]
        rfl
      · rfl
    · cases rest

/-- The copied kinds are those of the old key, the others are untouched. -/
theorem copyRecords_ok {old new : Key} (different : old ≠ new) {kinds : List String}
    (done : kinds.foldlM (Store.copyRecord old new) store = .ok next) :
    next.files = store.files ∧ next.tags = store.tags ∧ next.collections = store.collections ∧
      forall kind key, next.records kind key =
        if kind ∈ kinds ∧ key = new then (store.records kind old).or (store.records kind new)
        else store.records kind key := by
  induction kinds generalizing store with
  | nil =>
    cases done
    refine ⟨rfl, rfl, rfl, ?_⟩
    intro kind key
    rw [if_neg (fun both => List.not_mem_nil both.1)]
  | cons first kinds ih =>
    rw [List.foldlM_cons] at done
    rcases Results.bind_ok done with ⟨middle, copied, rest⟩
    rcases ih rest with ⟨files, tags, collections, records⟩
    have one := copyRecord_ok copied
    subst one
    refine ⟨files, tags, collections, ?_⟩
    intro kind key
    rw [records kind key]
    dsimp only
    by_cases here : kind = first
    · rw [if_pos here]
      by_cases at_ : key = new
      · rw [if_pos (⟨here ▸ List.mem_cons_self, at_⟩ : kind ∈ first :: kinds ∧ key = new)]
        rw [Function.update_of_ne different, at_, Function.update_self, ← Option.or_assoc, Option.or_self, ite_self]
      · rw [if_neg (fun both => at_ both.2), if_neg (fun both => at_ both.2), Function.update_of_ne at_]
    · rw [if_neg here]
      have listed : kind ∈ first :: kinds ↔ kind ∈ kinds := by
        rw [List.mem_cons, or_iff_right here]
      simp only [listed]

/-! ## One move -/

section Move

variable {store next : Store} {old new : Key}

theorem forgetFile_agrees (store : Store) {key : Key} (other : key ≠ old) : Agrees store (store.forgetFile old) key := by
  constructor
  · exact Function.update_of_ne other _ _
  · rfl
  · rfl
  · intro kind
    show (if kind = "envelope-v1" then Function.update (store.records kind) old none else store.records kind) key = _
    split
    · exact Function.update_of_ne other _ _
    · rfl

theorem forgetFile_files (store : Store) (old : Key) : (store.forgetFile old).files old = none :=
  Function.update_self ..

theorem forgetFile_records (store : Store) (old : Key) (kind : String) (key : Key) :
    (store.forgetFile old).records kind key = if kind = "envelope-v1" ∧ key = old then none
      else store.records kind key := by
  show (if kind = "envelope-v1" then Function.update (store.records kind) old none else store.records kind) key = _
  by_cases envelope : kind = "envelope-v1"
  · by_cases here : key = old
    · rw [if_pos envelope, if_pos ⟨envelope, here⟩, here, Function.update_self]
    · rw [if_pos envelope, if_neg (fun both => here both.2), Function.update_of_ne here]
  · rw [if_neg envelope, if_neg (fun both => envelope both.1)]

theorem Fresh.forget {key : Key} (fresh : Fresh store key) (old : Key) : Fresh (store.forgetFile old) key := by
  by_cases here : key = old
  · constructor
    · rw [here]
      exact forgetFile_files store old
    · exact fresh.tags
    · exact fresh.collections
    · intro kind
      rw [forgetFile_records]
      split
      · rfl
      · exact fresh.records kind
  · have agrees := forgetFile_agrees store here
    exact ⟨agrees.files.trans fresh.file, fresh.tags, fresh.collections,
      fun kind => (agrees.records kind).trans (fresh.records kind)⟩

theorem Consistent.forget (consistent : Consistent store) (old : Key) : Consistent (store.forgetFile old) := by
  constructor
  · intro key row file listed readable
    by_cases here : key = old
    · rw [here, forgetFile_files] at listed
      cases listed
    · rw [(forgetFile_agrees store here).files] at listed
      exact consistent.files key row file listed readable
  · intro key file recorded
    rw [forgetFile_records, if_neg (fun both => absurd both.1 (by decide))] at recorded
    exact consistent.opened key file recorded
  · exact consistent.tags
  · exact consistent.collections

/-- A file under its new key, with what came along. -/
structure CarriedTo (store carried : Store) (old new : Key) (file : FileMetadata) : Prop where
  files : Exists fun row => carried.files = Function.update store.files new (some row) ∧
    Exists fun cached => row.metadata = some cached ∧ cached.key = new ∧ cached.isFavorite = file.isFavorite ∧
      cached.isPinned = file.isPinned
  tags : carried.tags = moveKey foldTag store.tags old new
  collections : carried.collections = moveKey String.toList store.collections old new
  records : forall kind key, carried.records kind key =
    if kind ∈ ["favorite", "pin", "activity"] ∧ key = new then store.records kind old else store.records kind key

theorem carryFile_ok {carried : Store} {file : FileMetadata} (named : file.key = new) (fresh : Fresh store new)
    (different : old ≠ new) (done : store.carryFile old new file = .ok carried) :
    CarriedTo store carried old new file := by
  unfold Store.carryFile at done
  rcases Results.bind_ok done with ⟨remembered, written, rest⟩
  rcases rememberLocalFile_ok written with ⟨previous, row, found, rfl, cached⟩
  rw [named] at found
  rw [file_none.mpr fresh.file] at found
  cases found
  rcases copyRecords_ok different rest with ⟨files, tags, collections, records⟩
  constructor
  · refine ⟨row, ?_, _, cached, ?_, ?_, ?_⟩
    · rw [files, named]
      rfl
    · exact (protect_same _).1.trans named
    · exact (protect_same _).2.1
    · exact (protect_same _).2.2
  · exact tags
  · exact collections
  · intro kind key
    rw [records kind key]
    change (if _ then (store.records kind old).or (store.records kind new) else store.records kind key) = _
    rw [fresh.records kind, Option.or_none]

theorem moveFile_cases {source target : Option Int} {message newMessage : Int}
    (done : store.moveFile source message target newMessage = .ok next) :
    (store.files (fileKey source message) = none ∧ next = store.forgetFile (fileKey source message)) ∨
      Exists fun file => store.file (fileKey source message) = .ok (some file) ∧ Exists fun carried =>
        store.carryFile (fileKey source message) (fileKey target newMessage)
          { file with
            folderId := target
            id := newMessage } = .ok carried ∧
        next = carried.forgetFile (fileKey source message) := by
  unfold Store.moveFile at done
  rcases Results.bind_ok done with ⟨found, read, rest⟩
  cases found with
  | none =>
    cases rest
    exact Or.inl ⟨file_none.mp read, rfl⟩
  | some file =>
    rcases Results.bind_ok rest with ⟨carried, carry, last⟩
    cases last
    exact Or.inr ⟨file, read, carried, carry, rfl⟩

theorem shownFlag_carried {kind : String} {field : FileMetadata -> Bool} {value : Bool} {row : FileRow}
    {cached : FileMetadata} (records : next.records kind new = store.records kind old)
    (listed : next.files new = some row) (readable : row.metadata = some cached) (same : field cached = value)
    (shown : store.shownFlag kind field old = some value) : next.shownFlag kind field new = some value := by
  unfold Store.shownFlag at shown ⊢
  rw [records, listed]
  cases recorded : store.records kind old with
  | none =>
    show row.metadata.map field = some value
    rw [readable, Option.map_some, same]
  | some stored =>
    rw [recorded] at shown
    cases stored <;> exact shown

/-- The user's data can come along: the file is cached or nothing is attached to it, and it was
not opened. -/
structure Carriable (store : Store) (old : Key) : Prop where
  history : (store.attached old).history = none
  cached : store.files old = none -> store.attached old = .nothing

/-- What a move to a key that is not in use does. -/
structure MoveSpec (store next : Store) (old new : Key) : Prop where
  consistent : Consistent next
  carried : next.attached new = store.attached old ↔ Carriable store old
  file : next.files old = none
  envelope : next.records "envelope-v1" old = none
  frame : forall key, key ≠ old -> key ≠ new -> Agrees store next key

theorem forgetFile_spec (consistent : Consistent store) (fresh : Fresh store new) (absent : store.files old = none) :
    MoveSpec store (store.forgetFile old) old new := by
  constructor
  · exact consistent.forget old
  · rw [(fresh.forget old).attached]
    constructor
    · intro same
      constructor
      · rw [← same]
        rfl
      · exact fun _ => same.symm
    · exact fun carriable => (carriable.cached absent).symm
  · exact forgetFile_files store old
  · rw [forgetFile_records]
    exact if_pos ⟨rfl, rfl⟩
  · intro key other _
    exact forgetFile_agrees store other

theorem CarriedTo.spec {carried : Store} {file : FileMetadata} (consistent : Consistent store) (fresh : Fresh store new)
    (found : store.file old = .ok (some file)) {moved : FileMetadata} (favorite : moved.isFavorite = file.isFavorite)
    (pinned : moved.isPinned = file.isPinned) (arrived : CarriedTo store carried old new moved) :
    MoveSpec store (carried.forgetFile old) old new := by
  rcases file_some found with ⟨row, cached, listed, -, -, shownFavorite, shownPin⟩
  have different : old ≠ new := by
    rintro rfl
    rw [fresh.file] at listed
    cases listed
  rcases arrived.files with ⟨newRow, files, newCached, readable, named, newFavorite, newPinned⟩
  have agrees := forgetFile_agrees carried different.symm
  have records : forall kind, kind ∈ ["favorite", "pin", "activity"] ->
      (carried.forgetFile old).records kind new = store.records kind old := by
    intro kind member
    rw [agrees.records, arrived.records, if_pos ⟨member, rfl⟩]
  have newListed : (carried.forgetFile old).files new = some newRow := by
    rw [agrees.files, files, Function.update_self]
  constructor
  · refine Consistent.forget ?_ old
    constructor
    · intro key row file listed readable'
      rw [files] at listed
      by_cases here : key = new
      · rw [here, Function.update_self] at listed
        cases listed
        cases readable.symm.trans readable'
        exact named.trans here.symm
      · rw [Function.update_of_ne here] at listed
        exact consistent.files key row file listed readable'
    · intro key file recorded
      rw [arrived.records, if_neg (fun both => absurd both.1 (by decide))] at recorded
      exact consistent.opened key file recorded
    · rw [arrived.tags]
      exact moveKey_distinct consistent.tags
    · rw [arrived.collections]
      exact moveKey_distinct consistent.collections
  · have attached : (carried.forgetFile old).attached new =
        { store.attached old with history := none } := by
      have tags : (carried.forgetFile old).tags new = store.tags old := by
        rw [agrees.tags, arrived.tags]
        exact moveKey_fresh different (consistent.tags old) fresh.tags
      have collections : (carried.forgetFile old).collections new = store.collections old := by
        rw [agrees.collections, arrived.collections]
        exact moveKey_fresh different (consistent.collections old) fresh.collections
      have history : (carried.forgetFile old).history new = none := by
        unfold Store.history
        rw [agrees.records, arrived.records, if_neg (fun both => absurd both.1 (by decide)), fresh.records]
      unfold Store.attached
      rw [tags, collections, history, shownFavorite, shownPin,
        shownFlag_carried (records "favorite" (by decide)) newListed readable (newFavorite.trans favorite) shownFavorite,
        shownFlag_carried (records "pin" (by decide)) newListed readable (newPinned.trans pinned) shownPin]
      rfl
    rw [attached]
    constructor
    · intro same
      constructor
      · rw [← same]
      · intro absent
        rw [listed] at absent
        cases absent
    · intro carriable
      have history := carriable.history
      cases whole : store.attached old with
      | mk tags collections favorite pinned history_ =>
        rw [whole] at history
        cases history
        rfl
  · exact forgetFile_files carried old
  · rw [forgetFile_records]
    exact if_pos ⟨rfl, rfl⟩
  · intro key other other'
    refine Agrees.trans ?_ (forgetFile_agrees carried other)
    constructor
    · rw [files, Function.update_of_ne other']
    · rw [arrived.tags, moveKey_other other other']
    · rw [arrived.collections, moveKey_other other other']
    · intro kind
      rw [arrived.records, if_neg (fun both => other' both.2)]

theorem moveFile_spec {source target : Option Int} {message newMessage : Int} (consistent : Consistent store)
    (fresh : Fresh store (fileKey target newMessage))
    (done : store.moveFile source message target newMessage = .ok next) :
    MoveSpec store next (fileKey source message) (fileKey target newMessage) := by
  rcases moveFile_cases done with ⟨absent, rfl⟩ | ⟨file, found, carried, carry, rfl⟩
  · exact forgetFile_spec consistent fresh absent
  · have different : fileKey source message ≠ fileKey target newMessage := by
      intro same
      rw [same, file_none.mpr fresh.file] at found
      cases found
    have arrived : CarriedTo store carried (fileKey source message) (fileKey target newMessage) _ :=
      carryFile_ok rfl fresh different carry
    refine CarriedTo.spec consistent fresh found ?_ ?_ arrived
    · rfl
    · rfl

end Move

end LocalStore
end Workspace
end TelegramDrive
