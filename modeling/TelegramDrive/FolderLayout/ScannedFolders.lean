import TelegramDrive.FolderLayout.Tables

namespace TelegramDrive
namespace FolderLayout

/-!
# What a scan leaves behind

A scan that gets through stores a row for each folder that Telegram lists and deletes the
others.  The rows can be told beforehand, in the order of the listed folders: a known
folder keeps its place, a new one is put behind the places that were read.
-/

/-- `get_enriched_folders_internal` on the tables it finds: the tables and its answer. -/
def scan (layout : SavedLayout) (folders : List FolderMetadata) (visited : List Int) :
    Option (SavedLayout × List FolderMetadata) :=
  let plan := scanStatements layout.folders folders visited
  (layout.runAll (plan.1.map Prod.snd ++ plan.2)).map fun next =>
    (next, scannedFolders layout.groups (plan.1.map Prod.fst))

/-- The folders of a scan: one for a channel, and none inside another. -/
structure Listed (folders : List FolderMetadata) : Prop where
  distinct : (folders.map FolderMetadata.id).Nodup
  unnested : forall folder, folder ∈ folders -> folder.parentId = none

/-- A row as the commands show it. -/
def SavedFolder.shown (row : SavedFolder) : FolderMetadata :=
  ⟨row.channelId, none, row.name, row.username, row.isPublic, row.groupId.map asI32, asI32 row.displayOrder⟩

/-- The row of a known folder, with what Telegram says of it now. -/
def SavedFolder.refreshed (row : SavedFolder) (folder : FolderMetadata) : SavedFolder :=
  { row with
    name := folder.name
    username := folder.username
    isPublic := folder.isPublic }

/-- The rows of the listed folders, and the largest place in use before them. -/
def mergedRows (known : FolderRows) : Int -> List FolderMetadata -> List SavedFolder
  | _, [] => []
  | highest, folder :: rest =>
    match known.find? folder.id with
    | some row => row.refreshed folder :: mergedRows known highest rest
    | none =>
      let order := asI32 (highest + 1)
      ⟨folder.id, folder.name, folder.username, folder.isPublic, order, none⟩ :: mergedRows known order rest

/-- The largest place that a scan reads. -/
def highestOrder (known : FolderRows) : Int :=
  maxOrder (known.items.map fun row => asI32 row.displayOrder)

/-- The rows after a scan. -/
def rowsOf (known : FolderRows) (folders : List FolderMetadata) : List SavedFolder :=
  mergedRows known (highestOrder known) folders

/-! ## The listed folders and their rows -/

@[simp] theorem asI32_asI32 (value : Int) : asI32 (asI32 value) = asI32 value := Int.bmod_bmod

theorem asI32_bounds (value : Int) : -(2 ^ 31) ≤ asI32 value ∧ asI32 value < 2 ^ 31 := by
  have lower := Int.le_bmod (x := value) (show 0 < 2 ^ 32 by decide)
  have upper := Int.bmod_lt (x := value) (show 0 < 2 ^ 32 by decide)
  unfold asI32
  omega

theorem asI32_of_bounds {value : Int} (lower : -(2 ^ 31) ≤ value) (upper : value < 2 ^ 31) :
    asI32 value = value := by
  unfold asI32
  apply Int.bmod_eq_of_le
  · omega
  · omega

variable {known : FolderRows} {folders : List FolderMetadata}

theorem mergedRows_ids (known : FolderRows) (highest : Int) (folders : List FolderMetadata) :
    (mergedRows known highest folders).map SavedFolder.channelId = folders.map FolderMetadata.id := by
  induction folders generalizing highest with
  | nil => rfl
  | cons folder folders ih =>
    unfold mergedRows
    cases found : known.find? folder.id with
    | some row => exact congr (congrArg List.cons (OrderedMap.find?_some found).2) (ih highest)
    | none => exact congrArg (List.cons folder.id) (ih _)

theorem mergeFolders_shown (known : FolderRows) (highest : Int)
    (unnested : forall folder, folder ∈ folders -> folder.parentId = none) :
    (mergeFolders known highest folders).map Prod.fst = (mergedRows known highest folders).map SavedFolder.shown := by
  induction folders generalizing highest with
  | nil => rfl
  | cons folder folders ih =>
    have rest := fun highest => ih highest fun other member =>
      unnested other (List.mem_cons_of_mem _ member)
    have alone := unnested folder List.mem_cons_self
    unfold mergeFolders mergedRows
    cases found : known.find? folder.id with
    | some row =>
      dsimp only
      rw [List.map_cons, List.map_cons, rest]
      congr 1
      unfold SavedFolder.shown SavedFolder.refreshed
      rw [(OrderedMap.find?_some found).2, ← alone]
    | none =>
      dsimp only
      rw [List.map_cons, List.map_cons, rest]
      congr 1
      simp only [SavedFolder.shown, asI32_asI32, Option.map_none, alone]

theorem rowsOf_ids (known : FolderRows) (folders : List FolderMetadata) :
    (rowsOf known folders).map SavedFolder.channelId = folders.map FolderMetadata.id :=
  mergedRows_ids known (highestOrder known) folders

theorem rowsOf_nodup (listed : Listed folders) : (rowsOf known folders).Nodup := by
  apply List.Nodup.of_map SavedFolder.channelId
  rw [rowsOf_ids]
  exact listed.distinct

/-! ## Running the statements -/

/-- The row of a channel among the given ones. -/
def rowOf (rows : List SavedFolder) (id : Int) : Option SavedFolder :=
  rows.find? fun row => decide (row.channelId = id)

theorem rowOf_eq_none {rows : List SavedFolder} {id : Int} (absent : id ∉ rows.map SavedFolder.channelId) :
    rowOf rows id = none :=
  List.find?_eq_none.mpr fun row member same =>
    absent (List.mem_map.mpr ⟨row, member, of_decide_eq_true same⟩)

theorem find?_setFolderDetails (layout : SavedLayout) {row : SavedFolder} {folder : FolderMetadata}
    (found : layout.folders.find? folder.id = some row) :
    Exists fun stored =>
      layout.run (.setFolderDetails folder.id folder.name folder.username folder.isPublic) = some stored ∧
        stored.groups = layout.groups ∧ forall id, stored.folders.find? id =
          if id = folder.id then some (row.refreshed folder) else layout.folders.find? id := by
  refine ⟨_, rfl, rfl, fun id => ?_⟩
  unfold SavedLayout.updateFolder SavedLayout.updateFolders
  rw [OrderedMap.find?_update]
  split
  next same =>
    rw [same, found, Option.map_some, if_pos (beq_iff_eq.mpr (OrderedMap.find?_some found).2)]
    rfl
  next apart =>
    cases other : layout.folders.find? id with
    | none => rfl
    | some item =>
      have elsewhere : ¬ (item.channelId == folder.id) = true := fun same =>
        apart ((OrderedMap.find?_some other).2.symm.trans (beq_iff_eq.mp same))
      rw [Option.map_some, if_neg elsewhere]

theorem find?_insertFolder (layout : SavedLayout) (row : SavedFolder)
    (absent : layout.folders.find? row.channelId = none) :
    Exists fun stored => layout.run (.insertFolder row) = some stored ∧
      stored.groups = layout.groups ∧ forall id, stored.folders.find? id =
        if id = row.channelId then some row else layout.folders.find? id := by
  rcases OrderedMap.find?_insertNew? absent with ⟨folders, inserted, finds⟩
  refine ⟨{ layout with folders := folders }, ?_, rfl, finds⟩
  show (layout.folders.insertNew? row).map _ = _
  rw [inserted]
  rfl

theorem rowOf_eq_some_iff {rows : List SavedFolder} (distinct : (rows.map SavedFolder.channelId).Nodup) {id : Int}
    {row : SavedFolder} : rowOf rows id = some row ↔ row ∈ rows ∧ row.channelId = id := by
  constructor
  · exact fun found => ⟨List.mem_of_find?_eq_some found, of_decide_eq_true (List.find?_some found :)⟩
  · rintro ⟨member, rfl⟩
    cases found : rowOf rows row.channelId with
    | none => exact absurd (decide_eq_true rfl) (List.find?_eq_none.mp found row member)
    | some other =>
      have same : other.channelId = row.channelId := of_decide_eq_true (List.find?_some found :)
      rw [List.inj_on_of_nodup_map distinct (List.mem_of_find?_eq_some found) member same]

/-- The statements of the listed folders leave each of them its row, and the others theirs. -/
theorem runAll_merged {layout : SavedLayout} (highest : Int) (distinct : (folders.map FolderMetadata.id).Nodup)
    (agrees : forall folder, folder ∈ folders -> layout.folders.find? folder.id = known.find? folder.id) :
    Exists fun next => layout.runAll ((mergeFolders known highest folders).map Prod.snd) = some next ∧
      next.groups = layout.groups ∧ forall id, next.folders.find? id =
        (rowOf (mergedRows known highest folders) id).or (layout.folders.find? id) := by
  induction folders generalizing highest layout with
  | nil => exact ⟨layout, rfl, rfl, fun _ => rfl⟩
  | cons folder folders ih =>
    rw [List.map_cons, List.nodup_cons] at distinct
    have here := agrees folder List.mem_cons_self
    -- once the row of the first folder is stored, the others are as before
    have stores : forall (highest : Int) (stored : SavedLayout) (row : SavedFolder), row.channelId = folder.id ->
        stored.groups = layout.groups ->
        (forall id, stored.folders.find? id = if id = folder.id then some row else layout.folders.find? id) ->
        Exists fun next => stored.runAll ((mergeFolders known highest folders).map Prod.snd) = some next ∧
          next.groups = layout.groups ∧ forall id, next.folders.find? id =
            (rowOf (row :: mergedRows known highest folders) id).or (layout.folders.find? id) := by
      intro highest stored row channel groups finds
      have others : forall other, other ∈ folders -> stored.folders.find? other.id = known.find? other.id := by
        intro other member
        have apart : other.id ≠ folder.id := fun same => distinct.1 (List.mem_map.mpr ⟨other, member, same⟩)
        rw [finds, if_neg apart]
        exact agrees other (List.mem_cons_of_mem folder member)
      rcases ih highest distinct.2 others with ⟨next, ran, kept, after⟩
      refine ⟨next, ran, kept.trans groups, fun id => ?_⟩
      rw [after, finds]
      unfold rowOf
      by_cases same : id = folder.id
      · have elsewhere : rowOf (mergedRows known highest folders) folder.id = none := by
          apply rowOf_eq_none
          rw [mergedRows_ids]
          exact distinct.1
        rw [List.find?_cons_of_pos (by simpa using channel.trans same.symm), if_pos same, same]
        unfold rowOf at elsewhere
        rw [elsewhere]
        rfl
      · rw [List.find?_cons_of_neg (by simpa using fun other => same (other.symm.trans channel)), if_neg same]
    unfold mergeFolders mergedRows
    cases found : known.find? folder.id with
    | some row =>
      rcases find?_setFolderDetails layout (here.trans found) with ⟨stored, ran, groups, finds⟩
      dsimp only
      rw [List.map_cons, SavedLayout.runAll_cons, ran, Option.bind_some]
      exact stores highest stored _ (OrderedMap.find?_some found).2 groups finds
    | none =>
      let row : SavedFolder :=
        ⟨folder.id, folder.name, folder.username, folder.isPublic, asI32 (highest + 1), none⟩
      rcases find?_insertFolder layout row (here.trans found) with ⟨stored, ran, groups, finds⟩
      dsimp only
      rw [List.map_cons, SavedLayout.runAll_cons, ran, Option.bind_some]
      exact stores _ stored row rfl groups finds

theorem runAll_deleted (layout : SavedLayout) (gone : List Int) :
    Exists fun next => layout.runAll (gone.map .deleteFolder) = some next ∧ next.groups = layout.groups ∧
      forall id, next.folders.find? id = if id ∈ gone then none else layout.folders.find? id := by
  induction gone generalizing layout with
  | nil => exact ⟨layout, rfl, rfl, fun _ => rfl⟩
  | cons first gone ih =>
    rcases ih { layout with folders := layout.folders.erase first } with ⟨next, ran, groups, finds⟩
    refine ⟨next, ran, groups, fun id => ?_⟩
    rw [finds, OrderedMap.find?_erase]
    by_cases same : id = first
    · rw [if_pos same, if_pos (List.mem_cons.mpr (Or.inl same)), ite_self]
    · rw [if_neg same]
      simp only [List.mem_cons, same, false_or]

/-! ## The tables after a scan -/

theorem scan_rows {layout : SavedLayout} {visited : List Int} (listed : Listed folders)
    (visits : visited.Perm layout.folders.keys) :
    Exists fun next => scan layout folders visited =
        some (next, scannedFolders layout.groups ((rowsOf layout.folders folders).map SavedFolder.shown)) ∧
      next.groups = layout.groups ∧ next.folders.items.Perm (rowsOf layout.folders folders) := by
  rcases runAll_merged (highestOrder layout.folders) listed.distinct (fun _ _ => rfl) with
    ⟨merged, stored, mergedGroups, mergedFinds⟩
  rcases runAll_deleted merged (visited.filter fun id => !(folders.map FolderMetadata.id).contains id) with
    ⟨next, deleted, groups, finds⟩
  refine ⟨next, ?_, groups.trans mergedGroups, ?_⟩
  · unfold scan scanStatements
    dsimp only
    unfold highestOrder at stored
    rw [SavedLayout.runAll_append, stored, Option.bind_some, deleted, mergeFolders_shown _ _ listed.unnested]
    rfl
  · have ids := rowsOf_ids layout.folders folders
    have distinct : ((rowsOf layout.folders folders).map SavedFolder.channelId).Nodup := by
      rw [ids]
      exact listed.distinct
    have same : forall id, next.folders.find? id = rowOf (rowsOf layout.folders folders) id := by
      intro id
      rw [finds, show merged.folders.find? id = (rowOf (rowsOf layout.folders folders) id).or _ from mergedFinds id]
      by_cases member : id ∈ folders.map FolderMetadata.id
      · rcases List.mem_map.mp (ids ▸ member) with ⟨row, within, channel⟩
        have stays : id ∉ visited.filter fun id => !(folders.map FolderMetadata.id).contains id := by
          intro filtered
          have unlisted := (List.mem_filter.mp filtered).2
          rw [List.contains_iff_mem.mpr member] at unlisted
          exact absurd unlisted Bool.false_ne_true
        rw [(rowOf_eq_some_iff distinct).mpr ⟨within, channel⟩, if_neg stays]
        rfl
      · rw [rowOf_eq_none (fun within => member (ids ▸ within)), Option.none_or]
        split
        · rfl
        next left =>
          rw [OrderedMap.find?_eq_none_iff]
          intro present
          refine left (List.mem_filter.mpr ⟨visits.mem_iff.mpr present, ?_⟩)
          simpa using member
    rw [List.perm_ext_iff_of_nodup next.folders.items_nodup (rowsOf_nodup listed)]
    intro row
    constructor
    · intro member
      have found := OrderedMap.find?_of_mem member
      rw [same] at found
      exact ((rowOf_eq_some_iff distinct).mp found).1
    · intro member
      have found := (rowOf_eq_some_iff distinct).mpr ⟨member, rfl⟩
      rw [← same] at found
      exact (OrderedMap.find?_some found).1

end FolderLayout
end TelegramDrive
