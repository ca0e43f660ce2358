import TelegramDrive.FolderLayout.FolderOrders

namespace TelegramDrive
namespace FolderLayout

open StableSort

/-!
# The list of a scan and the list of the query

A scan returns the listed folders in its own order and leaves their rows in the table.
The query that follows returns the same list when three things are so: there is room for
the places of new folders, the two orders agree on the folders that were known, and no
known folder in a group is placed as if it had none while new folders arrive.
-/

/-- The listed folders that the table does not have. -/
def newcomers (known : FolderRows) (folders : List FolderMetadata) : List FolderMetadata :=
  folders.filter fun folder => (known.find? folder.id).isNone

/-- The rows of the listed folders that the table has. -/
def keptRows (known : FolderRows) (folders : List FolderMetadata) : List SavedFolder :=
  folders.filterMap fun folder => known.find? folder.id

/-! ## What the answer of a scan should be -/

/-- What a scan makes of a listed folder. -/
structure Placed (layout : SavedLayout) (folder shown : FolderMetadata) : Prop where
  same : shown = { folder with
    groupId := shown.groupId
    displayOrder := shown.displayOrder }
  kept : forall row, layout.folders.find? folder.id = some row ->
    shown.groupId = row.groupId.map asI32 ∧ shown.displayOrder = asI32 row.displayOrder
  added : layout.folders.find? folder.id = none -> shown.groupId = none ∧ forall row,
    row ∈ layout.folders.items -> row.displayOrder < shown.displayOrder ∧ asI32 row.displayOrder < shown.displayOrder

/-- The list is the listed folders in their places, and so is what the table gives next. -/
structure Fresh (layout : SavedLayout) (folders : List FolderMetadata) (next : SavedLayout)
    (answer : List FolderMetadata) : Prop where
  placed : Exists fun shown : List FolderMetadata => answer.Perm shown ∧
    List.Forall₂ (Placed layout) folders shown ∧
      shown.Pairwise fun earlier later =>
        layout.folders.find? later.id = none -> earlier.displayOrder < later.displayOrder
  channels : forall id, id ∈ next.folders.keys ↔ id ∈ folders.map FolderMetadata.id
  stored : forall row, row ∈ next.folders.items -> row.shown ∈ answer ∧
    forall old, layout.folders.find? row.channelId = some old ->
      row.groupId = old.groupId ∧ row.displayOrder = old.displayOrder
  enriched : forall other, IsEnriched next other -> other = answer

/-! ## When it is -/

/-- One order puts first, strictly, the row that the other does. -/
def SameWay (groups : GroupRows) (one two : SavedFolder) : Prop :=
  if ScannedFirst groups one two then ¬ EnrichedFirst groups two one else ¬ EnrichedFirst groups one two

instance sameWayDecidable (groups : GroupRows) : DecidableRel (SameWay groups) :=
  fun one two => inferInstanceAs
    (Decidable (if ScannedFirst groups one two then ¬ EnrichedFirst groups two one else ¬ EnrichedFirst groups one two))

structure Agrees (layout : SavedLayout) (folders : List FolderMetadata) : Prop where
  /-- There are orders left for the new folders, and none that is stored exceeds an `i32`. -/
  room : newcomers layout.folders folders ≠ [] ->
    highestOrder layout.folders + (newcomers layout.folders folders).length < 2 ^ 31 ∧
      forall row, row ∈ layout.folders.items -> row.displayOrder < 2 ^ 31
  /-- The orders agree on the folders that are known. -/
  known : (keptRows layout.folders folders).Pairwise (SameWay layout.groups)
  /-- No known folder in a group shares the position of the folders without one. -/
  apart : newcomers layout.folders folders ≠ [] -> forall row, row ∈ keptRows layout.folders folders ->
    row.groupId ≠ none -> scannedPosition layout.groups row.shown < 2 ^ 31 - 1

variable {known : FolderRows} {groups : GroupRows} {folders : List FolderMetadata}

/-! ## Places -/

theorem le_maxOrder {orders : List Int} {order : Int} (member : order ∈ orders) : order ≤ maxOrder orders := by
  have largest : maxOrder orders = orders.max?.getD 0 := by cases orders <;> rfl
  rw [largest]
  cases found : orders.max? with
  | none => exact absurd (List.max?_eq_none_iff.mp found ▸ member) List.not_mem_nil
  | some highest => exact (List.max?_eq_some_iff.mp found).2 order member

theorem maxOrder_mem {orders : List Int} (filled : orders ≠ []) : maxOrder orders ∈ orders := by
  have largest : maxOrder orders = orders.max?.getD 0 := by cases orders <;> rfl
  rw [largest]
  cases found : orders.max? with
  | none => exact absurd (List.max?_eq_none_iff.mp found) filled
  | some highest => exact (List.max?_eq_some_iff.mp found).1

theorem highestOrder_bounds (known : FolderRows) :
    -(2 ^ 31) ≤ highestOrder known ∧ highestOrder known < 2 ^ 31 := by
  unfold highestOrder
  by_cases filled : (known.items.map fun row => asI32 row.displayOrder) = []
  · rw [filled]
    decide
  · rcases List.mem_map.mp (maxOrder_mem filled) with ⟨row, -, same⟩
    rw [← same]
    exact asI32_bounds row.displayOrder

variable {row old : SavedFolder}

theorem le_highestOrder (member : row ∈ known.items) :
    asI32 row.displayOrder ≤ highestOrder known :=
  le_maxOrder (List.mem_map_of_mem member)

/-- An order that fits is not above the largest one that is read. -/
theorem le_highestOrder_of_lt (member : row ∈ known.items) (fits : row.displayOrder < 2 ^ 31) :
    row.displayOrder ≤ highestOrder known := by
  have read := le_highestOrder member
  by_cases lower : -(2 ^ 31) ≤ row.displayOrder
  · rwa [asI32_of_bounds lower fits] at read
  · have bounds := asI32_bounds row.displayOrder
    omega

/-! ## The rows of the listed folders -/

/-- A row that a scan stores for a listed folder. -/
structure Stores (known : FolderRows) (folder : FolderMetadata) (row : SavedFolder) : Prop where
  kept : forall old, known.find? folder.id = some old -> row = old.refreshed folder
  added : known.find? folder.id = none -> asI32 row.displayOrder = row.displayOrder ∧
    row = ⟨folder.id, folder.name, folder.username, folder.isPublic, row.displayOrder, none⟩

theorem mergedRows_stores (known : FolderRows) (highest : Int) (folders : List FolderMetadata) :
    List.Forall₂ (Stores known) folders (mergedRows known highest folders) := by
  induction folders generalizing highest with
  | nil => exact .nil
  | cons folder folders ih =>
    unfold mergedRows
    cases found : known.find? folder.id with
    | some old =>
      refine .cons ⟨?_, ?_⟩ (ih highest)
      · intro other same
        cases found.symm.trans same
        rfl
      · exact fun absent => absurd (found.symm.trans absent) (Option.some_ne_none old)
    | none =>
      refine .cons ⟨?_, fun _ => ⟨asI32_asI32 _, rfl⟩⟩ (ih _)
      exact fun other present => absurd (found.symm.trans present).symm (Option.some_ne_none other)

/-- The rows of new folders come one above the other, and above what was there. -/
structure Rising (known : FolderRows) (highest : Int) (rows : List SavedFolder) : Prop where
  above : forall row, row ∈ rows -> known.find? row.channelId = none -> highest < row.displayOrder
  rising : rows.Pairwise fun earlier later => known.find? earlier.channelId = none ->
    known.find? later.channelId = none -> earlier.displayOrder < later.displayOrder

variable {folder : FolderMetadata}

theorem newcomers_cons_known
    (found : known.find? folder.id = some old) : newcomers known (folder :: folders) = newcomers known folders := by
  unfold newcomers
  rw [List.filter_cons, found]
  rfl

theorem newcomers_cons_new (found : known.find? folder.id = none) :
    newcomers known (folder :: folders) = folder :: newcomers known folders := by
  unfold newcomers
  rw [List.filter_cons, found]
  rfl

/-- The orders rise when and only when there is room for all of them. -/
theorem rising_iff {highest : Int} (lower : -(2 ^ 31) ≤ highest) (upper : highest < 2 ^ 31) :
    Rising known highest (mergedRows known highest folders) ↔
      highest + (newcomers known folders).length < 2 ^ 31 := by
  induction folders generalizing highest with
  | nil => exact ⟨fun _ => by simpa [newcomers] using upper, fun _ => ⟨by simp [mergedRows], .nil⟩⟩
  | cons folder folders ih =>
    unfold mergedRows
    cases found : known.find? folder.id with
    | some old =>
      have present : known.find? (old.refreshed folder).channelId ≠ none := by
        rw [show (old.refreshed folder).channelId = folder.id from (OrderedMap.find?_some found).2, found]
        exact Option.some_ne_none old
      dsimp only
      rw [newcomers_cons_known found, ← ih lower upper]
      constructor
      · intro rises
        exact ⟨fun row member => rises.above row (List.mem_cons_of_mem _ member),
          (List.pairwise_cons.mp rises.rising).2⟩
      · intro rises
        refine ⟨fun row member absent => ?_, List.pairwise_cons.mpr ⟨?_, rises.rising⟩⟩
        · rcases List.mem_cons.mp member with rfl | later
          · exact absurd absent present
          · exact rises.above row later absent
        · exact fun _ _ absent => absurd absent present
    | none =>
      dsimp only
      rw [newcomers_cons_new found, List.length_cons]
      by_cases fits : highest + 1 < 2 ^ 31
      · have order : asI32 (highest + 1) = highest + 1 := asI32_of_bounds (by omega) fits
        rw [order]
        have tail := @ih (highest + 1) (by omega) fits
        constructor
        · intro rises
          have rest := tail.mp ⟨fun row member absent =>
            (List.pairwise_cons.mp rises.rising).1 row member found absent,
            (List.pairwise_cons.mp rises.rising).2⟩
          omega
        · intro room
          have rest := tail.mpr (by omega)
          refine ⟨fun row member absent => ?_, List.pairwise_cons.mpr ⟨?_, rest.rising⟩⟩
          · rcases List.mem_cons.mp member with rfl | later
            · exact Int.lt_succ highest
            · exact Int.lt_trans (Int.lt_succ highest) (rest.above row later absent)
          · exact fun row member _ absent => rest.above row member absent
      · have wraps : asI32 (highest + 1) = -(2 ^ 31) := by
          rw [show highest + 1 = 2 ^ 31 by omega]
          decide
        constructor
        · intro rises
          have above := rises.above _ List.mem_cons_self found
          dsimp only at above
          omega
        · omega

/-! ## Two orders on two rows -/

section Pairs

variable {one two : SavedFolder}

/-- The row of a new folder, with an order that reads as it is stored. -/
structure Newcomer (row : SavedFolder) : Prop where
  ungrouped : row.groupId = none
  reads : asI32 row.displayOrder = row.displayOrder

theorem scannedPosition_ungrouped (ungrouped : one.groupId = none) :
    scannedPosition groups one.shown = 2 ^ 31 - 1 := by
  unfold scannedPosition SavedFolder.shown
  rw [ungrouped]
  rfl

theorem scannedPosition_le (groups : GroupRows) (folder : FolderMetadata) :
    scannedPosition groups folder ≤ 2 ^ 31 - 1 := by
  unfold scannedPosition
  cases folder.groupId.bind fun id => (groups.items.filter fun group => asI32 group.id == id).getLast? with
  | none => exact Int.le_refl _
  | some group =>
    have bounds := asI32_bounds group.displayOrder
    simp only [Option.map_some, Option.getD_some]
    omega

/-- Of two rows without a group, the lower one comes first in both orders. -/
theorem ungrouped_in_order (first : one.groupId = none) (second : two.groupId = none)
    (reads : asI32 one.displayOrder < asI32 two.displayOrder) (stored : one.displayOrder < two.displayOrder) :
    (ScannedFirst groups one two ∧ ¬ ScannedFirst groups two one) ∧ ¬ EnrichedFirst groups two one := by
  unfold ScannedFirst EnrichedFirst
  rw [scannedBefore_eq, scannedBefore_eq, enrichedBefore_eq, scannedPosition_ungrouped first,
    scannedPosition_ungrouped second]
  simp only [SavedFolder.shown, storedPosition, first, second, Option.map_none, Option.bind_none, ne_eq,
    not_true_eq_false, if_false, decide_eq_true_eq, not_le]
  exact ⟨⟨Int.le_of_lt reads, reads⟩, stored⟩

theorem sameWay_ungrouped (first : one.groupId = none) (second : two.groupId = none)
    (reads : asI32 one.displayOrder < asI32 two.displayOrder) (stored : one.displayOrder < two.displayOrder) :
    SameWay groups one two ∧ SameWay groups two one := by
  rcases ungrouped_in_order first second reads stored with ⟨⟨before, after⟩, query⟩
  unfold SameWay
  rw [if_pos before, if_neg after]
  exact ⟨query, query⟩

/-- The query puts a row with a group first, a scan only when the position of the group is
below that of the rows without one. -/
theorem sameWay_grouped (first : one.groupId ≠ none) (second : two.groupId = none) :
    (SameWay groups one two ↔ scannedPosition groups one.shown < 2 ^ 31 - 1) ∧
      (SameWay groups two one ↔ scannedPosition groups one.shown < 2 ^ 31 - 1) := by
  rcases Option.ne_none_iff_exists'.mp first with ⟨id, group⟩
  have query : EnrichedFirst groups one two ∧ ¬ EnrichedFirst groups two one := by
    unfold EnrichedFirst
    rw [enrichedBefore_eq, enrichedBefore_eq, group, second]
    exact ⟨rfl, Bool.false_ne_true⟩
  unfold SameWay
  by_cases below : scannedPosition groups one.shown < 2 ^ 31 - 1
  · have scanned : ScannedFirst groups one two ∧ ¬ ScannedFirst groups two one := by
      have apart : scannedPosition groups one.shown ≠ 2 ^ 31 - 1 := Int.ne_of_lt below
      unfold ScannedFirst
      rw [scannedBefore_eq, scannedBefore_eq, scannedPosition_ungrouped second, if_pos apart, if_pos apart.symm]
      exact ⟨decide_eq_true below, fun after => Int.lt_asymm below (of_decide_eq_true after)⟩
    rw [if_pos scanned.1, if_neg scanned.2]
    exact ⟨iff_of_true query.2 below, iff_of_true query.2 below⟩
  · have same : scannedPosition groups one.shown = 2 ^ 31 - 1 :=
      Int.le_antisymm (scannedPosition_le groups one.shown) (Int.not_lt.mp below)
    have scanned : ¬ ScannedFirst groups one two ∧ ScannedFirst groups two one := by
      unfold ScannedFirst
      rw [scannedBefore_eq, scannedBefore_eq, scannedPosition_ungrouped second, same]
      simp [SavedFolder.shown, group, second, optionBefore]
    rw [if_neg scanned.1, if_pos scanned.2]
    exact ⟨iff_of_false (not_not.mpr query.1) below, iff_of_false (not_not.mpr query.1) below⟩

/-- A known row and that of a new folder above it. -/
theorem sameWay_newcomer (newcomer : Newcomer two) (reads : asI32 one.displayOrder < two.displayOrder)
    (stored : one.displayOrder < two.displayOrder) :
    (SameWay groups one two ↔ (one.groupId ≠ none -> scannedPosition groups one.shown < 2 ^ 31 - 1)) ∧
      (SameWay groups two one ↔ (one.groupId ≠ none -> scannedPosition groups one.shown < 2 ^ 31 - 1)) := by
  by_cases grouped : one.groupId = none
  · rw [← newcomer.reads] at reads
    rcases sameWay_ungrouped grouped newcomer.ungrouped reads stored with ⟨before, after⟩
    exact ⟨iff_of_true before fun other => absurd grouped other, iff_of_true after fun other => absurd grouped other⟩
  · rcases @sameWay_grouped groups one two grouped newcomer.ungrouped with ⟨before, after⟩
    exact ⟨before.trans ⟨fun below _ => below, fun below => below grouped⟩,
      after.trans ⟨fun below _ => below, fun below => below grouped⟩⟩

end Pairs

/-! ## Two orders on the rows of a scan -/

theorem keptRows_cons_known (found : known.find? folder.id = some old) :
    keptRows known (folder :: folders) = old :: keptRows known folders := by
  unfold keptRows
  rw [List.filterMap_cons, found]

theorem keptRows_cons_new (found : known.find? folder.id = none) :
    keptRows known (folder :: folders) = keptRows known folders := by
  unfold keptRows
  rw [List.filterMap_cons, found]

theorem mem_keptRows (member : old ∈ keptRows known folders) : old ∈ known.items := by
  rcases List.mem_filterMap.mp member with ⟨folder, -, found⟩
  exact (OrderedMap.find?_some found).1

/-- What holds for the rows of a scan, when it does not ask for more than their places. -/
theorem forall_mergedRows_iff (holds : SavedFolder -> Prop) (apart : Prop) {highest : Int}
    (lower : -(2 ^ 31) ≤ highest) (room : highest + (newcomers known folders).length < 2 ^ 31)
    (refreshed : forall old folder, holds (SavedFolder.refreshed old folder) ↔ holds old)
    (added : newcomers known folders ≠ [] -> forall row, Newcomer row -> highest < row.displayOrder ->
      (holds row ↔ apart)) :
    (forall row, row ∈ mergedRows known highest folders -> holds row) ↔
      (forall old, old ∈ keptRows known folders -> holds old) ∧ (newcomers known folders ≠ [] -> apart) := by
  induction folders generalizing highest with
  | nil => simp [mergedRows, keptRows, newcomers]
  | cons folder folders ih =>
    unfold mergedRows
    cases found : known.find? folder.id with
    | some old =>
      rw [newcomers_cons_known found] at room added ⊢
      rw [keptRows_cons_known found]
      dsimp only
      rw [List.forall_mem_cons, List.forall_mem_cons, ih lower room added, refreshed, and_assoc]
    | none =>
      rw [newcomers_cons_new found, List.length_cons] at room
      rw [newcomers_cons_new found, keptRows_cons_new found]
      have order : asI32 (highest + 1) = highest + 1 := asI32_of_bounds (by omega) (by omega)
      have first := added (newcomers_cons_new found ▸ List.cons_ne_nil _ _) ⟨folder.id, folder.name, folder.username, folder.isPublic, asI32 (highest + 1), none⟩
        ⟨rfl, asI32_asI32 _⟩ (by dsimp only; omega)
      dsimp only
      rw [List.forall_mem_cons, first, order,
        ih (by omega) (by omega) fun _ row newcomer above =>
          added (newcomers_cons_new found ▸ List.cons_ne_nil _ _) row newcomer (by omega)]
      constructor
      · exact fun both => ⟨both.2.1, fun _ => both.1⟩
      · exact fun both => ⟨both.2 (List.cons_ne_nil _ _), both.1, fun _ => both.2 (List.cons_ne_nil _ _)⟩

/-- A known folder in a group is not placed as if it had none. -/
def Apart (groups : GroupRows) (row : SavedFolder) : Prop :=
  row.groupId ≠ none -> scannedPosition groups row.shown < 2 ^ 31 - 1

/-- The two orders agree on the rows of a scan when they do on the known ones, and when no
known folder is in the way of a new one. -/
theorem pairwise_mergedRows_iff {highest : Int} (lower : -(2 ^ 31) ≤ highest)
    (room : highest + (newcomers known folders).length < 2 ^ 31)
    (below : newcomers known folders ≠ [] -> forall old, old ∈ known.items ->
      asI32 old.displayOrder ≤ highest ∧ old.displayOrder ≤ highest) :
    (mergedRows known highest folders).Pairwise (SameWay groups) ↔
      (keptRows known folders).Pairwise (SameWay groups) ∧
        (newcomers known folders ≠ [] -> forall old, old ∈ keptRows known folders -> Apart groups old) := by
  induction folders generalizing highest with
  | nil => simp [mergedRows, keptRows, newcomers]
  | cons folder folders ih =>
    unfold mergedRows
    cases found : known.find? folder.id with
    | some old =>
      rw [newcomers_cons_known found] at room below ⊢
      rw [keptRows_cons_known found]
      have others := forall_mergedRows_iff (SameWay groups old) (Apart groups old) lower room
        (fun _ _ => Iff.rfl) (by
          intro filled row newcomer above
          have under := below filled old (OrderedMap.find?_some found).1
          exact (sameWay_newcomer newcomer (by omega) (by omega)).1)
      dsimp only
      rw [List.pairwise_cons, List.pairwise_cons, List.forall_mem_cons, ih lower room below]
      rw [show (forall row, row ∈ mergedRows known highest folders -> SameWay groups (old.refreshed folder) row) ↔
        _ from others]
      tauto
    | none =>
      rw [newcomers_cons_new found, List.length_cons] at room
      rw [newcomers_cons_new found, keptRows_cons_new found]
      have order : asI32 (highest + 1) = highest + 1 := asI32_of_bounds (by omega) (by omega)
      have higher : forall old, old ∈ known.items ->
          asI32 old.displayOrder ≤ highest + 1 ∧ old.displayOrder ≤ highest + 1 := by
        intro old member
        have under := below (newcomers_cons_new found ▸ List.cons_ne_nil _ _) old member
        omega
      let row : SavedFolder := ⟨folder.id, folder.name, folder.username, folder.isPublic, highest + 1, none⟩
      have newcomer : Newcomer row := ⟨rfl, order⟩
      have settled : forall old, old ∈ keptRows known folders -> (SameWay groups row old ↔ Apart groups old) := by
        intro old member
        have under := below (newcomers_cons_new found ▸ List.cons_ne_nil _ _) old (mem_keptRows member)
        exact (sameWay_newcomer newcomer (by dsimp only [row]; omega) (by dsimp only [row]; omega)).2
      have roomy : highest + 1 + (newcomers known folders).length < 2 ^ 31 := by omega
      have others := forall_mergedRows_iff (SameWay groups row) True
        (show -(2 ^ 31) ≤ highest + 1 by omega) roomy (fun _ _ => Iff.rfl)
        fun _ later other above => iff_of_true (sameWay_ungrouped rfl other.ungrouped
          (by rw [newcomer.reads, other.reads]; exact above) above).1 trivial
      dsimp only
      rw [order, List.pairwise_cons, ih (by omega) roomy (fun _ => higher), others]
      constructor
      · rintro ⟨⟨first, -⟩, rest, -⟩
        exact ⟨rest, fun _ old member => (settled old member).mp (first old member)⟩
      · rintro ⟨rest, apart⟩
        have free := apart (List.cons_ne_nil _ _)
        exact ⟨⟨fun old member => (settled old member).mpr (free old member), fun _ => trivial⟩, rest, fun _ => free⟩


/-! ## The answer of a scan -/

variable {layout : SavedLayout}

theorem room_of_agrees (agrees : Agrees layout folders) :
    highestOrder layout.folders + (newcomers layout.folders folders).length < 2 ^ 31 := by
  by_cases nobody : newcomers layout.folders folders = []
  · have bounds := highestOrder_bounds layout.folders
    rw [nobody]
    simpa using bounds.2
  · exact (agrees.room nobody).1

theorem mem_newcomers (member : folder ∈ folders) (absent : known.find? folder.id = none) :
    newcomers known folders ≠ [] :=
  List.ne_nil_of_mem (List.mem_filter.mpr ⟨member, by rw [absent]; rfl⟩)

theorem Stores.channel (stores : Stores known folder row) :
    row.channelId = folder.id := by
  cases found : known.find? folder.id with
  | some old =>
    rw [stores.kept old found]
    exact (OrderedMap.find?_some found).2
  | none =>
    rw [(stores.added found).2]

theorem exists_left {Left Right : Type} {relates : Left -> Right -> Prop} {left : List Left} {right : List Right}
    (paired : List.Forall₂ relates left right) {two : Right} (member : two ∈ right) :
    Exists fun one => one ∈ left ∧ relates one two := by
  induction paired with
  | nil => exact absurd member List.not_mem_nil
  | cons related _ ih =>
    rcases List.mem_cons.mp member with rfl | later
    · exact ⟨_, List.mem_cons_self, related⟩
    · rcases ih later with ⟨one, within, found⟩
      exact ⟨one, List.mem_cons_of_mem _ within, found⟩

theorem mem_stores (member : row ∈ rowsOf known folders) :
    Exists fun folder => folder ∈ folders ∧ Stores known folder row :=
  exists_left (mergedRows_stores known (highestOrder known) folders) member

/-- The order that a new folder is shown with is the one that is stored. -/
theorem reads_newcomer (member : row ∈ rowsOf known folders)
    (absent : known.find? row.channelId = none) : row.shown.displayOrder = row.displayOrder := by
  rcases mem_stores member with ⟨folder, -, stores⟩
  rw [stores.channel] at absent
  exact (stores.added absent).1

/-- The rows show the listed folders in their places, when there is room. -/
theorem placed_of_rising (listed : Listed folders)
    (rises : Rising layout.folders (highestOrder layout.folders) (rowsOf layout.folders folders))
    (fits : newcomers layout.folders folders ≠ [] -> forall row, row ∈ layout.folders.items ->
      row.displayOrder < 2 ^ 31) :
    List.Forall₂ (Placed layout) folders ((rowsOf layout.folders folders).map SavedFolder.shown) := by
  have paired := List.forall₂_iff_zip.mp (mergedRows_stores layout.folders (highestOrder layout.folders) folders)
  rw [List.forall₂_map_right_iff, List.forall₂_iff_zip]
  refine ⟨paired.1, fun {folder row} together => ?_⟩
  have stores := paired.2 together
  have alone := listed.unnested folder (List.of_mem_zip together).1
  refine ⟨?_, ?_, ?_⟩
  · cases found : layout.folders.find? folder.id with
    | some old =>
      rw [stores.kept old found]
      simp only [SavedFolder.shown, SavedFolder.refreshed, (OrderedMap.find?_some found).2, alone]
    | none =>
      rw [(stores.added found).2]
      simp only [SavedFolder.shown, alone]
  · intro old found
    rw [stores.kept old found]
    exact ⟨rfl, rfl⟩
  · intro absent
    rcases stores.added absent with ⟨reads, entry⟩
    refine ⟨by rw [entry]; rfl, fun old member => ?_⟩
    have above := rises.above row (List.of_mem_zip together).2 (by rw [stores.channel, absent])
    have read := le_highestOrder member
    have stored := le_highestOrder_of_lt member
      (fits (mem_newcomers (List.of_mem_zip together).1 absent) old member)
    show old.displayOrder < asI32 row.displayOrder ∧ asI32 old.displayOrder < asI32 row.displayOrder
    omega

theorem shown_of_placed (listed : Listed folders) {shown : List FolderMetadata}
    (same : shown.Perm ((rowsOf layout.folders folders).map SavedFolder.shown))
    (placed : List.Forall₂ (Placed layout) folders shown) :
    shown = (rowsOf layout.folders folders).map SavedFolder.shown := by
  have ids : shown.map FolderMetadata.id = folders.map FolderMetadata.id := by
    clear same listed
    induction placed with
    | nil => rfl
    | cons place _ ih =>
      rw [List.map_cons, List.map_cons, ih, place.same]
  apply StableSort.eq_of_keys FolderMetadata.id
  · rw [ids]
    exact listed.distinct
  · exact same
  · rw [ids, List.map_map, ← rowsOf_ids layout.folders folders]
    rfl

theorem rising_of_placed
    (placed : List.Forall₂ (Placed layout) folders ((rowsOf layout.folders folders).map SavedFolder.shown))
    (rises : ((rowsOf layout.folders folders).map SavedFolder.shown).Pairwise fun earlier later =>
      layout.folders.find? later.id = none -> earlier.displayOrder < later.displayOrder) :
    Rising layout.folders (highestOrder layout.folders) (rowsOf layout.folders folders) := by
  have ordered := List.pairwise_map.mp rises
  refine ⟨fun row member absent => ?_, ?_⟩
  · by_cases filled : (layout.folders.items.map fun row => asI32 row.displayOrder) = []
    · -- in an empty table the first place is one
      have start : highestOrder layout.folders = 0 := by
        unfold highestOrder
        rw [filled]
        rfl
      have reads := reads_newcomer member absent
      unfold rowsOf at member ordered
      rw [start] at member ordered ⊢
      clear placed rises
      cases folders with
      | nil => exact absurd member List.not_mem_nil
      | cons first rest =>
        have empty : layout.folders.find? first.id = none := by
          rw [OrderedMap.find?_eq_none_iff]
          unfold OrderedMap.keys
          rw [List.map_eq_nil_iff.mp filled]
          exact List.not_mem_nil
        unfold mergedRows at member ordered
        rw [empty] at member ordered
        dsimp only at member ordered
        rcases List.mem_cons.mp member with rfl | later
        · exact (show (0 : Int) < asI32 (0 + 1) by decide)
        · have above := (List.pairwise_cons.mp ordered).1 row later absent
          rw [reads] at above
          exact Int.lt_trans (show 0 < asI32 (asI32 (0 + 1)) by decide) above
    · rcases List.mem_map.mp (maxOrder_mem filled) with ⟨old, within, same⟩
      rcases exists_left placed (List.mem_map_of_mem member) with ⟨folder, -, place⟩
      have channel : row.channelId = folder.id := congrArg FolderMetadata.id place.same
      have above := (place.added (channel ▸ absent)).2 old within
      rw [reads_newcomer member absent, same] at above
      exact above.2
  · refine ordered.imp_of_mem fun {earlier later} first second before new absent => ?_
    have below := before absent
    rwa [reads_newcomer first new, reads_newcomer second absent] at below

/-- The query has one answer when the two orders agree on the rows. -/
theorem enriched_iff {next : SavedLayout} (listed : Listed folders) (groups : next.groups = layout.groups)
    (rows : next.folders.items.Perm (rowsOf layout.folders folders)) :
    (forall other, IsEnriched next other ->
        other = scannedFolders layout.groups ((rowsOf layout.folders folders).map SavedFolder.shown)) ↔
      (rowsOf layout.folders folders).Pairwise (SameWay layout.groups) := by
  have distinct : ((rowsOf layout.folders folders).map SavedFolder.channelId).Nodup := by
    rw [rowsOf_ids]
    exact listed.distinct
  unfold SameWay
  rw [← sorted_is_sole_iff (EnrichedFirst layout.groups) (ScannedFirst layout.groups) (rowsOf_nodup listed),
    scannedFolders_rows]
  constructor
  · intro sole answer same ordered
    have shown := sole (answer.map SavedFolder.shown)
      ⟨answer, same.trans rows.symm, by rw [groups]; exact ordered, rfl⟩
    apply StableSort.eq_of_keys SavedFolder.channelId
    · exact (same.map _).nodup_iff.mpr distinct
    · exact same.trans (List.perm_insertionSort _ _).symm
    · have ids := congrArg (List.map FolderMetadata.id) shown
      rwa [List.map_map, List.map_map] at ids
  · rintro sole other ⟨answer, same, ordered, rfl⟩
    rw [groups] at ordered
    rw [sole answer (same.trans rows) ordered]

theorem fresh_answer_iff {next : SavedLayout} (listed : Listed folders)
    (groups : next.groups = layout.groups) (rows : next.folders.items.Perm (rowsOf layout.folders folders)) :
    Fresh layout folders next
        (scannedFolders layout.groups ((rowsOf layout.folders folders).map SavedFolder.shown)) ↔
      Agrees layout folders := by
  have sorted := List.perm_insertionSort (fun one two => scannedBefore layout.groups one two = true)
    ((rowsOf layout.folders folders).map SavedFolder.shown)
  have bounds := highestOrder_bounds layout.folders
  have below (fits : newcomers layout.folders folders ≠ [] -> forall row, row ∈ layout.folders.items ->
      row.displayOrder < 2 ^ 31) : newcomers layout.folders folders ≠ [] -> forall old, old ∈ layout.folders.items ->
        asI32 old.displayOrder ≤ highestOrder layout.folders ∧ old.displayOrder ≤ highestOrder layout.folders :=
    fun new old member => ⟨le_highestOrder member, le_highestOrder_of_lt member (fits new old member)⟩
  constructor
  · intro fresh
    rcases fresh.placed with ⟨shown, same, placed, rises⟩
    cases shown_of_placed listed (same.symm.trans sorted) placed
    have room := (rising_iff bounds.1 bounds.2).mp (rising_of_placed placed rises)
    have fits : newcomers layout.folders folders ≠ [] -> forall row, row ∈ layout.folders.items ->
        row.displayOrder < 2 ^ 31 := by
      intro new old member
      rcases List.exists_mem_of_ne_nil _ new with ⟨folder, arrived⟩
      rcases exists_left placed.flip (List.mem_filter.mp arrived).1 with ⟨_, within, place⟩
      rcases List.mem_map.mp within with ⟨row, -, rfl⟩
      have absent := Option.isNone_iff_eq_none.mp (List.mem_filter.mp arrived).2
      have above := ((place.added absent).2 old member).1
      have reads := asI32_bounds row.displayOrder
      exact Int.lt_trans above reads.2
    have pairs := (pairwise_mergedRows_iff bounds.1 room (below fits)).mp
      ((enriched_iff listed groups rows).mp fresh.enriched)
    exact ⟨fun new => ⟨room, fits new⟩, pairs.1, pairs.2⟩
  · intro agrees
    have room := room_of_agrees agrees
    have fits := fun new => (agrees.room new).2
    have rises : Rising layout.folders (highestOrder layout.folders) (rowsOf layout.folders folders) :=
      (rising_iff bounds.1 bounds.2).mpr room
    have pairs := (pairwise_mergedRows_iff bounds.1 room (below fits)).mpr ⟨agrees.known, agrees.apart⟩
    refine ⟨⟨_, sorted, placed_of_rising listed rises fits, ?_⟩, ?_, ?_, (enriched_iff listed groups rows).mpr pairs⟩
    · refine List.pairwise_map.mpr (rises.rising.imp_of_mem fun {earlier later} first second before absent => ?_)
      have reads := reads_newcomer second absent
      cases found : layout.folders.find? earlier.channelId with
      | none =>
        rw [reads, reads_newcomer first found]
        exact before found absent
      | some old =>
        rcases mem_stores first with ⟨folder, -, stores⟩
        have above := rises.above later second absent
        have read := le_highestOrder (OrderedMap.find?_some found).1
        rw [stores.kept old (stores.channel ▸ found), reads]
        exact Int.lt_of_le_of_lt read above
    · intro id
      unfold OrderedMap.keys
      rw [(rows.map SavedFolder.channelId).mem_iff, rowsOf_ids]
    · intro row member
      refine ⟨sorted.mem_iff.mpr (List.mem_map_of_mem (rows.mem_iff.mp member)), fun old found => ?_⟩
      rcases mem_stores (rows.mem_iff.mp member) with ⟨folder, -, stores⟩
      rw [stores.kept old (stores.channel ▸ found)]
      exact ⟨rfl, rfl⟩

/-- A scan that gets through returns the listed folders in their places, leaves them in the
table and returns what the query returns next when, and only when, there are places left
for the new folders and the orders agree. -/
theorem fresh_list_is_cached_list (layout : SavedLayout) (folders : List FolderMetadata) (visited : List Int)
    (listed : Listed folders) (visits : visited.Perm layout.folders.keys) :
    (forall next answer, scan layout folders visited = some (next, answer) -> Fresh layout folders next answer) ↔
      Agrees layout folders := by
  rcases scan_rows listed visits with ⟨next, scanned, groups, rows⟩
  rw [← fresh_answer_iff listed groups rows, scanned]
  constructor
  · exact fun fresh => fresh next _ rfl
  · rintro fresh next answer same
    cases same
    exact fresh

/-! ## Two folders in one group position -/

def listedChannel (id : Int) (name : String) : FolderMetadata := ⟨id, none, name, none, false, none, 0⟩

/-- A folder in a group, a folder without one, and a new folder. -/
def twoPlaces : SavedLayout where
  groups := OrderedMap.empty.insert ⟨1, "Work", some "#0088cc", 1⟩
  folders := (OrderedMap.empty.insert ⟨10, "Plans", none, false, 1, some 1⟩).insert ⟨20, "Notes", none, false, 2, none⟩

def threeListed : List FolderMetadata :=
  [listedChannel 30 "Photos", listedChannel 20 "Notes", listedChannel 10 "Plans"]

theorem fresh_list_is_cached_list_here : Exists fun next => Exists fun answer =>
    scan twoPlaces threeListed [10, 20] = some (next, answer) ∧
      answer.map FolderMetadata.id = [10, 20, 30] ∧ Fresh twoPlaces threeListed next answer := by
  have listed : Listed threeListed := ⟨by decide, by decide⟩
  have agrees : Agrees twoPlaces threeListed := ⟨fun _ => by decide, by decide, fun _ => by decide⟩
  let after := (scan twoPlaces threeListed [10, 20]).getD (.empty, [])
  have scanned : scan twoPlaces threeListed [10, 20] = some after := by decide +kernel
  exact ⟨after.1, after.2, scanned, by decide +kernel,
    (fresh_list_is_cached_list twoPlaces threeListed [10, 20] listed (by decide)).mpr agrees _ _ scanned⟩

/-- Execute what a command executes. -/
def Tables.edit (tables : Tables) (edit : Edit) : Option Tables :=
  (edit.statements tables).foldlM Tables.run tables

/-- Two folders and two groups, of which the second is moved to the position of the first. -/
def crossedEdits : List Edit :=
  [.createFolder (listedChannel 10 "Plans"), .createFolder (listedChannel 20 "Notes"),
    .createGroup "Home" "#0088cc", .createGroup "Work" "#cc8800", .updateGroupOrder 2 1,
    .assignFolderToGroup 10 (some 2), .assignFolderToGroup 20 (some 1)]

def crossedListed : List FolderMetadata := [listedChannel 10 "Plans", listedChannel 20 "Notes"]

/-- The scan goes by the ids of the groups, and the query by the orders of the folders. -/
theorem crossed_folders_change_places : Exists fun tables => Exists fun next => Exists fun answer =>
    crossedEdits.foldlM Tables.edit ⟨.empty, 0⟩ = some tables ∧
      scan tables.layout crossedListed [10, 20] = some (next, answer) ∧
        answer.map FolderMetadata.id = [20, 10] ∧ (enrichedFolders next).map FolderMetadata.id = [10, 20] ∧
          ¬ Fresh tables.layout crossedListed next answer := by
  let tables : Tables := ((crossedEdits.foldlM Tables.edit ⟨.empty, 0⟩).getD ⟨.empty, 0⟩)
  let after := (scan tables.layout crossedListed [10, 20]).getD (.empty, [])
  refine ⟨tables, after.1, after.2, by decide +kernel, by decide +kernel, by decide +kernel, by decide +kernel, ?_⟩
  intro fresh
  have same := fresh.enriched _ (enrichedFolders_isEnriched after.1)
  have ids := congrArg (List.map FolderMetadata.id) same
  exact absurd ids (by decide +kernel)

end FolderLayout
end TelegramDrive
