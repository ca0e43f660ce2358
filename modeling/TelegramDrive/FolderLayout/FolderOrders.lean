import TelegramDrive.FolderLayout.ScannedFolders
import TelegramDrive.Library.StableSort

namespace TelegramDrive
namespace FolderLayout

open StableSort

/-!
# The two orders of the folders

A scan sorts its folders in memory, by the positions and then the ids of their groups; the
query sorts the rows, those without a group last.  Both compare by one key after another.
-/

/-! ## The order of a scan -/

/-- Where a scan puts the group of a folder. -/
def scannedPosition (groups : GroupRows) (folder : FolderMetadata) : Int :=
  ((folder.groupId.bind fun id => (groups.items.filter fun group => asI32 group.id == id).getLast?).map
    fun group => asI32 group.displayOrder).getD (2 ^ 31 - 1)

/-- Absent before present, and present ones in their order. -/
def OptionBefore (one two : Option Int) : Prop :=
  optionBefore (fun left right => decide (left ≤ right)) one two = true

instance optionBeforeTotal : Std.Total OptionBefore := by
  constructor
  intro one two
  cases one with
  | none => exact Or.inl rfl
  | some one =>
    cases two with
    | none => exact Or.inr rfl
    | some two =>
      rcases Int.le_total one two with before | after
      · exact Or.inl (decide_eq_true before)
      · exact Or.inr (decide_eq_true after)

instance optionBeforeTrans : IsTrans (Option Int) OptionBefore := by
  constructor
  intro one two three first second
  cases one with
  | none => rfl
  | some one =>
    cases two with
    | none => cases first
    | some two =>
      cases three with
      | none => cases second
      | some three => exact decide_eq_true (Int.le_trans (of_decide_eq_true first) (of_decide_eq_true second))

instance optionBeforeAntisymm : Std.Antisymm OptionBefore := by
  constructor
  intro one two first second
  cases one with
  | none =>
    cases two with
    | none => rfl
    | some two => cases second
  | some one =>
    cases two with
    | none => cases first
    | some two => exact congrArg some (Int.le_antisymm (of_decide_eq_true first) (of_decide_eq_true second))

/-- Shown folders in the order of their places. -/
def ShownInOrder (one two : FolderMetadata) : Prop := one.displayOrder ≤ two.displayOrder

instance shownInOrderTotal : Std.Total ShownInOrder := ⟨fun one two => Int.le_total one.displayOrder two.displayOrder⟩

instance shownInOrderTrans : IsTrans FolderMetadata ShownInOrder := ⟨fun _ _ _ => Int.le_trans⟩

theorem scannedBefore_eq (groups : GroupRows) (one two : FolderMetadata) : scannedBefore groups one two =
    if scannedPosition groups one ≠ scannedPosition groups two then
      decide (scannedPosition groups one < scannedPosition groups two)
    else if one.groupId ≠ two.groupId then
      optionBefore (fun left right => decide (left ≤ right)) one.groupId two.groupId
    else decide (one.displayOrder ≤ two.displayOrder) := rfl

theorem scannedBefore_iff {groups : GroupRows} {one two : FolderMetadata} : scannedBefore groups one two = true ↔
    byKey (· ≤ ·) (scannedPosition groups) (byKey OptionBefore FolderMetadata.groupId ShownInOrder) one two := by
  rw [scannedBefore_eq]
  unfold byKey
  by_cases position : scannedPosition groups one = scannedPosition groups two
  · rw [if_neg (not_not.mpr position), if_neg (not_not.mpr position)]
    by_cases group : one.groupId = two.groupId
    · rw [if_neg (not_not.mpr group), if_neg (not_not.mpr group)]
      exact decide_eq_true_iff
    · rw [if_pos group, if_pos group]
      rfl
  · rw [if_pos position, if_pos position, decide_eq_true_iff]
    exact ⟨Int.le_of_lt, fun before => Int.lt_iff_le_and_ne.mpr ⟨before, position⟩⟩

/-- The rows in the order in which a scan returns their folders. -/
def ScannedFirst (groups : GroupRows) (one two : SavedFolder) : Prop :=
  scannedBefore groups one.shown two.shown = true

instance scannedFirstDecidable (groups : GroupRows) : DecidableRel (ScannedFirst groups) :=
  fun one two => inferInstanceAs (Decidable (scannedBefore groups one.shown two.shown = true))

instance scannedFirstTotal (groups : GroupRows) : Std.Total (ScannedFirst groups) := by
  constructor
  intro one two
  unfold ScannedFirst
  rw [scannedBefore_iff, scannedBefore_iff]
  exact Std.Total.total one.shown two.shown

instance scannedFirstTrans (groups : GroupRows) : IsTrans SavedFolder (ScannedFirst groups) := by
  constructor
  intro one two three
  unfold ScannedFirst
  rw [scannedBefore_iff, scannedBefore_iff, scannedBefore_iff]
  exact IsTrans.trans one.shown two.shown three.shown

theorem scannedFolders_rows (groups : GroupRows) (rows : List SavedFolder) :
    scannedFolders groups (rows.map SavedFolder.shown) =
      (rows.insertionSort (ScannedFirst groups)).map SavedFolder.shown := by
  unfold scannedFolders
  exact (List.map_insertionSort (ScannedFirst groups) _ SavedFolder.shown rows fun _ _ _ _ => Iff.rfl).symm

/-! ## The order of the query -/

def storedPosition (groups : GroupRows) (row : SavedFolder) : Option Int :=
  (row.groupId.bind groups.find?).map SavedGroup.displayOrder

def StoredInOrder (one two : SavedFolder) : Prop := one.displayOrder ≤ two.displayOrder

instance storedInOrderTotal : Std.Total StoredInOrder := ⟨fun one two => Int.le_total one.displayOrder two.displayOrder⟩

instance storedInOrderTrans : IsTrans SavedFolder StoredInOrder := ⟨fun _ _ _ => Int.le_trans⟩

/-- What `ORDER BY` allows. -/
def EnrichedFirst (groups : GroupRows) (one two : SavedFolder) : Prop := enrichedBefore groups one two = true

instance enrichedFirstDecidable (groups : GroupRows) : DecidableRel (EnrichedFirst groups) :=
  fun one two => inferInstanceAs (Decidable (enrichedBefore groups one two = true))

theorem enrichedBefore_eq (groups : GroupRows) (one two : SavedFolder) : enrichedBefore groups one two =
    if one.groupId.isNone ≠ two.groupId.isNone then two.groupId.isNone
    else if storedPosition groups one ≠ storedPosition groups two then
      optionBefore (fun left right => decide (left ≤ right)) (storedPosition groups one) (storedPosition groups two)
    else decide (one.displayOrder ≤ two.displayOrder) := rfl

theorem enrichedFirst_iff {groups : GroupRows} {one two : SavedFolder} : EnrichedFirst groups one two ↔
    byKey (· ≤ ·) (fun row => row.groupId.isNone)
      (byKey OptionBefore (storedPosition groups) StoredInOrder) one two := by
  unfold EnrichedFirst
  rw [enrichedBefore_eq]
  unfold byKey
  by_cases grouped : one.groupId.isNone = two.groupId.isNone
  · rw [if_neg (not_not.mpr grouped), if_neg (not_not.mpr grouped)]
    by_cases position : storedPosition groups one = storedPosition groups two
    · rw [if_neg (not_not.mpr position), if_neg (not_not.mpr position)]
      exact decide_eq_true_iff
    · rw [if_pos position, if_pos position]
      rfl
  · rw [if_pos grouped, if_pos grouped]
    revert grouped
    dsimp only
    generalize one.groupId.isNone = left
    generalize two.groupId.isNone = right
    revert left right
    decide

instance enrichedFirstTotal (groups : GroupRows) : Std.Total (EnrichedFirst groups) := by
  constructor
  intro one two
  rw [enrichedFirst_iff, enrichedFirst_iff]
  exact Std.Total.total one two

instance enrichedFirstTrans (groups : GroupRows) : IsTrans SavedFolder (EnrichedFirst groups) := by
  constructor
  intro one two three
  rw [enrichedFirst_iff, enrichedFirst_iff, enrichedFirst_iff]
  exact IsTrans.trans one two three

/-- An answer of `enriched_folders`.  The database may return rows that `ORDER BY` does not
tell apart in any order. -/
def IsEnriched (layout : SavedLayout) (answer : List FolderMetadata) : Prop :=
  Exists fun rows : List SavedFolder => rows.Perm layout.folders.items ∧
    rows.Pairwise (EnrichedFirst layout.groups) ∧ answer = rows.map SavedFolder.shown

/-- Ties in the order of the channel ids are one of its answers. -/
theorem enrichedFolders_isEnriched (layout : SavedLayout) : IsEnriched layout (enrichedFolders layout) :=
  ⟨layout.folders.items.insertionSort (EnrichedFirst layout.groups), List.perm_insertionSort _ _,
    List.pairwise_insertionSort _ _, rfl⟩

end FolderLayout
end TelegramDrive
