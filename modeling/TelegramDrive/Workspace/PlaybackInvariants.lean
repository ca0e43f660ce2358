import Mathlib.Data.List.Perm.Subperm
import TelegramDrive.Workspace.Playback

namespace TelegramDrive
namespace Workspace
namespace Playback

/-!
# What playback mutations keep

The invariant speaks of the queue, of the number of records and of each record.  A
mutation writes one record at most; what it makes of the record is looked at first,
then how the record is stored.
-/

/-- What holds of each record. -/
structure PlaybackRecord.Kept (value : PlaybackRecord) : Prop where
  ordered : value.bookmarks.Pairwise fun one two => one.positionMs < two.positionMs
  few : value.bookmarks.length ≤ maxBookmarks
  within : 0 < value.durationMs -> value.positionMs ≤ value.durationMs

/-- What holds of the store. -/
structure Store.Sound (store : Store) : Prop where
  queueOnce : ((store.queue.getD []).map (mediaId store.owner)).Nodup
  queueShort : (store.queue.getD []).length ≤ maxQueue
  rows : (store.playback.map Row.id).Nodup
  named : forall row, row ∈ store.playback -> row.value.mediaId = row.id
  kept : forall row, row ∈ store.playback -> row.value.Kept
  short : store.playback.length ≤ maxHistory

theorem empty_sound (owner : Int) : (Store.empty owner).Sound where
  queueOnce := List.nodup_nil
  queueShort := Nat.zero_le _
  rows := List.nodup_nil
  named := fun _ member => (List.not_mem_nil member).elim
  kept := fun _ member => (List.not_mem_nil member).elim
  short := Nat.zero_le _

/-! ## Bookmarks -/

namespace Store

theorem clamp_le {positionMs durationMs : Nat} (known : 0 < durationMs) : clamp positionMs durationMs ≤ durationMs := by
  unfold clamp
  rw [if_pos known]
  exact Nat.min_le_right _ _

variable {value : PlaybackRecord}

theorem mem_otherBookmarks {positionMs : Nat} {bookmark : Bookmark} :
    bookmark ∈ otherBookmarks value positionMs ↔
      bookmark ∈ value.bookmarks ∧ bookmark.positionMs ≠ positionMs := by
  unfold otherBookmarks
  rw [List.mem_filter, decide_eq_true_eq]

theorem sortBookmarks_ordered {bookmarks : List Bookmark}
    (different : bookmarks.Pairwise fun one two => one.positionMs ≠ two.positionMs) :
    (sortBookmarks bookmarks).Pairwise fun one two => one.positionMs < two.positionMs := by
  have total : Std.Total fun one two : Bookmark => one.positionMs ≤ two.positionMs :=
    ⟨fun one two => Nat.le_total one.positionMs two.positionMs⟩
  have transitive : IsTrans Bookmark fun one two => one.positionMs ≤ two.positionMs :=
    ⟨fun _ _ _ => Nat.le_trans⟩
  have sorted := List.pairwise_insertionSort (fun one two : Bookmark => one.positionMs ≤ two.positionMs) bookmarks
  have apart : (sortBookmarks bookmarks).Pairwise fun one two => one.positionMs ≠ two.positionMs :=
    (List.perm_insertionSort _ bookmarks).symm.pairwise different fun other => other.symm
  exact List.Pairwise.imp (fun both => Nat.lt_of_le_of_ne both.1 both.2) (sorted.and apart)

theorem otherBookmarks_kept (kept : value.Kept) (positionMs : Nat) :
    PlaybackRecord.Kept { value with
      bookmarks := otherBookmarks value positionMs } where
  ordered := kept.ordered.sublist List.filter_sublist
  few := Nat.le_trans (List.length_filter_le _ _) kept.few
  within := kept.within

theorem bookmarked_kept {after : PlaybackRecord} {positionMs : Nat} {label : List Char} (kept : value.Kept)
    (done : bookmarked value positionMs label = .ok after) :
    after.Kept ∧ after = { value with
      bookmarks := sortBookmarks (otherBookmarks value (clamp positionMs value.durationMs) ++
        [⟨clamp positionMs value.durationMs, label⟩]) } := by
  unfold bookmarked at done
  dsimp only at done
  split at done
  · cases done
  next room =>
    cases done
    refine ⟨?_, rfl⟩
    exact {
      ordered := by
        apply sortBookmarks_ordered
        refine List.pairwise_append.mpr ⟨?_, List.pairwise_singleton _ _, ?_⟩
        · exact (otherBookmarks_kept kept _).ordered.imp fun less => Nat.ne_of_lt less
        · intro other member new only
          rw [List.mem_singleton] at only
          subst only
          exact (mem_otherBookmarks.mp member).2
      few := by
        change (List.insertionSort _ _).length ≤ maxBookmarks
        rw [List.length_insertionSort, List.length_append, List.length_singleton]
        omega
      within := kept.within }

/-- Beside a position that has a bookmark there is one bookmark less. -/
theorem otherBookmarks_length (kept : value.Kept) {bookmark : Bookmark}
    (member : bookmark ∈ value.bookmarks) :
    (otherBookmarks value bookmark.positionMs).length + 1 = value.bookmarks.length := by
  have ordered := kept.ordered
  unfold otherBookmarks
  generalize value.bookmarks = bookmarks at member ordered
  induction bookmarks with
  | nil => cases member
  | cons first rest ih =>
    rcases List.pairwise_cons.mp ordered with ⟨before, later⟩
    rcases List.mem_cons.mp member with rfl | inside
    · have all : rest.filter (fun other => decide (other.positionMs ≠ bookmark.positionMs)) = rest := by
        rw [List.filter_eq_self]
        intro other among
        have less := before other among
        rw [decide_eq_true_eq]
        omega
      rw [List.filter_cons_of_neg (by simp), all, List.length_cons]
    · have less := before bookmark inside
      rw [List.filter_cons_of_pos (by rw [decide_eq_true_eq]; omega), List.length_cons,
        ih inside later, List.length_cons]

/-! ## Records -/

theorem progressed_kept (kept : value.Kept) {positionMs durationMs : Nat} (preferences : PlaybackPreferences)
    (longer : value.completed = true -> 0 < durationMs -> value.positionMs ≤ durationMs) :
    (progressed value positionMs durationMs preferences).Kept where
  ordered := kept.ordered
  few := kept.few
  within := by
    unfold progressed
    dsimp only
    intro known
    split
    next completed =>
      split
      next given => exact longer completed given
      next missing =>
        rw [if_neg missing] at known
        exact kept.within known
    · exact clamp_le known

theorem finished_kept (kept : value.Kept) (durationMs : Nat) :
    (finished value durationMs).Kept where
  ordered := kept.ordered
  few := kept.few
  within := by
    unfold finished
    dsimp only
    intro known
    rw [if_pos known]

theorem restarted_kept (kept : value.Kept) : (restarted value).Kept where
  ordered := kept.ordered
  few := kept.few
  within := fun _ => Nat.zero_le _

/-! ## Rows -/

theorem find_some {store : Store} {id : String} (found : store.find id = some value) :
    Exists fun row => row ∈ store.playback ∧ row.id = id ∧ row.value = value := by
  unfold find at found
  rcases Option.map_eq_some_iff.mp found with ⟨row, first, same⟩
  exact ⟨row, List.mem_of_find?_eq_some first, by simpa using List.find?_some first, same⟩

theorem find_of_mem {store : Store} (unique : (store.playback.map Row.id).Nodup) {row : Row}
    (member : row ∈ store.playback) : store.find row.id = some row.value := by
  unfold find
  cases found : store.playback.find? fun other => decide (other.id = row.id) with
  | none =>
    rw [List.find?_eq_none] at found
    exact absurd (decide_eq_true rfl) (found row member)
  | some other =>
    have same := List.inj_on_of_nodup_map unique (List.mem_of_find?_eq_some found) member
      (by simpa using List.find?_some found)
    rw [same]
    rfl

theorem record_ok {store : Store} (sound : store.Sound) {file : PlaybackFile} {clock : Clock}
    (read : store.record file clock = .ok value) :
    validateFile file = .ok () ∧ value.mediaId = mediaId store.owner file ∧ value.Kept ∧
      ((Exists fun old => store.find (mediaId store.owner file) = some old ∧ value = { old with
          file := file
          updatedAt := clock.recorded }) ∨
        store.find (mediaId store.owner file) = none ∧ value.completed = false) := by
  rcases Results.bind_ok read with ⟨valid, checked, final⟩
  refine ⟨checked, ?_⟩
  cases found : store.find (mediaId store.owner file) with
  | none =>
    rw [found] at final
    cases final
    exact ⟨rfl, ⟨List.Pairwise.nil, Nat.zero_le _, fun _ => Nat.zero_le _⟩, Or.inr ⟨rfl, rfl⟩⟩
  | some old =>
    rw [found] at final
    cases final
    rcases find_some found with ⟨row, member, id, same⟩
    have kept := sound.kept row member
    have named := sound.named row member
    rw [same] at kept named
    exact ⟨named.trans id, ⟨kept.ordered, kept.few, kept.within⟩, Or.inl ⟨old, rfl, rfl⟩⟩

theorem find_remove_other (store : Store) {gone id : String} (other : id ≠ gone) :
    (store.remove gone).find id = store.find id := by
  unfold find remove
  rw [List.find?_filter]
  congr 2
  funext row
  by_cases same : row.id = id
  · simp [same, other]
  · simp [same]

theorem mem_put {store : Store} {id : String} {updated : Int} {row : Row} :
    row ∈ (store.put id value updated).playback ↔
      row ∈ store.playback ∧ row.id ≠ id ∨ row = ⟨id, updated, value⟩ := by
  unfold put
  rw [List.mem_append, List.mem_filter, decide_eq_true_eq, List.mem_singleton]

theorem put_ids {store : Store} (unique : (store.playback.map Row.id).Nodup) (id : String)
    (value : PlaybackRecord) (updated : Int) : ((store.put id value updated).playback.map Row.id).Nodup := by
  unfold put
  rw [List.map_append, List.nodup_append]
  refine ⟨unique.sublist (List.filter_sublist.map Row.id), List.nodup_singleton _, ?_⟩
  intro one member two new
  rw [List.map_singleton, List.mem_singleton] at new
  subst new
  rcases List.mem_map.mp member with ⟨row, kept, rfl⟩
  exact of_decide_eq_true (List.mem_filter.mp kept).2

theorem removeAll_playback (olds : List Row) (store : Store) :
    (olds.foldl (fun store old => store.remove old.value.mediaId) store).playback =
      store.playback.filter fun row => decide (row.id ∉ olds.map fun old => old.value.mediaId) := by
  induction olds generalizing store with
  | nil => simp
  | cons old olds ih =>
    rw [List.foldl_cons, ih]
    unfold remove
    rw [List.filter_filter]
    congr 1
    funext row
    simp [not_or, Bool.and_comm]

theorem removeAll_rest (olds : List Row) (store : Store) :
    (olds.foldl (fun store old => store.remove old.value.mediaId) store).owner = store.owner ∧
      (olds.foldl (fun store old => store.remove old.value.mediaId) store).queue = store.queue ∧
        (olds.foldl (fun store old => store.remove old.value.mediaId) store).preferences = store.preferences := by
  induction olds generalizing store with
  | nil => exact ⟨rfl, rfl, rfl⟩
  | cons old olds ih => exact ih _

theorem records_perm (store : Store) : store.records.Perm store.playback := List.perm_insertionSort _ _

theorem records_sorted (store : Store) : store.records.Pairwise Row.Before := by
  have total : Std.Total Row.Before := by
    refine ⟨fun one two => ?_⟩
    rcases lt_trichotomy one.updated two.updated with less | same | more
    · exact Or.inr (Or.inl less)
    · rcases textLe_total one.id two.id with low | high
      · exact Or.inl (Or.inr ⟨same, low⟩)
      · exact Or.inr (Or.inr ⟨same.symm, high⟩)
    · exact Or.inl (Or.inl more)
  have transitive : IsTrans Row Row.Before := by
    refine ⟨fun one two three first second => ?_⟩
    rcases first with more | ⟨same, low⟩
    · rcases second with again | ⟨alike, _⟩
      · exact Or.inl (lt_trans again more)
      · exact Or.inl (alike ▸ more)
    · rcases second with again | ⟨alike, lower⟩
      · exact Or.inl (same ▸ again)
      · exact Or.inr ⟨same.trans alike, textLe_trans low lower⟩
  exact List.pairwise_insertionSort Row.Before store.playback

/-! ## Saving a record -/

section Saving

variable {store : Store} (sound : store.Sound) {value : PlaybackRecord} (clock : Clock)

include sound

/-- The rows that stay when a record is saved: all but those behind the newest. -/
theorem mem_save {row : Row} : row ∈ (store.save value clock).playback ↔
    row ∈ (store.put value.mediaId value clock.stored).records.take maxHistory := by
  have ids := put_ids sound.rows value.mediaId value clock.stored
  have named : forall row, row ∈ (store.put value.mediaId value clock.stored).playback ->
      row.value.mediaId = row.id := by
    intro row member
    rcases mem_put.mp member with ⟨old, _⟩ | rfl
    · exact sound.named row old
    · rfl
  unfold save
  dsimp only
  generalize store.put value.mediaId value clock.stored = written at ids named
  have perm := records_perm written
  have same := List.take_append_drop maxHistory written.records
  rw [removeAll_playback, List.mem_filter, decide_eq_true_eq, ← perm.mem_iff, ← same, List.mem_append]
  have inIds : (((written.records.take maxHistory) ++ written.records.drop maxHistory).map Row.id).Nodup := by
    rw [same]
    exact ((perm.map Row.id).nodup_iff).mpr ids
  rw [List.map_append] at inIds
  have apart := (List.nodup_append.mp inIds).2.2
  have isNamed : forall old, old ∈ written.records.drop maxHistory -> old.value.mediaId = old.id :=
    fun old member => named old (perm.mem_iff.mp (List.mem_of_mem_drop member))
  rw [same]
  constructor
  · rintro ⟨front | back, stays⟩
    · exact front
    · exact absurd (List.mem_map.mpr ⟨row, back, isNamed row back⟩) stays
  · intro front
    refine ⟨Or.inl front, fun gone => ?_⟩
    rcases List.mem_map.mp gone with ⟨old, back, id⟩
    rw [isNamed old back] at id
    exact apart row.id (List.mem_map_of_mem front) old.id (List.mem_map_of_mem back) id.symm

theorem save_subset {row : Row} (member : row ∈ (store.save value clock).playback) :
    row ∈ store.playback ∧ row.id ≠ value.mediaId ∨ row = ⟨value.mediaId, clock.stored, value⟩ := by
  have front := List.mem_of_mem_take ((mem_save sound clock).mp member)
  exact mem_put.mp ((records_perm _).mem_iff.mp front)

theorem save_ids : ((store.save value clock).playback.map Row.id).Nodup := by
  unfold save
  dsimp only
  rw [removeAll_playback]
  exact (put_ids sound.rows value.mediaId value clock.stored).sublist (List.filter_sublist.map Row.id)

/-- At most so many records are kept. -/
theorem save_short : (store.save value clock).playback.length ≤ maxHistory := by
  have unique : (store.save value clock).playback.Nodup := (save_ids sound clock).of_map Row.id
  have within : (store.save value clock).playback ⊆
      (store.put value.mediaId value clock.stored).records.take maxHistory :=
    fun row member => (mem_save sound clock).mp member
  exact Nat.le_trans (List.Subperm.length_le (unique.subperm within)) (List.length_take_le _ _)

theorem save_sound (kept : value.Kept) : (store.save value clock).Sound where
  queueOnce := by
    rw [save, (removeAll_rest _ _).1, (removeAll_rest _ _).2.1]
    exact sound.queueOnce
  queueShort := by
    rw [save, (removeAll_rest _ _).2.1]
    exact sound.queueShort
  rows := save_ids sound clock
  named := by
    intro row member
    rcases save_subset sound clock member with ⟨old, _⟩ | rfl
    · exact sound.named row old
    · rfl
  kept := by
    intro row member
    rcases save_subset sound clock member with ⟨old, _⟩ | rfl
    · exact sound.kept row old
    · exact kept
  short := save_short sound clock

/-- The records of other files that come before one that is written at this time. -/
def ahead (store : Store) (id : String) (stored : Int) : List Row :=
  store.playback.filter fun row => decide (row.id ≠ id ∧
    (stored < row.updated ∨ row.updated = stored ∧ TextLe row.id id))

/-- A record stays when it is written, unless as many as there may be come before it. -/
theorem save_written (room : (ahead store value.mediaId clock.stored).length < maxHistory) :
    ⟨value.mediaId, clock.stored, value⟩ ∈ (store.save value clock).playback := by
  rw [mem_save sound clock]
  have ids := put_ids sound.rows value.mediaId value clock.stored
  have perm := records_perm (store.put value.mediaId value clock.stored)
  have inside : (⟨value.mediaId, clock.stored, value⟩ : Row) ∈
      (store.put value.mediaId value clock.stored).records :=
    perm.mem_iff.mpr (mem_put.mpr (Or.inr rfl))
  rcases List.append_of_mem inside with ⟨before, after, whole⟩
  have sorted := records_sorted (store.put value.mediaId value clock.stored)
  have unique := ((perm.map Row.id).nodup_iff).mpr ids
  rw [whole] at sorted unique
  rw [whole]
  have first : before.length < maxHistory := by
    refine Nat.lt_of_le_of_lt ?_ room
    apply List.Subperm.length_le
    rw [List.map_append, List.nodup_append] at unique
    refine (unique.1.of_map Row.id).subperm fun row member => ?_
    have other : row.id ≠ value.mediaId :=
      unique.2.2 row.id (List.mem_map_of_mem member) value.mediaId (List.mem_map_of_mem List.mem_cons_self)
    have order : Row.Before row ⟨value.mediaId, clock.stored, value⟩ :=
      (List.pairwise_append.mp sorted).2.2 row member _ List.mem_cons_self
    have old : row ∈ store.playback := by
      have among : row ∈ (store.put value.mediaId value clock.stored).playback := by
        rw [← perm.mem_iff, whole]
        exact List.mem_append_left _ member
      rcases mem_put.mp among with ⟨old, _⟩ | rfl
      · exact old
      · exact (other rfl).elim
    exact List.mem_filter.mpr ⟨old, decide_eq_true ⟨other, order⟩⟩
  rw [List.take_append]
  apply List.mem_append_right
  have some : maxHistory - before.length = (maxHistory - before.length - 1) + 1 := by omega
  rw [some, List.take_succ_cons]
  exact List.mem_cons_self

/-- A written record is what is read back. -/
theorem find_save_self (room : (ahead store value.mediaId clock.stored).length < maxHistory) :
    (store.save value clock).find value.mediaId = some value :=
  find_of_mem (save_ids sound clock) (save_written sound clock room)

/-- What is found under the identifier of a record that was saved is that record. -/
theorem find_save_own {new : PlaybackRecord} (found : (store.save value clock).find value.mediaId = some new) :
    new = value := by
  rcases find_some found with ⟨row, member, same, rfl⟩
  rcases save_subset sound clock member with ⟨_, other⟩ | only
  · exact (other same).elim
  · rw [only]

theorem find_save_other {id : String} (other : id ≠ value.mediaId) {new : PlaybackRecord}
    (found : (store.save value clock).find id = some new) : store.find id = some new := by
  rcases find_some found with ⟨row, member, same, read⟩
  rcases save_subset sound clock member with ⟨old, _⟩ | only
  · rw [← same, ← read]
    exact find_of_mem sound.rows old
  · subst only
    exact (other same.symm).elim

/-- While there is room, saving a record removes no other. -/
theorem find_save_stays (room : store.playback.length < maxHistory) {id : String} (other : id ≠ value.mediaId)
    {old : PlaybackRecord} (found : store.find id = some old) : (store.save value clock).find id = some old := by
  rcases find_some found with ⟨row, member, same, read⟩
  have all : (store.put value.mediaId value clock.stored).records.length ≤ maxHistory := by
    rw [(records_perm _).length_eq]
    unfold put
    rw [List.length_append, List.length_singleton]
    have fewer := List.length_filter_le (fun row : Row => decide (row.id ≠ value.mediaId)) store.playback
    omega
  have stays : row ∈ (store.save value clock).playback := by
    rw [mem_save sound clock, List.take_of_length_le all, (records_perm _).mem_iff]
    exact mem_put.mpr (Or.inl ⟨member, same ▸ other⟩)
  rw [← same, ← read]
  exact find_of_mem (save_ids sound clock) stays

end Saving

end Store

end Playback
end Workspace
end TelegramDrive
