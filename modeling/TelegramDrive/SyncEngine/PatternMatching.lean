import TelegramDrive.Library.Glob
import TelegramDrive.SyncEngine.Policy

namespace TelegramDrive
namespace SyncEngine

/-!
# The patterns that match a path

The matcher keeps a row of booleans, one for each prefix of the value.  After a
prefix of the pattern, the row says which prefixes of the value match it; each
character of the pattern turns one such row into the next.
-/

/-- The value can be split along the pattern. -/
abbrev Matches : List Char -> List Char -> Prop := Glob '*' '?'

/-! ## Rows -/

@[simp] theorem starRow_length (carried : Bool) (row : List Bool) : (starRow carried row).length = row.length := by
  induction row generalizing carried with
  | nil => rfl
  | cons entry row ih => rw [starRow, List.length_cons, ih, List.length_cons]

theorem starRow_entry (carried : Bool) (row : List Bool) (index : Nat) :
    (starRow carried row)[index]? = some true ↔
      index < row.length ∧ (carried = true ∨ Exists fun earlier => earlier ≤ index ∧ row[earlier]? = some true) := by
  induction row generalizing carried index with
  | nil => simp [starRow]
  | cons entry row ih =>
    rw [starRow]
    cases index with
    | zero =>
      rw [List.getElem?_cons_zero, Option.some.injEq, Bool.or_eq_true]
      constructor
      · rintro (here | before)
        · exact ⟨Nat.succ_pos _, Or.inr ⟨0, Nat.le_refl 0, congrArg Option.some here⟩⟩
        · exact ⟨Nat.succ_pos _, Or.inl before⟩
      · rintro ⟨_, before | ⟨earlier, atMost, set⟩⟩
        · exact Or.inr before
        · rw [Nat.le_zero.mp atMost, List.getElem?_cons_zero, Option.some.injEq] at set
          exact Or.inl set
    | succ index =>
      rw [List.getElem?_cons_succ, ih, List.length_cons, Nat.succ_lt_succ_iff]
      refine and_congr_right fun _ => ?_
      rw [Bool.or_eq_true]
      constructor
      · rintro ((here | before) | ⟨earlier, atMost, set⟩)
        · exact Or.inr ⟨0, Nat.zero_le _, congrArg Option.some here⟩
        · exact Or.inl before
        · exact Or.inr ⟨earlier + 1, Nat.succ_le_succ atMost, set⟩
      · rintro (before | ⟨earlier, atMost, set⟩)
        · exact Or.inl (Or.inr before)
        · cases earlier with
          | zero =>
            rw [List.getElem?_cons_zero, Option.some.injEq] at set
            exact Or.inl (Or.inl set)
          | succ earlier => exact Or.inr ⟨earlier, Nat.le_of_succ_le_succ atMost, set⟩

theorem characterRow_length (character : Char) (value : List Char) (row : List Bool) :
    (characterRow character value row).length = min value.length row.length := by
  induction value generalizing row with
  | nil => simp [characterRow]
  | cons actual value ih =>
    cases row with
    | nil => simp [characterRow]
    | cons entry row =>
      rw [characterRow, List.length_cons, ih, List.length_cons, List.length_cons,
        Nat.succ_min_succ]

theorem characterRow_entry (character : Char) (value : List Char) (row : List Bool) (index : Nat) :
    (characterRow character value row)[index]? = some true ↔
      Exists fun actual => value[index]? = some actual ∧ row[index]? = some true ∧
        (character = '?' ∨ character = actual) := by
  induction value generalizing row index with
  | nil => simp [characterRow]
  | cons actual value ih =>
    cases row with
    | nil => simp [characterRow]
    | cons entry row =>
      rw [characterRow]
      cases index with
      | zero => simp
      | succ index =>
        rw [List.getElem?_cons_succ, ih]
        rfl

/-- The row says which prefixes of the value match this much of the pattern. -/
structure Covers (pattern value : List Char) (row : List Bool) : Prop where
  length : row.length = value.length + 1
  entry : forall index, index ≤ value.length -> (row[index]? = some true ↔ Matches pattern (value.take index))

theorem covers_start (value : List Char) : Covers [] value (true :: List.replicate value.length false) where
  length := by rw [List.length_cons, List.length_replicate]
  entry := by
    intro index inside
    unfold Matches
    rw [Glob.nil_iff, List.take_eq_nil_iff]
    cases index with
    | zero => simp
    | succ index =>
      rw [List.getElem?_cons_succ, List.getElem?_replicate]
      constructor
      · intro set
        split at set <;> cases set
      · rintro (impossible | empty)
        · cases impossible
        · rw [empty] at inside
          exact (Nat.not_succ_le_zero _ inside).elim

/-- A prefix of a prefix of the value. -/
theorem front_of_take {value front behind : List Char} {index : Nat} (same : value.take index = front ++ behind) :
    front = value.take front.length ∧ front.length ≤ index := by
  have length := congrArg List.length same
  rw [List.length_take, List.length_append] at length
  have front_eq := congrArg (List.take front.length) same
  rw [List.take_take, List.take_left, Nat.min_eq_left (by omega)] at front_eq
  exact ⟨front_eq.symm, by omega⟩

theorem covers_next {pattern value : List Char} {row : List Bool} (covers : Covers pattern value row)
    (character : Char) : Covers (pattern ++ [character]) value (nextRow value row character) := by
  unfold nextRow
  split
  next isStar =>
    subst isStar
    refine ⟨by rw [starRow_length, covers.length], fun index inside => ?_⟩
    unfold Matches
    rw [starRow_entry, Glob.snoc_star_iff, covers.length]
    constructor
    · rintro ⟨_, impossible | ⟨earlier, atMost, set⟩⟩
      · cases impossible
      · refine ⟨value.take earlier, (value.take index).drop earlier, ?_, (covers.entry earlier (by omega)).mp set⟩
        have cut := List.take_append_drop earlier (value.take index)
        rw [List.take_take, Nat.min_eq_left atMost] at cut
        exact cut.symm
    · rintro ⟨front, behind, same, matched⟩
      rcases front_of_take same with ⟨isPrefix, atMost⟩
      rw [isPrefix] at matched
      exact ⟨by omega, Or.inr ⟨front.length, atMost, (covers.entry front.length (by omega)).mpr matched⟩⟩
  next notStar =>
    constructor
    · rw [List.length_cons, characterRow_length, covers.length, Nat.min_eq_left (Nat.le_succ _)]
    intro index inside
    cases index with
    | zero =>
      rw [List.take_zero]
      constructor
      · intro impossible
        cases impossible
      · intro impossible
        exact (Glob.snoc_nil (by decide) notStar impossible).elim
    | succ index =>
      have within : index < value.length := inside
      rw [List.getElem?_cons_succ, characterRow_entry, covers.entry index (by omega)]
      unfold Matches
      rw [Glob.snoc_iff (by decide) notStar]
      rw [List.take_succ_eq_append_getElem within, List.getElem?_eq_getElem within]
      constructor
      · rintro ⟨actual, same, matched, fits⟩
        cases same
        exact ⟨value.take index, value[index], rfl, matched, fits⟩
      · rintro ⟨front, last, same, matched, fits⟩
        rcases List.append_inj' same rfl with ⟨rfl, lasts⟩
        cases lasts
        exact ⟨value[index], rfl, matched, fits⟩

theorem covers_run {before value : List Char} {row : List Bool} (covers : Covers before value row)
    (pattern : List Char) : Covers (before ++ pattern) value (pattern.foldl (nextRow value) row) := by
  induction pattern generalizing before row with
  | nil => rwa [List.append_nil]
  | cons character pattern ih =>
    have next := ih (covers_next covers character)
    rwa [List.append_assoc] at next

/-- The matcher decides whether the value can be split along the pattern. -/
theorem wildcardMatch_iff (pattern value : List Char) : wildcardMatch pattern value = true ↔ Matches pattern value := by
  have covers := covers_run (covers_start value) pattern
  have last := covers.entry value.length (Nat.le_refl _)
  rw [List.take_length, List.nil_append] at last
  unfold wildcardMatch
  rw [beq_iff_eq, List.getLast?_eq_getElem?, covers.length, Nat.add_sub_cancel]
  exact last

/-! ## Directories -/

/-- The text behind the last slash, or the whole text. -/
def LastComponent (path component : List Char) : Prop :=
  '/' ∉ component ∧ (path = component ∨ Exists fun before => path = before ++ '/' :: component)

/-- The characters of a plain text from its end on are none of them a slash. -/
theorem reverse_plain {component : List Char} (plain : '/' ∉ component) (character : Char)
    (member : character ∈ component.reverse) : decide (character ≠ '/') = true := by
  rw [decide_eq_true_eq]
  rintro rfl
  exact plain (List.mem_reverse.mp member)

theorem baseName_whole {component : List Char} (plain : '/' ∉ component) : baseName component = component := by
  have all : (component.reverse ++ []).takeWhile (· ≠ '/') = component.reverse ++ [].takeWhile (· ≠ '/') :=
    List.takeWhile_append_of_pos (reverse_plain plain)
  rw [List.append_nil, List.takeWhile_nil, List.append_nil] at all
  unfold baseName
  rw [all, List.reverse_reverse]

theorem baseName_behind {before component : List Char} (plain : '/' ∉ component) :
    baseName (before ++ '/' :: component) = component := by
  unfold baseName
  rw [List.reverse_append, List.reverse_cons, List.append_assoc, List.takeWhile_append_of_pos (reverse_plain plain),
    List.singleton_append, List.takeWhile_cons_of_neg (by decide), List.append_nil, List.reverse_reverse]

theorem LastComponent.eq_baseName {path component : List Char} (last : LastComponent path component) :
    component = baseName path := by
  rcases last with ⟨plain, rfl | ⟨before, rfl⟩⟩
  · exact (baseName_whole plain).symm
  · exact (baseName_behind plain).symm

theorem lastComponent_exists (path : List Char) : Exists fun component => LastComponent path component := by
  by_cases slash : '/' ∈ path
  · rcases List.eq_append_cons_of_mem (List.mem_reverse.mpr slash) with ⟨behind, before, split, plain⟩
    refine ⟨behind.reverse, fun member => plain (List.mem_reverse.mp member), Or.inr ⟨before.reverse, ?_⟩⟩
    have whole := congrArg List.reverse split
    rw [List.reverse_reverse, List.reverse_append, List.reverse_cons, List.append_assoc] at whole
    exact whole
  · exact ⟨path, slash, Or.inl rfl⟩

theorem lastComponent_iff (path component : List Char) :
    LastComponent path component ↔ component = baseName path := by
  constructor
  · exact LastComponent.eq_baseName
  · rintro rfl
    rcases lastComponent_exists path with ⟨component, last⟩
    rwa [← last.eq_baseName]

theorem matchesDirectoryPattern_iff (directory path : List Char) : matchesDirectoryPattern directory path = true ↔
    Exists fun ancestor => (Exists fun rest => path = ancestor ++ '/' :: rest) ∧
      (Matches directory ancestor ∨ '/' ∉ directory ∧
        Exists fun component => LastComponent ancestor component ∧ Matches directory component) := by
  rw [matchesDirectoryPattern, List.any_eq_true]
  refine exists_congr fun ancestor => and_congr mem_directoryPrefixes ?_
  rw [Bool.or_eq_true, Bool.and_eq_true, Bool.not_eq_true', ← Bool.not_eq_true, List.contains_iff_mem,
    wildcardMatch_iff, wildcardMatch_iff]
  refine or_congr_right (and_congr_right fun _ => ?_)
  constructor
  · intro matched
    exact ⟨baseName ancestor, (lastComponent_iff _ _).mpr rfl, matched⟩
  · rintro ⟨component, last, matched⟩
    rwa [← last.eq_baseName]

/-- The matcher is exact, and a pattern with a last slash matches the directories of a path. -/
theorem ignore_patterns_match_exactly :
    (forall pattern value, wildcardMatch pattern value = true ↔ Matches pattern value) ∧
      forall directory path, matchesIgnorePattern (directory ++ ['/']) path = true ↔
        Exists fun ancestor => (Exists fun rest => path = ancestor ++ '/' :: rest) ∧
          (Matches directory ancestor ∨ '/' ∉ directory ∧
            Exists fun component => LastComponent ancestor component ∧ Matches directory component) := by
  refine ⟨wildcardMatch_iff, fun directory path => ?_⟩
  have stripped : stripTrailingSlash (directory ++ ['/']) = some directory := by
    unfold stripTrailingSlash
    rw [List.getLast?_concat, if_pos rfl, List.dropLast_concat]
  unfold matchesIgnorePattern
  rw [stripped]
  exact matchesDirectoryPattern_iff directory path

end SyncEngine
end TelegramDrive
