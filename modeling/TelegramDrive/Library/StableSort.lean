import Mathlib.Data.List.Sort

namespace TelegramDrive
namespace StableSort

universe u

/-!
# One list in two orders

A stable sort by a first comparison has one result.  A second comparison that leaves ties
open has as many answers as there are ways to break them.  The two agree, whichever answer
is given, when and only when the comparisons agree strictly on every two items.
-/

variable {Item : Type u} {items : List Item} {one two : Item}

/-! ## Pairs of items in a list -/

theorem not_both_ways (nodup : items.Nodup) (before : List.Sublist [one, two] items) :
    ¬ List.Sublist [two, one] items := by
  induction items with
  | nil => exact absurd (before.subset List.mem_cons_self) List.not_mem_nil
  | cons item items ih =>
    intro after
    have apart := (List.nodup_cons.mp nodup).1
    cases before with
    | cons _ within =>
      cases after with
      | cons _ other => exact ih (List.nodup_cons.mp nodup).2 within other
      | cons_cons _ other => exact apart (within.subset (List.mem_cons_of_mem _ List.mem_cons_self))
    | cons_cons _ within =>
      cases after with
      | cons _ other => exact apart (other.subset (List.mem_cons_of_mem _ List.mem_cons_self))
      | cons_cons _ other => exact apart (within.subset List.mem_cons_self)

theorem some_way (apart : one ≠ two) (here : one ∈ items) (there : two ∈ items) :
    List.Sublist [one, two] items ∨ List.Sublist [two, one] items := by
  induction items with
  | nil => exact absurd here List.not_mem_nil
  | cons item items ih =>
    rcases List.mem_cons.mp here with rfl | first
    · rcases List.mem_cons.mp there with same | second
      · exact absurd same.symm apart
      · exact Or.inl ((List.singleton_sublist.mpr second).cons_cons _)
    · rcases List.mem_cons.mp there with rfl | second
      · exact Or.inr ((List.singleton_sublist.mpr first).cons_cons _)
      · rcases ih first second with before | after
        · exact Or.inl (before.cons _)
        · exact Or.inr (after.cons _)

theorem ne_of_pair (nodup : items.Nodup) (before : List.Sublist [one, two] items) : one ≠ two :=
  List.pairwise_iff_forall_sublist.mp nodup before

theorem eq_of_keys {Key : Type*} {others : List Item} (key : Item -> Key) (distinct : (items.map key).Nodup)
    (same : items.Perm others) (keys : items.map key = others.map key) : items = others := by
  apply List.ext_getElem same.length_eq
  intro index here there
  have matching : key items[index] = key others[index] := by
    have positions := congrArg (fun list => list[index]?) keys
    simpa [here, there] using positions
  exact List.inj_on_of_nodup_map distinct (List.getElem_mem here) (same.mem_iff.mpr (List.getElem_mem there)) matching

/-! ## The result of a stable sort -/

section Sorted

variable (first : Item -> Item -> Prop) [DecidableRel first] [Std.Total first] [IsTrans Item first]

/-- Two items come in the order of the comparison; where it allows both, in the order in
which they came before. -/
theorem pair_in_sorted_iff (nodup : items.Nodup) : List.Sublist [one, two] (items.insertionSort first) ↔
    (List.Sublist [one, two] items ∧ first one two) ∨ (List.Sublist [two, one] items ∧ ¬ first two one) := by
  have sorted := items.pairwise_insertionSort first
  have distinct : (items.insertionSort first).Nodup := (List.perm_insertionSort first items).nodup_iff.mpr nodup
  constructor
  · intro after
    have here : one ∈ items := (List.mem_insertionSort first).mp (after.subset List.mem_cons_self)
    have there : two ∈ items :=
      (List.mem_insertionSort first).mp (after.subset (List.mem_cons_of_mem _ List.mem_cons_self))
    rcases some_way (ne_of_pair distinct after) here there with before | before
    · exact Or.inl ⟨before, List.pairwise_iff_forall_sublist.mp sorted after⟩
    · refine Or.inr ⟨before, fun related => ?_⟩
      exact not_both_ways distinct after (List.pair_sublist_insertionSort related before)
  · rintro (⟨before, related⟩ | ⟨before, unrelated⟩)
    · exact List.pair_sublist_insertionSort related before
    · have here : one ∈ items.insertionSort first :=
        (List.mem_insertionSort first).mpr (before.subset (List.mem_cons_of_mem _ List.mem_cons_self))
      have there : two ∈ items.insertionSort first :=
        (List.mem_insertionSort first).mpr (before.subset List.mem_cons_self)
      rcases some_way (ne_of_pair nodup before).symm here there with after | after
      · exact after
      · exact absurd (List.pairwise_iff_forall_sublist.mp sorted after) unrelated

/-- What holds between the items of the sorted list, in terms of the given one. -/
theorem pairwise_sorted_iff (nodup : items.Nodup) (relates : Item -> Item -> Prop) :
    (items.insertionSort first).Pairwise relates ↔
      items.Pairwise fun one two => if first one two then relates one two else relates two one := by
  rw [List.pairwise_iff_forall_sublist, List.pairwise_iff_forall_sublist]
  constructor
  · intro sorted one two before
    split
    next related => exact sorted ((pair_in_sorted_iff first nodup).mpr (Or.inl ⟨before, related⟩))
    next unrelated => exact sorted ((pair_in_sorted_iff first nodup).mpr (Or.inr ⟨before, unrelated⟩))
  · intro given one two after
    rcases (pair_in_sorted_iff first nodup).mp after with ⟨before, related⟩ | ⟨before, unrelated⟩
    · have holds := given before
      rwa [if_pos related] at holds
    · have holds := given before
      rwa [if_neg unrelated] at holds

end Sorted

/-! ## The answers that an order allows -/

section Answers

variable (second : Item -> Item -> Prop) [DecidableRel second] [Std.Total second] [IsTrans Item second]

/-- A list is the only arrangement in its order when the order leaves no tie open. -/
theorem sole_arrangement_iff (nodup : items.Nodup) :
    (forall answer : List Item, answer.Perm items -> answer.Pairwise second -> answer = items) ↔
      items.Pairwise fun one two => ¬ second two one := by
  constructor
  · intro sole
    refine List.pairwise_of_forall_sublist fun {one two} before tied => ?_
    -- a stable sort of the two in the other order would leave them in it
    rcases before.exists_perm_append with ⟨rest, split⟩
    have swapped : (two :: one :: rest).Perm items := (List.Perm.swap one two rest).trans split.symm
    have answer := sole ((two :: one :: rest).insertionSort second)
      ((List.perm_insertionSort second _).trans swapped) (List.pairwise_insertionSort second _)
    have after : List.Sublist [two, one] ((two :: one :: rest).insertionSort second) :=
      List.pair_sublist_insertionSort tied (((List.nil_sublist rest).cons_cons one).cons_cons two)
    rw [answer] at after
    exact not_both_ways nodup before after
  · intro strict answer same sorted
    have ordered : items.Pairwise second :=
      strict.imp fun {one two} untied => (Std.Total.total one two).resolve_right untied
    refine same.eq_of_pairwise ?_ sorted ordered
    intro one two here there before after
    by_contra apart
    rcases some_way apart (same.subset here) there with pair | pair
    · exact List.pairwise_iff_forall_sublist.mp strict pair after
    · exact List.pairwise_iff_forall_sublist.mp strict pair before

/-- A sorted list is the only answer in another order when the two comparisons agree. -/
theorem sorted_is_sole_iff (first : Item -> Item -> Prop) [DecidableRel first] [Std.Total first]
    [IsTrans Item first] (nodup : items.Nodup) :
    (forall answer : List Item, answer.Perm items -> answer.Pairwise second ->
        answer = items.insertionSort first) ↔
      items.Pairwise fun one two => if first one two then ¬ second two one else ¬ second one two := by
  have same := List.perm_insertionSort first items
  rw [← pairwise_sorted_iff first nodup fun one two => ¬ second two one,
    ← sole_arrangement_iff second (same.nodup_iff.mpr nodup)]
  constructor
  · exact fun sole answer arranged => sole answer (arranged.trans same)
  · exact fun sole answer arranged => sole answer (arranged.trans same.symm)

end Answers

/-! ## Comparing by one key after another -/

section Keys

universe v

variable {Key : Type v} [DecidableEq Key] (before : Key -> Key -> Prop) (key : Item -> Key)
  (rest : Item -> Item -> Prop)

/-- Items with different keys are compared by them, and others by the rest. -/
def byKey (one two : Item) : Prop :=
  if key one ≠ key two then before (key one) (key two) else rest one two

instance byKeyTotal [Std.Total before] [Std.Total rest] : Std.Total (byKey before key rest) := by
  constructor
  intro one two
  unfold byKey
  by_cases same : key one = key two
  · rw [if_neg (not_not.mpr same), if_neg (not_not.mpr same.symm)]
    exact Std.Total.total one two
  · rw [if_pos same, if_pos (Ne.symm same)]
    exact Std.Total.total (key one) (key two)

instance byKeyTrans [IsTrans Key before] [Std.Antisymm before] [IsTrans Item rest] :
    IsTrans Item (byKey before key rest) := by
  constructor
  intro one two three first second
  unfold byKey at first second ⊢
  split at first
  next apart =>
    split at second
    next far =>
      have reaches : before (key one) (key three) := IsTrans.trans _ _ _ first second
      split
      · exact reaches
      next meets =>
        have same := not_not.mp meets
        exact absurd (Std.Antisymm.antisymm _ _ first (same ▸ second)) apart
    next near =>
      have same := not_not.mp near
      rw [← same, if_pos apart]
      exact first
  next near =>
    have same := not_not.mp near
    rw [same]
    split at second
    next apart =>
      rw [if_pos apart]
      exact second
    next meets =>
      rw [if_neg meets]
      exact IsTrans.trans _ _ _ first second

end Keys

end StableSort
end TelegramDrive
