import Mathlib.Algebra.GroupWithZero.Nat
import Mathlib.Algebra.Order.BigOperators.Group.List
import Mathlib.Algebra.Order.Group.Nat
import TelegramDrive.Library.KeyedUpdates

namespace TelegramDrive

universe u v

/-!
# Tables whose items carry their own key

A table is a list of items with distinct keys, where the key of an item is read
off the item.  It stands for a database table with a primary key and for a map
from the key to the record that repeats it: an item found under a key has that
key, and no invariant has to say so.

The order of the items means nothing, except that it is an order in which they
can be visited.
-/

/-- Items with distinct keys. -/
structure Table (Key : Type u) (Item : Type v) (key : Item -> Key) where
  items : List Item
  distinct : (items.map key).Nodup

namespace Table

variable {Key : Type u} {Item : Type v} {key : Item -> Key}

def empty : Table Key Item key where
  items := []
  distinct := List.nodup_nil

/-- Change the items one by one, or drop them, without touching a key. -/
def filterMap (table : Table Key Item key) (change : Item -> Option Item)
    (keeps : forall item next, change item = some next -> key next = key item) : Table Key Item key where
  items := table.items.filterMap change
  distinct := by
    have sublist : ((table.items.filterMap change).map key).Sublist (table.items.map key) := by
      generalize table.items = items
      induction items with
      | nil => exact .slnil
      | cons item items ih =>
        cases changed : change item with
        | none =>
          rw [List.filterMap_cons_none changed]
          exact ih.cons _
        | some next =>
          rw [List.filterMap_cons_some changed, List.map_cons, List.map_cons, keeps item next changed]
          exact ih.cons_cons _
    exact sublist.nodup table.distinct

/-- Change the items that a condition selects, without touching a key. -/
def update (table : Table Key Item key) (selects : Item -> Bool) (change : Item -> Item)
    (keeps : forall item, key (change item) = key item) : Table Key Item key :=
  table.filterMap (fun item => some (if selects item then change item else item)) (by
    intro item next changed
    cases changed
    split
    · exact keeps item
    · rfl)

/-- How many items a condition selects. -/
def changes (table : Table Key Item key) (selects : Item -> Bool) : Nat := table.items.countP selects

/-- The sizes of the items that a condition selects, together. -/
def weight (table : Table Key Item key) (selects : Item -> Bool) (size : Item -> Nat) : Nat :=
  ((table.items.filter selects).map size).sum

/-- A weaker condition selects at least as much. -/
theorem weight_mono (table : Table Key Item key) {selects others : Item -> Bool} (size : Item -> Nat)
    (weaker : forall item, item ∈ table.items -> selects item = true -> others item = true) :
    table.weight selects size ≤ table.weight others size := by
  unfold weight
  have narrowed : table.items.filter selects = (table.items.filter others).filter selects := by
    rw [List.filter_filter]
    apply List.filter_congr
    intro item member
    cases selected : selects item with
    | false => rfl
    | true =>
      rw [weaker item member selected]
      rfl
  rw [narrowed]
  exact (List.filter_sublist.map size).sum_le_sum fun _ _ => Nat.zero_le _

/-- A list that has all the selected items, some of them more than once, weighs as much or
more. -/
theorem weight_le_listed (table : Table Key Item key) (selects : Item -> Bool) (size : Item -> Nat)
    {listed : List Item} (complete : forall item, item ∈ table.items -> selects item = true -> item ∈ listed) :
    table.weight selects size ≤ ((listed.filter selects).map size).sum := by
  have distinct : (table.items.filter selects).Nodup := (List.Nodup.of_map key table.distinct).filter _
  have within : table.items.filter selects ⊆ listed.filter selects := by
    intro item member
    rcases List.mem_filter.mp member with ⟨inside, selected⟩
    exact List.mem_filter.mpr ⟨complete item inside selected, selected⟩
  rcases List.subperm_of_subset distinct within with ⟨found, order, sublist⟩
  unfold weight
  rw [← (order.map size).sum_eq]
  exact (sublist.map size).sum_le_sum fun _ _ => Nat.zero_le _

variable [DecidableEq Key]

def find? (table : Table Key Item key) (target : Key) : Option Item :=
  table.items.find? fun item => decide (key item = target)

def erase (table : Table Key Item key) (target : Key) : Table Key Item key where
  items := table.items.filter fun item => decide (key item ≠ target)
  distinct := (List.filter_sublist.map key).nodup table.distinct

/-- Add an item, in place of the one that has its key. -/
def insert (table : Table Key Item key) (item : Item) : Table Key Item key where
  items := item :: (table.erase (key item)).items
  distinct := by
    rw [List.map_cons, List.nodup_cons]
    constructor
    · intro listed
      rcases List.mem_map.mp listed with ⟨other, member, same⟩
      have apart := (List.mem_filter.mp member).2
      exact of_decide_eq_true apart same
    · exact (table.erase (key item)).distinct

/-! ## Lookups -/

@[simp] theorem find?_empty (target : Key) : (empty : Table Key Item key).find? target = none := rfl

variable {table : Table Key Item key} {target : Key} {item : Item}

theorem find?_eq_some :
    table.find? target = some item ↔ item ∈ table.items ∧ key item = target := by
  constructor
  · intro found
    exact ⟨List.mem_of_find?_eq_some found, of_decide_eq_true (List.find?_some found :)⟩
  · rintro ⟨member, same⟩
    cases found : table.find? target with
    | none =>
      have apart := List.find?_eq_none.mp found item member
      exact absurd (decide_eq_true same) apart
    | some other =>
      have listed := List.mem_of_find?_eq_some found
      have its : key other = target := of_decide_eq_true (List.find?_some found :)
      rw [List.inj_on_of_nodup_map table.distinct listed member (its.trans same.symm)]

theorem key_of_find? (found : table.find? target = some item) : key item = target :=
  (find?_eq_some.mp found).2

/-- An item of the table is found under its own key. -/
theorem find?_of_mem (member : item ∈ table.items) :
    table.find? (key item) = some item :=
  find?_eq_some.mpr ⟨member, rfl⟩

theorem find?_eq_none :
    table.find? target = none ↔ forall item, item ∈ table.items -> key item ≠ target := by
  apply List.find?_eq_none.trans
  constructor
  · intro absent item member same
    exact absent item member (decide_eq_true same)
  · intro absent item member same
    exact absent item member (of_decide_eq_true same)

theorem find?_isSome :
    (table.find? target).isSome = true ↔ target ∈ table.items.map key := by
  rw [Option.isSome_iff_exists, List.mem_map]
  constructor
  · rintro ⟨item, found⟩
    exact ⟨item, find?_eq_some.mp found⟩
  · rintro ⟨item, found⟩
    exact ⟨item, find?_eq_some.mpr found⟩

@[simp] theorem find?_erase (table : Table Key Item key) (gone target : Key) :
    (table.erase gone).find? target = if target = gone then none else table.find? target := by
  split
  next same =>
    rw [find?_eq_none]
    intro item member
    rw [same]
    exact of_decide_eq_true (List.mem_filter.mp member).2
  next apart =>
    apply Option.ext
    intro item
    rw [find?_eq_some, find?_eq_some]
    constructor
    · rintro ⟨member, same⟩
      exact ⟨(List.mem_filter.mp member).1, same⟩
    · rintro ⟨member, same⟩
      exact ⟨List.mem_filter.mpr ⟨member, decide_eq_true (same ▸ apart)⟩, same⟩

@[simp] theorem find?_insert (table : Table Key Item key) (item : Item) (target : Key) :
    (table.insert item).find? target = if target = key item then some item else table.find? target := by
  by_cases same : key item = target
  · rw [if_pos same.symm]
    exact find?_eq_some.mpr ⟨List.mem_cons_self, same⟩
  · rw [if_neg fun equal => same equal.symm]
    calc
      (table.insert item).find? target = (table.erase (key item)).find? target :=
        List.find?_cons_of_neg fun equal => same (of_decide_eq_true equal)
      _ = table.find? target := by
        rw [find?_erase, if_neg fun equal => same equal.symm]

@[simp] theorem find?_filterMap (table : Table Key Item key) (change : Item -> Option Item)
    (keeps : forall item next, change item = some next -> key next = key item) (target : Key) :
    (table.filterMap change keeps).find? target = (table.find? target).bind change := by
  apply Option.ext
  intro next
  rw [find?_eq_some, Option.bind_eq_some_iff]
  constructor
  · rintro ⟨member, same⟩
    rcases List.mem_filterMap.mp member with ⟨item, inside, changed⟩
    exact ⟨item, find?_eq_some.mpr ⟨inside, (keeps item next changed).symm.trans same⟩, changed⟩
  · rintro ⟨item, found, changed⟩
    rcases find?_eq_some.mp found with ⟨member, same⟩
    exact ⟨List.mem_filterMap.mpr ⟨item, member, changed⟩, (keeps item next changed).trans same⟩

@[simp] theorem find?_update (table : Table Key Item key) (selects : Item -> Bool) (change : Item -> Item)
    (keeps : forall item, key (change item) = key item) (target : Key) :
    (table.update selects change keeps).find? target =
      (table.find? target).map fun item => if selects item then change item else item := by
  unfold update
  rw [find?_filterMap]
  cases table.find? target with
  | none => rfl
  | some item => rfl

theorem mem_insert {next : Item} :
    next ∈ (table.insert item).items ↔ next = item ∨ (next ∈ table.items ∧ key next ≠ key item) := by
  unfold insert erase
  rw [List.mem_cons, List.mem_filter, decide_eq_true_eq]

theorem countP_key (table : Table Key Item key) (member : item ∈ table.items) :
    table.items.countP (fun other => decide (key other = key item)) = 1 := by
  have counted := List.count_eq_one_of_mem table.distinct (List.mem_map_of_mem member)
  rw [List.count, List.countP_map] at counted
  rw [← counted]
  apply List.countP_congr
  intro other _
  simp only [Function.comp_apply, decide_eq_true_eq, beq_iff_eq]

theorem changes_of_key {selects : Item -> Bool}
    (keyed : forall item, selects item = true -> key item = target) :
    table.changes selects = if (table.find? target).any selects then 1 else 0 := by
  unfold changes
  cases found : table.find? target with
  | none =>
    rw [Option.any_none, if_neg Bool.false_ne_true, List.countP_eq_zero]
    intro item member selected
    exact find?_eq_none.mp found item member (keyed item selected)
  | some item =>
    rcases find?_eq_some.mp found with ⟨member, same⟩
    rw [Option.any_some]
    cases selected : selects item with
    | false =>
      rw [if_neg Bool.false_ne_true, List.countP_eq_zero]
      intro other inside chosen
      have equal := List.inj_on_of_nodup_map table.distinct inside member
        ((keyed other chosen).trans same.symm)
      rw [equal, selected] at chosen
      cases chosen
    | true =>
      rw [if_pos rfl, ← table.countP_key member]
      apply List.countP_congr
      intro other inside
      rw [decide_eq_true_eq]
      constructor
      · intro chosen
        exact (keyed other chosen).trans same.symm
      · intro equal
        rw [List.inj_on_of_nodup_map table.distinct inside member equal]
        exact selected

theorem countP_erase (table : Table Key Item key) (gone : Key) (selects : Item -> Bool) :
    table.items.countP selects =
      (table.erase gone).items.countP selects + if (table.find? gone).any selects then 1 else 0 := by
  have keyed : forall item, (selects item && !decide (key item ≠ gone)) = true -> key item = gone := by
    intro item both
    simpa using (Bool.and_eq_true_iff.mp both).2
  have counted : table.changes _ = _ := changes_of_key keyed
  unfold changes at counted
  rw [List.countP_eq_countP_filter_add table.items selects (fun item => decide (key item ≠ gone)), List.countP_filter,
    List.countP_filter, counted]
  unfold erase
  rw [List.countP_filter]
  congr 1
  cases found : table.find? gone with
  | none => rfl
  | some item =>
    have same : key item = gone := key_of_find? found
    simp [same]

theorem countP_insert (table : Table Key Item key) (item : Item) (selects : Item -> Bool) :
    (table.insert item).items.countP selects =
      (table.erase (key item)).items.countP selects + if selects item then 1 else 0 := by
  unfold insert
  rw [List.countP_cons]

theorem filterMap_find? {items : List Item}
    (listed : forall item, item ∈ items -> table.find? (key item) = some item) :
    (items.map key).filterMap table.find? = items := by
  induction items with
  | nil => rfl
  | cons item items ih =>
    rw [List.map_cons, List.filterMap_cons_some (listed item List.mem_cons_self),
      ih fun later member => listed later (List.mem_cons_of_mem _ member)]

/-! ## Sums -/

/-- Without its item, a key leaves the rest. -/
theorem items_perm_erase
    (found : table.find? target = some item) : table.items.Perm (item :: (table.erase target).items) := by
  rcases find?_eq_some.mp found with ⟨member, same⟩
  rcases List.append_of_mem member with ⟨before, after, split⟩
  have distinct := table.distinct
  rw [split, List.map_append, List.map_cons, List.nodup_append] at distinct
  rcases distinct with ⟨-, right, apart⟩
  have left : before.filter (fun other => decide (key other ≠ target)) = before := by
    apply List.filter_eq_self.mpr
    intro other inside
    refine decide_eq_true fun equal => apart (key other) (List.mem_map_of_mem inside) (key item) ?_ (equal.trans same.symm)
    exact List.mem_cons_self
  have later : after.filter (fun other => decide (key other ≠ target)) = after := by
    apply List.filter_eq_self.mpr
    intro other inside
    refine decide_eq_true fun equal => (List.nodup_cons.mp right).1 ?_
    rw [same, ← equal]
    exact List.mem_map_of_mem inside
  have kept : (table.erase target).items = before ++ after := by
    show table.items.filter (fun other => decide (key other ≠ target)) = before ++ after
    rw [split, List.filter_append, List.filter_cons_of_neg (by simpa using same), left, later]
  rw [kept, split]
  exact List.perm_middle

theorem erase_of_absent (absent : table.find? target = none) :
    (table.erase target).items = table.items := by
  apply List.filter_eq_self.mpr
  intro other member
  exact decide_eq_true (find?_eq_none.mp absent other member)

theorem weight_erase (table : Table Key Item key) (target : Key) (selects : Item -> Bool) (size : Item -> Nat) :
    table.weight selects size = (table.erase target).weight selects size +
      (((table.find? target).filter selects).elim 0 size) := by
  unfold weight
  cases found : table.find? target with
  | none => rw [erase_of_absent found, Option.filter_none, Option.elim_none, Nat.add_zero]
  | some item =>
    rw [(((items_perm_erase found).filter selects).map size).sum_eq, Option.filter_some]
    by_cases selected : selects item = true
    · rw [if_pos selected, List.filter_cons_of_pos selected, List.map_cons, List.sum_cons, Nat.add_comm]
      rfl
    · rw [if_neg selected, List.filter_cons_of_neg selected]
      rfl

theorem weight_insert (table : Table Key Item key) (item : Item) (selects : Item -> Bool) (size : Item -> Nat) :
    (table.insert item).weight selects size =
      (table.erase (key item)).weight selects size + if selects item = true then size item else 0 := by
  unfold weight insert
  by_cases selected : selects item = true
  · rw [if_pos selected, List.filter_cons_of_pos selected, List.map_cons, List.sum_cons, Nat.add_comm]
  · rw [if_neg selected, List.filter_cons_of_neg selected, Nat.add_zero]

/-! ## Batches -/

/-- Insertion acts on each key by itself. -/
def inserts : KeyedUpdates (Table Key Item key) Key (Option Item) Item where
  look := find?
  key := key
  effect item _ := some item
  apply := insert
  look_apply_same table item := by rw [find?_insert, if_pos rfl]
  look_apply_other table item other apart := by rw [find?_insert, if_neg fun same => apart same.symm]

/-- Removal acts on each key by itself. -/
def erases : KeyedUpdates (Table Key Item key) Key (Option Item) Key where
  look := find?
  key := id
  effect _ _ := none
  apply := erase
  look_apply_same table gone := by rw [find?_erase, id, if_pos rfl]
  look_apply_other table gone other apart := by rw [find?_erase, if_neg fun same => apart same.symm]

def insertAll (table : Table Key Item key) (items : List Item) : Table Key Item key :=
  inserts.applyAll table items

def eraseAll (table : Table Key Item key) (keys : List Key) : Table Key Item key :=
  erases.applyAll table keys

theorem find?_insertAll_of_absent (table : Table Key Item key) {items : List Item}
    (absent : forall item, item ∈ items -> key item ≠ target) :
    (table.insertAll items).find? target = table.find? target :=
  inserts.look_applyAll_of_absent table absent

/-- New items of one key that agree are found under it. -/
theorem find?_insertAll_of_mem (table : Table Key Item key) {items : List Item}
    (member : item ∈ items) (agree : forall other, other ∈ items -> key other = key item -> other = item) :
    (table.insertAll items).find? (key item) = some item :=
  inserts.look_applyAll_of_agree items (key item) (some item) table
    (fun other inside same _ => congrArg some (agree other inside same)) ⟨item, member, rfl⟩

/-- New items with new keys are added to the ones there are. -/
theorem items_insertAll_perm (table : Table Key Item key) (items : List Item)
    (distinct : (items.map key).Nodup) (fresh : forall item, item ∈ items -> table.find? (key item) = none) :
    (table.insertAll items).items.Perm (items ++ table.items) := by
  induction items generalizing table with
  | nil => exact .refl _
  | cons item items ih =>
    rw [List.map_cons, List.nodup_cons] at distinct
    have kept : (table.erase (key item)).items = table.items := by
      apply List.filter_eq_self.mpr
      intro other member
      exact decide_eq_true (find?_eq_none.mp (fresh item List.mem_cons_self) other member)
    have rest := ih (table.insert item) distinct.2 (by
      intro other later
      rw [find?_insert, if_neg fun same => distinct.1 (List.mem_map.mpr ⟨other, later, same⟩)]
      exact fresh other (List.mem_cons_of_mem _ later))
    apply rest.trans
    change (items ++ item :: (table.erase (key item)).items).Perm _
    rw [kept]
    exact List.perm_middle

@[simp] theorem find?_eraseAll (table : Table Key Item key) (keys : List Key) (target : Key) :
    (table.eraseAll keys).find? target = if target ∈ keys then none else table.find? target := by
  split
  next listed => exact erases.look_applyAll_of_agree keys target none table (fun _ _ _ _ => rfl) ⟨target, listed, rfl⟩
  next absent =>
    apply erases.look_applyAll_of_absent
    intro gone member same
    exact absent (same ▸ member)

end Table
end TelegramDrive
