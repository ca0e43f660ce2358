import Mathlib.Data.List.Pairwise
import Mathlib.Order.Lattice
import Mathlib.Tactic.Tauto

namespace TelegramDrive

universe u v

/-!
# Maps in the order of their keys

An ordered map is a list of items whose keys, read off the items, increase
strictly.  It stands for a map that is visited in the order of its keys and can
lose its first items.
-/

/-- Items with strictly increasing keys. -/
structure OrderedMap (Key : Type u) (Item : Type v) [LinearOrder Key] (key : Item -> Key) where
  items : List Item
  ordered : items.Pairwise fun one two => key one < key two

namespace OrderedMap

variable {Key : Type u} {Item : Type v} [LinearOrder Key] {key : Item -> Key}

def empty : OrderedMap Key Item key := ⟨[], .nil⟩

def keys (map : OrderedMap Key Item key) : List Key := map.items.map key

def find? (map : OrderedMap Key Item key) (target : Key) : Option Item :=
  map.items.find? fun item => decide (key item = target)

def erase (map : OrderedMap Key Item key) (target : Key) : OrderedMap Key Item key where
  items := map.items.filter fun item => decide (key item ≠ target)
  ordered := map.ordered.sublist List.filter_sublist

/-- Put an item in its place, instead of the one that has its key. -/
def insert (map : OrderedMap Key Item key) (item : Item) : OrderedMap Key Item key where
  items := (map.items.filter fun other => decide (key other < key item)) ++
    item :: map.items.filter fun other => decide (key item < key other)
  ordered := by
    have below : forall other, other ∈ (map.items.filter fun other => decide (key other < key item)) ->
        key other < key item :=
      fun other member => of_decide_eq_true (List.mem_filter.mp member).2
    have above : forall other, other ∈ (map.items.filter fun other => decide (key item < key other)) ->
        key item < key other :=
      fun other member => of_decide_eq_true (List.mem_filter.mp member).2
    apply List.pairwise_append.mpr
    refine ⟨map.ordered.sublist List.filter_sublist, ?_, ?_⟩
    · exact List.pairwise_cons.mpr ⟨above, map.ordered.sublist List.filter_sublist⟩
    · intro one first two second
      rcases List.mem_cons.mp second with rfl | later
      · exact below one first
      · exact lt_trans (below one first) (above two later)

/-- Insert the items of a list, one after another. -/
def insertAll (map : OrderedMap Key Item key) (items : List Item) : OrderedMap Key Item key :=
  items.foldl insert map

def eraseAll (map : OrderedMap Key Item key) (targets : List Key) : OrderedMap Key Item key :=
  targets.foldl erase map

/-- Without the first items. -/
def dropFirst (map : OrderedMap Key Item key) (count : Nat) : OrderedMap Key Item key where
  items := map.items.drop count
  ordered := map.ordered.sublist (List.drop_sublist count map.items)

/-- The keys above a bound, in their order. -/
def keysAfter (map : OrderedMap Key Item key) (bound : Key) : List Key :=
  map.keys.filter fun other => decide (bound < other)

variable {map : OrderedMap Key Item key} {target : Key}

/-! ## Keys -/

theorem find?_isSome : (map.find? target).isSome = true ↔ target ∈ map.keys := by
  unfold find? keys
  rw [List.find?_isSome, List.mem_map]
  simp only [decide_eq_true_eq]

variable {item : Item}

theorem find?_some (found : map.find? target = some item) :
    item ∈ map.items ∧ key item = target :=
  ⟨List.mem_of_find?_eq_some found, of_decide_eq_true (List.find?_some found :)⟩

theorem find?_of_mem (member : item ∈ map.items) : map.find? (key item) = some item := by
  unfold find?
  have ordered := map.ordered
  revert member ordered
  generalize map.items = items
  intro member ordered
  induction items with
  | nil => exact absurd member List.not_mem_nil
  | cons first items ih =>
    rw [List.pairwise_cons] at ordered
    rcases List.mem_cons.mp member with rfl | later
    · simp
    · have apart : key first ≠ key item := ne_of_lt (ordered.1 item later)
      rw [List.find?_cons_of_neg (by simpa using apart)]
      exact ih later ordered.2

@[simp] theorem mem_keys_erase {gone : Key} :
    target ∈ (map.erase gone).keys ↔ target ∈ map.keys ∧ target ≠ gone := by
  unfold keys erase
  simp only [List.mem_map, List.mem_filter, decide_eq_true_eq]
  constructor
  · rintro ⟨other, ⟨member, apart⟩, rfl⟩
    exact ⟨⟨other, member, rfl⟩, apart⟩
  · rintro ⟨⟨other, member, rfl⟩, apart⟩
    exact ⟨other, ⟨member, apart⟩, rfl⟩

theorem mem_keys_dropFirst {count : Nat} (member : target ∈ (map.dropFirst count).keys) :
    target ∈ map.keys :=
  ((List.drop_sublist count map.items).map key).subset member

@[ext] theorem ext {one two : OrderedMap Key Item key} (same : one.items = two.items) : one = two := by
  cases one
  cases two
  cases same
  rfl

instance [DecidableEq Item] : DecidableEq (OrderedMap Key Item key) := fun one two =>
  decidable_of_iff (one.items = two.items) ⟨ext, fun same => same ▸ rfl⟩

/-- Change the items that a test selects, under their keys. -/
def update (map : OrderedMap Key Item key) (selects : Item -> Bool) (change : Item -> Item)
    (keeps : forall item, key (change item) = key item) : OrderedMap Key Item key where
  items := map.items.map fun item => if selects item then change item else item
  ordered := by
    apply List.pairwise_map.mpr
    refine map.ordered.imp ?_
    intro one two before
    have kept : forall item, key (if selects item then change item else item) = key item := by
      intro item
      split
      · exact keeps item
      · rfl
    rw [kept, kept]
    exact before

/-- Put an item under a key that nothing has yet. -/
def insertNew? (map : OrderedMap Key Item key) (item : Item) : Option (OrderedMap Key Item key) :=
  if (map.find? (key item)).isSome then none else some (map.insert item)

/-- An item above every other is put at the end. -/
theorem insertNew?_last (above : forall other, other ∈ map.items -> key other < key item) :
    Exists fun next => map.insertNew? item = some next ∧ next.items = map.items ++ [item] := by
  have absent : (map.find? (key item)).isSome = false := by
    rw [Bool.eq_false_iff]
    intro present
    rcases List.mem_map.mp (find?_isSome.mp present) with ⟨other, member, same⟩
    exact absurd same (ne_of_lt (above other member))
  refine ⟨map.insert item, by rw [insertNew?, absent]; rfl, ?_⟩
  have below : (map.items.filter fun other => decide (key other < key item)) = map.items :=
    List.filter_eq_self.mpr fun other member => decide_eq_true (above other member)
  have none : (map.items.filter fun other => decide (key item < key other)) = [] :=
    List.filter_eq_nil_iff.mpr fun other member later =>
      absurd (of_decide_eq_true later) (not_lt_of_gt (above other member))
  show (map.items.filter fun other => decide (key other < key item)) ++
    item :: (map.items.filter fun other => decide (key item < key other)) = map.items ++ [item]
  rw [below, none]

/-- Items that follow those of a map are added to it in their order. -/
theorem foldlM_insertNew? {rest : List Item}
    (ordered : (map.items ++ rest).Pairwise fun one two => key one < key two) :
    Exists fun final => rest.foldlM insertNew? map = some final ∧ final.items = map.items ++ rest := by
  induction rest generalizing map with
  | nil => exact ⟨map, rfl, (List.append_nil _).symm⟩
  | cons item rest ih =>
    have above : forall other, other ∈ map.items -> key other < key item :=
      fun other member => (List.pairwise_append.mp ordered).2.2 other member item List.mem_cons_self
    rcases insertNew?_last above with ⟨next, inserted, items⟩
    have together : next.items ++ rest = map.items ++ item :: rest := by
      rw [items, List.append_assoc, List.singleton_append]
    rcases ih (together ▸ ordered) with ⟨final, filled, whole⟩
    refine ⟨final, ?_, whole.trans together⟩
    rw [List.foldlM_cons, inserted]
    exact filled

theorem foldlM_insertNew?_items (map : OrderedMap Key Item key) :
    map.items.foldlM insertNew? empty = some map := by
  have whole : ((empty : OrderedMap Key Item key).items ++ map.items).Pairwise fun one two =>
      key one < key two := map.ordered
  rcases foldlM_insertNew? whole with ⟨final, filled, items⟩
  rw [filled, ext items]

/-! ## What changes find -/

theorem find?_eq_some_iff : map.find? target = some item ↔ item ∈ map.items ∧ key item = target := by
  constructor
  · exact find?_some
  · rintro ⟨member, rfl⟩
    exact find?_of_mem member

theorem find?_eq_none_iff : map.find? target = none ↔ target ∉ map.keys := by
  rw [← find?_isSome, Bool.not_eq_true, Option.isSome_eq_false_iff, Option.isNone_iff_eq_none]

theorem find?_update {selects : Item -> Bool} {change : Item -> Item}
    {keeps : forall item, key (change item) = key item} : (map.update selects change keeps).find? target =
      (map.find? target).map fun item => if selects item then change item else item := by
  have kept : forall item, key (if selects item then change item else item) = key item := by
    intro item
    split
    · exact keeps item
    · rfl
  unfold find? update
  rw [List.find?_map]
  congr 2
  funext item
  exact congrArg (fun found => decide (found = target)) (kept item)

theorem find?_erase {gone : Key} :
    (map.erase gone).find? target = if target = gone then none else map.find? target := by
  split
  next same =>
    rw [find?_eq_none_iff, mem_keys_erase]
    exact fun present => present.2 same
  next apart =>
    ext item
    rw [find?_eq_some_iff, find?_eq_some_iff]
    constructor
    · exact fun found => ⟨(List.mem_filter.mp found.1).1, found.2⟩
    · exact fun found =>
        ⟨List.mem_filter.mpr ⟨found.1, decide_eq_true fun same => apart (found.2.symm.trans same)⟩, found.2⟩

theorem find?_insertNew? (absent : map.find? (key item) = none) :
    Exists fun next => map.insertNew? item = some next ∧
      forall other, next.find? other = if other = key item then some item else map.find? other := by
  refine ⟨map.insert item, by rw [insertNew?, absent]; rfl, fun other => ?_⟩
  have members : forall found, found ∈ (map.insert item).items ↔
      found = item ∨ found ∈ map.items ∧ key found ≠ key item := by
    intro found
    unfold insert
    simp only [List.mem_append, List.mem_cons, List.mem_filter, decide_eq_true_eq]
    rw [ne_iff_lt_or_gt]
    tauto
  split
  next same => exact find?_eq_some_iff.mpr ⟨(members item).mpr (Or.inl rfl), same.symm⟩
  next apart =>
    ext found
    rw [find?_eq_some_iff, find?_eq_some_iff, members]
    constructor
    · rintro ⟨rfl | ⟨member, -⟩, same⟩
      · exact absurd same.symm apart
      · exact ⟨member, same⟩
    · rintro ⟨member, rfl⟩
      exact ⟨Or.inr ⟨member, apart⟩, rfl⟩

theorem items_nodup (map : OrderedMap Key Item key) : map.items.Nodup :=
  map.ordered.imp fun before same => absurd (congrArg key same) (ne_of_lt before)

end OrderedMap
end TelegramDrive
