import Mathlib.Data.List.Nodup

namespace TelegramDrive

universe u v w x

/-!
# Batches of updates that each touch one key

A keyed update reads and writes a state at the key of its item only.  A batch
of them, applied in order, then acts on each key through the items of that key
alone.  In a batch whose keys are distinct the value at the key of an item is
what that item makes of the value before the batch, and every other key keeps
its value.
-/

/-- Updates of a keyed state, each local to the key of its item. -/
structure KeyedUpdates (State : Type u) (Key : Type v) (Value : Type w) (Item : Type x) where
  look : State -> Key -> Value
  key : Item -> Key
  effect : Item -> Value -> Value
  apply : State -> Item -> State
  look_apply_same : forall state item, look (apply state item) (key item) =
    effect item (look state (key item))
  look_apply_other : forall state item other, key item ≠ other ->
    look (apply state item) other = look state other

namespace KeyedUpdates

variable {State : Type u} {Key : Type v} {Value : Type w} {Item : Type x}
variable (updates : KeyedUpdates State Key Value Item)

/-- Apply a batch in order. -/
def applyAll (state : State) (items : List Item) : State := items.foldl updates.apply state

@[simp] theorem applyAll_nil (state : State) : updates.applyAll state [] = state := rfl

@[simp] theorem applyAll_cons (state : State) (item : Item) (items : List Item) :
    updates.applyAll state (item :: items) = updates.applyAll (updates.apply state item) items := rfl

theorem applyAll_append (state : State) (before after : List Item) :
    updates.applyAll state (before ++ after) =
      updates.applyAll (updates.applyAll state before) after :=
  List.foldl_append

/-- A key that no item of the batch has keeps its value. -/
theorem look_applyAll_of_absent (state : State) {items : List Item} {target : Key}
    (absent : forall item, item ∈ items -> updates.key item ≠ target) :
    updates.look (updates.applyAll state items) target = updates.look state target := by
  induction items generalizing state with
  | nil => rfl
  | cons item items ih =>
    rw [applyAll_cons, ih _ fun later member =>
      absent later (List.mem_cons_of_mem item member)]
    exact updates.look_apply_other state item target (absent item List.mem_cons_self)

theorem look_applyAll_of_mem (state : State) {items : List Item}
    (distinct : (items.map updates.key).Nodup) {item : Item} (member : item ∈ items) :
    updates.look (updates.applyAll state items) (updates.key item) =
      updates.effect item (updates.look state (updates.key item)) := by
  induction items generalizing state with
  | nil => cases member
  | cons first items ih =>
    rw [List.map_cons, List.nodup_cons] at distinct
    rw [applyAll_cons]
    rcases List.mem_cons.mp member with rfl | later
    · rw [look_applyAll_of_absent, look_apply_same]
      intro other inside same
      exact distinct.1 (List.mem_map.mpr ⟨other, inside, same⟩)
    · rw [ih _ distinct.2 later, look_apply_other]
      intro same
      exact distinct.1 (List.mem_map.mpr ⟨item, later, same.symm⟩)

/-- When every item of a key writes one and the same value, and there is such an
item, that value stands at the key after the batch. -/
theorem look_applyAll_of_agree (items : List Item) (target : Key) (value : Value) (state : State)
    (agree : forall item, item ∈ items -> updates.key item = target -> forall before,
      updates.effect item before = value)
    (present : Exists fun item => item ∈ items ∧ updates.key item = target) :
    updates.look (updates.applyAll state items) target = value := by
  induction items generalizing state with
  | nil =>
    rcases present with ⟨item, impossible, -⟩
    cases impossible
  | cons first items ih =>
    rw [applyAll_cons]
    have agreeLater : forall item, item ∈ items -> updates.key item = target -> forall before,
        updates.effect item before = value :=
      fun item later => agree item (List.mem_cons_of_mem first later)
    by_cases again : Exists fun item => item ∈ items ∧ updates.key item = target
    · exact ih _ agreeLater again
    · rcases present with ⟨item, member, same⟩
      rcases List.mem_cons.mp member with rfl | later
      · rw [look_applyAll_of_absent _ _ fun item later other => again ⟨item, later, other⟩,
          ← same, look_apply_same]
        exact agree item List.mem_cons_self same _
      · exact absurd ⟨item, later, same⟩ again

theorem look_applyAll_invariant (property : Value -> Prop) (state : State) {items : List Item}
    {target : Key}
    (preserved : forall item, item ∈ items -> updates.key item = target -> forall value,
      property value -> property (updates.effect item value))
    (start : property (updates.look state target)) :
    property (updates.look (updates.applyAll state items) target) := by
  induction items generalizing state with
  | nil => exact start
  | cons item items ih =>
    rw [applyAll_cons]
    refine ih _ (fun later member =>
      preserved later (List.mem_cons_of_mem item member)) ?_
    by_cases same : updates.key item = target
    · subst same
      rw [look_apply_same]
      exact preserved item List.mem_cons_self rfl _ start
    · rw [look_apply_other _ _ _ _ same]
      exact start

end KeyedUpdates
end TelegramDrive
