import Mathlib.Algebra.GroupWithZero.Nat
import Mathlib.Data.List.Basic
import Mathlib.Data.Vector.Defs

namespace TelegramDrive

universe u v

/-!
# Reading arrays by position

A program that indexes an array stops when the index is outside of it.  A computation over
arrays can therefore end in three ways: with a value, with an error of its own, or by such
a stop.  Accesses within the bounds give the part of the array at that position, and the
parts of an array put together again give the array.
-/

namespace ArrayAccess

inductive Checked (Error : Type u) (α : Type v)
  | returned (value : α)
  | failed (error : Error)
  | panicked
deriving DecidableEq

namespace Checked

variable {Error : Type u} {α β : Type v}

protected def bind (first : Checked Error α) (next : α -> Checked Error β) : Checked Error β :=
  match first with
  | .returned value => next value
  | .failed error => .failed error
  | .panicked => .panicked

instance : Monad (Checked Error) where
  pure := .returned
  bind := Checked.bind

/-- A computation that never indexes an array. -/
def ofExcept : Except Error α -> Checked Error α
  | .ok value => .returned value
  | .error error => .failed error

def ofOption (error : Error) : Option α -> Checked Error α
  | some value => .returned value
  | none => .failed error

/-- An early return with an error unless the condition holds. -/
def require (condition : Prop) [Decidable condition] (error : Error) : Checked Error PUnit.{v + 1} :=
  if condition then .returned PUnit.unit else .failed error

theorem bind_returned {first : Checked Error α} {next : α -> Checked Error β} {result : β}
    (done : (first >>= next) = .returned result) :
    Exists fun value => first = .returned value ∧ next value = .returned result := by
  cases first with
  | returned value => exact ⟨value, rfl, done⟩
  | failed error | panicked => cases done

theorem bind_returned_iff {first : Checked Error α} {next : α -> Checked Error β} {result : β} :
    (first >>= next) = .returned result ↔ Exists fun value => first = .returned value ∧ next value = .returned result := by
  constructor
  · exact bind_returned
  · rintro ⟨value, done, later⟩
    rw [done]
    exact later

theorem returned_bind (value : α) (next : α -> Checked Error β) :
    ((.returned value : Checked Error α) >>= next) = next value := rfl

theorem ofExcept_returned {result : Except Error α} {value : α} :
    ofExcept result = .returned value ↔ result = .ok value := by
  cases result with
  | ok found =>
    constructor
    · intro done
      cases done
      rfl
    · intro done
      cases done
      rfl
  | error error =>
    constructor
    · intro done
      cases done
    · intro done
      cases done

theorem ofExcept_bind_returned {result : Except Error α} {next : α -> Checked Error β} {value : β} :
    (ofExcept result >>= next) = .returned value ↔ Exists fun item => result = .ok item ∧ next item = .returned value := by
  rw [bind_returned_iff]
  simp only [ofExcept_returned]

theorem ofOption_some (error : Error) (value : α) : ofOption error (some value) = .returned value := rfl

theorem ofOption_returned {error : Error} {result : Option α} {value : α} :
    ofOption error result = .returned value ↔ result = some value := by
  cases result with
  | some found =>
    constructor
    · intro done
      cases done
      rfl
    · intro done
      cases done
      rfl
  | none =>
    constructor
    · intro done
      cases done
    · intro done
      cases done

theorem require_bind_returned {condition : Prop} [Decidable condition] {error : Error}
    {next : PUnit.{v + 1} -> Checked Error β} {result : β} :
    (require condition error >>= next) = .returned result ↔ condition ∧ next PUnit.unit = .returned result := by
  unfold require
  split
  next holds => exact ⟨fun done => ⟨holds, done⟩, fun both => both.2⟩
  next fails =>
    constructor
    · intro done
      cases done
    · intro both
      exact (fails both.1).elim

theorem require_of {condition : Prop} [Decidable condition] (holds : condition) (error : Error) :
    (require condition error : Checked Error PUnit.{v + 1}) = .returned PUnit.unit :=
  if_pos holds

/-! ## Computations that never stop outside an array -/

def Safe (computation : Checked Error α) : Prop := computation ≠ .panicked

theorem safe_returned (value : α) : (.returned value : Checked Error α).Safe := by
  intro stopped
  cases stopped

theorem safe_failed (error : Error) : (.failed error : Checked Error α).Safe := by
  intro stopped
  cases stopped

theorem safe_require (condition : Prop) [Decidable condition] (error : Error) :
    (require condition error : Checked Error PUnit.{v + 1}).Safe := by
  unfold require
  split
  · exact safe_returned _
  · exact safe_failed _

theorem safe_ofExcept (result : Except Error α) : (ofExcept result).Safe := by
  cases result with
  | ok value => exact safe_returned _
  | error error => exact safe_failed _

theorem safe_ofOption (error : Error) (result : Option α) : (ofOption error result).Safe := by
  cases result with
  | some value => exact safe_returned _
  | none => exact safe_failed _

/-- The second step need only be safe after what the first may return. -/
theorem safe_bind {first : Checked Error α} {next : α -> Checked Error β} (safe : first.Safe)
    (later : forall value, first = .returned value -> (next value).Safe) : (first >>= next).Safe := by
  cases first with
  | returned value => exact later value rfl
  | failed error => exact safe_failed error
  | panicked => exact (safe rfl).elim

theorem safe_require_bind {condition : Prop} [Decidable condition] {error : Error}
    {next : PUnit.{v + 1} -> Checked Error β} (later : condition -> (next PUnit.unit).Safe) :
    (require condition error >>= next).Safe := by
  unfold require
  split
  next holds => exact later holds
  · exact safe_failed error

end Checked

/-! ## Parts of an array -/

section Parts

variable {α : Type v}

/-- So many items from a position on. -/
def part (items : List α) (start count : Nat) : List α := (items.drop start).take count

theorem part_length {items : List α} {start count : Nat} (within : start + count ≤ items.length) :
    (part items start count).length = count := by
  unfold part
  rw [List.length_take, List.length_drop]
  omega

theorem part_zero (items : List α) (count : Nat) : part items 0 count = items.take count := rfl

theorem part_append (items : List α) (start first second : Nat) :
    part items start first ++ part items (start + first) second = part items start (first + second) := by
  unfold part
  rw [← List.drop_drop, ← List.take_add]

theorem part_eq_append {items first second : List α} {start one two : Nat} (firstLength : first.length = one)
    (secondLength : second.length = two) : part items start (one + two) = first ++ second ↔
      part items start one = first ∧ part items (start + one) two = second := by
  rw [← part_append]
  constructor
  · intro same
    refine List.append_inj same ?_
    have total := congrArg List.length same
    have front : (part items start one).length ≤ one := List.length_take_le _ _
    have behind : (part items (start + one) two).length ≤ two := List.length_take_le _ _
    rw [List.length_append, List.length_append] at total
    omega
  · rintro ⟨rfl, rfl⟩
    rfl

theorem part_after (before field rest : List α) {start count : Nat} (starts : before.length = start)
    (counts : field.length = count) : part (before ++ (field ++ rest)) start count = field := by
  unfold part
  rw [List.drop_left' starts, List.take_left' counts]

/-- The parts of so many items each, one behind the other. -/
def cut (items : List α) (start : Nat) : List Nat -> List (List α)
  | [] => []
  | width :: widths => part items start width :: cut items (start + width) widths

theorem cut_flatten (items : List α) (start : Nat) (widths : List Nat) :
    (cut items start widths).flatten = part items start widths.sum := by
  induction widths generalizing start with
  | nil =>
    unfold part
    rw [List.sum_nil, List.take_zero]
    rfl
  | cons width widths ih =>
    rw [cut, List.flatten_cons, ih, part_append, List.sum_cons]

/-- A field of a record of fields is found behind the widths of the fields before it. -/
theorem part_flatten {fields : List (List α)} {widths : List Nat} (wide : fields.map List.length = widths)
    (rest : List α) (index : Nat) {field : List α} (found : fields[index]? = some field) {start count : Nat}
    (starts : (widths.take index).sum = start) (counts : widths[index]? = some count) :
    part (fields.flatten ++ rest) start count = field := by
  rcases List.getElem?_eq_some_iff.mp found with ⟨inside, here⟩
  have whole : fields = fields.take index ++ (field :: fields.drop (index + 1)) := by
    rw [← here, ← List.drop_eq_getElem_cons inside, List.take_append_drop]
  have front : (fields.take index).flatten.length = start := by
    rw [List.length_flatten, List.map_take, wide, starts]
  have length : field.length = count := by
    rw [← wide, List.getElem?_map, found, Option.map_some] at counts
    exact Option.some.inj counts
  rw [whole, List.flatten_append, List.flatten_cons, List.append_assoc, List.append_assoc]
  exact part_after _ _ _ front length

end Parts

/-! ## Accesses -/

section Accesses

variable {Error : Type u} {α : Type v}

def element (items : List α) (index : Nat) : Checked Error α :=
  match items[index]? with
  | some item => .returned item
  | none => .panicked

/-- The items at so many positions, each of them read by itself. -/
def elements (items : List α) (start : Nat) : Nat -> Checked Error (List α)
  | 0 => .returned []
  | count + 1 => do
      let first <- element items start
      let others <- elements items (start + 1) count
      return first :: others

def slice (items : List α) (start stop : Nat) : Checked Error (List α) :=
  if start ≤ stop ∧ stop ≤ items.length then .returned (part items start (stop - start)) else .panicked

/-- Copying to an array of fixed size, which has to be the size of what is copied. -/
def copyFromSlice (size : Nat) (items : List α) : Checked Error (List.Vector α size) :=
  if same : items.length = size then .returned ⟨items, same⟩ else .panicked

theorem element_of_lt {items : List α} {index : Nat} (inside : index < items.length) :
    (element items index : Checked Error α) = .returned items[index] := by
  unfold element
  rw [List.getElem?_eq_getElem inside]

theorem elements_of_le {items : List α} {start count : Nat} (within : start + count ≤ items.length) :
    (elements items start count : Checked Error (List α)) = .returned (part items start count) := by
  induction count generalizing start with
  | zero =>
    unfold part
    rw [List.take_zero]
    rfl
  | succ count ih =>
    have inside : start < items.length := by omega
    rw [elements, element_of_lt inside, Checked.returned_bind, ih (by omega),
      Checked.returned_bind]
    unfold part
    rw [List.drop_eq_getElem_cons inside, List.take_succ_cons]
    rfl

theorem slice_of_le {items : List α} {start stop : Nat} (ordered : start ≤ stop) (within : stop ≤ items.length) :
    (slice items start stop : Checked Error (List α)) = .returned (part items start (stop - start)) :=
  if_pos ⟨ordered, within⟩

theorem copyFromSlice_part {items : List α} {start count size : Nat} (within : start + size ≤ items.length)
    (same : count = size) : (copyFromSlice size (part items start count) : Checked Error (List.Vector α size)) =
      .returned ⟨part items start size, part_length within⟩ := by
  subst same
  exact dif_pos (part_length within)

end Accesses

end ArrayAccess
end TelegramDrive
