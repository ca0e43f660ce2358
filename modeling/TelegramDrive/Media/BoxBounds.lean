import TelegramDrive.Media.BoxWalk
import Mathlib.Tactic.Common

namespace TelegramDrive
namespace Media

open ArrayAccess

/-!
# Where a walk leaves the buffer

A walk trusts the sizes it reads.  It stops the program exactly when it stands
before a box of which the buffer holds the size but not the whole kind, or when a
size takes it past the last value of a `usize`.  Where a walk stands is told here
by the contents of the buffer alone.
-/

theorem values_large (target : Target) : 2 ^ 32 ≤ target.values := by
  cases target with
  | bits32 => exact Nat.le_refl _
  | bits64 => decide

/-- A box whose header is in the buffer. -/
structure BoxAt (buffer : List Byte) (offset size : Nat) : Prop where
  read : u32At buffer offset = some size
  large : 8 ≤ size
  complete : offset + 8 ≤ buffer.length

def kindAt (buffer : List Byte) (offset : Nat) : FourCc := part buffer (offset + 4) 4

/-- A walk that starts here and passes by these boxes comes to stand there. -/
inductive Stands (buffer : List Byte) (strict : Bool) (stop : Nat) (passes : Nat -> Nat -> Prop)
    (start : Nat) : Nat -> Prop
  | here : Stands buffer strict stop passes start start
  | next {offset size : Nat} (there : Stands buffer strict stop passes start offset)
      (inside : Inside strict offset stop) (box : BoxAt buffer offset size) (passed : passes offset size) :
      Stands buffer strict stop passes start (offset + size)

/-- Wherever the walk stands, the next header can be read, and what is done there and the
step to the next box are harmless. -/
def ClearWalk (target : Target) (buffer : List Byte) (strict : Bool) (stop : Nat)
    (passes harmless : Nat -> Nat -> Prop) (start : Nat) : Prop :=
  forall offset, Stands buffer strict stop passes start offset ->
    offset + 8 < target.values ∧ (Inside strict offset stop -> forall size,
      u32At buffer offset = some size -> 8 ≤ size -> offset + 8 ≤ buffer.length ∧
        harmless offset size ∧ (passes offset size -> offset + size < target.values))

section Walks

variable {target : Target} {buffer : List Byte} {strict : Bool} {stop : Nat}

theorem add_of_lt {one two : Nat} (fits : one + two < target.values) :
    add target one two = .returned (one + two) :=
  if_pos fits

theorem add_of_le {one two : Nat} (large : target.values ≤ one + two) :
    add target one two = .panicked :=
  if_neg (by omega)

theorem readU32Be_of_lt {offset : Nat} (fits : offset + 4 < target.values) :
    readU32Be target buffer offset = .returned (u32At buffer offset) := by
  unfold readU32Be
  rw [add_of_lt fits]
  rfl

/-- A computation without errors of its own returns a value when it is not stopped. -/
theorem returns_of_safe {α : Type} {computation : Checked Empty α} (safe : computation.Safe) :
    Exists fun value => computation = .returned value := by
  cases computation with
  | returned value => exact ⟨value, rfl⟩
  | failed error => exact error.elim
  | panicked => exact (safe rfl).elim

section Loop

variable {α : Type} {visit : Nat -> Nat -> FourCc -> Checked Empty (Option α)}

variable {offset size start : Nat}

theorem walk_ends (fits : offset + 8 < target.values)
    (ends : Inside strict offset stop -> forall size, u32At buffer offset = some size -> size < 8) :
    walk target buffer strict stop visit offset = .returned none := by
  rw [walk, if_pos fits]
  split
  next inside =>
    rw [readU32Be_of_lt (by omega), Checked.returned_bind]
    cases read : u32At buffer offset with
    | none => rfl
    | some size => exact dif_pos (ends inside size read)
  · rfl

theorem walk_overflows (large : target.values ≤ offset + 8) :
    walk target buffer strict stop visit offset = .panicked := by
  rw [walk, if_neg (by omega)]

theorem walk_cut (fits : offset + 8 < target.values) (inside : Inside strict offset stop)
    (read : u32At buffer offset = some size) (large : 8 ≤ size) (cut : buffer.length < offset + 8) :
    walk target buffer strict stop visit offset = .panicked := by
  rw [walk, if_pos fits, dif_pos inside, readU32Be_of_lt (by omega), Checked.returned_bind, read]
  dsimp only
  rw [dif_neg (by omega)]
  have outside : (slice buffer (offset + 4) (offset + 8) : Checked Empty FourCc) = .panicked :=
    if_neg (by omega)
  rw [outside]
  rfl

theorem walk_box (fits : offset + 8 < target.values) (inside : Inside strict offset stop)
    (box : BoxAt buffer offset size) : walk target buffer strict stop visit offset =
      (visit offset size (kindAt buffer offset) >>= fun found =>
        match found with
        | some result => .returned (some result)
        | none =>
          if offset + size < target.values then walk target buffer strict stop visit (offset + size)
          else .panicked) := by
  have large := box.large
  rw [walk, if_pos fits, dif_pos inside, readU32Be_of_lt (by omega), Checked.returned_bind, box.read]
  dsimp only
  rw [dif_neg (by omega), slice_of_le (by omega) box.complete, Checked.returned_bind,
    Nat.add_sub_add_left]
  rfl

/-- What is known of the action at a box: when it is harmless, and when the walk goes on. -/
structure Visits (target : Target) (buffer : List Byte) (passes harmless : Nat -> Nat -> Prop)
    (visit : Nat -> Nat -> FourCc -> Checked Empty (Option α)) : Prop where
  safe : forall offset size, BoxAt buffer offset size -> offset + 8 < target.values ->
    ((visit offset size (kindAt buffer offset)).Safe ↔ harmless offset size)
  goesOn : forall offset size, BoxAt buffer offset size -> harmless offset size ->
    (visit offset size (kindAt buffer offset) = .returned none ↔ passes offset size)

variable {passes harmless : Nat -> Nat -> Prop}

theorem stands_step (stands : Stands buffer strict stop passes start offset) :
    offset = start ∨ Exists fun size => Inside strict start stop ∧ BoxAt buffer start size ∧
      passes start size ∧ Stands buffer strict stop passes (start + size) offset := by
  induction stands with
  | here => exact Or.inl rfl
  | @next offset size there inside box passed ih =>
    rcases ih with rfl | ⟨first, inStart, boxStart, passStart, later⟩
    · exact Or.inr ⟨size, inside, box, passed, .here⟩
    · exact Or.inr ⟨first, inStart, boxStart, passStart, .next later inside box passed⟩

theorem stands_behind (inside : Inside strict start stop)
    (box : BoxAt buffer start size) (passed : passes start size)
    (stands : Stands buffer strict stop passes (start + size) offset) :
    Stands buffer strict stop passes start offset := by
  induction stands with
  | here => exact .next .here inside box passed
  | next there inside box passed ih =>
    exact .next ih inside box passed

theorem boxAt_unique {one two : Nat} (first : BoxAt buffer offset one)
    (second : BoxAt buffer offset two) : one = two :=
  Option.some.inj (first.read.symm.trans second.read)

theorem clearWalk_iff : ClearWalk target buffer strict stop passes harmless start ↔
    start + 8 < target.values ∧ (Inside strict start stop -> forall size,
      u32At buffer start = some size -> 8 ≤ size -> start + 8 ≤ buffer.length ∧ harmless start size ∧
        (passes start size -> start + size < target.values ∧
          ClearWalk target buffer strict stop passes harmless (start + size))) := by
  constructor
  · intro clear
    have first := clear start .here
    refine ⟨first.1, fun inside size read large => ?_⟩
    rcases first.2 inside size read large with ⟨complete, harm, fits⟩
    refine ⟨complete, harm, fun passed => ⟨fits passed, ?_⟩⟩
    intro offset stands
    exact clear offset (stands_behind inside ⟨read, large, complete⟩ passed stands)
  · rintro ⟨fits, first⟩ offset stands
    rcases stands_step stands with rfl | ⟨size, inside, box, passed, later⟩
    · refine ⟨fits, fun inside size read large => ?_⟩
      rcases first inside size read large with ⟨complete, harm, behind⟩
      exact ⟨complete, harm, fun passed => (behind passed).1⟩
    · have behind := (first inside size box.read box.large).2.2 passed
      exact behind.2 offset later

theorem walk_safe_iff (visits : Visits target buffer passes harmless visit) (start : Nat) :
    (walk target buffer strict stop visit start).Safe ↔
      ClearWalk target buffer strict stop passes harmless start := by
  induction room : stop - start using Nat.strongRecOn generalizing start with
  | ind length ih =>
    rw [clearWalk_iff]
    by_cases fits : start + 8 < target.values
    · by_cases box : Inside strict start stop ∧ Exists fun size => u32At buffer start = some size ∧ 8 ≤ size
      · rcases box with ⟨inside, size, read, large⟩
        by_cases complete : start + 8 ≤ buffer.length
        · have here : BoxAt buffer start size := ⟨read, large, complete⟩
          have only : forall other, u32At buffer start = some other -> other = size :=
            fun other same => Option.some.inj (same.symm.trans read)
          rw [walk_box fits inside here]
          by_cases harm : harmless start size
          · rcases returns_of_safe ((visits.safe start size here fits).mpr harm) with ⟨found, did⟩
            rw [did, Checked.returned_bind]
            cases found with
            | some result =>
              have stays : ¬ passes start size := by
                intro passed
                have none := (visits.goesOn start size here harm).mpr passed
                rw [did] at none
                cases none
              refine ⟨fun _ => ⟨fits, ?_⟩, fun _ => Checked.safe_returned _⟩
              intro _ other same _
              rw [only other same]
              exact ⟨complete, harm, fun passed => (stays passed).elim⟩
            | none =>
              have passed := (visits.goesOn start size here harm).mp did
              dsimp only
              split
              next within =>
                have shorter : stop - (start + size) < length := by
                  have inRange := inside.le
                  omega
                rw [ih _ shorter (start + size) rfl]
                constructor
                · intro clear
                  refine ⟨fits, ?_⟩
                  intro _ other same _
                  rw [only other same]
                  exact ⟨complete, harm, fun _ => ⟨within, clear⟩⟩
                · intro clear
                  exact ((clear.2 inside size read large).2.2 passed).2
              next past =>
                refine ⟨fun safe => (safe rfl).elim, fun clear => ?_⟩
                exact (past ((clear.2 inside size read large).2.2 passed).1).elim
          · constructor
            · intro safe
              refine (harm ((visits.safe start size here fits).mp ?_)).elim
              intro stopped
              rw [stopped] at safe
              exact safe rfl
            · intro clear
              exact (harm (clear.2 inside size read large).2.1).elim
        · rw [walk_cut fits inside read large (by omega)]
          refine ⟨fun safe => (safe rfl).elim, fun clear => ?_⟩
          exact (complete (clear.2 inside size read large).1).elim
      · have ends : Inside strict start stop -> forall size, u32At buffer start = some size -> size < 8 := by
          intro inside size read
          by_contra large
          exact box ⟨inside, size, read, by omega⟩
        rw [walk_ends fits ends]
        refine ⟨fun _ => ⟨fits, ?_⟩, fun _ => Checked.safe_returned _⟩
        intro inside size read large
        have small := ends inside size read
        omega
    · rw [walk_overflows (by omega)]
      exact ⟨fun safe => (safe rfl).elim, fun clear => (fits clear.1).elim⟩

/-- What a clear walk finds is what is at a box at which it stands. -/
theorem walk_found_iff (visits : Visits target buffer passes harmless visit) (start : Nat) (result : α)
    (clear : ClearWalk target buffer strict stop passes harmless start) :
    walk target buffer strict stop visit start = .returned (some result) ↔
      Exists fun offset => Exists fun size => Stands buffer strict stop passes start offset ∧
        Inside strict offset stop ∧ BoxAt buffer offset size ∧
          visit offset size (kindAt buffer offset) = .returned (some result) := by
  induction room : stop - start using Nat.strongRecOn generalizing start with
  | ind length ih =>
    rcases clearWalk_iff.mp clear with ⟨fits, first⟩
    by_cases box : Inside strict start stop ∧ Exists fun size => u32At buffer start = some size ∧ 8 ≤ size
    · rcases box with ⟨inside, size, read, large⟩
      rcases first inside size read large with ⟨complete, harm, behind⟩
      have here : BoxAt buffer start size := ⟨read, large, complete⟩
      rw [walk_box fits inside here]
      rcases returns_of_safe ((visits.safe start size here fits).mpr harm) with ⟨found, did⟩
      rw [did, Checked.returned_bind]
      cases found with
      | some value =>
        constructor
        · intro same
          cases same
          exact ⟨start, size, .here, inside, here, did⟩
        · rintro ⟨offset, other, stands, _, boxed, same⟩
          rcases stands_step stands with rfl | ⟨one, _, oneBox, passed, _⟩
          · rw [boxAt_unique boxed here, did] at same
            cases same
            rfl
          · rw [boxAt_unique oneBox here] at passed
            have none := (visits.goesOn start size here harm).mpr passed
            rw [did] at none
            cases none
      | none =>
        have passed := (visits.goesOn start size here harm).mp did
        have shorter : stop - (start + size) < length := by
          have inRange := inside.le
          omega
        dsimp only
        rw [if_pos (behind passed).1, ih _ shorter (start + size) (behind passed).2 rfl]
        constructor
        · rintro ⟨offset, other, stands, rest⟩
          exact ⟨offset, other, stands_behind inside here passed stands, rest⟩
        · rintro ⟨offset, other, stands, inOther, boxed, same⟩
          rcases stands_step stands with rfl | ⟨one, _, oneBox, _, later⟩
          · rw [boxAt_unique boxed here, did] at same
            cases same
          · rw [boxAt_unique oneBox here] at later
            exact ⟨offset, other, later, inOther, boxed, same⟩
    · have ends : Inside strict start stop -> forall size, u32At buffer start = some size -> size < 8 := by
        intro inside size read
        by_contra large
        exact box ⟨inside, size, read, by omega⟩
      rw [walk_ends fits ends]
      constructor
      · intro same
        cases same
      · rintro ⟨offset, other, stands, inOther, boxed, _⟩
        rcases stands_step stands with rfl | ⟨one, inside, oneBox, _, _⟩
        · exact (box ⟨inOther, other, boxed.read, boxed.large⟩).elim
        · exact (box ⟨inside, one, oneBox.read, oneBox.large⟩).elim

end Loop

end Walks

end Media
end TelegramDrive
