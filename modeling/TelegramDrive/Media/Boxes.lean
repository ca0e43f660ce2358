import TelegramDrive.Media.BoxBounds

namespace TelegramDrive
namespace Media

open ArrayAccess

/-!
# Sequences of boxes

A box is its size, its kind and its content.  A walk over the range of a sequence
of boxes stands at each of them in turn, whatever surrounds the range.
-/

/-- A number in four bytes, the highest first. -/
def toBeBytes (number : Nat) : List Byte :=
  [(number / 2 ^ 24).toUInt8, (number / 2 ^ 16).toUInt8, (number / 2 ^ 8).toUInt8, number.toUInt8]

theorem fromBeBytes_toBeBytes {number : Nat} (fits : number < 2 ^ 32) :
    fromBeBytes (toBeBytes number) = number := by
  simp only [toBeBytes, fromBeBytes, List.length_cons, List.length_nil, Nat.toUInt8_eq, UInt8.toNat_ofNat']
  omega

/-- A box whose size fits its four bytes. -/
structure RawBox where
  kind : FourCc
  payload : List Byte
  kind_length : kind.length = 4
  fits : 8 + payload.length < 2 ^ 32

namespace RawBox

def size (box : RawBox) : Nat := 8 + box.payload.length

def header (box : RawBox) : List Byte := toBeBytes box.size ++ box.kind

def encode (box : RawBox) : List Byte := box.header ++ box.payload

@[simp] theorem header_length (box : RawBox) : box.header.length = 8 := by
  simp [header, toBeBytes, box.kind_length]

@[simp] theorem encode_length (box : RawBox) : box.encode.length = box.size := by
  simp [encode, size]

end RawBox

def encodeAll (boxes : List RawBox) : List Byte := boxes.flatMap RawBox.encode

@[simp] theorem encodeAll_cons (box : RawBox) (boxes : List RawBox) :
    encodeAll (box :: boxes) = box.encode ++ encodeAll boxes := rfl

@[simp] theorem encodeAll_append (one two : List RawBox) :
    encodeAll (one ++ two) = encodeAll one ++ encodeAll two := by
  simp [encodeAll]

/-- These bytes stand in the buffer from here on. -/
def Located (buffer : List Byte) (start : Nat) (bytes : List Byte) : Prop :=
  Exists fun before => Exists fun after => buffer = before ++ (bytes ++ after) ∧ before.length = start

section Located

variable {buffer : List Byte} {start : Nat}

theorem Located.whole (buffer : List Byte) : Located buffer 0 buffer :=
  ⟨[], [], by simp, rfl⟩

theorem Located.left {one two : List Byte} (located : Located buffer start (one ++ two)) :
    Located buffer start one := by
  rcases located with ⟨before, after, whole, length⟩
  exact ⟨before, two ++ after, by rw [whole, List.append_assoc], length⟩

theorem Located.right {one two : List Byte} (located : Located buffer start (one ++ two)) :
    Located buffer (start + one.length) two := by
  rcases located with ⟨before, after, whole, rfl⟩
  exact ⟨before ++ one, after, by rw [whole, List.append_assoc, List.append_assoc], by simp⟩

theorem Located.le {bytes : List Byte} (located : Located buffer start bytes) :
    start + bytes.length ≤ buffer.length := by
  rcases located with ⟨before, after, rfl, rfl⟩
  simp only [List.length_append]
  omega

theorem Located.part {bytes : List Byte} (located : Located buffer start bytes) :
    part buffer start bytes.length = bytes := by
  rcases located with ⟨before, after, rfl, length⟩
  exact part_after before bytes after length rfl

theorem Located.getElem? {byte : Byte} {rest : List Byte} (located : Located buffer start (byte :: rest)) :
    buffer[start]? = some byte := by
  rcases located with ⟨before, after, rfl, rfl⟩
  simp

theorem Located.u32At {number : Nat} (located : Located buffer start (toBeBytes number))
    (fits : number < 2 ^ 32) : u32At buffer start = some number := by
  have room := located.le
  have read := located.part
  have length : (toBeBytes number).length = 4 := rfl
  rw [length] at room read
  unfold Media.u32At
  rw [if_pos room, read, fromBeBytes_toBeBytes fits]

theorem Located.header {box : RawBox} (located : Located buffer start box.encode) :
    BoxAt buffer start box.size ∧ kindAt buffer start = box.kind := by
  have whole := located
  unfold RawBox.encode RawBox.header at located
  rw [List.append_assoc] at located
  have kind := located.right.left.part
  have room := whole.le
  rw [RawBox.encode_length] at room
  have large : 8 ≤ box.size := by
    unfold RawBox.size
    omega
  refine ⟨⟨located.left.u32At box.fits, large, by omega⟩, ?_⟩
  rw [box.kind_length] at kind
  exact kind

theorem Located.payload {box : RawBox} (located : Located buffer start box.encode) :
    Located buffer (start + 8) box.payload := by
  unfold RawBox.encode at located
  have content := located.right
  rwa [RawBox.header_length] at content

end Located

/-! ## Walks over a sequence -/

section Walks

variable {target : Target} {buffer : List Byte} {strict : Bool} {α : Type}
  {visit : Nat -> Nat -> FourCc -> Checked Empty (Option α)}

theorem walk_pass (fits : buffer.length < target.values / 2) {start stop : Nat} {box : RawBox}
    (located : Located buffer start box.encode) (within : start + box.size ≤ stop)
    (nothing : visit start box.size box.kind = .returned none) :
    walk target buffer strict stop visit start = walk target buffer strict stop visit (start + box.size) := by
  have values := located.le
  rw [RawBox.encode_length] at values
  have large : 8 ≤ box.size := by
    unfold RawBox.size
    omega
  rcases located.header with ⟨here, kind⟩
  by_cases inside : Inside strict start stop
  · rw [walk_box (by omega) inside here, kind, nothing, Checked.returned_bind]
    dsimp only
    rw [if_pos (by omega)]
  · -- only the last box can be left out, when it is empty
    have last : stop = start + box.size := by
      unfold Inside at inside
      split at inside
      · omega
      · omega
    rw [walk_ends (by omega) (fun inRange => (inside inRange).elim), walk_ends (by omega)]
    intro inRange
    have room := inRange.le
    omega

/-- A walk over boxes at which there is nothing comes to stand behind them. -/
theorem walk_pass_all (fits : buffer.length < target.values / 2) {start stop : Nat} {boxes : List RawBox}
    (located : Located buffer start (encodeAll boxes)) (within : start + (encodeAll boxes).length ≤ stop)
    (nothing : forall before box after, boxes = before ++ box :: after ->
      visit (start + (encodeAll before).length) box.size box.kind = .returned none) :
    walk target buffer strict stop visit start =
      walk target buffer strict stop visit (start + (encodeAll boxes).length) := by
  induction boxes generalizing start with
  | nil => rfl
  | cons box boxes ih =>
    rw [encodeAll_cons] at located within ⊢
    rw [List.length_append, RawBox.encode_length] at within
    have behind := located.right
    rw [RawBox.encode_length] at behind
    rw [walk_pass fits located.left (by omega) (nothing [] box boxes rfl),
      ih behind (by omega), List.length_append, RawBox.encode_length, Nat.add_assoc]
    intro before other after same
    have there := nothing (box :: before) other after (congrArg (box :: ·) same)
    rw [encodeAll_cons, List.length_append, RawBox.encode_length] at there
    rwa [Nat.add_assoc]

theorem walk_none (fits : buffer.length < target.values / 2) {start : Nat} {boxes : List RawBox}
    (located : Located buffer start (encodeAll boxes))
    (nothing : forall before box after, boxes = before ++ box :: after ->
      visit (start + (encodeAll before).length) box.size box.kind = .returned none) :
    walk target buffer strict (start + (encodeAll boxes).length) visit start = .returned none := by
  have room := located.le
  have large := values_large target
  rw [walk_pass_all fits located (Nat.le_refl _) nothing, walk_ends (by omega)]
  intro inside
  have past := inside.le
  omega

theorem walk_some (fits : buffer.length < target.values / 2) {start : Nat} {before after : List RawBox}
    {box : RawBox} {result : α} (located : Located buffer start (encodeAll (before ++ box :: after)))
    (nothing : forall first other rest, before = first ++ other :: rest ->
      visit (start + (encodeAll first).length) other.size other.kind = .returned none)
    (content : strict = true -> after = [] -> box.payload ≠ [])
    (found : visit (start + (encodeAll before).length) box.size box.kind = .returned (some result)) :
    walk target buffer strict (start + (encodeAll (before ++ box :: after)).length) visit start =
      .returned (some result) := by
  have large := values_large target
  have room := located.le
  rw [encodeAll_append, encodeAll_cons] at located room ⊢
  have here := located.right.left
  have size : 8 ≤ box.size := by
    unfold RawBox.size
    omega
  rw [List.length_append, List.length_append, RawBox.encode_length] at room ⊢
  rw [walk_pass_all fits located.left (by omega) nothing]
  have inside : Inside strict (start + (encodeAll before).length)
      (start + ((encodeAll before).length + (box.size + (encodeAll after).length))) := by
    unfold Inside
    split
    next strictly =>
      have more : 8 < box.size + (encodeAll after).length := by
        cases after with
        | nil =>
          have some := List.length_pos_iff.mpr (content strictly rfl)
          unfold RawBox.size
          omega
        | cons next rest =>
          rw [encodeAll_cons, List.length_append, RawBox.encode_length]
          unfold RawBox.size
          omega
      omega
    · omega
  rcases here.header with ⟨boxed, kind⟩
  rw [walk_box (by omega) inside boxed, kind, found]
  rfl

/-! ## Looking for a box in a sequence -/

theorem find_none (fits : buffer.length < target.values / 2) {start : Nat} {boxes : List RawBox}
    {fourcc : FourCc} (located : Located buffer start (encodeAll boxes))
    (others : forall box, box ∈ boxes -> box.kind ≠ fourcc) :
    findBoxInRange target buffer start (start + (encodeAll boxes).length) fourcc = .returned none := by
  refine walk_none fits located ?_
  intro before box after same
  unfold seek
  rw [if_neg (others box (same ▸ List.mem_append_right _ List.mem_cons_self))]
  rfl

theorem find_first (fits : buffer.length < target.values / 2) {start : Nat} {before after : List RawBox}
    {box : RawBox} {fourcc : FourCc} (located : Located buffer start (encodeAll (before ++ box :: after)))
    (others : forall other, other ∈ before -> other.kind ≠ fourcc) (same : box.kind = fourcc) :
    findBoxInRange target buffer start (start + (encodeAll (before ++ box :: after)).length) fourcc =
      .returned (some (start + (encodeAll before).length + box.size)) := by
  refine walk_some fits located ?_ (fun strictly => nomatch strictly) ?_
  · intro first other rest split
    unfold seek
    rw [if_neg (others other (split ▸ List.mem_append_right _ List.mem_cons_self))]
    rfl
  · have room := located.le
    rw [encodeAll_append, encodeAll_cons, List.length_append, List.length_append, RawBox.encode_length] at room
    unfold seek
    rw [if_pos same, add_of_lt (by omega)]
    rfl

end Walks

end Media
end TelegramDrive
