import TelegramDrive.Media.Inspection

namespace TelegramDrive
namespace Media

open ArrayAccess

/-!
# Containers as sequences of boxes

A container is a sequence of boxes that are encoded in one of three forms.  What
an inspection keeps of it, and whether it can be streamed, is said here of the
boxes, without offsets into a file.
-/

/-! ## Numbers in bytes -/

@[simp] theorem beBytes_length (width number : Nat) : (beBytes width number).length = width := by
  induction width generalizing number with
  | zero => rfl
  | succ width ih => rw [beBytes, List.length_cons, ih]

theorem fromBeBytes_lt (bytes : List Byte) : fromBeBytes bytes < 256 ^ bytes.length := by
  induction bytes with
  | nil => exact Nat.one_pos
  | cons byte bytes ih =>
    have small := byte.toNat_lt
    calc byte.toNat * 256 ^ bytes.length + fromBeBytes bytes
        < byte.toNat * 256 ^ bytes.length + 256 ^ bytes.length := Nat.add_lt_add_left ih _
      _ = (byte.toNat + 1) * 256 ^ bytes.length := (Nat.succ_mul _ _).symm
      _ ≤ 256 * 256 ^ bytes.length := Nat.mul_le_mul_right _ small
      _ = 256 ^ (byte :: bytes).length := (Nat.pow_succ').symm

theorem fromBeBytes_beBytes {width number : Nat} (fits : number < 256 ^ width) :
    fromBeBytes (beBytes width number) = number := by
  induction width generalizing number with
  | zero =>
    rw [Nat.pow_zero] at fits
    rw [beBytes, fromBeBytes]
    omega
  | succ width ih =>
    have positive : 0 < 256 ^ width := Nat.pow_pos (by omega)
    have leading : number / 256 ^ width < 256 := by
      rw [Nat.div_lt_iff_lt_mul positive, ← Nat.pow_succ']
      exact fits
    rw [beBytes, fromBeBytes, beBytes_length, ih (Nat.mod_lt _ positive), Nat.toUInt8_eq,
      UInt8.toNat_ofNat', Nat.mod_eq_of_lt leading]
    exact Nat.div_add_mod' number _

theorem beBytes_fromBeBytes (bytes : List Byte) : beBytes bytes.length (fromBeBytes bytes) = bytes := by
  induction bytes with
  | nil => rfl
  | cons byte bytes ih =>
    have below := fromBeBytes_lt bytes
    have positive : 0 < 256 ^ bytes.length := Nat.pow_pos (by omega)
    have leading : (byte.toNat * 256 ^ bytes.length + fromBeBytes bytes) / 256 ^ bytes.length = byte.toNat := by
      rw [Nat.add_comm, Nat.add_mul_div_right _ _ positive, Nat.div_eq_of_lt below, Nat.zero_add]
    have trailing : (byte.toNat * 256 ^ bytes.length + fromBeBytes bytes) % 256 ^ bytes.length =
        fromBeBytes bytes := by
      rw [Nat.add_comm, Nat.add_mul_mod_self_right, Nat.mod_eq_of_lt below]
    rw [fromBeBytes, List.length_cons, beBytes, leading, trailing, ih, Nat.toUInt8_eq,
      UInt8.ofNat_toNat]

/-! ## Boxes -/

/-- How a box gives its size: in four bytes, in eight more, or as all that is left. -/
inductive SizeForm
  | short
  | extended
  | rest
deriving DecidableEq

namespace SizeForm

def headerSize : SizeForm -> Nat
  | .short => 8
  | .extended => 16
  | .rest => 8

theorem eight_le (form : SizeForm) : 8 ≤ form.headerSize := by
  cases form with
  | short | rest => exact Nat.le_refl 8
  | extended => exact Nat.le_add_right 8 8

/-- The sizes of this form are below this number. -/
def bound : SizeForm -> Nat
  | .short => 2 ^ 32
  | .extended => 2 ^ 64
  | .rest => 2 ^ 64

/-- The first four bytes of a box of this size. -/
def marked : SizeForm -> Nat -> Nat
  | .short, size => size
  | .extended, _ => 1
  | .rest, _ => 0

end SizeForm

structure ContainerBox where
  form : SizeForm
  kind : FourCc
  payload : List Byte
  kind_length : kind.length = 4
  fits : form.headerSize + payload.length < form.bound

namespace ContainerBox

def size (box : ContainerBox) : Nat := box.form.headerSize + box.payload.length

/-- The size in eight bytes, where there is one. -/
def extendedSize (box : ContainerBox) : List Byte :=
  if box.form = .extended then beBytes 8 box.size else []

def encode (box : ContainerBox) : List Byte :=
  beBytes 4 (box.form.marked box.size) ++ (box.kind ++ (box.extendedSize ++ box.payload))

/-- The same box, with its size in place of a zero. -/
def explicit (box : ContainerBox) : List Byte :=
  if box.form = .rest then beBytes 4 box.size ++ (box.kind ++ box.payload) else box.encode

def IsMetadata (box : ContainerBox) : Prop := box.kind = moov ∨ box.kind = ftyp

instance (box : ContainerBox) : Decidable box.IsMetadata :=
  inferInstanceAs (Decidable (box.kind = moov ∨ box.kind = ftyp))

/-- What is kept of a box. -/
def kept (box : ContainerBox) : List Byte := if box.IsMetadata then box.explicit else []

def keptSize (box : ContainerBox) : Nat := if box.IsMetadata then box.size else 0

@[simp] theorem encode_length (box : ContainerBox) : box.encode.length = box.size := by
  unfold encode size extendedSize
  cases form : box.form with
  | short | extended | rest => simp [box.kind_length, SizeForm.headerSize, ← Nat.add_assoc]

theorem headerSize_le (box : ContainerBox) : box.form.headerSize ≤ box.size := Nat.le_add_right _ _

theorem eight_le (box : ContainerBox) : 8 ≤ box.size :=
  Nat.le_trans box.form.eight_le box.headerSize_le

end ContainerBox

/-! ## Containers -/

def container (boxes : List ContainerBox) : List Byte := boxes.flatMap ContainerBox.encode

@[simp] theorem container_nil : container [] = [] := rfl

@[simp] theorem container_cons (box : ContainerBox) (boxes : List ContainerBox) :
    container (box :: boxes) = box.encode ++ container boxes := rfl

/-- Only the last box may reach to the end of the file. -/
def Proper : List ContainerBox -> Prop
  | [] => True
  | box :: boxes => (box.form = .rest -> boxes = []) ∧ Proper boxes

/-- The bytes that are kept. -/
def retained (boxes : List ContainerBox) : List Byte := boxes.flatMap ContainerBox.kept

def metadataSize (boxes : List ContainerBox) : Nat := (boxes.map ContainerBox.keptSize).sum

@[simp] theorem retained_cons (box : ContainerBox) (boxes : List ContainerBox) :
    retained (box :: boxes) = box.kept ++ retained boxes := rfl

@[simp] theorem metadataSize_cons (box : ContainerBox) (boxes : List ContainerBox) :
    metadataSize (box :: boxes) = box.keptSize + metadataSize boxes := rfl

/-- These are the boxes of a container that is not too long to be inspected. -/
structure Inspectable (content : List Byte) (boxes : List ContainerBox) : Prop where
  exactly : container boxes = content
  proper : Proper boxes
  few : boxes.length ≤ 65535
  bounded : metadataSize boxes ≤ metadataLimit

/-- Where a box starts. -/
def boxStart (boxes : List ContainerBox) (index : Nat) : Nat := (container (boxes.take index)).length

/-- The predecessor of the box with this index starts at or beyond 128 KiB. -/
def BehindLateBox (boxes : List ContainerBox) (index : Nat) : Prop :=
  Exists fun previous => index = previous + 1 ∧ 128 * 1024 ≤ boxStart boxes previous

/-- Some `moov` box stands before the first box whose predecessor starts at or beyond 128 KiB. -/
def MoovBeforeLate (boxes : List ContainerBox) : Prop :=
  Exists fun index => Exists fun box => boxes[index]? = some box ∧ box.kind = moov ∧
    forall earlier, earlier ≤ index -> ¬ BehindLateBox boxes earlier

/-- Some `moov` box stands before the first such box, or is that box. -/
def MoovUpToLate (boxes : List ContainerBox) : Prop :=
  Exists fun index => Exists fun box => boxes[index]? = some box ∧ box.kind = moov ∧
    forall earlier, earlier < index -> ¬ BehindLateBox boxes earlier

end Media
end TelegramDrive
