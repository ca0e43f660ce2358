namespace TelegramDrive

/-!
# Values as bytes

A number is written as so many bytes and an end, a text with its length before it, and
a reader returns what it has read and the rest.  What is written is read back, whatever
comes behind it, so that codecs of records are put together from these.
-/

namespace Codec

/-- A number, as so many bytes and an end. -/
def writeNat (number : Nat) : List UInt8 := List.replicate number 1 ++ [0]

def readNat : List UInt8 -> Option (Nat × List UInt8)
  | [] => none
  | byte :: rest => if byte = 0 then some (0, rest) else (readNat rest).map fun (number, rest) => (number + 1, rest)

theorem readNat_writeNat (number : Nat) (rest : List UInt8) : readNat (writeNat number ++ rest) = some (number, rest) := by
  induction number with
  | zero => rfl
  | succ number ih =>
    have unfolded : writeNat (number + 1) ++ rest = 1 :: (writeNat number ++ rest) := rfl
    rw [unfolded, readNat, if_neg (by decide), ih]
    rfl

/-- A character, as three bytes. -/
def writeChar (character : Char) : List UInt8 :=
  [UInt8.ofNat (character.toNat / 65536), UInt8.ofNat (character.toNat / 256 % 256),
    UInt8.ofNat (character.toNat % 256)]

def readChars : Nat -> List UInt8 -> Option (List Char × List UInt8)
  | 0, rest => some ([], rest)
  | count + 1, one :: two :: three :: rest =>
    (readChars count rest).map fun (characters, rest) =>
      (Char.ofNat (one.toNat * 65536 + two.toNat * 256 + three.toNat) :: characters, rest)
  | _, _ => none

theorem readChars_write (characters : List Char) (rest : List UInt8) :
    readChars characters.length (characters.flatMap writeChar ++ rest) = some (characters, rest) := by
  induction characters with
  | nil => rfl
  | cons character characters ih =>
    have bound : character.toNat < 1114112 := by
      have valid := character.valid
      simp only [UInt32.isValidChar, Nat.isValidChar] at valid
      change character.val.toNat < 1114112
      omega
    have unfolded : (character :: characters).flatMap writeChar ++ rest =
        UInt8.ofNat (character.toNat / 65536) :: UInt8.ofNat (character.toNat / 256 % 256) ::
          UInt8.ofNat (character.toNat % 256) :: (characters.flatMap writeChar ++ rest) := rfl
    have one : (UInt8.ofNat (character.toNat / 65536)).toNat = character.toNat / 65536 := by
      rw [UInt8.toNat_ofNat']
      omega
    have two : (UInt8.ofNat (character.toNat / 256 % 256)).toNat = character.toNat / 256 % 256 := by
      rw [UInt8.toNat_ofNat']
      omega
    have three : (UInt8.ofNat (character.toNat % 256)).toNat = character.toNat % 256 := by
      rw [UInt8.toNat_ofNat']
      omega
    have whole : character.toNat / 65536 * 65536 + character.toNat / 256 % 256 * 256 + character.toNat % 256 =
        character.toNat := by omega
    rw [unfolded, List.length_cons, readChars, ih, one, two, three, whole]
    simp

def writeText (text : String) : List UInt8 := writeNat text.toList.length ++ text.toList.flatMap writeChar

def readText (bytes : List UInt8) : Option (String × List UInt8) :=
  (readNat bytes).bind fun (count, rest) =>
    (readChars count rest).map fun (characters, rest) => (String.ofList characters, rest)

theorem readText_writeText (text : String) (rest : List UInt8) : readText (writeText text ++ rest) = some (text, rest) := by
  simp only [readText, writeText, List.append_assoc, readNat_writeNat, Option.bind_some, readChars_write,
    Option.map_some, String.ofList_toList]

def writeInt (number : Int) : List UInt8 :=
  writeNat (if number < 0 then 1 else 0) ++ writeNat number.natAbs

def readInt (bytes : List UInt8) : Option (Int × List UInt8) :=
  (readNat bytes).bind fun (sign, rest) =>
    (readNat rest).map fun (size, rest) => (if sign = 1 then -(size : Int) else size, rest)

theorem readInt_writeInt (number : Int) (rest : List UInt8) : readInt (writeInt number ++ rest) = some (number, rest) := by
  simp only [readInt, writeInt, List.append_assoc, readNat_writeNat, Option.bind_some, Option.map_some,
    Option.some.injEq, Prod.mk.injEq, and_true]
  split
  · omega
  · omega

/-- One value in one byte, and the others behind another. -/
def writeShort {Value : Type} [DecidableEq Value] (known : Value) (write : Value -> List UInt8) (value : Value) :
    List UInt8 :=
  if value = known then [0] else 1 :: write value

def readShort {Value : Type} (known : Value) (read : List UInt8 -> Option Value) : List UInt8 -> Option Value
  | [] => none
  | byte :: rest => if byte = 0 then some known else read rest

theorem readShort_writeShort {Value : Type} [DecidableEq Value] {known : Value} {write : Value -> List UInt8}
    {read : List UInt8 -> Option Value} (reads : forall value, read (write value) = some value) (value : Value) :
    readShort known read (writeShort known write value) = some value := by
  unfold writeShort
  split
  next same =>
    rw [same]
    rfl
  · exact reads value

/-- Values one after another, with their number before them. -/
def writeList {Value : Type} (write : Value -> List UInt8) (values : List Value) : List UInt8 :=
  writeNat values.length ++ values.flatMap write

def readMany {Value : Type} (read : List UInt8 -> Option (Value × List UInt8)) :
    Nat -> List UInt8 -> Option (List Value × List UInt8)
  | 0, rest => some ([], rest)
  | count + 1, bytes =>
    (read bytes).bind fun (value, rest) => (readMany read count rest).map fun (values, rest) => (value :: values, rest)

def readList {Value : Type} (read : List UInt8 -> Option (Value × List UInt8)) (bytes : List UInt8) :
    Option (List Value × List UInt8) :=
  (readNat bytes).bind fun (count, rest) => readMany read count rest

theorem readList_writeList {Value : Type} {write : Value -> List UInt8}
    {read : List UInt8 -> Option (Value × List UInt8)}
    (reads : forall value rest, read (write value ++ rest) = some (value, rest)) (values : List Value)
    (rest : List UInt8) : readList read (writeList write values ++ rest) = some (values, rest) := by
  have many : readMany read values.length (values.flatMap write ++ rest) = some (values, rest) := by
    induction values with
    | nil => rfl
    | cons value values ih =>
      simp only [List.length_cons, List.flatMap_cons, List.append_assoc, readMany, reads, Option.bind_some,
        ih, Option.map_some]
  simp only [readList, writeList, List.append_assoc, readNat_writeNat, Option.bind_some, many]

end Codec
end TelegramDrive
