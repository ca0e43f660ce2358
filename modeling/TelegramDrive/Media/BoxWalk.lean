import TelegramDrive.Library.ArrayAccess

namespace TelegramDrive
namespace Media

open ArrayAccess

/-!
# Walking the boxes of an MP4 file

An MP4 file is a sequence of boxes; a box starts with its size in four bytes and
its kind in four more, and some boxes contain boxes.  The scanner looks for the
display size of the first video track.  It goes from box to box by the sizes
they declare.  A sum that does not fit a `usize`, and a slice that leaves the
buffer, stop it: both are `panicked` here.
-/

abbrev Byte : Type := UInt8

/-- The word sizes of the systems that the application is built for. -/
inductive Target
  | bits32
  | bits64
deriving DecidableEq

/-- The number of values of a `usize`. -/
def Target.values : Target -> Nat
  | .bits32 => 2 ^ 32
  | .bits64 => 2 ^ 64

/-- A buffer has at most `isize::MAX` bytes. -/
structure Buffer (target : Target) where
  bytes : List Byte
  fits : bytes.length < target.values / 2

/-- A kind of box, such as `moov`. -/
abbrev FourCc : Type := List Byte

def moov : FourCc := [0x6d, 0x6f, 0x6f, 0x76]

def trak : FourCc := [0x74, 0x72, 0x61, 0x6b]

def tkhd : FourCc := [0x74, 0x6b, 0x68, 0x64]

def mdia : FourCc := [0x6d, 0x64, 0x69, 0x61]

def minf : FourCc := [0x6d, 0x69, 0x6e, 0x66]

def vmhd : FourCc := [0x76, 0x6d, 0x68, 0x64]

/-- `u32::from_be_bytes`. -/
def fromBeBytes : List Byte -> Nat
  | [] => 0
  | byte :: rest => byte.toNat * 256 ^ rest.length + fromBeBytes rest

section Walks

variable (target : Target) (buffer : List Byte)

/-- An addition of `usize` values. -/
def add (one two : Nat) : Checked Empty Nat :=
  if one + two < target.values then .returned (one + two) else .panicked

/-- The four bytes at an offset, when there are as many. -/
def u32At (offset : Nat) : Option Nat :=
  if offset + 4 ≤ buffer.length then some (fromBeBytes (part buffer offset 4)) else none

def readU32Be (offset : Nat) : Checked Empty (Option Nat) := do
  let _ <- add target offset 4
  return u32At buffer offset

/-- The condition of a loop over boxes.  Two of the loops leave out a box of
eight bytes at the very end. -/
def Inside (strict : Bool) (offset stop : Nat) : Prop :=
  if strict then offset + 8 < stop else offset + 8 ≤ stop

instance (strict : Bool) (offset stop : Nat) : Decidable (Inside strict offset stop) :=
  inferInstanceAs (Decidable (if strict then offset + 8 < stop else offset + 8 ≤ stop))

theorem Inside.le {strict : Bool} {offset stop : Nat} (inside : Inside strict offset stop) :
    offset + 8 ≤ stop := by
  unfold Inside at inside
  split at inside
  · exact Nat.le_of_lt inside
  · exact inside

/-- The loop that all walks share: at each box it looks at the offset, the size and the
kind, and goes on behind the box until it has found something. -/
def walk {α : Type} (strict : Bool) (stop : Nat)
    (visit : Nat -> Nat -> FourCc -> Checked Empty (Option α)) (offset : Nat) : Checked Empty (Option α) :=
  if offset + 8 < target.values then
    if _inside : Inside strict offset stop then do
      let read <- readU32Be target buffer offset
      match read with
      | none => return none
      | some size =>
        if _small : size < 8 then return none
        else do
          let kind <- slice buffer (offset + 4) (offset + 8)
          let found <- visit offset size kind
          match found with
          | some result => return some result
          | none =>
            if offset + size < target.values then walk strict stop visit (offset + size)
            else .panicked
    else return none
  else .panicked
termination_by stop - offset
decreasing_by
  have room : offset + 8 ≤ stop := Inside.le ‹_›
  omega

/-- What `find_box_in_range` does at a box. -/
def seek (fourcc : FourCc) (offset size : Nat) (kind : FourCc) : Checked Empty (Option Nat) :=
  if kind = fourcc then do
    let boxEnd <- add target offset size
    return some boxEnd
  else return none

def findBoxInRange (startOffset rangeEnd : Nat) (fourcc : FourCc) : Checked Empty (Option Nat) :=
  walk target buffer false rangeEnd (seek target fourcc) startOffset

def findBox (startOffset : Nat) (fourcc : FourCc) : Checked Empty (Option Nat) :=
  findBoxInRange target buffer startOffset buffer.length fourcc

/-- The size that is read for the box that ends here. -/
def sizeBefore (boxEnd : Nat) : Option Nat :=
  (u32At buffer (boxEnd - 8)).filter fun size => decide (8 ≤ size)

def boxSizeAt (boxEnd : Nat) : Checked Empty (Option Nat) := do
  let read <- readU32Be target buffer (boxEnd - 8)
  match read with
  | none => return none
  | some size => if size < 8 then return none else return some size

/-- Where the content of the box that ends here is taken to start. -/
def contentStart (fallback boxEnd : Nat) : Checked Empty Nat := do
  let size <- boxSizeAt target buffer boxEnd
  add target (boxEnd - size.getD fallback) 8

def trakContainsVmhd (trakDataStart trakDataEnd : Nat) : Checked Empty Bool := do
  let mdiaEnd <- findBoxInRange target buffer trakDataStart trakDataEnd mdia
  match mdiaEnd with
  | none => return false
  | some mdiaEnd => do
      let mdiaDataStart <- contentStart target buffer 8 mdiaEnd
      let minfEnd <- findBoxInRange target buffer mdiaDataStart mdiaEnd minf
      match minfEnd with
      | none => return false
      | some minfEnd => do
          let minfDataStart <- contentStart target buffer 8 minfEnd
          let vmhdEnd <- findBoxInRange target buffer minfDataStart minfEnd vmhd
          return vmhdEnd.isSome

/-- A width and a height, in whole pixels. -/
abbrev Dimensions : Type := Option Nat × Option Nat

/-- The width and the height in a `tkhd` box: its last eight bytes, by its version. -/
def tkhdDimensions (offset : Nat) : Checked Empty Dimensions := do
  let content <- add target offset 8
  let wide := if buffer[content]?.getD 0 = 1 then 88 else 76
  let widthOffset <- add target content wide
  let heightOffset <- add target content (wide + 4)
  let width <- readU32Be target buffer widthOffset
  let height <- readU32Be target buffer heightOffset
  return (width.map fun fixed => fixed / 2 ^ 16, height.map fun fixed => fixed / 2 ^ 16)

/-- At a box of a video track. -/
def visitTkhd (offset _size : Nat) (kind : FourCc) : Checked Empty (Option Dimensions) :=
  if kind = tkhd then do
    let dimensions <- tkhdDimensions target buffer offset
    return some dimensions
  else return none

/-- At a box of the `moov` box. -/
def visitTrak (offset size : Nat) (kind : FourCc) : Checked Empty (Option Dimensions) :=
  if kind = trak then do
    let trakDataStart <- add target offset 8
    let trakDataEnd <- add target offset size
    let video <- trakContainsVmhd target buffer trakDataStart trakDataEnd
    if video then walk target buffer true trakDataEnd (visitTkhd target buffer) trakDataStart
    else return none
  else return none

def scanVideoTkhdDimensions : Checked Empty Dimensions := do
  let moovEnd <- findBox target buffer 0 moov
  match moovEnd with
  | none => return (none, none)
  | some moovEnd => do
      let start <- contentStart target buffer 0 moovEnd
      let found <- walk target buffer true moovEnd (visitTrak target buffer) start
      return found.getD (none, none)

end Walks

end Media
end TelegramDrive
