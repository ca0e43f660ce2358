import TelegramDrive.Media.BoxWalk

namespace TelegramDrive
namespace Media

open ArrayAccess

/-!
# Inspecting the container of a video

Before a video is uploaded, the boxes at the top level of its file are walked
through.  The `ftyp` and `moov` boxes are kept, the other boxes are passed by
their sizes.  A size of one stands for a size in eight more bytes, and a size of
zero for all that is left of the file.  The inspection also decides whether the
video can be streamed.

An arithmetic overflow, an access outside of a buffer and a buffer that outgrows
the memory there is are `panicked` here.
-/

def ftyp : FourCc := [0x66, 0x74, 0x79, 0x70]

def metadataLimit : Nat := 16 * 1024 * 1024

def uninspected : String := "Could not inspect the video layout"

def truncatedBox : String := "The video contains a truncated container box"

def invalidBox : String := "The video contains an invalid container box"

def timedOut : String := "Video metadata inspection timed out"

def excessiveMetadata : String := "The video metadata exceeds the safe inspection limit"

def unreadMetadata : String := "Could not read the video metadata"

def excessiveBoxes : String := "The video contains too many container boxes"

def cancelled : String := "Transfer cancelled"

/-- A file, whose length is a `u64`. -/
structure VideoFile where
  bytes : List Byte
  fits : bytes.length < 2 ^ 64

/-- What the checks made during an inspection see, by the number of checks before. -/
structure Watch where
  stopped : Nat -> Bool
  late : Nat -> Bool

namespace Watch

def check (watch : Watch) (checks : Nat) : Checked String Nat :=
  if watch.stopped checks then .failed cancelled
  else if watch.late checks then .failed timedOut
  else .returned (checks + 1)

/-- Nobody cancels, and there is time. -/
def quiet : Watch where
  stopped := fun _ => false
  late := fun _ => false

end Watch

/-- What is read of a box before its content. -/
structure AtomHeader where
  short : Nat
  kind : FourCc
  size : Nat
  headerSize : Nat

/-- The variables of the loop over the boxes. -/
structure Inspection where
  offset : Nat
  metadata : List Byte
  previousAtomStart : Nat
  streamingDecision : Option Bool
  checks : Nat

/-- A sum of `u64` values. -/
def addU64 (one two : Nat) : Checked String Nat :=
  if one + two < 2 ^ 64 then .returned (one + two) else .panicked

/-- A sum of `usize` values. -/
def addUsize (target : Target) (one two : Nat) : Checked String Nat :=
  if one + two < target.values then .returned (one + two) else .panicked

def subtract (one two : Nat) : Checked String Nat :=
  if two ≤ one then .returned (one - two) else .panicked

/-- `checked_add`. -/
def checkedAdd (one two : Nat) : Option Nat :=
  if one + two < 2 ^ 64 then some (one + two) else none

/-- The lengths of the pieces of 64 KiB of a buffer. -/
def chunkLengths (count : Nat) : List Nat :=
  List.replicate (count / (64 * 1024)) (64 * 1024) ++
    if count % (64 * 1024) = 0 then [] else [count % (64 * 1024)]

/-- `Vec::resize`, where there is memory for so many bytes. -/
def resize (room length : Nat) : Checked String Unit :=
  if length ≤ room then .returned () else .panicked

/-- `u32::to_be_bytes` and `u64::to_be_bytes`. -/
def beBytes : Nat -> Nat -> List Byte
  | 0, _ => []
  | width + 1, number => (number / 256 ^ width).toUInt8 :: beBytes width (number % 256 ^ width)

/-- The first four of these bytes are overwritten. -/
def overwrite (bytes field : List Byte) : Checked String (List Byte) :=
  if field.length ≤ bytes.length then .returned (field ++ bytes.drop field.length) else .panicked

/-- The decision stays once it is made.  It looks at the start of the previous box,
not at the start of this one. -/
def latch (previousAtomStart : Nat) (kind : FourCc) : Option Bool -> Option Bool
  | some decision => some decision
  | none =>
    if 128 * 1024 ≤ previousAtomStart then some false
    else if kind = moov then some true
    else none

section Inspecting

variable (target : Target) (room : Nat) (watch : Watch) (content : List Byte)

/-- `read_exact` at a position of the file. -/
def readExact (position count : Nat) (error : String) : Checked String (List Byte) :=
  if position + count ≤ content.length then .returned (part content position count) else .failed error

def readHeader (offset : Nat) : Checked String AtomHeader := do
  let header <- readExact content offset 8 uninspected
  let short := fromBeBytes (header.take 4)
  let kind := header.drop 4
  if short = 0 then do
    let size <- subtract content.length offset
    return { short, kind, size, headerSize := 8 }
  else if short = 1 then do
    let extended <- readExact content (offset + 8) 8 truncatedBox
    return { short, kind, size := fromBeBytes extended, headerSize := 16 }
  else return { short, kind, size := short, headerSize := 8 }

/-- The box at an offset, and where it ends. -/
def readAtom (offset : Nat) : Checked String (AtomHeader × Nat) := do
  let _ <- Checked.require (8 ≤ content.length - offset) truncatedBox
  let header <- readHeader content offset
  let stop <- Checked.ofOption invalidBox
    ((checkedAdd offset header.size).filter fun stop => decide (stop ≤ content.length))
  let _ <- Checked.require (header.headerSize ≤ header.size ∧ offset < stop) invalidBox
  return (header, stop)

/-- The pieces of a buffer are filled from the file, with a check before each. -/
def readChunks : List Nat -> Nat -> Nat -> Checked String (List Byte × Nat)
  | [], checks, _ => return ([], checks)
  | count :: counts, checks, position => do
      let checks <- watch.check checks
      let chunk <- readExact content position count unreadMetadata
      let rest <- readChunks counts checks (position + count)
      return (chunk ++ rest.1, rest.2)

/-- What a box adds to the bytes that are kept. -/
def keepMetadata (header : AtomHeader) (offset length checks : Nat) : Checked String (List Byte × Nat) :=
  if header.kind = moov ∨ header.kind = ftyp then do
    let total <- addU64 length header.size
    let _ <- Checked.require (total ≤ metadataLimit) excessiveMetadata
    let size := header.size % target.values
    let grown <- addUsize target length size
    let _ <- resize room grown
    let read <- readChunks watch content (chunkLengths size) checks offset
    if header.short = 0 then do
      let explicit <- overwrite read.1 (beBytes 4 (header.size % 2 ^ 32))
      return (explicit, read.2)
    else return read
  else return ([], checks)

/-- A turn of the loop at a box. -/
def inspectAtom (state : Inspection) (checks : Nat) : Checked String Inspection := do
  let atom <- readAtom content state.offset
  let kept <- keepMetadata target room watch content atom.1 state.offset state.metadata.length checks
  return {
    offset := atom.2
    metadata := state.metadata ++ kept.1
    previousAtomStart := state.offset
    streamingDecision := latch state.previousAtomStart atom.1.kind state.streamingDecision
    checks := kept.2 }

def inspectAtoms : Nat -> Inspection -> Checked String (List Byte × Bool)
  | 0, _ => .failed excessiveBoxes
  | turns + 1, state => do
      let checks <- watch.check state.checks
      if state.offset = content.length then return (state.metadata, state.streamingDecision.getD false)
      else do
        let next <- inspectAtom target room watch content state checks
        inspectAtoms turns next

end Inspecting

def Inspection.start : Inspection where
  offset := 0
  metadata := []
  previousAtomStart := 0
  streamingDecision := none
  checks := 0

def metadataAtoms (target : Target) (room : Nat) (watch : Watch) (file : VideoFile) :
    Checked String (List Byte × Bool) :=
  inspectAtoms target room watch file.bytes 65536 .start

end Media
end TelegramDrive
