import TelegramDrive.Media.Boxes

namespace TelegramDrive
namespace Media

open ArrayAccess

/-!
# Well-formed movies

What a movie file says is told here level by level: the `moov` box has tracks, a
track has a header and media, the media have their information, and among all of
these may stand any other boxes.  The display size of a movie is the one in the
header of its first video track.
-/

/-! ## Track headers -/

/-- The content of a `tkhd` box.  The two versions differ in the width of the times. -/
structure TrackHeader where
  wideTimes : Bool
  flags : List Byte
  times : List Byte
  placement : List Byte
  width : Nat
  height : Nat
  flags_length : flags.length = 3
  times_length : times.length = if wideTimes then 32 else 20
  placement_length : placement.length = 52
  width_fits : width < 2 ^ 32
  height_fits : height < 2 ^ 32

namespace TrackHeader

def payload (header : TrackHeader) : List Byte :=
  (if header.wideTimes then 1 else 0) :: (header.flags ++ header.times ++ header.placement ++
    (toBeBytes header.width ++ toBeBytes header.height))

theorem payload_length (header : TrackHeader) :
    header.payload.length = if header.wideTimes then 96 else 84 := by
  have flags := header.flags_length
  have times := header.times_length
  have placement := header.placement_length
  cases wide : header.wideTimes with
  | true | false =>
    rw [wide] at times
    simp [payload, toBeBytes, flags, times, placement]

def box (header : TrackHeader) : RawBox where
  kind := tkhd
  payload := header.payload
  kind_length := rfl
  fits := by
    rw [payload_length]
    split
    · decide
    · decide

/-- The width and the height, without the part behind the point. -/
def dimensions (header : TrackHeader) : Dimensions :=
  (some (header.width / 2 ^ 16), some (header.height / 2 ^ 16))

end TrackHeader

/-! ## Media -/

/-- A `minf` box; its first box of a kind `vmhd` makes the media video. -/
structure Minf where
  children : List RawBox
  fits : 8 + (encodeAll children).length < 2 ^ 32

namespace Minf

def box (information : Minf) : RawBox := ⟨minf, encodeAll information.children, rfl, information.fits⟩

def isVideo (information : Minf) : Bool := information.children.any fun box => decide (box.kind = vmhd)

end Minf

inductive MdiaChild
  | minf (information : Minf)
  | other (box : RawBox) (kind : box.kind ≠ minf)

namespace MdiaChild

def box : MdiaChild -> RawBox
  | .minf information => information.box
  | .other box _ => box

def minf? : MdiaChild -> Option Minf
  | .minf information => some information
  | .other _ _ => none

end MdiaChild

/-- An `mdia` box, with one `minf` at most. -/
structure Mdia where
  children : List MdiaChild
  single : (children.filterMap MdiaChild.minf?).length ≤ 1
  fits : 8 + (encodeAll (children.map MdiaChild.box)).length < 2 ^ 32

namespace Mdia

def box (media : Mdia) : RawBox := ⟨mdia, encodeAll (media.children.map MdiaChild.box), rfl, media.fits⟩

def isVideo (media : Mdia) : Bool := (media.children.filterMap MdiaChild.minf?).any Minf.isVideo

end Mdia

/-! ## Tracks -/

inductive TrakChild
  | tkhd (header : TrackHeader)
  | mdia (media : Mdia)
  | other (box : RawBox) (noHeader : box.kind ≠ tkhd) (noMedia : box.kind ≠ mdia)

namespace TrakChild

def box : TrakChild -> RawBox
  | .tkhd header => header.box
  | .mdia media => media.box
  | .other box _ _ => box

def tkhd? : TrakChild -> Option TrackHeader
  | .tkhd header => some header
  | _ => none

def mdia? : TrakChild -> Option Mdia
  | .mdia media => some media
  | _ => none

end TrakChild

/-- A `trak` box, with one `tkhd` and one `mdia` at most. -/
structure Trak where
  children : List TrakChild
  singleHeader : (children.filterMap TrakChild.tkhd?).length ≤ 1
  singleMedia : (children.filterMap TrakChild.mdia?).length ≤ 1
  fits : 8 + (encodeAll (children.map TrakChild.box)).length < 2 ^ 32

namespace Trak

def box (track : Trak) : RawBox := ⟨trak, encodeAll (track.children.map TrakChild.box), rfl, track.fits⟩

def isVideo (track : Trak) : Bool := (track.children.filterMap TrakChild.mdia?).any Mdia.isVideo

def header? (track : Trak) : Option TrackHeader := (track.children.filterMap TrakChild.tkhd?).head?

/-- The header of a video track. -/
def shown (track : Trak) : Option TrackHeader := if track.isVideo then track.header? else none

end Trak

/-! ## Movies -/

inductive MoovChild
  | trak (track : Trak)
  | other (box : RawBox) (kind : box.kind ≠ trak)

namespace MoovChild

def box : MoovChild -> RawBox
  | .trak track => track.box
  | .other box _ => box

def shown : MoovChild -> Option TrackHeader
  | .trak track => track.shown
  | .other _ _ => none

end MoovChild

structure Moov where
  children : List MoovChild
  fits : 8 + (encodeAll (children.map MoovChild.box)).length < 2 ^ 32

def Moov.box (movie : Moov) : RawBox := ⟨moov, encodeAll (movie.children.map MoovChild.box), rfl, movie.fits⟩

/-- A file with its first `moov` box and the boxes around it. -/
structure MovieFile where
  before : List RawBox
  movie : Moov
  after : List RawBox
  first : forall box, box ∈ before -> box.kind ≠ moov

namespace MovieFile

def bytes (file : MovieFile) : List Byte := encodeAll (file.before ++ file.movie.box :: file.after)

/-- The header of the first video track that has one. -/
def shown (file : MovieFile) : Option TrackHeader := file.movie.children.findSome? MoovChild.shown

/-- The stored dimensions of the first video track, if there is one. -/
def dimensions (file : MovieFile) : Dimensions :=
  match file.shown with
  | some header => header.dimensions
  | none => (none, none)

end MovieFile

end Media
end TelegramDrive
