import TelegramDrive.Media.Movies
import TelegramDrive.Media.TotalScan

namespace TelegramDrive
namespace Media

open ArrayAccess

/-!
# The dimensions that the scan finds

The scan keeps of a box that it found only the end, and reads the size again from
the eight bytes before the end.  That is the size only where the content of the
box happens to spell it there.  Where it does, for the boxes that the scan goes
into, the scan finds what the movie says.
-/

/-! ## Sizes read at the end of a box -/

/-- The last eight bytes of the box start with the size of the box. -/
def RawBox.Recovers (box : RawBox) : Prop := sizeBefore box.encode box.size = some box.size

theorem RawBox.ends (box : RawBox) (start : Nat) : start + box.size = start + 8 + box.payload.length := by
  unfold RawBox.size
  omega

instance (box : RawBox) : Decidable box.Recovers := inferInstanceAs (Decidable (_ = _))

section Located

variable {target : Target} {buffer : List Byte} {start : Nat}

theorem Located.u32At_inside {bytes : List Byte} (located : Located buffer start bytes) (offset : Nat)
    (within : offset + 4 ≤ bytes.length) : Media.u32At buffer (start + offset) = Media.u32At bytes offset := by
  have room := located.le
  unfold Media.u32At
  rw [if_pos (by omega), if_pos within]
  rcases located with ⟨before, after, rfl, rfl⟩
  congr 2
  unfold ArrayAccess.part
  rw [← List.drop_drop, List.drop_left, List.drop_append_of_le_length (by omega),
    List.take_append_of_le_length (by rw [List.length_drop]; omega)]

theorem Located.contentStart (fits : buffer.length < target.values / 2) {box : RawBox} (fallback : Nat)
    (located : Located buffer start box.encode) (recovers : box.Recovers) :
    contentStart target buffer fallback (start + box.size) = .returned (start + 8) := by
  have room := located.le
  have large : 8 ≤ box.size := by
    unfold RawBox.size
    omega
  rw [RawBox.encode_length] at room
  have same : sizeBefore buffer (start + box.size) = some box.size := by
    have read := located.u32At_inside (box.size - 8) (by rw [RawBox.encode_length]; omega)
    unfold RawBox.Recovers sizeBefore at recovers
    unfold sizeBefore
    rw [show start + box.size - 8 = start + (box.size - 8) by omega, read]
    exact recovers
  rw [contentStart_eq fallback (by omega), same, Option.getD_some, Nat.add_sub_cancel, add_of_lt (by omega)]

theorem Located.item {before after : List RawBox} {box : RawBox}
    (located : Located buffer start (encodeAll (before ++ box :: after))) :
    Located buffer (start + (encodeAll before).length) box.encode := by
  rw [encodeAll_append, encodeAll_cons] at located
  exact located.right.left

end Located

/-! ## Levels -/

section Levels

variable {target : Target} {buffer : List Byte} {start : Nat} {Child : Type} {form : Child -> RawBox}

theorem child_of_form {children : List Child} {before after : List RawBox} {box : RawBox}
    (same : children.map form = before ++ box :: after) :
    Exists fun first => Exists fun child => Exists fun rest => children = first ++ child :: rest ∧
      first.map form = before ∧ form child = box := by
  rcases List.map_eq_append_iff.mp same with ⟨first, others, rfl, firsts, later⟩
  rcases List.map_eq_cons_iff.mp later with ⟨child, rest, rfl, this, _⟩
  exact ⟨first, child, rest, rfl, firsts, this⟩

theorem filterMap_single {Item : Type} {pick : Child -> Option Item} {before after : List Child} {child : Child}
    {item : Item} (single : ((before ++ child :: after).filterMap pick).length ≤ 1)
    (picked : pick child = some item) (none : forall other, other ∈ before -> pick other = none) :
    (before ++ child :: after).filterMap pick = [item] := by
  have empty : before.filterMap pick = [] := by
    rw [List.filterMap_eq_nil_iff]
    exact none
  rw [List.filterMap_append, empty, List.filterMap_cons, picked, List.nil_append] at single ⊢
  have rest : after.filterMap pick = [] := by
    rw [List.length_cons] at single
    exact List.length_eq_zero_iff.mp (by omega)
  rw [rest]

theorem find_child {Item : Type} (fits : buffer.length < target.values / 2) {pick : Child -> Option Item}
    {fourcc : FourCc} {children : List Child} (located : Located buffer start (encodeAll (children.map form)))
    (single : (children.filterMap pick).length ≤ 1)
    (kinds : forall child, (form child).kind = fourcc ↔ (pick child).isSome = true) :
    (findBoxInRange target buffer start (start + (encodeAll (children.map form)).length) fourcc =
        .returned none ∧ children.filterMap pick = []) ∨
      Exists fun offset => Exists fun child => Exists fun item =>
        findBoxInRange target buffer start (start + (encodeAll (children.map form)).length) fourcc =
            .returned (some (offset + (form child).size)) ∧
          pick child = some item ∧ children.filterMap pick = [item] ∧
            Located buffer offset (form child).encode := by
  have other : forall child, pick child = none -> (form child).kind ≠ fourcc := by
    intro child none same
    have some := (kinds child).mp same
    rw [none] at some
    cases some
  cases found : children.findSome? pick with
  | none =>
    rw [List.findSome?_eq_none_iff] at found
    refine Or.inl ⟨find_none fits located ?_, List.filterMap_eq_nil_iff.mpr found⟩
    intro box member
    rcases List.mem_map.mp member with ⟨child, among, rfl⟩
    exact other child (found child among)
  | some item =>
    rcases List.findSome?_eq_some_iff.mp found with ⟨before, child, after, rfl, picked, none⟩
    rw [List.map_append, List.map_cons] at located ⊢
    refine Or.inr ⟨_, child, item, find_first fits located ?_ ?_, picked,
      filterMap_single single picked none, located.item⟩
    · intro box member
      rcases List.mem_map.mp member with ⟨one, among, rfl⟩
      exact other one (none one among)
    · rw [kinds, picked]
      rfl

end Levels

/-! ## Tracks -/

/-- The sizes of the media and of their information are recovered. -/
def Mdia.Recovers (media : Mdia) : Prop :=
  media.box.Recovers ∧ forall information, information ∈ media.children.filterMap MdiaChild.minf? ->
    information.box.Recovers

def Trak.Recovers (track : Trak) : Prop :=
  forall media, media ∈ track.children.filterMap TrakChild.mdia? -> media.Recovers

theorem dimensionsAt_header {buffer : List Byte} {offset : Nat} (header : TrackHeader)
    (located : Located buffer offset header.box.encode) : dimensionsAt buffer offset = header.dimensions := by
  have content := located.payload
  have first : buffer[offset + 8]? = some (if header.wideTimes then 1 else 0) := content.getElem?
  have split : header.payload = ((if header.wideTimes then 1 else 0) ::
      (header.flags ++ header.times ++ header.placement)) ++
        (toBeBytes header.width ++ toBeBytes header.height) := rfl
  change Located buffer (offset + 8) header.payload at content
  rw [split] at content
  have sizes := content.right
  have times := header.times_length
  have front : (((if header.wideTimes then (1 : Byte) else 0) ::
      (header.flags ++ header.times ++ header.placement))).length = if header.wideTimes then 88 else 76 := by
    rw [List.length_cons, List.length_append, List.length_append, header.flags_length, header.placement_length,
      times]
    split
    · rfl
    · rfl
  rw [front] at sizes
  have width := sizes.left.u32At header.width_fits
  have height := sizes.right.u32At header.height_fits
  unfold dimensionsAt TrackHeader.dimensions
  rw [first, Option.getD_some]
  cases wide : header.wideTimes with
  | true =>
    rw [wide] at width height
    change (Option.map _ (u32At buffer (offset + 8 + 88)), Option.map _ (u32At buffer (offset + 8 + 92))) = _
    change u32At buffer (offset + 8 + 88) = _ at width
    change u32At buffer (offset + 8 + 92) = _ at height
    rw [width, height]
    rfl
  | false =>
    rw [wide] at width height
    change (Option.map _ (u32At buffer (offset + 8 + 76)), Option.map _ (u32At buffer (offset + 8 + 80))) = _
    change u32At buffer (offset + 8 + 76) = _ at width
    change u32At buffer (offset + 8 + 80) = _ at height
    rw [width, height]
    rfl

section Tracks

variable {target : Target} {buffer : List Byte} (fits : buffer.length < target.values / 2)

include fits

theorem find_vmhd {start : Nat} (information : Minf)
    (located : Located buffer start (encodeAll information.children)) :
    Exists fun found => findBoxInRange target buffer start
        (start + (encodeAll information.children).length) vmhd = .returned found ∧
      found.isSome = information.isVideo := by
  unfold Minf.isVideo
  cases video : information.children.find? fun box => decide (box.kind = vmhd) with
  | none =>
    rw [List.find?_eq_none] at video
    refine ⟨none, find_none fits located ?_, ?_⟩
    · intro box member
      simpa using video box member
    · rw [Option.isSome_none]
      symm
      rw [List.any_eq_false]
      exact video
  | some box =>
    rcases List.find?_eq_some_iff_append.mp video with ⟨same, before, after, whole, others⟩
    rw [whole] at located ⊢
    refine ⟨_, find_first fits located ?_ (of_decide_eq_true same), ?_⟩
    · intro other member
      simpa using others other member
    · rw [Option.isSome_some]
      symm
      rw [List.any_eq_true]
      exact ⟨box, List.mem_append_right _ List.mem_cons_self, same⟩

/-- With the sizes recovered, the search for `vmhd` tells video tracks. -/
theorem trakContainsVmhd_eq {start : Nat} (track : Trak) (located : Located buffer start track.box.encode)
    (recovers : track.Recovers) :
    trakContainsVmhd target buffer (start + 8) (start + track.box.size) = .returned track.isVideo := by
  have ends : start + track.box.size = start + 8 + (encodeAll (track.children.map TrakChild.box)).length :=
    track.box.ends start
  have kindsMedia : forall child : TrakChild, child.box.kind = mdia ↔ child.mdia?.isSome = true := by
    intro child
    cases child with
    | tkhd header => exact ⟨fun same => absurd same (show tkhd ≠ mdia by decide), fun some => nomatch some⟩
    | mdia media => exact ⟨fun _ => rfl, fun _ => rfl⟩
    | other box noHeader noMedia => exact ⟨fun same => (noMedia same).elim, fun some => nomatch some⟩
  have kindsInformation : forall child : MdiaChild, child.box.kind = minf ↔ child.minf?.isSome = true := by
    intro child
    cases child with
    | minf information => exact ⟨fun _ => rfl, fun _ => rfl⟩
    | other box kind => exact ⟨fun same => (kind same).elim, fun some => nomatch some⟩
  unfold trakContainsVmhd Trak.isVideo
  rw [ends]
  rcases find_child fits located.payload track.singleMedia kindsMedia with
    ⟨none, empty⟩ | ⟨offset, child, media, found, picked, only, here⟩
  · rw [none, empty, Checked.returned_bind]
    rfl
  cases child with
  | tkhd header | other box noHeader noMedia => cases picked
  | mdia media =>
    cases picked
    have mine := recovers media (only ▸ List.mem_singleton_self media)
    rw [found, only, Checked.returned_bind]
    dsimp only
    have start := Located.contentStart fits 8 here mine.1
    rw [start, Checked.returned_bind]
    have mediaEnds : offset + (TrakChild.mdia media).box.size =
        offset + 8 + (encodeAll (media.children.map MdiaChild.box)).length :=
      media.box.ends offset
    rw [mediaEnds, List.any_cons, List.any_nil, Bool.or_false]
    unfold Mdia.isVideo
    rcases find_child fits here.payload media.single kindsInformation with
      ⟨none, empty⟩ | ⟨position, child, information, found, picked, only, there⟩
    · rw [none, empty, Checked.returned_bind]
      rfl
    cases child with
    | other box kind => cases picked
    | minf information =>
      cases picked
      have its := mine.2 information (only ▸ List.mem_singleton_self information)
      rw [found, only, Checked.returned_bind]
      dsimp only
      rw [Located.contentStart fits 8 there its, Checked.returned_bind]
      have informationEnds : position + (MdiaChild.minf information).box.size =
          position + 8 + (encodeAll information.children).length :=
        information.box.ends position
      rw [informationEnds, List.any_cons, List.any_nil, Bool.or_false]
      rcases find_vmhd fits information there.payload with ⟨vmhdEnd, returned, same⟩
      rw [returned, Checked.returned_bind, same]
      rfl

theorem walk_header {start : Nat} (track : Trak) (located : Located buffer start track.box.encode) :
    walk target buffer true (start + track.box.size) (visitTkhd target buffer) (start + 8) =
      .returned (track.header?.map TrackHeader.dimensions) := by
  have ends : start + track.box.size = start + 8 + (encodeAll (track.children.map TrakChild.box)).length :=
    track.box.ends start
  have content : Located buffer (start + 8) (encodeAll (track.children.map TrakChild.box)) := located.payload
  have other : forall child : TrakChild, child.tkhd? = none -> forall offset,
      visitTkhd target buffer offset child.box.size child.box.kind = .returned none := by
    intro child none offset
    unfold visitTkhd
    refine if_neg ?_
    cases child with
    | tkhd header => cases none
    | mdia media => exact (show mdia ≠ tkhd by decide)
    | other box noHeader noMedia => exact noHeader
  unfold Trak.header?
  rw [ends]
  cases found : track.children.findSome? TrakChild.tkhd? with
  | none =>
    rw [List.findSome?_eq_none_iff] at found
    rw [List.filterMap_eq_nil_iff.mpr found]
    refine walk_none fits content ?_
    intro before box after same
    rcases child_of_form same with ⟨first, child, rest, whole, _, rfl⟩
    exact other child (found child (whole ▸ List.mem_append_right _ List.mem_cons_self)) _
  | some header =>
    rcases List.findSome?_eq_some_iff.mp found with ⟨before, child, after, whole, picked, none⟩
    have single := track.singleHeader
    rw [whole] at content single ⊢
    rw [filterMap_single single picked none]
    rw [List.map_append, List.map_cons] at content ⊢
    cases child with
    | mdia media | other box noHeader noMedia => cases picked
    | tkhd header =>
      cases picked
      refine walk_some fits content ?_ (fun _ _ empty => nomatch empty) ?_
      · intro first box rest same
        rcases child_of_form same with ⟨early, child, late, within, _, rfl⟩
        exact other child (none child (within ▸ List.mem_append_right _ List.mem_cons_self)) _
      · have here : Located buffer _ header.box.encode := content.item
        have complete := here.header.1.complete
        unfold visitTkhd
        rw [if_pos (show (TrakChild.tkhd header).box.kind = tkhd from rfl), tkhdDimensions_eq fits complete,
          dimensionsAt_header header here]
        rfl

theorem visit_child {start : Nat} (child : MoovChild) (located : Located buffer start child.box.encode)
    (recovers : forall track, child = .trak track -> track.Recovers) :
    visitTrak target buffer start child.box.size child.box.kind =
      .returned (child.shown.map TrackHeader.dimensions) := by
  have large := values_large target
  have room := located.le
  rw [RawBox.encode_length] at room
  cases child with
  | other box kind =>
    unfold visitTrak
    exact if_neg kind
  | trak track =>
    have size : 8 ≤ track.box.size := by
      unfold RawBox.size
      omega
    change start + track.box.size ≤ buffer.length at room
    change visitTrak target buffer start track.box.size trak = _
    rw [visitTrak_eq rfl (by omega) (by omega), trakContainsVmhd_eq fits track located (recovers track rfl),
      Checked.returned_bind]
    unfold MoovChild.shown Trak.shown
    dsimp only
    split
    · exact walk_header fits track located
    · rfl

end Tracks

/-! ## The movie -/

/-- The sizes of the tracks are recovered, as far as the first that shows its dimensions. -/
def TracksRecovered : List MoovChild -> Prop
  | [] => True
  | child :: rest =>
    (forall track, child = .trak track -> track.Recovers) ∧ (child.shown = none -> TracksRecovered rest)

/-- The sizes of the `moov` box, and of the media and their information in these tracks,
stand eight bytes before the ends of the boxes. -/
def MovieFile.Recovered (file : MovieFile) : Prop :=
  file.movie.box.Recovers ∧ TracksRecovered file.movie.children

theorem tracksRecovered_mem {before after : List MoovChild} {child : MoovChild}
    (recovered : TracksRecovered (before ++ child :: after))
    (none : forall other, other ∈ before -> other.shown = none) :
    forall track, child = .trak track -> track.Recovers := by
  induction before with
  | nil => exact recovered.1
  | cons first before ih =>
    apply ih (recovered.2 (none first List.mem_cons_self))
    intro other member
    exact none other (List.mem_cons_of_mem first member)

theorem payload_of_shown {child : MoovChild} {header : TrackHeader} (shown : child.shown = some header) :
    child.box.payload ≠ [] := by
  cases child with
  | other box kind => cases shown
  | trak track =>
    intro empty
    change encodeAll (track.children.map TrakChild.box) = [] at empty
    cases children : track.children with
    | nil =>
      unfold MoovChild.shown Trak.shown Trak.isVideo at shown
      dsimp only at shown
      rw [children] at shown
      cases shown
    | cons first rest =>
      rw [children] at empty
      have length := congrArg List.length empty
      rw [List.map_cons, encodeAll_cons, List.length_append, RawBox.encode_length] at length
      unfold RawBox.size at length
      rw [List.length_nil] at length
      omega

theorem walk_movie {target : Target} {buffer : List Byte} (fits : buffer.length < target.values / 2) {start : Nat}
    (children : List MoovChild) (located : Located buffer start (encodeAll (children.map MoovChild.box)))
    (recovered : TracksRecovered children) :
    walk target buffer true (start + (encodeAll (children.map MoovChild.box)).length)
        (visitTrak target buffer) start =
      .returned ((children.findSome? MoovChild.shown).map TrackHeader.dimensions) := by
  cases found : children.findSome? MoovChild.shown with
  | none =>
    rw [List.findSome?_eq_none_iff] at found
    refine walk_none fits located ?_
    intro before box after same
    rw [same] at located
    rcases child_of_form same with ⟨first, child, rest, rfl, rfl, rfl⟩
    rw [visit_child fits child located.item, found child (List.mem_append_right _ List.mem_cons_self)]
    · rfl
    · exact tracksRecovered_mem recovered fun other member => found other (List.mem_append_left _ member)
  | some header =>
    rcases List.findSome?_eq_some_iff.mp found with ⟨before, child, after, rfl, shown, none⟩
    rw [List.map_append, List.map_cons] at located ⊢
    refine walk_some fits located ?_ (fun _ _ => payload_of_shown shown) ?_
    · intro first box rest same
      rcases child_of_form same with ⟨early, one, late, rfl, rfl, rfl⟩
      have among : one ∈ early ++ one :: late := List.mem_append_right _ List.mem_cons_self
      have here : Located buffer (start + (encodeAll (early.map MoovChild.box)).length) one.box.encode := by
        rw [List.map_append, List.map_cons, List.append_assoc, List.cons_append] at located
        exact located.item
      rw [visit_child fits one here, none one among]
      · rfl
      · rw [List.append_assoc, List.cons_append] at recovered
        exact tracksRecovered_mem recovered fun other member => none other (List.mem_append_left _ member)
    · rw [visit_child fits child located.item (tracksRecovered_mem recovered none), shown]
      rfl

/-- Where the sizes are recovered, the scan of a well-formed movie returns the stored
dimensions of its first video track, wherever that is. -/
theorem recovered_dimensions_are_found {target : Target} {file : MovieFile}
    (fits : file.bytes.length < target.values / 2) (recovered : file.Recovered) :
    scanVideoTkhdDimensions target file.bytes = .returned file.dimensions := by
  have whole : Located file.bytes 0 (encodeAll (file.before ++ file.movie.box :: file.after)) :=
    Located.whole file.bytes
  have here := whole.item
  have found := find_first fits whole file.first (show file.movie.box.kind = moov from rfl)
  rw [Nat.zero_add] at found here
  unfold scanVideoTkhdDimensions findBox
  change (findBoxInRange target file.bytes 0 file.bytes.length moov >>= _) = _
  rw [show findBoxInRange target file.bytes 0 file.bytes.length moov = _ from found, Checked.returned_bind]
  dsimp only
  rw [Located.contentStart fits 0 (by simpa using here) recovered.1, Checked.returned_bind]
  rw [RawBox.ends, Nat.zero_add]
  have content : Located file.bytes ((encodeAll file.before).length + 8)
      (encodeAll (file.movie.children.map MoovChild.box)) := by
    have inside := here.payload
    exact inside
  have walked := walk_movie fits file.movie.children content recovered.2
  change (walk target file.bytes true _ _ _ >>= _) = _
  rw [show walk target file.bytes true ((encodeAll file.before).length + 8 + file.movie.box.payload.length)
    (visitTrak target file.bytes) ((encodeAll file.before).length + 8) = _ from walked, Checked.returned_bind]
  unfold MovieFile.dimensions MovieFile.shown
  cases file.movie.children.findSome? MoovChild.shown with
  | none => rfl
  | some header => rfl

/-! ### A movie of 1920 by 1080 pixels -/

/-- A box that spells this size eight bytes before its end. -/
def exampleTail (size : Nat) : RawBox where
  kind := [0x66, 0x72, 0x65, 0x65]
  payload := toBeBytes size ++ [0, 0, 0, 0]
  kind_length := rfl
  fits := by
    change 16 < 2 ^ 32
    decide

def exampleVmhd : RawBox := ⟨vmhd, [], rfl, by decide⟩

def exampleHeader : TrackHeader where
  wideTimes := false
  flags := [0, 0, 7]
  times := List.replicate 20 0
  placement := List.replicate 52 0
  width := 1920 * 2 ^ 16
  height := 1080 * 2 ^ 16
  flags_length := rfl
  times_length := rfl
  placement_length := rfl
  width_fits := by decide
  height_fits := by decide

/-- Media whose boxes end with their sizes spelled out, or not. -/
def exampleMinf (spelled : Bool) : Minf where
  children := exampleVmhd :: if spelled then [exampleTail 32] else []
  fits := by
    cases spelled <;> decide

def exampleMdia (spelled : Bool) : Mdia where
  children := .minf (exampleMinf spelled) :: if spelled then [.other (exampleTail 56) (by decide)] else []
  single := by
    cases spelled <;> decide
  fits := by
    cases spelled <;> decide

def exampleTrak (spelled : Bool) : Trak where
  children := [.tkhd exampleHeader, .mdia (exampleMdia spelled)]
  singleHeader := Nat.le_refl 1
  singleMedia := Nat.le_refl 1
  fits := by
    cases spelled <;> decide +kernel

/-- A movie of one video track. -/
def exampleMovie (spelled : Bool) : MovieFile where
  before := []
  movie := {
    children := .trak (exampleTrak spelled) :: if spelled then [.other (exampleTail 180) (by decide)] else []
    fits := by
      cases spelled <;> decide +kernel }
  after := []
  first := nofun

theorem exampleMovie_recovered : (exampleMovie true).Recovered := by
  refine ⟨by decide +kernel, ?_, fun none => ?_⟩
  · intro track same
    cases same
    intro media member
    rw [show (exampleTrak true).children.filterMap TrakChild.mdia? = [exampleMdia true] from rfl,
      List.mem_singleton] at member
    subst member
    refine ⟨by decide +kernel, ?_⟩
    intro information member
    rw [show (exampleMdia true).children.filterMap MdiaChild.minf? = [exampleMinf true] from rfl,
      List.mem_singleton] at member
    subst member
    decide +kernel
  · cases none

/-- The scan finds the dimensions of the movie that spells out its sizes. -/
theorem recovered_dimensions_are_found_here :
    (exampleMovie true).Recovered ∧
      scanVideoTkhdDimensions .bits64 (exampleMovie true).bytes = .returned (some 1920, some 1080) :=
  ⟨exampleMovie_recovered, recovered_dimensions_are_found (by decide +kernel) exampleMovie_recovered⟩

/-- It misses the video track of a movie that does not. -/
theorem plain_movie_is_missed :
    (exampleMovie false).dimensions = (some 1920, some 1080) ∧
      scanVideoTkhdDimensions .bits64 (exampleMovie false).bytes = .returned (none, none) := by
  constructor
  · rfl
  · decide +kernel

end Media
end TelegramDrive
