import TelegramDrive.Media.Containers

namespace TelegramDrive
namespace Media

open ArrayAccess

/-!
# What an inspection accepts and keeps

One turn of the inspection reads exactly the box that stands at its offset.  By
induction on the turns, the inspection accepts a file exactly when the file is a
container that is not too long, and what it returns is determined by the boxes.
-/

/-! ## Reading a box -/

section Reading

variable {content : List Byte} {position count : Nat} {error : String}

theorem readExact_returned {bytes : List Byte} :
    readExact content position count error = .returned bytes ↔
      position + count ≤ content.length ∧ part content position count = bytes := by
  unfold readExact
  split
  next within =>
    constructor
    · intro done
      cases done
      exact ⟨within, rfl⟩
    · rintro ⟨_, rfl⟩
      rfl
  next without =>
    constructor
    · intro done
      cases done
    · intro both
      exact (without both.1).elim

theorem readExact_safe : (readExact content position count error).Safe := by
  unfold readExact
  split
  · exact Checked.safe_returned _
  · exact Checked.safe_failed _

theorem readExact_after (before field rest : List Byte) (error : String)
    (starts : before.length = position) (counts : field.length = count) :
    readExact (before ++ (field ++ rest)) position count error = .returned field := by
  rw [readExact_returned]
  refine ⟨?_, part_after before field rest starts counts⟩
  simp only [List.length_append]
  omega

theorem subtract_of_le {one two : Nat} (le : two ≤ one) : subtract one two = .returned (one - two) :=
  if_pos le

theorem drop_eq_part (items : List Byte) (start count : Nat) :
    items.drop start = part items start count ++ items.drop (start + count) := by
  unfold part
  rw [← List.drop_drop, List.take_append_drop]

end Reading

/-- What is read of this box. -/
def ContainerBox.atomHeader (box : ContainerBox) : AtomHeader where
  short := box.form.marked box.size
  kind := box.kind
  size := box.size
  headerSize := box.form.headerSize

theorem ContainerBox.marked_lt (box : ContainerBox) : box.form.marked box.size < 256 ^ 4 := by
  have fits := box.fits
  unfold ContainerBox.size
  cases form : box.form with
  | short =>
    rw [form] at fits
    exact fits
  | extended => exact (by decide : 1 < 256 ^ 4)
  | rest => exact (by decide : 0 < 256 ^ 4)

theorem readHeader_box {before after : List Byte} {box : ContainerBox}
    (last : box.form = .rest -> after = []) :
    readHeader (before ++ (box.encode ++ after)) before.length = .returned box.atomHeader := by
  have marked := fromBeBytes_beBytes box.marked_lt
  have width : (beBytes 4 (box.form.marked box.size)).length = 4 := beBytes_length 4 _
  have length : (before ++ (box.encode ++ after)).length = before.length + (box.size + after.length) := by
    rw [List.length_append, List.length_append, box.encode_length]
  have first : readExact (before ++ (box.encode ++ after)) before.length 8 uninspected =
      .returned (beBytes 4 (box.form.marked box.size) ++ box.kind) := by
    have split : box.encode ++ after = (beBytes 4 (box.form.marked box.size) ++ box.kind) ++
        (box.extendedSize ++ (box.payload ++ after)) := by
      simp only [ContainerBox.encode, List.append_assoc]
    rw [split]
    refine readExact_after before _ _ uninspected rfl ?_
    rw [List.length_append, width, box.kind_length]
  unfold readHeader
  rw [first, Checked.returned_bind]
  dsimp only
  rw [List.take_left' width, List.drop_left' width, marked]
  cases form : box.form with
  | short =>
    have eight := box.eight_le
    have named : box.atomHeader = { short := box.size, kind := box.kind, size := box.size, headerSize := 8 } := by
      rw [ContainerBox.atomHeader, form]
      rfl
    rw [SizeForm.marked, if_neg (by omega), if_neg (by omega), named]
    rfl
  | extended =>
    have eightMore : (beBytes 8 box.size).length = 8 := beBytes_length 8 _
    have fits : box.size < 256 ^ 8 := by
      have bound := box.fits
      rw [form] at bound
      unfold ContainerBox.size
      rw [form]
      exact bound
    have second : readExact (before ++ (box.encode ++ after)) (before.length + 8) 8 truncatedBox =
        .returned (beBytes 8 box.size) := by
      have split : before ++ (box.encode ++ after) =
          (before ++ (beBytes 4 (box.form.marked box.size) ++ box.kind)) ++
            (beBytes 8 box.size ++ (box.payload ++ after)) := by
        simp only [ContainerBox.encode, ContainerBox.extendedSize, if_pos form, List.append_assoc]
      rw [split]
      refine readExact_after _ _ _ truncatedBox ?_ eightMore
      rw [List.length_append, List.length_append, width, box.kind_length]
    have named : box.atomHeader = { short := 1, kind := box.kind, size := box.size, headerSize := 16 } := by
      rw [ContainerBox.atomHeader, form]
      rfl
    rw [SizeForm.marked, if_neg (by omega), if_pos rfl, second, Checked.returned_bind, fromBeBytes_beBytes fits,
      named]
    rfl
  | rest =>
    have nothing := last form
    have named : box.atomHeader = { short := 0, kind := box.kind, size := box.size, headerSize := 8 } := by
      rw [ContainerBox.atomHeader, form]
      rfl
    have left : before.length + (box.size + after.length) - before.length = box.size := by
      rw [nothing, List.length_nil]
      omega
    rw [SizeForm.marked, if_pos rfl, length, subtract_of_le (Nat.le_add_right _ _), Checked.returned_bind, left,
      named]
    rfl

theorem readAtom_box {before after : List Byte} {box : ContainerBox}
    (fits : (before ++ (box.encode ++ after)).length < 2 ^ 64) (last : box.form = .rest -> after = []) :
    readAtom (before ++ (box.encode ++ after)) before.length =
      .returned (box.atomHeader, before.length + box.size) := by
  have length : (before ++ (box.encode ++ after)).length = before.length + (box.size + after.length) := by
    rw [List.length_append, List.length_append, box.encode_length]
  have eight := box.eight_le
  have header := box.headerSize_le
  have read : readHeader (before ++ (box.encode ++ after)) before.length = .returned box.atomHeader :=
    readHeader_box last
  rw [length] at fits
  have stop : (checkedAdd before.length box.size).filter
      (fun stop => decide (stop ≤ (before ++ (box.encode ++ after)).length)) = some (before.length + box.size) := by
    unfold checkedAdd
    rw [if_pos (by omega), Option.filter_some, if_pos]
    rw [length, decide_eq_true_eq]
    omega
  have sized : box.atomHeader.headerSize ≤ box.atomHeader.size ∧ before.length < before.length + box.size :=
    ⟨header, by omega⟩
  unfold readAtom
  rw [Checked.require_of (by rw [length]; omega), Checked.returned_bind, read, Checked.returned_bind]
  change (Checked.ofOption invalidBox ((checkedAdd before.length box.size).filter _) >>= _) = _
  rw [stop, Checked.ofOption_some, Checked.returned_bind, Checked.require_of sized]
  rfl

variable {content : List Byte}

theorem readHeader_returned {offset : Nat} {header : AtomHeader}
    (done : readHeader content offset = .returned header) :
    offset + 8 ≤ content.length ∧ header.kind = part content (offset + 4) 4 ∧
      header.short = fromBeBytes (part content offset 4) ∧
      ((header.short = 0 ∧ header.size = content.length - offset ∧ header.headerSize = 8) ∨
        (header.short = 1 ∧ header.size = fromBeBytes (part content (offset + 8) 8) ∧ header.headerSize = 16) ∨
        (1 < header.short ∧ header.size = header.short ∧ header.headerSize = 8)) := by
  unfold readHeader at done
  rcases Checked.bind_returned done with ⟨bytes, first, later⟩
  rcases readExact_returned.mp first with ⟨room, rfl⟩
  have front : (part content offset 8).take 4 = part content offset 4 := by
    unfold part
    rw [List.take_take]
    rfl
  have behind : (part content offset 8).drop 4 = part content (offset + 4) 4 := by
    unfold part
    rw [List.drop_take, List.drop_drop]
  dsimp only at later
  rw [front, behind] at later
  split at later
  next zero =>
    rcases Checked.bind_returned later with ⟨size, left, final⟩
    rw [subtract_of_le (by omega)] at left
    cases left
    cases final
    exact ⟨room, rfl, rfl, Or.inl ⟨zero, rfl, rfl⟩⟩
  next nonzero =>
    split at later
    next one =>
      rcases Checked.bind_returned later with ⟨extended, second, final⟩
      rcases readExact_returned.mp second with ⟨_, rfl⟩
      cases final
      exact ⟨room, rfl, rfl, Or.inr (Or.inl ⟨one, rfl, rfl⟩)⟩
    next many =>
      cases later
      refine ⟨room, rfl, rfl, Or.inr (Or.inr ⟨?_, rfl, rfl⟩)⟩
      dsimp only
      omega

theorem beBytes_part {start width : Nat} (within : start + width ≤ content.length) :
    beBytes width (fromBeBytes (part content start width)) = part content start width := by
  have same := beBytes_fromBeBytes (part content start width)
  rwa [part_length within] at same

theorem part_fields (content : List Byte) {offset size : Nat} (enough : 8 ≤ size) :
    part content offset size =
      part content offset 4 ++ (part content (offset + 4) 4 ++ part content (offset + 8) (size - 8)) := by
  rw [part_append content (offset + 4) 4 (size - 8), part_append content offset 4]
  congr 1
  omega

/-- A header that is read within the file belongs to a box that stands there. -/
theorem box_of_header {offset : Nat} {header : AtomHeader}
    (done : readHeader content offset = .returned header) (sized : header.headerSize ≤ header.size)
    (fits : header.size < 2 ^ 64) (within : offset + header.size ≤ content.length) :
    Exists fun box : ContainerBox => header = box.atomHeader ∧ part content offset header.size = box.encode ∧
      (box.form = .rest -> offset + header.size = content.length) := by
  rcases readHeader_returned done with ⟨room, kind, short, forms⟩
  have marked : beBytes 4 header.short = part content offset 4 := by
    rw [short]
    exact beBytes_part (by omega)
  have named : (part content (offset + 4) 4).length = 4 := part_length (by omega)
  have small : header.short < 2 ^ 32 := by
    have below := fromBeBytes_lt (part content offset 4)
    rw [part_length (by omega)] at below
    rw [short]
    exact below
  rcases header with ⟨number, fourcc, size, headerSize⟩
  dsimp only at *
  subst kind
  rcases forms with ⟨rfl, whole, rfl⟩ | ⟨rfl, whole, rfl⟩ | ⟨_, rfl, rfl⟩
  · have payload : (part content (offset + 8) (size - 8)).length = size - 8 := part_length (by omega)
    have total : 8 + (part content (offset + 8) (size - 8)).length = size := by omega
    refine ⟨⟨.rest, part content (offset + 4) 4, part content (offset + 8) (size - 8), named, ?_⟩, ?_, ?_, ?_⟩
    · exact Nat.lt_of_le_of_lt (Nat.le_of_eq total) fits
    · change _ = AtomHeader.mk 0 _ (8 + _) 8
      rw [total]
    · rw [part_fields content sized, ← marked]
      rfl
    · intro _
      omega
  · have payload : (part content (offset + 16) (size - 16)).length = size - 16 := part_length (by omega)
    have total : 16 + (part content (offset + 16) (size - 16)).length = size := by omega
    have eightMore : beBytes 8 size = part content (offset + 8) 8 := by
      rw [whole]
      exact beBytes_part (by omega)
    have split : part content (offset + 8) (size - 8) =
        part content (offset + 8) 8 ++ part content (offset + 16) (size - 16) := by
      rw [part_append content (offset + 8) 8]
      congr 1
      omega
    refine ⟨⟨.extended, part content (offset + 4) 4, part content (offset + 16) (size - 16), named, ?_⟩, ?_, ?_, ?_⟩
    · exact Nat.lt_of_le_of_lt (Nat.le_of_eq total) fits
    · change _ = AtomHeader.mk 1 _ (16 + _) 16
      rw [total]
    · rw [part_fields content (by omega), split, ← marked, ← eightMore]
      change _ = beBytes 4 1 ++ (part content (offset + 4) 4 ++ (beBytes 8 (16 + _) ++ _))
      rw [total]
    · intro impossible
      cases impossible
  · have payload : (part content (offset + 8) (size - 8)).length = size - 8 := part_length (by omega)
    have total : 8 + (part content (offset + 8) (size - 8)).length = size := by omega
    refine ⟨⟨.short, part content (offset + 4) 4, part content (offset + 8) (size - 8), named, ?_⟩, ?_, ?_, ?_⟩
    · exact Nat.lt_of_le_of_lt (Nat.le_of_eq total) small
    · change _ = AtomHeader.mk (8 + _) _ (8 + _) 8
      rw [total]
    · rw [part_fields content sized, ← marked]
      change _ = beBytes 4 (8 + _) ++ (part content (offset + 4) 4 ++ ([] ++ _))
      rw [total]
      rfl
    · intro impossible
      cases impossible

theorem readAtom_returned {offset : Nat} {atom : AtomHeader × Nat}
    (done : readAtom content offset = .returned atom) :
    Exists fun box : ContainerBox => content.drop offset = box.encode ++ content.drop (offset + box.size) ∧
      offset + box.size ≤ content.length ∧ atom = (box.atomHeader, offset + box.size) ∧
      (box.form = .rest -> offset + box.size = content.length) := by
  unfold readAtom at done
  rw [Checked.require_bind_returned] at done
  rcases Checked.bind_returned done.2 with ⟨header, read, later⟩
  rcases Checked.bind_returned later with ⟨stop, found, checked⟩
  rw [Checked.require_bind_returned] at checked
  rcases checked with ⟨⟨sized, _⟩, final⟩
  cases final
  rw [Checked.ofOption_returned, Option.filter_eq_some_iff, decide_eq_true_eq] at found
  unfold checkedAdd at found
  rcases found with ⟨sum, within⟩
  split at sum
  next fits =>
    cases sum
    rcases box_of_header read sized (by omega) within with ⟨box, rfl, encoded, last⟩
    refine ⟨box, ?_, within, rfl, last⟩
    rw [← encoded]
    exact drop_eq_part content offset box.size
  · cases sum

theorem readAtom_safe {offset : Nat} (within : offset ≤ content.length) :
    (readAtom content offset).Safe := by
  refine Checked.safe_require_bind fun _ => ?_
  refine Checked.safe_bind ?_ fun header _ => ?_
  · refine Checked.safe_bind readExact_safe fun bytes _ => ?_
    dsimp only
    split
    · rw [subtract_of_le within]
      exact Checked.safe_returned _
    · split
      · exact Checked.safe_bind readExact_safe fun extended _ => Checked.safe_returned _
      · exact Checked.safe_returned _
  · refine Checked.safe_bind (Checked.safe_ofOption _ _) fun stop _ => ?_
    exact Checked.safe_require_bind fun _ => Checked.safe_returned _

/-! ## Keeping a box -/

theorem chunkLengths_sum (count : Nat) : (chunkLengths count).sum = count := by
  unfold chunkLengths
  have whole := Nat.div_add_mod' count (64 * 1024)
  rw [List.sum_append, List.sum_replicate_nat]
  split
  next even =>
    rw [even] at whole
    exact whole
  · rw [List.sum_cons, List.sum_nil]
    exact whole

section Keeping

variable {target : Target} {room : Nat} {watch : Watch} {content : List Byte} {offset length checks : Nat}
  {box : ContainerBox}

theorem readChunks_returned {counts : List Nat} {position : Nat} {read : List Byte × Nat}
    (done : readChunks watch content counts checks position = .returned read) :
    read.1 = part content position counts.sum := by
  induction counts generalizing checks position read with
  | nil =>
    cases done
    rw [List.sum_nil]
    rfl
  | cons count counts ih =>
    rcases Checked.bind_returned done with ⟨later, _, reading⟩
    rcases Checked.bind_returned reading with ⟨chunk, here, more⟩
    rcases Checked.bind_returned more with ⟨rest, others, final⟩
    rcases readExact_returned.mp here with ⟨_, rfl⟩
    cases final
    dsimp only
    rw [ih others, part_append, List.sum_cons]

theorem readChunks_quiet {counts : List Nat} {position : Nat} (within : position + counts.sum ≤ content.length) :
    Exists fun later => readChunks .quiet content counts checks position =
      .returned (part content position counts.sum, later) := by
  induction counts generalizing checks position with
  | nil => exact ⟨checks, by rw [List.sum_nil]; rfl⟩
  | cons count counts ih =>
    rw [List.sum_cons, ← Nat.add_assoc] at within
    have here : readExact content position count unreadMetadata = .returned (part content position count) :=
      readExact_returned.mpr ⟨by omega, rfl⟩
    rcases @ih (checks + 1) _ within with ⟨later, rest⟩
    refine ⟨later, ?_⟩
    change (readExact content position count unreadMetadata >>= _) = _
    rw [here, Checked.returned_bind]
    rw [rest, Checked.returned_bind, List.sum_cons, ← part_append]
    rfl

theorem check_safe (watch : Watch) (checks : Nat) : (watch.check checks).Safe := by
  unfold Watch.check
  split
  · exact Checked.safe_failed _
  · split
    · exact Checked.safe_failed _
    · exact Checked.safe_returned _

theorem readChunks_safe (counts : List Nat) (position : Nat) :
    (readChunks watch content counts checks position).Safe := by
  induction counts generalizing checks position with
  | nil => exact Checked.safe_returned _
  | cons count counts ih =>
    refine Checked.safe_bind (check_safe watch checks) fun later _ => ?_
    refine Checked.safe_bind readExact_safe fun chunk _ => ?_
    exact Checked.safe_bind (ih _) fun rest _ => Checked.safe_returned _

theorem metadataLimit_lt (target : Target) : metadataLimit < target.values := by
  cases target with
  | bits32 | bits64 => decide

theorem mod_values {size : Nat} (target : Target) (small : size ≤ metadataLimit) : size % target.values = size :=
  Nat.mod_eq_of_lt (Nat.lt_of_le_of_lt small (metadataLimit_lt target))

theorem explicit_eq (box : ContainerBox) : box.explicit =
    if box.form.marked box.size = 0 then beBytes 4 box.size ++ box.encode.drop 4 else box.encode := by
  have eight := box.eight_le
  unfold ContainerBox.explicit
  cases form : box.form with
  | short => rw [SizeForm.marked, if_neg (by decide), if_neg (by omega)]
  | extended => rw [SizeForm.marked, if_neg (by decide), if_neg (by decide)]
  | rest =>
    have width : (beBytes 4 (SizeForm.rest.marked box.size)).length = 4 := beBytes_length 4 _
    unfold ContainerBox.encode ContainerBox.extendedSize
    rw [form, if_pos rfl, SizeForm.marked, if_pos rfl, if_neg (by decide), List.nil_append]
    congr 1

@[simp] theorem explicit_length (box : ContainerBox) : box.explicit.length = box.size := by
  have eight := box.eight_le
  rw [explicit_eq]
  split
  · rw [List.length_append, List.length_drop, beBytes_length, box.encode_length]
    omega
  · exact box.encode_length

@[simp] theorem kept_length (box : ContainerBox) : box.kept.length = box.keptSize := by
  unfold ContainerBox.kept ContainerBox.keptSize
  split
  · exact explicit_length box
  · rfl

theorem keptSize_le (box : ContainerBox) : box.keptSize ≤ box.size := by
  unfold ContainerBox.keptSize
  split
  · exact Nat.le_refl _
  · exact Nat.zero_le _

/-- A box that is kept leaves its bytes, within the limit; other boxes leave none. -/
theorem keepMetadata_returned {kept : List Byte × Nat} (encoded : part content offset box.size = box.encode)
    (done : keepMetadata target room watch content box.atomHeader offset length checks = .returned kept) :
    kept.1 = box.kept ∧ (length ≤ metadataLimit -> length + box.keptSize ≤ metadataLimit) := by
  unfold keepMetadata at done
  unfold ContainerBox.kept ContainerBox.keptSize
  split at done
  next metadata =>
    rcases Checked.bind_returned done with ⟨total, sum, later⟩
    rw [Checked.require_bind_returned] at later
    rcases Checked.bind_returned later.2 with ⟨_, _, resizing⟩
    rcases Checked.bind_returned resizing with ⟨_, _, reading⟩
    rcases Checked.bind_returned reading with ⟨read, chunks, marking⟩
    have bounded : length + box.size ≤ metadataLimit := by
      unfold addU64 at sum
      split at sum
      · cases sum
        exact later.1
      · cases sum
    have found := readChunks_returned chunks
    rw [chunkLengths_sum, mod_values target (by exact Nat.le_trans (Nat.le_add_left _ _) bounded)] at found
    change read.1 = part content offset box.size at found
    rw [encoded] at found
    have isMetadata : box.IsMetadata := metadata
    rw [if_pos isMetadata, if_pos isMetadata, explicit_eq]
    refine ⟨?_, fun _ => bounded⟩
    change (if box.form.marked box.size = 0 then _ else _) = _ at marking
    split at marking
    next zero =>
      rcases Checked.bind_returned marking with ⟨explicit, written, final⟩
      cases final
      unfold overwrite at written
      split at written
      · cases written
        have small : box.size % 2 ^ 32 = box.size := mod_values .bits32 (Nat.le_trans (Nat.le_add_left _ _) bounded)
        rw [if_pos zero, found, beBytes_length]
        change beBytes 4 (box.size % 2 ^ 32) ++ _ = _
        rw [small]
      · cases written
    next nonzero =>
      cases marking
      rw [if_neg nonzero, found]
  next other =>
    have isOther : ¬ box.IsMetadata := other
    cases done
    rw [if_neg isOther, if_neg isOther]
    exact ⟨rfl, id⟩

theorem keepMetadata_quiet (encoded : part content offset box.size = box.encode)
    (within : offset + box.size ≤ content.length) (bounded : length + box.keptSize ≤ metadataLimit)
    (enough : metadataLimit ≤ room) :
    Exists fun later => keepMetadata target room .quiet content box.atomHeader offset length checks =
      .returned (box.kept, later) := by
  unfold keepMetadata ContainerBox.kept
  unfold ContainerBox.keptSize at bounded
  by_cases metadata : box.IsMetadata
  · rw [if_pos metadata] at bounded
    have small : box.size ≤ metadataLimit := Nat.le_trans (Nat.le_add_left _ _) bounded
    have sum : addU64 length box.size = .returned (length + box.size) :=
      if_pos (Nat.lt_of_le_of_lt bounded (by decide))
    have grown : addUsize target length box.size = .returned (length + box.size) :=
      if_pos (Nat.lt_of_le_of_lt bounded (metadataLimit_lt target))
    have resized : resize room (length + box.size) = .returned () := if_pos (Nat.le_trans bounded enough)
    have whole : (chunkLengths box.size).sum = box.size := chunkLengths_sum box.size
    have reads : Exists fun later => readChunks .quiet content (chunkLengths box.size) checks offset =
        .returned (part content offset (chunkLengths box.size).sum, later) :=
      readChunks_quiet (by rw [whole]; exact within)
    rcases reads with ⟨later, read⟩
    rw [whole, encoded] at read
    refine ⟨later, ?_⟩
    have kept : box.atomHeader.kind = moov ∨ box.atomHeader.kind = ftyp := metadata
    have sized : box.atomHeader.size = box.size := rfl
    have marked : box.atomHeader.short = box.form.marked box.size := rfl
    rw [if_pos kept, if_pos metadata, sized, sum, Checked.returned_bind, Checked.require_of bounded,
      Checked.returned_bind]
    dsimp only
    rw [mod_values target small, grown, Checked.returned_bind, resized, Checked.returned_bind, read,
      Checked.returned_bind, marked, explicit_eq]
    split
    · have four : (beBytes 4 (box.size % 2 ^ 32)).length ≤ box.encode.length := by
        rw [beBytes_length, box.encode_length]
        exact Nat.le_trans (by decide) box.eight_le
      have written : overwrite box.encode (beBytes 4 (box.size % 2 ^ 32)) =
          .returned (beBytes 4 box.size ++ box.encode.drop 4) := by
        unfold overwrite
        rw [if_pos four, beBytes_length]
        exact congrArg (fun number => Checked.returned (beBytes 4 number ++ box.encode.drop 4))
          (mod_values .bits32 small)
      rw [written]
      rfl
    · rfl
  · have other : ¬ (box.atomHeader.kind = moov ∨ box.atomHeader.kind = ftyp) := metadata
    rw [if_neg other, if_neg metadata]
    exact ⟨checks, rfl⟩

theorem keepMetadata_safe (within : offset + box.size ≤ content.length) (fits : content.length < 2 ^ 64)
    (shorter : length ≤ offset) (enough : metadataLimit ≤ room)
    (encoded : part content offset box.size = box.encode) :
    (keepMetadata target room watch content box.atomHeader offset length checks).Safe := by
  unfold keepMetadata
  split
  · refine Checked.safe_bind ?_ ?_
    · unfold addU64
      rw [if_pos (by change length + box.size < 2 ^ 64; omega)]
      exact Checked.safe_returned _
    · intro total sum
      unfold addU64 at sum
      split at sum
      · cases sum
        refine Checked.safe_require_bind fun bounded => ?_
        change length + box.size ≤ metadataLimit at bounded
        have small : box.size ≤ metadataLimit := Nat.le_trans (Nat.le_add_left _ _) bounded
        have sized : box.atomHeader.size = box.size := rfl
        have grown : addUsize target length box.size = .returned (length + box.size) :=
          if_pos (Nat.lt_of_le_of_lt bounded (metadataLimit_lt target))
        have resized : resize room (length + box.size) = .returned () := if_pos (Nat.le_trans bounded enough)
        dsimp only
        rw [sized, mod_values target small, grown, Checked.returned_bind, resized, Checked.returned_bind]
        refine Checked.safe_bind (readChunks_safe _ _) fun read done => ?_
        have found := readChunks_returned done
        rw [chunkLengths_sum, encoded] at found
        split
        · refine Checked.safe_bind ?_ fun explicit _ => Checked.safe_returned _
          unfold overwrite
          rw [if_pos]
          · exact Checked.safe_returned _
          · rw [beBytes_length, found, box.encode_length]
            exact Nat.le_trans (by decide) box.eight_le
        · exact Checked.safe_returned _
      · cases sum
  · exact Checked.safe_returned _

end Keeping

/-! ## The decision about streaming -/

/-- What is decided behind these boxes, of which the first starts here. -/
def decided (previous start : Nat) (decision : Option Bool) : List ContainerBox -> Option Bool
  | [] => decision
  | box :: boxes => decided start (start + box.size) (latch previous box.kind decision) boxes

theorem decided_some (previous start : Nat) (decision : Bool) (boxes : List ContainerBox) :
    decided previous start (some decision) boxes = some decision := by
  induction boxes generalizing previous start with
  | nil => rfl
  | cons box boxes ih => exact ih start (start + box.size)

/-- Where the predecessor of a box starts, when the first box has one that starts here. -/
def predecessorStart (previous start : Nat) (boxes : List ContainerBox) : Nat -> Nat
  | 0 => previous
  | index + 1 => start + boxStart boxes index

theorem predecessorStart_cons (previous start : Nat) (box : ContainerBox) (boxes : List ContainerBox) (index : Nat) :
    predecessorStart previous start (box :: boxes) (index + 1) =
      predecessorStart start (start + box.size) boxes index := by
  cases index with
  | zero => rfl
  | succ index =>
    change start + boxStart (box :: boxes) (index + 1) = start + box.size + boxStart boxes index
    unfold boxStart
    rw [List.take_succ_cons, container_cons, List.length_append, box.encode_length, Nat.add_assoc]

/-- A video can be streamed when the first decision is made at a `moov` box. -/
theorem decided_none_iff (previous start : Nat) (boxes : List ContainerBox) :
    decided previous start none boxes = some true ↔
      Exists fun index => Exists fun box => boxes[index]? = some box ∧ box.kind = moov ∧
        forall earlier, earlier ≤ index -> predecessorStart previous start boxes earlier < 128 * 1024 := by
  induction boxes generalizing previous start with
  | nil =>
    constructor
    · intro impossible
      cases impossible
    · rintro ⟨index, box, found, _⟩
      rw [List.getElem?_nil] at found
      cases found
  | cons box boxes ih =>
    rw [decided, latch]
    split
    next late =>
      rw [decided_some]
      constructor
      · intro impossible
        cases impossible
      · rintro ⟨index, other, _, _, early⟩
        have first : previous < 128 * 1024 := early 0 (Nat.zero_le index)
        omega
    next early =>
      split
      next isMoov =>
        rw [decided_some]
        refine ⟨fun _ => ⟨0, box, rfl, isMoov, fun earlier le => ?_⟩, fun _ => rfl⟩
        cases Nat.le_zero.mp le
        exact Nat.lt_of_not_le early
      next other =>
        rw [ih]
        constructor
        · rintro ⟨index, found, here, isMoov, before⟩
          refine ⟨index + 1, found, here, isMoov, fun earlier le => ?_⟩
          cases earlier with
          | zero => exact Nat.lt_of_not_le early
          | succ earlier =>
            rw [predecessorStart_cons]
            exact before earlier (Nat.le_of_succ_le_succ le)
        · rintro ⟨index, found, here, isMoov, before⟩
          cases index with
          | zero =>
            cases here
            exact (other isMoov).elim
          | succ index =>
            refine ⟨index, found, here, isMoov, fun earlier le => ?_⟩
            have there := before (earlier + 1) (Nat.succ_le_succ le)
            rwa [predecessorStart_cons] at there

/-- The decision that an inspection ends with. -/
def streams (boxes : List ContainerBox) : Bool := (decided 0 0 none boxes).getD false

theorem streams_iff (boxes : List ContainerBox) : streams boxes = true ↔ MoovBeforeLate boxes := by
  have latched : streams boxes = true ↔ decided 0 0 none boxes = some true := by
    unfold streams
    cases decided 0 0 none boxes with
    | none | some decision => simp
  rw [latched, decided_none_iff]
  have same : forall index, predecessorStart 0 0 boxes index < 128 * 1024 ↔ ¬ BehindLateBox boxes index := by
    intro index
    unfold BehindLateBox
    cases index with
    | zero | succ index => simp [predecessorStart]
  simp only [same]
  rfl

/-! ## The loop -/

section Loop

variable {target : Target} {room : Nat} {content : List Byte} {turns : Nat} {state : Inspection}

/-- What a turn does with the box at its offset. -/
def Inspection.after (state : Inspection) (box : ContainerBox) (checks : Nat) : Inspection where
  offset := state.offset + box.size
  metadata := state.metadata ++ box.kept
  previousAtomStart := state.offset
  streamingDecision := latch state.previousAtomStart box.kind state.streamingDecision
  checks := checks

/-- Nobody interrupts the inspection of boxes within the bounds. -/
theorem inspectAtoms_quiet {boxes : List ContainerBox} {before : List Byte}
    (whole : content = before ++ container boxes) (here : state.offset = before.length) (fits : content.length < 2 ^ 64)
    (proper : Proper boxes) (few : boxes.length < turns) (enough : metadataLimit ≤ room)
    (bounded : state.metadata.length + metadataSize boxes ≤ metadataLimit) :
    inspectAtoms target room .quiet content turns state = .returned (state.metadata ++ retained boxes,
      (decided state.previousAtomStart state.offset state.streamingDecision boxes).getD false) := by
  have length : content.length = before.length + (container boxes).length := by
    rw [whole, List.length_append]
  induction boxes generalizing before state turns with
  | nil =>
    cases turns with
    | zero => exact (Nat.not_lt_zero _ few).elim
    | succ turns =>
      have atEnd : state.offset = content.length := by
        rw [length, here]
        rfl
      change (if state.offset = content.length then _ else _) = _
      rw [if_pos atEnd, retained, List.flatMap_nil, List.append_nil]
      rfl
  | cons box boxes ih =>
    cases turns with
    | zero => exact (Nat.not_lt_zero _ few).elim
    | succ turns =>
      have eight := box.eight_le
      rw [container_cons, List.length_append, box.encode_length] at length
      rw [container_cons] at whole
      rw [metadataSize_cons, ← Nat.add_assoc] at bounded
      have atom : readAtom content state.offset = .returned (box.atomHeader, state.offset + box.size) := by
        rw [whole] at fits
        rw [whole, here]
        refine readAtom_box fits fun last => ?_
        rw [proper.1 last]
        rfl
      have encoded : part content state.offset box.size = box.encode := by
        rw [whole, here]
        exact part_after before box.encode _ rfl box.encode_length
      have keeps : Exists fun checks => keepMetadata target room .quiet content box.atomHeader state.offset
          state.metadata.length (state.checks + 1) = .returned (box.kept, checks) :=
        keepMetadata_quiet encoded (by omega) (Nat.le_trans (Nat.le_add_right _ _) bounded) enough
      rcases keeps with ⟨checks, kept⟩
      have turn : inspectAtom target room .quiet content state (state.checks + 1) =
          .returned (state.after box checks) := by
        unfold inspectAtom
        rw [atom, Checked.returned_bind, kept]
        rfl
      change (if state.offset = content.length then _ else _) = _
      rw [if_neg (by omega), turn, Checked.returned_bind]
      have rest := @ih turns (state.after box checks) (before ++ box.encode)
        (by rw [whole, List.append_assoc])
        (by rw [List.length_append, box.encode_length, ← here]; rfl) proper.2 (Nat.lt_of_succ_lt_succ few)
        (by
          change (state.metadata ++ box.kept).length + metadataSize boxes ≤ metadataLimit
          rw [List.length_append, kept_length]
          exact bounded)
        (by rw [length, List.length_append, box.encode_length, Nat.add_assoc])
      rw [rest, retained_cons, ← List.append_assoc]
      rfl

/-- Whatever interrupts it, an inspection returns what the boxes say. -/
theorem inspectAtoms_returned {watch : Watch} {result : List Byte × Bool}
    (done : inspectAtoms target room watch content turns state = .returned result)
    (within : state.offset ≤ content.length) (bounded : state.metadata.length ≤ metadataLimit) :
    Exists fun boxes => content.drop state.offset = container boxes ∧ Proper boxes ∧ boxes.length < turns ∧
      state.metadata.length + metadataSize boxes ≤ metadataLimit ∧
      result = (state.metadata ++ retained boxes,
        (decided state.previousAtomStart state.offset state.streamingDecision boxes).getD false) := by
  induction turns generalizing state with
  | zero => cases done
  | succ turns ih =>
    rcases Checked.bind_returned done with ⟨checks, _, turning⟩
    split at turning
    next atEnd =>
      cases turning
      refine ⟨[], ?_, True.intro, Nat.zero_lt_succ turns, bounded, ?_⟩
      · rw [atEnd, List.drop_length]
        rfl
      · rw [retained, List.flatMap_nil, List.append_nil]
        rfl
    · rcases Checked.bind_returned turning with ⟨next, turn, rest⟩
      rcases Checked.bind_returned turn with ⟨atom, read, keeping⟩
      rcases Checked.bind_returned keeping with ⟨kept, keep, final⟩
      rcases readAtom_returned read with ⟨box, stands, inside, rfl, last⟩
      have encoded : part content state.offset box.size = box.encode := by
        unfold part
        rw [stands, List.take_left' box.encode_length]
      rcases keepMetadata_returned encoded keep with ⟨same, total⟩
      cases final
      have sized : kept.1.length = box.keptSize := by rw [same, kept_length]
      rcases ih rest inside (by
        rw [List.length_append, sized]
        exact total bounded) with ⟨boxes, tail, proper, few, sum, rfl⟩
      dsimp only at tail sum
      refine ⟨box :: boxes, ?_, ⟨fun isRest => ?_, proper⟩, Nat.succ_lt_succ few, ?_, ?_⟩
      · rw [stands, tail]
        rfl
      · rw [last isRest, List.drop_length] at tail
        cases boxes with
        | nil => rfl
        | cons other others =>
          have none := congrArg List.length tail
          have eight := other.eight_le
          rw [container_cons, List.length_append, other.encode_length, List.length_nil] at none
          omega
      · rw [metadataSize_cons, ← Nat.add_assoc]
        rwa [List.length_append, sized] at sum
      · rw [retained_cons, ← List.append_assoc, same]
        rfl

theorem inspectAtoms_safe {watch : Watch} (fits : content.length < 2 ^ 64) (within : state.offset ≤ content.length)
    (shorter : state.metadata.length ≤ state.offset) (enough : metadataLimit ≤ room) :
    (inspectAtoms target room watch content turns state).Safe := by
  induction turns generalizing state with
  | zero => exact Checked.safe_failed _
  | succ turns ih =>
    refine Checked.safe_bind (check_safe watch state.checks) fun checks _ => ?_
    split
    · exact Checked.safe_returned _
    · refine Checked.safe_bind ?_ fun next turn => ?_
      · refine Checked.safe_bind (readAtom_safe within) fun atom read => ?_
        rcases readAtom_returned read with ⟨box, stands, inside, rfl, _⟩
        refine Checked.safe_bind ?_ fun kept _ => Checked.safe_returned _
        refine keepMetadata_safe inside fits shorter enough ?_
        unfold part
        rw [stands, List.take_left' box.encode_length]
      · rcases Checked.bind_returned turn with ⟨atom, read, keeping⟩
        rcases Checked.bind_returned keeping with ⟨kept, keep, final⟩
        rcases readAtom_returned read with ⟨box, stands, inside, rfl, _⟩
        have encoded : part content state.offset box.size = box.encode := by
          unfold part
          rw [stands, List.take_left' box.encode_length]
        have same := (keepMetadata_returned encoded keep).1
        cases final
        refine ih inside ?_
        have small := keptSize_le box
        change (state.metadata ++ kept.1).length ≤ state.offset + box.size
        rw [List.length_append, same, kept_length]
        omega

end Loop

/-! ## The inspection -/

section Whole

variable {target : Target} {room : Nat} {file : VideoFile}

theorem metadataAtoms_quiet {boxes : List ContainerBox} (inspectable : Inspectable file.bytes boxes)
    (enough : metadataLimit ≤ room) :
    metadataAtoms target room .quiet file = .returned (retained boxes, streams boxes) :=
  @inspectAtoms_quiet target room file.bytes _ .start boxes [] inspectable.exactly.symm rfl file.fits inspectable.proper
    (Nat.lt_succ_of_le inspectable.few) enough (by
      change 0 + metadataSize boxes ≤ metadataLimit
      rw [Nat.zero_add]
      exact inspectable.bounded)

/-- What any inspection returns is what an uninterrupted one returns for a container. -/
theorem metadataAtoms_returned {watch : Watch} {result : List Byte × Bool}
    (done : metadataAtoms target room watch file = .returned result) :
    Exists fun boxes => Inspectable file.bytes boxes ∧ result = (retained boxes, streams boxes) := by
  rcases inspectAtoms_returned done (Nat.zero_le _) (Nat.zero_le _) with
    ⟨boxes, whole, proper, few, bounded, rfl⟩
  refine ⟨boxes, ⟨whole.symm, proper, Nat.le_of_lt_succ few, ?_⟩, rfl⟩
  change 0 + metadataSize boxes ≤ metadataLimit at bounded
  rwa [Nat.zero_add] at bounded

end Whole

/-- An inspection that nobody interrupts accepts exactly the containers of at most 65535
boxes with at most 16 MiB of metadata, and keeps their metadata boxes.  Sixteen MiB of memory
are enough for any file. -/
theorem inspection_accepts_containers (target : Target) (file : VideoFile) :
    ((Exists fun result => metadataAtoms target metadataLimit .quiet file = .returned result) ↔
      Exists fun boxes => Inspectable file.bytes boxes) ∧
    (forall boxes, Inspectable file.bytes boxes -> Exists fun streaming =>
      metadataAtoms target metadataLimit .quiet file = .returned (retained boxes, streaming) ∧
        (streaming = true ↔ MoovBeforeLate boxes)) ∧
    metadataAtoms target metadataLimit .quiet file ≠ .panicked := by
  refine ⟨⟨?_, ?_⟩, ?_, ?_⟩
  · rintro ⟨result, done⟩
    rcases metadataAtoms_returned done with ⟨boxes, inspectable, _⟩
    exact ⟨boxes, inspectable⟩
  · rintro ⟨boxes, inspectable⟩
    exact ⟨_, metadataAtoms_quiet inspectable (Nat.le_refl _)⟩
  · intro boxes inspectable
    exact ⟨streams boxes, metadataAtoms_quiet inspectable (Nat.le_refl _), streams_iff boxes⟩
  · exact inspectAtoms_safe file.fits (Nat.zero_le _) (Nat.le_refl _) (Nat.le_refl _)

/-! ## A `moov` box behind a large box -/

def free : FourCc := [0x66, 0x72, 0x65, 0x65]

/-- A short box of so many zeros. -/
def zeros (kind : FourCc) (length : Nat) (named : kind.length = 4) (fits : 8 + length < 2 ^ 32) : ContainerBox where
  form := .short
  kind := kind
  payload := List.replicate length 0
  kind_length := named
  fits := by rwa [List.length_replicate]

theorem zeros_size (kind : FourCc) (length : Nat) (named : kind.length = 4) (fits : 8 + length < 2 ^ 32) :
    (zeros kind length named fits).size = 8 + length := by
  change 8 + (List.replicate length 0).length = 8 + length
  rw [List.length_replicate]

/-- A large box, an empty one and an empty `moov` box. -/
def lateMoovBoxes : List ContainerBox :=
  [zeros free 131064 (by decide) (by decide), zeros free 0 (by decide) (by decide),
    zeros moov 0 (by decide) (by decide)]

theorem lateMoov_starts : boxStart lateMoovBoxes 1 = 128 * 1024 := by
  unfold boxStart lateMoovBoxes
  rw [List.take_succ_cons, container_cons, List.length_append, ContainerBox.encode_length, zeros_size, List.take_zero]
  rfl

def lateMoov : VideoFile where
  bytes := container lateMoovBoxes
  fits := by
    unfold lateMoovBoxes
    simp only [container_cons, container_nil, List.length_append, ContainerBox.encode_length, zeros_size,
      List.length_nil]
    decide

theorem lateMoov_inspectable : Inspectable lateMoov.bytes lateMoovBoxes where
  exactly := rfl
  proper := ⟨nofun, nofun, nofun, True.intro⟩
  few := by decide
  bounded := by decide

theorem lateMoov_streams : streams lateMoovBoxes = false := by
  rw [← Bool.not_eq_true, streams_iff]
  rintro ⟨index, box, found, isMoov, early⟩
  match index with
  | 0 =>
    cases found
    exact absurd isMoov (by decide)
  | 1 =>
    cases found
    exact absurd isMoov (by decide)
  | index + 2 => exact early 2 (Nat.le_add_left 2 index) ⟨1, rfl, Nat.le_of_eq lateMoov_starts.symm⟩

/-- The predecessor of the `moov` box starts at 128 KiB exactly: the box is the first such
box, and the video is not streamed. -/
theorem late_moov_not_streamed : Inspectable lateMoov.bytes lateMoovBoxes ∧ MoovUpToLate lateMoovBoxes ∧
    metadataAtoms .bits64 metadataLimit .quiet lateMoov = .returned (retained lateMoovBoxes, false) := by
  refine ⟨lateMoov_inspectable, ?_, ?_⟩
  · refine ⟨2, _, rfl, rfl, ?_⟩
    rintro earlier less ⟨previous, rfl, late⟩
    have first : previous = 0 := by omega
    rw [first] at late
    exact absurd late (by decide)
  · rw [metadataAtoms_quiet lateMoov_inspectable (Nat.le_refl _), lateMoov_streams]

end Media
end TelegramDrive
