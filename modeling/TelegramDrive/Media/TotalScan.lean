import TelegramDrive.Media.BoxBounds

namespace TelegramDrive
namespace Media

open ArrayAccess

/-!
# When the scan stops the program

The scan nests three levels of walks, and a walk starts where the one before it
ended.  For each level there are two predicates of the buffer: what the walk
finds, and that nothing on its way stops it.
-/

section Scan

variable (target : Target) (buffer : List Byte)

/-! ## Looking for a box -/

/-- A box of another kind. -/
def Other (fourcc : FourCc) (offset _size : Nat) : Prop := kindAt buffer offset ≠ fourcc

def FindClear (startOffset rangeEnd : Nat) (fourcc : FourCc) : Prop :=
  ClearWalk target buffer false rangeEnd (Other buffer fourcc)
    (fun offset size => kindAt buffer offset = fourcc -> offset + size < target.values) startOffset

/-- The first box of a kind in a range ends here. -/
def Finds (startOffset rangeEnd : Nat) (fourcc : FourCc) (boxEnd : Nat) : Prop :=
  Exists fun offset => Exists fun size =>
    Stands buffer false rangeEnd (Other buffer fourcc) startOffset offset ∧ Inside false offset rangeEnd ∧
      BoxAt buffer offset size ∧ kindAt buffer offset = fourcc ∧ boxEnd = offset + size

/-- Where the content of a box that ends here is taken to start. -/
def startBefore (fallback boxEnd : Nat) : Nat := boxEnd - (sizeBefore buffer boxEnd).getD fallback + 8

/-! ## Within a track -/

/-- Nothing stops the search for `vmhd` in a track. -/
def TrakClear (trakDataStart trakDataEnd : Nat) : Prop :=
  FindClear target buffer trakDataStart trakDataEnd mdia ∧ forall mdiaEnd,
    Finds buffer trakDataStart trakDataEnd mdia mdiaEnd ->
      FindClear target buffer (startBefore buffer 8 mdiaEnd) mdiaEnd minf ∧ forall minfEnd,
        Finds buffer (startBefore buffer 8 mdiaEnd) mdiaEnd minf minfEnd ->
          FindClear target buffer (startBefore buffer 8 minfEnd) minfEnd vmhd

/-- The search finds `vmhd` in a track. -/
def Video (trakDataStart trakDataEnd : Nat) : Prop :=
  Exists fun mdiaEnd => Exists fun minfEnd => Exists fun vmhdEnd =>
    Finds buffer trakDataStart trakDataEnd mdia mdiaEnd ∧
      Finds buffer (startBefore buffer 8 mdiaEnd) mdiaEnd minf minfEnd ∧
        Finds buffer (startBefore buffer 8 minfEnd) minfEnd vmhd vmhdEnd

/-- Nothing stops the search for `tkhd` in a track. -/
def TkhdClear (trakDataStart trakDataEnd : Nat) : Prop :=
  ClearWalk target buffer true trakDataEnd (Other buffer tkhd) (fun _ _ => True) trakDataStart

/-- The search finds `tkhd` in a track, at this offset. -/
def TkhdAt (trakDataStart trakDataEnd offset : Nat) : Prop :=
  Exists fun size => Stands buffer true trakDataEnd (Other buffer tkhd) trakDataStart offset ∧
    Inside true offset trakDataEnd ∧ BoxAt buffer offset size ∧ kindAt buffer offset = tkhd

/-! ## Within the file -/

/-- The box at this offset is not a video track with a `tkhd`. -/
def TrakPasses (offset size : Nat) : Prop :=
  kindAt buffer offset = trak ->
    ¬ (Video buffer (offset + 8) (offset + size) ∧ Exists fun tkhd =>
      TkhdAt buffer (offset + 8) (offset + size) tkhd)

def TrakHarmless (offset size : Nat) : Prop :=
  kindAt buffer offset = trak -> offset + size < target.values ∧
    TrakClear target buffer (offset + 8) (offset + size) ∧
      (Video buffer (offset + 8) (offset + size) -> TkhdClear target buffer (offset + 8) (offset + size))

/-- Nothing stops the scan: wherever one of its walks stands, the buffer does not cut
off the kind of a box of which it holds the size, and no sum is too large. -/
def ScanClear : Prop :=
  FindClear target buffer 0 buffer.length moov ∧ forall moovEnd,
    Finds buffer 0 buffer.length moov moovEnd ->
      startBefore buffer 0 moovEnd < target.values ∧
        ClearWalk target buffer true moovEnd (TrakPasses buffer) (TrakHarmless target buffer)
          (startBefore buffer 0 moovEnd)

end Scan

section Searches

variable {target : Target} {buffer : List Byte}

theorem seek_visits (fourcc : FourCc) : Visits target buffer (Other buffer fourcc)
    (fun offset size => kindAt buffer offset = fourcc -> offset + size < target.values)
    (seek target fourcc) where
  safe := by
    intro offset size _ _
    unfold seek
    split
    next same =>
      by_cases fits : offset + size < target.values
      · rw [add_of_lt fits]
        exact ⟨fun _ _ => fits, fun _ => Checked.safe_returned _⟩
      · rw [add_of_le (by omega)]
        exact ⟨fun safe => (safe rfl).elim, fun inside => (fits (inside same)).elim⟩
    next other => exact ⟨fun _ same => (other same).elim, fun _ => Checked.safe_returned _⟩
  goesOn := by
    intro offset size _ harm
    unfold seek Other
    split
    next same =>
      rw [add_of_lt (harm same)]
      constructor
      · intro none
        cases none
      · intro other
        exact (other same).elim
    next other => exact ⟨fun _ => other, fun _ => rfl⟩

theorem find_safe_iff (startOffset rangeEnd : Nat) (fourcc : FourCc) :
    (findBoxInRange target buffer startOffset rangeEnd fourcc).Safe ↔
      FindClear target buffer startOffset rangeEnd fourcc :=
  walk_safe_iff (seek_visits fourcc) startOffset

variable {startOffset rangeEnd boxEnd : Nat}

theorem find_found_iff {fourcc : FourCc}
    (clear : FindClear target buffer startOffset rangeEnd fourcc) (boxEnd : Nat) :
    findBoxInRange target buffer startOffset rangeEnd fourcc = .returned (some boxEnd) ↔
      Finds buffer startOffset rangeEnd fourcc boxEnd := by
  refine (walk_found_iff (seek_visits fourcc) startOffset boxEnd clear).trans ?_
  constructor
  · rintro ⟨offset, size, stands, inside, box, found⟩
    unfold seek at found
    split at found
    next same =>
      have fits := ((clear offset stands).2 inside size box.read box.large).2.1 same
      rw [add_of_lt fits] at found
      cases found
      exact ⟨offset, size, stands, inside, box, same, rfl⟩
    · cases found
  · rintro ⟨offset, size, stands, inside, box, same, rfl⟩
    have fits := ((clear offset stands).2 inside size box.read box.large).2.1 same
    refine ⟨offset, size, stands, inside, box, ?_⟩
    unfold seek
    rw [if_pos same, add_of_lt fits]
    rfl

theorem find_returns {fourcc : FourCc} (clear : FindClear target buffer startOffset rangeEnd fourcc) :
    (findBoxInRange target buffer startOffset rangeEnd fourcc = .returned none ∧
        forall boxEnd, ¬ Finds buffer startOffset rangeEnd fourcc boxEnd) ∨
      Exists fun boxEnd => findBoxInRange target buffer startOffset rangeEnd fourcc = .returned (some boxEnd) ∧
        Finds buffer startOffset rangeEnd fourcc boxEnd ∧
          forall other, Finds buffer startOffset rangeEnd fourcc other -> other = boxEnd := by
  rcases returns_of_safe ((find_safe_iff startOffset rangeEnd fourcc).mpr clear) with ⟨result, returned⟩
  cases result with
  | none =>
    refine Or.inl ⟨returned, fun boxEnd found => ?_⟩
    have same := (find_found_iff clear boxEnd).mpr found
    rw [returned] at same
    cases same
  | some boxEnd =>
    refine Or.inr ⟨boxEnd, returned, (find_found_iff clear boxEnd).mp returned, fun other found => ?_⟩
    have same := (find_found_iff clear other).mpr found
    rw [returned] at same
    cases same
    rfl

theorem finds_bounds {fourcc : FourCc} (clear : FindClear target buffer startOffset rangeEnd fourcc)
    (found : Finds buffer startOffset rangeEnd fourcc boxEnd) : 8 ≤ boxEnd ∧ boxEnd < target.values := by
  rcases found with ⟨offset, size, stands, inside, box, same, rfl⟩
  have large := box.large
  exact ⟨by omega, ((clear offset stands).2 inside size box.read box.large).2.1 same⟩

/-! ## The start of a content -/

theorem sizeBefore_large {size : Nat} (read : sizeBefore buffer boxEnd = some size) : 8 ≤ size := by
  unfold sizeBefore at read
  rw [Option.filter_eq_some_iff, decide_eq_true_eq] at read
  exact read.2

theorem boxSizeAt_eq (fits : boxEnd - 8 + 4 < target.values) :
    boxSizeAt target buffer boxEnd = .returned (sizeBefore buffer boxEnd) := by
  unfold boxSizeAt sizeBefore
  rw [readU32Be_of_lt fits, Checked.returned_bind]
  cases u32At buffer (boxEnd - 8) with
  | none => rfl
  | some size =>
    dsimp only
    split
    next small =>
      rw [Option.filter_some, if_neg (by simpa using small)]
      rfl
    next large =>
      rw [Option.filter_some, if_pos (by simpa using large)]
      rfl

theorem contentStart_eq (fallback : Nat) (fits : boxEnd - 8 + 4 < target.values) :
    contentStart target buffer fallback boxEnd =
      add target (boxEnd - (sizeBefore buffer boxEnd).getD fallback) 8 := by
  unfold contentStart
  rw [boxSizeAt_eq fits]
  rfl

/-- Taking a box to have eight bytes, its content starts where it ends at the latest. -/
theorem startBefore_le (large : 8 ≤ boxEnd) : startBefore buffer 8 boxEnd ≤ boxEnd := by
  unfold startBefore
  cases read : sizeBefore buffer boxEnd with
  | none =>
    rw [Option.getD_none]
    omega
  | some size =>
    have known := sizeBefore_large read
    rw [Option.getD_some]
    omega

theorem contentStart_within (large : 8 ≤ boxEnd) (fits : boxEnd < target.values) :
    contentStart target buffer 8 boxEnd = .returned (startBefore buffer 8 boxEnd) := by
  have low := @startBefore_le buffer boxEnd large
  unfold startBefore at low
  rw [contentStart_eq 8 (by omega), add_of_lt (by omega)]
  rfl

/-! ## A track -/

/-- The search for `vmhd` is stopped exactly when it is not clear, and finds what is there. -/
theorem trak_returns (trakDataStart trakDataEnd : Nat) :
    ((trakContainsVmhd target buffer trakDataStart trakDataEnd).Safe ↔
        TrakClear target buffer trakDataStart trakDataEnd) ∧
      (TrakClear target buffer trakDataStart trakDataEnd ->
        (trakContainsVmhd target buffer trakDataStart trakDataEnd = .returned true ∧
            Video buffer trakDataStart trakDataEnd ∨
          trakContainsVmhd target buffer trakDataStart trakDataEnd = .returned false ∧
            ¬ Video buffer trakDataStart trakDataEnd)) := by
  unfold trakContainsVmhd TrakClear
  by_cases outer : FindClear target buffer trakDataStart trakDataEnd mdia
  case neg =>
    have stopped : findBoxInRange target buffer trakDataStart trakDataEnd mdia = .panicked := by
      by_contra safe
      exact outer ((find_safe_iff trakDataStart trakDataEnd mdia).mp safe)
    rw [stopped]
    exact ⟨⟨fun safe => (safe rfl).elim, fun clear => (outer clear.1).elim⟩, fun clear => (outer clear.1).elim⟩
  rcases find_returns outer with ⟨none, nowhere⟩ | ⟨mdiaEnd, found, here, only⟩
  · rw [none, Checked.returned_bind]
    refine ⟨⟨fun _ => ⟨outer, fun mdiaEnd has => (nowhere mdiaEnd has).elim⟩,
      fun _ => Checked.safe_returned _⟩, fun _ => Or.inr ⟨rfl, ?_⟩⟩
    rintro ⟨mdiaEnd, _, _, has, _⟩
    exact nowhere mdiaEnd has
  have bounds := finds_bounds outer here
  rw [found, Checked.returned_bind]
  dsimp only
  rw [contentStart_within bounds.1 bounds.2, Checked.returned_bind]
  by_cases middle : FindClear target buffer (startBefore buffer 8 mdiaEnd) mdiaEnd minf
  case neg =>
    have stopped : findBoxInRange target buffer (startBefore buffer 8 mdiaEnd) mdiaEnd minf = .panicked := by
      by_contra safe
      exact middle ((find_safe_iff _ mdiaEnd minf).mp safe)
    rw [stopped]
    exact ⟨⟨fun safe => (safe rfl).elim, fun clear => (middle (clear.2 mdiaEnd here).1).elim⟩,
      fun clear => (middle (clear.2 mdiaEnd here).1).elim⟩
  rcases find_returns middle with ⟨none, nowhere⟩ | ⟨minfEnd, foundMinf, hereMinf, onlyMinf⟩
  · rw [none, Checked.returned_bind]
    refine ⟨⟨fun _ => ⟨outer, ?_⟩, fun _ => Checked.safe_returned _⟩, fun _ => Or.inr ⟨rfl, ?_⟩⟩
    · intro other has
      rw [only other has]
      exact ⟨middle, fun minfEnd hasMinf => (nowhere minfEnd hasMinf).elim⟩
    · rintro ⟨other, minfEnd, _, has, hasMinf, _⟩
      rw [only other has] at hasMinf
      exact nowhere minfEnd hasMinf
  have boundsMinf := finds_bounds middle hereMinf
  rw [foundMinf, Checked.returned_bind]
  dsimp only
  rw [contentStart_within boundsMinf.1 boundsMinf.2, Checked.returned_bind]
  by_cases inner : FindClear target buffer (startBefore buffer 8 minfEnd) minfEnd vmhd
  case neg =>
    have stopped : findBoxInRange target buffer (startBefore buffer 8 minfEnd) minfEnd vmhd = .panicked := by
      by_contra safe
      exact inner ((find_safe_iff _ minfEnd vmhd).mp safe)
    rw [stopped]
    exact ⟨⟨fun safe => (safe rfl).elim,
      fun clear => (inner ((clear.2 mdiaEnd here).2 minfEnd hereMinf)).elim⟩,
      fun clear => (inner ((clear.2 mdiaEnd here).2 minfEnd hereMinf)).elim⟩
  have clear : forall other, Finds buffer trakDataStart trakDataEnd mdia other ->
      FindClear target buffer (startBefore buffer 8 other) other minf ∧ forall otherMinf,
        Finds buffer (startBefore buffer 8 other) other minf otherMinf ->
          FindClear target buffer (startBefore buffer 8 otherMinf) otherMinf vmhd := by
    intro other has
    rw [only other has]
    refine ⟨middle, fun otherMinf hasMinf => ?_⟩
    rw [onlyMinf otherMinf hasMinf]
    exact inner
  rcases find_returns inner with ⟨none, nowhere⟩ | ⟨vmhdEnd, foundVmhd, hereVmhd, _⟩
  · rw [none, Checked.returned_bind]
    refine ⟨⟨fun _ => ⟨outer, clear⟩, fun _ => Checked.safe_returned _⟩, fun _ => Or.inr ⟨rfl, ?_⟩⟩
    rintro ⟨other, otherMinf, vmhdEnd, has, hasMinf, hasVmhd⟩
    rw [only other has] at hasMinf
    rw [onlyMinf otherMinf hasMinf] at hasVmhd
    exact nowhere vmhdEnd hasVmhd
  · rw [foundVmhd, Checked.returned_bind]
    exact ⟨⟨fun _ => ⟨outer, clear⟩, fun _ => Checked.safe_returned _⟩,
      fun _ => Or.inl ⟨rfl, mdiaEnd, minfEnd, vmhdEnd, here, hereMinf, hereVmhd⟩⟩

/-! ## The dimensions -/

/-- The pure value of `tkhdDimensions`. -/
def dimensionsAt (buffer : List Byte) (offset : Nat) : Dimensions :=
  let wide := if buffer[offset + 8]?.getD 0 = 1 then 88 else 76
  ((u32At buffer (offset + 8 + wide)).map fun fixed => fixed / 2 ^ 16,
    (u32At buffer (offset + 8 + (wide + 4))).map fun fixed => fixed / 2 ^ 16)

theorem tkhdDimensions_eq (fits : buffer.length < target.values / 2) {offset : Nat}
    (complete : offset + 8 ≤ buffer.length) :
    tkhdDimensions target buffer offset = .returned (dimensionsAt buffer offset) := by
  have large := values_large target
  unfold tkhdDimensions dimensionsAt
  rw [add_of_lt (by omega), Checked.returned_bind]
  dsimp only
  split
  · rw [add_of_lt (by omega), Checked.returned_bind, add_of_lt (by omega), Checked.returned_bind,
      readU32Be_of_lt (by omega), Checked.returned_bind, readU32Be_of_lt (by omega)]
    rfl
  · rw [add_of_lt (by omega), Checked.returned_bind, add_of_lt (by omega), Checked.returned_bind,
      readU32Be_of_lt (by omega), Checked.returned_bind, readU32Be_of_lt (by omega)]
    rfl

theorem visitTkhd_visits (fits : buffer.length < target.values / 2) :
    Visits target buffer (Other buffer tkhd) (fun _ _ => True) (visitTkhd target buffer) where
  safe := by
    intro offset size box _
    unfold visitTkhd
    split
    · rw [tkhdDimensions_eq fits box.complete]
      exact ⟨fun _ => trivial, fun _ => Checked.safe_returned _⟩
    · exact ⟨fun _ => trivial, fun _ => Checked.safe_returned _⟩
  goesOn := by
    intro offset size box _
    unfold visitTkhd Other
    split
    next same =>
      rw [tkhdDimensions_eq fits box.complete]
      constructor
      · intro none
        cases none
      · intro other
        exact (other same).elim
    next other => exact ⟨fun _ => other, fun _ => rfl⟩

theorem tkhd_found_iff (fits : buffer.length < target.values / 2) {trakDataStart trakDataEnd : Nat}
    (clear : TkhdClear target buffer trakDataStart trakDataEnd) (dimensions : Dimensions) :
    walk target buffer true trakDataEnd (visitTkhd target buffer) trakDataStart =
        .returned (some dimensions) ↔
      Exists fun offset => TkhdAt buffer trakDataStart trakDataEnd offset ∧
        dimensions = dimensionsAt buffer offset := by
  refine (walk_found_iff (visitTkhd_visits fits) trakDataStart dimensions clear).trans ?_
  constructor
  · rintro ⟨offset, size, stands, inside, box, found⟩
    unfold visitTkhd at found
    split at found
    next same =>
      rw [tkhdDimensions_eq fits box.complete] at found
      cases found
      exact ⟨offset, ⟨size, stands, inside, box, same⟩, rfl⟩
    · cases found
  · rintro ⟨offset, ⟨size, stands, inside, box, same⟩, rfl⟩
    refine ⟨offset, size, stands, inside, box, ?_⟩
    unfold visitTkhd
    rw [if_pos same, tkhdDimensions_eq fits box.complete]
    rfl

/-! ## The file -/

/-- At a track, the visit is the search for `vmhd` and, in a video track, the walk to `tkhd`. -/
theorem visitTrak_eq {offset size : Nat} {kind : FourCc} (same : kind = trak)
    (fits : offset + 8 < target.values) (ends : offset + size < target.values) :
    visitTrak target buffer offset size kind =
      (trakContainsVmhd target buffer (offset + 8) (offset + size) >>= fun video =>
        if video then walk target buffer true (offset + size) (visitTkhd target buffer) (offset + 8)
        else .returned none) := by
  unfold visitTrak
  rw [if_pos same, add_of_lt fits, Checked.returned_bind, add_of_lt ends]
  rfl

theorem visitTrak_visits (fits : buffer.length < target.values / 2) :
    Visits target buffer (TrakPasses buffer) (TrakHarmless target buffer) (visitTrak target buffer) where
  safe := by
    intro offset size box header
    by_cases same : kindAt buffer offset = trak
    case neg =>
      unfold visitTrak TrakHarmless
      rw [if_neg same]
      exact ⟨fun _ is => (same is).elim, fun _ => Checked.safe_returned _⟩
    by_cases ends : offset + size < target.values
    case neg =>
      have stopped : visitTrak target buffer offset size (kindAt buffer offset) = .panicked := by
        unfold visitTrak
        rw [if_pos same, add_of_lt header, Checked.returned_bind, add_of_le (by omega)]
        rfl
      rw [stopped]
      exact ⟨fun safe => (safe rfl).elim, fun harm => (ends (harm same).1).elim⟩
    rw [visitTrak_eq same header ends]
    have search := @trak_returns target buffer (offset + 8) (offset + size)
    constructor
    · intro safe _
      have clear : TrakClear target buffer (offset + 8) (offset + size) := by
        refine search.1.mp ?_
        intro stopped
        rw [stopped] at safe
        exact safe rfl
      refine ⟨ends, clear, fun video => ?_⟩
      rcases search.2 clear with ⟨yes, _⟩ | ⟨_, no⟩
      · rw [yes, Checked.returned_bind, if_pos rfl] at safe
        exact (walk_safe_iff (visitTkhd_visits fits) _).mp safe
      · exact (no video).elim
    · intro harm
      rcases search.2 (harm same).2.1 with ⟨yes, video⟩ | ⟨no, _⟩
      · rw [yes, Checked.returned_bind, if_pos rfl]
        exact (walk_safe_iff (visitTkhd_visits fits) _).mpr ((harm same).2.2 video)
      · rw [no]
        exact Checked.safe_returned _
  goesOn := by
    intro offset size box harm
    unfold TrakPasses
    by_cases same : kindAt buffer offset = trak
    case neg =>
      unfold visitTrak
      rw [if_neg same]
      exact ⟨fun _ is => (same is).elim, fun _ => rfl⟩
    have large := values_large target
    have complete := box.complete
    rw [visitTrak_eq same (by omega) (harm same).1]
    rcases (@trak_returns target buffer (offset + 8) (offset + size)).2 (harm same).2.1 with
      ⟨yes, video⟩ | ⟨no, other⟩
    · rw [yes, Checked.returned_bind, if_pos rfl]
      have clear := (harm same).2.2 video
      have found := tkhd_found_iff fits clear
      constructor
      · rintro none _ ⟨_, tkhdOffset, has⟩
        have some := (found (dimensionsAt buffer tkhdOffset)).mpr ⟨tkhdOffset, has, rfl⟩
        rw [none] at some
        cases some
      · intro passes
        rcases returns_of_safe ((walk_safe_iff (visitTkhd_visits fits) _).mpr clear) with ⟨result, returned⟩
        cases result with
        | none => exact returned
        | some dimensions =>
          rcases (found dimensions).mp returned with ⟨tkhdOffset, has, _⟩
          exact (passes same ⟨video, tkhdOffset, has⟩).elim
    · rw [no]
      exact ⟨fun _ _ both => other both.1, fun _ => rfl⟩

theorem scan_safe_iff (fits : buffer.length < target.values / 2) :
    (scanVideoTkhdDimensions target buffer).Safe ↔ ScanClear target buffer := by
  unfold scanVideoTkhdDimensions findBox ScanClear
  by_cases outer : FindClear target buffer 0 buffer.length moov
  case neg =>
    have stopped : findBoxInRange target buffer 0 buffer.length moov = .panicked := by
      by_contra safe
      exact outer ((find_safe_iff 0 buffer.length moov).mp safe)
    rw [stopped]
    exact ⟨fun safe => (safe rfl).elim, fun clear => (outer clear.1).elim⟩
  rcases find_returns outer with ⟨none, nowhere⟩ | ⟨moovEnd, found, here, only⟩
  · rw [none, Checked.returned_bind]
    exact ⟨fun _ => ⟨outer, fun moovEnd has => (nowhere moovEnd has).elim⟩, fun _ => Checked.safe_returned _⟩
  have bounds := finds_bounds outer here
  rw [found, Checked.returned_bind]
  dsimp only
  rw [contentStart_eq 0 (by omega)]
  by_cases starts : startBefore buffer 0 moovEnd < target.values
  case neg =>
    rw [add_of_le (Nat.not_lt.mp starts)]
    exact ⟨fun safe => (safe rfl).elim, fun clear => (starts (clear.2 moovEnd here).1).elim⟩
  rw [add_of_lt starts, Checked.returned_bind]
  have inner := @walk_safe_iff target buffer true moovEnd _ _ _ _ (visitTrak_visits fits) (startBefore buffer 0 moovEnd)
  constructor
  · intro safe
    refine ⟨outer, fun other has => ?_⟩
    rw [only other has]
    refine ⟨starts, inner.mp ?_⟩
    intro stopped
    unfold startBefore at stopped
    rw [stopped] at safe
    exact safe rfl
  · intro clear
    rcases returns_of_safe (inner.mpr (clear.2 moovEnd here).2) with ⟨result, returned⟩
    unfold startBefore at returned
    rw [returned]
    exact Checked.safe_returned _

end Searches

/-- The scan, the search in a track and the search for a box are stopped exactly when one of
their walks comes to stand where the buffer holds the size of a box but not all of
its kind, or where a sum is too large for a `usize`. -/
theorem box_walks_stop_at_cut_headers (target : Target) (buffer : Buffer target) :
    ((scanVideoTkhdDimensions target buffer.bytes).Safe ↔ ScanClear target buffer.bytes) ∧
      forall startOffset rangeEnd,
        ((trakContainsVmhd target buffer.bytes startOffset rangeEnd).Safe ↔
            TrakClear target buffer.bytes startOffset rangeEnd) ∧
          forall fourcc, (findBoxInRange target buffer.bytes startOffset rangeEnd fourcc).Safe ↔
            FindClear target buffer.bytes startOffset rangeEnd fourcc := by
  refine ⟨scan_safe_iff buffer.fits, fun startOffset rangeEnd => ⟨?_, ?_⟩⟩
  · exact (trak_returns startOffset rangeEnd).1
  · intro fourcc
    exact find_safe_iff startOffset rangeEnd fourcc

/-- A file that ends after the size of the first box in its `moov` box. -/
def cutFile : Buffer .bits64 :=
  ⟨[0, 0, 0, 17, 0x6d, 0x6f, 0x6f, 0x76, 1, 0, 0, 0, 17], by decide⟩

theorem cut_file_stops_scan : ¬ (scanVideoTkhdDimensions .bits64 cutFile.bytes).Safe := by
  intro safe
  exact safe (by decide +kernel)

end Media
end TelegramDrive
