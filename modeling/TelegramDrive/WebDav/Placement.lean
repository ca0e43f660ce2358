import TelegramDrive.WebDav.Listings

namespace TelegramDrive
namespace WebDav

/-!
# The paths of listed rows

A row gets the path of its name or of that name with a number, no two of them meet in lower
case, and the path of its name is taken in any case.
-/

/-! ## Tables of paths -/

section Tables

variable {α : Type}

theorem putAll_other {entries : List (Path × α)} {path : Path} (other : path ∉ entries.map Prod.fst)
    (map : Path -> Option α) : putAll entries map path = map path := by
  induction entries generalizing map with
  | nil => rfl
  | cons entry entries ih =>
    rw [List.map_cons, List.mem_cons, not_or] at other
    show putAll entries (Function.update map entry.1 (some entry.2)) path = _
    rw [ih other.2, Function.update_of_ne other.1]

theorem putAll_here {entries : List (Path × α)} (distinct : (entries.map Prod.fst).Nodup) {entry : Path × α}
    (member : entry ∈ entries) (map : Path -> Option α) : putAll entries map entry.1 = some entry.2 := by
  induction entries generalizing map with
  | nil => cases member
  | cons first entries ih =>
    rw [List.map_cons, List.nodup_cons] at distinct
    show putAll entries (Function.update map first.1 (some first.2)) entry.1 = _
    rcases List.mem_cons.mp member with rfl | later
    · rw [putAll_other distinct.1, Function.update_self]
    · exact ih distinct.2 later _

theorem removeAll_other {paths : List Path} {path : Path} (other : path ∉ paths) (map : Path -> Option α) :
    removeAll paths map path = map path := by
  induction paths generalizing map with
  | nil => rfl
  | cons first paths ih =>
    rw [List.mem_cons, not_or] at other
    show removeAll paths (Function.update map first none) path = _
    rw [ih other.2, Function.update_of_ne other.1]

theorem removeAll_cases (paths : List Path) (map : Path -> Option α) (path : Path) :
    removeAll paths map path = none ∨ removeAll paths map path = map path := by
  induction paths generalizing map with
  | nil => exact Or.inr rfl
  | cons first paths ih =>
    rcases ih (Function.update map first none) with gone | same
    · exact Or.inl gone
    · by_cases here : path = first
      · subst here
        rw [Function.update_self] at same
        exact Or.inl same
      · rw [Function.update_of_ne here] at same
        exact Or.inr same

end Tables

section Origins

variable {Details : Type}

theorem recordOrigin_other {placed : List (Path × Row Details)} {path : Path} (other : path ∉ placed.map Prod.fst)
    (origin : Path -> Name) : recordOrigin placed origin path = origin path := by
  induction placed generalizing origin with
  | nil => rfl
  | cons entry placed ih =>
    rw [List.map_cons, List.mem_cons, not_or] at other
    show recordOrigin placed (Function.update origin entry.1 entry.2.name) path = _
    rw [ih other.2, Function.update_of_ne other.1]

theorem recordOrigin_here {placed : List (Path × Row Details)} (distinct : (placed.map Prod.fst).Nodup)
    {entry : Path × Row Details} (member : entry ∈ placed) (origin : Path -> Name) :
    recordOrigin placed origin entry.1 = entry.2.name := by
  induction placed generalizing origin with
  | nil => cases member
  | cons first placed ih =>
    rw [List.map_cons, List.nodup_cons] at distinct
    show recordOrigin placed (Function.update origin first.1 first.2.name) entry.1 = _
    rcases List.mem_cons.mp member with rfl | later
    · rw [recordOrigin_other distinct.1, Function.update_self]
    · exact ih distinct.2 later _

end Origins

/-! ## Paths below a folder -/

theorem below_inj {folder : Path} {one other : Name} : below folder one = below folder other ↔ one = other := by
  unfold below
  constructor
  · intro same
    exact (List.cons.inj (List.append_cancel_left same)).2
  · rintro rfl
    rfl

theorem below_folder {folder parent : Path} {one other : Name} (slash : '/' ∉ one) (slash' : '/' ∉ other)
    (same : below folder one = below parent other) : folder = parent := by
  unfold below at same
  rcases List.append_eq_append_iff.mp same with ⟨middle, rfl, rest⟩ | ⟨middle, rfl, rest⟩
  · cases middle with
    | nil => exact (List.append_nil _).symm
    | cons first middle =>
      have tails := (List.cons.inj rest).2
      rw [tails] at slash
      exact (slash (List.mem_append_right _ List.mem_cons_self)).elim
  · cases middle with
    | nil => exact List.append_nil _
    | cons first middle =>
      have tails := (List.cons.inj rest).2
      rw [tails] at slash'
      exact (slash' (List.mem_append_right _ List.mem_cons_self)).elim

theorem below_not_folder {folder : Path} (isFolder : isFolderPath folder = true) (shown : Name) :
    isFolderPath (below folder shown) = false ∧ below folder shown ≠ ['/'] := by
  unfold isFolderPath at isFolder
  split at isFolder
  next name =>
    rw [decide_eq_true_eq] at isFolder
    constructor
    · show decide (name ++ '/' :: shown ≠ [] ∧ '/' ∉ name ++ '/' :: shown) = false
      rw [decide_eq_false_iff_not]
      exact fun both => both.2 (List.mem_append_right _ List.mem_cons_self)
    · intro same
      have lengths := congrArg List.length same
      unfold below at lengths
      simp only [List.length_append, List.length_cons, List.length_nil] at lengths
      omega
  · cases isFolder

section Paths

variable {table : CaseTable} {folder : Path}

theorem lowercase_below (folder : Path) (shown : Name) :
    table.lowercase (below folder shown) = table.lowercase folder ++ '/' :: table.lowercase shown := by
  have slash : table.Separates '/' := separates_ascii (by decide) (by decide) (by decide)
  unfold below
  rw [CaseTable.lowercase_separated slash, table.lower_ascii '/' (by decide), List.append_assoc]
  rfl

theorem lowercase_below_inj {one other : Name} :
    table.lowercase (below folder one) = table.lowercase (below folder other) ↔
      table.lowercase one = table.lowercase other := by
  rw [lowercase_below, lowercase_below]
  constructor
  · intro same
    exact (List.cons.inj (List.append_cancel_left same)).2
  · intro same
    rw [same]

theorem numeric_suffix (messageId : Int) (number : Nat) : Numeric (suffix messageId number) := by
  cases number with
  | zero => exact numeric_displayed messageId
  | succ number =>
    intro character member
    rcases List.mem_append.mp member with front | back
    · exact numeric_displayed messageId character front
    · rcases List.mem_cons.mp back with dash | digit
      · exact Or.inl dash
      · exact numeric_toDigits _ character digit

theorem nameAttempt_numbered {name shown : Name} (numbered : Numbered name shown) (messageId : Int) (number : Nat) :
    Numbered name (nameAttempt shown messageId number) := by
  cases number with
  | zero => exact numbered
  | succ number => exact .number numbered (numeric_suffix messageId number)

theorem Numbered.lowercase (table : CaseTable) {name shown : Name} (numbered : Numbered name shown) :
    shown = name ∨ (table.lowercase name).length < (table.lowercase shown).length := by
  induction numbered with
  | self => exact Or.inl rfl
  | @number base id _ numeric ih =>
    have length := lowercase_length_disambiguateName table base numeric
    rcases ih with rfl | longer
    · exact Or.inr (by omega)
    · exact Or.inr (by omega)

/-! ## The loop over the rows -/

variable {Details : Type} {occupied : List (List Char)} {pairs : List (Row Details × Name)}
  {placed : List (Path × Row Details)}

theorem placeRows_cons {row : Row Details} {shown : Name} :
    placeRows table folder occupied ((row, shown) :: pairs) = some placed ↔
      Exists fun path => Exists fun others =>
        firstFree table occupied (pathAttempt folder shown row.messageId) = some path ∧
          placeRows table folder (table.lowercase path :: occupied) pairs = some others ∧
          placed = (path, row) :: others := by
  rw [placeRows]
  constructor
  · intro done
    rcases Option.bind_eq_some_iff.mp done with ⟨path, found, rest⟩
    rcases Option.bind_eq_some_iff.mp rest with ⟨others, later, last⟩
    exact ⟨path, others, found, later, (Option.some.inj last).symm⟩
  · rintro ⟨path, others, found, later, rfl⟩
    rw [found]
    show (placeRows table folder (table.lowercase path :: occupied) pairs >>= _) = _
    rw [later]
    rfl

theorem placeRows_paths (done : placeRows table folder occupied pairs = some placed) :
    List.Forall₂ (fun pair entry => entry.2 = pair.1 ∧
      Exists fun number => entry.1 = pathAttempt folder pair.2 pair.1.messageId number) pairs placed := by
  induction pairs generalizing occupied placed with
  | nil =>
    cases done
    exact .nil
  | cons pair pairs ih =>
    rcases pair with ⟨row, shown⟩
    rcases placeRows_cons.mp done with ⟨path, others, found, later, rfl⟩
    rcases firstFree_some found with ⟨number, rfl, -, -⟩
    exact .cons ⟨rfl, number, rfl⟩ (ih later)

theorem placeRows_distinct (done : placeRows table folder occupied pairs = some placed) :
    (placed.map fun entry => table.lowercase entry.1).Nodup ∧
      forall entry, entry ∈ placed -> table.lowercase entry.1 ∉ occupied := by
  induction pairs generalizing occupied placed with
  | nil =>
    cases done
    exact ⟨List.nodup_nil, List.forall_mem_nil _⟩
  | cons pair pairs ih =>
    rcases pair with ⟨row, shown⟩
    rcases placeRows_cons.mp done with ⟨path, others, found, later, rfl⟩
    rcases firstFree_some found with ⟨number, -, free, -⟩
    rcases ih later with ⟨distinct, apart⟩
    constructor
    · rw [List.map_cons, List.nodup_cons]
      refine ⟨?_, distinct⟩
      intro member
      rcases List.mem_map.mp member with ⟨other, inside, same⟩
      apply apart other inside
      rw [same]
      exact List.mem_cons_self
    · intro entry member
      rcases List.mem_cons.mp member with rfl | inside
      · exact free
      · exact fun taken => apart entry inside (List.mem_cons_of_mem _ taken)

theorem placeRows_taken (done : placeRows table folder occupied pairs = some placed) {pair : Row Details × Name}
    (member : pair ∈ pairs) : table.lowercase (below folder pair.2) ∈ occupied ∨
      Exists fun entry => entry ∈ placed ∧ table.lowercase entry.1 = table.lowercase (below folder pair.2) := by
  induction pairs generalizing occupied placed with
  | nil => cases member
  | cons first pairs ih =>
    rcases first with ⟨row, shown⟩
    rcases placeRows_cons.mp done with ⟨path, others, found, later, rfl⟩
    rcases List.mem_cons.mp member with rfl | inside
    · rcases firstFree_some found with ⟨number, rfl, -, attempts⟩
      cases number with
      | zero => exact Or.inr ⟨_, List.mem_cons_self, rfl⟩
      | succ number => exact Or.inl (attempts 0 (Nat.succ_pos _))
    · rcases ih later inside with taken | ⟨entry, there, same⟩
      · rcases List.mem_cons.mp taken with here | before
        · exact Or.inr ⟨(path, row), List.mem_cons_self, here.symm⟩
        · exact Or.inl before
      · exact Or.inr ⟨entry, List.mem_cons_of_mem _ there, same⟩

/-! ## Room for the rows -/

/-- There is room for the number of a row, beside the occupied paths. -/
def PlaceHere (table : CaseTable) (folder : Path) (occupied : List (List Char)) (messageId : Int) (shown : Name) : Prop :=
  forall number, (forall earlier, earlier ≤ number ->
      table.lowercase (pathAttempt folder shown messageId earlier) ∈ occupied) ->
    table.lowercase (pathAttempt folder shown messageId (number + 1)) ∉ occupied ->
    shown.length + 3 + (suffix messageId number).length ≤ maxNameLength

def PlaceRoom (table : CaseTable) (folder : Path) : List (List Char) -> List (Row Details × Name) -> Prop
  | _, [] => True
  | occupied, (row, shown) :: rows => PlaceHere table folder occupied row.messageId shown ∧
      forall path, firstFree table occupied (pathAttempt folder shown row.messageId) = some path ->
        PlaceRoom table folder (table.lowercase path :: occupied) rows

/-- With room for their numbers, all names stay accepted. -/
theorem placeRows_fit (room : PlaceRoom table folder occupied pairs)
    (done : placeRows table folder occupied pairs = some placed)
    (accepted : forall pair, pair ∈ pairs -> Clean pair.2 ∧ pair.2.length ≤ maxNameLength) :
    forall entry, entry ∈ placed -> Exists fun shown => entry.1 = below folder shown ∧ Clean shown ∧
      shown.length ≤ maxNameLength := by
  induction pairs generalizing occupied placed with
  | nil =>
    cases done
    exact List.forall_mem_nil _
  | cons pair pairs ih =>
    rcases pair with ⟨row, shown⟩
    rcases placeRows_cons.mp done with ⟨path, others, found, later, rfl⟩
    rw [List.forall_mem_cons] at accepted ⊢
    refine ⟨?_, ih (room.2 path found) later accepted.2⟩
    rcases firstFree_some found with ⟨number, rfl, free, attempts⟩
    refine ⟨nameAttempt shown row.messageId number, rfl, ?_, ?_⟩
    · exact (nameAttempt_numbered .self row.messageId number).clean accepted.1.1
    · cases number with
      | zero => exact accepted.1.2
      | succ number =>
        show (disambiguateName shown _).length ≤ maxNameLength
        rw [disambiguateName_length]
        exact room.1 number (fun earlier before => attempts earlier (by omega)) free

end Paths

end WebDav
end TelegramDrive
