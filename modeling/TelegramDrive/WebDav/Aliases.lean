import TelegramDrive.WebDav.NumberedNames

namespace TelegramDrive
namespace WebDav

/-!
# The names of a folder

The loop over the items keeps the lower case of every name it has given.  It ends, and its
names differ; whether each is accepted depends on the room that a number leaves.
-/

/-! ## Names without separators -/

structure Plain (name : Name) : Prop where
  named : name ≠ []
  dot : name ≠ ['.']
  dots : name ≠ ['.', '.']
  slash : '/' ∉ name
  backslash : '\\' ∉ name

variable {name shown : Name}

theorem portable_separators (portable_ : forall character, character ∈ name ->
    portable character = character) : '/' ∉ name ∧ '\\' ∉ name := by
  constructor
  · intro member
    exact absurd (portable_ '/' member) (by decide)
  · intro member
    exact absurd (portable_ '\\' member) (by decide)

theorem Clean.plain (clean : Clean name) : Plain name := by
  constructor
  · exact clean.named
  · rintro rfl
    exact absurd (clean.ends '.' rfl) (by decide)
  · rintro rfl
    exact absurd (clean.ends '.' rfl) (by decide)
  · exact clean.separate.1
  · exact clean.separate.2.1

theorem Plain.disambiguate (plain : Plain name) {id : List Char} (numeric : Numeric id) :
    Plain (disambiguateName name id) := by
  have length := disambiguateName_length name id
  have parts := splitName_append name
  have characters : forall character, character ∈ disambiguateName name id ->
      character ∈ name ∨ character ∈ [' ', '(', ')'] ∨ character ∈ id := by
    intro character member
    unfold disambiguateName at member
    rw [← parts]
    simp only [List.mem_append, List.mem_cons, List.not_mem_nil, or_false] at member ⊢
    rcases member with member | (((rfl | rfl) | member) | rfl) | member
    · exact Or.inl (Or.inl member)
    · exact Or.inr (Or.inl (Or.inl rfl))
    · exact Or.inr (Or.inl (Or.inr (Or.inl rfl)))
    · exact Or.inr (Or.inr member)
    · exact Or.inr (Or.inl (Or.inr (Or.inr rfl)))
    · exact Or.inl (Or.inr member)
  constructor
  · intro same
    rw [same] at length
    simp only [List.length_nil] at length
    omega
  · intro same
    rw [same] at length
    simp only [List.length_cons, List.length_nil] at length
    omega
  · intro same
    rw [same] at length
    simp only [List.length_cons, List.length_nil] at length
    omega
  · intro member
    rcases characters '/' member with inside | number | digit
    · exact plain.slash inside
    · exact absurd number (by decide)
    · exact absurd (numeric '/' digit) (by decide)
  · intro member
    rcases characters '\\' member with inside | number | digit
    · exact plain.backslash inside
    · exact absurd number (by decide)
    · exact absurd (numeric '\\' digit) (by decide)

theorem sanitizeName_plain (name : Name) : Plain (sanitizeName name) := by
  have cleaned := cleanName_clean name
  rw [sanitizeName_eq]
  by_cases long : maxNameLength < (cleanName name).length
  · have length : ((cleanName name).take maxNameLength).length = 240 := by
      rw [List.length_take]
      exact Nat.min_eq_left (Nat.le_of_lt long)
    have separate := portable_separators fun character member =>
      cleaned.portable character (List.mem_of_mem_take (i := maxNameLength) member)
    constructor
    · intro same
      rw [same] at length
      exact absurd length (by decide)
    · intro same
      rw [same] at length
      exact absurd length (by decide)
    · intro same
      rw [same] at length
      exact absurd length (by decide)
    · exact separate.1
    · exact separate.2
  · rw [List.take_of_length_le (Nat.le_of_not_lt long)]
    exact cleaned.plain

/-- A name, or the name with a number, and so on. -/
inductive Numbered (name : Name) : Name -> Prop
  | self : Numbered name name
  | number {base : Name} {id : List Char} : Numbered name base -> Numeric id -> Numbered name (disambiguateName base id)

theorem Numbered.clean (numbered : Numbered name shown) (clean : Clean name) : Clean shown := by
  induction numbered with
  | self => exact clean
  | number _ numeric ih => exact ih.disambiguate numeric

theorem Numbered.plain (numbered : Numbered name shown) (plain : Plain name) : Plain shown := by
  induction numbered with
  | self => exact plain
  | number _ numeric ih => exact ih.disambiguate numeric

theorem Numbered.longer (numbered : Numbered name shown) :
    shown = name ∨ name.length + 3 ≤ shown.length := by
  induction numbered with
  | self => exact Or.inl rfl
  | @number base id _ _ ih =>
    have length := disambiguateName_length base id
    rcases ih with rfl | longer
    · exact Or.inr (by omega)
    · exact Or.inr (by omega)

theorem numbered_accepted (numbered : Numbered (sanitizeName name) shown) :
    validatePortableName shown = .ok shown ↔ CutsWell name ∧ shown.length ≤ maxNameLength := by
  rw [validatePortableName_ok]
  constructor
  · rintro ⟨clean, short⟩
    refine ⟨?_, short⟩
    rcases numbered.longer with rfl | longer
    · exact sanitizeName_clean.mp clean
    · intro long
      have length : (sanitizeName name).length = maxNameLength := by
        rw [sanitizeName_eq, List.length_take]
        exact Nat.min_eq_left (Nat.le_of_lt long)
      omega
  · rintro ⟨cuts, short⟩
    exact ⟨numbered.clean (sanitizeName_clean.mpr cuts), short⟩

/-! ## The first free attempt -/

section Aliases

variable {table : CaseTable}

theorem aliasAttempt_numbered {name candidate : Name} (numbered : Numbered name candidate) (number : Nat) :
    Numbered name (aliasAttempt candidate number) := by
  cases number with
  | zero => exact numbered
  | succ number => exact .number numbered (numeric_toDigits _)

theorem firstFree_ends (used : List (List Char)) {attempt : Nat -> List Char}
    (distinct : Function.Injective fun number => table.lowercase (attempt number)) :
    Exists fun unique => firstFree table used attempt = some unique := by
  rcases FirstFree.search_ends distinct (Nat.lt_succ_self used.length) 0 with ⟨number, found⟩
  refine ⟨attempt number, ?_⟩
  unfold firstFree
  rw [found]
  rfl

variable {used : List (List Char)}

theorem firstFree_some {attempt : Nat -> List Char} {unique : List Char}
    (found : firstFree table used attempt = some unique) :
    Exists fun number => unique = attempt number ∧ table.lowercase unique ∉ used ∧
      forall earlier, earlier < number -> table.lowercase (attempt earlier) ∈ used := by
  unfold firstFree at found
  rcases Option.map_eq_some_iff.mp found with ⟨number, searched, rfl⟩
  rcases FirstFree.search_free searched with ⟨-, free, taken⟩
  exact ⟨number, rfl, free, fun earlier below => taken earlier (Nat.zero_le _) below⟩

theorem candidate_numbered (total : List Char -> Nat) (id : Int) (name : Name) :
    Numbered name (candidate table total id name) := by
  unfold candidate
  split
  · exact .number .self (numeric_displayed id)
  · exact .self

/-! ## The loop -/

variable {total : List Char -> Nat}

theorem aliasesFrom_cons {id : Int} {name : Name} {items : List (Int × Name)}
    {aliases : List Name} : aliasesFrom table total used ((id, name) :: items) = some aliases ↔
      Exists fun unique => Exists fun others =>
        firstFree table used (aliasAttempt (candidate table total id name)) = some unique ∧
          aliasesFrom table total (table.lowercase unique :: used) items = some others ∧
          aliases = unique :: others := by
  rw [aliasesFrom]
  constructor
  · intro done
    rcases Option.bind_eq_some_iff.mp done with ⟨unique, found, rest⟩
    rcases Option.bind_eq_some_iff.mp rest with ⟨others, later, last⟩
    exact ⟨unique, others, found, later, (Option.some.inj last).symm⟩
  · rintro ⟨unique, others, found, later, rfl⟩
    rw [found]
    show (aliasesFrom table total (table.lowercase unique :: used) items >>= _) = _
    rw [later]
    rfl

theorem aliasesFrom_ends (total : List Char -> Nat) (used : List (List Char)) (items : List (Int × Name)) :
    Exists fun aliases => aliasesFrom table total used items = some aliases := by
  induction items generalizing used with
  | nil => exact ⟨[], rfl⟩
  | cons item items ih =>
    rcases item with ⟨id, name⟩
    rcases firstFree_ends used (aliasAttempt_injective table (candidate table total id name)) with
      ⟨unique, found⟩
    rcases ih (table.lowercase unique :: used) with ⟨others, later⟩
    exact ⟨unique :: others, aliasesFrom_cons.mpr ⟨unique, others, found, later, rfl⟩⟩

theorem aliasesFrom_numbered {items : List (Int × Name)} {aliases : List Name}
    (done : aliasesFrom table total used items = some aliases) :
    List.Forall₂ (fun item shown => Numbered item.2 shown) items aliases := by
  induction items generalizing used aliases with
  | nil =>
    cases done
    exact .nil
  | cons item items ih =>
    rcases item with ⟨id, name⟩
    rcases aliasesFrom_cons.mp done with ⟨unique, others, found, later, rfl⟩
    rcases firstFree_some found with ⟨number, rfl, -, -⟩
    exact .cons (aliasAttempt_numbered (candidate_numbered total id name) number) (ih later)

/-- The names differ in lower case, also from all names that were used. -/
theorem aliasesFrom_distinct {items : List (Int × Name)} {aliases : List Name}
    (done : aliasesFrom table total used items = some aliases) :
    (aliases.map table.lowercase).Nodup ∧ forall shown, shown ∈ aliases -> table.lowercase shown ∉ used := by
  induction items generalizing used aliases with
  | nil =>
    cases done
    refine ⟨List.nodup_nil, ?_⟩
    intro shown member
    cases member
  | cons item items ih =>
    rcases item with ⟨id, name⟩
    rcases aliasesFrom_cons.mp done with ⟨unique, others, found, later, rfl⟩
    rcases firstFree_some found with ⟨number, -, free, -⟩
    rcases ih later with ⟨distinct, apart⟩
    constructor
    · rw [List.map_cons, List.nodup_cons]
      refine ⟨?_, distinct⟩
      intro member
      rcases List.mem_map.mp member with ⟨other, inside, same⟩
      apply apart other inside
      rw [same]
      exact List.mem_cons_self
    · intro shown member
      rcases List.mem_cons.mp member with rfl | inside
      · exact free
      · exact fun taken => apart shown inside (List.mem_cons_of_mem _ taken)

theorem aliasesFrom_append {before items : List (Int × Name)} {aliases : List Name}
    (done : aliasesFrom table total used (before ++ items) = some aliases) :
    Exists fun first => Exists fun later => aliases = first ++ later ∧
      aliasesFrom table total used before = some first ∧
      aliasesFrom table total ((first.map table.lowercase).reverse ++ used) items = some later := by
  induction before generalizing used aliases with
  | nil => exact ⟨[], aliases, rfl, rfl, done⟩
  | cons item before ih =>
    rcases item with ⟨id, name⟩
    rcases aliasesFrom_cons.mp done with ⟨unique, others, found, rest, rfl⟩
    rcases ih rest with ⟨first, later, rfl, front, back⟩
    refine ⟨unique :: first, later, rfl, aliasesFrom_cons.mpr ⟨unique, first, found, front, rfl⟩, ?_⟩
    rw [List.map_cons, List.reverse_cons, List.append_assoc, List.singleton_append]
    exact back

end Aliases

end WebDav
end TelegramDrive
