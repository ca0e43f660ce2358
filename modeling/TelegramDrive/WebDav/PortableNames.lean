import TelegramDrive.WebDav.Names

namespace TelegramDrive
namespace WebDav

/-!
# Names that are accepted

A name is accepted as it is when it is clean and not too long.  A sanitized name is a clean
name that may have been cut, and the cut can leave a bad end or a device name.  A number
keeps a clean name clean, but makes it longer.
-/

/-! ## Clean names -/

structure Clean (name : Name) : Prop where
  portable : forall character, character ∈ name -> portable character = character
  named : name ≠ []
  ends : forall character, name.getLast? = some character -> isTrailing character = false
  free : isWindowsReservedName name = false

theorem portable_eq_self {character : Char} :
    portable character = character ↔ character ∉ forbidden ∧ isControl character = false := by
  unfold portable
  constructor
  · intro same
    split at same
    next bad =>
      rw [← same] at bad
      exact absurd bad (by decide)
    next good =>
      split at same
      next bad =>
        rw [← same] at bad
        exact absurd bad (by decide)
      next plain => exact ⟨good, eq_false_of_ne_true plain⟩
  · rintro ⟨good, plain⟩
    rw [if_neg good, if_neg (by rw [plain]; exact Bool.false_ne_true)]

theorem portable_portable (character : Char) : portable (portable character) = portable character := by
  unfold portable
  split
  · decide
  next good =>
    split
    · decide
    · rfl

theorem stripFront_some {front text rest : List Char} (stripped : stripFront front text = some rest) :
    text = front ++ rest := by
  unfold stripFront at stripped
  split at stripped
  next isFront =>
    cases stripped
    exact (List.prefix_iff_eq_append.mp (List.isPrefixOf_iff_prefix.mp isFront)).symm
  · cases stripped

theorem mem_withoutPlus {text : List Char} {character : Char} (member : character ∈ text) :
    character = '+' ∨ character ∈ withoutPlus text := by
  unfold withoutPlus
  split
  · exact List.mem_cons.mp member
  · exact Or.inr member

theorem parseU8_some {text : List Char} {number : Nat} (parsed : parseU8 text = some number) :
    forall character, character ∈ text -> character = '+' ∨ character.isDigit = true := by
  unfold parseU8 at parsed
  dsimp only at parsed
  split at parsed
  next valid =>
    have digits := List.all_eq_true.mp valid.2.1
    intro character member
    rcases mem_withoutPlus member with plus | digit
    · exact Or.inl plus
    · exact Or.inr (digits character digit)
  · cases parsed

/-- The name of a device has letters, digits and perhaps a plus sign. -/
theorem isDevice_cases {stem : List Char} (device : isDevice stem = true) :
    (forall character, character ∈ stem -> character ≠ ' ') ∧ forall rest, stem ≠ '_' :: rest := by
  unfold isDevice at device
  rw [Bool.or_eq_true] at device
  rcases device with word | number
  · have listed := of_decide_eq_true word
    simp only [List.mem_cons, List.not_mem_nil, or_false] at listed
    rcases listed with rfl | rfl | rfl | rfl
    all_goals
      refine ⟨by simp, ?_⟩
      intro rest same
      exact absurd (List.cons.inj same).1 (by decide)
  · cases found : ((stripFront "COM".toList stem).or (stripFront "LPT".toList stem)).bind parseU8 with
    | none =>
      rw [found] at number
      cases number
    | some value =>
      rcases Option.bind_eq_some_iff.mp found with ⟨rest, stripped, parsed⟩
      have parts : stem = "COM".toList ++ rest ∨ stem = "LPT".toList ++ rest := by
        rcases Option.or_eq_some_iff.mp stripped with com | ⟨-, lpt⟩
        · exact Or.inl (stripFront_some com)
        · exact Or.inr (stripFront_some lpt)
      have digits := parseU8_some parsed
      have noSpace : ' ' ∉ rest := by
        intro member
        exact absurd (digits ' ' member) (by decide)
      rcases parts with rfl | rfl
      all_goals
        refine ⟨?_, ?_⟩
        · rintro character member rfl
          rcases List.mem_append.mp member with front | later
          · exact absurd front (by decide)
          · exact noSpace later
        · intro others same
          exact absurd (List.cons.inj same).1 (by decide)

theorem reserved_underscore (name : Name) : isWindowsReservedName ('_' :: name) = false := by
  apply eq_false_of_ne_true
  intro reserved
  exact (isDevice_cases reserved).2 _ rfl

variable {name : Name}

theorem reserved_space (space : ' ' ∈ name.takeWhile fun character => decide (character ≠ '.')) :
    isWindowsReservedName name = false := by
  apply eq_false_of_ne_true
  intro reserved
  refine (isDevice_cases reserved).1 ' ' ?_ rfl
  exact List.mem_map.mpr ⟨' ', space, by decide⟩

/-! ## Sanitized names -/

theorem getLast?_rdropWhile {character : Char}
    (last : (name.rdropWhile isTrailing).getLast? = some character) : isTrailing character = false := by
  rcases List.getLast?_eq_some_iff.mp last with ⟨front, same⟩
  have there : name.rdropWhile isTrailing ≠ [] := by
    rw [same]
    exact List.append_ne_nil_of_right_ne_nil _ (List.cons_ne_nil _ _)
  have kept := List.rdropWhile_last_not isTrailing name there
  simp only [same, List.getLast_append_singleton] at kept
  exact eq_false_of_ne_true kept

theorem cleanName_clean (name : Name) : Clean (cleanName name) := by
  have named : forall text : Name, (forall character, character ∈ text -> portable character = character) ->
      text ≠ [] -> (forall character, text.getLast? = some character -> isTrailing character = false) ->
      Clean (if isWindowsReservedName text then '_' :: text else text) := by
    intro text each there ends
    split
    · constructor
      · intro character member
        rcases List.mem_cons.mp member with rfl | later
        · decide
        · exact each character later
      · exact List.cons_ne_nil _ _
      · intro character last
        rw [List.getLast?_cons_of_ne_nil there] at last
        exact ends character last
      · exact reserved_underscore text
    next free => exact ⟨each, there, ends, eq_false_of_ne_true free⟩
  unfold cleanName
  dsimp only
  split
  · have letters : "Untitled".toList = ['U', 'n', 't', 'i', 't', 'l', 'e', 'd'] := by simp
    rw [letters]
    refine named _ ?_ (List.cons_ne_nil _ _) ?_
    · intro character member
      simp only [List.mem_cons, List.not_mem_nil, or_false] at member
      rcases member with rfl | rfl | rfl | rfl | rfl | rfl | rfl | rfl
      all_goals rfl
    · intro character last
      cases last
      rfl
  next there =>
    refine named _ ?_ there ?_
    · intro character member
      have inside := (List.rdropWhile_prefix isTrailing _).subset member
      rcases List.mem_map.mp inside with ⟨original, -, rfl⟩
      exact portable_portable original
    · intro character last
      exact getLast?_rdropWhile last

theorem cleanName_eq_self (clean : Clean name) : cleanName name = name := by
  have same : name.map portable = name := by
    conv_rhs => rw [← List.map_id name]
    exact List.map_congr_left clean.portable
  have trimmed : name.rdropWhile isTrailing = name := by
    apply List.rdropWhile_eq_self_iff.mpr
    intro there trailing
    rw [clean.ends _ (List.getLast?_eq_some_getLast there)] at trailing
    exact Bool.false_ne_true trailing
  unfold cleanName
  dsimp only
  rw [same, trimmed, if_neg clean.named, clean.free, if_neg Bool.false_ne_true]

theorem sanitizeName_eq (name : Name) : sanitizeName name = (cleanName name).take maxNameLength := by
  unfold sanitizeName
  dsimp only
  split
  · rfl
  next short => exact (List.take_of_length_le (Nat.le_of_not_lt short)).symm

theorem sanitizeName_length (name : Name) : (sanitizeName name).length ≤ maxNameLength := by
  rw [sanitizeName_eq]
  exact List.length_take_le ..

/-- A name is cleaned to one character more than it has, unless it has nothing to keep. -/
theorem cleanName_length (name : Name) : (cleanName name).length ≤ maxNameLength ∨
    (cleanName name).length ≤ name.length ∨
      (cleanName name = '_' :: name.map portable ∧ isWindowsReservedName (name.map portable) = true) := by
  have shorter : ((name.map portable).rdropWhile isTrailing).length ≤ name.length := by
    have bound := (List.rdropWhile_prefix isTrailing (name.map portable)).length_le
    rw [List.length_map] at bound
    exact bound
  unfold cleanName
  dsimp only
  split
  · exact Or.inl (by decide)
  · split
    next reserved =>
      by_cases whole : ((name.map portable).rdropWhile isTrailing).length = name.length
      · have same := (List.rdropWhile_prefix isTrailing (name.map portable)).eq_of_length
          (by rw [whole, List.length_map])
        rw [same] at reserved ⊢
        exact Or.inr (Or.inr ⟨rfl, reserved⟩)
      · rw [List.length_cons]
        exact Or.inr (Or.inl (by omega))
    · exact Or.inr (Or.inl shorter)

/-- What is left as it is has nothing to be cleaned or cut. -/
theorem sanitizeName_eq_self : sanitizeName name = name ↔ Clean name ∧ name.length ≤ maxNameLength := by
  rw [sanitizeName_eq]
  constructor
  · intro same
    have short : name.length ≤ maxNameLength := by
      rw [← same]
      exact List.length_take_le ..
    refine ⟨?_, short⟩
    by_cases whole : (cleanName name).length ≤ maxNameLength
    · rw [List.take_of_length_le whole] at same
      rw [← same]
      exact cleanName_clean name
    · exfalso
      rcases cleanName_length name with small | shorter | ⟨marked, reserved⟩
      · exact whole small
      · exact whole (Nat.le_trans shorter short)
      · rw [marked] at same
        cases name with
        | nil => exact absurd same (by decide)
        | cons first rest =>
          have head : first = '_' := (List.cons.inj same).1.symm
          rw [head] at reserved
          exact absurd ((reserved_underscore _).symm.trans reserved) Bool.false_ne_true
  · rintro ⟨clean, short⟩
    rw [cleanName_eq_self clean]
    exact List.take_of_length_le short

/-- Where a clean name is cut, the cut leaves a clean name. -/
def CutsWell (name : Name) : Prop :=
  maxNameLength < (cleanName name).length ->
    (forall character, ((cleanName name).take maxNameLength).getLast? = some character ->
      isTrailing character = false) ∧
    isWindowsReservedName ((cleanName name).take maxNameLength) = false

theorem sanitizeName_clean : Clean (sanitizeName name) ↔ CutsWell name := by
  have cleaned := cleanName_clean name
  rw [sanitizeName_eq]
  unfold CutsWell
  constructor
  · intro clean _
    exact ⟨clean.ends, clean.free⟩
  · intro cuts
    by_cases long : maxNameLength < (cleanName name).length
    · rcases cuts long with ⟨ends, free⟩
      constructor
      · intro character member
        exact cleaned.portable character (List.mem_of_mem_take member)
      · intro nothing
        rcases List.take_eq_nil_iff.mp nothing with zero | empty
        · exact absurd zero (by decide)
        · exact cleaned.named empty
      · exact ends
      · exact free
    · rw [List.take_of_length_le (Nat.le_of_not_lt long)]
      exact cleaned

theorem Clean.separate (clean : Clean name) : '/' ∉ name ∧ '\\' ∉ name ∧
    forall character, character ∈ name -> character.toNat ≠ 0 := by
  refine ⟨?_, ?_, ?_⟩
  · intro member
    exact absurd (clean.portable '/' member) (by decide)
  · intro member
    exact absurd (clean.portable '\\' member) (by decide)
  · intro character member zero
    have plain := (portable_eq_self.mp (clean.portable character member)).2
    unfold isControl at plain
    exact of_decide_eq_false plain (Or.inl (by omega))

/-- The names that are accepted are the clean ones that are not too long. -/
theorem validatePortableName_ok :
    validatePortableName name = .ok name ↔ Clean name ∧ name.length ≤ maxNameLength := by
  rw [← sanitizeName_eq_self]
  unfold validatePortableName
  constructor
  · intro accepted
    split at accepted
    · cases accepted
    · split at accepted
      · cases accepted
      next same => exact Decidable.not_not.mp same
  · intro same
    have clean := (sanitizeName_eq_self.mp same).1
    rcases clean.separate with ⟨slash, -, zero⟩
    rw [if_neg, if_neg (fun different => different same), same]
    rintro (empty | dot | dots | bad)
    · exact clean.named empty
    · rw [dot] at clean
      exact absurd (clean.ends '.' rfl) (by decide)
    · rw [dots] at clean
      exact absurd (clean.ends '.' rfl) (by decide)
    · rcases List.any_eq_true.mp bad with ⟨character, member, found⟩
      rcases of_decide_eq_true found with isSlash | isZero
      · exact slash (isSlash ▸ member)
      · exact zero character member isZero

end WebDav
end TelegramDrive
