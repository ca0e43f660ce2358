import TelegramDrive.WebDav.Aliases

namespace TelegramDrive
namespace WebDav

/-!
# Unique aliases

What the clients of a folder are shown: names that differ in lower case, without separators,
and the name of an item itself where no other item has it.  All of them are accepted exactly
when the cut of no name is bad and there is room for every number.
-/

section

variable (table : CaseTable)

/-- What holds of the names of any list of items. -/
structure Shown (items : List (Int × Name)) (aliases : List Name) : Prop where
  length : aliases.length = items.length
  distinct : (aliases.map table.lowercase).Nodup
  plain : forall shown, shown ∈ aliases -> Plain shown
  kept : forall before id name after taken shown rest, items = before ++ (id, name) :: after ->
    aliases = taken ++ shown :: rest -> taken.length = before.length ->
    (forall item, item ∈ before ++ after ->
      table.lowercase (sanitizeName item.2) ≠ table.lowercase (sanitizeName name)) ->
    shown = sanitizeName name ∨ Exists fun pair => pair ∈ before.zip taken ∧ pair.2 ≠ sanitizeName pair.1.2 ∧
      table.lowercase pair.2 = table.lowercase (sanitizeName name)

/-! ## Room for numbers -/

/-- There is room for the numbers of an item, when the names in `used` have been given. -/
structure RoomHere (total : List Char -> Nat) (used : List (List Char)) (id : Int) (name : Name) : Prop where
  shared : 1 < total (table.lowercase name) -> name.length + 3 + (displayed id).length ≤ maxNameLength
  taken : forall number, (forall earlier, earlier ≤ number ->
      table.lowercase (aliasAttempt (candidate table total id name) earlier) ∈ used) ->
    table.lowercase (aliasAttempt (candidate table total id name) (number + 1)) ∉ used ->
    (candidate table total id name).length + 3 + (Nat.toDigits 10 (number + 2)).length ≤ maxNameLength

/-- There is room at each item, after the names before it. -/
def RoomFrom (total : List Char -> Nat) : List (List Char) -> List (Int × Name) -> Prop
  | _, [] => True
  | used, (id, name) :: items => RoomHere table total used id name ∧
      forall unique, firstFree table used (aliasAttempt (candidate table total id name)) = some unique ->
        RoomFrom total (table.lowercase unique :: used) items

def sanitizedItems (items : List (Int × Name)) : List (Int × Name) :=
  items.map fun (id, name) => (id, sanitizeName name)

def totalOf (items : List (Int × Name)) : List Char -> Nat := totals table ((sanitizedItems items).map Prod.snd)

/-- No name is cut badly, and every number fits. -/
structure Roomy (items : List (Int × Name)) : Prop where
  cuts : forall item, item ∈ items -> CutsWell item.2
  numbers : RoomFrom table (totalOf table items) [] (sanitizedItems items)

end

variable {table : CaseTable} {total : List Char -> Nat} {items : List (Int × Name)} {aliases : List Name}

theorem firstFree_fits {used : List (List Char)} {id : Int} {name unique : Name} (short : name.length ≤ maxNameLength)
    (found : firstFree table used (aliasAttempt (candidate table total id name)) = some unique) :
    unique.length ≤ maxNameLength ↔ RoomHere table total used id name := by
  rcases firstFree_some found with ⟨number, rfl, free, before⟩
  have longer := (aliasAttempt_numbered (.self : Numbered (candidate table total id name) _) number).longer
  constructor
  · intro fits
    constructor
    · intro shared
      have length : (candidate table total id name).length = name.length + 3 + (displayed id).length := by
        unfold candidate
        rw [if_pos shared]
        exact disambiguateName_length name _
      rcases longer with same | longer
      · rw [same] at fits
        omega
      · omega
    · intro other taken next
      -- The first free attempt is determined by the attempts before it.
      have same : number = other + 1 := by
        by_contra different
        rcases Nat.lt_or_gt_of_ne different with below | above
        · exact free (taken number (by omega))
        · exact next (before (other + 1) above)
      rw [same] at fits
      have length := disambiguateName_length (candidate table total id name) (Nat.toDigits 10 (other + 2))
      change (disambiguateName _ _).length ≤ maxNameLength at fits
      omega
  · intro room
    cases number with
    | zero =>
      show (candidate table total id name).length ≤ maxNameLength
      unfold candidate
      split
      next shared =>
        rw [disambiguateName_length]
        exact room.shared shared
      · exact short
    | succ number =>
      show (disambiguateName _ _).length ≤ maxNameLength
      rw [disambiguateName_length]
      exact room.taken number (fun earlier below => before earlier (by omega)) free

theorem aliasesFrom_fit {used : List (List Char)} (short : forall item, item ∈ items -> item.2.length ≤ maxNameLength)
    (done : aliasesFrom table total used items = some aliases) :
    (forall shown, shown ∈ aliases -> shown.length ≤ maxNameLength) ↔ RoomFrom table total used items := by
  induction items generalizing used aliases with
  | nil =>
    cases done
    constructor
    · exact fun _ => trivial
    · intro _ shown member
      cases member
  | cons item items ih =>
    rcases item with ⟨id, name⟩
    rcases aliasesFrom_cons.mp done with ⟨unique, others, found, later, rfl⟩
    have here := firstFree_fits (short (id, name) List.mem_cons_self) found
    have rest := ih (fun item member => short item (List.mem_cons_of_mem _ member)) later
    rw [List.forall_mem_cons, here, rest, RoomFrom]
    constructor
    · rintro ⟨room, others⟩
      refine ⟨room, ?_⟩
      intro unique' found'
      cases found.symm.trans found'
      exact others
    · rintro ⟨room, others⟩
      exact ⟨room, others unique found⟩

theorem sanitizedItems_numbered (done : uniqueAliases table items = some aliases) :
    List.Forall₂ (fun item shown => Numbered (sanitizeName item.2) shown) items aliases := by
  have numbered := aliasesFrom_numbered done
  rw [List.forall₂_map_left_iff] at numbered
  exact numbered

/-- The names are accepted exactly when no cut is bad and there is room for every number. -/
theorem uniqueAliases_writable (done : uniqueAliases table items = some aliases) :
    (forall shown, shown ∈ aliases -> validatePortableName shown = .ok shown) ↔ Roomy table items := by
  have numbered := sanitizedItems_numbered done
  have short : forall item, item ∈ sanitizedItems items -> item.2.length ≤ maxNameLength := by
    intro item member
    rcases List.mem_map.mp member with ⟨original, -, rfl⟩
    exact sanitizeName_length original.2
  have fit := aliasesFrom_fit short done
  have split : (forall shown, shown ∈ aliases -> validatePortableName shown = .ok shown) ↔
      (forall item, item ∈ items -> CutsWell item.2) ∧
        forall shown, shown ∈ aliases -> shown.length ≤ maxNameLength := by
    clear fit done short
    induction numbered with
    | nil =>
      exact ⟨fun _ => ⟨List.forall_mem_nil _, List.forall_mem_nil _⟩, fun _ => List.forall_mem_nil _⟩
    | cons here _ ih =>
      rw [List.forall_mem_cons, List.forall_mem_cons, List.forall_mem_cons, ih,
        numbered_accepted here]
      exact and_and_and_comm
  rw [split, fit]
  exact ⟨fun both => ⟨both.1, both.2⟩, fun roomy => ⟨roomy.cuts, roomy.numbers⟩⟩

/-- A name that no other item has is counted once. -/
theorem total_alone {before after : List (Int × Name)} (id : Int) {name : Name}
    (alone : forall item, item ∈ before ++ after ->
      table.lowercase (sanitizeName item.2) ≠ table.lowercase (sanitizeName name)) :
    totalOf table (before ++ (id, name) :: after) (table.lowercase (sanitizeName name)) = 1 := by
  have none : forall part : List (Int × Name), (forall item, item ∈ part -> item ∈ before ++ after) ->
      ((sanitizedItems part).map Prod.snd).countP (fun other =>
        decide (table.lowercase other = table.lowercase (sanitizeName name))) = 0 := by
    intro part inside
    rw [List.countP_eq_zero]
    intro other member
    unfold sanitizedItems at member
    rw [List.map_map] at member
    rcases List.mem_map.mp member with ⟨item, origin, rfl⟩
    rw [decide_eq_true_eq]
    exact alone item (inside item origin)
  have front := none before fun item member => List.mem_append_left _ member
  have back := none after fun item member => List.mem_append_right _ member
  unfold totalOf totals
  have parts : (sanitizedItems (before ++ (id, name) :: after)).map Prod.snd =
      (sanitizedItems before).map Prod.snd ++ sanitizeName name :: (sanitizedItems after).map Prod.snd := by
    unfold sanitizedItems
    simp only [List.map_append, List.map_cons]
  rw [parts, List.countP_append, List.countP_cons, front, back, decide_eq_true rfl]
  rfl

/-- An item whose name nobody else has keeps it, unless it was given away as a numbered name. -/
theorem uniqueAliases_kept (done : uniqueAliases table items = some aliases) {before after : List (Int × Name)}
    {id : Int} {name shown : Name} {taken rest : List Name} (here : items = before ++ (id, name) :: after)
    (there : aliases = taken ++ shown :: rest) (same : taken.length = before.length)
    (alone : forall item, item ∈ before ++ after ->
      table.lowercase (sanitizeName item.2) ≠ table.lowercase (sanitizeName name)) :
    shown = sanitizeName name ∨ Exists fun pair => pair ∈ before.zip taken ∧ pair.2 ≠ sanitizeName pair.1.2 ∧
      table.lowercase pair.2 = table.lowercase (sanitizeName name) := by
  have once := total_alone id alone
  subst here
  change aliasesFrom table (totalOf table _) [] (sanitizedItems (before ++ (id, name) :: after)) = _ at done
  have parts : sanitizedItems (before ++ (id, name) :: after) =
      sanitizedItems before ++ (id, sanitizeName name) :: sanitizedItems after := by
    unfold sanitizedItems
    simp only [List.map_append, List.map_cons]
  rw [parts] at done
  rcases aliasesFrom_append done with ⟨first, later, joined, front, back⟩
  have length : first.length = before.length := by
    have equal := (aliasesFrom_numbered front).length_eq
    unfold sanitizedItems at equal
    rw [List.length_map] at equal
    exact equal.symm
  rw [there] at joined
  rcases List.append_inj joined (same.trans length.symm) with ⟨rfl, rfl⟩
  rcases aliasesFrom_cons.mp back with ⟨unique, others, found, -, cut⟩
  cases cut
  have unnumbered : candidate table (totalOf table (before ++ (id, name) :: after)) id (sanitizeName name) =
      sanitizeName name := by
    unfold candidate
    rw [once]
    rfl
  rw [unnumbered] at found
  rcases firstFree_some found with ⟨number, rfl, -, attempts⟩
  cases number with
  | zero => exact Or.inl rfl
  | succ number =>
    have used := attempts 0 (Nat.succ_pos _)
    rw [List.append_nil, List.mem_reverse] at used
    rcases List.mem_map.mp used with ⟨other, member, lower⟩
    rcases List.mem_iff_getElem.mp member with ⟨index, bound, rfl⟩
    have bound' : index < before.length := by omega
    refine Or.inr ⟨(before.get ⟨index, bound'⟩, taken[index]), ?_, ?_, lower⟩
    · rw [List.mem_iff_getElem]
      refine ⟨index, ?_, ?_⟩
      · rw [List.length_zip]
        omega
      · rw [List.getElem_zip]
        rfl
    · intro equal
      refine alone (before.get ⟨index, bound'⟩) (List.mem_append_left _ (List.get_mem _ _)) ?_
      have named : taken[index] = sanitizeName (before.get ⟨index, bound'⟩).2 := equal
      rw [← named]
      exact lower

/-- Every list of items gets its names. -/
theorem uniqueAliases_shown (table : CaseTable) (items : List (Int × Name)) :
    Exists fun aliases => uniqueAliases table items = some aliases ∧ Shown table items aliases := by
  rcases aliasesFrom_ends (totalOf table items) [] (sanitizedItems items) with ⟨aliases, done⟩
  have made : uniqueAliases table items = some aliases := done
  have numbered := sanitizedItems_numbered made
  refine ⟨aliases, made, ?_⟩
  constructor
  · exact numbered.length_eq.symm
  · exact (aliasesFrom_distinct done).1
  · clear made done
    induction numbered with
    | nil =>
      intro shown member
      cases member
    | cons here _ ih =>
      exact List.forall_mem_cons.mpr ⟨here.plain (sanitizeName_plain _), ih⟩
  · intro before id name after taken shown rest here there same alone
    exact uniqueAliases_kept made here there same alone

end WebDav
end TelegramDrive
