import TelegramDrive.WebDav.Placement

namespace TelegramDrive
namespace WebDav

/-!
# The names of a listed folder

Kept paths and new ones share a folder.  New names avoid the kept paths, and what took the
name of a row is always a numbered name, of a kept path or of an earlier row.  Only a kept
path can have a number that it no longer needs.
-/

section Properties

variable {Details : Type} (table : CaseTable) (state : State Details) (folder : Path)

/-- The name that a path has without a number. -/
def State.nameAt (path : Path) : Name := sanitizeName (state.origin path)

/-- A path with a number in its name. -/
def Displaced (path : Path) : Prop := path ≠ below folder (state.nameAt path)

/-- What the paths of a folder should be. -/
structure Listed (paths : List Path) : Prop where
  named : forall path, path ∈ paths -> Exists fun shown => path = below folder shown ∧
    Numbered (state.nameAt path) shown ∧ Plain shown
  distinct : (paths.map table.lowercase).Nodup
  files : forall path, path ∈ paths -> state.index.messageAt path ≠ none
  once : (paths.map state.index.messageAt).Nodup
  kept : forall path, path ∈ paths ->
    (forall other, other ∈ paths -> other ≠ path ->
      table.lowercase (state.nameAt other) ≠ table.lowercase (state.nameAt path)) ->
    path = below folder (state.nameAt path) ∨ Exists fun other => other ∈ paths ∧ other ≠ path ∧
      Displaced state folder other ∧ table.lowercase other = table.lowercase (below folder (state.nameAt path))
  writable : forall path, path ∈ paths -> forall shown, path = below folder shown ->
    validatePortableName shown = .ok shown

/-- A kept path has a number only for a name that is still shown or taken. -/
def Settled (rows : List (Row Details)) (complete : Bool) : Prop :=
  forall path, path ∈ state.index.kept folder (sortRows rows) complete -> Displaced state folder path ->
    (Exists fun other => other ∈ state.index.kept folder (sortRows rows) complete ∧ other ≠ path ∧
      table.lowercase (state.nameAt other) = table.lowercase (state.nameAt path)) ∨
    (Exists fun row => row ∈ rows ∧
      table.lowercase (sanitizeName row.name) = table.lowercase (state.nameAt path)) ∨
    Exists fun other => other ∈ state.index.kept folder (sortRows rows) complete ∧ other ≠ path ∧
      Displaced state folder other ∧ table.lowercase other = table.lowercase (below folder (state.nameAt path))

/-- There is room for the numbers that the rows need, among themselves and beside the kept paths. -/
structure RoomyListing (rows : List (Row Details)) (complete : Bool) : Prop where
  aliases : Roomy table (itemsOf (sortRows rows))
  paths : forall aliases, uniqueAliases table (itemsOf (sortRows rows)) = some aliases ->
    PlaceRoom table folder ((state.index.kept folder (sortRows rows) complete).map table.lowercase)
      ((sortRows rows).zip aliases)

end Properties

section Congruence

variable {Details : Type} {table : CaseTable} {state next : State Details} {folder : Path} {paths : List Path}

theorem Listed.congr (listed : Listed table state folder paths)
    (origin : forall path, path ∈ paths -> next.origin path = state.origin path)
    (messages : forall path, path ∈ paths -> next.index.messageAt path = state.index.messageAt path) :
    Listed table next folder paths := by
  have names : forall path, path ∈ paths -> next.nameAt path = state.nameAt path := fun path member =>
    congrArg sanitizeName (origin path member)
  constructor
  · intro path member
    rw [names path member]
    exact listed.named path member
  · exact listed.distinct
  · intro path member
    rw [messages path member]
    exact listed.files path member
  · rw [List.map_congr_left messages]
    exact listed.once
  · intro path member alone
    have before := listed.kept path member (by
      intro other inside different
      have apart := alone other inside different
      rw [names other inside, names path member] at apart
      exact apart)
    rw [names path member]
    rcases before with own | ⟨other, inside, different, displaced, taken⟩
    · exact Or.inl own
    · refine Or.inr ⟨other, inside, different, ?_, taken⟩
      unfold Displaced at displaced ⊢
      rw [names other inside]
      exact displaced
  · exact listed.writable

theorem listed_nil : Listed table state folder [] := by
  constructor
  · exact List.forall_mem_nil _
  · exact List.nodup_nil
  · exact List.forall_mem_nil _
  · exact List.nodup_nil
  · exact List.forall_mem_nil _
  · exact List.forall_mem_nil _

end Congruence

/-! ## One listing -/

/-- A listing of a folder whose paths were in order. -/
structure Publishing {Details : Type} (table : CaseTable) (state : State Details) (folder : Path)
    (rows : List (Row Details)) (complete : Bool) (aliases : List Name) (placed : List (Path × Row Details)) : Prop where
  ids : (rows.map Row.messageId).Nodup
  previous : Listed table state folder ((state.index.children folder).getD [])
  aliased : uniqueAliases table (itemsOf (sortRows rows)) = some aliases
  done : placeRows table folder ((state.index.kept folder (sortRows rows) complete).map table.lowercase)
    ((sortRows rows).zip aliases) = some placed

theorem sortRows_perm {Details : Type} (rows : List (Row Details)) : (sortRows rows).Perm rows :=
  List.mergeSort_perm _ _

namespace Publishing

variable {Details : Type} {table : CaseTable} {state : State Details} {folder : Path} {rows : List (Row Details)}
  {complete : Bool} {aliases : List Name} {placed : List (Path × Row Details)}
  (publishing : Publishing table state folder rows complete aliases placed)

include publishing

theorem sorted_ids : ((sortRows rows).map Row.messageId).Nodup :=
  ((sortRows_perm rows).map Row.messageId).nodup_iff.mpr publishing.ids

theorem aliases_length : aliases.length = (sortRows rows).length := by
  have length := (sanitizedItems_numbered publishing.aliased).length_eq
  unfold itemsOf at length
  rw [List.length_map] at length
  exact length.symm

theorem pairs_numbered {pair : Row Details × Name} (member : pair ∈ (sortRows rows).zip aliases) :
    Numbered (sanitizeName pair.1.name) pair.2 := by
  have numbered := sanitizedItems_numbered publishing.aliased
  unfold itemsOf at numbered
  rw [List.forall₂_map_left_iff, List.forall₂_iff_zip] at numbered
  exact numbered.2 member

theorem entry_pair {entry : Path × Row Details} (member : entry ∈ placed) :
    Exists fun pair => pair ∈ (sortRows rows).zip aliases ∧ entry.2 = pair.1 ∧
      Exists fun number => entry.1 = pathAttempt folder pair.2 pair.1.messageId number := by
  have paths := placeRows_paths publishing.done
  rcases List.forall₂_iff_zip.mp paths with ⟨length, each⟩
  rcases List.mem_iff_getElem.mp member with ⟨index, bound, rfl⟩
  have bound' : index < ((sortRows rows).zip aliases).length := by omega
  refine ⟨_, List.get_mem _ ⟨index, bound'⟩, each ?_⟩
  rw [List.mem_iff_getElem]
  refine ⟨index, ?_, ?_⟩
  · rw [List.length_zip]
    omega
  · rw [List.getElem_zip]
    rfl

theorem placed_rows : placed.map Prod.snd = sortRows rows := by
  have paired := placeRows_paths publishing.done
  have inOrder : forall pairs, List.Forall₂ (fun (pair : Row Details × Name) (entry : Path × Row Details) =>
      entry.2 = pair.1 ∧ Exists fun number => entry.1 = pathAttempt folder pair.2 pair.1.messageId number)
      pairs placed -> placed.map Prod.snd = pairs.map Prod.fst := by
    clear paired publishing
    intro pairs paths
    induction paths with
    | nil => rfl
    | cons here _ ih => rw [List.map_cons, List.map_cons, here.1, ih]
  rw [inOrder _ paired, List.map_fst_zip]
  exact Nat.le_of_eq publishing.aliases_length.symm

theorem entry_named {entry : Path × Row Details} (member : entry ∈ placed) :
    Exists fun shown => entry.1 = below folder shown ∧ Numbered (sanitizeName entry.2.name) shown := by
  rcases publishing.entry_pair member with ⟨pair, inside, same, number, path⟩
  refine ⟨_, path, ?_⟩
  rw [same]
  exact nameAttempt_numbered (publishing.pairs_numbered inside) _ number

theorem paths_distinct : (placed.map Prod.fst).Nodup := by
  have distinct := (placeRows_distinct publishing.done).1
  have composed : (placed.map fun entry => table.lowercase entry.1) = (placed.map Prod.fst).map table.lowercase := by
    rw [List.map_map]
    rfl
  rw [composed] at distinct
  exact distinct.of_map _

theorem entry_eq {one other : Path × Row Details} (inside : one ∈ placed) (inside' : other ∈ placed)
    (same : one.1 = other.1) : one = other := List.inj_on_of_nodup_map publishing.paths_distinct inside inside' same

/-- No row meets a kept path. -/
theorem apart {path : Path} (member : path ∈ state.index.kept folder (sortRows rows) complete) :
    path ∉ placed.map Prod.fst := by
  intro inside
  rcases List.mem_map.mp inside with ⟨entry, placed_, rfl⟩
  exact (placeRows_distinct publishing.done).2 entry placed_ (List.mem_map_of_mem member)

omit publishing in
theorem kept_previous {path : Path} (member : path ∈ state.index.kept folder (sortRows rows) complete) :
    path ∈ (state.index.children folder).getD [] := (List.mem_filter.mp member).1

omit publishing in
theorem kept_fresh {path : Path} (member : path ∈ state.index.kept folder (sortRows rows) complete) :
    (complete || state.index.refreshed ((sortRows rows).map Row.messageId) path) = false :=
  Bool.not_eq_true' _ ▸ (List.mem_filter.mp member).2

/-! ## The state after it -/

/-- What the listing leaves behind. -/
def after (state : State Details) (folderId : Option Int) (folder : Path) (rows : List (Row Details)) (complete : Bool)
    (placed : List (Path × Row Details)) : State Details :=
  ⟨state.index.published folderId folder rows complete placed, recordOrigin placed state.origin⟩

omit publishing in
theorem elsewhere {folderId : Option Int} {path : Path} (notPlaced : path ∉ placed.map Prod.fst)
    (notPrevious : path ∉ ((state.index.children folder).getD []).filter fun path =>
      complete || state.index.refreshed ((sortRows rows).map Row.messageId) path) :
    (after state folderId folder rows complete placed).origin path = state.origin path ∧
      (after state folderId folder rows complete placed).index.messageAt path = state.index.messageAt path := by
  refine ⟨recordOrigin_other notPlaced _, ?_⟩
  show ((state.index.published folderId folder rows complete placed).nodes path).bind _ = _
  unfold Index.published
  dsimp only
  rw [putAll_other, removeAll_other notPrevious]
  · rfl
  · rw [List.map_map]
    exact notPlaced

theorem kept_same {folderId : Option Int} {path : Path}
    (member : path ∈ state.index.kept folder (sortRows rows) complete) :
    (after state folderId folder rows complete placed).origin path = state.origin path ∧
      (after state folderId folder rows complete placed).index.messageAt path = state.index.messageAt path := by
  apply elsewhere (publishing.apart member)
  intro removed
  exact Bool.false_ne_true ((kept_fresh member).symm.trans (List.mem_filter.mp removed).2)

theorem placed_here {folderId : Option Int} {entry : Path × Row Details} (member : entry ∈ placed) :
    (after state folderId folder rows complete placed).origin entry.1 = entry.2.name ∧
      (after state folderId folder rows complete placed).index.messageAt entry.1 = some entry.2.messageId := by
  refine ⟨recordOrigin_here publishing.paths_distinct member _, ?_⟩
  have node : (state.index.published folderId folder rows complete placed).nodes entry.1 =
      some (.file folderId entry.2.messageId entry.2.details) := by
    unfold Index.published
    dsimp only
    have distinct : ((placed.map fun entry => (entry.1, (Node.file folderId entry.2.messageId entry.2.details :
        Node Details))).map Prod.fst).Nodup := by
      rw [List.map_map]
      exact publishing.paths_distinct
    exact putAll_here distinct (List.mem_map.mpr ⟨entry, member, rfl⟩) _
  show ((state.index.published folderId folder rows complete placed).nodes entry.1).bind _ = _
  rw [node]
  rfl

theorem kept_name {folderId : Option Int} {path : Path}
    (member : path ∈ state.index.kept folder (sortRows rows) complete) :
    (after state folderId folder rows complete placed).nameAt path = state.nameAt path :=
  congrArg sanitizeName (publishing.kept_same member).1

theorem placed_name {folderId : Option Int} {entry : Path × Row Details} (member : entry ∈ placed) :
    (after state folderId folder rows complete placed).nameAt entry.1 = sanitizeName entry.2.name :=
  congrArg sanitizeName (publishing.placed_here member).1

/-! ## The names after it -/

theorem named_pair {entry : Path × Row Details} (member : entry ∈ placed)
    (alone : forall other, other ∈ placed -> other.1 ≠ entry.1 ->
      table.lowercase (sanitizeName other.2.name) ≠ table.lowercase (sanitizeName entry.2.name)) :
    Exists fun pair => pair ∈ (sortRows rows).zip aliases ∧
      table.lowercase pair.2 = table.lowercase (sanitizeName entry.2.name) := by
  rcases publishing.entry_pair member with ⟨pair, inside, same, -⟩
  rcases List.append_of_mem inside with ⟨before, rest, split⟩
  have rowsSplit : sortRows rows = before.map Prod.fst ++ pair.1 :: rest.map Prod.fst := by
    rw [← List.map_cons, ← List.map_append, ← split, List.map_fst_zip]
    exact Nat.le_of_eq publishing.aliases_length.symm
  have aliasesSplit : aliases = before.map Prod.snd ++ pair.2 :: rest.map Prod.snd := by
    rw [← List.map_cons, ← List.map_append, ← split, List.map_snd_zip]
    exact Nat.le_of_eq publishing.aliases_length
  have itemsSplit : itemsOf (sortRows rows) = itemsOf (before.map Prod.fst) ++
      (pair.1.messageId, pair.1.name) :: itemsOf (rest.map Prod.fst) := by
    rw [rowsSplit]
    unfold itemsOf
    rw [List.map_append, List.map_cons]
  have outcome := uniqueAliases_kept publishing.aliased itemsSplit aliasesSplit (by
    unfold itemsOf
    rw [List.length_map, List.length_map, List.length_map]) (by
    intro item listed
    unfold itemsOf at listed
    rw [← List.map_append] at listed
    rcases List.mem_map.mp listed with ⟨row, among, rfl⟩
    have ids := publishing.sorted_ids
    rw [rowsSplit, List.map_append, List.map_cons, List.nodup_middle, List.nodup_cons, ← List.map_append] at ids
    have different : row ≠ entry.2 := by
      rintro rfl
      rw [same] at among
      exact ids.1 (List.mem_map_of_mem among)
    have listedRow : row ∈ placed.map Prod.snd := by
      rw [publishing.placed_rows, rowsSplit]
      rcases List.mem_append.mp among with front | back
      · exact List.mem_append_left _ front
      · exact List.mem_append_right _ (List.mem_cons_of_mem _ back)
    rcases List.mem_map.mp listedRow with ⟨other, placed_, rfl⟩
    rw [← same]
    refine alone other placed_ ?_
    intro equal
    exact different (congrArg Prod.snd (publishing.entry_eq placed_ member equal)))
  rcases outcome with own | ⟨earlier, zipped, -, lower⟩
  · refine ⟨pair, inside, ?_⟩
    rw [own, same]
  · have shown : earlier.2 ∈ ((sortRows rows).zip aliases).map Prod.snd := by
      rw [List.map_snd_zip (Nat.le_of_eq publishing.aliases_length), aliasesSplit]
      exact List.mem_append_left _ (List.of_mem_zip zipped).2
    rcases List.mem_map.mp shown with ⟨other, among, equal⟩
    refine ⟨other, among, ?_⟩
    rw [equal, lower, same]

/-- The paths that are listed afterwards. -/
def paths (state : State Details) (folder : Path) (rows : List (Row Details)) (complete : Bool)
    (placed : List (Path × Row Details)) : List Path :=
  state.index.kept folder (sortRows rows) complete ++ placed.map Prod.fst

theorem paths_lower : ((paths state folder rows complete placed).map table.lowercase).Nodup := by
  rcases placeRows_distinct publishing.done with ⟨distinct, free⟩
  unfold paths
  rw [List.map_append, List.nodup_append]
  refine ⟨?_, ?_, ?_⟩
  · exact publishing.previous.distinct.sublist (List.Sublist.map _ List.filter_sublist)
  · rw [List.map_map]
    exact distinct
  · intro one inside other inside' same
    rcases List.mem_map.mp inside' with ⟨path, placed_, rfl⟩
    rcases List.mem_map.mp placed_ with ⟨entry, there, rfl⟩
    exact free entry there (same ▸ inside)

omit publishing in
theorem after_children (folderId : Option Int) : (after state folderId folder rows complete placed).index.children folder =
    some (paths state folder rows complete placed) := by
  change Function.update _ folder _ folder = _
  exact Function.update_self ..

theorem alias_taken {pair : Row Details × Name} (member : pair ∈ (sortRows rows).zip aliases) :
    Exists fun other => other ∈ paths state folder rows complete placed ∧
      table.lowercase other = table.lowercase (below folder pair.2) := by
  rcases placeRows_taken publishing.done member with kept | ⟨entry, inside, same⟩
  · rcases List.mem_map.mp kept with ⟨other, inside, same⟩
    exact ⟨other, List.mem_append_left _ inside, same⟩
  · exact ⟨entry.1, List.mem_append_right _ (List.mem_map_of_mem inside), same⟩

/-- A row whose name no other path has keeps it, unless a numbered name has taken it. -/
theorem placed_kept {folderId : Option Int} {entry : Path × Row Details} (member : entry ∈ placed)
    (alone : forall other, other ∈ paths state folder rows complete placed -> other ≠ entry.1 ->
      table.lowercase ((after state folderId folder rows complete placed).nameAt other) ≠
        table.lowercase ((after state folderId folder rows complete placed).nameAt entry.1)) :
    entry.1 = below folder ((after state folderId folder rows complete placed).nameAt entry.1) ∨
      Exists fun other => other ∈ paths state folder rows complete placed ∧ other ≠ entry.1 ∧
        Displaced (after state folderId folder rows complete placed) folder other ∧
        table.lowercase other =
          table.lowercase (below folder ((after state folderId folder rows complete placed).nameAt entry.1)) := by
  by_cases own : entry.1 = below folder ((after state folderId folder rows complete placed).nameAt entry.1)
  · exact Or.inl own
  · rcases publishing.named_pair member (by
      intro other inside different
      have apart_ := alone other.1 (List.mem_append_right _ (List.mem_map_of_mem inside)) different
      rw [publishing.placed_name inside, publishing.placed_name member] at apart_
      exact apart_) with ⟨pair, inside, lower⟩
    rcases publishing.alias_taken inside with ⟨other, listed, same⟩
    have taken : table.lowercase other =
        table.lowercase (below folder ((after state folderId folder rows complete placed).nameAt entry.1)) := by
      rw [same, publishing.placed_name member]
      exact lowercase_below_inj.mpr lower
    have different : other ≠ entry.1 := by
      rintro rfl
      rcases publishing.entry_named member with ⟨shown, path, numbered⟩
      rw [publishing.placed_name member] at taken own
      rw [path] at taken own
      rcases numbered.lowercase table with whole | longer
      · exact own (by rw [whole])
      · rw [lowercase_below_inj.mp taken] at longer
        exact Nat.lt_irrefl _ longer
    refine Or.inr ⟨other, listed, different, ?_, taken⟩
    intro whole
    refine alone other listed different ?_
    rw [whole] at taken
    exact lowercase_below_inj.mp taken

theorem kept_kept {folderId : Option Int} (settled : Settled table state folder rows complete) {path : Path}
    (member : path ∈ state.index.kept folder (sortRows rows) complete)
    (alone : forall other, other ∈ paths state folder rows complete placed -> other ≠ path ->
      table.lowercase ((after state folderId folder rows complete placed).nameAt other) ≠
        table.lowercase ((after state folderId folder rows complete placed).nameAt path)) :
    path = below folder ((after state folderId folder rows complete placed).nameAt path) ∨
      Exists fun other => other ∈ paths state folder rows complete placed ∧ other ≠ path ∧
        Displaced (after state folderId folder rows complete placed) folder other ∧
        table.lowercase other =
          table.lowercase (below folder ((after state folderId folder rows complete placed).nameAt path)) := by
  rw [publishing.kept_name member]
  by_cases own : path = below folder (state.nameAt path)
  · exact Or.inl own
  · rcases settled path member own with ⟨other, inside, different, same⟩ | ⟨row, inside, same⟩ |
      ⟨other, inside, different, displaced, taken⟩
    · refine (alone other (List.mem_append_left _ inside) different ?_).elim
      rw [publishing.kept_name inside, publishing.kept_name member]
      exact same
    · have listed : row ∈ placed.map Prod.snd := by
        rw [publishing.placed_rows]
        exact (sortRows_perm rows).mem_iff.mpr inside
      rcases List.mem_map.mp listed with ⟨entry, placed_, rfl⟩
      have inside' : entry.1 ∈ placed.map Prod.fst := List.mem_map_of_mem placed_
      refine (alone entry.1 (List.mem_append_right _ inside') ?_ ?_).elim
      · rintro rfl
        exact publishing.apart member inside'
      · rw [publishing.kept_name member, publishing.placed_name placed_]
        exact same
    · refine Or.inr ⟨other, List.mem_append_left _ inside, different, ?_, taken⟩
      unfold Displaced at displaced ⊢
      rw [publishing.kept_name inside]
      exact displaced

theorem once {folderId : Option Int} : ((paths state folder rows complete placed).map
    (after state folderId folder rows complete placed).index.messageAt).Nodup := by
  have keptSame : (state.index.kept folder (sortRows rows) complete).map
      (after state folderId folder rows complete placed).index.messageAt =
      (state.index.kept folder (sortRows rows) complete).map state.index.messageAt :=
    List.map_congr_left fun path member => (publishing.kept_same member).2
  have placedSame : (placed.map Prod.fst).map (after state folderId folder rows complete placed).index.messageAt =
      ((sortRows rows).map Row.messageId).map some := by
    rw [← publishing.placed_rows, List.map_map, List.map_map, List.map_map]
    exact List.map_congr_left fun entry member => (publishing.placed_here member).2
  unfold paths
  rw [List.map_append, keptSame, placedSame, List.nodup_append]
  refine ⟨?_, ?_, ?_⟩
  · exact publishing.previous.once.sublist (List.Sublist.map _ List.filter_sublist)
  · exact publishing.sorted_ids.map fun _ _ => Option.some.inj
  · intro one inside other inside' same
    rcases List.mem_map.mp inside with ⟨path, kept, rfl⟩
    rcases List.mem_map.mp inside' with ⟨messageId, fresh, rfl⟩
    have refreshed : state.index.refreshed ((sortRows rows).map Row.messageId) path = true := by
      unfold Index.refreshed
      rw [same]
      exact decide_eq_true fresh
    have stays := kept_fresh kept
    rw [refreshed, Bool.or_true] at stays
    cases stays

theorem listed (folderId : Option Int) (roomy : RoomyListing table state folder rows complete)
    (settled : Settled table state folder rows complete) :
    Listed table (after state folderId folder rows complete placed) folder
      (paths state folder rows complete placed) := by
  have previous := publishing.previous
  constructor
  · intro path member
    rcases List.mem_append.mp member with kept | new
    · rw [publishing.kept_name kept]
      exact previous.named path (kept_previous kept)
    · rcases List.mem_map.mp new with ⟨entry, inside, rfl⟩
      rw [publishing.placed_name inside]
      rcases publishing.entry_named inside with ⟨shown, same, numbered⟩
      exact ⟨shown, same, numbered, numbered.plain (sanitizeName_plain _)⟩
  · exact publishing.paths_lower
  · intro path member
    rcases List.mem_append.mp member with kept | new
    · rw [(publishing.kept_same kept).2]
      exact previous.files path (kept_previous kept)
    · rcases List.mem_map.mp new with ⟨entry, inside, rfl⟩
      rw [(publishing.placed_here inside).2]
      exact Option.some_ne_none _
  · exact publishing.once
  · intro path member alone
    rcases List.mem_append.mp member with kept | new
    · exact publishing.kept_kept settled kept alone
    · rcases List.mem_map.mp new with ⟨entry, inside, rfl⟩
      exact publishing.placed_kept inside alone
  · intro path member shown same
    rcases List.mem_append.mp member with kept | new
    · exact previous.writable path (kept_previous kept) shown same
    · rcases List.mem_map.mp new with ⟨entry, inside, rfl⟩
      have accepted := (uniqueAliases_writable publishing.aliased).mpr roomy.aliases
      rcases placeRows_fit (roomy.paths aliases publishing.aliased) publishing.done (by
        intro pair zipped
        exact validatePortableName_ok.mp (accepted pair.2 (List.of_mem_zip zipped).2)) entry inside with
        ⟨name, path, clean, short⟩
      rw [path] at same
      cases below_inj.mp same
      exact validatePortableName_ok.mpr ⟨clean, short⟩

end Publishing

end WebDav
end TelegramDrive
