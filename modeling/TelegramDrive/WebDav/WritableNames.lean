import TelegramDrive.WebDav.ListedNames

namespace TelegramDrive
namespace WebDav

/-!
# Names that can be written back

The index starts empty, the root is listed again and again, and folders are listed in full or
in part.  Below each folder the names stay in order as long as every listing leaves room for
its numbers and strands no kept path.
-/

section Runs

variable {Details : Type} {table : CaseTable}

/-- Every listed folder is in order, and the root lists folders. -/
structure Sound (table : CaseTable) (state : State Details) : Prop where
  folders : forall folder paths, isFolderPath folder = true -> state.index.children folder = some paths ->
    Listed table state folder paths
  root : forall paths, state.index.children ['/'] = some paths -> forall path, path ∈ paths -> isFolderPath path = true

/-- A listing leaves room for the numbers of its names and strands no kept path. -/
def Permitted (table : CaseTable) (state : State Details) : Event Details -> Prop
  | .publish _ folder rows complete =>
    RoomyListing table state folder rows complete ∧ Settled table state folder rows complete
  | _ => True

variable {state next : State Details}

theorem sound_bind (moved : state.step table .bind = some next) : Sound table next := by
  cases moved
  constructor
  · intro folder paths _ listed
    cases listed
  · intro paths listed
    cases listed

theorem Listed.deep {folder : Path} {paths : List Path} (isFolder : isFolderPath folder = true)
    (listed : Listed table state folder paths) {path : Path} (member : path ∈ paths) :
    isFolderPath path = false ∧ path ≠ ['/'] := by
  rcases listed.named path member with ⟨shown, rfl, -, -⟩
  exact below_not_folder isFolder shown

theorem isFolderPath_plain {shown : Name} (plain : Plain shown) : isFolderPath ('/' :: shown) = true := by
  show decide (shown ≠ [] ∧ '/' ∉ shown) = true
  exact decide_eq_true ⟨plain.named, plain.slash⟩

theorem sound_root {folders : List (Option Int × Name)} (sound : Sound table state)
    (moved : state.step table (.root folders) = some next) : Sound table next := by
  change (state.index.refreshRoot table folders).map _ = some next at moved
  rcases Option.map_eq_some_iff.mp moved with ⟨index, refreshed, rfl⟩
  unfold Index.refreshRoot at refreshed
  rcases Option.bind_eq_some_iff.mp refreshed with ⟨aliases, aliased, rest⟩
  cases rest
  have plain : forall shown, shown ∈ aliases -> Plain shown := by
    rcases uniqueAliases_shown table (folders.map fun folder => (folder.1.getD 0, folder.2)) with
      ⟨aliases', same, shown⟩
    cases aliased.symm.trans same
    exact shown.plain
  have placed : forall entry, entry ∈ (folders.zip aliases).map (fun folder =>
      (('/' :: folder.2 : Path), (Node.folder folder.1.1 : Node Details))) -> isFolderPath entry.1 = true := by
    intro entry member
    rcases List.mem_map.mp member with ⟨⟨⟨folderId, name⟩, shown⟩, zipped, rfl⟩
    exact isFolderPath_plain (plain shown (List.of_mem_zip zipped).2)
  constructor
  · intro folder paths isFolder listed
    dsimp only at listed
    have notRoot : folder ≠ ['/'] := by
      rintro rfl
      exact absurd isFolder (by decide)
    rw [Function.update_of_ne notRoot] at listed
    have before : state.index.children folder = some paths := by
      rcases removeAll_cases ((state.index.children ['/']).getD []) state.index.children folder with gone | same
      · rw [gone] at listed
        cases listed
      · exact same.symm.trans listed
    have old := sound.folders folder paths isFolder before
    refine old.congr (fun _ _ => rfl) ?_
    intro path member
    rcases old.deep isFolder member with ⟨deep, notSlash⟩
    unfold Index.messageAt
    dsimp only
    rw [putAll_other, removeAll_other]
    · intro removed
      cases rooted : state.index.children ['/'] with
      | none =>
        rw [rooted] at removed
        cases removed
      | some previous =>
        rw [rooted] at removed
        rw [sound.root previous rooted path removed] at deep
        cases deep
    · rw [List.map_cons, List.mem_cons, not_or]
      refine ⟨notSlash, ?_⟩
      intro inside
      rcases List.mem_map.mp inside with ⟨entry, among, rfl⟩
      rw [placed entry among] at deep
      cases deep
  · intro paths listed path member
    dsimp only at listed
    rw [Function.update_self] at listed
    cases listed
    rcases List.mem_map.mp member with ⟨entry, among, rfl⟩
    exact placed entry among

/-- Listing a folder keeps the other folders as they are. -/
theorem sound_publish {folderId : Option Int} {folder : Path} {rows : List (Row Details)}
    {complete : Bool} (sound : Sound table state)
    (permitted : Permitted table state (.publish folderId folder rows complete))
    (moved : state.step table (.publish folderId folder rows complete) = some next) : Sound table next := by
  change (if _ then _ else none) = some next at moved
  split at moved
  next enabled =>
    rcases enabled with ⟨isFolder, ids⟩
    rcases Option.map_eq_some_iff.mp moved with ⟨placed, done, rfl⟩
    rcases Option.bind_eq_some_iff.mp done with ⟨aliases, aliased, placing⟩
    have previous : Listed table state folder ((state.index.children folder).getD []) := by
      cases listed : state.index.children folder with
      | none => exact listed_nil
      | some paths => exact sound.folders folder paths isFolder listed
    have publishing : Publishing table state folder rows complete aliases placed := ⟨ids, previous, aliased, placing⟩
    constructor
    · intro other paths isFolder' listed
      by_cases same : other = folder
      · subst same
        change (Publishing.after state folderId other rows complete placed).index.children other = _ at listed
        rw [Publishing.after_children] at listed
        cases listed
        exact publishing.listed folderId permitted.1 permitted.2
      · change Function.update _ folder _ other = _ at listed
        rw [Function.update_of_ne same] at listed
        have old := sound.folders other paths isFolder' listed
        have untouched : forall path, path ∈ paths -> path ∉ placed.map Prod.fst ∧
            path ∉ (state.index.children folder).getD [] := by
          intro path member
          rcases old.named path member with ⟨shown, rfl, -, plain⟩
          constructor
          · intro inside
            rcases List.mem_map.mp inside with ⟨entry, there, equal⟩
            rcases publishing.entry_named there with ⟨name, path, numbered⟩
            rw [path] at equal
            exact same (below_folder (numbered.plain (sanitizeName_plain _)).slash plain.slash equal).symm
          · intro inside
            rcases previous.named _ inside with ⟨name, equal, -, plain'⟩
            exact same (below_folder plain.slash plain'.slash equal)
        refine old.congr ?_ ?_
        · intro path member
          exact (Publishing.elsewhere (untouched path member).1
            fun removed => (untouched path member).2 (List.mem_filter.mp removed).1).1
        · intro path member
          exact (Publishing.elsewhere (untouched path member).1
            fun removed => (untouched path member).2 (List.mem_filter.mp removed).1).2
    · intro paths listed path member
      have notRoot : ['/'] ≠ folder := by
        rintro rfl
        exact absurd isFolder (by decide)
      change Function.update _ folder _ ['/'] = _ at listed
      rw [Function.update_of_ne notRoot] at listed
      exact sound.root paths listed path member
  · cases moved

theorem sound_step {event : Event Details} (permitted : Permitted table state event)
    (sound : Sound table state) (moved : (machine table).step state event = some next) : Sound table next := by
  cases event with
  | bind => exact sound_bind moved
  | root folders => exact sound_root sound moved
  | publish folderId folder rows complete => exact sound_publish sound permitted moved

end Runs

/-! ## The result -/

end WebDav
end TelegramDrive
