import TelegramDrive.Workspace.PreviewCache

namespace TelegramDrive
namespace Workspace

/-!
# The cache stays within its budget

A pool is charged for its live reservations and for its files that are neither kept nor
owned by a live reservation.  Pruning counts at least that much, since a file under two
directories is counted twice, and takes off what it deletes; so a reservation that is
granted leaves the charge within the limit.  Publishing turns a reservation into a file of
the reserved size in the same pool.
-/

namespace CacheLayout

variable (layout : CacheLayout)

/-! ## Pools -/

/-- A directory that is a prefix of a longer path is one of the shorter path, or goes
beyond it. -/
theorem isPrefixOf_append {root before after : List String} (apart : before <+: root -> root = before) :
    root.isPrefixOf (before ++ after) = root.isPrefixOf before := by
  rw [Bool.eq_iff_iff, List.isPrefixOf_iff_prefix, List.isPrefixOf_iff_prefix]
  constructor
  · intro below
    rcases List.prefix_or_prefix_of_prefix below (List.prefix_append before after) with inside | beyond
    · exact inside
    · have same := apart beyond
      subst same
      exact List.prefix_refl root
  · intro inside
    exact inside.trans (List.prefix_append before after)

theorem prefix_base : layout.previews <+: layout.base := List.prefix_append _ _

theorem poolIn_library (folder name : String) : layout.poolIn (layout.base ++ [folder, name]) = layout.poolIn layout.base := by
  have whole : layout.normalize (layout.base ++ [folder, name]) = layout.base ++ [folder, name] :=
    layout.canonical _ (layout.prefix_base.trans (List.prefix_append _ _))
  have short : layout.normalize layout.base = layout.base := layout.canonical _ layout.prefix_base
  have legacy : layout.legacyThumbnails.filter (·.1.isPrefixOf (layout.base ++ [folder, name])) =
      layout.legacyThumbnails.filter (·.1.isPrefixOf layout.base) := by
    apply List.filter_congr
    intro pair member
    apply isPrefixOf_append
    exact layout.undivided pair.1 (List.mem_append_right _ (List.mem_map_of_mem member))
  have roots : layout.roots.filter (·.isPrefixOf (layout.base ++ [folder, name])) =
      layout.roots.filter (·.isPrefixOf layout.base) := by
    apply List.filter_congr
    intro root member
    apply isPrefixOf_append
    exact layout.undivided root (List.mem_append_left _ member)
  unfold poolIn
  dsimp only
  rw [whole, short, legacy, roots]
  cases (layout.legacyThumbnails.filter (·.1.isPrefixOf layout.base)).argmax (·.1.length) with
  | some pair => rfl
  | none =>
    dsimp only
    have registered : layout.previews ∈ layout.roots.filter (·.isPrefixOf layout.base) :=
      List.mem_filter.mpr ⟨layout.registered, List.isPrefixOf_iff_prefix.mpr layout.prefix_base⟩
    cases longest : (layout.roots.filter (·.isPrefixOf layout.base)).argmax List.length with
    | none =>
      rw [List.argmax_eq_none.mp longest] at registered
      cases registered
    | some root =>
      -- the root is the directory of the previews or the library's own
      have long := List.le_of_mem_argmax registered longest
      rcases List.isPrefixOf_iff_prefix.mp (List.mem_filter.mp (List.argmax_mem longest)).2 with ⟨rest, split⟩
      have size : root.length + rest.length = layout.previews.length + 1 := by
        rw [← List.length_append, split]
        exact List.length_append
      rw [Option.getD_some, Option.getD_some, ← split, List.append_assoc, List.drop_left' rfl, List.drop_left' rfl]
      have few : rest.length ≤ 1 := by omega
      cases rest with
      | nil => rfl
      | cons first rest =>
        cases rest with
        | nil =>
          have last : first = "android-library" := by
            have ends := congrArg List.getLast? split
            unfold base at ends
            rw [List.getLast?_append, List.getLast?_append] at ends
            exact Option.some.inj ends
          rw [last]
          rfl
        | cons second rest =>
          rw [List.length_cons, List.length_cons] at few
          omega

theorem poolIn_covers {path : CacheDirectory} (canonical : layout.normalize path = path) :
    (layout.poolIn path).root.isPrefixOf path = true ∨
      (layout.poolIn path).thumbnail = true ∧ Exists fun directory =>
        (directory, (layout.poolIn path).root) ∈ layout.legacyThumbnails ∧ directory.isPrefixOf path = true := by
  unfold poolIn
  dsimp only
  rw [canonical]
  cases longest : (layout.legacyThumbnails.filter (·.1.isPrefixOf path)).argmax (·.1.length) with
  | some pair =>
    rcases List.mem_filter.mp (List.argmax_mem longest) with ⟨member, above⟩
    exact Or.inr ⟨rfl, pair.1, member, above⟩
  | none =>
    left
    dsimp only
    cases root : (layout.roots.filter (·.isPrefixOf path)).argmax List.length with
    | none => exact List.isPrefixOf_iff_prefix.mpr (List.prefix_refl _)
    | some root => exact (List.mem_filter.mp (List.argmax_mem root)).2

end CacheLayout

/-! ## Pins -/

variable {files : CacheFiles} {path : CachePath}

/-- The deletion of a file that is not kept changes nothing about what is kept. -/
theorem kept_erase (files : CacheFiles) {gone : CachePath} (loose : kept files gone = false) (path : CachePath) :
    kept (files.erase gone) path = kept files path := by
  unfold kept at *
  rw [Bool.or_eq_false_iff, beq_eq_false_iff_ne] at loose
  rw [Table.find?_erase, if_neg]
  intro same
  apply loose.1
  rw [← same]
  rfl

namespace CacheState

/-- What a pool is charged for a file. -/
def counts (layout : CacheLayout) (state : CacheState) (files : CacheFiles) (pool : Pool) (file : CachedFile) : Bool :=
  decide (layout.poolIn file.path.components = pool) && !kept files file.path && !state.owned file.path

/-- The files a pool is charged for. -/
def loose (layout : CacheLayout) (state : CacheState) (files : CacheFiles) (pool : Pool) : Nat :=
  files.weight (state.counts layout files pool) CachedFile.bytes

/-- The reservations and files of a pool. -/
def total (layout : CacheLayout) (state : CacheState) (pool : Pool) : Nat :=
  state.reserved pool + state.loose layout state.files pool

variable (layout : CacheLayout) (state : CacheState)

theorem counts_erase (files : CacheFiles) {gone : CachePath} (kept : kept files gone = false) (pool : Pool) :
    state.counts layout (files.erase gone) pool = state.counts layout files pool := by
  funext file
  unfold counts
  rw [kept_erase files kept]

/-! ## Pruning -/

variable {cap incoming used : Nat} {preserve : Option CachePath} {faults : CacheFaults} {listed : List CachedFile}
  {layout state}

theorem pruneFiles_spares {spared : CachedFile} (same : forall file, file ∈ listed -> file.path = spared.path ->
      file = spared) (passes : state.spares files preserve spared = true)
    (there : files.find? spared.path = some spared) :
    (state.pruneFiles cap incoming preserve faults listed used files).2.find? spared.path = some spared := by
  induction listed generalizing used files with
  | nil => exact there
  | cons file rest ih =>
    have later : forall other, other ∈ rest -> other.path = spared.path -> other = spared :=
      fun other member => same other (List.mem_cons_of_mem _ member)
    unfold pruneFiles
    split
    · exact there
    · split
      · exact ih later passes there
      next goes =>
        split
        · exact there
        · have apart : spared.path ≠ file.path := by
            intro equal
            rw [same file List.mem_cons_self equal.symm] at goes
            exact goes passes
          have unkept : kept files file.path = false := by
            unfold spares at goes
            rw [Bool.or_eq_true, Bool.or_eq_true, Bool.or_eq_true, not_or, not_or, not_or] at goes
            exact Bool.eq_false_iff.mpr goes.1.1.1
          apply ih later
          · unfold spares at passes ⊢
            rw [kept_erase files unkept]
            exact passes
          · rw [Table.find?_erase, if_neg apart]
            exact there

theorem pruneFiles_within {pool : Pool} {left : Nat}
    (listed_pool : forall file, file ∈ listed -> layout.poolIn file.path.components = pool)
    (same : forall file, file ∈ listed -> forall other, files.find? file.path = some other -> other = file)
    (covers : state.reserved pool + state.loose layout files pool ≤ used)
    (done : (state.pruneFiles cap incoming preserve faults listed used files).1 = .ok left) :
    state.reserved pool + state.loose layout
      (state.pruneFiles cap incoming preserve faults listed used files).2 pool + incoming ≤ cap := by
  induction listed generalizing used files with
  | nil =>
    unfold pruneFiles at done ⊢
    dsimp only at done ⊢
    split at done
    · cases done
    · omega
  | cons file rest ih =>
    have laterPool : forall other, other ∈ rest -> layout.poolIn other.path.components = pool :=
      fun other member => listed_pool other (List.mem_cons_of_mem _ member)
    have later : forall other, other ∈ rest -> forall found, files.find? other.path = some found -> found = other :=
      fun other member => same other (List.mem_cons_of_mem _ member)
    unfold pruneFiles at done ⊢
    split at done
    next fits =>
      rw [if_pos fits]
      dsimp only
      omega
    next large =>
      rw [if_neg large]
      split at done
      next stays =>
        rw [if_pos stays]
        exact ih laterPool later covers done
      next goes =>
        rw [if_neg goes]
        split at done
        · cases done
        next removed =>
          rw [if_neg removed]
          rw [Bool.or_eq_true, not_or, Option.isNone_iff_eq_none] at removed
          cases found : files.find? file.path with
          | none => exact absurd found removed.2
          | some other =>
            have its := same file List.mem_cons_self other found
            rw [its] at found
            unfold spares at goes
            rw [Bool.or_eq_true, Bool.or_eq_true, Bool.or_eq_true, not_or, not_or, not_or] at goes
            have unkept : kept files file.path = false := Bool.eq_false_iff.mpr goes.1.1.1
            have free : state.owned file.path = false := by
              have absent : state.paths.find? file.path = none := by
                rw [← Option.not_isSome_iff_eq_none]
                exact goes.1.2
              unfold owned
              rw [absent]
              rfl
            have counted : state.counts layout files pool file = true := by
              unfold counts
              rw [listed_pool file List.mem_cons_self, unkept, free, decide_eq_true rfl]
              rfl
            have shares : state.loose layout files pool =
                state.loose layout (files.erase file.path) pool + file.bytes := by
              unfold loose
              rw [files.weight_erase file.path, found, Option.filter_some, if_pos counted,
                counts_erase layout state files unkept]
              rfl
            apply ih laterPool ?_ ?_ done
            · intro next member found
              rw [Table.find?_erase]
              split
              · exact fun impossible => by cases impossible
              · exact later next member found
            · omega

/-! ## What pruning sees -/

theorem mem_entries {directory : CacheDirectory} {file : CachedFile} :
    file ∈ entries files directory ↔ file ∈ files.items ∧ directory.isPrefixOf file.path.components = true := by
  unfold entries
  rw [List.mem_filter]

theorem mem_poolFiles {pool : Pool} {file : CachedFile} (member : file ∈ state.poolFiles layout pool) :
    file ∈ state.files.items ∧ layout.poolIn file.path.components = pool := by
  unfold poolFiles at member
  rcases List.mem_filter.mp member with ⟨walked, inside⟩
  refine ⟨?_, of_decide_eq_true inside⟩
  rcases List.mem_append.mp walked with below | legacy
  · exact (mem_entries.mp below).1
  · split at legacy
    · rcases List.mem_flatMap.mp legacy with ⟨pair, -, below⟩
      exact (mem_entries.mp below).1
    · cases legacy

theorem poolFiles_complete (canonical : layout.Canonical state.files) {file : CachedFile}
    (member : file ∈ state.files.items) :
    file ∈ state.poolFiles layout (layout.poolIn file.path.components) := by
  unfold poolFiles
  refine List.mem_filter.mpr ⟨?_, decide_eq_true rfl⟩
  rcases layout.poolIn_covers (canonical file member) with below | ⟨thumbnail, directory, legacy, below⟩
  · exact List.mem_append_left _ (mem_entries.mpr ⟨member, below⟩)
  · apply List.mem_append_right
    rw [if_pos thumbnail]
    refine List.mem_flatMap.mpr ⟨_, List.mem_filter.mpr ⟨legacy, decide_eq_true rfl⟩, ?_⟩
    exact mem_entries.mpr ⟨member, below⟩

theorem prune_spares {directory : CacheDirectory} {spared : CachedFile}
    (there : state.files.find? spared.path = some spared) (spares : state.spares state.files preserve spared = true) :
    (state.prune layout directory cap incoming preserve faults).2.find? spared.path = some spared := by
  unfold prune
  split
  · exact there
  · apply pruneFiles_spares ?_ spares there
    intro file member same
    have inside := (mem_poolFiles (List.mem_mergeSort.mp member)).1
    have found := Table.find?_of_mem inside
    rw [same, there, Option.some.injEq] at found
    exact found.symm

theorem prune_within (canonical : layout.Canonical state.files) {directory : CacheDirectory} {left : Nat}
    (done : (state.prune layout directory cap incoming preserve faults).1 = .ok left) :
    state.reserved (layout.poolIn directory) + state.loose layout
      (state.prune layout directory cap incoming preserve faults).2 (layout.poolIn directory) + incoming ≤ cap := by
  unfold prune at done ⊢
  split at done
  · cases done
  next walks =>
    rw [if_neg walks]
    apply pruneFiles_within ?_ ?_ ?_ done
    · intro file member
      exact (mem_poolFiles (List.mem_mergeSort.mp member)).2
    · intro file member other found
      have inside := (mem_poolFiles (List.mem_mergeSort.mp member)).1
      rw [Table.find?_of_mem inside, Option.some.injEq] at found
      exact found.symm
    · apply Nat.add_le_add_left
      have complete : state.loose layout state.files (layout.poolIn directory) ≤
          (((state.poolFiles layout (layout.poolIn directory)).filter
            (state.counts layout state.files (layout.poolIn directory))).map CachedFile.bytes).sum := by
        apply Table.weight_le_listed
        intro file member counted
        unfold counts at counted
        rw [Bool.and_eq_true, Bool.and_eq_true, decide_eq_true_eq] at counted
        rw [← counted.1.1]
        exact poolFiles_complete canonical member
      refine Nat.le_trans complete (Nat.le_of_eq ?_)
      congr 2
      apply List.filter_congr
      intro file member
      unfold counts
      rw [(mem_poolFiles member).2, decide_eq_true rfl, Bool.true_and]

theorem pruneFiles_subset {file : CachedFile} (member : file ∈
    (state.pruneFiles cap incoming preserve faults listed used files).2.items) : file ∈ files.items := by
  induction listed generalizing used files with
  | nil => exact member
  | cons first rest ih =>
    unfold pruneFiles at member
    split at member
    · exact member
    · split at member
      · exact ih member
      · split at member
        · exact member
        · exact (List.mem_filter.mp (ih member)).1

theorem prune_subset {directory : CacheDirectory} {file : CachedFile} (member : file ∈
    (state.prune layout directory cap incoming preserve faults).2.items) : file ∈ state.files.items := by
  unfold prune at member
  split at member
  · exact member
  · exact pruneFiles_subset member

/-! ## Reserving -/

/-- A reservation that is granted: nothing above its directory is being cleared, and the
pool stays within its limit. -/
theorem reserve_ok (canonical : layout.Canonical state.files) {directory : CacheDirectory} {token : String}
    {bytes epoch : Nat} {next : CacheState}
    (granted : state.reserve layout directory token bytes faults = (.ok epoch, next)) :
    state.clearingAbove directory = false ∧ epoch = state.epoch layout directory ∧
      (Exists fun files : CacheFiles => (forall file, file ∈ files.items -> file ∈ state.files.items) ∧
        next = { state with
          files := files
          reservations := state.reservations.insert ⟨token, layout.poolIn directory, bytes⟩
          log := .reserved token directory :: state.log }) ∧
      next.total layout (layout.poolIn directory) ≤ next.limit (layout.poolIn directory) := by
  unfold reserve at granted
  dsimp only at granted
  split at granted
  · cases granted
  next open_ =>
    split at granted
    · cases granted
    · split at granted
      · cases granted
      next left pruned =>
        cases granted
        have within := prune_within canonical pruned
        refine ⟨Bool.eq_false_iff.mpr open_, rfl, ⟨_, fun file member => prune_subset member, rfl⟩, ?_⟩
        refine Nat.le_trans ?_ within
        unfold total
        generalize (state.prune layout directory (state.limit (layout.poolIn directory)) bytes none faults).2 = files
        have reservations : reserved { state with
            files := files
            reservations := state.reservations.insert ⟨token, layout.poolIn directory, bytes⟩
            log := .reserved token directory :: state.log } (layout.poolIn directory) ≤
              state.reserved (layout.poolIn directory) + bytes := by
          unfold reserved
          rw [Table.weight_insert, if_pos (decide_eq_true rfl)]
          apply Nat.add_le_add_right
          rw [state.reservations.weight_erase token]
          exact Nat.le_add_right _ _
        have others : loose layout { state with
            files := files
            reservations := state.reservations.insert ⟨token, layout.poolIn directory, bytes⟩
            log := .reserved token directory :: state.log } files (layout.poolIn directory) ≤
              state.loose layout files (layout.poolIn directory) := by
          apply Table.weight_mono
          intro file _ counted
          unfold counts at counted ⊢
          rw [Bool.and_eq_true] at counted ⊢
          refine ⟨counted.1, ?_⟩
          rw [Bool.not_eq_true'] at *
          unfold owned at counted ⊢
          rw [Option.any_eq_false] at *
          intro owner found
          have unreserved := counted.2 owner found
          rw [Table.find?_insert] at unreserved
          split at unreserved
          · cases unreserved
          · exact unreserved
        refine Nat.le_trans (Nat.add_le_add reservations others) ?_
        omega

/-! ## Publishing -/

/-- A reservation that is reserved: its charge, its pool, and the path it owns. -/
structure Backed (layout : CacheLayout) (state : CacheState) (held : Reservation) : Prop where
  record : state.reservations.find? held.token = some ⟨held.token, layout.poolIn held.root, held.expected⟩
  owns : state.paths.find? held.part = some ⟨held.part, held.token⟩
  sole : forall owner, owner ∈ state.paths.items -> owner.token = held.token -> owner.path = held.part
  target : layout.poolIn held.target.components = layout.poolIn held.root
  part : held.part.extension = some "part"

theorem withExtension_pin_ne {one : CachePath} (part : one.extension = some "part") (path : CachePath) :
    path.withExtension "pin" ≠ one := by
  intro same
  rw [← same] at part
  exact absurd (Option.some.inj part) (by decide)

/-- The state after a publication. -/
def published (layout : CacheLayout) (state : CacheState) (held : Reservation) (file : CachedFile) : CacheState :=
  { state with
    files := (state.files.erase held.part).insert { file with path := held.target }
    paths := state.paths.erase held.part
    reservations := state.reservations.erase held.token
    log := .published held.token (layout.poolIn held.root) :: state.log }

theorem finish_cases (layout : CacheLayout) (state : CacheState) (held : Reservation) (faults : CacheFaults) :
    (state.finish layout held faults).2 = state ∨
      (Exists fun file => state.files.find? held.part = some file ∧ file.bytes = held.expected ∧
        (state.finish layout held faults).2 = state.published layout held file) ∧
      state.check layout held.root held.token held.epoch = .ok () := by
  unfold finish
  cases checked : state.check layout held.root held.token held.epoch with
  | error error => exact Or.inl rfl
  | ok done =>
    dsimp only
    cases found : state.files.find? held.part with
    | none => exact Or.inl rfl
    | some file =>
      dsimp only
      split
      · exact Or.inl rfl
      next size =>
        split
        · exact Or.inl rfl
        · exact Or.inr ⟨⟨file, rfl, not_not.mp size, rfl⟩, rfl⟩

/-- A file that counts after a publication, and is not the published one, counted before. -/
theorem counts_published {held : Reservation} {file other : CachedFile} (backed : state.Backed layout held)
    {pool : Pool} (elsewhere : other.path ≠ held.part)
    (counted : (state.published layout held file).counts layout (state.published layout held file).files pool other =
      true) :
    state.counts layout state.files pool other = true := by
  unfold counts at counted ⊢
  rw [Bool.and_eq_true, Bool.and_eq_true, Bool.not_eq_true', Bool.not_eq_true'] at counted ⊢
  rcases counted with ⟨⟨inside, unkept⟩, unowned⟩
  refine ⟨⟨inside, ?_⟩, ?_⟩
  · unfold kept at unkept ⊢
    rw [Bool.or_eq_false_iff] at unkept ⊢
    refine ⟨unkept.1, ?_⟩
    have pins := unkept.2
    unfold published at pins
    dsimp only at pins
    rw [Table.find?_insert] at pins
    split at pins
    · cases pins
    · rw [Table.find?_erase, if_neg (withExtension_pin_ne backed.part other.path)] at pins
      exact pins
  · unfold owned published at unowned
    dsimp only at unowned
    rw [Table.find?_erase, if_neg elsewhere, Option.any_eq_false] at unowned
    unfold owned
    rw [Option.any_eq_false]
    intro owner found
    have free := unowned owner found
    rw [Table.find?_erase] at free
    split at free
    next same =>
      have place := backed.sole owner (Table.find?_eq_some.mp found).1 same
      rw [Table.key_of_find? found] at place
      exact absurd place elsewhere
    · exact free

/-- Publishing a reservation of its declared size does not increase a charge. -/
theorem published_total {held : Reservation} {file : CachedFile} (backed : state.Backed layout held)
    (size : file.bytes = held.expected) (pool : Pool) :
    (state.published layout held file).total layout pool ≤ state.total layout pool := by
  have before : state.reserved pool = (state.published layout held file).reserved pool +
      if layout.poolIn held.root = pool then held.expected else 0 := by
    unfold reserved published
    dsimp only
    rw [state.reservations.weight_erase held.token, backed.record, Option.filter_some]
    by_cases same : layout.poolIn held.root = pool
    · rw [if_pos (decide_eq_true same), if_pos same]
      rfl
    · rw [if_neg (by rw [decide_eq_true_eq]; exact same), if_neg same]
      rfl
  have counts := fun other => @counts_published layout state held file other backed pool
  have inside : forall other : CachedFile, (state.published layout held file).counts layout
      (state.published layout held file).files pool other = true -> layout.poolIn other.path.components = pool := by
    intro other counted
    rw [CacheState.counts, Bool.and_eq_true, Bool.and_eq_true, decide_eq_true_eq] at counted
    exact counted.1.1
  have files : (state.published layout held file).loose layout (state.published layout held file).files pool ≤
      state.loose layout state.files pool + if layout.poolIn held.root = pool then held.expected else 0 := by
    have inserted : (state.published layout held file).files =
        (state.files.erase held.part).insert { file with path := held.target } := rfl
    unfold loose
    generalize (state.published layout held file).counts layout (state.published layout held file).files pool =
      after at counts inside
    rw [inserted, Table.weight_insert]
    apply Nat.add_le_add
    · have fewer : ((state.files.erase held.part).erase held.target).weight after CachedFile.bytes ≤
          ((state.files.erase held.part).erase held.target).weight (state.counts layout state.files pool)
            CachedFile.bytes := by
        apply Table.weight_mono
        intro other member counted
        refine counts other ?_ counted
        have outer := (List.mem_filter.mp member).1
        exact of_decide_eq_true (List.mem_filter.mp outer).2
      refine Nat.le_trans fewer ?_
      rw [state.files.weight_erase held.part, (state.files.erase held.part).weight_erase held.target, Nat.add_assoc]
      exact Nat.le_add_right _ _
    · split
      next counted =>
        have same := inside _ counted
        rw [backed.target] at same
        rw [if_pos same]
        exact Nat.le_of_eq size
      · exact Nat.zero_le _
  unfold total
  omega

end CacheState
end Workspace
end TelegramDrive
