import TelegramDrive.Workspace.CacheBudget

namespace TelegramDrive
namespace Workspace

/-!
# A cleared cache stays cleared

A reservation remembers the epoch of its pool.  Since it was granted, the epoch has
advanced by the number of clearings that began in the pool, so a reservation that passes
its check has seen none.  The counters of the directories that are being cleared agree with
the clearings under way.
-/

namespace CacheEntry

def reserves (token : String) : CacheEntry -> Bool
  | reserved other _ => other == token
  | _ => false

end CacheEntry

/-- What happened since the token was reserved. -/
def since (token : String) (log : List CacheEntry) : List CacheEntry :=
  log.takeWhile fun entry => !entry.reserves token

theorem since_cons {token : String} {entry : CacheEntry} (other : entry.reserves token = false)
    (log : List CacheEntry) : since token (entry :: log) = entry :: since token log := by
  unfold since
  rw [List.takeWhile_cons_of_pos (by rw [other]; rfl)]

/-- No clearing of the pool began between a reservation and its publication. -/
def Fresh (log : List CacheEntry) : Prop :=
  forall later token pool earlier, log = later ++ .published token pool :: earlier ->
    CacheEntry.cleared pool ∉ since token earlier

theorem Fresh.cons {log : List CacheEntry} {entry : CacheEntry} (fresh : Fresh log)
    (published : forall token pool, entry = .published token pool -> CacheEntry.cleared pool ∉ since token log) :
    Fresh (entry :: log) := by
  intro later token pool earlier same
  cases later with
  | nil =>
    rw [List.nil_append, List.cons.injEq] at same
    rw [← same.2]
    exact published token pool same.1
  | cons first later =>
    rw [List.cons_append, List.cons.injEq] at same
    exact fresh later token pool earlier same.2

namespace CacheState

/-- What holds of a reservation in hand, whether it was published or not. -/
structure Held (layout : CacheLayout) (state : CacheState) (held : Reservation) : Prop where
  root : held.root = layout.base
  target : Exists fun folder => held.target.directory = layout.base ++ [folder]
  part : held.part.extension = some "part"
  backed : (state.reservations.find? held.token).isSome = true ->
    state.reservations.find? held.token = some ⟨held.token, layout.poolIn held.root, held.expected⟩ ∧
      state.paths.find? held.part = some ⟨held.part, held.token⟩
  sole : forall owner, owner ∈ state.paths.items -> owner.token = held.token -> owner.path = held.part
  epoch : state.epochs (layout.poolIn held.root) =
    held.epoch + (since held.token state.log).count (.cleared (layout.poolIn held.root))

/-- The counters of the directories agree with the clearings under way. -/
def Counted (state : CacheState) : Prop :=
  forall directory, (state.clearing.find? directory).map Cleared.times =
    if state.cleaners.count directory = 0 then none else some (state.cleaners.count directory)

structure Sound (layout : CacheLayout) (state : CacheState) : Prop where
  canonical : layout.Canonical state.files
  tokens : (state.held.map Reservation.token).Nodup
  parts : (state.held.map Reservation.part).Nodup
  holds : forall held, held ∈ state.held -> state.Held layout held
  counted : state.Counted
  fresh : Fresh state.log

variable {layout : CacheLayout} {state next : CacheState} {held : Reservation}

/-! ## Frames -/

theorem Held.frame (elapsed : Nat) (holds : state.Held layout held)
    (backed : next.reservations.find? held.token = none ∨
      next.reservations.find? held.token = state.reservations.find? held.token ∧
        next.paths.find? held.part = state.paths.find? held.part)
    (sole : forall owner, owner ∈ next.paths.items -> owner.token = held.token -> owner ∈ state.paths.items)
    (epochs : next.epochs (layout.poolIn held.root) = state.epochs (layout.poolIn held.root) + elapsed)
    (log : (since held.token next.log).count (.cleared (layout.poolIn held.root)) =
      (since held.token state.log).count (.cleared (layout.poolIn held.root)) + elapsed) :
    next.Held layout held := by
  constructor
  · exact holds.root
  · exact holds.target
  · exact holds.part
  · intro reserved
    rcases backed with gone | ⟨same, path⟩
    · rw [gone] at reserved
      cases reserved
    · rw [same, path]
      rw [same] at reserved
      exact holds.backed reserved
  · intro owner member its
    exact holds.sole owner (sole owner member its) its
  · rw [epochs, log, holds.epoch, Nat.add_assoc]

theorem Sound.files {files : CacheFiles} (sound : state.Sound layout) (canonical : layout.Canonical files) :
    ({ state with files := files } : CacheState).Sound layout := by
  refine ⟨canonical, sound.tokens, sound.parts, ?_, sound.counted, sound.fresh⟩
  intro held member
  rcases sound.holds held member with ⟨root, target, part, backed, sole, epoch⟩
  exact ⟨root, target, part, backed, sole, epoch⟩

theorem Sound.subset {files : CacheFiles} (sound : state.Sound layout)
    (fewer : forall file, file ∈ files.items -> file ∈ state.files.items) :
    ({ state with files := files } : CacheState).Sound layout :=
  sound.files fun file member => sound.canonical file (fewer file member)

theorem Held.toBacked (holds : state.Held layout held) (reserved : (state.reservations.find? held.token).isSome = true) :
    state.Backed layout held := by
  rcases holds.backed reserved with ⟨record, owns⟩
  rcases holds.target with ⟨folder, directory⟩
  refine ⟨record, owns, holds.sole, ?_, holds.part⟩
  rw [CachePath.components, directory, holds.root, List.append_assoc]
  exact layout.poolIn_library folder held.target.name

variable {token : String} {directory : CacheDirectory}

theorem check_ok {epoch : Nat} (checked : state.check layout directory token epoch = .ok ()) :
    state.epochs (layout.poolIn directory) = epoch ∧ (state.reservations.find? token).isSome = true := by
  unfold check at checked
  dsimp only at checked
  split at checked
  · cases checked
  next accepted =>
    rw [Bool.or_eq_true, not_or, Bool.not_eq_true', Bool.not_eq_false, Option.isNone_iff_eq_none] at accepted
    constructor
    · have current := accepted.1
      unfold valid at current
      rw [Bool.and_eq_true, decide_eq_true_eq] at current
      exact current.1
    · exact Option.isSome_iff_ne_none.mpr accepted.2

/-! ## Granting a reservation -/

/-- The state after a grant. -/
def granted (layout : CacheLayout) (state : CacheState) (files : CacheFiles) (token : String)
    (directory : CacheDirectory) (bytes : Nat) : CacheState :=
  { state with
    files := files
    reservations := state.reservations.insert ⟨token, layout.poolIn directory, bytes⟩
    log := .reserved token directory :: state.log }

/-- The state after a download took its reservation. -/
def taken (layout : CacheLayout) (state : CacheState) (target part : CachePath) (token : String) (expected : Nat) :
    CacheState :=
  { state with
    paths := state.paths.insert ⟨part, token⟩
    held := ⟨layout.base, token, target, part, expected, state.epoch layout layout.base⟩ :: state.held }

theorem granted_sound {files : CacheFiles} {bytes : Nat}
    (sound : state.Sound layout) (fewer : forall file, file ∈ files.items -> file ∈ state.files.items)
    (drawn : forall held, held ∈ state.held -> held.token ≠ token) :
    (state.granted layout files token directory bytes).Sound layout := by
  refine ⟨fun file member => sound.canonical file (fewer file member), sound.tokens, sound.parts, ?_, sound.counted,
    sound.fresh.cons fun token pool impossible => by cases impossible⟩
  intro held member
  have other : CacheEntry.reserves held.token (.reserved token directory) = false :=
    beq_eq_false_iff_ne.mpr fun same => drawn held member same.symm
  refine Held.frame 0 (sound.holds held member) (Or.inr ⟨?_, rfl⟩) (fun _ inside _ => inside) rfl ?_
  · show (state.reservations.insert _).find? held.token = _
    rw [Table.find?_insert, if_neg (drawn held member)]
  · show (since held.token (_ :: state.log)).count _ = _
    rw [since_cons other, List.count_cons_of_ne (fun same => by cases same)]
    rfl

theorem taken_sound {target part : CachePath} {folder : String} {expected : Nat} {log : List CacheEntry}
    (sound : state.Sound layout) (directory : target.directory = layout.base ++ [folder])
    (extension : part.extension = some "part")
    (reserved : state.reservations.find? token = some ⟨token, layout.poolIn layout.base, expected⟩)
    (granted : state.log = .reserved token layout.base :: log)
    (drawn : forall held, held ∈ state.held -> held.token ≠ token)
    (apart : forall held, held ∈ state.held -> held.part ≠ part)
    (unowned : forall owner, owner ∈ state.paths.items -> owner.token ≠ token) :
    (state.taken layout target part token expected).Sound layout := by
  refine ⟨sound.canonical, ?_, ?_, ?_, sound.counted, sound.fresh⟩
  · refine List.nodup_cons.mpr ⟨?_, sound.tokens⟩
    intro listed
    rcases List.mem_map.mp listed with ⟨held, member, same⟩
    exact drawn held member same
  · refine List.nodup_cons.mpr ⟨?_, sound.parts⟩
    intro listed
    rcases List.mem_map.mp listed with ⟨held, member, same⟩
    exact apart held member same
  · intro held member
    rcases List.mem_cons.mp member with rfl | before
    · refine ⟨rfl, ⟨folder, directory⟩, extension, ?_, ?_, ?_⟩
      · intro _
        refine ⟨reserved, ?_⟩
        show (state.paths.insert ⟨part, token⟩).find? part = _
        rw [Table.find?_insert, if_pos rfl]
      · intro owner inside its
        rcases Table.mem_insert.mp inside with same | ⟨old, -⟩
        · rw [same]
        · exact absurd its (unowned owner old)
      · show state.epochs _ = state.epochs _ + (since token state.log).count _
        rw [granted, since, List.takeWhile_cons_of_neg]
        · rfl
        · rw [CacheEntry.reserves, beq_self_eq_true]
          decide
    · refine Held.frame 0 (sound.holds held before) (Or.inr ⟨rfl, ?_⟩) ?_ rfl rfl
      · show (state.paths.insert ⟨part, token⟩).find? held.part = _
        rw [Table.find?_insert, if_neg (apart held before)]
      · intro owner inside its
        rcases Table.mem_insert.mp inside with same | ⟨old, -⟩
        · rw [same] at its
          exact absurd its.symm (drawn held before)
        · exact old

/-- A call to reserve deletes files at most, or it is granted. -/
theorem reserve_cases (canonical : layout.Canonical state.files) (directory : CacheDirectory) (token : String)
    (bytes : Nat) (faults : CacheFaults) :
    Exists fun files : CacheFiles => (forall file, file ∈ files.items -> file ∈ state.files.items) ∧
      ((Exists fun error => state.reserve layout directory token bytes faults =
          (.error error, { state with files := files })) ∨
        state.reserve layout directory token bytes faults =
            (.ok (state.epoch layout directory), state.granted layout files token directory bytes) ∧
          state.clearingAbove directory = false ∧
          (state.granted layout files token directory bytes).total layout (layout.poolIn directory) ≤
            state.limit (layout.poolIn directory)) := by
  cases outcome : state.reserve layout directory token bytes faults with
  | mk result next =>
    cases result with
    | ok epoch =>
      rcases reserve_ok canonical outcome with ⟨above, same, ⟨files, fewer, after⟩, within⟩
      refine ⟨files, fewer, Or.inr ⟨?_, above, ?_⟩⟩
      · rw [same, after]
        rfl
      · rw [after] at within
        exact within
    | error error =>
      unfold reserve at outcome
      dsimp only at outcome
      split at outcome
      · cases outcome
        exact ⟨state.files, fun _ member => member, Or.inl ⟨_, rfl⟩⟩
      · split at outcome
        · cases outcome
          exact ⟨state.files, fun _ member => member, Or.inl ⟨_, rfl⟩⟩
        · split at outcome
          · cases outcome
            exact ⟨_, fun file member => prune_subset member, Or.inl ⟨_, rfl⟩⟩
          · cases outcome

/-- A path that nobody owns counts no less than an owned one. -/
theorem taken_total {target part : CachePath} {expected : Nat}
    (unowned : state.paths.find? part = none) (pool : Pool) :
    (state.taken layout target part token expected).total layout pool ≤ state.total layout pool := by
  apply Nat.add_le_add_left
  apply Table.weight_mono
  intro file _ counted
  unfold counts at counted ⊢
  rw [Bool.and_eq_true] at counted ⊢
  refine ⟨counted.1, ?_⟩
  have free := counted.2
  unfold owned taken at free
  dsimp only at free
  rw [Table.find?_insert] at free
  unfold owned
  split at free
  next same =>
    rw [same, unowned]
    rfl
  · exact free

/-- What a call to prepare a download does: it changes files at most, or it takes a
reservation that is granted. -/
theorem prepare_cases (canonical : layout.Canonical state.files) (owner : Int) (stem : String)
    (extension : Option String) (expected limit : Nat) (drawn : Drawn) (faults : CacheFaults) :
    Exists fun files : CacheFiles => layout.Canonical files ∧
      ((state.prepare layout owner stem extension expected limit drawn faults).2 = { state with files := files } ∨
        (forall file, file ∈ files.items -> file ∈ state.files.items) ∧
          (state.prepare layout owner stem extension expected limit drawn faults).2 =
            (state.granted layout files drawn.token layout.base expected).taken layout
              ⟨layout.base ++ [toString owner], stem, extension⟩
              (partOf ⟨layout.base ++ [toString owner], stem, extension⟩ drawn.unique) drawn.token expected ∧
          state.clearingAbove layout.base = false ∧
          (state.granted layout files drawn.token layout.base expected).total layout (layout.poolIn layout.base) ≤
            state.limit (layout.poolIn layout.base)) := by
  have reserves : forall middle : CacheFiles, (forall file, file ∈ middle.items -> file ∈ state.files.items) ->
      forall target, Exists fun files : CacheFiles => layout.Canonical files ∧
        ((({ state with files := middle } : CacheState).reserveTarget layout target expected drawn faults).2 =
            { state with files := files } ∨
          (forall file, file ∈ files.items -> file ∈ state.files.items) ∧
            (({ state with files := middle } : CacheState).reserveTarget layout target expected drawn faults).2 =
              (state.granted layout files drawn.token layout.base expected).taken layout target
                (partOf target drawn.unique) drawn.token expected ∧
            state.clearingAbove layout.base = false ∧
            (state.granted layout files drawn.token layout.base expected).total layout (layout.poolIn layout.base) ≤
              state.limit (layout.poolIn layout.base)) := by
    intro middle fewer target
    have still : layout.Canonical middle := fun file member => canonical file (fewer file member)
    unfold reserveTarget
    split
    · exact ⟨middle, still, Or.inl rfl⟩
    · dsimp only
      rcases @reserve_cases layout { state with files := middle } still layout.base drawn.token expected faults with
        ⟨files, less, ⟨error, failed⟩ | ⟨done, above, within⟩⟩
      · rw [failed]
        exact ⟨files, fun file member => still file (less file member), Or.inl rfl⟩
      · rw [done]
        exact ⟨files, fun file member => still file (less file member),
          Or.inr ⟨fun file member => fewer file (less file member), rfl, above, within⟩⟩
  unfold prepare
  dsimp only
  split
  · exact ⟨state.files, canonical, Or.inl rfl⟩
  · split
    · exact ⟨state.files, canonical, Or.inl rfl⟩
    · cases found : state.files.find? ⟨layout.base ++ [toString owner], stem, extension⟩ with
      | none => exact reserves state.files (fun _ member => member) _
      | some file =>
        dsimp only
        have inside := Table.find?_eq_some.mp found
        split
        · have pruned : layout.Canonical (state.prune layout layout.base limit 0
              (some ⟨layout.base ++ [toString owner], stem, extension⟩) faults).2 :=
            fun other member => canonical other (prune_subset member)
          split
          · exact ⟨_, pruned, Or.inl rfl⟩
          · split
            · exact ⟨_, pruned, Or.inl rfl⟩
            · refine ⟨_, ?_, Or.inl rfl⟩
              intro other member
              rcases Table.mem_insert.mp member with same | ⟨before, -⟩
              · rw [same]
                exact canonical file inside.1
              · exact pruned other before
        · split
          · exact ⟨state.files, canonical, Or.inl rfl⟩
          · exact reserves (state.files.erase _) (fun file member => (List.mem_filter.mp member).1) _

/-! ## Publishing, giving up, clearing -/

theorem published_sound {file : CachedFile} (sound : state.Sound layout)
    (member : held ∈ state.held) (current : state.epochs (layout.poolIn held.root) = held.epoch) :
    (state.published layout held file).Sound layout := by
  have holds := sound.holds held member
  refine ⟨?_, sound.tokens, sound.parts, ?_, sound.counted, ?_⟩
  · intro other inside
    rcases Table.mem_insert.mp inside with same | ⟨before, -⟩
    · rw [same]
      rcases holds.target with ⟨folder, directory⟩
      show layout.normalize held.target.components = held.target.components
      rw [CachePath.components, directory, List.append_assoc]
      exact layout.canonical _ (layout.prefix_base.trans (List.prefix_append _ _))
    · exact sound.canonical other (List.mem_filter.mp before).1
  · intro other inside
    have sinceOther : since other.token (.published held.token (layout.poolIn held.root) :: state.log) =
        .published held.token (layout.poolIn held.root) :: since other.token state.log := since_cons rfl _
    refine Held.frame 0 (sound.holds other inside) ?_ ?_ rfl ?_
    · show (state.reservations.erase held.token).find? other.token = none ∨
        (state.reservations.erase held.token).find? other.token = state.reservations.find? other.token ∧
          (state.paths.erase held.part).find? other.part = state.paths.find? other.part
      rw [Table.find?_erase, Table.find?_erase]
      by_cases same : other.token = held.token
      · exact Or.inl (if_pos same)
      · refine Or.inr ⟨if_neg same, if_neg ?_⟩
        intro equal
        have its := List.inj_on_of_nodup_map sound.parts inside member equal
        exact same (congrArg Reservation.token its)
    · intro owner erased _
      exact (List.mem_filter.mp erased).1
    · show (since other.token (_ :: state.log)).count _ = _
      rw [sinceOther, List.count_cons_of_ne (fun same => by cases same)]
      rfl
  · apply sound.fresh.cons
    intro token pool same
    cases same
    apply List.count_eq_zero.mp
    have epoch := holds.epoch
    rw [current] at epoch
    omega

theorem giveUp_sound (sound : state.Sound layout) (member : held ∈ state.held) :
    ({ state.giveUp held with held := state.held.erase held } : CacheState).Sound layout := by
  have distinct : state.held.Nodup := List.Nodup.of_map _ sound.tokens
  have sublist : (state.held.erase held).Sublist state.held := List.erase_sublist
  refine ⟨sound.canonical, (sublist.map _).nodup sound.tokens, (sublist.map _).nodup sound.parts, ?_, sound.counted,
    sound.fresh⟩
  intro other inside
  rcases (distinct.mem_erase_iff).mp inside with ⟨different, before⟩
  have apart : other.part ≠ held.part := fun same =>
    different (List.inj_on_of_nodup_map sound.parts before member same)
  have tokens : other.token ≠ held.token := fun same =>
    different (List.inj_on_of_nodup_map sound.tokens before member same)
  refine Held.frame 0 (sound.holds other before) (Or.inr ⟨?_, ?_⟩) ?_ rfl rfl
  · show (state.reservations.erase held.token).find? other.token = _
    rw [Table.find?_erase, if_neg tokens]
  · show (if _ then state.paths.erase held.part else state.paths).find? other.part = _
    split
    · rw [Table.find?_erase, if_neg apart]
    · rfl
  · intro owner listed _
    change owner ∈ (if _ then state.paths.erase held.part else state.paths).items at listed
    split at listed
    · exact (List.mem_filter.mp listed).1
    · exact listed

theorem beginClearing_sound (sound : state.Sound layout) (directory : CacheDirectory) :
    (state.beginClearing layout directory).Sound layout := by
  refine ⟨sound.canonical, sound.tokens, sound.parts, ?_, ?_,
    sound.fresh.cons fun token pool impossible => by cases impossible⟩
  · intro held member
    have since_ : since held.token (.cleared (layout.poolIn directory) :: state.log) =
        .cleared (layout.poolIn directory) :: since held.token state.log := since_cons rfl _
    by_cases same : layout.poolIn held.root = layout.poolIn directory
    · refine Held.frame 1 (sound.holds held member) (Or.inr ⟨rfl, rfl⟩) (fun _ inside _ => inside) ?_ ?_
      · show (if layout.poolIn held.root = layout.poolIn directory then _ else _) = _
        rw [if_pos same, same]
      · show (since held.token (_ :: state.log)).count _ = _
        rw [since_, same, List.count_cons_self]
    · refine Held.frame 0 (sound.holds held member) (Or.inr ⟨rfl, rfl⟩) (fun _ inside _ => inside) ?_ ?_
      · show (if layout.poolIn held.root = layout.poolIn directory then _ else _) = _
        rw [if_neg same]
        rfl
      · show (since held.token (_ :: state.log)).count _ = _
        rw [since_, List.count_cons_of_ne]
        · rfl
        · intro equal
          exact same (CacheEntry.cleared.inj equal).symm
  · intro other
    show ((state.clearing.insert _).find? other).map Cleared.times = _
    rw [Table.find?_insert]
    have before := sound.counted directory
    by_cases same : other = directory
    · rw [if_pos same, same]
      show some (((state.clearing.find? directory).elim 0 Cleared.times) + 1) =
        if (directory :: state.cleaners).count directory = 0 then none
          else some ((directory :: state.cleaners).count directory)
      rw [List.count_cons_self, if_neg (Nat.succ_ne_zero _)]
      congr 2
      cases found : state.clearing.find? directory with
      | none =>
        rw [found] at before
        split at before
        next zero => exact zero.symm
        · cases before
      | some cleared =>
        rw [found] at before
        split at before
        · cases before
        · exact Option.some.inj before
    · rw [if_neg same]
      show _ = if (directory :: state.cleaners).count other = 0 then none
        else some ((directory :: state.cleaners).count other)
      rw [List.count_cons_of_ne (fun equal => same equal.symm)]
      exact sound.counted other

theorem endClearing_sound (sound : state.Sound layout)
    (member : directory ∈ state.cleaners) : (state.endClearing directory).Sound layout := by
  refine ⟨sound.canonical, sound.tokens, sound.parts, ?_, ?_, sound.fresh⟩
  · intro held inside
    exact Held.frame 0 (sound.holds held inside) (Or.inr ⟨rfl, rfl⟩) (fun _ owner _ => owner) rfl rfl
  · have before := sound.counted directory
    have positive : 0 < state.cleaners.count directory := List.count_pos_iff.mpr member
    rw [if_neg (Nat.ne_of_gt positive)] at before
    rcases Option.map_eq_some_iff.mp before with ⟨cleared, found, times⟩
    intro other
    unfold endClearing
    dsimp only
    rw [found]
    dsimp only
    by_cases same : other = directory
    · rw [same, List.count_erase_self]
      split
      next last =>
        rw [Table.find?_erase, if_pos rfl, if_pos (times ▸ last)]
        rfl
      next more =>
        rw [Table.find?_insert, if_pos rfl, if_neg (times ▸ more)]
        exact congrArg some (congrArg (· - 1) times)
    · rw [List.count_erase_of_ne same]
      split
      · rw [Table.find?_erase, if_neg same]
        exact sound.counted other
      · rw [Table.find?_insert, if_neg same]
        exact sound.counted other

/-! ## Every run -/

/-- What a step of the log promises: a reservation is granted within the limit and not under
a directory that is being cleared, and a publication increases no charge. -/
structure StepHonours (layout : CacheLayout) (state next : CacheState) : Prop where
  reserves : forall token directory, next.log = .reserved token directory :: state.log ->
    next.total layout (layout.poolIn directory) ≤ next.limit (layout.poolIn directory) ∧
      forall cleaner, cleaner ∈ state.cleaners -> ¬ cleaner <+: directory
  publishes : forall token pool, next.log = .published token pool :: state.log ->
    forall other, next.total layout other ≤ state.total layout other

theorem StepHonours.of_log_eq (same : next.log = state.log) : StepHonours layout state next := by
  constructor
  · intro token directory longer
    rw [same] at longer
    exact absurd longer.symm (List.cons_ne_self _ _)
  · intro token pool longer
    rw [same] at longer
    exact absurd longer.symm (List.cons_ne_self _ _)

/-- No clearing is under way above a directory that passes the check. -/
theorem not_cleaning (counted : state.Counted) (free : state.clearingAbove directory = false) :
    forall cleaner, cleaner ∈ state.cleaners -> ¬ cleaner <+: directory := by
  intro cleaner member above
  have times := counted cleaner
  rw [if_neg (Nat.ne_of_gt (List.count_pos_iff.mpr member))] at times
  rcases Option.map_eq_some_iff.mp times with ⟨cleared, found, -⟩
  rcases Table.find?_eq_some.mp found with ⟨inside, same⟩
  have outside := List.any_eq_false.mp free cleared inside
  apply outside
  rw [same]
  exact List.isPrefixOf_iff_prefix.mpr above

theorem granted_honours
    (counted : state.Counted) (free : state.clearingAbove directory = false) (log : next.log =
      .reserved token directory :: state.log) (within : next.total layout (layout.poolIn directory) ≤
        next.limit (layout.poolIn directory)) :
    StepHonours layout state next := by
  constructor
  · intro other place same
    rw [log, List.cons.injEq] at same
    rcases CacheEntry.reserved.inj same.1 with ⟨-, equal⟩
    rw [← equal]
    exact ⟨within, not_cleaning counted free⟩
  · intro other pool same
    rw [log, List.cons.injEq] at same
    cases same.1

theorem drawn_new (unused : ¬ (state.held.any fun held => held.token == token) = true) :
    forall held, held ∈ state.held -> held.token ≠ token := by
  intro held member same
  exact unused (List.any_eq_true.mpr ⟨held, member, beq_iff_eq.mpr same⟩)

theorem prepare_step {owner : Int} {stem : String} {extension : Option String} {expected limit : Nat}
    {drawn : Drawn} {faults : CacheFaults} (sound : state.Sound layout)
    (moved : CacheState.step layout state (.prepare owner stem extension expected limit drawn faults) = some next) :
    next.Sound layout ∧ StepHonours layout state next := by
  unfold CacheState.step at moved
  dsimp only at moved
  split at moved
  next new =>
    rw [Bool.and_eq_true, Bool.and_eq_true, Option.isNone_iff_eq_none, Bool.not_eq_true', CacheState.fresh,
      Bool.and_eq_true, Bool.and_eq_true, Bool.not_eq_true', Bool.not_eq_true'] at new
    rcases new with ⟨⟨⟨⟨-, tokens⟩, owners⟩, unowned⟩, parts⟩
    have token : forall held, held ∈ state.held -> held.token ≠ drawn.token :=
      drawn_new (by rw [tokens]; decide)
    rcases prepare_cases sound.canonical owner stem extension expected limit drawn faults with
      ⟨files, canonical, same | ⟨fewer, same, above, within⟩⟩
    · rw [same] at moved
      cases moved
      exact ⟨sound.files canonical, .of_log_eq rfl⟩
    · rw [same] at moved
      cases moved
      constructor
      · refine taken_sound (granted_sound sound fewer token) rfl rfl ?_ rfl token ?_ ?_
        · show (state.reservations.insert _).find? drawn.token = _
          rw [Table.find?_insert, if_pos rfl]
        · intro held member equal
          exact List.any_eq_false.mp parts held member (beq_iff_eq.mpr equal)
        · intro other member equal
          exact List.any_eq_false.mp owners other member (beq_iff_eq.mpr equal)
      · exact granted_honours sound.counted above rfl (Nat.le_trans (taken_total
          (show (state.granted layout files drawn.token layout.base expected).paths.find? _ = none from unowned) _)
          within)
  · cases moved

theorem finish_step {index : Nat} {faults : CacheFaults} (sound : state.Sound layout)
    (moved : CacheState.step layout state (.finish index faults) = some next) :
    next.Sound layout ∧ StepHonours layout state next := by
  rcases Option.map_eq_some_iff.mp moved with ⟨held, there, after⟩
  have member := List.mem_of_getElem? there
  rcases finish_cases layout state held faults with same | ⟨⟨file, -, size, same⟩, checked⟩
  · rw [same] at after
    rw [← after]
    exact ⟨sound, .of_log_eq rfl⟩
  · rw [same] at after
    rw [← after]
    rcases check_ok checked with ⟨current, reserved⟩
    have backed := (sound.holds held member).toBacked reserved
    refine ⟨published_sound sound member current, ?_, ?_⟩
    · intro token directory log
      cases (List.cons.inj log).1
    · intro token pool _ other
      exact published_total backed size other

theorem clearFiles_subset {faults : CacheFaults} {listed : List CachedFile} {files : CacheFiles} {file : CachedFile}
    (member : file ∈ (clearFiles faults listed files).items) : file ∈ files.items := by
  induction listed generalizing files with
  | nil => exact member
  | cons first rest ih =>
    unfold clearFiles at member
    split at member
    · exact ih member
    · split at member
      · exact member
      · exact (List.mem_filter.mp (ih member)).1

theorem sound_step {event : CacheEvent} (sound : state.Sound layout)
    (moved : (cacheMachine layout).step state event = some next) :
    next.Sound layout ∧ StepHonours layout state next := by
  have unchanged : forall {paths : Table CachePath OwnedPath OwnedPath.path}
      {reservations : Table String Reserved Reserved.token},
      (forall held, held ∈ state.held -> reservations.find? held.token = state.reservations.find? held.token ∧
        paths.find? held.part = state.paths.find? held.part ∧
        forall owner, owner ∈ paths.items -> owner.token = held.token -> owner ∈ state.paths.items) ->
      ({ state with
        paths := paths
        reservations := reservations } : CacheState).Sound layout := by
    intro paths reservations same
    refine ⟨sound.canonical, sound.tokens, sound.parts, ?_, sound.counted, sound.fresh⟩
    intro held member
    rcases same held member with ⟨reserved, path, owners⟩
    exact Held.frame 0 (sound.holds held member) (Or.inr ⟨reserved, path⟩) owners rfl rfl
  cases event with
  | prepare owner stem extension expected limit drawn faults => exact prepare_step sound moved
  | reserve directory token bytes faults =>
    change (if _ then none else some (state.reserve layout directory token bytes faults).2) = some next at moved
    split at moved
    · cases moved
    next new =>
      rw [Bool.or_eq_true, not_or] at new
      rcases reserve_cases sound.canonical directory token bytes faults with
        ⟨files, fewer, ⟨error, failed⟩ | ⟨done, above, within⟩⟩
      · rw [failed] at moved
        cases moved
        exact ⟨sound.subset fewer, .of_log_eq rfl⟩
      · rw [done] at moved
        cases moved
        exact ⟨granted_sound sound fewer (drawn_new new.2), granted_honours sound.counted above rfl within⟩
  | release token =>
    change (if _ then none else some _) = some next at moved
    split at moved
    · cases moved
    next unheld =>
      cases moved
      refine ⟨unchanged fun held member => ⟨?_, rfl, fun _ inside _ => inside⟩, .of_log_eq rfl⟩
      rw [Table.find?_erase, if_neg (drawn_new unheld held member)]
  | finish index faults => exact finish_step sound moved
  | drop index =>
    rcases Option.map_eq_some_iff.mp moved with ⟨held, there, after⟩
    rw [← after]
    exact ⟨giveUp_sound sound (List.mem_of_getElem? there), .of_log_eq rfl⟩
  | discard index =>
    rcases Option.map_eq_some_iff.mp moved with ⟨part, there, after⟩
    rw [← after]
    have left : ({ state with files := state.files.erase part } : CacheState).Sound layout :=
      sound.subset fun file member => (List.mem_filter.mp member).1
    exact ⟨⟨left.canonical, left.tokens, left.parts, fun held member => Held.frame 0 (left.holds held member)
      (Or.inr ⟨rfl, rfl⟩) (fun _ inside _ => inside) rfl rfl, left.counted, left.fresh⟩, .of_log_eq rfl⟩
  | prune directory cap incoming preserve faults =>
    cases moved
    exact ⟨sound.subset fun file member => prune_subset member, .of_log_eq rfl⟩
  | configure previews thumbnails =>
    cases moved
    refine ⟨⟨sound.canonical, sound.tokens, sound.parts, ?_, sound.counted, sound.fresh⟩, .of_log_eq rfl⟩
    intro held member
    exact Held.frame 0 (sound.holds held member) (Or.inr ⟨rfl, rfl⟩) (fun _ inside _ => inside) rfl rfl
  | beginClearing directory =>
    cases moved
    refine ⟨beginClearing_sound sound directory, ?_, ?_⟩
    · intro token place log
      cases (List.cons.inj log).1
    · intro token pool log
      cases (List.cons.inj log).1
  | clearFiles directories faults =>
    change (if _ then none else some _) = some next at moved
    split at moved
    · cases moved
    · cases moved
      exact ⟨sound.subset fun file member => clearFiles_subset member, .of_log_eq rfl⟩
  | endClearing directory =>
    change (if _ then some _ else none) = some next at moved
    split at moved
    next member =>
      cases moved
      exact ⟨endClearing_sound sound member, .of_log_eq rfl⟩
    · cases moved
  | claim path token =>
    change (if _ then none else some _) = some next at moved
    split at moved
    · cases moved
    next others =>
      cases moved
      refine ⟨unchanged fun held member => ?_, .of_log_eq rfl⟩
      have apart : ¬ (held.part == path || held.token == token) = true :=
        fun same => others (List.any_eq_true.mpr ⟨held, member, same⟩)
      rw [Bool.or_eq_true, not_or, beq_iff_eq, beq_iff_eq] at apart
      refine ⟨rfl, ?_, ?_⟩
      · rw [Table.find?_insert, if_neg apart.1]
      · intro owner inside its
        rcases Table.mem_insert.mp inside with same | ⟨before, -⟩
        · rw [same] at its
          exact absurd its.symm apart.2
        · exact before
  | unclaim path =>
    change (if _ then none else some _) = some next at moved
    split at moved
    · cases moved
    next others =>
      cases moved
      refine ⟨unchanged fun held member => ⟨rfl, ?_, fun owner inside _ => (List.mem_filter.mp inside).1⟩,
        .of_log_eq rfl⟩
      rw [Table.find?_erase, if_neg]
      intro same
      exact others (List.any_eq_true.mpr ⟨held, member, beq_iff_eq.mpr same⟩)
  | outside files =>
    change (if _ then some _ else none) = some next at moved
    split at moved
    next canonical =>
      cases moved
      exact ⟨sound.files canonical, .of_log_eq rfl⟩
    · cases moved
  | tick now =>
    change (if _ then some _ else none) = some next at moved
    split at moved
    · cases moved
      refine ⟨⟨sound.canonical, sound.tokens, sound.parts, ?_, sound.counted, sound.fresh⟩, .of_log_eq rfl⟩
      intro held member
      exact Held.frame 0 (sound.holds held member) (Or.inr ⟨rfl, rfl⟩) (fun _ inside _ => inside) rfl rfl
    · cases moved

theorem starts_sound (starts : state.Starts layout) : state.Sound layout := by
  rcases starts with ⟨canonical, paths, reservations, clearing, held, cleaners, log⟩
  refine ⟨canonical, ?_, ?_, ?_, ?_, ?_⟩
  · rw [held]
    exact List.nodup_nil
  · rw [held]
    exact List.nodup_nil
  · intro other member
    rw [held] at member
    cases member
  · intro directory
    rw [clearing, cleaners]
    rfl
  · intro later token pool earlier same
    rw [log] at same
    exact absurd same.symm (List.append_ne_nil_of_right_ne_nil _ (List.cons_ne_nil _ _))

theorem reachable_sound {initial : CacheState} (starts : initial.Starts layout)
    (reached : (cacheMachine layout).Reachable initial state) : state.Sound layout :=
  Machine.Reachable.invariant (fun _ _ _ sound moved => (sound_step sound moved).1) reached (starts_sound starts)

/-- What pruning must not delete: what is kept and its pin, the path it is told to
preserve, what a live reservation owns, and a recent partial file. -/
structure Protected (state : CacheState) (preserve : Option CachePath) (file : CachedFile) : Prop where
  present : state.files.find? file.path = some file
  reason : kept state.files file.path = true ∨ preserve = some file.path ∨ state.owned file.path = true ∨
    file.isPartial = true ∧ file.isOld state.now = false

theorem Protected.spares {preserve : Option CachePath} {file : CachedFile}
    (protects : Protected state preserve file) : state.spares state.files preserve file = true := by
  unfold CacheState.spares
  rw [Bool.or_eq_true, Bool.or_eq_true, Bool.or_eq_true]
  rcases protects.reason with pinned | preserved | owned | ⟨part, recent⟩
  · exact Or.inl (Or.inl (Or.inl pinned))
  · exact Or.inl (Or.inl (Or.inr (beq_iff_eq.mpr preserved)))
  · left
    right
    unfold CacheState.owned at owned
    rw [Option.any_eq_true] at owned
    rcases owned with ⟨owner, found, -⟩
    rw [found]
    rfl
  · right
    rw [part, recent]
    rfl

/-- In every run, whatever happens to the files in between: a reservation that is granted
leaves its pool within the limit and is not under a directory being cleared, publishing
increases no charge, pruning deletes nothing that is protected, and nothing is published
that was reserved before a clearing of its pool began. -/
theorem cache_keeps_budget_and_stays_cleared (layout : CacheLayout) {initial state : CacheState}
    (starts : initial.Starts layout) (reached : (cacheMachine layout).Reachable initial state) :
    (forall event next, (cacheMachine layout).step state event = some next -> StepHonours layout state next) ∧
    (forall directory cap incoming preserve faults file, Protected state preserve file ->
      (state.prune layout directory cap incoming preserve faults).2.find? file.path = some file) ∧
    Fresh state.log := by
  have sound := reachable_sound starts reached
  refine ⟨?_, ?_, sound.fresh⟩
  · intro event next moved
    exact (sound_step sound moved).2
  · intro directory cap incoming preserve faults file protects
    exact prune_spares protects.present protects.spares

end CacheState

/-! ## A preview -/

def deviceLayout : CacheLayout where
  normalize := id
  previews := ["cache", "previews"]
  roots := [["cache", "previews"]]
  legacyThumbnails := [(["data", "thumbnails"], ["cache", "previews"])]
  registered := List.mem_singleton_self _
  canonical _ _ := rfl
  undivided := by decide

def emptyCache : CacheState where
  files := .empty
  paths := .empty
  reservations := .empty
  clearing := .empty
  epochs := fun _ => 0
  previews := 20
  thumbnails := 5
  now := 0
  held := []
  doomed := []
  cleaners := []
  log := []

def noFaults : CacheFaults := ⟨false, fun _ => false, false, false, 1024 * 1024 * 1024⟩

/-- A preview is downloaded and published; a second one is reserved, the cache is cleared,
and then it cannot be published. -/
def downloadAndClear : List CacheEvent :=
  [.prepare 7 "a" (some "jpg") 10 20 ⟨"t", "u"⟩ noFaults,
    .outside ((Table.empty : CacheFiles).insert ⟨⟨["cache", "previews", "android-library", "7"], "a.u", some "part"⟩, 10, some 0⟩),
    .finish 0 noFaults,
    .prepare 7 "b" (some "jpg") 10 20 ⟨"s", "v"⟩ noFaults,
    .beginClearing ["cache", "previews", "android-library"],
    .outside ((Table.empty : CacheFiles).insert ⟨⟨["cache", "previews", "android-library", "7"], "b.v", some "part"⟩, 10, some 0⟩),
    .endClearing ["cache", "previews", "android-library"],
    .finish 0 noFaults]

theorem cleared_preview_is_not_published :
    Exists fun state => emptyCache.Starts deviceLayout ∧ (cacheMachine deviceLayout).Reachable emptyCache state ∧
      Fresh state.log ∧ state.log = [.cleared ⟨["cache", "previews"], false⟩,
        .reserved "s" ["cache", "previews", "android-library"], .published "t" ⟨["cache", "previews"], false⟩,
        .reserved "t" ["cache", "previews", "android-library"]] := by
  have starts : emptyCache.Starts deviceLayout := by
    refine ⟨?_, rfl, rfl, rfl, rfl, rfl, rfl⟩
    intro file member
    cases member
  exact (Machine.exists_run (by decide +kernel)).imp fun state found =>
    have reached : (cacheMachine deviceLayout).Reachable emptyCache state := ⟨downloadAndClear, found.1⟩
    ⟨starts, reached, (CacheState.cache_keeps_budget_and_stays_cleared deviceLayout starts reached).2.2, found.2⟩

end Workspace
end TelegramDrive
