import Mathlib.Algebra.Order.BigOperators.Group.List
import Mathlib.Tactic.SplitIfs
import TelegramDrive.Transfers.Bandwidth

namespace TelegramDrive
namespace Transfers

/-!
# The operations on the bandwidth quota

Every operation but a release starts with the same preparation, which loads a
refused file again and opens a new week.  What it does after that is one of a
few cases.  All of them keep the manager sound: the committed bytes and the
holds fit a `u64`, so the charge of a hold never overflows.
-/

section Weeks

variable (calendar : Calendar)

/-- The Monday of the week of the statistics, whose date is always valid. -/
def weekOf (stats : BandwidthStats) : Int :=
  ((calendar.parseFromStr stats.date).map weekStartFor).getD 0

/-- The bytes of the holds. -/
def BandwidthManager.held (manager : BandwidthManager) : Nat :=
  (manager.holds.map (·.bytes)).sum

theorem weekStartFor_weekStartFor (date : Int) :
    weekStartFor (weekStartFor date) = weekStartFor date := by
  unfold weekStartFor
  omega

theorem lt_weekStartFor_iff (date today : Int) :
    date < weekStartFor today ↔ weekStartFor date < weekStartFor today := by
  unfold weekStartFor
  omega

/-! ## Sums -/

theorem checkedAdd_eq_some {one two total : Nat} :
    checkedAdd one two = some total ↔ one + two < u64Values ∧ one + two = total := by
  unfold checkedAdd
  split
  next fits => simp [fits]
  next large => simp [large]

theorem foldlM_checkedAdd {holds : List Hold} {committed total : Nat}
    (bounded : committed < u64Values) :
    holds.foldlM (fun total hold => checkedAdd total hold.bytes) committed = some total ↔
      committed + (holds.map (·.bytes)).sum < u64Values ∧
        committed + (holds.map (·.bytes)).sum = total := by
  induction holds generalizing committed with
  | nil =>
    rw [List.foldlM_nil, List.map_nil, List.sum_nil, Nat.add_zero]
    exact ⟨fun same => ⟨bounded, Option.some.inj same⟩, fun same => congrArg some same.2⟩
  | cons hold holds ih =>
    rw [List.foldlM_cons, Option.bind_eq_bind, Option.bind_eq_some_iff, List.map_cons,
      List.sum_cons, ← Nat.add_assoc]
    constructor
    · rintro ⟨middle, added, rest⟩
      rcases checkedAdd_eq_some.mp added with ⟨fits, rfl⟩
      exact (ih fits).mp rest
    · intro fits
      have small : committed + hold.bytes < u64Values :=
        Nat.lt_of_le_of_lt (Nat.le_add_right _ _) fits.1
      exact ⟨_, checkedAdd_eq_some.mpr ⟨small, rfl⟩, (ih small).mpr fits⟩

variable {manager next : BandwidthManager}

theorem used_eq_some {total : Nat} :
    manager.used = some total ↔
      manager.stats.upBytes + manager.stats.downBytes + manager.held < u64Values ∧
        manager.stats.upBytes + manager.stats.downBytes + manager.held = total := by
  unfold BandwidthManager.used BandwidthManager.held
  rw [Option.bind_eq_some_iff]
  constructor
  · rintro ⟨committed, added, rest⟩
    rcases checkedAdd_eq_some.mp added with ⟨fits, rfl⟩
    exact (foldlM_checkedAdd fits).mp rest
  · intro fits
    have small : manager.stats.upBytes + manager.stats.downBytes < u64Values :=
      Nat.lt_of_le_of_lt (Nat.le_add_right _ _) fits.1
    exact ⟨_, checkedAdd_eq_some.mpr ⟨small, rfl⟩, (foldlM_checkedAdd small).mpr fits⟩

/-! ## Holds -/

variable {hold : Hold}

theorem hold?_eq_some {id : Nat}
    (found : manager.hold? id = some hold) : hold ∈ manager.holds ∧ hold.id = id :=
  ⟨List.mem_of_find?_eq_some found, by simpa using List.find?_some found⟩

theorem find?_of_mem {Item : Type} (key : Item -> Nat) {items : List Item}
    (distinct : (items.map key).Nodup) {item : Item} (member : item ∈ items) :
    items.find? (fun other => key other = key item) = some item := by
  induction items with
  | nil => cases member
  | cons first items ih =>
    rw [List.map_cons, List.nodup_cons] at distinct
    rcases List.mem_cons.mp member with rfl | later
    · simp
    · have different : key first ≠ key item := fun same =>
        distinct.1 (same ▸ List.mem_map_of_mem later)
      rw [List.find?_cons_of_neg (by simpa using different)]
      exact ih distinct.2 later

theorem hold?_of_mem (distinct : (manager.holds.map (·.id)).Nodup)
    (member : hold ∈ manager.holds) : manager.hold? hold.id = some hold :=
  find?_of_mem Hold.id distinct member

theorem sum_filter_ne {holds : List Hold} (distinct : (holds.map (·.id)).Nodup) (member : hold ∈ holds) :
    ((holds.filter fun other => other.id ≠ hold.id).map (·.bytes)).sum + hold.bytes =
      (holds.map (·.bytes)).sum := by
  induction holds with
  | nil => cases member
  | cons first holds ih =>
    rw [List.map_cons, List.nodup_cons] at distinct
    rcases List.mem_cons.mp member with rfl | later
    · have kept : (holds.filter fun other => other.id ≠ hold.id) = holds := by
        refine List.filter_eq_self.mpr fun other inside => decide_eq_true fun same => ?_
        exact distinct.1 (same ▸ List.mem_map_of_mem inside)
      rw [List.filter_cons_of_neg (by simp), kept, List.map_cons, List.sum_cons, Nat.add_comm]
    · have different : first.id ≠ hold.id := fun same =>
        distinct.1 (same ▸ List.mem_map_of_mem later)
      rw [List.filter_cons_of_pos (by simpa using different), List.map_cons, List.sum_cons,
        List.map_cons, List.sum_cons, Nat.add_assoc, ih distinct.2 later]

theorem sum_resize {holds : List Hold} (distinct : (holds.map (·.id)).Nodup)
    (member : hold ∈ holds) (bytes : Nat) :
    ((holds.map fun other => if other.id = hold.id then { other with bytes := bytes } else other).map
        (·.bytes)).sum + hold.bytes = (holds.map (·.bytes)).sum + bytes := by
  induction holds with
  | nil => cases member
  | cons first holds ih =>
    rw [List.map_cons, List.nodup_cons] at distinct
    rw [List.map_cons, List.map_cons, List.sum_cons, List.map_cons, List.sum_cons]
    rcases List.mem_cons.mp member with rfl | later
    · have kept : (holds.map fun other =>
          if other.id = hold.id then { other with bytes := bytes } else other) = holds := by
        refine (List.map_congr_left fun other inside => if_neg fun same => ?_).trans (List.map_id _)
        exact distinct.1 (same ▸ List.mem_map_of_mem inside)
      rw [kept, if_pos rfl]
      simp only
      omega
    · have different : first.id ≠ hold.id := fun same =>
        distinct.1 (same ▸ List.mem_map_of_mem later)
      rw [if_neg different]
      have rest := ih distinct.2 later
      omega

/-! ## The start of an operation -/

/-- The totals of the same week, or those of a later one, which opens with none. -/
def Carries (stats next : BandwidthStats) : Prop :=
  (weekOf calendar next = weekOf calendar stats ∧ next.upBytes = stats.upBytes ∧
      next.downBytes = stats.downBytes) ∨
    (weekOf calendar stats < weekOf calendar next ∧ next.upBytes = 0 ∧ next.downBytes = 0)

/-- What a rollover does, also one that fails. -/
structure Rolls (manager next : BandwidthManager) : Prop where
  holds : next.holds = manager.holds
  nextId : next.nextId = manager.nextId
  limit : next.limit = manager.limit
  loadError : next.loadError = manager.loadError
  carries : Carries calendar manager.stats next.stats
  valid : (calendar.parseFromStr next.stats.date).isSome = true
  file : next.file = manager.file ∨ Exists fun stats => next.file = .stats stats
  saved : next.persistenceError = none -> next.file = .stats next.stats ∨
    (next.file = manager.file ∧ next.stats = manager.stats ∧ manager.persistenceError = none)

variable {calendar} {manager : BandwidthManager} {surroundings : Surroundings}

theorem weekOf_of_parse {stats : BandwidthStats} {date : Int}
    (parsed : calendar.parseFromStr stats.date = some date) :
    weekOf calendar stats = weekStartFor date := by
  rw [weekOf, parsed]
  rfl

theorem Rolls.refl (valid : (calendar.parseFromStr manager.stats.date).isSome = true) :
    Rolls calendar manager manager :=
  ⟨rfl, rfl, rfl, rfl, .inl ⟨rfl, rfl, rfl⟩, valid, .inl rfl, fun none_ => .inr ⟨rfl, rfl, none_⟩⟩

/-- An attempt to save leaves everything but the file and its error. -/
theorem Rolls.persist (rolls : Rolls calendar manager next)
    (failure : Option String) : Rolls calendar manager (next.persist failure).1 := by
  cases failure with
  | none =>
    exact ⟨rolls.holds, rolls.nextId, rolls.limit, rolls.loadError, rolls.carries, rolls.valid,
      .inr ⟨_, rfl⟩, fun _ => .inl rfl⟩
  | some error =>
    exact ⟨rolls.holds, rolls.nextId, rolls.limit, rolls.loadError, rolls.carries, rolls.valid,
      rolls.file, nofun⟩

/-- The statistics of a week that is not earlier carry those before. -/
theorem openWindow_carries {date : Int} (parsed : calendar.parseFromStr manager.stats.date = some date)
    (forward : weekStartFor date ≤ weekStartFor surroundings.today) :
    Carries calendar manager.stats
      (manager.openWindow calendar date (weekStartFor surroundings.today)) := by
  have before := weekOf_of_parse parsed
  have after : weekOf calendar (manager.openWindow calendar date (weekStartFor surroundings.today)) =
      weekStartFor (weekStartFor surroundings.today) :=
    weekOf_of_parse (calendar.parse_format _)
  rw [weekStartFor_weekStartFor] at after
  unfold Carries
  rw [before, after]
  by_cases later : date < weekStartFor surroundings.today
  · exact .inr ⟨(lt_weekStartFor_iff _ _).mp later, if_pos later, if_pos later⟩
  · refine .inl ⟨?_, if_neg later, if_neg later⟩
    rw [lt_weekStartFor_iff] at later
    omega

/-- Statistics whose date, period and limit are those of the week are left as they are. -/
theorem openWindow_eq (today : Int) {date : Int}
    (parsed : calendar.parseFromStr manager.stats.date = some date)
    (sameDate : manager.stats.date = (manager.openWindow calendar date (weekStartFor today)).date)
    (samePeriod : manager.stats.period =
      (manager.openWindow calendar date (weekStartFor today)).period)
    (sameLimit : manager.stats.limitBytes =
      (manager.openWindow calendar date (weekStartFor today)).limitBytes) :
    manager.openWindow calendar date (weekStartFor today) = manager.stats := by
  simp only [BandwidthManager.openWindow] at sameDate samePeriod sameLimit ⊢
  have monday : date = weekStartFor today := by
    rw [sameDate, calendar.parse_format] at parsed
    exact (Option.some.inj parsed).symm
  rw [if_neg (by omega), if_neg (by omega), ← sameDate, ← samePeriod, ← sameLimit]

theorem savePending_rolls (rolls : Rolls calendar manager next)
    (limit : next.stats.limitBytes = manager.limit) (failure : Option String) :
    Rolls calendar manager
        (if next.persistenceError.isSome then next.persist failure else (next, .ok ())).1 ∧
      ((if next.persistenceError.isSome then next.persist failure else (next, .ok ())).2 = .ok () ->
        (if next.persistenceError.isSome then next.persist failure else (next, .ok ())).1.persistenceError =
            none ∧
          (if next.persistenceError.isSome then next.persist failure
            else (next, .ok ())).1.stats.limitBytes = manager.limit) := by
  split
  · refine ⟨rolls.persist failure, fun ok => ?_⟩
    cases failure with
    | none => exact ⟨rfl, limit⟩
    | some error => cases ok
  next clear => exact ⟨rolls, fun _ => ⟨Option.not_isSome_iff_eq_none.mp clear, limit⟩⟩

variable (manager surroundings) in
theorem rollover_rolls (valid : (calendar.parseFromStr manager.stats.date).isSome = true) :
    Rolls calendar manager (manager.rollover calendar surroundings).1 ∧
      ((manager.rollover calendar surroundings).2 = .ok () ->
        (manager.rollover calendar surroundings).1.persistenceError = none ∧
        (manager.rollover calendar surroundings).1.stats.limitBytes = manager.limit) := by
  rcases Option.isSome_iff_exists.mp valid with ⟨date, parsed⟩
  unfold BandwidthManager.rollover
  rw [parsed]
  simp only
  split
  · exact ⟨.refl valid, nofun⟩
  next backward =>
    have carries := openWindow_carries parsed (not_lt.mp backward)
    have after : (calendar.parseFromStr (manager.openWindow calendar date
        (weekStartFor surroundings.today)).date).isSome = true := by
      change (calendar.parseFromStr (calendar.format _)).isSome = true
      rw [calendar.parse_format]
      rfl
    have limit : (manager.openWindow calendar date (weekStartFor surroundings.today)).limitBytes =
        manager.limit := rfl
    have unchanged := openWindow_eq surroundings.today parsed
    generalize manager.openWindow calendar date (weekStartFor surroundings.today) = opened at *
    split
    · cases surroundings.savePeriod with
      | some error => exact ⟨⟨rfl, rfl, rfl, rfl, carries, after, .inl rfl, nofun⟩, nofun⟩
      | none =>
        have saved : Rolls calendar manager
            { manager with stats := opened, file := .stats opened, persistenceError := none } :=
          ⟨rfl, rfl, rfl, rfl, carries, after, .inr ⟨_, rfl⟩, fun _ => .inl rfl⟩
        exact savePending_rolls saved limit surroundings.savePending
    next same =>
      rw [not_or, not_or, not_not, not_not, not_not] at same
      rw [unchanged same.1 same.2.1 same.2.2] at limit ⊢
      exact savePending_rolls (.refl valid) limit surroundings.savePending

/-- What the start of an operation does. -/
inductive Prepares (calendar : Calendar) (manager : BandwidthManager) (surroundings : Surroundings) :
    BandwidthManager -> Prop
  | rolled {next : BandwidthManager} (loaded : manager.loadError = none)
      (rolls : Rolls calendar manager next) : Prepares calendar manager surroundings next
  | reloaded {stats : BandwidthStats} {next : BandwidthManager} (refused : manager.loadError.isSome = true)
      (loads : load calendar manager.file surroundings.read none = .ok stats)
      (rolls : Rolls calendar
        { manager with limit := stats.limitBytes, stats := stats, loadError := none } next) :
      Prepares calendar manager surroundings next
  | refused {error : BandwidthError} (refused : manager.loadError.isSome = true)
      (fails : load calendar manager.file surroundings.read none = .error error) :
      Prepares calendar manager surroundings { manager with loadError := some error }

theorem load_eq_ok {file : StoredFile} {read : Option String} {stats : BandwidthStats}
    (loads : load calendar file read none = .ok stats) : read = none ∧ file = .stats stats ∧
      (calendar.parseFromStr stats.date).isSome = true ∧
      stats.upBytes + stats.downBytes < u64Values := by
  unfold load at loads
  split at loads
  · cases loads
  · cases loads
  · cases loads
  next found =>
    split at loads
    · cases loads
    next valid =>
      split at loads
      · cases loads
      next fits =>
        cases loads
        rw [Bool.not_eq_true, Option.isNone_eq_false_iff] at valid
        rw [not_or, Bool.not_eq_true, Option.isNone_eq_false_iff, Option.isSome_iff_exists] at fits
        rcases fits.2 with ⟨total, added⟩
        exact ⟨rfl, rfl, valid, (checkedAdd_eq_some.mp added).1⟩

variable (manager surroundings) in
theorem prepare_prepares (valid : (calendar.parseFromStr manager.stats.date).isSome = true) :
    Prepares calendar manager surroundings (manager.prepare calendar surroundings).1 ∧
      ((manager.prepare calendar surroundings).2 = .ok () ->
        (manager.prepare calendar surroundings).1.loadError = none ∧
        (manager.prepare calendar surroundings).1.persistenceError = none ∧
        (manager.prepare calendar surroundings).1.stats.limitBytes =
          (manager.prepare calendar surroundings).1.limit) := by
  unfold BandwidthManager.prepare BandwidthManager.reload
  by_cases refused : manager.loadError.isSome = true
  · rw [if_pos refused]
    cases loads : load calendar manager.file surroundings.read none with
    | error error => exact ⟨.refused refused loads, nofun⟩
    | ok stats =>
      have rolls := rollover_rolls
        { manager with limit := stats.limitBytes, stats := stats, loadError := none } surroundings
        (load_eq_ok loads).2.2.1
      refine ⟨.reloaded refused loads rolls.1, fun ok => ?_⟩
      exact ⟨rolls.1.loadError, (rolls.2 ok).1, (rolls.2 ok).2.trans rolls.1.limit.symm⟩
  · rw [if_neg refused]
    have rolls := rollover_rolls manager surroundings valid
    rw [Option.not_isSome_iff_eq_none] at refused
    refine ⟨.rolled refused rolls.1, fun ok => ?_⟩
    exact ⟨rolls.1.loadError.trans refused, (rolls.2 ok).1, (rolls.2 ok).2.trans rolls.1.limit.symm⟩

/-! ## The manager in every state -/

variable (calendar manager) in
structure Sound : Prop where
  valid : (calendar.parseFromStr manager.stats.date).isSome = true
  bounded : manager.stats.upBytes + manager.stats.downBytes + manager.held < u64Values
  distinct : (manager.holds.map (·.id)).Nodup
  numbered : forall hold, hold ∈ manager.holds -> hold.id ≤ manager.nextId
  closed : manager.loadError.isSome = true ->
    manager.holds = [] ∧ manager.stats.upBytes = 0 ∧ manager.stats.downBytes = 0
  refuses : manager.loadError = none ->
    manager.file = .missing ∨ Exists fun stats => manager.file = .stats stats
  saved : manager.loadError = none -> manager.persistenceError = none ->
    manager.file = .stats manager.stats ∨
      (manager.file = .missing ∧ Exists fun today => manager.stats = .default calendar today)

theorem default_valid (today : Int) :
    (calendar.parseFromStr (BandwidthStats.default calendar today).date).isSome = true := by
  change (calendar.parseFromStr (calendar.format _)).isSome = true
  rw [calendar.parse_format]
  rfl

theorem Carries.le {stats next : BandwidthStats} (carries : Carries calendar stats next) :
    next.upBytes + next.downBytes ≤ stats.upBytes + stats.downBytes := by
  rcases carries with ⟨-, up, down⟩ | ⟨-, up, down⟩ <;> omega

theorem Sound.rolls (sound : Sound calendar manager)
    (loaded : manager.loadError = none) (rolls : Rolls calendar manager next) : Sound calendar next := by
  refine ⟨rolls.valid, ?_, rolls.holds ▸ sound.distinct, ?_, ?_, ?_, ?_⟩
  · rw [BandwidthManager.held, rolls.holds]
    exact Nat.lt_of_le_of_lt (Nat.add_le_add_right rolls.carries.le _) sound.bounded
  · rw [rolls.holds, rolls.nextId]
    exact sound.numbered
  · rw [rolls.loadError, loaded]
    exact nofun
  · intro _
    rcases rolls.file with same | saved
    · rw [same]
      exact sound.refuses loaded
    · exact .inr saved
  · intro _ clear
    rcases rolls.saved clear with saved | ⟨file, stats, before⟩
    · exact .inl saved
    · rw [file, stats]
      exact sound.saved loaded before

variable (surroundings) in
theorem prepare_sound (sound : Sound calendar manager) :
    Sound calendar (manager.prepare calendar surroundings).1 := by
  have prepares := (prepare_prepares manager surroundings sound.valid).1
  generalize (manager.prepare calendar surroundings).1 = next at prepares
  cases prepares with
  | rolled loaded rolls => exact sound.rolls loaded rolls
  | reloaded refused loads rolls =>
    rcases load_eq_ok loads with ⟨-, file, valid, fits⟩
    have empty := (sound.closed refused).1
    refine Sound.rolls ?_ rfl rolls
    refine ⟨valid, ?_, sound.distinct, sound.numbered, nofun, fun _ => .inr ⟨_, file⟩,
      fun _ _ => .inl file⟩
    rw [BandwidthManager.held, empty]
    exact fits
  | refused refused fails =>
    exact ⟨sound.valid, sound.bounded, sound.distinct, sound.numbered,
      fun _ => sound.closed refused, nofun, nofun⟩

theorem start_sound (file : StoredFile) (read : Option String) (today : Int) :
    Sound calendar (.start calendar file read today) := by
  have positive : 0 < u64Values := by decide
  unfold BandwidthManager.start
  cases loads : load calendar file read (some today) with
  | error error => exact ⟨default_valid today, positive, .nil, nofun, fun _ => ⟨rfl, rfl, rfl⟩, nofun, nofun⟩
  | ok stats =>
    have loaded : load calendar file read none = .ok stats ∨
        (file = .missing ∧ stats = .default calendar today) := by
      unfold load at loads ⊢
      split at loads
      · cases loads
      · cases loads
        exact .inr ⟨rfl, rfl⟩
      · cases loads
      · exact .inl loads
    rcases loaded with loads | ⟨rfl, rfl⟩
    · rcases load_eq_ok loads with ⟨-, file, valid, fits⟩
      exact ⟨valid, fits, .nil, nofun, nofun, fun _ => .inr ⟨_, file⟩, fun _ _ => .inl file⟩
    · exact ⟨default_valid today, positive, .nil, nofun, nofun, fun _ => .inl rfl,
        fun _ _ => .inr ⟨rfl, _, rfl⟩⟩

/-! ## The operations -/

/-- The state of the manager with its statistics saved. -/
def BandwidthManager.kept (manager : BandwidthManager) : BandwidthManager :=
  { manager with file := .stats manager.stats, persistenceError := none }

def BandwidthManager.unsaved (manager : BandwidthManager) (error : String) : BandwidthManager :=
  { manager with persistenceError := some error }

/-- What `reserve` makes of a prepared manager. -/
inductive Reserves (manager : BandwidthManager) (direction : ReservationDirection) (bytes : Nat) :
    Outcome Nat -> Prop
  | refused (error : BandwidthError) : Reserves manager direction bytes (manager, .error error)
  | unsaved (failure : String) (error : BandwidthError) :
      Reserves manager direction bytes (manager.unsaved failure, .error error)
  | held (fits : manager.stats.upBytes + manager.stats.downBytes + manager.held + bytes < u64Values)
      (limit : manager.stats.upBytes + manager.stats.downBytes + manager.held + bytes ≤
        manager.stats.limitBytes) :
      Reserves manager direction bytes
        ({ manager.kept with
            nextId := manager.nextId + 1
            holds := ⟨manager.nextId + 1, bytes, direction⟩ :: manager.holds }, .ok (manager.nextId + 1))

variable (calendar) in
theorem reserve_reserves (manager : BandwidthManager) (surroundings : Surroundings)
    (direction : ReservationDirection) (bytes : Nat) :
    Reserves (manager.prepare calendar surroundings).1 direction bytes
        (manager.reserve calendar surroundings direction bytes) ∧
      ((manager.reserve calendar surroundings direction bytes).2.isOk = true ->
        (manager.prepare calendar surroundings).2 = .ok ()) := by
  unfold BandwidthManager.reserve
  rcases manager.prepare calendar surroundings with ⟨prepared, error | ⟨⟩⟩
  · exact ⟨.refused error, nofun⟩
  · refine ⟨?_, fun _ => rfl⟩
    simp only [Outcome.andThen]
    split
    · exact .refused _
    next total added =>
      rcases Option.bind_eq_some_iff.mp added with ⟨used, uses, adds⟩
      rcases used_eq_some.mp uses with ⟨-, rfl⟩
      rcases checkedAdd_eq_some.mp adds with ⟨fits, rfl⟩
      split
      · exact .refused _
      next limit =>
        split
        · exact .refused _
        · split
          · exact .refused _
          next id next_ =>
            rcases checkedAdd_eq_some.mp next_ with ⟨-, rfl⟩
            cases surroundings.save with
            | none => exact .held fits (not_lt.mp limit)
            | some failure => exact .unsaved failure _

/-- What `resize` makes of a prepared manager. -/
inductive Resizes (manager : BandwidthManager) (id bytes : Nat) : Outcome Unit -> Prop
  | refused (error : BandwidthError) : Resizes manager id bytes (manager, .error error)
  | unsaved (failure : String) (error : BandwidthError) :
      Resizes manager id bytes (manager.unsaved failure, .error error)
  | resized {hold : Hold} (found : manager.hold? id = some hold)
      (fits : manager.stats.upBytes + manager.stats.downBytes + manager.held - hold.bytes + bytes <
        u64Values)
      (limit : hold.bytes < bytes ->
        manager.stats.upBytes + manager.stats.downBytes + manager.held - hold.bytes + bytes ≤
          manager.stats.limitBytes) :
      Resizes manager id bytes
        ({ manager.kept with
            holds := manager.holds.map fun hold =>
              if hold.id = id then { hold with bytes := bytes } else hold }, .ok ())

variable (calendar) in
theorem resize_resizes (manager : BandwidthManager) (surroundings : Surroundings) (id bytes : Nat) :
    Resizes (manager.prepare calendar surroundings).1 id bytes
        (manager.resize calendar surroundings id bytes) ∧
      ((manager.resize calendar surroundings id bytes).2.isOk = true ->
        (manager.prepare calendar surroundings).2 = .ok ()) := by
  unfold BandwidthManager.resize
  rcases manager.prepare calendar surroundings with ⟨prepared, error | ⟨⟩⟩
  · exact ⟨.refused error, nofun⟩
  · refine ⟨?_, fun _ => rfl⟩
    simp only [Outcome.andThen]
    split
    · exact .refused _
    next hold found =>
      split
      · exact .refused _
      next used uses =>
        rcases used_eq_some.mp uses with ⟨-, rfl⟩
        split
        · exact .refused _
        · split
          · exact .refused _
          next total adds =>
            rcases checkedAdd_eq_some.mp adds with ⟨fits, rfl⟩
            split
            · exact .refused _
            next limit =>
              cases surroundings.save with
              | none =>
                exact .resized found fits fun grows =>
                  not_lt.mp fun exceeds => limit ⟨grows, exceeds⟩
              | some failure => exact .unsaved failure _

/-- What `setLimit` makes of a prepared manager. -/
inductive SetsLimit (manager : BandwidthManager) (bytes : Nat) : BandwidthManager × Bool -> Prop
  | refused : SetsLimit manager bytes (manager, false)
  | unsaved (failure : String) : SetsLimit manager bytes (manager.unsaved failure, false)
  | limited : SetsLimit manager bytes
      ({ manager with
          stats := { manager.stats with limitBytes := bytes }
          file := .stats { manager.stats with limitBytes := bytes }
          limit := bytes
          persistenceError := none }, true)

variable (calendar) in
theorem setLimit_setsLimit (manager : BandwidthManager) (surroundings : Surroundings) (bytes : Nat) :
    ((manager.setLimit calendar surroundings bytes).1 = manager ∧
        (manager.setLimit calendar surroundings bytes).2.isOk = false) ∨
      SetsLimit (manager.prepare calendar surroundings).1 bytes
        ((manager.setLimit calendar surroundings bytes).1,
          (manager.setLimit calendar surroundings bytes).2.isOk) := by
  unfold BandwidthManager.setLimit
  split
  · exact .inl ⟨rfl, rfl⟩
  · refine .inr ?_
    rcases manager.prepare calendar surroundings with ⟨prepared, error | ⟨⟩⟩
    · exact .refused
    · simp only [Outcome.andThen]
      cases surroundings.save with
      | none => exact .limited
      | some failure => exact .unsaved failure

/-- What `commit` makes of a prepared manager. -/
inductive Commits (manager : BandwidthManager) (id : Nat) : Outcome Unit -> Prop
  | expired (absent : manager.hold? id = none) : Commits manager id (manager, BandwidthManager.expired)
  | overflowed {hold : Hold} (found : manager.hold? id = some hold)
      (large : BandwidthManager.charge manager.stats hold = none) :
      Commits manager id (manager.release id, BandwidthManager.overflowed)
  | charged {hold : Hold} {stats : BandwidthStats} (found : manager.hold? id = some hold)
      (charges : BandwidthManager.charge manager.stats hold = some stats) :
      Commits manager id ({ manager.release id with stats := stats }.kept, .ok ())
  | unsaved {hold : Hold} {stats : BandwidthStats} (found : manager.hold? id = some hold)
      (charges : BandwidthManager.charge manager.stats hold = some stats) (failure : String)
      (error : BandwidthError) :
      Commits manager id ({ manager.release id with stats := stats }.unsaved failure, .error error)

variable (calendar) in
theorem commit_commits (manager : BandwidthManager) (surroundings : Surroundings) (id : Nat) :
    Commits (manager.prepare calendar surroundings).1 id (manager.commit calendar surroundings id) := by
  unfold BandwidthManager.commit
  generalize (manager.prepare calendar surroundings).1 = prepared
  simp only
  split
  next absent => exact .expired absent
  next hold found =>
    split
    next large => exact .overflowed found large
    next stats charges =>
      cases surroundings.save with
      | none => exact .charged found charges
      | some failure => exact .unsaved found charges failure _

variable (calendar) in
theorem checkedStats_fst (manager : BandwidthManager) (surroundings : Surroundings) :
    (manager.checkedStats calendar surroundings).1 = (manager.prepare calendar surroundings).1 := by
  unfold BandwidthManager.checkedStats
  rcases manager.prepare calendar surroundings with ⟨prepared, error | ⟨⟩⟩ <;> rfl

theorem charge_eq_some {stats next : BandwidthStats}
    (charges : BandwidthManager.charge stats hold = some next) :
    next.date = stats.date ∧
      next.upBytes = stats.upBytes + (if hold.direction = .upload then hold.bytes else 0) ∧
      next.downBytes = stats.downBytes + (if hold.direction = .download then hold.bytes else 0) := by
  rcases hold with ⟨id, bytes, _ | _⟩
  all_goals
    rcases Option.map_eq_some_iff.mp charges with ⟨total, added, rfl⟩
    rcases checkedAdd_eq_some.mp added with ⟨-, rfl⟩
    exact ⟨rfl, rfl, rfl⟩

/-- No charge of a hold overflows while the holds are counted with the bytes. -/
theorem Sound.charge_ne_none (sound : Sound calendar manager) {id : Nat}
    (found : manager.hold? id = some hold) : BandwidthManager.charge manager.stats hold ≠ none := by
  have part := sum_filter_ne sound.distinct (hold?_eq_some found).1
  have bounded := sound.bounded
  unfold BandwidthManager.held at bounded
  unfold BandwidthManager.charge checkedAdd
  split <;> simp <;> omega

/-! ## Every operation keeps the manager sound -/

theorem Sound.kept (sound : Sound calendar manager) : Sound calendar manager.kept :=
  ⟨sound.valid, sound.bounded, sound.distinct, sound.numbered, sound.closed, fun _ => .inr ⟨_, rfl⟩,
    fun _ _ => .inl rfl⟩

theorem Sound.unsaved (sound : Sound calendar manager) (failure : String) :
    Sound calendar (manager.unsaved failure) :=
  ⟨sound.valid, sound.bounded, sound.distinct, sound.numbered, sound.closed, sound.refuses,
    fun _ => nofun⟩

theorem Sound.release (sound : Sound calendar manager) (id : Nat) :
    Sound calendar (manager.release id) := by
  have sublist : (manager.holds.filter fun hold => hold.id ≠ id).Sublist manager.holds :=
    List.filter_sublist
  refine ⟨sound.valid, ?_, sound.distinct.sublist (sublist.map _),
    fun hold member => sound.numbered hold (sublist.subset member), fun refused => ?_, sound.refuses,
    sound.saved⟩
  · have fewer : (manager.release id).held ≤ manager.held :=
      (sublist.map _).sum_le_sum fun _ _ => Nat.zero_le _
    exact Nat.lt_of_le_of_lt (Nat.add_le_add_left fewer _) sound.bounded
  · rcases sound.closed refused with ⟨empty, totals⟩
    refine ⟨?_, totals⟩
    rw [BandwidthManager.release, empty]
    rfl

theorem reserve_sound (sound : Sound calendar manager) (surroundings : Surroundings)
    (direction : ReservationDirection) (bytes : Nat) :
    Sound calendar (manager.reserve calendar surroundings direction bytes).1 := by
  have loaded := (prepare_prepares manager surroundings sound.valid).2
  have prepared := prepare_sound surroundings sound
  rcases reserve_reserves calendar manager surroundings direction bytes with ⟨reserves, ok⟩
  generalize manager.reserve calendar surroundings direction bytes = result at reserves ok
  generalize (manager.prepare calendar surroundings).1 = middle at *
  cases reserves with
  | refused error => exact prepared
  | unsaved failure error => exact prepared.unsaved failure
  | held fits limit =>
    have open_ := (loaded (ok rfl)).1
    have kept := prepared.kept
    refine ⟨kept.valid, ?_, List.nodup_cons.mpr ⟨?_, kept.distinct⟩, ?_, fun refused => ?_,
      kept.refuses, kept.saved⟩
    · change _ + (List.map (·.bytes) (_ :: middle.holds)).sum < _
      rw [List.map_cons, List.sum_cons]
      unfold BandwidthManager.held at fits
      simp only [BandwidthManager.kept]
      omega
    · intro inside
      rcases List.mem_map.mp inside with ⟨hold, member, same⟩
      have numbered := prepared.numbered hold member
      exact absurd same (Nat.ne_of_lt (Nat.lt_succ_of_le numbered))
    · intro hold member
      rcases List.mem_cons.mp member with rfl | old
      · exact Nat.le_refl _
      · exact Nat.le_succ_of_le (prepared.numbered hold old)
    · change middle.loadError.isSome = true at refused
      rw [open_] at refused
      cases refused

theorem map_resize_ids (holds : List Hold) (id bytes : Nat) :
    (holds.map fun hold => if hold.id = id then { hold with bytes := bytes } else hold).map (·.id) =
      holds.map (·.id) := by
  rw [List.map_map]
  refine List.map_congr_left fun hold _ => ?_
  simp only [Function.comp_apply]
  split <;> rfl

theorem resize_sound (sound : Sound calendar manager) (surroundings : Surroundings) (id bytes : Nat) :
    Sound calendar (manager.resize calendar surroundings id bytes).1 := by
  have prepared := prepare_sound surroundings sound
  have resizes := (resize_resizes calendar manager surroundings id bytes).1
  generalize manager.resize calendar surroundings id bytes = result at resizes
  generalize (manager.prepare calendar surroundings).1 = middle at *
  cases resizes with
  | refused error => exact prepared
  | unsaved failure error => exact prepared.unsaved failure
  | @resized hold found fits limit =>
    rcases hold?_eq_some found with ⟨member, rfl⟩
    have kept := prepared.kept
    refine ⟨kept.valid, ?_, ?_, ?_, fun refused => ?_, kept.refuses, kept.saved⟩
    · have sum := sum_resize prepared.distinct member bytes
      have bounded := prepared.bounded
      unfold BandwidthManager.held at fits bounded ⊢
      simp only [BandwidthManager.kept]
      omega
    · rw [map_resize_ids]
      exact prepared.distinct
    · intro other inside
      have listed : other.id ∈ middle.holds.map (·.id) := by
        rw [← map_resize_ids]
        exact List.mem_map_of_mem inside
      rcases List.mem_map.mp listed with ⟨before, old, same⟩
      exact same ▸ prepared.numbered before old
    · exact absurd member (by rw [(prepared.closed refused).1]; exact List.not_mem_nil)

theorem setLimit_sound (sound : Sound calendar manager) (surroundings : Surroundings) (bytes : Nat) :
    Sound calendar (manager.setLimit calendar surroundings bytes).1 := by
  have prepared := prepare_sound surroundings sound
  rcases setLimit_setsLimit calendar manager surroundings bytes with ⟨same, -⟩ | sets
  · rw [same]
    exact sound
  · generalize (manager.setLimit calendar surroundings bytes).1 = next at *
    generalize (manager.setLimit calendar surroundings bytes).2.isOk = success at *
    generalize (manager.prepare calendar surroundings).1 = middle at *
    cases sets with
    | refused => exact prepared
    | unsaved failure => exact prepared.unsaved failure
    | limited =>
      exact ⟨prepared.valid, prepared.bounded, prepared.distinct, prepared.numbered, prepared.closed,
        fun _ => .inr ⟨_, rfl⟩, fun _ _ => .inl rfl⟩

/-- A hold becomes a charge: what it held is counted among the committed bytes. -/
theorem Sound.charged (sound : Sound calendar manager) {id : Nat} {stats : BandwidthStats}
    (found : manager.hold? id = some hold)
    (charges : BandwidthManager.charge manager.stats hold = some stats) (failure : Option String) :
    Sound calendar (({ manager.release id with stats := stats }).persist failure).1 := by
  rcases hold?_eq_some found with ⟨member, rfl⟩
  rcases charge_eq_some charges with ⟨date, up, down⟩
  have released := sound.release hold.id
  have valid : (calendar.parseFromStr stats.date).isSome = true := by
    rw [date]
    exact sound.valid
  have bounded : stats.upBytes + stats.downBytes + (manager.release hold.id).held < u64Values := by
    have part := sum_filter_ne sound.distinct member
    have before := sound.bounded
    unfold BandwidthManager.held at before ⊢
    simp only [BandwidthManager.release]
    have total : stats.upBytes + stats.downBytes =
        manager.stats.upBytes + manager.stats.downBytes + hold.bytes := by
      rw [up, down]
      cases hold.direction <;> simp only [reduceCtorEq, if_true, if_false] <;> omega
    omega
  have closed : manager.loadError.isSome = true -> False := fun refused => by
    rw [(sound.closed refused).1] at member
    cases member
  cases failure with
  | none =>
    exact ⟨valid, bounded, released.distinct, released.numbered, fun refused => (closed refused).elim,
      fun _ => .inr ⟨_, rfl⟩, fun _ _ => .inl rfl⟩
  | some error =>
    exact ⟨valid, bounded, released.distinct, released.numbered, fun refused => (closed refused).elim,
      sound.refuses, fun _ => nofun⟩

theorem commit_sound (sound : Sound calendar manager) (surroundings : Surroundings) (id : Nat) :
    Sound calendar (manager.commit calendar surroundings id).1 := by
  have prepared := prepare_sound surroundings sound
  have commits := commit_commits calendar manager surroundings id
  generalize manager.commit calendar surroundings id = result at commits
  generalize (manager.prepare calendar surroundings).1 = middle at *
  cases commits with
  | expired absent => exact prepared
  | overflowed found large => exact prepared.release id
  | charged found charges => exact prepared.charged found charges none
  | unsaved found charges failure error => exact prepared.charged found charges (some failure)

end Weeks

end Transfers
end TelegramDrive
