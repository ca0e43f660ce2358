import TelegramDrive.Library.Machine
import TelegramDrive.Transfers.BandwidthSteps

namespace TelegramDrive
namespace Transfers

/-!
# Conservation of the counted bytes

A reservation is what a transfer has of a hold: it is committed at most once,
and gives the hold back when it is dropped before that.  The ledger records each
charge with its week.  In every run the committed bytes of a week are those it
was opened with and the charges of that week.
-/

structure BandwidthReservation where
  id : Nat
  completed : Bool
deriving DecidableEq

structure Charge where
  id : Nat
  bytes : Nat
  direction : ReservationDirection
  week : Int
deriving DecidableEq

/-- The totals of the statistics that were loaded, and their week. -/
structure Opening where
  week : Int
  upBytes : Nat
  downBytes : Nat

/-- The manager and the reservations that are not dropped.  The opening and the
charges are for the statements only. -/
structure Bandwidth where
  manager : BandwidthManager
  reservations : List BandwidthReservation
  opening : Opening
  charges : List Charge

inductive BandwidthEvent
  | reserve (surroundings : Surroundings) (direction : ReservationDirection) (bytes : Nat)
  | resize (surroundings : Surroundings) (id bytes : Nat)
  | commit (surroundings : Surroundings) (id : Nat)
  | drop (id : Nat)
  | setLimit (surroundings : Surroundings) (bytes : Nat)
  | check (surroundings : Surroundings)
  | repair (file : StoredFile)

section Machine

variable (calendar : Calendar)

def Opening.of (stats : BandwidthStats) : Opening :=
  ⟨weekOf calendar stats, stats.upBytes, stats.downBytes⟩

/-- The opening is that of the statistics loaded last. -/
def Opening.after (opening : Opening) (before next : BandwidthManager) : Opening :=
  if before.loadError.isSome ∧ next.loadError = none then
    match before.file with
    | .stats stats => .of calendar stats
    | _ => opening
  else opening

namespace Bandwidth

def start (file : StoredFile) (read : Option String) (today : Int) : Bandwidth where
  manager := .start calendar file read today
  reservations := []
  opening := .of calendar (BandwidthManager.start calendar file read today).stats
  charges := []

def moveTo (state : Bandwidth) (next : BandwidthManager) : Bandwidth :=
  { state with manager := next, opening := state.opening.after calendar state.manager next }

/-- The reservation is marked as completed. -/
def complete (state : Bandwidth) (id : Nat) : List BandwidthReservation :=
  state.reservations.map fun reservation =>
    if reservation.id = id then { reservation with completed := true } else reservation

/-- `BandwidthReservation::commit`, of a reservation that was not completed before. -/
def commit (state : Bandwidth) (surroundings : Surroundings) (id : Nat) : Bandwidth :=
  let next := (state.manager.commit calendar surroundings id).1
  { state.moveTo calendar next with
    reservations := state.complete id
    charges :=
      ((state.manager.hold? id).map fun hold =>
        ⟨id, hold.bytes, hold.direction, weekOf calendar next.stats⟩).toList ++ state.charges }

end Bandwidth

def bandwidthMachine : Machine Bandwidth BandwidthEvent where
  step state
    | .reserve surroundings direction bytes =>
      match state.manager.reserve calendar surroundings direction bytes with
      | (next, .error _) => some (state.moveTo calendar next)
      | (next, .ok id) =>
        some
          { state.moveTo calendar next with
            reservations := ⟨id, false⟩ :: state.reservations }
    | .resize surroundings id bytes =>
      if id ∈ state.reservations.map (·.id) then
        some (state.moveTo calendar (state.manager.resize calendar surroundings id bytes).1)
      else none
    | .commit surroundings id =>
      match state.reservations.find? fun reservation => reservation.id = id with
      | none => none
      | some reservation =>
        if reservation.completed then some state else some (state.commit calendar surroundings id)
    | .drop id =>
      match state.reservations.find? fun reservation => reservation.id = id with
      | none => none
      | some reservation =>
        some
          { state with
            manager := if reservation.completed then state.manager else state.manager.release id
            reservations := state.reservations.filter fun other => other.id ≠ id }
    | .setLimit surroundings bytes =>
      some (state.moveTo calendar (state.manager.setLimit calendar surroundings bytes).1)
    | .check surroundings =>
      some (state.moveTo calendar (state.manager.checkedStats calendar surroundings).1)
    | .repair file =>
      if state.manager.loadError.isSome then
        some { state with manager := { state.manager with file := file } }
      else none

end Machine

/-! ## The committed bytes and the charges -/

/-- The bytes charged in one week and direction. -/
def chargedBytes (charges : List Charge) (direction : ReservationDirection) (week : Int) : Nat :=
  ((charges.filter fun charge => charge.direction = direction ∧ charge.week = week).map (·.bytes)).sum

def Opening.upIn (opening : Opening) (week : Int) : Nat :=
  if opening.week = week then opening.upBytes else 0

def Opening.downIn (opening : Opening) (week : Int) : Nat :=
  if opening.week = week then opening.downBytes else 0

structure Accounts (calendar : Calendar) (manager : BandwidthManager) (opening : Opening)
    (charges : List Charge) : Prop where
  up : manager.stats.upBytes = opening.upIn (weekOf calendar manager.stats) +
    chargedBytes charges .upload (weekOf calendar manager.stats)
  down : manager.stats.downBytes = opening.downIn (weekOf calendar manager.stats) +
    chargedBytes charges .download (weekOf calendar manager.stats)
  past : opening.week ≤ weekOf calendar manager.stats
  earlier : forall charge, charge ∈ charges -> charge.week ≤ weekOf calendar manager.stats
  closed : manager.loadError.isSome = true -> charges = []

section Accounts

variable {calendar : Calendar} {manager next : BandwidthManager} {surroundings : Surroundings}
  {opening : Opening} {charges : List Charge}

theorem chargedBytes_of_earlier {week : Int} (direction : ReservationDirection)
    (earlier : forall charge, charge ∈ charges -> charge.week < week) :
    chargedBytes charges direction week = 0 := by
  have none_ : (charges.filter fun charge => charge.direction = direction ∧ charge.week = week) = [] := by
    refine List.filter_eq_nil_iff.mpr fun charge member => ?_
    have before := earlier charge member
    simp only [decide_eq_true_eq, not_and]
    intro _ same
    omega
  rw [chargedBytes, none_]
  rfl

theorem chargedBytes_cons (charge : Charge) (direction : ReservationDirection) (week : Int) :
    chargedBytes (charge :: charges) direction week =
      (if charge.direction = direction ∧ charge.week = week then charge.bytes else 0) +
        chargedBytes charges direction week := by
  unfold chargedBytes
  by_cases counted : charge.direction = direction ∧ charge.week = week
  · rw [if_pos counted, List.filter_cons_of_pos (by simpa using counted), List.map_cons,
      List.sum_cons]
  · rw [if_neg counted, List.filter_cons_of_neg (by simpa using counted), Nat.zero_add]

theorem Accounts.frame (accounts : Accounts calendar manager opening charges)
    (date : next.stats.date = manager.stats.date) (up : next.stats.upBytes = manager.stats.upBytes)
    (down : next.stats.downBytes = manager.stats.downBytes)
    (loadError : next.loadError = manager.loadError) : Accounts calendar next opening charges := by
  have week : weekOf calendar next.stats = weekOf calendar manager.stats := by
    rw [weekOf, weekOf, date]
  refine ⟨?_, ?_, ?_, ?_, ?_⟩
  · rw [up, week]
    exact accounts.up
  · rw [down, week]
    exact accounts.down
  · rw [week]
    exact accounts.past
  · rw [week]
    exact accounts.earlier
  · rw [loadError]
    exact accounts.closed

theorem Accounts.carries (accounts : Accounts calendar manager opening charges)
    (carries : Carries calendar manager.stats next.stats)
    (loadError : next.loadError = manager.loadError) : Accounts calendar next opening charges := by
  rcases carries with ⟨week, up, down⟩ | ⟨later, up, down⟩
  · refine ⟨?_, ?_, ?_, ?_, ?_⟩
    · rw [up, week]
      exact accounts.up
    · rw [down, week]
      exact accounts.down
    · rw [week]
      exact accounts.past
    · rw [week]
      exact accounts.earlier
    · rw [loadError]
      exact accounts.closed
  · have earlier : forall charge, charge ∈ charges -> charge.week < weekOf calendar next.stats :=
      fun charge member => Int.lt_of_le_of_lt (accounts.earlier charge member) later
    have past := accounts.past
    refine ⟨?_, ?_, by omega, fun charge member => Int.le_of_lt (earlier charge member), ?_⟩
    · rw [up, Opening.upIn, if_neg (by omega), chargedBytes_of_earlier _ earlier]
    · rw [down, Opening.downIn, if_neg (by omega), chargedBytes_of_earlier _ earlier]
    · rw [loadError]
      exact accounts.closed

theorem Accounts.opened (stats : BandwidthStats) (same : manager.stats = stats) :
    Accounts calendar manager (.of calendar stats) [] := by
  subst same
  refine ⟨?_, ?_, Int.le_refl _, nofun, fun _ => rfl⟩
  · exact (if_pos rfl).symm
  · exact (if_pos rfl).symm

variable (surroundings) in
theorem prepare_accounts (sound : Sound calendar manager)
    (accounts : Accounts calendar manager opening charges) :
    Accounts calendar (manager.prepare calendar surroundings).1
      (opening.after calendar manager (manager.prepare calendar surroundings).1) charges := by
  have prepares := (prepare_prepares manager surroundings sound.valid).1
  generalize (manager.prepare calendar surroundings).1 = next at prepares
  unfold Opening.after
  cases prepares with
  | rolled loaded rolls =>
    rw [if_neg (by rw [loaded]; exact fun both => nomatch both.1)]
    exact accounts.carries rolls.carries rolls.loadError
  | @reloaded stats _ refused loads rolls =>
    rw [if_pos ⟨refused, rolls.loadError⟩, (load_eq_ok loads).2.1, accounts.closed refused]
    have opened : Accounts calendar
        { manager with limit := stats.limitBytes, stats := stats, loadError := none }
        (.of calendar stats) [] := Accounts.opened stats rfl
    exact opened.carries rolls.carries rolls.loadError
  | refused refused fails =>
    rw [if_neg (fun both => nomatch both.2)]
    exact ⟨accounts.up, accounts.down, accounts.past, accounts.earlier,
      fun _ => accounts.closed refused⟩

/-- A charge of the current week is one of the committed bytes. -/
theorem Accounts.charged (accounts : Accounts calendar manager opening charges) (charge : Charge)
    (date : next.stats.date = manager.stats.date) (loaded : next.loadError = none)
    (week : charge.week = weekOf calendar next.stats)
    (up : next.stats.upBytes =
      manager.stats.upBytes + (if charge.direction = .upload then charge.bytes else 0))
    (down : next.stats.downBytes =
      manager.stats.downBytes + (if charge.direction = .download then charge.bytes else 0)) :
    Accounts calendar next opening (charge :: charges) := by
  have same : weekOf calendar next.stats = weekOf calendar manager.stats := by
    rw [weekOf, weekOf, date]
  have beforeUp := accounts.up
  have beforeDown := accounts.down
  refine ⟨?_, ?_, ?_, ?_, ?_⟩
  · rw [up, same, chargedBytes_cons, week, same]
    simp only [and_true]
    omega
  · rw [down, same, chargedBytes_cons, week, same]
    simp only [and_true]
    omega
  · rw [same]
    exact accounts.past
  · intro other member
    rcases List.mem_cons.mp member with rfl | old
    · exact Int.le_of_eq week
    · rw [same]
      exact accounts.earlier other old
  · rw [loaded]
    intro impossible
    cases impossible

end Accounts

/-! ## The reservations -/

/-- Every reservation has a number of its own.  It has a charge when it is
completed, and a hold otherwise. -/
structure Issued (manager : BandwidthManager) (reservations : List BandwidthReservation)
    (charges : List Charge) : Prop where
  separate : (reservations.map (·.id)).Nodup
  known : forall reservation, reservation ∈ reservations -> reservation.id ≤ manager.nextId
  issued : forall charge, charge ∈ charges -> charge.id ≤ manager.nextId
  once : (charges.map (·.id)).Nodup
  completed : forall reservation, reservation ∈ reservations ->
    (reservation.completed = true ↔ reservation.id ∈ charges.map (·.id))
  running : forall reservation, reservation ∈ reservations -> reservation.completed = false ->
    reservation.id ∈ manager.holds.map (·.id)

section Issued

variable {calendar : Calendar} {manager next : BandwidthManager} {surroundings : Surroundings}
  {reservations : List BandwidthReservation} {charges : List Charge}

theorem Issued.frame (issued : Issued manager reservations charges)
    (holds : next.holds.map (·.id) = manager.holds.map (·.id)) (nextId : next.nextId = manager.nextId) :
    Issued next reservations charges := by
  refine ⟨issued.separate, ?_, ?_, issued.once, issued.completed, ?_⟩
  · rw [nextId]
    exact issued.known
  · rw [nextId]
    exact issued.issued
  · rw [holds]
    exact issued.running

theorem prepare_holds (sound : Sound calendar manager) (surroundings : Surroundings) :
    (manager.prepare calendar surroundings).1.holds = manager.holds ∧
      (manager.prepare calendar surroundings).1.nextId = manager.nextId := by
  have prepares := (prepare_prepares manager surroundings sound.valid).1
  generalize (manager.prepare calendar surroundings).1 = next at prepares
  cases prepares with
  | rolled loaded rolls | reloaded refused loads rolls => exact ⟨rolls.holds, rolls.nextId⟩
  | refused refused fails => exact ⟨rfl, rfl⟩

theorem Issued.reserved (issued : Issued manager reservations charges) {hold : Hold}
    (fresh : hold.id = manager.nextId + 1) (nextId : next.nextId = manager.nextId + 1)
    (holds : next.holds = hold :: manager.holds) :
    Issued next (⟨manager.nextId + 1, false⟩ :: reservations) charges := by
  have absent : manager.nextId + 1 ∉ charges.map (·.id) := by
    intro inside
    rcases List.mem_map.mp inside with ⟨charge, member, same⟩
    have before := issued.issued charge member
    omega
  refine ⟨List.nodup_cons.mpr ⟨?_, issued.separate⟩, ?_, ?_, issued.once, ?_, ?_⟩
  · intro inside
    rcases List.mem_map.mp inside with ⟨reservation, member, same⟩
    exact absurd same (Nat.ne_of_lt (Nat.lt_succ_of_le (issued.known reservation member)))
  · rw [nextId]
    intro reservation member
    rcases List.mem_cons.mp member with rfl | old
    · exact Nat.le_refl _
    · exact Nat.le_succ_of_le (issued.known reservation old)
  · rw [nextId]
    exact fun charge member => Nat.le_succ_of_le (issued.issued charge member)
  · intro reservation member
    rcases List.mem_cons.mp member with rfl | old
    · exact ⟨nofun, fun inside => absurd inside absent⟩
    · exact issued.completed reservation old
  · rw [holds, List.map_cons, fresh]
    intro reservation member open_
    rcases List.mem_cons.mp member with rfl | old
    · exact List.mem_cons_self
    · exact List.mem_cons_of_mem _ (issued.running reservation old open_)

theorem mem_release_ids {id other : Nat} (different : other ≠ id)
    (member : other ∈ manager.holds.map (·.id)) :
    other ∈ (manager.release id).holds.map (·.id) := by
  rcases List.mem_map.mp member with ⟨hold, inside, rfl⟩
  exact List.mem_map_of_mem (List.mem_filter.mpr ⟨inside, decide_eq_true different⟩)

theorem Issued.dropped (issued : Issued manager reservations charges) (id : Nat)
    (holds : next.holds = manager.holds ∨ next.holds = (manager.release id).holds)
    (nextId : next.nextId = manager.nextId) :
    Issued next (reservations.filter fun other => other.id ≠ id) charges := by
  have sublist : (reservations.filter fun other => other.id ≠ id).Sublist reservations :=
    List.filter_sublist
  refine ⟨issued.separate.sublist (sublist.map _), ?_, ?_, issued.once,
    fun reservation member => issued.completed reservation (sublist.subset member), ?_⟩
  · rw [nextId]
    exact fun reservation member => issued.known reservation (sublist.subset member)
  · rw [nextId]
    exact issued.issued
  · intro reservation member open_
    have listed := issued.running reservation (sublist.subset member) open_
    rcases holds with same | released
    · rw [same]
      exact listed
    · rw [released]
      exact mem_release_ids (of_decide_eq_true (List.mem_filter.mp member).2) listed

theorem Issued.charged (issued : Issued manager reservations charges) (charge : Charge)
    (listed : charge.id ∈ reservations.map (·.id)) (fresh : charge.id ∉ charges.map (·.id))
    (holds : next.holds = (manager.release charge.id).holds) (nextId : next.nextId = manager.nextId) :
    Issued next
      (reservations.map fun reservation =>
        if reservation.id = charge.id then { reservation with completed := true } else reservation)
      (charge :: charges) := by
  have ids : (reservations.map fun reservation => if reservation.id = charge.id then
      { reservation with completed := true } else reservation).map (·.id) = reservations.map (·.id) := by
    rw [List.map_map]
    refine List.map_congr_left fun reservation _ => ?_
    simp only [Function.comp_apply]
    split <;> rfl
  refine ⟨ids.symm ▸ issued.separate, ?_, ?_, List.nodup_cons.mpr ⟨fresh, issued.once⟩, ?_, ?_⟩
  · rw [nextId]
    intro reservation member
    have inside : reservation.id ∈ reservations.map (·.id) := ids ▸ List.mem_map_of_mem member
    rcases List.mem_map.mp inside with ⟨before, old, same⟩
    exact same ▸ issued.known before old
  · rw [nextId]
    intro other member
    rcases List.mem_cons.mp member with rfl | old
    · rcases List.mem_map.mp listed with ⟨before, old, same⟩
      exact same ▸ issued.known before old
    · exact issued.issued other old
  · intro reservation member
    rcases List.mem_map.mp member with ⟨before, old, rfl⟩
    rw [List.map_cons]
    by_cases same : before.id = charge.id
    · rw [if_pos same]
      exact ⟨fun _ => same ▸ List.mem_cons_self, fun _ => rfl⟩
    · rw [if_neg same, List.mem_cons]
      exact (issued.completed before old).trans ⟨.inr, fun inside => inside.resolve_left same⟩
  · intro reservation member open_
    rcases List.mem_map.mp member with ⟨before, old, rfl⟩
    rw [holds]
    by_cases same : before.id = charge.id
    · rw [if_pos same] at open_
      cases open_
    · rw [if_neg same] at open_ ⊢
      exact mem_release_ids same (issued.running before old open_)

end Issued

/-! ## The invariant -/

structure Balanced (calendar : Calendar) (state : Bandwidth) : Prop where
  sound : Sound calendar state.manager
  accounts : Accounts calendar state.manager state.opening state.charges
  issued : Issued state.manager state.reservations state.charges

section Steps

variable {calendar : Calendar} {state next : Bandwidth} {event : BandwidthEvent}

theorem start_balanced (file : StoredFile) (read : Option String) (today : Int) :
    Balanced calendar (.start calendar file read today) :=
  ⟨start_sound file read today, Accounts.opened _ rfl, ⟨.nil, nofun, nofun, .nil, nofun, nofun⟩⟩

/-- What an operation leaves of the prepared manager, apart from a charge. -/
structure Follows (middle next : BandwidthManager) : Prop where
  date : next.stats.date = middle.stats.date
  up : next.stats.upBytes = middle.stats.upBytes
  down : next.stats.downBytes = middle.stats.downBytes
  loadError : next.loadError = middle.loadError

theorem Opening.after_congr {opening : Opening} {before middle next : BandwidthManager}
    (loadError : next.loadError = middle.loadError) :
    opening.after calendar before next = opening.after calendar before middle := by
  rw [Opening.after, loadError, ← Opening.after]

theorem Opening.after_self (opening : Opening) (manager : BandwidthManager) :
    opening.after calendar manager manager = opening := by
  unfold Opening.after
  rw [if_neg]
  rintro ⟨refused, loaded⟩
  rw [loaded] at refused
  cases refused

theorem moveTo_accounts (balanced : Balanced calendar state) (surroundings : Surroundings)
    {next : BandwidthManager}
    (follows : Follows (state.manager.prepare calendar surroundings).1 next) :
    Accounts calendar next (state.moveTo calendar next).opening state.charges := by
  have prepared := prepare_accounts surroundings balanced.sound balanced.accounts
  rw [Bandwidth.moveTo, Opening.after_congr follows.loadError]
  exact prepared.frame follows.date follows.up follows.down follows.loadError

/-! ## The steps -/

variable (calendar) in
theorem reserve_follows (manager : BandwidthManager) (surroundings : Surroundings)
    (direction : ReservationDirection) (bytes : Nat) :
    Follows (manager.prepare calendar surroundings).1
      (manager.reserve calendar surroundings direction bytes).1 := by
  have reserves := (reserve_reserves calendar manager surroundings direction bytes).1
  generalize manager.reserve calendar surroundings direction bytes = result at reserves
  cases reserves <;> exact ⟨rfl, rfl, rfl, rfl⟩

variable (calendar) in
theorem resize_follows (manager : BandwidthManager) (surroundings : Surroundings) (id bytes : Nat) :
    Follows (manager.prepare calendar surroundings).1
        (manager.resize calendar surroundings id bytes).1 ∧
      (manager.resize calendar surroundings id bytes).1.holds.map (·.id) =
        (manager.prepare calendar surroundings).1.holds.map (·.id) ∧
      (manager.resize calendar surroundings id bytes).1.nextId =
        (manager.prepare calendar surroundings).1.nextId := by
  have resizes := (resize_resizes calendar manager surroundings id bytes).1
  generalize manager.resize calendar surroundings id bytes = result at resizes
  cases resizes with
  | refused error | unsaved failure error => exact ⟨⟨rfl, rfl, rfl, rfl⟩, rfl, rfl⟩
  | resized found fits limit => exact ⟨⟨rfl, rfl, rfl, rfl⟩, map_resize_ids _ _ _, rfl⟩

variable (calendar) in
theorem setLimit_follows (manager : BandwidthManager) (surroundings : Surroundings) (bytes : Nat) :
    (manager.setLimit calendar surroundings bytes).1 = manager ∨
      (Follows (manager.prepare calendar surroundings).1
          (manager.setLimit calendar surroundings bytes).1 ∧
        (manager.setLimit calendar surroundings bytes).1.holds =
          (manager.prepare calendar surroundings).1.holds ∧
        (manager.setLimit calendar surroundings bytes).1.nextId =
          (manager.prepare calendar surroundings).1.nextId) := by
  refine Or.imp And.left (fun sets => ?_) (setLimit_setsLimit calendar manager surroundings bytes)
  generalize (manager.setLimit calendar surroundings bytes).1 = next at *
  generalize (manager.setLimit calendar surroundings bytes).2.isOk = success at *
  cases sets <;> exact ⟨⟨rfl, rfl, rfl, rfl⟩, rfl, rfl⟩

/-- A hold that is committed is charged in full, whether this is saved or not. -/
theorem commit_charges (sound : Sound calendar state.manager) (surroundings : Surroundings) {id : Nat}
    (listed : id ∈ state.manager.holds.map (·.id)) :
    Exists fun hold => Exists fun stats => Exists fun failure =>
      state.manager.hold? id = some hold ∧ hold.id = id ∧
      BandwidthManager.charge (state.manager.prepare calendar surroundings).1.stats hold = some stats ∧
      (state.manager.prepare calendar surroundings).1.loadError = none ∧
      (state.manager.commit calendar surroundings id).1 =
        (({ (state.manager.prepare calendar surroundings).1.release id with stats := stats }).persist
          failure).1 := by
  have prepared := prepare_sound surroundings sound
  have commits := commit_commits calendar state.manager surroundings id
  have holds := (prepare_holds sound surroundings).1
  rcases List.mem_map.mp listed with ⟨hold, member, rfl⟩
  have found := hold?_of_mem sound.distinct member
  have there : (state.manager.prepare calendar surroundings).1.hold? hold.id = some hold := by
    rw [BandwidthManager.hold?, holds]
    exact found
  have loaded : (state.manager.prepare calendar surroundings).1.loadError = none := by
    rw [← Option.not_isSome_iff_eq_none]
    intro refused
    rw [← holds, (prepared.closed refused).1] at member
    cases member
  generalize state.manager.commit calendar surroundings hold.id = result at commits
  generalize (state.manager.prepare calendar surroundings).1 = middle at *
  cases commits with
  | expired absent =>
    rw [there] at absent
    cases absent
  | overflowed same large => exact absurd large (prepared.charge_ne_none same)
  | charged same charges =>
    rw [there] at same
    cases same
    exact ⟨hold, _, none, found, rfl, charges, loaded, rfl⟩
  | unsaved same charges failure error =>
    rw [there] at same
    cases same
    exact ⟨hold, _, some failure, found, rfl, charges, loaded, rfl⟩

theorem persist_fields (manager : BandwidthManager) (failure : Option String) :
    (manager.persist failure).1.stats = manager.stats ∧
      (manager.persist failure).1.holds = manager.holds ∧
      (manager.persist failure).1.nextId = manager.nextId ∧
      (manager.persist failure).1.loadError = manager.loadError := by
  cases failure <;> exact ⟨rfl, rfl, rfl, rfl⟩

theorem commit_of_hold {surroundings : Surroundings} {id : Nat} {hold : Hold}
    (found : state.manager.hold? id = some hold) :
    state.commit calendar surroundings id =
      { manager := (state.manager.commit calendar surroundings id).1
        reservations := state.complete id
        opening := state.opening.after calendar state.manager
          (state.manager.commit calendar surroundings id).1
        charges := ⟨id, hold.bytes, hold.direction,
          weekOf calendar (state.manager.commit calendar surroundings id).1.stats⟩ :: state.charges } := by
  rw [Bandwidth.commit, found]
  rfl

theorem commit_balanced (balanced : Balanced calendar state) (surroundings : Surroundings)
    {reservation : BandwidthReservation} (member : reservation ∈ state.reservations)
    (open_ : reservation.completed = false) :
    Balanced calendar (state.commit calendar surroundings reservation.id) := by
  have listed := balanced.issued.running reservation member open_
  have absent : reservation.id ∉ state.charges.map (·.id) := fun inside => by
    rw [(balanced.issued.completed reservation member).mpr inside] at open_
    cases open_
  have sound := commit_sound balanced.sound surroundings reservation.id
  have accounts := prepare_accounts surroundings balanced.sound balanced.accounts
  have issued := balanced.issued.frame
    (congrArg (List.map (·.id)) (prepare_holds balanced.sound surroundings).1)
    (prepare_holds balanced.sound surroundings).2
  rcases commit_charges balanced.sound surroundings listed with
    ⟨hold, stats, failure, found, same, charges, loaded, committed⟩
  have kept := persist_fields { (state.manager.prepare calendar surroundings).1.release reservation.id
    with stats := stats } failure
  rw [← committed] at kept
  rcases kept with ⟨newStats, newHolds, newId, newError⟩
  rcases charge_eq_some charges with ⟨date, up, down⟩
  rw [commit_of_hold found]
  refine ⟨sound, ?_, issued.charged ⟨reservation.id, hold.bytes, hold.direction, _⟩
    (List.mem_map_of_mem member) absent newHolds newId⟩
  have opening : state.opening.after calendar state.manager
      (state.manager.commit calendar surroundings reservation.id).1 =
      state.opening.after calendar state.manager (state.manager.prepare calendar surroundings).1 :=
    Opening.after_congr newError
  rw [opening]
  refine accounts.charged _ (by rw [newStats, date]) (newError.trans loaded) rfl ?_ ?_
  · rw [newStats, up]
  · rw [newStats, down]

theorem bandwidthMachine_balanced (balanced : Balanced calendar state)
    (moved : (bandwidthMachine calendar).step state event = some next) : Balanced calendar next := by
  rcases balanced with ⟨sound, accounts, issued⟩
  have whole : Balanced calendar state := ⟨sound, accounts, issued⟩
  cases event with
  | reserve surroundings direction bytes =>
    have follows := reserve_follows calendar state.manager surroundings direction bytes
    have kept := reserve_sound sound surroundings direction bytes
    have reserves := (reserve_reserves calendar state.manager surroundings direction bytes).1
    have holds := prepare_holds sound surroundings
    simp only [bandwidthMachine] at moved
    generalize state.manager.reserve calendar surroundings direction bytes = result at *
    generalize ready : (state.manager.prepare calendar surroundings).1 = middle at *
    cases reserves with
    | refused error | unsaved failure error =>
      cases moved
      exact ⟨kept, moveTo_accounts whole surroundings (ready ▸ follows),
        issued.frame (congrArg _ holds.1) holds.2⟩
    | held fits limit =>
      cases moved
      refine ⟨kept, moveTo_accounts whole surroundings (ready ▸ follows), ?_⟩
      have prepared : Issued middle state.reservations state.charges :=
        issued.frame (congrArg _ holds.1) holds.2
      exact prepared.reserved rfl rfl rfl
  | resize surroundings id bytes =>
    simp only [bandwidthMachine] at moved
    split at moved <;> cases moved
    rcases resize_follows calendar state.manager surroundings id bytes with
      ⟨follows, ids, nextId⟩
    have holds := prepare_holds sound surroundings
    exact ⟨resize_sound sound surroundings id bytes, moveTo_accounts whole surroundings follows,
      issued.frame (ids.trans (congrArg _ holds.1)) (nextId.trans holds.2)⟩
  | commit surroundings id =>
    simp only [bandwidthMachine] at moved
    split at moved
    · cases moved
    next reservation found =>
      have same : reservation.id = id := by simpa using List.find?_some found
      subst same
      split at moved <;> cases moved
      · exact whole
      next open_ =>
        exact commit_balanced whole surroundings (List.mem_of_find?_eq_some found)
          (Bool.eq_false_iff.mpr open_)
  | drop id =>
    simp only [bandwidthMachine] at moved
    split at moved
    · cases moved
    next reservation found =>
      cases moved
      by_cases completed : reservation.completed = true
      · simp only [completed, if_true]
        exact ⟨sound, accounts, issued.dropped id (.inl rfl) rfl⟩
      · simp only [completed]
        exact ⟨sound.release id, accounts.frame rfl rfl rfl rfl, issued.dropped id (.inr rfl) rfl⟩
  | setLimit surroundings bytes =>
    cases moved
    have kept := setLimit_sound sound surroundings bytes
    rcases setLimit_follows calendar state.manager surroundings bytes with
      same | ⟨follows, ids, nextId⟩
    · unfold Bandwidth.moveTo
      rw [same, Opening.after_self]
      exact whole
    · have holds := prepare_holds sound surroundings
      exact ⟨kept, moveTo_accounts whole surroundings follows,
        issued.frame (congrArg _ (ids.trans holds.1)) (nextId.trans holds.2)⟩
  | check surroundings =>
    cases moved
    rw [checkedStats_fst]
    have holds := prepare_holds sound surroundings
    exact ⟨prepare_sound surroundings sound, moveTo_accounts whole surroundings ⟨rfl, rfl, rfl, rfl⟩,
      issued.frame (congrArg _ holds.1) holds.2⟩
  | repair file =>
    simp only [bandwidthMachine] at moved
    split at moved
    next refused =>
      cases moved
      refine ⟨⟨sound.valid, sound.bounded, sound.distinct, sound.numbered, sound.closed,
        fun loaded => ?_, fun loaded => ?_⟩, accounts.frame rfl rfl rfl rfl, issued.frame rfl rfl⟩
      all_goals
        change state.manager.loadError = none at loaded
        rw [loaded] at refused
        cases refused
    · cases moved

/-! ## What every run keeps -/

/-- Once the statistics are loaded, they stay so, and charges are only added. -/
theorem bandwidthMachine_loaded (balanced : Balanced calendar state)
    (loaded : state.manager.loadError = none)
    (moved : (bandwidthMachine calendar).step state event = some next) :
    next.manager.loadError = none ∧ next.opening = state.opening ∧ state.charges <:+ next.charges := by
  have prepared (surroundings : Surroundings) :
      (state.manager.prepare calendar surroundings).1.loadError = none := by
    have prepares := (prepare_prepares state.manager surroundings balanced.sound.valid).1
    generalize (state.manager.prepare calendar surroundings).1 = middle at prepares
    cases prepares with
    | rolled _ rolls => exact rolls.loadError.trans loaded
    | reloaded refused loads rolls => exact rolls.loadError
    | refused refused fails =>
      rw [loaded] at refused
      cases refused
  have opening (middle : BandwidthManager) :
      state.opening.after calendar state.manager middle = state.opening := by
    rw [Opening.after, if_neg]
    rw [loaded]
    exact fun both => nomatch both.1
  have same : state.charges <:+ state.charges := List.suffix_refl _
  cases event with
  | reserve surroundings direction bytes =>
    have follows := reserve_follows calendar state.manager surroundings direction bytes
    have after := follows.loadError.trans (prepared surroundings)
    simp only [bandwidthMachine] at moved
    split at moved
    next answer =>
      cases moved
      rw [answer] at after
      exact ⟨after, opening _, same⟩
    next answer =>
      cases moved
      rw [answer] at after
      exact ⟨after, opening _, same⟩
  | resize surroundings id bytes =>
    simp only [bandwidthMachine] at moved
    split at moved <;> cases moved
    have follows := (resize_follows calendar state.manager surroundings id bytes).1
    exact ⟨follows.loadError.trans (prepared surroundings), opening _, same⟩
  | commit surroundings id =>
    simp only [bandwidthMachine] at moved
    split at moved
    · cases moved
    next reservation found =>
      split at moved <;> cases moved
      · exact ⟨loaded, rfl, same⟩
      next open_ =>
        refine ⟨?_, opening _, List.suffix_append _ _⟩
        have id_ : reservation.id = id := by simpa using List.find?_some found
        subst id_
        rcases commit_charges balanced.sound surroundings (balanced.issued.running reservation
          (List.mem_of_find?_eq_some found) (Bool.eq_false_iff.mpr open_)) with
          ⟨hold, stats, failure, -, -, -, -, committed⟩
        change (state.manager.commit calendar surroundings reservation.id).1.loadError = none
        rw [committed, (persist_fields _ failure).2.2.2]
        exact prepared surroundings
  | drop id =>
    simp only [bandwidthMachine] at moved
    split at moved <;> cases moved
    refine ⟨?_, rfl, same⟩
    split <;> exact loaded
  | setLimit surroundings bytes =>
    cases moved
    refine ⟨?_, opening _, same⟩
    rcases setLimit_follows calendar state.manager surroundings bytes with
      unchanged | ⟨follows, -, -⟩
    · change (state.manager.setLimit calendar surroundings bytes).1.loadError = none
      rw [unchanged]
      exact loaded
    · exact follows.loadError.trans (prepared surroundings)
  | check surroundings =>
    cases moved
    rw [checkedStats_fst]
    exact ⟨prepared surroundings, opening _, same⟩
  | repair file =>
    simp only [bandwidthMachine, loaded] at moved
    cases moved

theorem chargedBytes_mono {charges more : List Charge} (suffix : charges <:+ more)
    (direction : ReservationDirection) (week : Int) :
    chargedBytes charges direction week ≤ chargedBytes more direction week := by
  rcases suffix with ⟨extra, rfl⟩
  rw [chargedBytes, chargedBytes, List.filter_append, List.map_append, List.sum_append]
  exact Nat.le_add_left _ _

/-- Within a week the committed bytes never decrease. -/
theorem run_committed_mono {permitted : Bandwidth -> BandwidthEvent -> Prop}
    {events : List BandwidthEvent} {later : Bandwidth} (balanced : Balanced calendar state)
    (run : (bandwidthMachine calendar).Run permitted state events later)
    (week : weekOf calendar later.manager.stats = weekOf calendar state.manager.stats) :
    state.manager.stats.upBytes ≤ later.manager.stats.upBytes ∧
      state.manager.stats.downBytes ≤ later.manager.stats.downBytes := by
  by_cases loaded : state.manager.loadError = none
  · have kept : Balanced calendar later ∧ later.manager.loadError = none ∧
        later.opening = state.opening ∧ state.charges <:+ later.charges := by
      refine run.invariant (fun later => Balanced calendar later ∧ later.manager.loadError = none ∧
        later.opening = state.opening ∧ state.charges <:+ later.charges)
        (fun middle event next _ before moved => ?_) ⟨balanced, loaded, rfl, List.suffix_refl _⟩
      rcases before with ⟨sound, open_, opening, suffix⟩
      have after := bandwidthMachine_loaded sound open_ moved
      exact ⟨bandwidthMachine_balanced sound moved, after.1, after.2.1.trans opening,
        suffix.trans after.2.2⟩
    rcases kept with ⟨after, -, opening, suffix⟩
    have up := after.accounts.up
    have down := after.accounts.down
    rw [opening, week] at up down
    rw [up, down, balanced.accounts.up, balanced.accounts.down]
    exact ⟨Nat.add_le_add_left (chargedBytes_mono suffix _ _) _,
      Nat.add_le_add_left (chargedBytes_mono suffix _ _) _⟩
  · have closed := balanced.sound.closed (Option.ne_none_iff_isSome.mp loaded)
    rw [closed.2.1, closed.2.2]
    exact ⟨Nat.zero_le _, Nat.zero_le _⟩

end Steps

end Transfers
end TelegramDrive
