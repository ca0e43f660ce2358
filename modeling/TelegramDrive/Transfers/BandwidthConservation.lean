import TelegramDrive.Transfers.BandwidthLedger

namespace TelegramDrive
namespace Transfers

/-!
# What the weekly quota guarantees

A check that finds nothing to change saves nothing.  On a new installation it
therefore succeeds without a file, and the statistics are those that a missing
file stands for.  Apart from that, an operation that succeeds leaves a file that
equals the statistics in memory.
-/

section Steps

variable {calendar : Calendar} {state next : Bandwidth} {event : BandwidthEvent}

theorem Carries.follows {stats : BandwidthStats} {middle next : BandwidthManager}
    (carries : Carries calendar stats middle.stats) (follows : Follows middle next) :
    Carries calendar stats next.stats := by
  have week : weekOf calendar next.stats = weekOf calendar middle.stats := by
    rw [weekOf, weekOf, follows.date]
  unfold Carries
  rw [week, follows.up, follows.down]
  exact carries

theorem refused_prepare {manager : BandwidthManager} (sound : Sound calendar manager)
    (refused : manager.loadError.isSome = true) (surroundings : Surroundings) :
    (Exists fun stats => manager.file = .stats stats ∧
        Carries calendar stats (manager.prepare calendar surroundings).1.stats) ∨
      Exists fun left => Exists fun error =>
        manager.prepare calendar surroundings = (left, .error error) ∧
        left.loadError.isSome = true ∧ left.file = manager.file ∧ left.stats = manager.stats := by
  have prepares := prepare_prepares manager surroundings sound.valid
  generalize manager.prepare calendar surroundings = result at *
  rcases result with ⟨left, answer⟩
  rcases prepares with ⟨prepares, ready⟩
  change Prepares calendar manager surroundings left at prepares
  cases prepares with
  | rolled loaded rolls =>
    rw [loaded] at refused
    cases refused
  | reloaded _ loads rolls => exact .inl ⟨_, (load_eq_ok loads).2.1, rolls.carries⟩
  | refused _ fails =>
    cases answer with
    | error error => exact .inr ⟨_, error, rfl, rfl, rfl, rfl⟩
    | ok _ => cases (ready rfl).1

theorem refused_step (balanced : Balanced calendar state)
    (refused : state.manager.loadError.isSome = true)
    (moved : (bandwidthMachine calendar).step state event = some next)
    (noRepair : forall file, event ≠ .repair file) :
    (next.manager.loadError.isSome = true ∧ next.manager.file = state.manager.file ∧
        next.manager.stats = state.manager.stats) ∨
      Exists fun stats => state.manager.file = .stats stats ∧
        Carries calendar stats next.manager.stats := by
  have uncharged := balanced.accounts.closed refused
  have unreserved : state.reservations = [] := by
    refine List.eq_nil_iff_forall_not_mem.mpr fun reservation member => ?_
    by_cases completed : reservation.completed = true
    · have listed := (balanced.issued.completed reservation member).mp completed
      rw [uncharged] at listed
      cases listed
    · have listed := balanced.issued.running reservation member (Bool.eq_false_iff.mpr completed)
      rw [(balanced.sound.closed refused).1] at listed
      cases listed
  cases event with
  | reserve surroundings direction bytes =>
    have after : next.manager =
        (state.manager.reserve calendar surroundings direction bytes).1 := by
      simp only [bandwidthMachine] at moved
      split at moved
      all_goals
        next answer =>
          cases moved
          rw [answer]
          rfl
    rw [after]
    rcases refused_prepare balanced.sound refused surroundings with
      ⟨stats, file, carries⟩ | ⟨left, error, stops, kept⟩
    · exact .inr ⟨stats, file, carries.follows (reserve_follows calendar _ _ _ _)⟩
    · rw [BandwidthManager.reserve, stops]
      exact .inl kept
  | resize surroundings id bytes =>
    simp only [bandwidthMachine, unreserved, List.map_nil, List.not_mem_nil, if_false] at moved
    cases moved
  | commit surroundings id | drop id =>
    simp only [bandwidthMachine, unreserved, List.find?_nil] at moved
    cases moved
  | setLimit surroundings bytes =>
    cases moved
    change ((state.manager.setLimit calendar surroundings bytes).1.loadError.isSome = true ∧ _) ∨ _
    rcases setLimit_follows calendar state.manager surroundings bytes with
      same | ⟨follows, -, -⟩
    · exact .inl ⟨same.symm ▸ refused, congrArg _ same, congrArg _ same⟩
    · rcases refused_prepare balanced.sound refused surroundings with
        ⟨stats, file, carries⟩ | ⟨left, error, stops, kept⟩
      · exact .inr ⟨stats, file, carries.follows follows⟩
      · by_cases zero : bytes = 0
        · have same : (state.manager.setLimit calendar surroundings bytes).1 = state.manager := by
            rw [BandwidthManager.setLimit, if_pos zero]
          exact .inl ⟨same.symm ▸ refused, congrArg _ same, congrArg _ same⟩
        · have same : (state.manager.setLimit calendar surroundings bytes).1 = left := by
            rw [BandwidthManager.setLimit, if_neg zero, stops]
            rfl
          exact .inl ⟨same.symm ▸ kept.1, (congrArg _ same).trans kept.2.1,
            (congrArg _ same).trans kept.2.2⟩
  | check surroundings =>
    cases moved
    rw [checkedStats_fst]
    rcases refused_prepare balanced.sound refused surroundings with
      ⟨stats, file, carries⟩ | ⟨left, error, stops, kept⟩
    · exact .inr ⟨stats, file, carries⟩
    · rw [stops]
      exact .inl kept
  | repair file => exact absurd rfl (noRepair file)

/-- The guarantees, in one state. -/
structure Conserved (calendar : Calendar) (state : Bandwidth) : Prop where
  /-- No reservation is charged twice. -/
  once : (state.charges.map (·.id)).Nodup
  /-- A reservation is charged exactly when it was committed. -/
  completed : forall reservation, reservation ∈ state.reservations ->
    (reservation.completed = true ↔ reservation.id ∈ state.charges.map (·.id))
  /-- The committed bytes of the week are those loaded and those charged in it. -/
  up : state.manager.stats.upBytes = state.opening.upIn (weekOf calendar state.manager.stats) +
    chargedBytes state.charges .upload (weekOf calendar state.manager.stats)
  down : state.manager.stats.downBytes = state.opening.downIn (weekOf calendar state.manager.stats) +
    chargedBytes state.charges .download (weekOf calendar state.manager.stats)
  /-- A commit charges the hold of its reservation. -/
  commit : forall reservation, reservation ∈ state.reservations -> reservation.completed = false ->
    forall surroundings, Exists fun hold => Exists fun next =>
      state.manager.hold? reservation.id = some hold ∧
      (bandwidthMachine calendar).step state (.commit surroundings reservation.id) = some next ∧
      next.charges = ⟨reservation.id, hold.bytes, hold.direction, weekOf calendar next.manager.stats⟩ ::
        state.charges ∧
      next.manager.holds = (state.manager.release reservation.id).holds
  /-- A second commit changes nothing. -/
  again : forall reservation, reservation ∈ state.reservations -> reservation.completed = true ->
    forall surroundings, (bandwidthMachine calendar).step state (.commit surroundings reservation.id) =
      some state
  /-- A release changes no committed byte and no other hold, and after a commit nothing. -/
  drop : forall reservation, reservation ∈ state.reservations -> Exists fun next =>
    (bandwidthMachine calendar).step state (.drop reservation.id) = some next ∧
      next.charges = state.charges ∧ next.manager.stats = state.manager.stats ∧
      (forall hold, hold ∈ state.manager.holds -> hold.id ≠ reservation.id ->
        hold ∈ next.manager.holds) ∧
      (reservation.completed = true -> next.manager = state.manager)
  /-- The committed bytes and the holds fit a `u64`. -/
  bounded : state.manager.stats.upBytes + state.manager.stats.downBytes + state.manager.held < u64Values
  /-- A reservation stays within the limit in force. -/
  reserve : forall surroundings direction bytes next id,
    state.manager.reserve calendar surroundings direction bytes = (next, .ok id) ->
      next.stats.upBytes + next.stats.downBytes + next.held ≤ next.stats.limitBytes ∧
      next.stats.limitBytes = next.limit
  /-- So does a hold that grows. -/
  resize : forall surroundings hold bytes next, hold ∈ state.manager.holds -> hold.bytes < bytes ->
    state.manager.resize calendar surroundings hold.id bytes = (next, .ok ()) ->
      next.stats.upBytes + next.stats.downBytes + next.held ≤ next.stats.limitBytes ∧
      next.stats.limitBytes = next.limit
  /-- After a success the file equals the statistics in memory. -/
  saved : forall surroundings,
    (forall direction bytes next id,
      state.manager.reserve calendar surroundings direction bytes = (next, .ok id) ->
        next.file = .stats next.stats) ∧
    (forall id bytes next, state.manager.resize calendar surroundings id bytes = (next, .ok ()) ->
      next.file = .stats next.stats) ∧
    (forall bytes next stats,
      state.manager.setLimit calendar surroundings bytes = (next, .ok stats) ->
        next.file = .stats next.stats) ∧
    (forall id next, state.manager.commit calendar surroundings id = (next, .ok ()) ->
      next.file = .stats next.stats) ∧
    forall next stats, state.manager.checkedStats calendar surroundings = (next, .ok stats) ->
      next.file = .stats next.stats ∨
        (next.file = .missing ∧ Exists fun today => next.stats = .default calendar today)
  /-- A file that cannot be read is refused. -/
  unreadable : (Exists fun error => state.manager.file = .unreadable error) ->
    state.manager.loadError.isSome = true
  /-- A refused file is left as it is until its own statistics are loaded. -/
  refused : state.manager.loadError.isSome = true -> forall event next,
    (bandwidthMachine calendar).step state event = some next -> (forall file, event ≠ .repair file) ->
      (next.manager.loadError.isSome = true ∧ next.manager.file = state.manager.file ∧
          next.manager.stats = state.manager.stats) ∨
        Exists fun stats => state.manager.file = .stats stats ∧
          Carries calendar stats next.manager.stats

theorem prepare_ready (sound : Sound calendar state.manager) (surroundings : Surroundings)
    (ok : (state.manager.prepare calendar surroundings).2 = .ok ()) :
    (state.manager.prepare calendar surroundings).1.stats.limitBytes =
      (state.manager.prepare calendar surroundings).1.limit :=
  ((prepare_prepares state.manager surroundings sound.valid).2 ok).2.2

variable (calendar) in
theorem setLimit_saved (manager : BandwidthManager) (surroundings : Surroundings) (bytes : Nat)
    (ok : (manager.setLimit calendar surroundings bytes).2.isOk = true) :
    (manager.setLimit calendar surroundings bytes).1.file =
      .stats (manager.setLimit calendar surroundings bytes).1.stats := by
  rcases setLimit_setsLimit calendar manager surroundings bytes with ⟨-, failed⟩ | sets
  · rw [failed] at ok
    cases ok
  · rw [ok] at sets
    generalize (manager.setLimit calendar surroundings bytes).1 = next at *
    cases sets
    rfl

theorem balanced_conserved (balanced : Balanced calendar state) : Conserved calendar state := by
  have sound := balanced.sound
  have issued := balanced.issued
  have find (reservation : BandwidthReservation) (member : reservation ∈ state.reservations) :
      state.reservations.find? (fun other => other.id = reservation.id) = some reservation :=
    find?_of_mem BandwidthReservation.id issued.separate member
  refine ⟨issued.once, issued.completed, balanced.accounts.up, balanced.accounts.down, ?commit, ?again,
    ?drop, sound.bounded, ?reserve, ?resize, fun surroundings => ⟨?_, ?_, ?_, ?_, ?_⟩, ?unreadable,
    fun refused event next moved noRepair => refused_step balanced refused moved noRepair⟩
  case commit =>
    intro reservation member open_ surroundings
    have listed := issued.running reservation member open_
    rcases commit_charges sound surroundings listed with
      ⟨hold, stats, failure, found, -, -, -, committed⟩
    refine ⟨hold, state.commit calendar surroundings reservation.id, found, ?_, ?_, ?_⟩
    · simp only [bandwidthMachine, find reservation member, open_]
      rfl
    · rw [commit_of_hold found]
    · change (state.manager.commit calendar surroundings reservation.id).1.holds = _
      rw [committed, (persist_fields _ failure).2.1]
      simp only [BandwidthManager.release, (prepare_holds sound surroundings).1]
  case again =>
    intro reservation member completed surroundings
    simp only [bandwidthMachine, find reservation member, completed, if_true]
  case drop =>
    intro reservation member
    have moved : (bandwidthMachine calendar).step state (.drop reservation.id) = some { state with
        manager := if reservation.completed then state.manager else state.manager.release reservation.id
        reservations := state.reservations.filter fun other => other.id ≠ reservation.id } := by
      simp only [bandwidthMachine, find reservation member]
    refine ⟨_, moved, rfl, ?_⟩
    cases completed : reservation.completed with
    | true => exact ⟨rfl, fun _ inside _ => inside, fun _ => rfl⟩
    | false =>
      refine ⟨rfl, fun hold inside different => ?_, fun impossible => by cases impossible⟩
      exact List.mem_filter.mpr ⟨inside, decide_eq_true different⟩
  case reserve =>
    intro surroundings direction bytes next id answer
    rcases reserve_reserves calendar state.manager surroundings direction bytes with ⟨reserves, ok⟩
    rw [answer] at reserves ok
    have limit := prepare_ready sound surroundings (ok rfl)
    generalize (state.manager.prepare calendar surroundings).1 = middle at *
    cases reserves with
    | held fits within =>
      refine ⟨?_, limit⟩
      unfold BandwidthManager.held at within ⊢
      simp only [BandwidthManager.kept, List.map_cons, List.sum_cons]
      omega
  case resize =>
    intro surroundings hold bytes next member grows answer
    rcases resize_resizes calendar state.manager surroundings hold.id bytes with ⟨resizes, ok⟩
    rw [answer] at resizes ok
    have limit := prepare_ready sound surroundings (ok rfl)
    have holds := (prepare_holds sound surroundings).1
    have prepared := prepare_sound surroundings sound
    generalize (state.manager.prepare calendar surroundings).1 = middle at *
    rw [← holds] at member
    cases resizes with
    | resized found fits within =>
      rw [hold?_of_mem prepared.distinct member] at found
      cases found
      refine ⟨?_, limit⟩
      have sum := sum_resize prepared.distinct member bytes
      have total := within grows
      unfold BandwidthManager.held at total ⊢
      simp only [BandwidthManager.kept]
      omega
  case unreadable =>
    rintro ⟨error, file⟩
    by_contra open_
    rcases sound.refuses (Option.not_isSome_iff_eq_none.mp open_) with missing | ⟨stats, found⟩
    · rw [file] at missing
      cases missing
    · rw [file] at found
      cases found
  · intro direction bytes next id answer
    have reserves := (reserve_reserves calendar state.manager surroundings direction bytes).1
    rw [answer] at reserves
    cases reserves
    rfl
  · intro id bytes next answer
    have resizes := (resize_resizes calendar state.manager surroundings id bytes).1
    rw [answer] at resizes
    cases resizes
    rfl
  · intro bytes next stats answer
    have sets := setLimit_saved calendar state.manager surroundings bytes
    rw [answer] at sets
    exact sets rfl
  · intro id next answer
    have commits := commit_commits calendar state.manager surroundings id
    rw [answer] at commits
    cases commits
    rfl
  · intro next stats answer
    have ready := (prepare_prepares state.manager surroundings sound.valid).2
    have prepared := prepare_sound surroundings sound
    have same := checkedStats_fst calendar state.manager surroundings
    unfold BandwidthManager.checkedStats at answer same
    rcases Outcome.andThen_ok (congrArg Prod.snd answer) with ⟨⟨⟩, ok, -⟩
    rw [answer] at same
    change next = _ at same
    rw [same]
    exact prepared.saved (ready ok).1 (ready ok).2.1

end Steps

/-- In every run the accounting is conserved, and within one week the committed
bytes never decrease. -/
theorem bandwidth_accounting_conserves_bytes {calendar : Calendar} {file : StoredFile}
    {read : Option String} {today : Int} {permitted : Bandwidth -> BandwidthEvent -> Prop}
    {events : List BandwidthEvent} {final : Bandwidth}
    (run : (bandwidthMachine calendar).Run permitted (.start calendar file read today) events final) :
    Conserved calendar final ∧
      forall more later, (bandwidthMachine calendar).Run Machine.anything final more later ->
        weekOf calendar later.manager.stats = weekOf calendar final.manager.stats ->
        final.manager.stats.upBytes ≤ later.manager.stats.upBytes ∧
          final.manager.stats.downBytes ≤ later.manager.stats.downBytes := by
  have balanced := run.invariant (Balanced calendar)
    (fun _ _ _ _ before moved => bandwidthMachine_balanced before moved)
    (start_balanced file read today)
  exact ⟨balanced_conserved balanced, fun _ _ onward week => run_committed_mono balanced onward week⟩

/-! ## A new installation -/

/-- A calendar that writes a day as that many marks. -/
def sampleCalendar : Calendar where
  parseFromStr text :=
    some (if text.toList.head? = some '-' then -(text.toList.length : Int) else text.toList.length)
  format
    | .ofNat days => String.ofList (List.replicate days '+')
    | .negSucc days => String.ofList (List.replicate (days + 1) '-')
  parse_format day := by
    cases day with
    | ofNat days => cases days <;> simp [List.replicate_succ]
    | negSucc days => simp [List.replicate_succ, Int.negSucc_eq]

/-- A Monday on which every access to the file succeeds. -/
def sampleSurroundings : Surroundings := ⟨4, none, none, none, none⟩

/-- A check succeeds, and there is still no file. -/
theorem first_check_saves_nothing :
    Exists fun next => Exists fun stats =>
      (Bandwidth.start sampleCalendar .missing none 4).manager.checkedStats sampleCalendar
          sampleSurroundings = (next, .ok stats) ∧
        next.file = .missing ∧ next.file ≠ .stats next.stats := by
  refine ⟨_, _, rfl, ?_, ?_⟩
  · decide +kernel
  · decide +kernel

/-- An upload that is reserved and committed is counted. -/
theorem committed_upload_is_counted :
    Exists fun final =>
      ((bandwidthMachine sampleCalendar).guarded fun _ _ => true).replay
          (.start sampleCalendar .missing none 4)
          [.reserve sampleSurroundings .upload 5, .commit sampleSurroundings 1] = some final ∧
        final.manager.stats.upBytes = 5 := by
  have shape : Exists fun final => ((bandwidthMachine sampleCalendar).guarded fun _ _ => true).replay
      (.start sampleCalendar .missing none 4)
      [.reserve sampleSurroundings .upload 5, .commit sampleSurroundings 1] = some final ∧
        final.opening.upIn (weekOf sampleCalendar final.manager.stats) = 0 ∧
        chargedBytes final.charges .upload (weekOf sampleCalendar final.manager.stats) = 5 := by
    decide +kernel
  rcases shape with ⟨final, replayed, opening, charged⟩
  have conserved := (bandwidth_accounting_conserves_bytes (Machine.run_of_guarded_replay replayed)).1
  refine ⟨final, replayed, ?_⟩
  rw [conserved.up, opening, charged]

end Transfers
end TelegramDrive
