import TelegramDrive.Transfers.PacedLanes

namespace TelegramDrive
namespace Transfers
namespace Pacing

/-!
# What holds of the traffic through a pacer

Any number of waiters take turns, give up their tickets and see the policy
change, in any order.  The invariant says of each lane what one lane keeps, and
of the tickets that each charges the bytes of its waiter and that no two
waiters of a lane have tickets of one number.
-/

theorem Readings.le_granted {readings : Readings} {clock : Rat} (follows : readings.follow clock = true) :
    clock ≤ readings.granted := by
  unfold Readings.follow at follows
  rw [decide_eq_true_eq] at follows
  linarith

namespace Waiter

theorem tickets_leave (waiter : Waiter) (ending : Ending) :
    (waiter.leave ending).tickets = waiter.tickets := by
  simp [leave, tickets]

theorem ending_of_idle {waiter : Waiter} (idle : waiter.idle = true) : waiter.ending = none := by
  unfold Waiter.idle at idle
  rw [Bool.and_eq_true, Option.isNone_iff_eq_none] at idle
  exact idle.2

/-- The waiter's own ticket with this number, whatever its grant. -/
def Has (waiter : Waiter) (ticket : Ticket) : Prop :=
  Exists fun held => held ∈ waiter.tickets ∧ held.lane = ticket.lane ∧ held.id = ticket.id

theorem mem_hold {waiter : Waiter} {live : Policy} {id : Nat} {granted : Bool} {ticket : Ticket}
    (member : ticket ∈ (waiter.hold live id granted).tickets) :
    waiter.Has ticket ∨ ticket.id = id ∧ ticket.lane = waiter.direction := by
  unfold hold at member
  split at member
  · exact Or.inl ⟨ticket, member, rfl, rfl⟩
  · rcases List.mem_append.mp member with old | new
    · exact Or.inl ⟨ticket, old, rfl, rfl⟩
    · simp only [Option.toList_some, List.mem_singleton] at new
      subst new
      exact Or.inr ⟨rfl, rfl⟩

theorem mem_markGranted {waiter : Waiter} {ticket : Ticket}
    (member : ticket ∈ waiter.markGranted.tickets) : waiter.Has ticket := by
  rcases List.mem_append.mp member with old | new
  · exact ⟨ticket, List.mem_append_left _ old, rfl, rfl⟩
  · change ticket ∈ (waiter.ticket.map fun ticket => { ticket with granted := true }).toList at new
    rw [Option.mem_toList, Option.map_eq_some_iff] at new
    rcases new with ⟨held, has, rfl⟩
    refine ⟨held, List.mem_append_right _ ?_, rfl, rfl⟩
    rw [Option.mem_toList]
    exact has

theorem mem_settle {waiter : Waiter} {live : Policy} {pass : Pass} {ticket : Ticket}
    (member : ticket ∈ (waiter.settle live pass).tickets) :
    waiter.Has ticket ∨ Exists fun granted => pass = .queued ticket.id granted ∧
      ticket.lane = waiter.direction := by
  cases pass with
  | refused error =>
    change ticket ∈ (waiter.leave _).tickets at member
    rw [tickets_leave] at member
    exact Or.inl ⟨ticket, member, rfl, rfl⟩
  | unqueued =>
    unfold settle at member
    dsimp only at member
    split at member
    · rw [tickets_leave] at member
      exact Or.inl ⟨ticket, member, rfl, rfl⟩
    · refine Or.inl ⟨ticket, ?_, rfl, rfl⟩
      simpa [tickets] using member
  | queued id granted =>
    unfold settle at member
    dsimp only at member
    split at member
    · rw [tickets_leave] at member
      rcases mem_markGranted member with ⟨held, has, lane, number⟩
      rcases mem_hold has with ⟨old, mine, oldLane, oldNumber⟩ | ⟨new, side⟩
      · exact Or.inl ⟨old, mine, oldLane.trans lane, oldNumber.trans number⟩
      · refine Or.inr ⟨granted, ?_, lane.symm.trans side⟩
        rw [← number, new]
    · rcases mem_hold member with old | ⟨new, side⟩
      · exact Or.inl old
      · refine Or.inr ⟨granted, ?_, side⟩
        rw [new]

theorem direction_settle (waiter : Waiter) (live : Policy) (pass : Pass) :
    (waiter.settle live pass).direction = waiter.direction ∧
      (waiter.settle live pass).bytes = waiter.bytes := by
  cases pass with
  | refused error => exact ⟨rfl, rfl⟩
  | unqueued =>
    unfold settle
    dsimp only
    split
    · exact ⟨rfl, rfl⟩
    · exact ⟨rfl, rfl⟩
  | queued id granted =>
    unfold settle hold
    dsimp only
    split
    · split
      · exact ⟨rfl, rfl⟩
      · exact ⟨rfl, rfl⟩
    · split
      · exact ⟨rfl, rfl⟩
      · exact ⟨rfl, rfl⟩

end Waiter

/-! ## The invariant -/

namespace State

/-- A ticket of a waiter is for the lane of its direction, was given out there,
and charges its bytes. -/
def Owns (state : State) (waiter : Waiter) (ticket : Ticket) : Prop :=
  ticket.lane = waiter.direction ∧ ticket.id ≤ (state.lane waiter.direction).nextId ∧
    (state.lane waiter.direction).Charges ticket.id waiter.bytes

/-- What holds in every state that a pacer reaches. -/
structure Sound (state : State) : Prop where
  lanes : forall direction, (state.lane direction).Paced state.clock
  owns : forall (index : Nat) (waiter : Waiter), state.waiters[index]? = some waiter ->
    forall ticket, ticket ∈ waiter.tickets -> state.Owns waiter ticket
  apart : forall (index other : Nat) (one two : Waiter), state.waiters[index]? = some one ->
    state.waiters[other]? = some two -> index ≠ other -> one.direction = two.direction ->
    forall ticket, ticket ∈ one.tickets -> forall held, held ∈ two.tickets -> ticket.id ≠ held.id

theorem start_sound (clock : Rat) (config : NetworkConfig) : (start clock config).Sound where
  lanes := by
    have empty := Lane.paced_unused clock
    intro direction
    cases direction with
    | upload | download => exact empty
  owns := by
    intro index waiter found
    cases found
  apart := by
    intro index other one two found
    cases found

/-- A step that leaves every lane as it is, gives no waiter a new ticket and only
lets time pass. -/
structure Quiet (state next : State) : Prop where
  lanes : forall direction, next.lane direction = state.lane direction
  after : state.clock ≤ next.clock
  same : forall (index : Nat) (waiter : Waiter), next.waiters[index]? = some waiter ->
    waiter.tickets = [] ∨ Exists fun old => state.waiters[index]? = some old ∧
      old.direction = waiter.direction ∧ old.bytes = waiter.bytes ∧
        forall ticket, ticket ∈ waiter.tickets -> ticket ∈ old.tickets

variable {state next : State}

theorem quiet_of_waiters (uploads : next.uploads = state.uploads)
    (downloads : next.downloads = state.downloads) (waiters : next.waiters = state.waiters)
    (after : state.clock ≤ next.clock) : Quiet state next where
  lanes := by
    intro direction
    cases direction with
    | upload => exact uploads
    | download => exact downloads
  after := after
  same := by
    intro index waiter found
    rw [waiters] at found
    exact Or.inr ⟨waiter, found, rfl, rfl, fun ticket member => member⟩

section Steps

variable {state : State} (sound : state.Sound)

include sound

theorem Sound.quiet {next : State} (quiet : Quiet state next) : next.Sound where
  lanes := by
    intro direction
    rw [quiet.lanes]
    exact (sound.lanes direction).later quiet.after
  owns := by
    intro index waiter found ticket member
    rcases quiet.same index waiter found with none | ⟨old, was, side, size, kept⟩
    · rw [none] at member
      cases member
    · have owned := sound.owns index old was ticket (kept ticket member)
      unfold Owns at owned ⊢
      rw [quiet.lanes, ← side, ← size]
      exact owned
  apart := by
    intro index other one two first second different side ticket member held has
    rcases quiet.same index one first with none | ⟨oldOne, wasOne, sideOne, _, keptOne⟩
    · rw [none] at member
      cases member
    rcases quiet.same other two second with none | ⟨oldTwo, wasTwo, sideTwo, _, keptTwo⟩
    · rw [none] at has
      cases has
    exact sound.apart index other oldOne oldTwo wasOne wasTwo different
      (sideOne.trans (side.trans sideTwo.symm)) ticket (keptOne ticket member) held (keptTwo held has)

theorem Sound.replace {next : State} {index : Nat} {waiter fresh : Waiter}
    (found : state.waiters[index]? = some waiter) (waiters : next.waiters = state.waiters.set index fresh)
    (lanes : forall direction, (next.lane direction).Paced next.clock)
    (side : fresh.direction = waiter.direction)
    (frame : forall direction, (state.lane direction).nextId ≤ (next.lane direction).nextId ∧
      forall id size, id ≤ (state.lane direction).nextId -> (state.lane direction).Charges id size ->
        (next.lane direction).Charges id size)
    (mine : forall ticket, ticket ∈ fresh.tickets -> next.Owns fresh ticket ∧
      (waiter.Has ticket ∨ (state.lane waiter.direction).nextId < ticket.id)) : next.Sound := by
  have among : forall (other : Nat) (held : Waiter), next.waiters[other]? = some held ->
      other = index ∧ held = fresh ∨ other ≠ index ∧ state.waiters[other]? = some held := by
    intro other held there
    rw [waiters, List.getElem?_set] at there
    split at there
    next same =>
      split at there
      · cases there
        exact Or.inl ⟨same.symm, rfl⟩
      · cases there
    next different => exact Or.inr ⟨fun same => different same.symm, there⟩
  have distinct : forall (other : Nat) (held : Waiter), state.waiters[other]? = some held -> other ≠ index ->
      held.direction = waiter.direction -> forall ticket, ticket ∈ fresh.tickets ->
        forall kept, kept ∈ held.tickets -> ticket.id ≠ kept.id := by
    intro other held there different same ticket member kept has
    rcases (mine ticket member).2 with ⟨old, was, _, number⟩ | new
    · rw [← number]
      exact sound.apart index other waiter held found there different.symm same.symm old was kept has
    · have counted := (sound.owns other held there kept has).2.1
      rw [same] at counted
      omega
  constructor
  · exact lanes
  · intro other held there ticket member
    rcases among other held there with ⟨_, rfl⟩ | ⟨_, was⟩
    · exact (mine ticket member).1
    · rcases sound.owns other held was ticket member with ⟨lane, counted, charges⟩
      have kept := frame held.direction
      exact ⟨lane, le_trans counted kept.1, kept.2 ticket.id held.bytes counted charges⟩
  · intro one two oneHeld twoHeld first second different same ticket member held has
    rcases among one oneHeld first with ⟨here, rfl⟩ | ⟨away, wasOne⟩
    · rcases among two twoHeld second with ⟨there, rfl⟩ | ⟨there, wasTwo⟩
      · exact absurd (here.trans there.symm) different
      · exact distinct two twoHeld wasTwo there (same.symm.trans side) ticket member held has
    · rcases among two twoHeld second with ⟨there, rfl⟩ | ⟨there, wasTwo⟩
      · exact (distinct one oneHeld wasOne away (same.trans side) held has ticket member).symm
      · exact sound.apart one two oneHeld twoHeld wasOne wasTwo different same ticket member held has

theorem Sound.passed {index : Nat} {waiter : Waiter} (live : Policy) {readings : Readings}
    (found : state.waiters[index]? = some waiter) (follows : readings.follow state.clock = true) :
    Lane.Passed (state.lane waiter.direction) live waiter.ticket waiter.bytes readings
      ((state.lane waiter.direction).pass live waiter.ticket waiter.bytes readings).1
      ((state.lane waiter.direction).pass live waiter.ticket waiter.bytes readings).2 := by
  apply Lane.pass_passed live (sound.lanes waiter.direction) _ follows
  intro held has
  have member : held ∈ waiter.tickets := by
    apply List.mem_append_right
    rw [has]
    exact List.mem_singleton_self held
  rcases sound.owns index waiter found held member with ⟨_, counted, charges⟩
  exact ⟨charges, counted⟩

theorem Sound.turn {index : Nat} {waiter : Waiter} {live : Policy} {readings : Readings}
    (found : state.waiters[index]? = some waiter) (follows : readings.follow state.clock = true) :
    (state.turn index waiter live readings).Sound := by
  have passed := sound.passed live found follows
  have past : state.clock ≤ readings.granted := Readings.le_granted follows
  have lane : forall direction, (state.turn index waiter live readings).lane direction =
      if direction = waiter.direction then
        ((state.lane waiter.direction).pass live waiter.ticket waiter.bytes readings).1
      else state.lane direction := by
    intro direction
    exact lane_setLane state waiter.direction direction _
  have settled := waiter.direction_settle live
    ((state.lane waiter.direction).pass live waiter.ticket waiter.bytes readings).2
  apply sound.replace found rfl
  · intro direction
    rw [lane]
    split
    · exact passed.paced
    · exact (sound.lanes direction).later past
  · exact settled.1
  · intro direction
    rw [lane]
    split
    next same =>
      subst same
      exact ⟨passed.nextId_le, passed.frame⟩
    · exact ⟨le_refl _, fun id size _ charges => charges⟩
  · intro ticket member
    unfold Owns
    rw [settled.1, settled.2, lane, if_pos rfl]
    rcases Waiter.mem_settle member with old | ⟨granted, queued, side⟩
    · rcases old with ⟨held, has, side, number⟩
      rcases sound.owns index waiter found held has with ⟨mine, counted, charges⟩
      rw [← side, ← number]
      exact ⟨⟨mine, le_trans counted passed.nextId_le, passed.frame _ _ counted charges⟩,
        Or.inl ⟨held, has, side, number⟩⟩
    · rcases passed.charges ticket.id granted queued with ⟨charges, counted, ⟨held, has, number⟩ | new⟩
      · have member : held ∈ waiter.tickets := by
          apply List.mem_append_right
          rw [has]
          exact List.mem_singleton_self held
        have mine := (sound.owns index waiter found held member).1
        exact ⟨⟨side, counted, charges⟩, Or.inl ⟨held, member, mine.trans side.symm, number⟩⟩
      · exact ⟨⟨side, counted, charges⟩, Or.inr new⟩

theorem Sound.dropTicket {index : Nat} {waiter : Waiter} {ticket : Ticket} {rest : List Ticket} {now : Rat}
    (found : state.waiters[index]? = some waiter) (first : waiter.dropping = ticket :: rest)
    (after : state.clock ≤ now) : (state.dropTicket index waiter ticket rest now).Sound := by
  have lane : forall direction, (state.dropTicket index waiter ticket rest now).lane direction =
      if direction = ticket.lane then (state.lane ticket.lane).drop ticket now else state.lane direction := by
    intro direction
    exact lane_setLane state ticket.lane direction _
  have frame : forall direction, (state.lane direction).nextId ≤
        ((state.dropTicket index waiter ticket rest now).lane direction).nextId ∧
      forall id size, id ≤ (state.lane direction).nextId -> (state.lane direction).Charges id size ->
        ((state.dropTicket index waiter ticket rest now).lane direction).Charges id size := by
    intro direction
    rw [lane]
    split
    next same =>
      subst same
      exact ⟨le_of_eq (Lane.drop_nextId _ _ _).symm,
        fun id size _ charges => Lane.drop_charges charges ticket now⟩
    · exact ⟨le_refl _, fun id size _ charges => charges⟩
  apply sound.replace found rfl
  · intro direction
    rw [lane]
    split
    · exact Lane.drop_paced (sound.lanes ticket.lane) after ticket
    · exact (sound.lanes direction).later after
  · rfl
  · exact frame
  · intro held member
    have had : held ∈ waiter.tickets := by
      unfold Waiter.tickets
      rw [first]
      exact List.mem_cons_of_mem ticket member
    rcases sound.owns index waiter found held had with ⟨side, counted, charges⟩
    have kept := frame waiter.direction
    exact ⟨⟨side, le_trans counted kept.1, kept.2 _ _ counted charges⟩, Or.inl ⟨held, had, rfl, rfl⟩⟩

end Steps

/-! ## What a step can do -/

theorem turn_ok {index : Nat} {civil : CivilTime} {readings : Readings}
    (moved : state.step (.turn index civil readings) = some next) :
    Exists fun waiter => state.waiters[index]? = some waiter ∧ waiter.idle = true ∧
      readings.follow state.clock = true ∧ next = state.turn index waiter (state.live civil waiter.direction) readings := by
  unfold State.step at moved
  dsimp only at moved
  split at moved
  · cases moved
  next waiter found =>
    split at moved
    next ready =>
      cases moved
      rw [Bool.and_eq_true] at ready
      exact ⟨waiter, found, ready.1, ready.2, rfl⟩
    · cases moved

theorem drop_ok {index : Nat} {now : Rat} (moved : state.step (.drop index now) = some next) :
    Exists fun waiter => Exists fun ticket => Exists fun rest => state.waiters[index]? = some waiter ∧
      waiter.dropping = ticket :: rest ∧ state.clock ≤ now ∧
        next = state.dropTicket index waiter ticket rest now := by
  unfold State.step at moved
  dsimp only at moved
  split at moved
  · cases moved
  next waiter found =>
    split at moved
    · cases moved
    next ticket rest first =>
      split at moved
      next after =>
        cases moved
        exact ⟨waiter, ticket, rest, found, first, after, rfl⟩
      · cases moved

theorem call_quiet (state : State) (direction : Direction) (bytes : Nat) :
    Quiet state { state with
      waiters := state.waiters ++ [.start direction bytes] } where
  lanes := by
    intro direction
    cases direction <;> rfl
  after := le_refl _
  same := by
    intro index waiter found
    rw [List.getElem?_append] at found
    split at found
    · exact Or.inr ⟨waiter, found, rfl, rfl, fun ticket member => member⟩
    · rw [List.getElem?_singleton] at found
      split at found
      · cases found
        exact Or.inl rfl
      · cases found

theorem cancel_quiet {index : Nat} {waiter : Waiter} (found : state.waiters[index]? = some waiter) :
    Quiet state { state with
      waiters := state.waiters.set index (waiter.leave .cancelled) } where
  lanes := by
    intro direction
    cases direction <;> rfl
  after := le_refl _
  same := by
    intro other held there
    rw [List.getElem?_set] at there
    split at there
    next same =>
      subst same
      split at there
      · cases there
        refine Or.inr ⟨waiter, found, rfl, rfl, ?_⟩
        intro ticket member
        rwa [Waiter.tickets_leave] at member
      · cases there
    · exact Or.inr ⟨held, there, rfl, rfl, fun ticket member => member⟩

/-- A step is a pass, the drop of a ticket, or quiet. -/
theorem step_cases {event : Event} (moved : state.step event = some next) :
    (Exists fun index => Exists fun civil => Exists fun readings => event = .turn index civil readings) ∨
      (Exists fun index => Exists fun now => event = .drop index now) ∨ Quiet state next := by
  cases event with
  | turn index civil readings => exact Or.inl ⟨index, civil, readings, rfl⟩
  | drop index now => exact Or.inr (Or.inl ⟨index, now, rfl⟩)
  | call direction bytes =>
    change (if bytes = 0 then _ else _) = _ at moved
    split at moved
    · cases moved
    · cases moved
      exact Or.inr (Or.inr (call_quiet state direction bytes))
  | cancel index =>
    unfold State.step at moved
    dsimp only at moved
    split at moved
    · cases moved
    next waiter found =>
      split at moved
      · cases moved
        exact Or.inr (Or.inr (cancel_quiet found))
      · cases moved
  | configure config | changed =>
    cases moved
    exact Or.inr (Or.inr (quiet_of_waiters rfl rfl rfl (le_refl _)))
  | wait now =>
    change (if state.clock ≤ now then _ else _) = _ at moved
    split at moved
    next after =>
      cases moved
      exact Or.inr (Or.inr (quiet_of_waiters rfl rfl rfl after))
    · cases moved

theorem step_sound {event : Event} (sound : state.Sound)
    (moved : state.step event = some next) : next.Sound := by
  rcases step_cases moved with ⟨index, civil, readings, rfl⟩ | ⟨index, now, rfl⟩ | quiet
  · rcases turn_ok moved with ⟨waiter, found, _, follows, rfl⟩
    exact sound.turn found follows
  · rcases drop_ok moved with ⟨waiter, ticket, rest, found, first, after, rfl⟩
    exact sound.dropTicket found first after
  · exact sound.quiet quiet

theorem run_sound {permitted : State -> Event -> Prop} {final : State} {events : List Event}
    (run : machine.Run permitted state events final) (sound : state.Sound) : final.Sound :=
  run.invariant Sound (fun _ _ _ _ sound moved => step_sound sound moved) sound

end State

/-! ## A period under one policy -/

/-- Every pass for this direction reads this policy. -/
def Reads (direction : Direction) (live : Policy) (state : State) : Event -> Prop
  | .turn index civil _ => forall waiter, state.waiters[index]? = some waiter ->
      waiter.direction = direction -> state.live civil direction = live
  | _ => True

/-- The grants that a step adds to a lane are given under the policy read, and after
the step began. -/
def Adds (direction : Direction) (live : Policy) (state next : State) : Prop :=
  state.clock ≤ next.clock ∧ Exists fun block =>
    (next.lane direction).history = (state.lane direction).history ++ block ∧
      forall grant, grant ∈ block -> grant.policy = live ∧ state.clock ≤ grant.granted

variable {state final : State} {direction : Direction}

theorem adds_none {live : Policy} {next : State} (after : state.clock ≤ next.clock)
    (same : (next.lane direction).history = (state.lane direction).history) :
    Adds direction live state next := by
  refine ⟨after, [], ?_, ?_⟩
  · rw [same, List.append_nil]
  · intro grant member
    cases member

theorem Adds.trans {live : Policy} {first middle : State}
    (early : Adds direction live first middle) (late : Adds direction live middle final) :
    Adds direction live first final := by
  rcases early with ⟨before, one, added, ones⟩
  rcases late with ⟨after, two, more, twos⟩
  refine ⟨le_trans before after, one ++ two, ?_, ?_⟩
  · rw [more, added, List.append_assoc]
  · intro grant member
    rcases List.mem_append.mp member with member | member
    · exact ones grant member
    · have given := twos grant member
      exact ⟨given.1, le_trans before given.2⟩

theorem step_adds {live : Policy} {next : State} {event : Event}
    (sound : state.Sound) (reads : Reads direction live state event)
    (moved : state.step event = some next) : Adds direction live state next := by
  rcases State.step_cases moved with ⟨index, civil, readings, rfl⟩ | ⟨index, now, rfl⟩ | quiet
  · rcases State.turn_ok moved with ⟨waiter, found, _, follows, rfl⟩
    have passed := sound.passed (state.live civil waiter.direction) found follows
    have after : state.clock ≤ readings.granted := Readings.le_granted follows
    have lane := state.lane_setLane waiter.direction direction
      ((state.lane waiter.direction).pass (state.live civil waiter.direction) waiter.ticket waiter.bytes readings).1
    by_cases mine : direction = waiter.direction
    · rw [if_pos mine] at lane
      have read := reads waiter found mine.symm
      subst mine
      rcases passed.history with same | ⟨grant, added, policy, _, moment⟩
      · exact adds_none after ((congrArg Lane.history lane).trans same)
      · refine ⟨after, [grant], (congrArg Lane.history lane).trans added, ?_⟩
        intro one member
        rw [List.mem_singleton] at member
        subst member
        rw [policy, moment]
        exact ⟨read, after⟩
    · rw [if_neg mine] at lane
      exact adds_none after (congrArg Lane.history lane)
  · rcases State.drop_ok moved with ⟨waiter, ticket, rest, found, first, after, rfl⟩
    apply adds_none after
    refine (congrArg Lane.history (state.lane_setLane ticket.lane direction _)).trans ?_
    split
    next same =>
      subst same
      exact Lane.drop_history _ _ _
    · rfl
  · exact adds_none quiet.after (congrArg Lane.history (quiet.lanes direction))

theorem run_adds {live : Policy} {events : List Event}
    (run : machine.Run (Reads direction live) state events final) (sound : state.Sound) :
    Adds direction live state final := by
  induction run with
  | stop state => exact adds_none (le_refl _) rfl
  | take reads moved later ih =>
    exact (step_adds sound reads moved).trans (ih (State.step_sound sound moved))

/-- All but the first of the grants in a period fit into its length at the rate. -/
theorem Adds.bounded {live : Policy} (sound : final.Sound)
    (adds : Adds direction live state final) : Exists fun block =>
      (final.lane direction).history = (state.lane direction).history ++ block ∧
        (block.map fun grant => (grant.bytes : Rat)).sum ≤
          (live.rate : Rat) * (final.clock - state.clock) +
            ((block.take 1).map fun grant => (grant.bytes : Rat)).sum := by
  rcases adds with ⟨after, block, added, given⟩
  refine ⟨block, added, ?_⟩
  cases block with
  | nil =>
    have length : 0 ≤ (live.rate : Rat) * (final.clock - state.clock) :=
      mul_nonneg (Nat.cast_nonneg _) (sub_nonneg.mpr after)
    simpa using length
  | cons first rest =>
    have paced := sound.lanes direction
    have within : forall grant, grant ∈ first :: rest -> grant ∈ (final.lane direction).history := by
      intro grant member
      rw [added]
      exact List.mem_append_right _ member
    have rate : live.rate ≠ 0 := by
      have allowed := (paced.permitted first (within first List.mem_cons_self)).2
      rwa [(given first List.mem_cons_self).1] at allowed
    have positive : (0 : Rat) < (live.rate : Rat) := Nat.cast_pos.mpr (Nat.pos_of_ne_zero rate)
    have chain : (first :: rest).IsChain Grant.Spaced := by
      have chain := paced.spaced
      rw [added, List.isChain_append] at chain
      exact chain.2.1
    have even : (first :: rest).IsChain fun one two =>
        one.granted + (two.bytes : Rat) / (live.rate : Rat) ≤ two.granted := by
      refine List.IsChain.imp_of_mem_imp ?_ chain
      intro one two _ second spaced
      unfold Grant.Spaced at spaced
      rw [(given two second).1] at spaced
      exact le_trans spaced (paced.checked_le two (within two second))
    have bound := Spacing.sum_le_of_spaced positive first rest even
    rcases Spacing.last_eq (fun grant : Grant => grant.granted) first rest with ⟨latest, member, same⟩
    rw [same] at bound
    have begun := (given first List.mem_cons_self).2
    have ended := le_trans (paced.granted_le latest (within latest member)) paced.cursor_le
    have length : (live.rate : Rat) * (latest.granted - first.granted) ≤
        (live.rate : Rat) * (final.clock - state.clock) := by
      apply mul_le_mul_of_nonneg_left _ (le_of_lt positive)
      linarith
    simp only [List.map_cons, List.sum_cons, List.take_succ_cons, List.take_zero, List.map_nil, List.sum_nil]
    linarith

/-! ## Rate and order -/

/-- Two grants in a row are at least the time of the second apart. -/
def Rated (lane : Lane) : Prop :=
  forall before first second rest, lane.history = before ++ first :: second :: rest ->
    (second.bytes : Rat) / (second.policy.rate : Rat) ≤ second.checked - first.granted ∧
      second.checked ≤ second.granted

/-- As long as every pass reads one policy, what is granted fits into the time at its
rate, but for one chunk. -/
def BoundedPeriods (direction : Direction) (state : State) : Prop :=
  forall live events final, machine.Run (Reads direction live) state events final ->
    Exists fun block => (final.lane direction).history = (state.lane direction).history ++ block ∧
      (block.map fun grant => (grant.bytes : Rat)).sum ≤
        (live.rate : Rat) * (final.clock - state.clock) +
          ((block.take 1).map fun grant => (grant.bytes : Rat)).sum

/-- A pass that reads a paused policy grants nothing and lets no one go on. -/
def PausedWhenTold (direction : Direction) (state : State) : Prop :=
  forall (index : Nat) (civil : CivilTime) (readings : Readings) (waiter : Waiter) (next : State),
    state.waiters[index]? = some waiter -> waiter.direction = direction ->
      (state.live civil direction).pause = true ->
        state.step (.turn index civil readings) = some next ->
          (next.lane direction).history = (state.lane direction).history ∧
            Exists fun asleep => next.waiters[index]? = some asleep ∧ asleep.ending = none

/-- When a ticket is granted, no ticket that was before it in the queue is still
waiting, nor was or will one be granted after it. -/
def GrantedInOrder (direction : Direction) (state : State) : Prop :=
  forall events final, machine.Run Machine.anything state events final ->
    forall first second, List.Sublist [first, second] (state.lane direction).queue ->
      second.id ∈ ((final.lane direction).history.map fun grant => grant.id) ->
        first.id ∉ ((final.lane direction).queue.map fun queued => queued.id) ∧
          ¬ List.Sublist [second.id, first.id] ((final.lane direction).history.map fun grant => grant.id)

/-- A waiter that goes, or gives up a ticket, leaves the places of the others alone. -/
def KeepsOthers (state : State) : Prop :=
  forall (index : Nat) (now : Rat) (next : State),
    state.step (.cancel index) = some next ∨ state.step (.drop index now) = some next ->
      forall (other : Nat) (waiter : Waiter), other ≠ index -> state.waiters[other]? = some waiter ->
        forall ticket, ticket ∈ waiter.tickets ->
          forall queued, queued ∈ (state.lane ticket.lane).queue -> queued.id = ticket.id ->
            queued ∈ (next.lane ticket.lane).queue

theorem State.Sound.rated (sound : state.Sound) (direction : Direction) :
    Rated (state.lane direction) := by
  intro before first second rest history
  have paced := sound.lanes direction
  constructor
  · have spaced := paced.spaced
    rw [history, List.isChain_append] at spaced
    have pair := (List.isChain_cons_cons.mp spaced.2.1).1
    unfold Grant.Spaced at pair
    linarith
  · apply paced.checked_le
    rw [history]
    exact List.mem_append_right _ (List.mem_cons_of_mem first List.mem_cons_self)

theorem pausedWhenTold (state : State) (direction : Direction) : PausedWhenTold direction state := by
  intro index civil readings waiter next found side paused moved
  rcases State.turn_ok moved with ⟨one, has, idle, _, rfl⟩
  rw [found] at has
  cases has
  subst side
  have still := Lane.pass_paused (state.lane waiter.direction) paused waiter.ticket waiter.bytes readings
  constructor
  · refine (congrArg Lane.history (state.lane_setLane waiter.direction waiter.direction _)).trans ?_
    rw [if_pos rfl]
    exact still.1
  · refine ⟨waiter.settle (state.live civil waiter.direction) .unqueued, ?_, ?_⟩
    · change (state.waiters.set index _)[index]? = _
      rw [still.2, List.getElem?_set, if_pos rfl, if_pos (List.getElem?_eq_some_iff.mp found).1]
    · have on := Waiter.ending_of_idle idle
      unfold Waiter.settle
      dsimp only
      have waits : ¬ ((state.live civil waiter.direction).pause = false ∧
          (state.live civil waiter.direction).rate = 0) := by
        rw [paused]
        intro stopped
        cases stopped.1
      rw [if_neg waits]
      exact on

theorem State.Sound.grantedInOrder (sound : state.Sound) (direction : Direction) :
    GrantedInOrder direction state := by
  intro events final run first second pair granted
  have early : first.id < second.id := by
    have ordered := (sound.lanes direction).ordered
    have queue := (List.pairwise_append.mp ordered).2.1
    have two := queue.sublist (pair.map fun queued => queued.id)
    exact List.rel_of_pairwise_cons two (List.mem_singleton_self _)
  have ordered := ((State.run_sound run sound).lanes direction).ordered
  rcases List.pairwise_append.mp ordered with ⟨inOrder, _, past⟩
  constructor
  · intro waiting
    have late := past second.id granted first.id waiting
    omega
  · intro turned
    have late := List.rel_of_pairwise_cons (inOrder.sublist turned) (List.mem_singleton_self _)
    omega

theorem State.Sound.keepsOthers (sound : state.Sound) : KeepsOthers state := by
  intro index now next moved other waiter different found ticket member queued there same
  rcases moved with moved | moved
  · rcases State.step_cases moved with ⟨_, _, _, odd⟩ | ⟨_, _, odd⟩ | quiet
    · cases odd
    · cases odd
    · rw [quiet.lanes]
      exact there
  · rcases State.drop_ok moved with ⟨going, dropped, rest, has, first, after, rfl⟩
    have mine : dropped ∈ going.tickets := by
      unfold Waiter.tickets
      rw [first]
      exact List.mem_cons_self
    have side := (sound.owns other waiter found ticket member).1
    have goingSide := (sound.owns index going has dropped mine).1
    have lane := state.lane_setLane dropped.lane ticket.lane ((state.lane dropped.lane).drop dropped now)
    refine (congrArg (queued ∈ ·) (congrArg Lane.queue lane)).mpr ?_
    split
    next lanes =>
      rw [lanes] at there
      apply Lane.drop_keeps now there
      rw [same]
      exact sound.apart other index waiter going found has different
        (side.symm.trans (lanes.trans goingSide)) ticket member dropped mine
    · exact there

/-- In every state a pacer reaches, through any turns of its waiters, cancellations and
changes of the policy, grants keep the rate of their policy and the order of the queue. -/
theorem paced_traffic {clock : Rat} {config : NetworkConfig} {state : State}
    (reached : machine.Reachable (.start clock config) state) :
    (forall direction, Rated (state.lane direction) ∧ BoundedPeriods direction state ∧
      PausedWhenTold direction state ∧ GrantedInOrder direction state) ∧ KeepsOthers state := by
  have sound : state.Sound := by
    rcases reached with ⟨events, run⟩
    exact State.run_sound run (State.start_sound clock config)
  constructor
  · intro direction
    refine ⟨sound.rated direction, ?_, pausedWhenTold state direction, sound.grantedInOrder direction⟩
    intro live events final run
    exact (run_adds run sound).bounded (State.run_sound run sound)
  · exact sound.keepsOthers

/-! ### Two uploads at one kilobyte per second -/

def exampleConfig : NetworkConfig := ⟨1, 0, true, []⟩

def exampleReadings (now : Rat) : Readings := ⟨now, now, now, now⟩

def exampleEvents : List Event :=
  [.call .upload 2048, .call .upload 1024, .call .upload 4096, .turn 0 ⟨0, 0⟩ (exampleReadings 0),
    .turn 1 ⟨0, 0⟩ (exampleReadings 1), .turn 2 ⟨0, 0⟩ (exampleReadings 1), .turn 0 ⟨0, 0⟩ (exampleReadings 2),
    .cancel 2, .drop 2 2, .turn 1 ⟨0, 0⟩ (exampleReadings (5 / 2)), .turn 1 ⟨0, 0⟩ (exampleReadings 3)]

/-- The second upload is granted one second after the first. -/
theorem paced_traffic_here :
    Exists fun state => ((state.lane .upload).history.map fun grant => (grant.bytes, grant.granted)) =
        [(2048, 2), (1024, 3)] ∧
      (forall direction, Rated (state.lane direction) ∧ BoundedPeriods direction state ∧
        PausedWhenTold direction state ∧ GrantedInOrder direction state) ∧ KeepsOthers state := by
  have happened : ((machine.replay (.start 0 exampleConfig) exampleEvents).any fun state =>
      decide (((state.lane .upload).history.map fun grant => (grant.bytes, grant.granted)) =
        [(2048, 2), (1024, 3)])) = true := by
    decide +kernel
  exact (Machine.exists_run happened).imp fun state ⟨run, granted⟩ => ⟨granted, paced_traffic ⟨exampleEvents, run⟩⟩

end Pacing
end Transfers
end TelegramDrive
