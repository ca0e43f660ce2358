import Mathlib.Data.List.Chain
import TelegramDrive.Transfers.Pacer
import TelegramDrive.Library.Spacing

namespace TelegramDrive
namespace Transfers
namespace Pacing

/-!
# What one lane keeps

The cursor of a lane is never before its last grant, because it is only ever set
to the present.  The head of the queue is granted once its own duration has
passed since the cursor, so two grants in a row are at least the duration of the
second apart.  Tickets are numbered as they are queued and leave at the front.
-/

/-- The second grant came at least its own duration after the first. -/
def Grant.Spaced (first second : Grant) : Prop :=
  first.granted + (second.bytes : Rat) / (second.policy.rate : Rat) ≤ second.checked

namespace Lane

/-- The numbers of the tickets that were granted and of those that still wait. -/
def numbers (lane : Lane) : List Nat :=
  (lane.history.map fun grant => grant.id) ++ lane.queue.map fun queued => queued.id

/-- What holds of a lane at a reading of the clock. -/
structure Paced (lane : Lane) (clock : Rat) : Prop where
  cursor_le : lane.cursor ≤ clock
  granted_le : forall grant, grant ∈ lane.history -> grant.granted ≤ lane.cursor
  checked_le : forall grant, grant ∈ lane.history -> grant.checked ≤ grant.granted
  spaced : lane.history.IsChain Grant.Spaced
  ordered : lane.numbers.Pairwise (· < ·)
  counted : forall number, number ∈ lane.numbers -> number ≤ lane.nextId
  permitted : forall grant, grant ∈ lane.history ->
    grant.policy.pause = false ∧ grant.policy.rate ≠ 0

/-- What waits under this number waits for this many bytes. -/
def Charges (lane : Lane) (id bytes : Nat) : Prop :=
  forall queued, queued ∈ lane.queue -> queued.id = id ->
    queued.duration = (bytes : Rat) / (lane.policy.rate : Rat)

variable {lane placed : Lane} {now clock : Rat}

theorem Paced.later (paced : lane.Paced clock) (after : clock ≤ now) :
    lane.Paced now :=
  { paced with
    cursor_le := le_trans paced.cursor_le after }

theorem paced_unused (clock : Rat) : Paced ⟨.default, clock, [], 0, []⟩ clock where
  cursor_le := le_refl clock
  granted_le := nofun
  checked_le := nofun
  spaced := List.IsChain.nil
  ordered := List.Pairwise.nil
  counted := nofun
  permitted := nofun

/-! ## The live policy -/

theorem adopt_policy (lane : Lane) (policy : Policy) (now : Rat) :
    (lane.adopt policy now).policy = policy := by
  unfold adopt
  split
  next same => exact same
  · rfl

@[simp] theorem adopt_nextId (lane : Lane) (policy : Policy) (now : Rat) :
    (lane.adopt policy now).nextId = lane.nextId := by
  unfold adopt
  split
  · rfl
  · rfl

@[simp] theorem adopt_history (lane : Lane) (policy : Policy) (now : Rat) :
    (lane.adopt policy now).history = lane.history := by
  unfold adopt
  split
  · rfl
  · rfl

theorem adopt_paced (paced : lane.Paced clock) (policy : Policy)
    (after : clock ≤ now) : (lane.adopt policy now).Paced now := by
  unfold adopt
  split
  · exact paced.later after
  · exact {
      cursor_le := le_refl now
      granted_le := by
        intro grant member
        exact le_trans (paced.granted_le grant member) (le_trans paced.cursor_le after)
      checked_le := paced.checked_le
      spaced := paced.spaced
      ordered := by
        have ordered := paced.ordered
        unfold numbers at ordered ⊢
        rw [List.map_nil, List.append_nil]
        exact (List.pairwise_append.mp ordered).1
      counted := by
        intro number member
        unfold numbers at member
        rw [List.map_nil, List.append_nil] at member
        exact paced.counted number (List.mem_append_left _ member)
      permitted := paced.permitted }

variable {id bytes : Nat}

theorem adopt_charges (charges : lane.Charges id bytes)
    (policy : Policy) (now : Rat) : (lane.adopt policy now).Charges id bytes := by
  unfold adopt
  split
  · exact charges
  · intro queued member
    cases member

/-! ## A place in the queue -/

variable {policy : Policy}

theorem enqueue_ok (queued : lane.enqueue policy bytes now = .ok (placed, id)) :
    id = lane.nextId + 1 ∧ placed =
      { lane with
        nextId := id
        cursor := if lane.queue.isEmpty then now else lane.cursor
        queue := lane.queue ++ [⟨id, (bytes : Rat) / (policy.rate : Rat)⟩] } := by
  unfold enqueue at queued
  split at queued
  · cases queued
  · unfold checkedAdd at queued
    split at queued
    · cases queued
    next next found =>
      split at found
      · cases found
        cases queued
        exact ⟨rfl, rfl⟩
      · cases found

theorem place_ok {ticket : Option Ticket} (found : lane.place policy ticket bytes now = .ok (placed, id)) :
    (Exists fun held => ticket = some held ∧ held.policy = policy ∧ held.id = id ∧ placed = lane) ∨
      lane.enqueue policy bytes now = .ok (placed, id) := by
  unfold place at found
  split at found
  next held kept =>
    rcases Option.filter_eq_some_iff.mp kept with ⟨has, stands⟩
    cases found
    unfold holds at stands
    rw [Bool.and_eq_true, decide_eq_true_eq] at stands
    exact Or.inl ⟨held, has, stands.1, rfl, rfl⟩
  · exact Or.inr found

theorem enqueue_paced (paced : lane.Paced clock) (after : clock ≤ now)
    (queued : lane.enqueue policy bytes now = .ok (placed, id)) : placed.Paced now := by
  rcases enqueue_ok queued with ⟨number, rfl⟩
  have cursor : lane.cursor ≤ if lane.queue.isEmpty then now else lane.cursor := by
    split
    · exact le_trans paced.cursor_le after
    · exact le_refl _
  have numbered : numbers
      { lane with
        nextId := id
        cursor := if lane.queue.isEmpty then now else lane.cursor
        queue := lane.queue ++ [⟨id, (bytes : Rat) / (policy.rate : Rat)⟩] } = lane.numbers ++ [id] := by
    simp [numbers]
  exact {
    cursor_le := by
      change (if lane.queue.isEmpty then now else lane.cursor) ≤ now
      split
      · exact le_refl now
      · exact le_trans paced.cursor_le after
    granted_le := by
      intro grant member
      exact le_trans (paced.granted_le grant member) cursor
    checked_le := paced.checked_le
    spaced := paced.spaced
    ordered := by
      rw [numbered, List.pairwise_append]
      refine ⟨paced.ordered, List.pairwise_singleton _ _, ?_⟩
      intro early member late last
      rw [List.mem_singleton] at last
      have counted := paced.counted early member
      omega
    counted := by
      intro one member
      rw [numbered, List.mem_append, List.mem_singleton] at member
      change one ≤ id
      rcases member with member | rfl
      · have counted := paced.counted one member
        omega
      · exact le_refl one
    permitted := paced.permitted }

theorem enqueue_history
    (queued : lane.enqueue policy bytes now = .ok (placed, id)) : placed.history = lane.history := by
  rcases enqueue_ok queued with ⟨number, rfl⟩
  rfl

/-- The new place charges the waiter's bytes, and the others charge what they did. -/
theorem enqueue_charges (paced : lane.Paced clock) (followed : lane.policy = policy)
    (queued : lane.enqueue policy bytes now = .ok (placed, id)) :
    placed.Charges id bytes ∧
      forall other size, other ≤ lane.nextId -> lane.Charges other size -> placed.Charges other size := by
  rcases enqueue_ok queued with ⟨number, rfl⟩
  constructor
  · intro entry member same
    rcases List.mem_append.mp member with old | last
    · exact absurd same (by
        have counted := paced.counted entry.id
          (List.mem_append_right _ (List.mem_map.mpr ⟨entry, old, rfl⟩))
        omega)
    · rw [List.mem_singleton] at last
      subst last
      change (bytes : Rat) / (policy.rate : Rat) = (bytes : Rat) / (lane.policy.rate : Rat)
      rw [followed]
  · intro other size known charges entry member same
    rcases List.mem_append.mp member with old | last
    · exact charges entry old same
    · rw [List.mem_singleton] at last
      subst last
      change id = other at same
      omega

/-! ## A grant -/

theorem grants_spec (granted : lane.grants id now = true) :
    Exists fun head => Exists fun rest => lane.queue = head :: rest ∧ head.id = id ∧
      lane.cursor + head.duration ≤ now := by
  unfold grants at granted
  rw [Bool.and_eq_true] at granted
  rcases granted with ⟨first, due⟩
  rw [decide_eq_true_eq] at due
  cases queue : lane.queue with
  | nil =>
    rw [queue] at first
    cases first
  | cons head rest =>
    rw [queue] at first due
    simp only [List.head?_cons, Option.any_some, decide_eq_true_eq] at first
    unfold deadline at due
    rw [if_pos first] at due
    exact ⟨head, rest, rfl, first, due⟩

theorem numbers_grant (lane : Lane) (bytes : Nat) (readings : Readings) {head : Queued}
    {rest : List Queued} (queue : lane.queue = head :: rest) (front : head.id = id) :
    (lane.grant id bytes readings).numbers = lane.numbers := by
  unfold numbers grant
  rw [queue]
  simp [front]

theorem grant_paced {readings : Readings} (paced : lane.Paced clock) (charges : lane.Charges id bytes)
    (granted : lane.grants id readings.checked = true) (after : clock ≤ readings.checked)
    (ordered : readings.checked ≤ readings.granted)
    (permitted : lane.policy.pause = false ∧ lane.policy.rate ≠ 0) :
    (lane.grant id bytes readings).Paced readings.granted := by
  rcases grants_spec granted with ⟨head, rest, queue, front, due⟩
  have cost : head.duration = (bytes : Rat) / (lane.policy.rate : Rat) :=
    charges head (queue ▸ List.mem_cons_self) front
  have numbered := numbers_grant lane bytes readings queue front
  have past : lane.cursor ≤ readings.granted := le_trans paced.cursor_le (le_trans after ordered)
  exact {
    cursor_le := le_refl readings.granted
    granted_le := by
      intro grant member
      rcases List.mem_append.mp member with old | last
      · exact le_trans (paced.granted_le grant old) past
      · rw [List.mem_singleton] at last
        subst last
        exact le_refl readings.granted
    checked_le := by
      intro grant member
      rcases List.mem_append.mp member with old | last
      · exact paced.checked_le grant old
      · rw [List.mem_singleton] at last
        subst last
        exact ordered
    spaced := by
      refine List.isChain_append.mpr ⟨paced.spaced, List.isChain_singleton _, ?_⟩
      intro first latest second only
      have before := paced.granted_le first (List.mem_of_getLast? latest)
      rw [List.head?_cons, Option.mem_some_iff] at only
      subst only
      change first.granted + (bytes : Rat) / (lane.policy.rate : Rat) ≤ readings.checked
      rw [← cost]
      exact le_trans (by gcongr) due
    ordered := by
      rw [numbered]
      exact paced.ordered
    counted := by
      rw [numbered]
      exact paced.counted
    permitted := by
      intro grant member
      rcases List.mem_append.mp member with old | last
      · exact paced.permitted grant old
      · rw [List.mem_singleton] at last
        subst last
        exact permitted }

theorem grant_charges {other size : Nat} (charges : lane.Charges other size)
    (id bytes : Nat) (readings : Readings) : (lane.grant id bytes readings).Charges other size := by
  intro queued member
  exact charges queued (List.mem_of_mem_tail member)

/-! ## A dropped ticket -/

theorem drop_cases (lane : Lane) (ticket : Ticket) (now : Rat) :
    lane.drop ticket now = lane ∨ Exists fun before => Exists fun entry => Exists fun after =>
      lane.queue = before ++ entry :: after ∧ entry.id = ticket.id ∧
        Exists fun cursor => (cursor = now ∨ cursor = lane.cursor) ∧
          lane.drop ticket now = { lane with
            queue := before ++ after
            cursor := cursor } := by
  unfold drop
  split
  · exact Or.inl rfl
  split
  · cases found : lane.queue.findIdx? fun queued => decide (queued.id = ticket.id) with
    | none => exact Or.inl rfl
    | some position =>
      rcases List.findIdx?_eq_some_iff_getElem.mp found with ⟨inside, same, first⟩
      refine Or.inr ⟨lane.queue.take position, lane.queue.get ⟨position, inside⟩,
        lane.queue.drop (position + 1), ?_, by simpa using same,
        if position = 0 then now else lane.cursor, ?_, ?_⟩
      · rw [List.get_eq_getElem, List.getElem_cons_drop, List.take_append_drop]
      · split
        · exact Or.inl rfl
        · exact Or.inr rfl
      · rw [← List.eraseIdx_eq_take_drop_succ]
  · exact Or.inl rfl

theorem drop_keeps {ticket : Ticket} {queued : Queued} (now : Rat)
    (member : queued ∈ lane.queue) (other : queued.id ≠ ticket.id) :
    queued ∈ (lane.drop ticket now).queue := by
  rcases drop_cases lane ticket now with same | ⟨before, entry, after, queue, number, cursor, _, dropped⟩
  · rw [same]
    exact member
  · rw [dropped]
    rw [queue, List.mem_append, List.mem_cons] at member
    rcases member with early | rfl | late
    · exact List.mem_append_left _ early
    · exact absurd number other
    · exact List.mem_append_right _ late

theorem mem_drop {ticket : Ticket} {queued : Queued}
    (member : queued ∈ (lane.drop ticket now).queue) : queued ∈ lane.queue := by
  rcases drop_cases lane ticket now with same | ⟨before, entry, after, queue, number, cursor, _, dropped⟩
  · rw [same] at member
    exact member
  · rw [dropped] at member
    rw [queue, List.mem_append, List.mem_cons]
    rcases List.mem_append.mp member with early | late
    · exact Or.inl early
    · exact Or.inr (Or.inr late)

@[simp] theorem drop_policy (lane : Lane) (ticket : Ticket) (now : Rat) :
    (lane.drop ticket now).policy = lane.policy := by
  rcases drop_cases lane ticket now with same | ⟨before, entry, after, queue, number, cursor, _, dropped⟩
  · rw [same]
  · rw [dropped]

@[simp] theorem drop_nextId (lane : Lane) (ticket : Ticket) (now : Rat) :
    (lane.drop ticket now).nextId = lane.nextId := by
  rcases drop_cases lane ticket now with same | ⟨before, entry, after, queue, number, cursor, _, dropped⟩
  · rw [same]
  · rw [dropped]

@[simp] theorem drop_history (lane : Lane) (ticket : Ticket) (now : Rat) :
    (lane.drop ticket now).history = lane.history := by
  rcases drop_cases lane ticket now with same | ⟨before, entry, after, queue, number, cursor, _, dropped⟩
  · rw [same]
  · rw [dropped]

theorem drop_charges (charges : lane.Charges id bytes) (ticket : Ticket)
    (now : Rat) : (lane.drop ticket now).Charges id bytes := by
  intro queued member same
  rw [drop_policy]
  exact charges queued (mem_drop member) same

theorem drop_paced (paced : lane.Paced clock) (after : clock ≤ now)
    (ticket : Ticket) : (lane.drop ticket now).Paced now := by
  rcases drop_cases lane ticket now with same | ⟨before, entry, later, queue, number, cursor, set, dropped⟩
  · rw [same]
    exact paced.later after
  · have present : lane.cursor ≤ cursor ∧ cursor ≤ now := by
      have past := le_trans paced.cursor_le after
      rcases set with rfl | rfl
      · exact ⟨past, le_refl cursor⟩
      · exact ⟨le_refl _, past⟩
    have fewer : List.Sublist (lane.drop ticket now).numbers lane.numbers := by
      rw [dropped]
      unfold numbers
      rw [queue]
      refine List.Sublist.append_left (List.Sublist.map _ ?_) _
      exact List.Sublist.append_left (List.sublist_cons_self entry later) before
    exact {
      cursor_le := by
        rw [dropped]
        exact present.2
      granted_le := by
        intro grant member
        rw [drop_history] at member
        rw [dropped]
        exact le_trans (paced.granted_le grant member) present.1
      checked_le := by
        rw [drop_history]
        exact paced.checked_le
      spaced := by
        rw [drop_history]
        exact paced.spaced
      ordered := paced.ordered.sublist fewer
      counted := by
        intro one member
        rw [drop_nextId]
        exact paced.counted one (fewer.subset member)
      permitted := by
        rw [drop_history]
        exact paced.permitted }

/-! ## One pass of a waiter -/

theorem pass_cases (lane : Lane) (live : Policy) (ticket : Option Ticket) (bytes : Nat)
    (readings : Readings) :
    (lane.pass live ticket bytes readings).1 = lane.adopt live readings.changed ∧
        (((live.pause = true ∨ live.rate = 0) ∧ (lane.pass live ticket bytes readings).2 = .unqueued) ∨
          Exists fun error => (lane.pass live ticket bytes readings).2 = .refused error) ∨
      (live.pause = false ∧ live.rate ≠ 0) ∧ Exists fun placed => Exists fun id =>
        (lane.adopt live readings.changed).place live ticket bytes readings.started = .ok (placed, id) ∧
          (lane.pass live ticket bytes readings = (placed, .queued id false) ∨
            placed.grants id readings.checked = true ∧
              lane.pass live ticket bytes readings = (placed.grant id bytes readings, .queued id true)) := by
  unfold pass
  dsimp only
  split
  next stopped => exact Or.inl ⟨rfl, Or.inl ⟨stopped, rfl⟩⟩
  next goes =>
    rw [not_or, Bool.not_eq_true] at goes
    cases found : (lane.adopt live readings.changed).place live ticket bytes readings.started with
    | error error => exact Or.inl ⟨rfl, Or.inr ⟨error, rfl⟩⟩
    | ok both =>
      rcases both with ⟨placed, id⟩
      refine Or.inr ⟨goes, placed, id, rfl, ?_⟩
      dsimp only
      split
      next granted => exact Or.inr ⟨granted, rfl⟩
      · exact Or.inl rfl

/-- What a pass does to the lane, when the ticket of the waiter charges its bytes. -/
structure Passed (lane : Lane) (live : Policy) (ticket : Option Ticket) (bytes : Nat)
    (readings : Readings) (after : Lane) (pass : Pass) : Prop where
  paced : after.Paced readings.granted
  nextId_le : lane.nextId ≤ after.nextId
  history : after.history = lane.history ∨ Exists fun grant =>
    after.history = lane.history ++ [grant] ∧ grant.policy = live ∧ grant.bytes = bytes ∧
      grant.granted = readings.granted
  frame : forall id size, id ≤ lane.nextId -> lane.Charges id size -> after.Charges id size
  charges : forall id granted, pass = .queued id granted -> after.Charges id bytes ∧ id ≤ after.nextId ∧
    ((Exists fun held => ticket = some held ∧ held.id = id) ∨ lane.nextId < id)

theorem place_passed {live : Policy} {ticket : Option Ticket} {readings : Readings} (paced : lane.Paced clock)
    (charged : forall held, ticket = some held -> lane.Charges held.id bytes ∧ held.id ≤ lane.nextId)
    (follows : readings.follow clock = true)
    (found : (lane.adopt live readings.changed).place live ticket bytes readings.started = .ok (placed, id)) :
    placed.Paced readings.checked ∧ placed.policy = live ∧ placed.history = lane.history ∧
      lane.nextId ≤ placed.nextId ∧
      (forall other size, other ≤ lane.nextId -> lane.Charges other size -> placed.Charges other size) ∧
      placed.Charges id bytes ∧ id ≤ placed.nextId ∧
      ((Exists fun held => ticket = some held ∧ held.id = id) ∨ lane.nextId < id) := by
  unfold Readings.follow at follows
  rw [decide_eq_true_eq] at follows
  rcases follows with ⟨first, second, third, _⟩
  have current := adopt_paced paced live first
  have followed := adopt_policy lane live readings.changed
  rcases place_ok found with ⟨held, has, _, same, rfl⟩ | queued
  · have own := charged held has
    refine ⟨(current.later second).later third, followed, adopt_history _ _ _,
      le_of_eq (adopt_nextId _ _ _).symm, ?_, ?_, ?_, Or.inl ⟨held, has, same⟩⟩
    · intro other size _ charges
      exact adopt_charges charges live readings.changed
    · rw [← same]
      exact adopt_charges own.1 live readings.changed
    · rw [← same, adopt_nextId]
      exact own.2
  · have charges := enqueue_charges current followed queued
    have placed_paced := enqueue_paced current second queued
    have history := enqueue_history queued
    rcases enqueue_ok queued with ⟨number, rfl⟩
    rw [adopt_nextId] at number
    refine ⟨placed_paced.later third, followed, history.trans (adopt_history _ _ _), ?_, ?_, charges.1,
      le_refl id, Or.inr ?_⟩
    · change lane.nextId ≤ id
      omega
    · intro other size known old
      exact charges.2 other size (by rwa [adopt_nextId]) (adopt_charges old live readings.changed)
    · omega

theorem pass_passed {ticket : Option Ticket} {readings : Readings} (live : Policy) (paced : lane.Paced clock)
    (charged : forall held, ticket = some held -> lane.Charges held.id bytes ∧ held.id ≤ lane.nextId)
    (follows : readings.follow clock = true) :
    Passed lane live ticket bytes readings (lane.pass live ticket bytes readings).1
      (lane.pass live ticket bytes readings).2 := by
  have follows' := follows
  unfold Readings.follow at follows'
  rw [decide_eq_true_eq] at follows'
  rcases follows' with ⟨first, second, third, fourth⟩
  rcases pass_cases lane live ticket bytes readings with ⟨after, came⟩ | ⟨goes, placed, id, found, came⟩
  · rw [after]
    exact {
      paced := (((adopt_paced paced live first).later second).later third).later fourth
      nextId_le := le_of_eq (adopt_nextId _ _ _).symm
      history := Or.inl (adopt_history _ _ _)
      frame := fun id size _ charges => adopt_charges charges live readings.changed
      charges := by
        intro id granted queued
        rcases came with ⟨_, came⟩ | ⟨error, came⟩
        · rw [queued] at came
          cases came
        · rw [queued] at came
          cases came }
  · rcases place_passed paced charged follows found with
      ⟨here, followed, history, numbered, frame, charges, known, own⟩
    rcases came with came | ⟨granted, came⟩
    · rw [came]
      exact {
        paced := here.later fourth
        nextId_le := numbered
        history := Or.inl history
        frame := frame
        charges := by
          intro one granted queued
          cases queued
          exact ⟨charges, known, own⟩ }
    · rw [came]
      exact {
        paced := by
          apply grant_paced here charges granted (le_refl _) fourth
          rw [followed]
          exact goes
        nextId_le := numbered
        history := Or.inr ⟨_, congrArg (· ++ _) history, followed, rfl, rfl⟩
        frame := fun other size small old => grant_charges (frame other size small old) id bytes readings
        charges := by
          intro one granted queued
          cases queued
          exact ⟨grant_charges charges id bytes readings, known, own⟩ }

theorem pass_paused (lane : Lane) {live : Policy} (paused : live.pause = true) (ticket : Option Ticket)
    (bytes : Nat) (readings : Readings) :
    (lane.pass live ticket bytes readings).1.history = lane.history ∧
      (lane.pass live ticket bytes readings).2 = .unqueued := by
  unfold pass
  rw [if_pos (Or.inl paused)]
  exact ⟨adopt_history _ _ _, rfl⟩

end Lane

end Pacing
end Transfers
end TelegramDrive
