import Mathlib.Algebra.Order.Field.Rat
import TelegramDrive.Library.Machine
import TelegramDrive.Transfers.Bandwidth

namespace TelegramDrive
namespace Transfers
namespace Pacing

/-!
# Pacing the content of transfers

Every part of a transfer waits at a pacer before it is sent.  The pacer keeps a
lane for each direction, under one lock: the policy the lane last followed, a
cursor in time, and a queue of tickets.  A waiter goes round a loop; each pass
reads the live policy under the lock and ends in a grant, a refusal or a sleep.
The sleep may end at any moment, so it does not appear here.

Instants and durations are rational numbers of seconds.  Each reading of the
clock is an argument of the step in which it is taken.
-/

/-! ## Policies -/

inductive Direction
  | upload
  | download
deriving DecidableEq

/-- A bandwidth window of the week, Monday being day 0. -/
structure Window where
  days : List Nat
  startMinute : Nat
  endMinute : Nat
  upKbs : Nat
  downKbs : Nat
  pause : Bool
deriving DecidableEq

/-- What a window reads of the local civil time. -/
structure CivilTime where
  day : Nat
  minute : Nat

/-- An overnight window belongs to the day on which it starts. -/
def Window.active (window : Window) (now : CivilTime) : Bool :=
  if window.startMinute < window.endMinute then
    window.days.contains now.day && decide (now.minute ≥ window.startMinute) &&
      decide (now.minute < window.endMinute)
  else
    (window.days.contains now.day && decide (now.minute ≥ window.startMinute)) ||
      (window.days.contains ((now.day + 6) % 7) && decide (now.minute < window.endMinute))

/-- The part of the network settings that the pacer reads. -/
structure NetworkConfig where
  bandwidthLimitUpKbs : Nat
  bandwidthLimitDownKbs : Nat
  bandwidthSchedule : Bool
  bandwidthWindows : List Window
deriving DecidableEq

structure Policy where
  rate : Nat
  pause : Bool
  windows : Nat
  revision : Nat
deriving DecidableEq

/-- The policy of a lane that was never used. -/
def Policy.default : Policy := ⟨0, false, 0, 0⟩

def Window.kbs (window : Window) : Direction -> Nat
  | .upload => window.upKbs
  | .download => window.downKbs

/-- What one window that may be active does to the policy. -/
def Policy.follow (direction : Direction) (now : CivilTime) (policy : Policy) (entry : Window × Nat) :
    Policy :=
  if entry.1.active now then
    let rate := entry.1.kbs direction * 1024
    { policy with
      windows := policy.windows ||| (1 <<< entry.2)
      pause := policy.pause || entry.1.pause
      rate := if rate > 0 ∧ (policy.rate = 0 ∨ rate < policy.rate) then rate else policy.rate }
  else policy

/-- `Pacer::policy`. -/
def policy (config : NetworkConfig) (revision : Nat) (now : CivilTime) (direction : Direction) :
    Policy :=
  let rate := match direction with
    | .download => config.bandwidthLimitDownKbs * 1024
    | .upload => if config.bandwidthSchedule then config.bandwidthLimitUpKbs * 1024 else 0
  let plain : Policy := ⟨rate, false, 0, revision⟩
  if config.bandwidthSchedule then
    ((config.bandwidthWindows.take 32).zipIdx).foldl (Policy.follow direction now) plain
  else plain

/-! ## A lane -/

structure Queued where
  id : Nat
  duration : Rat
deriving DecidableEq

/-- A grant, as the history of a lane records it: the policy it was given
under, the reading that was compared with the deadline, and the reading to
which the cursor was then set. -/
structure Grant where
  id : Nat
  bytes : Nat
  policy : Policy
  checked : Rat
  granted : Rat
deriving DecidableEq

/-- A lane.  The history of its grants is not kept by the code. -/
structure Lane where
  policy : Policy
  cursor : Rat
  queue : List Queued
  nextId : Nat
  history : List Grant
deriving DecidableEq

structure Ticket where
  lane : Direction
  id : Nat
  policy : Policy
  granted : Bool
deriving DecidableEq

/-- The readings of the clock in one pass of the loop, in their order: when the
policy changed, when the queue was empty, against the deadline, and at a grant. -/
structure Readings where
  changed : Rat
  started : Rat
  checked : Rat
  granted : Rat
deriving DecidableEq

/-- The number of tickets that may wait in a lane. -/
def maxQueued : Nat := 512

namespace Lane

/-- A lane whose policy is no longer the live one starts anew. -/
def adopt (lane : Lane) (policy : Policy) (now : Rat) : Lane :=
  if lane.policy = policy then lane
  else
    { lane with
      policy := policy
      cursor := now
      queue := [] }

/-- The ticket the waiter holds still stands in the queue. -/
def holds (lane : Lane) (policy : Policy) (ticket : Ticket) : Bool :=
  decide (ticket.policy = policy) && lane.queue.any fun queued => decide (queued.id = ticket.id)

/-- A new place at the end of the queue. -/
def enqueue (lane : Lane) (policy : Policy) (bytes : Nat) (now : Rat) : Except String (Lane × Nat) :=
  if lane.queue.length ≥ maxQueued then .error "Too many paced transfers"
  else
    match checkedAdd lane.nextId 1 with
    | none => .error "Bandwidth pacing identifiers exhausted"
    | some id => .ok (
        { lane with
          nextId := id
          cursor := if lane.queue.isEmpty then now else lane.cursor
          queue := lane.queue ++ [⟨id, (bytes : Rat) / (policy.rate : Rat)⟩] }, id)

/-- The waiter's place in the queue, the one it has or a new one. -/
def place (lane : Lane) (policy : Policy) (ticket : Option Ticket) (bytes : Nat) (now : Rat) :
    Except String (Lane × Nat) :=
  match ticket.filter (lane.holds policy) with
  | some ticket => .ok (lane, ticket.id)
  | none => lane.enqueue policy bytes now

/-- The moment at which the ticket's turn comes. -/
def deadline (id : Nat) : Rat -> List Queued -> Rat
  | cursor, [] => cursor
  | cursor, queued :: rest =>
    if queued.id = id then cursor + queued.duration else deadline id (cursor + queued.duration) rest

/-- The grant goes to the head of the queue when its moment has come. -/
def grants (lane : Lane) (id : Nat) (now : Rat) : Bool :=
  (lane.queue.head?.any fun queued => decide (queued.id = id)) &&
    decide (now ≥ deadline id lane.cursor lane.queue)

def grant (lane : Lane) (id bytes : Nat) (readings : Readings) : Lane :=
  { lane with
    queue := lane.queue.tail
    cursor := readings.granted
    history := lane.history ++ [⟨id, bytes, lane.policy, readings.checked, readings.granted⟩] }

end Lane

/-- What a pass under the lock comes to. -/
inductive Pass
  | refused (error : String)
  | unqueued
  | queued (id : Nat) (granted : Bool)
deriving DecidableEq

namespace Lane

/-- The part of `wait` under the lock. -/
def pass (lane : Lane) (policy : Policy) (ticket : Option Ticket) (bytes : Nat) (readings : Readings) :
    Lane × Pass :=
  let current := lane.adopt policy readings.changed
  if policy.pause = true ∨ policy.rate = 0 then (current, .unqueued)
  else
    match current.place policy ticket bytes readings.started with
    | .error error => (current, .refused error)
    | .ok (placed, id) =>
      if placed.grants id readings.checked then (placed.grant id bytes readings, .queued id true)
      else (placed, .queued id false)

/-- `Ticket::drop`, under the lock. -/
def drop (lane : Lane) (ticket : Ticket) (now : Rat) : Lane :=
  if ticket.granted then lane
  else if lane.policy = ticket.policy then
    match lane.queue.findIdx? fun queued => decide (queued.id = ticket.id) with
    | none => lane
    | some position =>
      { lane with
        queue := lane.queue.eraseIdx position
        cursor := if position = 0 then now else lane.cursor }
  else lane

end Lane

/-! ## The waiters -/

/-- How a call ends. -/
inductive Ending
  | refused (error : String)
  | unlimited
  | granted
  | cancelled
deriving DecidableEq

/-- A call of `wait`.  The tickets it gave up are dropped one by one, each
under the lock, before the call does anything else. -/
structure Waiter where
  direction : Direction
  bytes : Nat
  ticket : Option Ticket
  dropping : List Ticket
  ending : Option Ending
deriving DecidableEq

namespace Waiter

def start (direction : Direction) (bytes : Nat) : Waiter := ⟨direction, bytes, none, [], none⟩

/-- The tickets that still have a destructor to run. -/
def tickets (waiter : Waiter) : List Ticket := waiter.dropping ++ waiter.ticket.toList

/-- The call is over; it gives up its ticket. -/
def leave (waiter : Waiter) (ending : Ending) : Waiter :=
  { waiter with
    ticket := none
    dropping := waiter.tickets
    ending := some ending }

/-- The waiter holds its old ticket when it is for this place, and otherwise a new one. -/
def hold (waiter : Waiter) (policy : Policy) (id : Nat) (granted : Bool) : Waiter :=
  if waiter.ticket.any fun ticket => decide (ticket.policy = policy ∧ ticket.id = id) then waiter
  else
    { waiter with
      ticket := some ⟨waiter.direction, id, policy, granted⟩
      dropping := waiter.tickets }

/-- A granted ticket leaves the queue alone when it is dropped. -/
def markGranted (waiter : Waiter) : Waiter :=
  { waiter with
    ticket := waiter.ticket.map fun ticket => { ticket with granted := true } }

/-- The part of `wait` after the lock is released. -/
def settle (waiter : Waiter) (policy : Policy) : Pass -> Waiter
  | .refused error => waiter.leave (.refused error)
  | .unqueued =>
    if policy.pause = false ∧ policy.rate = 0 then waiter.leave .unlimited
    else
      { waiter with
        ticket := none
        dropping := waiter.tickets }
  | .queued id granted =>
    if granted then ((waiter.hold policy id granted).markGranted).leave .granted
    else waiter.hold policy id granted

/-- The waiter is at the top of its loop or asleep. -/
def idle (waiter : Waiter) : Bool := waiter.dropping.isEmpty && waiter.ending.isNone

end Waiter

/-! ## The pacer with its waiters -/

structure State where
  clock : Rat
  config : NetworkConfig
  revision : Nat
  uploads : Lane
  downloads : Lane
  waiters : List Waiter
deriving DecidableEq

namespace State

def lane (state : State) : Direction -> Lane
  | .upload => state.uploads
  | .download => state.downloads

def setLane (state : State) (direction : Direction) (lane : Lane) : State :=
  match direction with
  | .upload => { state with
      uploads := lane }
  | .download => { state with
      downloads := lane }

@[simp] theorem lane_setLane (state : State) (direction other : Direction) (lane : Lane) :
    (state.setLane direction lane).lane other = if other = direction then lane else state.lane other := by
  cases direction <;> cases other <;> rfl

/-- The pacer as it is made. -/
def start (clock : Rat) (config : NetworkConfig) : State where
  clock := clock
  config := config
  revision := 0
  uploads := ⟨.default, clock, [], 0, []⟩
  downloads := ⟨.default, clock, [], 0, []⟩
  waiters := []

end State

/-- What happens at a pacer.  A waiter that is asleep or whose own check fails
leaves; a change of the account of a policy is a change of the settings, of the
revision or of the civil time at which a pass reads them. -/
inductive Event
  | call (direction : Direction) (bytes : Nat)
  | turn (index : Nat) (civil : CivilTime) (readings : Readings)
  | cancel (index : Nat)
  | drop (index : Nat) (now : Rat)
  | configure (config : NetworkConfig)
  | changed
  | wait (now : Rat)

/-- The readings are taken one after the other, and none before what was read last. -/
def Readings.follow (readings : Readings) (clock : Rat) : Bool :=
  decide (clock ≤ readings.changed ∧ readings.changed ≤ readings.started ∧
    readings.started ≤ readings.checked ∧ readings.checked ≤ readings.granted)

namespace State

/-- One pass of a waiter. -/
def turn (state : State) (index : Nat) (waiter : Waiter) (live : Policy) (readings : Readings) : State :=
  let passed := (state.lane waiter.direction).pass live waiter.ticket waiter.bytes readings
  { state.setLane waiter.direction passed.1 with
    clock := readings.granted
    waiters := state.waiters.set index (waiter.settle live passed.2) }

/-- The destructor of one ticket. -/
def dropTicket (state : State) (index : Nat) (waiter : Waiter) (ticket : Ticket) (rest : List Ticket)
    (now : Rat) : State :=
  { state.setLane ticket.lane ((state.lane ticket.lane).drop ticket now) with
    clock := now
    waiters := state.waiters.set index { waiter with dropping := rest } }

/-- The policy that a pass of a waiter for this direction reads. -/
def live (state : State) (civil : CivilTime) (direction : Direction) : Policy :=
  policy state.config state.revision civil direction

def step (state : State) : Event -> Option State
  | .call direction bytes =>
    if bytes = 0 then none
    else some { state with
      waiters := state.waiters ++ [.start direction bytes] }
  | .turn index civil readings =>
    match state.waiters[index]? with
    | none => none
    | some waiter =>
      if waiter.idle && readings.follow state.clock then
        some (state.turn index waiter (state.live civil waiter.direction) readings)
      else none
  | .cancel index =>
    match state.waiters[index]? with
    | none => none
    | some waiter =>
      if waiter.idle then some { state with
        waiters := state.waiters.set index (waiter.leave .cancelled) }
      else none
  | .drop index now =>
    match state.waiters[index]? with
    | none => none
    | some waiter =>
      match waiter.dropping with
      | [] => none
      | ticket :: rest =>
        if state.clock ≤ now then some (state.dropTicket index waiter ticket rest now) else none
  | .configure config => some { state with
      config := config }
  | .changed => some { state with
      revision := state.revision + 1 }
  | .wait now => if state.clock ≤ now then some { state with
      clock := now } else none

end State

/-- The machine of a pacer. -/
def machine : Machine State Event := ⟨State.step⟩

end Pacing
end Transfers
end TelegramDrive
