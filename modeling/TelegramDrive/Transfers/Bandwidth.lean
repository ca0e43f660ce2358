import Mathlib.Data.List.Basic
import Mathlib.Tactic.NormNum

namespace TelegramDrive
namespace Transfers

/-!
# The weekly bandwidth quota

The manager keeps the committed bytes of one week, in memory and in a file, and
the holds of the transfers that still run.  Every operation runs under one lock,
so each is a function of the manager.  What the outside decides in an operation,
the day and which accesses to the file fail, is an argument of it.

A day is a number of days from 1 January 1970, a Thursday.  The text form of a
day is left to the calendar, of which only the round trip is used.
-/

/-! ## Statistics -/

structure Calendar where
  parseFromStr : String -> Option Int
  format : Int -> String
  parse_format : forall day, parseFromStr (format day) = some day

structure BandwidthStats where
  date : String
  upBytes : Nat
  downBytes : Nat
  limitBytes : Nat
  period : String
deriving DecidableEq

def weeklyLimitBytes : Nat := 250 * 1024 * 1024 * 1024

def weeklyPeriodName : String := "weekly"

def weekStartFor (date : Int) : Int := date - (date + 3) % 7

/-- The number of values of a `u64`. -/
def u64Values : Nat := 2 ^ 64

def checkedAdd (one two : Nat) : Option Nat :=
  if one + two < u64Values then some (one + two) else none

/-- The errors, with what their texts show.  The sizes in the text of
`limitExceeded` are rounded. -/
inductive BandwidthError
  | message (text : String)
  | limitExceeded (limit used : Nat)
deriving DecidableEq

/-- What is at the path of the file. -/
inductive StoredFile
  | missing
  | unreadable (error : String)
  | stats (stats : BandwidthStats)
deriving DecidableEq

inductive ReservationDirection
  | upload
  | download
deriving DecidableEq

structure Hold where
  id : Nat
  bytes : Nat
  direction : ReservationDirection
deriving DecidableEq

/-- What the outside decides in one operation: the day, why the file cannot be
read, and why each attempt to save it fails. -/
structure Surroundings where
  today : Int
  read : Option String
  savePeriod : Option String
  savePending : Option String
  save : Option String

structure BandwidthManager where
  file : StoredFile
  limit : Nat
  stats : BandwidthStats
  holds : List Hold
  nextId : Nat
  persistenceError : Option String
  loadError : Option BandwidthError

/-- The manager after an operation, and what the operation returned. -/
abbrev Outcome (α : Type) : Type := BandwidthManager × Except BandwidthError α

/-- An operation that goes on only when the one before it succeeded. -/
def Outcome.andThen {α β : Type} (outcome : Outcome α)
    (rest : BandwidthManager -> α -> Outcome β) : Outcome β :=
  match outcome.2 with
  | .error error => (outcome.1, .error error)
  | .ok value => rest outcome.1 value

theorem Outcome.andThen_ok {α β : Type} {outcome : Outcome α}
    {rest : BandwidthManager -> α -> Outcome β} {value : β}
    (ok : (outcome.andThen rest).2 = .ok value) :
    Exists fun middle => outcome.2 = .ok middle ∧ outcome.andThen rest = rest outcome.1 middle := by
  rcases outcome with ⟨manager, error | middle⟩
  · cases ok
  · exact ⟨middle, rfl, rfl⟩

section Manager

variable (calendar : Calendar)

/-- The statistics of a new installation. -/
def BandwidthStats.default (today : Int) : BandwidthStats where
  date := calendar.format (weekStartFor today)
  upBytes := 0
  downBytes := 0
  limitBytes := weeklyLimitBytes
  period := weeklyPeriodName

def load (file : StoredFile) (read : Option String) (initial : Option Int) :
    Except BandwidthError BandwidthStats :=
  match read, file with
  | some error, _ => .error (.message ("Unable to read bandwidth accounting: " ++ error))
  | none, .missing =>
    match initial with
    | some today => .ok (.default calendar today)
    | none => .error (.message "Unable to read bandwidth accounting: not found")
  | none, .unreadable error => .error (.message ("Invalid bandwidth accounting: " ++ error))
  | none, .stats stats =>
    if (calendar.parseFromStr stats.date).isNone then
      .error (.message "Invalid bandwidth accounting date")
    else if stats.limitBytes = 0 ∨ (checkedAdd stats.upBytes stats.downBytes).isNone then
      .error (.message "Invalid bandwidth accounting quota or usage")
    else .ok stats

namespace BandwidthManager

/-- `at`, of a file with this content. -/
def start (file : StoredFile) (read : Option String) (today : Int) : BandwidthManager :=
  match load calendar file read (some today) with
  | .ok stats => ⟨file, stats.limitBytes, stats, [], 0, none, none⟩
  | .error error =>
    ⟨file, weeklyLimitBytes, .default calendar today, [], 0, none, some error⟩

def persist (manager : BandwidthManager) (failure : Option String) : Outcome Unit :=
  match failure with
  | none => ({ manager with file := .stats manager.stats, persistenceError := none }, .ok ())
  | some error => ({ manager with persistenceError := some error }, .error (.message error))

/-- The first part of `prepare`: a file that could not be loaded is tried again. -/
def reload (manager : BandwidthManager) (surroundings : Surroundings) : Outcome Unit :=
  if manager.loadError.isSome then
    match load calendar manager.file surroundings.read none with
    | .ok stats =>
      ({ manager with limit := stats.limitBytes, stats := stats, loadError := none }, .ok ())
    | .error error => ({ manager with loadError := some error }, .error error)
  else (manager, .ok ())

/-- The statistics of the week of `monday`, from those of an earlier or the same week. -/
def openWindow (manager : BandwidthManager) (date monday : Int) : BandwidthStats where
  date := calendar.format monday
  upBytes := if date < monday then 0 else manager.stats.upBytes
  downBytes := if date < monday then 0 else manager.stats.downBytes
  limitBytes := manager.limit
  period := weeklyPeriodName

/-- The second part of `prepare`. -/
def rollover (manager : BandwidthManager) (surroundings : Surroundings) : Outcome Unit :=
  match calendar.parseFromStr manager.stats.date with
  | none => (manager, .error (.message "Invalid bandwidth accounting date"))
  | some date =>
    let monday := weekStartFor surroundings.today
    if monday < weekStartFor date then
      (manager,
        .error (.message "Bandwidth clock moved backward; retaining the later quota window"))
    else
      let opened := manager.openWindow calendar date monday
      let next := { manager with stats := opened }
      Outcome.andThen
        (if manager.stats.date ≠ opened.date ∨ manager.stats.period ≠ opened.period ∨
            manager.stats.limitBytes ≠ opened.limitBytes then
          next.persist surroundings.savePeriod
        else (next, .ok ()))
        fun next _ =>
          if next.persistenceError.isSome then next.persist surroundings.savePending
          else (next, .ok ())

def prepare (manager : BandwidthManager) (surroundings : Surroundings) : Outcome Unit :=
  (manager.reload calendar surroundings).andThen fun manager _ =>
    manager.rollover calendar surroundings

/-- `used`, which fails when the sum overflows. -/
def used (manager : BandwidthManager) : Option Nat :=
  (checkedAdd manager.stats.upBytes manager.stats.downBytes).bind fun committed =>
    manager.holds.foldlM (fun total hold => checkedAdd total hold.bytes) committed

def hold? (manager : BandwidthManager) (id : Nat) : Option Hold :=
  manager.holds.find? fun hold => hold.id = id

def overflowed {α : Type} : Except BandwidthError α :=
  .error (.message "Bandwidth accounting overflowed")

def expired {α : Type} : Except BandwidthError α :=
  .error (.message "Bandwidth reservation expired")

def reserve (manager : BandwidthManager) (surroundings : Surroundings)
    (direction : ReservationDirection) (bytes : Nat) : Outcome Nat :=
  (manager.prepare calendar surroundings).andThen fun manager _ =>
    match manager.used.bind fun used => checkedAdd used bytes with
    | none => (manager, overflowed)
    | some total =>
      if manager.stats.limitBytes < total then
        (manager, .error (.limitExceeded manager.stats.limitBytes total))
      else if 512 ≤ manager.holds.length then
        (manager, .error (.message "Too many bandwidth reservations"))
      else
        match checkedAdd manager.nextId 1 with
        | none => (manager, .error (.message "Bandwidth reservation identifiers exhausted"))
        | some id =>
          (manager.persist surroundings.save).andThen fun manager _ =>
            ({ manager with nextId := id, holds := ⟨id, bytes, direction⟩ :: manager.holds }, .ok id)

def release (manager : BandwidthManager) (id : Nat) : BandwidthManager :=
  { manager with holds := manager.holds.filter fun hold => hold.id ≠ id }

def resize (manager : BandwidthManager) (surroundings : Surroundings) (id bytes : Nat) : Outcome Unit :=
  (manager.prepare calendar surroundings).andThen fun manager _ =>
    match manager.hold? id with
    | none => (manager, expired)
    | some hold =>
      match manager.used with
      | none => (manager, overflowed)
      | some used =>
        if used < hold.bytes then (manager, overflowed)
        else
          match checkedAdd (used - hold.bytes) bytes with
          | none => (manager, overflowed)
          | some total =>
            if hold.bytes < bytes ∧ manager.stats.limitBytes < total then
              (manager, .error (.message "Weekly bandwidth limit exceeded"))
            else
              (manager.persist surroundings.save).andThen fun manager _ =>
                ({ manager with
                    holds := manager.holds.map fun hold =>
                      if hold.id = id then { hold with bytes := bytes } else hold }, .ok ())

def displayStats (manager : BandwidthManager) : BandwidthStats :=
  manager.holds.foldl
    (fun stats hold =>
      match hold.direction with
      | .upload => { stats with upBytes := min (stats.upBytes + hold.bytes) (u64Values - 1) }
      | .download => { stats with downBytes := min (stats.downBytes + hold.bytes) (u64Values - 1) })
    manager.stats

def setLimit (manager : BandwidthManager) (surroundings : Surroundings) (bytes : Nat) :
    Outcome BandwidthStats :=
  if bytes = 0 then (manager, .error (.message "Weekly quota must be positive"))
  else
    (manager.prepare calendar surroundings).andThen fun manager _ =>
      match ({ manager with stats := { manager.stats with limitBytes := bytes } }).persist
          surroundings.save with
      | (next, .error error) => ({ next with stats := manager.stats }, .error error)
      | (next, .ok ()) => ({ next with limit := bytes }, .ok next.displayStats)

/-- The statistics with the bytes of a hold added to those of its direction. -/
def charge (stats : BandwidthStats) (hold : Hold) : Option BandwidthStats :=
  match hold.direction with
  | .upload =>
    (checkedAdd stats.upBytes hold.bytes).map fun bytes => { stats with upBytes := bytes }
  | .download =>
    (checkedAdd stats.downBytes hold.bytes).map fun bytes => { stats with downBytes := bytes }

/-- `commit`.  The charge is made even when the new period cannot be saved. -/
def commit (manager : BandwidthManager) (surroundings : Surroundings) (id : Nat) : Outcome Unit :=
  let manager := (manager.prepare calendar surroundings).1
  match manager.hold? id with
  | none => (manager, expired)
  | some hold =>
    let manager := manager.release id
    match charge manager.stats hold with
    | none => (manager, overflowed)
    | some stats => ({ manager with stats := stats }).persist surroundings.save

def checkAndReset (manager : BandwidthManager) (surroundings : Surroundings) : BandwidthManager :=
  (manager.prepare calendar surroundings).1

def checkedStats (manager : BandwidthManager) (surroundings : Surroundings) : Outcome BandwidthStats :=
  (manager.prepare calendar surroundings).andThen fun manager _ => (manager, .ok manager.displayStats)

def getStats (manager : BandwidthManager) (surroundings : Surroundings) :
    BandwidthManager × BandwidthStats :=
  let manager := (manager.prepare calendar surroundings).1
  (manager, manager.displayStats)

end BandwidthManager
end Manager

end Transfers
end TelegramDrive
