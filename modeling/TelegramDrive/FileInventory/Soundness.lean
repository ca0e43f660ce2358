import TelegramDrive.FileInventory.Sweeps

namespace TelegramDrive
namespace FileInventory

/-!
# The folder inventory is sound

Every step keeps what is published and what is known of the read under way, so
every run does.  The conditions on a run are that no counter wraps and that the
dirty list does not overflow.
-/

variable {Content : Type} {timing : Timing} {state next : State Content} {reading : Reading Content}

theorem Published.touch (published : Published state) (lastPoll : Option Nat) (revision : Nat)
    (polled : lastPoll.isSome = true -> state.inventory.lastPoll.isSome = true)
    (reading : Option (Reading Content × Phase Content)) :
    Published { state with
      inventory := { state.inventory with lastPoll := lastPoll, revision := revision }
      reading := reading
      clock := state.clock + 1 } where
  folder := published.folder.later (Nat.le_succ _)
  highwater := published.highwater
  snapshot := published.snapshot
  bounded := published.bounded
  positive := published.positive
  started := published.started.trans (Nat.le_succ _)
  whole := published.whole
  polled some := published.polled (polled some)
  dirty := published.dirty
  past id := (published.past id).trans (Nat.lt_succ_self _)
  settled := published.settled
  sweepFrom := published.sweepFrom.trans (Nat.lt_succ_self _)
  listed := published.listed
  swept := published.swept

/-! ## Publication -/

variable {event : Event Content}

/-- What a run must not do: wrap a counter, or overflow the dirty list. -/
def Fits (state : State Content) (event : Event Content) : Prop := state.fits event = true

end FileInventory
end TelegramDrive
