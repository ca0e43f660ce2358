import Mathlib.Data.List.DropRight
import TelegramDrive.Sharing.TokenAttempts

namespace TelegramDrive
namespace Sharing

/-!
# What bounds the attempts at a token

The answers that a token got and the successes it had are its history, the latest first.
An attempt that was admitted and is not in the queue any more is out of reach: either a
cooldown has passed since, or it passes before the block ends, or there was a success.
So an attempt that is admitted shares its cooldown with those in the queue at most.
-/

structure History where
  replies : List (Int × Reply)
  successes : List Int

namespace History

def admittedAt : Int × Reply -> Option Int
  | (time, .ok ()) => some time
  | (_, .error _) => none

def admitted (history : History) : List Int := history.replies.filterMap admittedAt

/-- The attempts admitted in the cooldown that begins at a time. -/
def within (history : History) (start : Int) : Nat :=
  history.admitted.countP fun time => decide (start ≤ time ∧ time < start + sharePasswordCooldownSeconds)

/-- No success in the cooldown that begins at a time. -/
def Unsuccessful (history : History) (start : Int) : Prop :=
  forall time, time ∈ history.successes -> ¬ (start ≤ time ∧ time < start + sharePasswordCooldownSeconds)

/-- The cooldown that begins at any time has few attempts, unless one of them succeeded. -/
def Limited (history : History) : Prop :=
  forall start, history.Unsuccessful start -> history.within start ≤ sharePasswordAttemptLimit

/-- Until the wait of a refusal has elapsed, what follows is refused as well. -/
def Patient (history : History) : Prop :=
  history.replies.Pairwise fun later earlier => forall wait, earlier.2 = .error wait ->
    later.1 < earlier.1 + wait -> Exists fun other => later.2 = .error other

def Waits (history : History) : Prop :=
  forall reply, reply ∈ history.replies -> forall wait, reply.2 = .error wait -> 1 ≤ wait

def reply (history : History) (time : Int) (reply : Reply) : History :=
  { history with replies := (time, reply) :: history.replies }

def success (history : History) (time : Int) : History := { history with successes := time :: history.successes }

end History

/-- An attempt that no later one can share a cooldown with. -/
def OutOfReach (clock blockedUntil : Int) (history : History) (time : Int) : Prop :=
  time + sharePasswordCooldownSeconds ≤ max blockedUntil clock ∨
    Exists fun success => success ∈ history.successes ∧ time ≤ success

/-- What the limiter knows of a token, against the history of the token. -/
structure Tracked (clock : Int) (attempts : Attempts) (history : History) : Prop where
  begun : 0 ≤ clock
  few : attempts.queue.length ≤ sharePasswordAttemptLimit
  made : forall time, time ∈ history.admitted -> time ≤ clock
  blocked : attempts.blockedUntil ≠ 0 -> attempts.queue = []
  older : Exists fun old => history.admitted.Perm (attempts.queue ++ old) ∧
    forall time, time ∈ old -> OutOfReach clock attempts.blockedUntil history time
  successes : forall time, time ∈ history.successes -> time ≤ clock
  waiting : forall reply, reply ∈ history.replies -> forall wait, reply.2 = .error wait ->
    1 ≤ wait ∧ reply.1 + wait ≤ max attempts.blockedUntil clock
  limited : history.Limited
  patient : history.Patient

/-! ## Dropping what has left the window -/

theorem dropExpired_split (attempts : List Int) (cutoff : Int) :
    Exists fun expired => attempts = expired ++ dropExpired attempts cutoff ∧
      forall time, time ∈ expired -> time ≤ cutoff := by
  refine ⟨attempts.takeWhile fun attempt => decide (attempt ≤ cutoff), List.takeWhile_append_dropWhile.symm, ?_⟩
  intro time member
  exact of_decide_eq_true (List.mem_takeWhile_imp (p := fun attempt => decide (attempt ≤ cutoff)) member)

theorem dropExpired_append {expired : List Int} (attempts : List Int) {cutoff : Int}
    (old : forall time, time ∈ expired -> time ≤ cutoff) :
    dropExpired (expired ++ attempts) cutoff = dropExpired attempts cutoff := by
  unfold dropExpired
  exact List.dropWhile_append_of_pos fun time member => decide_eq_true (old time member)

/-! ## The operations -/

namespace Tracked

variable {clock : Int} {attempts : Attempts} {history : History}

theorem start {clock : Int} (begun : 0 ≤ clock) : Tracked clock .none ⟨[], []⟩ := by
  constructor
  · exact begun
  · exact Nat.zero_le _
  · intro time member
    cases member
  · intro _
    rfl
  · refine ⟨[], List.Perm.refl _, ?_⟩
    intro time member
    cases member
  · intro time member
    cases member
  · intro reply member
    cases member
  · intro start _
    exact Nat.zero_le _
  · exact .nil

theorem past (tracked : Tracked clock attempts history) {time : Int} (member : time ∈ attempts.queue) :
    time ≤ clock := by
  rcases tracked.older with ⟨old, same, -⟩
  exact tracked.made time (same.mem_iff.mpr (List.mem_append_left _ member))

theorem tick (tracked : Tracked clock attempts history) {now : Int} (later : clock ≤ now) :
    Tracked now attempts history := by
  have begun := tracked.begun
  constructor
  · omega
  · exact tracked.few
  · intro time member
    have := tracked.made time member
    omega
  · exact tracked.blocked
  · rcases tracked.older with ⟨old, same, reach⟩
    refine ⟨old, same, ?_⟩
    intro time member
    rcases reach time member with away | succeeded
    · exact Or.inl (by omega)
    · exact Or.inr succeeded
  · intro time member
    have := tracked.successes time member
    omega
  · intro reply member wait refused
    have := tracked.waiting reply member wait refused
    omega
  · exact tracked.limited
  · exact tracked.patient

/-- Attempts may leave the queue when they are out of reach, and a block may end when it is over
or give way to a longer one. -/
theorem shrink (tracked : Tracked clock attempts history) {expired queue : List Int} {blockedUntil : Int}
    (split : attempts.queue = expired ++ queue)
    (old : forall time, time ∈ expired -> time + sharePasswordCooldownSeconds ≤ max blockedUntil clock)
    (ends : max attempts.blockedUntil clock ≤ max blockedUntil clock)
    (blocked : blockedUntil ≠ 0 -> queue = []) : Tracked clock ⟨queue, blockedUntil⟩ history := by
  constructor
  · exact tracked.begun
  · have few := tracked.few
    rw [split, List.length_append] at few
    show queue.length ≤ _
    omega
  · exact tracked.made
  · exact blocked
  · rcases tracked.older with ⟨others, same, reach⟩
    refine ⟨expired ++ others, ?_, ?_⟩
    · rw [split, List.append_assoc] at same
      exact same.trans (List.perm_append_comm_assoc _ _ _)
    · intro time member
      rcases List.mem_append.mp member with gone | other
      · exact Or.inl (old time gone)
      · rcases reach time other with away | succeeded
        · exact Or.inl (Int.le_trans away ends)
        · exact Or.inr succeeded
  · exact tracked.successes
  · intro reply member wait refused
    rcases tracked.waiting reply member wait refused with ⟨some, elapses⟩
    exact ⟨some, Int.le_trans elapses ends⟩
  · exact tracked.limited
  · exact tracked.patient

theorem prune (tracked : Tracked clock attempts history) : Tracked clock (attempts.prune clock) history := by
  have begun := tracked.begun
  have cooldown : sharePasswordCooldownSeconds = 30 ∧ sharePasswordWindowSeconds = 300 := ⟨rfl, rfl⟩
  rcases dropExpired_split attempts.queue (clock - sharePasswordWindowSeconds) with ⟨expired, split, old⟩
  unfold Attempts.prune
  dsimp only
  split
  · refine tracked.shrink split ?_ (Int.le_refl _) ?_
    · intro time member
      have := old time member
      omega
    · intro other
      have empty := tracked.blocked other
      rw [empty]
      rfl
  next past =>
    rw [not_or, not_not] at past
    rw [past.2] at split
    refine tracked.shrink split ?_ ?_ (fun _ => rfl)
    · intro time member
      have := old time member
      omega
    · omega

theorem admitted_ok (history : History) (time : Int) : (history.reply time (.ok ())).admitted = time :: history.admitted :=
  rfl

/-- A refusal whose wait ends with the block. -/
theorem refuse (tracked : Tracked clock attempts history) {wait : Int} (some : 1 ≤ wait)
    (ends : clock + wait ≤ attempts.blockedUntil) : Tracked clock attempts (history.reply clock (.error wait)) := by
  constructor
  · exact tracked.begun
  · exact tracked.few
  · exact tracked.made
  · exact tracked.blocked
  · exact tracked.older
  · exact tracked.successes
  · intro reply member other refused
    rcases List.mem_cons.mp member with rfl | earlier
    · cases refused
      exact ⟨some, by dsimp only; omega⟩
    · exact tracked.waiting reply earlier other refused
  · exact tracked.limited
  · refine List.pairwise_cons.mpr ⟨?_, tracked.patient⟩
    intro earlier _ _ _ _
    exact ⟨wait, rfl⟩

theorem admitNext (tracked : Tracked clock attempts history) (free : attempts.blockedUntil = 0)
    (room : attempts.queue.length < sharePasswordAttemptLimit) :
    Tracked clock ⟨attempts.queue ++ [clock], attempts.blockedUntil⟩ (history.reply clock (.ok ())) := by
  have begun := tracked.begun
  rcases tracked.older with ⟨old, same, reach⟩
  constructor
  · exact begun
  · show (attempts.queue ++ [clock]).length ≤ _
    rw [List.length_append, List.length_singleton]
    exact room
  · intro time member
    rcases List.mem_cons.mp member with rfl | earlier
    · exact Int.le_refl _
    · exact tracked.made time earlier
  · intro other
    exact (other free).elim
  · refine ⟨old, ?_, reach⟩
    rw [admitted_ok]
    show (clock :: history.admitted).Perm ((attempts.queue ++ [clock]) ++ old)
    rw [List.append_assoc, List.singleton_append]
    exact (same.cons clock).trans List.perm_middle.symm
  · exact tracked.successes
  · intro reply member wait refused
    rcases List.mem_cons.mp member with rfl | earlier
    · cases refused
    · exact tracked.waiting reply earlier wait refused
  · intro start unsuccessful
    unfold History.within
    rw [admitted_ok, List.countP_cons]
    split
    next inside =>
      -- What shares a cooldown with the new attempt is still in the queue.
      have bounds := of_decide_eq_true inside
      have apart : old.countP (fun time => decide (start ≤ time ∧ time < start + sharePasswordCooldownSeconds)) =
          0 := by
        refine List.countP_eq_zero.mpr fun time member shared => ?_
        have shares := of_decide_eq_true shared
        rcases reach time member with away | ⟨success, succeeded, before⟩
        · rw [free] at away
          omega
        · have seen := tracked.successes success succeeded
          exact unsuccessful success succeeded ⟨by omega, by omega⟩
      have counted := same.countP_eq fun time =>
        decide (start ≤ time ∧ time < start + sharePasswordCooldownSeconds)
      rw [List.countP_append, apart] at counted
      have queued : attempts.queue.countP (fun time =>
          decide (start ≤ time ∧ time < start + sharePasswordCooldownSeconds)) ≤ attempts.queue.length :=
        List.countP_le_length
      omega
    · exact tracked.limited start unsuccessful
  · refine List.pairwise_cons.mpr ⟨?_, tracked.patient⟩
    intro earlier member wait refused before
    have ends := (tracked.waiting earlier member wait refused).2
    rw [free] at ends
    dsimp only at before
    omega

theorem attempt (tracked : Tracked clock attempts history) :
    Tracked clock (attempts.attempt clock).1 (history.reply clock (attempts.attempt clock).2) := by
  have begun := tracked.begun
  have cooldown : sharePasswordCooldownSeconds = 30 ∧ sharePasswordWindowSeconds = 300 := ⟨rfl, rfl⟩
  unfold Attempts.attempt
  split
  · exact tracked.refuse (by omega) (by omega)
  next free =>
    have opened : Tracked clock (if attempts.blockedUntil ≠ 0 then .none else attempts) history ∧
        (if attempts.blockedUntil ≠ 0 then Attempts.none else attempts).blockedUntil = 0 := by
      split
      next past =>
        refine ⟨?_, rfl⟩
        have nothing : attempts.queue = [] ++ [] := tracked.blocked past
        refine tracked.shrink nothing ?_ ?_ (fun _ => rfl)
        · intro time member
          cases member
        · omega
      next none =>
        rw [not_not] at none
        exact ⟨tracked, none⟩
    revert opened
    generalize (if attempts.blockedUntil ≠ 0 then Attempts.none else attempts) = opened
    rintro ⟨tracked, zero⟩
    rcases dropExpired_split opened.queue (clock - sharePasswordWindowSeconds) with ⟨expired, split, old⟩
    have current : Tracked clock ⟨dropExpired opened.queue (clock - sharePasswordWindowSeconds),
        opened.blockedUntil⟩ history := by
      refine tracked.shrink split ?_ (Int.le_refl _) (fun other => (other zero).elim)
      intro time member
      have := old time member
      omega
    dsimp only
    split
    next full =>
      have closed : Tracked clock ⟨[], clock + sharePasswordCooldownSeconds⟩ history := by
        refine tracked.shrink (List.append_nil _).symm ?_ ?_ (fun _ => rfl)
        · intro time member
          have := tracked.past member
          omega
        · omega
      exact closed.refuse (by omega) (Int.le_refl _)
    next room => exact current.admitNext zero (Nat.lt_of_not_le room)

theorem failed (tracked : Tracked clock attempts history) {start : Int}
    (timely : sharePasswordAttemptLimit ≤ attempts.queue.length -> forall time, time ∈ attempts.queue ->
      time ≤ start ∨ time + sharePasswordCooldownSeconds ≤ clock) :
    Tracked clock (attempts.failed start) history := by
  have begun := tracked.begun
  unfold Attempts.failed
  split
  next full =>
    have free : attempts.blockedUntil = 0 := by
      by_contra other
      rw [tracked.blocked other] at full
      exact absurd full (by decide)
    refine tracked.shrink (List.append_nil _).symm ?_ ?_ (fun _ => rfl)
    · intro time member
      have := timely full time member
      omega
    · omega
  · exact tracked

theorem succeed (tracked : Tracked clock attempts history)
    (elapsed : forall reply, reply ∈ history.replies -> forall wait, reply.2 = .error wait -> reply.1 + wait ≤ clock) :
    Tracked clock .none (history.success clock) := by
  constructor
  · exact tracked.begun
  · exact Nat.zero_le _
  · exact tracked.made
  · intro _
    rfl
  · refine ⟨history.admitted, List.Perm.refl _, ?_⟩
    intro time member
    exact Or.inr ⟨clock, List.mem_cons_self, tracked.made time member⟩
  · intro time member
    rcases List.mem_cons.mp member with rfl | earlier
    · exact Int.le_refl _
    · exact tracked.successes time earlier
  · intro reply member wait refused
    have ends := elapsed reply member wait refused
    exact ⟨(tracked.waiting reply member wait refused).1, Int.le_trans ends (Int.le_max_right _ _)⟩
  · intro start unsuccessful
    exact tracked.limited start fun time member => unsuccessful time (List.mem_cons_of_mem _ member)
  · exact tracked.patient

end Tracked

/-! ## A token among others -/

/-- What the limiter knows of a token, and what it would know if the token were the only one:
attempts that have left the window may be missing, and a block that is over. -/
structure Agrees (clock : Int) (attempts solo : Attempts) : Prop where
  queue : Exists fun expired => solo.queue = expired ++ attempts.queue ∧
    forall time, time ∈ expired -> time + sharePasswordWindowSeconds ≤ clock
  block : attempts.blockedUntil = solo.blockedUntil ∨ (attempts.blockedUntil ≤ clock ∧ solo.blockedUntil ≤ clock)
  blocked : attempts.blockedUntil ≠ 0 -> attempts.queue = []
  soloBlocked : solo.blockedUntil ≠ 0 -> solo.queue = []

namespace Agrees

variable {clock : Int} {attempts solo : Attempts}

theorem same (blocked : attempts.blockedUntil ≠ 0 -> attempts.queue = []) :
    Agrees clock attempts attempts := by
  constructor
  · refine ⟨[], rfl, ?_⟩
    intro time member
    cases member
  · exact Or.inl rfl
  · exact blocked
  · exact blocked

theorem tick (agrees : Agrees clock attempts solo) {now : Int} (later : clock ≤ now) : Agrees now attempts solo := by
  constructor
  · rcases agrees.queue with ⟨expired, split, old⟩
    exact ⟨expired, split, fun time member => Int.le_trans (old time member) later⟩
  · rcases agrees.block with same | past
    · exact Or.inl same
    · exact Or.inr ⟨Int.le_trans past.1 later, Int.le_trans past.2 later⟩
  · exact agrees.blocked
  · exact agrees.soloBlocked

theorem past (agrees : Agrees clock attempts solo) : attempts.blockedUntil ≤ clock ↔ solo.blockedUntil ≤ clock := by
  rcases agrees.block with same | both
  · rw [same]
  · exact ⟨fun _ => both.2, fun _ => both.1⟩

theorem prune (agrees : Agrees clock attempts solo) (begun : 0 ≤ clock) : Agrees clock (attempts.prune clock) solo := by
  rcases agrees.queue with ⟨expired, split, old⟩
  rcases dropExpired_split attempts.queue (clock - sharePasswordWindowSeconds) with ⟨gone, rest, past⟩
  have shorter : Exists fun expired => solo.queue = expired ++
      dropExpired attempts.queue (clock - sharePasswordWindowSeconds) ∧
      forall time, time ∈ expired -> time + sharePasswordWindowSeconds ≤ clock := by
    refine ⟨expired ++ gone, ?_, ?_⟩
    · rw [split, List.append_assoc, ← rest]
    · intro time member
      rcases List.mem_append.mp member with before | now
      · exact old time before
      · have := past time now
        omega
  unfold Attempts.prune
  dsimp only
  split
  · refine ⟨shorter, agrees.block, ?_, agrees.soloBlocked⟩
    intro other
    rw [agrees.blocked other]
    rfl
  next nothing =>
    rw [not_or, not_not] at nothing
    rw [nothing.2] at shorter
    have ended := agrees.past.mp (Int.not_lt.mp nothing.1)
    exact ⟨shorter, Or.inr ⟨begun, ended⟩, fun _ => rfl, agrees.soloBlocked⟩

end Agrees

/-- An attempt finds no block or one that is over, and an empty queue behind it. -/
theorem Attempts.attempt_free {attempts : Attempts} {clock : Int} (free : attempts.blockedUntil ≤ clock)
    (blocked : attempts.blockedUntil ≠ 0 -> attempts.queue = []) :
    attempts.attempt clock =
      let queue := dropExpired attempts.queue (clock - sharePasswordWindowSeconds)
      if sharePasswordAttemptLimit ≤ queue.length then
        (⟨[], clock + sharePasswordCooldownSeconds⟩, .error sharePasswordCooldownSeconds)
      else (⟨queue ++ [clock], 0⟩, .ok ()) := by
  have opened : (if attempts.blockedUntil ≠ 0 then Attempts.none else attempts) = ⟨attempts.queue, 0⟩ := by
    split
    next other =>
      rw [blocked other]
      rfl
    next zero =>
      rw [not_not] at zero
      rw [← zero]
  unfold Attempts.attempt
  rw [if_neg (Int.not_lt.mpr free), opened]

/-- Pruning before an attempt makes no difference to it. -/
theorem Attempts.attempt_prune {attempts : Attempts} {clock : Int} (begun : 0 ≤ clock)
    (blocked : attempts.blockedUntil ≠ 0 -> attempts.queue = []) :
    (attempts.prune clock).attempt clock = attempts.attempt clock := by
  have twice : dropExpired (dropExpired attempts.queue (clock - sharePasswordWindowSeconds))
      (clock - sharePasswordWindowSeconds) = dropExpired attempts.queue (clock - sharePasswordWindowSeconds) :=
    List.dropWhile_idempotent _ _
  by_cases free : attempts.blockedUntil ≤ clock
  · rw [Attempts.attempt_free free blocked]
    unfold Attempts.prune
    dsimp only
    split
    · have kept : Attempts.attempt ⟨dropExpired attempts.queue (clock - sharePasswordWindowSeconds),
          attempts.blockedUntil⟩ clock = _ := Attempts.attempt_free free fun other => by
        rw [blocked other]
        rfl
      rw [kept]
      dsimp only
      rw [twice]
    next nothing =>
      rw [not_or, not_not] at nothing
      rw [Attempts.attempt_free begun (fun _ => rfl), nothing.2]
      rfl
  · have blocks : clock < attempts.blockedUntil := Int.not_le.mp free
    have empty := blocked (by omega)
    have same : attempts.prune clock = attempts := by
      unfold Attempts.prune
      dsimp only
      rw [if_pos (Or.inl blocks), empty]
      cases attempts
      cases empty
      rfl
    rw [same]

namespace Agrees

variable {clock : Int} {attempts solo : Attempts}

/-- The answer to an attempt, and what the limiter knows afterwards. -/
theorem attempt (agrees : Agrees clock attempts solo) :
    (attempts.attempt clock).2 = (solo.attempt clock).2 ∧
      Agrees clock (attempts.attempt clock).1 (solo.attempt clock).1 := by
  by_cases free : attempts.blockedUntil ≤ clock
  · rcases agrees.queue with ⟨expired, split, old⟩
    have queue : dropExpired solo.queue (clock - sharePasswordWindowSeconds) =
        dropExpired attempts.queue (clock - sharePasswordWindowSeconds) := by
      rw [split]
      refine dropExpired_append _ fun time member => ?_
      have := old time member
      omega
    rw [Attempts.attempt_free free agrees.blocked, Attempts.attempt_free (agrees.past.mp free) agrees.soloBlocked, queue]
    refine ⟨rfl, .same ?_⟩
    dsimp only
    split
    · intro _
      rfl
    · intro other
      exact (other rfl).elim
  · have blocked : clock < attempts.blockedUntil := Int.not_le.mp free
    have same : attempts.blockedUntil = solo.blockedUntil := by
      rcases agrees.block with same | both
      · exact same
      · exact (free both.1).elim
    unfold Attempts.attempt
    rw [if_pos blocked, if_pos (same ▸ blocked), same]
    exact ⟨rfl, agrees⟩

theorem failed (agrees : Agrees clock attempts solo)
    (full : sharePasswordAttemptLimit ≤ solo.queue.length -> sharePasswordAttemptLimit ≤ attempts.queue.length)
    (start : Int) : Agrees clock (attempts.failed start) (solo.failed start) := by
  rcases agrees.queue with ⟨expired, split, old⟩
  unfold Attempts.failed
  by_cases closes : sharePasswordAttemptLimit ≤ attempts.queue.length
  · have both : sharePasswordAttemptLimit ≤ solo.queue.length := by
      rw [split, List.length_append]
      omega
    rw [if_pos closes, if_pos both]
    exact .same fun _ => rfl
  · rw [if_neg closes, if_neg fun both => closes (full both)]
    exact agrees

end Agrees

end Sharing
end TelegramDrive
