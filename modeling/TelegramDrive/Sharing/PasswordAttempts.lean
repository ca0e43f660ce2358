import TelegramDrive.Library.Machine
import TelegramDrive.Library.Table

namespace TelegramDrive
namespace Sharing

/-!
# Attempts at the password of a shared link

A limiter keeps, for each token, the times of the attempts that it admitted and the time
until which the token is blocked.  An attempt is reserved before the password is checked,
and its result is recorded when the check has ended, with the time at which it started.

Requests run at the same time.  What the limiter does for one of them takes effect at once;
between the beginning of a request and its result anything may happen, and the clock goes
on.  The clock is that of the system, in seconds since 1970, which never goes back here.
-/

/-! ## The limiter -/

def sharePasswordAttemptLimit : Nat := 5
def sharePasswordWindowSeconds : Int := 300
def sharePasswordCooldownSeconds : Int := 30
def maxTrackedShareTokens : Nat := 1024

/-- The least number of 64 bits, a bound, and the largest number of 64 bits. -/
def clampI64 (value : Int) : Int := max (-2 ^ 63) (min (2 ^ 63 - 1) value)

def saturatingAdd (first second : Int) : Int := clampI64 (first + second)
def saturatingSub (first second : Int) : Int := clampI64 (first - second)

/-- The attempts of a token, the oldest first, and the end of its block, zero without one. -/
structure PasswordAttemptState (Token : Type) where
  token : Token
  attempts : List Int
  blockedUntil : Int
  lastSeen : Int
deriving DecidableEq

abbrev PasswordAttemptLimiter (Token : Type) :=
  Table Token (PasswordAttemptState Token) PasswordAttemptState.token

/-- `Ok`, or the seconds to wait. -/
abbrev Reply := Except Int Unit

instance : DecidableEq Reply := fun one two =>
  match one, two with
  | .ok (), .ok () => isTrue rfl
  | .ok (), .error _ => isFalse (by intro same; cases same)
  | .error _, .ok () => isFalse (by intro same; cases same)
  | .error one, .error two =>
    if same : one = two then isTrue (by rw [same]) else isFalse fun equal => same (Except.error.inj equal)

/-- The loop that drops attempts from the front. -/
def dropExpired (attempts : List Int) (cutoff : Int) : List Int :=
  attempts.dropWhile fun attempt => decide (attempt ≤ cutoff)

namespace PasswordAttemptState

variable {Token : Type}

def default (token : Token) : PasswordAttemptState Token := ⟨token, [], 0, 0⟩

/-- What `prune` leaves of a state, if anything. -/
def pruned (now : Int) (state : PasswordAttemptState Token) : Option (PasswordAttemptState Token) :=
  let attempts := dropExpired state.attempts (saturatingSub now sharePasswordWindowSeconds)
  if now < state.blockedUntil ∨ attempts ≠ [] then some { state with attempts := attempts } else none

theorem pruned_token (now : Int) (state next : PasswordAttemptState Token) (left : state.pruned now = some next) :
    next.token = state.token := by
  unfold pruned at left
  dsimp only at left
  split at left
  · cases left
    rfl
  · cases left

/-- The part of `begin_attempt` behind the lookup of the state. -/
def attempt (state : PasswordAttemptState Token) (now : Int) : PasswordAttemptState Token × Reply :=
  let seen := { state with lastSeen := now }
  if now < seen.blockedUntil then (seen, .error (max (seen.blockedUntil - now) 1))
  else
    let free := if seen.blockedUntil ≠ 0 then { seen with blockedUntil := 0, attempts := [] } else seen
    let attempts := dropExpired free.attempts (saturatingSub now sharePasswordWindowSeconds)
    if sharePasswordAttemptLimit ≤ attempts.length then
      ({ free with
          attempts := []
          blockedUntil := saturatingAdd now sharePasswordCooldownSeconds }, .error sharePasswordCooldownSeconds)
    else ({ free with attempts := attempts ++ [now] }, .ok ())

/-- The change that `record_failure` makes, with the time it is given. -/
def failed (state : PasswordAttemptState Token) (now : Int) : PasswordAttemptState Token :=
  if sharePasswordAttemptLimit ≤ state.attempts.length then
    { state with
      lastSeen := now
      attempts := []
      blockedUntil := saturatingAdd now sharePasswordCooldownSeconds }
  else { state with lastSeen := now }

theorem attempt_token (state : PasswordAttemptState Token) (now : Int) : (state.attempt now).1.token = state.token := by
  unfold attempt
  dsimp only
  split
  · rfl
  · split
    · split
      · rfl
      · rfl
    · split
      · rfl
      · rfl

theorem failed_token (state : PasswordAttemptState Token) (now : Int) : (state.failed now).token = state.token := by
  unfold failed
  split
  · rfl
  · rfl

end PasswordAttemptState

namespace PasswordAttemptLimiter

variable {Token : Type} [DecidableEq Token]

def prune (limiter : PasswordAttemptLimiter Token) (now : Int) : PasswordAttemptLimiter Token :=
  limiter.filterMap (PasswordAttemptState.pruned now) (PasswordAttemptState.pruned_token now)

/-- Without room for one more token, the one that was seen longest ago is forgotten. -/
def evict (limiter : PasswordAttemptLimiter Token) (token : Token) : PasswordAttemptLimiter Token :=
  if limiter.find? token = none ∧ maxTrackedShareTokens ≤ limiter.items.length then
    match limiter.items.minOn? PasswordAttemptState.lastSeen with
    | some oldest => limiter.erase oldest.token
    | none => limiter
  else limiter

def beginAttempt (limiter : PasswordAttemptLimiter Token) (token : Token) (now : Int) :
    PasswordAttemptLimiter Token × Reply :=
  let kept := (limiter.prune now).evict token
  let (state, reply) := ((kept.find? token).getD (.default token)).attempt now
  (kept.insert state, reply)

def recordFailure (limiter : PasswordAttemptLimiter Token) (token : Token) (now : Int) :
    PasswordAttemptLimiter Token :=
  match limiter.find? token with
  | some state => limiter.insert (state.failed now)
  | none => limiter

def clear (limiter : PasswordAttemptLimiter Token) (token : Token) : PasswordAttemptLimiter Token :=
  limiter.erase token

end PasswordAttemptLimiter

/-! ## Requests -/

/-- A request whose attempt was admitted and whose result is not recorded yet. -/
structure Request (Token : Type) where
  token : Token
  start : Int
deriving DecidableEq

/-- How the check of a password ends.  Nothing is recorded when the account has changed. -/
inductive Verdict
  | verified
  | wrong
  | unavailable
deriving DecidableEq

/-- An attempt and the answer to it. -/
structure Begin (Token : Type) where
  token : Token
  time : Int
  reply : Reply
deriving DecidableEq

structure Success (Token : Type) where
  token : Token
  time : Int
deriving DecidableEq

/-- The limiter and the requests under way, with what happened so far, the latest first.
For each token there is also the limiter as it were if no other token had been used. -/
structure State (Token : Type) where
  clock : Int
  limiter : PasswordAttemptLimiter Token
  requests : List (Request Token)
  begins : List (Begin Token)
  successes : List (Success Token)
  alone : Token -> PasswordAttemptLimiter Token

def initial (Token : Type) : State Token := ⟨0, .empty, [], [], [], fun _ => .empty⟩

inductive Event (Token : Type)
  | tick (now : Int)
  | beginAttempt (token : Token)
  | finish (request : Request Token) (verdict : Verdict)
deriving DecidableEq

/-- The last second that a date can have, far from the largest number of 64 bits. -/
def latestTimestamp : Int := 8210298412799

section Machine

variable {Token : Type} [DecidableEq Token]

/-- An update of one limiter, made to the limiter and to that of its token alone. -/
def State.limit (state : State Token) (token : Token)
    (change : PasswordAttemptLimiter Token -> PasswordAttemptLimiter Token) : State Token :=
  { state with
    limiter := change state.limiter
    alone := Function.update state.alone token (change (state.alone token)) }

/-- `verify`, from the time it is read to the attempt. -/
def State.beginAttempt (state : State Token) (token : Token) : State Token :=
  let reply := (state.limiter.beginAttempt token state.clock).2
  { state.limit token (fun limiter => (limiter.beginAttempt token state.clock).1) with
    requests := if reply = .ok () then ⟨token, state.clock⟩ :: state.requests else state.requests
    begins := ⟨token, state.clock, reply⟩ :: state.begins }

/-- `verify`, behind the check of the password. -/
def State.finish (state : State Token) (request : Request Token) (verdict : Verdict) : State Token :=
  let left := { state with requests := state.requests.erase request }
  match verdict with
  | .verified =>
    { left.limit request.token (fun limiter => limiter.clear request.token) with
      successes := ⟨request.token, state.clock⟩ :: state.successes }
  | .wrong => left.limit request.token fun limiter => limiter.recordFailure request.token request.start
  | .unavailable => left

def machine (Token : Type) [DecidableEq Token] : Machine (State Token) (Event Token) where
  step state event :=
    match event with
    | .tick now => if state.clock ≤ now ∧ now ≤ latestTimestamp then some { state with clock := now } else none
    | .beginAttempt token => some (state.beginAttempt token)
    | .finish request verdict => if request ∈ state.requests then some (state.finish request verdict) else none

end Machine

end Sharing
end TelegramDrive
