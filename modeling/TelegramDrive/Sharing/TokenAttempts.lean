import TelegramDrive.Sharing.PasswordAttempts

namespace TelegramDrive
namespace Sharing

/-!
# The attempts at one token

What the limiter knows of a token is a queue of attempts and the end of a block.  Each
operation of the limiter changes that of its own token in one way, and of the others it
may only drop attempts that have left the window.

Every attempt that was admitted is either still in the queue, or is so old that a window
of the cooldown with the next one cannot contain it, or was made before a success.
-/

/-- What the limiter knows of a token; a token that it does not know was never tried. -/
structure Attempts where
  queue : List Int
  blockedUntil : Int
deriving DecidableEq

namespace Attempts

def none : Attempts := ⟨[], 0⟩

def prune (attempts : Attempts) (now : Int) : Attempts :=
  let queue := dropExpired attempts.queue (now - sharePasswordWindowSeconds)
  if now < attempts.blockedUntil ∨ queue ≠ [] then ⟨queue, attempts.blockedUntil⟩ else none

def attempt (attempts : Attempts) (now : Int) : Attempts × Reply :=
  if now < attempts.blockedUntil then (attempts, .error (max (attempts.blockedUntil - now) 1))
  else
    let free := if attempts.blockedUntil ≠ 0 then none else attempts
    let queue := dropExpired free.queue (now - sharePasswordWindowSeconds)
    if sharePasswordAttemptLimit ≤ queue.length then
      (⟨[], now + sharePasswordCooldownSeconds⟩, .error sharePasswordCooldownSeconds)
    else (⟨queue ++ [now], free.blockedUntil⟩, .ok ())

def failed (attempts : Attempts) (start : Int) : Attempts :=
  if sharePasswordAttemptLimit ≤ attempts.queue.length then ⟨[], start + sharePasswordCooldownSeconds⟩ else attempts

end Attempts

/-! ## The limiter, token by token -/

section Limiter

variable {Token : Type}

def view : Option (PasswordAttemptState Token) -> Attempts
  | some state => ⟨state.attempts, state.blockedUntil⟩
  | none => .none

/-- A time that a clock can show. -/
def Timestamp (now : Int) : Prop := 0 ≤ now ∧ now ≤ latestTimestamp

theorem saturatingSub_window {now : Int} (time : Timestamp now) :
    saturatingSub now sharePasswordWindowSeconds = now - sharePasswordWindowSeconds := by
  have bound : latestTimestamp = 8210298412799 := rfl
  have window : sharePasswordWindowSeconds = 300 := rfl
  rcases time with ⟨early, late⟩
  unfold saturatingSub clampI64
  omega

theorem saturatingAdd_cooldown {now : Int} (time : Timestamp now) :
    saturatingAdd now sharePasswordCooldownSeconds = now + sharePasswordCooldownSeconds := by
  have bound : latestTimestamp = 8210298412799 := rfl
  have cooldown : sharePasswordCooldownSeconds = 30 := rfl
  rcases time with ⟨early, late⟩
  unfold saturatingAdd clampI64
  omega

theorem view_pruned {now : Int} (time : Timestamp now) (found : Option (PasswordAttemptState Token)) :
    view (found.bind (PasswordAttemptState.pruned now)) = (view found).prune now := by
  cases found with
  | none =>
    show Attempts.none = Attempts.prune _ now
    unfold Attempts.prune
    dsimp only
    split
    · rfl
    · rfl
  | some state =>
    show view (state.pruned now) = Attempts.prune ⟨state.attempts, state.blockedUntil⟩ now
    unfold PasswordAttemptState.pruned Attempts.prune
    rw [saturatingSub_window time]
    dsimp only
    split
    · rfl
    · rfl

theorem view_attempt {now : Int} (time : Timestamp now) (state : PasswordAttemptState Token) :
    (view (some (state.attempt now).1), (state.attempt now).2) =
      Attempts.attempt ⟨state.attempts, state.blockedUntil⟩ now := by
  unfold PasswordAttemptState.attempt Attempts.attempt
  rw [saturatingSub_window time, saturatingAdd_cooldown time]
  dsimp only
  split
  · rfl
  · split
    · split
      next full => exact (if_pos full).symm
      next room => exact (if_neg room).symm
    · split
      · rfl
      · rfl

theorem view_failed {start : Int} (time : Timestamp start) (state : PasswordAttemptState Token) :
    view (some (state.failed start)) = Attempts.failed ⟨state.attempts, state.blockedUntil⟩ start := by
  unfold PasswordAttemptState.failed Attempts.failed
  rw [saturatingAdd_cooldown time]
  split
  · rfl
  · rfl

theorem view_getD (found : Option (PasswordAttemptState Token)) (token : Token) :
    view (some (found.getD (.default token))) = view found := by
  cases found with
  | none => rfl
  | some state => rfl

namespace PasswordAttemptLimiter

/-- The tokens that a limiter knows are among these. -/
def Within (limiter : PasswordAttemptLimiter Token) (tokens : List Token) : Prop :=
  forall state, state ∈ limiter.items -> state.token ∈ tokens

variable {limiter : PasswordAttemptLimiter Token}

theorem within_prune {tokens : List Token} (now : Int)
    (within : Within limiter tokens) : Within (prune limiter now) tokens := by
  intro next member
  rcases List.mem_filterMap.mp member with ⟨state, inside, left⟩
  rw [PasswordAttemptState.pruned_token now state next left]
  exact within state inside

variable [DecidableEq Token]

/-- Among few tokens there is always room for one of them. -/
theorem evict_within {tokens : List Token} (within : Within limiter tokens)
    (few : tokens.length ≤ maxTrackedShareTokens) {token : Token} (member : token ∈ tokens) :
    evict limiter token = limiter := by
  unfold evict
  rw [if_neg]
  rintro ⟨absent, full⟩
  have apart : token ∉ limiter.items.map PasswordAttemptState.token := by
    intro listed
    rcases List.mem_map.mp listed with ⟨state, inside, same⟩
    exact Table.find?_eq_none.mp absent state inside same
  have distinct : (token :: limiter.items.map PasswordAttemptState.token).Nodup :=
    List.nodup_cons.mpr ⟨apart, limiter.distinct⟩
  have among : (token :: limiter.items.map PasswordAttemptState.token) ⊆ tokens := by
    intro other listed
    rcases List.mem_cons.mp listed with rfl | known
    · exact member
    · rcases List.mem_map.mp known with ⟨state, inside, rfl⟩
      exact within state inside
  have counted := (List.subperm_of_subset distinct among).length_le
  rw [List.length_cons, List.length_map] at counted
  omega

section Begin

variable {limiter : PasswordAttemptLimiter Token} {tokens : List Token} (within : Within limiter tokens)
  (few : tokens.length ≤ maxTrackedShareTokens) {token : Token} (member : token ∈ tokens)
include within few member

theorem beginAttempt_eq (now : Int) : beginAttempt limiter token now =
    ((prune limiter now).insert ((((prune limiter now).find? token).getD (.default token)).attempt now).1,
      ((((prune limiter now).find? token).getD (.default token)).attempt now).2) := by
  unfold beginAttempt
  rw [evict_within (within_prune now within) few member]

theorem view_beginAttempt {now : Int} (time : Timestamp now) (target : Token) :
    view ((beginAttempt limiter token now).1.find? target) =
      if target = token then (((view (limiter.find? token)).prune now).attempt now).1
      else (view (limiter.find? target)).prune now := by
  have known : (((prune limiter now).find? token).getD (.default token)).token = token := by
    cases found : (prune limiter now).find? token with
    | none => rfl
    | some state => exact Table.key_of_find? found
  rw [beginAttempt_eq within few member, Table.find?_insert, PasswordAttemptState.attempt_token, known]
  split
  · have both := view_attempt time (((prune limiter now).find? token).getD (.default token))
    have start := view_getD ((prune limiter now).find? token) token
    rw [← view_pruned time, ← Table.find?_filterMap limiter _ (PasswordAttemptState.pruned_token now)]
    exact (congrArg Prod.fst both).trans (congrArg (fun attempts => (Attempts.attempt attempts now).1) start)
  · rw [← view_pruned time, ← Table.find?_filterMap limiter _ (PasswordAttemptState.pruned_token now)]
    rfl

theorem reply_beginAttempt {now : Int} (time : Timestamp now) : (beginAttempt limiter token now).2 =
    (((view (limiter.find? token)).prune now).attempt now).2 := by
  have both := view_attempt time (((prune limiter now).find? token).getD (.default token))
  have start := view_getD ((prune limiter now).find? token) token
  rw [beginAttempt_eq within few member, ← view_pruned time,
    ← Table.find?_filterMap limiter _ (PasswordAttemptState.pruned_token now)]
  exact (congrArg Prod.snd both).trans (congrArg (fun attempts => (Attempts.attempt attempts now).2) start)

theorem within_beginAttempt (now : Int) : Within (beginAttempt limiter token now).1 tokens := by
  intro state inside
  rw [beginAttempt_eq within few member] at inside
  rcases Table.mem_insert.mp inside with rfl | ⟨kept, -⟩
  · rw [PasswordAttemptState.attempt_token]
    cases found : (prune limiter now).find? token with
    | none => exact member
    | some state =>
      rw [Option.getD_some, Table.key_of_find? found]
      exact member
  · exact within_prune now within state kept

end Begin

theorem view_recordFailure (limiter : PasswordAttemptLimiter Token) (token : Token) {start : Int}
    (time : Timestamp start) (target : Token) :
    view ((recordFailure limiter token start).find? target) =
      if target = token then (view (limiter.find? token)).failed start else view (limiter.find? target) := by
  unfold recordFailure
  cases found : limiter.find? token with
  | none =>
    dsimp only
    split
    next same =>
      rw [same, found]
      rfl
    · rfl
  | some state =>
    dsimp only
    rw [Table.find?_insert, PasswordAttemptState.failed_token, Table.key_of_find? found]
    split
    · exact view_failed time state
    · rfl

theorem within_recordFailure {tokens : List Token}
    (within : Within limiter tokens) (token : Token) (start : Int) : Within (recordFailure limiter token start) tokens := by
  unfold recordFailure
  cases found : limiter.find? token with
  | none => exact within
  | some state =>
    intro next inside
    rcases Table.mem_insert.mp inside with rfl | ⟨kept, -⟩
    · rw [PasswordAttemptState.failed_token]
      exact within state (Table.find?_eq_some.mp found).1
    · exact within next kept

theorem view_clear (limiter : PasswordAttemptLimiter Token) (token target : Token) :
    view ((clear limiter token).find? target) = if target = token then .none else view (limiter.find? target) := by
  unfold clear
  rw [Table.find?_erase]
  split
  · rfl
  · rfl

theorem within_clear {tokens : List Token} (within : Within limiter tokens)
    (token : Token) : Within (clear limiter token) tokens := by
  intro state inside
  exact within state (List.mem_filter.mp inside).1

/-! ## The size of the map -/

theorem length_erase (limiter : PasswordAttemptLimiter Token) (token : Token) :
    limiter.items.length = (Table.erase limiter token).items.length + if (limiter.find? token).isSome then 1 else 0 := by
  have counted := Table.countP_erase limiter token fun _ => true
  rw [List.countP_true] at counted
  rw [counted]
  cases limiter.find? token with
  | none => rfl
  | some state => rfl

theorem length_insert_known {state next : PasswordAttemptState Token}
    {token : Token} (found : limiter.find? token = some state) (same : next.token = token) :
    (Table.insert limiter next).items.length = limiter.items.length := by
  rw [length_erase limiter token, found]
  show (next :: (Table.erase limiter next.token).items).length = _
  rw [same]
  rfl

theorem length_insert_new {next : PasswordAttemptState Token}
    {token : Token} (absent : limiter.find? token = none) (same : next.token = token) :
    (Table.insert limiter next).items.length = limiter.items.length + 1 := by
  rw [length_erase limiter token, absent]
  show (next :: (Table.erase limiter next.token).items).length = _
  rw [same]
  rfl

/-- The map never outgrows its bound. -/
theorem length_beginAttempt (bounded : limiter.items.length ≤ maxTrackedShareTokens)
    (token : Token) (now : Int) : (beginAttempt limiter token now).1.items.length ≤ maxTrackedShareTokens := by
  have pruned : (prune limiter now).items.length ≤ maxTrackedShareTokens :=
    Nat.le_trans (List.length_filterMap_le _ _) bounded
  have known : ((((prune limiter now).evict token).find? token).getD (.default token)).token = token := by
    cases found : ((prune limiter now).evict token).find? token with
    | none => rfl
    | some state => exact Table.key_of_find? found
  have room : ((prune limiter now).evict token).items.length ≤ maxTrackedShareTokens ∧
      (((prune limiter now).evict token).find? token = none ->
        ((prune limiter now).evict token).items.length < maxTrackedShareTokens) := by
    unfold evict
    split
    next full =>
      cases oldest : (prune limiter now).items.minOn? PasswordAttemptState.lastSeen with
      | none =>
        have empty : (prune limiter now).items = [] := by
          by_contra filled
          rw [← ne_eq, ← List.isSome_minOn?_iff (f := PasswordAttemptState.lastSeen), oldest] at filled
          exact absurd filled Bool.false_ne_true
        rw [empty] at full
        have positive : 0 < maxTrackedShareTokens := by decide
        exact absurd full.2 (Nat.not_le_of_lt positive)
      | some state =>
        have found := Table.find?_of_mem (List.minOn?_mem oldest)
        have counted := length_erase (prune limiter now) state.token
        rw [found, Option.isSome_some, if_pos rfl] at counted
        dsimp only
        exact ⟨by omega, fun _ => by omega⟩
    next apart =>
      refine ⟨pruned, fun absent => ?_⟩
      exact Nat.lt_of_not_le fun full => apart ⟨absent, full⟩
  have same : (((((prune limiter now).evict token).find? token).getD (.default token)).attempt now).1.token = token := by
    rw [PasswordAttemptState.attempt_token, known]
  cases found : ((prune limiter now).evict token).find? token with
  | some state => exact Nat.le_trans (Nat.le_of_eq (length_insert_known found same)) room.1
  | none => exact Nat.le_trans (Nat.le_of_eq (length_insert_new found same)) (room.2 found)

theorem length_recordFailure (limiter : PasswordAttemptLimiter Token) (token : Token) (start : Int) :
    (recordFailure limiter token start).items.length = limiter.items.length := by
  unfold recordFailure
  cases found : limiter.find? token with
  | none => rfl
  | some state =>
    exact length_insert_known found (by rw [PasswordAttemptState.failed_token]; exact Table.key_of_find? found)

theorem length_clear (limiter : PasswordAttemptLimiter Token) (token : Token) :
    (clear limiter token).items.length ≤ limiter.items.length := List.length_filter_le _ _

end PasswordAttemptLimiter

end Limiter

end Sharing
end TelegramDrive
