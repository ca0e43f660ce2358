import TelegramDrive.Sharing.AttemptLimits

namespace TelegramDrive
namespace Sharing

/-!
# The passwords of shared links

Over all interleavings of requests, a token is tried a few times in a cooldown, a refusal
lasts as long as it says, and no token notices the others.  Two late results break this,
because they are recorded with the time at which the request started, or from a queue that
other tokens have pruned in the meantime; and a success forgets a block.
-/

variable {Token : Type} [DecidableEq Token]

/-- The wait that an answer asked for, if it did, is over. -/
def Begin.elapsed (begun : Begin Token) (clock : Int) : Bool :=
  match begun.reply with
  | .ok () => true
  | .error wait => decide (begun.time + wait ≤ clock)

namespace State

def attempts (state : State Token) (token : Token) : Attempts := view (state.limiter.find? token)

def solo (state : State Token) (token : Token) : Attempts := view ((state.alone token).find? token)

def history (state : State Token) (token : Token) : History where
  replies := state.begins.filterMap fun begun => if begun.token = token then some (begun.time, begun.reply) else none
  successes := state.successes.filterMap fun success => if success.token = token then some success.time else none

/-- No wait that a request for the token was told is still running. -/
def waitsElapsed (state : State Token) (token : Token) : Prop :=
  forall begun, begun ∈ state.begins -> begun.token = token -> begun.elapsed state.clock = true

/-- A failure that closes a full queue started no earlier than the attempts in it, or came a
cooldown after them; and the queue is full when the token's own requests have filled it. -/
def timely (state : State Token) (request : Request Token) : Prop :=
  (sharePasswordAttemptLimit ≤ (state.attempts request.token).queue.length ->
    forall time, time ∈ (state.attempts request.token).queue ->
      time ≤ request.start ∨ time + sharePasswordCooldownSeconds ≤ state.clock) ∧
    (sharePasswordAttemptLimit ≤ (state.solo request.token).queue.length ->
      sharePasswordAttemptLimit ≤ (state.attempts request.token).queue.length)

instance (state : State Token) (token : Token) : Decidable (state.waitsElapsed token) :=
  inferInstanceAs (Decidable (forall begun, begun ∈ state.begins -> _ -> _))

instance (state : State Token) (request : Request Token) : Decidable (state.timely request) :=
  inferInstanceAs (Decidable (_ ∧ _))

/-- Requests for so many tokens, whose results come in time. -/
def permits (tokens : List Token) (state : State Token) : Event Token -> Bool
  | .tick _ => true
  | .beginAttempt token => decide (token ∈ tokens)
  | .finish request .verified => decide (state.waitsElapsed request.token)
  | .finish request .wrong => decide (state.timely request)
  | .finish _ .unavailable => true

end State

/-! ## One step -/

/-- What holds of the limiter and of every token. -/
structure Sound (tokens : List Token) (state : State Token) : Prop where
  clock : Timestamp state.clock
  within : state.limiter.Within tokens
  soloWithin : forall token, (state.alone token).Within [token]
  requests : forall request, request ∈ state.requests -> Timestamp request.start
  tracked : forall token, Tracked state.clock (state.attempts token) (state.history token)
  agrees : forall token, Agrees state.clock (state.attempts token) (state.solo token)

omit [DecidableEq Token] in
theorem single_few (token : Token) : [token].length ≤ maxTrackedShareTokens := by
  have some : 1 ≤ maxTrackedShareTokens := by decide
  exact some

namespace State

theorem solo_limit (state : State Token) (token : Token)
    (change : PasswordAttemptLimiter Token -> PasswordAttemptLimiter Token) (target : Token) :
    (state.limit token change).alone target = if target = token then change (state.alone token) else state.alone target := by
  unfold limit
  dsimp only
  split
  next same =>
    rw [same]
    exact Function.update_self _ _ _
  next other => exact Function.update_of_ne other _ _

section Begin

variable {state : State Token} {tokens : List Token} (few : tokens.length ≤ maxTrackedShareTokens)
  (sound : Sound tokens state) {token : Token} (member : token ∈ tokens)
include few sound member

theorem attempts_beginAttempt (target : Token) : (state.beginAttempt token).attempts target =
    if target = token then ((state.attempts token).attempt state.clock).1
    else (state.attempts target).prune state.clock := by
  show view ((state.limiter.beginAttempt token state.clock).1.find? target) = _
  rw [PasswordAttemptLimiter.view_beginAttempt sound.within few member sound.clock]
  split
  · exact congrArg Prod.fst (Attempts.attempt_prune sound.clock.1 (sound.tracked token).blocked)
  · rfl

theorem reply_beginAttempt : (state.limiter.beginAttempt token state.clock).2 =
    ((state.attempts token).attempt state.clock).2 := by
  rw [PasswordAttemptLimiter.reply_beginAttempt sound.within few member sound.clock]
  exact congrArg Prod.snd (Attempts.attempt_prune sound.clock.1 (sound.tracked token).blocked)

omit few member

theorem solo_beginAttempt (target : Token) : (state.beginAttempt token).solo target =
    if target = token then ((state.solo token).attempt state.clock).1 else state.solo target := by
  show view (((state.limit token fun limiter => (limiter.beginAttempt token state.clock).1).alone target).find?
    target) = _
  rw [solo_limit]
  split
  next same =>
    rw [same, PasswordAttemptLimiter.view_beginAttempt (sound.soloWithin token) (single_few token)
      List.mem_cons_self sound.clock, if_pos rfl]
    exact congrArg Prod.fst (Attempts.attempt_prune sound.clock.1 (sound.agrees token).soloBlocked)
  · rfl

theorem reply_solo : ((state.alone token).beginAttempt token state.clock).2 =
    ((state.solo token).attempt state.clock).2 := by
  rw [PasswordAttemptLimiter.reply_beginAttempt (sound.soloWithin token) (single_few token) List.mem_cons_self sound.clock]
  exact congrArg Prod.snd (Attempts.attempt_prune sound.clock.1 (sound.agrees token).soloBlocked)

end Begin

theorem history_beginAttempt (state : State Token) (token target : Token) :
    (state.beginAttempt token).history target =
      if target = token then (state.history token).reply state.clock (state.limiter.beginAttempt token state.clock).2
      else state.history target := by
  by_cases same : target = token
  · subst same
    simp [history, beginAttempt, limit, History.reply]
  · have other : token ≠ target := fun equal => same equal.symm
    simp [history, beginAttempt, limit, same, other]

theorem attempts_wrong {state : State Token} {request : Request Token} (time : Timestamp request.start)
    (target : Token) : (state.finish request .wrong).attempts target =
      if target = request.token then (state.attempts request.token).failed request.start else state.attempts target :=
  PasswordAttemptLimiter.view_recordFailure state.limiter request.token time target

theorem solo_wrong {state : State Token} {request : Request Token} (time : Timestamp request.start)
    (target : Token) : (state.finish request .wrong).solo target =
      if target = request.token then (state.solo request.token).failed request.start else state.solo target := by
  show view (((state.limit request.token fun limiter => limiter.recordFailure request.token request.start).alone
    target).find? target) = _
  rw [solo_limit]
  split
  next same =>
    rw [same, PasswordAttemptLimiter.view_recordFailure _ _ time, if_pos rfl]
    rfl
  · rfl

theorem attempts_verified (state : State Token) (request : Request Token) (target : Token) :
    (state.finish request .verified).attempts target =
      if target = request.token then .none else state.attempts target :=
  PasswordAttemptLimiter.view_clear state.limiter request.token target

theorem solo_verified (state : State Token) (request : Request Token) (target : Token) :
    (state.finish request .verified).solo target =
      if target = request.token then .none else state.solo target := by
  show view (((state.limit request.token fun limiter => limiter.clear request.token).alone target).find? target) = _
  rw [solo_limit]
  split
  next same => rw [same, PasswordAttemptLimiter.view_clear, if_pos rfl]
  · rfl

theorem history_verified (state : State Token) (request : Request Token) (target : Token) :
    (state.finish request .verified).history target =
      if target = request.token then (state.history request.token).success state.clock else state.history target := by
  by_cases same : target = request.token
  · subst same
    simp [history, finish, limit, History.success]
  · have other : request.token ≠ target := fun equal => same equal.symm
    simp [history, finish, limit, same, other]

theorem mem_replies {state : State Token} {token : Token} {reply : Int × Reply} :
    reply ∈ (state.history token).replies ↔
      Exists fun begun => begun ∈ state.begins ∧ begun.token = token ∧ (begun.time, begun.reply) = reply := by
  unfold history
  rw [List.mem_filterMap]
  constructor
  · rintro ⟨begun, member, found⟩
    split at found
    next same => exact ⟨begun, member, same, Option.some.inj found⟩
    · cases found
  · rintro ⟨begun, member, same, found⟩
    exact ⟨begun, member, by rw [if_pos same, found]⟩

end State

namespace Sound

variable {tokens : List Token} {state : State Token}

theorem initial : Sound tokens (initial Token) := by
  constructor
  · have some : (0 : Int) ≤ latestTimestamp := by decide
    exact ⟨Int.le_refl _, some⟩
  · intro other member
    cases member
  · intro token other member
    cases member
  · intro request member
    cases member
  · intro token
    exact Tracked.start (Int.le_refl _)
  · intro token
    exact Agrees.same fun _ => rfl

theorem tick (sound : Sound tokens state) {now : Int} (later : state.clock ≤ now) (bound : now ≤ latestTimestamp) :
    Sound tokens { state with clock := now } := by
  constructor
  · exact ⟨Int.le_trans sound.clock.1 later, bound⟩
  · exact sound.within
  · exact sound.soloWithin
  · exact sound.requests
  · exact fun token => (sound.tracked token).tick later
  · exact fun token => (sound.agrees token).tick later

theorem beginAttempt (few : tokens.length ≤ maxTrackedShareTokens) (sound : Sound tokens state) {token : Token}
    (member : token ∈ tokens) : Sound tokens (state.beginAttempt token) := by
  constructor
  · exact sound.clock
  · exact PasswordAttemptLimiter.within_beginAttempt sound.within few member state.clock
  · intro target
    show ((state.limit token fun limiter => (limiter.beginAttempt token state.clock).1).alone target).Within [target]
    rw [State.solo_limit]
    split
    next same =>
      rw [same]
      exact PasswordAttemptLimiter.within_beginAttempt (sound.soloWithin token) (single_few token)
        List.mem_cons_self state.clock
    · exact sound.soloWithin target
  · intro request among
    change request ∈ (if _ then _ else _) at among
    split at among
    · rcases List.mem_cons.mp among with rfl | earlier
      · exact sound.clock
      · exact sound.requests request earlier
    · exact sound.requests request among
  · intro target
    rw [State.attempts_beginAttempt few sound member, State.history_beginAttempt]
    split
    · rw [State.reply_beginAttempt few sound member]
      exact (sound.tracked token).attempt
    · exact (sound.tracked target).prune
  · intro target
    rw [State.attempts_beginAttempt few sound member, State.solo_beginAttempt sound]
    split
    · exact (sound.agrees token).attempt.2
    · exact (sound.agrees target).prune sound.clock.1

theorem wrong (sound : Sound tokens state) {request : Request Token} (pending : request ∈ state.requests)
    (timely : state.timely request) : Sound tokens (state.finish request .wrong) := by
  have time := sound.requests request pending
  constructor
  · exact sound.clock
  · exact PasswordAttemptLimiter.within_recordFailure sound.within request.token request.start
  · intro target
    show ((state.limit request.token fun limiter => limiter.recordFailure request.token request.start).alone
      target).Within [target]
    rw [State.solo_limit]
    split
    next same =>
      rw [same]
      exact PasswordAttemptLimiter.within_recordFailure (sound.soloWithin request.token) request.token request.start
    · exact sound.soloWithin target
  · intro other among
    exact sound.requests other (List.mem_of_mem_erase among)
  · intro target
    rw [State.attempts_wrong time]
    show Tracked state.clock _ (state.history target)
    split
    next same =>
      rw [same]
      exact (sound.tracked request.token).failed timely.1
    · exact sound.tracked target
  · intro target
    rw [State.attempts_wrong time, State.solo_wrong time]
    show Agrees state.clock _ _
    split
    · exact (sound.agrees request.token).failed timely.2 request.start
    · exact sound.agrees target

theorem verified (sound : Sound tokens state) {request : Request Token}
    (elapsed : state.waitsElapsed request.token) : Sound tokens (state.finish request .verified) := by
  constructor
  · exact sound.clock
  · exact PasswordAttemptLimiter.within_clear sound.within request.token
  · intro target
    show ((state.limit request.token fun limiter => limiter.clear request.token).alone target).Within [target]
    rw [State.solo_limit]
    split
    next same =>
      rw [same]
      exact PasswordAttemptLimiter.within_clear (sound.soloWithin request.token) request.token
    · exact sound.soloWithin target
  · intro other among
    exact sound.requests other (List.mem_of_mem_erase among)
  · intro target
    rw [State.attempts_verified, State.history_verified]
    show Tracked state.clock _ _
    split
    · refine (sound.tracked request.token).succeed ?_
      intro reply told wait refused
      rcases State.mem_replies.mp told with ⟨begun, member, same, rfl⟩
      have past := elapsed begun member same
      unfold Begin.elapsed at past
      dsimp only at refused
      rw [refused] at past
      exact of_decide_eq_true past
    · exact sound.tracked target
  · intro target
    rw [State.attempts_verified, State.solo_verified]
    show Agrees state.clock _ _
    split
    · exact .same fun _ => rfl
    · exact sound.agrees target

theorem unavailable (sound : Sound tokens state) (request : Request Token) :
    Sound tokens (state.finish request .unavailable) := by
  constructor
  · exact sound.clock
  · exact sound.within
  · exact sound.soloWithin
  · intro other among
    exact sound.requests other (List.mem_of_mem_erase among)
  · exact sound.tracked
  · exact sound.agrees

/-- Every permitted step keeps what holds. -/
theorem step (few : tokens.length ≤ maxTrackedShareTokens) (sound : Sound tokens state) {event : Event Token}
    {next : State Token} (allowed : state.permits tokens event = true) (moved : (machine Token).step state event = some next) :
    Sound tokens next := by
  cases event with
  | tick now =>
    change (if _ then _ else _) = _ at moved
    split at moved
    next both =>
      cases moved
      exact sound.tick both.1 both.2
    · cases moved
  | beginAttempt token =>
    cases moved
    exact sound.beginAttempt few (of_decide_eq_true allowed)
  | finish request verdict =>
    change (if _ then _ else _) = _ at moved
    split at moved
    next pending =>
      cases moved
      cases verdict with
      | verified => exact sound.verified (of_decide_eq_true allowed)
      | wrong => exact sound.wrong pending (of_decide_eq_true allowed)
      | unavailable => exact sound.unavailable request
    · cases moved

end Sound

/-! ## A token by itself -/

def Event.concerns (token : Token) : Event Token -> Bool
  | .tick _ => true
  | .beginAttempt other => decide (other = token)
  | .finish request _ => decide (request.token = token)

/-- The state in which only one token was used. -/
structure Alone (token : Token) (state single : State Token) : Prop where
  clock : single.clock = state.clock
  limiter : single.limiter = state.alone token
  requests : single.requests = state.requests.filter fun request => decide (request.token = token)
  begins : single.begins = state.begins.filter fun begun => decide (begun.token = token)

namespace Alone

variable {tokens : List Token} {token : Token} {state single : State Token}

theorem beginAttempt (few : tokens.length ≤ maxTrackedShareTokens) (sound : Sound tokens state)
    (member : token ∈ tokens) (alone : Alone token state single) :
    Alone token (state.beginAttempt token) (single.beginAttempt token) := by
  have same : (single.limiter.beginAttempt token single.clock).2 =
      (state.limiter.beginAttempt token state.clock).2 := by
    rw [alone.limiter, alone.clock, State.reply_solo sound, State.reply_beginAttempt few sound member]
    exact (sound.agrees token).attempt.1.symm
  constructor
  · exact alone.clock
  · show (single.limiter.beginAttempt token single.clock).1 =
      (state.limit token fun limiter => (limiter.beginAttempt token state.clock).1).alone token
    rw [State.solo_limit, if_pos rfl, alone.limiter, alone.clock]
  · show (if (single.limiter.beginAttempt token single.clock).2 = .ok () then _ else _) =
      List.filter _ (if (state.limiter.beginAttempt token state.clock).2 = .ok () then _ else _)
    rw [same, alone.clock, alone.requests]
    split
    · rw [List.filter_cons_of_pos]
      exact decide_eq_true rfl
    · rfl
  · show _ :: single.begins = List.filter _ (_ :: state.begins)
    rw [List.filter_cons_of_pos, ← alone.begins, same, alone.clock]
    exact decide_eq_true rfl

theorem beginOther {other : Token} (different : other ≠ token) (alone : Alone token state single) :
    Alone token (state.beginAttempt other) single := by
  constructor
  · exact alone.clock
  · show single.limiter = (state.limit other fun limiter => (limiter.beginAttempt other state.clock).1).alone token
    rw [State.solo_limit, if_neg fun same => different same.symm]
    exact alone.limiter
  · rw [alone.requests]
    show _ = List.filter _ (if (state.limiter.beginAttempt other state.clock).2 = .ok () then _ else _)
    split
    · rw [List.filter_cons_of_neg]
      exact fun same => different (of_decide_eq_true same)
    · rfl
  · show single.begins = List.filter _ (_ :: state.begins)
    rw [List.filter_cons_of_neg, ← alone.begins]
    exact fun same => different (of_decide_eq_true same)

theorem finish (alone : Alone token state single) {request : Request Token} (its : request.token = token)
    (verdict : Verdict) : Alone token (state.finish request verdict) (single.finish request verdict) := by
  have requests : single.requests.erase request =
      (state.requests.erase request).filter fun request => decide (request.token = token) := by
    rw [alone.requests, List.erase_filter]
  cases verdict with
  | unavailable => exact ⟨alone.clock, alone.limiter, requests, alone.begins⟩
  | wrong =>
    refine ⟨alone.clock, ?_, requests, alone.begins⟩
    show single.limiter.recordFailure request.token request.start =
      (state.limit request.token fun limiter => limiter.recordFailure request.token request.start).alone token
    rw [State.solo_limit, if_pos its.symm, alone.limiter, its]
  | verified =>
    refine ⟨alone.clock, ?_, requests, alone.begins⟩
    show single.limiter.clear request.token =
      (state.limit request.token fun limiter => limiter.clear request.token).alone token
    rw [State.solo_limit, if_pos its.symm, alone.limiter, its]

theorem finishOther (alone : Alone token state single) {request : Request Token} (other : request.token ≠ token)
    (verdict : Verdict) : Alone token (state.finish request verdict) single := by
  have requests : single.requests =
      (state.requests.erase request).filter fun request => decide (request.token = token) := by
    rw [alone.requests, ← List.erase_filter, List.erase_of_not_mem]
    intro member
    exact other (of_decide_eq_true (List.mem_filter.mp member).2)
  cases verdict with
  | unavailable => exact ⟨alone.clock, alone.limiter, requests, alone.begins⟩
  | wrong =>
    refine ⟨alone.clock, ?_, requests, alone.begins⟩
    show single.limiter =
      (state.limit request.token fun limiter => limiter.recordFailure request.token request.start).alone token
    rw [State.solo_limit, if_neg fun same => other same.symm, alone.limiter]
  | verified =>
    refine ⟨alone.clock, ?_, requests, alone.begins⟩
    show single.limiter = (state.limit request.token fun limiter => limiter.clear request.token).alone token
    rw [State.solo_limit, if_neg fun same => other same.symm, alone.limiter]

theorem step (few : tokens.length ≤ maxTrackedShareTokens) (sound : Sound tokens state)
    (alone : Alone token state single) {event : Event Token} {next : State Token}
    (allowed : state.permits tokens event = true) (moved : (machine Token).step state event = some next) :
    if event.concerns token then
      Exists fun after => (machine Token).step single event = some after ∧ Alone token next after
    else Alone token next single := by
  cases event with
  | tick now =>
    rw [if_pos (show Event.concerns token (.tick now) = true from rfl)]
    change (if _ then _ else _) = _ at moved
    split at moved
    next both =>
      cases moved
      refine ⟨{ single with clock := now }, ?_, rfl, alone.limiter, alone.requests, alone.begins⟩
      exact if_pos (alone.clock.symm ▸ both)
    · cases moved
  | beginAttempt other =>
    cases moved
    have member : other ∈ tokens := of_decide_eq_true allowed
    by_cases same : other = token
    · rw [if_pos (show Event.concerns token (.beginAttempt other) = true from decide_eq_true same)]
      subst same
      exact ⟨_, rfl, alone.beginAttempt few sound member⟩
    · rw [if_neg (show ¬ Event.concerns token (.beginAttempt other) = true from fun its => same (of_decide_eq_true its))]
      exact alone.beginOther same
  | finish request verdict =>
    change (if _ then _ else _) = _ at moved
    split at moved
    next pending =>
      cases moved
      by_cases its : request.token = token
      · rw [if_pos (show Event.concerns token (.finish request verdict) = true from decide_eq_true its)]
        refine ⟨_, if_pos ?_, alone.finish its verdict⟩
        rw [alone.requests]
        exact List.mem_filter.mpr ⟨pending, decide_eq_true its⟩
      · rw [if_neg (show ¬ Event.concerns token (.finish request verdict) = true from
          fun same => its (of_decide_eq_true same))]
        exact alone.finishOther its verdict
    · cases moved

theorem run (few : tokens.length ≤ maxTrackedShareTokens) {events : List (Event Token)} {final : State Token}
    (ran : (machine Token).Run (fun state event => state.permits tokens event = true) state events final)
    (sound : Sound tokens state) (alone : Alone token state single) :
    Exists fun after => (machine Token).Run Machine.anything single (events.filter (Event.concerns token)) after ∧
      Alone token final after := by
  induction ran generalizing single with
  | stop state => exact ⟨single, .stop single, alone⟩
  | take allowed moved later ih =>
    have stepped := alone.step few sound allowed moved
    have next := sound.step few allowed moved
    split at stepped
    next its =>
      rcases stepped with ⟨middle, taken, middleAlone⟩
      rcases ih next middleAlone with ⟨after, ran, final⟩
      rw [List.filter_cons_of_pos its]
      exact ⟨after, .take trivial taken ran, final⟩
    next other =>
      rw [List.filter_cons_of_neg other]
      exact ih next stepped

end Alone

/-! ## The limit -/

/-- The map is never larger than its bound, in any run. -/
theorem map_bounded {permitted : State Token -> Event Token -> Prop} {events : List (Event Token)}
    {state final : State Token} (ran : (machine Token).Run permitted state events final)
    (start : state.limiter.items.length ≤ maxTrackedShareTokens) :
    final.limiter.items.length ≤ maxTrackedShareTokens := by
  refine ran.invariant (fun state => state.limiter.items.length ≤ maxTrackedShareTokens) ?_ start
  intro state event next _ bounded moved
  cases event with
  | tick now =>
    change (if _ then _ else _) = _ at moved
    split at moved
    · cases moved
      exact bounded
    · cases moved
  | beginAttempt token =>
    cases moved
    exact PasswordAttemptLimiter.length_beginAttempt bounded token state.clock
  | finish request verdict =>
    change (if _ then _ else _) = _ at moved
    split at moved
    · cases moved
      cases verdict with
      | unavailable => exact bounded
      | wrong =>
        exact Nat.le_trans (Nat.le_of_eq (PasswordAttemptLimiter.length_recordFailure state.limiter request.token
          request.start)) bounded
      | verified => exact Nat.le_trans (PasswordAttemptLimiter.length_clear state.limiter request.token) bounded
    · cases moved

/-- What is promised of the passwords of shared links, for the tokens that were used. -/
structure PasswordsLimited (events : List (Event Token)) (state : State Token) : Prop where
  limited : forall token, (state.history token).Limited
  waits : forall token, (state.history token).Waits
  patient : forall token, (state.history token).Patient
  independent : forall token, Exists fun single =>
    (machine Token).Run Machine.anything (initial Token) (events.filter (Event.concerns token)) single ∧
      single.begins = state.begins.filter fun begun => decide (begun.token = token)
  bounded : state.limiter.items.length ≤ maxTrackedShareTokens

/-- In every run of requests for few enough tokens, in which no failure closes a full queue
too early, no failure comes when other tokens have pruned a full queue, and no success comes
before the waits that were told are over, the attempts are limited. -/
theorem share_passwords_are_limited {tokens : List Token} (few : tokens.length ≤ maxTrackedShareTokens)
    {events : List (Event Token)} {state : State Token}
    (ran : (machine Token).Run (fun state event => state.permits tokens event = true) (initial Token) events state) :
    PasswordsLimited events state := by
  have sound : Sound tokens state :=
    ran.invariant (Sound tokens) (fun _ _ _ allowed sound moved => sound.step few allowed moved) Sound.initial
  constructor
  · exact fun token => (sound.tracked token).limited
  · exact fun token reply member wait refused => ((sound.tracked token).waiting reply member wait refused).1
  · exact fun token => (sound.tracked token).patient
  · intro token
    have start : Alone token (initial Token) (initial Token) := ⟨rfl, rfl, rfl, rfl⟩
    rcases Alone.run few ran Sound.initial start with ⟨single, singleRan, alone⟩
    exact ⟨single, singleRan, alone.begins⟩
  · exact map_bounded ran (Nat.zero_le _)

/-- Five attempts at one token, the last of them half a minute after the others, and the failure
of the first: it ends its block with the cooldown of its own start. -/
def lateFailure : List (Event Nat) :=
  [.beginAttempt 7, .beginAttempt 7, .beginAttempt 7, .beginAttempt 7, .tick 29, .beginAttempt 7,
    .finish ⟨7, 0⟩ .wrong, .tick 30, .beginAttempt 7, .beginAttempt 7, .beginAttempt 7, .beginAttempt 7,
    .beginAttempt 7]

/-- The same five attempts, of which the last is the first to fail. -/
def timelyFailure : List (Event Nat) :=
  [.beginAttempt 7, .beginAttempt 7, .beginAttempt 7, .beginAttempt 7, .tick 29, .beginAttempt 7,
    .finish ⟨7, 29⟩ .wrong, .tick 30, .beginAttempt 7, .tick 59, .beginAttempt 7, .finish ⟨7, 59⟩ .verified]

/-- A run in which a failure blocks the token, a request is refused, and one succeeds later. -/
theorem share_passwords_are_limited_here : Exists fun state : State Nat =>
    (machine Nat).Run (fun state event => state.permits [7] event = true) (initial Nat) timelyFailure state ∧
      state.begins.length = 7 ∧ state.successes.length = 1 ∧ PasswordsLimited timelyFailure state := by
  have replayed : (((machine Nat).guarded (State.permits [7])).replay (initial Nat) timelyFailure).any
      (fun state => decide (state.begins.length = 7 ∧ state.successes.length = 1)) = true := by decide +kernel
  exact (Machine.exists_guarded_run replayed).imp fun state ⟨run, begins, successes⟩ =>
    ⟨run, begins, successes, share_passwords_are_limited (by decide) run⟩

/-- A late failure lets six attempts into a cooldown. -/
theorem late_failure_opens_the_limit : Exists fun state : State Nat =>
    (machine Nat).Reachable (initial Nat) state ∧ ¬ (state.history 7).Limited := by
  have replayed : ((machine Nat).replay (initial Nat) lateFailure).any (fun state =>
      decide ((state.history 7).successes = [] ∧ (state.history 7).within 29 = 6)) = true := by decide +kernel
  refine (Machine.exists_run replayed).imp fun state ⟨run, nothing, six⟩ => ⟨⟨_, run⟩, fun limited => ?_⟩
  have unsuccessful : (state.history 7).Unsuccessful 29 := by
    intro time member
    rw [nothing] at member
    cases member
  have bound := limited 29 unsuccessful
  rw [six] at bound
  exact absurd bound (by decide)

end Sharing
end TelegramDrive
