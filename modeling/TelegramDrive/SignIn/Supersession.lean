import TelegramDrive.SignIn.Attempts

namespace TelegramDrive
namespace SignIn

/-!
# What a superseded attempt leaves behind

The number of the attempt is compared once, before the slot of the phone login is
locked.  The other replies are written without a comparison: a code that was accepted, a
password that was accepted, and the challenges that were asked for.  And a resend that
Telegram answers with a request to register ends without clearing its mark.

In the runs in which these steps come in time the slots belong to the current attempt;
and each such step that comes late breaks one of the properties at once.
-/

variable {mapError : String -> String} {state next : State}

/-! ## The properties -/

/-- The attempt to which the reply at a point belongs. -/
def Point.replyTo : Point -> Option Nat
  | .requesting attemptId _ _ _ | .storing attemptId _ _ | .storingLogin attemptId _ _ |
      .storingNone attemptId _ | .signInClear attemptId | .challenging attemptId _ |
      .signInToken attemptId _ | .checkClear attemptId | .renewing attemptId _ _ |
      .renewToken attemptId _ _ => some attemptId
  | .resending login | .resendFailing login _ | .signingIn login => some login.attemptId
  | .checking token => some token.requestedDuring
  | _ => none

/-- A reply to a superseded attempt changes neither slot. -/
def Untouched (state : State) (event : Event) (next : State) : Prop :=
  forall index reply call attemptId, event = .advance index reply -> state.calls[index]? = some call ->
    call.point.replyTo = some attemptId -> attemptId ≠ state.slots.counter ->
    next.slots.phoneLogin = state.slots.phoneLogin ∧ next.slots.passwordToken = state.slots.passwordToken

/-- Between the increment of the counter and the clearing of the phone login. -/
def Point.clearsLogin : Point -> Bool
  | .clearLogin _ _ | .cancelClearToken | .cancelTaking | .qrTaking | .logoutClearLogin => true
  | _ => false

/-- Between the increment of the counter and the clearing of the challenge. -/
def Point.clearsToken : Point -> Bool
  | .clearLogin _ _ | .clearToken _ _ | .cancelClearToken | .qrTaking | .qrClearToken _ |
      .logoutClearLogin | .logoutClearToken => true
  | _ => false

/-- No call is between its increment and its clearing steps. -/
def Quiet (state : State) : Prop :=
  forall call, call ∈ state.calls -> call.point.clearsLogin = false ∧ call.point.clearsToken = false

/-- What is stored in a quiet state belongs to the current attempt. -/
def Current (state : State) : Prop :=
  Quiet state ->
    (forall login, state.slots.phoneLogin = some login -> login.attemptId = state.slots.counter) ∧
    forall token, state.slots.passwordToken = some token -> token.requestedDuring = state.slots.counter

/-- A login is no longer stored, or may ask for its code again. -/
def released (login : PhoneLogin) (slot : Option PhoneLogin) : Bool :=
  slot.all fun active => decide (active.storedAt ≠ login.storedAt) || !active.requestInFlight

/-- Every resend that has ended had released its login by then. -/
def Freed (state : State) : Prop :=
  forall call result login, call ∈ state.calls -> call.point = .ended result -> call.issued = some login ->
    released login call.left = true

/-! ## The steps that must come in time -/

/-- The operation at a point comes in time: it changes a slot for the current attempt only,
and ends no resend whose login is still marked. -/
def inTime (slots : Slots) (issued : Option PhoneLogin) : Point -> Bool
  | .storingLogin attemptId _ _ => decide (attemptId = slots.counter)
  | .storingNone attemptId _ | .signInClear attemptId | .checkClear attemptId =>
    decide (attemptId = slots.counter) || slots.phoneLogin.isNone
  | .signInToken attemptId token | .renewToken attemptId token _ =>
    decide (attemptId = slots.counter) || decide (slots.passwordToken = some token)
  | .resendFailing login _ =>
    decide (login.attemptId = slots.counter) || slots.phoneLogin.all fun active =>
      decide (active.attemptId ≠ login.attemptId) || !active.requestInFlight
  | .storing attemptId _ sent =>
    (decide (attemptId = slots.counter) && decide (sent ≠ .signUpRequired)) ||
      issued.all fun login => released login slots.phoneLogin
  | _ => true

def prompt (state : State) : Event -> Bool
  | .advance index _ =>
    state.calls[index]?.all fun call => inTime state.slots call.issued call.point
  | _ => true

/-! ## What one step of a call does -/

/-- The stored values are no newer than the state. -/
structure Slots.Numbered (slots : Slots) (clock : Nat) : Prop where
  login : forall login, slots.phoneLogin = some login ->
    login.attemptId ≤ slots.counter ∧ login.storedAt < clock
  token : forall token, slots.passwordToken = some token -> token.requestedDuring ≤ slots.counter

/-- The attempts a point remembers are no newer than the counter, and a challenge was asked
for after the attempt it belongs to. -/
def Point.Known (counter : Nat) : Point -> Prop
  | .challenging attemptId requestedDuring | .renewing attemptId requestedDuring _ =>
    attemptId ≤ requestedDuring ∧ requestedDuring ≤ counter
  | .signInToken attemptId token | .renewToken attemptId token _ =>
    attemptId ≤ token.requestedDuring ∧ token.requestedDuring ≤ counter
  | .storingLogin attemptId _ _ => attemptId ≤ counter
  | .signingIn login => login.attemptId ≤ counter
  | .checking token => token.requestedDuring ≤ counter
  | _ => True

variable {point after before : Point}

theorem Point.Known.mono {counter later : Nat} (known : point.Known counter)
    (passes : counter ≤ later) : point.Known later := by
  cases point with
  | challenging attemptId requestedDuring | renewing attemptId requestedDuring error
  | signInToken attemptId token | renewToken attemptId token error =>
    exact ⟨known.1, Nat.le_trans known.2 passes⟩
  | storingLogin attemptId phone code | signingIn login | checking token => exact Nat.le_trans known passes
  | _ => trivial

/-- A resend waits for its reply, or for the slot after an error. -/
def Point.resends : Point -> Bool
  | .resending _ | .resendFailing _ _ => true
  | _ => false

/-- The steps of a call by what they do to the slots. -/
inductive Effect (state : State) : Point -> Slots -> Point -> Prop
  | passes {before after : Point}
      (known : state.slots.Numbered state.clock -> before.Known state.slots.counter ->
        after.Known state.slots.counter)
      (login : before.clearsLogin = false) (token : before.clearsToken = false)
      (resends : after.resends = false) : Effect state before state.slots after
  | fails (login : PhoneLogin) (error : String) :
      Effect state (.resending login) state.slots (.resendFailing login error)
  | numbers {before after : Point} (known : after.Known (state.slots.counter + 1))
      (replies : before.replyTo = none) (login : after.clearsLogin = true) (token : after.clearsToken = true)
      (resends : after.resends = false) : Effect state before state.slots.increment after
  | forgetsLogin {before after : Point} (known : after.Known state.slots.counter)
      (replies : before.replyTo = none) (token : before.clearsToken = true -> after.clearsToken = true)
      (resends : after.resends = false) : Effect state before state.slots.forgetLogin after
  | forgetsToken {before after : Point}
      (known : state.slots.Numbered state.clock -> after.Known state.slots.counter)
      (replies : before.replyTo = none) (login : before.clearsLogin = true -> after.clearsLogin = true)
      (resends : after.resends = false) : Effect state before state.slots.forgetToken after
  | drops {before after : Point} {attemptId : Nat} (known : after.Known state.slots.counter)
      (replies : before.replyTo = some attemptId)
      (inTime : forall issued, inTime state.slots issued before =
        (decide (attemptId = state.slots.counter) || state.slots.phoneLogin.isNone))
      (token : before.clearsToken = false) (resends : after.resends = false) :
      Effect state before state.slots.forgetLogin after
  | stores (attemptId : Nat) (phone : String) (code : SentCodeData) (result : Result) :
      Effect state (.storingLogin attemptId phone code)
        { state.slots with phoneLogin := some (state.newLogin attemptId phone code) } (.ended result)
  | grants {before : Point} {attemptId : Nat} {token : PasswordToken} (result : Result)
      (known : before.Known state.slots.counter ->
        attemptId ≤ token.requestedDuring ∧ token.requestedDuring ≤ state.slots.counter)
      (replies : before.replyTo = some attemptId)
      (inTime : forall issued, inTime state.slots issued before =
        (decide (attemptId = state.slots.counter) || decide (state.slots.passwordToken = some token)))
      (login : before.clearsLogin = false) (clears : before.clearsToken = false) :
      Effect state before { state.slots with passwordToken := some token } (.ended result)
  | marks {login : PhoneLogin} (there : state.slots.phoneLogin = some login) :
      Effect state .resendTaking state.slots.beginRequest (.resending { login with requestInFlight := true })
  | unmarks (login : PhoneLogin) (error : String) :
      Effect state (.resendFailing login error) (state.slots.endRequest login.attemptId)
        (.ended (.error error))

theorem Effect.rests (plain : (forall counter, after.Known counter) ∧ after.resends = false)
    (login : before.clearsLogin = false) (token : before.clearsToken = false) :
    Effect state before state.slots after := .passes (fun _ _ => plain.1 _) login token plain.2

theorem sendCodeFailed_plain (attemptId : Nat) (phone : String) (migrated restarted : Bool)
    (error : InvocationError) :
    (forall counter, (State.sendCodeFailed mapError attemptId phone migrated restarted error).Known counter) ∧
      (State.sendCodeFailed mapError attemptId phone migrated restarted error).resends = false := by
  unfold State.sendCodeFailed
  split
  · split
    · exact ⟨fun _ => trivial, rfl⟩
    · exact ⟨fun _ => trivial, rfl⟩
  · split
    · exact ⟨fun _ => trivial, rfl⟩
    · exact ⟨fun _ => trivial, rfl⟩

theorem checkAttempt_known (state : State) (attemptId : Nat) (phone : String) (sent : SentCode) :
    (state.checkAttempt attemptId phone sent).Known state.slots.counter := by
  unfold State.checkAttempt
  split
  · trivial
  next same =>
    cases sent with
    | code code => exact Nat.le_of_eq (not_not.mp same).symm
    | _ => trivial

theorem checkAttempt_resends (state : State) (attemptId : Nat) (phone : String) (sent : SentCode) :
    (state.checkAttempt attemptId phone sent).resends = false := by
  unfold State.checkAttempt
  split
  · rfl
  · cases sent <;> rfl

theorem signInFailed_known (state : State) (login : PhoneLogin) (error : InvocationError)
    (known : login.attemptId ≤ state.slots.counter) :
    (state.signInFailed mapError login error).Known state.slots.counter := by
  unfold State.signInFailed
  split
  · exact ⟨known, Nat.le_refl _⟩
  split
  · trivial
  split
  · trivial
  split
  · trivial
  · trivial

theorem signInFailed_resends (state : State) (login : PhoneLogin) (error : InvocationError) :
    (state.signInFailed mapError login error).resends = false := by
  unfold State.signInFailed
  split
  · rfl
  split
  · rfl
  split
  · rfl
  split
  · rfl
  · rfl

variable {slots : Slots} {reply : Reply}

theorem effect
    (stepped : state.step mapError point reply = some (slots, after)) : Effect state point slots after := by
  cases point with
  | clearLogin attemptId phone | qrTaking | logoutClearLogin =>
    cases reply <;> cases stepped
    exact .forgetsLogin trivial rfl (fun _ => rfl) rfl
  | clearToken attemptId phone | logoutClearToken =>
    cases reply <;> cases stepped
    exact .forgetsToken (fun _ => trivial) rfl (by simp [Point.clearsLogin]) rfl
  | connecting attemptId phone | resendConnecting | completing output | cancelConnecting login
  | cancelling | signInConnecting | checkConnecting | qrConnecting | qrCancelling | exporting
  | pollConnecting | polling | removing =>
    cases reply <;> cases stepped <;> exact .rests ⟨fun _ => trivial, rfl⟩ rfl rfl
  | requesting attemptId phone migrated restarted =>
    cases reply <;> cases stepped
    · exact .rests ⟨fun _ => trivial, rfl⟩ rfl rfl
    · exact .rests ⟨fun _ => trivial, rfl⟩ rfl rfl
    · exact .rests (sendCodeFailed_plain _ _ _ _ _) rfl rfl
    · exact .rests ⟨fun _ => trivial, rfl⟩ rfl rfl
  | resendTaking =>
    cases reply with
    | go =>
      replace stepped : state.takeForResend = (slots, after) := Option.some.inj stepped
      unfold State.takeForResend at stepped
      split at stepped
      · cases stepped
        exact .rests ⟨fun _ => trivial, rfl⟩ rfl rfl
      next login there =>
        split at stepped
        · cases stepped
          exact .rests ⟨fun _ => trivial, rfl⟩ rfl rfl
        split at stepped
        · cases stepped
          exact .rests ⟨fun _ => trivial, rfl⟩ rfl rfl
        · cases stepped
          exact .marks there
    | _ => cases stepped
  | resending login =>
    cases reply <;> cases stepped
    · exact .fails login _
    · exact .fails login _
    · exact .rests ⟨fun _ => trivial, rfl⟩ rfl rfl
  | resendFailing login error =>
    cases reply <;> cases stepped
    exact .unmarks login error
  | storing attemptId phone sent =>
    cases reply <;> cases stepped
    exact .passes (fun _ _ => checkAttempt_known state attemptId phone sent) rfl rfl
      (checkAttempt_resends state attemptId phone sent)
  | storingLogin attemptId phone code =>
    cases reply <;> cases stepped
    exact .stores attemptId phone code _
  | storingNone attemptId authorized =>
    cases authorized <;> cases reply <;> cases stepped
    · exact .drops trivial rfl (fun _ => rfl) rfl rfl
    · exact .drops trivial rfl (fun _ => rfl) rfl rfl
  | cancelClearToken =>
    cases reply <;> cases stepped
    exact .forgetsToken (fun _ => trivial) rfl (fun _ => rfl) rfl
  | cancelTaking =>
    cases reply with
    | go =>
      unfold State.step at stepped
      dsimp only at stepped
      split at stepped
      · cases stepped
        exact .forgetsLogin trivial rfl (by simp [Point.clearsToken]) rfl
      · cases stepped
        exact .forgetsLogin trivial rfl (by simp [Point.clearsToken]) rfl
    | _ => cases stepped
  | signInTaking =>
    cases reply with
    | go =>
      unfold State.step at stepped
      dsimp only at stepped
      split at stepped
      · cases stepped
        exact .rests ⟨fun _ => trivial, rfl⟩ rfl rfl
      next login there =>
        cases stepped
        exact .passes (fun numbered _ => (numbered.login login there).1) rfl rfl rfl
    | _ => cases stepped
  | signingIn login =>
    cases reply <;> cases stepped
    · exact .rests ⟨fun _ => trivial, rfl⟩ rfl rfl
    · exact .passes (fun _ known => signInFailed_known state login _ known) rfl rfl
        (signInFailed_resends state login _)
    · exact .rests ⟨fun _ => trivial, rfl⟩ rfl rfl
    · exact .rests ⟨fun _ => trivial, rfl⟩ rfl rfl
  | signInClear attemptId | checkClear attemptId =>
    cases reply <;> cases stepped
    exact .drops trivial rfl (fun _ => rfl) rfl rfl
  | challenging attemptId requestedDuring | renewing attemptId requestedDuring error =>
    cases reply <;> cases stepped
    · exact .rests ⟨fun _ => trivial, rfl⟩ rfl rfl
    · exact .rests ⟨fun _ => trivial, rfl⟩ rfl rfl
    · exact .passes (fun _ known => known) rfl rfl rfl
  | signInToken attemptId token | renewToken attemptId token error =>
    cases reply <;> cases stepped
    exact .grants _ (fun known => known) rfl (fun _ => rfl) rfl rfl
  | checkTaking =>
    cases reply with
    | go =>
      unfold State.step at stepped
      dsimp only at stepped
      split at stepped
      · cases stepped
        exact .rests ⟨fun _ => trivial, rfl⟩ rfl rfl
      next token there =>
        cases stepped
        exact .forgetsToken (fun numbered => numbered.token token there) rfl (by simp [Point.clearsLogin]) rfl
    | _ => cases stepped
  | checking token =>
    cases reply <;> cases stepped
    · exact .passes (fun _ known => ⟨known, Nat.le_refl _⟩) rfl rfl rfl
    · exact .rests ⟨fun _ => trivial, rfl⟩ rfl rfl
    · exact .passes (fun _ known => ⟨known, Nat.le_refl _⟩) rfl rfl rfl
  | qrNumbering | logoutNumbering =>
    cases reply <;> cases stepped
    exact .numbers trivial rfl rfl rfl rfl
  | qrClearToken previous =>
    cases previous <;> cases reply <;> cases stepped
    · exact .forgetsToken (fun _ => trivial) rfl (by simp [Point.clearsLogin]) rfl
    · exact .forgetsToken (fun _ => trivial) rfl (by simp [Point.clearsLogin]) rfl
  | pollClear =>
    cases reply <;> cases stepped
    exact .forgetsLogin trivial rfl (by simp [Point.clearsToken]) rfl
  | revoking =>
    cases reply <;> cases stepped
    exact .rests ⟨fun _ => trivial, rfl⟩ rfl rfl
  | ended result => cases reply <;> cases stepped

/-! ## What holds in every run -/

theorem endRequest_login {attemptId : Nat} {active : PhoneLogin}
    (there : (slots.endRequest attemptId).phoneLogin = some active) :
    Exists fun old => slots.phoneLogin = some old ∧ old.storedAt = active.storedAt ∧
      old.attemptId = active.attemptId ∧
      (active.requestInFlight = true -> old.attemptId ≠ attemptId ∧ old.requestInFlight = true) := by
  simp only [Slots.endRequest, Option.map_eq_some_iff] at there
  rcases there with ⟨old, stored, same⟩
  refine ⟨old, stored, ?_⟩
  split at same
  · cases same
    exact ⟨rfl, rfl, by simp⟩
  next other =>
    cases same
    exact ⟨rfl, rfl, fun marked => ⟨other, marked⟩⟩

theorem beginRequest_login {active : PhoneLogin} (there : slots.beginRequest.phoneLogin = some active) :
    Exists fun old => slots.phoneLogin = some old ∧ old.storedAt = active.storedAt ∧
      old.attemptId = active.attemptId := by
  simp only [Slots.beginRequest, Option.map_eq_some_iff] at there
  rcases there with ⟨old, stored, same⟩
  cases same
  exact ⟨old, stored, rfl, rfl⟩

/-- What the slot holds after a step was stored by it, or was there under the same numbers. -/
theorem Effect.descends {active : PhoneLogin}
    (effect : Effect state before slots after) (there : slots.phoneLogin = some active) :
    active.storedAt = state.clock ∨ Exists fun old => state.slots.phoneLogin = some old ∧
      old.storedAt = active.storedAt ∧ old.attemptId = active.attemptId := by
  cases effect with
  | passes known login token resends | fails login error | numbers known replies login token resends
  | forgetsToken known replies login resends | grants result known replies inTime login clears =>
    exact Or.inr ⟨active, there, rfl, rfl⟩
  | forgetsLogin known replies token resends | drops known replies inTime token resends => cases there
  | stores attemptId phone code result =>
    cases there
    exact Or.inl rfl
  | marks stored => exact Or.inr (beginRequest_login there)
  | unmarks login error =>
    rcases endRequest_login there with ⟨old, stored, same, attempt, -⟩
    exact Or.inr ⟨old, stored, same, attempt⟩

theorem Effect.counter (effect : Effect state before slots after) :
    state.slots.counter ≤ slots.counter := by
  cases effect with
  | numbers known replies login token resends => exact Nat.le_succ _
  | _ => exact Nat.le_refl _

theorem Effect.numbered (effect : Effect state before slots after)
    (numbered : state.slots.Numbered state.clock) (known : before.Known state.slots.counter) :
    slots.Numbered (state.clock + 1) ∧ after.Known slots.counter := by
  have keeps : forall active, state.slots.phoneLogin = some active ->
      active.attemptId ≤ state.slots.counter ∧ active.storedAt < state.clock + 1 :=
    fun active there => ⟨(numbered.login active there).1, Nat.lt_succ_of_lt (numbered.login active there).2⟩
  cases effect with
  | passes goes login token resends => exact ⟨⟨keeps, numbered.token⟩, goes numbered known⟩
  | fails login error => exact ⟨⟨keeps, numbered.token⟩, trivial⟩
  | numbers goes replies login token resends =>
    refine ⟨⟨?_, ?_⟩, goes⟩
    · intro active there
      exact ⟨Nat.le_succ_of_le (keeps active there).1, (keeps active there).2⟩
    · intro token there
      exact Nat.le_succ_of_le (numbered.token token there)
  | forgetsLogin goes replies token resends | drops goes replies inTime token resends =>
    refine ⟨⟨?_, numbered.token⟩, goes⟩
    intro active there
    cases there
  | forgetsToken goes replies login resends =>
    refine ⟨⟨keeps, ?_⟩, goes numbered⟩
    intro token there
    cases there
  | stores attemptId phone code result =>
    refine ⟨⟨?_, numbered.token⟩, trivial⟩
    intro active there
    cases there
    exact ⟨known, Nat.lt_succ_self _⟩
  | @grants before attemptId token result goes replies inTime login clears =>
    refine ⟨⟨keeps, ?_⟩, trivial⟩
    intro other there
    cases there
    exact (goes known).2
  | marks stored =>
    refine ⟨⟨?_, numbered.token⟩, trivial⟩
    intro active there
    rcases beginRequest_login there with ⟨old, stored, same, attempt⟩
    have kept := keeps old stored
    exact ⟨attempt ▸ kept.1, same ▸ kept.2⟩
  | unmarks login error =>
    refine ⟨⟨?_, numbered.token⟩, trivial⟩
    intro active there
    rcases endRequest_login there with ⟨old, stored, same, attempt, -⟩
    have kept := keeps old stored
    exact ⟨attempt ▸ kept.1, same ▸ kept.2⟩

/-- A login that was taken, against the slot: it was stored earlier, and what is stored
under its moment is of its attempt. -/
def Taken (login : PhoneLogin) (slots : Slots) (clock : Nat) : Prop :=
  login.storedAt < clock ∧ forall active, slots.phoneLogin = some active ->
    active.storedAt = login.storedAt -> active.attemptId = login.attemptId

/-- A login that was taken is no longer stored. -/
def Gone (login : PhoneLogin) (slots : Slots) : Prop :=
  forall active, slots.phoneLogin = some active -> active.storedAt ≠ login.storedAt

theorem Taken.effect {login : PhoneLogin}
    (taken : Taken login state.slots state.clock) (effect : Effect state before slots after) :
    Taken login slots (state.clock + 1) := by
  refine ⟨Nat.lt_succ_of_lt taken.1, ?_⟩
  intro active there same
  rcases effect.descends there with now | ⟨old, stored, moment, attempt⟩
  · exact absurd (now.symm.trans same) (Nat.ne_of_gt taken.1)
  · exact attempt.symm.trans (taken.2 old stored (moment.trans same))

theorem Gone.effect {login : PhoneLogin}
    (gone : Gone login state.slots) (earlier : login.storedAt < state.clock)
    (effect : Effect state before slots after) : Gone login slots := by
  intro active there
  rcases effect.descends there with now | ⟨old, stored, moment, attempt⟩
  · rw [now]
    exact Nat.ne_of_gt earlier
  · rw [← moment]
    exact gone old stored

/-- Where a call stands, by the login it asked a code for. -/
def Call.Standing (call : Call) (slots : Slots) : Prop :=
  match call.point with
  | .resending login | .resendFailing login _ => call.issued = some login
  | .storing _ _ _ | .storingLogin _ _ _ | .storingNone _ _ | .ended _ => True
  | .completing _ => forall login, call.issued = some login -> Gone login slots
  | _ => call.issued = none

variable {call : Call}

theorem standing_of_unissued (unissued : call.issued = none)
    (idle : call.point.resends = false) : call.Standing slots := by
  rcases call with ⟨point, issued, left⟩
  cases unissued
  cases point with
  | resending login | resendFailing login error => cases idle
  | completing output =>
    intro login there
    cases there
  | _ => first | rfl | trivial

theorem Effect.resends (effect : Effect state before slots after)
    (idle : before.resends = false) (taking : before ≠ .resendTaking) : after.resends = false := by
  cases effect with
  | passes known login token resends | numbers known replies login token resends
  | forgetsLogin known replies token resends | forgetsToken known replies login resends
  | drops known replies inTime token resends => exact resends
  | fails login error => cases idle
  | stores attemptId phone code result | grants result known replies inTime login clears
  | unmarks login error => rfl
  | marks stored => exact absurd rfl taking

/-- The login a call has asked a code for, once it is at a point. -/
def issuedAt (point : Point) (before : Option PhoneLogin) : Option PhoneLogin :=
  match point with
  | .resending login => some login
  | _ => before

theorem issuedAt_of_idle {before : Option PhoneLogin} (idle : point.resends = false) :
    issuedAt point before = before := by
  cases point with
  | resending login => cases idle
  | _ => rfl

/-- Where a step leaves the call that takes it. -/
theorem standing_step (stepped : state.step mapError call.point reply = some (slots, after))
    (standing : call.Standing state.slots) (left : Option PhoneLogin) :
    Call.Standing ⟨after, issuedAt after call.issued, left⟩ slots := by
  rcases call with ⟨point, issued, before⟩
  have moves := effect stepped
  cases point with
  | resendTaking =>
    have unissued : issued = none := standing
    cases reply with
    | go =>
      replace stepped : state.takeForResend = (slots, after) := Option.some.inj stepped
      unfold State.takeForResend at stepped
      split at stepped
      · cases stepped
        trivial
      · split at stepped
        · cases stepped
          trivial
        split at stepped
        · cases stepped
          trivial
        · cases stepped
          rfl
    | _ => cases stepped
  | resending login =>
    have asked : issued = some login := standing
    cases reply <;> cases stepped
    · exact asked
    · exact asked
    · trivial
  | resendFailing login error | storingLogin attemptId phone code =>
    cases reply <;> cases stepped
    trivial
  | storing attemptId phone sent =>
    cases reply <;> cases stepped
    unfold State.checkAttempt
    split
    · trivial
    · cases sent <;> trivial
  | storingNone attemptId authorized =>
    cases authorized <;> cases reply <;> cases stepped
    · trivial
    · intro login asked active there
      cases there
  | completing output => cases reply <;> cases stepped <;> trivial
  | ended result => cases reply <;> cases stepped
  | _ =>
    have unissued : issued = none := standing
    have idle := moves.resends rfl (fun same => by cases same)
    refine standing_of_unissued ?_ idle
    rw [issuedAt_of_idle idle]
    exact unissued

theorem taken_step (stepped : state.step mapError call.point reply = some (slots, after))
    (numbered : state.slots.Numbered state.clock)
    (taken : forall login, call.issued = some login -> Taken login state.slots state.clock)
    {login : PhoneLogin} (asked : issuedAt after call.issued = some login) :
    Taken login slots (state.clock + 1) := by
  have moves := effect stepped
  generalize call.point = before at moves
  have kept : after.resends = false -> Taken login slots (state.clock + 1) := by
    intro idle
    rw [issuedAt_of_idle idle] at asked
    exact (taken login asked).effect moves
  cases moves with
  | passes known login token resends | numbers known replies login token resends
  | forgetsLogin known replies token resends | forgetsToken known replies login resends
  | drops known replies inTime token resends => exact kept resends
  | fails active error => exact (taken login asked).effect (.fails active error)
  | stores attemptId phone code result | grants result known replies inTime login clears
  | unmarks active error => exact kept rfl
  | @marks active stored =>
    cases asked
    refine ⟨Nat.lt_succ_of_lt (numbered.login active stored).2, ?_⟩
    intro other there same
    rcases beginRequest_login there with ⟨old, found, -, attempt⟩
    cases stored.symm.trans found
    exact attempt.symm

/-! ## The steps of the system -/

/-- The steps of the system: time passes, a call joins, or a call takes a step. -/
inductive Moves (mapError : String -> String) (state : State) : Event -> State -> Prop
  | ticks (seconds : Nat) :
      Moves mapError state (.tick seconds)
        { state with now := state.now + seconds, clock := state.clock + 1 }
  | joins {event : Event} (slots : Slots) (point : Point)
      (plain : (forall counter, point.Known counter) ∧ point.resends = false)
      (numbers : slots = state.slots ∨
        slots = state.slots.increment ∧ point.clearsLogin = true ∧ point.clearsToken = true)
      (starts : forall index reply, event ≠ .advance index reply) :
      Moves mapError state event { state.join slots point with clock := state.clock + 1 }
  | steps {index : Nat} {reply : Reply} {call : Call} {slots : Slots} {after : Point}
      (there : state.calls[index]? = some call)
      (stepped : state.step mapError call.point reply = some (slots, after)) :
      Moves mapError state (.advance index reply)
        { state with
          slots := slots
          clock := state.clock + 1
          calls := state.calls.set index ⟨after, issuedAt after call.issued, slots.phoneLogin⟩ }

variable {event : Event}

theorem moves (moved : (attemptMachine mapError).step state event = some next) :
    Moves mapError state event next := by
  simp only [attemptMachine, Option.map_eq_some_iff] at moved
  rcases moved with ⟨middle, acted, same⟩
  cases same
  cases event with
  | tick seconds =>
    cases acted
    exact .ticks seconds
  | requestCode phone apiHash =>
    simp only [State.act] at acted
    split at acted
    · cases acted
      exact .joins state.slots _ ⟨fun _ => trivial, rfl⟩ (Or.inl rfl) (by simp)
    split at acted
    · cases acted
      exact .joins state.slots _ ⟨fun _ => trivial, rfl⟩ (Or.inl rfl) (by simp)
    · cases acted
      exact .joins state.slots.increment _ ⟨fun _ => trivial, rfl⟩ (Or.inr ⟨rfl, rfl, rfl⟩) (by simp)
  | resendCode | checkPassword | qrPoll | logout =>
    cases acted
    exact .joins state.slots _ ⟨fun _ => trivial, rfl⟩ (Or.inl rfl) (by simp)
  | cancelCode =>
    cases acted
    exact .joins state.slots.increment _ ⟨fun _ => trivial, rfl⟩ (Or.inr ⟨rfl, rfl, rfl⟩) (by simp)
  | signIn code | qrLogin apiHash =>
    simp only [State.act] at acted
    split at acted
    · cases acted
      exact .joins state.slots _ ⟨fun _ => trivial, rfl⟩ (Or.inl rfl) (by simp)
    · cases acted
      exact .joins state.slots _ ⟨fun _ => trivial, rfl⟩ (Or.inl rfl) (by simp)
  | advance index reply =>
    simp only [State.act, Option.bind_eq_some_iff, Option.map_eq_some_iff] at acted
    rcases acted with ⟨call, there, ⟨slots, after⟩, stepped, same⟩
    cases same
    exact .steps there stepped

/-! ## The order of the numbers -/

/-- The numbers are in order, and every call stands where its login says. -/
structure Ordered (state : State) : Prop where
  slots : state.slots.Numbered state.clock
  calls : forall call, call ∈ state.calls -> call.point.Known state.slots.counter ∧
    (forall login, call.issued = some login -> Taken login state.slots state.clock) ∧
    call.Standing state.slots

theorem Call.Standing.effect (standing : call.Standing state.slots)
    (taken : forall login, call.issued = some login -> Taken login state.slots state.clock)
    (effect : Effect state before slots after) : call.Standing slots := by
  rcases call with ⟨point, issued, left⟩
  cases point with
  | completing output =>
    intro login asked
    exact (standing login asked).effect (taken login asked).1 effect
  | _ => exact standing

theorem Taken.joined {login : PhoneLogin} (taken : Taken login state.slots state.clock)
    (same : slots.phoneLogin = state.slots.phoneLogin) : Taken login slots (state.clock + 1) := by
  refine ⟨Nat.lt_succ_of_lt taken.1, ?_⟩
  rw [same]
  exact taken.2

theorem Call.Standing.joined (standing : call.Standing state.slots)
    (same : slots.phoneLogin = state.slots.phoneLogin) : call.Standing slots := by
  rcases call with ⟨point, issued, left⟩
  cases point with
  | completing output =>
    intro login asked active there
    exact standing login asked active (same ▸ there)
  | _ => exact standing

theorem Ordered.step (ordered : Ordered state) (moved : Moves mapError state event next) :
    Ordered next := by
  cases moved with
  | ticks seconds =>
    constructor
    · exact ⟨fun login there => ⟨(ordered.slots.login login there).1,
        Nat.lt_succ_of_lt (ordered.slots.login login there).2⟩, ordered.slots.token⟩
    · intro call member
      rcases ordered.calls call member with ⟨known, taken, standing⟩
      exact ⟨known, fun login asked => (taken login asked).joined rfl, standing⟩
  | joins slots point plain numbers starts =>
    have login : slots.phoneLogin = state.slots.phoneLogin := by
      rcases numbers with same | ⟨same, -⟩ <;> rw [same]
      rfl
    have token : slots.passwordToken = state.slots.passwordToken := by
      rcases numbers with same | ⟨same, -⟩ <;> rw [same]
      rfl
    have counter : state.slots.counter ≤ slots.counter := by
      rcases numbers with same | ⟨same, -⟩ <;> rw [same]
      exact Nat.le_succ _
    constructor
    · constructor
      · intro active there
        have kept := ordered.slots.login active (login.symm.trans there)
        exact ⟨Nat.le_trans kept.1 counter, Nat.lt_succ_of_lt kept.2⟩
      · intro active there
        exact Nat.le_trans (ordered.slots.token active (token.symm.trans there)) counter
    · intro call member
      rcases List.mem_append.mp member with old | new
      · rcases ordered.calls call old with ⟨known, taken, standing⟩
        exact ⟨known.mono counter, fun active asked => (taken active asked).joined login,
          standing.joined login⟩
      · cases List.mem_singleton.mp new
        refine ⟨plain.1 _, ?_, standing_of_unissued rfl plain.2⟩
        intro active asked
        cases asked
  | @steps index reply call slots after there stepped =>
    have moves := effect stepped
    rcases ordered.calls call (List.mem_of_getElem? there) with ⟨known, taken, standing⟩
    rcases moves.numbered ordered.slots known with ⟨numbered, knows⟩
    refine ⟨numbered, ?_⟩
    intro other inside
    rcases List.mem_or_eq_of_mem_set inside with old | new
    · rcases ordered.calls other old with ⟨known, taken, standing⟩
      exact ⟨known.mono moves.counter, fun login asked => (taken login asked).effect moves,
        standing.effect taken moves⟩
    · cases new
      exact ⟨knows, fun login asked => taken_step stepped ordered.slots taken asked,
        standing_step stepped standing _⟩

/-! ## The slots belong to the current attempt -/

/-- What is stored is current, or a call is about to clear it. -/
structure Attributed (state : State) : Prop where
  login : forall login, state.slots.phoneLogin = some login -> login.attemptId = state.slots.counter ∨
    Exists fun call => call ∈ state.calls ∧ call.point.clearsLogin = true
  token : forall token, state.slots.passwordToken = some token ->
    token.requestedDuring = state.slots.counter ∨
      Exists fun call => call ∈ state.calls ∧ call.point.clearsToken = true

theorem Attributed.current (attributed : Attributed state) : Current state := by
  intro quiet
  constructor
  · intro login there
    rcases attributed.login login there with same | ⟨call, member, clears⟩
    · exact same
    · cases (quiet call member).1.symm.trans clears
  · intro token there
    rcases attributed.token token there with same | ⟨call, member, clears⟩
    · exact same
    · cases (quiet call member).2.symm.trans clears

/-- A call that is about to clear a slot goes on doing so while another call steps, and
while its own steps leave the slot. -/
theorem clears_set {clears : Point -> Bool} {calls : List Call} {index : Nat} {changed : Call}
    (there : calls[index]? = some call)
    (about : Exists fun other => other ∈ calls ∧ clears other.point = true)
    (stays : clears call.point = true -> clears changed.point = true) :
    Exists fun other => other ∈ calls.set index changed ∧ clears other.point = true := by
  rcases about with ⟨other, member, clearing⟩
  rcases List.mem_iff_getElem?.mp member with ⟨place, found⟩
  by_cases same : index = place
  · subst same
    cases there.symm.trans found
    exact ⟨changed, List.mem_set (List.getElem?_eq_some_iff.mp there).1 _, stays clearing⟩
  · refine ⟨other, List.mem_iff_getElem?.mpr ⟨place, ?_⟩, clearing⟩
    rw [List.getElem?_set_ne same]
    exact found

theorem Effect.login {issued : Option PhoneLogin} {active : PhoneLogin}
    (effect : Effect state before slots after) (prompt : inTime state.slots issued before = true)
    (there : slots.phoneLogin = some active) :
    active.attemptId = slots.counter ∨ after.clearsLogin = true ∨
      slots.counter = state.slots.counter ∧ (before.clearsLogin = true -> after.clearsLogin = true) ∧
      Exists fun old => state.slots.phoneLogin = some old ∧ old.attemptId = active.attemptId := by
  cases effect with
  | passes known login token resends =>
    exact Or.inr (Or.inr ⟨rfl, fun clears => Bool.noConfusion (login.symm.trans clears), active, there, rfl⟩)
  | fails login error => exact Or.inr (Or.inr ⟨rfl, by simp [Point.clearsLogin], active, there, rfl⟩)
  | numbers known replies login token resends => exact Or.inr (Or.inl login)
  | forgetsLogin known replies token resends | drops known replies inTime token resends => cases there
  | forgetsToken known replies login resends => exact Or.inr (Or.inr ⟨rfl, login, active, there, rfl⟩)
  | stores attemptId phone code result =>
    cases there
    exact Or.inl (of_decide_eq_true prompt)
  | grants result known replies inTime login clears =>
    exact Or.inr (Or.inr ⟨rfl, fun clears => Bool.noConfusion (login.symm.trans clears), active, there, rfl⟩)
  | marks stored =>
    rcases beginRequest_login there with ⟨old, found, -, attempt⟩
    exact Or.inr (Or.inr ⟨rfl, by simp [Point.clearsLogin], old, found, attempt⟩)
  | unmarks login error =>
    rcases endRequest_login there with ⟨old, found, -, attempt, -⟩
    exact Or.inr (Or.inr ⟨rfl, by simp [Point.clearsLogin], old, found, attempt⟩)

theorem Effect.token {issued : Option PhoneLogin} {token : PasswordToken}
    (effect : Effect state before slots after) (prompt : inTime state.slots issued before = true)
    (known : before.Known state.slots.counter) (there : slots.passwordToken = some token) :
    token.requestedDuring = slots.counter ∨ after.clearsToken = true ∨
      slots.counter = state.slots.counter ∧ (before.clearsToken = true -> after.clearsToken = true) ∧
      state.slots.passwordToken = some token := by
  cases effect with
  | passes goes login clears resends | drops goes replies inTime clears resends =>
    exact Or.inr (Or.inr ⟨rfl, fun clearing => Bool.noConfusion (clears.symm.trans clearing), there⟩)
  | fails login error | stores attemptId phone code result | marks stored | unmarks login error =>
    exact Or.inr (Or.inr ⟨rfl, by simp [Point.clearsToken], there⟩)
  | numbers goes replies login clears resends => exact Or.inr (Or.inl clears)
  | forgetsLogin goes replies clears resends => exact Or.inr (Or.inr ⟨rfl, clears, there⟩)
  | forgetsToken goes replies login resends => cases there
  | @grants before attemptId granted result goes replies inTime login clears =>
    cases there
    rw [inTime, Bool.or_eq_true, decide_eq_true_eq, decide_eq_true_eq] at prompt
    rcases prompt with same | stored
    · exact Or.inl (Nat.le_antisymm (goes known).2 (same ▸ (goes known).1))
    · exact Or.inr (Or.inr ⟨rfl, fun clearing => Bool.noConfusion (clears.symm.trans clearing), stored⟩)

theorem inTime_of_prompt {index : Nat} (there : state.calls[index]? = some call)
    (prompted : prompt state (.advance index reply) = true) :
    inTime state.slots call.issued call.point = true := by
  simp only [prompt, there, Option.all_some] at prompted
  exact prompted

theorem Attributed.step (attributed : Attributed state) (ordered : Ordered state)
    (prompted : prompt state event = true) (moved : Moves mapError state event next) : Attributed next := by
  cases moved with
  | ticks seconds => exact ⟨attributed.login, attributed.token⟩
  | joins slots point plain numbers starts =>
    rcases numbers with same | ⟨same, login, token⟩
    · cases same
      constructor
      · intro active there
        exact (attributed.login active there).imp_right fun ⟨call, member, clears⟩ =>
          ⟨call, List.mem_append_left _ member, clears⟩
      · intro active there
        exact (attributed.token active there).imp_right fun ⟨call, member, clears⟩ =>
          ⟨call, List.mem_append_left _ member, clears⟩
    · have joined : (⟨point, none, slots.phoneLogin⟩ : Call) ∈ (state.join slots point).calls :=
        List.mem_append_right _ (List.mem_singleton_self _)
      exact ⟨fun _ _ => Or.inr ⟨_, joined, login⟩, fun _ _ => Or.inr ⟨_, joined, token⟩⟩
  | @steps index reply call slots after there stepped =>
    have moves := effect stepped
    have timely := inTime_of_prompt there prompted
    have known := (ordered.calls call (List.mem_of_getElem? there)).1
    have inside := List.mem_set (List.getElem?_eq_some_iff.mp there).1
      (⟨after, issuedAt after call.issued, slots.phoneLogin⟩ : Call)
    constructor
    · intro active found
      rcases moves.login timely found with same | clears | ⟨counter, stays, old, stored, attempt⟩
      · exact Or.inl same
      · exact Or.inr ⟨_, inside, clears⟩
      · rcases attributed.login old stored with same | about
        · exact Or.inl ((attempt.symm.trans same).trans counter.symm)
        · exact Or.inr (clears_set there about stays)
    · intro token found
      rcases moves.token timely known found with same | clears | ⟨counter, stays, stored⟩
      · exact Or.inl same
      · exact Or.inr ⟨_, inside, clears⟩
      · rcases attributed.token token stored with same | about
        · exact Or.inl (same.trans counter.symm)
        · exact Or.inr (clears_set there about stays)

/-! ## Replies to superseded attempts, and resends that end -/

/-- A reply to a superseded attempt that comes in time leaves the slots. -/
theorem untouched_step (prompted : prompt state event = true)
    (moved : Moves mapError state event next) : Untouched state event next := by
  intro index reply call attemptId same there replies superseded
  cases moved with
  | ticks seconds => cases same
  | joins slots point plain numbers starts => exact absurd same (starts index reply)
  | steps found stepped =>
    cases same
    cases there.symm.trans found
    have timely := inTime_of_prompt there prompted
    have moves := effect stepped
    generalize call.point = before at moves replies timely
    cases moves with
    | passes known login token resends | fails login error => exact ⟨rfl, rfl⟩
    | numbers known silent login token resends | forgetsLogin known silent token resends
    | forgetsToken known silent login resends => cases silent.symm.trans replies
    | @drops before after attempt known answers inTime token resends =>
      cases answers.symm.trans replies
      rw [inTime, Bool.or_eq_true, decide_eq_true_eq] at timely
      rcases timely with current | empty
      · exact absurd current superseded
      · exact ⟨(Option.isNone_iff_eq_none.mp empty).symm, rfl⟩
    | stores attempt phone code result =>
      cases replies
      exact absurd (of_decide_eq_true timely) superseded
    | @grants before attempt token result known answers inTime login clears =>
      cases answers.symm.trans replies
      rw [inTime, Bool.or_eq_true, decide_eq_true_eq, decide_eq_true_eq] at timely
      rcases timely with current | stored
      · exact absurd current superseded
      · exact ⟨rfl, stored.symm⟩
    | marks stored => cases replies
    | unmarks login error =>
      cases replies
      refine ⟨?_, rfl⟩
      rcases Bool.or_eq_true_iff.mp timely with current | idle
      · exact absurd (of_decide_eq_true current) superseded
      · simp only [Slots.endRequest]
        cases stored : state.slots.phoneLogin with
        | none => rfl
        | some active =>
          rw [stored, Option.all_some] at idle
          rw [Option.map_some]
          split
          next same =>
            rw [decide_eq_false (not_not.mpr same), Bool.false_or, Bool.not_eq_true'] at idle
            rw [← idle]
          · rfl

theorem released_at_end {result : Result} {login : PhoneLogin}
    (stepped : state.step mapError call.point reply = some (slots, .ended result))
    (timely : inTime state.slots call.issued call.point = true) (standing : call.Standing state.slots)
    (taken : forall login, call.issued = some login -> Taken login state.slots state.clock)
    (asked : call.issued = some login) : released login slots.phoneLogin = true := by
  rcases call with ⟨point, issued, left⟩
  cases asked
  unfold released
  rw [Option.all_eq_true]
  intro active there
  cases point with
  | resending login | ended result => cases reply <;> cases stepped
  | resendFailing issue error =>
    cases standing
    cases reply <;> cases stepped
    rcases endRequest_login there with ⟨old, stored, moment, attempt, marked⟩
    cases flag : active.requestInFlight with
    | false => exact Bool.or_true _
    | true =>
      have other := (marked flag).1
      rw [Bool.or_eq_true, decide_eq_true_eq]
      refine Or.inl ?_
      intro same
      exact other ((taken login rfl).2 old stored (moment.trans same))
  | storing attemptId phone sent =>
    cases reply with
    | go =>
      rcases Prod.mk.inj (Option.some.inj stepped) with ⟨same, finished⟩
      cases same
      simp only [inTime, Option.all_some, Bool.or_eq_true, Bool.and_eq_true, decide_eq_true_eq] at timely
      rcases timely with ⟨current, registered⟩ | free
      · unfold State.checkAttempt at finished
        rw [if_neg (not_not.mpr current.symm)] at finished
        cases sent with
        | signUpRequired => exact absurd rfl registered
        | _ => cases finished
      · unfold released at free
        rw [there, Option.all_some] at free
        exact free
    | _ => cases stepped
  | storingLogin attemptId phone code =>
    cases reply <;> cases stepped
    cases there
    rw [Bool.or_eq_true, decide_eq_true_eq]
    exact Or.inl (Nat.ne_of_gt (taken login rfl).1)
  | storingNone attemptId authorized =>
    cases authorized <;> cases reply <;> cases stepped
    cases there
  | completing output =>
    have gone := standing login rfl
    cases reply <;> cases stepped
    · rw [Bool.or_eq_true, decide_eq_true_eq]
      exact Or.inl (gone active there)
    · rw [Bool.or_eq_true, decide_eq_true_eq]
      exact Or.inl (gone active there)
  | _ => cases standing

theorem Freed.step (freed : Freed state) (ordered : Ordered state)
    (prompted : prompt state event = true) (moved : Moves mapError state event next) : Freed next := by
  cases moved with
  | ticks seconds => exact freed
  | joins slots point plain numbers starts =>
    intro call result login member finished asked
    rcases List.mem_append.mp member with old | new
    · exact freed call result login old finished asked
    · cases List.mem_singleton.mp new
      cases asked
  | @steps index reply call slots after there stepped =>
    intro other result login inside finished asked
    rcases List.mem_or_eq_of_mem_set inside with old | new
    · exact freed other result login old finished asked
    · cases new
      cases finished
      rcases ordered.calls call (List.mem_of_getElem? there) with ⟨-, taken, standing⟩
      exact released_at_end stepped (inTime_of_prompt there prompted) standing taken asked

/-! ## A step that comes late -/

/-- What `inTime` refuses, by the property it breaks: a change of a slot for a superseded
attempt, or the end of a resend whose login is still marked. -/
theorem late_changes {issued : Option PhoneLogin}
    (stepped : state.step mapError point reply = some (slots, after))
    (numbered : state.slots.Numbered state.clock) (late : inTime state.slots issued point = false) :
    (Exists fun attemptId => point.replyTo = some attemptId ∧ attemptId ≠ state.slots.counter ∧
      ¬ (slots.phoneLogin = state.slots.phoneLogin ∧ slots.passwordToken = state.slots.passwordToken)) ∨
    (Exists fun result => Exists fun login => after = .ended result ∧ issued = some login ∧
      released login slots.phoneLogin = false) := by
  have drops : forall attemptId, point.replyTo = some attemptId -> slots = state.slots.forgetLogin ->
      (decide (attemptId = state.slots.counter) || state.slots.phoneLogin.isNone) = false ->
      Exists fun attemptId => point.replyTo = some attemptId ∧ attemptId ≠ state.slots.counter ∧
        ¬ (slots.phoneLogin = state.slots.phoneLogin ∧ slots.passwordToken = state.slots.passwordToken) := by
    intro attemptId replies same refused
    rcases Bool.or_eq_false_iff.mp refused with ⟨superseded, stored⟩
    refine ⟨attemptId, replies, of_decide_eq_false superseded, ?_⟩
    rintro ⟨login, -⟩
    rw [same] at login
    rw [← login] at stored
    cases stored
  have grants : forall attemptId token, point.replyTo = some attemptId ->
      slots = { state.slots with passwordToken := some token } ->
      (decide (attemptId = state.slots.counter) || decide (state.slots.passwordToken = some token)) = false ->
      Exists fun attemptId => point.replyTo = some attemptId ∧ attemptId ≠ state.slots.counter ∧
        ¬ (slots.phoneLogin = state.slots.phoneLogin ∧ slots.passwordToken = state.slots.passwordToken) := by
    intro attemptId token replies same refused
    rcases Bool.or_eq_false_iff.mp refused with ⟨superseded, different⟩
    refine ⟨attemptId, replies, of_decide_eq_false superseded, ?_⟩
    rintro ⟨-, granted⟩
    rw [same] at granted
    exact of_decide_eq_false different granted.symm
  cases point with
  | storingLogin attemptId phone code =>
    cases reply <;> cases stepped
    refine Or.inl ⟨attemptId, rfl, of_decide_eq_false late, ?_⟩
    rintro ⟨stored, -⟩
    exact absurd (numbered.login _ stored.symm).2 (Nat.lt_irrefl _)
  | storingNone attemptId authorized =>
    cases authorized <;> cases reply <;> cases stepped
    · exact Or.inl (drops attemptId rfl rfl late)
    · exact Or.inl (drops attemptId rfl rfl late)
  | signInClear attemptId | checkClear attemptId =>
    cases reply <;> cases stepped
    exact Or.inl (drops attemptId rfl rfl late)
  | signInToken attemptId token | renewToken attemptId token error =>
    cases reply <;> cases stepped
    exact Or.inl (grants attemptId token rfl rfl late)
  | resendFailing login error =>
    cases reply <;> cases stepped
    rcases Bool.or_eq_false_iff.mp late with ⟨superseded, marked⟩
    refine Or.inl ⟨login.attemptId, rfl, of_decide_eq_false superseded, ?_⟩
    rintro ⟨kept, -⟩
    cases stored : state.slots.phoneLogin with
    | none =>
      rw [stored] at marked
      cases marked
    | some active =>
      rw [stored, Option.all_some, Bool.or_eq_false_iff, Bool.not_eq_false'] at marked
      have same : active.attemptId = login.attemptId := not_not.mp (of_decide_eq_false marked.1)
      simp only [Slots.endRequest, stored, Option.map_some, if_pos same, Option.some.injEq] at kept
      rw [← kept] at marked
      cases marked.2
  | storing attemptId phone sent =>
    cases reply with
    | go =>
      rcases Prod.mk.inj (Option.some.inj stepped) with ⟨same, finished⟩
      cases same
      rcases Bool.or_eq_false_iff.mp late with ⟨refused, unreleased⟩
      cases issued with
      | none => cases unreleased
      | some login =>
        rw [Option.all_some] at unreleased
        refine Or.inr ?_
        unfold State.checkAttempt at finished
        split at finished
        · exact ⟨_, login, finished.symm, rfl, unreleased⟩
        next same =>
          rw [decide_eq_true (not_not.mp same).symm, Bool.true_and, decide_eq_false_iff_not, not_not]
            at refused
          rw [refused] at finished
          exact ⟨_, login, finished.symm, rfl, unreleased⟩
    | _ => cases stepped
  | _ => cases late

theorem late_step_shows (ordered : Ordered state) (late : prompt state event = false)
    (moved : Moves mapError state event next) : ¬ Untouched state event next ∨ ¬ Freed next := by
  cases moved with
  | ticks seconds => cases late
  | joins slots point plain numbers starts =>
    cases event with
    | advance index reply => exact absurd rfl (starts index reply)
    | _ => cases late
  | @steps index reply call slots after there stepped =>
    simp only [prompt, there, Option.all_some] at late
    rcases late_changes stepped ordered.slots late with
      ⟨attemptId, replies, superseded, changed⟩ | ⟨result, login, finished, asked, marked⟩
    · refine Or.inl ?_
      intro untouched
      exact changed (untouched index reply call attemptId rfl there replies superseded)
    · refine Or.inr ?_
      intro freed
      cases finished
      have free := freed _ result login (List.mem_set (List.getElem?_eq_some_iff.mp there).1 _) rfl asked
      cases marked.symm.trans free

/-! ## Whole runs -/

theorem Ordered.initially : Ordered State.initial := by
  constructor
  · constructor
    · intro login there
      cases there
    · intro token there
      cases there
  · intro call member
    cases member

theorem run_ordered {permitted : State -> Event -> Prop} {events : List Event}
    (run : (attemptMachine mapError).Run permitted State.initial events state) : Ordered state :=
  run.invariant Ordered (fun _ _ _ _ ordered moved => ordered.step (moves moved)) .initially

theorem run_attributed {events : List Event}
    (run : (attemptMachine mapError).Run (fun state event => prompt state event = true) State.initial events
      state) : Ordered state ∧ Attributed state ∧ Freed state := by
  refine run.invariant (fun state => Ordered state ∧ Attributed state ∧ Freed state) ?_ ⟨.initially, ?_, ?_⟩
  · rintro state event next prompted ⟨ordered, attributed, freed⟩ moved
    exact ⟨ordered.step (moves moved), attributed.step ordered prompted (moves moved),
      freed.step ordered prompted (moves moved)⟩
  · constructor
    · intro login there
      cases there
    · intro token there
      cases there
  · intro call result login member
    cases member

/-- In a run whose steps come in time the slots belong to the current attempt whenever no
call is clearing them, every resend that ends has released its login, and no reply to a
superseded attempt changes a slot.  A step that comes late breaks the last or the second
of these at once. -/
theorem superseded_attempts_leave_no_trace (mapError : String -> String) :
    (forall events state,
      (attemptMachine mapError).Run (fun state event => prompt state event = true) State.initial events state ->
      Current state ∧ Freed state ∧ forall event next, prompt state event = true ->
        (attemptMachine mapError).step state event = some next -> Untouched state event next) ∧
    (forall state event next, (attemptMachine mapError).Reachable State.initial state ->
      prompt state event = false -> (attemptMachine mapError).step state event = some next ->
      ¬ Untouched state event next ∨ ¬ Freed next) := by
  constructor
  · intro events state run
    rcases run_attributed run with ⟨-, attributed, freed⟩
    exact ⟨attributed.current, freed, fun event next prompted moved => untouched_step prompted (moves moved)⟩
  · rintro state event next ⟨events, run⟩ late moved
    exact late_step_shows (run_ordered run) late (moves moved)

/-- A code sent by message, and no other way to send it. -/
def exampleCode : SentCodeData := ⟨.sms 5, "h", none, none⟩

/-- A code is asked for, and its login is stored. -/
def codeRequested : List Event :=
  [.requestCode "+1234567" "k", .advance 0 .go, .advance 0 .go, .advance 0 .go,
    .advance 0 (.sent (.code exampleCode)), .advance 0 .go, .advance 0 .go]

/-- A second code is asked for; the first request is answered only then. -/
def requestedTwice : List Event :=
  [.requestCode "+1234567" "k", .advance 0 .go, .advance 0 .go, .advance 0 .go,
    .requestCode "+7654321" "k", .advance 1 .go, .advance 1 .go, .advance 1 .go,
    .advance 1 (.sent (.code exampleCode)), .advance 1 .go, .advance 1 .go,
    .advance 0 (.sent (.code exampleCode)), .advance 0 .go]

theorem first_request_is_replaced :
    Exists fun state =>
      (attemptMachine id).Run (fun state event => prompt state event = true) State.initial requestedTwice state ∧
      Current state ∧ Freed state ∧ state.slots.phoneLogin.map PhoneLogin.phone = some "+7654321" ∧
      state.calls.map Call.point =
        [.ended (.error "This login request was replaced by a newer attempt."),
          .ended (.ok (.codeRequest (describeSentCode exampleCode)))] := by
  exact (Machine.exists_guarded_run (by decide +kernel)).imp fun state found =>
    have holds := (superseded_attempts_leave_no_trace id).1 _ _ found.1
    ⟨found.1, holds.1, holds.2.1, found.2⟩

/-- Sign-in asks for the password challenge, the user cancels, and the challenge arrives. -/
def cancelledDuringChallenge : List Event :=
  codeRequested ++
    [.signIn "1", .advance 1 .go, .advance 1 .go,
      .advance 1 (.error ⟨some (401, "SESSION_PASSWORD_NEEDED", none), ""⟩),
      .cancelCode, .advance 2 .go, .advance 2 .go, .advance 2 .go, .advance 2 .go,
      .advance 1 (.password "c")]

/-- The challenge of the cancelled attempt is stored. -/
theorem cancelled_challenge_is_stored :
    Exists fun state => Exists fun next =>
      (attemptMachine id).Run Machine.anything State.initial cancelledDuringChallenge state ∧
      (attemptMachine id).step state (.advance 1 .go) = some next ∧
      next.slots = ⟨2, none, some ⟨"c", 1⟩⟩ ∧ ¬ Untouched state (.advance 1 .go) next ∧ ¬ Current next := by
  have replayed : ((attemptMachine id).replay State.initial cancelledDuringChallenge).any (fun state => decide (
      state.slots = ⟨2, none, none⟩ ∧ (state.calls.map Call.point)[1]? = some (.signInToken 1 ⟨"c", 1⟩) ∧
        Exists fun next => (attemptMachine id).step state (.advance 1 .go) = some next ∧
          next.slots = ⟨2, none, some ⟨"c", 1⟩⟩ ∧ forall call, call ∈ next.calls ->
            call.point.clearsLogin = false ∧ call.point.clearsToken = false)) = true := by
    decide +kernel
  rcases Machine.exists_run replayed with ⟨state, run, slots, point, next, moved, stored, quiet⟩
  rw [List.getElem?_map, Option.map_eq_some_iff] at point
  rcases point with ⟨call, there, point⟩
  refine ⟨state, next, run, moved, stored, ?_, ?_⟩
  · intro untouched
    have kept := (untouched 1 .go call 1 rfl there (by rw [point]; rfl) (by rw [slots]; decide)).2
    rw [stored, slots] at kept
    cases kept
  · intro current
    have same := (current quiet).2 ⟨"c", 1⟩ (by rw [stored])
    rw [stored] at same
    exact absurd same (by decide)

end SignIn
end TelegramDrive
