import TelegramDrive.Library.Machine
import TelegramDrive.SyncEngine.Policy

namespace TelegramDrive
namespace SignIn

/-!
# Sign-in attempts

The commands of the sign-in window and sign-out share three slots: a counter of
attempts, the phone login that waits for its code, and the challenge that waits for a
password.  Each slot is locked for one operation only, so between two awaits of one
command any other may run.

A call is at a point of its command, which names the next operation on a slot or the
reply of Telegram it waits for.  What a reply says, and when it comes, is left to the
schedule.  The replies carry the attempt they belong to from point to point, as the
commands do in their local variables.
-/

/-! ## What Telegram sends -/

inductive AuthCodeDelivery
  | telegramApp | sms | call | flashCall | missedCall | email | emailSetup | fragment | firebase
  | smsWord | smsPhrase | unsupported
deriving DecidableEq

inductive AuthCodeRequestStatus
  | codeRequired | authorized | qrRecommended
deriving DecidableEq

structure AuthCodeRequestResult where
  status : AuthCodeRequestStatus
  delivery : AuthCodeDelivery
  codeLength : Option Int
  destinationHint : Option String
  fragmentUrl : Option String
  resendAfterSeconds : Option Int
  nextDelivery : Option AuthCodeDelivery
  numericCode : Bool
deriving DecidableEq

inductive SentCodeType
  | app (length : Int)
  | sms (length : Int)
  | call (length : Int)
  | flashCall (pattern : String)
  | missedCall (stem : String) (length : Int)
  | emailCode (emailPattern : String) (length : Int)
  | setUpEmailRequired
  | fragmentSms (url : String) (length : Int)
  | firebaseSms (length : Int)
  | smsWord (beginning : Option String)
  | smsPhrase (beginning : Option String)
deriving DecidableEq

inductive CodeType
  | sms | call | flashCall | missedCall | fragmentSms
deriving DecidableEq

structure SentCodeData where
  type : SentCodeType
  phoneCodeHash : String
  nextType : Option CodeType
  timeout : Option Int
deriving DecidableEq

/-- `auth.SentCode`; a success carries an authorization, or asks for a registration. -/
inductive SentCode
  | code (code : SentCodeData)
  | authorization
  | signUpRequired
  | paymentRequired
deriving DecidableEq

def mapNextDelivery : CodeType -> AuthCodeDelivery
  | .sms => .sms
  | .call => .call
  | .flashCall => .flashCall
  | .missedCall => .missedCall
  | .fragmentSms => .fragment

/-- Delivery, code length, destination hint, fragment link, and whether the code is
numeric. -/
def describeType : SentCodeType ->
    AuthCodeDelivery × Option Int × Option String × Option String × Bool
  | .app length => (.telegramApp, some length, none, none, true)
  | .sms length => (.sms, some length, none, none, true)
  | .call length => (.call, some length, none, none, true)
  | .flashCall pattern => (.flashCall, none, some pattern, none, true)
  | .missedCall stem length => (.missedCall, some length, some stem, none, true)
  | .emailCode emailPattern length => (.email, some length, some emailPattern, none, true)
  | .setUpEmailRequired => (.emailSetup, none, none, none, false)
  | .fragmentSms url length => (.fragment, some length, none, some url, true)
  | .firebaseSms length => (.firebase, some length, none, none, true)
  | .smsWord beginning => (.smsWord, none, beginning, none, false)
  | .smsPhrase beginning => (.smsPhrase, none, beginning, none, false)

def describeSentCode (code : SentCodeData) : AuthCodeRequestResult :=
  let (delivery, codeLength, destinationHint, fragmentUrl, numericCode) := describeType code.type
  {
    status :=
      match delivery with
      | .emailSetup | .firebase | .unsupported => .qrRecommended
      | _ => .codeRequired
    delivery := delivery
    codeLength := codeLength
    destinationHint := destinationHint
    fragmentUrl := fragmentUrl
    resendAfterSeconds := some (max (code.timeout.getD 60) 0)
    nextDelivery := code.nextType.map mapNextDelivery
    numericCode := numericCode
  }

/-- What is returned for an authorization without a code, and when payment is required. -/
def withoutCode (status : AuthCodeRequestStatus) (delivery : AuthCodeDelivery) (numericCode : Bool) :
    AuthCodeRequestResult :=
  ⟨status, delivery, none, none, none, none, none, numericCode⟩

/-- `InvocationError`: code, name and value of an RPC error, and the text of any error. -/
structure InvocationError where
  rpc : Option (Int × String × Option Nat)
  text : String

def InvocationError.is (error : InvocationError) (name : String) : Bool :=
  error.rpc.any fun (_, actual, _) => actual == name

def contains (text needle : String) : Bool :=
  text.toList.tails.any fun rest => needle.toList.isPrefixOf rest

/-- The texts of `map_auth_error`. -/
def authErrors : List (String × String) :=
  [("API_ID_INVALID", "The API ID or API Hash is invalid."),
    ("API_ID_PUBLISHED_FLOOD",
      "Telegram has disabled this API ID because it was published. Create new API credentials."),
    ("PHONE_NUMBER_INVALID",
      "Telegram rejected that phone number. Check the country code and try again."),
    ("PHONE_NUMBER_BANNED", "Telegram has banned this phone number."),
    ("PHONE_NUMBER_FLOOD",
      "Too many login codes were requested for this phone number. Please wait before trying again."),
    ("PHONE_PASSWORD_FLOOD", "Too many login attempts were made. Please wait before trying again."),
    ("SMS_CODE_CREATE_FAILED",
      "Telegram could not create a login code. Use QR login or try again later."),
    ("SEND_CODE_UNAVAILABLE",
      "Telegram has no additional code-delivery method available. Use QR login instead."),
    ("UPDATE_APP_TO_LOGIN",
      "Telegram requires a newer authentication protocol. Please update Telegram Drive.")]

/-- `map_auth_error`, with `mapError` for what has no text of its own. -/
def mapAuthError (mapError : String -> String) (error : InvocationError) : String :=
  match authErrors.find? fun (needle, _) => contains error.text needle with
  | some (_, message) => message
  | none => mapError error.text

/-! ## Phone numbers -/

def internationalFormat : String :=
  "Enter the phone number in international format, for example +15551234567."

/-- The characters of a number that are kept, or the first that may not stand there. -/
def keptCharacters : Bool -> List Char -> Except String (List Char)
  | _, [] => .ok []
  | first, character :: rest =>
    if character.isDigit || (character == '+' && first) then
      (keptCharacters false rest).map (character :: ·)
    else if SyncEngine.isTrimmed character || character == '-' || character == '(' || character == ')' ||
        character == '.' then
      keptCharacters false rest
    else .error internationalFormat

def normalizePhoneNumber (input : String) : Except String String :=
  match keptCharacters true (SyncEngine.trim input.toList) with
  | .error error => .error error
  | .ok normalized =>
    match normalized with
    | '+' :: digits =>
      if digits.length < 7 || 15 < digits.length || digits.head? == some '0' ||
          !digits.all Char.isDigit then
        .error "Enter a valid international phone number, for example +15551234567."
      else .ok (String.ofList normalized)
    | _ =>
      .error
        "Enter the phone number in international format, starting with + and the country code."

/-! ## The slots -/

/-- `PhoneLoginState`, with the moment it was stored. -/
structure PhoneLogin where
  attemptId : Nat
  phone : String
  phoneCodeHash : String
  delivery : AuthCodeRequestResult
  resendAvailableAt : Nat
  requestInFlight : Bool
  storedAt : Nat
deriving DecidableEq

/-- A password challenge, with the count of attempts when it was asked for. -/
structure PasswordToken where
  challenge : String
  requestedDuring : Nat
deriving DecidableEq

structure Slots where
  counter : Nat
  phoneLogin : Option PhoneLogin
  passwordToken : Option PasswordToken
deriving DecidableEq

namespace Slots

def increment (slots : Slots) : Slots := { slots with counter := slots.counter + 1 }

def forgetLogin (slots : Slots) : Slots := { slots with phoneLogin := none }

def forgetToken (slots : Slots) : Slots := { slots with passwordToken := none }

/-- A request of the stored login is under way. -/
def beginRequest (slots : Slots) : Slots :=
  { slots with phoneLogin := slots.phoneLogin.map fun login => { login with requestInFlight := true } }

/-- The request of an attempt failed: its login may ask again. -/
def endRequest (slots : Slots) (attemptId : Nat) : Slots :=
  { slots with phoneLogin := slots.phoneLogin.map fun active =>
      if active.attemptId = attemptId then { active with requestInFlight := false } else active }

end Slots

/-! ## The points of the commands -/

inductive Output
  | codeRequest (result : AuthCodeRequestResult)
  | auth (success : Bool) (nextStep : String)
  | cancelled
  | url (text : String)
  | signedOut
deriving DecidableEq

inductive Result
  | ok (output : Output)
  | error (text : String)
deriving DecidableEq

/-- Where a call is. -/
inductive Point
  -- `cmd_auth_request_code`, after its increment
  | clearLogin (attemptId : Nat) (phone : String)
  | clearToken (attemptId : Nat) (phone : String)
  | connecting (attemptId : Nat) (phone : String)
  | requesting (attemptId : Nat) (phone : String) (migrated restarted : Bool)
  -- `cmd_auth_resend_code`
  | resendConnecting
  | resendTaking
  | resending (login : PhoneLogin)
  | resendFailing (login : PhoneLogin) (error : String)
  -- `store_sent_code` and `complete_raw_login`
  | storing (attemptId : Nat) (phone : String) (sent : SentCode)
  | storingLogin (attemptId : Nat) (phone : String) (code : SentCodeData)
  | storingNone (attemptId : Nat) (authorized : Bool)
  | completing (output : Output)
  -- `cmd_auth_cancel_code`, after its increment
  | cancelClearToken
  | cancelTaking
  | cancelConnecting (login : PhoneLogin)
  | cancelling
  -- `cmd_auth_sign_in`
  | signInConnecting
  | signInTaking
  | signingIn (login : PhoneLogin)
  | signInClear (attemptId : Nat)
  | challenging (attemptId requestedDuring : Nat)
  | signInToken (attemptId : Nat) (token : PasswordToken)
  -- `cmd_auth_check_password` and `renew_password_challenge`
  | checkConnecting
  | checkTaking
  | checking (token : PasswordToken)
  | checkClear (attemptId : Nat)
  | renewing (attemptId requestedDuring : Nat) (error : String)
  | renewToken (attemptId : Nat) (token : PasswordToken) (error : String)
  -- `cmd_auth_qr_login`
  | qrConnecting
  | qrNumbering
  | qrTaking
  | qrClearToken (previous : Option PhoneLogin)
  | qrCancelling
  | exporting
  -- `cmd_auth_qr_poll`
  | pollConnecting
  | polling
  | pollClear
  -- `cmd_logout`
  | revoking
  | logoutNumbering
  | logoutClearLogin
  | logoutClearToken
  | removing
  | ended (result : Result)
deriving DecidableEq

/-- What the next step of a call hears. -/
inductive Reply
  | go
  | failed (error : String)
  | timeout
  | error (error : InvocationError)
  | sent (sent : SentCode)
  | authorized
  | signUpRequired
  | password (challenge : String)
  | invalidPassword
  | url (text : String)

/-- A call: for a resend that took a login, that login as it took it, and the slot as the
last step left it. -/
structure Call where
  point : Point
  issued : Option PhoneLogin
  left : Option PhoneLogin

/-! ## The state of a run -/

structure State where
  slots : Slots
  now : Nat
  clock : Nat
  calls : List Call

inductive Event
  | tick (seconds : Nat)
  | requestCode (phone apiHash : String)
  | resendCode
  | cancelCode
  | signIn (code : String)
  | checkPassword
  | qrLogin (apiHash : String)
  | qrPoll
  | logout
  | advance (index : Nat) (reply : Reply)

def notRegistered : String :=
  "This phone number must be registered in an official Telegram app before it can be used here."

def noPhoneLogin : String := "No active phone login. Start again with your phone number."

def invalidTwoStepPassword : String :=
  "That two-step verification password is incorrect. Check it and try again."

def blank (text : String) : Bool := (SyncEngine.trim text.toList).isEmpty

namespace State

def initial : State := ⟨⟨0, none, none⟩, 0, 0, []⟩

/-- `invoke_send_code` after an error: one migration and one restart are followed. -/
def sendCodeFailed (mapError : String -> String) (attemptId : Nat) (phone : String)
    (migrated restarted : Bool) (error : InvocationError) : Point :=
  if !migrated && error.rpc.any (fun (code, _, _) => code == 303) then
    if error.rpc.any (fun (_, _, value) => value.any fun value => decide (value < 2 ^ 31)) then
      .requesting attemptId phone true restarted
    else .ended (.error "Telegram requested an invalid data-center migration.")
  else if !restarted && (contains error.text "AUTH_RESTART" || error.rpc.any (fun (code, _, _) => code == 500)) then
    .requesting attemptId phone migrated true
  else .ended (.error (mapAuthError mapError error))

/-- `cmd_auth_resend_code` with the slot locked. -/
def takeForResend (state : State) : Slots × Point :=
  match state.slots.phoneLogin with
  | none => (state.slots, .ended (.error noPhoneLogin))
  | some login =>
    if login.requestInFlight then
      (state.slots, .ended (.error "A login request is already in progress."))
    else if state.now < login.resendAvailableAt then
      (state.slots, .ended (.error ("The code can be resent in " ++
        toString (max (login.resendAvailableAt - state.now) 1) ++ " seconds.")))
    else (state.slots.beginRequest, .resending { login with requestInFlight := true })

/-- `store_sent_code` up to the lock of the slot. -/
def checkAttempt (state : State) (attemptId : Nat) (phone : String) (sent : SentCode) : Point :=
  if state.slots.counter ≠ attemptId then
    .ended (.error "This login request was replaced by a newer attempt.")
  else
    match sent with
    | .code code => .storingLogin attemptId phone code
    | .authorization => .storingNone attemptId true
    | .signUpRequired => .ended (.error notRegistered)
    | .paymentRequired => .storingNone attemptId false

/-- The login that `store_sent_code` puts into the slot. -/
def newLogin (state : State) (attemptId : Nat) (phone : String) (code : SentCodeData) : PhoneLogin :=
  let delivery := describeSentCode code
  ⟨attemptId, phone, code.phoneCodeHash, delivery,
    state.now + (delivery.resendAfterSeconds.getD 60).toNat, false, state.clock⟩

/-- Telegram refused the code. -/
def signInFailed (mapError : String -> String) (state : State) (login : PhoneLogin)
    (error : InvocationError) : Point :=
  if error.is "SESSION_PASSWORD_NEEDED" then .challenging login.attemptId state.slots.counter
  else if error.is "PHONE_CODE_EMPTY" then
    .ended (.error "Enter the authentication code you received.")
  else if error.is "PHONE_CODE_INVALID" then
    .ended (.error "That authentication code is invalid. Check it and try again.")
  else if error.is "PHONE_CODE_EXPIRED" then
    .ended (.error "That authentication code has expired. Request a new code.")
  else .ended (.error (mapAuthError mapError error))

/-- One step of a call: the slots and the point afterwards. -/
def step (mapError : String -> String) (state : State) : Point -> Reply -> Option (Slots × Point)
  | .clearLogin attemptId phone, .go => some (state.slots.forgetLogin, .clearToken attemptId phone)
  | .clearToken attemptId phone, .go => some (state.slots.forgetToken, .connecting attemptId phone)
  | .connecting attemptId phone, .go => some (state.slots, .requesting attemptId phone false false)
  | .connecting _ _, .failed error => some (state.slots, .ended (.error error))
  | .requesting attemptId phone _ _, .sent sent => some (state.slots, .storing attemptId phone sent)
  | .requesting _ _ _ _, .timeout =>
    some (state.slots, .ended (.error
      "Telegram did not respond while requesting a code. Check your connection or proxy settings."))
  | .requesting attemptId phone migrated restarted, .error error =>
    some (state.slots, sendCodeFailed mapError attemptId phone migrated restarted error)
  | .requesting _ _ _ _, .failed error => some (state.slots, .ended (.error error))
  | .resendConnecting, .go => some (state.slots, .resendTaking)
  | .resendConnecting, .failed error => some (state.slots, .ended (.error error))
  | .resendTaking, .go => some state.takeForResend
  | .resending login, .sent sent => some (state.slots, .storing login.attemptId login.phone sent)
  | .resending login, .error error => some (state.slots, .resendFailing login (mapAuthError mapError error))
  | .resending login, .timeout =>
    some (state.slots, .resendFailing login
      "Telegram did not respond while resending the code. Please try again.")
  | .resendFailing login error, .go => some (state.slots.endRequest login.attemptId, .ended (.error error))
  | .storing attemptId phone sent, .go => some (state.slots, state.checkAttempt attemptId phone sent)
  | .storingLogin attemptId phone code, .go =>
    some ({ state.slots with phoneLogin := some (state.newLogin attemptId phone code) },
      .ended (.ok (.codeRequest (describeSentCode code))))
  | .storingNone _ true, .go =>
    some (state.slots.forgetLogin, .completing (.codeRequest (withoutCode .authorized .telegramApp true)))
  | .storingNone _ false, .go =>
    some (state.slots.forgetLogin,
      .ended (.ok (.codeRequest (withoutCode .qrRecommended .unsupported false))))
  | .completing output, .go => some (state.slots, .ended (.ok output))
  | .completing _, .failed error => some (state.slots, .ended (.error error))
  | .cancelClearToken, .go => some (state.slots.forgetToken, .cancelTaking)
  | .cancelTaking, .go =>
    match state.slots.phoneLogin with
    | none => some (state.slots.forgetLogin, .ended (.ok .cancelled))
    | some login => some (state.slots.forgetLogin, .cancelConnecting login)
  | .cancelConnecting _, .go => some (state.slots, .cancelling)
  | .cancelConnecting _, .failed error => some (state.slots, .ended (.error error))
  | .cancelling, .go => some (state.slots, .ended (.ok .cancelled))
  | .cancelling, .error _ => some (state.slots, .ended (.ok .cancelled))
  | .cancelling, .timeout => some (state.slots, .ended (.ok .cancelled))
  | .signInConnecting, .go => some (state.slots, .signInTaking)
  | .signInConnecting, .failed error => some (state.slots, .ended (.error error))
  | .signInTaking, .go =>
    match state.slots.phoneLogin with
    | none => some (state.slots, .ended (.error noPhoneLogin))
    | some login => some (state.slots, .signingIn login)
  | .signingIn _, .timeout =>
    some (state.slots, .ended (.error
      "Telegram did not respond while verifying the code. Please try again."))
  | .signingIn login, .authorized => some (state.slots, .signInClear login.attemptId)
  | .signingIn _, .signUpRequired => some (state.slots, .ended (.error notRegistered))
  | .signingIn login, .error error => some (state.slots, state.signInFailed mapError login error)
  | .signInClear _, .go => some (state.slots.forgetLogin, .completing (.auth true "dashboard"))
  | .challenging attemptId requestedDuring, .password challenge =>
    some (state.slots, .signInToken attemptId ⟨challenge, requestedDuring⟩)
  | .challenging _ _, .timeout =>
    some (state.slots, .ended (.error
      "Telegram did not respond while requesting two-step verification."))
  | .challenging _ _, .error error => some (state.slots, .ended (.error (mapAuthError mapError error)))
  | .signInToken _ token, .go =>
    some ({ state.slots with passwordToken := some token }, .ended (.ok (.auth false "password")))
  | .checkConnecting, .go => some (state.slots, .checkTaking)
  | .checkConnecting, .failed error => some (state.slots, .ended (.error error))
  | .checkTaking, .go =>
    match state.slots.passwordToken with
    | none => some (state.slots, .ended (.error "No password session found"))
    | some token => some (state.slots.forgetToken, .checking token)
  | .checking token, .authorized => some (state.slots, .checkClear token.requestedDuring)
  | .checking token, .invalidPassword =>
    some (state.slots, .renewing token.requestedDuring state.slots.counter invalidTwoStepPassword)
  | .checking token, .error error =>
    some (state.slots, .renewing token.requestedDuring state.slots.counter ("2FA Failed: " ++ error.text))
  | .checkClear _, .go => some (state.slots.forgetLogin, .completing (.auth true "dashboard"))
  | .renewing attemptId requestedDuring error, .password challenge =>
    some (state.slots, .renewToken attemptId ⟨challenge, requestedDuring⟩ error)
  | .renewing _ _ error, .error _ => some (state.slots, .ended (.error error))
  | .renewing _ _ error, .timeout => some (state.slots, .ended (.error error))
  | .renewToken _ token error, .go =>
    some ({ state.slots with passwordToken := some token }, .ended (.error error))
  | .qrConnecting, .go => some (state.slots, .qrNumbering)
  | .qrConnecting, .failed error => some (state.slots, .ended (.error error))
  | .qrNumbering, .go => some (state.slots.increment, .qrTaking)
  | .qrTaking, .go => some (state.slots.forgetLogin, .qrClearToken state.slots.phoneLogin)
  | .qrClearToken none, .go => some (state.slots.forgetToken, .exporting)
  | .qrClearToken (some _), .go => some (state.slots.forgetToken, .qrCancelling)
  | .qrCancelling, .go => some (state.slots, .exporting)
  | .qrCancelling, .error _ => some (state.slots, .exporting)
  | .qrCancelling, .timeout => some (state.slots, .exporting)
  | .exporting, .url text => some (state.slots, .ended (.ok (.url text)))
  | .exporting, .authorized => some (state.slots, .completing (.url "__authorized__"))
  | .exporting, .signUpRequired =>
    some (state.slots, .ended (.error "Telegram did not confirm an existing account"))
  | .exporting, .error error =>
    some (state.slots, .ended (.error ("ExportLoginToken failed: " ++ error.text)))
  | .pollConnecting, .go => some (state.slots, .polling)
  | .pollConnecting, .failed error => some (state.slots, .ended (.error error))
  | .polling, .authorized => some (state.slots, .pollClear)
  | .polling, .failed error => some (state.slots, .ended (.error error))
  | .polling, .go => some (state.slots, .ended (.ok (.auth false "waiting")))
  | .polling, .error _ => some (state.slots, .ended (.ok (.auth false "waiting")))
  | .pollClear, .go => some (state.slots.forgetLogin, .completing (.auth true "dashboard"))
  | .revoking, .go => some (state.slots, .logoutNumbering)
  | .logoutNumbering, .go => some (state.slots.increment, .logoutClearLogin)
  | .logoutClearLogin, .go => some (state.slots.forgetLogin, .logoutClearToken)
  | .logoutClearToken, .go => some (state.slots.forgetToken, .removing)
  | .removing, .go => some (state.slots, .ended (.ok .signedOut))
  | .removing, .failed error => some (state.slots, .ended (.error error))
  | _, _ => none

/-- A new call, after what its command does before its first await. -/
def join (state : State) (slots : Slots) (point : Point) : State :=
  { state with slots := slots, calls := state.calls ++ [⟨point, none, slots.phoneLogin⟩] }

def act (mapError : String -> String) (state : State) : Event -> Option State
  | .tick seconds => some { state with now := state.now + seconds }
  | .requestCode phone apiHash =>
    if blank apiHash then
      some (state.join state.slots (.ended (.error "API Hash cannot be empty.")))
    else
      match normalizePhoneNumber phone with
      | .error error => some (state.join state.slots (.ended (.error error)))
      | .ok phone => some (state.join state.slots.increment (.clearLogin state.slots.increment.counter phone))
  | .resendCode => some (state.join state.slots .resendConnecting)
  | .cancelCode => some (state.join state.slots.increment .cancelClearToken)
  | .signIn code =>
    if blank code then
      some (state.join state.slots (.ended (.error "Enter the authentication code you received.")))
    else some (state.join state.slots .signInConnecting)
  | .checkPassword => some (state.join state.slots .checkConnecting)
  | .qrLogin apiHash =>
    if blank apiHash then
      some (state.join state.slots (.ended (.error "API Hash cannot be empty.")))
    else some (state.join state.slots .qrConnecting)
  | .qrPoll => some (state.join state.slots .pollConnecting)
  | .logout => some (state.join state.slots .revoking)
  | .advance index reply =>
    state.calls[index]?.bind fun call =>
      (state.step mapError call.point reply).map fun (slots, point) =>
        { state with
          slots := slots
          calls := state.calls.set index {
            point := point
            issued :=
              match point with
              | .resending login => some login
              | _ => call.issued
            left := slots.phoneLogin } }

end State

/-- The machine, over the texts that `map_error` gives. -/
def attemptMachine (mapError : String -> String) : Machine State Event where
  step state event := (state.act mapError event).map fun next => { next with clock := state.clock + 1 }

end SignIn
end TelegramDrive
