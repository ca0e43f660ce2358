import TelegramDrive.Library.Machine
import TelegramDrive.Supporter.Finalize

namespace TelegramDrive
namespace Supporter

/-!
# The supporter service

Each request is a worker that goes from await to await; any number of them run at
once, each may fail at any await, or be killed.  What PayPal answers, what is drawn
and how a call of the database ends is part of the event that moves a worker.
-/

/-- `beginCheckout`. -/
inductive Checkout
  | inserting (claimId secretHash publicKey keyHash : String) (createdAt : Nat)
  | ordering (claimId : String)
  | marking (claimId orderId approvalUrl : String)
  | failing (claimId : String)
  | answered (claimId approvalUrl : String)
  | refused
  deriving DecidableEq

/-- `checkoutStatus`. -/
inductive Poll
  | reading (claimId secret : String)
  | asking (claim : CheckoutClaim)
  | finalizing (run : Finalize)
  | issuing (claim : CheckoutClaim) (run : Issue)
  | completed (token : String) (recoveryCode : Option String)
  | unpaid (claimId : String)
  | pending (approvalUrl : Option String)
  | refused
  deriving DecidableEq

/-- `handleCheckoutReturn`. -/
inductive Page
  | reading (claimId orderId : String)
  | asking (claim : CheckoutClaim)
  | finalizing (run : Finalize)
  | confirmed
  | refused
  deriving DecidableEq

/-- `processWebhook`, behind the verification of the signature. -/
inductive Webhook
  | recording
  | looking (orderId : String)
  | capturing (claim : CheckoutClaim)
  | finalizing (run : Finalize)
  | revoking
  | finishing (result : String)
  | discarding
  | accepted (result : String)
  | failed
  deriving DecidableEq

/-- `acknowledgeCheckout`. -/
inductive Acknowledge
  | reading (claimId secret : String)
  | writing (claimId : String)
  | done
  | refused
  deriving DecidableEq

/-- `activateWithRecovery`. -/
inductive Activate
  | looking (lookupHash publicKey : String)
  | admitting (entitlementId publicKey : String)
  | issuing (run : Issue)
  | refused
  deriving DecidableEq

/-- `createRefreshChallenge`. -/
inductive Challenging
  | entitlement (claims : EntitlementClaims)
  | device (claims : EntitlementClaims) (entitlement : Option Entitlement)
  | inserting (claims : EntitlementClaims) (challengeId nonce : String) (now : Nat)
  | answered (challengeId nonce : String)
  | refused
  deriving DecidableEq

/-- The body of a refresh. -/
structure RefreshProof where
  token : String
  challengeId : String
  nonce : String
  signature : String
  deriving DecidableEq

/-- `refreshEntitlement`.  The device is the row whose key has verified the proof. -/
inductive Refresh
  | device (claims : EntitlementClaims) (proof : RefreshProof)
  | consuming (claims : EntitlementClaims) (proof : RefreshProof) (device : Device) (now : Nat)
  | touching (claims : EntitlementClaims) (proof : RefreshProof) (device : Device) (now : Nat)
  | issuing (proof : RefreshProof) (device : Device) (now : Nat) (run : Issue)
  | refused
  deriving DecidableEq

inductive Worker
  | checkout (run : Checkout)
  | poll (run : Poll)
  | page (run : Page)
  | webhook (eventId : String) (run : Webhook)
  | acknowledge (run : Acknowledge)
  | activate (run : Activate)
  | challenge (run : Challenging)
  | refresh (run : Refresh)
  | killed
  deriving DecidableEq

/-- What an await brings from outside the database. -/
inductive Answer
  | none
  | order (order : Option PayPalOrder)
  | created (order : Option (String × String))
  | draw (draw : Draw)
  deriving DecidableEq

/-- An order whose captures are its own. -/
def PayPalOrder.genuine (service : Service) (order : PayPalOrder) : Bool :=
  order.purchaseUnits.all fun unit => unit.captures.all fun capture =>
    decide (service.captureOrder capture.id = order.id)

def Answer.drawn : Answer -> Draw
  | .draw values => values
  | _ => ⟨"", "", []⟩

/-! ## Steps -/

/-- `verifyDeviceProof`. -/
def verifyDeviceProof (service : Service) (publicKey message signature : String) : Bool :=
  match decodeBase64Url publicKey, decodeBase64Url signature with
  | some key, some signature => service.primitives.verify key (utf8 message) signature
  | _, _ => false

def refreshMessage (proof : RefreshProof) : String :=
  "telegram-drive-supporter-refresh:" ++ proof.challengeId ++ ":" ++ proof.nonce

/-- A text that is not empty. -/
def given (text : Option String) : Option String := text.filter fun text => decide (text ≠ "")

namespace Checkout

def step (service : Service) (db : Database) (fault : Fault) (answer : Answer) :
    Checkout -> Option (Database × Checkout)
  | .inserting claimId secretHash publicKey keyHash createdAt =>
    some (attempt fault db
      (db.insertCheckoutClaim claimId secretHash publicKey keyHash service.termsVersion createdAt
        (createdAt + 30 * 60)) (fun _ => .refused) (.ordering claimId))
  | .ordering claimId =>
    match answer with
    | .created (some (orderId, approvalUrl)) => some (db, .marking claimId orderId approvalUrl)
    | .created none => some (db, .failing claimId)
    | _ => none
  | .marking claimId orderId approvalUrl =>
    some (attempt fault db (db.markCheckoutPending claimId orderId approvalUrl) (fun _ => .failing claimId)
      (.answered claimId approvalUrl))
  | .failing claimId =>
    some (attempt fault db (.ok (db.markCheckoutFailed claimId "PAYPAL_ORDER_FAILED")) (fun _ => .refused)
      .refused)
  | .answered _ _ => none
  | .refused => none

end Checkout

namespace Poll

/-- What follows a claim that is completed, or not. -/
def conclude (claim : CheckoutClaim) : Poll :=
  match claim.entitlementId with
  | some entitlementId =>
    if claim.status = .completed ∧ entitlementId ≠ "" then
      .issuing claim (.entitlement entitlementId claim.deviceKeyHash)
    else .pending none
  | none => .pending none

def step (service : Service) (db : Database) (now : Nat) (fault : Fault) (answer : Answer) :
    Poll -> Option (Database × Poll)
  | .reading claimId secret =>
    some (db,
      if fault = .none then
        match db.getCheckoutClaim claimId with
        | some claim =>
          if claim.claimSecretHash ≠ service.primitives.sha256Text secret then .refused
          else if claim.status ≠ .completed ∧ claim.paypalOrderId.getD "" ≠ "" then .asking claim
          else conclude claim
        | none => .refused
      else .refused)
  | .asking claim =>
    match answer with
    | .order (some order) =>
      if !order.genuine service then none
      else if claim.paypalOrderId ≠ some order.id then some (db, .pending none)
      else if order.status = "COMPLETED" then some (db, .finalizing (.reading claim order))
      else if verifiedUnpaidOrder service.terms claim.id claim.paypalOrderId order then
        some (db, .unpaid claim.id)
      else
        some (db, .pending
          (resumableApprovalUrl service.terms service.safeApprovalUrl claim.id claim.paypalOrderId order))
    | .order none => some (db, .pending none)
    | _ => none
  | .finalizing (.returned claim) => some (db, conclude claim)
  | .finalizing (.threw _) => some (db, .pending none)
  | .finalizing run =>
    (run.step service db now answer.drawn fault).map fun (next, run) => (next, .finalizing run)
  | .issuing claim (.issued _ _ _ token) =>
    some (db, .completed token (claim.recoveryCiphertext.bind fun ciphertext =>
      claim.recoveryNonce.bind fun nonce => service.decryptRecoveryCode ciphertext nonce))
  | .issuing _ (.threw _) => some (db, .refused)
  | .issuing claim run => (run.step service db now fault).map fun run => (db, .issuing claim run)
  | .completed _ _ => none
  | .unpaid _ => none
  | .pending _ => none
  | .refused => none

end Poll

namespace Page

def step (service : Service) (db : Database) (now : Nat) (fault : Fault) (answer : Answer) :
    Page -> Option (Database × Page)
  | .reading claimId orderId =>
    some (db,
      if fault = .none then
        match db.getCheckoutClaim claimId with
        | some claim => if claim.paypalOrderId = some orderId then .asking claim else .refused
        | none => .refused
      else .refused)
  | .asking claim =>
    match answer with
    | .order (some order) =>
      if !order.genuine service then none else some (db, .finalizing (.reading claim order))
    | .order none => some (db, .refused)
    | _ => none
  | .finalizing (.returned _) => some (db, .confirmed)
  | .finalizing (.threw _) => some (db, .refused)
  | .finalizing run =>
    (run.step service db now answer.drawn fault).map fun (next, run) => (next, .finalizing run)
  | .confirmed => none
  | .refused => none

end Page

namespace Webhook

/-- What an event that is recorded leads to. -/
def dispatch (event : PayPalEvent) : Webhook :=
  if event.revokes then .revoking
  else
    match given event.activates with
    | some orderId => .looking orderId
    | none => .finishing "ignored"

/-- The statement of a revoking event. -/
def revoke (db : Database) (event : PayPalEvent) (now : Nat) : Database × Bool :=
  let ids := relatedPaymentIds event.resource
  match given ids.captureId, given ids.orderId with
  | some captureId, _ => db.revokeEntitlementByCapture captureId event.reason now
  | none, some orderId => db.revokeEntitlementByOrder orderId event.reason now
  | none, none => (db, false)

def step (service : Service) (db : Database) (now : Nat) (fault : Fault) (answer : Answer) (event : PayPalEvent) :
    Webhook -> Option (Database × Webhook)
  | .recording =>
    let (next, recorded) := db.recordWebhook event.id event.eventType now
    some (attempt fault db (.ok next) (fun _ => .failed)
      (if recorded then dispatch event else .accepted "duplicate"))
  | .looking orderId =>
    some (db,
      if fault = .none then
        match db.getCheckoutByOrder orderId with
        | some claim => if claim.status ≠ .completed then .capturing claim else .finishing "ignored"
        | none => .finishing "ignored"
      else .discarding)
  | .capturing claim =>
    match answer with
    | .order (some order) =>
      if !order.genuine service then none else some (db, .finalizing (.reading claim order))
    | .order none => some (db, .discarding)
    | _ => none
  | .finalizing (.returned _) => some (db, .finishing "activated")
  | .finalizing (.threw _) => some (db, .discarding)
  | .finalizing run =>
    (run.step service db now answer.drawn fault).map fun (next, run) => (next, .finalizing run)
  | .revoking =>
    let (next, revoked) := revoke db event now
    some (attempt fault db (.ok next) (fun _ => .discarding)
      (.finishing (if revoked then "revoked" else "not_found")))
  | .finishing result =>
    some (attempt fault db (.ok (db.finishWebhook event.id result now)) (fun _ => .discarding)
      (.accepted result))
  | .discarding =>
    some (attempt fault db (.ok (db.discardWebhook event.id)) (fun _ => .failed) .failed)
  | .accepted _ => none
  | .failed => none

end Webhook

namespace Acknowledge

def step (service : Service) (db : Database) (now : Nat) (fault : Fault) :
    Acknowledge -> Option (Database × Acknowledge)
  | .reading claimId secret =>
    some (db,
      if fault = .none then
        match db.getCheckoutClaim claimId with
        | some claim =>
          if claim.claimSecretHash ≠ service.primitives.sha256Text secret then .refused
          else if claim.status = .completed ∧ claim.entitlementId.isSome then .writing claimId
          else .refused
        | none => .refused
      else .refused)
  | .writing claimId =>
    some (attempt fault db (.ok (db.acknowledgeCheckoutReceipt claimId now)) (fun _ => .refused) .done)
  | .done => none
  | .refused => none

end Acknowledge

namespace Activate

def step (service : Service) (db : Database) (now : Nat) (fault : Fault) :
    Activate -> Option (Database × Activate)
  | .looking lookupHash publicKey =>
    some (db,
      if fault = .none then
        match db.findEntitlementByRecoveryHash lookupHash with
        | some entitlement =>
          if entitlement.status = .active then .admitting entitlement.id publicKey else .refused
        | none => .refused
      else .refused)
  | .admitting entitlementId publicKey =>
    let keyHash := service.primitives.sha256Text publicKey
    let (next, admission) := db.activateDevice entitlementId keyHash publicKey now service.maxActiveDevices
    some (attempt fault db (.ok next) (fun _ => .refused)
      (if admission = .admitted then .issuing (.entitlement entitlementId keyHash) else .refused))
  | .issuing run => (run.step service db now fault).map fun run => (db, .issuing run)
  | .refused => none

end Activate

namespace Challenging

def step (service : Service) (db : Database) (now : Nat) (fault : Fault) (draw : Draw) :
    Challenging -> Option (Database × Challenging)
  | .entitlement claims =>
    some (db, if fault = .none then .device claims (db.getEntitlement claims.entitlementId) else .refused)
  | .device claims found =>
    some (db,
      if fault = .none ∧ found.any (fun paid => decide (paid.status = .active)) ∧
          (db.getDevice claims.entitlementId claims.deviceKeyHash).any (fun device => device.revokedAt.isNone)
      then .inserting claims draw.id draw.nonce now
      else .refused)
  | .inserting claims challengeId nonce created =>
    some (attempt fault db
      (db.createChallenge challengeId claims.entitlementId claims.deviceKeyHash
        (service.primitives.sha256Text nonce) created) (fun _ => .refused) (.answered challengeId nonce))
  | .answered _ _ => none
  | .refused => none

end Challenging

namespace Refresh

def step (service : Service) (db : Database) (now : Nat) (fault : Fault) :
    Refresh -> Option (Database × Refresh)
  | .device claims proof =>
    some (db,
      if fault = .none then
        match db.getDevice claims.entitlementId claims.deviceKeyHash with
        | some registered =>
          if registered.revokedAt = none ∧
              verifyDeviceProof service registered.devicePublicKey (refreshMessage proof) proof.signature = true
          then .consuming claims proof registered now
          else .refused
        | none => .refused
      else .refused)
  | .consuming claims proof registered read =>
    let (next, consumed) := db.consumeChallenge proof.challengeId claims.entitlementId claims.deviceKeyHash
      (service.primitives.sha256Text proof.nonce) read
    some (attempt fault db (.ok next) (fun _ => .refused)
      (if consumed then .touching claims proof registered read else .refused))
  | .touching claims proof registered read =>
    some (attempt fault db (.ok (db.touchDevice claims.entitlementId claims.deviceKeyHash now))
      (fun _ => .refused)
      (.issuing proof registered read (.entitlement claims.entitlementId claims.deviceKeyHash)))
  | .issuing proof registered read run =>
    (run.step service db now fault).map fun run => (db, .issuing proof registered read run)
  | .refused => none

end Refresh

/-- One step of a worker. -/
def Worker.step (service : Service) (db : Database) (now : Nat) (fault : Fault) (answer : Answer) :
    Worker -> Option (Database × Worker)
  | .checkout run => (run.step service db fault answer).map fun (next, run) => (next, .checkout run)
  | .poll run => (run.step service db now fault answer).map fun (next, run) => (next, .poll run)
  | .page run => (run.step service db now fault answer).map fun (next, run) => (next, .page run)
  | .webhook eventId run =>
    (run.step service db now fault answer (service.event eventId)).map fun (next, run) =>
      (next, .webhook eventId run)
  | .acknowledge run => (run.step service db now fault).map fun (next, run) => (next, .acknowledge run)
  | .activate run => (run.step service db now fault).map fun (next, run) => (next, .activate run)
  | .challenge run =>
    (run.step service db now fault answer.drawn).map fun (next, run) => (next, .challenge run)
  | .refresh run => (run.step service db now fault).map fun (next, run) => (next, .refresh run)
  | .killed => none

/-- Whether a worker has given its answer. -/
def Worker.finished : Worker -> Bool
  | .checkout (.answered _ _) => true
  | .checkout .refused => true
  | .poll (.completed _ _) => true
  | .poll (.unpaid _) => true
  | .poll (.pending _) => true
  | .poll .refused => true
  | .page .confirmed => true
  | .page .refused => true
  | .webhook _ (.accepted _) => true
  | .webhook _ .failed => true
  | .acknowledge .done => true
  | .acknowledge .refused => true
  | .activate (.issuing (.issued _ _ _ _)) => true
  | .activate (.issuing (.threw _)) => true
  | .activate .refused => true
  | .challenge (.answered _ _) => true
  | .challenge .refused => true
  | .refresh (.issuing _ _ _ (.issued _ _ _ _)) => true
  | .refresh (.issuing _ _ _ (.threw _)) => true
  | .refresh .refused => true
  | .killed => true
  | _ => false

/-! ## The machine -/

/-- The database, the time and the workers. -/
structure Snapshot where
  db : Database
  now : Nat
  workers : List Worker

/-- A snapshot, and a history: what there was before each step, and the orders that
activating events have named. -/
structure State extends Snapshot where
  clock : Nat
  past : Nat -> Snapshot
  named : List String

inductive Event
  | tick (seconds : Nat)
  | begin (claimId secret publicKey termsVersion : String) (termsAccepted : Bool)
  | poll (claimId secret : String)
  | page (claimId orderId : String)
  | deliver (eventId : String)
  | acknowledge (claimId secret : String)
  | activate (recoveryCode publicKey termsVersion : String) (termsAccepted : Bool)
  | challenge (token : String)
  | refresh (proof : RefreshProof)
  | cancel (claimId : String)
  | cleanup
  | revokeDevice (entitlementId deviceKeyHash : String)
  | advance (worker : Nat) (fault : Fault) (answer : Answer)
  | kill (worker : Nat)

/-- `validDevicePublicKey`. -/
def validDevicePublicKey (value : String) : Bool :=
  (decodeBase64Url value).any fun bytes => decide (bytes.length = 32)

namespace State

def initial : State := ⟨⟨.empty, 0, []⟩, 0, fun _ => ⟨.empty, 0, []⟩, []⟩

def start (state : State) (worker : Worker) : State := { state with workers := state.workers ++ [worker] }

/-- Whether an order is created, but its approval link not given out. -/
def hidden (state : State) (orderId : String) : Bool :=
  state.workers.any fun worker =>
    match worker with
    | .checkout (.marking _ other _) => decide (other = orderId)
    | _ => false

/-- PayPal names an order in an event only when its approval link was given out, and
never gives out one id twice. -/
def admissible (state : State) : Answer -> Bool
  | .created (some (orderId, _)) => decide (orderId ∉ state.named)
  | _ => true

/-- A step, before the history is written. -/
def act (service : Service) (state : State) : Event -> Option State
  | .tick seconds => some { state with now := state.now + seconds }
  | .begin claimId secret publicKey termsVersion termsAccepted =>
    if validDevicePublicKey publicKey && termsAccepted && decide (termsVersion = service.termsVersion) then
      some (state.start (.checkout (.inserting claimId (service.primitives.sha256Text secret) publicKey
        (service.primitives.sha256Text publicKey) state.now)))
    else none
  | .poll claimId secret => some (state.start (.poll (.reading claimId secret)))
  | .page claimId orderId => some (state.start (.page (.reading claimId orderId)))
  | .deliver eventId =>
    match given (service.event eventId).activates with
    | some orderId =>
      if state.hidden orderId then none
      else some { state.start (.webhook eventId .recording) with named := orderId :: state.named }
    | none => some (state.start (.webhook eventId .recording))
  | .acknowledge claimId secret => some (state.start (.acknowledge (.reading claimId secret)))
  | .activate recoveryCode publicKey termsVersion termsAccepted =>
    if validDevicePublicKey publicKey && termsAccepted && decide (termsVersion = service.termsVersion) then
      some (state.start (.activate (.looking
        (service.recoveryLookupHash (normalizedRecoveryCode service recoveryCode)) publicKey)))
    else none
  | .challenge token =>
    match verifyEntitlementToken service.primitives token with
    | .ok claims => some (state.start (.challenge (.entitlement claims)))
    | .error _ => none
  | .refresh proof =>
    match verifyEntitlementToken service.primitives proof.token with
    | .ok claims => some (state.start (.refresh (.device claims proof)))
    | .error _ => none
  | .cancel claimId => some { state with db := state.db.markCheckoutCancelled claimId }
  | .cleanup => some { state with db := state.db.cleanupExpiredRecords state.now }
  | .revokeDevice entitlementId deviceKeyHash =>
    some { state with db := state.db.revokeDevice entitlementId deviceKeyHash state.now }
  | .advance index fault answer =>
    if state.admissible answer then
      state.workers[index]?.bind fun worker =>
        (worker.step service state.db state.now fault answer).map fun (db, next) =>
          { state with db := db, workers := state.workers.set index next }
    else none
  | .kill index =>
    state.workers[index]?.bind fun worker =>
      if worker.finished then none else some { state with workers := state.workers.set index .killed }

end State

def serviceMachine (service : Service) : Machine State Event where
  step state event := (state.act service event).map fun next =>
    { next with
      clock := state.clock + 1
      past := fun time => if time = state.clock then state.toSnapshot else state.past time }

end Supporter
end TelegramDrive
