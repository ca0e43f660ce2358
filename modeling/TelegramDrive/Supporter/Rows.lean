import TelegramDrive.Library.Table

namespace TelegramDrive
namespace Supporter

/-!
# The database of the supporter service

The rows of the schema and the statements of `db.ts`.  Every statement and every
batch is one function, because the database runs each of them as a transaction.
Times are in seconds.
-/

inductive ClaimStatus
  | creating
  | pending
  | processing
  | completed
  | cancelled
  | expired
  | failed
  deriving DecidableEq

structure CheckoutClaim where
  id : String
  claimSecretHash : String
  paypalOrderId : Option String
  approvalUrl : Option String
  devicePublicKey : String
  deviceKeyHash : String
  status : ClaimStatus
  termsVersion : String
  termsAcceptedAt : Nat
  createdAt : Nat
  expiresAt : Nat
  completedAt : Option Nat
  processingStartedAt : Option Nat
  entitlementId : Option String
  recoveryCiphertext : Option String
  recoveryNonce : Option String
  recoveryDeliveredAt : Option Nat
  errorCode : Option String
  deriving DecidableEq

inductive EntitlementStatus
  | active
  | revoked
  deriving DecidableEq

structure Entitlement where
  id : String
  paypalOrderId : String
  paypalCaptureId : String
  status : EntitlementStatus
  amount : String
  currency : String
  recoveryLookupHash : String
  termsVersion : String
  createdAt : Nat
  revokedAt : Option Nat
  revocationReason : Option String
  deriving DecidableEq

structure Device where
  entitlementId : String
  deviceKeyHash : String
  devicePublicKey : String
  activatedAt : Nat
  lastRefreshedAt : Nat
  revokedAt : Option Nat
  deriving DecidableEq

/-- The primary key of a device. -/
def Device.key (device : Device) : String × String := (device.entitlementId, device.deviceKeyHash)

structure Challenge where
  id : String
  entitlementId : String
  deviceKeyHash : String
  nonceHash : String
  createdAt : Nat
  expiresAt : Nat
  consumedAt : Option Nat
  deriving DecidableEq

structure WebhookRow where
  id : String
  eventType : String
  receivedAt : Nat
  processedAt : Option Nat
  result : Option String
  deriving DecidableEq

structure Database where
  claims : Table String CheckoutClaim CheckoutClaim.id
  entitlements : Table String Entitlement Entitlement.id
  devices : Table (String × String) Device Device.key
  challenges : Table String Challenge Challenge.id
  webhooks : Table String WebhookRow WebhookRow.id

namespace Database

def empty : Database := ⟨.empty, .empty, .empty, .empty, .empty⟩

/-- A change of the claim with an id. -/
def updateClaim (db : Database) (claimId : String) (selects : CheckoutClaim -> Bool)
    (change : CheckoutClaim -> CheckoutClaim) (keeps : forall claim, (change claim).id = claim.id) : Database :=
  { db with
    claims := db.claims.update (fun claim => decide (claim.id = claimId) && selects claim) change keeps }

/-! ## Checkouts -/

/-- `insertCheckoutClaim`, which fails on a used id or secret hash. -/
def insertCheckoutClaim (db : Database) (id secretHash publicKey keyHash termsVersion : String)
    (createdAt expiresAt : Nat) : Except String Database :=
  if (db.claims.find? id).isSome || db.claims.items.any fun claim => decide (claim.claimSecretHash = secretHash)
  then .error "UNIQUE constraint failed: checkout_claims"
  else .ok { db with claims := db.claims.insert {
    id := id
    claimSecretHash := secretHash
    paypalOrderId := none
    approvalUrl := none
    devicePublicKey := publicKey
    deviceKeyHash := keyHash
    status := .creating
    termsVersion := termsVersion
    termsAcceptedAt := createdAt
    createdAt := createdAt
    expiresAt := expiresAt
    completedAt := none
    processingStartedAt := none
    entitlementId := none
    recoveryCiphertext := none
    recoveryNonce := none
    recoveryDeliveredAt := none
    errorCode := none } }

/-- `markCheckoutPending`, which fails on the order of another claim. -/
def markCheckoutPending (db : Database) (claimId orderId approvalUrl : String) : Except String Database :=
  if (db.claims.find? claimId).any (fun claim => decide (claim.status = .creating)) &&
      db.claims.items.any (fun claim => decide (claim.id ≠ claimId) && decide (claim.paypalOrderId = some orderId))
  then .error "UNIQUE constraint failed: checkout_claims.paypal_order_id"
  else .ok (db.updateClaim claimId (fun claim => decide (claim.status = .creating))
    (fun claim => { claim with
      paypalOrderId := some orderId
      approvalUrl := some approvalUrl
      status := .pending
      errorCode := none }) fun _ => rfl)

def markCheckoutFailed (db : Database) (claimId errorCode : String) : Database :=
  db.updateClaim claimId (fun claim => decide (claim.status = .creating ∨ claim.status = .pending))
    (fun claim => { claim with status := .failed, errorCode := some errorCode }) fun _ => rfl

def markCheckoutCancelled (db : Database) (claimId : String) : Database :=
  db.updateClaim claimId (fun claim => decide (claim.status = .creating ∨ claim.status = .pending))
    (fun claim => { claim with status := .cancelled, errorCode := none }) fun _ => rfl

/-- The condition of `beginCheckoutCompletion`. -/
def mayComplete (now : Nat) (verifiedCompletedCapture : Bool) (claim : CheckoutClaim) : Bool :=
  decide (claim.status = .creating ∨ claim.status = .pending) ||
    decide (claim.status = .processing) && claim.processingStartedAt.any (fun time => decide (time + 60 < now)) ||
    verifiedCompletedCapture &&
      decide (claim.status = .expired ∨ claim.status = .cancelled ∨ claim.status = .failed)

def beginCheckoutCompletion (db : Database) (claimId : String) (now : Nat) (verifiedCompletedCapture : Bool) :
    Database × Bool :=
  (db.updateClaim claimId (mayComplete now verifiedCompletedCapture)
      (fun claim => { claim with status := .processing, processingStartedAt := some now }) fun _ => rfl,
    decide (db.claims.changes (fun claim => decide (claim.id = claimId) &&
      mayComplete now verifiedCompletedCapture claim) = 1))

def releaseCheckoutCompletion (db : Database) (claimId : String) : Database :=
  db.updateClaim claimId (fun claim => decide (claim.status = .processing))
    (fun claim => { claim with status := .pending, processingStartedAt := none }) fun _ => rfl

def acknowledgeCheckoutReceipt (db : Database) (claimId : String) (acknowledgedAt : Nat) : Database :=
  db.updateClaim claimId (fun claim => decide (claim.status = .completed) && claim.entitlementId.isSome)
    (fun claim => { claim with
      recoveryDeliveredAt := claim.recoveryDeliveredAt.or (some acknowledgedAt)
      recoveryCiphertext := none
      recoveryNonce := none }) fun _ => rfl

def getCheckoutClaim (db : Database) (claimId : String) : Option CheckoutClaim := db.claims.find? claimId

def getCheckoutByOrder (db : Database) (orderId : String) : Option CheckoutClaim :=
  db.claims.items.find? fun claim => decide (claim.paypalOrderId = some orderId)

/-- The arguments of `completeCheckout`, with the order that is checked first. -/
structure Completion where
  claim : CheckoutClaim
  orderId : String
  entitlementId : String
  captureId : String
  amount : String
  currency : String
  recoveryLookupHash : String
  recoveryCiphertext : String
  recoveryNonce : String
  completedAt : Nat
  deriving DecidableEq

def Completion.entitlement (details : Completion) : Entitlement where
  id := details.entitlementId
  paypalOrderId := details.orderId
  paypalCaptureId := details.captureId
  status := .active
  amount := details.amount
  currency := details.currency
  recoveryLookupHash := details.recoveryLookupHash
  termsVersion := details.claim.termsVersion
  createdAt := details.completedAt
  revokedAt := none
  revocationReason := none

def Completion.device (details : Completion) : Device where
  entitlementId := details.entitlementId
  deviceKeyHash := details.claim.deviceKeyHash
  devicePublicKey := details.claim.devicePublicKey
  activatedAt := details.completedAt
  lastRefreshedAt := details.completedAt
  revokedAt := none

/-- Whether an entitlement has a unique value of the new one. -/
def Completion.conflicts (details : Completion) (other : Entitlement) : Bool :=
  decide (other.id = details.entitlementId) || decide (other.paypalOrderId = details.orderId) ||
    decide (other.paypalCaptureId = details.captureId) ||
    decide (other.recoveryLookupHash = details.recoveryLookupHash)

/-- `INSERT OR IGNORE INTO entitlements`. -/
def insertEntitlement (db : Database) (details : Completion) : Database :=
  if db.entitlements.items.any details.conflicts then db
  else { db with entitlements := db.entitlements.insert details.entitlement }

/-- `INSERT OR IGNORE INTO entitlement_devices`: a missing entitlement is not ignored. -/
def insertDevice (db : Database) (details : Completion) : Except String Database :=
  if (db.entitlements.find? details.entitlementId).isNone then .error "FOREIGN KEY constraint failed"
  else if (db.devices.find? details.device.key).isSome then .ok db
  else .ok { db with devices := db.devices.insert details.device }

/-- The last statement of the batch. -/
def markCheckoutCompleted (db : Database) (details : Completion) : Database :=
  db.updateClaim details.claim.id (fun claim => decide (claim.status = .processing))
    (fun claim => { claim with
      status := .completed
      completedAt := some details.completedAt
      entitlementId := some details.entitlementId
      recoveryCiphertext := some details.recoveryCiphertext
      recoveryNonce := some details.recoveryNonce
      errorCode := none }) fun _ => rfl

/-- The batch of `completeCheckout`: all of it, or nothing. -/
def completeCheckout (db : Database) (details : Completion) : Except String Database :=
  match (db.insertEntitlement details).insertDevice details with
  | .ok db => .ok (db.markCheckoutCompleted details)
  | .error error => .error error

/-! ## Entitlements and devices -/

def getEntitlement (db : Database) (entitlementId : String) : Option Entitlement :=
  db.entitlements.find? entitlementId

def findEntitlementByRecoveryHash (db : Database) (recoveryHash : String) : Option Entitlement :=
  db.entitlements.items.find? fun entitlement => decide (entitlement.recoveryLookupHash = recoveryHash)

def getDevice (db : Database) (entitlementId deviceKeyHash : String) : Option Device :=
  db.devices.find? (entitlementId, deviceKeyHash)

/-- The devices of an entitlement that are not revoked. -/
def activeDevices (db : Database) (entitlementId : String) : Nat :=
  db.devices.items.countP fun device => decide (device.entitlementId = entitlementId) && device.revokedAt.isNone

inductive DeviceAdmission
  | admitted
  | limitReached
  | entitlementInactive
  deriving DecidableEq

/-- The condition of the insertion in `activateDevice`. -/
def admits (db : Database) (entitlementId deviceKeyHash : String) (limit : Nat) : Bool :=
  (db.getEntitlement entitlementId).any (fun entitlement => decide (entitlement.status = .active)) &&
    ((db.getDevice entitlementId deviceKeyHash).any (fun device => device.revokedAt.isNone) ||
      decide (db.activeDevices entitlementId < limit))

/-- `activateDevice`: the conditional upsert, and the classification of a denial. -/
def activateDevice (db : Database) (entitlementId deviceKeyHash devicePublicKey : String) (now limit : Nat) :
    Database × DeviceAdmission :=
  if db.admits entitlementId deviceKeyHash limit then
    ({ db with devices := db.devices.insert {
        entitlementId := entitlementId
        deviceKeyHash := deviceKeyHash
        devicePublicKey := devicePublicKey
        activatedAt :=
          match db.getDevice entitlementId deviceKeyHash with
          | some device => device.activatedAt
          | none => now
        lastRefreshedAt := now
        revokedAt := none } }, .admitted)
  else
    (db, if (db.getEntitlement entitlementId).any (fun entitlement => decide (entitlement.status = .active))
      then .limitReached else .entitlementInactive)

def touchDevice (db : Database) (entitlementId deviceKeyHash : String) (now : Nat) : Database :=
  { db with
    devices := db.devices.update
      (fun device => decide (device.entitlementId = entitlementId) &&
        decide (device.deviceKeyHash = deviceKeyHash) && device.revokedAt.isNone)
      (fun device => { device with lastRefreshedAt := now }) fun _ => rfl }

/-- A device that the operator revokes by hand. -/
def revokeDevice (db : Database) (entitlementId deviceKeyHash : String) (now : Nat) : Database :=
  { db with
    devices := db.devices.update
      (fun device => decide (device.entitlementId = entitlementId) &&
        decide (device.deviceKeyHash = deviceKeyHash))
      (fun device => { device with revokedAt := some now }) fun _ => rfl }

/-- `revokeEntitlementByCapture` and `revokeEntitlementByOrder`, by their condition. -/
def revokeEntitlement (db : Database) (selects : Entitlement -> Bool) (reason : String) (now : Nat) :
    Database × Bool :=
  ({ db with
      entitlements := db.entitlements.update
        (fun entitlement => selects entitlement && decide (entitlement.status = .active))
        (fun entitlement => { entitlement with
          status := .revoked
          revokedAt := some now
          revocationReason := some reason }) fun _ => rfl },
    decide (db.entitlements.changes (fun entitlement => selects entitlement &&
      decide (entitlement.status = .active)) = 1))

def revokeEntitlementByCapture (db : Database) (captureId reason : String) (now : Nat) : Database × Bool :=
  db.revokeEntitlement (fun entitlement => decide (entitlement.paypalCaptureId = captureId)) reason now

def revokeEntitlementByOrder (db : Database) (orderId reason : String) (now : Nat) : Database × Bool :=
  db.revokeEntitlement (fun entitlement => decide (entitlement.paypalOrderId = orderId)) reason now

/-! ## Challenges -/

/-- `createChallenge`, which fails on a used id or nonce hash, or without its
entitlement. -/
def createChallenge (db : Database) (challengeId entitlementId deviceKeyHash nonceHash : String) (now : Nat) :
    Except String Database :=
  if (db.challenges.find? challengeId).isSome ||
      db.challenges.items.any (fun challenge => decide (challenge.nonceHash = nonceHash)) then
    .error "UNIQUE constraint failed: activation_challenges"
  else if (db.entitlements.find? entitlementId).isNone then .error "FOREIGN KEY constraint failed"
  else .ok { db with challenges := db.challenges.insert {
    id := challengeId
    entitlementId := entitlementId
    deviceKeyHash := deviceKeyHash
    nonceHash := nonceHash
    createdAt := now
    expiresAt := now + 300
    consumedAt := none } }

/-- The condition of `consumeChallenge`. -/
def redeemable (challengeId entitlementId deviceKeyHash nonceHash : String) (now : Nat)
    (challenge : Challenge) : Bool :=
  decide (challenge.id = challengeId) && decide (challenge.entitlementId = entitlementId) &&
    decide (challenge.deviceKeyHash = deviceKeyHash) && decide (challenge.nonceHash = nonceHash) &&
    challenge.consumedAt.isNone && decide (now ≤ challenge.expiresAt)

def consumeChallenge (db : Database) (challengeId entitlementId deviceKeyHash nonceHash : String) (now : Nat) :
    Database × Bool :=
  ({ db with
      challenges := db.challenges.update
        (redeemable challengeId entitlementId deviceKeyHash nonceHash now)
        (fun challenge => { challenge with consumedAt := some now }) fun _ => rfl },
    decide (db.challenges.changes (redeemable challengeId entitlementId deviceKeyHash nonceHash now) = 1))

/-! ## Webhooks and the scheduled cleanup -/

def recordWebhook (db : Database) (eventId eventType : String) (now : Nat) : Database × Bool :=
  if (db.webhooks.find? eventId).isSome then (db, false)
  else
    ({ db with webhooks := db.webhooks.insert {
        id := eventId
        eventType := eventType
        receivedAt := now
        processedAt := none
        result := none } }, true)

def finishWebhook (db : Database) (eventId result : String) (now : Nat) : Database :=
  { db with
    webhooks := db.webhooks.update (fun row => decide (row.id = eventId))
      (fun row => { row with processedAt := some now, result := some result }) fun _ => rfl }

def discardWebhook (db : Database) (eventId : String) : Database :=
  { db with
    webhooks := db.webhooks.filterMap
      (fun row => if row.id = eventId ∧ row.processedAt = none then none else some row) (by
        intro row next kept
        split at kept
        · cases kept
        · cases kept
          rfl) }

/-- `cleanupExpiredRecords`. -/
def cleanupExpiredRecords (db : Database) (now : Nat) : Database :=
  let expired := db.claims.update
    (fun claim => decide (claim.status = .creating ∨ claim.status = .pending) && decide (claim.expiresAt < now))
    (fun claim => { claim with status := .expired, approvalUrl := none }) fun _ => rfl
  let released := expired.update
    (fun claim => decide (claim.status = .processing) &&
      claim.processingStartedAt.any fun time => decide (time + 300 < now))
    (fun claim => { claim with status := .pending, processingStartedAt := none }) fun _ => rfl
  { db with
    claims := released
    challenges := db.challenges.filterMap
      (fun challenge => if challenge.expiresAt + 86400 < now then none else some challenge) (by
        intro challenge next kept
        split at kept
        · cases kept
        · cases kept
          rfl) }

end Database
end Supporter
end TelegramDrive
