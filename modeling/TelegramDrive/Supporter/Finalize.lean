import TelegramDrive.Supporter.Rows
import TelegramDrive.Supporter.PayPal
import TelegramDrive.Supporter.Token

namespace TelegramDrive
namespace Supporter

/-!
# What requests have in common

The configuration of the service, `finalizePaidOrder` and `issueActiveToken`.  A
request runs from one await to the next; each call of the database is one step,
which may fail without an effect, or take effect and fail all the same.
-/

/-- The configuration of the service, and what it uses of its platform.  PayPal says
which order a capture belongs to, and an event id names one event. -/
structure Service where
  primitives : Primitives
  terms : PaymentTerms
  termsVersion : String
  maxActiveDevices : Nat
  entitlementTtlDays : Nat
  offlineGraceDays : Nat
  toUpperCase : String -> String
  safeApprovalUrl : String -> Bool
  recoveryLookupHash : String -> String
  encryptRecoveryCode : String -> String -> String
  decryptRecoveryCode : String -> String -> Option String
  captureOrder : String -> String
  event : String -> PayPalEvent

/-- What the code relies on of its platform. -/
structure Service.Lawful (service : Service) : Prop where
  decrypt : forall code nonce, service.decryptRecoveryCode (service.encryptRecoveryCode code nonce) nonce = some code
  event : forall id, (service.event id).id = id

/-- How a call of the database ends. -/
inductive Fault
  | none
  | rejected
  | lost
  deriving DecidableEq

def databaseError : String := "D1_ERROR"

/-- A call of the database: what it leaves behind, and where the run goes on. -/
def attempt {Run : Type} (fault : Fault) (db : Database) (result : Except String Database)
    (failed : String -> Run) (done : Run) : Database × Run :=
  match fault, result with
  | .rejected, _ => (db, failed databaseError)
  | _, .error error => (db, failed error)
  | .none, .ok next => (next, done)
  | .lost, .ok next => (next, failed databaseError)

/-- What a run draws: ids and nonces, and the bytes of a recovery code. -/
structure Draw where
  id : String
  nonce : String
  bytes : List Nat
  deriving DecidableEq

/-! ## Recovery codes -/

def codeCharacters : List Char := "ABCDEFGHJKLMNPQRSTUVWXYZ23456789".toList

/-- Characters in groups of five, with a dash between them. -/
def dashed : List Char -> List Char
  | one :: two :: three :: four :: five :: next :: rest =>
    one :: two :: three :: four :: five :: '-' :: dashed (next :: rest)
  | characters => characters

/-- `recoveryCode`, of the random bytes. -/
def recoveryCode (bytes : List Nat) : String :=
  String.ofList (dashed (bytes.map fun byte => codeCharacters.getD (byte % codeCharacters.length) 'A'))

/-- `normalizedRecoveryCode`. -/
def normalizedRecoveryCode (service : Service) (value : String) : String :=
  String.ofList ((service.toUpperCase value).toList.filter fun character =>
    decide ('A' ≤ character ∧ character ≤ 'Z' ∨ '2' ≤ character ∧ character ≤ '9'))

/-! ## `finalizePaidOrder` -/

/-- Where a run of `finalizePaidOrder` waits. -/
inductive Finalize
  | reading (claim : CheckoutClaim) (order : PayPalOrder)
  | beginning (claimId : String) (capture : PayPalCapture) (startedAt : Nat)
  | losing (claimId : String)
  | loading (claimId : String) (capture : PayPalCapture)
  | checking (details : Database.Completion)
  | committing (details : Database.Completion)
  | confirming (claimId : String)
  | releasing (claimId error : String)
  | returned (claim : CheckoutClaim)
  | threw (error : String)
  deriving DecidableEq

/-- The arguments of `completeCheckout`. -/
def completion (service : Service) (claim : CheckoutClaim) (capture : PayPalCapture) (draw : Draw) (now : Nat) :
    Database.Completion where
  claim := claim
  orderId := claim.paypalOrderId.getD ""
  entitlementId := draw.id
  captureId := capture.id
  amount := capture.value
  currency := capture.currencyCode
  recoveryLookupHash :=
    service.recoveryLookupHash (normalizedRecoveryCode service (recoveryCode draw.bytes))
  recoveryCiphertext := service.encryptRecoveryCode (recoveryCode draw.bytes) draw.nonce
  recoveryNonce := draw.nonce
  completedAt := now

/-- Whether a row that was read is completed. -/
def isCompleted (claim : Option CheckoutClaim) : Bool :=
  claim.any fun claim => decide (claim.status = .completed)

namespace Finalize

/-- The first part, which only reads. -/
def read (service : Service) (db : Database) (now : Nat) (claim : CheckoutClaim) (order : PayPalOrder) : Finalize :=
  match db.getCheckoutClaim claim.id with
  | some current =>
    if current.status = .completed then .returned current else validate
  | none => validate
where
  validate : Finalize :=
    if claim.paypalOrderId.getD "" = "" ∨ claim.paypalOrderId ≠ some order.id then .threw "ORDER_MISMATCH"
    else
      match validateCompletedOrder service.terms order claim.id with
      | .error error => .threw error
      | .ok capture => .beginning claim.id capture now

/-- One step. -/
def step (service : Service) (db : Database) (now : Nat) (draw : Draw) (fault : Fault) :
    Finalize -> Option (Database × Finalize)
  | .reading claim order =>
    some (db, if fault = .none then read service db now claim order else .threw databaseError)
  | .beginning claimId capture startedAt =>
    let (next, begun) := db.beginCheckoutCompletion claimId startedAt true
    some (attempt fault db (.ok next) .threw (if begun then .loading claimId capture else .losing claimId))
  | .losing claimId =>
    some (db,
      if fault = .none then
        match db.getCheckoutClaim claimId with
        | some latest =>
          if latest.status = .completed then .returned latest
          else .threw "CHECKOUT_FINALIZATION_IN_PROGRESS"
        | none => .threw "CHECKOUT_FINALIZATION_IN_PROGRESS"
      else .threw databaseError)
  | .loading claimId capture =>
    some (db,
      if fault = .none then
        match db.getCheckoutClaim claimId with
        | some claim => .checking (completion service claim capture draw now)
        | none => .releasing claimId "CHECKOUT_NOT_FOUND"
      else .releasing claimId databaseError)
  | .checking details =>
    some (db,
      if fault = .none then
        if isCompleted (db.getCheckoutClaim details.claim.id) then .confirming details.claim.id
        else if details.orderId = "" then .releasing details.claim.id "Checkout order is missing"
        else .committing details
      else .releasing details.claim.id databaseError)
  | .committing details =>
    -- A drawn id is not one that is in use.
    if (db.getEntitlement details.entitlementId).isSome then none
    else
      some (attempt fault db (db.completeCheckout details) (.releasing details.claim.id)
        (.confirming details.claim.id))
  | .confirming claimId =>
    some (db,
      if fault = .none then
        match db.getCheckoutClaim claimId with
        | some completed =>
          if completed.status = .completed then .returned completed
          else .releasing claimId "CHECKOUT_FINALIZATION_FAILED"
        | none => .releasing claimId "CHECKOUT_FINALIZATION_FAILED"
      else .releasing claimId databaseError)
  | .releasing claimId error =>
    some (attempt fault db (.ok (db.releaseCheckoutCompletion claimId)) .threw (.threw error))
  | .returned _ => none
  | .threw _ => none

end Finalize

/-! ## `issueActiveToken` -/

/-- Where a run of `issueActiveToken` waits, with the rows that it has read. -/
inductive Issue
  | entitlement (entitlementId deviceKeyHash : String)
  | device (entitlement : Option Entitlement) (entitlementId deviceKeyHash : String)
  | issued (entitlement : Entitlement) (device : Device) (claims : EntitlementClaims) (token : String)
  | threw (error : String)
  deriving DecidableEq

/-- `entitlementClaims`. -/
def entitlementClaims (service : Service) (now : Nat) (entitlementId deviceKeyHash termsVersion : String) :
    EntitlementClaims where
  iss := "telegram-drive-supporter"
  aud := "telegram-drive-desktop"
  entitlementId := entitlementId
  deviceKeyHash := deviceKeyHash
  termsVersion := termsVersion
  issuedAt := now
  expiresAt := now + service.entitlementTtlDays * 86400
  offlineUntil := now + service.entitlementTtlDays * 86400 + service.offlineGraceDays * 86400

namespace Issue

def step (service : Service) (db : Database) (now : Nat) (fault : Fault) : Issue -> Option Issue
  | .entitlement entitlementId deviceKeyHash =>
    some (if fault = .none then .device (db.getEntitlement entitlementId) entitlementId deviceKeyHash
      else .threw databaseError)
  | .device found entitlementId deviceKeyHash =>
    some (
      if fault = .none then
        match found, db.getDevice entitlementId deviceKeyHash with
        | some paid, some registered =>
          if paid.status = .active ∧ registered.revokedAt = none then
            let claims := entitlementClaims service now paid.id deviceKeyHash paid.termsVersion
            match issueEntitlementToken service.primitives claims with
            | .ok token => .issued paid registered claims token
            | .error error => .threw error
          else .threw "ENTITLEMENT_NOT_ACTIVE"
        | _, _ => .threw "ENTITLEMENT_NOT_ACTIVE"
      else .threw databaseError)
  | .issued _ _ _ _ => none
  | .threw _ => none

end Issue

end Supporter
end TelegramDrive
