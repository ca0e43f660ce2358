namespace TelegramDrive
namespace Supporter

/-!
# What PayPal says

Orders and their validation, and the payments that a webhook event names.  The
texts of ids and states are compared as they are.
-/

structure PayPalCapture where
  id : String
  status : String
  currencyCode : String
  value : String
  merchantId : Option String
  deriving DecidableEq

/-- A unit of an order.  The last field says whether its payments have anything but
captures, or are malformed. -/
structure PurchaseUnit where
  customId : Option String
  merchantId : Option String
  currencyCode : Option String
  value : Option String
  captures : List PayPalCapture
  otherHistory : Bool
  deriving DecidableEq

structure OrderLink where
  rel : String
  href : String
  deriving DecidableEq

structure PayPalOrder where
  id : String
  status : String
  purchaseUnits : List PurchaseUnit
  links : List OrderLink
  deriving DecidableEq

/-- What the service is configured with of a payment. -/
structure PaymentTerms where
  merchantId : String
  currency : String
  price : String

/-- `validateCompletedOrder`. -/
def validateCompletedOrder (terms : PaymentTerms) (order : PayPalOrder) (expectedClaimId : String) :
    Except String PayPalCapture :=
  match order.purchaseUnits.head? with
  | none => .error "PAYMENT_NOT_COMPLETED"
  | some unit =>
    match unit.captures.find? fun candidate => decide (candidate.status = "COMPLETED") with
    | none => .error "PAYMENT_NOT_COMPLETED"
    | some capture =>
      if order.status ≠ "COMPLETED" then .error "PAYMENT_NOT_COMPLETED"
      else if unit.customId ≠ some expectedClaimId then .error "CLAIM_MISMATCH"
      else if capture.merchantId ≠ some terms.merchantId ∧ unit.merchantId ≠ some terms.merchantId then
        .error "MERCHANT_MISMATCH"
      else if capture.currencyCode ≠ terms.currency ∨ capture.value ≠ terms.price then
        .error "AMOUNT_MISMATCH"
      else .ok capture

/-- `matchesOriginalUnpaidOrder`, for a claim and the order that it has. -/
def matchesOriginalUnpaidOrder (terms : PaymentTerms) (claimId : String) (claimOrder : Option String)
    (order : PayPalOrder) : Bool :=
  decide (claimOrder = some order.id) &&
    match order.purchaseUnits with
    | [unit] =>
      unit.captures.isEmpty && !unit.otherHistory && decide (unit.customId = some claimId) &&
        decide (unit.merchantId = some terms.merchantId) &&
        decide (unit.currencyCode = some terms.currency) && decide (unit.value = some terms.price)
    | _ => false

/-- `verifiedUnpaidOrder`. -/
def verifiedUnpaidOrder (terms : PaymentTerms) (claimId : String) (claimOrder : Option String)
    (order : PayPalOrder) : Bool :=
  decide (order.status = "VOIDED") && matchesOriginalUnpaidOrder terms claimId claimOrder order

/-- `resumableApprovalUrl`, for a test of addresses. -/
def resumableApprovalUrl (terms : PaymentTerms) (safe : String -> Bool) (claimId : String)
    (claimOrder : Option String) (order : PayPalOrder) : Option String :=
  if decide (order.status ∈ ["CREATED", "APPROVED", "PAYER_ACTION_REQUIRED"]) &&
      matchesOriginalUnpaidOrder terms claimId claimOrder order then
    (order.links.find? fun link => decide (link.rel ∈ ["approve", "payer-action"]) && safe link.href).map OrderLink.href
  else none

/-! ## Webhook events -/

/-- The resource of an event, as far as it names payments.  A field is there only if
it is a text. -/
structure Resource where
  id : Option String
  status : Option String
  links : List (Option String)
  relatedCaptureId : Option String
  relatedOrderId : Option String
  sellerTransactionIds : List (Option String)
  outcomeCode : Option String
  deriving DecidableEq

structure PayPalEvent where
  id : String
  eventType : String
  resource : Option Resource
  deriving DecidableEq

/-- A letter or digit of ASCII, in either case. -/
def idCharacter (character : Char) : Bool := character.isAlphanum

/-- The rest behind a path, whose letters may be of either case. -/
def stripPath : List Char -> List Char -> Option (List Char)
  | [], rest => some rest
  | _ :: _, [] => none
  | expected :: path, character :: rest =>
    if character.toLower = expected then stripPath path rest else none

/-- One match of a path with an id behind it, which ends the text or a segment. -/
def matchHere (path text : List Char) : Option String :=
  (stripPath path text).bind fun rest =>
    let id := rest.takeWhile idCharacter
    let ends :=
      match rest.dropWhile idCharacter with
      | [] => true
      | next :: _ => decide (next = '/' ∨ next = '?' ∨ next = '#')
    if !id.isEmpty && ends then some (String.ofList id) else none

/-- The first match in a text. -/
def matchPath (path : List Char) : List Char -> Option String
  | [] => matchHere path []
  | character :: rest =>
    match matchHere path (character :: rest) with
    | some id => some id
    | none => matchPath path rest

def capturePath : List Char := "/v2/payments/captures/".toList

def orderPath : List Char := "/v2/checkout/orders/".toList

/-- `linkedPaymentId`: the first link that has a match. -/
def linkedPaymentId (resource : Resource) (path : List Char) : Option String :=
  resource.links.findSome? fun link => link.bind fun href => matchPath path href.toList

structure PaymentIds where
  captureId : Option String
  orderId : Option String
  deriving DecidableEq

/-- `relatedPaymentIds`. -/
def relatedPaymentIds (resource : Option Resource) : PaymentIds :=
  match resource with
  | none => ⟨none, none⟩
  | some resource =>
    let disputed := (resource.sellerTransactionIds.find? Option.isSome).join
    let fallback := if resource.status.isSome then resource.id else none
    ⟨resource.relatedCaptureId.or (disputed.or ((linkedPaymentId resource capturePath).or fallback)),
      resource.relatedOrderId.or (linkedPaymentId resource orderPath)⟩

/-- `disputeRevokesAccess`. -/
def disputeRevokesAccess (resource : Option Resource) : Bool :=
  match resource.bind Resource.outcomeCode with
  | none => false
  | some outcome =>
    decide (outcome ∈ ["RESOLVED_BUYER_FAVOUR", "RESOLVED_BUYER_FAVOR", "ACCEPTED"])

namespace PayPalEvent

/-- Whether the event takes a payment back. -/
def revokes (event : PayPalEvent) : Bool :=
  decide (event.eventType ∈ ["PAYMENT.CAPTURE.REFUNDED", "PAYMENT.CAPTURE.REVERSED"]) ||
    decide (event.eventType = "CUSTOMER.DISPUTE.RESOLVED") && disputeRevokesAccess event.resource

/-- The order whose checkout the event activates. -/
def activates (event : PayPalEvent) : Option String :=
  if event.eventType = "CHECKOUT.ORDER.APPROVED" then event.resource.bind Resource.id
  else if event.eventType = "PAYMENT.CAPTURE.COMPLETED" then (relatedPaymentIds event.resource).orderId
  else none

/-- The reason that a revocation keeps. -/
def reason (event : PayPalEvent) : String :=
  event.eventType.map fun character => if character = '.' then '_' else character.toLower

end PayPalEvent

example : matchPath capturePath "https://api-m.paypal.com/v2/payments/captures/7AB12/refund".toList = some "7AB12" := by
  decide +kernel

end Supporter
end TelegramDrive
