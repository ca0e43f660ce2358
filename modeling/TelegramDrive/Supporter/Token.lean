import Mathlib.Algebra.Group.Int.Defs
import Mathlib.Algebra.GroupWithZero.Nat
import TelegramDrive.Library.Base64

namespace TelegramDrive
namespace Supporter

/-!
# Entitlement tokens

The token is written by the service and read by the service and by the desktop, each
with checks of its own.  The signature scheme, the hash and the two JSON codecs are
parameters; what the code relies on of them is `Primitives.Lawful`.
-/

structure EntitlementHeader where
  alg : String
  typ : String
  kid : String
  deriving DecidableEq

structure EntitlementClaims where
  iss : String
  aud : String
  entitlementId : String
  deviceKeyHash : String
  termsVersion : String
  issuedAt : Int
  expiresAt : Int
  offlineUntil : Int
  deriving DecidableEq

/-- What tokens are made with.  The signing key and its public half belong together;
a reader of JSON fails on a text that lacks a field or has one of another kind. -/
structure Primitives where
  sign : List UInt8 -> List UInt8
  publicKey : List UInt8
  validKey : List UInt8 -> Bool
  verify : List UInt8 -> List UInt8 -> List UInt8 -> Bool
  sha256 : List UInt8 -> List UInt8
  writeHeader : EntitlementHeader -> List UInt8
  readHeader : List UInt8 -> Option EntitlementHeader
  writeClaims : EntitlementClaims -> List UInt8
  readClaims : List UInt8 -> Option EntitlementClaims

structure Primitives.Lawful (primitives : Primitives) : Prop where
  verifySign : forall message, primitives.verify primitives.publicKey message (primitives.sign message) = true
  signLength : forall message, (primitives.sign message).length = 64
  keyLength : primitives.publicKey.length = 32
  keyValid : primitives.validKey primitives.publicKey = true
  header : forall header, primitives.readHeader (primitives.writeHeader header) = some header
  claims : forall claims, primitives.readClaims (primitives.writeClaims claims) = some claims

def utf8 (text : String) : List UInt8 := text.toUTF8.toList

def encodeBase64Url (bytes : List UInt8) : String := String.ofList (Base64Url.encode bytes)

/-- `decodeBase64Url` of the service: not of an empty text, and lenient. -/
def decodeBase64Url (text : String) : Option (List UInt8) :=
  if text.toList.isEmpty then none else Base64Url.decode false text.toList

/-- `URL_SAFE_NO_PAD.decode` of the desktop. -/
def urlSafeNoPad (text : String) : Option (List UInt8) := Base64Url.decode true text.toList

namespace Primitives

/-- `sha256` of the service and `sha256_base64url` of the desktop. -/
def sha256Text (primitives : Primitives) (value : String) : String :=
  encodeBase64Url (primitives.sha256 (utf8 value))

end Primitives

def entitlementHeader : EntitlementHeader := ⟨"EdDSA", "TD-SUPPORTER", "v1"⟩

/-- `Number.isSafeInteger` and not negative. -/
def validUnixSecond (value : Int) : Bool := decide (0 ≤ value) && decide (value < 2 ^ 53)

/-- `validateEntitlementClaims`. -/
def validateEntitlementClaims (claims : EntitlementClaims) : Except String Unit :=
  if claims.iss ≠ "telegram-drive-supporter" ∨ claims.aud ≠ "telegram-drive-desktop" then
    .error "Invalid entitlement audience"
  else if claims.entitlementId = "" ∨ claims.termsVersion = "" ∨ claims.deviceKeyHash = "" then
    .error "Invalid entitlement claims"
  else if (decodeBase64Url claims.deviceKeyHash).map List.length ≠ some 32 then
    .error "Invalid entitlement device binding"
  else if !validUnixSecond claims.issuedAt || !validUnixSecond claims.expiresAt ||
      !validUnixSecond claims.offlineUntil || decide (claims.expiresAt < claims.issuedAt) ||
      decide (claims.offlineUntil < claims.expiresAt) then
    .error "Invalid entitlement validity period"
  else .ok ()

/-- `issueEntitlementToken`. -/
def issueEntitlementToken (primitives : Primitives) (claims : EntitlementClaims) : Except String String :=
  match validateEntitlementClaims claims with
  | .error error => .error error
  | .ok () =>
    let header := encodeBase64Url (primitives.writeHeader entitlementHeader)
    let payload := encodeBase64Url (primitives.writeClaims claims)
    let signingInput := header ++ "." ++ payload
    .ok (signingInput ++ "." ++ encodeBase64Url (primitives.sign (utf8 signingInput)))

/-- The parts of a text between its dots. -/
def splitDots (text : String) : List String := (text.toList.splitOn '.').map String.ofList

/-- `verifyEntitlementToken`. -/
def verifyEntitlementToken (primitives : Primitives) (token : String) : Except String EntitlementClaims :=
  match splitDots token with
  | [header, payload, signature] =>
    if header = "" ∨ payload = "" ∨ signature = "" then .error "Malformed entitlement token"
    else
      match decodeBase64Url signature, decodeBase64Url header, decodeBase64Url payload with
      | some signature, some headerBytes, some payloadBytes =>
        if !primitives.verify primitives.publicKey (utf8 (header ++ "." ++ payload)) signature then
          .error "Invalid entitlement signature"
        else if primitives.readHeader headerBytes ≠ some entitlementHeader then
          .error "Invalid entitlement header"
        else
          match primitives.readClaims payloadBytes with
          | none => .error "Invalid entitlement claims"
          | some claims =>
            match validateEntitlementClaims claims with
            | .error error => .error error
            | .ok () => .ok claims
      | _, _, _ => .error "Invalid base64url value"
  | _ => .error "Malformed entitlement token"

/-- `parse_and_verify_token_with_key`. -/
def parseAndVerifyTokenWithKey (primitives : Primitives) (token expectedDevicePublicKey configuredKey : String) :
    Except String EntitlementClaims :=
  match splitDots token with
  | [header, payload, encodedSignature] =>
    match urlSafeNoPad configuredKey, urlSafeNoPad encodedSignature with
    | none, _ => .error "Configured supporter public key is invalid"
    | some key, encoded =>
      if key.length ≠ 32 then .error "Configured supporter public key has the wrong length"
      else
        match encoded with
        | none => .error "Supporter token signature is invalid"
        | some signature =>
          if signature.length ≠ 64 then .error "Supporter token signature has the wrong length"
          else if !primitives.validKey key then .error "Configured supporter public key is invalid"
          else if !primitives.verify key (utf8 (header ++ "." ++ payload)) signature then
            .error "Supporter token signature could not be verified"
          else
            match (urlSafeNoPad header).bind primitives.readHeader with
            | none => .error "Supporter token header is invalid"
            | some entitlementHeader =>
              if entitlementHeader.alg ≠ "EdDSA" ∨ entitlementHeader.typ ≠ "TD-SUPPORTER" ∨
                  entitlementHeader.kid ≠ "v1" then .error "Supporter token header is not supported"
              else
                match urlSafeNoPad payload with
                | none => .error "Supporter token payload is invalid"
                | some payload =>
                  match primitives.readClaims payload with
                  | none => .error "Supporter token claims are invalid"
                  | some claims =>
                    if claims.iss ≠ "telegram-drive-supporter" ∨
                        claims.aud ≠ "telegram-drive-desktop" then
                      .error "Supporter token was issued for a different application"
                    else if claims.deviceKeyHash ≠
                        primitives.sha256Text expectedDevicePublicKey then
                      .error "Supporter token belongs to a different device"
                    else if claims.entitlementId = "" ∨ claims.termsVersion = "" ∨
                        claims.issuedAt < 0 ∨ claims.expiresAt < claims.issuedAt ∨
                        claims.offlineUntil < claims.expiresAt then
                      .error "Supporter token validity claims are invalid"
                    else .ok claims
  | _ => .error "Supporter token is malformed"

inductive EntitlementAccess
  | active
  | offlineGrace
  | expired
  deriving DecidableEq

/-- `entitlement_access_at`. -/
def entitlementAccessAt (claims : EntitlementClaims) (now : Int) : EntitlementAccess :=
  if now ≤ claims.expiresAt then .active
  else if now ≤ claims.offlineUntil then .offlineGrace
  else .expired

/-! ## What is issued is accepted -/

section tokens

variable {primitives : Primitives}

/-- The parts of a token are the texts that it was put together from. -/
theorem splitDots_token (header payload signature : List UInt8) :
    splitDots (encodeBase64Url header ++ "." ++ encodeBase64Url payload ++ "." ++ encodeBase64Url signature) =
      [encodeBase64Url header, encodeBase64Url payload, encodeBase64Url signature] := by
  have parts : (encodeBase64Url header ++ "." ++ encodeBase64Url payload ++ "." ++ encodeBase64Url signature).toList =
      ['.'].intercalate [Base64Url.encode header, Base64Url.encode payload, Base64Url.encode signature] := by
    simp [encodeBase64Url, String.toList_append, List.intercalate]
  unfold splitDots
  rw [parts, List.splitOn_intercalate]
  · rfl
  · intro part member
    simp only [List.mem_cons, List.not_mem_nil, or_false] at member
    rcases member with rfl | rfl | rfl
    · exact Base64Url.dot_notMem_encode header
    · exact Base64Url.dot_notMem_encode payload
    · exact Base64Url.dot_notMem_encode signature
  · exact List.cons_ne_nil _ _

theorem urlSafeNoPad_encode (bytes : List UInt8) : urlSafeNoPad (encodeBase64Url bytes) = some bytes := by
  unfold urlSafeNoPad encodeBase64Url
  rw [String.toList_ofList]
  exact Base64Url.decode_encode true bytes

variable {claims : EntitlementClaims}

/-- The claims of an issued token are valid, and the token is put together from them. -/
theorem issue_cases {token : String} (issued : issueEntitlementToken primitives claims = .ok token) :
    validateEntitlementClaims claims = .ok () ∧
      token = encodeBase64Url (primitives.writeHeader entitlementHeader) ++ "." ++
        encodeBase64Url (primitives.writeClaims claims) ++ "." ++
        encodeBase64Url (primitives.sign (utf8 (encodeBase64Url (primitives.writeHeader entitlementHeader) ++ "." ++
          encodeBase64Url (primitives.writeClaims claims)))) := by
  unfold issueEntitlementToken at issued
  split at issued
  · cases issued
  next valid =>
    cases issued
    exact ⟨valid, rfl⟩

theorem valid_claims (valid : validateEntitlementClaims claims = .ok ()) :
    claims.iss = "telegram-drive-supporter" ∧ claims.aud = "telegram-drive-desktop" ∧ claims.entitlementId ≠ "" ∧
      claims.termsVersion ≠ "" ∧ 0 ≤ claims.issuedAt ∧ claims.issuedAt ≤ claims.expiresAt ∧
      claims.expiresAt ≤ claims.offlineUntil := by
  unfold validateEntitlementClaims at valid
  split at valid
  · cases valid
  next audience =>
    split at valid
    · cases valid
    next named =>
      split at valid
      · cases valid
      · split at valid
        · cases valid
        next period =>
          simp only [not_or, Decidable.not_not] at audience named
          simp only [validUnixSecond, Bool.or_eq_true, Bool.not_eq_true', Bool.and_eq_false_iff,
            decide_eq_false_iff_not, decide_eq_true_eq, not_or, Decidable.not_not] at period
          refine ⟨audience.1, audience.2, named.1, named.2.1, ?_, ?_, ?_⟩
          all_goals omega

/-- The desktop accepts an issued token for the key that it names. -/
theorem issued_accepted (lawful : primitives.Lawful) {token key : String}
    (issued : issueEntitlementToken primitives claims = .ok token)
    (its : claims.deviceKeyHash = primitives.sha256Text key) :
    parseAndVerifyTokenWithKey primitives token key (encodeBase64Url primitives.publicKey) = .ok claims := by
  rcases issue_cases issued with ⟨valid, rfl⟩
  rcases valid_claims valid with ⟨issuer, audience, named, terms, start, expires, offline⟩
  unfold parseAndVerifyTokenWithKey
  rw [splitDots_token]
  simp only [urlSafeNoPad_encode, lawful.keyLength, lawful.signLength, lawful.keyValid, lawful.verifySign,
    Option.bind_some, lawful.header, lawful.claims]
  have validity : ¬(claims.entitlementId = "" ∨ claims.termsVersion = "" ∨ claims.issuedAt < 0 ∨
      claims.expiresAt < claims.issuedAt ∨ claims.offlineUntil < claims.expiresAt) := by
    simp only [named, terms, false_or]
    omega
  simp [entitlementHeader, issuer, audience, its, validity]

/-- It rejects the token for a key with another hash. -/
theorem issued_rejected (lawful : primitives.Lawful) {token key : String}
    (issued : issueEntitlementToken primitives claims = .ok token)
    (apart : claims.deviceKeyHash ≠ primitives.sha256Text key) :
    parseAndVerifyTokenWithKey primitives token key (encodeBase64Url primitives.publicKey) =
      .error "Supporter token belongs to a different device" := by
  rcases issue_cases issued with ⟨valid, rfl⟩
  rcases valid_claims valid with ⟨issuer, audience, -⟩
  unfold parseAndVerifyTokenWithKey
  rw [splitDots_token]
  simp only [urlSafeNoPad_encode, lawful.keyLength, lawful.signLength, lawful.keyValid, lawful.verifySign,
    Option.bind_some, lawful.header, lawful.claims]
  simp [entitlementHeader, issuer, audience, apart]

/-- Keys whose hashes differ have different texts of them. -/
theorem sha256Text_ne {one two : String} (apart : primitives.sha256 (utf8 one) ≠ primitives.sha256 (utf8 two)) :
    primitives.sha256Text one ≠ primitives.sha256Text two := by
  intro same
  apply apart
  apply Base64Url.encode_injective
  have texts := congrArg String.toList same
  simpa only [Primitives.sha256Text, encodeBase64Url, String.toList_ofList] using texts

/-- Access lasts until the offline limit, and no longer. -/
theorem access_until (valid : validateEntitlementClaims claims = .ok ()) (now : Int) :
    entitlementAccessAt claims now ≠ .expired ↔ now ≤ claims.offlineUntil := by
  have order := (valid_claims valid).2.2.2.2.2.2
  unfold entitlementAccessAt
  by_cases active : now ≤ claims.expiresAt
  · rw [if_pos active]
    simp only [ne_eq, reduceCtorEq, not_false_eq_true, true_iff]
    omega
  · rw [if_neg active]
    by_cases offline : now ≤ claims.offlineUntil
    · simp [offline]
    · simp [offline]

end tokens

end Supporter
end TelegramDrive
