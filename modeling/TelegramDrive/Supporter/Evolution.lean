import TelegramDrive.Supporter.Statements

namespace TelegramDrive
namespace Supporter

/-!
# How the rows change

All but three statements change the rows one by one, and none of what identifies
them.  The three are the insertion of a claim, the statement that gives a claim its
order, and the batch that completes a checkout.
-/

variable {db middle next : Database}

/-! ## Rows -/

/-- What most statements may do to a claim. -/
structure Moves (before after : CheckoutClaim) : Prop where
  id : after.id = before.id
  secret : after.claimSecretHash = before.claimSecretHash
  publicKey : after.devicePublicKey = before.devicePublicKey
  keyHash : after.deviceKeyHash = before.deviceKeyHash
  terms : after.termsVersion = before.termsVersion
  order : after.paypalOrderId = before.paypalOrderId
  completed : after.status = .completed ↔ before.status = .completed
  creating : after.status = .creating -> before.status = .creating
  processing : after.status = .processing ->
    after.processingStartedAt.isSome = true ∨
      (before.status = .processing ∧ after.processingStartedAt = before.processingStartedAt)
  entitlement : after.entitlementId = before.entitlementId
  recovery : after.recoveryDeliveredAt.isSome = true ∨
    (after.recoveryDeliveredAt = before.recoveryDeliveredAt ∧
      after.recoveryCiphertext = before.recoveryCiphertext ∧ after.recoveryNonce = before.recoveryNonce)

theorem Moves.refl (claim : CheckoutClaim) : Moves claim claim where
  id := rfl
  secret := rfl
  publicKey := rfl
  keyHash := rfl
  terms := rfl
  order := rfl
  completed := Iff.rfl
  creating same := same
  processing same := Or.inr ⟨same, rfl⟩
  entitlement := rfl
  recovery := Or.inr ⟨rfl, rfl, rfl⟩

theorem Moves.trans {one two three : CheckoutClaim} (first : Moves one two) (second : Moves two three) :
    Moves one three where
  id := second.id.trans first.id
  secret := second.secret.trans first.secret
  publicKey := second.publicKey.trans first.publicKey
  keyHash := second.keyHash.trans first.keyHash
  terms := second.terms.trans first.terms
  order := second.order.trans first.order
  completed := second.completed.trans first.completed
  creating same := first.creating (second.creating same)
  processing same := by
    rcases second.processing same with started | ⟨before, kept⟩
    · exact Or.inl started
    · rcases first.processing before with started | ⟨earlier, same⟩
      · exact Or.inl (kept ▸ started)
      · exact Or.inr ⟨earlier, kept.trans same⟩
  entitlement := second.entitlement.trans first.entitlement
  recovery := by
    rcases second.recovery with delivered | ⟨delivered, ciphertext, nonce⟩
    · exact Or.inl delivered
    · rcases first.recovery with earlier | ⟨one, two, three⟩
      · exact Or.inl (delivered ▸ earlier)
      · exact Or.inr ⟨delivered.trans one, ciphertext.trans two, nonce.trans three⟩

/-- What any statement may do to an entitlement that is there. -/
structure Keeps (before after : Entitlement) : Prop where
  id : after.id = before.id
  order : after.paypalOrderId = before.paypalOrderId
  capture : after.paypalCaptureId = before.paypalCaptureId
  hash : after.recoveryLookupHash = before.recoveryLookupHash
  terms : after.termsVersion = before.termsVersion
  revoked : before.status = .revoked -> after.status = .revoked

theorem Keeps.refl (entitlement : Entitlement) : Keeps entitlement entitlement :=
  ⟨rfl, rfl, rfl, rfl, rfl, fun gone => gone⟩

theorem Keeps.trans {one two three : Entitlement} (first : Keeps one two) (second : Keeps two three) :
    Keeps one three where
  id := second.id.trans first.id
  order := second.order.trans first.order
  capture := second.capture.trans first.capture
  hash := second.hash.trans first.hash
  terms := second.terms.trans first.terms
  revoked gone := second.revoked (first.revoked gone)

/-! ## Databases -/

/-- The rows of two databases correspond. -/
structure Steady (db next : Database) : Prop where
  claims : forall after, after ∈ next.claims.items -> Exists fun before => before ∈ db.claims.items ∧ Moves before after
  keptClaims : forall before, before ∈ db.claims.items -> Exists fun after => after ∈ next.claims.items ∧ Moves before after
  entitlements : forall after, after ∈ next.entitlements.items -> Exists fun before =>
    before ∈ db.entitlements.items ∧ Keeps before after
  keptEntitlements : forall before, before ∈ db.entitlements.items -> Exists fun after =>
    after ∈ next.entitlements.items ∧ Keeps before after
  devices : forall key, (db.devices.find? key).isSome = true -> (next.devices.find? key).isSome = true

theorem Steady.refl (db : Database) : Steady db db where
  claims claim member := ⟨claim, member, .refl claim⟩
  keptClaims claim member := ⟨claim, member, .refl claim⟩
  entitlements entitlement member := ⟨entitlement, member, .refl entitlement⟩
  keptEntitlements entitlement member := ⟨entitlement, member, .refl entitlement⟩
  devices _ there := there

theorem steady_of_same (claims : next.claims = db.claims) (entitlements : next.entitlements = db.entitlements)
    (devices : forall key, (db.devices.find? key).isSome = true -> (next.devices.find? key).isSome = true) :
    Steady db next where
  claims claim member := ⟨claim, claims ▸ member, .refl claim⟩
  keptClaims claim member := ⟨claim, claims ▸ member, .refl claim⟩
  entitlements entitlement member := ⟨entitlement, entitlements ▸ member, .refl entitlement⟩
  keptEntitlements entitlement member := ⟨entitlement, entitlements ▸ member, .refl entitlement⟩
  devices := devices

theorem steady_of_update {selects : CheckoutClaim -> Bool} {change : CheckoutClaim -> CheckoutClaim}
    (moves : forall claim, selects claim = true -> Moves claim (change claim))
    (claims : next.claims.items =
      db.claims.items.filterMap fun claim => some (if selects claim then change claim else claim))
    (entitlements : next.entitlements = db.entitlements) (devices : next.devices = db.devices) :
    Steady db next where
  claims after member := by
    rw [claims] at member
    rcases List.mem_filterMap.mp member with ⟨before, inside, same⟩
    cases same
    refine ⟨before, inside, ?_⟩
    split
    next selected => exact moves before selected
    · exact .refl before
  keptClaims before member := by
    refine ⟨if selects before then change before else before, ?_, ?_⟩
    · rw [claims]
      exact List.mem_filterMap.mpr ⟨before, member, rfl⟩
    · split
      next selected => exact moves before selected
      · exact .refl before
  entitlements entitlement member := ⟨entitlement, entitlements ▸ member, .refl entitlement⟩
  keptEntitlements entitlement member := ⟨entitlement, entitlements ▸ member, .refl entitlement⟩
  devices key there := devices ▸ there

/-- A change of a claim that is not completed, and stays so. -/
theorem moves_of_open {claim after : CheckoutClaim} (before : claim.status ≠ .completed)
    (later : after.status ≠ .completed) (begun : after.status ≠ .creating)
    (started : after.status = .processing -> after.processingStartedAt.isSome = true)
    (same : (after.id, after.claimSecretHash, after.devicePublicKey, after.deviceKeyHash, after.termsVersion,
        after.paypalOrderId, after.entitlementId) =
      (claim.id, claim.claimSecretHash, claim.devicePublicKey, claim.deviceKeyHash, claim.termsVersion,
        claim.paypalOrderId, claim.entitlementId))
    (recovery : (after.recoveryDeliveredAt, after.recoveryCiphertext, after.recoveryNonce) =
      (claim.recoveryDeliveredAt, claim.recoveryCiphertext, claim.recoveryNonce)) : Moves claim after := by
  simp only [Prod.mk.injEq] at same recovery
  rcases same with ⟨id, secret, publicKey, keyHash, terms, order, entitlement⟩
  exact {
    id := id
    secret := secret
    publicKey := publicKey
    keyHash := keyHash
    terms := terms
    order := order
    completed := ⟨fun done => absurd done later, fun done => absurd done before⟩
    creating := fun same => absurd same begun
    processing := fun same => Or.inl (started same)
    entitlement := entitlement
    recovery := Or.inr recovery }

/-! ## The statements -/

theorem Steady.trans (first : Steady db middle) (second : Steady middle next) : Steady db next where
  claims after member := by
    rcases second.claims after member with ⟨between, inside, later⟩
    rcases first.claims between inside with ⟨before, member, earlier⟩
    exact ⟨before, member, earlier.trans later⟩
  keptClaims before member := by
    rcases first.keptClaims before member with ⟨between, inside, earlier⟩
    rcases second.keptClaims between inside with ⟨after, member, later⟩
    exact ⟨after, member, earlier.trans later⟩
  entitlements after member := by
    rcases second.entitlements after member with ⟨between, inside, later⟩
    rcases first.entitlements between inside with ⟨before, member, earlier⟩
    exact ⟨before, member, earlier.trans later⟩
  keptEntitlements before member := by
    rcases first.keptEntitlements before member with ⟨between, inside, earlier⟩
    rcases second.keptEntitlements between inside with ⟨after, member, later⟩
    exact ⟨after, member, earlier.trans later⟩
  devices key there := second.devices key (first.devices key there)

theorem markFailed_steady (claimId errorCode : String) : Steady db (db.markCheckoutFailed claimId errorCode) := by
  refine steady_of_update ?_ rfl rfl rfl
  intro claim selected
  have isOpen : claim.status = .creating ∨ claim.status = .pending :=
    of_decide_eq_true (Bool.and_eq_true_iff.mp selected).2
  refine moves_of_open ?_ nofun nofun nofun rfl rfl
  rcases isOpen with status | status <;> rw [status] <;> decide

theorem cancel_steady (claimId : String) : Steady db (db.markCheckoutCancelled claimId) := by
  refine steady_of_update ?_ rfl rfl rfl
  intro claim selected
  have isOpen : claim.status = .creating ∨ claim.status = .pending :=
    of_decide_eq_true (Bool.and_eq_true_iff.mp selected).2
  refine moves_of_open ?_ nofun nofun nofun rfl rfl
  rcases isOpen with status | status <;> rw [status] <;> decide

theorem mayComplete_open {claim : CheckoutClaim} {now : Nat} {verified : Bool}
    (may : Database.mayComplete now verified claim = true) : claim.status ≠ .completed := by
  intro done
  simp [Database.mayComplete, done] at may

theorem begin_steady (claimId : String) (startedAt : Nat) :
    Steady db (db.beginCheckoutCompletion claimId startedAt true).1 := by
  refine steady_of_update ?_ rfl rfl rfl
  intro claim selected
  exact moves_of_open (mayComplete_open (Bool.and_eq_true_iff.mp selected).2) nofun nofun (fun _ => rfl) rfl rfl

theorem release_steady (claimId : String) : Steady db (db.releaseCheckoutCompletion claimId) := by
  refine steady_of_update ?_ rfl rfl rfl
  intro claim selected
  have status : claim.status = .processing := of_decide_eq_true (Bool.and_eq_true_iff.mp selected).2
  refine moves_of_open ?_ nofun nofun nofun rfl rfl
  rw [status]
  decide

theorem acknowledge_steady (claimId : String) (time : Nat) :
    Steady db (db.acknowledgeCheckoutReceipt claimId time) := by
  refine steady_of_update ?_ rfl rfl rfl
  intro claim _
  exact {
    id := rfl
    secret := rfl
    publicKey := rfl
    keyHash := rfl
    terms := rfl
    order := rfl
    completed := Iff.rfl
    creating := id
    processing := fun same => Or.inr ⟨same, rfl⟩
    entitlement := rfl
    recovery := Or.inl (by simp) }

theorem cleanup_steady (now : Nat) : Steady db (db.cleanupExpiredRecords now) := by
  let expired : Database := { db with
    claims := db.claims.update
      (fun claim => decide (claim.status = .creating ∨ claim.status = .pending) && decide (claim.expiresAt < now))
      (fun claim => { claim with status := .expired, approvalUrl := none }) fun _ => rfl }
  have first : Steady db expired := by
    refine steady_of_update ?_ rfl rfl rfl
    intro claim selected
    have isOpen : claim.status = .creating ∨ claim.status = .pending :=
      of_decide_eq_true (Bool.and_eq_true_iff.mp selected).1
    refine moves_of_open ?_ nofun nofun nofun rfl rfl
    rcases isOpen with status | status <;> rw [status] <;> decide
  have second : Steady expired (db.cleanupExpiredRecords now) := by
    refine steady_of_update ?_ rfl rfl rfl
    intro claim selected
    have status : claim.status = .processing := of_decide_eq_true (Bool.and_eq_true_iff.mp selected).1
    refine moves_of_open ?_ nofun nofun nofun rfl rfl
    rw [status]
    decide
  exact first.trans second

theorem revoke_steady (selects : Entitlement -> Bool) (reason : String) (now : Nat) :
    Steady db (db.revokeEntitlement selects reason now).1 where
  claims claim member := ⟨claim, member, .refl claim⟩
  keptClaims claim member := ⟨claim, member, .refl claim⟩
  entitlements after member := by
    rcases List.mem_filterMap.mp member with ⟨before, inside, same⟩
    cases same
    refine ⟨before, inside, ?_⟩
    split
    · exact ⟨rfl, rfl, rfl, rfl, rfl, fun _ => rfl⟩
    · exact .refl before
  keptEntitlements before member := by
    refine ⟨_, List.mem_filterMap.mpr ⟨before, member, rfl⟩, ?_⟩
    split
    · exact ⟨rfl, rfl, rfl, rfl, rfl, fun _ => rfl⟩
    · exact .refl before
  devices _ there := there

/-! ## All statements but three -/

/-- Whether a statement changes the rows one by one. -/
def Statement.plain : Statement -> Bool
  | .insertClaim _ _ _ _ _ _ _ => false
  | .markPending _ _ _ => false
  | .complete _ => false
  | _ => true

theorem devices_insert {device : Device} {key : String × String}
    (there : (db.devices.find? key).isSome = true) : ((db.devices.insert device).find? key).isSome = true := by
  rw [Table.find?_insert]
  split
  · rfl
  · exact there

theorem devices_update {selects : Device -> Bool} {change : Device -> Device}
    (keeps : forall device, (change device).key = device.key) {key : String × String}
    (there : (db.devices.find? key).isSome = true) :
    ((db.devices.update selects change keeps).find? key).isSome = true := by
  rw [Table.find?_update, Option.isSome_map]
  exact there

theorem Statement.steady (statement : Statement) (plain : statement.plain = true) :
    Steady db (statement.apply db) := by
  cases statement with
  | insertClaim id secretHash publicKey keyHash termsVersion createdAt expiresAt
  | markPending claimId orderId approvalUrl | complete details => cases plain
  | markFailed claimId errorCode => exact markFailed_steady claimId errorCode
  | cancel claimId => exact cancel_steady claimId
  | begin claimId startedAt => exact begin_steady claimId startedAt
  | release claimId => exact release_steady claimId
  | acknowledge claimId time => exact acknowledge_steady claimId time
  | cleanup now => exact cleanup_steady now
  | revoke event now =>
    simp only [Statement.apply, Webhook.revoke]
    split
    · exact revoke_steady _ _ _
    · exact revoke_steady _ _ _
    · exact .refl db
  | activate entitlementId keyHash publicKey now limit =>
    simp only [Statement.apply, Database.activateDevice]
    split
    · exact steady_of_same rfl rfl fun _ there => devices_insert there
    · exact .refl db
  | touch entitlementId keyHash now | revokeDevice entitlementId keyHash now =>
    exact steady_of_same rfl rfl fun key there => devices_update (fun _ => by rfl) there
  | challenge id entitlementId keyHash nonceHash now =>
    simp only [Statement.apply, Database.createChallenge]
    split
    · exact .refl db
    · split
      · exact .refl db
      · exact steady_of_same rfl rfl fun _ there => there
  | consume id entitlementId keyHash nonceHash now | finish eventId result now | discard eventId =>
    exact steady_of_same rfl rfl fun _ there => there
  | record eventId eventType now =>
    simp only [Statement.apply, Database.recordWebhook]
    split
    · exact .refl db
    · exact steady_of_same rfl rfl fun _ there => there

/-! ## The other three -/

theorem insertClaim_cases {id secretHash publicKey keyHash termsVersion : String} {createdAt expiresAt : Nat}
    (inserted : db.insertCheckoutClaim id secretHash publicKey keyHash termsVersion createdAt expiresAt = .ok next) :
    Exists fun claim : CheckoutClaim => claim.id = id ∧ claim.status = .creating ∧ claim.paypalOrderId = none ∧
      db.claims.find? id = none ∧ next = { db with claims := db.claims.insert claim } := by
  unfold Database.insertCheckoutClaim at inserted
  split at inserted
  · cases inserted
  next fresh =>
    cases inserted
    simp only [Bool.or_eq_true, not_or, Bool.not_eq_true, Option.isSome_eq_false_iff,
      Option.isNone_iff_eq_none] at fresh
    exact ⟨_, rfl, rfl, rfl, fresh.1, rfl⟩

/-- What gives a claim its order: the claim was created before, and no other has the
order. -/
theorem markPending_cases {claimId orderId approvalUrl : String}
    (marked : db.markCheckoutPending claimId orderId approvalUrl = .ok next) :
    (forall after, after ∈ next.claims.items -> Exists fun before => before ∈ db.claims.items ∧
      (after = before ∨ (before.id = claimId ∧ before.status = .creating ∧
        (forall other, other ∈ db.claims.items -> other.id ≠ claimId -> other.paypalOrderId ≠ some orderId) ∧
        after = { before with
          paypalOrderId := some orderId
          approvalUrl := some approvalUrl
          status := .pending
          errorCode := none }))) ∧
    (forall before, before ∈ db.claims.items -> Exists fun after => after ∈ next.claims.items ∧
      (after = before ∨ (before.status = .creating ∧ after = { before with
          paypalOrderId := some orderId
          approvalUrl := some approvalUrl
          status := .pending
          errorCode := none }))) ∧
    next.entitlements = db.entitlements ∧ next.devices = db.devices := by
  unfold Database.markCheckoutPending at marked
  split at marked
  · cases marked
  next fresh =>
    cases marked
    refine ⟨?_, ?_, rfl, rfl⟩
    · intro after member
      rcases List.mem_filterMap.mp member with ⟨before, inside, same⟩
      cases same
      refine ⟨before, inside, ?_⟩
      split
      next selected =>
        simp only [Bool.and_eq_true, decide_eq_true_eq] at selected
        refine Or.inr ⟨selected.1, selected.2, ?_, rfl⟩
        intro other listed apart same
        apply fresh
        rw [Bool.and_eq_true, List.any_eq_true]
        refine ⟨?_, other, listed, by simp [apart, same]⟩
        rw [← selected.1, Table.find?_of_mem inside]
        simp [selected.2]
      · exact Or.inl rfl
    · intro before inside
      refine ⟨_, List.mem_filterMap.mpr ⟨before, inside, rfl⟩, ?_⟩
      split
      next selected =>
        simp only [Bool.and_eq_true, decide_eq_true_eq] at selected
        exact Or.inr ⟨selected.2, rfl⟩
      · exact Or.inl rfl

/-- A batch with a new id inserts its entitlement, or fails. -/
theorem complete_cases {details : Database.Completion} (fresh : db.entitlements.find? details.entitlementId = none)
    (completed : db.completeCheckout details = .ok next) :
    (forall other, other ∈ db.entitlements.items -> details.conflicts other = false) ∧
    next.entitlements = db.entitlements.insert details.entitlement ∧
    (forall key, (next.devices.find? key).isSome = true ↔
      (key = details.device.key ∨ (db.devices.find? key).isSome = true)) ∧
    next.claims = (db.markCheckoutCompleted details).claims := by
  unfold Database.completeCheckout at completed
  unfold Database.insertEntitlement at completed
  split at completed
  next middle inserted =>
    cases completed
    split at inserted
    · -- A conflict is ignored, but then the device has no entitlement.
      unfold Database.insertDevice at inserted
      rw [fresh] at inserted
      cases inserted
    next free =>
      have apart : forall other, other ∈ db.entitlements.items -> details.conflicts other = false := by
        intro other member
        rw [← Bool.not_eq_true]
        intro clash
        exact free (List.any_eq_true.mpr ⟨other, member, clash⟩)
      unfold Database.insertDevice at inserted
      simp only at inserted
      split at inserted
      · cases inserted
      · split at inserted
        next known =>
          cases inserted
          refine ⟨apart, rfl, ?_, rfl⟩
          intro key
          constructor
          · exact Or.inr
          · rintro (rfl | there)
            · exact known
            · exact there
        · cases inserted
          refine ⟨apart, rfl, ?_, rfl⟩
          intro key
          change ((db.devices.insert details.device).find? key).isSome = true ↔ _
          rw [Table.find?_insert]
          by_cases same : key = details.device.key
          · simp [same]
          · simp [same]
  · cases completed

end Supporter
end TelegramDrive
