import TelegramDrive.Supporter.Evolution

namespace TelegramDrive
namespace Supporter

/-!
# What always holds of the database

Each order has one claim, each completed claim has its entitlement, and a claim keeps
what it has.  This holds in every run; that each entitlement has a completed claim
does not.
-/

variable {service : Service} {db next : Database}

/-! ## The invariant -/

/-- The recovery code of a completed claim, until it is acknowledged. -/
def Recoverable (service : Service) (claim : CheckoutClaim) (entitlement : Entitlement) : Prop :=
  claim.recoveryDeliveredAt = none -> Exists fun ciphertext => Exists fun nonce => Exists fun code =>
    claim.recoveryCiphertext = some ciphertext ∧ claim.recoveryNonce = some nonce ∧
      service.decryptRecoveryCode ciphertext nonce = some code ∧
      service.recoveryLookupHash (normalizedRecoveryCode service code) = entitlement.recoveryLookupHash

/-- The entitlement of a completed claim. -/
structure Fulfils (service : Service) (db : Database) (claim : CheckoutClaim) (entitlement : Entitlement) : Prop where
  order : claim.paypalOrderId = some entitlement.paypalOrderId
  id : claim.entitlementId = some entitlement.id
  device : (db.devices.find? (entitlement.id, claim.deviceKeyHash)).isSome = true
  recovery : Recoverable service claim entitlement

structure Sound (service : Service) (db : Database) : Prop where
  orders : forall one two order, one ∈ db.claims.items -> two ∈ db.claims.items ->
    one.paypalOrderId = some order -> two.paypalOrderId = some order -> one = two
  creating : forall claim, claim ∈ db.claims.items -> claim.status = .creating -> claim.paypalOrderId = none
  processing : forall claim, claim ∈ db.claims.items -> claim.status = .processing ->
    claim.processingStartedAt.isSome = true
  completed : forall claim, claim ∈ db.claims.items -> claim.status = .completed ->
    Exists fun entitlement => entitlement ∈ db.entitlements.items ∧ Fulfils service db claim entitlement
  payments : forall one two, one ∈ db.entitlements.items -> two ∈ db.entitlements.items ->
    one.paypalOrderId = two.paypalOrderId -> one = two
  captures : forall entitlement, entitlement ∈ db.entitlements.items ->
    service.captureOrder entitlement.paypalCaptureId = entitlement.paypalOrderId
  claimed : forall entitlement, entitlement ∈ db.entitlements.items -> Exists fun claim =>
    claim ∈ db.claims.items ∧ claim.paypalOrderId = some entitlement.paypalOrderId

theorem empty_sound (service : Service) : Sound service .empty where
  orders _ _ _ member := absurd member List.not_mem_nil
  creating _ member := absurd member List.not_mem_nil
  processing _ member := absurd member List.not_mem_nil
  completed _ member := absurd member List.not_mem_nil
  payments _ _ member := absurd member List.not_mem_nil
  captures _ member := absurd member List.not_mem_nil
  claimed _ member := absurd member List.not_mem_nil

/-! ## What a claim keeps -/

/-- What a claim keeps in every run. -/
structure Later (before after : CheckoutClaim) : Prop where
  id : after.id = before.id
  secret : after.claimSecretHash = before.claimSecretHash
  publicKey : after.devicePublicKey = before.devicePublicKey
  keyHash : after.deviceKeyHash = before.deviceKeyHash
  terms : after.termsVersion = before.termsVersion
  order : forall order, before.paypalOrderId = some order -> after.paypalOrderId = some order
  completed : before.status = .completed -> after.status = .completed ∧ after.entitlementId = before.entitlementId

theorem Later.refl (claim : CheckoutClaim) : Later claim claim :=
  ⟨rfl, rfl, rfl, rfl, rfl, fun _ same => same, fun done => ⟨done, rfl⟩⟩

theorem Later.trans {one two three : CheckoutClaim} (first : Later one two) (second : Later two three) :
    Later one three where
  id := second.id.trans first.id
  secret := second.secret.trans first.secret
  publicKey := second.publicKey.trans first.publicKey
  keyHash := second.keyHash.trans first.keyHash
  terms := second.terms.trans first.terms
  order _ same := second.order _ (first.order _ same)
  completed done :=
    have between := first.completed done
    have after := second.completed between.1
    ⟨after.1, after.2.trans between.2⟩

variable {after claim : CheckoutClaim}

theorem Moves.later {before : CheckoutClaim} (moves : Moves before after) : Later before after where
  id := moves.id
  secret := moves.secret
  publicKey := moves.publicKey
  keyHash := moves.keyHash
  terms := moves.terms
  order _ same := moves.order.trans same
  completed done := ⟨moves.completed.mpr done, moves.entitlement⟩

/-- Every claim is kept. -/
def ClaimsKept (db next : Database) : Prop :=
  forall before, before ∈ db.claims.items -> Exists fun after => after ∈ next.claims.items ∧ Later before after

theorem ClaimsKept.refl (db : Database) : ClaimsKept db db := fun claim member => ⟨claim, member, .refl claim⟩

theorem Steady.claimsKept (steady : Steady db next) : ClaimsKept db next := by
  intro before member
  rcases steady.keptClaims before member with ⟨after, inside, moves⟩
  exact ⟨after, inside, moves.later⟩

theorem insertClaim_kept {id secretHash publicKey keyHash termsVersion : String} {createdAt expiresAt : Nat}
    (inserted : db.insertCheckoutClaim id secretHash publicKey keyHash termsVersion createdAt expiresAt = .ok next) :
    ClaimsKept db next := by
  rcases insertClaim_cases inserted with ⟨claim, same, -, -, absent, rfl⟩
  intro before member
  refine ⟨before, Table.mem_insert.mpr (Or.inr ⟨member, ?_⟩), .refl before⟩
  rw [same]
  exact Table.find?_eq_none.mp absent before member

variable {claimId : String}

theorem markPending_kept (sound : Sound service db) {orderId approvalUrl : String}
    (marked : db.markCheckoutPending claimId orderId approvalUrl = .ok next) : ClaimsKept db next := by
  intro before member
  rcases (markPending_cases marked).2.1 before member with ⟨after, inside, rfl | ⟨created, rfl⟩⟩
  · exact ⟨after, inside, .refl after⟩
  · refine ⟨_, inside, rfl, rfl, rfl, rfl, rfl, ?_, ?_⟩
    · intro order same
      rw [sound.creating before member created] at same
      cases same
    · intro done
      rw [created] at done
      cases done

variable {details : Database.Completion}

theorem mem_markCompleted :
    after ∈ (db.markCheckoutCompleted details).claims.items ↔ Exists fun before => before ∈ db.claims.items ∧
      ((after = before ∧ (before.id ≠ details.claim.id ∨ before.status ≠ .processing)) ∨
        (before.id = details.claim.id ∧ before.status = .processing ∧ after = { before with
          status := .completed
          completedAt := some details.completedAt
          entitlementId := some details.entitlementId
          recoveryCiphertext := some details.recoveryCiphertext
          recoveryNonce := some details.recoveryNonce
          errorCode := none })) := by
  constructor
  · intro member
    rcases List.mem_filterMap.mp member with ⟨before, inside, same⟩
    cases same
    refine ⟨before, inside, ?_⟩
    split
    next selected =>
      simp only [Bool.and_eq_true, decide_eq_true_eq] at selected
      exact Or.inr ⟨selected.1, selected.2, rfl⟩
    next other =>
      refine Or.inl ⟨rfl, ?_⟩
      simp only [Bool.and_eq_true, decide_eq_true_eq, not_and_or] at other
      exact other
  · rintro ⟨before, inside, ⟨rfl, other⟩ | ⟨same, status, rfl⟩⟩
    · refine List.mem_filterMap.mpr ⟨after, inside, ?_⟩
      rw [if_neg]
      simp only [Bool.and_eq_true, decide_eq_true_eq, not_and_or]
      exact other
    · refine List.mem_filterMap.mpr ⟨before, inside, ?_⟩
      rw [if_pos]
      simp only [Bool.and_eq_true, decide_eq_true_eq]
      exact ⟨same, status⟩

theorem complete_kept (fresh : db.entitlements.find? details.entitlementId = none)
    (completed : db.completeCheckout details = .ok next) : ClaimsKept db next := by
  rcases complete_cases fresh completed with ⟨-, -, -, claims⟩
  intro before member
  rw [claims]
  by_cases selected : before.id = details.claim.id ∧ before.status = .processing
  · refine ⟨_, mem_markCompleted.mpr ⟨before, member, Or.inr ⟨selected.1, selected.2, rfl⟩⟩,
      rfl, rfl, rfl, rfl, rfl, fun _ same => same, ?_⟩
    intro done
    rw [selected.2] at done
    cases done
  · refine ⟨before, mem_markCompleted.mpr ⟨before, member, Or.inl ⟨rfl, ?_⟩⟩, .refl before⟩
    exact not_and_or.mp selected

/-! ## What a run of `finalizePaidOrder` knows -/

/-- A claim as it was read once. -/
def KnownClaim (db : Database) (claim : CheckoutClaim) : Prop :=
  Exists fun row => row ∈ db.claims.items ∧ Later claim row

/-- The arguments of a batch belong to a claim and its order. -/
structure Prepared (service : Service) (db : Database) (details : Database.Completion) : Prop where
  claim : KnownClaim db details.claim
  order : details.claim.paypalOrderId = some details.orderId
  capture : service.captureOrder details.captureId = details.orderId
  recovery : Exists fun code =>
    service.decryptRecoveryCode details.recoveryCiphertext details.recoveryNonce = some code ∧
      service.recoveryLookupHash (normalizedRecoveryCode service code) = details.recoveryLookupHash

/-- A claim has the order of a capture. -/
def KnownCapture (service : Service) (db : Database) (claimId : String) (capture : PayPalCapture) : Prop :=
  Exists fun row => row ∈ db.claims.items ∧ row.id = claimId ∧
    row.paypalOrderId = some (service.captureOrder capture.id)

namespace Finalize

def Known (service : Service) (db : Database) : Finalize -> Prop
  | .reading claim order => KnownClaim db claim ∧ order.genuine service = true
  | .beginning claimId capture _ => KnownCapture service db claimId capture
  | .loading claimId capture => KnownCapture service db claimId capture
  | .checking details => Prepared service db details
  | .committing details => Prepared service db details
  | .returned claim => KnownClaim db claim ∧ claim.status = .completed
  | _ => True

end Finalize

theorem KnownClaim.later (known : KnownClaim db claim) (kept : ClaimsKept db next) :
    KnownClaim next claim := by
  rcases known with ⟨row, member, later⟩
  rcases kept row member with ⟨after, inside, again⟩
  exact ⟨after, inside, later.trans again⟩

theorem KnownCapture.later {capture : PayPalCapture}
    (known : KnownCapture service db claimId capture) (kept : ClaimsKept db next) :
    KnownCapture service next claimId capture := by
  rcases known with ⟨row, member, same, order⟩
  rcases kept row member with ⟨after, inside, later⟩
  exact ⟨after, inside, later.id.trans same, later.order _ order⟩

theorem Prepared.later (prepared : Prepared service db details)
    (kept : ClaimsKept db next) : Prepared service next details :=
  { prepared with claim := prepared.claim.later kept }

theorem Finalize.Known.later {run : Finalize} (known : run.Known service db) (kept : ClaimsKept db next) :
    run.Known service next := by
  cases run with
  | reading claim order | returned claim => exact ⟨KnownClaim.later known.1 kept, known.2⟩
  | beginning claimId capture startedAt | loading claimId capture => exact KnownCapture.later known kept
  | checking details | committing details => exact Prepared.later known kept
  | _ => trivial

theorem validate_genuine {terms : PaymentTerms} {order : PayPalOrder} {capture : PayPalCapture}
    (genuine : order.genuine service = true) (valid : validateCompletedOrder terms order claimId = .ok capture) :
    service.captureOrder capture.id = order.id := by
  unfold validateCompletedOrder at valid
  split at valid
  · cases valid
  next unit first =>
    split at valid
    · cases valid
    next found there =>
      have same : found = capture := by grind
      subst same
      have unitIn : unit ∈ order.purchaseUnits := List.mem_of_head? first
      have captureIn := List.mem_of_find?_eq_some there
      have each := List.all_eq_true.mp genuine unit unitIn
      exact of_decide_eq_true (List.all_eq_true.mp each found captureIn)

theorem known_of_found
    (found : db.getCheckoutClaim claimId = some claim) : KnownClaim db claim ∧ claim.id = claimId := by
  rcases Table.find?_eq_some.mp found with ⟨member, same⟩
  exact ⟨⟨claim, member, .refl claim⟩, same⟩

theorem Finalize.read_known {now : Nat} {order : PayPalOrder}
    (known : (Finalize.reading claim order).Known service db) :
    (Finalize.read service db now claim order).Known service db := by
  have validated : (Finalize.read.validate service now claim order).Known service db := by
    unfold Finalize.read.validate
    split
    · exact trivial
    next matching =>
      split
      · exact trivial
      next capture valid =>
        have same : claim.paypalOrderId = some order.id := by
          simp only [not_or, Decidable.not_not] at matching
          exact matching.2
        rcases known.1 with ⟨row, member, later⟩
        refine ⟨row, member, later.id, ?_⟩
        rw [validate_genuine known.2 valid]
        exact later.order _ same
  unfold Finalize.read
  split
  next current found =>
    split
    next done => exact ⟨(known_of_found found).1, done⟩
    · exact validated
  · exact validated

theorem completion_prepared (lawful : service.Lawful) {capture : PayPalCapture} {draw : Draw}
    {now : Nat} (found : db.getCheckoutClaim claimId = some claim)
    (known : KnownCapture service db claimId capture) :
    Prepared service db (completion service claim capture draw now) := by
  rcases known with ⟨row, member, same, order⟩
  have only : row = claim := by
    have there := Table.find?_of_mem member
    rw [same] at there
    exact Option.some.inj (there.symm.trans found)
  subst only
  constructor
  · exact (known_of_found found).1
  · simp only [completion, order, Option.getD_some]
  · simp only [completion, order, Option.getD_some]
  · exact ⟨_, lawful.decrypt _ _, rfl⟩

theorem Finalize.step_known (lawful : service.Lawful) {now : Nat} {draw : Draw} {fault : Fault}
    {run after : Finalize} (known : run.Known service db) (kept : ClaimsKept db next)
    (moved : run.step service db now draw fault = some (next, after)) : after.Known service next := by
  cases run with
  | reading claim order =>
    cases moved
    split
    · exact Finalize.read_known known
    · exact trivial
  | beginning claimId capture startedAt =>
    rcases attempt_cases (Option.some.inj moved) with ⟨-, rfl⟩ | ⟨-, error, rfl⟩
    · split
      · exact KnownCapture.later known kept
      · exact trivial
    · exact trivial
  | losing claimId =>
    cases moved
    split
    · split
      next latest found =>
        split
        next done => exact ⟨(known_of_found found).1, done⟩
        · exact trivial
      · exact trivial
    · exact trivial
  | loading claimId capture =>
    cases moved
    split
    · split
      next claim found => exact completion_prepared lawful found known
      · exact trivial
    · exact trivial
  | checking details =>
    cases moved
    split
    · split
      · exact trivial
      · split
        · exact trivial
        · exact known
    · exact trivial
  | committing details =>
    simp only [Finalize.step] at moved
    split at moved
    · cases moved
    · rcases attempt_cases (Option.some.inj moved) with ⟨-, rfl⟩ | ⟨-, error, rfl⟩
      · exact trivial
      · exact trivial
  | confirming claimId =>
    cases moved
    split
    · split
      next completed found =>
        split
        next done => exact ⟨(known_of_found found).1, done⟩
        · exact trivial
      · exact trivial
    · exact trivial
  | releasing claimId error =>
    rcases attempt_cases (Option.some.inj moved) with ⟨-, rfl⟩ | ⟨-, other, rfl⟩
    · exact trivial
    · exact trivial
  | returned claim | threw error => cases moved

/-! ## Statements -/

/-- What a batch needs: arguments that belong together, and a new id. -/
def Statement.Allowed (service : Service) (db : Database) : Statement -> Prop
  | .complete details => Prepared service db details ∧ db.entitlements.find? details.entitlementId = none
  | _ => True

theorem orElse_cases {result : Except String Database} {property : Database -> Prop} (same : property db)
    (applied : forall next, result = .ok next -> property next) : property (orElse db result) := by
  cases ended : result with
  | error error => exact same
  | ok next => exact applied next ended

theorem Statement.kept (sound : Sound service db) (statement : Statement) (allowed : statement.Allowed service db) :
    ClaimsKept db (statement.apply db) := by
  by_cases plain : statement.plain = true
  · exact (statement.steady plain).claimsKept
  · cases statement with
    | insertClaim id secretHash publicKey keyHash termsVersion createdAt expiresAt =>
      exact orElse_cases (.refl db) fun next inserted => insertClaim_kept inserted
    | markPending claimId orderId approvalUrl =>
      exact orElse_cases (.refl db) fun next marked => markPending_kept sound marked
    | complete details => exact orElse_cases (.refl db) fun next completed => complete_kept allowed.2 completed
    | _ => exact absurd rfl plain

theorem Fulfils.steady {entitlement final : Entitlement}
    (fulfils : Fulfils service db claim entitlement) (moves : Moves claim after) (keeps : Keeps entitlement final)
    (devices : forall key, (db.devices.find? key).isSome = true -> (next.devices.find? key).isSome = true) :
    Fulfils service next after final where
  order := by rw [moves.order, keeps.order, fulfils.order]
  id := by rw [moves.entitlement, keeps.id, fulfils.id]
  device := by
    rw [keeps.id, moves.keyHash]
    exact devices _ fulfils.device
  recovery := by
    intro undelivered
    rcases moves.recovery with delivered | ⟨same, ciphertext, nonce⟩
    · rw [undelivered] at delivered
      cases delivered
    · rw [ciphertext, nonce, keeps.hash]
      exact fulfils.recovery (same.symm.trans undelivered)

theorem Sound.steady (sound : Sound service db) (steady : Steady db next) : Sound service next where
  orders one two order first second same other := by
    rcases steady.claims one first with ⟨earlierOne, insideOne, movesOne⟩
    rcases steady.claims two second with ⟨earlierTwo, insideTwo, movesTwo⟩
    have equal := sound.orders earlierOne earlierTwo order insideOne insideTwo (movesOne.order ▸ same)
      (movesTwo.order ▸ other)
    have ids : one.id = two.id := by rw [movesOne.id, movesTwo.id, equal]
    have there := Table.find?_of_mem first
    rw [ids, Table.find?_of_mem second] at there
    exact (Option.some.inj there).symm
  creating claim member status := by
    rcases steady.claims claim member with ⟨before, inside, moves⟩
    exact moves.order.trans (sound.creating before inside (moves.creating status))
  processing claim member status := by
    rcases steady.claims claim member with ⟨before, inside, moves⟩
    rcases moves.processing status with started | ⟨earlier, same⟩
    · exact started
    · rw [same]
      exact sound.processing before inside earlier
  completed claim member status := by
    rcases steady.claims claim member with ⟨before, inside, moves⟩
    rcases sound.completed before inside (moves.completed.mp status) with ⟨entitlement, listed, fulfils⟩
    rcases steady.keptEntitlements entitlement listed with ⟨final, kept, keeps⟩
    exact ⟨final, kept, fulfils.steady moves keeps steady.devices⟩
  payments one two first second same := by
    rcases steady.entitlements one first with ⟨earlierOne, insideOne, keepsOne⟩
    rcases steady.entitlements two second with ⟨earlierTwo, insideTwo, keepsTwo⟩
    have equal := sound.payments earlierOne earlierTwo insideOne insideTwo
      (keepsOne.order.symm.trans (same.trans keepsTwo.order))
    have ids : one.id = two.id := by rw [keepsOne.id, keepsTwo.id, equal]
    have there := Table.find?_of_mem first
    rw [ids, Table.find?_of_mem second] at there
    exact (Option.some.inj there).symm
  captures entitlement member := by
    rcases steady.entitlements entitlement member with ⟨before, inside, keeps⟩
    rw [keeps.capture, keeps.order]
    exact sound.captures before inside
  claimed entitlement member := by
    rcases steady.entitlements entitlement member with ⟨before, inside, keeps⟩
    rcases sound.claimed before inside with ⟨claim, listed, order⟩
    rcases steady.keptClaims claim listed with ⟨after, kept, moves⟩
    exact ⟨after, kept, by rw [moves.order, order, keeps.order]⟩

theorem claim_unique {one two : CheckoutClaim} (first : one ∈ db.claims.items) (second : two ∈ db.claims.items)
    (same : one.id = two.id) : one = two := by
  have there := Table.find?_of_mem first
  rw [same, Table.find?_of_mem second] at there
  exact (Option.some.inj there).symm

theorem entitlement_unique {one two : Entitlement} (first : one ∈ db.entitlements.items)
    (second : two ∈ db.entitlements.items) (same : one.id = two.id) : one = two := by
  have there := Table.find?_of_mem first
  rw [same, Table.find?_of_mem second] at there
  exact (Option.some.inj there).symm

theorem Fulfils.same {entitlement : Entitlement} (fulfils : Fulfils service db claim entitlement)
    (devices : forall key, (db.devices.find? key).isSome = true -> (next.devices.find? key).isSome = true) :
    Fulfils service next claim entitlement :=
  fulfils.steady (.refl claim) (.refl entitlement) devices

theorem insertClaim_sound (sound : Sound service db) {id secretHash publicKey keyHash termsVersion : String}
    {createdAt expiresAt : Nat}
    (inserted : db.insertCheckoutClaim id secretHash publicKey keyHash termsVersion createdAt expiresAt = .ok next) :
    Sound service next := by
  rcases insertClaim_cases inserted with ⟨added, -, created, orderless, -, rfl⟩
  have old : forall claim, claim ∈ (db.claims.insert added).items -> claim = added ∨ claim ∈ db.claims.items :=
    fun claim member => (Table.mem_insert.mp member).imp_right And.left
  have kept := insertClaim_kept inserted
  constructor
  · intro one two order first second same other
    rcases old one first with rfl | before
    · rw [orderless] at same
      cases same
    · rcases old two second with rfl | earlier
      · rw [orderless] at other
        cases other
      · exact sound.orders one two order before earlier same other
  · intro claim member status
    rcases old claim member with rfl | before
    · exact orderless
    · exact sound.creating claim before status
  · intro claim member status
    rcases old claim member with rfl | before
    · rw [created] at status
      cases status
    · exact sound.processing claim before status
  · intro claim member status
    rcases old claim member with rfl | before
    · rw [created] at status
      cases status
    · rcases sound.completed claim before status with ⟨entitlement, listed, fulfils⟩
      exact ⟨entitlement, listed, fulfils.same fun _ there => there⟩
  · exact sound.payments
  · exact sound.captures
  · intro entitlement member
    rcases sound.claimed entitlement member with ⟨claim, listed, order⟩
    rcases kept claim listed with ⟨after, inside, later⟩
    exact ⟨after, inside, later.order _ order⟩

theorem markPending_sound (sound : Sound service db) {orderId approvalUrl : String}
    (marked : db.markCheckoutPending claimId orderId approvalUrl = .ok next) : Sound service next := by
  rcases markPending_cases marked with ⟨old, -, entitlements, devices⟩
  have kept := markPending_kept sound marked
  have sameDevices : forall key, (db.devices.find? key).isSome = true -> (next.devices.find? key).isSome = true :=
    fun key there => devices ▸ there
  constructor
  · intro one two order first second same other
    rcases old one first with ⟨earlierOne, insideOne, rfl | ⟨sameId, -, unique, rfl⟩⟩
    · rcases old two second with ⟨earlierTwo, insideTwo, rfl | ⟨sameId, -, unique, rfl⟩⟩
      · exact sound.orders one two order insideOne insideTwo same other
      · cases other
        by_cases apart : one.id = claimId
        · exact claim_unique first second (apart.trans sameId.symm)
        · exact absurd same (unique one insideOne apart)
    · cases same
      rcases old two second with ⟨earlierTwo, insideTwo, rfl | ⟨sameOther, -, -, rfl⟩⟩
      · by_cases apart : two.id = claimId
        · exact claim_unique first second (sameId.trans apart.symm)
        · exact absurd other (unique two insideTwo apart)
      · exact claim_unique first second (sameId.trans sameOther.symm)
  · intro claim member status
    rcases old claim member with ⟨before, inside, rfl | ⟨-, -, -, rfl⟩⟩
    · exact sound.creating claim inside status
    · cases status
  · intro claim member status
    rcases old claim member with ⟨before, inside, rfl | ⟨-, -, -, rfl⟩⟩
    · exact sound.processing claim inside status
    · cases status
  · intro claim member status
    rcases old claim member with ⟨before, inside, rfl | ⟨-, -, -, rfl⟩⟩
    · rcases sound.completed claim inside status with ⟨entitlement, listed, fulfils⟩
      exact ⟨entitlement, entitlements ▸ listed, fulfils.same sameDevices⟩
    · cases status
  · rw [entitlements]
    exact sound.payments
  · rw [entitlements]
    exact sound.captures
  · rw [entitlements]
    intro entitlement member
    rcases sound.claimed entitlement member with ⟨claim, listed, order⟩
    rcases kept claim listed with ⟨after, inside, later⟩
    exact ⟨after, inside, later.order _ order⟩

theorem conflicts_false {other : Entitlement} (free : details.conflicts other = false) :
    other.id ≠ details.entitlementId ∧ other.paypalOrderId ≠ details.orderId := by
  simp only [Database.Completion.conflicts, Bool.or_eq_false_iff, decide_eq_false_iff_not] at free
  exact ⟨free.1.1.1, free.1.1.2⟩

theorem mem_completed {entitlement : Entitlement}
    (free : forall other, other ∈ db.entitlements.items -> details.conflicts other = false) :
    entitlement ∈ (db.entitlements.insert details.entitlement).items ↔
      entitlement = details.entitlement ∨ entitlement ∈ db.entitlements.items := by
  rw [Table.mem_insert]
  refine or_congr_right ⟨And.left, ?_⟩
  intro member
  exact ⟨member, (conflicts_false (free entitlement member)).1⟩

theorem complete_sound (sound : Sound service db)
    (prepared : Prepared service db details) (fresh : db.entitlements.find? details.entitlementId = none)
    (completed : db.completeCheckout details = .ok next) : Sound service next := by
  rcases complete_cases fresh completed with ⟨free, entitlements, devices, claims⟩
  have kept := complete_kept fresh completed
  have listed : forall entitlement, entitlement ∈ next.entitlements.items ↔
      entitlement = details.entitlement ∨ entitlement ∈ db.entitlements.items := by
    rw [entitlements]
    exact fun _ => mem_completed free
  have sameDevices : forall key, (db.devices.find? key).isSome = true -> (next.devices.find? key).isSome = true :=
    fun key there => (devices key).mpr (Or.inr there)
  rcases prepared.claim with ⟨row, rowIn, rowLater⟩
  have rowOrder := rowLater.order _ prepared.order
  have apart : forall other, other ∈ db.entitlements.items -> other.paypalOrderId ≠ details.orderId :=
    fun other member => (conflicts_false (free other member)).2
  constructor
  · intro one two order first second same other
    rw [claims] at first second
    rcases mem_markCompleted.mp first with ⟨earlierOne, insideOne, changedOne⟩
    rcases mem_markCompleted.mp second with ⟨earlierTwo, insideTwo, changedTwo⟩
    have orderOne : earlierOne.paypalOrderId = some order := by
      rcases changedOne with ⟨rfl, -⟩ | ⟨-, -, rfl⟩
      · exact same
      · exact same
    have orderTwo : earlierTwo.paypalOrderId = some order := by
      rcases changedTwo with ⟨rfl, -⟩ | ⟨-, -, rfl⟩
      · exact other
      · exact other
    have equal := sound.orders earlierOne earlierTwo order insideOne insideTwo orderOne orderTwo
    rw [← claims] at first second
    apply claim_unique first second
    rcases changedOne with ⟨rfl, -⟩ | ⟨-, -, rfl⟩
    · rcases changedTwo with ⟨rfl, -⟩ | ⟨-, -, rfl⟩
      · rw [equal]
      · rw [equal]
    · rcases changedTwo with ⟨rfl, -⟩ | ⟨-, -, rfl⟩
      · rw [← equal]
      · rw [equal]
  · intro claim member status
    rw [claims] at member
    rcases mem_markCompleted.mp member with ⟨before, inside, ⟨rfl, -⟩ | ⟨-, -, rfl⟩⟩
    · exact sound.creating claim inside status
    · cases status
  · intro claim member status
    rw [claims] at member
    rcases mem_markCompleted.mp member with ⟨before, inside, ⟨rfl, -⟩ | ⟨-, -, rfl⟩⟩
    · exact sound.processing claim inside status
    · cases status
  · intro claim member status
    rw [claims] at member
    rcases mem_markCompleted.mp member with ⟨before, inside, ⟨rfl, -⟩ | ⟨same, -, rfl⟩⟩
    · rcases sound.completed claim inside status with ⟨entitlement, there, fulfils⟩
      exact ⟨entitlement, (listed entitlement).mpr (Or.inr there), fulfils.same sameDevices⟩
    · have equal : before = row := claim_unique inside rowIn (same.trans rowLater.id.symm)
      subst equal
      refine ⟨details.entitlement, (listed _).mpr (Or.inl rfl), rowOrder, rfl, ?_, ?_⟩
      · apply (devices _).mpr
        refine Or.inl ?_
        rw [rowLater.keyHash]
        rfl
      · intro _
        rcases prepared.recovery with ⟨code, decrypted, hash⟩
        exact ⟨_, _, code, rfl, rfl, decrypted, hash⟩
  · intro one two first second same
    rcases (listed one).mp first with rfl | before
    · rcases (listed two).mp second with rfl | earlier
      · rfl
      · exact absurd same.symm (apart two earlier)
    · rcases (listed two).mp second with rfl | earlier
      · exact absurd same (apart one before)
      · exact sound.payments one two before earlier same
  · intro entitlement member
    rcases (listed entitlement).mp member with rfl | before
    · exact prepared.capture
    · exact sound.captures entitlement before
  · intro entitlement member
    rcases (listed entitlement).mp member with rfl | before
    · rcases kept row rowIn with ⟨after, inside, later⟩
      exact ⟨after, inside, later.order _ rowOrder⟩
    · rcases sound.claimed entitlement before with ⟨claim, there, order⟩
      rcases kept claim there with ⟨after, inside, later⟩
      exact ⟨after, inside, later.order _ order⟩

theorem Statement.sound (sound : Sound service db) (statement : Statement) (allowed : statement.Allowed service db) :
    Sound service (statement.apply db) := by
  by_cases plain : statement.plain = true
  · exact sound.steady (statement.steady plain)
  · cases statement with
    | insertClaim id secretHash publicKey keyHash termsVersion createdAt expiresAt =>
      exact orElse_cases sound fun next inserted => insertClaim_sound sound inserted
    | markPending claimId orderId approvalUrl =>
      exact orElse_cases sound fun next marked => markPending_sound sound marked
    | complete details =>
      exact orElse_cases sound fun next completed => complete_sound sound allowed.1 allowed.2 completed
    | _ => exact absurd rfl plain

end Supporter
end TelegramDrive
