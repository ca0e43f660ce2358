import TelegramDrive.Supporter.Checkouts

namespace TelegramDrive
namespace Supporter

/-!
# Acknowledged events

An event is recorded before it is processed, and a recorded event is answered as a
duplicate.  A run that dies in between leaves a record of nothing.  A revocation is an
update, which says nothing about an entitlement that comes later.
-/

variable {service : Service} {state next : State} {event : Event} {db after : Database}

/-! ## What an event is about -/

/-- The captures that a resource names. -/
def Resource.captures (resource : Resource) : List String :=
  resource.relatedCaptureId.toList ++ resource.sellerTransactionIds.filterMap (fun transaction => transaction) ++
    resource.links.filterMap (fun link => link.bind fun href => matchPath capturePath href.toList) ++
    (if resource.status.isSome then resource.id.toList else [])

/-- The orders that a resource names. -/
def Resource.orders (resource : Resource) : List String :=
  resource.relatedOrderId.toList ++
    resource.links.filterMap fun link => link.bind fun href => matchPath orderPath href.toList

/-- Whether an event names the order or the capture of a payment. -/
def PayPalEvent.concerns (event : PayPalEvent) (orderId captureId : String) : Bool :=
  event.resource.any fun resource => decide (captureId ∈ resource.captures) || decide (orderId ∈ resource.orders)

/-- The effect of an event: its checkout is completed, or its payment is revoked. -/
structure Applied (event : PayPalEvent) (db : Database) : Prop where
  activated : forall order, given event.activates = some order -> forall claim, claim ∈ db.claims.items ->
    claim.paypalOrderId = some order -> claim.status = .completed
  revoked : event.revokes = true -> forall entitlement, entitlement ∈ db.entitlements.items ->
    event.concerns entitlement.paypalOrderId entitlement.paypalCaptureId = true -> entitlement.status = .revoked

/-- `Applied`, evaluated. -/
def applied (event : PayPalEvent) (db : Database) : Bool :=
  (given event.activates).all (fun order => db.claims.items.all fun claim =>
    decide (claim.paypalOrderId ≠ some order) || decide (claim.status = .completed)) &&
  (!event.revokes || db.entitlements.items.all fun entitlement =>
    !event.concerns entitlement.paypalOrderId entitlement.paypalCaptureId || decide (entitlement.status = .revoked))

theorem applied_sound {event : PayPalEvent} (holds : applied event db = true) : Applied event db := by
  rcases Bool.and_eq_true_iff.mp holds with ⟨activated, revoked⟩
  constructor
  · intro order its claim member same
    rw [its, Option.all_some, List.all_eq_true] at activated
    rcases Bool.or_eq_true_iff.mp (activated claim member) with apart | done
    · exact absurd same (of_decide_eq_true apart)
    · exact of_decide_eq_true done
  · intro revokes entitlement member concerned
    rw [revokes, Bool.not_true, Bool.false_or, List.all_eq_true] at revoked
    have either := revoked entitlement member
    rw [concerned, Bool.not_true, Bool.false_or] at either
    exact of_decide_eq_true either

/-! ## The condition -/

/-- The entitlements that the statement of a revoking event selects. -/
def PayPalEvent.selects (event : PayPalEvent) (entitlement : Entitlement) : Bool :=
  match given (relatedPaymentIds event.resource).captureId, given (relatedPaymentIds event.resource).orderId with
  | some captureId, _ => decide (entitlement.paypalCaptureId = captureId)
  | none, some orderId => decide (entitlement.paypalOrderId = orderId)
  | none, none => false

/-- The events that are processed: those that are about to be answered, or were. -/
def State.processed (state : State) : List String :=
  state.workers.filterMap (fun worker =>
    match worker with
    | .webhook eventId (.finishing _) => some eventId
    | .webhook eventId (.accepted _) => some eventId
    | _ => none) ++
  (state.db.webhooks.items.filter fun row => row.processedAt.isSome).map WebhookRow.id

/-- The steps that acknowledge no event without its effect.  A recorded event that is
delivered again is processed; a revocation selects all entitlements that its event names;
and no entitlement is made for a payment that is revoked. -/
def effective (service : Service) (state : State) : Event -> Bool
  | .advance index fault _ =>
    match state.workers[index]? with
    | some (.webhook eventId .recording) =>
      decide (fault ≠ .none) || (state.db.webhooks.find? (service.event eventId).id).all fun row =>
        row.processedAt.isSome || applied (service.event eventId) state.db
    | some (.webhook eventId .revoking) =>
      decide (fault ≠ .none) || state.db.entitlements.items.all fun entitlement =>
        !(service.event eventId).concerns entitlement.paypalOrderId entitlement.paypalCaptureId ||
          decide (entitlement.status = .revoked) || (service.event eventId).selects entitlement
    | some worker =>
      match worker.finalizing with
      | some (.committing details) =>
        decide (fault = .rejected) || state.db.entitlements.items.any details.conflicts ||
          state.processed.all fun eventId =>
            !((service.event eventId).revokes &&
              (service.event eventId).concerns details.orderId details.captureId)
      | _ => true
    | none => true
  | _ => true

/-! ## What a statement leaves of an effect -/

/-- A claim with an order that is named had it before. -/
def OrdersKept (named : List String) (db next : Database) : Prop :=
  forall after, after ∈ next.claims.items -> forall order, order ∈ named -> after.paypalOrderId = some order ->
    Exists fun before => before ∈ db.claims.items ∧ before.paypalOrderId = some order ∧
      (before.status = .completed -> after.status = .completed)

theorem Steady.ordersKept (steady : Steady db after) (named : List String) : OrdersKept named db after := by
  intro claim member order _ same
  rcases steady.claims claim member with ⟨before, inside, moves⟩
  exact ⟨before, inside, moves.order ▸ same, moves.completed.mpr⟩

theorem OrdersKept.refl (named : List String) (db : Database) : OrdersKept named db db :=
  (Steady.refl db).ordersKept named

/-- The orders that a statement may give to a claim. -/
def Statement.marks : Statement -> Option String
  | .markPending _ orderId _ => some orderId
  | _ => none

theorem Statement.ordersKept (statement : Statement) (allowed : statement.Allowed service db) {named : List String}
    (unnamed : forall order, statement.marks = some order -> order ∉ named) :
    OrdersKept named db (statement.apply db) := by
  by_cases plain : statement.plain = true
  · exact (statement.steady plain).ordersKept named
  · cases statement with
    | insertClaim id secretHash publicKey keyHash termsVersion createdAt expiresAt =>
      refine orElse_cases (.refl named db) ?_
      intro next inserted
      rcases insertClaim_cases inserted with ⟨added, -, -, orderless, -, rfl⟩
      intro claim member order _ same
      rcases Table.mem_insert.mp member with rfl | ⟨before, -⟩
      · rw [orderless] at same
        cases same
      · exact ⟨claim, before, same, fun done => done⟩
    | markPending claimId orderId approvalUrl =>
      refine orElse_cases (.refl named db) ?_
      intro next marked claim member order listed same
      rcases (markPending_cases marked).1 claim member with ⟨before, inside, rfl | ⟨-, -, -, rfl⟩⟩
      · exact ⟨claim, inside, same, fun done => done⟩
      · cases same
        exact absurd listed (unnamed orderId rfl)
    | complete details =>
      refine orElse_cases (.refl named db) ?_
      intro next completed claim member order _ same
      rcases complete_cases allowed.2 completed with ⟨-, -, -, claims⟩
      rw [claims] at member
      rcases mem_markCompleted.mp member with ⟨before, inside, ⟨rfl, -⟩ | ⟨-, -, rfl⟩⟩
      · exact ⟨claim, inside, same, fun done => done⟩
      · exact ⟨before, inside, same, fun _ => rfl⟩
    | _ => exact absurd rfl plain

theorem Statement.entitlements_kept (statement : Statement) (allowed : statement.Allowed service db)
    {final : Entitlement} (member : final ∈ (statement.apply db).entitlements.items) :
    (Exists fun before => before ∈ db.entitlements.items ∧ Keeps before final) ∨
      Exists fun details => statement = .complete details ∧ final = details.entitlement ∧
        db.entitlements.items.any details.conflicts = false := by
  by_cases plain : statement.plain = true
  · exact Or.inl ((statement.steady plain).entitlements final member)
  · cases statement with
    | insertClaim id secretHash publicKey keyHash termsVersion createdAt expiresAt =>
      refine Or.inl ⟨final, ?_, .refl final⟩
      simp only [Statement.apply] at member
      cases inserted : db.insertCheckoutClaim id secretHash publicKey keyHash termsVersion createdAt expiresAt with
      | error error => simpa only [inserted, orElse] using member
      | ok next =>
        rcases insertClaim_cases inserted with ⟨added, -, -, -, -, rfl⟩
        simpa only [inserted, orElse] using member
    | markPending claimId orderId approvalUrl =>
      refine Or.inl ⟨final, ?_, .refl final⟩
      simp only [Statement.apply] at member
      cases marked : db.markCheckoutPending claimId orderId approvalUrl with
      | error error => simpa only [marked, orElse] using member
      | ok next =>
        have same := (markPending_cases marked).2.2.1
        simpa only [marked, orElse, same] using member
    | complete details =>
      simp only [Statement.apply] at member
      cases completed : db.completeCheckout details with
      | error error =>
        simp only [completed, orElse] at member
        exact Or.inl ⟨final, member, .refl final⟩
      | ok next =>
        rcases complete_cases allowed.2 completed with ⟨free, entitlements, -, -⟩
        simp only [completed, orElse, entitlements] at member
        rcases (mem_completed free).mp member with rfl | before
        · refine Or.inr ⟨details, rfl, rfl, ?_⟩
          rw [List.any_eq_false]
          intro other inside
          rw [free other inside]
          exact Bool.false_ne_true
        · exact Or.inl ⟨final, before, .refl final⟩
    | _ => exact absurd rfl plain

theorem Applied.kept {event : PayPalEvent} (effect : Applied event db) {named : List String}
    (listed : forall order, given event.activates = some order -> order ∈ named) (orders : OrdersKept named db after)
    (entitlements : event.revokes = true -> forall final, final ∈ after.entitlements.items ->
      event.concerns final.paypalOrderId final.paypalCaptureId = true ->
        Exists fun before => before ∈ db.entitlements.items ∧ Keeps before final) : Applied event after := by
  constructor
  · intro order its claim member same
    rcases orders claim member order (listed order its) same with ⟨before, inside, earlier, completed⟩
    exact completed (effect.activated order its before inside earlier)
  · intro revokes final member concerned
    rcases entitlements revokes final member concerned with ⟨before, inside, keeps⟩
    apply keeps.revoked
    apply effect.revoked revokes before inside
    rw [← keeps.order, ← keeps.capture]
    exact concerned

/-! ## The checkout that a run completes -/

/-- A claim has an order. -/
def HasOrder (db : Database) (claimId order : String) : Prop :=
  Exists fun row => row ∈ db.claims.items ∧ row.id = claimId ∧ row.paypalOrderId = some order

variable {order claimId eventId id : String}

theorem HasOrder.later (has : HasOrder db claimId order) (kept : ClaimsKept db after) :
    HasOrder after claimId order := by
  rcases has with ⟨row, member, same, its⟩
  rcases kept row member with ⟨final, inside, later⟩
  exact ⟨final, inside, later.id.trans same, later.order _ its⟩

theorem KnownClaim.hasOrder {claim : CheckoutClaim} (known : KnownClaim db claim)
    (its : claim.paypalOrderId = some order) : HasOrder db claim.id order := by
  rcases known with ⟨row, member, later⟩
  exact ⟨row, member, later.id, later.order _ its⟩

/-- The claim with an order is completed. -/
def Completed (db : Database) (order : String) : Prop :=
  Exists fun row => row ∈ db.claims.items ∧ row.paypalOrderId = some order ∧ row.status = .completed

theorem Completed.later (completed : Completed db order) (kept : ClaimsKept db after) :
    Completed after order := by
  rcases completed with ⟨row, member, its, done⟩
  rcases kept row member with ⟨final, inside, later⟩
  exact ⟨final, inside, later.order _ its, (later.completed done).1⟩

theorem HasOrder.completed {claim : CheckoutClaim} (has : HasOrder db claimId order)
    (found : db.getCheckoutClaim claimId = some claim) (done : claim.status = .completed) : Completed db order := by
  rcases has with ⟨row, member, same, its⟩
  have there := Table.find?_of_mem member
  rw [same] at there
  cases there.symm.trans found
  exact ⟨claim, member, its, done⟩

/-- The run of `finalizePaidOrder` is about the claim with an order. -/
def Finalize.Serves (db : Database) (order : String) : Finalize -> Prop
  | .reading claim _ => HasOrder db claim.id order
  | .beginning claimId _ _ => HasOrder db claimId order
  | .losing claimId => HasOrder db claimId order
  | .loading claimId _ => HasOrder db claimId order
  | .checking details => HasOrder db details.claim.id order
  | .committing details => HasOrder db details.claim.id order
  | .confirming claimId => HasOrder db claimId order
  | .returned _ => Completed db order
  | _ => True

theorem Finalize.Serves.later {run : Finalize} (serves : run.Serves db order)
    (kept : ClaimsKept db after) : run.Serves after order := by
  cases run with
  | releasing claimId error | threw error => trivial
  | returned claim => exact Completed.later serves kept
  | _ => exact HasOrder.later serves kept

variable {now index : Nat}

theorem Finalize.read_serves {claim : CheckoutClaim} {paid : PayPalOrder}
    (serves : (Finalize.reading claim paid).Serves db order) :
    (Finalize.read service db now claim paid).Serves db order := by
  have validated : (Finalize.read.validate service now claim paid).Serves db order := by
    unfold Finalize.read.validate
    split
    · trivial
    · split
      · trivial
      · exact serves
  unfold Finalize.read
  split
  next found =>
    split
    next done => exact HasOrder.completed serves found done
    · exact validated
  · exact validated

theorem Finalize.step_serves {draw : Draw} {fault : Fault} {run later : Finalize}
    (serves : run.Serves db order) (kept : ClaimsKept db after)
    (moved : run.step service db now draw fault = some (after, later)) : later.Serves after order := by
  cases run with
  | reading claim paid =>
    cases moved
    split
    · exact Finalize.read_serves serves
    · trivial
  | beginning claimId capture startedAt =>
    rcases attempt_cases (Option.some.inj moved) with ⟨-, rfl⟩ | ⟨-, error, rfl⟩
    · split
      · exact HasOrder.later serves kept
      · exact HasOrder.later serves kept
    · trivial
  | losing claimId =>
    cases moved
    split
    · split
      next latest found =>
        split
        next done => exact HasOrder.completed serves found done
        · trivial
      · trivial
    · trivial
  | loading claimId capture =>
    cases moved
    split
    · split
      next claim found =>
        have same : claim.id = claimId := Table.key_of_find? found
        change HasOrder db claim.id order
        rw [same]
        exact serves
      · trivial
    · trivial
  | checking details =>
    cases moved
    split
    · split
      · exact serves
      · split
        · trivial
        · exact serves
    · trivial
  | committing details =>
    simp only [Finalize.step] at moved
    split at moved
    · cases moved
    · rcases attempt_cases (Option.some.inj moved) with ⟨-, rfl⟩ | ⟨-, error, rfl⟩
      · exact HasOrder.later serves kept
      · trivial
  | confirming claimId =>
    cases moved
    split
    · split
      next completed found =>
        split
        next done => exact HasOrder.completed serves found done
        · trivial
      · trivial
    · trivial
  | releasing claimId error =>
    rcases attempt_cases (Option.some.inj moved) with ⟨-, rfl⟩ | ⟨-, other, rfl⟩
    · trivial
    · trivial
  | returned claim | threw error => cases moved

/-! ## What a delivery knows -/

/-- What a delivery has done of its event. -/
def Webhook.Follows (event : PayPalEvent) (db : Database) : Webhook -> Prop
  | .looking order => event.revokes = false ∧ given event.activates = some order
  | .capturing claim => event.revokes = false ∧
      Exists fun order => given event.activates = some order ∧ HasOrder db claim.id order
  | .finalizing run => event.revokes = false ∧
      Exists fun order => given event.activates = some order ∧ run.Serves db order
  | .revoking => event.revokes = true
  | .finishing _ => Applied event db
  | .accepted _ => Applied event db
  | _ => True

theorem activates_of_revokes {event : PayPalEvent} (revokes : event.revokes = true) : event.activates = none := by
  unfold PayPalEvent.revokes at revokes
  unfold PayPalEvent.activates
  simp only [Bool.or_eq_true, Bool.and_eq_true, decide_eq_true_eq, List.mem_cons, List.not_mem_nil, or_false]
    at revokes
  rcases revokes with (same | same) | ⟨same, -⟩
  all_goals rw [same, if_neg (by decide), if_neg (by decide)]

theorem dispatch_follows (event : PayPalEvent) (db : Database) : (Webhook.dispatch event).Follows event db := by
  unfold Webhook.dispatch
  split
  next revokes => exact revokes
  next stays =>
    have stays : event.revokes = false := by simpa using stays
    split
    next order its => exact ⟨stays, its⟩
    next nothing =>
      constructor
      · intro order its
        rw [nothing] at its
        cases its
      · intro revokes
        rw [stays] at revokes
        cases revokes

/-- The checkout of a completed claim is activated. -/
theorem Completed.applied (sound : Sound service db) {event : PayPalEvent}
    (stays : event.revokes = false) (its : given event.activates = some order) (completed : Completed db order) :
    Applied event db := by
  constructor
  · intro other another claim member same
    cases its.symm.trans another
    rcases completed with ⟨row, inside, rowOrder, done⟩
    rw [sound.orders claim row order member inside same rowOrder]
    exact done
  · intro revokes
    rw [stays] at revokes
    cases revokes

theorem revoke_applied {event : PayPalEvent} (revokes : event.revokes = true)
    (covers : forall entitlement, entitlement ∈ db.entitlements.items ->
      event.concerns entitlement.paypalOrderId entitlement.paypalCaptureId = true ->
        entitlement.status = .revoked ∨ event.selects entitlement = true) :
    Applied event (Webhook.revoke db event now).1 := by
  constructor
  · intro order its
    rw [activates_of_revokes revokes] at its
    cases its
  · have updated : forall selects reason, (forall entitlement, entitlement ∈ db.entitlements.items ->
        event.concerns entitlement.paypalOrderId entitlement.paypalCaptureId = true ->
          entitlement.status = .revoked ∨ selects entitlement = true) ->
        forall final, final ∈ (db.revokeEntitlement selects reason now).1.entitlements.items ->
          event.concerns final.paypalOrderId final.paypalCaptureId = true -> final.status = .revoked := by
      intro selects reason covered final member concerned
      rcases List.mem_filterMap.mp member with ⟨before, inside, same⟩
      cases same
      split at concerned
      next selected => rw [if_pos selected]
      next other =>
        rw [if_neg other]
        rcases covered before inside concerned with gone | selected
        · exact gone
        · cases status : before.status with
          | revoked => rfl
          | active => simp [selected, status] at other
    intro _
    unfold PayPalEvent.selects at covers
    unfold Webhook.revoke
    simp only
    split
    next captureId _ there =>
      rw [there] at covers
      exact updated _ _ covers
    next orderId there other =>
      rw [there, other] at covers
      exact updated _ _ covers
    next there other =>
      rw [there, other] at covers
      intro final member concerned
      rcases covers final member concerned with gone | selected
      · exact gone
      · cases selected

variable {answer : Answer}

theorem Webhook.step_follows {fault : Fault} {run later : Webhook}
    (sound : Sound service db) (kept : ClaimsKept db after)
    (keeps : (run = .recording ∨ Exists fun result => run = .finishing result) ->
      Applied (service.event eventId) db -> Applied (service.event eventId) after)
    (duplicate : run = .recording -> fault = .none ->
      (db.webhooks.find? (service.event eventId).id).isSome = true -> Applied (service.event eventId) db)
    (covers : run = .revoking -> fault = .none -> forall entitlement, entitlement ∈ db.entitlements.items ->
      (service.event eventId).concerns entitlement.paypalOrderId entitlement.paypalCaptureId = true ->
        entitlement.status = .revoked ∨ (service.event eventId).selects entitlement = true)
    (follows : run.Follows (service.event eventId) db)
    (moved : run.step service db now fault answer (service.event eventId) = some (after, later)) :
    later.Follows (service.event eventId) after := by
  cases run with
  | recording =>
    cases fault with
    | rejected | lost =>
      cases moved
      trivial
    | none =>
      simp only [Webhook.step, attempt] at moved
      cases moved
      split
      · exact dispatch_follows _ _
      next old =>
        apply keeps (Or.inl rfl)
        apply duplicate rfl rfl
        unfold Database.recordWebhook at old
        split at old
        next there => exact there
        · exact absurd rfl old
  | looking order =>
    cases moved
    split
    · split
      next claim found =>
        have read := known_of_order found
        split
        · exact ⟨follows.1, order, follows.2, read.1.hasOrder read.2⟩
        next done =>
          apply Completed.applied sound follows.1 follows.2
          exact ⟨claim, List.mem_of_find?_eq_some found, read.2, Decidable.not_not.mp done⟩
      next absent =>
        constructor
        · intro other its claim member same
          cases follows.2.symm.trans its
          exact absurd (decide_eq_true same) (List.find?_eq_none.mp absent claim member)
        · intro revokes
          rw [follows.1] at revokes
          cases revokes
    · trivial
  | capturing claim =>
    rcases follows with ⟨stays, order, its, has⟩
    simp only [Webhook.step] at moved
    split at moved
    · split at moved
      · cases moved
      · cases moved
        exact ⟨stays, order, its, has⟩
    · cases moved
      trivial
    · cases moved
  | finalizing run =>
    rcases follows with ⟨stays, order, its, serves⟩
    cases run with
    | returned claim =>
      cases moved
      exact Completed.applied sound stays its serves
    | threw error =>
      cases moved
      trivial
    | _ =>
      simp only [Webhook.step] at moved
      rcases Option.map_eq_some_iff.mp moved with ⟨⟨wrote, final⟩, stepped, together⟩
      cases together
      exact ⟨stays, order, its, Finalize.step_serves serves kept stepped⟩
  | revoking =>
    cases fault with
    | rejected | lost =>
      cases moved
      trivial
    | none =>
      cases moved
      exact revoke_applied follows (covers rfl rfl)
  | finishing result =>
    rcases attempt_cases (Option.some.inj moved) with ⟨-, rfl⟩ | ⟨-, error, rfl⟩
    · exact keeps (Or.inr ⟨result, rfl⟩) follows
    · trivial
  | discarding =>
    rcases attempt_cases (Option.some.inj moved) with ⟨-, rfl⟩ | ⟨-, error, rfl⟩
    · trivial
    · trivial
  | accepted result | failed => cases moved

/-! ## The records of events -/

theorem complete_others {details : Database.Completion} (completed : db.completeCheckout details = .ok after) :
    after.webhooks = db.webhooks ∧ after.challenges = db.challenges := by
  unfold Database.completeCheckout at completed
  split at completed
  next middle inserted =>
    cases completed
    have first : (db.insertEntitlement details).webhooks = db.webhooks ∧
        (db.insertEntitlement details).challenges = db.challenges := by
      unfold Database.insertEntitlement
      split
      · exact ⟨rfl, rfl⟩
      · exact ⟨rfl, rfl⟩
    unfold Database.insertDevice at inserted
    split at inserted
    · cases inserted
    · split at inserted
      · cases inserted
        exact first
      · cases inserted
        exact first
  · cases completed

theorem insertClaim_others {secretHash publicKey keyHash termsVersion : String} {createdAt expiresAt : Nat}
    (inserted : db.insertCheckoutClaim id secretHash publicKey keyHash termsVersion createdAt expiresAt = .ok after) :
    after.webhooks = db.webhooks ∧ after.devices = db.devices ∧ after.challenges = db.challenges := by
  rcases insertClaim_cases inserted with ⟨claim, -, -, -, -, rfl⟩
  exact ⟨rfl, rfl, rfl⟩

theorem markPending_others {orderId approvalUrl : String}
    (marked : db.markCheckoutPending claimId orderId approvalUrl = .ok after) :
    after.webhooks = db.webhooks ∧ after.devices = db.devices ∧ after.challenges = db.challenges := by
  unfold Database.markCheckoutPending at marked
  split at marked
  · cases marked
  · cases marked
    exact ⟨rfl, rfl, rfl⟩

theorem challenge_others {entitlementId keyHash nonceHash : String}
    (created : db.createChallenge id entitlementId keyHash nonceHash now = .ok after) :
    after.webhooks = db.webhooks ∧ after.devices = db.devices := by
  unfold Database.createChallenge at created
  split at created
  · cases created
  · split at created
    · cases created
    · cases created
      exact ⟨rfl, rfl⟩

/-- Whether a statement is about the records of events. -/
def Statement.records : Statement -> Bool
  | .record _ _ _ => true
  | .finish _ _ _ => true
  | .discard _ => true
  | _ => false

theorem Statement.webhooks_same (statement : Statement) (other : statement.records = false) :
    (statement.apply db).webhooks = db.webhooks := by
  cases statement with
  | record eventId eventType now | finish eventId result now | discard eventId => cases other
  | insertClaim id secretHash publicKey keyHash termsVersion createdAt expiresAt =>
    exact @orElse_cases db _ (fun next => next.webhooks = db.webhooks) rfl fun _ inserted => (insertClaim_others inserted).1
  | markPending claimId orderId approvalUrl =>
    exact @orElse_cases db _ (fun next => next.webhooks = db.webhooks) rfl fun _ marked => (markPending_others marked).1
  | complete details =>
    exact @orElse_cases db _ (fun next => next.webhooks = db.webhooks) rfl fun _ completed => (complete_others completed).1
  | challenge id entitlementId keyHash nonceHash now =>
    exact @orElse_cases db _ (fun next => next.webhooks = db.webhooks) rfl fun _ created => (challenge_others created).1
  | activate entitlementId keyHash publicKey now limit =>
    simp only [Statement.apply, Database.activateDevice]
    split
    · rfl
    · rfl
  | revoke event now =>
    simp only [Statement.apply, Webhook.revoke]
    split
    · rfl
    · rfl
    · rfl
  | _ => rfl

theorem Statement.webhooks_kept (statement : Statement) {row : WebhookRow}
    (member : row ∈ (statement.apply db).webhooks.items) :
    (Exists fun before => before ∈ db.webhooks.items ∧ before.id = row.id ∧ before.processedAt = row.processedAt) ∨
      (Exists fun eventType => Exists fun now => statement = .record row.id eventType now ∧ row.processedAt = none) ∨
      (Exists fun result => Exists fun now => statement = .finish row.id result now ∧
        Exists fun before => before ∈ db.webhooks.items ∧ before.id = row.id) := by
  by_cases other : statement.records = false
  · rw [statement.webhooks_same other] at member
    exact Or.inl ⟨row, member, rfl, rfl⟩
  · cases statement with
    | record eventId eventType now =>
      simp only [Statement.apply, Database.recordWebhook] at member
      split at member
      · exact Or.inl ⟨row, member, rfl, rfl⟩
      · rcases Table.mem_insert.mp member with rfl | ⟨before, -⟩
        · exact Or.inr (Or.inl ⟨_, _, rfl, rfl⟩)
        · exact Or.inl ⟨row, before, rfl, rfl⟩
    | finish eventId result now =>
      rcases List.mem_filterMap.mp member with ⟨before, inside, same⟩
      cases same
      split
      next selected =>
        have same : before.id = eventId := of_decide_eq_true selected
        refine Or.inr (Or.inr ⟨result, now, ?_, before, inside, rfl⟩)
        rw [same]
      · exact Or.inl ⟨before, inside, rfl, rfl⟩
    | discard eventId =>
      rcases List.mem_filterMap.mp member with ⟨before, inside, same⟩
      split at same
      · cases same
      · cases same
        exact Or.inl ⟨row, inside, rfl, rfl⟩
    | _ => exact absurd rfl other

/-! ## Where statements come from -/

variable {worker : Worker}

theorem statement_marks {statement : Statement}
    (its : worker.statement service now = some statement) (marks : statement.marks = some order) :
    Exists fun claimId => Exists fun approvalUrl => worker = .checkout (.marking claimId order approvalUrl) := by
  unfold Worker.statement at its
  split at its
  all_goals try
    cases its
    cases marks
  · exact ⟨_, _, rfl⟩
  · rcases Option.bind_eq_some_iff.mp its with ⟨run, -, its⟩
    cases run with
    | beginning claimId capture startedAt | committing details | releasing claimId error =>
      cases its
      cases marks
    | _ => cases its

theorem statement_record {time : Nat} {eventType : String}
    (its : worker.statement service now = some (.record id eventType time)) :
    Exists fun eventId => worker = .webhook eventId .recording ∧ id = (service.event eventId).id := by
  unfold Worker.statement at its
  split at its
  all_goals try cases its
  · exact ⟨_, rfl, rfl⟩
  · rcases Option.bind_eq_some_iff.mp its with ⟨run, -, its⟩
    cases run with
    | _ => cases its

theorem statement_finish {time : Nat} {result : String}
    (its : worker.statement service now = some (.finish id result time)) :
    Exists fun eventId => worker = .webhook eventId (.finishing result) ∧ id = (service.event eventId).id := by
  unfold Worker.statement at its
  split at its
  all_goals try cases its
  · exact ⟨_, rfl, rfl⟩
  · rcases Option.bind_eq_some_iff.mp its with ⟨run, -, its⟩
    cases run with
    | _ => cases its

theorem statement_from {statement : Statement} (its : state.statement service event = some statement) :
    (Exists fun index => Exists fun fault => Exists fun answer => Exists fun worker =>
      event = .advance index fault answer ∧ state.workers[index]? = some worker ∧
        worker.statement service state.now = some statement) ∨
      (statement.marks = none ∧ statement.records = false ∧ forall details, statement ≠ .complete details) := by
  cases event with
  | advance index fault answer =>
    rcases Option.bind_eq_some_iff.mp its with ⟨worker, there, its⟩
    exact Or.inl ⟨index, fault, answer, worker, rfl, there, its⟩
  | cancel claimId | cleanup | revokeDevice entitlementId keyHash =>
    rw [← Option.some.inj its]
    exact Or.inr ⟨rfl, rfl, fun details same => by cases same⟩
  | _ => cases its

/-! ## The invariant -/

/-- What a worker keeps to: an order is not named before its link is given out, and a
delivery has done what it says of its event. -/
def Worker.Orderly (service : Service) (db : Database) (named : List String) : Worker -> Prop
  | .checkout (.marking _ orderId _) => orderId ∉ named
  | .webhook eventId run =>
    (forall order, given (service.event eventId).activates = some order -> order ∈ named) ∧
      run.Follows (service.event eventId) db
  | _ => True

/-- Every answered event has its effect, and every record that is processed. -/
structure Acknowledged (service : Service) (state : State) : Prop where
  workers : forall worker, worker ∈ state.workers -> worker.Orderly service state.db state.named
  rows : forall row, row ∈ state.db.webhooks.items ->
    (forall order, given (service.event row.id).activates = some order -> order ∈ state.named) ∧
      (row.processedAt.isSome = true -> Applied (service.event row.id) state.db)

theorem initial_acknowledged (service : Service) : Acknowledged service .initial :=
  ⟨fun _ member => absurd member List.not_mem_nil, fun _ member => absurd member List.not_mem_nil⟩

/-- Where a batch is executed, the condition is about its payment. -/
theorem effective_committing {fault : Fault}
    {details : Database.Completion} (holds : effective service state (.advance index fault answer) = true)
    (there : state.workers[index]? = some worker) (finalizing : worker.finalizing = some (.committing details)) :
    fault = .rejected ∨ state.db.entitlements.items.any details.conflicts = true ∨
      forall eventId, eventId ∈ state.processed -> (service.event eventId).revokes = true ->
        (service.event eventId).concerns details.orderId details.captureId = false := by
  have same : effective service state (.advance index fault answer) =
      (decide (fault = .rejected) || state.db.entitlements.items.any details.conflicts ||
        state.processed.all fun eventId => !((service.event eventId).revokes &&
          (service.event eventId).concerns details.orderId details.captureId)) := by
    unfold Worker.finalizing at finalizing
    split at finalizing
    · cases finalizing
      simp only [effective, there, Worker.finalizing]
    · cases finalizing
      simp only [effective, there, Worker.finalizing]
    · cases finalizing
      simp only [effective, there, Worker.finalizing]
    · cases finalizing
  rw [same, Bool.or_eq_true, Bool.or_eq_true, decide_eq_true_eq, List.all_eq_true] at holds
  rcases holds with (rejected | conflict) | free
  · exact Or.inl rejected
  · exact Or.inr (Or.inl conflict)
  · refine Or.inr (Or.inr ?_)
    intro eventId member revokes
    simpa only [revokes, Bool.true_and, Bool.not_eq_true'] using free eventId member

theorem applied_kept (valid : Valid service state) (acknowledged : Acknowledged service state)
    (holds : effective service state event = true) (moved : state.act service event = some next)
    (effect : Applied (service.event eventId) state.db)
    (listed : forall order, given (service.event eventId).activates = some order -> order ∈ state.named)
    (processed : eventId ∈ state.processed ∨ forall details, state.statement service event ≠ some (.complete details)) :
    Applied (service.event eventId) next.db := by
  rcases act_writes moved with same | ⟨statement, its, wrote⟩
  · rw [same]
    exact effect
  · have allowed := act_allowed valid moved its
    have unnamed : forall order, statement.marks = some order -> order ∉ state.named := by
      intro order marks
      rcases statement_from its with ⟨index, fault, answer, worker, -, there, its⟩ | ⟨nothing, -, -⟩
      · rcases statement_marks its marks with ⟨claimId, approvalUrl, rfl⟩
        exact acknowledged.workers _ (List.mem_of_getElem? there)
      · rw [nothing] at marks
        cases marks
    by_cases rejected : next.db = state.db
    · rw [rejected]
      exact effect
    · rw [wrote]
      apply effect.kept listed (statement.ordersKept allowed unnamed)
      intro revokes final member concerned
      rcases statement.entitlements_kept allowed member with old | ⟨details, rfl, rfl, free⟩
      · exact old
      · rcases processed with processed | other
        · rcases statement_from its with ⟨index, fault, answer, worker, rfl, there, its⟩ | ⟨-, -, other⟩
          · have finalizing := statement_complete its
            rcases effective_committing holds there finalizing with refused | conflict | apart
            · rcases act_advance moved with ⟨same, later, again, -, stepped, -⟩
              cases there.symm.trans again
              exact absurd ((committing_step finalizing stepped).2 refused) rejected
            · rw [free] at conflict
              cases conflict
            · have apart := apart eventId processed revokes
              have concerned : (service.event eventId).concerns details.orderId details.captureId = true := concerned
              rw [apart] at concerned
              cases concerned
          · exact absurd rfl (other details)
        · exact absurd its (other details)

theorem mem_processed_of_worker {run : Webhook} (member : Worker.webhook eventId run ∈ state.workers)
    (answering : (Exists fun result => run = .finishing result) ∨ Exists fun result => run = .accepted result) :
    eventId ∈ state.processed := by
  apply List.mem_append_left
  apply List.mem_filterMap.mpr
  refine ⟨_, member, ?_⟩
  rcases answering with ⟨result, rfl⟩ | ⟨result, rfl⟩
  · rfl
  · rfl

theorem mem_processed_of_row {row : WebhookRow} (member : row ∈ state.db.webhooks.items)
    (done : row.processedAt.isSome = true) : row.id ∈ state.processed :=
  List.mem_append_right _ (List.mem_map_of_mem (List.mem_filter.mpr ⟨member, done⟩))

/-! ## Steps -/

theorem Webhook.Follows.later {event : PayPalEvent} {run : Webhook} (follows : run.Follows event db)
    (kept : ClaimsKept db after)
    (keeps : ((Exists fun result => run = .finishing result) ∨ Exists fun result => run = .accepted result) ->
      Applied event db -> Applied event after) : run.Follows event after := by
  cases run with
  | capturing claim =>
    rcases follows with ⟨stays, order, its, has⟩
    exact ⟨stays, order, its, has.later kept⟩
  | finalizing run =>
    rcases follows with ⟨stays, order, its, serves⟩
    exact ⟨stays, order, its, serves.later kept⟩
  | finishing result => exact keeps (Or.inl ⟨result, rfl⟩) follows
  | accepted result => exact keeps (Or.inr ⟨result, rfl⟩) follows
  | looking order | revoking => exact follows
  | _ => trivial

theorem act_named (moved : state.act service event = some next) :
    next.named = state.named ∨ Exists fun eventId => Exists fun order => event = .deliver eventId ∧
      given (service.event eventId).activates = some order ∧ state.hidden order = false ∧
      next.named = order :: state.named := by
  cases event with
  | deliver eventId =>
    simp only [State.act] at moved
    split at moved
    next order its =>
      split at moved
      · cases moved
      next shown =>
        cases moved
        exact Or.inr ⟨eventId, order, rfl, its, by simpa using shown, rfl⟩
    · cases moved
      exact Or.inl rfl
  | advance index fault answer =>
    rcases act_advance moved with ⟨worker, later, -, -, -, same⟩
    rw [same]
    exact Or.inl rfl
  | kill index =>
    rcases Option.bind_eq_some_iff.mp moved with ⟨worker, there, rest⟩
    split at rest
    · cases rest
    · cases rest
      exact Or.inl rfl
  | begin claimId secret publicKey termsVersion termsAccepted
  | activate recoveryCode publicKey termsVersion termsAccepted | challenge token | refresh proof =>
    simp only [State.act] at moved
    split at moved
    · cases moved
      exact Or.inl rfl
    · cases moved
  | _ =>
    cases moved
    exact Or.inl rfl

theorem deliver_named (moved : state.act service (.deliver eventId) = some next)
    (its : given (service.event eventId).activates = some order) : order ∈ next.named := by
  simp only [State.act, its] at moved
  split at moved
  · cases moved
  · cases moved
    exact List.mem_cons_self

theorem Worker.Orderly.later {named more : List String} (orderly : worker.Orderly service db named)
    (kept : ClaimsKept db after) (grows : forall order, order ∈ named -> order ∈ more)
    (hidden : forall claimId order approvalUrl, worker = .checkout (.marking claimId order approvalUrl) -> order ∉ more)
    (keeps : forall eventId run, worker = .webhook eventId run ->
      ((Exists fun result => run = .finishing result) ∨ Exists fun result => run = .accepted result) ->
        Applied (service.event eventId) db -> Applied (service.event eventId) after) :
    worker.Orderly service after more := by
  cases worker with
  | checkout run =>
    cases run with
    | marking claimId order approvalUrl => exact hidden claimId order approvalUrl rfl
    | _ => trivial
  | webhook eventId run =>
    exact ⟨fun order its => grows order (orderly.1 order its), orderly.2.later kept (keeps eventId run rfl)⟩
  | _ => trivial

theorem Checkout.step_orderly {fault : Fault} {run later : Checkout} {named : List String}
    (admissible : forall order approvalUrl, answer = .created (some (order, approvalUrl)) -> order ∉ named)
    (moved : run.step service db fault answer = some (after, later)) :
    (Worker.checkout later).Orderly service after named := by
  cases run with
  | ordering claimId =>
    simp only [Checkout.step] at moved
    split at moved
    next order approvalUrl =>
      cases moved
      exact admissible order approvalUrl rfl
    · cases moved
      trivial
    · cases moved
  | inserting claimId secretHash publicKey keyHash createdAt | marking claimId order approvalUrl
  | failing claimId =>
    rcases attempt_cases (Option.some.inj moved) with ⟨-, rfl⟩ | ⟨-, error, rfl⟩
    · trivial
    · trivial
  | answered claimId approvalUrl | refused => cases moved

theorem effective_recording (holds : effective service state (.advance index .none answer) = true)
    (there : state.workers[index]? = some (.webhook eventId .recording)) {row : WebhookRow}
    (found : state.db.webhooks.find? (service.event eventId).id = some row) :
    row.processedAt.isSome = true ∨ applied (service.event eventId) state.db = true := by
  simpa [effective, there, found] using holds

/-- What the condition says where a revocation is executed. -/
theorem effective_revoking (holds : effective service state (.advance index .none answer) = true)
    (there : state.workers[index]? = some (.webhook eventId .revoking)) {entitlement : Entitlement}
    (member : entitlement ∈ state.db.entitlements.items)
    (concerned : (service.event eventId).concerns entitlement.paypalOrderId entitlement.paypalCaptureId = true) :
    entitlement.status = .revoked ∨ (service.event eventId).selects entitlement = true := by
  simp only [effective, there, ne_eq, not_true_eq_false, decide_false, Bool.false_or, List.all_eq_true] at holds
  have either := holds entitlement member
  simpa [concerned] using either

theorem advance_orderly (lawful : service.Lawful) (valid : Valid service state) (acknowledged : Acknowledged service state)
    {fault : Fault}
    (holds : effective service state (.advance index fault answer) = true)
    (moved : state.act service (.advance index fault answer) = some next) {later : Worker}
    (there : state.workers[index]? = some worker) (admissible : state.admissible answer = true)
    (stepped : worker.step service state.db state.now fault answer = some (next.db, later)) :
    later.Orderly service next.db state.named := by
  have kept := act_kept valid moved
  have orderly := acknowledged.workers worker (List.mem_of_getElem? there)
  cases worker with
  | killed => cases stepped
  | checkout run =>
    rcases Option.map_eq_some_iff.mp stepped with ⟨⟨wrote, final⟩, ran, same⟩
    cases same
    apply Checkout.step_orderly _ ran
    rintro order approvalUrl rfl
    exact of_decide_eq_true admissible
  | webhook eventId run =>
    rcases Option.map_eq_some_iff.mp stepped with ⟨⟨wrote, final⟩, ran, same⟩
    cases same
    rcases orderly with ⟨listed, follows⟩
    refine ⟨listed, Webhook.step_follows valid.sound kept ?_ ?_ ?_ follows ran⟩
    · intro writes effect
      apply applied_kept valid acknowledged holds moved effect listed
      refine Or.inr fun details its => ?_
      simp only [State.statement, there, Option.bind_some] at its
      have finalizing := statement_complete its
      rcases writes with rfl | ⟨result, rfl⟩
      · cases finalizing
      · cases finalizing
    · rintro rfl rfl recorded
      rcases Option.isSome_iff_exists.mp recorded with ⟨row, found⟩
      rcases effective_recording holds there found with processed | effect
      · rcases Table.find?_eq_some.mp found with ⟨member, same⟩
        have effect := (acknowledged.rows row member).2 processed
        rwa [same, lawful.event] at effect
      · exact applied_sound effect
    · rintro rfl rfl entitlement member concerned
      exact effective_revoking holds there member concerned
  | _ =>
    rcases Option.map_eq_some_iff.mp stepped with ⟨⟨wrote, final⟩, stepped, same⟩
    cases same
    trivial

theorem act_acknowledged (lawful : service.Lawful) (valid : Valid service state) (acknowledged : Acknowledged service state)
    (holds : effective service state event = true) (moved : state.act service event = some next) :
    Acknowledged service next := by
  have kept := act_kept valid moved
  have grows : forall order, order ∈ state.named -> order ∈ next.named := by
    intro order listed
    rcases act_named moved with same | ⟨eventId, other, -, -, -, same⟩
    · exact same ▸ listed
    · exact same ▸ List.mem_cons_of_mem other listed
  have old : forall worker, worker ∈ state.workers -> worker.Orderly service next.db next.named := by
    intro worker member
    apply (acknowledged.workers worker member).later kept grows
    · rintro claimId order approvalUrl rfl
      have unnamed : order ∉ state.named := acknowledged.workers _ member
      rcases act_named moved with same | ⟨eventId, other, -, -, shown, same⟩
      · rwa [same]
      · rw [same, List.mem_cons, not_or]
        refine ⟨?_, unnamed⟩
        rintro rfl
        have hidden : state.hidden order = true :=
          List.any_eq_true.mpr ⟨_, member, decide_eq_true rfl⟩
        rw [shown] at hidden
        cases hidden
    · rintro eventId run rfl answering effect
      exact applied_kept valid acknowledged holds moved effect (acknowledged.workers _ member).1
        (Or.inl (mem_processed_of_worker member answering))
  constructor
  · intro worker member
    cases act_workers moved with
    | same workers writes => exact old worker (workers ▸ member)
    | start added starting requested delivered db workers =>
      rw [workers, List.mem_append, List.mem_singleton] at member
      rcases member with there | rfl
      · exact old worker there
      · cases worker with
        | checkout run =>
          cases run with
          | marking claimId order approvalUrl => cases starting
          | _ => trivial
        | webhook eventId run =>
          cases run with
          | recording =>
            refine ⟨?_, trivial⟩
            intro order its
            have same := delivered eventId _ rfl
            rw [same] at moved
            exact deliver_named moved its
          | _ => cases starting
        | _ => trivial
    | advance index fault answer before after there admissible stepped workers =>
      rw [workers] at member
      rcases List.mem_or_eq_of_mem_set member with same | rfl
      · exact old worker same
      · rcases act_named moved with same | ⟨eventId, order, same, -⟩
        · rw [same]
          exact advance_orderly lawful valid acknowledged holds moved there admissible stepped
        · cases same
    | kill index before there unfinished db workers =>
      rw [workers] at member
      rcases List.mem_or_eq_of_mem_set member with same | rfl
      · exact old worker same
      · trivial
  · intro row member
    rcases act_writes moved with same | ⟨statement, its, wrote⟩
    · rw [same] at member ⊢
      have before := acknowledged.rows row member
      exact ⟨fun order its => grows order (before.1 order its), before.2⟩
    · rw [wrote] at member
      rcases statement.webhooks_kept member with ⟨before, inside, same, processed⟩ |
          ⟨eventType, time, rfl, fresh⟩ | ⟨result, time, rfl, -⟩
      · have earlier := acknowledged.rows before inside
        rw [same] at earlier
        refine ⟨fun order its => grows order (earlier.1 order its), ?_⟩
        intro done
        rw [← processed] at done
        exact applied_kept valid acknowledged holds moved (earlier.2 done) earlier.1
          (Or.inl (same ▸ mem_processed_of_row inside done))
      · rcases statement_from its with ⟨index, fault, answer, worker, rfl, there, its⟩ | ⟨-, other, -⟩
        · rcases statement_record its with ⟨eventId, rfl, same⟩
          rw [lawful.event] at same
          rw [same]
          refine ⟨?_, ?_⟩
          · intro order its
            exact grows order ((acknowledged.workers _ (List.mem_of_getElem? there)).1 order its)
          · intro done
            rw [fresh] at done
            cases done
        · cases other
      · rcases statement_from its with ⟨index, fault, answer, worker, rfl, there, its⟩ | ⟨-, other, -⟩
        · rcases statement_finish its with ⟨eventId, rfl, same⟩
          rw [lawful.event] at same
          rw [same]
          have orderly := old _ (List.mem_of_getElem? there)
          exact ⟨orderly.1, fun _ => orderly.2⟩
        · cases other

/-! ## Runs -/

theorem step_acknowledged (lawful : service.Lawful) (valid : Valid service state)
    (acknowledged : Acknowledged service state) (holds : effective service state event = true)
    (moved : (serviceMachine service).step state event = some next) : Acknowledged service next := by
  rcases Option.map_eq_some_iff.mp moved with ⟨middle, acted, rfl⟩
  have later := act_acknowledged lawful valid acknowledged holds acted
  exact ⟨later.workers, later.rows⟩

theorem finished_stays (finished : worker.finished = true)
    (stuck : forall db now fault answer, worker.step service db now fault answer = none)
    (member : worker ∈ state.workers) (moved : (serviceMachine service).step state event = some next) :
    worker ∈ next.workers := by
  rcases machine_act moved with ⟨middle, acted, -, -, workers⟩
  rw [workers]
  have elsewhere : forall index other after, state.workers[index]? = some other -> other ≠ worker ->
      worker ∈ state.workers.set index after := by
    intro index other after there apart
    rcases List.mem_iff_getElem?.mp member with ⟨place, found⟩
    apply List.mem_iff_getElem?.mpr
    refine ⟨place, ?_⟩
    rw [List.getElem?_set_ne]
    · exact found
    · rintro rfl
      exact apart (Option.some.inj (there.symm.trans found))
  cases act_workers acted with
  | same workers writes => exact workers ▸ member
  | start added starting requested delivered db workers => exact workers ▸ List.mem_append_left _ member
  | advance index fault answer before after there admissible stepped workers =>
    rw [workers]
    apply elsewhere index before after there
    rintro rfl
    rw [stuck] at stepped
    cases stepped
  | kill index before there unfinished db workers =>
    rw [workers]
    apply elsewhere index before _ there
    rintro rfl
    rw [finished] at unfinished
    cases unfinished

/-- In a run whose steps acknowledge no event without its effect, an event that has been
answered is applied, and stays so. -/
theorem answered_events_are_applied (lawful : service.Lawful) {events : List Event}
    (run : (serviceMachine service).Run (fun state event => effective service state event = true) .initial events state)
    {eventId result : String} (answered : Worker.webhook eventId (.accepted result) ∈ state.workers)
    {later : List Event} {final : State}
    (afterwards : (serviceMachine service).Run (fun state event => effective service state event = true) state later final) :
    Applied (service.event eventId) final.db := by
  have both : forall {one two : State} {steps : List Event},
      (serviceMachine service).Run (fun state event => effective service state event = true) one steps two ->
        Valid service one -> Acknowledged service one -> Valid service two ∧ Acknowledged service two := by
    intro one two steps run
    induction run with
    | stop state => exact fun valid acknowledged => ⟨valid, acknowledged⟩
    | take allowed moved later ih =>
      intro valid acknowledged
      exact ih (step_valid lawful valid moved) (step_acknowledged lawful valid acknowledged allowed moved)
  have start := both run (initial_valid service) (initial_acknowledged service)
  have ended := both afterwards start.1 start.2
  have stays : Worker.webhook eventId (.accepted result) ∈ final.workers := by
    apply afterwards.invariant (fun state => Worker.webhook eventId (.accepted result) ∈ state.workers) _ answered
    intro state event next _ member moved
    exact finished_stays rfl (fun _ _ _ _ => rfl) member moved
  exact (ended.2.workers _ stays).2

/-! ## Events that are answered without their effect -/

/-- The refund of the checkout's capture. -/
def refundEvent (id : String) : PayPalEvent :=
  ⟨id, "PAYMENT.CAPTURE.REFUNDED", some ⟨none, none, [], some "capture", none, [], none⟩⟩

def refundingService : Service := { plainService with event := refundEvent }

theorem refundingService_lawful : refundingService.Lawful := ⟨fun _ _ => rfl, fun _ => rfl⟩

/-- A checkout that is completed, and a refund whose first delivery dies. -/
def diedEvents : List Event :=
  checkoutEvents ++ returnEvents 1 ++ stepsOf 1 firstDraw 6 ++
    [.deliver "refund", .advance 2 .none .none, .kill 2, .deliver "refund", .advance 3 .none .none]

/-- A refund that is answered while a run of `finalizePaidOrder` has read the order. -/
def overtakenEvents : List Event :=
  checkoutEvents ++ returnEvents 1 ++ [.deliver "refund", .advance 2 .none .none, .advance 2 .none .none,
    .advance 2 .none .none] ++ stepsOf 1 firstDraw 6

/-- The state after a schedule has an active entitlement for a refund that was answered. -/
def Unrevoked (events : List Event) (result : String) : Prop :=
  Exists fun state => (serviceMachine refundingService).Run Machine.anything .initial events state ∧
    Worker.webhook "refund" (.accepted result) ∈ state.workers ∧
    Exists fun entitlement => entitlement ∈ state.db.entitlements.items ∧ entitlement.status = .active ∧
      (refundEvent "refund").concerns entitlement.paypalOrderId entitlement.paypalCaptureId = true

/-- A refund is answered as a duplicate of a delivery that died, and as not found before
the entitlement is made. -/
theorem answered_refunds_leave_access :
    refundingService.Lawful ∧ Unrevoked diedEvents "duplicate" ∧ Unrevoked overtakenEvents "not_found" :=
  ⟨refundingService_lawful, Machine.exists_run (by decide +kernel), Machine.exists_run (by decide +kernel)⟩

/-- A checkout that is completed, and refunded. -/
def refundedEvents : List Event :=
  checkoutEvents ++ returnEvents 1 ++ stepsOf 1 firstDraw 6 ++
    [.deliver "refund", .advance 2 .none .none, .advance 2 .none .none, .advance 2 .none .none]

theorem refund_is_applied : Exists fun state => (serviceMachine refundingService).Run
    (fun state event => effective refundingService state event = true) .initial refundedEvents state ∧
      state.db.entitlements.items.length = 1 ∧ Applied (refundEvent "refund") state.db := by
  have replayed : (((serviceMachine refundingService).guarded (effective refundingService)).replay .initial
      refundedEvents).any (fun state => decide (.webhook "refund" (.accepted "revoked") ∈ state.workers ∧
        state.db.entitlements.items.length = 1)) = true := by
    decide +kernel
  exact (Machine.exists_guarded_run replayed).imp fun state ⟨run, answered, one⟩ =>
    ⟨run, one, answered_events_are_applied refundingService_lawful run answered (.stop state)⟩

end Supporter
end TelegramDrive
