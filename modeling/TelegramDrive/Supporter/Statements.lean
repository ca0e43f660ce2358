import TelegramDrive.Supporter.Requests

namespace TelegramDrive
namespace Supporter

/-!
# What a step does to the database

Every step of the service leaves the database as it is, or runs one statement.  The
statement depends on where the worker waits, and not on how the step ends.
-/

/-- The statements that write. -/
inductive Statement
  | insertClaim (id secretHash publicKey keyHash termsVersion : String) (createdAt expiresAt : Nat)
  | markPending (claimId orderId approvalUrl : String)
  | markFailed (claimId errorCode : String)
  | cancel (claimId : String)
  | begin (claimId : String) (startedAt : Nat)
  | release (claimId : String)
  | acknowledge (claimId : String) (time : Nat)
  | complete (details : Database.Completion)
  | activate (entitlementId keyHash publicKey : String) (now limit : Nat)
  | touch (entitlementId keyHash : String) (now : Nat)
  | revokeDevice (entitlementId keyHash : String) (now : Nat)
  | revoke (event : PayPalEvent) (now : Nat)
  | challenge (id entitlementId keyHash nonceHash : String) (now : Nat)
  | consume (id entitlementId keyHash nonceHash : String) (now : Nat)
  | record (eventId eventType : String) (now : Nat)
  | finish (eventId result : String) (now : Nat)
  | discard (eventId : String)
  | cleanup (now : Nat)

/-- What is left if a statement fails by a constraint: the database as it was. -/
def orElse (db : Database) : Except String Database -> Database
  | .ok next => next
  | .error _ => db

def Statement.apply (db : Database) : Statement -> Database
  | .insertClaim id secretHash publicKey keyHash termsVersion createdAt expiresAt =>
    orElse db (db.insertCheckoutClaim id secretHash publicKey keyHash termsVersion createdAt expiresAt)
  | .markPending claimId orderId approvalUrl => orElse db (db.markCheckoutPending claimId orderId approvalUrl)
  | .markFailed claimId errorCode => db.markCheckoutFailed claimId errorCode
  | .cancel claimId => db.markCheckoutCancelled claimId
  | .begin claimId startedAt => (db.beginCheckoutCompletion claimId startedAt true).1
  | .release claimId => db.releaseCheckoutCompletion claimId
  | .acknowledge claimId time => db.acknowledgeCheckoutReceipt claimId time
  | .complete details => orElse db (db.completeCheckout details)
  | .activate entitlementId keyHash publicKey now limit =>
    (db.activateDevice entitlementId keyHash publicKey now limit).1
  | .touch entitlementId keyHash now => db.touchDevice entitlementId keyHash now
  | .revokeDevice entitlementId keyHash now => db.revokeDevice entitlementId keyHash now
  | .revoke event now => (Webhook.revoke db event now).1
  | .challenge id entitlementId keyHash nonceHash now =>
    orElse db (db.createChallenge id entitlementId keyHash nonceHash now)
  | .consume id entitlementId keyHash nonceHash now =>
    (db.consumeChallenge id entitlementId keyHash nonceHash now).1
  | .record eventId eventType now => (db.recordWebhook eventId eventType now).1
  | .finish eventId result now => db.finishWebhook eventId result now
  | .discard eventId => db.discardWebhook eventId
  | .cleanup now => db.cleanupExpiredRecords now

/-! ## The statement of a worker -/

def Finalize.statement : Finalize -> Option Statement
  | .beginning claimId _ startedAt => some (.begin claimId startedAt)
  | .committing details => some (.complete details)
  | .releasing claimId _ => some (.release claimId)
  | _ => none

/-- The run of `finalizePaidOrder` that a worker is in. -/
def Worker.finalizing : Worker -> Option Finalize
  | .poll (.finalizing run) => some run
  | .page (.finalizing run) => some run
  | .webhook _ (.finalizing run) => some run
  | _ => none

/-- The statement at which a worker waits. -/
def Worker.statement (service : Service) (now : Nat) (worker : Worker) : Option Statement :=
  match worker with
  | .checkout (.inserting claimId secretHash publicKey keyHash createdAt) =>
    some (.insertClaim claimId secretHash publicKey keyHash service.termsVersion createdAt (createdAt + 30 * 60))
  | .checkout (.marking claimId orderId approvalUrl) => some (.markPending claimId orderId approvalUrl)
  | .checkout (.failing claimId) => some (.markFailed claimId "PAYPAL_ORDER_FAILED")
  | .webhook eventId .recording =>
    some (.record (service.event eventId).id (service.event eventId).eventType now)
  | .webhook eventId .revoking => some (.revoke (service.event eventId) now)
  | .webhook eventId (.finishing result) => some (.finish (service.event eventId).id result now)
  | .webhook eventId .discarding => some (.discard (service.event eventId).id)
  | .acknowledge (.writing claimId) => some (.acknowledge claimId now)
  | .activate (.admitting entitlementId publicKey) =>
    some (.activate entitlementId (service.primitives.sha256Text publicKey) publicKey now
      service.maxActiveDevices)
  | .challenge (.inserting claims challengeId nonce created) =>
    some (.challenge challengeId claims.entitlementId claims.deviceKeyHash
      (service.primitives.sha256Text nonce) created)
  | .refresh (.consuming claims proof _ read) =>
    some (.consume proof.challengeId claims.entitlementId claims.deviceKeyHash
      (service.primitives.sha256Text proof.nonce) read)
  | .refresh (.touching claims _ _ _) => some (.touch claims.entitlementId claims.deviceKeyHash now)
  | worker => worker.finalizing.bind Finalize.statement

/-- The statement of an event. -/
def State.statement (service : Service) (state : State) : Event -> Option Statement
  | .cancel claimId => some (.cancel claimId)
  | .cleanup => some (.cleanup state.now)
  | .revokeDevice entitlementId keyHash => some (.revokeDevice entitlementId keyHash state.now)
  | .advance index _ _ => state.workers[index]?.bind (Worker.statement service state.now)
  | _ => none

/-! ## Steps and their statements -/

variable {service : Service} {db next : Database} {now : Nat} {fault : Fault} {answer : Answer}

/-- The database after a step: as it was, or as a statement leaves it. -/
def Writes (db next : Database) (statement : Option Statement) : Prop :=
  next = db ∨ Exists fun one => statement = some one ∧ next = one.apply db

theorem Writes.nothing (db : Database) (statement : Option Statement) : Writes db db statement := Or.inl rfl

/-- A call that ends as it should has left its result; otherwise the run goes on with
an error, and the result may be there or not. -/
theorem attempt_cases {Run : Type} {result : Except String Database} {failed : String -> Run} {done after : Run}
    (moved : attempt fault db result failed done = (next, after)) :
    (result = .ok next ∧ after = done) ∨
      ((next = db ∨ result = .ok next) ∧ Exists fun error => after = failed error) := by
  unfold attempt at moved
  split at moved
  · cases moved
    exact Or.inr ⟨Or.inl rfl, _, rfl⟩
  · cases moved
    exact Or.inr ⟨Or.inl rfl, _, rfl⟩
  · cases moved
    exact Or.inl ⟨rfl, rfl⟩
  · cases moved
    exact Or.inr ⟨Or.inr rfl, _, rfl⟩

theorem attempt_writes {Run : Type} {result : Except String Database} {failed : String -> Run} {done after : Run}
    (moved : some (attempt fault db result failed done) = some (next, after)) {statement : Statement}
    (applied : statement.apply db = orElse db result) : Writes db next (some statement) := by
  have wrote : result = .ok next -> Writes db next (some statement) := by
    intro same
    refine Or.inr ⟨statement, rfl, ?_⟩
    rw [applied, same]
    rfl
  rcases attempt_cases (Option.some.inj moved) with ⟨same, -⟩ | ⟨rfl | same, -⟩
  · exact wrote same
  · exact Or.inl rfl
  · exact wrote same

theorem Finalize.step_writes {draw : Draw} {run after : Finalize}
    (moved : run.step service db now draw fault = some (next, after)) : Writes db next run.statement := by
  cases run with
  | beginning claimId capture startedAt | releasing claimId error => exact attempt_writes moved rfl
  | committing details =>
    simp only [Finalize.step] at moved
    split at moved
    · cases moved
    · exact attempt_writes moved rfl
  | returned claim | threw error => cases moved
  | _ =>
    cases moved
    exact .nothing db _

theorem Checkout.step_writes {run after : Checkout}
    (moved : run.step service db fault answer = some (next, after)) :
    Writes db next ((Worker.checkout run).statement service now) := by
  cases run with
  | inserting claimId secretHash publicKey keyHash createdAt | marking claimId orderId approvalUrl
  | failing claimId => exact attempt_writes moved rfl
  | ordering claimId =>
    simp only [Checkout.step] at moved
    split at moved
    · cases moved
      exact .nothing db _
    · cases moved
      exact .nothing db _
    · cases moved
  | answered claimId approvalUrl | refused => cases moved

/-- A step of the run of `finalizePaidOrder` that a worker is in. -/
theorem finalizing_writes {Run : Type} {draw : Draw} {run : Finalize} {into : Finalize -> Run} {after : Run}
    (moved : ((run.step service db now draw fault).map fun (next, run) => (next, into run)) = some (next, after))
    {statement : Option Statement} (same : statement = run.statement) : Writes db next statement := by
  rcases Option.map_eq_some_iff.mp moved with ⟨⟨wrote, later⟩, stepped, together⟩
  cases together
  rw [same]
  exact Finalize.step_writes stepped

/-- A run that only reads leaves the database. -/
theorem reading_writes {Run Inner : Type} {inner : Option Inner} {into : Inner -> Run} {after : Run}
    (moved : (inner.map fun run => (db, into run)) = some (next, after)) (statement : Option Statement) :
    Writes db next statement := by
  rcases Option.map_eq_some_iff.mp moved with ⟨later, -, together⟩
  cases together
  exact .nothing db _

theorem Poll.step_writes {run after : Poll}
    (moved : run.step service db now fault answer = some (next, after)) :
    Writes db next ((Worker.poll run).statement service now) := by
  unfold Poll.step at moved
  split at moved
  · cases moved
    exact .nothing db _
  · have same : next = db := by grind
    rw [same]
    exact .nothing db _
  · cases moved
    exact .nothing db _
  · cases moved
    exact .nothing db _
  · exact finalizing_writes moved rfl
  · cases moved
    exact .nothing db _
  · cases moved
    exact .nothing db _
  · exact reading_writes moved _
  all_goals cases moved

theorem Page.step_writes {run after : Page}
    (moved : run.step service db now fault answer = some (next, after)) :
    Writes db next ((Worker.page run).statement service now) := by
  unfold Page.step at moved
  split at moved
  · cases moved
    exact .nothing db _
  · have same : next = db := by grind
    rw [same]
    exact .nothing db _
  · cases moved
    exact .nothing db _
  · cases moved
    exact .nothing db _
  · exact finalizing_writes moved rfl
  all_goals cases moved

theorem Webhook.step_writes {eventId : String} {run after : Webhook}
    (moved : run.step service db now fault answer (service.event eventId) = some (next, after)) :
    Writes db next ((Worker.webhook eventId run).statement service now) := by
  unfold Webhook.step at moved
  split at moved
  · exact attempt_writes moved rfl
  · cases moved
    exact .nothing db _
  · have same : next = db := by grind
    rw [same]
    exact .nothing db _
  · cases moved
    exact .nothing db _
  · cases moved
    exact .nothing db _
  · exact finalizing_writes moved rfl
  · exact attempt_writes moved rfl
  · exact attempt_writes moved rfl
  · exact attempt_writes moved rfl
  all_goals cases moved

theorem Acknowledge.step_writes {run after : Acknowledge}
    (moved : run.step service db now fault = some (next, after)) :
    Writes db next ((Worker.acknowledge run).statement service now) := by
  cases run with
  | reading claimId secret =>
    cases moved
    exact .nothing db _
  | writing claimId => exact attempt_writes moved rfl
  | done | refused => cases moved

theorem Activate.step_writes {run after : Activate}
    (moved : run.step service db now fault = some (next, after)) :
    Writes db next ((Worker.activate run).statement service now) := by
  cases run with
  | looking lookupHash publicKey =>
    cases moved
    exact .nothing db _
  | admitting entitlementId publicKey => exact attempt_writes moved rfl
  | issuing run => exact reading_writes moved _
  | refused => cases moved

theorem Challenging.step_writes {draw : Draw} {run after : Challenging}
    (moved : run.step service db now fault draw = some (next, after)) :
    Writes db next ((Worker.challenge run).statement service now) := by
  cases run with
  | entitlement claims | device claims found =>
    cases moved
    exact .nothing db _
  | inserting claims challengeId nonce created => exact attempt_writes moved rfl
  | answered challengeId nonce | refused => cases moved

theorem Refresh.step_writes {run after : Refresh}
    (moved : run.step service db now fault = some (next, after)) :
    Writes db next ((Worker.refresh run).statement service now) := by
  cases run with
  | device claims proof =>
    cases moved
    exact .nothing db _
  | consuming claims proof registered read | touching claims proof registered read =>
    exact attempt_writes moved rfl
  | issuing proof registered read run => exact reading_writes moved _
  | refused => cases moved

theorem Worker.step_writes {worker after : Worker}
    (moved : worker.step service db now fault answer = some (next, after)) :
    Writes db next (worker.statement service now) := by
  cases worker with
  | killed => cases moved
  | webhook eventId run =>
    rcases Option.map_eq_some_iff.mp moved with ⟨⟨wrote, later⟩, stepped, same⟩
    cases same
    exact Webhook.step_writes stepped
  | checkout run =>
    rcases Option.map_eq_some_iff.mp moved with ⟨⟨wrote, later⟩, stepped, same⟩
    cases same
    exact Checkout.step_writes stepped
  | poll run =>
    rcases Option.map_eq_some_iff.mp moved with ⟨⟨wrote, later⟩, stepped, same⟩
    cases same
    exact Poll.step_writes stepped
  | page run =>
    rcases Option.map_eq_some_iff.mp moved with ⟨⟨wrote, later⟩, stepped, same⟩
    cases same
    exact Page.step_writes stepped
  | acknowledge run =>
    rcases Option.map_eq_some_iff.mp moved with ⟨⟨wrote, later⟩, stepped, same⟩
    cases same
    exact Acknowledge.step_writes stepped
  | activate run =>
    rcases Option.map_eq_some_iff.mp moved with ⟨⟨wrote, later⟩, stepped, same⟩
    cases same
    exact Activate.step_writes stepped
  | challenge run =>
    rcases Option.map_eq_some_iff.mp moved with ⟨⟨wrote, later⟩, stepped, same⟩
    cases same
    exact Challenging.step_writes stepped
  | refresh run =>
    rcases Option.map_eq_some_iff.mp moved with ⟨⟨wrote, later⟩, stepped, same⟩
    cases same
    exact Refresh.step_writes stepped

end Supporter
end TelegramDrive
