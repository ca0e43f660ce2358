import TelegramDrive.Supporter.Runs

namespace TelegramDrive
namespace Supporter

/-!
# One entitlement for each paid checkout

A batch inserts its entitlement whatever the status of the claim, and completes the
claim only if the claim is processed.  The lease of a run may have been given back by
another run, or by the cleanup, before its batch is executed.
-/

variable {service : Service} {state next : State} {event : Event} {db after : Database}

/-! ## The condition -/

/-- Whether a batch that takes effect finds its claim in processing. -/
def leasedBatch (db : Database) (details : Database.Completion) : Bool :=
  db.entitlements.items.any details.conflicts ||
    (db.getCheckoutClaim details.claim.id).any fun claim => decide (claim.status = .processing)

/-- Whether no batch takes effect behind a lease that is lost. -/
def leased (state : State) : Event -> Bool
  | .advance index fault _ =>
    match state.workers[index]?.bind Worker.finalizing with
    | some (.committing details) => decide (fault = .rejected) || leasedBatch state.db details
    | _ => true
  | _ => true

/-! ## Entitlements have completed claims -/

/-- Every entitlement is that of a completed claim. -/
def Paid (db : Database) : Prop :=
  forall entitlement, entitlement ∈ db.entitlements.items -> Exists fun claim =>
    claim ∈ db.claims.items ∧ claim.status = .completed ∧ claim.entitlementId = some entitlement.id

/-- A completed claim stays that of its entitlement. -/
theorem paid_kept {entitlement : Entitlement} (kept : ClaimsKept db after)
    (paid : Exists fun claim => claim ∈ db.claims.items ∧ claim.status = .completed ∧
      claim.entitlementId = some entitlement.id) :
    Exists fun claim => claim ∈ after.claims.items ∧ claim.status = .completed ∧
      claim.entitlementId = some entitlement.id := by
  rcases paid with ⟨claim, member, done, its⟩
  rcases kept claim member with ⟨final, inside, later⟩
  have completed := later.completed done
  exact ⟨final, inside, completed.1, completed.2.trans its⟩

theorem Paid.same (paid : Paid db) (kept : ClaimsKept db after) (entitlements : after.entitlements = db.entitlements) :
    Paid after := by
  intro entitlement member
  rw [entitlements] at member
  exact paid_kept kept (paid entitlement member)

theorem Paid.steady (paid : Paid db) (steady : Steady db after) : Paid after := by
  intro entitlement member
  rcases steady.entitlements entitlement member with ⟨before, inside, keeps⟩
  rw [keeps.id]
  exact paid_kept steady.claimsKept (paid before inside)

theorem complete_paid (paid : Paid db) {details : Database.Completion}
    (fresh : db.entitlements.find? details.entitlementId = none) (leased : leasedBatch db details = true)
    (completed : db.completeCheckout details = .ok after) : Paid after := by
  rcases complete_cases fresh completed with ⟨free, entitlements, -, claims⟩
  intro entitlement member
  rw [entitlements, mem_completed free] at member
  rcases member with rfl | before
  · have lease : (db.getCheckoutClaim details.claim.id).any (fun claim => decide (claim.status = .processing)) = true := by
      rcases Bool.or_eq_true_iff.mp leased with conflict | lease
      · rcases List.any_eq_true.mp conflict with ⟨other, inside, clash⟩
        rw [free other inside] at clash
        cases clash
      · exact lease
    rcases (Option.any_eq_true _ _).mp lease with ⟨row, found, status⟩
    rcases Table.find?_eq_some.mp found with ⟨rowIn, same⟩
    rw [claims]
    exact ⟨_, mem_markCompleted.mpr ⟨row, rowIn, Or.inr ⟨same, of_decide_eq_true status, rfl⟩⟩, rfl, rfl⟩
  · exact paid_kept (complete_kept fresh completed) (paid entitlement before)

/-- What the condition says of a statement that takes effect. -/
def Statement.Leased (db : Database) : Statement -> Prop
  | .complete details => leasedBatch db details = true
  | _ => True

theorem Statement.paid (sound : Sound service db) (paid : Paid db) (statement : Statement)
    (allowed : statement.Allowed service db) (leased : statement.Leased db) : Paid (statement.apply db) := by
  have kept := statement.kept sound allowed
  by_cases plain : statement.plain = true
  · exact paid.steady (statement.steady plain)
  · cases statement with
    | insertClaim id secretHash publicKey keyHash termsVersion createdAt expiresAt =>
      refine paid.same kept ?_
      refine @orElse_cases db _ (fun next => next.entitlements = db.entitlements) rfl ?_
      intro next inserted
      rcases insertClaim_cases inserted with ⟨claim, -, -, -, -, rfl⟩
      rfl
    | markPending claimId orderId approvalUrl =>
      refine paid.same kept ?_
      refine @orElse_cases db _ (fun next => next.entitlements = db.entitlements) rfl ?_
      intro next marked
      exact (markPending_cases marked).2.2.1
    | complete details =>
      exact orElse_cases paid fun next completed => complete_paid paid allowed.2 leased completed
    | _ => exact absurd rfl plain

/-! ## Runs -/

theorem step_paid (valid : Valid service state) (paid : Paid state.db) (lease : leased state event = true)
    (moved : (serviceMachine service).step state event = some next) : Paid next.db := by
  rcases machine_act moved with ⟨middle, acted, db, -, -⟩
  rw [db]
  rcases act_writes acted with same | ⟨statement, its, wrote⟩
  · rw [same]
    exact paid
  · have allowed := act_allowed valid acted its
    by_cases held : statement.Leased state.db
    · rw [wrote]
      exact statement.paid valid.sound paid allowed held
    · -- The batch is rejected.
      cases statement with
      | complete details =>
        cases event with
        | advance index fault answer =>
          rcases act_advance acted with ⟨worker, later, there, -, stepped, -⟩
          simp only [State.statement, there, Option.bind_some] at its
          have finalizing := statement_complete its
          simp only [leased, there, Option.bind_some, finalizing, Bool.or_eq_true, decide_eq_true_eq] at lease
          rcases lease with rejected | batch
          · rw [(committing_step finalizing stepped).2 rejected]
            exact paid
          · exact absurd batch held
        | _ => cases its
      | _ => exact absurd trivial held

theorem run_paid (lawful : service.Lawful) {events : List Event} (valid : Valid service state) (paid : Paid state.db)
    (run : (serviceMachine service).Run (fun state event => leased state event = true) state events next) :
    Paid next.db := by
  induction run with
  | stop state => exact paid
  | take allowed moved later ih =>
    exact ih (step_valid lawful valid moved) (step_paid valid paid allowed moved)

variable {claim row : CheckoutClaim}

theorem settled (valid : Valid service state) (paid : Paid state.db) {order : String}
    (member : claim ∈ state.db.claims.items) (its : claim.paypalOrderId = some order) :
    (Exists fun entitlement => entitlement ∈ state.db.entitlements.items ∧ entitlement.paypalOrderId = order) ↔
      (claim.status = .completed ∧ Exists fun entitlement => entitlement ∈ state.db.entitlements.items ∧
        Fulfils service state.db claim entitlement ∧
        forall other, other ∈ state.db.entitlements.items -> other.paypalOrderId = order -> other = entitlement) := by
  constructor
  · rintro ⟨entitlement, listed, same⟩
    rcases paid entitlement listed with ⟨row, rowIn, done, rowEntitlement⟩
    rcases valid.sound.completed row rowIn done with ⟨final, there, fulfils⟩
    have ids : final.id = entitlement.id := Option.some.inj (fulfils.id.symm.trans rowEntitlement)
    have equal : final = entitlement := entitlement_unique there listed ids
    subst equal
    have only : row = claim := valid.sound.orders row claim order rowIn member (fulfils.order.trans (congrArg some same)) its
    subst only
    refine ⟨done, final, there, fulfils, ?_⟩
    intro other inside another
    exact valid.sound.payments other final inside there (another.trans same.symm)
  · rintro ⟨-, entitlement, listed, fulfils, -⟩
    exact ⟨entitlement, listed, Option.some.inj (fulfils.order.symm.trans its)⟩

/-! ## A run that is not disturbed -/

/-- A worker waits in its run of `finalizePaidOrder`. -/
def At (state : State) (index : Nat) (run : Finalize) : Prop :=
  Exists fun worker => state.workers[index]? = some worker ∧ worker.finalizing = some run

/-- The steps of one worker, with time between them. -/
def undisturbed (index : Nat) (draw : Draw) (times : List Nat) : List Event :=
  times.flatMap fun seconds => [.tick seconds, .advance index .none (.draw draw)]

theorem advance_of {index : Nat} {fault : Fault} {answer : Answer} {worker later : Worker}
    (there : state.workers[index]? = some worker) (admissible : state.admissible answer = true)
    (stepped : worker.step service state.db state.now fault answer = some (after, later)) :
    Exists fun next => (serviceMachine service).step state (.advance index fault answer) = some next ∧
      next.db = after ∧ next.now = state.now ∧ next.workers = state.workers.set index later := by
  have acted : state.act service (.advance index fault answer) =
      some { state with db := after, workers := state.workers.set index later } := by
    simp only [State.act, if_pos admissible, there, Option.bind_some, stepped, Option.map_some]
  simp only [serviceMachine, acted, Option.map_some]
  exact ⟨_, rfl, rfl, rfl, rfl⟩

theorem goes {index : Nat} {draw : Draw} {run later : Finalize} (seconds : Nat) (waits : At state index run)
    (going : run.ended = false)
    (stepped : run.step service state.db (state.now + seconds) draw .none = some (after, later)) :
    Exists fun next => (serviceMachine service).replay state (undisturbed index draw [seconds]) = some next ∧
      next.db = after ∧ next.now = state.now + seconds ∧ At next index later := by
  rcases waits with ⟨worker, there, finalizing⟩
  have ticked : Exists fun middle => (serviceMachine service).step state (.tick seconds) = some middle ∧
      middle.db = state.db ∧ middle.now = state.now + seconds ∧ middle.workers = state.workers := ⟨_, rfl, rfl, rfl, rfl⟩
  rcases ticked with ⟨middle, ticked, db, now, workers⟩
  have moved : worker.step service middle.db middle.now .none (.draw draw) = some (after, worker.resume later) := by
    rw [Worker.step_finalizing finalizing going, db, now]
    simp only [Answer.drawn, stepped, Option.map_some]
  rw [← workers] at there
  rcases advance_of there rfl moved with ⟨next, advanced, same, time, later⟩
  refine ⟨next, ?_, same, time.trans now, _, ?_, Worker.finalizing_resume finalizing _⟩
  · simp only [undisturbed, List.flatMap_cons, List.flatMap_nil, List.append_nil, Machine.replay_cons, ticked,
      Option.bind_some, advanced, Machine.replay_nil]
  · rw [later]
    have inside : index < middle.workers.length := (List.getElem?_eq_some_iff.mp there).1
    exact List.getElem?_set_self inside

theorem undisturbed_cons (index : Nat) (draw : Draw) (seconds : Nat) (times : List Nat) :
    (serviceMachine service).replay state (undisturbed index draw (seconds :: times)) =
      ((serviceMachine service).replay state (undisturbed index draw [seconds])).bind fun middle =>
        (serviceMachine service).replay middle (undisturbed index draw times) := by
  rw [← Machine.replay_append]
  rfl

/-- The completion of a claim that is not completed begins, unless it was begun a minute
ago. -/
theorem begins {claimId : String} (now : Nat) (found : db.getCheckoutClaim claimId = some row)
    (unfinished : row.status ≠ .completed)
    (started : row.status = .processing -> row.processingStartedAt.isSome = true)
    (late : forall time, row.processingStartedAt = some time -> time + 60 < now) :
    (db.beginCheckoutCompletion claimId now true).2 = true ∧
      (db.beginCheckoutCompletion claimId now true).1.getCheckoutClaim claimId =
        some { row with status := .processing, processingStartedAt := some now } := by
  have same : row.id = claimId := Table.key_of_find? found
  have may : Database.mayComplete now true row = true := by
    unfold Database.mayComplete
    cases status : row.status with
    | processing =>
      rcases Option.isSome_iff_exists.mp (started status) with ⟨time, its⟩
      simp [its, late time its]
    | completed => exact absurd status unfinished
    | _ => simp
  constructor
  · unfold Database.beginCheckoutCompletion
    have keyed : forall claim : CheckoutClaim,
        (decide (claim.id = claimId) && Database.mayComplete now true claim) = true -> claim.id = claimId :=
      fun claim selected => of_decide_eq_true (Bool.and_eq_true_iff.mp selected).1
    rw [decide_eq_true_eq, Table.changes_of_key keyed, show db.claims.find? claimId = some row from found]
    simp [same, may]
  · unfold Database.beginCheckoutCompletion Database.getCheckoutClaim Database.updateClaim
    rw [Table.find?_update, show db.claims.find? claimId = some row from found]
    simp [same, may]

theorem completes {details : Database.Completion}
    (found : db.getCheckoutClaim details.claim.id = some row) (status : row.status = .processing)
    (free : forall other, other ∈ db.entitlements.items -> details.conflicts other = false) :
    Exists fun next => db.completeCheckout details = .ok next ∧ Exists fun completed =>
      next.getCheckoutClaim details.claim.id = some completed ∧ completed.status = .completed := by
  have same : row.id = details.claim.id := Table.key_of_find? found
  have inserted : db.insertEntitlement details = { db with entitlements := db.entitlements.insert details.entitlement } := by
    unfold Database.insertEntitlement
    rw [if_neg]
    intro conflict
    rcases List.any_eq_true.mp conflict with ⟨other, member, clash⟩
    rw [free other member] at clash
    cases clash
  have there : Exists fun middle => (db.insertEntitlement details).insertDevice details = .ok middle ∧
      middle.claims = db.claims := by
    rw [inserted]
    unfold Database.insertDevice
    rw [if_neg]
    · split
      · exact ⟨_, rfl, rfl⟩
      · exact ⟨_, rfl, rfl⟩
    · simp [Database.Completion.entitlement]
  rcases there with ⟨middle, made, claims⟩
  refine ⟨middle.markCheckoutCompleted details, ?_, ?_⟩
  · unfold Database.completeCheckout
    rw [made]
  · unfold Database.markCheckoutCompleted Database.getCheckoutClaim Database.updateClaim
    rw [Table.find?_update, claims, show db.claims.find? details.claim.id = some row from found]
    refine ⟨_, rfl, ?_⟩
    simp [same, status]

/-- What it takes for a run of `finalizePaidOrder` to complete its claim: an order that is
paid, a minute since the last run began, and values that were never drawn before. -/
structure Promising (service : Service) (state : State) (claim : CheckoutClaim) (order : PayPalOrder) (draw : Draw) :
    Prop where
  matching : claim.paypalOrderId = some order.id
  named : order.id ≠ ""
  paid : Exists fun capture => validateCompletedOrder service.terms order claim.id = .ok capture
  late : forall row, row ∈ state.db.claims.items -> row.id = claim.id ->
    forall time, row.processingStartedAt = some time -> time + 60 < state.now
  id : forall entitlement, entitlement ∈ state.db.entitlements.items -> entitlement.id ≠ draw.id
  hash : forall entitlement, entitlement ∈ state.db.entitlements.items -> entitlement.recoveryLookupHash ≠
    service.recoveryLookupHash (normalizedRecoveryCode service (recoveryCode draw.bytes))

/-- The run completes the claim in at most six steps. -/
def Completes (service : Service) (state : State) (index : Nat) (claim : CheckoutClaim) (draw : Draw)
    (times : List Nat) : Prop :=
  Exists fun count => Exists fun final => count ≤ 6 ∧
    (serviceMachine service).replay state (undisturbed index draw (times.take count)) = some final ∧
    Exists fun completed => completed ∈ final.db.claims.items ∧ completed.id = claim.id ∧
      completed.status = .completed ∧ At final index (.returned completed)

theorem batch_free (now : Nat) (valid : Valid service state) (paid : Paid state.db)
    {order : PayPalOrder} {capture : PayPalCapture} {draw : Draw} (promising : Promising service state claim order draw)
    (rowIn : row ∈ state.db.claims.items) (unfinished : row.status ≠ .completed)
    (its : row.paypalOrderId = some order.id) (captured : service.captureOrder capture.id = order.id)
    (entitlements : db.entitlements = state.db.entitlements) {begun : CheckoutClaim}
    (same : begun.paypalOrderId = some order.id) :
    forall other, other ∈ db.entitlements.items ->
      (completion service begun capture draw now).conflicts other = false := by
  intro other member
  rw [entitlements] at member
  have apart : other.paypalOrderId ≠ order.id := by
    intro equal
    exact unfinished ((settled valid paid rowIn its).mp ⟨other, member, equal⟩).1
  have captures : other.paypalCaptureId ≠ capture.id := by
    intro equal
    have belongs := valid.sound.captures other member
    rw [equal, captured] at belongs
    exact apart belongs.symm
  simp only [Database.Completion.conflicts, completion, same, Option.getD_some, Bool.or_eq_false_iff,
    decide_eq_false_iff_not]
  exact ⟨⟨⟨promising.id other member, apart⟩, captures⟩, promising.hash other member⟩

theorem completes_undisturbed (valid : Valid service state) (paid : Paid state.db) {index : Nat}
    {order : PayPalOrder} {draw : Draw} (waits : At state index (.reading claim order))
    (promising : Promising service state claim order draw) {times : List Nat} (enough : times.length = 6) :
    Completes service state index claim draw times := by
  obtain ⟨one, two, three, four, five, six, rfl⟩ : Exists fun one => Exists fun two => Exists fun three =>
      Exists fun four => Exists fun five => Exists fun six => times = [one, two, three, four, five, six] := by
    match times, enough with
    | [one, two, three, four, five, six], _ => exact ⟨one, two, three, four, five, six, rfl⟩
  have known : KnownClaim state.db claim ∧ order.genuine service = true := by
    rcases waits with ⟨worker, there, finalizing⟩
    exact (valid.known worker (List.mem_of_getElem? there)).finalizing finalizing
  rcases promising.paid with ⟨capture, validated⟩
  rcases known with ⟨⟨row, rowIn, later⟩, genuine⟩
  have its : row.paypalOrderId = some order.id := later.order _ promising.matching
  have found : state.db.getCheckoutClaim claim.id = some row := by
    have there := Table.find?_of_mem rowIn
    rwa [later.id] at there
  by_cases finished : row.status = .completed
  · -- The claim is completed: the run returns it.
    have read : Finalize.read service state.db (state.now + one) claim order = .returned row := by
      unfold Finalize.read
      rw [found]
      simp only [if_pos finished]
    have stepped : (Finalize.reading claim order).step service state.db (state.now + one) draw .none =
        some (state.db, .returned row) := by
      simp only [Finalize.step, read]
      rfl
    rcases goes one waits rfl stepped with ⟨final, ran, db, -, ended⟩
    exact ⟨1, final, by omega, ran, row, db ▸ rowIn, later.id, finished, ended⟩
  · -- It reads, begins, loads the claim, looks again, commits and confirms.
    have matching : ¬(claim.paypalOrderId.getD "" = "" ∨ claim.paypalOrderId ≠ some order.id) := by
      simp [promising.matching, promising.named]
    have read : Finalize.read service state.db (state.now + one) claim order =
        .beginning claim.id capture (state.now + one) := by
      unfold Finalize.read
      rw [found]
      simp only [if_neg finished, Finalize.read.validate, if_neg matching, validated]
    have stepOne : (Finalize.reading claim order).step service state.db (state.now + one) draw .none =
        some (state.db, .beginning claim.id capture (state.now + one)) := by
      simp only [Finalize.step, read]
      rfl
    rcases goes one waits rfl stepOne with ⟨first, ranOne, dbOne, nowOne, atOne⟩
    have begun := begins (state.now + one) found finished (valid.sound.processing row rowIn) (by
      intro time started
      have late := promising.late row rowIn later.id time started
      omega)
    generalize beganDb : (state.db.beginCheckoutCompletion claim.id (state.now + one) true).1 = began at begun
    have entitlements : began.entitlements = state.db.entitlements := by
      rw [← beganDb]
      rfl
    have stepTwo : (Finalize.beginning claim.id capture (state.now + one)).step service first.db (first.now + two)
        draw .none = some (began, .loading claim.id capture) := by
      simp only [Finalize.step, dbOne, beganDb, begun.1]
      rfl
    rcases goes two atOne rfl stepTwo with ⟨second, ranTwo, dbTwo, nowTwo, atTwo⟩
    generalize rowEq : { row with status := ClaimStatus.processing, processingStartedAt := some (state.now + one) } = held
      at begun
    have heldOrder : held.paypalOrderId = some order.id := by
      rw [← rowEq]
      exact its
    have heldId : held.id = claim.id := Table.key_of_find? begun.2
    have heldStatus : held.status = .processing := by rw [← rowEq]
    let details := completion service held capture draw (second.now + three)
    have stepThree : (Finalize.loading claim.id capture).step service second.db (second.now + three) draw .none =
        some (began, .checking details) := by
      simp only [Finalize.step, dbTwo, begun.2]
      rfl
    rcases goes three atTwo rfl stepThree with ⟨third, ranThree, dbThree, -, atThree⟩
    have foundHeld : began.getCheckoutClaim details.claim.id = some held := heldId ▸ begun.2
    have detailsOrder : details.orderId = order.id := by
      change held.paypalOrderId.getD "" = order.id
      rw [heldOrder]
      rfl
    have stepFour : (Finalize.checking details).step service third.db (third.now + four) draw .none =
        some (began, .committing details) := by
      simp only [Finalize.step, dbThree, isCompleted, foundHeld, Option.any_some, heldStatus, detailsOrder,
        if_neg promising.named]
      rfl
    rcases goes four atThree rfl stepFour with ⟨fourth, ranFour, dbFour, -, atFour⟩
    have captured : service.captureOrder capture.id = order.id := validate_genuine genuine validated
    have free := batch_free (second.now + three) valid paid promising rowIn finished its captured entitlements
      heldOrder
    rcases completes foundHeld heldStatus free with ⟨after, batch, completed, foundDone, done⟩
    have absent : (began.getEntitlement details.entitlementId).isSome = false := by
      rw [Option.isSome_eq_false_iff, Option.isNone_iff_eq_none]
      apply Table.find?_eq_none.mpr
      intro other member
      exact (conflicts_false (free other member)).1
    have stepFive : (Finalize.committing details).step service fourth.db (fourth.now + five) draw .none =
        some (after, .confirming details.claim.id) := by
      simp only [Finalize.step, dbFour, absent, batch]
      rfl
    rcases goes five atFour rfl stepFive with ⟨fifth, ranFive, dbFive, -, atFive⟩
    have stepSix : (Finalize.confirming details.claim.id).step service fifth.db (fifth.now + six) draw .none =
        some (after, .returned completed) := by
      simp only [Finalize.step, dbFive, foundDone, if_pos done]
      rfl
    rcases goes six atFive rfl stepSix with ⟨sixth, ranSix, dbSix, -, atSix⟩
    refine ⟨6, sixth, Nat.le_refl 6, ?_, completed, ?_, ?_, done, atSix⟩
    · change (serviceMachine service).replay state (undisturbed index draw [one, two, three, four, five, six]) = some sixth
      rw [undisturbed_cons, ranOne, Option.bind_some, undisturbed_cons, ranTwo, Option.bind_some, undisturbed_cons,
        ranThree, Option.bind_some, undisturbed_cons, ranFour, Option.bind_some, undisturbed_cons, ranFive,
        Option.bind_some]
      exact ranSix
    · rw [dbSix]
      exact (Table.find?_eq_some.mp foundDone).1
    · exact (Table.key_of_find? foundDone).trans heldId

/-! ## The result, and the run that breaks it -/

/-- If no batch takes effect behind a lost lease, an order has an entitlement if and only
if its claim is completed with it, a completed claim stays so, and a run that is not
disturbed completes its claim. -/
theorem leased_checkouts (lawful : service.Lawful) {events : List Event}
    (run : (serviceMachine service).Run (fun state event => leased state event = true) .initial events state) :
    (forall claim order, claim ∈ state.db.claims.items -> claim.paypalOrderId = some order ->
      ((Exists fun entitlement => entitlement ∈ state.db.entitlements.items ∧ entitlement.paypalOrderId = order) ↔
        (claim.status = .completed ∧ Exists fun entitlement => entitlement ∈ state.db.entitlements.items ∧
          Fulfils service state.db claim entitlement ∧
          forall other, other ∈ state.db.entitlements.items -> other.paypalOrderId = order -> other = entitlement))) ∧
    (forall (permitted : State -> Event -> Prop) later final, (serviceMachine service).Run permitted state later final ->
      forall claim, claim ∈ state.db.claims.items -> claim.status = .completed -> Exists fun after =>
        after ∈ final.db.claims.items ∧ after.id = claim.id ∧ after.status = .completed ∧
          after.entitlementId = claim.entitlementId) ∧
    (forall index claim order draw times, At state index (.reading claim order) ->
      Promising service state claim order draw -> times.length = 6 -> Completes service state index claim draw times) := by
  have valid := (run_kept lawful (initial_valid service) run).1
  have paid := run_paid lawful (initial_valid service) (fun _ member => absurd member List.not_mem_nil) run
  refine ⟨?_, ?_, ?_⟩
  · intro claim order member its
    exact settled valid paid member its
  · intro permitted later final afterwards claim member done
    rcases (run_kept lawful valid afterwards).2 claim member with ⟨after, inside, kept⟩
    have completed := kept.completed done
    exact ⟨after, inside, kept.id, completed.1, completed.2⟩
  · intro index claim order draw times waits promising enough
    exact completes_undisturbed valid paid waits promising enough

/-- A service whose recovery codes are kept as they are. -/
def plainService : Service where
  primitives := {
    sign := fun _ => []
    publicKey := []
    validKey := fun _ => true
    verify := fun _ _ _ => true
    sha256 := id
    writeHeader := fun _ => []
    readHeader := fun _ => none
    writeClaims := fun _ => []
    readClaims := fun _ => none }
  terms := ⟨"merchant", "USD", "5.00"⟩
  termsVersion := "1"
  maxActiveDevices := 3
  entitlementTtlDays := 30
  offlineGraceDays := 30
  toUpperCase := id
  safeApprovalUrl := fun _ => true
  recoveryLookupHash := id
  encryptRecoveryCode := fun code _ => code
  decryptRecoveryCode := fun ciphertext _ => some ciphertext
  captureOrder := fun _ => "order"
  event := fun id => ⟨id, "", none⟩

theorem plainService_lawful : plainService.Lawful := ⟨fun _ _ => rfl, fun _ => rfl⟩

def deviceKeyText : String := String.ofList (List.replicate 43 'A')

/-- The order of the checkout, captured. -/
def paidOrder : PayPalOrder :=
  ⟨"order", "COMPLETED",
    [⟨some "claim", some "merchant", some "USD", some "5.00",
      [⟨"capture", "COMPLETED", "USD", "5.00", some "merchant"⟩], false⟩], []⟩

def firstDraw : Draw := ⟨"entitlement-one", "nonce-one", [1, 2, 3, 4, 5]⟩

def secondDraw : Draw := ⟨"entitlement-two", "nonce-two", [6, 7, 8, 9, 10]⟩

def thirdDraw : Draw := ⟨"entitlement-three", "nonce-three", [11, 12, 13, 14, 15]⟩

/-- A checkout that waits for its payment. -/
def checkoutEvents : List Event :=
  [.begin "claim" "secret" deviceKeyText "1" true, .advance 0 .none .none,
    .advance 0 .none (.created (some ("order", "approve"))), .advance 0 .none .none]

/-- The return page asks PayPal, and starts its run of `finalizePaidOrder`. -/
def returnEvents (index : Nat) : List Event :=
  [.page "claim" "order", .advance index .none .none, .advance index .none (.order (some paidOrder))]

/-- Steps of one worker. -/
def stepsOf (index : Nat) (draw : Draw) (count : Nat) : List Event :=
  List.replicate count (.advance index .none (.draw draw))

/-- One run holds the lease for a minute, so that a second one takes it over; the first
then fails and gives the lease back, and the second commits. -/
def strandedEvents : List Event :=
  checkoutEvents ++ returnEvents 1 ++ stepsOf 1 firstDraw 2 ++ [.tick 61] ++ returnEvents 2 ++
    stepsOf 2 secondDraw 4 ++ [.advance 1 .rejected .none, .advance 1 .none .none] ++ stepsOf 2 secondDraw 3 ++
    [.tick 1000] ++ returnEvents 3

def strandedClaim : CheckoutClaim where
  id := "claim"
  claimSecretHash := plainService.primitives.sha256Text "secret"
  paypalOrderId := some "order"
  approvalUrl := some "approve"
  devicePublicKey := deviceKeyText
  deviceKeyHash := plainService.primitives.sha256Text deviceKeyText
  status := .pending
  termsVersion := "1"
  termsAcceptedAt := 0
  createdAt := 0
  expiresAt := 1800
  completedAt := none
  processingStartedAt := none
  entitlementId := none
  recoveryCiphertext := none
  recoveryNonce := none
  recoveryDeliveredAt := none
  errorCode := none

def strandedEntitlement : Entitlement where
  id := "entitlement-two"
  paypalOrderId := "order"
  paypalCaptureId := "capture"
  status := .active
  amount := "5.00"
  currency := "USD"
  recoveryLookupHash := recoveryCode secondDraw.bytes
  termsVersion := "1"
  createdAt := 61
  revokedAt := none
  revocationReason := none

theorem stranded_promising {state : State} {draw : Draw} (claims : state.db.claims.items = [strandedClaim])
    (fresh : forall entitlement, entitlement ∈ state.db.entitlements.items -> entitlement.id ≠ draw.id ∧
      entitlement.recoveryLookupHash ≠
        plainService.recoveryLookupHash (normalizedRecoveryCode plainService (recoveryCode draw.bytes))) :
    Promising plainService state strandedClaim paidOrder draw := by
  refine ⟨rfl, by decide, ⟨_, rfl⟩, ?_, fun entitlement member => (fresh entitlement member).1,
    fun entitlement member => (fresh entitlement member).2⟩
  intro row member _ time started
  rw [claims, List.mem_singleton] at member
  rw [member] at started
  cases started

/-- A lease that is given back by the run before strands the payment: its entitlement is
active, its claim is pending, and a run that is not disturbed fails. -/
theorem lost_lease_strands_payment :
    plainService.Lawful ∧ Exists fun state => Exists fun final =>
      (serviceMachine plainService).Run Machine.anything .initial strandedEvents state ∧
      strandedClaim ∈ state.db.claims.items ∧ strandedClaim.paypalOrderId = some strandedEntitlement.paypalOrderId ∧
      strandedEntitlement ∈ state.db.entitlements.items ∧ strandedClaim.status ≠ .completed ∧
      At state 3 (.reading strandedClaim paidOrder) ∧
      Promising plainService state strandedClaim paidOrder thirdDraw ∧
      (serviceMachine plainService).replay state (undisturbed 3 thirdDraw (List.replicate 6 5)) = some final ∧
      At final 3 (.threw "FOREIGN KEY constraint failed") ∧ strandedClaim ∈ final.db.claims.items := by
  have shape : Exists fun state => (serviceMachine plainService).replay .initial strandedEvents = some state ∧
      state.db.claims.items = [strandedClaim] ∧ strandedEntitlement ∈ state.db.entitlements.items ∧
      state.workers[3]? = some (.page (.finalizing (.reading strandedClaim paidOrder))) ∧
      (forall entitlement, entitlement ∈ state.db.entitlements.items -> entitlement.id ≠ thirdDraw.id ∧
        entitlement.recoveryLookupHash ≠
          plainService.recoveryLookupHash (normalizedRecoveryCode plainService (recoveryCode thirdDraw.bytes))) ∧
      Exists fun final => (serviceMachine plainService).replay state (undisturbed 3 thirdDraw (List.replicate 6 5)) =
          some final ∧ final.workers[3]? = some (.page (.finalizing (.threw "FOREIGN KEY constraint failed"))) ∧
        strandedClaim ∈ final.db.claims.items := by
    decide +kernel
  rcases shape with ⟨state, replayed, claims, entitlement, worker, fresh, final, later, threw, stays⟩
  exact ⟨plainService_lawful, state, final, Machine.run_of_replay replayed, claims ▸ List.mem_cons_self, rfl, entitlement,
    nofun, ⟨_, worker, rfl⟩, stranded_promising claims fresh, later, ⟨_, threw, rfl⟩, stays⟩

/-- A checkout that is paid and returned to is completed. -/
theorem paid_return_completes : Exists fun state =>
    (serviceMachine plainService).Run (fun state event => leased state event = true) .initial
      (checkoutEvents ++ returnEvents 1) state ∧
    Completes plainService state 1 strandedClaim firstDraw (List.replicate 6 20) := by
  have waiting : (((serviceMachine plainService).guarded leased).replay .initial
      (checkoutEvents ++ returnEvents 1)).any (fun state => decide (state.db.claims.items = [strandedClaim] ∧
        state.db.entitlements.items = [] ∧
          state.workers[1]? = some (.page (.finalizing (.reading strandedClaim paidOrder))))) = true := by
    decide +kernel
  refine (Machine.exists_guarded_run waiting).imp fun state ⟨run, claims, entitlements, worker⟩ => ⟨run, ?_⟩
  refine (leased_checkouts plainService_lawful run).2.2 1 _ paidOrder _ _ ⟨_, worker, rfl⟩ ?_ rfl
  apply stranded_promising claims
  rw [entitlements]
  exact fun _ member => absurd member List.not_mem_nil

end Supporter
end TelegramDrive
