import TelegramDrive.Library.Codec
import TelegramDrive.Supporter.Devices

namespace TelegramDrive
namespace Supporter

/-!
# Tokens and challenges

What a request has read when it issues a token, and what it has shown when it redeems a
challenge, as facts about the history of a run.
-/

variable {service : Service} {state next : State} {event : Event}

/-! ## History -/

/-- What there was at a time of the run, the present included. -/
def State.snapshot (state : State) (time : Nat) : Snapshot :=
  if time < state.clock then state.past time else state.toSnapshot

theorem clock_step (moved : (serviceMachine service).step state event = some next) : next.clock = state.clock + 1 := by
  rcases Option.map_eq_some_iff.mp moved with ⟨middle, acted, rfl⟩
  rfl

variable {time index read now : Nat}

/-- A step does not change what there was. -/
theorem snapshot_step (moved : (serviceMachine service).step state event = some next)
    (before : time ≤ state.clock) : next.snapshot time = state.snapshot time := by
  rcases Option.map_eq_some_iff.mp moved with ⟨middle, acted, rfl⟩
  unfold State.snapshot
  rw [if_pos (Nat.lt_succ_of_le before)]
  by_cases now : time = state.clock
  · simp [now]
  · simp only [if_neg now, if_pos (Nat.lt_of_le_of_ne before now)]

theorem snapshot_now (state : State) : state.snapshot state.clock = state.toSnapshot := by
  unfold State.snapshot
  rw [if_neg (Nat.lt_irrefl _)]

theorem worker_cases (moved : state.act service event = some next) {after : Worker}
    (there : next.workers[index]? = some after) :
    state.workers[index]? = some after ∨ (after.starting = true ∧ after.Requested service) ∨ after = .killed ∨
      Exists fun before => Exists fun fault => Exists fun answer => event = .advance index fault answer ∧
        state.workers[index]? = some before ∧
        before.step service state.db state.now fault answer = some (next.db, after) := by
  cases act_workers moved with
  | same workers writes => exact Or.inl (workers ▸ there)
  | start added starting requested delivered db workers =>
    rw [workers] at there
    by_cases old : index < state.workers.length
    · rw [List.getElem?_append_left old] at there
      exact Or.inl there
    · rw [List.getElem?_append_right (Nat.le_of_not_lt old)] at there
      rcases List.mem_singleton.mp (List.mem_of_getElem? there) with rfl
      exact Or.inr (Or.inl ⟨starting, requested⟩)
  | advance place fault answer before changed found admissible stepped workers =>
    rw [workers] at there
    by_cases same : place = index
    · subst same
      rw [List.getElem?_set_self (List.getElem?_eq_some_iff.mp found).1] at there
      cases there
      exact Or.inr (Or.inr (Or.inr ⟨before, fault, answer, rfl, found, stepped⟩))
    · rw [List.getElem?_set_ne same] at there
      exact Or.inl there
  | kill place before found unfinished db workers =>
    rw [workers] at there
    by_cases same : place = index
    · subst same
      rw [List.getElem?_set_self (List.getElem?_eq_some_iff.mp found).1] at there
      cases there
      exact Or.inr (Or.inr (Or.inl rfl))
    · rw [List.getElem?_set_ne same] at there
      exact Or.inl there

/-! ## What a token was issued for -/

/-- The run of `issueActiveToken` that a worker is in. -/
def Worker.issue : Worker -> Option Issue
  | .poll (.issuing _ run) => some run
  | .activate (.issuing run) => some run
  | .refresh (.issuing _ _ _ run) => some run
  | _ => none

/-- At a time of the run, a worker waited to read. -/
def Waited (state : State) (index time : Nat) (run : Issue) : Prop :=
  time < state.clock ∧ Exists fun worker => (state.snapshot time).workers[index]? = some worker ∧ worker.issue = some run

/-- An entitlement and a device that were read in one request, both active. -/
structure ReadActive (state : State) (index : Nat) (entitlement : Entitlement) (device : Device)
    (entitlementId deviceKeyHash : String) : Prop where
  readEntitlement : Exists fun time => Waited state index time (.entitlement entitlementId deviceKeyHash) ∧
    (state.snapshot time).db.getEntitlement entitlementId = some entitlement
  active : entitlement.status = .active
  readDevice : Exists fun time => Waited state index time (.device (some entitlement) entitlementId deviceKeyHash) ∧
    (state.snapshot time).db.getDevice entitlementId deviceKeyHash = some device
  unrevoked : device.revokedAt = none

/-- What a run of `issueActiveToken` has read. -/
def Issue.Seen (service : Service) (state : State) (index : Nat) : Issue -> Prop
  | .device found entitlementId deviceKeyHash => Exists fun time =>
    Waited state index time (.entitlement entitlementId deviceKeyHash) ∧
      (state.snapshot time).db.getEntitlement entitlementId = found
  | .issued paid registered claims token =>
    ReadActive state index paid registered claims.entitlementId claims.deviceKeyHash ∧
      claims.deviceKeyHash = service.primitives.sha256Text registered.devicePublicKey ∧
      issueEntitlementToken service.primitives claims = .ok token
  | _ => True

theorem Waited.later {run : Issue} (waited : Waited state index time run)
    (moved : (serviceMachine service).step state event = some next) : Waited next index time run := by
  refine ⟨?_, ?_⟩
  · rw [clock_step moved]
    exact Nat.lt_succ_of_lt waited.1
  · rw [snapshot_step moved (Nat.le_of_lt waited.1)]
    exact waited.2

variable {entitlementId challengeId keyHash : String}

theorem ReadActive.later {entitlement : Entitlement} {device : Device} {deviceKeyHash : String}
    (read : ReadActive state index entitlement device entitlementId deviceKeyHash)
    (moved : (serviceMachine service).step state event = some next) :
    ReadActive next index entitlement device entitlementId deviceKeyHash where
  readEntitlement := by
    rcases read.readEntitlement with ⟨time, waited, found⟩
    exact ⟨time, waited.later moved, by rw [snapshot_step moved (Nat.le_of_lt waited.1)]; exact found⟩
  active := read.active
  readDevice := by
    rcases read.readDevice with ⟨time, waited, found⟩
    exact ⟨time, waited.later moved, by rw [snapshot_step moved (Nat.le_of_lt waited.1)]; exact found⟩
  unrevoked := read.unrevoked

theorem Issue.Seen.later {run : Issue} (seen : run.Seen service state index)
    (moved : (serviceMachine service).step state event = some next) : run.Seen service next index := by
  cases run with
  | device found entitlementId deviceKeyHash =>
    rcases seen with ⟨time, waited, same⟩
    exact ⟨time, waited.later moved, by rw [snapshot_step moved (Nat.le_of_lt waited.1)]; exact same⟩
  | issued entitlement device claims token => exact ⟨seen.1.later moved, seen.2⟩
  | _ => trivial

theorem waited_now {worker : Worker} {run : Issue} (there : state.workers[index]? = some worker)
    (its : worker.issue = some run) (moved : (serviceMachine service).step state event = some next) :
    Waited next index state.clock run := by
  refine ⟨?_, worker, ?_, its⟩
  · rw [clock_step moved]
    exact Nat.lt_succ_self _
  · rw [snapshot_step moved (Nat.le_refl _), snapshot_now]
    exact there

theorem Issue.step_seen {worker : Worker} {run later : Issue} {fault : Fault}
    (registry : Registry service state.db) (there : state.workers[index]? = some worker) (its : worker.issue = some run)
    (seen : run.Seen service state index) (moved : (serviceMachine service).step state event = some next)
    (stepped : run.step service state.db state.now fault = some later) : later.Seen service next index := by
  have waited := waited_now there its moved
  have past : (next.snapshot state.clock).db = state.db := by
    rw [snapshot_step moved (Nat.le_refl _), snapshot_now]
  cases run with
  | entitlement entitlementId deviceKeyHash =>
    cases stepped
    split
    · exact ⟨state.clock, waited, by rw [past]⟩
    · trivial
  | device found entitlementId deviceKeyHash =>
    cases stepped
    split
    · split
      next paid registered device =>
        split
        next active =>
          dsimp only
          split
          next token issued =>
            rcases seen with ⟨time, earlier, same⟩
            have paidId : paid.id = entitlementId := Table.key_of_find? same
            rcases Table.find?_eq_some.mp device with ⟨member, key⟩
            have keyHash : registered.deviceKeyHash = deviceKeyHash := congrArg Prod.snd key
            refine ⟨?_, ?_, issued⟩
            · refine ⟨⟨time, ?_, ?_⟩, active.1, ⟨state.clock, ?_, ?_⟩, active.2⟩
              · change Waited next index time (.entitlement paid.id deviceKeyHash)
                rw [paidId]
                exact earlier.later moved
              · change (next.snapshot time).db.getEntitlement paid.id = some paid
                rw [snapshot_step moved (Nat.le_of_lt earlier.1), paidId]
                exact same
              · change Waited next index state.clock (.device (some paid) paid.id deviceKeyHash)
                rw [paidId]
                exact waited
              · change (next.snapshot state.clock).db.getDevice paid.id deviceKeyHash = some registered
                rw [past, paidId]
                exact device
            · change deviceKeyHash = _
              rw [← keyHash]
              exact registry.deviceKeys registered member
          · trivial
        · trivial
      · trivial
    · trivial
  | issued entitlement device claims token | threw error => cases stepped

/-! ## What a refresh has shown -/

/-- A request has read a device that is not revoked, and verified its proof with the key
of that row, at the time that it took for the current one. -/
def Proved (service : Service) (state : State) (index : Nat) (claims : EntitlementClaims) (proof : RefreshProof)
    (device : Device) (read : Nat) : Prop :=
  verifyEntitlementToken service.primitives proof.token = .ok claims ∧
    device.revokedAt = none ∧
    verifyDeviceProof service device.devicePublicKey (refreshMessage proof) proof.signature = true ∧
    Exists fun time => time < state.clock ∧ (state.snapshot time).now = read ∧
      (state.snapshot time).workers[index]? = some (.refresh (.device claims proof)) ∧
      (state.snapshot time).db.getDevice claims.entitlementId claims.deviceKeyHash = some device

/-- A request has redeemed a challenge in a step of the run. -/
def Redeemed (service : Service) (state : State) (index time : Nat) (claims : EntitlementClaims)
    (proof : RefreshProof) (read : Nat) : Prop :=
  time < state.clock ∧
    (Exists fun device => (state.snapshot time).workers[index]? = some (.refresh (.consuming claims proof device read)) ∧
      (state.snapshot (time + 1)).workers[index]? = some (.refresh (.touching claims proof device read))) ∧
    Exists fun challenge => (state.snapshot time).db.challenges.find? proof.challengeId = some challenge ∧
      Database.redeemable proof.challengeId claims.entitlementId claims.deviceKeyHash
        (service.primitives.sha256Text proof.nonce) read challenge = true

/-- What a refresh has shown. -/
def Refresh.Shown (service : Service) (state : State) (index : Nat) : Refresh -> Prop
  | .device claims proof => verifyEntitlementToken service.primitives proof.token = .ok claims
  | .consuming claims proof registered read => Proved service state index claims proof registered read
  | .touching claims proof registered read => Proved service state index claims proof registered read ∧
      Exists fun time => Redeemed service state index time claims proof read
  | .issuing proof registered read run => run.Seen service state index ∧
      Exists fun claims => Proved service state index claims proof registered read ∧
        Exists fun time => Redeemed service state index time claims proof read
  | .refused => True

variable {claims : EntitlementClaims} {proof : RefreshProof}

theorem Proved.later {device : Device} (proved : Proved service state index claims proof device read)
    (moved : (serviceMachine service).step state event = some next) :
    Proved service next index claims proof device read := by
  rcases proved with ⟨token, unrevoked, verified, time, before, now, worker, found⟩
  have same := snapshot_step moved (Nat.le_of_lt before)
  refine ⟨token, unrevoked, verified, time, ?_, ?_, ?_, ?_⟩
  · rw [clock_step moved]
    exact Nat.lt_succ_of_lt before
  · rw [same]
    exact now
  · rw [same]
    exact worker
  · rw [same]
    exact found

theorem Redeemed.later (redeemed : Redeemed service state index time claims proof read)
    (moved : (serviceMachine service).step state event = some next) :
    Redeemed service next index time claims proof read := by
  rcases redeemed with ⟨before, workers, challenge⟩
  unfold Redeemed
  rw [snapshot_step moved (Nat.le_of_lt before), snapshot_step moved before, clock_step moved]
  exact ⟨Nat.lt_succ_of_lt before, workers, challenge⟩

theorem Refresh.Shown.later {run : Refresh} (shown : run.Shown service state index)
    (moved : (serviceMachine service).step state event = some next) : run.Shown service next index := by
  cases run with
  | device claims proof => exact shown
  | consuming claims proof device read => exact Proved.later shown moved
  | touching claims proof device read =>
    rcases shown with ⟨proved, time, redeemed⟩
    exact ⟨proved.later moved, time, redeemed.later moved⟩
  | issuing proof device read run =>
    rcases shown with ⟨seen, claims, proved, time, redeemed⟩
    exact ⟨seen.later moved, claims, proved.later moved, time, redeemed.later moved⟩
  | refused => trivial

variable {db after : Database}

theorem consume_found {nonceHash : String}
    (consumed : (db.consumeChallenge challengeId entitlementId keyHash nonceHash now).2 = true) :
    Exists fun challenge => db.challenges.find? challengeId = some challenge ∧
      Database.redeemable challengeId entitlementId keyHash nonceHash now challenge = true := by
  have keyed : forall challenge : Challenge,
      Database.redeemable challengeId entitlementId keyHash nonceHash now challenge = true ->
        challenge.id = challengeId := by
    intro challenge may
    simp only [Database.redeemable, Bool.and_eq_true, decide_eq_true_eq] at may
    exact may.1.1.1.1.1
  have counted := of_decide_eq_true consumed
  rw [Table.changes_of_key keyed] at counted
  split at counted
  next found => exact (Option.any_eq_true _ _).mp found
  · cases counted

theorem Refresh.step_shown {run later : Refresh} {fault : Fault} (registry : Registry service state.db)
    (there : state.workers[index]? = some (.refresh run)) (shown : run.Shown service state index)
    (moved : (serviceMachine service).step state event = some next)
    (now : next.workers[index]? = some (.refresh later))
    (stepped : run.step service state.db state.now fault = some (after, later)) :
    later.Shown service next index := by
  have past : next.snapshot state.clock = state.toSnapshot := by
    rw [snapshot_step moved (Nat.le_refl _), snapshot_now]
  have present : next.snapshot (state.clock + 1) = next.toSnapshot := by
    rw [← clock_step moved, snapshot_now]
  cases run with
  | device claims proof =>
    cases stepped
    split
    · split
      next registered found =>
        split
        next allowed =>
          refine ⟨shown, allowed.1, allowed.2, state.clock, ?_, ?_, ?_, ?_⟩
          · rw [clock_step moved]
            exact Nat.lt_succ_self _
          · rw [past]
          · rw [past]
            exact there
          · rw [past]
            exact found
        · trivial
      · trivial
    · trivial
  | consuming claims proof registered read =>
    rcases attempt_cases (Option.some.inj stepped) with ⟨-, rfl⟩ | ⟨-, error, rfl⟩
    · split at now
      next consumed =>
        rw [if_pos consumed]
        refine ⟨Proved.later shown moved, state.clock, ?_, ⟨registered, ?_, ?_⟩, ?_⟩
        · rw [clock_step moved]
          exact Nat.lt_succ_self _
        · rw [past]
          exact there
        · rw [present]
          exact now
        · rw [past]
          exact consume_found consumed
      next spent =>
        rw [if_neg spent]
        trivial
    · trivial
  | touching claims proof registered read =>
    rcases attempt_cases (Option.some.inj stepped) with ⟨-, rfl⟩ | ⟨-, error, rfl⟩
    · rcases shown with ⟨proved, time, redeemed⟩
      exact ⟨trivial, claims, proved.later moved, time, redeemed.later moved⟩
    · trivial
  | issuing proof registered read run =>
    rcases Option.map_eq_some_iff.mp stepped with ⟨final, ran, same⟩
    cases same
    rcases shown with ⟨seen, claims, proved, time, redeemed⟩
    exact ⟨Issue.step_seen registry there rfl seen moved ran, claims, proved.later moved, time, redeemed.later moved⟩
  | refused => cases stepped

/-! ## Challenges are redeemed once -/

/-- The row of a challenge, if there is one, is consumed. -/
def Consumed (db : Database) (challengeId : String) : Prop :=
  forall challenge, db.challenges.find? challengeId = some challenge -> challenge.consumedAt.isSome = true

/-- Whether a statement is about challenges. -/
def Statement.challenges : Statement -> Bool
  | .challenge _ _ _ _ _ => true
  | .consume _ _ _ _ _ => true
  | .cleanup _ => true
  | _ => false

theorem Statement.challenges_same (statement : Statement) (other : statement.challenges = false) :
    (statement.apply db).challenges = db.challenges := by
  cases statement with
  | challenge id entitlementId keyHash nonceHash now | consume id entitlementId keyHash nonceHash now
  | cleanup now => cases other
  | insertClaim id secretHash publicKey keyHash termsVersion createdAt expiresAt =>
    exact @orElse_cases db _ (fun next => next.challenges = db.challenges) rfl fun _ inserted =>
      (insertClaim_others inserted).2.2
  | markPending claimId orderId approvalUrl =>
    exact @orElse_cases db _ (fun next => next.challenges = db.challenges) rfl fun _ marked =>
      (markPending_others marked).2.2
  | complete details =>
    exact @orElse_cases db _ (fun next => next.challenges = db.challenges) rfl fun _ completed =>
      (complete_others completed).2
  | activate entitlementId keyHash publicKey now limit =>
    simp only [Statement.apply, Database.activateDevice]
    split
    · rfl
    · rfl
  | record eventId eventType now =>
    simp only [Statement.apply, Database.recordWebhook]
    split
    · rfl
    · rfl
  | revoke event now =>
    simp only [Statement.apply, Webhook.revoke]
    split
    · rfl
    · rfl
    · rfl
  | _ => rfl

/-- A consumed row stays so, unless there is no row and a new one is made. -/
theorem Statement.consumed (statement : Statement) (consumed : Consumed db challengeId) :
    Consumed (statement.apply db) challengeId ∨ db.challenges.find? challengeId = none := by
  by_cases other : statement.challenges = false
  · refine Or.inl ?_
    intro challenge found
    rw [statement.challenges_same other] at found
    exact consumed challenge found
  · cases statement with
    | challenge id entitlementId keyHash nonceHash now =>
      refine @orElse_cases db _ (fun next => Consumed next challengeId ∨ db.challenges.find? challengeId = none)
        (Or.inl consumed) fun next created => ?_
      unfold Database.createChallenge at created
      split at created
      · cases created
      next fresh =>
        split at created
        · cases created
        · cases created
          by_cases same : challengeId = id
          · refine Or.inr ?_
            simp only [Bool.or_eq_true, not_or, Bool.not_eq_true, Option.isSome_eq_false_iff,
              Option.isNone_iff_eq_none] at fresh
            rw [same]
            exact fresh.1
          · refine Or.inl ?_
            intro challenge found
            rw [Table.find?_insert, if_neg same] at found
            exact consumed challenge found
    | consume id entitlementId keyHash nonceHash now =>
      refine Or.inl ?_
      intro challenge found
      simp only [Statement.apply, Database.consumeChallenge, Table.find?_update, Option.map_eq_some_iff] at found
      rcases found with ⟨before, there, rfl⟩
      split
      · rfl
      · exact consumed before there
    | cleanup now =>
      refine Or.inl ?_
      intro challenge found
      simp only [Statement.apply, Database.cleanupExpiredRecords, Table.find?_filterMap, Option.bind_eq_some_iff]
        at found
      rcases found with ⟨before, there, kept⟩
      split at kept
      · cases kept
      · cases kept
        exact consumed challenge there
    | _ => exact absurd rfl other

theorem consume_consumed {nonceHash : String}
    (consumed : (db.consumeChallenge challengeId entitlementId keyHash nonceHash now).2 = true) :
    Consumed (db.consumeChallenge challengeId entitlementId keyHash nonceHash now).1 challengeId := by
  rcases consume_found consumed with ⟨before, there, may⟩
  intro challenge found
  simp only [Database.consumeChallenge, Table.find?_update, there, Option.map_some, Option.some.injEq] at found
  rw [← found, if_pos may]
  rfl

/-- A redeemed challenge has no row that can be redeemed, unless the row was deleted and
made again. -/
def Spent (state : State) (time : Nat) (challengeId : String) : Prop :=
  (Exists fun later => time < later ∧ later < state.clock ∧
    (state.snapshot later).db.challenges.find? challengeId = none) ∨ Consumed state.db challengeId

theorem Spent.later (spent : Spent state time challengeId) (before : time < state.clock)
    (moved : (serviceMachine service).step state event = some next) : Spent next time challengeId := by
  have grown := clock_step moved
  rcases spent with ⟨later, after, inside, absent⟩ | consumed
  · refine Or.inl ⟨later, after, by omega, ?_⟩
    rw [snapshot_step moved (Nat.le_of_lt inside)]
    exact absent
  · rcases machine_act moved with ⟨middle, acted, db, -, -⟩
    unfold Spent
    rw [db]
    rcases act_writes acted with same | ⟨statement, its, wrote⟩
    · rw [same]
      exact Or.inr consumed
    · rw [wrote]
      rcases statement.consumed consumed with kept | absent
      · exact Or.inr kept
      · refine Or.inl ⟨state.clock, before, by omega, ?_⟩
        rw [snapshot_step moved (Nat.le_refl _), snapshot_now]
        exact absent

theorem redeeming_step {device : Device} (moved : state.act service event = some next)
    (before : state.workers[index]? = some (.refresh (.consuming claims proof device read)))
    (after : next.workers[index]? = some (.refresh (.touching claims proof device read))) :
    (Exists fun fault => Exists fun answer => event = .advance index fault answer) ∧
      Consumed next.db proof.challengeId := by
  rcases worker_cases moved after with same | ⟨starting, -⟩ | killed | ⟨worker, fault, answer, its, there, stepped⟩
  · cases before.symm.trans same
  · cases starting
  · cases killed
  · cases before.symm.trans there
    refine ⟨⟨fault, answer, its⟩, ?_⟩
    simp only [Worker.step] at stepped
    rcases Option.map_eq_some_iff.mp stepped with ⟨⟨wrote, later⟩, ran, same⟩
    simp only [Prod.mk.injEq, Worker.refresh.injEq] at same
    rcases same with ⟨rfl, rfl⟩
    rcases attempt_cases (Option.some.inj ran) with ⟨same, done⟩ | ⟨-, error, failed⟩
    · split at done
      next consumed =>
        rw [← Except.ok.inj same]
        exact consume_consumed consumed
      · cases done
    · cases failed

/-! ## The invariant -/

/-- What a worker has read and shown. -/
def Worker.Granted (service : Service) (state : State) (index : Nat) : Worker -> Prop
  | .checkout (.inserting _ _ publicKey keyHash _) => keyHash = service.primitives.sha256Text publicKey
  | .poll (.issuing _ run) => run.Seen service state index
  | .activate (.issuing run) => run.Seen service state index
  | .refresh run => run.Shown service state index
  | _ => True

/-- Two redemptions of one challenge id are of two rows. -/
def Apart (service : Service) (state : State) : Prop :=
  forall one two first second claims others proof again read later,
    Redeemed service state one first claims proof read -> Redeemed service state two second others again later ->
      proof.challengeId = again.challengeId -> first < second ->
        Exists fun between => first < between ∧ between < second ∧
          (state.snapshot between).db.challenges.find? proof.challengeId = none

structure Granted (service : Service) (state : State) : Prop where
  registry : Registry service state.db
  workers : forall index (worker : Worker), state.workers[index]? = some worker ->
    worker.Granted service state index
  spent : forall index time claims proof read, Redeemed service state index time claims proof read ->
    Spent state time proof.challengeId
  alone : forall one two time claims others proof again read later, Redeemed service state one time claims proof read ->
    Redeemed service state two time others again later -> one = two
  apart : Apart service state

theorem redeemed_not_initial (redeemed : Redeemed service .initial index time claims proof read) : False :=
  Nat.not_lt_zero time redeemed.1

theorem initial_granted (service : Service) : Granted service .initial where
  registry := empty_registry service
  workers _ _ there := by simp [State.initial] at there
  spent _ _ _ _ _ redeemed := (redeemed_not_initial redeemed).elim
  alone _ _ _ _ _ _ _ _ _ redeemed := (redeemed_not_initial redeemed).elim
  apart _ _ _ _ _ _ _ _ _ _ redeemed := (redeemed_not_initial redeemed).elim

theorem statement_keyed (granted : Granted service state) {statement : Statement}
    (its : state.statement service event = some statement) : statement.Keyed service := by
  cases statement with
  | insertClaim id secretHash publicKey keyHash termsVersion createdAt expiresAt =>
    cases event with
    | advance index fault answer =>
      rcases Option.bind_eq_some_iff.mp its with ⟨worker, there, its⟩
      have held := granted.workers index worker there
      unfold Worker.statement at its
      split at its
      all_goals try cases its
      · exact held
      · rcases Option.bind_eq_some_iff.mp its with ⟨run, -, its⟩
        cases run with
        | _ => cases its
    | _ => cases its
  | activate entitlementId keyHash publicKey now limit =>
    cases event with
    | advance index fault answer =>
      rcases Option.bind_eq_some_iff.mp its with ⟨worker, there, its⟩
      unfold Worker.statement at its
      split at its
      all_goals try cases its
      · exact ⟨rfl, rfl⟩
      · rcases Option.bind_eq_some_iff.mp its with ⟨run, -, its⟩
        cases run with
        | _ => cases its
    | _ => cases its
  | _ => trivial

theorem Worker.Granted.later {worker : Worker} (granted : worker.Granted service state index)
    (moved : (serviceMachine service).step state event = some next) : worker.Granted service next index := by
  cases worker with
  | checkout run =>
    cases run with
    | inserting claimId secretHash publicKey keyHash createdAt => exact granted
    | _ => trivial
  | poll run =>
    cases run with
    | issuing claim run => exact Issue.Seen.later granted moved
    | _ => trivial
  | activate run =>
    cases run with
    | issuing run => exact Issue.Seen.later granted moved
    | _ => trivial
  | refresh run => exact Refresh.Shown.later granted moved
  | _ => trivial

/-- A redemption after a step was one before, or is that of the step. -/
theorem redeemed_cases (moved : (serviceMachine service).step state event = some next)
    (redeemed : Redeemed service next index time claims proof read) :
    Redeemed service state index time claims proof read ∨ (time = state.clock ∧
      (Exists fun fault => Exists fun answer => event = .advance index fault answer) ∧
      Consumed next.db proof.challengeId ∧ Not (Consumed state.db proof.challengeId)) := by
  rcases redeemed with ⟨before, ⟨device, consuming, touching⟩, challenge, found, may⟩
  rw [clock_step moved] at before
  by_cases old : time < state.clock
  · rw [snapshot_step moved (Nat.le_of_lt old)] at consuming found
    rw [snapshot_step moved old] at touching
    exact Or.inl ⟨old, ⟨device, consuming, touching⟩, challenge, found, may⟩
  · have now : time = state.clock := by omega
    subst now
    rw [snapshot_step moved (Nat.le_refl _), snapshot_now] at consuming found
    rw [← clock_step moved, snapshot_now] at touching
    rcases machine_act moved with ⟨middle, acted, db, -, workers⟩
    rw [workers] at touching
    have redeeming := redeeming_step acted consuming touching
    refine Or.inr ⟨rfl, redeeming.1, db ▸ redeeming.2, ?_⟩
    intro consumed
    have gone := consumed challenge found
    simp only [Database.redeemable, Bool.and_eq_true, Option.isNone_iff_eq_none] at may
    rw [may.1.2] at gone
    cases gone

theorem conclude_granted (claim : CheckoutClaim) (index : Nat) :
    (Worker.poll (Poll.conclude claim)).Granted service next index := by
  unfold Poll.conclude
  split
  · split
    · trivial
    · trivial
  · trivial

/-- A poll issues a token for a completed claim only. -/
theorem Poll.step_granted {run later : Poll} {fault : Fault} {answer : Answer}
    (registry : Registry service state.db) (there : state.workers[index]? = some (.poll run))
    (held : (Worker.poll run).Granted service state index)
    (moved : (serviceMachine service).step state event = some next)
    (stepped : run.step service state.db state.now fault answer = some (after, later)) :
    (Worker.poll later).Granted service next index := by
  unfold Poll.step at stepped
  split at stepped
  · cases stepped
    split
    · split
      next claim found =>
        split
        · trivial
        · split
          · trivial
          · exact conclude_granted claim index
      · trivial
    · trivial
  · split at stepped
    · split at stepped
      · cases stepped
      · split at stepped
        · cases stepped
          trivial
        · split at stepped
          · cases stepped
            trivial
          · split at stepped
            · cases stepped
              trivial
            · cases stepped
              trivial
    · cases stepped
      trivial
    · cases stepped
  · cases stepped
    exact conclude_granted _ index
  · cases stepped
    trivial
  · rcases Option.map_eq_some_iff.mp stepped with ⟨⟨wrote, final⟩, ran, same⟩
    cases same
    trivial
  · cases stepped
    trivial
  · cases stepped
    trivial
  · rcases Option.map_eq_some_iff.mp stepped with ⟨final, ran, same⟩
    cases same
    exact Issue.step_seen registry there rfl held moved ran
  all_goals cases stepped

theorem step_worker_granted (granted : Granted service state) {worker later : Worker} {fault : Fault}
    {answer : Answer} (there : state.workers[index]? = some worker)
    (moved : (serviceMachine service).step state event = some next) (now : next.workers[index]? = some later)
    (stepped : worker.step service state.db state.now fault answer = some (after, later)) :
    later.Granted service next index := by
  have held := granted.workers index worker there
  cases worker with
  | killed => cases stepped
  | checkout run =>
    rcases Option.map_eq_some_iff.mp stepped with ⟨⟨wrote, final⟩, ran, same⟩
    cases same
    cases run with
    | inserting claimId secretHash publicKey keyHash createdAt | marking claimId orderId approvalUrl
    | failing claimId =>
      rcases attempt_cases (Option.some.inj ran) with ⟨-, rfl⟩ | ⟨-, error, rfl⟩
      · trivial
      · trivial
    | ordering claimId =>
      simp only [Checkout.step] at ran
      split at ran
      · cases ran
        trivial
      · cases ran
        trivial
      · cases ran
    | answered claimId approvalUrl | refused => cases ran
  | poll run =>
    rcases Option.map_eq_some_iff.mp stepped with ⟨⟨wrote, final⟩, ran, same⟩
    cases same
    exact Poll.step_granted granted.registry there held moved ran
  | activate run =>
    rcases Option.map_eq_some_iff.mp stepped with ⟨⟨wrote, final⟩, ran, same⟩
    cases same
    cases run with
    | looking lookupHash publicKey =>
      cases ran
      split
      · split
        · split
          · trivial
          · trivial
        · trivial
      · trivial
    | admitting entitlementId publicKey =>
      simp only [Activate.step] at ran
      rcases attempt_cases (Option.some.inj ran) with ⟨-, done⟩ | ⟨-, error, failed⟩
      · split at done
        · rw [done]
          trivial
        · rw [done]
          trivial
      · rw [failed]
        trivial
    | issuing run =>
      rcases Option.map_eq_some_iff.mp ran with ⟨last, issued, together⟩
      cases together
      exact Issue.step_seen granted.registry there rfl held moved issued
    | refused => cases ran
  | refresh run =>
    rcases Option.map_eq_some_iff.mp stepped with ⟨⟨wrote, final⟩, ran, same⟩
    cases same
    exact Refresh.step_shown granted.registry there held moved now ran
  | _ =>
    rcases Option.map_eq_some_iff.mp stepped with ⟨⟨wrote, final⟩, ran, same⟩
    cases same
    trivial

theorem starting_granted {worker : Worker} (starting : worker.starting = true)
    (requested : worker.Requested service) : worker.Granted service next index := by
  cases worker with
  | checkout run =>
    cases run with
    | inserting claimId secretHash publicKey keyHash createdAt => exact requested
    | _ => trivial
  | poll run =>
    cases run with
    | issuing claim run => cases starting
    | _ => trivial
  | activate run =>
    cases run with
    | issuing run => cases starting
    | _ => trivial
  | refresh run =>
    cases run with
    | device claims proof => exact requested
    | _ => cases starting
  | _ => trivial

theorem step_granted (positive : 1 ≤ service.maxActiveDevices) (valid : Valid service state)
    (granted : Granted service state) (moved : (serviceMachine service).step state event = some next) :
    Granted service next := by
  rcases machine_act moved with ⟨middle, acted, db, -, workers⟩
  constructor
  · rw [db]
    rcases act_writes acted with same | ⟨statement, its, wrote⟩
    · rw [same]
      exact granted.registry
    · rw [wrote]
      exact statement.registry positive granted.registry (act_allowed valid acted its) (statement_keyed granted its)
  · intro index worker there
    have found := there
    rw [workers] at found
    rcases worker_cases acted found with same | ⟨starting, requested⟩ | rfl |
        ⟨before, fault, answer, -, earlier, stepped⟩
    · exact (granted.workers index worker same).later moved
    · exact starting_granted starting requested
    · trivial
    · exact step_worker_granted granted earlier moved there stepped
  · intro index time claims proof read redeemed
    rcases redeemed_cases moved redeemed with before | ⟨-, -, consumed, -⟩
    · exact (granted.spent index time claims proof read before).later before.1 moved
    · exact Or.inr consumed
  · intro one two time claims others proof again read later first second
    rcases redeemed_cases moved first with before | ⟨now, ⟨fault, answer, its⟩, -⟩
    · rcases redeemed_cases moved second with earlier | ⟨now, -⟩
      · exact granted.alone one two time claims others proof again read later before earlier
      · exact absurd before.1 (by omega)
    · rcases redeemed_cases moved second with earlier | ⟨-, ⟨other, reply, same⟩, -⟩
      · exact absurd earlier.1 (by omega)
      · rw [its] at same
        cases same
        rfl
  · intro one two first second claims others proof again read later before after same order
    rcases redeemed_cases moved after with earlier | ⟨now, -, -, unspent⟩
    · have older : Redeemed service state one first claims proof read := by
        rcases redeemed_cases moved before with kept | ⟨present, -⟩
        · exact kept
        · exact absurd earlier.1 (by omega)
      rcases granted.apart one two first second claims others proof again read later older earlier same order with
        ⟨between, start, stop, absent⟩
      refine ⟨between, start, stop, ?_⟩
      rw [snapshot_step moved (Nat.le_of_lt (Nat.lt_trans stop earlier.1))]
      exact absent
    · rcases redeemed_cases moved before with older | ⟨present, -⟩
      · rcases granted.spent one first claims proof read older with ⟨between, start, stop, absent⟩ | consumed
        · refine ⟨between, start, by omega, ?_⟩
          rw [snapshot_step moved (Nat.le_of_lt stop)]
          exact absent
        · rw [same] at consumed
          exact absurd consumed unspent
      · omega

theorem reachable_granted (lawful : service.Lawful) (positive : 1 ≤ service.maxActiveDevices)
    (reached : (serviceMachine service).Reachable .initial state) : Granted service state := by
  rcases reached with ⟨events, run⟩
  have both : Valid service state ∧ Granted service state := by
    apply run.invariant (fun state => Valid service state ∧ Granted service state)
    · intro state event next _ held moved
      exact ⟨step_valid lawful held.1 moved, step_granted positive held.1 held.2 moved⟩
    · exact ⟨initial_valid service, initial_granted service⟩
  exact both.2

theorem readmitted {publicKey : String} {limit : Nat}
    (active : (db.getEntitlement entitlementId).any (fun entitlement => decide (entitlement.status = .active)) = true)
    (registered : (db.getDevice entitlementId keyHash).any (fun device => device.revokedAt.isNone) = true) :
    (db.activateDevice entitlementId keyHash publicKey now limit).2 = .admitted := by
  unfold Database.activateDevice
  rw [if_pos]
  unfold Database.admits
  rw [active, registered]
  rfl

/-- Devices are within the limit, a challenge is redeemed once and with a proof, a token
is issued for what was read as active, and the desktop takes it for its key alone. -/
theorem supporter_access_is_bounded (lawful : service.Lawful) (crypto : service.primitives.Lawful)
    (positive : 1 ≤ service.maxActiveDevices) (reached : (serviceMachine service).Reachable .initial state) :
    ((forall entitlementId, state.db.activeDevices entitlementId ≤ service.maxActiveDevices) ∧
      forall entitlementId keyHash publicKey now,
        (state.db.getEntitlement entitlementId).any (fun entitlement => decide (entitlement.status = .active)) = true ->
          (state.db.getDevice entitlementId keyHash).any (fun device => device.revokedAt.isNone) = true ->
            (state.db.activateDevice entitlementId keyHash publicKey now service.maxActiveDevices).2 = .admitted) ∧
    ((forall index proof device read entitlement registered claims token,
        state.workers[index]? = some (.refresh (.issuing proof device read (.issued entitlement registered claims token))) ->
          Exists fun presented => Proved service state index presented proof device read ∧
            Exists fun time => Redeemed service state index time presented proof read) ∧
      forall one two first second claims others proof again read later,
        Redeemed service state one first claims proof read -> Redeemed service state two second others again later ->
          one ≠ two -> proof.challengeId = again.challengeId ->
            Exists fun between => min first second < between ∧ between < max first second ∧
              (state.snapshot between).db.challenges.find? proof.challengeId = none) ∧
    (forall index worker entitlement device claims token, state.workers[index]? = some worker ->
      worker.issue = some (.issued entitlement device claims token) ->
        ReadActive state index entitlement device claims.entitlementId claims.deviceKeyHash ∧
        parseAndVerifyTokenWithKey service.primitives token device.devicePublicKey
            (encodeBase64Url service.primitives.publicKey) = .ok claims ∧
        (forall other, service.primitives.sha256 (utf8 other) ≠ service.primitives.sha256 (utf8 device.devicePublicKey) ->
          parseAndVerifyTokenWithKey service.primitives token other (encodeBase64Url service.primitives.publicKey) =
            .error "Supporter token belongs to a different device") ∧
        forall now, entitlementAccessAt claims now ≠ .expired ↔ now ≤ claims.offlineUntil) := by
  have granted := reachable_granted lawful positive reached
  refine ⟨⟨granted.registry.limit, ?_⟩, ⟨?_, ?_⟩, ?_⟩
  · intro entitlementId keyHash publicKey now active registered
    exact readmitted active registered
  · intro index proof device read entitlement registered claims token there
    exact (granted.workers index _ there).2
  · intro one two first second claims others proof again read later before after differ same
    rcases Nat.lt_trichotomy first second with order | equal | order
    · rw [Nat.min_eq_left (Nat.le_of_lt order), Nat.max_eq_right (Nat.le_of_lt order)]
      exact granted.apart one two first second claims others proof again read later before after same order
    · subst equal
      exact absurd (granted.alone one two first claims others proof again read later before after) differ
    · rw [Nat.min_eq_right (Nat.le_of_lt order), Nat.max_eq_left (Nat.le_of_lt order), same]
      exact granted.apart two one second first others claims again proof later read after before same.symm order
  · intro index worker entitlement device claims token there its
    have seen : Issue.Seen service state index (.issued entitlement device claims token) := by
      have held := granted.workers index worker there
      unfold Worker.issue at its
      split at its
      · cases its
        exact held
      · cases its
        exact held
      · cases its
        exact held.1
      · cases its
    rcases seen with ⟨active, its, issued⟩
    refine ⟨active, issued_accepted crypto issued its, ?_, access_until (issue_cases issued).1⟩
    intro other apart
    apply issued_rejected crypto issued
    rw [its]
    exact (sha256Text_ne apart).symm

/-! ## A service with a codec -/

section codec

open Codec

def writeEntitlementHeader (header : EntitlementHeader) : List UInt8 :=
  writeText header.alg ++ (writeText header.typ ++ writeText header.kid)

def readEntitlementHeader (bytes : List UInt8) : Option EntitlementHeader :=
  (readText bytes).bind fun (alg, rest) =>
    (readText rest).bind fun (typ, rest) =>
      (readText rest).map fun (kid, _) => ⟨alg, typ, kid⟩

def writeEntitlementClaims (claims : EntitlementClaims) : List UInt8 :=
  writeText claims.iss ++ (writeText claims.aud ++ (writeText claims.entitlementId ++
    (writeText claims.deviceKeyHash ++ (writeText claims.termsVersion ++ (writeInt claims.issuedAt ++
      (writeInt claims.expiresAt ++ writeInt claims.offlineUntil))))))

def readEntitlementClaims (bytes : List UInt8) : Option EntitlementClaims :=
  (readText bytes).bind fun (iss, rest) =>
    (readText rest).bind fun (aud, rest) =>
      (readText rest).bind fun (entitlementId, rest) =>
        (readText rest).bind fun (deviceKeyHash, rest) =>
          (readText rest).bind fun (termsVersion, rest) =>
            (readInt rest).bind fun (issuedAt, rest) =>
              (readInt rest).bind fun (expiresAt, rest) =>
                (readInt rest).map fun (offlineUntil, _) =>
                  ⟨iss, aud, entitlementId, deviceKeyHash, termsVersion, issuedAt, expiresAt, offlineUntil⟩

theorem readText_end (text : String) : readText (writeText text) = some (text, []) := by
  have read := readText_writeText text []
  rwa [List.append_nil] at read

theorem readInt_end (number : Int) : readInt (writeInt number) = some (number, []) := by
  have read := readInt_writeInt number []
  rwa [List.append_nil] at read

theorem readEntitlementHeader_write (header : EntitlementHeader) :
    readEntitlementHeader (writeEntitlementHeader header) = some header := by
  simp only [readEntitlementHeader, writeEntitlementHeader, readText_writeText, readText_end, Option.bind_some,
    Option.map_some]

theorem readEntitlementClaims_write (claims : EntitlementClaims) :
    readEntitlementClaims (writeEntitlementClaims claims) = some claims := by
  simp only [readEntitlementClaims, writeEntitlementClaims, readText_writeText, readInt_writeInt, readInt_end,
    Option.bind_some, Option.map_some]

/-- The claims of the first token. -/
def firstClaims : EntitlementClaims where
  iss := "telegram-drive-supporter"
  aud := "telegram-drive-desktop"
  entitlementId := "entitlement-one"
  deviceKeyHash := encodeBase64Url ((utf8 deviceKeyText).take 32)
  termsVersion := "1"
  issuedAt := 0
  expiresAt := 0
  offlineUntil := 0

/-- Primitives whose first token is short. -/
def examplePrimitives : Primitives where
  sign := fun _ => List.replicate 64 0
  publicKey := List.replicate 32 0
  validKey := fun key => decide (key.length = 32)
  verify := fun _ _ signature => decide (signature.length = 64)
  sha256 := fun bytes => (bytes ++ List.replicate 32 0).take 32
  writeHeader := writeShort entitlementHeader writeEntitlementHeader
  readHeader := readShort entitlementHeader readEntitlementHeader
  writeClaims := writeShort firstClaims writeEntitlementClaims
  readClaims := readShort firstClaims readEntitlementClaims

theorem examplePrimitives_lawful : examplePrimitives.Lawful where
  verifySign _ := rfl
  signLength _ := rfl
  keyLength := rfl
  keyValid := rfl
  header := readShort_writeShort readEntitlementHeader_write
  claims := readShort_writeShort readEntitlementClaims_write

end codec

/-! ## A slow refresh -/

def exampleService : Service :=
  { refundingService with primitives := examplePrimitives, entitlementTtlDays := 0, offlineGraceDays := 0 }

theorem exampleService_lawful : exampleService.Lawful := ⟨fun _ _ => rfl, fun _ => rfl⟩

/-- A token that was issued when the checkout was completed. -/
def firstToken : String :=
  match issueEntitlementToken examplePrimitives firstClaims with
  | .ok token => token
  | .error _ => ""

def exampleProof : RefreshProof where
  token := firstToken
  challengeId := "challenge"
  nonce := "nonce"
  signature := encodeBase64Url (List.replicate 64 0)

/-- A challenge that is redeemed in the last second, by a request that is slow afterwards,
and then a refund. -/
def slowRefresh : List Event :=
  checkoutEvents ++ returnEvents 1 ++ stepsOf 1 firstDraw 6 ++ [.challenge firstToken] ++
    stepsOf 2 ⟨"challenge", "nonce", []⟩ 3 ++ [.tick 300, .refresh exampleProof, .advance 3 .none .none, .tick 100] ++
    stepsOf 3 firstDraw 4 ++ [.deliver "refund"] ++ stepsOf 4 firstDraw 2

/-- Whether a refresh has issued a token after its challenge had expired. -/
def issuedLate (state : State) (worker : Worker) : Bool :=
  match worker with
  | .refresh (.issuing proof _ _ (.issued _ _ claims _)) =>
    (state.db.challenges.find? proof.challengeId).any fun challenge =>
      decide ((challenge.expiresAt : Int) < claims.issuedAt)
  | _ => false

/-- Whether an active device would not be admitted again. -/
def turnedAway (service : Service) (state : State) (device : Device) : Bool :=
  device.revokedAt.isNone &&
    decide ((state.db.activateDevice device.entitlementId device.deviceKeyHash device.devicePublicKey state.now
      service.maxActiveDevices).2 ≠ .admitted)

theorem slow_run : Exists fun state => (serviceMachine exampleService).Run Machine.anything .initial slowRefresh state ∧
    state.workers.any (issuedLate state) = true ∧ state.db.devices.items.any (turnedAway exampleService state) = true :=
  Machine.exists_run (by decide +kernel)

/-- A token is issued after its challenge has expired, and an active device of a revoked
entitlement is not admitted again. -/
theorem slow_refresh_issues_late : exampleService.Lawful ∧ exampleService.primitives.Lawful ∧
    1 ≤ exampleService.maxActiveDevices ∧ Exists fun state =>
      (serviceMachine exampleService).Run Machine.anything .initial slowRefresh state ∧
      state.workers.any (issuedLate state) = true ∧
      state.db.devices.items.any (turnedAway exampleService state) = true :=
  ⟨exampleService_lawful, examplePrimitives_lawful, by decide, slow_run⟩

/-- The token that the refresh has issued is accepted for the device that was read. -/
theorem refreshed_token_is_accepted : Exists fun state => Exists fun worker => Exists fun entitlement =>
    Exists fun device => Exists fun claims => Exists fun token =>
      (serviceMachine exampleService).Reachable .initial state ∧ worker ∈ state.workers ∧
      worker.issue = some (.issued entitlement device claims token) ∧
      parseAndVerifyTokenWithKey examplePrimitives token device.devicePublicKey
        (encodeBase64Url examplePrimitives.publicKey) = .ok claims := by
  rcases slow_run with ⟨state, run, issued, -⟩
  rcases List.any_eq_true.mp issued with ⟨worker, member, late⟩
  rcases List.mem_iff_getElem?.mp member with ⟨index, there⟩
  have reached : (serviceMachine exampleService).Reachable .initial state := ⟨_, run⟩
  unfold issuedLate at late
  split at late
  next proof device read entitlement registered claims token =>
    have issued := (supporter_access_is_bounded exampleService_lawful examplePrimitives_lawful (by decide) reached).2.2
      index _ entitlement registered claims token there rfl
    exact ⟨state, _, entitlement, registered, claims, token, reached, member, rfl, issued.2.1⟩
  · cases late

end Supporter
end TelegramDrive
