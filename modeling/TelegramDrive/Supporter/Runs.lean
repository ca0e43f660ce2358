import TelegramDrive.Supporter.Soundness

namespace TelegramDrive
namespace Supporter

/-!
# Runs of the service

What a step of the machine does to the database and to the workers, and the invariant
of all runs.
-/

variable {service : Service} {state next : State} {event : Event}

/-! ## Steps -/

/-- Where a worker starts. -/
def Worker.starting : Worker -> Bool
  | .checkout (.inserting _ _ _ _ _) => true
  | .poll (.reading _ _) => true
  | .page (.reading _ _) => true
  | .webhook _ .recording => true
  | .acknowledge (.reading _ _) => true
  | .activate (.looking _ _) => true
  | .challenge (.entitlement _) => true
  | .refresh (.device _ _) => true
  | _ => false

/-- What a request was checked for. -/
def Worker.Requested (service : Service) : Worker -> Prop
  | .checkout (.inserting _ _ publicKey keyHash _) => keyHash = service.primitives.sha256Text publicKey
  | .refresh (.device claims proof) => verifyEntitlementToken service.primitives proof.token = .ok claims
  | _ => True

/-- What a step does to the workers. -/
inductive WorkersMove (service : Service) (state next : State) : Event -> Prop
  | same {event : Event} (workers : next.workers = state.workers)
      (writes : Writes state.db next.db (state.statement service event)) : WorkersMove service state next event
  | start {event : Event} (worker : Worker) (starting : worker.starting = true)
      (requested : worker.Requested service)
      (delivered : forall eventId run, worker = .webhook eventId run -> event = .deliver eventId)
      (db : next.db = state.db) (workers : next.workers = state.workers ++ [worker]) : WorkersMove service state next event
  | advance (index : Nat) (fault : Fault) (answer : Answer) (worker after : Worker)
      (there : state.workers[index]? = some worker) (admissible : state.admissible answer = true)
      (moved : worker.step service state.db state.now fault answer = some (next.db, after))
      (workers : next.workers = state.workers.set index after) : WorkersMove service state next (.advance index fault answer)
  | kill (index : Nat) (worker : Worker) (there : state.workers[index]? = some worker)
      (unfinished : worker.finished = false) (db : next.db = state.db)
      (workers : next.workers = state.workers.set index .killed) : WorkersMove service state next (.kill index)

theorem act_advance {index : Nat} {fault : Fault} {answer : Answer}
    (moved : state.act service (.advance index fault answer) = some next) :
    Exists fun worker : Worker => Exists fun after : Worker => state.workers[index]? = some worker ∧
      state.admissible answer = true ∧
      worker.step service state.db state.now fault answer = some (next.db, after) ∧
      next = { state with db := next.db, workers := state.workers.set index after } := by
  simp only [State.act] at moved
  split at moved
  next admissible =>
    rcases Option.bind_eq_some_iff.mp moved with ⟨worker, there, rest⟩
    rcases Option.map_eq_some_iff.mp rest with ⟨⟨db, after⟩, stepped, rfl⟩
    exact ⟨worker, after, there, admissible, stepped, rfl⟩
  · cases moved

theorem act_workers (moved : state.act service event = some next) : WorkersMove service state next event := by
  cases event with
  | tick seconds =>
    cases moved
    exact .same rfl (Or.inl rfl)
  | begin claimId secret publicKey termsVersion termsAccepted =>
    simp only [State.act] at moved
    split at moved
    · cases moved
      exact .start _ rfl (by rfl) (fun _ _ same => by cases same) rfl rfl
    · cases moved
  | poll claimId secret | page claimId orderId | acknowledge claimId secret =>
    cases moved
    exact .start _ rfl (by trivial) (fun _ _ same => by cases same) rfl rfl
  | deliver eventId =>
    simp only [State.act] at moved
    split at moved
    · split at moved
      · cases moved
      · cases moved
        exact .start _ rfl (by trivial) (fun _ _ same => by cases same; rfl) rfl rfl
    · cases moved
      exact .start _ rfl (by trivial) (fun _ _ same => by cases same; rfl) rfl rfl
  | activate recoveryCode publicKey termsVersion termsAccepted | challenge token =>
    simp only [State.act] at moved
    split at moved
    · cases moved
      exact .start _ rfl (by trivial) (fun _ _ same => by cases same) rfl rfl
    · cases moved
  | refresh proof =>
    simp only [State.act] at moved
    split at moved
    next verified =>
      cases moved
      exact .start _ rfl (by exact verified) (fun _ _ same => by cases same) rfl rfl
    · cases moved
  | cancel claimId | cleanup | revokeDevice entitlementId deviceKeyHash =>
    cases moved
    exact .same rfl (Or.inr ⟨_, rfl, rfl⟩)
  | advance index fault answer =>
    rcases act_advance moved with ⟨worker, after, there, admissible, stepped, same⟩
    exact .advance index fault answer worker after there admissible stepped (same ▸ rfl)
  | kill index =>
    rcases Option.bind_eq_some_iff.mp moved with ⟨worker, there, rest⟩
    split at rest
    · cases rest
    next unfinished =>
      cases rest
      exact .kill index worker there (by simpa using unfinished) rfl rfl

theorem act_writes (moved : state.act service event = some next) :
    Writes state.db next.db (state.statement service event) := by
  cases act_workers moved with
  | same workers writes => exact writes
  | start worker starting requested delivered db workers | kill index worker there unfinished db workers =>
    exact Or.inl db
  | advance index fault answer worker after there admissible stepped workers =>
    have writes := Worker.step_writes stepped
    simpa only [State.statement, there, Option.bind_some] using writes

/-! ## What the workers know -/

/-- What a worker has read of a claim, or what its run of `finalizePaidOrder` knows. -/
def Worker.Known (service : Service) (db : Database) : Worker -> Prop
  | .poll (.asking claim) => KnownClaim db claim
  | .page (.asking claim) => KnownClaim db claim
  | .webhook _ (.capturing claim) => KnownClaim db claim
  | .poll (.finalizing run) => run.Known service db
  | .page (.finalizing run) => run.Known service db
  | .webhook _ (.finalizing run) => run.Known service db
  | _ => True

variable {worker : Worker}

theorem Worker.Known.later {db next : Database} (known : worker.Known service db)
    (kept : ClaimsKept db next) : worker.Known service next := by
  cases worker with
  | poll run | page run =>
    cases run with
    | asking claim => exact KnownClaim.later known kept
    | finalizing run => exact Finalize.Known.later known kept
    | _ => trivial
  | webhook eventId run =>
    cases run with
    | capturing claim => exact KnownClaim.later known kept
    | finalizing run => exact Finalize.Known.later known kept
    | _ => trivial
  | _ => trivial

theorem starting_known {db : Database} (starting : worker.starting = true) :
    worker.Known service db := by
  cases worker with
  | poll run | page run =>
    cases run with
    | asking claim | finalizing run => cases starting
    | _ => trivial
  | webhook eventId run =>
    cases run with
    | capturing claim | finalizing run => cases starting
    | _ => trivial
  | _ => trivial

/-! ## The invariant of every run -/

section known

variable {db after : Database} {now : Nat} {fault : Fault} {answer : Answer}

/-- A step inside a run of `finalizePaidOrder`. -/
theorem finalizing_known {Run : Type} (lawful : service.Lawful) {draw : Draw} {run : Finalize}
    {later : Run} (known : run.Known service db) (kept : ClaimsKept db after)
    (into : Finalize -> Run) (property : Run -> Prop)
    (carries : forall final : Finalize, final.Known service after -> property (into final))
    (moved : ((run.step service db now draw fault).map fun (next, run) => (next, into run)) = some (after, later)) :
    property later := by
  rcases Option.map_eq_some_iff.mp moved with ⟨⟨wrote, final⟩, stepped, together⟩
  cases together
  exact carries final (Finalize.step_known lawful known kept stepped)

theorem conclude_known (claim : CheckoutClaim) : (Worker.poll (Poll.conclude claim)).Known service db := by
  unfold Poll.conclude
  split
  · split
    · trivial
    · trivial
  · trivial

theorem Poll.step_known (lawful : service.Lawful) {run later : Poll} (known : (Worker.poll run).Known service db)
    (kept : ClaimsKept db after) (moved : run.step service db now fault answer = some (after, later)) :
    (Worker.poll later).Known service after := by
  unfold Poll.step at moved
  split at moved
  · cases moved
    split
    · split
      next claim found =>
        split
        · trivial
        · split
          · exact (known_of_found found).1
          · exact conclude_known claim
      · trivial
    · trivial
  next claim =>
    split at moved
    next order =>
      split at moved
      · cases moved
      next genuine =>
        split at moved
        · cases moved
          trivial
        · split at moved
          · cases moved
            exact ⟨known, by simpa using genuine⟩
          · split at moved
            · cases moved
              trivial
            · cases moved
              trivial
    · cases moved
      trivial
    · cases moved
  · cases moved
    exact conclude_known _
  · cases moved
    trivial
  · exact finalizing_known lawful known kept Poll.finalizing (fun run => (Worker.poll run).Known service after)
      (fun _ final => final) moved
  · cases moved
    trivial
  · cases moved
    trivial
  · rcases Option.map_eq_some_iff.mp moved with ⟨final, -, together⟩
    cases together
    trivial
  all_goals cases moved

theorem Page.step_known (lawful : service.Lawful) {run later : Page} (known : (Worker.page run).Known service db)
    (kept : ClaimsKept db after) (moved : run.step service db now fault answer = some (after, later)) :
    (Worker.page later).Known service after := by
  unfold Page.step at moved
  split at moved
  · cases moved
    split
    · split
      next claim found =>
        split
        · exact (known_of_found found).1
        · trivial
      · trivial
    · trivial
  next claim =>
    split at moved
    next order =>
      split at moved
      · cases moved
      next genuine =>
        cases moved
        exact ⟨known, by simpa using genuine⟩
    · cases moved
      trivial
    · cases moved
  · cases moved
    trivial
  · cases moved
    trivial
  · exact finalizing_known lawful known kept Page.finalizing (fun run => (Worker.page run).Known service after)
      (fun _ final => final) moved
  all_goals cases moved

theorem known_of_order {orderId : String} {claim : CheckoutClaim} (found : db.getCheckoutByOrder orderId = some claim) :
    KnownClaim db claim ∧ claim.paypalOrderId = some orderId :=
  ⟨⟨claim, List.mem_of_find?_eq_some found, .refl claim⟩, of_decide_eq_true (List.find?_some found :)⟩

theorem dispatch_known (eventId : String) (event : PayPalEvent) :
    (Worker.webhook eventId (Webhook.dispatch event)).Known service db := by
  unfold Webhook.dispatch
  split
  · trivial
  · split
    · trivial
    · trivial

theorem Webhook.step_known (lawful : service.Lawful) {eventId : String} {run later : Webhook}
    (known : (Worker.webhook eventId run).Known service db) (kept : ClaimsKept db after)
    (moved : run.step service db now fault answer (service.event eventId) = some (after, later)) :
    (Worker.webhook eventId later).Known service after := by
  unfold Webhook.step at moved
  split at moved
  · rcases attempt_cases (Option.some.inj moved) with ⟨-, rfl⟩ | ⟨-, error, rfl⟩
    · split
      · exact dispatch_known eventId _
      · trivial
    · trivial
  · cases moved
    split
    · split
      next claim found =>
        split
        · exact (known_of_order found).1
        · trivial
      · trivial
    · trivial
  next claim =>
    split at moved
    next order =>
      split at moved
      · cases moved
      next genuine =>
        cases moved
        exact ⟨known, by simpa using genuine⟩
    · cases moved
      trivial
    · cases moved
  · cases moved
    trivial
  · cases moved
    trivial
  · exact finalizing_known lawful known kept Webhook.finalizing
      (fun run => (Worker.webhook eventId run).Known service after) (fun _ final => final) moved
  · rcases attempt_cases (Option.some.inj moved) with ⟨-, rfl⟩ | ⟨-, error, rfl⟩
    · trivial
    · trivial
  · rcases attempt_cases (Option.some.inj moved) with ⟨-, rfl⟩ | ⟨-, error, rfl⟩
    · trivial
    · trivial
  · rcases attempt_cases (Option.some.inj moved) with ⟨-, rfl⟩ | ⟨-, error, rfl⟩
    · trivial
    · trivial
  all_goals cases moved

theorem Worker.step_known (lawful : service.Lawful) {worker later : Worker} (known : worker.Known service db)
    (kept : ClaimsKept db after) (moved : worker.step service db now fault answer = some (after, later)) :
    later.Known service after := by
  cases worker with
  | killed => cases moved
  | poll run =>
    rcases Option.map_eq_some_iff.mp moved with ⟨⟨wrote, final⟩, stepped, same⟩
    cases same
    exact Poll.step_known lawful known kept stepped
  | page run =>
    rcases Option.map_eq_some_iff.mp moved with ⟨⟨wrote, final⟩, stepped, same⟩
    cases same
    exact Page.step_known lawful known kept stepped
  | webhook eventId run =>
    rcases Option.map_eq_some_iff.mp moved with ⟨⟨wrote, final⟩, stepped, same⟩
    cases same
    exact Webhook.step_known lawful known kept stepped
  | _ =>
    rcases Option.map_eq_some_iff.mp moved with ⟨⟨wrote, final⟩, stepped, same⟩
    cases same
    trivial

end known

/-- What holds in every reachable state. -/
structure Valid (service : Service) (state : State) : Prop where
  sound : Sound service state.db
  known : forall worker, worker ∈ state.workers -> worker.Known service state.db

theorem initial_valid (service : Service) : Valid service .initial :=
  ⟨empty_sound service, fun _ member => absurd member List.not_mem_nil⟩

/-- Only a run of `finalizePaidOrder` waits at a batch. -/
theorem statement_complete {now : Nat} {details : Database.Completion}
    (same : worker.statement service now = some (.complete details)) :
    worker.finalizing = some (.committing details) := by
  unfold Worker.statement at same
  split at same
  all_goals try cases same
  rcases Option.bind_eq_some_iff.mp same with ⟨run, finalizing, its⟩
  rw [finalizing]
  cases run with
  | committing other =>
    cases its
    rfl
  | _ => cases its

/-- Whether a run of `finalizePaidOrder` is over. -/
def Finalize.ended : Finalize -> Bool
  | .returned _ => true
  | .threw _ => true
  | _ => false

/-- A worker whose run of `finalizePaidOrder` goes on. -/
def Worker.resume : Worker -> Finalize -> Worker
  | .poll _, run => .poll (.finalizing run)
  | .page _, run => .page (.finalizing run)
  | .webhook eventId _, run => .webhook eventId (.finalizing run)
  | worker, _ => worker

theorem Worker.finalizing_resume {run : Finalize} (finalizing : worker.finalizing = some run)
    (later : Finalize) : (worker.resume later).finalizing = some later := by
  unfold Worker.finalizing at finalizing
  split at finalizing
  · rfl
  · rfl
  · rfl
  · cases finalizing

theorem Worker.step_finalizing {run : Finalize} {db : Database} {now : Nat} {fault : Fault}
    {answer : Answer} (finalizing : worker.finalizing = some run) (going : run.ended = false) :
    worker.step service db now fault answer =
      (run.step service db now answer.drawn fault).map fun (next, later) => (next, worker.resume later) := by
  unfold Worker.finalizing at finalizing
  split at finalizing
  · cases finalizing
    cases run with
    | returned claim | threw error => cases going
    | _ => simp only [Worker.step, Poll.step, Option.map_map, Function.comp_def, Worker.resume]
  · cases finalizing
    cases run with
    | returned claim | threw error => cases going
    | _ => simp only [Worker.step, Page.step, Option.map_map, Function.comp_def, Worker.resume]
  · cases finalizing
    cases run with
    | returned claim | threw error => cases going
    | _ => simp only [Worker.step, Webhook.step, Option.map_map, Function.comp_def, Worker.resume]
  · cases finalizing

/-- A batch that is run has an id that no entitlement has, and does nothing if it is
rejected. -/
theorem committing_step {later : Worker} {db after : Database} {now : Nat} {fault : Fault} {answer : Answer}
    {details : Database.Completion} (finalizing : worker.finalizing = some (.committing details))
    (moved : worker.step service db now fault answer = some (after, later)) :
    db.entitlements.find? details.entitlementId = none ∧ (fault = .rejected -> after = db) := by
  rw [Worker.step_finalizing finalizing rfl] at moved
  rcases Option.map_eq_some_iff.mp moved with ⟨⟨wrote, final⟩, stepped, same⟩
  cases same
  simp only [Finalize.step] at stepped
  split at stepped
  · cases stepped
  next absent =>
    refine ⟨Option.not_isSome_iff_eq_none.mp absent, ?_⟩
    intro rejected
    rw [rejected] at stepped
    cases stepped
    rfl

theorem Worker.Known.finalizing {db : Database} {run : Finalize} (known : worker.Known service db)
    (finalizing : worker.finalizing = some run) : run.Known service db := by
  unfold Worker.finalizing at finalizing
  split at finalizing
  · cases finalizing
    exact known
  · cases finalizing
    exact known
  · cases finalizing
    exact known
  · cases finalizing

/-- The statement of a step is one that the invariant allows. -/
theorem act_allowed (valid : Valid service state) (moved : state.act service event = some next)
    {statement : Statement} (its : state.statement service event = some statement) :
    statement.Allowed service state.db := by
  cases statement with
  | complete details =>
    cases event with
    | advance index fault answer =>
      rcases act_advance moved with ⟨worker, after, there, -, stepped, -⟩
      simp only [State.statement, there, Option.bind_some] at its
      have finalizing := statement_complete its
      have known := valid.known worker (List.mem_of_getElem? there)
      exact ⟨known.finalizing finalizing, (committing_step finalizing stepped).1⟩
    | _ => cases its
  | _ => trivial

theorem act_kept (valid : Valid service state) (moved : state.act service event = some next) :
    ClaimsKept state.db next.db := by
  rcases act_writes moved with same | ⟨statement, its, wrote⟩
  · rw [same]
    exact .refl state.db
  · rw [wrote]
    exact statement.kept valid.sound (act_allowed valid moved its)

theorem act_valid (lawful : service.Lawful) (valid : Valid service state)
    (moved : state.act service event = some next) : Valid service next := by
  have kept := act_kept valid moved
  constructor
  · rcases act_writes moved with same | ⟨statement, its, wrote⟩
    · rw [same]
      exact valid.sound
    · rw [wrote]
      exact statement.sound valid.sound (act_allowed valid moved its)
  · intro worker member
    have old : worker ∈ state.workers -> worker.Known service next.db :=
      fun there => (valid.known worker there).later kept
    cases act_workers moved with
    | same workers writes => exact old (workers ▸ member)
    | start added starting requested delivered db workers =>
      rw [workers, List.mem_append, List.mem_singleton] at member
      rcases member with there | rfl
      · exact old there
      · exact starting_known starting
    | advance index fault answer before after there admissible stepped workers =>
      rw [workers] at member
      rcases List.mem_or_eq_of_mem_set member with same | rfl
      · exact old same
      · exact Worker.step_known lawful (valid.known before (List.mem_of_getElem? there)) kept stepped
    | kill index before there unfinished db workers =>
      rw [workers] at member
      rcases List.mem_or_eq_of_mem_set member with same | rfl
      · exact old same
      · trivial

/-! ## Steps of the machine -/

/-- A step of the machine, but for the history. -/
theorem machine_act (moved : (serviceMachine service).step state event = some next) :
    Exists fun middle : State => state.act service event = some middle ∧ next.db = middle.db ∧ next.now = middle.now ∧
      next.workers = middle.workers := by
  rcases Option.map_eq_some_iff.mp moved with ⟨middle, acted, rfl⟩
  exact ⟨middle, acted, rfl, rfl, rfl⟩

theorem step_valid (lawful : service.Lawful) (valid : Valid service state)
    (moved : (serviceMachine service).step state event = some next) : Valid service next := by
  rcases machine_act moved with ⟨middle, acted, db, -, workers⟩
  have later := act_valid lawful valid acted
  exact ⟨db ▸ later.sound, by rw [db, workers]; exact later.known⟩

theorem step_kept (valid : Valid service state) (moved : (serviceMachine service).step state event = some next) :
    ClaimsKept state.db next.db := by
  rcases machine_act moved with ⟨middle, acted, db, -, -⟩
  rw [db]
  exact act_kept valid acted

theorem run_kept (lawful : service.Lawful) {permitted : State -> Event -> Prop} {events : List Event}
    (valid : Valid service state) (run : (serviceMachine service).Run permitted state events next) :
    Valid service next ∧ ClaimsKept state.db next.db := by
  induction run with
  | stop state => exact ⟨valid, .refl state.db⟩
  | take allowed moved later ih =>
    have rest := ih (step_valid lawful valid moved)
    refine ⟨rest.1, ?_⟩
    intro before member
    rcases step_kept valid moved before member with ⟨middle, inside, first⟩
    rcases rest.2 middle inside with ⟨after, there, second⟩
    exact ⟨after, there, first.trans second⟩

end Supporter
end TelegramDrive
