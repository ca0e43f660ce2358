import TelegramDrive.Transfers.Cancellation
import TelegramDrive.Transfers.SingleExecution

namespace TelegramDrive
namespace Transfers

/-!
# Requests that stop their own execution only

A request is aimed at the execution that runs when it is made, but it stands under
the id of the job.  It stays aimed as long as every exit that finds it removes it,
none is made after the operation has returned, and the removal at the end of a
withdrawal does not come too early.
-/

variable {system : FileSystem} {state : Cancellation}

/-! ## The condition -/

/-- The exits that leave a request where it is: a success, an error of another kind,
the wait of `pace_download`, the preparation and the publication of a video, and the
checks that only return. -/
def Execution.keepsRequest (execution : Execution) (move : Move) : Bool :=
  match execution.leaving, move with
  | some removes, .leave => !removes
  | none, .succeed _ | none, .fail _ => true
  | none, .stop =>
    match execution.code with
    | .point (.listen true) :: _ => false
    | _ => true
  | _, _ => false

namespace Cancellation

/-- An execution of the id has not returned. -/
def running (state : Cancellation) (id : String) : Bool :=
  state.executions.any fun execution => decide (execution.id = id) && execution.result.isNone

/-- No request outlives the execution it was aimed at: an execution that finds one
removes it on its way out, unless a withdrawal will; a pause or a cancellation asks
an execution that has not returned; nothing starts under an id whose withdrawal is
still to remove its request, and that removal waits for the execution. -/
def staysAimed (state : Cancellation) : CancellationEvent -> Bool
  | .queue event _ =>
    (match event with
      | .withdraw _ _ _ => true
      | event => (asks state.queue event).all fun id => state.running id || decide (id ∈ state.withdrawing)) &&
    (starts state.queue event).all fun job => decide (job.id ∉ state.withdrawing)
  | .advance id move =>
    decide (id ∉ state.cancelled) || decide (id ∈ state.withdrawing) ||
      (state.execution? id).all fun execution => !execution.keepsRequest move
  | .fire => true
  | .settle id => !state.running id

end Cancellation

open Cancellation

/-! ## Moves of an execution -/

/-- An execution that goes on: only a check that finds a request changes more than
its place. -/
structure Continues (execution next : Execution) (asked : Bool) : Prop where
  id : next.id = execution.id
  requested : next.requested = execution.requested
  result : next.result = none
  registered : next.registered = execution.registered
  notified : next.notified = execution.notified
  leaving : next.leaving.isSome = true -> asked = true

/-- An execution that has registered its sender. -/
structure Registers (execution next : Execution) : Prop where
  id : next.id = execution.id
  requested : next.requested = execution.requested
  result : next.result = none
  registered : next.registered = true
  notified : next.notified = false
  leaving : next.leaving = none

/-- An execution that returns: as cancelled only after it has seen a request. -/
structure Returns (execution : Execution) (asked : Bool) (move : Move) (removes : Bool)
    (result : Except String TransferResponse) : Prop where
  seen : result = .error cancelledError ->
    asked = true ∨ execution.notified = true ∨ execution.leaving.isSome = true
  removed : removes = false -> execution.keepsRequest move = true

/-- What a move does. -/
def Advance.Follows (execution : Execution) (asked : Bool) (move : Move) : Advance -> Prop
  | .goes next => Continues execution next asked
  | .registers next => Registers execution next
  | .returns removes result => Returns execution asked move removes result

variable {execution : Execution}

theorem atPoint_follows {asked : Bool} {point : Point} {rest : List Code} {move : Move}
    {outcome : Advance} (unreturned : execution.result = none) (staying : execution.leaving = none)
    (code : execution.code = .point point :: rest)
    (moved : execution.atPoint asked rest point move = some outcome) :
    outcome.Follows execution asked move := by
  have onward : Continues execution { execution with code := rest } asked :=
    ⟨rfl, rfl, unreturned, rfl, rfl, fun leaves => by rw [staying] at leaves; cases leaves⟩
  have own (error : String) (differs : error ≠ cancelledError) :
      Returns execution asked (.fail error) false (.error error) :=
    ⟨fun same => absurd (Except.error.inj same) differs,
      fun _ => by simp only [Execution.keepsRequest, staying]⟩
  cases move with
  | pass =>
    cases point with
    | work | pace | listen removes =>
      cases moved
      exact onward
    | check removes =>
      cases moved
      change Continues _ _ _
      cases asked with
      | true => exact ⟨rfl, rfl, unreturned, rfl, rfl, fun _ => rfl⟩
      | false => exact onward
    | register =>
      cases moved
      exact ⟨rfl, rfl, unreturned, rfl, rfl, staying⟩
  | stop =>
    cases point with
    | work | check removes | register => cases moved
    | pace =>
      simp only [Execution.atPoint] at moved
      split at moved
      next found =>
        cases moved
        exact ⟨fun _ => Or.inl found, fun _ => by simp only [Execution.keepsRequest, staying, code]⟩
      · cases moved
    | listen removes =>
      simp only [Execution.atPoint] at moved
      split at moved
      next notified =>
        cases moved
        refine ⟨fun _ => Or.inr (Or.inl notified), ?_⟩
        intro keeps
        subst keeps
        simp only [Execution.keepsRequest, staying, code]
      · cases moved
  | fail error =>
    cases point with
    | check removes | register => cases moved
    | work | pace | listen removes =>
      simp only [Execution.atPoint, Point.mayFail, Bool.true_and, decide_eq_true_eq] at moved
      split at moved
      next differs =>
        cases moved
        exact own error differs
      · cases moved
  | choose first | leave | succeed response => cases point <;> cases moved

theorem advance_follows {asked : Bool} {move : Move} {outcome : Advance}
    (moved : execution.advance asked move = some outcome) :
    execution.result = none ∧ outcome.Follows execution asked move := by
  unfold Execution.advance at moved
  split at moved
  · cases moved
  next removes unreturned leaving =>
    split at moved
    · cases moved
      refine ⟨unreturned, fun _ => Or.inr (Or.inr (by rw [leaving]; rfl)), ?_⟩
      intro keeps
      simp only [Execution.keepsRequest, leaving, keeps, Bool.not_false]
    · cases moved
  next unreturned staying =>
    refine ⟨unreturned, ?_⟩
    have stays : forall next : Execution, next.leaving = execution.leaving ->
        next.leaving.isSome = true -> asked = true := by
      intro next same leaves
      rw [same, staying] at leaves
      cases leaves
    split at moved
    · cases moved
      exact ⟨(nomatch ·), fun _ => by simp only [Execution.keepsRequest, staying]⟩
    next point rest move code => exact atPoint_follows unreturned staying code moved
    · cases moved
      exact ⟨rfl, rfl, unreturned, rfl, rfl, stays _ rfl⟩
    · cases moved
      exact ⟨rfl, rfl, unreturned, rfl, rfl, stays _ rfl⟩
    · cases moved

/-! ## The invariant -/

/-- Requests and senders belong to executions that run, and whoever has noticed one
was asked. -/
structure Aimed (state : Cancellation) : Prop where
  operating : state.queue.Operating
  matched : state.executions.map (·.id) = state.queue.operations.map (·.id)
  entries : forall id, id ∈ state.cancelled -> state.running id = true ∨ id ∈ state.withdrawing
  senders : forall id, id ∈ state.senders -> Exists fun execution => execution ∈ state.executions ∧
    execution.id = id ∧ execution.result = none ∧ execution.registered = true
  asked : forall execution, execution ∈ state.executions -> execution.id ∈ state.cancelled ->
    execution.result = none -> execution.requested = true
  noticed : forall execution, execution ∈ state.executions -> execution.notified = true ∨
    execution.leaving.isSome = true ∨ execution.result = some (.error cancelledError) ->
    execution.requested = true
  kept : forall execution, execution ∈ state.executions -> execution.requested = true ->
    execution.result = none -> execution.id ∈ state.cancelled
  fired : forall id, state.firing = some id -> forall execution, execution ∈ state.executions ->
    execution.id = id -> execution.requested = true
  withdrawn : forall id, id ∈ state.withdrawing -> forall execution, execution ∈ state.executions ->
    execution.id = id -> execution.requested = true

variable {id : String}

theorem running_iff : state.running id = true ↔ Exists fun execution =>
    execution ∈ state.executions ∧ execution.id = id ∧ execution.result = none := by
  simp [running]

theorem mem_without {ids : List String} {other : String} :
    other ∈ without ids id ↔ other ∈ ids ∧ other ≠ id := by
  simp [without]

variable {executions : List Execution}

theorem mem_change {update : Execution -> Execution} (member : execution ∈ change executions id update) :
    (Exists fun before => before ∈ executions ∧ before.id = id ∧ execution = update before) ∨
      (execution ∈ executions ∧ execution.id ≠ id) := by
  rcases List.mem_map.mp member with ⟨before, inside, rfl⟩
  by_cases its : before.id = id
  · rw [if_pos its]
    exact Or.inl ⟨before, inside, its, rfl⟩
  · rw [if_neg its]
    exact Or.inr ⟨inside, its⟩

theorem mem_change_of_eq (update : Execution -> Execution)
    (member : execution ∈ executions) (same : execution.id = id) :
    update execution ∈ change executions id update :=
  List.mem_map.mpr ⟨execution, member, if_pos same⟩

theorem mem_change_of_ne (update : Execution -> Execution)
    (member : execution ∈ executions) (apart : execution.id ≠ id) :
    execution ∈ change executions id update :=
  List.mem_map.mpr ⟨execution, member, if_neg apart⟩

theorem change_ids {update : Execution -> Execution}
    (same : forall execution, execution.id = id -> (update execution).id = id) :
    (change executions id update).map (·.id) = executions.map (·.id) := by
  unfold change
  rw [List.map_map]
  apply List.map_congr_left
  intro execution _
  by_cases its : execution.id = id
  · simp [its, same execution its]
  · simp [its]

theorem execution?_some
    (found : state.execution? id = some execution) : execution ∈ state.executions ∧ execution.id = id := by
  have same := List.find?_some found
  exact ⟨List.mem_of_find?_eq_some found, of_decide_eq_true same⟩

namespace Aimed

theorem unique (aimed : Aimed state) {one two : Execution} (first : one ∈ state.executions)
    (second : two ∈ state.executions) (same : one.id = two.id) : one = two := by
  have distinct : (state.executions.map (·.id)).Nodup := by
    rw [aimed.matched]
    exact aimed.operating.distinct
  exact List.inj_on_of_nodup_map distinct first second same

theorem resting_aimed {queue : TransferQueue} (operating : queue.Operating) (empty : queue.operations = []) :
    Aimed (resting queue) where
  operating := operating
  matched := by
    change [] = queue.operations.map (·.id)
    rw [empty]
    rfl
  entries _ member := absurd member List.not_mem_nil
  senders _ member := absurd member List.not_mem_nil
  asked _ member := absurd member List.not_mem_nil
  noticed _ member := absurd member List.not_mem_nil
  kept _ member := absurd member List.not_mem_nil
  fired _ firing := nomatch firing
  withdrawn _ member := absurd member List.not_mem_nil

theorem quiet (aimed : Aimed state) {next : TransferQueue} (operating : next.Operating)
    (same : next.operations = state.queue.operations) : Aimed { state with queue := next } :=
  { aimed with
    operating := operating
    matched := by
      change state.executions.map (·.id) = next.operations.map (·.id)
      rw [same]
      exact aimed.matched }

theorem request (aimed : Aimed state) {id : String} {later : List String}
    (kept : forall other, other ∈ state.withdrawing -> other ∈ later)
    (added : forall other, other ∈ later -> other = id ∨ other ∈ state.withdrawing)
    (target : state.running id = true ∨ id ∈ later) :
    Aimed ({ state with withdrawing := later }.request id) where
  operating := aimed.operating
  matched := by
    unfold Cancellation.request
    simp only
    rw [change_ids]
    · exact aimed.matched
    · exact fun _ same => same
  entries other member := by
    have runs : state.running other = true ->
        ({ state with withdrawing := later }.request id).running other = true := by
      rw [running_iff, running_iff]
      rintro ⟨execution, inside, same, unreturned⟩
      by_cases its : execution.id = id
      · exact ⟨_, mem_change_of_eq _ inside its, same, unreturned⟩
      · exact ⟨execution, mem_change_of_ne _ inside its, same, unreturned⟩
    rcases List.mem_cons.mp member with rfl | earlier
    · exact target.imp_left runs
    · exact (aimed.entries other earlier).imp runs (kept other)
  senders other member := by
    rcases aimed.senders other member with ⟨execution, inside, same, standing⟩
    by_cases its : execution.id = id
    · exact ⟨_, mem_change_of_eq _ inside its, same, standing⟩
    · exact ⟨execution, mem_change_of_ne _ inside its, same, standing⟩
  asked execution member listed unreturned := by
    rcases mem_change member with ⟨before, -, -, rfl⟩ | ⟨inside, apart⟩
    · rfl
    · exact aimed.asked execution inside (List.mem_of_ne_of_mem apart listed) unreturned
  noticed execution member seen := by
    rcases mem_change member with ⟨before, -, -, rfl⟩ | ⟨inside, -⟩
    · rfl
    · exact aimed.noticed execution inside seen
  kept execution member requested unreturned := by
    rcases mem_change member with ⟨before, -, same, rfl⟩ | ⟨inside, -⟩
    · exact List.mem_cons.mpr (Or.inl same)
    · exact List.mem_cons_of_mem _ (aimed.kept execution inside requested unreturned)
  fired other firing execution member same := by
    cases firing
    rcases mem_change member with ⟨before, -, -, rfl⟩ | ⟨-, apart⟩
    · rfl
    · exact absurd same apart
  withdrawn other member execution inside same := by
    rcases mem_change inside with ⟨before, -, -, rfl⟩ | ⟨listed, apart⟩
    · rfl
    · have earlier := (added other member).resolve_left fun its => apart (same.trans its)
      exact aimed.withdrawn other earlier execution listed same

theorem replace (aimed : Aimed state) {before next : Execution} {senders : List String}
    (inside : before ∈ state.executions) (unreturned : before.result = none)
    (id : next.id = before.id) (requested : next.requested = before.requested) (result : next.result = none)
    (noticed : next.notified = true ∨ next.leaving.isSome = true -> before.requested = true)
    (registered : forall other, other ∈ senders -> (other = before.id ∧ next.registered = true) ∨
      (other ∈ state.senders ∧ other ≠ before.id)) :
    Aimed { state with
      executions := change state.executions before.id fun _ => next
      senders := senders } where
  operating := aimed.operating
  matched := by
    apply Eq.trans (change_ids fun _ _ => id)
    exact aimed.matched
  entries other member := by
    refine (aimed.entries other member).imp_left ?_
    rw [running_iff, running_iff]
    rintro ⟨execution, listed, same, waiting⟩
    by_cases its : execution.id = before.id
    · exact ⟨next, mem_change_of_eq (fun _ => next) listed its, id.trans (its.symm.trans same), result⟩
    · exact ⟨execution, mem_change_of_ne _ listed its, same, waiting⟩
  senders other member := by
    rcases registered other member with ⟨rfl, stands⟩ | ⟨earlier, apart⟩
    · exact ⟨next, mem_change_of_eq (fun _ => next) inside rfl, id, result, stands⟩
    · rcases aimed.senders other earlier with ⟨execution, listed, rfl, standing⟩
      exact ⟨execution, mem_change_of_ne _ listed apart, rfl, standing⟩
  asked execution member listed waiting := by
    rcases mem_change member with ⟨-, -, -, rfl⟩ | ⟨stays, -⟩
    · rw [requested]
      exact aimed.asked before inside (id ▸ listed) unreturned
    · exact aimed.asked execution stays listed waiting
  noticed execution member seen := by
    rcases mem_change member with ⟨-, -, -, rfl⟩ | ⟨stays, -⟩
    · rw [requested]
      rcases seen with notified | leaving | ended
      · exact noticed (Or.inl notified)
      · exact noticed (Or.inr leaving)
      · rw [result] at ended
        cases ended
    · exact aimed.noticed execution stays seen
  kept execution member asked waiting := by
    rcases mem_change member with ⟨-, -, -, rfl⟩ | ⟨stays, -⟩
    · rw [id]
      exact aimed.kept before inside (requested ▸ asked) unreturned
    · exact aimed.kept execution stays asked waiting
  fired other firing execution member same := by
    rcases mem_change member with ⟨-, -, -, rfl⟩ | ⟨stays, -⟩
    · rw [requested]
      exact aimed.fired other firing before inside (id.symm.trans same)
    · exact aimed.fired other firing execution stays same
  withdrawn other member execution listed same := by
    rcases mem_change listed with ⟨-, -, -, rfl⟩ | ⟨stays, -⟩
    · rw [requested]
      exact aimed.withdrawn other member before inside (id.symm.trans same)
    · exact aimed.withdrawn other member execution stays same

end Aimed

namespace Aimed

theorem change_unique (aimed : Aimed state) {execution : Execution} (inside : execution ∈ state.executions)
    (update : Execution -> Execution) :
    change state.executions execution.id update =
      change state.executions execution.id fun _ => update execution := by
  apply List.map_congr_left
  intro other member
  by_cases same : other.id = execution.id
  · rw [if_pos same, if_pos same, aimed.unique member inside same]
  · rw [if_neg same, if_neg same]

theorem fire (aimed : Aimed state) {id : String} (firing : state.firing = some id) :
    Aimed (state.fire id) := by
  unfold Cancellation.fire
  by_cases waits : id ∈ state.senders
  · rcases aimed.senders id waits with ⟨execution, inside, rfl, unreturned, registered⟩
    rw [if_pos waits, aimed.change_unique inside]
    have notified : Aimed { state with
        executions := change state.executions execution.id fun _ => { execution with notified := true }
        senders := without state.senders execution.id } := by
      refine aimed.replace inside unreturned ?_ ?_ ?_ ?_ ?_
      · rfl
      · rfl
      · exact unreturned
      · exact fun _ => aimed.fired execution.id firing execution inside rfl
      · exact fun other member => Or.inr (mem_without.mp member)
    exact { notified with fired := fun _ gone => nomatch gone }
  · rw [if_neg waits]
    exact { aimed with
      senders := fun other member => aimed.senders other (mem_without.mp member).1
      fired := fun _ gone => nomatch gone }

theorem returned (aimed : Aimed state) {execution : Execution} {move : Move} {removes : Bool}
    {result : Except String TransferResponse} (inside : execution ∈ state.executions)
    (unreturned : execution.result = none)
    (returns : Returns execution (decide (execution.id ∈ state.cancelled)) move removes result)
    (answered : execution.id ∉ state.cancelled ∨ execution.id ∈ state.withdrawing ∨ removes = true) :
    Aimed (state.returned execution removes result) := by
  have left : forall other, other ∈ (state.returned execution removes result).cancelled ->
      other ∈ state.cancelled ∧ (other = execution.id -> execution.id ∈ state.withdrawing) := by
    intro other member
    unfold Cancellation.returned at member
    simp only at member
    split at member
    · rcases mem_without.mp member with ⟨listed, apart⟩
      exact ⟨listed, fun same => absurd same apart⟩
    next keeps =>
      refine ⟨member, ?_⟩
      rintro rfl
      rcases answered with absent | waits | removed
      · exact absurd member absent
      · exact waits
      · exact absurd removed keeps
  have stays : forall other, other ≠ execution.id -> other ∈ state.cancelled ->
      other ∈ (state.returned execution removes result).cancelled := by
    intro other apart listed
    unfold Cancellation.returned
    simp only
    split
    · exact mem_without.mpr ⟨listed, apart⟩
    · exact listed
  have rest : forall other, other ∈ (state.returned execution removes result).senders ->
      other ∈ state.senders ∧ other ≠ execution.id := by
    intro other member
    unfold Cancellation.returned at member
    simp only at member
    split at member
    · exact mem_without.mp member
    next unregistered =>
      refine ⟨member, ?_⟩
      rintro rfl
      rcases aimed.senders _ member with ⟨same, listed, its, -, registered⟩
      rw [aimed.unique listed inside its] at registered
      exact unregistered registered
  constructor
  · exact aimed.operating
  · unfold Cancellation.returned
    simp only
    rw [change_ids]
    · exact aimed.matched
    · exact fun _ same => same
  · intro other member
    rcases left other member with ⟨listed, waits⟩
    by_cases its : other = execution.id
    · exact Or.inr (its ▸ waits its)
    · refine (aimed.entries other listed).imp_left ?_
      rw [running_iff, running_iff]
      rintro ⟨running, there, same, waiting⟩
      exact ⟨running, mem_change_of_ne _ there (same ▸ its), same, waiting⟩
  · intro other member
    rcases rest other member with ⟨listed, apart⟩
    rcases aimed.senders other listed with ⟨running, there, rfl, standing⟩
    exact ⟨running, mem_change_of_ne _ there apart, rfl, standing⟩
  · intro running member listed waiting
    rcases mem_change member with ⟨before, -, -, rfl⟩ | ⟨there, -⟩
    · cases waiting
    · exact aimed.asked running there (left _ listed).1 waiting
  · intro running member seen
    rcases mem_change member with ⟨before, there, same, rfl⟩ | ⟨there, -⟩
    · cases aimed.unique there inside same
      rcases seen with notified | leaving | ended
      · exact aimed.noticed execution inside (Or.inl notified)
      · exact aimed.noticed execution inside (Or.inr (Or.inl leaving))
      · rcases returns.seen (Option.some.inj ended) with asked | notified | leaving
        · exact aimed.asked execution inside (of_decide_eq_true asked) unreturned
        · exact aimed.noticed execution inside (Or.inl notified)
        · exact aimed.noticed execution inside (Or.inr (Or.inl leaving))
    · exact aimed.noticed running there seen
  · intro running member asked waiting
    rcases mem_change member with ⟨before, -, -, rfl⟩ | ⟨there, apart⟩
    · cases waiting
    · exact stays _ apart (aimed.kept running there asked waiting)
  · intro other firing running member same
    rcases mem_change member with ⟨before, there, -, rfl⟩ | ⟨there, -⟩
    · exact aimed.fired other firing before there same
    · exact aimed.fired other firing running there same
  · intro other member running listed same
    rcases mem_change listed with ⟨before, there, -, rfl⟩ | ⟨there, -⟩
    · exact aimed.withdrawn other member before there same
    · exact aimed.withdrawn other member running there same

theorem settle (aimed : Aimed state) {id : String} (idle : state.running id = false) :
    Aimed { state with
      cancelled := without state.cancelled id
      withdrawing := state.withdrawing.erase id } :=
  { aimed with
    entries := by
      intro other member
      rcases mem_without.mp member with ⟨listed, apart⟩
      exact (aimed.entries other listed).imp_right (List.mem_erase_of_ne apart).mpr
    asked := fun execution member listed => aimed.asked execution member (mem_without.mp listed).1
    kept := by
      intro execution member requested unreturned
      refine mem_without.mpr ⟨aimed.kept execution member requested unreturned, ?_⟩
      rintro rfl
      have runs : state.running execution.id = true := running_iff.mpr ⟨execution, member, rfl, unreturned⟩
      cases runs.symm.trans idle
    withdrawn := fun other member => aimed.withdrawn other (List.mem_of_mem_erase member) }

end Aimed

/-! ## Steps of the queue -/

variable {protectedIds : List String}

theorem Aimed.start (aimed : Aimed state) {pass : TransferEngine.SchedulePass}
    (fresh : forall job, job ∈ (state.queue.engine.scheduleOnce pass).2 -> job.id ∉ state.withdrawing)
    (unfired : state.firing = none) :
    Aimed (state.follow (.schedule pass) protectedIds (state.queue.schedule pass)) := by
  have admitted := scheduleOnce_admitted state.queue.engine pass
  -- Nothing runs under the id of an operation that starts.
  have idle : forall job, job ∈ (state.queue.engine.scheduleOnce pass).2 ->
      forall execution, execution ∈ state.executions -> execution.id ≠ job.id := by
    intro job member execution inside same
    have listed : job.id ∈ state.queue.operations.map (·.id) := by
      rw [← aimed.matched, ← same]
      exact List.mem_map_of_mem inside
    have active := (aimed.operating.active_isSome job.id).mpr listed
    rw [admitted.idle job member] at active
    cases active
  have source : forall execution,
      execution ∈ (state.follow (.schedule pass) protectedIds (state.queue.schedule pass)).executions ->
      (Exists fun job => job ∈ (state.queue.engine.scheduleOnce pass).2 ∧
        execution = Execution.begin (decide (job.id ∈ protectedIds)) job) ∨ execution ∈ state.executions := by
    intro execution member
    rcases List.mem_append.mp member with new | earlier
    · rcases List.mem_map.mp new with ⟨job, inside, rfl⟩
      exact Or.inl ⟨job, inside, rfl⟩
    · exact Or.inr earlier
  constructor
  · exact schedule_operating aimed.operating pass
  · change ((state.queue.engine.scheduleOnce pass).2.map (fun job =>
        Execution.begin (decide (job.id ∈ protectedIds)) job) ++ state.executions).map (fun execution =>
          execution.id) =
      ((state.queue.engine.scheduleOnce pass).2 ++ state.queue.operations).map (fun job => job.id)
    rw [List.map_append, List.map_append, aimed.matched, List.map_map]
    rfl
  · intro id member
    refine (aimed.entries id member).imp_left ?_
    rw [running_iff, running_iff]
    rintro ⟨execution, inside, standing⟩
    exact ⟨execution, List.mem_append_right _ inside, standing⟩
  · intro id member
    rcases aimed.senders id member with ⟨execution, inside, standing⟩
    exact ⟨execution, List.mem_append_right _ inside, standing⟩
  · intro execution member listed unreturned
    rcases source execution member with ⟨job, inside, rfl⟩ | earlier
    · rcases aimed.entries job.id listed with runs | waits
      · rcases running_iff.mp runs with ⟨execution, there, same, -⟩
        exact absurd same (idle job inside execution there)
      · exact absurd waits (fresh job inside)
    · exact aimed.asked execution earlier listed unreturned
  · intro execution member seen
    rcases source execution member with ⟨job, inside, rfl⟩ | earlier
    · rcases seen with notified | leaving | ended
      · cases notified
      · cases leaving
      · cases ended
    · exact aimed.noticed execution earlier seen
  · intro execution member requested unreturned
    rcases source execution member with ⟨job, inside, rfl⟩ | earlier
    · cases requested
    · exact aimed.kept execution earlier requested unreturned
  · intro id firing
    cases unfired.symm.trans firing
  · intro id member execution inside same
    rcases source execution inside with ⟨job, started, rfl⟩ | earlier
    · cases same
      exact absurd member (fresh job started)
    · exact aimed.withdrawn id member execution earlier same

variable {failure : Option String}

theorem Aimed.finish (aimed : Aimed state) {result : Except String TransferResponse} {now : Int}
    {next : TransferQueue}
    (operating : next.Operating)
    (operations : next.operations = state.queue.operations.eraseP fun job => decide (job.id = id))
    (returned : forall execution, execution ∈ state.executions -> execution.id = id ->
      execution.result.isSome = true) (unfired : state.firing = none) :
    Aimed (state.follow (.finish id result now failure) protectedIds next) := by
  have kept : forall execution, execution ∈ state.executions -> execution.result = none ->
      execution ∈ (state.follow (.finish id result now failure) protectedIds next).executions := by
    intro execution member unreturned
    apply (List.mem_eraseP_of_neg ?_).mpr member
    intro same
    have ended := returned execution member (of_decide_eq_true same)
    rw [unreturned] at ended
    cases ended
  have earlier : forall execution,
      execution ∈ (state.follow (.finish id result now failure) protectedIds next).executions ->
      execution ∈ state.executions :=
    fun _ member => List.mem_of_mem_eraseP member
  constructor
  · exact operating
  · change (state.executions.eraseP _).map (·.id) = next.operations.map (·.id)
    have erased : forall {α : Type} (key : α -> String) (items : List α),
        (items.eraseP fun item => decide (key item = id)).map key =
          (items.map key).eraseP fun other => decide (other = id) := by
      intro α key items
      rw [List.eraseP_map]
      rfl
    rw [operations]
    exact (erased Execution.id _).trans ((congrArg _ aimed.matched).trans (erased TransferJob.id _).symm)
  · intro other member
    refine (aimed.entries other member).imp_left ?_
    rw [running_iff, running_iff]
    rintro ⟨execution, inside, same, unreturned⟩
    exact ⟨execution, kept execution inside unreturned, same, unreturned⟩
  · intro other member
    rcases aimed.senders other member with ⟨execution, inside, same, unreturned, registered⟩
    exact ⟨execution, kept execution inside unreturned, same, unreturned, registered⟩
  · exact fun execution member => aimed.asked execution (earlier execution member)
  · exact fun execution member => aimed.noticed execution (earlier execution member)
  · exact fun execution member => aimed.kept execution (earlier execution member)
  · intro other firing
    cases unfired.symm.trans firing
  · exact fun other member execution inside => aimed.withdrawn other member execution (earlier execution inside)

theorem adopt_operations (queue : TransferQueue) (result : Except String TransferEngine) :
    (queue.adopt result).operations = queue.operations := by
  cases result with
  | error error => rfl
  | ok engine => rfl

theorem removeIf_operations (queue : TransferQueue) (seconds : Int) (result : Except String TransferEngine) :
    (queue.removeIf seconds result).operations = queue.operations := by
  cases result with
  | error error => rfl
  | ok engine => rfl

theorem transition_operations (queue : TransferQueue) (id : String) (action : TransferAction)
    (session : SessionReading) (expected : Option String) (now : Int) (failure : Option String) :
    (queue.transition id action session expected now failure).operations = queue.operations := by
  unfold TransferQueue.transition
  split
  · rfl
  · rfl

/-- What the queue records is an execution that has returned. -/
theorem admits_finish (aimed : Aimed state) {result : Except String TransferResponse}
    {now : Int} (admitted : state.admits (.finish id result now failure) = true) :
    state.firing = none ∧ forall execution, execution ∈ state.executions -> execution.id = id ->
      execution.result.isSome = true := by
  rcases Bool.and_eq_true_iff.mp admitted with ⟨unfired, ended⟩
  refine ⟨Option.isNone_iff_eq_none.mp unfired, ?_⟩
  intro execution member same
  cases found : state.execution? id with
  | none =>
    rw [found] at ended
    cases ended
  | some other =>
    rw [found] at ended
    rcases execution?_some found with ⟨inside, its⟩
    rw [aimed.unique member inside (same.trans its.symm)]
    cases recorded : other.result with
    | none =>
      simp [recorded] at ended
    | some result => rfl

theorem follow_aimed (aimed : Aimed state) {event : QueueEvent}
    {next : TransferQueue} (admitted : state.admits event = true)
    (stays : state.staysAimed (.queue event protectedIds) = true)
    (moved : state.queue.act system event = some next) : Aimed (state.follow event protectedIds next) := by
  have operating := act_operating aimed.operating moved
  rcases Bool.and_eq_true_iff.mp stays with ⟨targets, fresh⟩
  cases event with
  | start now seconds stops => cases moved
  | stop =>
    cases moved
    exact Aimed.resting_aimed operating rfl
  | schedule pass =>
    cases moved
    apply aimed.start
    · intro job member
      exact of_decide_eq_true (List.all_eq_true.mp fresh job member)
    · exact Option.isNone_iff_eq_none.mp admitted
  | finish id result now failure =>
    simp only [TransferQueue.act] at moved
    split at moved
    · cases moved
      rcases admits_finish aimed admitted with ⟨unfired, returned⟩
      exact aimed.finish operating rfl returned unfired
    · cases moved
  | progress update checkpointDue failure | setLimits maxUploads maxDownloads =>
    cases moved
    exact aimed.quiet operating rfl
  | enqueue requests session disk now failure | adopt owner ids confirmed session now failure =>
    cases moved
    exact aimed.quiet operating (adopt_operations _ _)
  | transition id action session expected now failure =>
    cases moved
    have quiet := aimed.quiet operating
      (transition_operations state.queue id action session expected now failure)
    simp only [Cancellation.follow] at targets ⊢
    cases asked : asks state.queue (.transition id action session expected now failure) with
    | none => exact quiet
    | some other =>
      rw [asked] at targets
      have target : state.running other = true ∨ other ∈ state.withdrawing := by
        simpa using targets
      exact quiet.request (fun _ member => member) (fun _ member => Or.inr member) target
  | withdraw id seconds failure =>
    cases moved
    have quiet := aimed.quiet operating rfl
    simp only [Cancellation.follow]
    split
    · apply quiet.request
      · exact fun _ member => List.mem_cons_of_mem _ member
      · exact fun _ member => List.mem_cons.mp member
      · exact Or.inr List.mem_cons_self
    · exact quiet
  | clearTerminal direction includeFailedAndCancelled session expected seconds failure
  | discard owner ids session seconds failure =>
    cases moved
    exact aimed.quiet operating (removeIf_operations _ _ _)

variable {next : Cancellation}

theorem advance_aimed (aimed : Aimed state) {move : Move}
    (stays : state.staysAimed (.advance id move) = true) (moved : state.advance id move = some next) :
    Aimed next := by
  rcases Option.bind_eq_some_iff.mp moved with ⟨execution, found, rest⟩
  rcases Option.map_eq_some_iff.mp rest with ⟨outcome, advanced, final⟩
  rcases execution?_some found with ⟨inside, rfl⟩
  rcases advance_follows advanced with ⟨unreturned, follows⟩
  have noticed : forall seen, seen = decide (execution.id ∈ state.cancelled) -> seen = true ->
      execution.requested = true := by
    rintro seen rfl asked
    exact aimed.asked execution inside (of_decide_eq_true asked) unreturned
  cases outcome with
  | goes later =>
    cases final
    refine aimed.replace inside unreturned follows.id follows.requested follows.result ?_ ?_
    · rintro (notified | leaving)
      · exact aimed.noticed execution inside (Or.inl (follows.notified ▸ notified))
      · exact noticed _ rfl (follows.leaving leaving)
    · intro other member
      by_cases its : other = execution.id
      · rcases aimed.senders other member with ⟨sender, there, same, -, registered⟩
        rw [aimed.unique there inside (same.trans its)] at registered
        exact Or.inl ⟨its, follows.registered.trans registered⟩
      · exact Or.inr ⟨member, its⟩
  | registers later =>
    cases final
    refine aimed.replace inside unreturned follows.id follows.requested follows.result ?_ ?_
    · rintro (notified | leaving)
      · rw [follows.notified] at notified
        cases notified
      · rw [follows.leaving] at leaving
        cases leaving
    · intro other member
      by_cases its : other = execution.id
      · exact Or.inl ⟨its, follows.registered⟩
      · exact Or.inr ⟨List.mem_of_ne_of_mem its member, its⟩
  | returns removes result =>
    cases final
    apply aimed.returned inside unreturned follows
    simp only [staysAimed, found, Option.all_some, Bool.or_eq_true, decide_eq_true_eq,
      Bool.not_eq_true'] at stays
    rcases stays with (absent | waits) | answered
    · exact Or.inl absent
    · exact Or.inr (Or.inl waits)
    · refine Or.inr (Or.inr ?_)
      cases removes with
      | true => rfl
      | false => cases (follows.removed rfl).symm.trans answered

theorem cancellationMachine_aimed (aimed : Aimed state) {event : CancellationEvent}
    (stays : state.staysAimed event = true)
    (moved : (cancellationMachine system).step state event = some next) : Aimed next := by
  cases event with
  | queue event protectedIds =>
    simp only [cancellationMachine] at moved
    split at moved
    next admitted =>
      rcases Option.map_eq_some_iff.mp moved with ⟨later, stepped, rfl⟩
      simp only [TransferQueue.transferMachine] at stepped
      split at stepped
      · exact follow_aimed aimed admitted stays stepped
      · split at stepped
        next now seconds stops =>
          cases stepped
          apply Aimed.resting_aimed (restart_operating state.queue now seconds stops)
          unfold TransferQueue.start
          simp only
          split
          · rfl
          · rfl
        · cases stepped
    · cases moved
  | advance id move => exact advance_aimed aimed stays moved
  | fire =>
    rcases Option.map_eq_some_iff.mp moved with ⟨id, firing, rfl⟩
    exact aimed.fire firing
  | settle id =>
    simp only [cancellationMachine] at moved
    split at moved
    · cases moved
      exact aimed.settle (Bool.not_eq_true' _ ▸ stays)
    · cases moved

/-! ## What a request stops -/

/-- What holds between any two steps: a request or a sender stands only for an
execution that runs, or for a withdrawal that is not over; whoever stopped as
cancelled was asked; and a request stands until its execution has returned. -/
structure StopsItsExecution (state : Cancellation) : Prop where
  entries : forall id, id ∈ state.cancelled -> state.running id = true ∨ id ∈ state.withdrawing
  senders : forall id, id ∈ state.senders -> state.running id = true
  aimed : forall execution, execution ∈ state.executions ->
    execution.result = some (.error cancelledError) -> execution.requested = true
  kept : forall execution, execution ∈ state.executions -> execution.requested = true ->
    execution.result = none -> execution.id ∈ state.cancelled

theorem Aimed.stops (aimed : Aimed state) : StopsItsExecution state where
  entries := aimed.entries
  senders id member := by
    rcases aimed.senders id member with ⟨execution, inside, same, unreturned, -⟩
    exact running_iff.mpr ⟨execution, inside, same, unreturned⟩
  aimed execution member ended := aimed.noticed execution member (Or.inr (Or.inr ended))
  kept := aimed.kept

/-- An execution in which a step has noted a request that was not there before. -/
def NewlyAsked (before after : Cancellation) (execution : Execution) : Prop :=
  execution ∈ after.executions ∧ execution.requested = true ∧
    forall earlier, earlier ∈ before.executions -> earlier.id = execution.id -> earlier.requested = false

theorem not_newlyAsked
    (carried : forall later, later ∈ next.executions -> later.requested = true -> Exists fun earlier =>
      earlier ∈ state.executions ∧ earlier.id = later.id ∧ earlier.requested = true) :
    ¬ NewlyAsked state next execution := by
  rintro ⟨member, requested, unasked⟩
  rcases carried execution member requested with ⟨earlier, inside, same, asked⟩
  cases asked.symm.trans (unasked earlier inside same)

theorem change_carries {update : Execution -> Execution}
    (same : forall execution, execution ∈ executions -> execution.id = id ->
      (update execution).id = id ∧ (update execution).requested = execution.requested)
    {later : Execution} (member : later ∈ change executions id update) (requested : later.requested = true) :
    Exists fun earlier => earlier ∈ executions ∧ earlier.id = later.id ∧ earlier.requested = true := by
  rcases mem_change member with ⟨before, inside, its, rfl⟩ | ⟨stays, -⟩
  · rcases same before inside its with ⟨id, asked⟩
    exact ⟨before, inside, its.trans id.symm, asked.symm.trans requested⟩
  · exact ⟨later, stays, rfl, requested⟩

theorem same_not_newlyAsked (same : next.executions = state.executions) : ¬ NewlyAsked state next execution :=
  not_newlyAsked fun later member requested => ⟨later, same ▸ member, rfl, requested⟩

theorem request_newlyAsked {queue : TransferQueue} {later : List String}
    (newly : NewlyAsked state ({ state with queue := queue, withdrawing := later }.request id) execution) :
    execution.id = id := by
  rcases newly with ⟨member, requested, unasked⟩
  rcases mem_change member with ⟨before, -, same, rfl⟩ | ⟨stays, -⟩
  · exact same
  · cases requested.symm.trans (unasked execution stays rfl)

theorem asks_withdraw {queue : TransferQueue} {seconds : Int}
    (asked : (asks queue (.withdraw id seconds failure)).isSome = true) :
    asks queue (.withdraw id seconds failure) = some id := by
  unfold asks at asked ⊢
  simp only at asked ⊢
  split at asked
  next active => rw [if_pos active]
  · cases asked

theorem follow_newlyAsked {request : QueueEvent} {next : TransferQueue}
    (newly : NewlyAsked state (state.follow request protectedIds next) execution) :
    asks state.queue request = some execution.id := by
  cases request with
  | start now seconds stops | stop => exact absurd newly.1 List.not_mem_nil
  | schedule pass =>
    refine absurd newly (not_newlyAsked ?_)
    intro later member requested
    rcases List.mem_append.mp member with new | earlier
    · rcases List.mem_map.mp new with ⟨job, -, rfl⟩
      cases requested
    · exact ⟨later, earlier, rfl, requested⟩
  | finish id result now failure =>
    refine absurd newly (not_newlyAsked ?_)
    exact fun later member requested => ⟨later, List.mem_of_mem_eraseP member, rfl, requested⟩
  | transition id action session expected now failure =>
    simp only [Cancellation.follow] at newly
    cases asked : asks state.queue (.transition id action session expected now failure) with
    | none =>
      rw [asked] at newly
      exact absurd newly (same_not_newlyAsked rfl)
    | some other =>
      rw [asked] at newly
      rw [request_newlyAsked newly]
  | withdraw id seconds failure =>
    simp only [Cancellation.follow] at newly
    split at newly
    next asked => rw [asks_withdraw asked, request_newlyAsked newly]
    · exact absurd newly (same_not_newlyAsked rfl)
  | progress update checkpointDue failure | enqueue requests session disk now failure
  | clearTerminal direction includeFailedAndCancelled session expected seconds failure
  | adopt owner ids confirmed session now failure | discard owner ids session seconds failure
  | setLimits maxUploads maxDownloads =>
    exact absurd newly (same_not_newlyAsked rfl)

theorem advance_not_newlyAsked (aimed : Aimed state) {move : Move}
    (moved : state.advance id move = some next) : ¬ NewlyAsked state next execution := by
  rcases Option.bind_eq_some_iff.mp moved with ⟨current, found, rest⟩
  rcases Option.map_eq_some_iff.mp rest with ⟨outcome, advanced, final⟩
  rcases execution?_some found with ⟨inside, rfl⟩
  have follows := (advance_follows advanced).2
  have only : forall other, other ∈ state.executions -> other.id = current.id -> other = current :=
    fun other member same => aimed.unique member inside same
  apply not_newlyAsked
  intro later member requested
  cases outcome with
  | goes after | registers after =>
    cases final
    apply change_carries ?_ member requested
    intro other there same
    exact ⟨follows.id, follows.requested.trans (congrArg Execution.requested (only other there same).symm)⟩
  | returns removes result =>
    cases final
    unfold Cancellation.returned at member
    apply change_carries ?_ member requested
    exact fun other _ same => ⟨same, rfl⟩

/-- Only a request of the queue asks an execution, and only one that it names. -/
theorem newlyAsked_asks (aimed : Aimed state) {event : CancellationEvent}
    (moved : (cancellationMachine system).step state event = some next)
    (newly : NewlyAsked state next execution) :
    Exists fun request => Exists fun protectedIds => event = .queue request protectedIds ∧
      asks state.queue request = some execution.id := by
  cases event with
  | queue request protectedIds =>
    simp only [cancellationMachine] at moved
    split at moved
    · rcases Option.map_eq_some_iff.mp moved with ⟨later, -, rfl⟩
      exact ⟨request, protectedIds, rfl, follow_newlyAsked newly⟩
    · cases moved
  | advance id move => exact absurd newly (advance_not_newlyAsked aimed moved)
  | fire =>
    rcases Option.map_eq_some_iff.mp moved with ⟨id, -, rfl⟩
    refine absurd newly (not_newlyAsked ?_)
    intro later member requested
    unfold Cancellation.fire at member
    simp only at member
    split at member
    · apply change_carries ?_ member requested
      exact fun other _ same => ⟨same, rfl⟩
    · exact ⟨later, member, rfl, requested⟩
  | settle id =>
    simp only [cancellationMachine] at moved
    split at moved
    · cases moved
      exact absurd newly (same_not_newlyAsked rfl)
    · cases moved

/-- The runs in which every request stays aimed. -/
abbrev AimedRun (system : FileSystem) (store : TransferStore) (events : List CancellationEvent)
    (state : Cancellation) : Prop :=
  (cancellationMachine system).Run (fun state event => state.staysAimed event = true)
    (resting (.offline store)) events state

/-- In every run whose requests are removed by the exits that find them, made to
operations that have not returned, and not removed early by a withdrawal, a request
stops only the execution it was aimed at, and is not lost before that returns. -/
theorem requests_stop_their_execution {store : TransferStore} {events : List CancellationEvent}
    (run : AimedRun system store events state) :
    StopsItsExecution state ∧
      forall event next, (cancellationMachine system).step state event = some next ->
        forall execution, NewlyAsked state next execution ->
          Exists fun request => Exists fun protectedIds => event = .queue request protectedIds ∧
            asks state.queue request = some execution.id := by
  have aimed : Aimed state := by
    refine Machine.Run.invariant Aimed ?_ run ?_
    · exact fun _ _ _ stays aimed moved => cancellationMachine_aimed aimed stays moved
    · exact Aimed.resting_aimed ⟨.nil, fun _ => Nat.le_refl _⟩ rfl
  exact ⟨aimed.stops, fun event next moved execution newly => newlyAsked_asks aimed moved newly⟩

/-! ## An exit that leaves the request -/

/-- A protected upload reaches the check of its loop, is paused there, and resumed. -/
def pausedPreparation : List CancellationEvent :=
  [.queue (.start 0 0 none) [], .queue (.enqueue [sampleUpload "u"] ⟨some "1", true⟩ [] 0 none) [],
    .queue (.schedule (samplePass [])) ["u"], .advance "u" .pass, .advance "u" .pass, .advance "u" .pass,
    .advance "u" .pass, .advance "u" .pass,
    .queue (.transition "u" .pause ⟨some "1", true⟩ none 0 none) [], .fire,
    .advance "u" .pass, .advance "u" .leave,
    .queue (.finish "u" (.error cancelledError) 0 none) [],
    .queue (.transition "u" .resume ⟨some "1", true⟩ none 0 none) [],
    .queue (.schedule (samplePass [])) ["u"], .advance "u" .pass, .advance "u" .pass, .advance "u" .leave]

/-- The resumed upload ends as cancelled although nothing was asked of it. -/
theorem paused_preparation_cancels_resumed :
    Exists fun state => Exists fun execution =>
      (cancellationMachine sampleSystem).replay (resting (.offline .empty)) pausedPreparation = some state ∧
      execution ∈ state.executions ∧ execution.result = some (.error cancelledError) ∧
      execution.requested = false := by
  have shape : Exists fun state => (cancellationMachine sampleSystem).replay (resting (.offline .empty))
      pausedPreparation = some state ∧ Exists fun execution => execution ∈ state.executions ∧
        execution.result = some (.error cancelledError) ∧ execution.requested = false := by
    decide +kernel
  rcases shape with ⟨state, replayed, execution, facts⟩
  exact ⟨state, execution, replayed, facts⟩

/-- A plain upload that is paused while it prepares removes the request, and runs
again after it is resumed. -/
theorem paused_upload_runs_again :
    Exists fun state =>
      ((cancellationMachine sampleSystem).guarded fun state event => state.staysAimed event).replay
        (resting (.offline .empty))
          [.queue (.start 0 0 none) [], .queue (.enqueue [sampleUpload "u"] ⟨some "1", true⟩ [] 0 none) [],
            .queue (.schedule (samplePass [])) [], .advance "u" .pass, .advance "u" .pass,
            .queue (.transition "u" .pause ⟨some "1", true⟩ none 0 none) [], .fire,
            .advance "u" .pass, .advance "u" .leave,
            .queue (.finish "u" (.error cancelledError) 0 none) [],
            .queue (.transition "u" .resume ⟨some "1", true⟩ none 0 none) [],
            .queue (.schedule (samplePass [])) []] = some state ∧
      StopsItsExecution state := by
  refine (Option.isSome_iff_exists.mp ?_).imp fun state replayed =>
    ⟨replayed, (requests_stop_their_execution (Machine.run_of_guarded_replay replayed)).1⟩
  decide +kernel

end Transfers
end TelegramDrive
