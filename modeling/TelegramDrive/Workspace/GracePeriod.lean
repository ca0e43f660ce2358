import TelegramDrive.Workspace.Removals
import Mathlib.Data.List.Nodup

namespace TelegramDrive
namespace Workspace

/-!
# Removals honour their grace period

The log of a state tells what happened to a key since it was last scheduled or restored.
The records agree with it: a key that was restored has no removal under way, and one whose
removal is recorded as carried out was deleted by a call or found absent.  A run holds the
lock from the listing to its end, so the removals in its hands are the stored ones, and a
call to delete is issued under a record that says so.
-/

/-! ## What the log tells of a key -/

/-- The key was restored, and not scheduled since. -/
def quiet (key : String) : List Entry -> Bool
  | [] => false
  | .restored other :: rest => if other = key then true else quiet key rest
  | .scheduled other :: rest => if other = key then false else quiet key rest
  | _ :: rest => quiet key rest

/-- Since it was last scheduled, the message of the key was deleted by a call that
succeeded, or was not there when it was read. -/
def gone (key : String) : List Entry -> Bool
  | [] => false
  | .scheduled other :: rest => if other = key then false else gone key rest
  | .read other none :: rest => if other = key then true else gone key rest
  | .answered other :: rest => if other = key then true else gone key rest
  | _ :: rest => gone key rest

/-- What the run under way read last of the message of the key. -/
def readInRun (key : String) : List Entry -> Option (Option String)
  | [] => none
  | .began :: _ => none
  | .read other remote :: rest => if other = key then some remote else readInRun key rest
  | _ :: rest => readInRun key rest

/-- A call to delete is issued for a stored removal that is being carried out, after its
deadline, and for the message whose scheduled fingerprint the run has read. -/
structure Issue.Rightful (issue : Issue) (earlier : List Entry) : Prop where
  recorded : Exists fun removal => issue.record = some removal ∧ removal.status = .deleting ∧
    removal.deleteAfter ≤ issue.time ∧ removal.file.folderId = issue.folderId ∧ removal.file.id = issue.id ∧
    readInRun issue.key earlier = some (some removal.fingerprint)
  notRestored : quiet issue.key earlier = false

def Rightful (log : List Entry) : Prop :=
  forall later issue earlier, log = later ++ .issued issue :: earlier -> issue.Rightful earlier

theorem Rightful.cons {log : List Entry} {entry : Entry} (rightful : Rightful log)
    (other : forall issue, entry = .issued issue -> issue.Rightful log) : Rightful (entry :: log) := by
  intro later issue earlier same
  cases later with
  | nil =>
    rw [List.nil_append, List.cons.injEq] at same
    rw [← same.2]
    exact other issue same.1
  | cons first later =>
    rw [List.cons_append, List.cons.injEq] at same
    exact rightful later issue earlier same.2

/-! ## Records and the log -/

/-- What the records say agrees with what happened. -/
structure Ledger (records : RemovalRecords) (log : List Entry) : Prop where
  keyed : forall (key : String) (removal : Removal), records[key]? = some removal -> removal.key = key
  quieted : forall (key : String) (removal : Removal), records[key]? = some removal ->
    quiet key log = true -> removal.stands = false
  settled : forall (key : String) (removal : Removal), records[key]? = some removal ->
    removal.status = .deleted -> gone key log = true
  rightful : Rightful log

variable {records : RemovalRecords} {log : List Entry} {removal : Removal}

theorem getElem?_put (records : RemovalRecords) (key other : String) (removal : Removal) :
    (records.insert key removal)[other]? = if key = other then some removal else records[other]? := by
  rw [Std.TreeMap.getElem?_insert]
  simp only [Std.LawfulEqCmp.compare_eq_iff_eq]

theorem Ledger.insert {next : List Entry} (ledger : Ledger records log) (rightful : Rightful next)
    (others : forall key, key ≠ removal.key -> quiet key next = quiet key log ∧ gone key next = gone key log)
    (quieted : quiet removal.key next = true -> removal.stands = false)
    (settled : removal.status = .deleted -> gone removal.key next = true) :
    Ledger (records.insert removal.key removal) next := by
  constructor
  · intro key found stored
    rw [getElem?_put] at stored
    split at stored
    next same => rw [← same, ← Option.some.inj stored]
    · exact ledger.keyed key found stored
  · intro key found stored
    rw [getElem?_put] at stored
    split at stored
    next same =>
      rw [← same, ← Option.some.inj stored]
      exact quieted
    next different =>
      rw [(others key fun same => different same.symm).1]
      exact ledger.quieted key found stored
  · intro key found stored
    rw [getElem?_put] at stored
    split at stored
    next same =>
      rw [← same, ← Option.some.inj stored]
      exact settled
    next different =>
      rw [(others key fun same => different same.symm).2]
      exact ledger.settled key found stored
  · exact rightful

theorem Ledger.cons {entry : Entry} (ledger : Ledger records log) (rightful : Rightful (entry :: log))
    (same : forall key, quiet key (entry :: log) = quiet key log)
    (more : forall key, gone key log = true -> gone key (entry :: log) = true) :
    Ledger records (entry :: log) := by
  constructor
  · exact ledger.keyed
  · intro key found stored
    rw [same]
    exact ledger.quieted key found stored
  · intro key found stored done
    exact more key (ledger.settled key found stored done)
  · exact rightful

/-! ## What a run has in its hands -/

/-- The stored removal of a key, under way, with the terms of one in hand. -/
def Current (records : RemovalRecords) (removal : Removal) : Prop :=
  Exists fun stored => records[removal.key]? = some stored ∧ stored.stands = true ∧
    stored.deleteAfter = removal.deleteAfter ∧ stored.fingerprint = removal.fingerprint

/-- The removals that a run has yet to take are the stored ones, each once. -/
structure Listed (records : RemovalRecords) (rest : List Removal) : Prop where
  stored : forall removal, removal ∈ rest -> records[removal.key]? = some removal
  distinct : (rest.map Removal.key).Nodup

/-- What holds of the removal at a point. -/
def ProcessPoint.Stands (records : RemovalRecords) (log : List Entry) (clock : Int) : ProcessPoint -> Prop
  | .next => True
  | .asking removal => Current records removal
  | .judging removal remote => Current records removal ∧ readInRun removal.key log = some remote ∧
      (remote = none -> gone removal.key log = true)
  | .claimed removal => records[removal.key]? = some removal ∧ removal.status = .deleting ∧
      removal.deleteAfter ≤ clock ∧ readInRun removal.key log = some (some removal.fingerprint)
  | .deleting removal => Current records removal ∧ removal.status = .deleting
  | .noting removal => Current records removal ∧ removal.status = .deleting
  | .finishing removal => Current records removal ∧ removal.status = .deleted ∧ gone removal.key log = true

/-- The removal in hand. -/
def ProcessPoint.removal? : ProcessPoint -> Option Removal
  | .next => none
  | .asking removal | .judging removal _ | .claimed removal | .deleting removal | .noting removal
  | .finishing removal => some removal

structure Standing (records : RemovalRecords) (log : List Entry) (clock : Int) (point : ProcessPoint)
    (rest : List Removal) : Prop where
  listed : Listed records rest
  apart : forall removal, point.removal? = some removal -> removal.key ∉ rest.map Removal.key
  stands : point.Stands records log clock

structure CleanupState.Sound (state : CleanupState) : Prop where
  ledger : Ledger state.records state.log
  standing : forall point rest, state.activity = .processing point rest ->
    Standing state.records state.log state.clock point rest

/-! ## Writing a record -/

variable {state next : CleanupState} {rest : List Removal} {point : ProcessPoint}

theorem Listed.insert (listed : Listed records rest) (apart : removal.key ∉ rest.map Removal.key) :
    Listed (records.insert removal.key removal) rest := by
  constructor
  · intro other member
    rw [getElem?_put, if_neg]
    · exact listed.stored other member
    · intro same
      exact apart (List.mem_map.mpr ⟨other, member, same.symm⟩)
  · exact listed.distinct

theorem Current.of_stored (stored : records[removal.key]? = some removal) (stands : removal.stands = true) :
    Current records removal :=
  ⟨removal, stored, stands, rfl, rfl⟩

/-- What is under way was not restored. -/
theorem Current.not_quiet (current : Current records removal) (ledger : Ledger records log) :
    quiet removal.key log = false := by
  rcases current with ⟨stored, found, stands, -, -⟩
  apply Bool.eq_false_iff.mpr
  intro restored
  rw [ledger.quieted _ stored found restored] at stands
  cases stands

/-- The terms of the removals that are under way stay. -/
def KeepsTerms (before after : RemovalRecords) : Prop :=
  forall (key : String) (removal : Removal), before[key]? = some removal -> removal.stands = true ->
    Exists fun kept => after[key]? = some kept ∧ kept.deleteAfter = removal.deleteAfter ∧
      kept.fingerprint = removal.fingerprint

theorem KeepsTerms.refl (records : RemovalRecords) : KeepsTerms records records := by
  intro key removal found _
  exact ⟨removal, found, rfl, rfl⟩

theorem KeepsTerms.insert (keeps : forall stored : Removal, records[removal.key]? = some stored ->
      stored.stands = true -> removal.deleteAfter = stored.deleteAfter ∧ removal.fingerprint = stored.fingerprint) :
    KeepsTerms records (records.insert removal.key removal) := by
  intro key stored found stands
  rw [getElem?_put]
  by_cases same : removal.key = key
  · rw [if_pos same]
    rw [← same] at found
    exact ⟨removal, rfl, keeps stored found stands⟩
  · rw [if_neg same]
    exact ⟨stored, found, rfl, rfl⟩

theorem Current.keeps (current : Current records removal) : KeepsTerms records (records.insert removal.key removal) := by
  rcases current with ⟨stored, found, -, deadline, fingerprint⟩
  apply KeepsTerms.insert
  intro other same _
  rw [found, Option.some.injEq] at same
  rw [← same]
  exact ⟨deadline.symm, fingerprint.symm⟩

@[simp] theorem record_records (state : CleanupState) (entry : Entry) : (state.record entry).records = state.records :=
  rfl

@[simp] theorem turn_records (state : CleanupState) (activity : Activity) :
    (state.turn activity).records = state.records := rfl

theorem put_records (state : CleanupState) (key : String) (removal : Removal) (reply : CleanupReply) :
    (state.put key removal reply).records =
      if CleanupState.effective key reply then state.records.insert key removal else state.records := by
  unfold CleanupState.put
  split <;> rfl

theorem put_log (state : CleanupState) (key : String) (removal : Removal) (reply : CleanupReply) :
    (state.put key removal reply).log = state.log ∧ (state.put key removal reply).clock = state.clock := by
  unfold CleanupState.put
  split <;> exact ⟨rfl, rfl⟩

theorem effective_of_succeeded {key : String} {reply : CleanupReply}
    (succeeded : CleanupState.succeeded key reply = true) : CleanupState.effective key reply = true := by
  unfold CleanupState.succeeded CleanupState.effective at *
  rw [Bool.and_eq_true] at *
  exact ⟨succeeded.1, Bool.or_eq_true_iff.mpr (Or.inl succeeded.2)⟩

theorem sound_idle (ledger : Ledger state.records state.log) : (state.turn .idle).Sound := by
  constructor
  · exact ledger
  · intro point rest impossible
    cases impossible

theorem sound_processing (ledger : Ledger state.records state.log)
    (standing : Standing state.records state.log state.clock point rest) :
    (state.turn (.processing point rest)).Sound := by
  constructor
  · exact ledger
  · intro other later same
    cases same
    exact standing

theorem standing_next (listed : Listed records rest) (log : List Entry) (clock : Int) :
    Standing records log clock .next rest := by
  constructor
  · exact listed
  · intro removal impossible
    cases impossible
  · exact trivial

theorem afterWrite_sound (ledger : Ledger state.records state.log) (current : Current state.records removal)
    (listed : Listed state.records rest) (apart : removal.key ∉ rest.map Removal.key) (reply : CleanupReply)
    (settled : removal.status = .deleted -> gone removal.key state.log = true)
    (stands : point = .next ∨ point.removal? = some removal ∧
      forall records : RemovalRecords, records[removal.key]? = some removal ->
        point.Stands records state.log state.clock) :
    (afterWrite state removal reply point rest).Sound := by
  have written : Ledger (state.put removal.key removal reply).records (state.put removal.key removal reply).log := by
    rw [put_records, (put_log state removal.key removal reply).1]
    split
    · refine ledger.insert ledger.rightful (fun key _ => ⟨rfl, rfl⟩) ?_ settled
      intro restored
      rw [current.not_quiet ledger] at restored
      cases restored
    · exact ledger
  unfold afterWrite
  split
  next succeeded =>
    have stored : (state.put removal.key removal reply).records = state.records.insert removal.key removal := by
      rw [put_records, if_pos (effective_of_succeeded succeeded)]
    have kept : Listed (state.put removal.key removal reply).records rest := by
      rw [stored]
      exact listed.insert apart
    apply sound_processing written
    rcases stands with next | ⟨held, stands⟩
    · rw [next]
      exact standing_next kept _ _
    · constructor
      · exact kept
      · intro other same
        rw [held, Option.some.injEq] at same
        rw [← same]
        exact apart
      · rw [(put_log state removal.key removal reply).1, (put_log state removal.key removal reply).2]
        apply stands
        rw [stored, getElem?_put, if_pos rfl]
  · exact sound_idle written

theorem afterWrite_keeps (current : Current state.records removal) (reply : CleanupReply) (point : ProcessPoint)
    (rest : List Removal) : KeepsTerms state.records (afterWrite state removal reply point rest).records := by
  show KeepsTerms state.records (state.put removal.key removal reply).records
  rw [put_records]
  split
  · exact current.keeps
  · exact .refl _

/-! ## The steps of a run -/

variable {sha256 : String -> String}

theorem isDue_iff {now : Int} : removal.isDue now = true ↔ removal.stands = true ∧ removal.deleteAfter ≤ now := by
  unfold Removal.isDue
  rw [Bool.and_eq_true, decide_eq_true_eq]

theorem Listed.tail {first : Removal} (listed : Listed records (first :: rest)) :
    Listed records rest ∧ records[first.key]? = some first ∧ first.key ∉ rest.map Removal.key := by
  have distinct := listed.distinct
  rw [List.map_cons, List.nodup_cons] at distinct
  exact ⟨⟨fun removal member => listed.stored removal (List.mem_cons_of_mem _ member), distinct.2⟩,
    listed.stored first List.mem_cons_self, distinct.1⟩

/-- What a run does with what it read, and what it read decides the verdict. -/
inductive Judged (removal : Removal) (now : Int) (remote : Option String) : Verdict -> Prop
  | notDue : Judged removal now remote .notDue
  | changed (due : removal.isDue now = true) (fingerprint : String) :
      Judged removal now remote (.changed { removal with status := .failed, error := some "FILE_CHANGED" })
  | claim (due : removal.isDue now = true) (same : remote = some removal.fingerprint) :
      Judged removal now remote (.claim { removal with status := .deleting, error := none })
  | absent (due : removal.isDue now = true) (missing : remote = none) :
      Judged removal now remote (.absent { removal with status := .deleted, error := none })

theorem judged (removal : Removal) (now : Int) (remote : Option String) :
    Judged removal now remote (judge removal now remote) := by
  unfold judge
  cases due : removal.isDue now with
  | false => exact .notDue
  | true =>
    rw [if_neg (by decide)]
    cases remote with
    | none => exact .absent due rfl
    | some fingerprint =>
      dsimp only
      split
      · exact .changed due fingerprint
      next same => exact .claim due (congrArg some (not_not.mp same))

theorem workProcess_sound (ledger : Ledger state.records state.log)
    (standing : Standing state.records state.log state.clock point rest) (reply : CleanupReply) :
    (workProcess sha256 state rest reply point).Sound ∧
      KeepsTerms state.records (workProcess sha256 state rest reply point).records := by
  rcases standing with ⟨listed, apart, stands⟩
  have idle : (state.turn .idle).Sound ∧ KeepsTerms state.records (state.turn .idle).records :=
    ⟨sound_idle ledger, .refl _⟩
  have goesOn : (state.turn (.processing .next rest)).Sound ∧
      KeepsTerms state.records (state.turn (.processing .next rest)).records :=
    ⟨sound_processing ledger (standing_next listed _ _), .refl _⟩
  cases point with
  | next =>
    cases rest with
    | nil => exact idle
    | cons removal rest =>
      rcases listed.tail with ⟨later, stored, other⟩
      unfold workProcess
      dsimp only
      split
      · exact ⟨sound_processing ledger (standing_next later _ _), .refl _⟩
      next due =>
        split
        · exact idle
        · rw [Bool.not_eq_true', Bool.not_eq_false] at due
          refine ⟨sound_processing ledger ⟨later, ?_, ?_⟩, .refl _⟩
          · intro held same
            cases same
            exact other
          · exact Current.of_stored stored (isDue_iff.mp due).1
  | asking removal =>
    unfold workProcess
    dsimp only
    cases reply with
    | accountChanged => exact idle
    | failed | failedLate => exact goesOn
    | done =>
      dsimp only
      split
      · exact idle
      next remote _ =>
        have noted : Ledger state.records (.read removal.key remote :: state.log) := by
          refine ledger.cons (ledger.rightful.cons fun issue impossible => by cases impossible)
            (fun key => rfl) ?_
          intro key before
          cases remote with
          | some fingerprint => exact before
          | none =>
            rw [gone]
            split
            · rfl
            · exact before
        refine ⟨sound_processing noted ⟨listed, apart, ?_⟩, .refl _⟩
        refine ⟨stands, if_pos rfl, ?_⟩
        intro missing
        rw [missing]
        exact if_pos rfl
  | judging removal remote =>
    rcases stands with ⟨current, read, missing⟩
    have other := apart removal rfl
    unfold workProcess
    dsimp only
    have verdict := judged removal state.clock remote
    generalize judge removal state.clock remote = decision at verdict ⊢
    cases verdict with
    | notDue => exact goesOn
    | changed due fingerprint =>
      have failed : Current state.records { removal with status := .failed, error := some "FILE_CHANGED" } := current
      exact ⟨afterWrite_sound ledger failed listed other reply (fun done => by cases done) (Or.inl rfl),
        afterWrite_keeps failed reply _ _⟩
    | claim due same =>
      have claimed : Current state.records { removal with status := .deleting, error := none } := current
      refine ⟨afterWrite_sound ledger claimed listed other reply (fun done => by cases done) (Or.inr ⟨rfl, ?_⟩),
        afterWrite_keeps claimed reply _ _⟩
      intro records stored
      refine ⟨stored, rfl, (isDue_iff.mp due).2, ?_⟩
      rw [read, same]
    | absent due none =>
      dsimp only
      split
      · exact idle
      · refine ⟨sound_processing ledger ⟨listed, ?_, ?_⟩, .refl _⟩
        · intro held same
          cases same
          exact other
        · exact ⟨current, rfl, missing none⟩
  | claimed removal =>
    rcases stands with ⟨stored, deleting, deadline, read⟩
    have current : Current state.records removal :=
      Current.of_stored stored (by rw [Removal.stands, deleting]; rfl)
    unfold workProcess
    dsimp only
    split
    · exact idle
    · have issued : Ledger state.records (.issued ⟨removal.key, removal.file.folderId, removal.file.id,
          state.clock, state.records[removal.key]?⟩ :: state.log) := by
        refine ledger.cons (ledger.rightful.cons ?_) (fun key => rfl) (fun key before => before)
        intro issue same
        rw [← Entry.issued.inj same]
        exact ⟨⟨removal, stored, deleting, deadline, rfl, rfl, read⟩, current.not_quiet ledger⟩
      refine ⟨sound_processing issued ⟨listed, ?_, current, deleting⟩, .refl _⟩
      intro held same
      cases same
      exact apart removal rfl
  | deleting removal =>
    rcases stands with ⟨current, deleting⟩
    have other := apart removal rfl
    have noted : Standing state.records state.log state.clock
        (.noting { removal with error := some "NETWORK_UNAVAILABLE" }) rest := by
      refine ⟨listed, ?_, current, deleting⟩
      intro held same
      cases same
      exact other
    unfold workProcess
    dsimp only
    cases reply with
    | failed | accountChanged | failedLate => exact ⟨sound_processing ledger noted, .refl _⟩
    | done =>
      have answered : Ledger state.records (.answered removal.key :: state.log) := by
        refine ledger.cons (ledger.rightful.cons fun issue impossible => by cases impossible)
          (fun key => rfl) ?_
        intro key before
        rw [gone]
        split
        · rfl
        · exact before
      refine ⟨sound_processing answered ⟨listed, ?_, current, rfl, if_pos rfl⟩, .refl _⟩
      intro held same
      cases same
      exact other
  | noting removal =>
    rcases stands with ⟨current, deleting⟩
    refine ⟨afterWrite_sound ledger current listed (apart removal rfl) reply ?_ (Or.inl rfl),
      afterWrite_keeps current reply _ _⟩
    intro done
    rw [deleting] at done
    cases done
  | finishing removal =>
    rcases stands with ⟨current, deleted, evidence⟩
    have written := afterWrite_sound ledger current listed (apart removal rfl) reply (fun _ => evidence)
      (Or.inl (rfl : ProcessPoint.next = .next))
    have keeps := afterWrite_keeps current reply .next rest
    unfold workProcess
    dsimp only
    split
    · exact ⟨⟨written.ledger, written.standing⟩, keeps⟩
    · exact ⟨written, keeps⟩

/-! ## Scheduling and restoring -/

theorem sound_nextKey (ledger : Ledger state.records state.log) (keys : List String) (days : Nat) :
    (state.nextKey keys days).Sound := by
  unfold CleanupState.nextKey
  cases keys with
  | nil => exact sound_idle ledger
  | cons key keys =>
    constructor
    · exact ledger
    · intro point rest impossible
      cases impossible

theorem nextKey_records (keys : List String) (days : Nat) : (state.nextKey keys days).records = state.records := by
  unfold CleanupState.nextKey
  cases keys <;> rfl

theorem schedule_new {existing : Option Removal} {file : WorkspaceFile} {fingerprint : String} {days id : Nat}
    {now : Int} (scheduled : schedule existing file fingerprint days now id = .ok (removal, true)) :
    removal.key = file.key ∧ removal.status = .pending ∧
      forall stored, existing = some stored -> stored.stands = false := by
  unfold schedule at scheduled
  split at scheduled
  · cases scheduled
  · split at scheduled
    · cases scheduled
    next free =>
      cases scheduled
      refine ⟨rfl, rfl, ?_⟩
      intro stored present
      rw [present, Option.filter_some] at free
      split at free
      · cases free
      next settled => exact Bool.eq_false_iff.mpr settled

theorem workSchedule_sound (ledger : Ledger state.records state.log) (key : String) (keys : List String)
    (days : Nat) (reply : CleanupReply) (point : SchedulePoint) :
    (workSchedule sha256 state key keys days reply point).Sound ∧
      forall (other : String) (removal : Removal), state.records[other]? = some removal -> removal.stands = true ->
        (workSchedule sha256 state key keys days reply point).records[other]? = some removal := by
  have next : (state.nextKey keys days).Sound ∧
      forall (other : String) (removal : Removal), state.records[other]? = some removal -> removal.stands = true ->
        (state.nextKey keys days).records[other]? = some removal := by
    refine ⟨sound_nextKey ledger keys days, ?_⟩
    intro other removal found _
    rw [nextKey_records]
    exact found
  have turns : forall point, (state.turn (.scheduling key keys days point)).Sound ∧
      forall (other : String) (removal : Removal), state.records[other]? = some removal -> removal.stands = true ->
        (state.turn (.scheduling key keys days point)).records[other]? = some removal := by
    intro point
    refine ⟨⟨ledger, fun point rest impossible => by cases impossible⟩, fun other removal found _ => found⟩
  unfold workSchedule
  cases point with
  | looking | asking file =>
    dsimp only
    split
    · exact turns _
    · exact next
  | storing file fingerprint =>
    dsimp only
    split
    next removal scheduled =>
      rcases schedule_new scheduled with ⟨same, pending, free⟩
      cases wrote : CleanupState.effective removal.key reply with
      | false =>
        rw [if_neg (by decide)]
        have unchanged : CleanupState.put { state with drawn := state.drawn + 1 } removal.key removal reply =
            { state with drawn := state.drawn + 1 } := by
          unfold CleanupState.put
          rw [wrote]
          rfl
        rw [unchanged]
        refine ⟨sound_nextKey (by exact ledger) keys days, ?_⟩
        intro other kept found _
        rw [nextKey_records]
        exact found
      | true =>
        rw [if_pos rfl]
        have changed : (CleanupState.put { state with drawn := state.drawn + 1 } removal.key removal
            reply).records = state.records.insert removal.key removal := by
          rw [put_records, wrote, if_pos rfl]
        have logged := (put_log { state with drawn := state.drawn + 1 } removal.key removal reply).1
        constructor
        · apply sound_nextKey
          rw [record_records, changed]
          show Ledger _ (.scheduled removal.key :: CleanupState.log _)
          rw [logged]
          refine ledger.insert (ledger.rightful.cons fun issue impossible => by cases impossible) ?_ ?_ ?_
          · intro other different
            rw [quiet, gone, if_neg (fun equal => different equal.symm),
              if_neg (fun equal => different equal.symm)]
            exact ⟨rfl, rfl⟩
          · intro restored
            rw [quiet, if_pos rfl] at restored
            cases restored
          · intro done
            rw [pending] at done
            cases done
        · intro other kept found stands
          rw [nextKey_records, record_records, changed, getElem?_put, if_neg]
          · exact found
          · intro equal
            rw [← equal, same] at found
            rw [free kept found] at stands
            cases stands
    · exact next

theorem workRestore_sound (ledger : Ledger state.records state.log) (key : String) (reply : CleanupReply) :
    (workRestore state key reply).Sound ∧ KeepsTerms state.records (workRestore state key reply).records := by
  unfold workRestore
  cases restored : restore state.records[key]? with
  | error error => exact ⟨sound_idle ledger, .refl _⟩
  | ok removal =>
    dsimp only
    have terms : removal.key = key ∧ removal.status = .restored ∧
        forall stored : Removal, state.records[key]? = some stored ->
          removal.deleteAfter = stored.deleteAfter ∧ removal.fingerprint = stored.fingerprint := by
      unfold restore at restored
      split at restored
      · cases restored
      next stored found =>
        split at restored
        · cases restored
          refine ⟨ledger.keyed key stored found, rfl, ?_⟩
          intro other same
          rw [found, Option.some.injEq] at same
          rw [← same]
          exact ⟨rfl, rfl⟩
        · cases restored
    rcases terms with ⟨same, status, terms⟩
    have settled : removal.stands = false := by
      rw [Removal.stands, status]
      rfl
    have written : forall log, (log = state.log ∨ log = .restored key :: state.log) ->
        Ledger (state.records.insert key removal) log := by
      intro log choice
      rw [← same] at choice ⊢
      rcases choice with rfl | rfl
      · exact ledger.insert ledger.rightful (fun other _ => ⟨rfl, rfl⟩) (fun _ => settled)
          (fun done => by rw [status] at done; cases done)
      · refine ledger.insert (ledger.rightful.cons fun issue impossible => by cases impossible) ?_
          (fun _ => settled) (fun done => by rw [status] at done; cases done)
        intro other different
        rw [quiet, if_neg (fun equal => different equal.symm)]
        exact ⟨rfl, rfl⟩
    have keeps : KeepsTerms state.records (state.records.insert key removal) := by
      rw [← same]
      apply KeepsTerms.insert
      intro stored found _
      rw [same] at found
      exact terms stored found
    cases wrote : CleanupState.effective key reply with
    | true =>
      have changed : (state.put key removal reply).records = state.records.insert key removal := by
        rw [put_records, wrote, if_pos rfl]
      have logged := (put_log state key removal reply).1
      split
      · refine ⟨sound_idle ?_, ?_⟩
        · rw [record_records, changed]
          apply written
          exact Or.inr (congrArg (List.cons (Entry.restored key)) logged)
        · rw [turn_records, record_records, changed]
          exact keeps
      · refine ⟨sound_idle ?_, ?_⟩
        · rw [changed]
          exact written _ (Or.inl logged)
        · rw [turn_records, changed]
          exact keeps
    | false =>
      have unchanged : state.put key removal reply = state := by
        unfold CleanupState.put
        rw [wrote]
        rfl
      have failed : ¬ CleanupState.succeeded key reply = true := by
        intro succeeded
        rw [effective_of_succeeded succeeded] at wrote
        cases wrote
      rw [if_neg failed, unchanged]
      exact ⟨sound_idle ledger, .refl _⟩

/-! ## Every run -/

/-- What the commands promise: calls to delete are rightful, and a removal is recorded as
carried out only when the message was deleted or not there. -/
structure CleanupState.Honours (state : CleanupState) : Prop where
  issues : Rightful state.log
  deleted : forall (key : String) (removal : Removal), state.records[key]? = some removal ->
    removal.status = .deleted -> gone key state.log = true

/-- A step keeps the deadline and the fingerprint of the removals that are under way, and a
schedule leaves them as they are altogether. -/
structure StepKeeps (state : CleanupState) (event : CleanupEvent) (next : CleanupState) : Prop where
  terms : KeepsTerms state.records next.records
  schedules : forall key keys days point reply, state.activity = .scheduling key keys days point ->
    event = .proceed reply -> forall (other : String) (removal : Removal),
      state.records[other]? = some removal -> removal.stands = true -> next.records[other]? = some removal

theorem starts_sound (starts : state.Starts) : state.Sound := by
  rcases starts with ⟨records, activity, log⟩
  have missing : forall key : String, forall removal, ¬ state.records[key]? = some removal := by
    intro key removal found
    rw [records, Std.TreeMap.getElem?_emptyc] at found
    cases found
  constructor
  · constructor
    · intro key removal found
      exact absurd found (missing key removal)
    · intro key removal found
      exact absurd found (missing key removal)
    · intro key removal found
      exact absurd found (missing key removal)
    · intro later issue earlier same
      rw [log] at same
      exact absurd same.symm (List.append_ne_nil_of_right_ne_nil _ (List.cons_ne_nil _ _))
  · intro point rest processing
    rw [activity] at processing
    cases processing

/-- The listing hands out each stored removal once. -/
theorem listed_of_perm {removals : List Removal} (ledger : Ledger records log)
    (order : removals.Perm (records.toList.map Prod.snd)) : Listed records removals := by
  have stored : forall removal, removal ∈ records.toList.map Prod.snd -> records[removal.key]? = some removal := by
    intro removal member
    rcases List.mem_map.mp member with ⟨⟨key, kept⟩, listed, same⟩
    have found := Std.TreeMap.mem_toList_iff_getElem?_eq_some.mp listed
    rw [← same]
    show records[kept.key]? = some kept
    rw [ledger.keyed key kept found]
    exact found
  have keys : (records.toList.map Prod.snd).map Removal.key = records.keys := by
    rw [← Std.TreeMap.map_fst_toList_eq_keys, List.map_map]
    apply List.map_congr_left
    rintro ⟨key, removal⟩ listed
    exact ledger.keyed key removal (Std.TreeMap.mem_toList_iff_getElem?_eq_some.mp listed)
  constructor
  · intro removal member
    exact stored removal (order.mem_iff.mp member)
  · rw [(order.map Removal.key).nodup_iff, keys]
    exact Std.TreeMap.nodup_keys

theorem ProcessPoint.Stands.later {clock time : Int} (stands : point.Stands records log clock) (elapsed : clock ≤ time) :
    point.Stands records log time := by
  cases point with
  | claimed removal => exact ⟨stands.1, stands.2.1, Int.le_trans stands.2.2.1 elapsed, stands.2.2.2⟩
  | _ => exact stands

theorem begin_sound {command : Command} (sound : state.Sound) (began : beginCommand state command = some next) :
    next.Sound ∧ next.records = state.records := by
  unfold beginCommand at began
  cases command with
  | schedule keys days =>
    cases keys with
    | nil => cases began
    | cons key keys =>
      dsimp only at began
      split at began
      · cases began
      · cases began
        exact ⟨⟨sound.ledger, fun point rest impossible => by cases impossible⟩, rfl⟩
  | restore key =>
    cases began
    exact ⟨⟨sound.ledger, fun point rest impossible => by cases impossible⟩, rfl⟩
  | process =>
    cases began
    have noted : Ledger state.records (.began :: state.log) :=
      sound.ledger.cons (sound.ledger.rightful.cons fun issue impossible => by cases impossible)
        (fun key => rfl) (fun key before => before)
    exact ⟨⟨noted, fun point rest impossible => by cases impossible⟩, rfl⟩

theorem proceed_sound {reply : CleanupReply} (sound : state.Sound)
    (moved : CleanupState.step sha256 state (.proceed reply) = some next) :
    next.Sound ∧ StepKeeps state (.proceed reply) next := by
  unfold CleanupState.step at moved
  dsimp only at moved
  split at moved
  · cases moved
  next key keys days point doing =>
    cases moved
    have scheduled : (workSchedule sha256 state key keys days reply point).Sound ∧ _ :=
      workSchedule_sound sound.ledger key keys days reply point
    rcases scheduled with ⟨later, same⟩
    refine ⟨later, ?_, fun _ _ _ _ _ _ _ => same⟩
    intro other removal found stands
    exact ⟨removal, same other removal found stands, rfl, rfl⟩
  next key doing =>
    cases moved
    rcases workRestore_sound sound.ledger key reply with ⟨later, keeps⟩
    refine ⟨later, keeps, ?_⟩
    intro key keys days point reply other
    rw [doing] at other
    cases other
  next doing =>
    split at moved
    · cases moved
    · cases moved
      refine ⟨sound_idle sound.ledger, .refl _, ?_⟩
      intro key keys days point reply other
      rw [doing] at other
      cases other
  next point rest doing =>
    cases moved
    have processed : (workProcess sha256 state rest reply point).Sound ∧ _ :=
      workProcess_sound sound.ledger (sound.standing point rest doing) reply
    rcases processed with ⟨later, keeps⟩
    refine ⟨later, keeps, ?_⟩
    intro key keys days point reply other
    rw [doing] at other
    cases other

theorem sound_step {event : CleanupEvent} (sound : state.Sound)
    (moved : (cleanupMachine sha256).step state event = some next) : next.Sound ∧ StepKeeps state event next := by
  have unchanged : next.records = state.records -> (forall reply, event ≠ .proceed reply) ->
      StepKeeps state event next := by
    intro same other
    constructor
    · rw [same]
      exact .refl _
    · intro key keys days point reply _ impossible
      exact absurd impossible (other reply)
  cases event with
  | proceed reply => exact proceed_sound sound moved
  | begin command =>
    unfold cleanupMachine CleanupState.step at moved
    dsimp only at moved
    split at moved
    · rcases begin_sound sound moved with ⟨later, same⟩
      exact ⟨later, unchanged same fun reply impossible => by cases impossible⟩
    · cases moved
  | listed removals =>
    unfold cleanupMachine CleanupState.step at moved
    dsimp only at moved
    split at moved
    · split at moved
      next order =>
        cases moved
        exact ⟨sound_processing sound.ledger (standing_next (listed_of_perm sound.ledger order) _ _),
          unchanged rfl fun reply impossible => by cases impossible⟩
      · cases moved
    · cases moved
  | crash =>
    cases moved
    exact ⟨sound_idle sound.ledger, unchanged rfl fun reply impossible => by cases impossible⟩
  | tick time =>
    change (if state.clock ≤ time then some _ else none) = some next at moved
    split at moved
    next elapsed =>
      cases moved
      refine ⟨⟨sound.ledger, ?_⟩, unchanged rfl fun reply impossible => by cases impossible⟩
      intro point rest doing
      rcases sound.standing point rest doing with ⟨listed, apart, stands⟩
      exact ⟨listed, apart, stands.later elapsed⟩
    · cases moved
  | edit folderId id message | forget key =>
    cases moved
    exact ⟨⟨sound.ledger, sound.standing⟩, unchanged rfl fun reply impossible => by cases impossible⟩
  | index folderId id =>
    change (if 0 < id then some _ else none) = some next at moved
    split at moved
    · cases moved
      exact ⟨⟨sound.ledger, sound.standing⟩, unchanged rfl fun reply impossible => by cases impossible⟩
    · cases moved

theorem reachable_sound {initial : CleanupState} (starts : initial.Starts)
    (reached : (cleanupMachine sha256).Reachable initial state) : state.Sound :=
  Machine.Reachable.invariant (fun _ _ _ sound moved => (sound_step sound moved).1) reached (starts_sound starts)

/-- In whatever order commands, failures, crashes and changes of the messages come: a
delete call is issued for a file only past its deadline, with its scheduled fingerprint
read in that run, under a stored record that says so, and not after a restore that
returned `Ok` unless it was scheduled again; a removal under way keeps its terms; and a
removal recorded as carried out was deleted or found absent. -/
theorem removal_honours_grace_period (sha256 : String -> String) {initial state : CleanupState}
    (starts : initial.Starts) (reached : (cleanupMachine sha256).Reachable initial state) :
    state.Honours ∧ forall event next, (cleanupMachine sha256).step state event = some next ->
      StepKeeps state event next := by
  have sound := reachable_sound starts reached
  refine ⟨⟨sound.ledger.rightful, sound.ledger.settled⟩, ?_⟩
  intro event next moved
  exact (sound_step sound moved).2

def firstDay : CleanupState where
  clock := 0
  drawn := 0
  files := fun _ => none
  remote := fun _ _ => none
  records := ∅
  activity := .idle
  log := []

/-- A file is scheduled for a day, scheduled again with another period, and deleted by the
first run after its deadline. -/
def dayPasses : List CleanupEvent :=
  [.edit none 5 (some ⟨some (.document 9 3), none, ""⟩), .index none 5,
    .begin (.schedule ["saved:5"] 1), .proceed .done, .proceed .done, .proceed .done,
    .begin (.schedule ["saved:5"] 30), .proceed .done, .proceed .done, .proceed .done,
    .tick 86400000, .begin .process,
    .listed [⟨0, "saved:5", ⟨"saved:5", none, 5⟩, 0, 86400000, .pending, "document:9:3:0:", none⟩],
    .proceed .done, .proceed .done, .proceed .done, .proceed .done, .proceed .done, .proceed .done]

theorem day_passes :
    Exists fun state => firstDay.Starts ∧ (cleanupMachine id).Reachable firstDay state ∧ state.Honours ∧
      (state.records["saved:5"]?).map Removal.status = some .deleted ∧
      state.log = [.answered "saved:5",
        .issued ⟨"saved:5", none, 5, 86400000, some ⟨0, "saved:5", ⟨"saved:5", none, 5⟩, 0, 86400000, .deleting,
          "document:9:3:0:", none⟩⟩,
        .read "saved:5" (some "document:9:3:0:"), .began, .scheduled "saved:5"] := by
  have starts : firstDay.Starts := ⟨rfl, rfl, rfl⟩
  exact (Machine.exists_run (by decide +kernel)).imp fun state found =>
    have reached : (cleanupMachine id).Reachable firstDay state := ⟨dayPasses, found.1⟩
    ⟨starts, reached, (removal_honours_grace_period id starts reached).1, found.2⟩

end Workspace
end TelegramDrive
