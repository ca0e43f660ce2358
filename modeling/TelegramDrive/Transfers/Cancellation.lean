import TelegramDrive.Transfers.Queue

namespace TelegramDrive
namespace Transfers

/-!
# How an operation is told to stop

The queue, with every operation it runs at a point of its code, and the two places
in which a request reaches one: the ids in `cancelled_transfers`, and the senders
that `UploadCancellation` registers.  Both are keyed by the id of the job, and
neither names an execution of it.

Between two points an operation does its work, of which only the end matters here.
The points come in the order of the source, in its desktop build; how often a loop
runs, and which way a branch goes, is left to the schedule.
-/

/-! ## Operations -/

/-- A point of an operation: work that may fail, a look at the requests, the wait
of `pace_download`, the registration of a sender, and work that is raced against
it.  The flags say whether the exit there removes the request. -/
inductive Point
  | work
  | check (removes : Bool)
  | pace
  | register
  | listen (removes : Bool)
deriving DecidableEq

namespace Point

/-- Whether the operation may end here with an error of its own. -/
def mayFail : Point -> Bool
  | .work | .pace | .listen _ => true
  | .check _ | .register => false

end Point

inductive Code
  | point (point : Point)
  | either (first second : List Code)
  | again (body : List Code)

namespace Code

def work : Code := .point .work
def check (removes : Bool) : Code := .point (.check removes)
def pace : Code := .point .pace
def register : Code := .point .register
def listen (removes : Bool) : Code := .point (.listen removes)

/-- At least once. -/
def repeated (body : List Code) : List Code := body ++ [.again body]

/-- One attempt to publish: a video listens, a message does not. -/
def publication : List Code := [.either [listen false] [work]]

/-- The standard path of `cmd_upload_file_inner`: preparation, then the loop that
sends the stream, starts over where it has to, and publishes the file. -/
def plainUpload : List Code :=
  [work, register, check true, listen false, work, check true, work] ++
    repeated (repeated [work, listen true] ++ repeated publication)

/-- `cmd_upload_file_encrypted`. -/
def protectedUpload : List Code :=
  [work, check true, register, work] ++
    repeated (repeated [work, check false, work, listen true] ++ repeated [work])

/-- The first half of `cmd_upload_from_url_owned`, up to the size of the file. -/
def remoteFetch : List Code :=
  [work, .again [work, check true, work, pace, work], work]

/-- The second half of `cmd_upload_from_url_owned` for a standard upload. -/
def remoteUpload : List Code :=
  [register, check false, listen false, work, check true, listen true, work] ++ repeated publication

/-- The chunks of a download.  A chunk that failed is asked for again. -/
def chunks (body : List Code) : Code := .again [work, check true, work, .either ([pace] ++ body) []]

/-- `cmd_download_file_owned`, for a file that is not protected.  A destination that
is skipped needs no chunk. -/
def plainDownload : List Code := [work, .either [chunks [work], work] []]

/-- `cmd_download_encrypted_file`.  Its last check follows the key of the header. -/
def protectedDownload : List Code :=
  [work, .either [chunks [.either [work, check false, work] [], work], work] []]

/-- The operation of a job. -/
def operation (kind : TransferKind) (isProtected : Bool) : List Code :=
  match kind, isProtected with
  | .localUpload, false => plainUpload
  | .localUpload, true => protectedUpload
  | .urlUpload, false => remoteFetch ++ remoteUpload
  | .urlUpload, true => remoteFetch ++ protectedUpload
  | .download, false => plainDownload
  | .download, true => protectedDownload

end Code

/-! ## Executions -/

/-- The error of an operation that stops at a request. -/
def cancelledError : String := "Transfer cancelled"

/-- One execution of a job: what is left of its code, whether it has a receiver and
whether that was sent to, whether a check has seen a request, and its result.  The
field `requested` is a history: a request was made since it started. -/
structure Execution where
  id : String
  code : List Code
  registered : Bool
  notified : Bool
  leaving : Option Bool
  result : Option (Except String TransferResponse)
  requested : Bool

/-- What an operation may do next. -/
inductive Move
  | pass
  | choose (first : Bool)
  | stop
  | leave
  | fail (error : String)
  | succeed (response : TransferResponse)

/-- What comes of a move. -/
inductive Advance
  | goes (execution : Execution)
  | registers (execution : Execution)
  | returns (removes : Bool) (result : Except String TransferResponse)

namespace Execution

def begin (isProtected : Bool) (job : TransferJob) : Execution where
  id := job.id
  code := Code.operation job.kind isProtected
  registered := false
  notified := false
  leaving := none
  result := none
  requested := false

/-- A move at a point, where `asked` says that the id is in `cancelled_transfers`. -/
def atPoint (execution : Execution) (asked : Bool) (rest : List Code) : Point -> Move -> Option Advance
  | .check removes, .pass =>
    some (.goes (if asked then { execution with leaving := some removes } else { execution with code := rest }))
  | .register, .pass => some (.registers { execution with code := rest, registered := true, notified := false })
  | _, .pass => some (.goes { execution with code := rest })
  | .pace, .stop => if asked then some (.returns false (.error cancelledError)) else none
  | .listen removes, .stop =>
    if execution.notified then some (.returns removes (.error cancelledError)) else none
  | point, .fail error =>
    if point.mayFail && decide (error ≠ cancelledError) then some (.returns false (.error error)) else none
  | _, _ => none

def advance (execution : Execution) (asked : Bool) (move : Move) : Option Advance :=
  match execution.result, execution.leaving with
  | some _, _ => none
  | none, some removes =>
    match move with
    | .leave => some (.returns removes (.error cancelledError))
    | _ => none
  | none, none =>
    match execution.code, move with
    | [], .succeed response => some (.returns false (.ok response))
    | .point point :: rest, move => execution.atPoint asked rest point move
    | .either first second :: rest, .choose taken =>
      some (.goes { execution with code := (if taken then first else second) ++ rest })
    | .again body :: rest, .choose taken =>
      some (.goes { execution with code := if taken then body ++ .again body :: rest else rest })
    | _, _ => none

end Execution

/-! ## Requests and executions -/

/-- The queue with its executions.  `firing` is the id of a request that has not
looked for a sender yet, and `withdrawing` the ids of the withdrawals that wait
for their operation. -/
structure Cancellation where
  queue : TransferQueue
  executions : List Execution
  cancelled : List String
  senders : List String
  firing : Option String
  withdrawing : List String

inductive CancellationEvent
  | queue (event : QueueEvent) (protectedIds : List String)
  | advance (id : String) (move : Move)
  | fire
  | settle (id : String)

namespace Cancellation

/-- Every execution of an id, changed. -/
def change (executions : List Execution) (id : String) (update : Execution -> Execution) : List Execution :=
  executions.map fun execution => if execution.id = id then update execution else execution

def without (ids : List String) (id : String) : List String := ids.filter fun other => decide (other ≠ id)

def execution? (state : Cancellation) (id : String) : Option Execution :=
  state.executions.find? fun execution => decide (execution.id = id)

/-- A queue in which nothing runs and nothing is asked. -/
def resting (queue : TransferQueue) : Cancellation := ⟨queue, [], [], [], none, []⟩

/-- The first half of `cmd_cancel_transfer`. -/
def request (state : Cancellation) (id : String) : Cancellation :=
  { state with
    cancelled := id :: state.cancelled
    firing := some id
    executions := change state.executions id fun execution => { execution with requested := true } }

/-- The second half of `cmd_cancel_transfer`. -/
def fire (state : Cancellation) (id : String) : Cancellation :=
  { state with
    firing := none
    senders := without state.senders id
    executions :=
      if id ∈ state.senders then
        change state.executions id fun execution => { execution with notified := true }
      else state.executions }

/-- An operation returns, and its registration is dropped. -/
def returned (state : Cancellation) (execution : Execution) (removes : Bool)
    (result : Except String TransferResponse) : Cancellation :=
  { state with
    executions := change state.executions execution.id fun execution => { execution with result := some result }
    cancelled := if removes then without state.cancelled execution.id else state.cancelled
    senders := if execution.registered then without state.senders execution.id else state.senders }

def advance (state : Cancellation) (id : String) (move : Move) : Option Cancellation :=
  (state.execution? id).bind fun execution =>
    (execution.advance (decide (id ∈ state.cancelled)) move).map fun
      | .goes next => { state with executions := change state.executions id fun _ => next }
      | .registers next =>
        { state with
          executions := change state.executions id fun _ => next
          senders := id :: state.senders }
      | .returns removes result => state.returned execution removes result

/-- Whether an event of the queue asks the operation of an id to stop. -/
def asks (queue : TransferQueue) : QueueEvent -> Option String
  | .transition id action session expected now failure =>
    match queue.engine.transition id action session expected now failure with
    | .ok (_, true) => some id
    | _ => none
  | .withdraw id seconds failure =>
    if (queue.engine.withdraw id seconds failure).2 then some id else none
  | _ => none

/-- The ids of the operations that an event of the queue starts. -/
def starts (queue : TransferQueue) : QueueEvent -> List TransferJob
  | .schedule pass => (queue.engine.scheduleOnce pass).2
  | _ => []

/-- What an event of the queue means for the executions. -/
def follow (state : Cancellation) (event : QueueEvent) (protectedIds : List String) (next : TransferQueue) :
    Cancellation :=
  match event with
  | .start _ _ _ | .stop => resting next
  | .schedule _ =>
    { state with
      queue := next
      executions := (starts state.queue event).map
        (fun job => Execution.begin (decide (job.id ∈ protectedIds)) job) ++ state.executions }
  | .finish id _ _ _ =>
    { state with
      queue := next
      executions := state.executions.eraseP fun execution => decide (execution.id = id) }
  | .withdraw id _ _ =>
    if (asks state.queue event).isSome then
      { state with queue := next, withdrawing := id :: state.withdrawing }.request id
    else { state with queue := next }
  | event =>
    match asks state.queue event with
    | some id => { state with queue := next }.request id
    | none => { state with queue := next }

/-- What the queue may do now: a request holds the lock until it has looked for a
sender, and an operation is recorded with the result it returned. -/
def admits (state : Cancellation) : QueueEvent -> Bool
  | .stop => true
  | .finish id result _ _ =>
    state.firing.isNone && (state.execution? id).any fun execution =>
      match execution.result, result with
      | some (.ok one), .ok two => decide (one = two)
      | some (.error one), .error two => decide (one = two)
      | _, _ => false
  | _ => state.firing.isNone

section Machine

variable (system : FileSystem)

def cancellationMachine : Machine Cancellation CancellationEvent where
  step state event :=
    match event with
    | .queue event protectedIds =>
      if state.admits event then
        ((TransferQueue.transferMachine system).step state.queue event).map
          (state.follow event protectedIds)
      else none
    | .advance id move => state.advance id move
    | .fire => state.firing.map state.fire
    | .settle id =>
      if id ∈ state.withdrawing then
        some { state with
          cancelled := without state.cancelled id
          withdrawing := state.withdrawing.erase id }
      else none

end Machine

end Cancellation

end Transfers
end TelegramDrive
