import Mathlib.Algebra.GroupWithZero.Nat
import Mathlib.Data.List.Infix
import TelegramDrive.Transfers.Destination

namespace TelegramDrive
namespace Transfers

/-!
# How a transfer ends

What the queue makes of the answer of an operation: the record of a success, or
the status, the category and the next attempt after an error.  Errors are told
apart by what their text contains.
-/

section Errors

variable (system : FileSystem)

def containsText (text part : String) : Bool := decide (part.toList <:+: text.toList)

/-- What follows the first occurrence of a marker. -/
def afterMarker (marker : List Char) : List Char -> Option (List Char)
  | [] => if marker = [] then some [] else none
  | char :: text =>
    if marker.isPrefixOf (char :: text) then some ((char :: text).drop marker.length)
    else afterMarker marker text

/-- `parse`: an unsigned number below a bound. -/
def parseDigits (digits : List Char) (bound : Nat) : Option Nat :=
  let number := digits.foldl (fun number digit => 10 * number + (digit.toNat - '0'.toNat)) 0
  if digits = [] ∨ bound ≤ number then none else some number

/-- `flood_wait_seconds` of the queue. -/
def floodWaitSeconds (error : String) : Option Nat :=
  ((afterMarker "FLOOD_WAIT_".toList (error.toList.map Char.toUpper)).bind fun rest =>
    parseDigits (rest.takeWhile Char.isDigit) (2 ^ 32)).map fun seconds => max 1 (min seconds 300)

def classifyFailure (error : String) : TransferErrorCategory :=
  let lower := system.lowercase error
  if containsText error "ACCOUNT_" then .account
  else if containsText error "VAULT_LOCKED" || containsText error "KEY_REQUIRED" then .unlock
  else if (floodWaitSeconds error).isSome then .rateLimit
  else if containsText lower "cancelled" then .cancelled
  else if containsText lower "no such file" || containsText lower "not found" then .sourceMissing
  else if ["no space", "disk full", "permission denied"].any (containsText lower) then .storage
  else if ["integrity", "authentication failed", "verification"].any (containsText lower) then .integrity
  else if ["network", "connection", "timed out", "timeout", "broken pipe", "reset by peer",
      "unexpected eof", "early eof", "temporarily unavailable", "client not connected"].any
      (containsText lower) then .network
  else .other

def networkRetryBackoffSecs : List Int := [5, 15, 45, 120, 300]

/-- The status, the next attempt and the retries spent after a failure that no
text explains. -/
def retryFailure (job : TransferJob) (now : Int) : TransferJob :=
  if job.errorCategory = some .network then
    match networkRetryBackoffSecs[job.networkRetries]? with
    | some wait =>
      { job with
        networkRetries := job.networkRetries + 1
        status := .cooldown
        retryAt := some (now + wait * 1000) }
    | none => { job with status := .failed }
  else { job with status := .failed }

def applyFailure (job : TransferJob) (error : String) (now : Int) : TransferJob :=
  let job := { job with
    speedBytesPerSec := 0
    retryAt := none
    errorCategory := some (classifyFailure system error) }
  if containsText error "VAULT_LOCKED" || containsText error "KEY_REQUIRED" then
    { job with status := .waitingForUnlock, error := some error }
  else
    match floodWaitSeconds error with
    | some seconds =>
      { job with
        status := .cooldown
        retryAt := some (now + seconds * 1000)
        error := some ("Telegram cooling down (" ++ toString seconds ++ "s)") }
    | none =>
      if containsText error "ACCOUNT_" then { job with status := .paused, error := some error }
      else if containsText error "Client not connected" then
        { job with status := .waitingForNetwork, error := some error }
      else if containsText error "Transfer cancelled" then
        { job with status := .cancelled, error := some error }
      else { retryFailure job now with error := some error }

end Errors

/-! ## Success -/

/-- The answer of an operation, as `record_success_response` reads it: the number
in it, and the publication in it. -/
structure TransferResponse where
  messageId : Option Int
  publication : Option DownloadPublication
deriving DecidableEq

def recordSuccessResponse (job : TransferJob) (response : TransferResponse) : TransferJob :=
  if job.direction = .upload then { job with messageId := response.messageId.or job.messageId }
  else
    match response.publication with
    | some publication => job.recordPublication publication
    | none => job

/-- The job of an operation that succeeded. -/
def TransferJob.succeed (job : TransferJob) (response : TransferResponse) : TransferJob :=
  recordSuccessResponse
    { job with
      status := .completed
      progress := 100
      transferredBytes := max job.totalBytes job.transferredBytes
      speedBytesPerSec := 0
      error := none
      retryAt := none
      errorCategory := none
      networkRetries := 0 } response

/-- The job of an operation that failed.  A pause or a cancellation that came
meanwhile stays. -/
def TransferJob.fail (system : FileSystem) (job : TransferJob) (error : String) (now : Int) : TransferJob :=
  if job.status = .pending ∨ job.status = .paused ∨ job.status = .cancelled then
    { job with
      speedBytesPerSec := 0
      error := if job.status = .cancelled then job.error else none }
  else applyFailure system job error now

/-! ## What an ending leaves -/

/-- The fields that the end of an operation does not touch. -/
structure SameRecord (job next : TransferJob) : Prop where
  id : next.id = job.id
  ownerId : next.ownerId = job.ownerId
  origin : next.origin = job.origin
  direction : next.direction = job.direction
  revision : next.revision = job.revision
  persistencePending : next.persistencePending = job.persistencePending

theorem SameRecord.refl (job : TransferJob) : SameRecord job job := ⟨rfl, rfl, rfl, rfl, rfl, rfl⟩

theorem recordSuccessResponse_same (job : TransferJob) (response : TransferResponse) :
    SameRecord job (recordSuccessResponse job response) ∧
      (recordSuccessResponse job response).status = job.status := by
  unfold recordSuccessResponse
  split
  · exact ⟨⟨rfl, rfl, rfl, rfl, rfl, rfl⟩, rfl⟩
  · split
    · exact ⟨⟨rfl, rfl, rfl, rfl, rfl, rfl⟩, rfl⟩
    · exact ⟨.refl job, rfl⟩

/-- A success is recorded as completed, and changes nothing that identifies the job. -/
theorem succeed_same (job : TransferJob) (response : TransferResponse) :
    SameRecord job (job.succeed response) ∧ (job.succeed response).status = .completed := by
  rcases recordSuccessResponse_same _ response with ⟨same, status⟩
  exact ⟨⟨same.id, same.ownerId, same.origin, same.direction, same.revision,
    same.persistencePending⟩, status⟩

theorem retryFailure_same (job : TransferJob) (now : Int) : SameRecord job (retryFailure job now) := by
  unfold retryFailure
  split
  · split
    · exact ⟨rfl, rfl, rfl, rfl, rfl, rfl⟩
    · exact ⟨rfl, rfl, rfl, rfl, rfl, rfl⟩
  · exact ⟨rfl, rfl, rfl, rfl, rfl, rfl⟩

theorem applyFailure_same (system : FileSystem) (job : TransferJob) (error : String) (now : Int) :
    SameRecord job (applyFailure system job error now) := by
  unfold applyFailure
  simp only
  split
  · exact ⟨rfl, rfl, rfl, rfl, rfl, rfl⟩
  · split
    · exact ⟨rfl, rfl, rfl, rfl, rfl, rfl⟩
    · split
      · exact ⟨rfl, rfl, rfl, rfl, rfl, rfl⟩
      · split
        · exact ⟨rfl, rfl, rfl, rfl, rfl, rfl⟩
        · split
          · exact ⟨rfl, rfl, rfl, rfl, rfl, rfl⟩
          · have same := retryFailure_same { job with
              speedBytesPerSec := 0
              retryAt := none
              errorCategory := some (classifyFailure system error) } now
            exact ⟨same.id, same.ownerId, same.origin, same.direction, same.revision,
              same.persistencePending⟩

theorem fail_same (system : FileSystem) (job : TransferJob) (error : String) (now : Int) :
    SameRecord job (job.fail system error now) := by
  unfold TransferJob.fail
  split
  · exact ⟨rfl, rfl, rfl, rfl, rfl, rfl⟩
  · exact applyFailure_same system job error now

end Transfers
end TelegramDrive
