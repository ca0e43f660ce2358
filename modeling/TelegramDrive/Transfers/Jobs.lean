import Mathlib.Data.List.Basic

namespace TelegramDrive
namespace Transfers

/-!
# Transfer jobs

The record of a queued transfer, with the fields that the queue itself reads.
What only the transfer operation reads, such as its source and its protection,
is left out.
-/

inductive TransferDirection
  | upload
  | download
deriving DecidableEq

inductive TransferKind
  | localUpload
  | urlUpload
  | download
deriving DecidableEq

inductive TransferStatus
  | pending
  | paused
  | waitingForNetwork
  | cooldown
  | downloading
  | uploading
  | encrypting
  | decrypting
  | verifying
  | waitingForUnlock
  | completed
  | failed
  | cancelled
deriving DecidableEq

namespace TransferStatus

def isActive : TransferStatus -> Bool
  | .downloading | .uploading | .encrypting | .decrypting | .verifying => true
  | _ => false

def isTerminal : TransferStatus -> Bool
  | .completed | .failed | .cancelled => true
  | _ => false

end TransferStatus

inductive TransferErrorCategory
  | network
  | rateLimit
  | unlock
  | sourceMissing
  | storage
  | integrity
  | account
  | interrupted
  | persistence
  | cancelled
  | other
deriving DecidableEq

inductive DownloadCollisionPolicy
  | keepBoth
  | skip
  | replace
deriving DecidableEq

inductive DownloadOutcome
  | saved
  | skipped
deriving DecidableEq

/-- A destination: the path of its parent, empty for a bare name, and its name. -/
structure DownloadPath where
  parent : String
  name : String
deriving DecidableEq

structure TransferJob where
  id : String
  ownerId : Option String
  direction : TransferDirection
  kind : TransferKind
  status : TransferStatus
  downloadOutcome : Option DownloadOutcome
  messageId : Option Int
  filename : String
  savePath : Option DownloadPath
  collisionPolicy : DownloadCollisionPolicy
  progress : Nat
  transferredBytes : Nat
  totalBytes : Nat
  speedBytesPerSec : Nat
  error : Option String
  errorCategory : Option TransferErrorCategory
  persistencePending : Bool
  retryAt : Option Int
  networkRetries : Nat
  origin : Option String
  queuePosition : Int
  revision : Nat
  createdAt : Int
  updatedAt : Int
deriving DecidableEq

end Transfers
end TelegramDrive
