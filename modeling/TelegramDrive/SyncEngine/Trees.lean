import Std.Data.TreeMap.Lemmas
import Mathlib.Data.String.Basic

namespace TelegramDrive
namespace SyncEngine

/-!
# The two trees of a mapping and its recorded state

A file tree maps relative paths to entries.  The local tree carries content
hashes, the remote tree carries fingerprints of Telegram messages; the two
kinds of hash are never expected to agree.  The synced tree is the content of
the `sync_state` table for one mapping.

The source repeats the path inside every entry.  Here the path of an entry is
its key, so a tree whose entries disagree with their keys cannot be written.
-/

structure TreeEntry where
  hash : String
  fileSize : Nat
  modifiedAt : Option Int
  messageId : Option Int
deriving DecidableEq

abbrev FileTree := Std.TreeMap String TreeEntry

/-- The texts the program stores in `sync_status`. -/
inductive SyncStatus
  | synced
  | syncing
  | conflict
  | keepLocal
  | keepRemote
  | keepBoth
  | error
  | skipped
  | pausedVault
deriving DecidableEq

structure SyncedEntry where
  localHash : Option String
  remoteHash : Option String
  fileSize : Nat
  localMtime : Option Int
  remoteDate : Option Int
  messageId : Option Int
  syncStatus : SyncStatus
deriving DecidableEq

abbrev SyncedTree := Std.TreeMap String SyncedEntry

namespace SyncStatus

/-- The statuses `cmd_resolve_conflict` writes. -/
def isResolution : SyncStatus -> Bool
  | keepLocal | keepRemote | keepBoth => true
  | _ => false

end SyncStatus
end SyncEngine
end TelegramDrive
