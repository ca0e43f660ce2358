import TelegramDrive.Workspace.LocalStore
import TelegramDrive.Workspace.RemoteChanges

namespace TelegramDrive
namespace Workspace

/-!
# Changes applied to the local store

A list of changes is one transaction.  A move writes the file under its new key, moves its
tags and memberships, copies some records, and removes the file and its envelope under the
old key.  The first three happen only where the file is cached under the old key.
-/

namespace LocalStore

def Store.renameFile (store : Store) (key : Key) (name : String) : Except String Store := do
  match <- store.file key with
  | some file => store.rememberLocalFile { file with name := name }
  | none => return store

def Store.forgetFile (store : Store) (key : Key) : Store := (store.deleteFile key).removeRecord "envelope-v1" key

/-- The record of a kind, copied if there is one. -/
def Store.copyRecord (old new : Key) (store : Store) (kind : String) : Except String Store := do
  match <- store.value kind old with
  | some value => store.putRecord kind new value
  | none => return store

def Store.carryFile (store : Store) (old new : Key) (file : FileMetadata) : Except String Store := do
  let remembered <- store.rememberLocalFile file
  ["favorite", "pin", "activity"].foldlM (Store.copyRecord old new)
    ((remembered.moveTags old new).moveCollections old new)

def Store.moveFile (store : Store) (source : Option Int) (message : Int) (target : Option Int) (newMessage : Int) :
    Except String Store := do
  let old := fileKey source message
  let new := fileKey target newMessage
  let carried <- (match <- store.file old with
    | some file => store.carryFile old new { file with folderId := target, id := newMessage }
    | none => return store)
  return carried.forgetFile old

def Store.applyChange (store : Store) : Change -> Except String Store
  | .rename folder message name => store.renameFile (fileKey folder message) name
  | .delete folder message => .ok (store.forgetFile (fileKey folder message))
  | .move source message target newMessage => store.moveFile source message target newMessage

/-- What stops a list of changes: the account is another one, or the database fails. -/
structure Interruptions where
  beginning : Option String
  before : Nat -> Option String
  ending : Option String

def Store.applyFrom (interruptions : Interruptions) : Nat -> Store -> List Change -> Except String Store
  | _, store, [] => .ok store
  | index, store, change :: changes =>
    match interruptions.before index with
    | some error => .error error
    | none => do
        let next <- store.applyChange change
        next.applyFrom interruptions (index + 1) changes

/-- `apply`: the answer, and the store after the transaction or without it. -/
def Store.applyChanges (interruptions : Interruptions) (store : Store) (changes : List Change) :
    Except String Unit × Store :=
  match interruptions.beginning with
  | some error => (.error error, store)
  | none =>
    match store.applyFrom interruptions 0 changes with
    | .error error => (.error error, store)
    | .ok next =>
      match interruptions.ending with
      | some error => (.error error, store)
      | none => (.ok (), next)

end LocalStore
end Workspace
end TelegramDrive
