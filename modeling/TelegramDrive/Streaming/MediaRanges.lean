import Mathlib.Data.List.Infix
import TelegramDrive.SyncEngine.Policy

namespace TelegramDrive
namespace Streaming

/-!
# Ranges of a media file

A request may ask for a range of a file.  The source delivers the file from a boundary
before the range on, in chunks of any length, and may fail or end early.  The range is cut
out of the chunks as they come.
-/

def maxU64 : Nat := 2 ^ 64 - 1

/-- A number, which saturates. -/
def decimal (value : List Char) : Option Nat :=
  if value.isEmpty || !value.all Char.isDigit then none
  else some (value.foldl (fun number digit => min (min (number * 10) maxU64 + (digit.toNat - '0'.toNat)) maxU64) 0)

section Streams

variable {Error : Type}

/-- What a stream yields. -/
abbrev Chunks (Error : Type) : Type := List (Except Error (List UInt8))

/-- The bytes that a client receives, and the error that aborts them. -/
def received : Chunks Error -> List UInt8 × Option Error
  | [] => ([], none)
  | .error error :: _ => ([], some error)
  | .ok bytes :: stream => (bytes ++ (received stream).1, (received stream).2)

end Streams
end Streaming
end TelegramDrive
