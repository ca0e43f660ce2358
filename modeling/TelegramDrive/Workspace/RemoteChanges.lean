namespace TelegramDrive
namespace Workspace

/-!
# What was changed on Telegram

After a change on Telegram has been verified, the stores of the account that made it are
told of it.
-/

/-- A folder is the channel of that id, or Saved Messages. -/
inductive Change
  | rename (folder : Option Int) (message : Int) (name : String)
  | delete (folder : Option Int) (message : Int)
  | move (source : Option Int) (message : Int) (target : Option Int) (newMessage : Int)
deriving DecidableEq

end Workspace
end TelegramDrive
