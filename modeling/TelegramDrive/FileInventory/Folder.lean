import Mathlib.Data.Nat.Basic
import TelegramDrive.Library.OrderedMap

namespace TelegramDrive
namespace FileInventory

/-!
# The remote folder and its source

What others do to the messages of a folder, and what a `Source` says of them.  The
ids of new messages grow, and no id is used twice.  A lookup answers with the
current message of each id.  A history call takes time: it may or may not see what
is added or changed while it lasts.
-/

variable {Content : Type}

/-- A message.  The last two fields are a history: the time at which it was added,
and whether it has been a supported file ever since. -/
structure Message (Content : Type) where
  id : Nat
  supported : Bool
  content : Content
  addedAt : Nat
  always : Bool
  deriving DecidableEq

/-- A row of the inventory. -/
structure Row (Content : Type) where
  id : Nat
  content : Content

/-- The messages that exist, and the highest id that was ever given. -/
structure Folder (Content : Type) where
  messages : OrderedMap Nat (Message Content) Message.id
  top : Nat

inductive RemoteChange (Content : Type)
  | add (id : Nat) (supported : Bool) (content : Content)
  | edit (id : Nat) (supported : Bool) (content : Content)
  | delete (id : Nat)

namespace Folder

def empty : Folder Content := ⟨.empty, 0⟩

def change (folder : Folder Content) (now : Nat) : RemoteChange Content -> Option (Folder Content)
  | .add id supported content =>
    if folder.top < id then some ⟨folder.messages.insert ⟨id, supported, content, now, supported⟩, id⟩
    else none
  | .edit id supported content =>
    (folder.messages.find? id).map fun message =>
      { folder with messages := folder.messages.insert { message with
          supported := supported
          content := content
          always := message.always && supported } }
  | .delete id => some { folder with messages := folder.messages.erase id }

/-- The row of an id, if it names a supported file now. -/
def current (folder : Folder Content) (id : Nat) : Option (Row Content) :=
  (folder.messages.find? id).bind fun message =>
    if message.supported then some ⟨message.id, message.content⟩ else none

/-- `lookup`. -/
def lookup (folder : Folder Content) (ids : List Nat) : List (Option (Row Content)) :=
  ids.map folder.current

/-- The most rows that an inventory keeps, and the most that one history call walks
before it stops. -/
def maxFiles : Nat := 50000

/-- What a history call may answer when it ends.  Its rows are new, and the highest
id it has seen was given.  Unless it stopped early, it has every supported message
that was there all the time, or that its highest id has passed. -/
def answers (folder : Folder Content) (after calledAt observed : Nat) (additions : List (Row Content)) :
    Bool :=
  decide (observed ≤ folder.top) &&
    additions.all (fun row => decide (after < row.id) && decide (row.id ≤ observed)) &&
    (decide (maxFiles < additions.length) || folder.messages.items.all fun message =>
      !(message.always && decide (after < message.id) &&
        (decide (message.addedAt < calledAt) || decide (message.id ≤ observed))) ||
      additions.any fun row => decide (row.id = message.id))

/-! ## What stays true of a folder -/

structure Sound (folder : Folder Content) (now : Nat) : Prop where
  positive : forall message, message ∈ folder.messages.items -> 0 < message.id
  given : forall message, message ∈ folder.messages.items -> message.id ≤ folder.top
  past : forall message, message ∈ folder.messages.items -> message.addedAt < now
  supported : forall message, message ∈ folder.messages.items -> message.always = true ->
    message.supported = true

theorem empty_sound (now : Nat) : (empty : Folder Content).Sound now where
  positive _ member := absurd member List.not_mem_nil
  given _ member := absurd member List.not_mem_nil
  past _ member := absurd member List.not_mem_nil
  supported _ member := absurd member List.not_mem_nil

variable {folder next : Folder Content} {now : Nat}

theorem Sound.later (sound : folder.Sound now) {time : Nat} (later : now ≤ time) : folder.Sound time :=
  { sound with past := fun message member =>
    Nat.lt_of_lt_of_le (sound.past message member) later }

/-- A message that must be listed: a supported one that the highest id has passed,
or that was there before a read began. -/
def Due (folder : Folder Content) (observed begunAt id : Nat) : Prop :=
  Exists fun message => message ∈ folder.messages.items ∧ message.id = id ∧ message.always = true ∧
    (message.id ≤ observed ∨ message.addedAt < begunAt)

theorem mem_insert {messages : OrderedMap Nat (Message Content) Message.id} {message other : Message Content}
    (member : other ∈ (messages.insert message).items) :
    other = message ∨ (other ∈ messages.items ∧ other.id ≠ message.id) := by
  rcases List.mem_append.mp member with below | rest
  · rcases List.mem_filter.mp below with ⟨inside, less⟩
    exact Or.inr ⟨inside, ne_of_lt (of_decide_eq_true less)⟩
  · rcases List.mem_cons.mp rest with same | above
    · exact Or.inl same
    · rcases List.mem_filter.mp above with ⟨inside, less⟩
      exact Or.inr ⟨inside, ne_of_gt (of_decide_eq_true less)⟩

end Folder

end FileInventory
end TelegramDrive
