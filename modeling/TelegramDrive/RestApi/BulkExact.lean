import TelegramDrive.Library.Results
import TelegramDrive.RestApi.BulkFiles

namespace TelegramDrive
namespace RestApi

/-!
# What a bulk request touches

A request should be refused before anything changes, or change exactly the files it names.
Whether it does is decided by the folder fields, by repeated ids, and by what Telegram makes
of the calls; that no file is deleted without a copy, and that every recorded change names
the copy of its own file, holds in any case.
-/

/-! ## Folders that a request may name -/

/-- The folder that a field denotes, if it denotes one. -/
def denotedFolder : Option Json -> Option (Option Int)
  | none => some none
  | some .null => some none
  | some (.integer value) => if inI64 value = true then some (some value) else none
  | some (.string text) => (parseI64 text).map some
  | some _ => none

theorem folderOf_denoted {value : Option Json} {folder : Option Int} (denoted : denotedFolder value = some folder) :
    folderOf value = folder := by
  unfold denotedFolder at denoted
  split at denoted
  · cases denoted
    rfl
  · cases denoted
    rfl
  next value =>
    split at denoted
    next inside =>
      cases denoted
      simp only [folderOf, Option.bind_some, Json.asI64]
      rw [if_pos (of_decide_eq_true inside)]
    · cases denoted
  next text =>
    rw [Option.map_eq_some_iff] at denoted
    rcases denoted with ⟨id, parsed, rfl⟩
    exact parsed
  · cases denoted

/-! ## What the request should do -/

section Purpose

variable {Peer File : Type}

def fileOf (messages : List (Message File)) (id : Int) : Option File := (find? messages id).map Message.file

/-- Nothing happened, and the request is told so. -/
structure Rejected (before : Chats Peer File) (outcome : Outcome Peer File) : Prop where
  chats : outcome.chats = before
  recorded : outcome.recorded = []
  error : outcome.response.isError = true

variable [DecidableEq Peer]

def without (messages : List (Message File)) (ids : List Int) : List (Message File) :=
  messages.filter fun message => decide (message.id ∉ ids)

/-- Exactly the named messages of the chat are gone. -/
def Deleted (before after : Chats Peer File) (peer : Peer) (ids : List Int) : Prop :=
  forall other, after other = if other = peer then without (before other) ids else before other

/-- The named messages are gone from the source, and each of them has one copy in the target,
which is not the message itself. -/
def Moved (before after : Chats Peer File) (source target : Peer) (ids : List Int) : Prop :=
  Exists fun copies : List (Message File) =>
    (copies.map fun copy => some copy.file).Perm (ids.dedup.map (fileOf (before source))) ∧
      (source = target -> forall copy, copy ∈ copies -> copy.id ∉ ids) ∧
      forall other, after other =
        (if other = source then without (before other) ids else before other) ++
          if other = target then copies else []

variable (remote : Remote Peer)

/-- The request did what it says, with the folders that its fields denote. -/
def Carried (request : BulkRequest) (before after : Chats Peer File) : Prop :=
  Exists fun ids => parseBulkFileIds request.fileIds = .ok ids ∧
    (request.action = "delete" -> Exists fun folder => Exists fun peer =>
      denotedFolder request.folderId = some folder ∧ remote.resolvePeer folder = .ok peer ∧
        Deleted before after peer ids) ∧
    (request.action = "move" -> Exists fun source => Exists fun target =>
      Exists fun sourcePeer => Exists fun targetPeer =>
        denotedFolder request.folderId = some source ∧ denotedFolder request.payloadFolder = some target ∧
          remote.resolvePeer source = .ok sourcePeer ∧ remote.resolvePeer target = .ok targetPeer ∧
          Moved before after sourcePeer targetPeer ids) ∧
    (request.action ≠ "delete" -> request.action ≠ "move" -> after = before)

/-- A recorded change of a move names a copy of its own message. -/
def Names (before after : Chats Peer File) : Workspace.Change -> Prop
  | .move source message target newMessage => Exists fun sourcePeer => Exists fun targetPeer =>
    remote.resolvePeer source = .ok sourcePeer ∧ remote.resolvePeer target = .ok targetPeer ∧
      Exists fun copy => copy ∈ after targetPeer ∧ copy.id = newMessage ∧
        fileOf (before sourcePeer) message = some copy.file
  | _ => True

structure Exact (request : BulkRequest) (before : Chats Peer File) (outcome : Outcome Peer File) : Prop where
  carried : Rejected before outcome ∨ Carried remote request before outcome.chats
  folders : denotedFolder request.folderId = none ∨ denotedFolder request.payloadFolder = none ->
    Rejected before outcome
  copied : request.action = "move" -> forall peer message, message ∈ before peer -> message ∉ outcome.chats peer ->
    Exists fun ids => Exists fun sourcePeer => Exists fun targetPeer =>
      parseBulkFileIds request.fileIds = .ok ids ∧ remote.resolvePeer request.sourceFolder = .ok sourcePeer ∧
        remote.resolvePeer request.targetFolder = .ok targetPeer ∧
        forall id, id ∈ ids -> Exists fun copy => copy ∈ outcome.chats targetPeer ∧
          fileOf (before sourcePeer) id = some copy.file
  recorded : forall change, change ∈ outcome.recorded -> Names remote before outcome.chats change

/-! ## When it does -/

/-- Message ids number the messages of a channel, and those of all other chats together; a copy
gets an id that is new in this sense. -/
structure Numbered (request : BulkRequest) (before : Chats Peer File) : Prop where
  apart : forall one other, remote.isChannel one = false -> remote.isChannel other = false -> one ≠ other ->
    forall message, message ∈ before one -> forall next, next ∈ before other -> message.id ≠ next.id
  fresh : forall target, remote.resolvePeer request.targetFolder = .ok target ->
    forall new, some new ∈ remote.copies -> forall other, remote.searches target other = true ->
      forall message, message ∈ before other -> message.id ≠ new

/-- Telegram deletes the named messages of the chat and no others that have their ids. -/
def DeletesExactly (before : Chats Peer File) (peer : Peer) (ids : List Int) : Prop :=
  (forall message, message ∈ before peer -> message.id ∈ ids -> message.id ∉ remote.kept) ∧
    forall other, other ≠ peer -> remote.searches peer other = true ->
      forall message, message ∈ before other -> message.id ∈ ids -> message.id ∈ remote.kept

/-- The checks before the first change are passed, and it is not refused as a whole. -/
def Starts (request : BulkRequest) (before : Chats Peer File) : Prop :=
  match prepare remote request before with
  | .error _ => False
  | .ok (ids, .delete _ peer) => remote.deleteError = none ∨ Exists fun other => remote.searches peer other = true ∧
      Exists fun message => message ∈ before other ∧ message.id ∈ ids ∧ message.id ∉ remote.kept
  | .ok (ids, .move _ _ sourcePeer _) => copiesMade remote (before sourcePeer) ids ≠ []
  | .ok (_, .answer response) => remote.account .answered = true ∧ response.isError = false

/-- Folder fields that denote folders; a deletion that finds only what it should; a move of
distinct files to another folder, all of which are copied and then deleted. -/
structure Sensible (request : BulkRequest) (before : Chats Peer File) : Prop where
  folder : denotedFolder request.folderId ≠ none
  payload : denotedFolder request.payloadFolder ≠ none
  delete : request.action = "delete" -> forall ids peer, parseBulkFileIds request.fileIds = .ok ids ->
    remote.resolvePeer request.sourceFolder = .ok peer -> DeletesExactly remote before peer ids
  move : request.action = "move" -> forall ids, parseBulkFileIds request.fileIds = .ok ids ->
    request.sourceFolder ≠ request.targetFolder ∧ ids.Nodup ∧ remote.forwardError = none ∧
      remote.account .beforeDeletion = true ∧ remote.copies.length = ids.length ∧ none ∉ remote.copies ∧
      forall id, id ∈ ids -> id ∉ remote.kept

end Purpose

/-! ## The checks -/

section Checks

variable {Peer File : Type} {remote : Remote Peer} {request : BulkRequest} {before : Chats Peer File}

theorem ids_ne_nil {values : List Json} {ids : List Int} (parsed : parseBulkFileIds values = .ok ids) : ids ≠ [] := by
  unfold parseBulkFileIds at parsed
  split at parsed
  · cases parsed
  next some =>
    split at parsed
    next found each =>
      cases parsed
      rintro rfl
      cases values with
      | nil => exact some rfl
      | cons value values =>
        rw [List.mapM_cons] at each
        cases one : parseBulkFileId value with
        | none =>
          rw [one] at each
          cases each
        | some id =>
          rw [one] at each
          cases others : values.mapM parseBulkFileId with
          | none | some ids =>
            rw [others] at each
            cases each
    · cases parsed

theorem resolve_ok {folder : Option Int} {peer : Peer} :
    resolve remote folder = .ok peer ↔ remote.resolvePeer folder = .ok peer := by
  unfold resolve
  cases remote.resolvePeer folder with
  | ok found =>
    constructor
    · intro done
      cases done
      rfl
    · intro done
      cases done
      rfl
  | error error =>
    constructor
    · intro done
      cases done
    · intro done
      cases done

/-- A file that is let through is there. -/
theorem refuseEncrypted_ok {folder : Option Int} {peer : Peer} (resolved : remote.resolvePeer folder = .ok peer)
    {ids : List Int} (passed : refuseEncrypted remote before folder ids = .ok ()) :
    forall id, id ∈ ids -> find? (before peer) id ≠ none := by
  induction ids with
  | nil =>
    intro id member
    cases member
  | cons first ids ih =>
    rw [refuseEncrypted] at passed
    split at passed
    next plain =>
      have there : find? (before peer) first ≠ none := by
        unfold registeredEncrypted at plain
        split at plain
        · cases plain
        · rw [resolved] at plain
          intro absent
          dsimp only [bind, Except.bind] at plain
          rw [absent] at plain
          cases plain
      intro id member
      rcases List.mem_cons.mp member with rfl | later
      · exact there
      · exact ih passed id later
    · cases passed
    · cases passed

/-- What a plan was made from. -/
inductive Planned (remote : Remote Peer) (request : BulkRequest) (before : Chats Peer File) (ids : List Int) :
    Plan Peer -> Prop
  | delete {peer : Peer} (action : request.action = "delete")
      (resolved : remote.resolvePeer request.sourceFolder = .ok peer) :
      Planned remote request before ids (.delete request.sourceFolder peer)
  | move {source target : Peer} (action : request.action = "move")
      (there : forall id, id ∈ ids -> find? (before source) id ≠ none)
      (fromSource : remote.resolvePeer request.sourceFolder = .ok source)
      (toTarget : remote.resolvePeer request.targetFolder = .ok target)
      (other : request.sourceFolder ≠ request.targetFolder) :
      Planned remote request before ids (.move request.sourceFolder request.targetFolder source target)
  | stay {source : Peer} (action : request.action = "move")
      (there : forall id, id ∈ ids -> find? (before source) id ≠ none)
      (fromSource : remote.resolvePeer request.sourceFolder = .ok source)
      (same : request.sourceFolder = request.targetFolder) :
      Planned remote request before ids (.answer (.success ids.length))
  | archive {response : Response} (action : request.action = "archive") :
      Planned remote request before ids (.answer response)

theorem prepare_ok {ids : List Int} {chosen : Plan Peer} (prepared : prepare remote request before = .ok (ids, chosen)) :
    parseBulkFileIds request.fileIds = .ok ids ∧ Planned remote request before ids chosen := by
  unfold prepare at prepared
  split at prepared
  · cases prepared
  · split at prepared
    · cases prepared
    next found parsed =>
      rcases Results.bind_ok prepared with ⟨_, passed, rest⟩
      rcases Results.bind_ok rest with ⟨made, planned, done⟩
      cases done
      refine ⟨parsed, ?_⟩
      unfold plan at planned
      split at planned
      next delete =>
        rcases Results.bind_ok planned with ⟨peer, resolved, rest⟩
        rcases Results.bind_ok rest with ⟨_, -, done⟩
        cases done
        exact .delete delete (resolve_ok.mp resolved)
      next other =>
        rw [if_pos other] at passed
        split at planned
        next move =>
          rcases Results.bind_ok planned with ⟨source, fromSource, rest⟩
          rcases Results.bind_ok rest with ⟨target, toTarget, rest⟩
          have there := refuseEncrypted_ok (resolve_ok.mp fromSource) passed
          split at rest
          next same =>
            cases rest
            exact .stay move there (resolve_ok.mp fromSource) same
          next different =>
            rcases Results.bind_ok rest with ⟨_, -, done⟩
            cases done
            exact .move move there (resolve_ok.mp fromSource) (resolve_ok.mp toTarget) different
        · split at planned
          next archive =>
            rcases Results.bind_ok planned with ⟨peer, resolved, done⟩
            cases done
            exact .archive archive
          · cases planned

end Checks

/-! ## Deletions -/

section Deletions

variable {Peer File : Type} [DecidableEq Peer] {remote : Remote Peer} {before : Chats Peer File} {peer : Peer}
  {ids : List Int}

theorem searches_self (peer : Peer) : remote.searches peer peer = true := by
  unfold Remote.searches
  rw [decide_eq_true rfl, Bool.true_or]

theorem searches_symm {one other : Peer} (found : remote.searches one other = true) :
    remote.searches other one = true := by
  unfold Remote.searches at found ⊢
  rw [Bool.or_eq_true, Bool.and_eq_true] at found ⊢
  rcases found with same | both
  · exact Or.inl (decide_eq_true (of_decide_eq_true same).symm)
  · exact Or.inr both.symm

theorem searches_private {one other : Peer} (found : remote.searches one other = true) (different : other ≠ one) :
    remote.isChannel one = false ∧ remote.isChannel other = false := by
  unfold Remote.searches at found
  rw [Bool.or_eq_true, Bool.and_eq_true] at found
  rcases found with same | both
  · exact (different (of_decide_eq_true same)).elim
  · exact ⟨by simpa using both.1, by simpa using both.2⟩

theorem filter_eq_filter {α : Type} {items : List α} {one two : α -> Bool} :
    items.filter one = items.filter two ↔ forall item, item ∈ items -> one item = two item := by
  constructor
  · intro same item member
    apply Bool.eq_iff_iff.mpr
    constructor
    · intro kept
      have inside : item ∈ items.filter two := same ▸ List.mem_filter.mpr ⟨member, kept⟩
      exact (List.mem_filter.mp inside).2
    · intro kept
      have inside : item ∈ items.filter one := same ▸ List.mem_filter.mpr ⟨member, kept⟩
      exact (List.mem_filter.mp inside).2
  · intro agree
    exact List.filter_congr agree

/-- What a deletion leaves of a chat that it searches. -/
def left (remote : Remote Peer) (messages : List (Message File)) (ids : List Int) : List (Message File) :=
  messages.filter fun message => decide (message.id ∉ ids ∨ message.id ∈ remote.kept)

omit [DecidableEq Peer] in
theorem left_eq_without {messages : List (Message File)} :
    left remote messages ids = without messages ids ↔
      forall message, message ∈ messages -> message.id ∈ ids -> message.id ∉ remote.kept := by
  unfold left without
  rw [filter_eq_filter]
  constructor
  · intro same message member named kept
    have agree := same message member
    rw [decide_eq_true (Or.inr kept), eq_comm, decide_eq_true_eq] at agree
    exact agree named
  · intro gone message member
    rw [decide_eq_decide]
    constructor
    · rintro (other | kept)
      · exact other
      · exact fun named => gone message member named kept
    · exact Or.inl

omit [DecidableEq Peer] in
theorem left_eq_self {messages : List (Message File)} :
    left remote messages ids = messages ↔
      forall message, message ∈ messages -> message.id ∈ ids -> message.id ∈ remote.kept := by
  unfold left
  rw [List.filter_eq_self]
  constructor
  · intro all message member named
    rcases of_decide_eq_true (all message member) with other | kept
    · exact (other named).elim
    · exact kept
  · intro kept message member
    by_cases named : message.id ∈ ids
    · exact decide_eq_true (Or.inr (kept message member named))
    · exact decide_eq_true (Or.inl named)

theorem deleteMessages_apply (chats : Chats Peer File) (other : Peer) : deleteMessages remote peer ids chats other =
    if remote.searches peer other then left remote (chats other) ids else chats other := rfl

theorem deleteMessages_eq_self : deleteMessages remote peer ids before = before ↔
    forall other, remote.searches peer other = true -> forall message, message ∈ before other ->
      message.id ∈ ids -> message.id ∈ remote.kept := by
  constructor
  · intro same other searched
    have here := congrFun same other
    rw [deleteMessages_apply, if_pos searched] at here
    exact left_eq_self.mp here
  · intro kept
    funext other
    rw [deleteMessages_apply]
    split
    next searched => exact left_eq_self.mpr (kept other searched)
    · rfl

theorem deleted_iff : Deleted before (deleteMessages remote peer ids before) peer ids ↔
    DeletesExactly remote before peer ids := by
  unfold Deleted DeletesExactly
  constructor
  · intro exact_
    constructor
    · have here := exact_ peer
      rw [deleteMessages_apply, if_pos (searches_self peer), if_pos rfl] at here
      exact left_eq_without.mp here
    · intro other different searched
      have there := exact_ other
      rw [deleteMessages_apply, if_pos searched, if_neg different] at there
      exact left_eq_self.mp there
  · rintro ⟨gone, kept⟩ other
    rw [deleteMessages_apply]
    by_cases same : other = peer
    · rw [if_pos same, same, if_pos (searches_self peer)]
      exact left_eq_without.mpr gone
    · rw [if_neg same]
      split
      next searched => exact left_eq_self.mpr (kept other same searched)
      · rfl

end Deletions

/-! ## Copies -/

section Copies

variable {Peer File : Type} {remote : Remote Peer} {messages : List (Message File)}

theorem verify_ok {ids : List Int} {forwarded : List (Option Int)} :
    verifyForwardedMessages ids forwarded = .ok () ↔ forwarded.length = ids.length ∧ none ∉ forwarded := by
  have some : forwarded.any Option.isNone = true ↔ none ∈ forwarded := by
    rw [List.any_eq_true]
    constructor
    · rintro ⟨copy, member, missing⟩
      rw [Option.isNone_iff_eq_none] at missing
      exact missing ▸ member
    · intro member
      exact ⟨none, member, rfl⟩
  unfold verifyForwardedMessages
  split
  next incomplete =>
    rw [some] at incomplete
    constructor
    · intro done
      cases done
    · rintro ⟨length, all⟩
      rcases incomplete with different | missing
      · exact (different length).elim
      · exact (all missing).elim
  next complete =>
    rw [not_or, not_not, some] at complete
    exact ⟨fun _ => complete, fun _ => rfl⟩

theorem mem_copiesMade {ids : List Int} {copy : Message File} : copy ∈ copiesMade remote messages ids ↔
    Exists fun id => (id, some copy.id) ∈ ids.zip remote.copies ∧ fileOf messages id = some copy.file := by
  unfold copiesMade fileOf
  rw [List.mem_filterMap]
  constructor
  · rintro ⟨⟨id, new⟩, member, made⟩
    rcases Option.bind_eq_some_iff.mp made with ⟨newId, rfl, found⟩
    rcases Option.map_eq_some_iff.mp found with ⟨message, there, rfl⟩
    exact ⟨id, member, by rw [there]; rfl⟩
  · rintro ⟨id, member, found⟩
    rcases Option.map_eq_some_iff.mp found with ⟨message, there, same⟩
    refine ⟨_, member, ?_⟩
    show (find? messages id).map _ = _
    rw [there, Option.map_some, same]

theorem copiesMade_files {ids : List Int} (there : forall id, id ∈ ids -> find? messages id ≠ none)
    (length : remote.copies.length = ids.length) (all : none ∉ remote.copies) :
    (copiesMade remote messages ids).map (fun copy => some copy.file) = ids.map (fileOf messages) := by
  unfold copiesMade
  revert length all
  generalize remote.copies = copies
  induction ids generalizing copies with
  | nil =>
    intro _ _
    rw [List.zip_nil_left]
    rfl
  | cons id ids ih =>
    intro length all
    cases copies with
    | nil => cases length
    | cons copy copies =>
      rw [List.mem_cons, not_or] at all
      cases copy with
      | none => exact (all.1 rfl).elim
      | some newId =>
        cases found : find? messages id with
        | none => exact (there id List.mem_cons_self found).elim
        | some message =>
          have others := ih (fun other member => there other (List.mem_cons_of_mem _ member))
            copies (Nat.succ_inj.mp length) all.2
          simp only [List.zip_cons_cons, List.filterMap_cons, Option.bind_some, found, Option.map_some,
            List.map_cons]
          rw [others]
          unfold fileOf
          rw [found]
          rfl

/-- Without a copy of any message, the answer is not complete. -/
theorem copiesMade_nil {ids : List Int} (some : ids ≠ [])
    (there : forall id, id ∈ ids -> find? messages id ≠ none) (nothing : copiesMade remote messages ids = []) :
    ¬ (remote.copies.length = ids.length ∧ none ∉ remote.copies) := by
  rintro ⟨length, all⟩
  have files := copiesMade_files there length all
  rw [nothing] at files
  exact some (List.map_eq_nil_iff.mp files.symm)

theorem zip_filterMap {ids : List Int} {copies : List (Option Int)} (all : none ∉ copies) {id newId : Int}
    (member : (id, newId) ∈ ids.zip (copies.filterMap fun copy => copy)) : (id, some newId) ∈ ids.zip copies := by
  induction copies generalizing ids with
  | nil => cases ids <;> cases member
  | cons copy copies ih =>
    rw [List.mem_cons, not_or] at all
    cases copy with
    | none => exact (all.1 rfl).elim
    | some first =>
      cases ids with
      | nil => cases member
      | cons one ids =>
        change (id, newId) ∈ (one, first) :: ids.zip (copies.filterMap fun copy => copy) at member
        rw [List.zip_cons_cons]
        rcases List.mem_cons.mp member with same | later
        · cases same
          exact List.mem_cons_self
        · exact List.mem_cons_of_mem _ (ih all.2 later)

end Copies

end RestApi
end TelegramDrive
