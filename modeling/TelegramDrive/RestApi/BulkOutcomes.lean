import TelegramDrive.RestApi.BulkExact

namespace TelegramDrive
namespace RestApi

/-!
# Which bulk requests are exact

The plan of a request decides what is left to show.  A deletion is exact when it finds only
messages of its chat.  A move is exact when every file was copied once and every original
went; the new copies are never taken for originals, because their ids are new.
-/

/-! ## Moves -/

section Moves

variable {Peer File : Type} [DecidableEq Peer] {remote : Remote Peer} {request : BulkRequest}
  {before after : Chats Peer File} {source target : Peer} {ids : List Int}

theorem exists_of_find? {messages : List (Message File)} {id : Int} (there : find? messages id ≠ none) :
    Exists fun message => message ∈ messages ∧ message.id = id := by
  rcases Option.ne_none_iff_exists'.mp there with ⟨message, found⟩
  exact ⟨message, List.mem_of_find?_eq_some found, of_decide_eq_true (List.find?_some (p := fun message : Message File => decide (message.id = id)) found)⟩

theorem forwardMessages_apply (other : Peer) : forwardMessages remote target ids source before other =
    before other ++ if other = target then copiesMade remote (before source) ids else [] := by
  unfold forwardMessages
  split
  · rfl
  · rw [List.append_nil]

theorem copy_fresh (numbered : Numbered remote request before)
    (toTarget : remote.resolvePeer request.targetFolder = .ok target) {messages : List (Message File)}
    {copy message : Message File} (made : copy ∈ copiesMade remote messages ids) {other : Peer}
    (searched : remote.searches target other = true) (member : message ∈ before other) : message.id ≠ copy.id := by
  rcases mem_copiesMade.mp made with ⟨id, paired, -⟩
  exact numbered.fresh target toTarget copy.id (List.of_mem_zip paired).2 other searched message member

omit [DecidableEq Peer] in
theorem left_append (one two : List (Message File)) :
    left remote (one ++ two) ids = left remote one ids ++ left remote two ids := List.filter_append ..

/-- A deletion after the copies were made takes messages of the source only. -/
theorem move_delete (numbered : Numbered remote request before)
    (there : forall id, id ∈ ids -> find? (before source) id ≠ none)
    (toTarget : remote.resolvePeer request.targetFolder = .ok target) (other : Peer) :
    deleteMessages remote source ids (forwardMessages remote target ids source before) other =
      (if other = source then left remote (before other) ids else before other) ++
        if other = target then copiesMade remote (before source) ids else [] := by
  rw [deleteMessages_apply, forwardMessages_apply]
  by_cases searched : remote.searches source other = true
  · have originals : left remote (before other) ids =
        if other = source then left remote (before other) ids else before other := by
      split
      · rfl
      next different =>
        rcases searches_private searched different with ⟨here, elsewhere⟩
        apply left_eq_self.mpr
        intro message member named
        rcases exists_of_find? (there message.id named) with ⟨original, found, same⟩
        exact (numbered.apart source other here elsewhere (Ne.symm different) original found message member same).elim
    have copies : left remote (if other = target then copiesMade remote (before source) ids else []) ids =
        if other = target then copiesMade remote (before source) ids else [] := by
      split
      next same =>
        subst same
        apply left_eq_self.mpr
        intro copy made named
        rcases exists_of_find? (there copy.id named) with ⟨original, found, same⟩
        exact (copy_fresh numbered toTarget made (searches_symm searched) found same).elim
      · rfl
    rw [if_pos searched, left_append, copies, ← originals]
  · have different : other ≠ source := by
      rintro rfl
      exact searched (searches_self other)
    rw [if_neg searched, if_neg different]

/-- No named message is left in the source of a move. -/
theorem Moved.gone (moved : Moved before after source target ids) {message : Message File}
    (member : message ∈ after source) : message.id ∉ ids := by
  rcases moved with ⟨copies, -, apart, layout⟩
  rw [layout source, if_pos rfl, List.mem_append] at member
  rcases member with original | copied
  · exact of_decide_eq_true (List.mem_filter.mp original).2
  · split at copied
    next same => exact apart same message copied
    · cases copied

theorem moved_iff (numbered : Numbered remote request before)
    (there : forall id, id ∈ ids -> find? (before source) id ≠ none)
    (toTarget : remote.resolvePeer request.targetFolder = .ok target) (length : remote.copies.length = ids.length)
    (all : none ∉ remote.copies) :
    Moved before (deleteMessages remote source ids (forwardMessages remote target ids source before)) source target
        ids ↔
      ids.Nodup ∧ forall id, id ∈ ids -> id ∉ remote.kept := by
  have files := copiesMade_files there length all
  constructor
  · intro moved
    have gone : forall id, id ∈ ids -> id ∉ remote.kept := by
      intro id named kept
      rcases exists_of_find? (there id named) with ⟨message, found, rfl⟩
      have stays : message ∈ deleteMessages remote source ids (forwardMessages remote target ids source before)
          source := by
        rw [move_delete numbered there toTarget, if_pos rfl, List.mem_append]
        exact Or.inl (List.mem_filter.mpr ⟨found, decide_eq_true (Or.inr kept)⟩)
      exact moved.gone stays named
    refine ⟨?_, gone⟩
    rcases moved with ⟨copies, counted, -, layout⟩
    have same := layout target
    have cleared : left remote (before source) ids = without (before source) ids :=
      left_eq_without.mpr fun message _ named => gone message.id named
    have equal : copiesMade remote (before source) ids = copies := by
      rw [move_delete numbered there toTarget, if_pos rfl, if_pos rfl] at same
      by_cases one : target = source
      · subst one
        rw [if_pos rfl, if_pos rfl, cleared] at same
        exact List.append_cancel_left same
      · rw [if_neg one, if_neg one] at same
        exact List.append_cancel_left same
    have counts := counted.length_eq
    rw [← equal, files, List.length_map, List.length_map] at counts
    exact List.dedup_eq_self.mp ((List.dedup_sublist ids).eq_of_length counts.symm)
  · rintro ⟨distinct, gone⟩
    refine ⟨copiesMade remote (before source) ids, ?_, ?_, ?_⟩
    · rw [files, distinct.dedup]
    · rintro rfl copy made named
      rcases exists_of_find? (there copy.id named) with ⟨original, found, same⟩
      exact copy_fresh numbered toTarget made (searches_self source) found same
    · intro other
      rw [move_delete numbered there toTarget]
      by_cases one : other = source
      · subst one
        rw [if_pos rfl, if_pos rfl, left_eq_without.mpr fun message _ named => gone message.id named]
      · rw [if_neg one, if_neg one]

end Moves

/-! ## Responses -/

section Responses

variable {Peer File : Type} {remote : Remote Peer} {request : BulkRequest}
  {before : Chats Peer File} {ids : List Int}

theorem accountResponse_error {outcome : Outcome Peer File} (error : outcome.response.isError = true) :
    (accountResponse remote outcome).response.isError = true := by
  unfold accountResponse
  dsimp only
  split
  · exact error
  · rfl

theorem accountResponse_ok {outcome : Outcome Peer File} :
    (accountResponse remote outcome).response.isError = false ↔
      remote.account .answered = true ∧ outcome.response.isError = false := by
  unfold accountResponse
  dsimp only
  split
  next same => exact ⟨fun ok => ⟨same, ok⟩, And.right⟩
  next changed =>
    constructor
    · intro ok
      cases ok
    · rintro ⟨same, -⟩
      exact (changed same).elim

variable {response : Response}

theorem refuseEncrypted_error {folder : Option Int}
    (refused : refuseEncrypted remote before folder ids = .error response) : response.isError = true := by
  induction ids with
  | nil => cases refused
  | cons first ids ih =>
    rw [refuseEncrypted] at refused
    split at refused
    · exact ih refused
    · cases refused
      rfl
    · cases refused
      rfl

theorem resolve_error {folder : Option Int} (refused : resolve remote folder = .error response) :
    response.isError = true := by
  unfold resolve at refused
  split at refused
  · cases refused
  · cases refused
    rfl

theorem apiScope_error {moment : Moment} (refused : apiScope remote moment = .error response) :
    response.isError = true := by
  unfold apiScope at refused
  split at refused
  · cases refused
  · cases refused
    rfl

theorem plan_error {source target : Option Int}
    (refused : plan remote request ids source target = .error response) : response.isError = true := by
  unfold plan at refused
  split at refused
  · rcases Results.bind_error refused with early | ⟨peer, -, rest⟩
    · exact resolve_error early
    · rcases Results.bind_error rest with early | ⟨_, -, done⟩
      · exact apiScope_error early
      · cases done
  · split at refused
    · rcases Results.bind_error refused with early | ⟨sourcePeer, -, rest⟩
      · exact resolve_error early
      · rcases Results.bind_error rest with early | ⟨targetPeer, -, rest⟩
        · exact resolve_error early
        · split at rest
          · cases rest
          · rcases Results.bind_error rest with early | ⟨_, -, done⟩
            · exact apiScope_error early
            · cases done
    · split at refused
      · rcases Results.bind_error refused with early | ⟨peer, -, done⟩
        · exact resolve_error early
        · cases done
      · cases refused
        rfl

theorem prepare_error (refused : prepare remote request before = .error response) :
    response.isError = true := by
  unfold prepare at refused
  split at refused
  · cases refused
    rfl
  · split at refused
    · cases refused
      rfl
    · rcases Results.bind_error refused with early | ⟨_, -, rest⟩
      · split at early
        · exact refuseEncrypted_error early
        · cases early
      · rcases Results.bind_error rest with early | ⟨chosen, -, done⟩
        · exact plan_error early
        · cases done

variable [DecidableEq Peer]

theorem Rejected.exact {outcome : Outcome Peer File} (rejected : Rejected before outcome) :
    Exact remote request before outcome := by
  constructor
  · exact Or.inl rejected
  · exact fun _ => rejected
  · intro _ peer message member gone
    rw [rejected.chats] at gone
    exact (gone member).elim
  · intro change recorded
    rw [rejected.recorded] at recorded
    cases recorded

end Responses

/-! ## Plans -/

section Plans

variable {Peer File : Type} [DecidableEq Peer] {remote : Remote Peer} {request : BulkRequest}
  {before : Chats Peer File} {ids : List Int}

theorem sourceFolder_denoted {folder : Option Int} (denoted : denotedFolder request.folderId = some folder) :
    request.sourceFolder = folder := folderOf_denoted denoted

theorem targetFolder_denoted {folder : Option Int} (denoted : denotedFolder request.payloadFolder = some folder) :
    request.targetFolder = folder := folderOf_denoted denoted

theorem denoted_sourceFolder (there : denotedFolder request.folderId ≠ none) :
    denotedFolder request.folderId = some request.sourceFolder := by
  rcases Option.ne_none_iff_exists'.mp there with ⟨folder, denoted⟩
  rw [denoted, sourceFolder_denoted denoted]

theorem denoted_targetFolder (there : denotedFolder request.payloadFolder ≠ none) :
    denotedFolder request.payloadFolder = some request.targetFolder := by
  rcases Option.ne_none_iff_exists'.mp there with ⟨folder, denoted⟩
  rw [denoted, targetFolder_denoted denoted]

/-- A request that is not refused does what its fields say, if it is exact. -/
theorem Exact.carried_out {outcome : Outcome Peer File} (exactly : Exact remote request before outcome)
    (changed : ¬ Rejected before outcome) :
    Carried remote request before outcome.chats ∧ denotedFolder request.folderId ≠ none ∧
      denotedFolder request.payloadFolder ≠ none := by
  refine ⟨exactly.carried.resolve_left changed, ?_, ?_⟩
  · intro missing
    exact changed (exactly.folders (Or.inl missing))
  · intro missing
    exact changed (exactly.folders (Or.inr missing))

omit [DecidableEq Peer] in
theorem recordChanges_chats (chats : Chats Peer File) (changes : List Workspace.Change) :
    (recordChanges remote ids chats changes).chats = chats ∧
      (recordChanges remote ids chats changes).recorded = changes := by
  unfold recordChanges
  split <;> exact ⟨rfl, rfl⟩

theorem deleteFiles_chats (folder : Option Int) (peer : Peer) :
    (deleteFiles remote ids folder peer before).chats = deleteMessages remote peer ids before := by
  unfold deleteFiles
  dsimp only
  split
  · rfl
  · exact (recordChanges_chats _ _).1

theorem deleteFiles_recorded {folder : Option Int} {peer : Peer} {change : Workspace.Change}
    (recorded : change ∈ (deleteFiles remote ids folder peer before).recorded) :
    Exists fun message => change = .delete folder message := by
  unfold deleteFiles at recorded
  dsimp only at recorded
  split at recorded
  · cases recorded
  · rw [(recordChanges_chats _ _).2, List.mem_map] at recorded
    rcases recorded with ⟨message, -, same⟩
    exact ⟨message, same.symm⟩

/-- A deletion is as good as refused when it is refused and finds nothing. -/
theorem deleteFiles_rejected {folder : Option Int} {peer : Peer} (some : ids ≠ []) :
    Rejected before (accountResponse remote (deleteFiles remote ids folder peer before)) ↔
      ¬ (remote.deleteError = none ∨ Exists fun other => remote.searches peer other = true ∧
        Exists fun message => message ∈ before other ∧ message.id ∈ ids ∧ message.id ∉ remote.kept) := by
  have nothing : deleteMessages remote peer ids before = before ↔
      ¬ Exists fun other => remote.searches peer other = true ∧
        Exists fun message => message ∈ before other ∧ message.id ∈ ids ∧ message.id ∉ remote.kept := by
    rw [deleteMessages_eq_self]
    constructor
    · rintro kept ⟨other, searched, message, member, named, gone⟩
      exact gone (kept other searched message member named)
    · intro none other searched message member named
      by_contra gone
      exact none ⟨other, searched, message, member, named, gone⟩
  rw [not_or, ← nothing]
  constructor
  · intro rejected
    refine ⟨?_, ?_⟩
    · intro accepted
      have recorded := rejected.recorded
      change (deleteFiles remote ids folder peer before).recorded = [] at recorded
      unfold deleteFiles at recorded
      dsimp only at recorded
      rw [accepted] at recorded
      rw [(recordChanges_chats _ _).2] at recorded
      exact some (List.map_eq_nil_iff.mp recorded)
    · exact (deleteFiles_chats folder peer).symm.trans rejected.chats
  · rintro ⟨refused, same⟩
    constructor
    · exact (deleteFiles_chats folder peer).trans same
    · apply List.eq_nil_iff_forall_not_mem.mpr
      intro change recorded
      change change ∈ (deleteFiles remote ids folder peer before).recorded at recorded
      unfold deleteFiles at recorded
      dsimp only at recorded
      split at recorded
      · cases recorded
      next accepted => exact refused accepted
    · apply accountResponse_error
      unfold deleteFiles
      dsimp only
      split
      · rfl
      next accepted => exact (refused accepted).elim

theorem delete_exact {peer : Peer} (action : request.action = "delete")
    (parsed : parseBulkFileIds request.fileIds = .ok ids)
    (resolved : remote.resolvePeer request.sourceFolder = .ok peer)
    (prepared : prepare remote request before = .ok (ids, .delete request.sourceFolder peer)) :
    Exact remote request before (bulkFiles remote request before) ↔
      (Starts remote request before -> Sensible remote request before) := by
  have result : bulkFiles remote request before =
      accountResponse remote (deleteFiles remote ids request.sourceFolder peer before) := by
    unfold bulkFiles
    rw [prepared]
  have rejected : Rejected before (bulkFiles remote request before) ↔ ¬ Starts remote request before := by
    rw [result, deleteFiles_rejected (ids_ne_nil parsed)]
    unfold Starts
    rw [prepared]
  have chats : (bulkFiles remote request before).chats = deleteMessages remote peer ids before := by
    rw [result]
    exact deleteFiles_chats _ _
  constructor
  · intro exactly starts
    rcases exactly.carried_out (fun refused => rejected.mp refused starts) with ⟨carried, folder, payload⟩
    rcases carried with ⟨ids', parsed', deleted, -, -⟩
    cases parsed.symm.trans parsed'
    rcases deleted action with ⟨folder', peer', denoted, resolved', gone⟩
    rw [← sourceFolder_denoted denoted] at resolved'
    cases resolved.symm.trans resolved'
    rw [chats] at gone
    constructor
    · exact folder
    · exact payload
    · intro _ ids' peer' parsed' resolved'
      cases parsed.symm.trans parsed'
      cases resolved.symm.trans resolved'
      exact deleted_iff.mp gone
    · intro moving
      rw [action] at moving
      exact absurd moving (by decide)
  · intro sensible
    by_cases starts : Starts remote request before
    · have good := sensible starts
      constructor
      · refine Or.inr ⟨ids, parsed, ?_, ?_, ?_⟩
        · intro _
          refine ⟨request.sourceFolder, peer, denoted_sourceFolder good.folder, resolved, ?_⟩
          rw [chats]
          exact deleted_iff.mpr (good.delete action ids peer parsed resolved)
        · intro moving
          rw [action] at moving
          exact absurd moving (by decide)
        · exact fun other => (other action).elim
      · rintro (missing | missing)
        · exact (good.folder missing).elim
        · exact (good.payload missing).elim
      · intro moving
        rw [action] at moving
        exact absurd moving (by decide)
      · intro change recorded
        rw [result] at recorded
        rcases deleteFiles_recorded recorded with ⟨message, rfl⟩
        trivial
    · exact (rejected.mpr starts).exact

end Plans

/-! ## Complete moves -/

section CompleteMoves

variable {Peer File : Type} [DecidableEq Peer] {remote : Remote Peer} {request : BulkRequest}
  {before : Chats Peer File} {ids : List Int} {source target : Peer}

/-- Everything that stands between the copies and the deletion of the originals. -/
def Complete (remote : Remote Peer) (ids : List Int) : Prop :=
  remote.forwardError = none ∧ remote.account .beforeDeletion = true ∧ remote.copies.length = ids.length ∧
    none ∉ remote.copies

theorem moveFiles_complete (complete : Complete remote ids) (from_ to_ : Option Int) :
    (moveFiles remote ids from_ to_ source target before).chats =
        deleteMessages remote source ids (forwardMessages remote target ids source before) ∧
      forall change, change ∈ (moveFiles remote ids from_ to_ source target before).recorded ->
        Exists fun message => Exists fun forwarded =>
          change = .move from_ message to_ forwarded ∧ (message, some forwarded) ∈ ids.zip remote.copies := by
  rcases complete with ⟨accepted, account, length, all⟩
  have scope : apiScope remote .beforeDeletion = .ok () := if_pos account
  unfold moveFiles
  dsimp only
  rw [accepted, verify_ok.mpr ⟨length, all⟩]
  dsimp only
  rw [scope]
  dsimp only
  split
  · refine ⟨rfl, ?_⟩
    intro change recorded
    cases recorded
  · refine ⟨(recordChanges_chats _ _).1, ?_⟩
    intro change recorded
    rw [(recordChanges_chats _ _).2, List.mem_map] at recorded
    rcases recorded with ⟨⟨message, forwarded⟩, paired, same⟩
    exact ⟨message, forwarded, same.symm, zip_filterMap all paired⟩

/-- A move that stops before the deletion keeps every original and says so. -/
theorem moveFiles_incomplete (incomplete : ¬ Complete remote ids) (from_ to_ : Option Int) :
    (moveFiles remote ids from_ to_ source target before).chats = forwardMessages remote target ids source before ∧
      (moveFiles remote ids from_ to_ source target before).recorded = [] ∧
      (moveFiles remote ids from_ to_ source target before).response.isError = true := by
  unfold moveFiles
  dsimp only
  split
  · exact ⟨rfl, rfl, rfl⟩
  next accepted =>
    split
    · exact ⟨rfl, rfl, rfl⟩
    next verified =>
      split
      next response changed => exact ⟨rfl, rfl, apiScope_error changed⟩
      next same =>
        have account : remote.account .beforeDeletion = true := by
          by_contra changed
          rw [apiScope, if_neg changed] at same
          cases same
        exact (incomplete ⟨accepted, account, verify_ok.mp verified⟩).elim

theorem mem_forwardMessages {peer : Peer} {message : Message File} (member : message ∈ before peer) :
    message ∈ forwardMessages remote target ids source before peer := by
  rw [forwardMessages_apply]
  exact List.mem_append_left _ member

theorem forwardMessages_eq_self : forwardMessages remote target ids source before = before ↔
    copiesMade remote (before source) ids = [] := by
  constructor
  · intro same
    have here := congrFun same target
    rw [forwardMessages_apply, if_pos rfl] at here
    exact List.append_right_eq_self.mp here
  · intro nothing
    funext other
    rw [forwardMessages_apply, nothing, ite_self, List.append_nil]

theorem copy_of_named (numbered : Numbered remote request before)
    (there : forall id, id ∈ ids -> find? (before source) id ≠ none)
    (toTarget : remote.resolvePeer request.targetFolder = .ok target) {copy : Message File}
    (made : copy ∈ copiesMade remote (before source) ids) :
    copy ∈ deleteMessages remote source ids (forwardMessages remote target ids source before) target := by
  rw [move_delete numbered there toTarget, if_pos (rfl : target = target)]
  exact List.mem_append_right _ made

omit [DecidableEq Peer] in
theorem copied_of_named (there : forall id, id ∈ ids -> find? (before source) id ≠ none)
    (length : remote.copies.length = ids.length) (all : none ∉ remote.copies) {id : Int} (named : id ∈ ids) :
    Exists fun copy => copy ∈ copiesMade remote (before source) ids ∧ fileOf (before source) id = some copy.file := by
  have inside : fileOf (before source) id ∈ (copiesMade remote (before source) ids).map fun copy => some copy.file := by
    rw [copiesMade_files there length all]
    exact List.mem_map_of_mem named
  rcases List.mem_map.mp inside with ⟨copy, made, same⟩
  exact ⟨copy, made, same.symm⟩

/-- A move that has come to its first change. -/
structure Moving (remote : Remote Peer) (request : BulkRequest) (before : Chats Peer File) (ids : List Int)
    (source target : Peer) : Prop where
  numbered : Numbered remote request before
  action : request.action = "move"
  parsed : parseBulkFileIds request.fileIds = .ok ids
  there : forall id, id ∈ ids -> find? (before source) id ≠ none
  fromSource : remote.resolvePeer request.sourceFolder = .ok source
  toTarget : remote.resolvePeer request.targetFolder = .ok target
  other : request.sourceFolder ≠ request.targetFolder
  prepared : prepare remote request before =
    .ok (ids, .move request.sourceFolder request.targetFolder source target)

namespace Moving

variable (moving : Moving remote request before ids source target)

include moving

theorem result : bulkFiles remote request before =
    accountResponse remote (moveFiles remote ids request.sourceFolder request.targetFolder source target before) := by
  unfold bulkFiles
  rw [moving.prepared]

theorem starts : Starts remote request before ↔ copiesMade remote (before source) ids ≠ [] := by
  unfold Starts
  rw [moving.prepared]

theorem other_action : request.action ≠ "delete" := by
  rw [moving.action]
  decide

theorem carried {after : Chats Peer File} : Carried remote request before after ↔
    denotedFolder request.folderId ≠ none ∧ denotedFolder request.payloadFolder ≠ none ∧
      Moved before after source target ids := by
  constructor
  · rintro ⟨ids', parsed, -, moved, -⟩
    cases moving.parsed.symm.trans parsed
    rcases moved moving.action with ⟨from_, to_, one, two, folder, payload, fromSource, toTarget, moved⟩
    rw [← sourceFolder_denoted folder] at fromSource
    rw [← targetFolder_denoted payload] at toTarget
    cases moving.fromSource.symm.trans fromSource
    cases moving.toTarget.symm.trans toTarget
    refine ⟨?_, ?_, moved⟩
    · rw [folder]
      exact Option.some_ne_none _
    · rw [payload]
      exact Option.some_ne_none _
  · rintro ⟨folder, payload, moved⟩
    refine ⟨ids, moving.parsed, ?_, ?_, ?_⟩
    · exact fun deleting => (moving.other_action deleting).elim
    · intro _
      exact ⟨_, _, source, target, denoted_sourceFolder folder, denoted_targetFolder payload, moving.fromSource,
        moving.toTarget, moved⟩
    · exact fun _ other => (other moving.action).elim

/-- A request whose ids are known is sensible by its folders and these ids. -/
theorem sensible : Sensible remote request before ↔
    denotedFolder request.folderId ≠ none ∧ denotedFolder request.payloadFolder ≠ none ∧
      Complete remote ids ∧ ids.Nodup ∧ forall id, id ∈ ids -> id ∉ remote.kept := by
  constructor
  · intro good
    rcases good.move moving.action ids moving.parsed with ⟨-, distinct, accepted, account, length, all, gone⟩
    exact ⟨good.folder, good.payload, ⟨accepted, account, length, all⟩, distinct, gone⟩
  · rintro ⟨folder, payload, ⟨accepted, account, length, all⟩, distinct, gone⟩
    constructor
    · exact folder
    · exact payload
    · exact fun deleting => (moving.other_action deleting).elim
    · intro _ ids' parsed
      cases moving.parsed.symm.trans parsed
      exact ⟨moving.other, distinct, accepted, account, length, all, gone⟩

theorem complete_chats (complete : Complete remote ids) : (bulkFiles remote request before).chats =
    deleteMessages remote source ids (forwardMessages remote target ids source before) := by
  rw [moving.result]
  exact (moveFiles_complete complete _ _).1

/-- A complete move copies something, and the copy is new. -/
theorem complete_starts (complete : Complete remote ids) : copiesMade remote (before source) ids ≠ [] := by
  intro nothing
  exact copiesMade_nil (ids_ne_nil moving.parsed) moving.there nothing complete.2.2

theorem complete_changes (complete : Complete remote ids) : ¬ Rejected before (bulkFiles remote request before) := by
  intro rejected
  rcases List.exists_mem_of_ne_nil _ (moving.complete_starts complete) with ⟨copy, made⟩
  have new := copy_of_named moving.numbered moving.there moving.toTarget made
  rw [← moving.complete_chats complete, rejected.chats] at new
  exact copy_fresh moving.numbered moving.toTarget made (searches_self target) new rfl

theorem complete_carried (complete : Complete remote ids) :
    Carried remote request before (bulkFiles remote request before).chats ↔ Sensible remote request before := by
  rw [moving.carried, moving.sensible, moving.complete_chats complete,
    moved_iff moving.numbered moving.there moving.toTarget complete.2.2.1 complete.2.2.2]
  constructor
  · rintro ⟨folder, payload, exactly⟩
    exact ⟨folder, payload, complete, exactly⟩
  · rintro ⟨folder, payload, -, exactly⟩
    exact ⟨folder, payload, exactly⟩

/-- Whatever else happens, a complete move has a copy of every named file. -/
theorem complete_copied (complete : Complete remote ids) {id : Int} (named : id ∈ ids) :
    Exists fun copy => copy ∈ (bulkFiles remote request before).chats target ∧
      fileOf (before source) id = some copy.file := by
  rcases copied_of_named moving.there complete.2.2.1 complete.2.2.2 named with ⟨copy, made, file⟩
  refine ⟨copy, ?_, file⟩
  rw [moving.complete_chats complete]
  exact copy_of_named moving.numbered moving.there moving.toTarget made

theorem complete_recorded (complete : Complete remote ids) {change : Workspace.Change}
    (recorded : change ∈ (bulkFiles remote request before).recorded) :
    Names remote before (bulkFiles remote request before).chats change := by
  rw [moving.result] at recorded
  rcases (moveFiles_complete complete _ _).2 change recorded with ⟨message, forwarded, rfl, paired⟩
  refine ⟨source, target, moving.fromSource, moving.toTarget, ?_⟩
  rcases Option.ne_none_iff_exists'.mp (moving.there message (List.of_mem_zip paired).1) with ⟨original, found⟩
  have made : (⟨forwarded, original.file⟩ : Message File) ∈ copiesMade remote (before source) ids := by
    refine mem_copiesMade.mpr ⟨message, paired, ?_⟩
    unfold fileOf
    rw [found]
    rfl
  refine ⟨⟨forwarded, original.file⟩, ?_, rfl, ?_⟩
  · rw [moving.complete_chats complete]
    exact copy_of_named moving.numbered moving.there moving.toTarget made
  · unfold fileOf
    rw [found]
    rfl

theorem complete_exact (complete : Complete remote ids) :
    Exact remote request before (bulkFiles remote request before) ↔ Sensible remote request before := by
  rw [← moving.complete_carried complete]
  constructor
  · intro exactly
    exact (exactly.carried_out (moving.complete_changes complete)).1
  · intro carried
    have denoted := moving.carried.mp carried
    constructor
    · exact Or.inr carried
    · rintro (missing | missing)
      · exact (denoted.1 missing).elim
      · exact (denoted.2.1 missing).elim
    · intro _ _ _ _ _
      exact ⟨ids, source, target, moving.parsed, moving.fromSource, moving.toTarget,
        fun id named => moving.complete_copied complete named⟩
    · exact fun change recorded => moving.complete_recorded complete recorded

theorem incomplete_stops (incomplete : ¬ Complete remote ids) :
    (bulkFiles remote request before).chats = forwardMessages remote target ids source before ∧
      (bulkFiles remote request before).recorded = [] ∧ (bulkFiles remote request before).response.isError = true := by
  rw [moving.result]
  rcases moveFiles_incomplete incomplete request.sourceFolder request.targetFolder with ⟨chats, recorded, error⟩
  exact ⟨chats, recorded, accountResponse_error error⟩

theorem incomplete_rejected (incomplete : ¬ Complete remote ids) :
    Rejected before (bulkFiles remote request before) ↔ copiesMade remote (before source) ids = [] := by
  rcases moving.incomplete_stops incomplete with ⟨chats, recorded, error⟩
  constructor
  · intro rejected
    exact forwardMessages_eq_self.mp (chats.symm.trans rejected.chats)
  · intro nothing
    constructor
    · exact chats.trans (forwardMessages_eq_self.mpr nothing)
    · exact recorded
    · exact error

/-- The originals of an incomplete move are all in their place. -/
theorem incomplete_carried (incomplete : ¬ Complete remote ids) :
    ¬ Carried remote request before (bulkFiles remote request before).chats := by
  intro carried
  rcases moving.carried.mp carried with ⟨-, -, moved⟩
  rcases List.exists_mem_of_ne_nil _ (ids_ne_nil moving.parsed) with ⟨id, named⟩
  rcases exists_of_find? (moving.there id named) with ⟨message, found, rfl⟩
  rw [(moving.incomplete_stops incomplete).1] at moved
  exact moved.gone (mem_forwardMessages found) named

theorem exact_iff : Exact remote request before (bulkFiles remote request before) ↔
    (Starts remote request before -> Sensible remote request before) := by
  rw [moving.starts]
  by_cases complete : Complete remote ids
  · rw [moving.complete_exact complete]
    exact ⟨fun good _ => good, fun good => good (moving.complete_starts complete)⟩
  · constructor
    · intro exactly made
      rcases exactly.carried with rejected | carried
      · exact (made ((moving.incomplete_rejected complete).mp rejected)).elim
      · exact (moving.incomplete_carried complete carried).elim
    · intro good
      have nothing : copiesMade remote (before source) ids = [] := by
        by_contra made
        exact complete (moving.sensible.mp (good made)).2.2.1
      exact ((moving.incomplete_rejected complete).mpr nothing).exact

end Moving

end CompleteMoves

/-! ## Requests without a change -/

section Answers

variable {Peer File : Type} [DecidableEq Peer] {remote : Remote Peer} {request : BulkRequest}
  {before : Chats Peer File} {ids : List Int}

/-- A move into the folder where the files are is answered as if it were done. -/
theorem stay_exact {source : Peer} (action : request.action = "move")
    (parsed : parseBulkFileIds request.fileIds = .ok ids)
    (there : forall id, id ∈ ids -> find? (before source) id ≠ none)
    (fromSource : remote.resolvePeer request.sourceFolder = .ok source)
    (same : request.sourceFolder = request.targetFolder) {response : Response}
    (prepared : prepare remote request before = .ok (ids, .answer response)) :
    Exact remote request before (bulkFiles remote request before) ↔
      (Starts remote request before -> Sensible remote request before) := by
  have result : bulkFiles remote request before = accountResponse remote ⟨response, before, []⟩ := by
    unfold bulkFiles
    rw [prepared]
  have starts : Starts remote request before ↔ (accountResponse remote
      (⟨response, before, []⟩ : Outcome Peer File)).response.isError = false := by
    rw [accountResponse_ok]
    unfold Starts
    rw [prepared]
  rw [starts, result]
  constructor
  · intro exactly success
    rcases exactly.carried with rejected | carried
    · exact absurd (success.symm.trans rejected.error) (by decide)
    · rcases carried with ⟨ids', parsed', -, moved, -⟩
      cases parsed.symm.trans parsed'
      rcases moved action with ⟨from_, to_, one, two, folder, payload, fromSource', toTarget, moved⟩
      rw [← sourceFolder_denoted folder] at fromSource'
      cases fromSource.symm.trans fromSource'
      rcases List.exists_mem_of_ne_nil _ (ids_ne_nil parsed) with ⟨id, named⟩
      rcases exists_of_find? (there id named) with ⟨message, found, rfl⟩
      exact (moved.gone found named).elim
  · intro good
    have failed : (accountResponse remote (⟨response, before, []⟩ : Outcome Peer File)).response.isError = true := by
      by_contra success
      rw [Bool.not_eq_true] at success
      exact ((good success).move action ids parsed).1 same
    exact Rejected.exact ⟨rfl, rfl, failed⟩

theorem archive_exact (action : request.action = "archive") (parsed : parseBulkFileIds request.fileIds = .ok ids)
    {response : Response} (prepared : prepare remote request before = .ok (ids, .answer response)) :
    Exact remote request before (bulkFiles remote request before) ↔
      (Starts remote request before -> Sensible remote request before) := by
  have result : bulkFiles remote request before = accountResponse remote ⟨response, before, []⟩ := by
    unfold bulkFiles
    rw [prepared]
  have starts : Starts remote request before ↔ (accountResponse remote
      (⟨response, before, []⟩ : Outcome Peer File)).response.isError = false := by
    rw [accountResponse_ok]
    unfold Starts
    rw [prepared]
  have deleting : request.action ≠ "delete" := by
    rw [action]
    decide
  have moving : request.action ≠ "move" := by
    rw [action]
    decide
  rw [starts, result]
  constructor
  · intro exactly success
    have changed : ¬ Rejected before (accountResponse remote (⟨response, before, []⟩ : Outcome Peer File)) := by
      intro rejected
      exact absurd (success.symm.trans rejected.error) (by decide)
    rcases exactly.carried_out changed with ⟨-, folder, payload⟩
    constructor
    · exact folder
    · exact payload
    · exact fun deleted => (deleting deleted).elim
    · exact fun moved => (moving moved).elim
  · intro good
    cases response_ : (accountResponse remote (⟨response, before, []⟩ : Outcome Peer File)).response.isError with
    | true => exact Rejected.exact ⟨rfl, rfl, response_⟩
    | false =>
      have denoted := good response_
      constructor
      · refine Or.inr ⟨ids, parsed, ?_, ?_, ?_⟩
        · exact fun deleted => (deleting deleted).elim
        · exact fun moved => (moving moved).elim
        · exact fun _ _ => rfl
      · rintro (missing | missing)
        · exact (denoted.folder missing).elim
        · exact (denoted.payload missing).elim
      · exact fun moved => (moving moved).elim
      · intro change recorded
        cases recorded

end Answers

/-! ## The result -/

section Result

variable {Peer File : Type} [DecidableEq Peer]

/-- A bulk request is exact unless it comes to its first change with a folder field that denotes
no folder, finds other messages than its own, or moves repeated files, files that stay in their
folder, or files that are copied or deleted only in part. -/
theorem bulk_requests_are_exact (remote : Remote Peer) (request : BulkRequest) (before : Chats Peer File)
    (numbered : Numbered remote request before) :
    Exact remote request before (bulkFiles remote request before) ↔
      (Starts remote request before -> Sensible remote request before) := by
  cases prepared : prepare remote request before with
  | error response =>
    have result : bulkFiles remote request before = accountResponse remote ⟨response, before, []⟩ := by
      unfold bulkFiles
      rw [prepared]
    have refused : ¬ Starts remote request before := by
      unfold Starts
      rw [prepared]
      exact id
    have rejected : Rejected before (bulkFiles remote request before) := by
      rw [result]
      constructor
      · rfl
      · rfl
      · exact accountResponse_error (prepare_error prepared)
    exact ⟨fun _ starts => (refused starts).elim, fun _ => rejected.exact⟩
  | ok chosen =>
    rcases chosen with ⟨ids, chosen⟩
    rcases prepare_ok prepared with ⟨parsed, planned⟩
    cases planned with
    | delete action resolved => exact delete_exact action parsed resolved prepared
    | move action there fromSource toTarget other =>
      exact Moving.exact_iff ⟨numbered, action, parsed, there, fromSource, toTarget, other, prepared⟩
    | stay action there fromSource same => exact stay_exact action parsed there fromSource same prepared
    | archive action => exact archive_exact action parsed prepared

/-- Telegram with Saved Messages and channels, all of whose calls are carried out. -/
def willingRemote (copies : List (Option Int)) : Remote (Option Int) where
  refusal := none
  account _ := true
  isChannel := Option.isSome
  resolvePeer := .ok
  inspect _ _ := .ok false
  copies := copies
  forwardError := none
  kept := []
  deleteError := none
  recordError := none
  archive _ _ := .archive

def someChats : Chats (Option Int) String
  | none => [⟨1, "ticket"⟩]
  | some 10 => [⟨1, "report"⟩, ⟨2, "invoice"⟩, ⟨3, "photo"⟩]
  | some 20 => [⟨7, "letter"⟩]
  | some _ => []

theorem only_one_private (copies : List (Option Int)) (one other : Option Int)
    (private_ : (willingRemote copies).isChannel one = false)
    (private' : (willingRemote copies).isChannel other = false) (different : one ≠ other) (message : Message String)
    (_ : message ∈ someChats one) (next : Message String) (_ : next ∈ someChats other) : message.id ≠ next.id := by
  have first : one = none := Option.isNone_iff_eq_none.mp (Option.isSome_eq_false_iff.mp private_)
  have second : other = none := Option.isNone_iff_eq_none.mp (Option.isSome_eq_false_iff.mp private')
  exact (different (first.trans second.symm)).elim

/-- A move of two files between channels. -/
def someMove : BulkRequest := ⟨"move", [.integer 1, .integer 3], some (.integer 10), some ⟨some (.integer 20)⟩⟩

theorem bulk_requests_are_exact_here :
    Exact (willingRemote [some 8, some 9]) someMove someChats
      (bulkFiles (willingRemote [some 8, some 9]) someMove someChats) := by
  have target : someMove.targetFolder = some 20 := by decide
  have apart := only_one_private [some 8, some 9]
  refine (bulk_requests_are_exact _ someMove someChats ⟨apart, ?_⟩).mpr fun _ => ?_
  · intro peer resolved new copied other searched message member
    cases resolved
    have same : other = some 20 := by
      by_contra different
      rw [target] at searched
      exact absurd (searches_private searched different).1 (by decide)
    rw [same] at member
    rw [List.mem_singleton.mp member]
    rcases List.mem_pair.mp copied with first | second
    · cases first
      decide
    · cases second
      decide
  · constructor
    · decide
    · decide
    · exact fun deleting => absurd deleting (by decide)
    · intro _ ids parsed
      have named : ids = [1, 3] := (Except.ok.inj parsed).symm
      subst named
      refine ⟨?_, ?_, rfl, rfl, rfl, ?_, ?_⟩
      · decide
      · decide
      · decide
      · exact fun id _ => List.not_mem_nil

/-- A deletion in a folder that is no number finds its messages in Saved Messages. -/
def someDeletion : BulkRequest := ⟨"delete", [.integer 1], some (.bool true), none⟩

theorem unread_folder_is_saved_messages :
    Numbered (willingRemote []) someDeletion someChats ∧
      ¬ Exact (willingRemote []) someDeletion someChats (bulkFiles (willingRemote []) someDeletion someChats) := by
  constructor
  · refine ⟨only_one_private [], ?_⟩
    intro target resolved new copied
    cases copied
  · intro exactly
    have rejected := exactly.folders (Or.inl rfl)
    have untouched := congrFun rejected.chats none
    exact absurd untouched (by decide)

end Result

end RestApi
end TelegramDrive
