import TelegramDrive.SyncEngine.Mapping

namespace TelegramDrive
namespace SyncEngine

/-!
# Superseded uploads

A new version of a file is published as a new message, and the message it
supersedes is deleted afterwards.  Until then the channel has two messages at
one path, which the remote scan refuses; so the pair must be in the persisted
list of pending cleanups whenever a cycle stops.

The id of the new message is journaled while the operation is carried out, but
the pair only after the last operation of the cycle, and only for results
marked successful.  `replacementsFinish` lists the steps that lose a message
this way.  Without them the invariant ties every message the application
uploaded to the row of its path, or to an entry of the list of what it
superseded, and every superseded message that still exists to the pending list.
-/

/-! ## Messages of the application -/

/-- A message with this id exists. -/
def Mapping.Present (mapping : Mapping) (messageId : Int) : Prop :=
  Exists fun file => file ∈ mapping.messages ∧ file.2.messageId = some messageId

instance (mapping : Mapping) (messageId : Int) : Decidable (mapping.Present messageId) :=
  inferInstanceAs (Decidable (Exists fun file => file ∈ mapping.messages ∧ _))

/-- A message at the path was uploaded by the application and moved by nobody. -/
structure Mapping.Owns (mapping : Mapping) (path : String) (messageId : Int) : Prop where
  listed : Exists fun entry => (path, entry) ∈ mapping.messages ∧ entry.messageId = some messageId
  uploaded : messageId ∈ mapping.history.uploaded
  unmoved : messageId ∉ mapping.history.moved

/-- The row, if there is one, has this message. -/
def RefersTo (messageId : Int) (row : Option SyncedEntry) : Prop :=
  row.bind (·.messageId) = some messageId

instance (messageId : Int) (row : Option SyncedEntry) : Decidable (RefersTo messageId row) :=
  inferInstanceAs (Decidable (_ = _))

theorem cleanupAction_alreadyGone {oldExists newExists oldUnchanged : Bool}
    (action : cleanupAction oldExists newExists oldUnchanged = .alreadyGone) : oldExists = false := by
  cases oldExists with
  | false => rfl
  | true => cases newExists <;> cases oldUnchanged <;> cases action

theorem actionFor_alreadyGone {mapping : Mapping} {item : PendingCleanup}
    (action : mapping.actionFor item = .alreadyGone) : ¬mapping.Present item.oldMessageId := by
  rintro ⟨file, member, given⟩
  have found : (mapping.findMessage (some item.oldMessageId)).isSome = true :=
    List.find?_isSome.mpr ⟨file, member, decide_eq_true given⟩
  rw [cleanupAction_alreadyGone action] at found
  cases found

theorem withdraw_absent (mapping : Mapping) (messageId : Int) :
    ¬(mapping.withdraw messageId).Present messageId := by
  rintro ⟨file, member, given⟩
  have other := (List.mem_filter.mp member).2
  exact of_decide_eq_true other given

/-! ## What the steps make of them -/

section Ownership

variable {messageOf : String -> Option Int} {mapping : Mapping} {path : String} {messageId : Int}

theorem withdraw_owns {withdrawn : Int} (owns : (mapping.withdraw withdrawn).Owns path messageId) :
    mapping.Owns path messageId ∧ messageId ≠ withdrawn := by
  rcases owns.listed with ⟨entry, member, given⟩
  rcases List.mem_filter.mp member with ⟨listed, other⟩
  refine ⟨⟨⟨entry, listed, given⟩, owns.uploaded, owns.unmoved⟩, ?_⟩
  rintro rfl
  exact of_decide_eq_true other given

theorem edit_owns {edited : String} {entry : TreeEntry}
    (owns : (mapping.edit edited entry).Owns path messageId) : mapping.Owns path messageId := by
  rcases owns.listed with ⟨found, member, given⟩
  have unmoved : messageId ∉ mapping.history.moved := fun before =>
    owns.unmoved (List.mem_append_right _ before)
  refine ⟨?_, owns.uploaded, unmoved⟩
  rcases List.mem_map.mp member with ⟨file, listed, changed⟩
  split at changed
  next same =>
    cases changed
    by_cases here : file.1 = path
    · exact ⟨file.2, here ▸ listed, same.trans given⟩
    · refine absurd (List.mem_append_left _ ?_) owns.unmoved
      refine List.mem_filterMap.mpr ⟨file, List.mem_filter.mpr ⟨listed, ?_⟩, same.trans given⟩
      exact decide_eq_true ⟨same, here⟩
  · exact ⟨found, changed ▸ listed, given⟩

theorem post_owns {appeared : String} {entry : TreeEntry}
    (uploaded : forall id, id ∈ mapping.history.uploaded -> id ≤ mapping.lastMessageId)
    (admitted : mapping.Admits messageOf entry)
    (owns : (mapping.post appeared entry).Owns path messageId) : mapping.Owns path messageId := by
  rcases owns.listed with ⟨found, member, given⟩
  refine ⟨?_, owns.uploaded, owns.unmoved⟩
  rcases List.mem_append.mp member with old | new
  · exact ⟨found, old, given⟩
  · have later := admitted.2
    rw [← (Prod.mk.inj (List.mem_singleton.mp new)).2, given] at later
    exact absurd later (Int.not_lt.mpr (uploaded messageId owns.uploaded))

theorem publish_owns {published : String} {entry : TreeEntry}
    (numbered : mapping.Numbered messageOf) (admitted : mapping.Admits messageOf entry)
    (owns : (mapping.publish published entry).Owns path messageId) :
    mapping.Owns path messageId ∨ (path = published ∧ entry.messageId = some messageId) := by
  rcases owns.listed with ⟨found, member, given⟩
  rcases List.mem_append.mp member with old | new
  · refine .inl ⟨⟨found, old, given⟩, ?_, owns.unmoved⟩
    refine (List.mem_append.mp owns.uploaded).resolve_left fun fresh => ?_
    exact numbered.fresh admitted old (given.trans (Option.mem_toList.mp fresh).symm)
  · rcases Prod.mk.inj (List.mem_singleton.mp new) with ⟨rfl, rfl⟩
    exact .inr ⟨rfl, given⟩

/-- The only message that an operation makes the application's is the one its result names. -/
theorem Carries.owns {next : Mapping} {now : Int} {operation : SyncOperation} {outcome : Outcome}
    (carries : Carries messageOf mapping now operation outcome next)
    (numbered : mapping.Numbered messageOf)
    (journaled : forall entry detail, outcome ≠ .orphaned entry detail)
    (owns : next.Owns path messageId) : mapping.Owns path messageId ∨
      (path = operation.path ∧ (executionResult operation outcome).messageId = some messageId) := by
  cases carries with
  | uploaded verified admitted | unnamed verified admitted =>
    exact publish_owns numbered admitted ⟨owns.listed, owns.uploaded, owns.unmoved⟩
  | @orphaned _ detail _ entry admitted => exact absurd rfl (journaled entry detail)
  | deletedRemote found verified => exact .inl (withdraw_owns owns).1
  | failed | skipped => exact .inl owns
  | downloaded | deletedLocal => exact .inl ⟨owns.listed, owns.uploaded, owns.unmoved⟩

theorem Mapping.Owns.scanned {preferences : SyncPreferences} {remote : FileTree}
    (owns : mapping.Owns path messageId)
    (scanned : scanRemote preferences mapping.messages = .ok remote)
    (retained : preferences.ignores path = false) :
    remote[path]?.bind (·.messageId) = some messageId := by
  rcases owns.listed with ⟨entry, member, given⟩
  rw [scanRemote_of_mem scanned retained member]
  exact given

end Ownership

/-! ## The condition on a run -/

/-- The steps that lose no message: every upload is recorded and renamed, unless
nothing older is left at its path and the path has a row; a cycle stops only when
the pairs it did not save are settled; and no superseded message is given back to
the user. -/
def replacementsFinish (mapping : Mapping) : MappingEvent -> Bool
  | .perform _ (.orphaned _ _) => false
  | .perform _ (.renameFailed entry _) =>
    mapping.cycle.all fun cycle => cycle.waiting.head?.all fun operation =>
      decide (operation.path ∈ cycle.prepared.synced) &&
        (replacedMessage cycle.prepared operation.path entry.messageId).all fun item =>
          decide (¬mapping.Present item.oldMessageId)
  | .abandon =>
    mapping.cycle.all fun cycle => cycle.unsaved.all fun result =>
      (supersededBy cycle.prepared result).all fun item =>
        decide (¬mapping.Present item.oldMessageId)
  | .cleanUp true =>
    mapping.cleanups.head?.all fun item => decide (mapping.actionFor item ≠ .preserveOld)
  | _ => true

/-! ## The invariant -/

/-- The owned messages of a path are the one that was planned with. -/
def AsPlanned (mapping : Mapping) (prepared : PreparedReconciliation) (path : String) : Prop :=
  forall messageId, mapping.Owns path messageId ->
    prepared.remoteTree[path]?.bind (·.messageId) = some messageId

/-- What carrying an operation out left at its path. -/
def Left (mapping : Mapping) (prepared : PreparedReconciliation) : SyncOperation -> Outcome -> Prop
  | .upload path _, .succeeded entry _ => Exists fun messageId =>
    entry.messageId = some messageId ∧ RefersTo messageId mapping.rows[path]?
  | .upload path _, .renameFailed _ _ => path ∈ prepared.synced
  | .deleteRemote path _ _, .succeeded _ _ => forall messageId, ¬mapping.Owns path messageId
  | operation, _ => AsPlanned mapping prepared operation.path

/-- What the preparation established about the path of an operation. -/
def WarrantedIn (prepared : PreparedReconciliation) (operation : SyncOperation) : Prop :=
  Warranted prepared.localTree[operation.path]? prepared.remoteTree[operation.path]?
    prepared.synced[operation.path]? operation

structure CycleTracked (mapping : Mapping) (cycle : Cycle) : Prop where
  known : forall (path : String) (entry : TreeEntry) (messageId : Int), cycle.prepared.remoteTree[path]? = some entry ->
    entry.messageId = some messageId -> messageId ≤ mapping.lastMessageId
  finished : cycle.journaled = true -> cycle.waiting = [] ∧ cycle.unsaved = []
  distinct : (cycle.results.map (·.relativePath) ++ cycle.waiting.map SyncOperation.path).Nodup
  waiting : forall operation, operation ∈ cycle.waiting ->
    WarrantedIn cycle.prepared operation ∧ AsPlanned mapping cycle.prepared operation.path
  results : forall result, result ∈ cycle.results -> Exists fun operation => Exists fun outcome =>
    result = executionResult operation outcome ∧ WarrantedIn cycle.prepared operation ∧
      Left mapping cycle.prepared operation outcome

/-- The pair is in the persisted list, or the running cycle is about to save it. -/
def Pending (mapping : Mapping) (item : PendingCleanup) : Prop :=
  item ∈ mapping.cleanups ∨ Exists fun cycle => mapping.cycle = some cycle ∧
    Exists fun result => result ∈ cycle.unsaved ∧ supersededBy cycle.prepared result = some item

/-- The row of the path has the message, or a later upload superseded it. -/
def Accounted (mapping : Mapping) (path : String) (messageId : Int) : Prop :=
  RefersTo messageId mapping.rows[path]? ∨ Exists fun item => item ∈ mapping.history.superseded ∧
    item.relativePath = path ∧ item.oldMessageId = messageId

structure Tracked (messageOf : String -> Option Int) (mapping : Mapping) : Prop where
  numbered : mapping.Numbered messageOf
  uploaded : forall messageId, messageId ∈ mapping.history.uploaded ->
    messageId ≤ mapping.lastMessageId
  superseded : forall item, item ∈ mapping.history.superseded ->
    item.oldMessageId ≤ mapping.lastMessageId
  pending : forall item, item ∈ mapping.history.superseded -> mapping.Present item.oldMessageId ->
    Pending mapping item
  owned : forall path messageId, mapping.Owns path messageId -> Accounted mapping path messageId
  cycle : forall cycle, mapping.cycle = some cycle -> CycleTracked mapping cycle

section Invariant

variable {messageOf : String -> Option Int} {mapping next : Mapping}

theorem empty_tracked : Tracked messageOf Mapping.empty := by
  refine ⟨empty_numbered, nofun, nofun, nofun, ?_, nofun⟩
  intro path messageId owns
  exact absurd owns.uploaded nofun

variable {path : String} {prepared : PreparedReconciliation}

theorem AsPlanned.mono (planned : AsPlanned mapping prepared path)
    (fewer : forall messageId, next.Owns path messageId -> mapping.Owns path messageId) :
    AsPlanned next prepared path := fun messageId owns => planned messageId (fewer messageId owns)

variable {outcome : Outcome} {operation : SyncOperation}

theorem Left.mono (left : Left mapping prepared operation outcome)
    (fewer : forall messageId, next.Owns operation.path messageId ->
      mapping.Owns operation.path messageId)
    (refers : forall messageId, RefersTo messageId mapping.rows[operation.path]? ->
      RefersTo messageId next.rows[operation.path]?) :
    Left next prepared operation outcome := by
  unfold Left at left ⊢
  split at left
  · rcases left with ⟨messageId, given, before⟩
    exact ⟨messageId, given, refers messageId before⟩
  · exact left
  · exact fun messageId owns => left messageId (fewer messageId owns)
  · exact left.mono fewer

/-- A step that takes ownership of nothing and keeps the messages of the rows
keeps the cycle tracked. -/
theorem CycleTracked.mono {cycle after : Cycle} (tracked : CycleTracked mapping cycle)
    (last : mapping.lastMessageId ≤ next.lastMessageId)
    (fewer : forall path messageId, next.Owns path messageId -> mapping.Owns path messageId)
    (refers : forall result, result ∈ cycle.results -> forall messageId,
      RefersTo messageId mapping.rows[result.relativePath]? ->
        RefersTo messageId next.rows[result.relativePath]?)
    (prepared : after.prepared = cycle.prepared) (waiting : after.waiting = cycle.waiting)
    (results : after.results = cycle.results)
    (finished : after.journaled = true -> after.waiting = [] ∧ after.unsaved = []) :
    CycleTracked next after := by
  refine ⟨?_, finished, ?_, ?_, ?_⟩
  · rw [prepared]
    exact fun path entry messageId present given =>
      (tracked.known path entry messageId present given).trans last
  · rw [waiting, results]
    exact tracked.distinct
  · rw [waiting, prepared]
    intro operation member
    rcases tracked.waiting operation member with ⟨warranted, planned⟩
    exact ⟨warranted, planned.mono (fewer _)⟩
  · rw [results, prepared]
    intro result member
    have kept := refers result member
    rcases tracked.results result member with ⟨operation, outcome, rfl, warranted, left⟩
    exact ⟨operation, outcome, rfl, warranted, left.mono (fewer _) kept⟩

/-- A change from outside: no message becomes the application's, and none comes back. -/
theorem outside_tracked (tracked : Tracked messageOf mapping) (numbered : next.Numbered messageOf)
    (last : mapping.lastMessageId ≤ next.lastMessageId) (rows : next.rows = mapping.rows)
    (cleanups : next.cleanups = mapping.cleanups) (cycle : next.cycle = mapping.cycle)
    (uploaded : next.history.uploaded = mapping.history.uploaded)
    (superseded : next.history.superseded = mapping.history.superseded)
    (fewer : forall path messageId, next.Owns path messageId -> mapping.Owns path messageId)
    (present : forall messageId, messageId ≤ mapping.lastMessageId -> next.Present messageId ->
      mapping.Present messageId) : Tracked messageOf next := by
  refine ⟨numbered, ?_, ?_, ?_, ?_, ?_⟩
  · rw [uploaded]
    exact fun messageId member => (tracked.uploaded messageId member).trans last
  · rw [superseded]
    exact fun item member => (tracked.superseded item member).trans last
  · rw [superseded]
    intro item member exists_
    have before := tracked.pending item member
      (present item.oldMessageId (tracked.superseded item member) exists_)
    unfold Pending at before ⊢
    rw [cleanups, cycle]
    exact before
  · intro path messageId owns
    have before := tracked.owned path messageId (fewer path messageId owns)
    unfold Accounted at before ⊢
    rw [rows, superseded]
    exact before
  · intro running now
    rw [cycle] at now
    have before := tracked.cycle running now
    exact before.mono last fewer (fun _ _ => rows ▸ fun _ => id) rfl rfl rfl before.finished

/-- A cycle stops when it has no pair left to save. -/
theorem stopped_tracked (tracked : Tracked messageOf mapping)
    (saved : forall cycle, mapping.cycle = some cycle -> forall result, result ∈ cycle.unsaved ->
      forall item, supersededBy cycle.prepared result = some item ->
        ¬mapping.Present item.oldMessageId) :
    Tracked messageOf { mapping with cycle := none } := by
  refine ⟨tracked.numbered.frame rfl rfl, tracked.uploaded, tracked.superseded, ?_, ?_, nofun⟩
  · intro item member exists_
    refine .inl ((tracked.pending item member exists_).resolve_right ?_)
    rintro ⟨cycle, running, result, listed, pair⟩
    exact saved cycle running result listed item pair exists_
  · exact fun path messageId owns =>
      tracked.owned path messageId ⟨owns.listed, owns.uploaded, owns.unmoved⟩

theorem Tracked.saved (tracked : Tracked messageOf mapping)
    (journaled : mapping.cycle.all (·.journaled) = true) {cycle : Cycle}
    (running : mapping.cycle = some cycle) : cycle.unsaved = [] := by
  rw [running] at journaled
  exact ((tracked.cycle cycle running).finished journaled).2

/-! ## Rows -/

/-- The statement keeps this message in a row that has it. -/
def StateWrite.Keeps (messageId : Int) : StateWrite -> Prop
  | .upsert _ row => row.messageId = some messageId
  | .delete _ => False
  | .setStatus _ _ | .refreshMetadata _ _ => True

variable {messageId : Int}

theorem StateWrite.Keeps.effect {write : StateWrite} (keeps : write.Keeps messageId)
    {row : Option SyncedEntry} (refers : RefersTo messageId row) :
    RefersTo messageId (write.effect row) := by
  cases write with
  | upsert path written => exact keeps
  | delete path => exact keeps.elim
  | setStatus path status =>
    rcases Option.bind_eq_some_iff.mp refers with ⟨entry, rfl, given⟩
    exact given
  | refreshMetadata path refreshed =>
    rcases Option.bind_eq_some_iff.mp refers with ⟨entry, rfl, given⟩
    change (StateWrite.refreshed refreshed entry).messageId = some messageId
    unfold StateWrite.refreshed
    split <;> exact given

theorem refersTo_applyWrites {rows : SyncedTree} {writes : List StateWrite}
    (each : forall write, write ∈ writes -> write.path = path -> write.Keeps messageId)
    (start : RefersTo messageId rows[path]?) :
    RefersTo messageId (applyWrites rows writes)[path]? :=
  applyWrites_invariant (RefersTo messageId) rows
    (fun write member same _ => (each write member same).effect) start

theorem owned_applyWrites (tracked : Tracked messageOf mapping) (writes : List StateWrite)
    (rows : next.rows = applyWrites mapping.rows writes)
    (superseded : next.history.superseded = mapping.history.superseded)
    (fewer : forall path messageId, next.Owns path messageId -> mapping.Owns path messageId)
    (each : forall write, write ∈ writes -> forall messageId, mapping.Owns write.path messageId ->
      RefersTo messageId mapping.rows[write.path]? -> write.Keeps messageId)
    (owns : next.Owns path messageId) :
    Accounted next path messageId := by
  have before := fewer path messageId owns
  unfold Accounted
  rw [rows, superseded]
  refine (tracked.owned path messageId before).imp_left fun refers => ?_
  refine refersTo_applyWrites ?_ refers
  intro write member same
  subst same
  exact each write member messageId before refers

/-! ## Changes from outside and resolutions -/

theorem post_tracked (tracked : Tracked messageOf mapping) {entry : TreeEntry}
    (admitted : mapping.Admits messageOf entry) : Tracked messageOf (mapping.post path entry) := by
  refine outside_tracked tracked (tracked.numbered.post admitted) (Int.le_of_lt admitted.2) rfl rfl rfl
    rfl rfl (fun _ _ => post_owns tracked.uploaded admitted) ?_
  rintro messageId old ⟨file, member, given⟩
  rcases List.mem_append.mp member with before | new
  · exact ⟨file, before, given⟩
  · have later := admitted.2
    rw [List.mem_singleton.mp new] at given
    rw [given] at later
    exact absurd later (Int.not_lt.mpr old)

theorem edit_tracked (tracked : Tracked messageOf mapping) {entry : TreeEntry}
    (print : IsFingerprinted messageOf entry) : Tracked messageOf (mapping.edit path entry) := by
  refine outside_tracked tracked (tracked.numbered.edit print) (Int.le_refl _) rfl rfl rfl rfl rfl
    (fun _ _ => edit_owns) ?_
  rintro messageId - ⟨file, member, given⟩
  rcases List.mem_map.mp member with ⟨before, listed, changed⟩
  refine ⟨before, listed, ?_⟩
  split at changed
  next same =>
    cases changed
    exact same.trans given
  · exact changed ▸ given

theorem withdraw_tracked (tracked : Tracked messageOf mapping) (messageId : Int) :
    Tracked messageOf (mapping.withdraw messageId) := by
  refine outside_tracked tracked (tracked.numbered.withdraw messageId) (Int.le_refl _) rfl rfl rfl rfl
    rfl (fun _ _ owns => (withdraw_owns owns).1) ?_
  rintro other - ⟨file, member, given⟩
  exact ⟨file, (List.mem_filter.mp member).1, given⟩

theorem marked_tracked (tracked : Tracked messageOf mapping) (path : String) (status : SyncStatus)
    (idle : next.cycle = none) (messages : next.messages = mapping.messages)
    (last : next.lastMessageId = mapping.lastMessageId)
    (rows : next.rows = applyWrites mapping.rows [.setStatus path status])
    (uploaded : next.history.uploaded = mapping.history.uploaded)
    (moved : next.history.moved = mapping.history.moved)
    (superseded : next.history.superseded = mapping.history.superseded)
    (pending : forall item, item ∈ mapping.history.superseded ->
      mapping.Present item.oldMessageId -> item ∈ next.cleanups) : Tracked messageOf next := by
  have fewer : forall path messageId, next.Owns path messageId -> mapping.Owns path messageId :=
    fun path messageId owns => ⟨messages ▸ owns.listed, uploaded ▸ owns.uploaded, moved ▸ owns.unmoved⟩
  refine ⟨tracked.numbered.frame messages last, ?_, ?_, ?_, ?_, ?_⟩
  · rw [uploaded, last]
    exact tracked.uploaded
  · rw [superseded, last]
    exact tracked.superseded
  · rw [superseded]
    intro item member exists_
    refine .inl (pending item member ?_)
    unfold Mapping.Present at exists_ ⊢
    rw [messages] at exists_
    exact exists_
  · intro path messageId
    refine owned_applyWrites tracked _ rows superseded fewer fun write member _ _ _ => ?_
    rw [List.mem_singleton.mp member]
    trivial
  · rw [idle]
    exact nofun

theorem resolve_tracked (tracked : Tracked messageOf mapping) {chosen : SyncStatus}
    (moved : mapping.resolve path chosen = some next) : Tracked messageOf next := by
  rcases resolve_eq_some moved with rfl | ⟨idle, -, rfl⟩
  · exact tracked
  · refine marked_tracked tracked path chosen idle rfl rfl rfl rfl rfl rfl fun item member exists_ => ?_
    refine (tracked.pending item member exists_).resolve_right ?_
    rintro ⟨cycle, running, -⟩
    rw [idle] at running
    cases running

/-! ## Cleanup -/

variable {item : PendingCleanup}

theorem settle_tracked (tracked : Tracked messageOf mapping)
    (journaled : mapping.cycle.all (·.journaled) = true) : Tracked messageOf (mapping.settle item) := by
  rcases settle_cases mapping item with ⟨-, done⟩ | ⟨-, done⟩ | ⟨-, done⟩ <;> rw [done]
  · exact withdraw_tracked tracked item.oldMessageId
  · exact tracked
  · refine marked_tracked tracked item.relativePath .conflict rfl rfl rfl rfl rfl rfl rfl ?_
    intro other member exists_
    refine (tracked.pending other member exists_).resolve_right ?_
    rintro ⟨cycle, running, result, unsaved, -⟩
    rw [tracked.saved journaled running] at unsaved
    cases unsaved

/-- Without a message to preserve, the superseded message is gone afterwards. -/
theorem settle_absent (action : mapping.actionFor item ≠ .preserveOld) :
    ¬(mapping.settle item).Present item.oldMessageId ∧
      (mapping.settle item).cycle = mapping.cycle := by
  rcases settle_cases mapping item with ⟨-, done⟩ | ⟨gone, done⟩ | ⟨preserved, -⟩
  · rw [done]
    exact ⟨withdraw_absent mapping item.oldMessageId, rfl⟩
  · rw [done]
    exact ⟨actionFor_alreadyGone gone, rfl⟩
  · exact absurd preserved action

theorem settle_cleanups (mapping : Mapping) (item : PendingCleanup) :
    (mapping.settle item).cleanups = mapping.cleanups := by
  rcases settle_cases mapping item with ⟨-, done⟩ | ⟨-, done⟩ | ⟨-, done⟩ <;> rw [done] <;> rfl

theorem dropped_tracked (tracked : Tracked messageOf mapping)
    {rest : List PendingCleanup} (cleanups : mapping.cleanups = item :: rest)
    (absent : ¬mapping.Present item.oldMessageId) :
    Tracked messageOf { mapping with cleanups := rest } := by
  refine ⟨tracked.numbered.frame rfl rfl, tracked.uploaded, tracked.superseded, ?_, ?_, ?_⟩
  · intro other member exists_
    refine (tracked.pending other member exists_).imp_left fun listed => ?_
    rw [cleanups] at listed
    refine (List.mem_cons.mp listed).resolve_left ?_
    rintro rfl
    exact absent exists_
  · exact fun path messageId owns =>
      tracked.owned path messageId ⟨owns.listed, owns.uploaded, owns.unmoved⟩
  · intro cycle running
    have before := tracked.cycle cycle running
    exact before.mono (Int.le_refl _)
      (fun _ _ owns => ⟨owns.listed, owns.uploaded, owns.unmoved⟩) (fun _ _ _ => id) rfl rfl rfl
      before.finished

theorem cleanUp_tracked {saved : Bool} (tracked : Tracked messageOf mapping)
    (condition : replacementsFinish mapping (.cleanUp saved) = true)
    (moved : mapping.cleanUp saved = some next) : Tracked messageOf next := by
  rcases cleanUp_eq_some moved with ⟨item, rest, cleanups, journaled, ⟨rfl, rfl⟩ | ⟨-, rfl⟩⟩
  · rw [replacementsFinish, cleanups] at condition
    exact dropped_tracked (settle_tracked tracked journaled)
      ((settle_cleanups mapping item).trans cleanups) (settle_absent (of_decide_eq_true condition)).1
  · refine stopped_tracked (settle_tracked tracked journaled) ?_
    intro cycle running result unsaved
    have before : mapping.cycle = some cycle := by
      rcases settle_cases mapping item with ⟨-, done⟩ | ⟨-, done⟩ | ⟨-, done⟩ <;>
        rw [done] at running
      · exact running
      · exact running
      · cases running
    rw [tracked.saved journaled before] at unsaved
    cases unsaved

/-! ## Journals -/

theorem savePending_tracked (tracked : Tracked messageOf mapping)
    (moved : mapping.savePending = some next) : Tracked messageOf next := by
  rcases savePending_eq_some moved with ⟨cycle, result, unsaved, running, idle, pending, rfl⟩
  have before := tracked.cycle cycle running
  refine ⟨tracked.numbered.frame rfl rfl, tracked.uploaded, tracked.superseded, ?_, ?_, ?_⟩
  · intro item member exists_
    unfold Pending
    simp only
    rcases tracked.pending item member exists_ with listed | ⟨current, now, other, waiting, pair⟩
    · left
      split
      · split
        · exact listed
        · exact List.mem_append_left _ listed
      · exact listed
    · rw [running] at now
      cases now
      rw [pending] at waiting
      rcases List.mem_cons.mp waiting with rfl | later
      · left
        rw [pair]
        simp only
        split
        next already => exact already
        · exact List.mem_append_right _ (List.mem_singleton.mpr rfl)
      · exact .inr ⟨_, rfl, other, later, pair⟩
  · exact fun path messageId owns =>
      tracked.owned path messageId ⟨owns.listed, owns.uploaded, owns.unmoved⟩
  · intro current now
    cases now
    refine before.mono (Int.le_refl _) (fun _ _ owns => ⟨owns.listed, owns.uploaded, owns.unmoved⟩)
      (fun _ _ _ => id) rfl rfl rfl ?_
    intro journaled
    have saved := (before.finished journaled).2
    rw [pending] at saved
    cases saved

variable {clock : String -> Int}

theorem journal_keeps {cycle : Cycle} (before : CycleTracked mapping cycle)
    {write : StateWrite} (member : write ∈ journalUploads clock cycle.prepared.localTree cycle.results)
    (refers : RefersTo messageId mapping.rows[write.path]?) :
    write.Keeps messageId := by
  rcases mem_journalUploads member with
    ⟨result, present, success, action, journaled, localEntry, given, copy, rfl⟩
  rcases before.results result present with ⟨operation, outcome, rfl, -, left⟩
  rcases uploaded_of_result success action with ⟨path, _, entry, copyPath, rfl, rfl⟩
  rcases left with ⟨recorded, id, has⟩
  change entry.messageId = some journaled at given
  have same : some recorded = some messageId := has.symm.trans refers
  change some journaled = some messageId
  rw [← given, id, same]

variable {stopAfter : Option Nat}

theorem journal_tracked
    (tracked : Tracked messageOf mapping) (moved : mapping.journal clock stopAfter = some next) :
    Tracked messageOf next := by
  rcases journal_eq_some moved with ⟨cycle, running, idle, saved, rfl⟩
  have before := tracked.cycle cycle running
  have keeps : forall write, write ∈ executed stopAfter
      (journalUploads clock cycle.prepared.localTree cycle.results) -> forall messageId,
      RefersTo messageId mapping.rows[write.path]? -> write.Keeps messageId :=
    fun write member messageId => journal_keeps before (executed_subset member)
  refine ⟨tracked.numbered.frame rfl rfl, tracked.uploaded, tracked.superseded, ?_, ?_, ?_⟩
  · intro item member exists_
    refine .inl ((tracked.pending item member exists_).resolve_right ?_)
    rintro ⟨current, now, result, unsaved, -⟩
    rw [running] at now
    cases now
    rw [saved] at unsaved
    cases unsaved
  · intro path messageId owns
    refine owned_applyWrites tracked (executed stopAfter
      (journalUploads clock cycle.prepared.localTree cycle.results)) ?_ ?_ ?_ ?_ owns
    · rfl
    · rfl
    · exact fun _ _ owns => ⟨owns.listed, owns.uploaded, owns.unmoved⟩
    · exact fun write member messageId _ => keeps write member messageId
  · intro current now
    change (if stopAfter.isSome then none else some { cycle with journaled := true }) =
      some current at now
    split at now
    · cases now
    · cases now
      refine before.mono (Int.le_refl _)
        (fun _ _ owns => ⟨owns.listed, owns.uploaded, owns.unmoved⟩) ?_ rfl rfl rfl
        (fun _ => ⟨idle, saved⟩)
      intro result _ messageId refers
      refine refersTo_applyWrites (fun write member same => keeps write member messageId ?_) refers
      rw [same]
      exact refers

/-! ## Results -/

theorem recordResult_keeps {uploaded : FileTree} {write : StateWrite}
    (warranted : WarrantedIn prepared operation) (left : Left mapping prepared operation outcome)
    (readBack : forall path localEntry entry copyPath, operation = .upload path localEntry ->
      outcome = .succeeded entry copyPath -> forall found, uploaded[path]? = some found ->
        found.messageId = entry.messageId)
    (recorded : recordResult clock prepared uploaded (executionResult operation outcome) = some write)
    (owns : mapping.Owns operation.path messageId)
    (refers : RefersTo messageId mapping.rows[operation.path]?) : write.Keeps messageId := by
  -- a write from the trees of the plan has the planned message
  have planned (there : AsPlanned mapping prepared operation.path) (localEntry : Option TreeEntry)
      (status : SyncStatus) : (upsertState operation.path localEntry
        prepared.remoteTree[operation.path]? status (clock operation.path)).Keeps messageId :=
    there messageId owns
  have failure (failed : (executionResult operation outcome).success = false)
      (there : operation.path ∉ prepared.synced -> AsPlanned mapping prepared operation.path) :
      write.Keeps messageId := by
    rw [recordResult, failed, Bool.not_false, if_pos rfl] at recorded
    split at recorded <;> cases recorded
    · trivial
    next unrecorded => exact planned (there unrecorded) _ _
  -- both copies are recorded as they were planned, and there is a planned message
  have copies (there : AsPlanned mapping prepared operation.path)
      (both : (prepared.remoteTree[operation.path]? = none ∧ write = .delete operation.path) ∨
        write = upsertState operation.path prepared.localTree[operation.path]?
          prepared.remoteTree[operation.path]? .synced (clock operation.path)) :
      write.Keeps messageId := by
    rcases both with ⟨absent, -⟩ | rfl
    · have found := there messageId owns
      rw [absent] at found
      cases found
    · exact planned there _ _
  cases outcome with
  | failed detail | orphaned entry detail =>
    refine failure rfl fun _ => ?_
    cases operation <;> exact left
  | renameFailed entry detail =>
    refine failure rfl fun unrecorded => ?_
    cases operation with
    | upload path localEntry => exact absurd left unrecorded
    | download | deleteLocal | deleteRemote | conflict | skip => exact left
  | succeeded entry copyPath =>
    cases operation with
    | upload path localEntry =>
      rcases left with ⟨id, given, has⟩
      rcases Option.map_eq_some_iff.mp recorded with ⟨found, present, rfl⟩
      change found.messageId = some messageId
      rw [readBack path localEntry entry copyPath rfl rfl found present, given]
      exact has.symm.trans refers
    | download path remoteEntry keepBoth expected =>
      cases keepBoth with
      | false =>
        cases recorded
        exact planned left _ _
      | true => exact copies left (recordResult_bothCopies rfl (.inl rfl) recorded)
    | deleteLocal path expected =>
      have there := left messageId owns
      rw [warranted.2.1] at there
      cases there
    | deleteRemote path id expected => exact absurd owns (left messageId)
    | conflict path => exact copies left (recordResult_bothCopies rfl (.inr (.inr rfl)) recorded)
    | skip path => exact copies left (recordResult_bothCopies rfl (.inr (.inl rfl)) recorded)

theorem readBack_messageId {cycle : Cycle} (before : CycleTracked mapping cycle)
    {messages : List (String × TreeEntry)} {localEntry entry found : TreeEntry}
    {copyPath : String}
    (listed : executionResult (.upload path localEntry) (.succeeded entry copyPath) ∈ cycle.results)
    (present : (readBackTree (journaledUploads cycle.prepared.localTree cycle.results)
      messages)[path]? = some found) : found.messageId = entry.messageId := by
  rcases mem_of_readBackTree present with ⟨file, -, rfl, messageId, upload, given⟩
  rcases mem_journaledUploads upload with ⟨result, member, -, -, here, id⟩
  have same : result = executionResult (.upload path localEntry) (.succeeded entry copyPath) :=
    List.inj_on_of_nodup_map (List.Nodup.of_append_left before.distinct) member listed here
  rw [same] at id
  exact given.trans id.symm

theorem finish_tracked {readBack : Bool}
    (tracked : Tracked messageOf mapping) (moved : mapping.finish clock readBack stopAfter = some next) :
    Tracked messageOf next := by
  rcases finish_eq_some moved with ⟨cycle, uploaded, running, journaled, fetched, rfl⟩
  have before := tracked.cycle cycle running
  refine ⟨tracked.numbered.frame rfl rfl, tracked.uploaded, tracked.superseded, ?_, ?_, nofun⟩
  · intro item member exists_
    refine .inl ((tracked.pending item member exists_).resolve_right ?_)
    rintro ⟨current, now, result, unsaved, -⟩
    rw [running] at now
    cases now
    rw [(before.finished journaled).2] at unsaved
    cases unsaved
  · intro path messageId owns
    refine owned_applyWrites tracked (executed stopAfter
      (recordResults clock cycle.prepared cycle.results uploaded)) ?_ ?_ ?_ ?_ owns
    · rfl
    · rfl
    · exact fun _ _ owns => ⟨owns.listed, owns.uploaded, owns.unmoved⟩
    · intro write ran messageId owns refers
      rcases List.mem_filterMap.mp (executed_subset ran) with ⟨result, listed, recorded⟩
      rw [recordResult_path recorded] at owns refers
      rcases before.results result listed with ⟨operation, outcome, rfl, warranted, left⟩
      refine recordResult_keeps warranted left ?_ recorded owns refers
      rintro path localEntry entry copyPath rfl rfl found present
      rcases fetched with rfl | rfl
      · simp at present
      · exact readBack_messageId before listed present

/-! ## Preparation -/

/-- A statement of a preparation keeps the messages its complete scan found. -/
theorem prepare_keeps {pair : SyncPair} {refreshMetadata : List (String × TreeEntry)} {remote : FileTree}
    {trees : FileTree × FileTree × SyncedTree} {writes : List StateWrite}
    (prepares : Prepares pair mapping clock refreshMetadata stopAfter next remote trees writes)
    {write : StateWrite} (member : write ∈ writes)
    (owns : mapping.Owns write.path messageId) : write.Keeps messageId := by
  have found (kept : pair.preferences.ignores write.path = false) :
      trees.2.1[write.path]?.bind (·.messageId) = some messageId := by
    rw [prepares.retained, retainTreePaths_remote, kept, if_neg Bool.false_ne_true]
    exact owns.scanned prepares.scanned kept
  rw [prepares.planned] at member
  rcases mem_prepareReconciliation prepares.retained member with book | ⟨path, kept, rfl⟩
  · rcases List.mem_append.mp book with early | refresh
    · rcases List.mem_append.mp early with vanished | recorded
      · rcases List.mem_map.mp vanished with ⟨path, listed, rfl⟩
        rcases List.mem_filter.mp listed with ⟨row, gone⟩
        have kept : pair.preferences.ignores path = false := by
          rw [Std.TreeMap.mem_keys, prepares.retained] at row
          rw [Bool.eq_false_iff]
          intro ignored
          rw [Std.TreeMap.mem_iff_isSome_getElem?, retainTreePaths_synced, ignored, if_pos rfl] at row
          cases row
        have there := found kept
        rw [Bool.and_eq_true, Bool.not_eq_true', Bool.not_eq_true'] at gone
        rw [StateWrite.path, Std.TreeMap.getElem?_eq_none_of_contains_eq_false gone.2] at there
        cases there
      · rcases List.mem_map.mp recorded with ⟨path, listed, rfl⟩
        rcases baselineRow_of_baselined ((mem_baseline_paths _ _ _ _ _).mp listed) with
          ⟨one, two, -, -, message, -⟩
        refine found ?_
        rw [Bool.eq_false_iff]
        intro ignored
        rw [upsertState_path] at ignored
        rw [prepares.retained, retainTreePaths_remote, ignored, if_pos rfl] at message
        cases message
    · rcases List.mem_map.mp refresh with ⟨entry, -, rfl⟩
      trivial
  · rw [conflictWrite_path] at found
    unfold conflictWrite
    split
    · trivial
    · exact found kept

theorem prepare_tracked {pair : SyncPair} {refreshMetadata : List (String × TreeEntry)}
    (tracked : Tracked messageOf mapping)
    (moved : mapping.prepare pair clock refreshMetadata stopAfter = some next) :
    Tracked messageOf next := by
  rcases prepares_of_prepare pair moved with ⟨remote, trees, writes, prepares⟩
  have history := prepares.history
  have uploaded : next.history.uploaded = mapping.history.uploaded := by rw [history]; rfl
  have unmoved : next.history.moved = mapping.history.moved := by rw [history]; rfl
  have superseded : next.history.superseded = mapping.history.superseded := by rw [history]; rfl
  have fewer : forall path messageId, next.Owns path messageId -> mapping.Owns path messageId :=
    fun path messageId owns => ⟨prepares.messages ▸ owns.listed, uploaded ▸ owns.uploaded,
      unmoved ▸ owns.unmoved⟩
  refine ⟨tracked.numbered.frame prepares.messages prepares.lastMessageId, ?_, ?_, ?_, ?_, ?_⟩
  · rw [uploaded, prepares.lastMessageId]
    exact tracked.uploaded
  · rw [superseded, prepares.lastMessageId]
    exact tracked.superseded
  · rw [superseded]
    intro item member exists_
    unfold Mapping.Present at exists_
    rw [prepares.messages] at exists_
    rcases tracked.pending item member exists_ with listed | ⟨cycle, running, -⟩
    · rw [prepares.cleaned] at listed
      cases listed
    · rw [prepares.idle] at running
      cases running
  · intro path messageId owns
    exact owned_applyWrites tracked _ prepares.rows superseded fewer
      (fun write ran messageId owned _ => prepare_keeps prepares (executed_subset ran) owned) owns
  · intro cycle running
    rcases prepares.cycle cycle running with ⟨-, prepared, rfl, from_⟩
    rw [prepares.retained] at from_
    refine ⟨?_, nofun, ?_, ?_, nofun⟩
    · intro path entry messageId present given
      change prepared.remoteTree[path]? = some entry at present
      rw [from_.remoteTree, retainTreePaths_remote] at present
      split at present
      · cases present
      · have bounded := tracked.numbered.last _ (mem_of_scanRemote prepares.scanned present)
        rw [given] at bounded
        rw [prepares.lastMessageId]
        exact bounded
    · change ((dropSettledSkips prepared).operations.map SyncOperation.path).Nodup
      have all := operationsForPolicy_paths_nodup prepared.localTree prepared.remoteTree
        prepared.synced pair.syncDirection pair.preferences.propagateDeletions
      rw [← from_.operations] at all
      exact all.sublist (List.filter_sublist.map _)
    · intro operation waiting
      rcases from_.planned (List.mem_filter.mp waiting).1 with ⟨kept, planned⟩
      refine ⟨operationAt_warranted planned, ?_⟩
      intro messageId owns
      change prepared.remoteTree[operation.path]?.bind (·.messageId) = some messageId
      rw [(from_.entries kept).2.1]
      exact (fewer _ _ owns).scanned prepares.scanned kept

/-! ## Carrying an operation out -/

theorem published_of_result (named : (executionResult operation outcome).messageId = some messageId) :
    Exists fun path => Exists fun localEntry => Exists fun entry =>
      operation = .upload path localEntry ∧ entry.messageId = some messageId ∧
        ((Exists fun copyPath => outcome = .succeeded entry copyPath) ∨
          Exists fun detail => outcome = .renameFailed entry detail) := by
  cases operation with
  | upload path localEntry =>
    cases outcome with
    | succeeded entry copyPath => exact ⟨path, localEntry, entry, rfl, named, .inl ⟨copyPath, rfl⟩⟩
    | renameFailed entry detail => exact ⟨path, localEntry, entry, rfl, named, .inr ⟨detail, rfl⟩⟩
    | failed | orphaned => cases named
  | download | deleteLocal | deleteRemote | conflict | skip => cases outcome <;> cases named

theorem replacedMessage_of_planned {oldMessageId newMessageId : Int}
    (planned : prepared.remoteTree[path]?.bind (·.messageId) = some oldMessageId)
    (different : oldMessageId ≠ newMessageId) :
    Exists fun item => replacedMessage prepared path (some newMessageId) = some item ∧
      item.relativePath = path ∧ item.oldMessageId = oldMessageId := by
  rcases Option.bind_eq_some_iff.mp planned with ⟨entry, present, given⟩
  refine ⟨⟨path, oldMessageId, newMessageId, some entry.hash, different⟩, ?_, rfl, rfl⟩
  simp only [replacedMessage, present, given]
  rw [dif_pos different]

theorem replacedMessage_known {newMessageId : Option Int}
    (replaced : replacedMessage prepared path newMessageId = some item) :
    Exists fun entry => prepared.remoteTree[path]? = some entry ∧
      entry.messageId = some item.oldMessageId := by
  unfold replacedMessage at replaced
  split at replaced
  next entry _ present =>
    split at replaced
    next given =>
      split at replaced <;> cases replaced
      exact ⟨entry, present, given⟩
    · cases replaced
  · cases replaced

section Carries

variable {now : Int} {operation : SyncOperation} {outcome : Outcome}

theorem Carries.last (carries : Carries messageOf mapping now operation outcome next) :
    mapping.lastMessageId ≤ next.lastMessageId := by
  cases carries with
  | uploaded verified admitted | unnamed verified admitted | orphaned admitted =>
    exact Int.le_of_lt admitted.2
  | failed | downloaded | deletedLocal | deletedRemote | skipped => exact Int.le_refl _

theorem Carries.uploaded_le (carries : Carries messageOf mapping now operation outcome next)
    (before : forall messageId, messageId ∈ mapping.history.uploaded ->
      messageId ≤ mapping.lastMessageId) {messageId : Int}
    (member : messageId ∈ next.history.uploaded) : messageId ≤ next.lastMessageId := by
  have published {entry : TreeEntry} (admitted : mapping.Admits messageOf entry)
      (listed : messageId ∈ entry.messageId.toList ++ mapping.history.uploaded) :
      messageId ≤ entry.messageId.getD 0 := by
    rcases List.mem_append.mp listed with new | old
    · rw [Option.mem_toList.mp new]
      exact Int.le_refl _
    · exact (before messageId old).trans (Int.le_of_lt admitted.2)
  cases carries with
  | uploaded verified admitted | unnamed verified admitted | orphaned admitted =>
    exact published admitted member
  | failed | downloaded | deletedLocal | deletedRemote | skipped => exact before messageId member

theorem Carries.present (carries : Carries messageOf mapping now operation outcome next)
    {messageId : Int} (old : messageId ≤ mapping.lastMessageId) (present : next.Present messageId) :
    mapping.Present messageId := by
  have published {path : String} {entry : TreeEntry} (admitted : mapping.Admits messageOf entry)
      (there : (mapping.publish path entry).Present messageId) : mapping.Present messageId := by
    rcases there with ⟨file, member, given⟩
    rcases List.mem_append.mp member with before | new
    · exact ⟨file, before, given⟩
    · have later := admitted.2
      rw [List.mem_singleton.mp new] at given
      rw [given] at later
      exact absurd later (Int.not_lt.mpr old)
  cases carries with
  | uploaded verified admitted | unnamed verified admitted | orphaned admitted =>
    exact published admitted present
  | deletedRemote found verified =>
    rcases present with ⟨file, member, given⟩
    exact ⟨file, (List.mem_filter.mp member).1, given⟩
  | failed | downloaded | deletedLocal | skipped => exact present

theorem Carries.superseded (carries : Carries messageOf mapping now operation outcome next) :
    next.history.superseded = mapping.history.superseded ∧ next.cleanups = mapping.cleanups := by
  cases carries <;> exact ⟨rfl, rfl⟩

theorem Carries.refers (carries : Carries messageOf mapping now operation outcome next)
    {messageId : Int} (named : (executionResult operation outcome).messageId = some messageId) :
    RefersTo messageId next.rows[operation.path]? := by
  cases carries with
  | uploaded verified admitted | unnamed verified admitted =>
    rw [journalPublished_rows named, applyWrites_singleton, journalUpload_path, SyncOperation.path,
      if_pos rfl]
    rfl
  | @failed operation detail => cases operation <;> cases named
  | downloaded | orphaned | deletedLocal | deletedRemote | skipped => cases named

/-- A published message has an id that was not given before. -/
theorem Carries.fresh (carries : Carries messageOf mapping now operation outcome next)
    {messageId : Int} (named : (executionResult operation outcome).messageId = some messageId) :
    mapping.lastMessageId < messageId := by
  cases carries with
  | @uploaded _ _ _ entry verified admitted | @unnamed _ _ _ entry verified admitted =>
    have later := admitted.2
    rw [show entry.messageId = some messageId from named] at later
    exact later
  | @failed operation detail => cases operation <;> cases named
  | downloaded | orphaned | deletedLocal | deletedRemote | skipped => cases named

theorem Carries.rows_same (carries : Carries messageOf mapping now operation outcome next)
    (unnamed : (executionResult operation outcome).messageId = none) : next.rows = mapping.rows := by
  cases carries with
  | uploaded verified admitted | unnamed verified admitted =>
    exact absurd unnamed (Option.isSome_iff_ne_none.mp admitted.1.1)
  | failed | downloaded | orphaned | deletedLocal | deletedRemote | skipped => rfl

end Carries

theorem Carries.left {now : Int} (carries : Carries messageOf mapping now operation outcome next)
    (warranted : WarrantedIn prepared operation) (planned : AsPlanned mapping prepared operation.path)
    (journaled : forall entry detail, outcome ≠ .orphaned entry detail)
    (named : forall entry detail, outcome = .renameFailed entry detail ->
      operation.path ∈ prepared.synced) : Left next prepared operation outcome := by
  cases carries with
  | @uploaded path copyPath localEntry entry verified admitted =>
    rcases Option.isSome_iff_exists.mp admitted.1.1 with ⟨messageId, given⟩
    have published : Carries messageOf mapping now (.upload path localEntry)
        (.succeeded entry copyPath) _ := .uploaded verified admitted
    exact ⟨messageId, given, published.refers given⟩
  | @unnamed path detail localEntry entry verified admitted => exact named entry detail rfl
  | @orphaned path detail localEntry entry admitted => exact absurd rfl (journaled entry detail)
  | @deletedRemote path expected copyPath withdrawn entry file found verified =>
    intro messageId owns
    rcases withdraw_owns owns with ⟨before, other⟩
    have there := planned messageId before
    rw [warranted.2.2.1] at there
    exact other (Option.some.inj there).symm
  | @failed operation detail => cases operation <;> exact planned
  | downloaded | deletedLocal =>
    exact planned.mono fun messageId owns => ⟨owns.listed, owns.uploaded, owns.unmoved⟩
  | skipped => exact planned

theorem perform_tracked {now : Int} (tracked : Tracked messageOf mapping)
    (condition : replacementsFinish mapping (.perform now outcome) = true)
    (moved : mapping.perform messageOf now outcome = some next) : Tracked messageOf next := by
  rcases perform_eq_some moved with ⟨cycle, operation, waiting, after, running, pending, carries, rfl⟩
  have before := tracked.cycle cycle running
  have distinct := before.distinct
  rw [pending, List.map_cons] at distinct
  rcases before.waiting operation (pending ▸ List.mem_cons_self) with ⟨warranted, planned⟩
  have journaled : forall entry detail, outcome ≠ .orphaned entry detail := by
    rintro entry detail rfl
    cases condition
  have renamed : forall entry detail, outcome = .renameFailed entry detail ->
      operation.path ∈ cycle.prepared.synced ∧
        forall item, replacedMessage cycle.prepared operation.path entry.messageId = some item ->
          ¬mapping.Present item.oldMessageId := by
    rintro entry detail rfl
    simp only [replacementsFinish, running, pending, List.head?_cons, Option.all_some,
      Bool.and_eq_true, decide_eq_true_eq] at condition
    refine ⟨condition.1, fun item replaced => ?_⟩
    rw [replaced] at condition
    exact of_decide_eq_true condition.2
  have owns : forall path messageId,
      (after.report cycle operation waiting outcome).Owns path messageId ->
        mapping.Owns path messageId ∨ (path = operation.path ∧
          (executionResult operation outcome).messageId = some messageId) :=
    fun path messageId owned => carries.owns tracked.numbered journaled
      ⟨owned.listed, owned.uploaded, owned.unmoved⟩
  refine ⟨(carries.numbered tracked.numbered).frame rfl rfl,
    fun messageId => carries.uploaded_le tracked.uploaded, ?_, ?_, ?_, ?_⟩
  · intro item member
    refine Int.le_trans ?_ carries.last
    rcases List.mem_append.mp member with new | old
    · rcases replacedMessage_known (Option.mem_toList.mp new) with ⟨entry, present, given⟩
      exact before.known operation.path entry item.oldMessageId present given
    · rw [carries.superseded.1] at old
      exact tracked.superseded item old
  · intro item member exists_
    rcases List.mem_append.mp member with new | old
    · have replaced := Option.mem_toList.mp new
      cases named : (executionResult operation outcome).messageId with
      | none =>
        rw [named] at replaced
        unfold replacedMessage at replaced
        split at replaced
        next absent => cases absent
        · cases replaced
      | some messageId =>
        rcases published_of_result named with
          ⟨path, localEntry, entry, rfl, given, ⟨copyPath, rfl⟩ | ⟨detail, rfl⟩⟩
        · refine .inr ⟨_, rfl, _, List.mem_append_right _ (List.mem_singleton.mpr rfl), ?_⟩
          exact (if_pos ⟨rfl, rfl⟩).trans replaced
        · rcases replacedMessage_known replaced with ⟨known, present, id⟩
          exact absurd (carries.present (before.known _ known _ present id) exists_)
            ((renamed entry detail rfl).2 item replaced)
    · rw [carries.superseded.1] at old
      rcases tracked.pending item old (carries.present (tracked.superseded item old) exists_) with
        listed | ⟨current, now, result, unsaved, pair⟩
      · exact .inl (carries.superseded.2 ▸ listed)
      · rw [running] at now
        cases now
        exact .inr ⟨_, rfl, result, List.mem_append_left _ unsaved, pair⟩
  · intro path messageId owned
    rcases owns path messageId owned with earlier | ⟨rfl, named⟩
    · rcases tracked.owned path messageId earlier with refers | ⟨item, member, here⟩
      · by_cases same : path = operation.path
        · subst same
          cases named : (executionResult operation outcome).messageId with
          | none =>
            left
            change RefersTo messageId after.rows[operation.path]?
            rw [carries.rows_same named]
            exact refers
          | some newMessageId =>
            have different : messageId ≠ newMessageId := by
              have bounded := tracked.uploaded messageId earlier.uploaded
              have later := carries.fresh named
              omega
            rcases replacedMessage_of_planned (planned messageId earlier) different with
              ⟨item, replaced, here⟩
            refine .inr ⟨item, List.mem_append_left _ (Option.mem_toList.mpr ?_), here⟩
            rw [named]
            exact replaced
        · left
          change RefersTo messageId after.rows[path]?
          rw [carries.rows_other same]
          exact refers
      · exact .inr ⟨item, List.mem_append_right _ (carries.superseded.1 ▸ member), here⟩
    · exact .inl (carries.refers named)
  · intro current now
    cases now
    have elsewhere {path : String} (other : path ≠ operation.path) (messageId : Int)
        (owned : (after.report cycle operation waiting outcome).Owns path messageId) :
        mapping.Owns path messageId :=
      (owns path messageId owned).resolve_right fun here => other here.1
    refine ⟨?_, ?_, ?_, ?_, ?_⟩
    · exact fun path entry messageId present given =>
        (before.known path entry messageId present given).trans carries.last
    · intro journaled
      have idle := (before.finished journaled).1
      rw [pending] at idle
      cases idle
    · change ((cycle.results ++ [executionResult operation outcome]).map (·.relativePath) ++
        waiting.map SyncOperation.path).Nodup
      rw [List.map_append, List.append_assoc]
      exact distinct
    · intro later member
      rcases before.waiting later (pending ▸ List.mem_cons_of_mem _ member) with ⟨laterWarranted, there⟩
      refine ⟨laterWarranted, there.mono (elsewhere fun same => ?_)⟩
      refine (List.nodup_cons.mp (List.Nodup.of_append_right distinct)).1 ?_
      rw [← same]
      exact List.mem_map_of_mem member
    · intro result member
      rcases List.mem_append.mp member with old | new
      · rcases before.results result old with ⟨earlier, its, rfl, earlierWarranted, left⟩
        have other : earlier.path ≠ operation.path := by
          intro same
          refine (List.disjoint_of_nodup_append distinct) (List.mem_map_of_mem old) ?_
          rw [executionResult_path, same]
          exact List.mem_cons_self
        refine ⟨earlier, its, rfl, earlierWarranted, left.mono (elsewhere other) fun messageId refers => ?_⟩
        change RefersTo messageId after.rows[earlier.path]?
        rw [carries.rows_other other]
        exact refers
      · rw [List.mem_singleton.mp new]
        refine ⟨operation, outcome, rfl, warranted, ?_⟩
        have left := carries.left warranted planned journaled fun entry detail failed =>
          (renamed entry detail failed).1
        exact left.mono (fun _ owned => ⟨owned.listed, owned.uploaded, owned.unmoved⟩) fun _ => id

theorem mappingMachine_tracked {pair : SyncPair} {event : MappingEvent}
    (condition : replacementsFinish mapping event = true) (tracked : Tracked messageOf mapping)
    (moved : (mappingMachine messageOf pair).step mapping event = some next) :
    Tracked messageOf next := by
  cases event with
  | editLocal path entry =>
    simp only [mappingMachine] at moved
    split at moved <;> cases moved
    exact outside_tracked tracked (tracked.numbered.frame rfl rfl) (Int.le_refl _) rfl rfl rfl rfl
      rfl (fun _ _ owns => ⟨owns.listed, owns.uploaded, owns.unmoved⟩) (fun _ _ => id)
  | post path entry =>
    simp only [mappingMachine] at moved
    split at moved <;> cases moved
    next admitted => exact post_tracked tracked admitted
  | edit path entry =>
    simp only [mappingMachine] at moved
    split at moved <;> cases moved
    next print => exact edit_tracked tracked print
  | withdraw messageId =>
    cases moved
    exact withdraw_tracked tracked messageId
  | resolve path chosen => exact resolve_tracked tracked moved
  | prepare clock refreshMetadata stopAfter => exact prepare_tracked tracked moved
  | perform now outcome => exact perform_tracked tracked condition moved
  | savePending => exact savePending_tracked tracked moved
  | journal clock stopAfter => exact journal_tracked tracked moved
  | cleanUp saved => exact cleanUp_tracked tracked condition moved
  | finish clock readBack stopAfter => exact finish_tracked tracked moved
  | abandon =>
    cases moved
    refine stopped_tracked tracked ?_
    intro cycle running result unsaved item pair
    simp only [replacementsFinish, running, Option.all_some, List.all_eq_true] at condition
    have settled := condition result unsaved
    rw [pair] at settled
    exact of_decide_eq_true settled

/-! ## Runs -/

private theorem foldlM_insertRemoteFile_error {preferences : SyncPreferences}
    {messages : List (String × TreeEntry)} {tree : FileTree} {error : String}
    (failed : messages.foldlM (insertRemoteFile preferences) tree = .error error) :
    Exists fun before => Exists fun file => Exists fun after => messages = before ++ file :: after ∧
      preferences.ignores file.1 = false ∧
        (file.1 ∈ tree ∨ Exists fun existing => (file.1, existing) ∈ before) := by
  induction messages generalizing tree with
  | nil => cases failed
  | cons file messages ih =>
    rw [List.foldlM_cons] at failed
    cases inserted : insertRemoteFile preferences tree file with
    | error message =>
      refine ⟨[], file, messages, rfl, ?_⟩
      unfold insertRemoteFile at inserted
      split at inserted
      next existing present =>
        split at inserted
        · cases inserted
        next kept =>
          refine ⟨Bool.eq_false_iff.mpr kept, .inl ?_⟩
          exact Std.TreeMap.mem_iff_isSome_getElem?.mpr (present ▸ rfl)
      · cases inserted
    | ok middle =>
      rw [inserted] at failed
      rcases ih failed with ⟨before, later, after, rfl, kept, place⟩
      refine ⟨file :: before, later, after, rfl, kept, ?_⟩
      rcases place with old | ⟨existing, member⟩
      · rcases insertRemoteFile_ok inserted with ⟨-, rfl⟩ | ⟨-, rfl⟩
        · rcases Std.TreeMap.mem_insert.mp old with same | already
          · refine .inr ⟨file.2, ?_⟩
            rw [← compare_eq_iff_eq.mp same]
            exact List.mem_cons_self
          · exact .inl already
        · exact .inl old
      · exact .inr ⟨existing, List.mem_cons_of_mem file member⟩

theorem scanRemote_error (numbered : mapping.Numbered messageOf) {preferences : SyncPreferences}
    {error : String} (failed : scanRemote preferences mapping.messages = .error error) :
    Exists fun path => Exists fun one => Exists fun two => preferences.ignores path = false ∧
      (path, one) ∈ mapping.messages ∧ (path, two) ∈ mapping.messages ∧
        one.messageId ≠ two.messageId := by
  rcases foldlM_insertRemoteFile_error failed with ⟨before, file, after, split, kept, place⟩
  rcases place with old | ⟨existing, member⟩
  · simp at old
  · refine ⟨file.1, existing, file.2, kept, ?_, ?_, ?_⟩
    · exact split ▸ List.mem_append_left _ member
    · exact split ▸ List.mem_append_right _ List.mem_cons_self
    · have distinct := numbered.distinct
      rw [split, List.map_append, List.nodup_append] at distinct
      exact distinct.2.2 _ (List.mem_map_of_mem member) _ (List.mem_map_of_mem List.mem_cons_self)

end Invariant

/-- Whenever a cycle stops in a run whose steps lose no message, every superseded
message that still exists is in the persisted pending list.  Once the list is
worked off, every message that the application uploaded and nobody moved is the
one of its path's row, so a scan fails only on two messages of which one is not
such an upload. -/
theorem superseded_upload_stays_pending {messageOf : String -> Option Int} {pair : SyncPair}
    {events : List MappingEvent} {final : Mapping}
    (run : (mappingMachine messageOf pair).Run
      (fun mapping event => replacementsFinish mapping event = true) Mapping.empty events final)
    (stopped : final.cycle = none) :
    (forall item, item ∈ final.history.superseded -> final.Present item.oldMessageId ->
      item ∈ final.cleanups) ∧
    (final.cleanups = [] ->
      (forall path messageId, final.Owns path messageId -> RefersTo messageId final.rows[path]?) ∧
      forall error, scanRemote pair.preferences final.messages = .error error ->
        Exists fun path => Exists fun one => Exists fun two => pair.preferences.ignores path = false ∧
          (path, one) ∈ final.messages ∧ (path, two) ∈ final.messages ∧
          one.messageId ≠ two.messageId ∧
          ¬((Exists fun messageId => one.messageId = some messageId ∧ final.Owns path messageId) ∧
            Exists fun messageId => two.messageId = some messageId ∧ final.Owns path messageId)) := by
  have tracked : Tracked messageOf final := run.invariant _
    (fun mapping event next condition before moved => mappingMachine_tracked condition before moved)
    empty_tracked
  have listed : forall item, item ∈ final.history.superseded -> final.Present item.oldMessageId ->
      item ∈ final.cleanups := by
    intro item member exists_
    refine (tracked.pending item member exists_).resolve_right ?_
    rintro ⟨cycle, running, -⟩
    rw [stopped] at running
    cases running
  refine ⟨listed, fun cleaned => ?_⟩
  have referred : forall path messageId, final.Owns path messageId ->
      RefersTo messageId final.rows[path]? := by
    intro path messageId owns
    refine (tracked.owned path messageId owns).resolve_right ?_
    rintro ⟨item, member, rfl, rfl⟩
    rcases owns.listed with ⟨entry, there, given⟩
    have waiting := listed item member ⟨_, there, given⟩
    rw [cleaned] at waiting
    cases waiting
  refine ⟨referred, fun error failed => ?_⟩
  rcases scanRemote_error tracked.numbered failed with ⟨path, one, two, kept, first, second, different⟩
  refine ⟨path, one, two, kept, first, second, different, ?_⟩
  rintro ⟨⟨oneId, oneGiven, oneOwns⟩, twoId, twoGiven, twoOwns⟩
  have same := (referred path oneId oneOwns).symm.trans (referred path twoId twoOwns)
  exact different (oneGiven.trans (same.trans twoGiven.symm))

/-! ## A cycle that stops after an upload -/

/-- A file is uploaded and then changes, and its new version is uploaded too.
The cycle either goes on or stops there. -/
def secondUpload (stops : Bool) : List MappingEvent :=
  .editLocal "notes" (some (sampleEntry "aa" 1 none)) ::
    sampleCycle (.succeeded (sampleEntry "v2:7" 1 (some 7)) "") ++
  [.editLocal "notes" (some (sampleEntry "bb" 2 none)), .prepare (fun _ => 0) [] none,
    .perform 0 (.succeeded (sampleEntry "v2:8" 2 (some 8)) "")] ++
  if stops then [.abandon]
  else [.savePending, .journal (fun _ => 0) none, .cleanUp true, .finish (fun _ => 0) true none]

/-- Stopped there, both versions are at the path, the row has the new one, and
nothing says that the old one is to be deleted: the next scan fails. -/
theorem stopped_upload_leaves_duplicate :
    Exists fun final => Exists fun item => Exists fun error =>
      (mappingMachine sampleMessageOf (samplePair .bidirectional)).replay Mapping.empty
          (secondUpload true) = some final ∧
        final.cycle = none ∧ item ∈ final.history.superseded ∧ final.Present item.oldMessageId ∧
        RefersTo item.newMessageId final.rows[item.relativePath]? ∧ final.cleanups = [] ∧
        scanRemote (samplePair .bidirectional).preferences final.messages = .error error := by
  have shape : Exists fun final => (mappingMachine sampleMessageOf (samplePair .bidirectional)).replay Mapping.empty
      (secondUpload true) = some final ∧ final.cycle.isNone = true ∧
        ⟨"notes", 7, 8, some "v2:7", by decide⟩ ∈ final.history.superseded ∧
        ("notes", sampleEntry "v2:7" 1 (some 7)) ∈ final.messages ∧ RefersTo 8 final.rows["notes"]? ∧
        final.cleanups = [] ∧ (scanRemote (samplePair .bidirectional).preferences final.messages).isOk = false := by
    decide +kernel
  rcases shape with ⟨final, replayed, stopped, superseded, message, refers, cleanups, scan⟩
  cases failed : scanRemote (samplePair .bidirectional).preferences final.messages with
  | ok tree =>
    rw [failed] at scan
    cases scan
  | error error =>
    exact ⟨final, _, error, replayed, Option.isNone_iff_eq_none.mp stopped, superseded, ⟨_, message, rfl⟩, refers,
      cleanups, failed⟩

/-- Carried to its end, the same upload leaves the new version alone at its path. -/
theorem finished_upload_is_referred :
    Exists fun final =>
      ((mappingMachine sampleMessageOf (samplePair .bidirectional)).guarded
          replacementsFinish).replay Mapping.empty (secondUpload false) = some final ∧
        final.cleanups = [] ∧ RefersTo 8 final.rows["notes"]? := by
  have shape : Exists fun final => ((mappingMachine sampleMessageOf (samplePair .bidirectional)).guarded
      replacementsFinish).replay Mapping.empty (secondUpload false) = some final ∧ final.cycle.isNone = true ∧
        final.cleanups = [] ∧ ("notes", sampleEntry "v2:8" 2 (some 8)) ∈ final.messages ∧
          8 ∈ final.history.uploaded ∧ 8 ∉ final.history.moved := by
    decide +kernel
  rcases shape with ⟨final, replayed, stopped, cleanups, listed, uploaded, unmoved⟩
  have settled := superseded_upload_stays_pending (Machine.run_of_guarded_replay replayed)
    (Option.isNone_iff_eq_none.mp stopped)
  exact ⟨final, replayed, cleanups,
    (settled.2 cleanups).1 "notes" 8 ⟨⟨_, listed, rfl⟩, uploaded, unmoved⟩⟩

end SyncEngine
end TelegramDrive
