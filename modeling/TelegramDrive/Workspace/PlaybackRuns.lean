import TelegramDrive.Workspace.PlaybackInvariants

namespace TelegramDrive
namespace Workspace
namespace Playback

/-!
# Runs of playback mutations

An accepted mutation rewrites one record, forgets one, or replaces the queue.  The
invariants hold along every run in which no mutation comes to one of three cases: a
record written behind as many as may be kept, a completed record whose duration drops
below its position, and a completed record that is finished at another duration.
-/

/-- The file whose record a mutation writes. -/
def PlaybackMutation.writes : PlaybackMutation -> Option PlaybackFile
  | .progress file .. => some file
  | .finish file _ => some file
  | .restart file => some file
  | .bookmark file _ _ => some file
  | .removeBookmark file _ => some file
  | _ => none

/-- The file that a mutation starts again or forgets. -/
def PlaybackMutation.reopens : PlaybackMutation -> Option PlaybackFile
  | .restart file => some file
  | .forget file => some file
  | _ => none

theorem reopens_writes {mutation : PlaybackMutation} {file other : PlaybackFile} (writes : mutation.writes = some file)
    (reopens : mutation.reopens = some other) : other = file := by
  cases mutation with
  | restart =>
    cases writes
    cases reopens
    rfl
  | forget => cases writes
  | _ => cases reopens

/-- What is checked of a mutation by itself when it writes a record. -/
def PlaybackMutation.Proper : PlaybackMutation -> Prop
  | .progress file _ _ volume speed => validateFile file = .ok () ∧ (Store.playable volume speed).isSome
  | .finish file _ => validateFile file = .ok ()
  | .restart file => validateFile file = .ok ()
  | .bookmark file _ label =>
    validateFile file = .ok () ∧ SyncEngine.trim label ≠ [] ∧ (SyncEngine.trim label).length ≤ 100
  | .removeBookmark file _ => validateFile file = .ok ()
  | _ => True

/-- How a mutation rewrites a record. -/
inductive Rewrites : PlaybackMutation -> PlaybackRecord -> PlaybackRecord -> Prop
  | progress {file : PlaybackFile} {positionMs durationMs : Nat} {volume speed : Option Rat}
      (value : PlaybackRecord) (preferences : PlaybackPreferences) :
      Rewrites (.progress file positionMs durationMs volume speed) value
        (Store.progressed value positionMs durationMs preferences)
  | finish {file : PlaybackFile} {durationMs : Nat} (value : PlaybackRecord) :
      Rewrites (.finish file durationMs) value (Store.finished value durationMs)
  | restart {file : PlaybackFile} (value : PlaybackRecord) :
      Rewrites (.restart file) value (Store.restarted value)
  | bookmark {file : PlaybackFile} {positionMs : Nat} {label : List Char} {value after : PlaybackRecord}
      (done : Store.bookmarked value positionMs (SyncEngine.trim label) = .ok after) :
      Rewrites (.bookmark file positionMs label) value after
  | removeBookmark {file : PlaybackFile} {positionMs : Nat} (value : PlaybackRecord) :
      Rewrites (.removeBookmark file positionMs) value { value with
        bookmarks := Store.otherBookmarks value positionMs }

theorem Rewrites.same {mutation : PlaybackMutation} {value after : PlaybackRecord}
    (rewrites : Rewrites mutation value after) :
    after.mediaId = value.mediaId ∧ after.file = value.file ∧ after.updatedAt = value.updatedAt := by
  cases rewrites with
  | progress | finish | restart | removeBookmark => exact ⟨rfl, rfl, rfl⟩
  | bookmark done =>
    unfold Store.bookmarked at done
    dsimp only at done
    split at done
    · cases done
    · cases done
      exact ⟨rfl, rfl, rfl⟩

/-- What an accepted mutation makes of the store. -/
inductive Acts (store : Store) (clock : Clock) : PlaybackMutation -> Store -> Prop
  | write {mutation : PlaybackMutation} {file : PlaybackFile} {value after : PlaybackRecord}
      {preferences : Option PlaybackPreferences} (writes : mutation.writes = some file)
      (proper : mutation.Proper) (read : store.record file clock = .ok value) (rewrites : Rewrites mutation value after) :
      Acts store clock mutation { store.save after clock with
        preferences := preferences }
  | forget {file : PlaybackFile} : Acts store clock (.forget file) (store.remove (mediaId store.owner file))
  | queue {mutation : PlaybackMutation} {queue : Option (List PlaybackFile)} (quiet : mutation.writes = none)
      (once : ((queue.getD []).map (mediaId store.owner)).Nodup) (short : (queue.getD []).length ≤ maxQueue) :
      Acts store clock mutation { store with
        queue := queue }

namespace Store

theorem save_preferences (store : Store) (value : PlaybackRecord) (clock : Clock) :
    { store.save value clock with
      preferences := store.preferences } = store.save value clock := by
  have same : (store.save value clock).preferences = store.preferences := (removeAll_rest _ _).2.2
  rw [← same]

/-- A file that is in the queue already is not put into it again. -/
theorem enqueueFile_once {owner : Int} {queue after : List PlaybackFile} {file : PlaybackFile}
    (once : (queue.map (mediaId owner)).Nodup) (done : enqueueFile owner queue file = .ok after) :
    (after.map (mediaId owner)).Nodup := by
  rcases Results.bind_ok done with ⟨_, _, final⟩
  cases final
  split
  · exact once
  next absent =>
    rw [List.map_append, List.map_singleton, List.nodup_append]
    refine ⟨once, List.nodup_singleton _, ?_⟩
    rintro id member other new rfl
    rw [List.mem_singleton] at new
    rcases List.mem_map.mp member with ⟨item, among, same⟩
    exact absent (List.any_eq_true.mpr ⟨item, among, decide_eq_true (same.trans new)⟩)

theorem enqueueAll_once {owner : Int} {files queue after : List PlaybackFile}
    (once : (queue.map (mediaId owner)).Nodup) (done : files.foldlM (enqueueFile owner) queue = .ok after) :
    (after.map (mediaId owner)).Nodup := by
  induction files generalizing queue with
  | nil =>
    cases done
    exact once
  | cons file files ih =>
    rw [List.foldlM_cons] at done
    rcases Results.bind_ok done with ⟨middle, first, rest⟩
    exact ih (enqueueFile_once once first) rest

theorem record_valid {store : Store} {file : PlaybackFile} {clock : Clock} {value : PlaybackRecord}
    (read : store.record file clock = .ok value) : validateFile file = .ok () := by
  rcases Results.bind_ok read with ⟨_, checked, _⟩
  exact checked

theorem record_fields {store : Store} {file : PlaybackFile} {clock : Clock} {value : PlaybackRecord}
    (read : store.record file clock = .ok value) : value.file = file ∧ value.updatedAt = clock.recorded := by
  rcases Results.bind_ok read with ⟨_, _, final⟩
  cases final
  exact ⟨rfl, rfl⟩

theorem record_found {store : Store} {file : PlaybackFile} {value : PlaybackRecord}
    (valid : validateFile file = .ok ()) (found : store.find (mediaId store.owner file) = some value) (clock : Clock) :
    store.record file clock = .ok { value with
      file := file
      updatedAt := clock.recorded } := by
  unfold record
  rw [valid, found]
  rfl

theorem act_acts {store next : Store} (sound : store.Sound) {clock : Clock} {mutation : PlaybackMutation}
    (done : store.act clock mutation = .ok next) : Acts store clock mutation next := by
  cases mutation with
  | progress file positionMs durationMs volume speed =>
    unfold act at done
    dsimp only at done
    split at done
    · cases done
    next preferences fine =>
      rcases Results.bind_ok done with ⟨value, read, final⟩
      cases final
      have proper := And.intro (record_valid read) (Option.isSome_of_eq_some fine)
      exact .write rfl proper read (.progress value _)
  | finish file durationMs =>
    rcases Results.bind_ok done with ⟨value, read, final⟩
    cases final
    rw [← save_preferences]
    exact .write rfl (record_valid read) read (.finish value)
  | restart file =>
    rcases Results.bind_ok done with ⟨value, read, final⟩
    cases final
    rw [← save_preferences]
    exact .write rfl (record_valid read) read (.restart value)
  | bookmark file positionMs label =>
    change (if _ then _ else _) = _ at done
    split at done
    · cases done
    next fine =>
      rw [not_or, Nat.not_gt_eq] at fine
      rcases Results.bind_ok done with ⟨value, read, rest⟩
      rcases Results.bind_ok rest with ⟨after, added, final⟩
      cases final
      rw [← save_preferences]
      exact .write rfl ⟨record_valid read, fine⟩ read (.bookmark added)
  | removeBookmark file positionMs =>
    rcases Results.bind_ok done with ⟨value, read, final⟩
    cases final
    rw [← save_preferences]
    exact .write rfl (record_valid read) read (.removeBookmark value)
  | forget file =>
    rcases Results.bind_ok done with ⟨_, _, final⟩
    cases final
    exact .forget
  | enqueue files =>
    change (if _ then _ else _) = _ at done
    split at done
    · cases done
    · rcases Results.bind_ok done with ⟨queue, built, final⟩
      change (if _ then _ else _) = _ at final
      split at final
      · cases final
      next room =>
        cases final
        exact .queue rfl (enqueueAll_once sound.queueOnce built) (Nat.le_of_not_gt room)
  | removeQueue file =>
    rcases Results.bind_ok done with ⟨_, _, final⟩
    cases final
    exact .queue rfl (sound.queueOnce.sublist (List.filter_sublist.map _))
      (Nat.le_trans (List.length_filter_le _ _) sound.queueShort)
  | clearQueue =>
    cases done
    exact .queue rfl List.nodup_nil (Nat.zero_le _)

end Store

/-- What the wall clock and the player have to leave alone. -/
structure Fits (store : Store) (event : Event) : Prop where
  /-- A record is written before fewer records than may be kept. -/
  room : forall file, event.mutation.writes = some file ->
    (Store.ahead store (mediaId store.owner file) event.clock.stored).length < maxHistory
  /-- A completed record gets no duration below its position. -/
  longer : forall file positionMs durationMs volume speed old,
    event.mutation = .progress file positionMs durationMs volume speed ->
    store.find (mediaId store.owner file) = some old -> old.completed = true -> 0 < durationMs ->
    old.positionMs ≤ durationMs
  /-- A completed record is finished at its position again. -/
  again : forall file durationMs old, event.mutation = .finish file durationMs ->
    store.find (mediaId store.owner file) = some old -> old.completed = true ->
    (0 < durationMs -> old.positionMs = durationMs) ∧
      (durationMs = 0 -> 0 < old.durationMs -> old.positionMs = old.durationMs)

/-- The condition on a mutation that is not refused. -/
def Allowed (store : Store) (event : Event) : Prop :=
  event.sqlite = .ok () -> event.mutation.Proper -> Fits store event

/-- What one mutation of a store does. -/
structure Obeys (store : Store) (event : Event) (next : Store) (answer : Except String Unit) : Prop where
  /-- A failure changes nothing. -/
  failed : forall error, answer = .error error -> next = store
  /-- A record that was just written is there. -/
  written : answer = .ok () -> forall file, event.mutation.writes = some file ->
    Exists fun value => next.find (mediaId store.owner file) = some value ∧ value.file = file ∧
      value.updatedAt = event.clock.recorded
  /-- A completed record stays as it is until it is restarted or forgotten. -/
  completed : forall id old new, store.find id = some old -> old.completed = true ->
    next.find id = some new -> (forall file, event.mutation.reopens = some file -> mediaId store.owner file ≠ id) ->
    new.completed = true ∧ new.positionMs = old.positionMs
  /-- It is removed otherwise only when there are as many records as may be kept. -/
  remains : forall id old, store.find id = some old -> store.playback.length < maxHistory ->
    (forall file, event.mutation.reopens = some file -> mediaId store.owner file ≠ id) ->
    Exists fun new => next.find id = some new
  /-- A bookmark at a position that has one takes its place. -/
  replaces : forall file positionMs label value bookmark, event.mutation = .bookmark file positionMs label ->
    event.sqlite = .ok () -> validateFile file = .ok () ->
    SyncEngine.trim label ≠ [] -> (SyncEngine.trim label).length ≤ 100 ->
    store.find (mediaId store.owner file) = some value -> bookmark ∈ value.bookmarks ->
    bookmark.positionMs = Store.clamp positionMs value.durationMs ->
    answer = .ok () ∧ Exists fun new => next.find (mediaId store.owner file) = some new ∧
      new.bookmarks.length = value.bookmarks.length ∧
        ⟨bookmark.positionMs, SyncEngine.trim label⟩ ∈ new.bookmarks

section Steps

variable {store : Store} (sound : store.Sound) {event : Event} (fits : Fits store event)

include sound fits

theorem rewrites_kept {file : PlaybackFile} {value after : PlaybackRecord}
    (writes : event.mutation.writes = some file) (read : store.record file event.clock = .ok value)
    (rewrites : Rewrites event.mutation value after) :
    after.Kept ∧ (value.completed = true -> event.mutation.reopens = none ->
      after.completed = true ∧ after.positionMs = value.positionMs) := by
  rcases Store.record_ok sound read with ⟨_, _, kept, origin⟩
  have opened : value.completed = true -> Exists fun old => store.find (mediaId store.owner file) = some old ∧
      old.completed = true ∧ old.positionMs = value.positionMs ∧ old.durationMs = value.durationMs := by
    intro completed
    rcases origin with ⟨old, found, rfl⟩ | ⟨_, fresh⟩
    · exact ⟨old, found, completed, rfl, rfl⟩
    · rw [completed] at fresh
      cases fresh
  generalize same : event.mutation = mutation at rewrites writes
  cases rewrites with
  | progress _ preferences =>
    cases writes
    refine ⟨Store.progressed_kept kept preferences ?_, fun completed _ => ⟨completed, ?_⟩⟩
    · intro completed given
      rcases opened completed with ⟨old, found, done, position, _⟩
      exact position ▸ fits.longer file _ _ _ _ old same found done given
    · unfold Store.progressed
      dsimp only
      rw [if_pos completed]
  | finish =>
    cases writes
    refine ⟨Store.finished_kept kept _, fun completed _ => ⟨rfl, ?_⟩⟩
    rcases opened completed with ⟨old, found, done, position, duration⟩
    have alike := fits.again file _ old same found done
    rw [position, duration] at alike
    unfold Store.finished
    dsimp only
    split
    next given => exact (alike.1 given).symm
    next missing =>
      split
      next known => exact (alike.2 (Nat.eq_zero_of_not_pos missing) known).symm
      · rfl
  | restart => exact ⟨Store.restarted_kept kept, fun _ quiet => by cases quiet⟩
  | bookmark done =>
    rcases Store.bookmarked_kept kept done with ⟨fine, shape⟩
    refine ⟨fine, fun completed _ => ?_⟩
    rw [shape]
    exact ⟨completed, rfl⟩
  | removeBookmark => exact ⟨Store.otherBookmarks_kept kept _, fun completed _ => ⟨completed, rfl⟩⟩

theorem acts_sound {next : Store} (acts : Acts store event.clock event.mutation next) : next.Sound := by
  generalize same : event.mutation = mutation at acts
  cases acts with
  | write writes proper read rewrites =>
    subst same
    have saved := Store.save_sound sound event.clock (rewrites_kept sound fits writes read rewrites).1
    exact { saved with }
  | forget =>
    exact {
      queueOnce := sound.queueOnce
      queueShort := sound.queueShort
      rows := sound.rows.sublist (List.filter_sublist.map Row.id)
      named := fun row member => sound.named row (List.mem_of_mem_filter member)
      kept := fun row member => sound.kept row (List.mem_of_mem_filter member)
      short := Nat.le_trans (List.length_filter_le _ _) sound.short }
  | queue quiet once short => exact { sound with
      queueOnce := once
      queueShort := short }

/-- The record that an accepted mutation writes is found, as it was written. -/
theorem acts_written {next : Store} (acts : Acts store event.clock event.mutation next) {file : PlaybackFile}
    (writes : event.mutation.writes = some file) :
    Exists fun after => next.find (mediaId store.owner file) = some after ∧
      (Exists fun value => store.record file event.clock = .ok value ∧ Rewrites event.mutation value after) := by
  generalize same : event.mutation = mutation at acts writes
  cases acts with
  | write others proper read rewrites =>
    rw [others] at writes
    cases writes
    have named := rewrites.same.1.trans (Store.record_ok sound read).2.1
    have room := fits.room file (same ▸ others)
    rw [← named] at room ⊢
    exact ⟨_, Store.find_save_self sound event.clock room, _, read, rewrites⟩
  | forget => cases writes
  | queue quiet =>
    rw [quiet] at writes
    cases writes

theorem acts_completed {next : Store} (acts : Acts store event.clock event.mutation next) {id : String}
    {old new : PlaybackRecord} (found : store.find id = some old) (completed : old.completed = true)
    (after : next.find id = some new)
    (other : forall file, event.mutation.reopens = some file -> mediaId store.owner file ≠ id) :
    new.completed = true ∧ new.positionMs = old.positionMs := by
  generalize same : event.mutation = mutation at acts
  cases acts with
  | @write _ file value rewritten _ writes proper read rewrites =>
    subst same
    have saved : (store.save rewritten event.clock).find id = some new := after
    by_cases own : id = rewritten.mediaId
    · subst own
      cases Store.find_save_own sound event.clock saved
      have named := rewrites.same.1.trans (Store.record_ok sound read).2.1
      rw [named] at found other
      have quiet : event.mutation.reopens = none := by
        cases reopened : event.mutation.reopens with
        | none => rfl
        | some again => exact (other again reopened (reopens_writes writes reopened ▸ rfl)).elim
      rcases (Store.record_ok sound read).2.2.2 with ⟨before, known, whole⟩ | ⟨missing, _⟩
      · rw [found] at known
        cases known
        subst whole
        exact (rewrites_kept sound fits writes read rewrites).2 completed quiet
      · rw [found] at missing
        cases missing
    · have before := Store.find_save_other sound event.clock own saved
      rw [found] at before
      cases before
      exact ⟨completed, rfl⟩
  | @forget file =>
    have stays := Store.find_remove_other store (other file (congrArg PlaybackMutation.reopens same)).symm
    rw [stays, found] at after
    cases after
    exact ⟨completed, rfl⟩
  | queue =>
    change store.find id = some new at after
    rw [found] at after
    cases after
    exact ⟨completed, rfl⟩

theorem acts_remains {next : Store} (acts : Acts store event.clock event.mutation next) {id : String}
    {old : PlaybackRecord} (found : store.find id = some old) (room : store.playback.length < maxHistory)
    (other : forall file, event.mutation.reopens = some file -> mediaId store.owner file ≠ id) :
    Exists fun new => next.find id = some new := by
  generalize same : event.mutation = mutation at acts
  cases acts with
  | @write _ file value rewritten _ writes proper read rewrites =>
    subst same
    by_cases own : id = rewritten.mediaId
    · subst own
      have named := rewrites.same.1.trans (Store.record_ok sound read).2.1
      rcases acts_written sound fits (.write writes proper read rewrites) writes with ⟨after, stored, _⟩
      exact ⟨after, named ▸ stored⟩
    · exact ⟨old, Store.find_save_stays sound event.clock room own found⟩
  | @forget file =>
    have stays := Store.find_remove_other store (other file (congrArg PlaybackMutation.reopens same)).symm
    exact ⟨old, stays.trans found⟩
  | queue => exact ⟨old, found⟩

/-- A bookmark at a position that has one is accepted, and takes the place of the old one. -/
theorem bookmark_replaces {file : PlaybackFile} {positionMs : Nat} {label : List Char}
    {value : PlaybackRecord} {bookmark : Bookmark} (same : event.mutation = .bookmark file positionMs label)
    (valid : validateFile file = .ok ()) (named : SyncEngine.trim label ≠ [])
    (brief : (SyncEngine.trim label).length ≤ 100) (found : store.find (mediaId store.owner file) = some value)
    (member : bookmark ∈ value.bookmarks) (position : bookmark.positionMs = Store.clamp positionMs value.durationMs) :
    Exists fun next => store.act event.clock event.mutation = .ok next ∧
      Exists fun new => next.find (mediaId store.owner file) = some new ∧
        new.bookmarks.length = value.bookmarks.length ∧
          ⟨bookmark.positionMs, SyncEngine.trim label⟩ ∈ new.bookmarks := by
  have kept : value.Kept := by
    rcases Store.find_some found with ⟨row, among, _, rfl⟩
    exact sound.kept row among
  have less := Store.otherBookmarks_length kept member
  have few := kept.few
  rw [position] at less
  have read := Store.record_found valid found event.clock
  have added : Exists fun after => Store.bookmarked { value with
      file := file
      updatedAt := event.clock.recorded } positionMs (SyncEngine.trim label) = .ok after := by
    unfold Store.bookmarked
    dsimp only
    rw [if_neg]
    · exact ⟨_, rfl⟩
    · change ¬ (Store.otherBookmarks value _).length ≥ maxBookmarks
      omega
  rcases added with ⟨after, added⟩
  have done : store.act event.clock event.mutation = .ok (store.save after event.clock) := by
    rw [same]
    change (if _ then _ else _) = _
    rw [if_neg (not_or.mpr ⟨named, Nat.not_lt.mpr brief⟩), read]
    change (Store.bookmarked _ _ _ >>= _) = _
    rw [added]
    rfl
  refine ⟨_, done, ?_⟩
  have shape := (Store.bookmarked_kept (Store.record_ok sound read).2.2.1 added).2
  have identity := (Store.record_ok sound read).2.1
  have room := fits.room file (congrArg PlaybackMutation.writes same)
  have own : after.mediaId = mediaId store.owner file := by
    rw [shape]
    exact identity
  rw [← own] at room ⊢
  refine ⟨after, Store.find_save_self sound event.clock room, ?_⟩
  rw [shape, position]
  change (Store.sortBookmarks (Store.otherBookmarks value _ ++ [_])).length = _ ∧
    _ ∈ Store.sortBookmarks (Store.otherBookmarks value _ ++ [_])
  have perm := List.perm_insertionSort (fun one two : Bookmark => one.positionMs ≤ two.positionMs)
    (Store.otherBookmarks value (Store.clamp positionMs value.durationMs) ++
      [⟨Store.clamp positionMs value.durationMs, SyncEngine.trim label⟩])
  constructor
  · rw [Store.sortBookmarks, List.length_insertionSort, List.length_append, List.length_singleton]
    exact less
  · exact perm.mem_iff.mpr (List.mem_append_right _ List.mem_cons_self)

end Steps

/-! ## Runs -/

/-- A mutation is refused, or taken up whole. -/
theorem mutate_cases (store : Store) (event : Event) :
    (Exists fun error => store.mutate event.mutation event.clock event.sqlite = (store, .error error)) ∨
      Exists fun next => event.sqlite = .ok () ∧ store.act event.clock event.mutation = .ok next ∧
        store.mutate event.mutation event.clock event.sqlite = (next, .ok ()) := by
  unfold Store.mutate
  split
  · exact Or.inl ⟨_, rfl⟩
  · exact Or.inl ⟨_, rfl⟩
  next next answer done committed => exact Or.inr ⟨next, committed, done, rfl⟩

theorem Acts.proper {store next : Store} {clock : Clock} {mutation : PlaybackMutation}
    (acts : Acts store clock mutation next) : mutation.Proper := by
  cases acts with
  | write writes proper => exact proper
  | forget => trivial
  | @queue mutation _ quiet =>
    cases mutation with
    | forget | enqueue | removeQueue | clearQueue => trivial
    | _ => cases quiet

/-- A permitted mutation keeps the store sound. -/
theorem step_sound {store next : Store} {event : Event} (sound : store.Sound) (allowed : Allowed store event)
    (moved : machine.step store event = some next) : next.Sound := by
  cases Option.some.inj moved
  rcases mutate_cases store event with ⟨error, same⟩ | ⟨next, committed, done, same⟩
  · rw [same]
    exact sound
  · have acts := Store.act_acts sound done
    rw [same]
    exact acts_sound sound (allowed committed acts.proper) acts

theorem step_obeys {store : Store} {event : Event} (sound : store.Sound) (allowed : Allowed store event) :
    Obeys store event (store.mutate event.mutation event.clock event.sqlite).1
      (store.mutate event.mutation event.clock event.sqlite).2 := by
  have replaced : forall file positionMs label value bookmark, event.mutation = .bookmark file positionMs label ->
      event.sqlite = .ok () -> validateFile file = .ok () ->
      SyncEngine.trim label ≠ [] -> (SyncEngine.trim label).length ≤ 100 ->
      store.find (mediaId store.owner file) = some value -> bookmark ∈ value.bookmarks ->
      bookmark.positionMs = Store.clamp positionMs value.durationMs ->
      (store.mutate event.mutation event.clock event.sqlite).2 = .ok () ∧
        Exists fun new => (store.mutate event.mutation event.clock event.sqlite).1.find
          (mediaId store.owner file) = some new ∧ new.bookmarks.length = value.bookmarks.length ∧
            ⟨bookmark.positionMs, SyncEngine.trim label⟩ ∈ new.bookmarks := by
    intro file positionMs label value bookmark same committed valid named brief found member position
    have proper : event.mutation.Proper := by
      rw [same]
      exact ⟨valid, named, brief⟩
    rcases bookmark_replaces sound (allowed committed proper) same valid named brief found member position with
      ⟨next, done, new, stored, whole⟩
    have answer : store.mutate event.mutation event.clock event.sqlite = (next, .ok ()) := by
      unfold Store.mutate
      rw [done, committed]
    rw [answer]
    exact ⟨rfl, new, stored, whole⟩
  rcases mutate_cases store event with ⟨error, same⟩ | ⟨next, committed, done, same⟩
  · rw [same] at replaced ⊢
    exact {
      failed := fun _ _ => rfl
      written := fun accepted => by cases accepted
      completed := fun id old new found completed after _ => by
        rw [found] at after
        cases after
        exact ⟨completed, rfl⟩
      remains := fun id old found _ _ => ⟨old, found⟩
      replaces := replaced }
  · have acts := Store.act_acts sound done
    have fits := allowed committed acts.proper
    rw [same] at replaced ⊢
    exact {
      failed := fun _ failed => by cases failed
      written := fun _ file writes => by
        rcases acts_written sound fits acts writes with ⟨after, stored, value, read, rewrites⟩
        rcases Store.record_fields read with ⟨of, time⟩
        exact ⟨after, stored, rewrites.same.2.1.trans of, rewrites.same.2.2.trans time⟩
      completed := fun id old new found completed after other =>
        acts_completed sound fits acts found completed after other
      remains := fun id old found room other => acts_remains sound fits acts found room other
      replaces := replaced }

/-- Along a run of permitted mutations, whatever the files, the positions and the readings of
the clock, the store keeps its invariants, and each further mutation does what is expected. -/
theorem playback_keeps_invariants (owner : Int) (events : List Event) (store : Store)
    (run : machine.Run Allowed (.empty owner) events store) :
    store.Sound ∧ forall event, Allowed store event ->
      Obeys store event (store.mutate event.mutation event.clock event.sqlite).1
        (store.mutate event.mutation event.clock event.sqlite).2 := by
  have sound : store.Sound := by
    apply run.invariant Store.Sound _ (empty_sound owner)
    intro store event next allowed sound moved
    exact step_sound sound allowed moved
  exact ⟨sound, fun event allowed => step_obeys sound allowed⟩

/-! ## A film that was seen to its end -/

def film : PlaybackFile := ⟨none, 7, "film", 1, none, "plain"⟩

/-- The film of this length ends. -/
def ending (durationMs : Nat) : Event := ⟨.finish film durationMs, ⟨5, 5⟩, .ok ()⟩

/-- The player shows the start of the film, of this length, again. -/
def glance (durationMs : Nat) : Event := ⟨.progress film 0 durationMs (some 1) (some 1), ⟨6, 6⟩, .ok ()⟩

/-- The store when the film has ended. -/
def endedStore : Store := ⟨1, [⟨"1:saved:7", 5, ⟨"1:saved:7", "1", film, 100, 100, true, 1, 1, 5, []⟩⟩], none, none⟩

theorem ending_fits : Fits (.empty 1) (ending 100) where
  room := by
    intro file writes
    cases writes
    decide +kernel
  longer := fun _ _ _ _ _ _ same => by cases same
  again := fun _ _ _ _ found => by cases found

theorem glance_fits : Fits endedStore (glance 100) where
  room := by
    intro file writes
    cases writes
    decide +kernel
  longer := by
    intro file positionMs durationMs volume speed old same found completed given
    cases same
    have known : (endedStore.find (mediaId 1 film)).all (fun old => decide (old.positionMs ≤ 100)) = true := by
      decide +kernel
    change endedStore.find (mediaId 1 film) = some old at found
    rw [found] at known
    exact of_decide_eq_true known
  again := fun _ _ _ same => by cases same

theorem playback_keeps_invariants_here : Exists fun store =>
    machine.Run Allowed (.empty 1) [ending 100, glance 100] store ∧ store.Sound := by
  have first : machine.step (.empty 1) (ending 100) = some endedStore := by decide +kernel
  have run : machine.Run Allowed (.empty 1) [ending 100, glance 100] _ :=
    .take (fun _ _ => ending_fits) first (.take (fun _ _ => glance_fits) rfl (.stop _))
  exact ⟨_, run, (playback_keeps_invariants 1 _ _ run).1⟩

/-- The film is shown again with a shorter length, and its record is behind its own end. -/
theorem shortened_film_breaks_invariants : ¬ forall owner events store,
    machine.Run Machine.anything (.empty owner) events store -> store.Sound := by
  intro claimed
  have shown : (machine.replay (.empty 1) [ending 100, glance 50]).any (fun store => decide (Exists fun row =>
      row ∈ store.playback ∧ 0 < row.value.durationMs ∧ row.value.durationMs < row.value.positionMs)) = true := by
    decide +kernel
  rcases Machine.exists_run shown with ⟨store, run, row, member, long, behind⟩
  exact Nat.not_le.mpr behind (((claimed 1 _ store run).kept row member).within long)

end Playback
end Workspace
end TelegramDrive
