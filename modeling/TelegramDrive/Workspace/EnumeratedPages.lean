import TelegramDrive.Library.Decimal
import TelegramDrive.Workspace.PageSessions

namespace TelegramDrive
namespace Workspace
namespace Pagination

open LocalStore

/-!
# What the pages of a session enumerate

A session moves its offset by what it returned and reads every page from one
snapshot, so its pages are consecutive parts of one list.
-/

section Rows

variable {SqlValue : Type} {database : Database SqlValue}

/-! ## The list of a database -/

variable {rows : List (LibraryRow SqlValue)}

theorem visibleOf_ok {files : List (LibraryRow SqlValue)} (read : database.visibleOf files = .ok rows) :
    List.Sublist rows files ∧ forall row, row ∈ rows ↔ row ∈ files ∧ database.visible row.key = .ok true := by
  induction files generalizing rows with
  | nil =>
    cases read
    exact ⟨List.Sublist.refl [], fun row => by simp⟩
  | cons row rest ih =>
    rcases Results.bind_ok read with ⟨shown, first, later⟩
    rcases Results.bind_ok later with ⟨others, tail, final⟩
    rcases ih tail with ⟨sublist, members⟩
    cases final
    cases shown with
    | true =>
      refine ⟨sublist.cons_cons row, fun other => ?_⟩
      rw [if_pos rfl, List.mem_cons, List.mem_cons, members]
      constructor
      · rintro (rfl | ⟨member, visible⟩)
        · exact ⟨Or.inl rfl, first⟩
        · exact ⟨Or.inr member, visible⟩
      · rintro ⟨rfl | member, visible⟩
        · exact Or.inl rfl
        · exact Or.inr ⟨member, visible⟩
    | false =>
      refine ⟨sublist.cons row, fun other => ?_⟩
      rw [if_neg Bool.false_ne_true, List.mem_cons, members]
      constructor
      · rintro ⟨member, visible⟩
        exact ⟨Or.inr member, visible⟩
      · rintro ⟨rfl | member, visible⟩
        · rw [first] at visible
          cases visible
        · exact ⟨member, visible⟩

theorem withCreated_ok {keyed : List (SqlValue × LibraryRow SqlValue)}
    (read : Database.withCreated rows = .ok keyed) :
    keyed.map Prod.snd = rows ∧ forall pair, pair ∈ keyed -> pair.2.created = .ok pair.1 := by
  induction rows generalizing keyed with
  | nil =>
    cases read
    exact ⟨rfl, fun pair member => nomatch member⟩
  | cons row rest ih =>
    rcases Results.bind_ok read with ⟨created, first, later⟩
    rcases Results.bind_ok later with ⟨others, tail, final⟩
    rcases ih tail with ⟨rows, values⟩
    cases final
    refine ⟨congrArg (row :: ·) rows, fun pair member => ?_⟩
    rcases List.mem_cons.mp member with rfl | member
    · exact first
    · exact values pair member

theorem readFile_key {row : LibraryRow SqlValue} {file : WorkspaceFile}
    (read : database.readFile row = .ok file) : file.key = row.key := by
  rcases Results.bind_ok read with ⟨metadata, _, later⟩
  rcases Results.bind_ok later with ⟨favorite, _, later⟩
  rcases Results.bind_ok later with ⟨pinned, _, final⟩
  cases final
  rfl

theorem keys_of_read {files : List WorkspaceFile}
    (read : List.Forall₂ (fun row file => database.readFile row = .ok file) rows files) :
    files.map WorkspaceFile.key = rows.map LibraryRow.key := by
  induction read with
  | nil => rfl
  | cons first _ ih =>
    rw [List.map_cons, List.map_cons, readFile_key first, ih]

variable [LinearOrder SqlValue]

theorem before_total (one two : SqlValue × LibraryRow SqlValue) : Before one two ∨ Before two one := by
  rcases lt_trichotomy one.1 two.1 with less | same | more
  · exact Or.inr (Or.inl less)
  · rcases textLe_total one.2.key two.2.key with low | high
    · exact Or.inl (Or.inr ⟨same, low⟩)
    · exact Or.inr (Or.inr ⟨same.symm, high⟩)
  · exact Or.inl (Or.inl more)

theorem before_trans {one two three : SqlValue × LibraryRow SqlValue} (first : Before one two)
    (second : Before two three) : Before one three := by
  rcases first with more | ⟨same, low⟩
  · rcases second with again | ⟨alike, _⟩
    · exact Or.inl (lt_trans again more)
    · exact Or.inl (alike ▸ more)
  · rcases second with again | ⟨alike, lower⟩
    · exact Or.inl (same ▸ again)
    · exact Or.inr ⟨same.trans alike, textLe_trans low lower⟩

/-- Two rows as the library is ordered: by the creation, the newest first, then by the key. -/
def InOrder (one two : LibraryRow SqlValue) : Prop :=
  Exists fun first => Exists fun second => one.created = .ok first ∧ two.created = .ok second ∧
    (second < first ∨ first = second ∧ TextLe one.key two.key)

/-- The rows that a query returns are the visible ones, each once, in the order. -/
structure Lists (database : Database SqlValue) (rows : List (LibraryRow SqlValue)) : Prop where
  once : (rows.map LibraryRow.key).Nodup
  members : forall row, row ∈ rows ↔ row ∈ database.files ∧ database.visible row.key = .ok true
  inOrder : rows.Pairwise InOrder

theorem ordered_lists (read : database.ordered = .ok rows) :
    Lists database rows := by
  rcases Results.bind_ok read with ⟨shown, visible, later⟩
  rcases Results.bind_ok later with ⟨keyed, created, final⟩
  cases final
  rcases visibleOf_ok visible with ⟨sublist, members⟩
  rcases withCreated_ok created with ⟨rows, values⟩
  have perm : ((keyed.insertionSort Before).map Prod.snd).Perm shown := by
    rw [← rows]
    exact (List.perm_insertionSort Before keyed).map Prod.snd
  have sorted : (keyed.insertionSort Before).Pairwise Before := by
    have total : Std.Total (@Before SqlValue _) := ⟨before_total⟩
    have transitive : IsTrans _ (@Before SqlValue _) := ⟨fun _ _ _ => before_trans⟩
    exact List.pairwise_insertionSort Before keyed
  exact {
    once := ((perm.map LibraryRow.key).nodup_iff).mpr (database.keys.sublist (sublist.map LibraryRow.key))
    members := fun row => perm.mem_iff.trans (members row)
    inOrder := by
      rw [List.pairwise_map]
      refine sorted.imp_of_mem ?_
      intro one two first second before
      have mine := (List.perm_insertionSort Before keyed).mem_iff.mp first
      have its := (List.perm_insertionSort Before keyed).mem_iff.mp second
      exact ⟨one.1, two.1, values one mine, values two its, before⟩ }

theorem count_ordered {total : Nat} (counted : database.count = .ok total)
    (read : database.ordered = .ok rows) : total = rows.length ∧ total < Database.maxCount := by
  rcases Results.bind_ok counted with ⟨shown, visible, later⟩
  split at later
  next fits =>
    cases later
    rcases Results.bind_ok read with ⟨again, same, later⟩
    rw [visible] at same
    cases same
    rcases Results.bind_ok later with ⟨keyed, created, final⟩
    cases final
    rcases withCreated_ok created with ⟨rows, _⟩
    refine ⟨?_, fits⟩
    rw [List.length_map, List.length_insertionSort, ← rows, List.length_map]
  · cases later

/-! ## A page -/

/-- The part of the list that a page holds. -/
structure PartOf (database : Database SqlValue) (offset limit : Nat) (files : List WorkspaceFile)
    (total : Nat) (rows : List (LibraryRow SqlValue)) : Prop where
  ordered : database.ordered = .ok rows
  read : ((rows.drop offset).take limit).mapM database.readFile = .ok files
  counted : total = rows.length
  fits : total < Database.maxCount

theorem snapshotPage_part {owner : Int} {offset limit total : Nat} {snapshot : Snapshot}
    (paged : database.snapshotPage owner offset limit = .ok (snapshot, total)) :
    Exists fun rows => PartOf database offset limit snapshot.files total rows := by
  rcases Results.bind_ok paged with ⟨number, count, later⟩
  rcases Results.bind_ok later with ⟨rows, ordered, later⟩
  rcases Results.bind_ok later with ⟨files, read, later⟩
  rcases Results.bind_ok later with ⟨collections, _, later⟩
  rcases Results.bind_ok later with ⟨searches, _, later⟩
  rcases Results.bind_ok later with ⟨scans, _, final⟩
  cases final
  rcases count_ordered count ordered with ⟨same, fits⟩
  exact ⟨rows, ordered, read, same, fits⟩

theorem PartOf.length {offset limit total : Nat} {files : List WorkspaceFile}
    (part : PartOf database offset limit files total rows) : files.length = min limit (total - offset) := by
  have same := (Results.mapM_ok part.read).length_eq
  rw [List.length_take, List.length_drop, ← part.counted] at same
  exact same.symm

theorem PartOf.unique {offset limit total offset' limit' total' : Nat} {files files' : List WorkspaceFile}
    {rows' : List (LibraryRow SqlValue)} (one : PartOf database offset limit files total rows)
    (two : PartOf database offset' limit' files' total' rows') : rows' = rows ∧ total' = total := by
  have same := two.ordered
  rw [one.ordered] at same
  cases same
  exact ⟨rfl, two.counted.trans one.counted.symm⟩

end Rows

/-! ## Cursors -/

theorem parseUsize_toDigits {number : Nat} (fits : number < 2 ^ 64) :
    parseUsize (Nat.toDigits 10 number) = some number := by
  have value : Nat.ofDigitChars 10 (Nat.toDigits 10 number) 0 = number := by simp
  have digits : (Nat.toDigits 10 number).all Char.isDigit = true := by
    rw [List.all_eq_true]
    intro character member
    exact Decimal.isDigit_toDigits member
  have some' : Nat.toDigits 10 number ≠ [] := Nat.toDigits_ne_nil
  have plain : (Nat.toDigits 10 number).head? ≠ some '+' := by
    intro plus
    exact absurd (Decimal.isDigit_toDigits (List.mem_of_head? plus)) (by decide)
  unfold parseUsize
  rw [if_neg plain]
  dsimp only
  rw [value, if_pos ⟨some', digits, fits⟩]

theorem splitOnce_formatCursor {id : SessionId} (plain : ':' ∉ id) (offset : Nat) :
    splitOnce (formatCursor id offset) = some (id, Nat.toDigits 10 offset) := by
  have free : forall character, character ∈ id -> decide (character ≠ ':') = true := by
    intro character member
    rw [decide_eq_true_eq]
    rintro rfl
    exact plain member
  unfold splitOnce formatCursor
  rw [if_pos (List.mem_append_right id List.mem_cons_self), List.takeWhile_append_of_pos free,
    List.dropWhile_append_of_pos free]
  simp

theorem parseCursor_of {text id rest : List Char} {offset : Nat} (parts : splitOnce text = some (id, rest))
    (number : parseUsize rest = some offset) : parseCursor text = some (id, offset) := by
  unfold parseCursor
  rw [parts]
  simp only [Option.bind_eq_bind, Option.bind_some]
  rw [number]
  rfl

theorem parseCursor_formatCursor {id : SessionId} {offset : Nat} (plain : ':' ∉ id) (fits : offset < 2 ^ 64) :
    parseCursor (formatCursor id offset) = some (id, offset) :=
  parseCursor_of (splitOnce_formatCursor plain offset) (parseUsize_toDigits fits)

/-! ## The invariant -/

section Machine

variable {SqlValue : Type}

/-- A cursor stands for an offset of a session; without one a reader starts at the front. -/
def Means (cursor : Option (List Char)) (id : SessionId) (offset : Nat) : Prop :=
  match cursor with
  | none => offset = 0
  | some text => parseCursor text = some (id, offset)

/-- A reader that is about to read a page has a session of its account. -/
def Paging (state : State SqlValue) (reader : Reader) : Prop :=
  1 ≤ reader.limit ∧ forall id expected, reader.stage = .paging id expected ->
    Means reader.cursor id expected ∧ Exists fun session => state.sessions id = some session ∧
      session.account = reader.account

/-- What may become of the sessions: none is lost, and each keeps its account and its snapshot
and only moves on. -/
def Grows (state next : State SqlValue) : Prop :=
  forall id session, state.sessions id = some session -> Exists fun after =>
    next.sessions id = some after ∧ after.account = session.account ∧ session.offset ≤ after.offset ∧
      forall database, session.snapshot = some database -> after.snapshot = some database

variable {state next : State SqlValue}

theorem grows_same (same : next.sessions = state.sessions) : Grows state next := by
  intro id session found
  exact ⟨session, by rw [same]; exact found, rfl, Nat.le_refl _, fun _ seen => seen⟩

theorem Paging.grow {reader : Reader} (paging : Paging state reader)
    (grows : Grows state next) : Paging next reader := by
  refine ⟨paging.1, fun id expected here => ?_⟩
  rcases paging.2 id expected here with ⟨means, session, found, account⟩
  rcases grows id session found with ⟨after, there, same, _, _⟩
  exact ⟨means, after, there, same.trans account⟩

theorem paging_other {reader : Reader} {stage : Stage} (limited : 1 ≤ reader.limit)
    (other : forall id expected, stage ≠ .paging id expected) :
    Paging state { reader with
      stage := stage } :=
  ⟨limited, fun id expected here => (other id expected here).elim⟩

theorem mem_setStage {index : Nat} {reader one : Reader} {stage : Stage}
    (member : one ∈ (state.setStage index reader stage).readers) :
    one ∈ state.readers ∨ one = { reader with
      stage := stage } :=
  List.mem_or_eq_of_mem_set member

theorem finish_history (state : State SqlValue) (index : Nat) (reader : Reader) (id : SessionId)
    (result : Except String Page) : (state.finish index reader id result).history = state.history ∧
      (state.finish index reader id result).sessions = state.sessions := by
  unfold State.finish
  split
  · exact ⟨rfl, rfl⟩
  · split
    · exact ⟨rfl, rfl⟩
    · exact ⟨rfl, rfl⟩

variable [LinearOrder SqlValue]

/-- A page in the history is a part of the snapshot of its session, at its offset, and its
cursor stands for the end of it. -/
structure Recorded (state : State SqlValue) (read : PageRead SqlValue) : Prop where
  session : Exists fun session => state.sessions read.id = some session ∧
    session.snapshot = some read.database ∧ session.account = read.account ∧
      read.offset + read.page.snapshot.files.length ≤ session.offset
  part : Exists fun rows => PartOf read.database read.offset read.limit read.page.snapshot.files
    read.page.totalFiles rows
  limited : 1 ≤ read.limit
  means : Means read.cursor read.id read.offset
  next : read.page.nextCursor =
    if read.offset + read.page.snapshot.files.length < read.page.totalFiles then
      some (formatCursor read.id (read.offset + read.page.snapshot.files.length))
    else none

structure State.Sound (state : State SqlValue) : Prop where
  plain : forall id session, state.sessions id = some session -> ':' ∉ id
  readers : forall reader, reader ∈ state.readers -> Paging state reader
  recorded : forall read, read ∈ state.history -> Recorded state read
  later : state.history.Pairwise fun one two => one.id = two.id ->
    one.offset + one.page.snapshot.files.length ≤ two.offset

theorem Recorded.grow {read : PageRead SqlValue} (recorded : Recorded state read)
    (grows : Grows state next) : Recorded next read :=
  { recorded with
    session := by
      rcases recorded.session with ⟨session, found, seen, account, within⟩
      rcases grows read.id session found with ⟨after, there, same, moved, kept⟩
      exact ⟨after, there, kept _ seen, same.trans account, Nat.le_trans within moved⟩ }

theorem State.Sound.advance (sound : state.Sound) (grows : Grows state next)
    (plain : forall id session, next.sessions id = some session -> ':' ∉ id)
    (history : next.history = state.history)
    (readers : forall reader, reader ∈ next.readers -> reader ∈ state.readers ∨ Paging next reader) :
    next.Sound where
  plain := plain
  readers := by
    intro reader member
    rcases readers reader member with old | new
    · exact (sound.readers reader old).grow grows
    · exact new
  recorded := by
    intro read member
    rw [history] at member
    exact (sound.recorded read member).grow grows
  later := by
    rw [history]
    exact sound.later

theorem State.Sound.restage (sound : state.Sound)
    (sessions : next.sessions = state.sessions) (history : next.history = state.history)
    (readers : forall reader, reader ∈ next.readers -> reader ∈ state.readers ∨ Paging state reader) :
    next.Sound := by
  refine sound.advance (grows_same sessions) ?_ history ?_
  · intro id session found
    rw [sessions] at found
    exact sound.plain id session found
  · intro reader member
    rcases readers reader member with old | new
    · exact Or.inl old
    · exact Or.inr (new.grow (grows_same sessions))

section Steps

variable {state : State SqlValue} (sound : state.Sound) {index : Nat} {reader : Reader}
  (limited : 1 ≤ reader.limit)

include sound limited

theorem State.Sound.setStage {stage : Stage} (other : forall id expected, stage ≠ .paging id expected) :
    (state.setStage index reader stage).Sound := by
  refine sound.restage rfl rfl fun one member => ?_
  rcases mem_setStage member with old | rfl
  · exact Or.inl old
  · exact Or.inr (paging_other limited other)

theorem State.Sound.find {cursor : List Char} (text : reader.cursor = some cursor) :
    (state.find index reader cursor).Sound := by
  unfold State.find
  split
  · exact sound.setStage limited (by rintro _ _ ⟨⟩)
  next id rest parts =>
    split
    · exact sound.setStage limited (by rintro _ _ ⟨⟩)
    next offset number =>
      split
      · split
        · exact sound.setStage limited (by rintro _ _ ⟨⟩)
        next session found =>
          split
          next same =>
            refine sound.restage rfl rfl fun one member => ?_
            rcases mem_setStage member with old | rfl
            · exact Or.inl old
            · refine Or.inr ⟨limited, ?_⟩
              rintro _ _ ⟨⟩
              refine ⟨?_, session, found, AccountGuard.sameSession_iff.mp same⟩
              rw [text]
              exact parseCursor_of parts number
          · exact sound.setStage limited (by rintro _ _ ⟨⟩)
      · exact sound.setStage limited (by rintro _ _ ⟨⟩)

theorem State.Sound.openSession {id : SessionId} {now : Nat} {oldest : Option SessionId}
    (text : reader.cursor = none) (fresh : state.sessions id = none) (plain : ':' ∉ id) :
    (state.openSession index reader id now oldest).Sound := by
  have grows : Grows state (state.openSession index reader id now oldest) := by
    intro other session found
    have different : other ≠ id := by
      rintro rfl
      rw [fresh] at found
      cases found
    exact ⟨session, (Function.update_of_ne different _ _).trans found, rfl, Nat.le_refl _, fun _ seen => seen⟩
  refine sound.advance grows ?_ rfl fun one member => ?_
  · intro other session found
    by_cases same : other = id
    · rw [same]
      exact plain
    · exact sound.plain other session ((Function.update_of_ne same _ _).symm.trans found)
  · rcases mem_setStage member with old | rfl
    · exact Or.inl old
    · refine Or.inr ⟨limited, ?_⟩
      rintro _ _ ⟨⟩
      refine ⟨?_, ⟨reader.account, now, 0, 0, none⟩, Function.update_self _ _ _, rfl⟩
      rw [text]
      rfl

theorem State.Sound.finish {id : SessionId} {result : Except String Page} :
    (state.finish index reader id result).Sound := by
  unfold State.finish
  split
  · exact sound.setStage limited nofun
  · split
    · exact sound.setStage limited nofun
    · exact sound.setStage limited nofun

omit limited in
/-- A session moves on under its lock. -/
theorem State.Sound.setSession {id : SessionId} {session : Session SqlValue} (after : Session SqlValue)
    (found : state.sessions id = some session) (account : after.account = session.account)
    (moved : session.offset ≤ after.offset)
    (kept : forall database, session.snapshot = some database -> after.snapshot = some database) :
    (state.setSession id after).Sound ∧ Grows state (state.setSession id after) := by
  have grows : Grows state (state.setSession id after) := by
    intro other one there
    by_cases same : other = id
    · subst same
      rw [found] at there
      cases there
      exact ⟨after, Function.update_self _ _ _, account, moved, kept⟩
    · exact ⟨one, (Function.update_of_ne same _ _).trans there, rfl, Nat.le_refl _, fun _ seen => seen⟩
  refine ⟨sound.advance grows ?_ rfl fun one member => Or.inl member, grows⟩
  intro other one there
  by_cases same : other = id
  · rw [same]
    exact sound.plain id session found
  · exact sound.plain other one ((Function.update_of_ne same _ _).symm.trans there)

end Steps

theorem State.Sound.record (sound : state.Sound) {read : PageRead SqlValue} (recorded : Recorded state read)
    (last : forall one, one ∈ state.history -> one.id = read.id ->
      one.offset + one.page.snapshot.files.length ≤ read.offset) : (state.record read).Sound where
  plain := sound.plain
  readers := sound.readers
  recorded := by
    intro one member
    rcases List.mem_append.mp member with old | new
    · exact (sound.recorded one old).grow (grows_same rfl)
    · rw [List.mem_singleton] at new
      subst new
      exact recorded.grow (grows_same rfl)
  later := by
    refine List.pairwise_append.mpr ⟨sound.later, List.pairwise_singleton _ _, ?_⟩
    intro one member two new
    rw [List.mem_singleton] at new
    subst new
    exact last one member

theorem State.Sound.readPage (sound : state.Sound) {index : Nat} {reader : Reader}
    {id : SessionId} {expected now : Nat} {session : Session SqlValue} {before after sqlite : Except String Unit}
    (paging : Paging state reader) (stage : reader.stage = .paging id expected)
    (found : state.sessions id = some session) :
    (state.readPage index reader id expected session now before after sqlite).Sound := by
  rcases paging.2 id expected stage with ⟨means, same, there, account⟩
  rw [found] at there
  cases there
  have limited := paging.1
  have kept : forall database, session.snapshot = some database ->
      some (session.snapshot.getD state.database) = some database := by
    intro database seen
    rw [seen]
    rfl
  unfold State.readPage
  split
  · exact sound.finish limited
  split
  · exact sound.finish limited
  next same =>
  split
  · exact sound.finish limited
  split
  · exact sound.finish limited
  dsimp only
  split
  · have moved := sound.setSession { session with
      snapshot := some (session.snapshot.getD state.database) } found rfl (Nat.le_refl _) kept
    exact moved.1.finish limited
  next snapshot total paged =>
  split
  · have moved := sound.setSession { session with
      snapshot := some (session.snapshot.getD state.database)
      offset := session.offset + snapshot.files.length } found rfl (Nat.le_add_right _ _) kept
    exact moved.1.finish limited
  · have moved := sound.setSession { session with
      snapshot := some (session.snapshot.getD state.database)
      offset := session.offset + snapshot.files.length
      touched := now - session.created } found rfl (Nat.le_add_right _ _) kept
    refine (moved.1.finish limited).record ?_ ?_
    · rw [Decidable.not_not] at same
      exact {
        session := by
          refine ⟨_, (congrFun (finish_history _ index reader id _).2 id).trans (Function.update_self _ _ _), rfl,
            account, Nat.le_refl _⟩
        part := snapshotPage_part paged
        limited := limited
        means := by
          rw [same]
          exact means
        next := rfl }
    · intro one member there
      rw [(finish_history _ index reader id _).1] at member
      rcases (sound.recorded one member).session with ⟨its, has, _, _, within⟩
      rw [show one.id = id from there, found] at has
      cases has
      exact within

/-! ## Steps and runs -/

theorem step_sound {event : Event SqlValue} (sound : state.Sound)
    (moved : state.step event = some next) : next.Sound := by
  cases event with
  | write database | clean now =>
    cases moved
    exact sound.restage rfl rfl fun reader member => Or.inl member
  | call account cursor limit =>
    change (if _ then _ else _) = _ at moved
    split at moved
    next limits =>
      cases moved
      refine sound.restage rfl rfl fun reader member => ?_
      rcases List.mem_append.mp member with old | new
      · exact Or.inl old
      · rw [List.mem_singleton] at new
        subst new
        exact Or.inr ⟨limits.1, nofun⟩
    · cases moved
  | sweep index now =>
    unfold State.step at moved
    dsimp only at moved
    split at moved
    next account cursor limit found =>
      cases moved
      have swept : (state.expire now).Sound := sound.restage rfl rfl fun reader member => Or.inl member
      exact swept.setStage (sound.readers _ (List.mem_of_getElem? found)).1 nofun
    · cases moved
  | find index =>
    unfold State.step at moved
    dsimp only at moved
    split at moved
    next account cursor limit found =>
      cases moved
      exact sound.find (sound.readers _ (List.mem_of_getElem? found)).1 rfl
    · cases moved
  | «open» index id now oldest =>
    unfold State.step at moved
    dsimp only at moved
    split at moved
    next account limit found =>
      split at moved
      next fresh =>
        cases moved
        rw [Bool.and_eq_true, Bool.and_eq_true, Option.isNone_iff_eq_none] at fresh
        exact sound.openSession (sound.readers _ (List.mem_of_getElem? found)).1 rfl fresh.1.1
          (by simpa using fresh.1.2)
      · cases moved
    · cases moved
  | fail index error =>
    unfold State.step at moved
    dsimp only at moved
    split at moved
    next account limit found =>
      cases moved
      exact sound.setStage (sound.readers _ (List.mem_of_getElem? found)).1 nofun
    · cases moved
  | page index now before after sqlite =>
    unfold State.step at moved
    dsimp only at moved
    split at moved
    next account cursor limit id expected found =>
      split at moved
      · cases moved
      next session there =>
        cases moved
        exact sound.readPage (sound.readers _ (List.mem_of_getElem? found)) rfl there
    · cases moved
  | discard index =>
    unfold State.step at moved
    dsimp only at moved
    split at moved
    next account cursor limit id result found =>
      cases moved
      have gone : (state.unregister id).Sound := sound.restage rfl rfl fun reader member => Or.inl member
      exact gone.setStage (sound.readers _ (List.mem_of_getElem? found)).1 nofun
    · cases moved

/-! ## Chains of pages -/

/-- The second page was read with the cursor that the first gave out. -/
def Follows (one two : PageRead SqlValue) : Prop :=
  Exists fun text => one.page.nextCursor = some text ∧ two.cursor = some text

/-- The files of some pages, one behind the other. -/
def allFiles (pages : List (PageRead SqlValue)) : List WorkspaceFile :=
  pages.flatMap fun read => read.page.snapshot.files

section Chains

variable {state : State SqlValue} (sound : state.Sound)

include sound

/-- A cursor that was given out leads to the end of the page behind which it stands. -/
theorem State.Sound.follows {one two : PageRead SqlValue} (first : one ∈ state.history)
    (second : two ∈ state.history) (follows : Follows one two) :
    two.id = one.id ∧ two.offset = one.offset + one.page.snapshot.files.length ∧
      two.offset < one.page.totalFiles ∧ two.database = one.database ∧ two.account = one.account := by
  rcases follows with ⟨text, given, used⟩
  have earlier := sound.recorded one first
  have later := sound.recorded two second
  rcases earlier.session with ⟨session, found, seen, account, _⟩
  rcases earlier.part with ⟨rows, part⟩
  have fits := part.fits
  have end_ := earlier.next
  rw [given] at end_
  split at end_
  next more =>
    rw [Option.some.injEq] at end_
    have means := later.means
    rw [used, end_] at means
    have parsed : parseCursor (formatCursor one.id (one.offset + one.page.snapshot.files.length)) = _ :=
      parseCursor_formatCursor (sound.plain one.id session found) (by unfold Database.maxCount at fits; omega)
    have same := Option.some.inj (parsed.symm.trans means)
    rw [Prod.mk.injEq] at same
    rcases same with ⟨ids, offsets⟩
    rcases later.session with ⟨again, there, seenAgain, accountAgain, _⟩
    rw [← ids, found] at there
    cases there
    rw [seen] at seenAgain
    refine ⟨ids.symm, offsets.symm, ?_, (Option.some.inj seenAgain).symm, accountAgain.symm.trans account⟩
    rw [← offsets]
    exact more
  · cases end_

/-- The pages of a chain, from some page to the last, hold the list from its offset on. -/
theorem State.Sound.chain {first : PageRead SqlValue} {rest : List (PageRead SqlValue)}
    (members : forall read, read ∈ first :: rest -> read ∈ state.history)
    (chain : (first :: rest).IsChain Follows)
    (last : forall read, (first :: rest).getLast? = some read -> read.page.nextCursor = none)
    {rows : List (LibraryRow SqlValue)} (ordered : first.database.ordered = .ok rows) :
    (rows.drop first.offset).mapM first.database.readFile = .ok (allFiles (first :: rest)) ∧
      forall read, read ∈ first :: rest -> read.database = first.database ∧ read.page.totalFiles = rows.length := by
  induction rest generalizing first with
  | nil =>
    have recorded := sound.recorded first (members first List.mem_cons_self)
    rcases recorded.part with ⟨mine, part⟩
    have same := part.ordered
    rw [ordered] at same
    cases same
    have next := recorded.next
    rw [last first rfl] at next
    have ended : ¬ first.offset + first.page.snapshot.files.length < first.page.totalFiles := by
      intro more
      rw [if_pos more] at next
      cases next
    have length := part.length
    have counted := part.counted
    have read := part.read
    rw [List.take_of_length_le (by rw [List.length_drop]; omega)] at read
    refine ⟨?_, fun one member => ?_⟩
    · rw [read]
      simp [allFiles]
    · rw [List.mem_singleton] at member
      subst member
      exact ⟨rfl, counted⟩
  | cons second rest ih =>
    rcases List.isChain_cons_cons.mp chain with ⟨follows, later⟩
    have mine := members first List.mem_cons_self
    have its := members second (List.mem_cons_of_mem first List.mem_cons_self)
    rcases sound.follows mine its follows with ⟨_, offset, more, database, _⟩
    have behind := ih (fun read member => members read (List.mem_cons_of_mem first member)) later
      (fun read ends => last read (by rw [List.getLast?_cons_cons]; exact ends)) (by rw [database]; exact ordered)
    rcases (sound.recorded first mine).part with ⟨found, part⟩
    have same := part.ordered
    rw [ordered] at same
    cases same
    have length := part.length
    have counted := part.counted
    have full : first.page.snapshot.files.length = first.limit := by omega
    have split : rows.drop first.offset =
        (rows.drop first.offset).take first.limit ++ rows.drop second.offset := by
      rw [offset, full, ← List.drop_drop, List.take_append_drop]
    refine ⟨?_, fun read member => ?_⟩
    · have whole := behind.1
      rw [database] at whole
      rw [split, List.mapM_append, part.read, whole]
      rfl
    · rcases List.mem_cons.mp member with rfl | member
      · exact ⟨rfl, counted⟩
      · rw [← database]
        exact behind.2 read member

end Chains

/-! ## The whole library -/

/-- Pages whose files are the visible files of a database, each once and in the order. -/
def Enumerates (database : Database SqlValue) (pages : List (PageRead SqlValue)) : Prop :=
  Exists fun rows => Lists database rows ∧ rows.mapM database.readFile = .ok (allFiles pages) ∧
    (allFiles pages).map WorkspaceFile.key = rows.map LibraryRow.key ∧
      forall read, read ∈ pages -> read.database = database ∧ read.page.totalFiles = rows.length

/-- A chain from the first page to the last enumerates what its session saw. -/
def ChainsEnumerate (state : State SqlValue) : Prop :=
  forall first rest, (forall read, read ∈ first :: rest -> read ∈ state.history) -> first.cursor = none ->
    (first :: rest).IsChain Follows ->
      (forall read, (first :: rest).getLast? = some read -> read.page.nextCursor = none) ->
        Enumerates first.database (first :: rest)

/-- A cursor that was given out is accepted at most once, and from the account that got it. -/
def CursorsAreSpent (state : State SqlValue) : Prop :=
  forall given, given ∈ state.history -> forall text, given.page.nextCursor = some text ->
    (forall (one two : Nat) (first second : PageRead SqlValue), state.history[one]? = some first ->
      state.history[two]? = some second -> first.cursor = some text -> second.cursor = some text -> one = two) ∧
    forall read, read ∈ state.history -> read.cursor = some text -> read.account = given.account

/-- A session sees the database of the moment at which it first reads, and no other later. -/
def KeepsSnapshots (state : State SqlValue) : Prop :=
  forall (event : Event SqlValue) (next : State SqlValue), state.step event = some next ->
    forall id session, state.sessions id = some session -> Exists fun after => next.sessions id = some after ∧
      (after.snapshot = session.snapshot ∨ session.snapshot = none ∧ after.snapshot = some state.database)

theorem readPage_keeps (state : State SqlValue) (index : Nat) (reader : Reader) {id : SessionId}
    (expected : Nat) {session : Session SqlValue} (now : Nat) (before after sqlite : Except String Unit)
    (found : state.sessions id = some session) (other : SessionId) (one : Session SqlValue)
    (there : state.sessions other = some one) : Exists fun later =>
      (state.readPage index reader id expected session now before after sqlite).sessions other = some later ∧
        (later.snapshot = one.snapshot ∨ one.snapshot = none ∧ later.snapshot = some state.database) := by
  have changed : forall moved : Session SqlValue, moved.snapshot = some (session.snapshot.getD state.database) ->
      Exists fun later => (state.setSession id moved).sessions other = some later ∧
        (later.snapshot = one.snapshot ∨ one.snapshot = none ∧ later.snapshot = some state.database) := by
    intro moved seen
    by_cases same : other = id
    · subst same
      rw [found] at there
      cases there
      refine ⟨moved, Function.update_self _ _ _, ?_⟩
      cases snapshot : session.snapshot with
      | none =>
        rw [snapshot] at seen
        exact Or.inr ⟨rfl, seen⟩
      | some database =>
        rw [snapshot] at seen
        exact Or.inl seen
    · exact ⟨one, (Function.update_of_ne same _ _).trans there, Or.inl rfl⟩
  have still : Exists fun later => state.sessions other = some later ∧
      (later.snapshot = one.snapshot ∨ one.snapshot = none ∧ later.snapshot = some state.database) :=
    ⟨one, there, Or.inl rfl⟩
  unfold State.readPage
  split
  · rw [(finish_history _ _ _ _ _).2]
    exact still
  split
  · rw [(finish_history _ _ _ _ _).2]
    exact still
  split
  · rw [(finish_history _ _ _ _ _).2]
    exact still
  split
  · rw [(finish_history _ _ _ _ _).2]
    exact still
  dsimp only
  split
  · rw [(finish_history _ _ _ _ _).2]
    exact changed _ rfl
  split
  · rw [(finish_history _ _ _ _ _).2]
    exact changed _ rfl
  · unfold State.record
    dsimp only
    rw [(finish_history _ _ _ _ _).2]
    exact changed _ rfl

theorem keepsSnapshots (state : State SqlValue) : KeepsSnapshots state := by
  intro event next moved id session found
  have still : next.sessions = state.sessions -> Exists fun after => next.sessions id = some after ∧
      (after.snapshot = session.snapshot ∨ session.snapshot = none ∧ after.snapshot = some state.database) := by
    intro same
    exact ⟨session, by rw [same]; exact found, Or.inl rfl⟩
  cases event with
  | write database | clean now =>
    cases moved
    exact still rfl
  | call account cursor limit =>
    change (if _ then _ else _) = _ at moved
    split at moved
    · cases moved
      exact still rfl
    · cases moved
  | sweep index now =>
    unfold State.step at moved
    dsimp only at moved
    split at moved
    · cases moved
      exact still rfl
    · cases moved
  | find index =>
    unfold State.step at moved
    dsimp only at moved
    split at moved
    · cases moved
      apply still
      unfold State.find
      split
      · rfl
      · split
        · rfl
        · split
          · split
            · rfl
            · split
              · rfl
              · rfl
          · rfl
    · cases moved
  | «open» index other now oldest =>
    unfold State.step at moved
    dsimp only at moved
    split at moved
    · split at moved
      next fresh =>
        cases moved
        rw [Bool.and_eq_true, Bool.and_eq_true, Option.isNone_iff_eq_none] at fresh
        have different : id ≠ other := by
          rintro rfl
          rw [fresh.1.1] at found
          cases found
        exact ⟨session, (Function.update_of_ne different _ _).trans found, Or.inl rfl⟩
      · cases moved
    · cases moved
  | fail index error =>
    unfold State.step at moved
    dsimp only at moved
    split at moved
    · cases moved
      exact still rfl
    · cases moved
  | page index now before after sqlite =>
    unfold State.step at moved
    dsimp only at moved
    split at moved
    next account cursor limit other expected _ =>
      split at moved
      · cases moved
      next one there =>
        cases moved
        exact readPage_keeps state index _ expected now before after sqlite there id session found
    · cases moved
  | discard index =>
    unfold State.step at moved
    dsimp only at moved
    split at moved
    · cases moved
      exact still rfl
    · cases moved

theorem State.Sound.enumerates (sound : state.Sound) : ChainsEnumerate state := by
  intro first rest members start chain last
  have recorded := sound.recorded first (members first List.mem_cons_self)
  rcases recorded.part with ⟨rows, part⟩
  have front : first.offset = 0 := by
    have means := recorded.means
    rw [start] at means
    exact means
  rcases sound.chain members chain last part.ordered with ⟨whole, same⟩
  rw [front, List.drop_zero] at whole
  exact ⟨rows, ordered_lists part.ordered, whole, keys_of_read (Results.mapM_ok whole), same⟩

theorem State.Sound.cursorsAreSpent (sound : state.Sound) : CursorsAreSpent state := by
  intro given member text next
  refine ⟨?_, fun read inside used => (sound.follows member inside ⟨text, next, used⟩).2.2.2.2⟩
  have apart : forall (one two : Nat) (first second : PageRead SqlValue), one < two ->
      state.history[one]? = some first -> state.history[two]? = some second -> first.cursor = some text ->
        second.cursor ≠ some text := by
    intro one two first second less here there usedFirst usedSecond
    have firstIn := List.mem_of_getElem? here
    have secondIn := List.mem_of_getElem? there
    rcases sound.follows member firstIn ⟨text, next, usedFirst⟩ with ⟨idFirst, offsetFirst, more, _, _⟩
    rcases sound.follows member secondIn ⟨text, next, usedSecond⟩ with ⟨idSecond, offsetSecond, _, _, _⟩
    rcases List.getElem?_eq_some_iff.mp here with ⟨within, isFirst⟩
    rcases List.getElem?_eq_some_iff.mp there with ⟨inside, isSecond⟩
    have ordered := List.pairwise_iff_getElem.mp sound.later one two within inside less
    rw [isFirst, isSecond] at ordered
    have moved := ordered (idFirst.trans idSecond.symm)
    have recorded := sound.recorded first firstIn
    rcases recorded.part with ⟨rows, part⟩
    rcases (sound.recorded given member).part with ⟨givenRows, givenPart⟩
    have length := part.length
    have limited := recorded.limited
    have database : first.database = given.database :=
      (sound.follows member firstIn ⟨text, next, usedFirst⟩).2.2.2.1
    rw [database] at part
    have totals := (PartOf.unique part givenPart).2
    omega
  intro one two first second here there usedFirst usedSecond
  rcases Nat.lt_trichotomy one two with less | same | more
  · exact (apart one two first second less here there usedFirst usedSecond).elim
  · exact same
  · exact (apart two one second first more there here usedSecond usedFirst).elim

end Machine

/-- The machine of the page sessions. -/
def machine (SqlValue : Type) [LinearOrder SqlValue] : Machine (State SqlValue) (Event SqlValue) := ⟨State.step⟩

/-- Through any writers, sessions, evictions and repeated cursors: a chain of pages that
reaches the end enumerates the library as its session saw it, no cursor is accepted
twice or from another session of an account, and a session sees one snapshot. -/
theorem pages_enumerate_library {SqlValue : Type} [LinearOrder SqlValue] {database : Database SqlValue}
    {state : State SqlValue} (reached : (machine SqlValue).Reachable (.start database) state) :
    ChainsEnumerate state ∧ CursorsAreSpent state ∧ KeepsSnapshots state := by
  have sound : state.Sound := by
    refine reached.invariant (fun _ _ _ => step_sound) ⟨?_, ?_, ?_, List.Pairwise.nil⟩
    · intro id session found
      cases found
    · intro reader member
      cases member
    · intro read member
      cases member
  exact ⟨sound.enumerates, sound.cursorsAreSpent, keepsSnapshots state⟩

/-! ### Three files on two pages -/

def exampleRow (key : String) (created : Nat) : LibraryRow Nat :=
  ⟨key, .ok created, .ok ⟨0, none, key, 0, none, none, "", "", "plain", false, false⟩, "Home"⟩

/-- One of four files is about to be removed. -/
def exampleLibrary : Database Nat where
  files := [exampleRow "a" 1, exampleRow "b" 2, exampleRow "c" 2, exampleRow "d" 3]
  records := [⟨"removal", "d", ⟨.ok (some "pending"), .error invalidJson, .ok "{}"⟩, 0⟩]
  tags := fun _ => []
  membership := fun _ => []
  keys := by decide
  identifiers := by decide

def emptyLibrary : Database Nat := ⟨[], [], fun _ => [], fun _ => [], .nil, .nil⟩

def exampleGuard : AccountGuard := ⟨"", 1, 0⟩

def exampleEvents : List (Event Nat) :=
  [.call exampleGuard none 2, .sweep 0 0, .open 0 ['s'] 0 none, .page 0 0 (.ok ()) (.ok ()) (.ok ()),
    .write emptyLibrary, .call exampleGuard (some "s:2".toList) 2, .sweep 1 1, .find 1,
    .page 1 1 (.ok ()) (.ok ()) (.ok ()), .discard 1]

/-- The second page goes on although everything was deleted in between. -/
theorem pages_enumerate_library_here :
    Exists fun first : PageRead Nat => Exists fun second => Enumerates first.database [first, second] ∧
      (allFiles [first, second]).map WorkspaceFile.key = ["b", "c", "a"] := by
  have happened : (((machine Nat).replay (.start exampleLibrary) exampleEvents).any fun state =>
      decide ((state.history.map fun read => (read.cursor, read.page.nextCursor,
          read.page.snapshot.files.map WorkspaceFile.key)) =
        [(none, some "s:2".toList, ["b", "c"]), (some "s:2".toList, none, ["a"])])) = true := by
    decide +kernel
  rcases Machine.exists_run happened with ⟨state, run, pages⟩
  rcases List.map_eq_cons_iff.mp pages with ⟨first, others, whole, isFirst, later⟩
  rcases List.map_eq_cons_iff.mp later with ⟨second, none, rest, isSecond, ended⟩
  rw [List.map_eq_nil_iff] at ended
  subst ended
  subst rest
  rw [Prod.mk.injEq, Prod.mk.injEq] at isFirst isSecond
  have enumerate := (pages_enumerate_library ⟨exampleEvents, run⟩).1
  refine ⟨first, second, enumerate first [second] ?_ isFirst.1 ?_ ?_, ?_⟩
  · intro read member
    rw [whole]
    exact member
  · exact List.isChain_cons_cons.mpr ⟨⟨_, isFirst.2.1, isSecond.1⟩, List.IsChain.singleton _⟩
  · intro read ends
    cases ends
    exact isSecond.2.1
  · simp [allFiles, isFirst.2.2, isSecond.2.2]

end Pagination
end Workspace
end TelegramDrive
