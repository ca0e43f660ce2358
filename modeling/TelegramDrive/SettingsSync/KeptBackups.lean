import TelegramDrive.SettingsSync.Listings
import TelegramDrive.Library.Codec

namespace TelegramDrive
namespace SettingsSync

open Crypto

/-!
# The most recent backup

An upload deletes what it listed before it sent its own backup, so what it deletes is
older than its own backup and than any later one.  The most recent backup stays, and a
download that no upload disturbs finds it if it is within reach.
-/

section Sound

variable (library : CryptoLibrary) (format : Format) (made : Request -> Prop)

/-- A message that an upload seals. -/
structure IsBackup (request : Request) (text : Text) : Prop where
  sealed : encryptSettings library format request = .ok text
  asked : made request
  device : byteLength request.deviceId = 32
  clock : -(2 ^ 63) ≤ request.updatedAt ∧ request.updatedAt < 2 ^ 63

/-- What is so at each stage of a command, for the messages of the chat, the largest id that
was given, and the most recent backup. -/
def Stands (chat : List ChatMessage) (last : Nat) (latest : Option Sent) : Stage -> Prop
  | .collecting request text cursor =>
    IsBackup library format made request text ∧ forall message, message ∈ cursor.found -> message.id ≤ last
  | .sending request text old => IsBackup library format made request text ∧ forall id, id ∈ old -> id ≤ last
  | .deleting own old => (forall id, id ∈ old -> id < own) ∧
      Exists fun sent => latest = some sent ∧ own ≤ sent.message.id
  | .searching _ cursor watch => watch.calm = true -> watch.started = latest ∧
      (forall id, cursor.before = some id -> id ≤ last) ∧ (cursor.before = none -> cursor = .start) ∧
        (cursor.before ≠ none -> watch.reach = true -> forall sent, latest = some sent -> Finds chat cursor sent.message)
  | .opening _ first watch => watch.calm = true -> watch.reach = true -> forall sent, watch.started = some sent ->
      first = some sent.message.text ∧ IsBackup library format made sent.request sent.message.text

/-- The settings of a backup, as a download should give them. -/
def Returns (finished : Finished) (request : Request) : Prop :=
  Exists fun safe => sanitizeSettings request.settings = .ok safe ∧
    finished.result = .ok ⟨safe, request.updatedAt, request.deviceId⟩

/-- A download that no upload disturbed returns the backup that was the most recent one when
it started, if it had it within reach. -/
def Reads (finished : Finished) : Prop := forall sent, finished.watch.started = some sent ->
  finished.watch.calm = true -> finished.watch.reach = true -> finished.passphrase = sent.request.passphrase ->
    Returns finished sent.request

def Stage.isCalm : Stage -> Bool
  | .searching _ _ watch => watch.calm
  | _ => false

/-- No upload is in progress beside a listing that is not disturbed. -/
def Undisturbed (commands : List Stage) : Prop := forall stage, stage ∈ commands -> stage.isCalm = true ->
  forall other, other ∈ commands -> other.isUpload = false

structure Sound (state : State) : Prop where
  descending : Descending state.chat
  bounded : forall message, message ∈ state.chat -> message.id ≤ state.last
  latest : forall sent, state.latest = some sent -> sent.message ∈ state.chat ∧
    IsBackup library format made sent.request sent.message.text
  stands : forall stage, stage ∈ state.commands ->
    Stands library format made state.chat state.last state.latest stage
  undisturbed : Undisturbed state.commands
  reads : forall finished, finished ∈ state.finished -> Reads finished

end Sound

variable {library : CryptoLibrary} {format : Format} {made : Request -> Prop}

/-! ## Commands that go on and end -/

theorem undisturbed_set {commands : List Stage} (undisturbed : Undisturbed commands) {index : Nat} {before after : Stage}
    (found : commands[index]? = some before) (calm : after.isCalm = true -> before.isCalm = true)
    (upload : after.isUpload = true -> before.isUpload = true) : Undisturbed (commands.set index after) := by
  have here := List.mem_of_getElem? found
  intro stage member quiet other beside
  have original : Exists fun stage => stage ∈ commands ∧ stage.isCalm = true := by
    rcases List.mem_or_eq_of_mem_set member with old | rfl
    · exact ⟨stage, old, quiet⟩
    · exact ⟨before, here, calm quiet⟩
  rcases original with ⟨stage, inside, quiet⟩
  rcases List.mem_or_eq_of_mem_set beside with old | rfl
  · exact undisturbed stage inside quiet other old
  · rw [Bool.eq_false_iff]
    intro uploads
    exact absurd ((undisturbed stage inside quiet before here).symm.trans (upload uploads)) Bool.false_ne_true

theorem undisturbed_eraseIdx {commands : List Stage} (undisturbed : Undisturbed commands) (index : Nat) :
    Undisturbed (commands.eraseIdx index) :=
  fun stage member calm other beside =>
    undisturbed stage (List.mem_of_mem_eraseIdx member) calm other (List.mem_of_mem_eraseIdx beside)

namespace Sound

variable {state : State}

theorem initially : Sound library format made .initial where
  descending := .nil
  bounded := fun _ member => absurd member List.not_mem_nil
  latest := fun _ none => absurd none.symm (Option.some_ne_none _)
  stands := fun _ member => absurd member List.not_mem_nil
  undisturbed := fun _ member => absurd member List.not_mem_nil
  reads := fun _ member => absurd member List.not_mem_nil

theorem goes (sound : Sound library format made state) {index : Nat} {before after : Stage}
    (found : state.commands[index]? = some before)
    (stands : Stands library format made state.chat state.last state.latest after)
    (calm : after.isCalm = true -> before.isCalm = true) (upload : after.isUpload = true -> before.isUpload = true) :
    Sound library format made (state.goes index after) where
  descending := sound.descending
  bounded := sound.bounded
  latest := sound.latest
  stands := by
    intro stage member
    rcases List.mem_or_eq_of_mem_set member with old | rfl
    · exact sound.stands stage old
    · exact stands
  undisturbed := undisturbed_set sound.undisturbed found calm upload
  reads := sound.reads

theorem ends (sound : Sound library format made state) (index : Nat) :
    Sound library format made (state.ends index) where
  descending := sound.descending
  bounded := sound.bounded
  latest := sound.latest
  stands := fun stage member => sound.stands stage (List.mem_of_mem_eraseIdx member)
  undisturbed := undisturbed_eraseIdx sound.undisturbed index
  reads := sound.reads

end Sound

/-! ## Pages -/

theorem IsBackup.isSettings {request : Request} {message : ChatMessage}
    (backup : IsBackup library format made request message.text) : message.isSettings = true := by
  rcases Results.bind_ok backup.sealed with ⟨envelope, -, short⟩
  dsimp only at short
  split at short
  · cases short
  · unfold ChatMessage.isSettings
    rw [← Except.ok.inj short]
    exact List.isPrefixOf_iff_prefix.mpr (List.prefix_append _ _)

variable {chat : List ChatMessage}

theorem mem_page {cursor : Cursor} {size : Nat} {message : ChatMessage}
    (member : message ∈ (cursor.page chat size).1.found) : message ∈ cursor.found ∨ message ∈ chat := by
  rcases List.mem_append.mp member with old | new
  · exact Or.inl old
  · exact Or.inr ((below_sublist chat cursor.before).subset (List.mem_of_mem_take (List.mem_filter.mp new).1))

theorem before_page {cursor : Cursor} {size id : Nat} (before : (cursor.page chat size).1.before = some id) :
    cursor.before = some id ∨ Exists fun message => message ∈ chat ∧ message.id = id := by
  unfold Cursor.page at before
  dsimp only at before
  cases last : ((below chat cursor.before).take (min size (messageScanLimit - cursor.seen))).getLast? with
  | none =>
    rw [last] at before
    exact Or.inl before
  | some final =>
    rw [last] at before
    have member := List.mem_of_mem_take (List.mem_of_getLast? last)
    exact Or.inr ⟨final, (below_sublist chat cursor.before).subset member, Option.some.inj before⟩

theorem before_ne_none {cursor : Cursor} {size : Nat} (positive : size ≠ 0)
    (on : (cursor.page chat size).2 = false) : (cursor.page chat size).1.before ≠ none := by
  unfold Cursor.page at on ⊢
  dsimp only at on ⊢
  rw [Bool.or_eq_false_iff, decide_eq_false_iff_not, decide_eq_false_iff_not] at on
  intro none
  rw [Option.or_eq_none_iff, Option.map_eq_none_iff, List.getLast?_eq_none_iff] at none
  rw [none.1, List.length_nil] at on
  omega

theorem finds_of_reaches {sent : Sent} (here : sent.message ∈ chat)
    (reach : reaches chat (some sent) = true) : Finds chat .start sent.message := by
  unfold reaches at reach
  rw [Bool.and_eq_true, decide_eq_true_eq, List.all_eq_true] at reach
  refine Or.inr ⟨rfl, chat.takeWhile fun message => decide (message ≠ sent.message), ?_⟩
  have behind : Exists fun older =>
      (chat.dropWhile fun message => decide (message ≠ sent.message)) = sent.message :: older := by
    cases rest : chat.dropWhile fun message => decide (message ≠ sent.message) with
    | nil =>
      have every := List.dropWhile_eq_nil_iff.mp rest sent.message here
      exact absurd rfl (of_decide_eq_true every)
    | cons first older =>
      have same := List.head?_dropWhile_not (fun message => decide (message ≠ sent.message)) chat
      rw [rest, List.head?_cons] at same
      have equal : first = sent.message := by simpa using same
      exact ⟨older, by rw [equal]⟩
  rcases behind with ⟨older, behind⟩
  refine ⟨older, ?_, fun other member => ?_, ?_⟩
  · show chat = _
    rw [← behind, List.takeWhile_append_dropWhile]
  · simpa using reach.2 other member
  · show 0 + _ < messageScanLimit
    rw [Nat.zero_add]
    exact reach.1

namespace Sound

variable {state : State} {index size : Nat}

theorem collects (sound : Sound library format made state) {request : Request} {text : Text} {cursor : Cursor}
    (found : state.commands[index]? = some (.collecting request text cursor)) :
    Sound library format made (state.goes index
      (if (cursor.page state.chat size).2 then .sending request text ((cursor.page state.chat size).1.found.map ChatMessage.id)
        else .collecting request text (cursor.page state.chat size).1)) := by
  have stands := sound.stands _ (List.mem_of_getElem? found)
  have listed : forall message, message ∈ (cursor.page state.chat size).1.found -> message.id ≤ state.last := by
    intro message member
    rcases mem_page member with old | new
    · exact stands.2 message old
    · exact sound.bounded message new
  split
  · refine sound.goes found ⟨stands.1, fun id member => ?_⟩ (fun calm => absurd calm Bool.false_ne_true) (fun _ => rfl)
    rcases List.mem_map.mp member with ⟨message, within, rfl⟩
    exact listed message within
  · exact sound.goes found ⟨stands.1, listed⟩ (fun calm => absurd calm Bool.false_ne_true) (fun _ => rfl)

/-- What is noted of a download when it asks for a page. -/
def noted (chat : List ChatMessage) (cursor : Cursor) (watch : Watch) : Watch :=
  if cursor.before = none then { watch with reach := reaches chat watch.started } else watch

theorem searches (sound : Sound library format made state) {passphrase : Text} {cursor : Cursor} {watch : Watch}
    (found : state.commands[index]? = some (.searching passphrase cursor watch)) (positive : size ≠ 0) :
    Sound library format made (state.goes index
      (if (cursor.page state.chat size).2 then
        .opening passphrase ((cursor.page state.chat size).1.found.head?.map ChatMessage.text)
          (noted state.chat cursor watch)
        else .searching passphrase (cursor.page state.chat size).1 (noted state.chat cursor watch))) := by
  have stands := sound.stands _ (List.mem_of_getElem? found)
  have watched : (noted state.chat cursor watch).calm = watch.calm ∧
      (noted state.chat cursor watch).started = watch.started := by
    unfold noted
    split
    · exact ⟨rfl, rfl⟩
    · exact ⟨rfl, rfl⟩
  have finds : watch.calm = true -> (noted state.chat cursor watch).reach = true -> forall sent,
      state.latest = some sent -> Finds state.chat cursor sent.message := by
    intro calm reach sent latest
    rcases stands calm with ⟨started, -, first, later⟩
    by_cases beginning : cursor.before = none
    · unfold noted at reach
      rw [if_pos beginning, started, latest] at reach
      rw [first beginning]
      exact finds_of_reaches (sound.latest sent latest).1 reach
    · unfold noted at reach
      rw [if_neg beginning] at reach
      exact later beginning reach sent latest
  split
  next ended =>
    refine sound.goes found ?_ (fun calm => absurd calm Bool.false_ne_true)
      (fun upload => absurd upload Bool.false_ne_true)
    intro calm reach sent started
    rw [watched.1] at calm
    rw [watched.2, (stands calm).1] at started
    rcases sound.latest sent started with ⟨here, backup⟩
    have page := page_finds sound.descending backup.isSettings positive (finds calm reach sent started)
    rw [page.2 ended]
    exact ⟨rfl, backup⟩
  next on =>
    rw [Bool.not_eq_true] at on
    refine sound.goes found ?_ (fun calm => watched.1.symm.trans calm) (fun upload => absurd upload Bool.false_ne_true)
    intro calm
    rw [watched.1] at calm
    refine ⟨watched.2.trans (stands calm).1, ?_, fun none => absurd none (before_ne_none positive on), ?_⟩
    · intro id before
      rcases before_page before with old | ⟨message, member, rfl⟩
      · exact (stands calm).2.1 id old
      · exact sound.bounded message member
    · intro _ reach sent latest
      rcases sound.latest sent latest with ⟨here, backup⟩
      exact (page_finds sound.descending backup.isSettings positive (finds calm reach sent latest)).1

end Sound

/-! ## Messages that come and go -/

/-- A new message is not on any page that is still to come. -/
theorem finds_arrival {cursor : Cursor} {message arrival : ChatMessage} {last : Nat}
    (before : cursor.before ≠ none) (bounded : forall id, cursor.before = some id -> id ≤ last)
    (newer : last < arrival.id) (finds : Finds chat cursor message) : Finds (arrival :: chat) cursor message := by
  rcases Option.ne_none_iff_exists'.mp before with ⟨id, known⟩
  have same : below (arrival :: chat) cursor.before = below chat cursor.before := by
    have limit := bounded id known
    rw [known]
    have apart : ¬ decide (arrival.id < id) = true := fun smaller => absurd (of_decide_eq_true smaller) (by omega)
    unfold below
    dsimp only
    rw [List.filter_cons]
    exact if_neg apart
  rcases finds with found | ⟨nothing, coming⟩
  · exact Or.inl found
  · exact Or.inr ⟨nothing, by rw [same]; exact coming⟩

theorem Stands.grows {next : List ChatMessage} {last id : Nat} {latest : Option Sent} {stage : Stage}
    (stands : Stands library format made chat last latest stage) (grown : last ≤ id)
    (finds : stage.isCalm = true -> forall cursor message, cursor.before ≠ none ->
      (forall id, cursor.before = some id -> id ≤ last) -> Finds chat cursor message -> Finds next cursor message) :
    Stands library format made next id latest stage := by
  cases stage with
  | collecting request text cursor =>
    exact ⟨stands.1, fun message member => Nat.le_trans (stands.2 message member) grown⟩
  | sending request text old => exact ⟨stands.1, fun other member => Nat.le_trans (stands.2 other member) grown⟩
  | deleting own old | opening passphrase first watch => exact stands
  | searching passphrase cursor watch =>
    intro calm
    rcases stands calm with ⟨started, bounded, first, later⟩
    refine ⟨started, fun other before => Nat.le_trans (bounded other before) grown, first, ?_⟩
    intro before reach sent same
    exact finds calm cursor sent.message before bounded (later before reach sent same)

namespace Sound

variable {state : State} {index : Nat}

theorem arrives (sound : Sound library format made state) {arrival : ChatMessage} (newer : state.last < arrival.id) :
    Sound library format made { state with
      chat := arrival :: state.chat
      last := arrival.id } where
  descending := List.pairwise_cons.mpr
    ⟨fun message member => Nat.lt_of_le_of_lt (sound.bounded message member) newer, sound.descending⟩
  bounded := by
    intro message member
    rcases List.mem_cons.mp member with rfl | old
    · exact Nat.le_refl _
    · exact Nat.le_trans (sound.bounded message old) (Nat.le_of_lt newer)
  latest := fun sent latest =>
    ⟨List.mem_cons_of_mem _ (sound.latest sent latest).1, (sound.latest sent latest).2⟩
  stands := fun stage member => (sound.stands stage member).grows (Nat.le_of_lt newer)
    fun _ _ _ before bounded finds => finds_arrival before bounded newer finds
  undisturbed := sound.undisturbed
  reads := sound.reads

theorem uploads (sound : Sound library format made state) {request : Request} {text : Text}
    (backup : IsBackup library format made request text) :
    Sound library format made { state with
      commands := state.commands.map Stage.disturbed ++ [.collecting request text .start] } where
  descending := sound.descending
  bounded := sound.bounded
  latest := sound.latest
  stands := by
    intro stage member
    rcases List.mem_append.mp member with old | new
    · rcases List.mem_map.mp old with ⟨original, within, rfl⟩
      have stands := sound.stands original within
      cases original with
      | searching passphrase cursor watch => exact fun calm => absurd calm Bool.false_ne_true
      | collecting request text cursor | sending request text old | deleting own old
      | opening passphrase first watch => exact stands
    · rw [List.mem_singleton.mp new]
      exact ⟨backup, fun _ nothing => absurd nothing List.not_mem_nil⟩
  undisturbed := by
    intro stage member calm
    have loud : stage.isCalm = false := by
      rcases List.mem_append.mp member with old | new
      · rcases List.mem_map.mp old with ⟨original, -, rfl⟩
        cases original <;> rfl
      · rw [List.mem_singleton.mp new]
        rfl
    exact absurd (loud.symm.trans calm) Bool.false_ne_true
  reads := sound.reads

theorem downloads (sound : Sound library format made state) (passphrase : Text) :
    Sound library format made { state with
      commands := state.commands ++ [.searching passphrase .start
        ⟨state.latest, !state.commands.any Stage.isUpload, !state.commands.any Stage.isUpload, false⟩] } where
  descending := sound.descending
  bounded := sound.bounded
  latest := sound.latest
  stands := by
    intro stage member
    rcases List.mem_append.mp member with old | new
    · exact sound.stands stage old
    · rw [List.mem_singleton.mp new]
      intro _
      refine ⟨rfl, fun id none => ?_, fun _ => rfl, fun paged => absurd rfl paged⟩
      exact absurd none.symm (Option.some_ne_none id)
  undisturbed := by
    intro stage member calm other beside
    rcases List.mem_append.mp beside with oldOther | newOther
    · rcases List.mem_append.mp member with old | new
      · exact sound.undisturbed stage old calm other oldOther
      · rw [List.mem_singleton.mp new] at calm
        have quiet := (Bool.not_eq_true' _).mp calm
        exact Bool.eq_false_iff.mpr (List.any_eq_false.mp quiet other oldOther)
    · rw [List.mem_singleton.mp newOther]
      rfl
  reads := sound.reads

/-- While an upload is in progress no listing is undisturbed. -/
theorem loud (sound : Sound library format made state) {upload : Stage}
    (found : state.commands[index]? = some upload) (uploads : upload.isUpload = true) {stage : Stage}
    (member : stage ∈ state.commands) : stage.isCalm = false := by
  rw [Bool.eq_false_iff]
  intro calm
  have idle := sound.undisturbed stage member calm upload (List.mem_of_getElem? found)
  exact absurd (idle.symm.trans uploads) Bool.false_ne_true

/-- Telegram takes a backup, which is the most recent one. -/
theorem sends (sound : Sound library format made state) {request : Request} {text : Text} {old : List Nat}
    (found : state.commands[index]? = some (.sending request text old)) {id : Nat} (newer : state.last < id) :
    Sound library format made { state with
      chat := ⟨id, text⟩ :: state.chat
      last := id
      latest := some ⟨request, ⟨id, text⟩⟩ } where
  descending := (@arrives _ _ _ _ sound ⟨id, text⟩ newer).descending
  bounded := (@arrives _ _ _ _ sound ⟨id, text⟩ newer).bounded
  latest := by
    intro sent latest
    cases latest
    exact ⟨List.mem_cons_self, (sound.stands _ (List.mem_of_getElem? found)).1⟩
  stands := by
    intro stage member
    have stands := sound.stands stage member
    have loud := sound.loud found rfl member
    cases stage with
    | collecting request text cursor =>
      exact ⟨stands.1, fun message within => Nat.le_trans (stands.2 message within) (Nat.le_of_lt newer)⟩
    | sending request text old =>
      exact ⟨stands.1, fun other within => Nat.le_trans (stands.2 other within) (Nat.le_of_lt newer)⟩
    | deleting own old =>
      rcases stands with ⟨older, sent, latest, most⟩
      refine ⟨older, ⟨request, ⟨id, text⟩⟩, rfl, ?_⟩
      have bounded := sound.bounded sent.message (sound.latest sent latest).1
      exact Nat.le_of_lt (Nat.lt_of_le_of_lt (Nat.le_trans most bounded) newer)
    | searching passphrase cursor watch => exact fun calm => absurd (loud.symm.trans calm) Bool.false_ne_true
    | opening passphrase first watch => exact stands
  undisturbed := sound.undisturbed
  reads := sound.reads

/-- A request to delete leaves the most recent backup. -/
theorem deletes (sound : Sound library format made state) {own : Nat} {old batch gone : List Nat}
    (found : state.commands[index]? = some (.deleting own old)) (named : forall id, id ∈ batch -> id ∈ old) :
    Sound library format made (state.deletes batch gone) where
  descending := sound.descending.sublist List.filter_sublist
  bounded := fun message member => sound.bounded message (List.mem_filter.mp member).1
  latest := by
    intro sent latest
    rcases sound.latest sent latest with ⟨here, backup⟩
    refine ⟨List.mem_filter.mpr ⟨here, ?_⟩, backup⟩
    rcases sound.stands _ (List.mem_of_getElem? found) with ⟨older, other, same, most⟩
    cases latest.symm.trans same
    have spared : batch.contains sent.message.id = false := by
      rw [Bool.eq_false_iff]
      intro within
      have less := older _ (named _ (List.contains_iff_mem.mp within))
      omega
    rw [spared]
    rfl
  stands := fun stage member => (sound.stands stage member).grows (Nat.le_refl _)
    fun calm => absurd ((sound.loud found rfl member).symm.trans calm) Bool.false_ne_true
  undisturbed := sound.undisturbed
  reads := sound.reads

theorem opens (sound : Sound library format made state) (lawful : format.Lawful) (ideal : Ideal library format made)
    {passphrase : Text} {first : Option Text} {watch : Watch}
    (found : state.commands[index]? = some (.opening passphrase first watch))
    {result : Except String SettingsSyncDownload}
    (opened : forall text, first = some text -> result = decryptSettings library format text passphrase) :
    Sound library format made { state.ends index with finished := ⟨passphrase, watch, result⟩ :: state.finished } where
  descending := sound.descending
  bounded := sound.bounded
  latest := sound.latest
  stands := (sound.ends index).stands
  undisturbed := (sound.ends index).undisturbed
  reads := by
    intro finished member
    rcases List.mem_cons.mp member with rfl | earlier
    · intro sent started calm reach own
      rcases sound.stands _ (List.mem_of_getElem? found) calm reach sent started with ⟨same, backup⟩
      rcases decryptSettings_encryptSettings lawful ideal backup.asked backup.device backup.clock backup.sealed with
        ⟨safe, sanitized, restored⟩
      refine ⟨safe, sanitized, ?_⟩
      show result = _
      rw [opened _ same, ← restored]
      exact congrArg (decryptSettings library format sent.message.text) own
    · exact sound.reads finished earlier

end Sound

/-! ## Runs -/

/-- The backups that are made are those of uploads. -/
def Event.Makes (made : Request -> Prop) : Event -> Prop
  | .upload settings passphrase file random updatedAt draws =>
    made (uploadRequest settings passphrase file random updatedAt draws)
  | _ => True

theorem Sound.step {state next : State} {event : Event} (lawful : format.Lawful) (ideal : Ideal library format made)
    (makes : event.Makes made) (sound : Sound library format made state)
    (moved : state.step library format event = some next) : Sound library format made next := by
  cases event with
  | arrives id text =>
    change (if state.last < id then _ else none) = some next at moved
    split at moved
    next newer =>
      cases moved
      exact @Sound.arrives _ _ _ _ sound ⟨id, text⟩ newer
    · cases moved
  | upload settings passphrase file random updatedAt draws =>
    unfold State.step at moved
    dsimp only at moved
    split at moved
    next clock =>
      split at moved
      · cases moved
        exact sound
      next text sealed =>
        cases moved
        exact sound.uploads ⟨sealed, makes, deviceId_length file random, clock⟩
    · cases moved
  | download passphrase =>
    cases moved
    exact sound.downloads passphrase
  | page index size =>
    change (if size = 0 then none else _) = some next at moved
    split at moved
    · cases moved
    next positive =>
      split at moved
      next request text cursor found =>
        cases moved
        exact sound.collects found
      next passphrase cursor watch found =>
        cases moved
        exact sound.searches found positive
      · cases moved
  | send index id confirmed =>
    unfold State.step at moved
    dsimp only at moved
    split at moved
    next request text old found =>
      split at moved
      next newer =>
        cases moved
        have sent := sound.sends found newer
        split
        · refine sent.goes found ⟨fun other member => ?_, ⟨request, ⟨id, text⟩⟩, rfl, Nat.le_refl _⟩
            (fun calm => absurd calm Bool.false_ne_true) (fun _ => rfl)
          have listed := (sound.stands _ (List.mem_of_getElem? found)).2 other member
          exact Nat.lt_of_le_of_lt listed newer
        · exact sent.ends index
      · cases moved
    · cases moved
  | delete index gone =>
    unfold State.step at moved
    dsimp only at moved
    split at moved
    next own old found =>
      cases moved
      have after := @Sound.deletes _ _ _ _ _ sound own old (old.take State.deleteBatch) gone found
        fun id member => List.mem_of_mem_take member
      split
      · exact after.ends index
      · have stands := after.stands _ (List.mem_of_getElem? found)
        exact after.goes found ⟨fun id member => stands.1 id (List.mem_of_mem_drop member), stands.2⟩
          (fun calm => absurd calm Bool.false_ne_true) (fun _ => rfl)
    · cases moved
  | decrypt index =>
    unfold State.step at moved
    dsimp only at moved
    split at moved
    next passphrase first watch found =>
      cases moved
      refine sound.opens lawful ideal found fun text same => ?_
      rw [same]
    · cases moved
  | stop index =>
    change (if index < state.commands.length then _ else none) = some next at moved
    split at moved
    · cases moved
      exact sound.ends index
    · cases moved

/-- What holds of a chat and its devices: the most recent backup is in the chat, and a
download returns the backup that was the most recent one when it started, provided that no
upload was in progress until its listing ended and that the backup was within its reach. -/
structure SettingsSurvive (library : CryptoLibrary) (format : Format) (made : Request -> Prop) (state : State) : Prop where
  kept : forall sent, state.latest = some sent -> sent.message ∈ state.chat ∧
    encryptSettings library format sent.request = .ok sent.message.text
  returned : forall finished, finished ∈ state.finished -> Reads finished
  authentic : forall message passphrase download, decryptSettings library format message passphrase = .ok download ->
    Restores library format made message passphrase download

/-- Backups survive and come back as they were made. -/
theorem settings_survive (lawful : format.Lawful) (ideal : Ideal library format made) (events : List Event)
    (state : State)
    (run : (syncMachine library format).Run (fun _ event => event.Makes made) .initial events state) :
    SettingsSurvive library format made state := by
  have sound : Sound library format made state := by
    refine run.invariant (Sound library format made) (fun before event after makes sound moved => ?_) .initially
    exact sound.step lawful ideal makes moved
  exact ⟨fun sent latest => ⟨(sound.latest sent latest).1, (sound.latest sent latest).2.sealed⟩, sound.reads,
    fun _ _ _ opened => decryptSettings_restores lawful ideal opened⟩

/-! ## A format and a cipher for one backup -/

section Example

open Codec

def writeValue : Value -> Bytes
  | .boolean flag => writeNat 0 ++ writeNat (if flag then 1 else 0)
  | .integer number => writeNat 1 ++ writeInt number
  | .text characters => writeNat 2 ++ writeText characters
  | .other => writeNat 3

def readValue (bytes : Bytes) : Option (Value × Bytes) :=
  (readNat bytes).bind fun (kind, rest) =>
    if kind = 0 then (readNat rest).map fun (flag, rest) => (.boolean (decide (flag = 1)), rest)
    else if kind = 1 then (readInt rest).map fun (number, rest) => (.integer number, rest)
    else if kind = 2 then (readText rest).map fun (characters, rest) => (.text characters, rest)
    else some (.other, rest)

theorem readValue_write (value : Value) (rest : Bytes) : readValue (writeValue value ++ rest) = some (value, rest) := by
  cases value with
  | boolean flag => cases flag <;> simp [readValue, writeValue, readNat_writeNat]
  | integer number => simp [readValue, writeValue, readNat_writeNat, readInt_writeInt]
  | text characters => simp [readValue, writeValue, readNat_writeNat, readText_writeText]
  | other => simp [readValue, writeValue, readNat_writeNat]

def writeEntry (entry : String × Value) : Bytes := writeText entry.1 ++ writeValue entry.2

def readEntry (bytes : Bytes) : Option ((String × Value) × Bytes) :=
  (readText bytes).bind fun (key, rest) => (readValue rest).map fun (value, rest) => ((key, value), rest)

theorem readEntry_write (entry : String × Value) (rest : Bytes) :
    readEntry (writeEntry entry ++ rest) = some (entry, rest) := by
  simp only [readEntry, writeEntry, List.append_assoc, readText_writeText, readValue_write, Option.bind_some,
    Option.map_some]

def writeSettings : Settings -> Bytes
  | .object entries => writeNat 0 ++ writeList writeEntry entries
  | .other => writeNat 1

def readSettings (bytes : Bytes) : Option Settings :=
  (readNat bytes).bind fun (kind, rest) =>
    if kind = 0 then (readList readEntry rest).map fun (entries, _) => .object entries else some .other

theorem readSettings_write (settings : Settings) : readSettings (writeSettings settings) = some settings := by
  cases settings with
  | object entries =>
    have read := readList_writeList readEntry_write entries []
    rw [List.append_nil] at read
    simp [readSettings, writeSettings, readNat_writeNat, read]
  | other =>
    have read := readNat_writeNat 1 []
    rw [List.append_nil] at read
    simp [readSettings, writeSettings, read]

def writePlainPayload (payload : SettingsPayload) : Bytes :=
  writeNat payload.schemaVersion.toNat ++ writeSettings payload.settings

def readPlainPayload (bytes : Bytes) : Option SettingsPayload :=
  (readNat bytes).bind fun (version, rest) =>
    (readSettings rest).map fun settings => ⟨UInt8.ofNat version, settings⟩

theorem readPlainPayload_write (payload : SettingsPayload) :
    readPlainPayload (writePlainPayload payload) = some payload := by
  simp only [readPlainPayload, writePlainPayload, readNat_writeNat, readSettings_write, Option.bind_some,
    Option.map_some, UInt8.ofNat_toNat]

def writeCharacters (text : Text) : Bytes := writeText (String.ofList text)

def readCharacters (bytes : Bytes) : Option (Text × Bytes) :=
  (readText bytes).map fun (text, rest) => (text.toList, rest)

theorem readCharacters_write (text : Text) (rest : Bytes) :
    readCharacters (writeCharacters text ++ rest) = some (text, rest) := by
  simp only [readCharacters, writeCharacters, readText_writeText, Option.map_some, String.toList_ofList]

def writePlainEnvelope (envelope : EncryptedSettingsEnvelope) : Bytes :=
  writeNat envelope.version.toNat ++ (writeInt envelope.updatedAt ++ (writeCharacters envelope.deviceId ++
    (writeCharacters envelope.salt ++ (writeCharacters envelope.nonce ++ (writeCharacters envelope.ciphertext ++ [])))))

def readPlainEnvelope (bytes : Bytes) : Option EncryptedSettingsEnvelope :=
  (readNat bytes).bind fun (version, rest) =>
    (readInt rest).bind fun (updatedAt, rest) =>
      (readCharacters rest).bind fun (deviceId, rest) =>
        (readCharacters rest).bind fun (salt, rest) =>
          (readCharacters rest).bind fun (nonce, rest) =>
            (readCharacters rest).map fun (ciphertext, _) =>
              ⟨UInt8.ofNat version, updatedAt, deviceId, salt, nonce, ciphertext⟩

theorem readPlainEnvelope_write (envelope : EncryptedSettingsEnvelope) :
    readPlainEnvelope (writePlainEnvelope envelope) = some envelope := by
  simp only [readPlainEnvelope, writePlainEnvelope, readNat_writeNat, readInt_writeInt, readCharacters_write,
    Option.bind_some, Option.map_some, UInt8.ofNat_toNat]

/-! ## The backup -/

def exampleSettings : Settings := .object [("autoUpdate", .boolean true)]

def examplePassphrase : Text := "correct horse".toList

def exampleDraws : SealDraws := ⟨List.replicate 16 0, List.replicate 24 0, rfl, rfl⟩

def exampleRequest : Request :=
  uploadRequest exampleSettings examplePassphrase none (Vector.replicate 16 0) 0 exampleDraws

def exampleEnvelope : EncryptedSettingsEnvelope := exampleRequest.envelope [7]

def examplePayload : SettingsPayload := ⟨1, exampleSettings⟩

/-- A format that is short for the one backup. -/
def exampleFormat : Format where
  writeEnvelope := writeShort exampleEnvelope writePlainEnvelope
  readEnvelope := readShort exampleEnvelope readPlainEnvelope
  writePayload := writeShort examplePayload writePlainPayload
  readPayload := readShort examplePayload readPlainPayload

theorem exampleFormat_lawful : exampleFormat.Lawful where
  envelope envelope _ _ := readShort_writeShort readPlainEnvelope_write envelope
  payload version entries _ := readShort_writeShort readPlainPayload_write ⟨version, .object entries⟩

def ownKey : SecretKey := ⟨List.replicate 32 1, rfl⟩
def otherKey : SecretKey := ⟨List.replicate 32 2, rfl⟩

def exampleAad : Bytes := utf8 (aad exampleRequest.updatedAt exampleRequest.deviceId)

/-- A cipher that knows the one backup, and a key that only its passphrase and salt give. -/
def exampleLibrary : CryptoLibrary where
  encrypt key nonce aad message :=
    if key = ownKey ∧ nonce = exampleDraws.nonce ∧ aad = exampleAad ∧ message = [0] then some [7] else none
  decrypt key nonce aad ciphertext :=
    if key = ownKey ∧ nonce = exampleDraws.nonce ∧ aad = exampleAad ∧ ciphertext = [7] then some [0] else none
  argon2 passphrase salt _ _ _ :=
    if passphrase = utf8 examplePassphrase ∧ salt = exampleDraws.salt then .ok ownKey else .ok otherKey

theorem example_settingsKey (passphrase : Text) (salt : Bytes) : settingsKey exampleLibrary passphrase salt =
    if utf8 passphrase = utf8 examplePassphrase ∧ salt = exampleDraws.salt then .ok ownKey else .ok otherKey := by
  unfold settingsKey deriveWithFloors derivePassphraseKey
  unfold exampleLibrary
  dsimp only
  by_cases own : utf8 passphrase = utf8 examplePassphrase ∧ salt = exampleDraws.salt
  · rw [if_pos own]
    rfl
  · rw [if_neg own]
    rfl

theorem example_sealed : Sealed exampleLibrary exampleFormat exampleRequest exampleSettings ownKey [7] where
  passphrase := by decide +kernel
  sanitized := by decide +kernel
  derived := by
    rw [example_settingsKey]
    exact if_pos ⟨rfl, rfl⟩
  sealed := by decide +kernel

theorem example_ideal : Ideal exampleLibrary exampleFormat fun request => request = exampleRequest where
  opens := by
    rintro request safe key ciphertext rfl sealing
    have sealed := sealing.sealed
    unfold exampleLibrary at sealed ⊢
    dsimp only at sealed ⊢
    split at sealed
    next known =>
      cases sealed
      rw [if_pos ⟨known.1, known.2.1, known.2.2.1, rfl⟩, known.2.2.2]
    · cases sealed
  authentic := by
    intro key nonce updatedAt deviceId ciphertext plaintext decrypted
    unfold exampleLibrary at decrypted
    dsimp only at decrypted
    split at decrypted
    next known =>
      cases decrypted
      rcases known with ⟨rfl, rfl, same, rfl⟩
      exact ⟨exampleRequest, exampleSettings, rfl, example_sealed, rfl, (utf8_injective same).symm, rfl⟩
    · cases decrypted
  keys := by
    rintro request passphrase salt key rfl own other
    rw [example_settingsKey] at own other
    rw [if_pos ⟨rfl, rfl⟩] at own
    cases own
    split at other
    next same => exact ⟨utf8_injective same.1, same.2⟩
    · exact absurd (congrArg SecretKey.bytes (Except.ok.inj other)) (by decide)

/-! ## Runs of one backup -/

def exampleMachine : Machine State Event := syncMachine exampleLibrary exampleFormat

def exampleUpload : Event := .upload exampleSettings examplePassphrase none (Vector.replicate 16 0) 0 exampleDraws

/-- A first backup is sent, and found behind another message. -/
def foundEvents : List Event :=
  [exampleUpload, .page 0 100, .send 0 1 true, .arrives 2 "note".toList, .download examplePassphrase, .page 0 1,
    .page 0 1, .page 0 1, .decrypt 0]

theorem settings_survive_here : Exists fun state =>
    (exampleMachine.replay .initial foundEvents).isSome = true ∧ state.finished.length = 1 ∧
      SettingsSurvive exampleLibrary exampleFormat (fun request => request = exampleRequest) state := by
  have replayed : (exampleMachine.replay .initial foundEvents).any (fun state => decide (state.finished.length = 1)) =
      true := by decide +kernel
  refine (Machine.exists_run replayed).imp fun state ⟨run, finished⟩ => ⟨by decide +kernel, finished, ?_⟩
  refine settings_survive exampleFormat_lawful example_ideal foundEvents state (run.permits fun _ event member => ?_)
  simp only [foundEvents, List.mem_cons, List.not_mem_nil, or_false] at member
  rcases member with rfl | rfl | rfl | rfl | rfl | rfl | rfl | rfl | rfl
  · rfl
  all_goals trivial

/-- What would be so if a download needed only to start while no upload is in progress. -/
def ReadsWhenQuiet (finished : Finished) : Prop := forall sent, finished.watch.started = some sent ->
  finished.watch.quiet = true -> finished.passphrase = sent.request.passphrase -> Returns finished sent.request

/-- A download that failed although it started while no upload was in progress. -/
def Finished.lost (finished : Finished) : Bool :=
  match finished.watch.started, finished.result with
  | some sent, .error _ => finished.watch.quiet && decide (finished.passphrase = sent.request.passphrase)
  | _, _ => false

theorem Finished.lost_spec {finished : Finished} (lost : finished.lost = true) : ¬ ReadsWhenQuiet finished := by
  intro reads
  unfold Finished.lost at lost
  split at lost
  next sent error started failed =>
    rw [Bool.and_eq_true, decide_eq_true_eq] at lost
    rcases reads sent started lost.1 lost.2 with ⟨safe, -, same⟩
    cases failed.symm.trans same
  · cases lost

/-- A backup, and what happens to a download after it. -/
def afterBackup (events : List Event) : List Event := [exampleUpload, .page 0 100, .send 0 1 true] ++ events

/-- A thousand other messages arrive. -/
def farEvents : List Event :=
  (List.range 1000).map (fun index => .arrives (index + 2) []) ++
    [.download examplePassphrase, .page 0 1000, .decrypt 0]

/-- A message that begins like a backup is typed. -/
def typedEvents : List Event :=
  [.arrives 2 messagePrefix, .download examplePassphrase, .page 0 100, .decrypt 0]

/-- Another upload replaces the backup between two pages of the listing. -/
def racingEvents : List Event :=
  [.arrives 2 "note".toList, .download examplePassphrase, .page 0 1, exampleUpload, .page 1 100, .send 1 3 true,
    .delete 1 [1], .page 0 1, .decrypt 0]

/-- A run with these events has a download that does not read as it would in quiet. -/
def Loses (events : List Event) : Prop :=
  Exists fun state => exampleMachine.Run Machine.anything .initial (afterBackup events) state ∧
    Exists fun finished => finished ∈ state.finished ∧ ¬ ReadsWhenQuiet finished

theorem loses_of_replay {events : List Event}
    (failed : ((exampleMachine.replay .initial (afterBackup events)).any fun state =>
      state.finished.any Finished.lost) = true) : Loses events := by
  cases replayed : exampleMachine.replay .initial (afterBackup events) with
  | none =>
    rw [replayed] at failed
    exact absurd failed Bool.false_ne_true
  | some state =>
    rw [replayed] at failed
    rcases List.any_eq_true.mp failed with ⟨finished, within, gone⟩
    exact ⟨state, Machine.run_of_replay replayed, finished, within, Finished.lost_spec gone⟩

/-- Each of these downloads starts while no upload is in progress, has the passphrase of the
backup, and fails. -/
theorem quiet_downloads_fail : Loses farEvents ∧ Loses typedEvents ∧ Loses racingEvents :=
  ⟨loses_of_replay (by decide +kernel), loses_of_replay (by decide +kernel),
    loses_of_replay (by decide +kernel)⟩

end Example

end SettingsSync
end TelegramDrive
