import TelegramDrive.SettingsSync.Chat

namespace TelegramDrive
namespace SettingsSync

/-!
# Listings that find a backup

The messages of a chat come in the order of their ids, so a page takes the next ones, and
what is left for the following pages is the rest.  A backup that is within the reach of a
listing, with no other settings message before it, is the first that is found.
-/

/-- The newest message first. -/
def Descending (chat : List ChatMessage) : Prop := chat.Pairwise fun newer older => older.id < newer.id

variable {chat : List ChatMessage}

theorem below_sublist (chat : List ChatMessage) (before : Option Nat) : List.Sublist (below chat before) chat := by
  cases before with
  | none => exact List.Sublist.refl chat
  | some id => exact List.filter_sublist

/-- Behind the last of the first messages are the others. -/
theorem filter_below (descending : Descending chat) {count : Nat} {final : ChatMessage}
    (taken : (chat.take count).getLast? = some final) :
    (chat.filter fun message => decide (message.id < final.id)) = chat.drop count := by
  rcases List.getLast?_eq_some_iff.mp taken with ⟨front, split⟩
  have whole : chat = (front ++ [final]) ++ chat.drop count := by rw [← split, List.take_append_drop]
  unfold Descending at descending
  rw [whole, List.pairwise_append] at descending
  have earlier := (List.pairwise_append.mp descending.1).2.2
  have nothing : ((front ++ [final]).filter fun message => decide (message.id < final.id)) = [] := by
    refine List.filter_eq_nil_iff.mpr fun message member smaller => ?_
    have less := of_decide_eq_true smaller
    rcases List.mem_append.mp member with early | late
    · exact Nat.lt_asymm less (earlier message early final List.mem_cons_self)
    · rw [List.mem_singleton.mp late] at less
      exact Nat.lt_irrefl _ less
  have everything : ((chat.drop count).filter fun message => decide (message.id < final.id)) = chat.drop count := by
    refine List.filter_eq_self.mpr fun message member => decide_eq_true ?_
    exact descending.2.2 final (List.mem_append_right front List.mem_cons_self) message member
  conv => lhs; rw [whole]
  rw [List.filter_append, nothing, everything, List.nil_append]

theorem below_page (descending : Descending chat) {before : Option Nat} {count : Nat} {final : ChatMessage}
    (taken : ((below chat before).take count).getLast? = some final) :
    below chat (some final.id) = (below chat before).drop count := by
  rw [← filter_below (descending.sublist (below_sublist chat before)) taken]
  cases before with
  | none => rfl
  | some id =>
    have member := List.mem_of_mem_take (List.mem_of_getLast? taken)
    have smaller : final.id < id := of_decide_eq_true (List.mem_filter.mp member).2
    unfold below
    rw [List.filter_filter]
    refine List.filter_congr fun message _ => ?_
    rw [Bool.eq_iff_iff, Bool.and_eq_true, decide_eq_true_eq, decide_eq_true_eq]
    exact ⟨fun less => ⟨less, Nat.lt_trans less smaller⟩, fun both => both.1⟩

/-- The message is still to come, within the limit and before any other settings message. -/
structure Ahead (chat : List ChatMessage) (cursor : Cursor) (message : ChatMessage) : Prop where
  nothing : cursor.found = []
  coming : Exists fun newer => Exists fun older => below chat cursor.before = newer ++ message :: older ∧
    (forall other, other ∈ newer -> other.isSettings = false) ∧ cursor.seen + newer.length < messageScanLimit

/-- The message is the first that is found, or will be. -/
def Finds (chat : List ChatMessage) (cursor : Cursor) (message : ChatMessage) : Prop :=
  cursor.found.head? = some message ∨ Ahead chat cursor message

variable {cursor : Cursor} {message : ChatMessage} {size : Nat}

/-- A page keeps a listing on its way, and the last page finds the message. -/
theorem page_finds (descending : Descending chat) (settings : message.isSettings = true) (positive : size ≠ 0)
    (finds : Finds chat cursor message) : Finds chat (cursor.page chat size).1 message ∧
      ((cursor.page chat size).2 = true -> (cursor.page chat size).1.found.head? = some message) := by
  rcases finds with found | ⟨nothing, newer, older, coming, plain, reach⟩
  · have kept : (cursor.page chat size).1.found.head? = some message := by
      unfold Cursor.page
      dsimp only
      rw [List.head?_append, found]
      rfl
    exact ⟨Or.inl kept, fun _ => kept⟩
  · have asked : 0 < min size (messageScanLimit - cursor.seen) := by omega
    have unsettled : newer.filter ChatMessage.isSettings = [] :=
      List.filter_eq_nil_iff.mpr fun other member => Bool.eq_false_iff.mp (plain other member)
    by_cases short : newer.length < min size (messageScanLimit - cursor.seen)
    · have kept : (cursor.page chat size).1.found.head? = some message := by
        unfold Cursor.page
        dsimp only
        rw [nothing, coming, List.nil_append, List.take_append, List.filter_append,
          List.take_of_length_le (Nat.le_of_lt short), unsettled, List.nil_append,
          show min size (messageScanLimit - cursor.seen) - newer.length =
            (min size (messageScanLimit - cursor.seen) - newer.length - 1) + 1 by omega,
          List.take_succ_cons, List.filter_cons_of_pos settings]
        rfl
      exact ⟨Or.inl kept, fun _ => kept⟩
    · rw [Nat.not_lt] at short
      have taken : (below chat cursor.before).take (min size (messageScanLimit - cursor.seen)) =
          newer.take (min size (messageScanLimit - cursor.seen)) := by
        rw [coming, List.take_append_of_le_length short]
      have counted : (newer.take (min size (messageScanLimit - cursor.seen))).length =
          min size (messageScanLimit - cursor.seen) := by
        rw [List.length_take, Nat.min_eq_left short]
      have filled : newer.take (min size (messageScanLimit - cursor.seen)) ≠ [] := by
        intro empty
        rw [empty] at counted
        exact absurd counted (Nat.ne_of_lt asked)
      have goes : (cursor.page chat size).2 = false := by
        unfold Cursor.page
        dsimp only
        rw [taken, counted]
        simp only [Nat.lt_irrefl, decide_false, Bool.false_or, decide_eq_false_iff_not, Nat.not_le]
        omega
      refine ⟨Or.inr ⟨?_, newer.drop (min size (messageScanLimit - cursor.seen)), older, ?_, ?_, ?_⟩, ?_⟩
      · unfold Cursor.page
        dsimp only
        rw [taken, nothing, List.nil_append]
        exact List.filter_eq_nil_iff.mpr fun other member =>
          Bool.eq_false_iff.mp (plain other (List.mem_of_mem_take member))
      · rcases Option.isSome_iff_exists.mp (List.getLast?_isSome.mpr filled) with ⟨final, last⟩
        unfold Cursor.page
        dsimp only
        rw [taken, last, Option.map_some, Option.some_or]
        rw [below_page descending (taken ▸ last), coming, List.drop_append_of_le_length short]
      · exact fun other member => plain other (List.mem_of_mem_drop member)
      · unfold Cursor.page
        dsimp only
        rw [taken, counted, List.length_drop]
        omega
      · intro ended
        exact absurd (goes.symm.trans ended) Bool.false_ne_true

end SettingsSync
end TelegramDrive
