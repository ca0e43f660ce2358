import Mathlib.Algebra.BigOperators.Group.List.Basic
import Mathlib.Algebra.Order.Field.Basic
import Mathlib.Tactic.Linarith
import Mathlib.Tactic.Ring

namespace TelegramDrive
namespace Spacing

/-!
# What is spaced by its size keeps a rate

Items come one after the other, each with a size and a moment.  When every item
comes at least its own size, divided by a rate, after the one before it, all but
the first of any stretch fit into the length of that stretch at that rate.
-/

variable {Item K : Type}

/-- The moment of the last item of a stretch that starts with this one. -/
def last (moment : Item -> K) : Item -> List Item -> K
  | first, [] => moment first
  | _, second :: rest => last moment second rest

theorem last_eq (moment : Item -> K) (first : Item) (rest : List Item) :
    Exists fun item => item ∈ first :: rest ∧ last moment first rest = moment item := by
  induction rest generalizing first with
  | nil => exact ⟨first, List.mem_cons_self, rfl⟩
  | cons second rest ih =>
    rcases ih second with ⟨item, within, same⟩
    exact ⟨item, List.mem_cons_of_mem first within, same⟩

section Rate

variable [Field K] [LinearOrder K] [IsStrictOrderedRing K] {moment size : Item -> K} {rate : K}

theorem sum_le_of_spaced (positive : 0 < rate) (first : Item) (rest : List Item)
    (spaced : (first :: rest).IsChain fun one two => moment one + size two / rate ≤ moment two) :
    (rest.map size).sum ≤ rate * (last moment first rest - moment first) := by
  induction rest generalizing first with
  | nil => simp [last]
  | cons second rest ih =>
    rcases List.isChain_cons_cons.mp spaced with ⟨near, later⟩
    have tail := ih second later
    have gap : size second ≤ rate * (moment second - moment first) := by
      rw [← div_le_iff₀' positive]
      linarith
    have whole : rate * (last moment second rest - moment first) =
        rate * (last moment second rest - moment second) + rate * (moment second - moment first) := by
      ring
    simp only [List.map_cons, List.sum_cons, last]
    linarith

end Rate

end Spacing
end TelegramDrive
