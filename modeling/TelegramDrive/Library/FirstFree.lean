import Mathlib.Data.List.Nodup
import Mathlib.Data.List.Perm.Subperm

namespace TelegramDrive

universe u

/-!
# The first attempt that is not taken

A loop tries one name after another until it finds one that is free.  Distinct attempts
cannot all be taken by fewer names, so the loop ends.
-/

namespace FirstFree

variable {α : Type u} [DecidableEq α]

/-- The number of the first attempt from `start` that is free, among `fuel` many. -/
def search (taken : List α) (attempt : Nat -> α) : Nat -> Nat -> Option Nat
  | 0, _ => none
  | fuel + 1, start => if attempt start ∈ taken then search taken attempt fuel (start + 1) else some start

variable {taken : List α} {attempt : Nat -> α}

theorem search_free {fuel start found : Nat} (ended : search taken attempt fuel start = some found) :
    start ≤ found ∧ attempt found ∉ taken ∧ forall number, start ≤ number -> number < found ->
      attempt number ∈ taken := by
  induction fuel generalizing start with
  | zero => cases ended
  | succ fuel ih =>
    rw [search] at ended
    split at ended
    next here =>
      rcases ih ended with ⟨later, free, before⟩
      refine ⟨by omega, free, ?_⟩
      intro number lower upper
      by_cases same : number = start
      · rw [same]
        exact here
      · exact before number (by omega) upper
    next free =>
      cases ended
      refine ⟨Nat.le_refl _, free, ?_⟩
      intro number lower upper
      omega

theorem search_none {fuel start : Nat} (nothing : search taken attempt fuel start = none) (number : Nat)
    (inside : number < fuel) : attempt (start + number) ∈ taken := by
  induction fuel generalizing start number with
  | zero => omega
  | succ fuel ih =>
    rw [search] at nothing
    split at nothing
    next here =>
      cases number with
      | zero => exact here
      | succ number =>
        rw [Nat.add_comm number 1, ← Nat.add_assoc]
        exact ih nothing number (by omega)
    · cases nothing

theorem search_ends (distinct : Function.Injective attempt) {fuel : Nat} (enough : taken.length < fuel)
    (start : Nat) : Exists fun found => search taken attempt fuel start = some found := by
  by_contra nothing
  have failed : search taken attempt fuel start = none := by
    apply Option.eq_none_iff_forall_not_mem.mpr
    intro found member
    exact nothing ⟨found, member⟩
  have inside : (List.range fuel).map (fun number => attempt (start + number)) ⊆ taken := by
    intro name member
    rcases List.mem_map.mp member with ⟨number, ranged, rfl⟩
    exact search_none failed number (List.mem_range.mp ranged)
  have separate : ((List.range fuel).map fun number => attempt (start + number)).Nodup := by
    refine List.Nodup.map ?_ List.nodup_range
    intro one other same
    exact Nat.add_left_cancel (distinct same)
  have bounded := (separate.subperm inside).length_le
  rw [List.length_map, List.length_range] at bounded
  omega

end FirstFree
end TelegramDrive
