import Mathlib.Algebra.Order.BigOperators.Group.List
import Mathlib.Algebra.Order.Group.Nat
import Mathlib.Algebra.GroupWithZero.Nat
import TelegramDrive.Library.Machine

namespace TelegramDrive
namespace Workspace
namespace Metadata

/-!
# The revision of the metadata

A connection counts the revision of the metadata up before it changes what is searched, and
again afterwards.  A search holds nothing: it compares the revisions before and after it.
-/

/-- The phases of a `MetadataMutation`: it is pending until it counts the first revision, and
again from the second on. -/
inductive Fence
  | entering
  | held
  | leaving
deriving DecidableEq

/-- A statement changes what is searched only if `relevant_metadata` says so. -/
structure Statement (Content : Type) where
  relevant : Bool
  effect : Content -> Content
  harmless : relevant = false -> effect = id

/-- A store, with what its open transaction would commit and the effect of the statement that
it executes. -/
structure Store (Content : Type) where
  transaction : Option (Content -> Content)
  fence : Option Fence
  executing : Option (Content -> Content)

structure State (Content : Type) where
  revision : Nat
  pending : Nat
  content : Content
  stores : List (Store Content)

def State.initial {Content : Type} (content : Content) (stores : Nat) : State Content :=
  ⟨0, 0, content, .replicate stores ⟨none, none, none⟩⟩

/-- The next step of a store.  Statements and commits may fail. -/
inductive Act (Content : Type)
  | transaction
  | execute (statement : Statement Content)
  | advance (ok : Bool)
  | finish (ok : Bool)

variable {Content : Type}

/-- `Store::transaction`, `Store::execute` and both ends of `MetadataMutation`.  A failed commit
is rolled back. -/
def Store.step (state : State Content) (store : Store Content) : Act Content -> Option (State Content × Store Content)
  | .transaction =>
    match store with
    | ⟨none, none, none⟩ => some (state, ⟨some id, none, none⟩)
    | _ => none
  | .execute statement =>
    match store with
    | ⟨transaction, none, none⟩ =>
      if statement.relevant then
        some ({ state with pending := state.pending + 1 }, ⟨transaction, some .entering, some statement.effect⟩)
      else some (state, ⟨transaction, none, some statement.effect⟩)
    | ⟨some working, some .held, none⟩ => some (state, ⟨some working, some .held, some statement.effect⟩)
    | _ => none
  | .advance ok =>
    match store with
    | ⟨transaction, some .entering, executing⟩ =>
      some ({ state with revision := state.revision + 1 }, ⟨transaction, some .held, executing⟩)
    | ⟨transaction, some .leaving, executing⟩ =>
      some ({ state with pending := state.pending - 1 }, ⟨transaction, none, executing⟩)
    | ⟨some working, fence, some effect⟩ =>
      some (state, ⟨some (if ok then effect ∘ working else working), fence, none⟩)
    | ⟨none, fence, some effect⟩ =>
      some ({ state with content := if ok then effect state.content else state.content }, ⟨none, fence, none⟩)
    | ⟨none, some .held, none⟩ =>
      some ({ state with revision := state.revision + 1 }, ⟨none, some .leaving, none⟩)
    | _ => none
  | .finish ok =>
    match store with
    | ⟨some working, fence, none⟩ =>
      some ({ state with content := if ok then working state.content else state.content }, ⟨none, fence, none⟩)
    | _ => none

/-- A store is opened before it takes its first step. -/
def metadataMachine (Content : Type) : Machine (State Content) (Nat × Act Content) where
  step state event :=
    state.stores[event.1]?.bind fun store => (store.step state event.2).map fun (next, after) =>
      { next with stores := state.stores.set event.1 after }

/-- `metadata_revision` loads what is pending first, and the revision later. -/
def metadataRevision (atPending atRevision : State Content) : Except String Nat :=
  if atPending.pending > 0 then .error "SEARCH_CHANGED: Wait for the current metadata update"
  else .ok (atRevision.revision % 2 ^ 64)

/-! ## Fences -/

variable {state next : State Content} {store after : Store Content}

/-- The revisions that a store has yet to count. -/
def Store.owed (store : Store Content) : Nat :=
  match store.fence with
  | some .entering => 2
  | some .held => 1
  | _ => 0

/-- The revisions that its fence counts altogether. -/
def Store.counts (store : Store Content) : Nat := if store.fence.isSome then 2 else 0

/-- Without a fence that is held, nothing waits to be changed. -/
structure Store.Sound (store : Store Content) : Prop where
  transaction : store.fence ≠ some .held -> store.transaction = none ∨ store.transaction = some id
  executing : store.fence ≠ some .entering -> store.fence ≠ some .held ->
    store.executing = none ∨ store.executing = some id

/-- A store changes the content only while it owes a revision. -/
theorem Store.step_sound {act : Act Content} (sound : store.Sound) (pending : store.counts ≤ 2 * state.pending)
    (moved : store.step state act = some (next, after)) :
    after.Sound ∧ state.revision ≤ next.revision ∧ state.revision + store.owed ≤ next.revision + after.owed ∧
      2 * next.pending + store.counts = 2 * state.pending + after.counts ∧
      (store.owed = 0 -> next.content = state.content) := by
  rcases sound with ⟨transaction, executing⟩
  have composed : (id : Content -> Content) ∘ id = id := rfl
  cases act with
  | execute statement =>
    have harmless := statement.harmless
    unfold Store.step at moved
    unfold Store.owed Store.counts
    refine ⟨⟨?_, ?_⟩, ?_⟩ <;> grind
  | _ =>
    rcases store with ⟨_ | working, _ | _ | _ | _, _ | effect⟩ <;> cases moved <;>
      simp_all [Store.owed, Store.counts, Store.Sound.mk] <;> omega

theorem sum_set (weight : Store Content -> Nat) {stores : List (Store Content)} {index : Nat}
    (there : stores[index]? = some store) : Exists fun others => (stores.map weight).sum = others + weight store ∧
      forall after, ((stores.set index after).map weight).sum = others + weight after := by
  induction stores generalizing index with
  | nil => cases there
  | cons first rest ih =>
    cases index with
    | zero =>
      cases there
      exact ⟨(rest.map weight).sum, Nat.add_comm _ _, fun _ => Nat.add_comm _ _⟩
    | succ index =>
      rcases ih there with ⟨others, before, set⟩
      exact ⟨weight first + others, by simp [before, Nat.add_assoc], fun after => by
        rw [List.set_cons_succ, List.map_cons, List.sum_cons, set, Nat.add_assoc]⟩

def State.owed (state : State Content) : Nat := (state.stores.map Store.owed).sum

structure State.Sound (state : State Content) : Prop where
  stores : forall store, store ∈ state.stores -> store.Sound
  pending : 2 * state.pending = (state.stores.map Store.counts).sum

theorem State.Sound.owed_le (sound : state.Sound) : state.owed ≤ 2 * state.pending := by
  rw [sound.pending]
  refine List.sum_le_sum fun store _ => ?_
  unfold Store.owed Store.counts
  grind

variable {event : Nat × Act Content} {events : List (Nat × Act Content)}

theorem step_sound (sound : state.Sound) (moved : (metadataMachine Content).step state event = some next) :
    next.Sound ∧ state.revision ≤ next.revision ∧ state.revision + state.owed ≤ next.revision + next.owed ∧
      (state.owed = 0 -> next.content = state.content) := by
  rcases sound with ⟨stores, pending⟩
  rcases Option.bind_eq_some_iff.mp moved with ⟨store, there, rest⟩
  rcases Option.map_eq_some_iff.mp rest with ⟨⟨middle, after⟩, stepped, rfl⟩
  rcases sum_set Store.counts there with ⟨_, counts, counted⟩
  rcases sum_set Store.owed there with ⟨_, owed, owing⟩
  rcases Store.step_sound (stores store (List.mem_of_getElem? there)) (by omega) stepped with
    ⟨kept, grows, owes, changes, same⟩
  unfold State.owed
  dsimp only
  rw [owing]
  refine ⟨⟨fun other listed => ?_, by rw [counted]; dsimp only; omega⟩, grows, by omega, fun free => same (by omega)⟩
  rcases List.mem_or_eq_of_mem_set listed with old | rfl
  · exact stores other old
  · exact kept

/-- While no revision is owed and none is counted, the content stays. -/
theorem run_sound (run : (metadataMachine Content).Run Machine.anything state events next) (sound : state.Sound) :
    next.Sound ∧ state.revision ≤ next.revision ∧ state.revision + state.owed ≤ next.revision + next.owed ∧
      (next.revision + next.owed ≤ state.revision -> next.content = state.content) := by
  induction run with
  | stop state => exact ⟨sound, Nat.le_refl _, Nat.le_refl _, fun _ => rfl⟩
  | take _ moved _ ih =>
    have first := step_sound sound moved
    have rest := ih first.1
    exact ⟨rest.1, by omega, by omega, fun still => (rest.2.2.2 (by omega)).trans (first.2.2.2 (by omega))⟩

/-! ## Searches -/

/-- A search between two equal revisions sees one content, unless the counter goes round. -/
theorem equal_revisions_mean_one_content {content : Content} {stores r : Nat} {first second third last : State Content}
    {during after again : List (Nat × Act Content)}
    (reached : (metadataMachine Content).Reachable (.initial content stores) state)
    (before : metadataRevision first state = .ok r)
    (search : (metadataMachine Content).Run Machine.anything state during second)
    (searched : (metadataMachine Content).Run Machine.anything second after third)
    (reloading : (metadataMachine Content).Run Machine.anything third again last)
    (later : metadataRevision third last = .ok r) (rounds : last.revision < state.revision + 2 ^ 64) :
    second.content = state.content := by
  have sound : state.Sound := by
    rcases reached with ⟨events, run⟩
    refine (run_sound run ⟨fun store member => ?_, by simp [State.initial, Store.counts]⟩).1
    rw [List.eq_of_mem_replicate member]
    exact ⟨fun _ => Or.inl rfl, fun _ _ => Or.inl rfl⟩
  have one := run_sound search sound
  have two := run_sound searched one.1
  have three := run_sound reloading two.1
  have nothing := two.1.owed_le
  unfold metadataRevision at before later
  split at before
  · cases before
  · split at later
    · cases later
    next free =>
      have same := (Except.ok.inj before).trans (Except.ok.inj later).symm
      exact one.2.2.2 (by omega)

/-- One store, which has written. -/
def written : State Nat := ⟨2, 0, 8, [⟨none, none, none⟩]⟩

theorem search_after_write_sees_one_content : Exists fun second : State Nat =>
    (metadataMachine Nat).Run Machine.anything written [(0, .transaction)] second ∧ second.content = 8 := by
  have write : (metadataMachine Nat).Run Machine.anything (.initial 7 1) [(0, .execute ⟨true, Nat.succ, Bool.noConfusion⟩),
      (0, .advance true), (0, .advance true), (0, .advance true), (0, .advance true)] written :=
    Machine.run_of_replay rfl
  have search : (metadataMachine Nat).Run Machine.anything written [(0, .transaction)]
      { written with stores := [⟨some id, none, none⟩] } := Machine.run_of_replay rfl
  have before : metadataRevision written written = .ok 2 := rfl
  exact ⟨_, search, equal_revisions_mean_one_content ⟨_, write⟩ before search (.stop _) (.stop _) rfl (by decide)⟩

end Metadata
end Workspace
end TelegramDrive
