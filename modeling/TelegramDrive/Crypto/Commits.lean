import TelegramDrive.Crypto.Sessions

namespace TelegramDrive
namespace Crypto

/-!
# Commits and their snapshots

An operation is published only when the revision and the session are those of
its snapshot.  The revision counts the changes modulo `2 ^ 64`, so equal
revisions mean that nothing changed, as long as fewer than `2 ^ 64` changes
happen while one operation runs.  `commitsInTime` states that; without it, an
operation whose snapshot is exactly one turn of the counter old is published.
-/

/-! ## The condition on a run -/

/-- The number of revisions. -/
def revisionTurn : Nat := 2 ^ 64

/-- Less than a turn of the counter passed since the snapshot. -/
def Ticket.inTime (ticket : Ticket) (state : CryptoState) : Bool :=
  decide (state.changes.length - ticket.taken < revisionTurn)

/-- No operation is published a whole turn of the counter after its snapshot. -/
def commitsInTime (state : CryptoState) : VaultEvent -> Bool
  | .finish index _ _ =>
    (state.running[index]?).all fun ticket => ticket.inTime state
  | _ => true

/-! ## The invariant -/

/-- What a running operation remembers of its snapshot. -/
structure TicketCurrent (primitives : VaultPrimitives) (state : CryptoState) (ticket : Ticket) :
    Prop where
  past : ticket.taken ≤ state.changes.length
  revision : ticket.revision = UInt64.ofNat ticket.taken
  vault : ticket.taken = state.changes.length -> ticket.vault = state.inner.vault
  prepared : forall prepared, ticket.prepared = some prepared ->
    Exists fun capture => Exists fun draws =>
      Crypto.prepare primitives ticket.vault capture draws ticket.operation = .ok prepared

structure Counted (primitives : VaultPrimitives) (state : CryptoState) : Prop where
  revision : state.inner.revision = UInt64.ofNat state.changes.length
  running : forall ticket, ticket ∈ state.running -> TicketCurrent primitives state ticket

section Steps

variable {primitives : VaultPrimitives} {state next : CryptoState} {event : VaultEvent}

theorem initial_counted : Counted primitives .initial :=
  ⟨rfl, fun _ member => absurd member List.not_mem_nil⟩

variable {ticket : Ticket}

theorem takeSnapshot_current {operation : Operation}
    (revision : state.inner.revision = UInt64.ofNat state.changes.length)
    (taken : takeSnapshot state.inner state.changes.length operation = .ok ticket) :
    TicketCurrent primitives state ticket := by
  unfold takeSnapshot at taken
  split at taken
  · split at taken <;> cases taken
  · cases taken
    exact ⟨Nat.le_refl _, revision, fun _ => rfl, nofun⟩

theorem TicketCurrent.quiet (current : TicketCurrent primitives state ticket)
    (changes : next.changes = state.changes) (vault : next.inner.vault = state.inner.vault) :
    TicketCurrent primitives next ticket := by
  refine ⟨?_, current.revision, ?_, current.prepared⟩
  · rw [changes]
    exact current.past
  · rw [changes, vault]
    exact current.vault

/-- After a change the vault of an earlier snapshot does not matter. -/
theorem TicketCurrent.changed (current : TicketCurrent primitives state ticket)
    {change : Change} (changes : next.changes = change :: state.changes) :
    TicketCurrent primitives next ticket := by
  refine ⟨?_, current.revision, ?_, current.prepared⟩
  · rw [changes, List.length_cons]
    exact Nat.le_succ_of_le current.past
  · intro same
    have past := current.past
    rw [changes, List.length_cons] at same
    omega

theorem counted_changed (counted : Counted primitives state) {change : Change}
    (revision : next.inner.revision = state.inner.revision + 1)
    (changes : next.changes = change :: state.changes)
    (running : forall ticket, ticket ∈ next.running -> ticket ∈ state.running) :
    Counted primitives next := by
  refine ⟨?_, fun ticket member => (counted.running ticket (running ticket member)).changed changes⟩
  rw [revision, counted.revision, changes, List.length_cons, UInt64.ofNat_add]
  rfl

theorem advance_counted (counted : Counted primitives state)
    (advance : Advance primitives state event next) : Counted primitives next := by
  cases advance with
  | quiet quiet changes running =>
    refine ⟨by rw [quiet.revision, changes, counted.revision], fun ticket member => ?_⟩
    refine TicketCurrent.quiet ?_ changes quiet.vault
    rcases running ticket member with old | ⟨operation, taken⟩ |
      ⟨earlier, capture, draws, prepared, old, done, rfl⟩
    · exact counted.running ticket old
    · exact takeSnapshot_current counted.revision taken
    · have before := counted.running earlier old
      refine ⟨before.past, before.revision, before.vault, ?_⟩
      intro found same
      cases same
      exact ⟨capture, draws, done⟩
  | locked inner changes running | features features inner changes running =>
    exact counted_changed counted (by rw [inner]; rfl) changes running
  | opened _ _ _ _ _ _ inner changes running | changed _ _ _ _ _ inner changes running =>
    exact counted_changed counted (by rw [inner]) changes running

/-- An operation that is not stale saw every change, if it is not a turn of the
counter old. -/
theorem current_taken (counted : Counted primitives state)
    (member : ticket ∈ state.running) (inTime : ticket.inTime state = true)
    (current : ticket.stale state.inner = false) : ticket.taken = state.changes.length := by
  have known := counted.running ticket member
  have same : state.inner.revision = ticket.revision := by
    by_contra different
    rw [Ticket.stale, decide_eq_false_iff_not] at current
    exact current (.inl different)
  rw [counted.revision, known.revision] at same
  have modulo := congrArg UInt64.toNat same
  rw [UInt64.toNat_ofNat', UInt64.toNat_ofNat'] at modulo
  have past := known.past
  have bound : state.changes.length - ticket.taken < 2 ^ 64 := of_decide_eq_true inTime
  omega

theorem wrappingKey_vaultKey {vault : FileVault} {key : SecretKey}
    (given : vault.wrappingKey = .ok key) : vault.vaultKey = some key := by
  unfold FileVault.wrappingKey at given
  split at given
  · cases given
  · split at given
    · cases given
    next held =>
      cases given
      exact held

theorem advance_keyCurrent (injective : Function.Injective primitives.sha256)
    (condition : commitsInTime state event = true) (counted : Counted primitives state) (keyed : KeyCurrent state.inner)
    (advance : Advance primitives state event next) : KeyCurrent next.inner := by
  cases advance with
  | quiet quiet =>
    unfold KeyCurrent
    rw [quiet.locked, quiet.currentSession, quiet.sessions, quiet.vault]
    exact keyed
  | locked inner =>
    rw [inner]
    exact fun _ _ => nofun
  | features features inner =>
    rw [inner]
    exact keyed
  | opened _ _ _ _ _ held inner =>
    rw [inner]
    intro session info _ current listed
    cases current
    rw [Std.TreeMap.getElem?_insert_self] at listed
    cases listed
    exact held
  | @changed index files drawn ticket prepared finishes present done current kind inner =>
    rw [inner]
    intro session info unlocked shown listed
    subst finishes
    have inTime : ticket.inTime state = true := by
      rw [commitsInTime, present] at condition
      exact condition
    have member := List.mem_of_getElem? present
    have known := counted.running ticket member
    have taken := current_taken counted member inTime current
    rcases known.prepared prepared done with ⟨capture, draws, prepares⟩
    rcases ticket with ⟨operation, _, _, vault, _, _⟩
    cases operation with
    | change before after =>
      rcases prepare_change primitives injective prepares with ⟨key, old, fresh⟩
      have same := wrappingKey_vaultKey (keyed session info unlocked shown listed)
      have snapshot : vault = state.inner.vault := known.vault taken
      rw [snapshot, same] at old
      change prepared.vault.wrappingKey = .ok info.wrappingKey
      rw [fresh, Option.some.inj old]
    | create | unlock | exportRecovery | verifyRecovery | importRecovery => cases kind

end Steps

/-- In every run whose operations are published within a turn of the counter: the
vault is locked exactly when there is no current session, a locked vault has no
sessions and no handles, and the current session of an unlocked vault has the
key of the vault.  And an operation that is published within a turn of the
counter changes the vault only when nothing changed since its snapshot: no lock,
no feature change and no other commit. -/
theorem vault_commit_follows_snapshot {primitives : VaultPrimitives}
    (injective : Function.Injective primitives.sha256) {events : List VaultEvent}
    {final : CryptoState}
    (run : (vaultMachine primitives).Run (fun state event => commitsInTime state event = true)
      .initial events final) :
    ((final.inner.locked = true ↔ final.inner.currentSession = none) ∧
      (final.inner.locked = true -> final.inner.sessions.isEmpty = true ∧
        final.inner.operationHandles.isEmpty = true) ∧
      (final.inner.locked = false -> Exists fun session => Exists fun info =>
        final.inner.currentSession = some session ∧ final.inner.sessions[session]? = some info ∧
        final.inner.vault.wrappingKey = .ok info.wrappingKey)) ∧
    forall ticket prepared files drawn kind, ticket ∈ final.running ->
      ticket.inTime final = true ->
      (publish ticket prepared final.inner final.now files drawn).2.1 = some (.committed kind) ->
      final.since ticket = [] := by
  have invariant : SessionsCoherent final.inner ∧ Counted primitives final ∧
      KeyCurrent final.inner := by
    refine run.invariant (fun state => SessionsCoherent state.inner ∧
      Counted primitives state ∧ KeyCurrent state.inner) (fun state event next condition before moved => ?_)
      ⟨new_coherent, initial_counted, fun _ _ => nofun⟩
    have advance := vaultMachine_advance moved
    exact ⟨advance_coherent before.1 advance, advance_counted before.2.1 advance,
      advance_keyCurrent injective condition before.2.1 before.2.2 advance⟩
  rcases invariant with ⟨coherent, counted, keyed⟩
  refine ⟨⟨⟨fun locked => (coherent.closed locked).1, ?_⟩, fun locked => (coherent.closed locked).2, ?_⟩, ?_⟩
  · intro absent
    by_contra unlocked
    rcases coherent.current (Bool.eq_false_iff.mpr unlocked) with ⟨session, info, current, -⟩
    rw [absent] at current
    cases current
  · intro unlocked
    rcases coherent.current unlocked with ⟨session, info, current, listed⟩
    exact ⟨session, info, current, listed, keyed session info unlocked current listed⟩
  · intro ticket prepared files drawn kind member inTime committed
    have current : ticket.stale final.inner = false := by
      have published := publishes ticket prepared final.inner final.now files drawn
      generalize publish ticket prepared final.inner final.now files drawn = result at published committed
      cases published with
      | refused | expired | read => cases committed
      | opened current | changed current => exact current
    rw [CryptoState.since, current_taken counted member inTime current, Nat.sub_self, List.take_zero]

/-! ## A turn of the counter -/

/-- The creation of a vault, prepared before any change. -/
def preparedCreation (prepared : Option Prepared) : Ticket where
  operation := .create samplePassphrase
  revision := 0
  session := none
  vault := .new
  taken := 0
  prepared := prepared

/-- That creation, after a number of locks. -/
def lockedMeanwhile (prepared : Prepared) (locks : Nat) : CryptoState where
  inner := { CryptoStateInner.new with revision := UInt64.ofNat locks }
  now := 0
  running := [preparedCreation (some prepared)]
  changes := List.replicate locks .locked

theorem lockedMeanwhile_run (prepared : Prepared) (locks : Nat) :
    Exists fun events => (vaultMachine samplePrimitives).Run Machine.anything
      (lockedMeanwhile prepared 0) events (lockedMeanwhile prepared locks) := by
  induction locks with
  | zero => exact ⟨[], .stop _⟩
  | succ locks ih =>
    rcases ih with ⟨events, run⟩
    refine ⟨events ++ [.lock], run.snoc trivial ?_⟩
    have revision : UInt64.ofNat locks + 1 = UInt64.ofNat (locks + 1) := (UInt64.ofNat_add ..).symm
    change some { lockedMeanwhile prepared locks with
      inner := { CryptoStateInner.new with revision := UInt64.ofNat locks + 1 }
      changes := .locked :: List.replicate locks .locked } = some (lockedMeanwhile prepared (locks + 1))
    rw [revision]
    rfl

theorem lockedMeanwhile_since (prepared : Prepared) {locks : Nat} (many : locks ≠ 0) :
    .locked ∈ (lockedMeanwhile prepared locks).since (preparedCreation (some prepared)) := by
  have all : (lockedMeanwhile prepared locks).since (preparedCreation (some prepared)) =
      List.replicate locks .locked := List.take_length
  rw [all]
  exact List.mem_replicate.mpr ⟨many, rfl⟩

theorem preparedCreation_commits {prepared : Prepared} {key : SecretKey} {inner : CryptoStateInner}
    (held : prepared.vault.wrappingKey = .ok key) (revision : inner.revision = 0)
    (session : inner.currentSession = none) :
    (publish (preparedCreation (some prepared)) prepared inner 0 ⟨true, true⟩ 1).2.1 =
      some (.committed .create) := by
  have current : (preparedCreation (some prepared)).stale inner = false := by
    simp [Ticket.stale, preparedCreation, revision, session, Operation.requiresUnlocked]
  rw [publish, current]
  simp [preparedCreation, Operation.requiresUnlocked, Operation.kind, Operation.diskAccess,
    commitPrepared, openSession, held]

/-- After exactly one turn of the counter a creation from before all these locks
is published. -/
theorem creation_survives_locks :
    Exists fun events => Exists fun final => Exists fun ticket => Exists fun prepared =>
      (vaultMachine samplePrimitives).Run Machine.anything .initial events final ∧
        ticket ∈ final.running ∧ ticket.prepared = some prepared ∧ ticket.operation.kind = .create ∧
        .locked ∈ final.since ticket ∧
        (publish ticket prepared final.inner final.now ⟨true, true⟩ 1).2.1 =
          some (.committed .create) := by
  have done : Exists fun prepared => prepare samplePrimitives .new
      (capturePreparationFiles none .create) sampleDraws (.create samplePassphrase) = .ok prepared :=
    ⟨_, rfl⟩
  rcases done with ⟨prepared, done⟩
  rcases prepare_opens samplePrimitives rfl done with ⟨key, held⟩
  have start : (vaultMachine samplePrimitives).Run Machine.anything .initial
      [.begin (.create samplePassphrase), .prepare 0 none sampleDraws] (lockedMeanwhile prepared 0) := by
    refine .take trivial rfl (.take trivial ?_ (.stop _))
    change CryptoState.prepare samplePrimitives { CryptoState.initial with
      running := [preparedCreation none] } 0 none sampleDraws = some (lockedMeanwhile prepared 0)
    simp only [CryptoState.prepare, List.getElem?_cons_zero, preparedCreation, Operation.diskAccess, done]
    rfl
  rcases lockedMeanwhile_run prepared revisionTurn with ⟨events, locks⟩
  have many : revisionTurn ≠ 0 := by decide
  have turned : UInt64.ofNat revisionTurn = 0 := by decide
  refine ⟨_, _, preparedCreation (some prepared), prepared, start.append locks,
    List.mem_singleton.mpr rfl, rfl, rfl, ?_, preparedCreation_commits held turned rfl⟩
  exact lockedMeanwhile_since prepared many

/-- A creation that runs alone leaves an unlocked vault whose session has its key. -/
theorem creation_commits_alone :
    Exists fun final =>
      ((vaultMachine samplePrimitives).guarded commitsInTime).replay .initial
          (sampleOperation (.create samplePassphrase) none 1) = some final ∧
        Exists fun session => Exists fun info => final.inner.currentSession = some session ∧
          final.inner.sessions[session]? = some info ∧
          final.inner.vault.wrappingKey = .ok info.wrappingKey := by
  have shape : Exists fun final => ((vaultMachine samplePrimitives).guarded commitsInTime).replay .initial
      (sampleOperation (.create samplePassphrase) none 1) = some final ∧ final.inner.locked = false := by
    decide +kernel
  exact shape.imp fun final ⟨replayed, unlocked⟩ => ⟨replayed,
    (vault_commit_follows_snapshot Function.injective_id (Machine.run_of_guarded_replay replayed)).1.2.2 unlocked⟩

end Crypto
end TelegramDrive
