import TelegramDrive.Crypto.State

namespace TelegramDrive
namespace Crypto

/-!
# Sessions, handles and commits

A locked vault has no session and no handle; an unlocked one has a current
session, and that session has the vault's key.  The first part holds in every
reachable state.  The second needs that a changed passphrase is committed only
over the vault it was prepared from, which is what the revision is for: it is a
counter of the changes, kept modulo `2 ^ 64`.

Unlocking an unlocked vault adds a session and leaves the earlier one in the
table.  `getWrappingKey` looks a session up in that table only, so it still
answers for the earlier one, which every other entry point refuses.
-/

/-! ## Sessions and the lock -/

structure SessionsCoherent (inner : CryptoStateInner) : Prop where
  closed : inner.locked = true -> inner.currentSession = none ∧ inner.sessions.isEmpty = true ∧
    inner.operationHandles.isEmpty = true
  current : inner.locked = false -> Exists fun session => Exists fun info =>
    inner.currentSession = some session ∧ inner.sessions[session]? = some info

/-- The current session has the key of the vault. -/
def KeyCurrent (inner : CryptoStateInner) : Prop :=
  forall session info, inner.locked = false -> inner.currentSession = some session ->
    inner.sessions[session]? = some info -> inner.vault.wrappingKey = .ok info.wrappingKey

/-- No session but the current one is in the table. -/
def SingleSession (inner : CryptoStateInner) : Prop :=
  forall session, session ∈ inner.sessions -> inner.currentSession = some session

section Inner

variable {inner next : CryptoStateInner}

theorem new_coherent : SessionsCoherent CryptoStateInner.new :=
  ⟨fun _ => ⟨rfl, Std.TreeMap.isEmpty_emptyc, Std.TreeMap.isEmpty_emptyc⟩, nofun⟩

theorem lockInner_coherent : SessionsCoherent inner.lockInner :=
  ⟨fun _ => ⟨rfl, Std.TreeMap.isEmpty_emptyc, Std.TreeMap.isEmpty_emptyc⟩, nofun⟩

/-- A step that leaves the sessions and the lock keeps them coherent when it adds
no handle to a locked vault. -/
theorem SessionsCoherent.frame (coherent : SessionsCoherent inner)
    (locked : next.locked = inner.locked) (current : next.currentSession = inner.currentSession)
    (sessions : next.sessions = inner.sessions)
    (handles : inner.locked = true -> inner.operationHandles.isEmpty = true ->
      next.operationHandles.isEmpty = true) : SessionsCoherent next := by
  refine ⟨?_, ?_⟩
  · rw [locked, current, sessions]
    intro closed
    rcases coherent.closed closed with ⟨none_, empty, handleless⟩
    exact ⟨none_, empty, handles closed handleless⟩
  · rw [locked, current, sessions]
    exact coherent.current

theorem opened_coherent {drawn : UInt64} {info : SessionInfo} (locked : next.locked = false)
    (current : next.currentSession = some drawn) (listed : next.sessions[drawn]? = some info) :
    SessionsCoherent next := by
  refine ⟨?_, fun _ => ⟨drawn, info, current, listed⟩⟩
  rw [locked]
  exact nofun

end Inner

section Steps

variable {primitives : VaultPrimitives} {state next : CryptoState} {event : VaultEvent}

theorem advance_coherent (coherent : SessionsCoherent state.inner)
    (advance : Advance primitives state event next) : SessionsCoherent next.inner := by
  cases advance with
  | quiet quiet => exact coherent.frame quiet.locked quiet.currentSession quiet.sessions quiet.handles
  | locked inner =>
    rw [inner]
    exact lockInner_coherent
  | features features inner | changed finishes present done current kind inner =>
    rw [inner]
    exact coherent.frame rfl rfl rfl fun _ => id
  | opened finishes present done current opens held inner =>
    rw [inner]
    exact opened_coherent rfl rfl Std.TreeMap.getElem?_insert_self

theorem reachable_coherent {permitted : CryptoState -> VaultEvent -> Prop} {events : List VaultEvent}
    {final : CryptoState} (run : (vaultMachine primitives).Run permitted .initial events final) :
    SessionsCoherent final.inner :=
  run.invariant (fun state => SessionsCoherent state.inner)
    (fun _ _ _ _ coherent moved => advance_coherent coherent (vaultMachine_advance moved)) new_coherent

/-! ## One session -/

/-- No operation that can still be published opens a session over another one,
except an import, which clears the table. -/
def opensAlone (state : CryptoState) : VaultEvent -> Bool
  | .finish index _ _ =>
    (state.running[index]?).all fun ticket =>
      state.inner.locked || ticket.stale state.inner ||
        decide (ticket.operation.kind ≠ .create ∧ ticket.operation.kind ≠ .unlock)
  | _ => true

theorem advance_single (condition : opensAlone state event = true)
    (coherent : SessionsCoherent state.inner) (single : SingleSession state.inner)
    (advance : Advance primitives state event next) : SingleSession next.inner := by
  cases advance with
  | quiet quiet =>
    unfold SingleSession
    rw [quiet.sessions, quiet.currentSession]
    exact single
  | locked inner =>
    rw [inner]
    intro session member
    exact absurd member Std.TreeMap.not_mem_emptyc
  | features features inner | changed finishes present done current kind inner =>
    rw [inner]
    exact single
  | @opened index files drawn ticket prepared wrappingKey finishes present done current opens held inner =>
    rw [inner]
    subst finishes
    simp only [opensAlone, present, current, Option.all_some, Bool.or_false, Bool.or_eq_true,
      decide_eq_true_eq] at condition
    have cleared : (if ticket.operation.kind = .importRecovery then ∅
        else state.inner.sessions).isEmpty = true := by
      rcases condition with locked | ⟨notCreate, notUnlock⟩
      · split
        · exact Std.TreeMap.isEmpty_emptyc
        · exact (coherent.closed locked).2.1
      · rw [if_pos]
        · exact Std.TreeMap.isEmpty_emptyc
        · cases kind : ticket.operation.kind <;> rw [kind] at opens notCreate notUnlock <;>
            simp_all [Kind.opensSession]
    intro session member
    rcases Std.TreeMap.mem_insert.mp member with same | old
    · rw [Std.LawfulEqCmp.eq_of_compare same]
    · rw [Std.TreeMap.isEmpty_iff_forall_not_mem] at cleared
      exact absurd old (cleared session)

end Steps

/-- The session that every entry point should answer for. -/
def IsCurrent (inner : CryptoStateInner) (session : UInt64) : Prop :=
  inner.locked = false ∧ inner.currentSession = some session

section Authorisation

variable {inner : CryptoStateInner}

theorem SessionsCoherent.listed (coherent : SessionsCoherent inner) {session : UInt64}
    (current : IsCurrent inner session) :
    Exists fun info => inner.sessions[session]? = some info := by
  rcases coherent.current current.1 with ⟨found, info, same, listed⟩
  rw [current.2] at same
  cases same
  exact ⟨info, listed⟩

theorem SessionsCoherent.member (coherent : SessionsCoherent inner) {session : UInt64}
    (current : IsCurrent inner session) : session ∈ inner.sessions := by
  rcases coherent.listed current with ⟨info, listed⟩
  rw [Std.TreeMap.mem_iff_isSome_getElem?, listed]
  rfl

theorem validateSession_isOk (coherent : SessionsCoherent inner) (session : UInt64) :
    (inner.validateSession session).isOk = true ↔ IsCurrent inner session := by
  unfold CryptoStateInner.validateSession
  constructor
  · intro ok
    split at ok
    · cases ok
    next authorised =>
      rw [not_or, Bool.not_eq_true, not_not] at authorised
      exact authorised
  · intro current
    rw [if_neg, if_neg]
    · rfl
    · exact fun missing => missing (coherent.member current)
    · rw [not_or, Bool.not_eq_true, not_not]
      exact current

theorem withCurrentSession_isOk {α : Type} (coherent : SessionsCoherent inner) (session : UInt64)
    (value : α) : (inner.withCurrentSession session value).isOk = true ↔ IsCurrent inner session := by
  unfold CryptoStateInner.withCurrentSession
  constructor
  · intro ok
    split at ok
    · cases ok
    next authorised =>
      rw [not_or, not_or, Bool.not_eq_true, not_not] at authorised
      exact ⟨authorised.1, authorised.2.1⟩
  · intro current
    rw [if_neg]
    · rfl
    · rw [not_or, not_or, Bool.not_eq_true, not_not, not_not]
      exact ⟨current.1, current.2, coherent.member current⟩

theorem createOperationHandle_isOk (now : Nat) (session : UInt64) (operationClass : OperationClass)
    (drawn : UInt64) :
    (inner.createOperationHandle now session operationClass drawn).isOk = true ↔
      IsCurrent inner session := by
  unfold CryptoStateInner.createOperationHandle
  constructor
  · intro ok
    split at ok
    · cases ok
    next authorised =>
      rw [not_or, Bool.not_eq_true, not_not] at authorised
      exact authorised
  · intro current
    rw [if_neg]
    · rfl
    · rw [not_or, Bool.not_eq_true, not_not]
      exact current

theorem getWrappingKey_isOk (coherent : SessionsCoherent inner) (single : SingleSession inner)
    (session : UInt64) :
    (inner.getWrappingKey session).isOk = true ↔ IsCurrent inner session := by
  unfold CryptoStateInner.getWrappingKey
  constructor
  · intro ok
    split at ok
    · cases ok
    next unlocked =>
      rw [Bool.not_eq_true] at unlocked
      refine ⟨unlocked, single session ?_⟩
      rw [Std.TreeMap.mem_iff_isSome_getElem?]
      split at ok
      · cases ok
      next listed =>
        rw [listed]
        rfl
  · intro current
    rcases coherent.listed current with ⟨info, listed⟩
    rw [if_neg (Bool.eq_false_iff.mp current.1), listed]
    rfl

/-- What authorises the use of a handle. -/
structure Authorised (inner : CryptoStateInner) (now : Nat) (operation : OperationInfo)
    (operationClass : OperationClass) : Prop where
  sameClass : operation.operationClass = operationClass
  current : IsCurrent inner operation.sessionId
  unexpired : operationClass = .mediaStream -> now - operation.createdAt ≤ mediaOperationTtl

theorem validateOperation_isOk (coherent : SessionsCoherent inner) (now : Nat) (handle : UInt64)
    (operationClass : OperationClass) :
    (inner.validateOperation now handle operationClass).isOk = true ↔
      Exists fun operation => inner.operationHandles[handle]? = some operation ∧
        Authorised inner now operation operationClass := by
  unfold CryptoStateInner.validateOperation
  constructor
  · intro ok
    split at ok
    · cases ok
    next operation listed =>
      split at ok
      · cases ok
      next authorised =>
        simp only [not_or, not_not, not_and, Nat.not_lt, Bool.not_eq_true, ne_eq] at authorised
        rcases authorised with ⟨unlocked, sameClass, current, -, unexpired⟩
        exact ⟨operation, listed, sameClass, ⟨unlocked, current⟩, unexpired⟩
  · rintro ⟨operation, listed, authorised⟩
    rw [listed]
    simp only
    rw [if_neg]
    · rfl
    · simp only [not_or, not_not, not_and, Nat.not_lt, Bool.not_eq_true, ne_eq]
      exact ⟨authorised.current.1, authorised.sameClass, authorised.current.2,
        coherent.member authorised.current, authorised.unexpired⟩

theorem retainOperations_getElem? (now : Nat) (handle : UInt64) :
    (inner.retainOperations now).operationHandles[handle]? =
      inner.operationHandles[handle]?.filter fun operation =>
        decide (operation.operationClass ≠ .mediaStream ∨
          now - operation.createdAt ≤ mediaOperationTtl) :=
  Std.TreeMap.getElem?_filter'

theorem operationWrappingKey_ok (now : Nat) (handle : UInt64) (operationClass : OperationClass)
    {key : SecretKey} (given : (inner.operationWrappingKey now handle operationClass).2 = .ok key) :
    Exists fun operation => Exists fun info => inner.operationHandles[handle]? = some operation ∧
      Authorised inner now operation operationClass ∧
      inner.sessions[operation.sessionId]? = some info ∧ key = info.wrappingKey := by
  unfold CryptoStateInner.operationWrappingKey at given
  split at given
  · cases given
  next unlocked =>
    rw [Bool.not_eq_true] at unlocked
    simp only at given
    split at given
    · cases given
    next operation retained =>
      rw [retainOperations_getElem?] at retained
      rcases Option.filter_eq_some_iff.mp retained with ⟨listed, kept⟩
      rw [decide_eq_true_eq] at kept
      split at given
      · cases given
      next authorised =>
        rw [not_or, not_not, not_not] at authorised
        split at given
        · cases given
        next info session =>
          cases given
          refine ⟨operation, info, listed, ⟨authorised.1, ⟨unlocked, authorised.2⟩, ?_⟩,
            session, rfl⟩
          intro media
          exact kept.resolve_left fun other => other (authorised.1.trans media)

theorem operationWrappingKey_isOk (coherent : SessionsCoherent inner) (now : Nat) (handle : UInt64)
    (operationClass : OperationClass) :
    (inner.operationWrappingKey now handle operationClass).2.isOk = true ↔
      Exists fun operation => inner.operationHandles[handle]? = some operation ∧
        Authorised inner now operation operationClass := by
  constructor
  · intro ok
    cases given : (inner.operationWrappingKey now handle operationClass).2 with
    | error error =>
      rw [given] at ok
      cases ok
    | ok key =>
      rcases operationWrappingKey_ok now handle operationClass given with
        ⟨operation, info, listed, authorised, -⟩
      exact ⟨operation, listed, authorised⟩
  · rintro ⟨operation, listed, authorised⟩
    rcases coherent.listed authorised.current with ⟨info, session⟩
    have retained : (inner.retainOperations now).operationHandles[handle]? = some operation := by
      rw [retainOperations_getElem?, listed]
      refine Option.filter_eq_some_iff.mpr ⟨rfl, decide_eq_true ?_⟩
      by_cases media : operationClass = .mediaStream
      · exact .inr (authorised.unexpired media)
      · exact .inl fun other => media (authorised.sameClass ▸ other)
    have permitted : ¬(operation.operationClass ≠ operationClass ∨
        (inner.retainOperations now).currentSession ≠ some operation.sessionId) := by
      rw [not_or, not_not, not_not]
      exact ⟨authorised.sameClass, authorised.current.2⟩
    have held : (inner.retainOperations now).sessions[operation.sessionId]? = some info := session
    unfold CryptoStateInner.operationWrappingKey
    simp only [authorised.current.1, Bool.false_eq_true, if_false, retained, if_neg permitted, held]
    rfl

end Authorisation

/-- In every run that opens no session over another one, the four entry points
that take a session answer for the current session of an unlocked vault and for
no other one, and a handle gives out a key exactly when it is valid, the key of
the current session it was created under. -/
theorem session_revocation_is_uniform {primitives : VaultPrimitives} {events : List VaultEvent}
    {final : CryptoState}
    (run : (vaultMachine primitives).Run (fun state event => opensAlone state event = true) .initial
      events final) :
    (forall session,
      ((final.inner.getWrappingKey session).isOk = true ↔ IsCurrent final.inner session) ∧
      (forall (α : Type) (value : α), (final.inner.withCurrentSession session value).isOk = true ↔
        IsCurrent final.inner session) ∧
      ((final.inner.validateSession session).isOk = true ↔ IsCurrent final.inner session) ∧
      forall operationClass drawn,
        (final.inner.createOperationHandle final.now session operationClass drawn).isOk = true ↔
          IsCurrent final.inner session) ∧
    forall handle operationClass,
      ((final.inner.operationWrappingKey final.now handle operationClass).2.isOk = true ↔
        (final.inner.validateOperation final.now handle operationClass).isOk = true) ∧
      forall key, (final.inner.operationWrappingKey final.now handle operationClass).2 = .ok key ->
        Exists fun operation => Exists fun info =>
          final.inner.operationHandles[handle]? = some operation ∧
          IsCurrent final.inner operation.sessionId ∧
          final.inner.sessions[operation.sessionId]? = some info ∧ key = info.wrappingKey := by
  have coherent := reachable_coherent run
  have single : SessionsCoherent final.inner ∧ SingleSession final.inner := by
    refine run.invariant
      (fun state => SessionsCoherent state.inner ∧ SingleSession state.inner)
      (fun state event next condition before moved => ?_) ⟨new_coherent, ?_⟩
    · have advance := vaultMachine_advance moved
      exact ⟨advance_coherent before.1 advance, advance_single condition before.1 before.2 advance⟩
    · exact fun session member => absurd member Std.TreeMap.not_mem_emptyc
  refine ⟨fun session => ⟨getWrappingKey_isOk coherent single.2 session,
    fun _ => withCurrentSession_isOk coherent session, validateSession_isOk coherent session,
    createOperationHandle_isOk final.now session⟩, fun handle operationClass => ⟨?_, ?_⟩⟩
  · rw [operationWrappingKey_isOk coherent, validateOperation_isOk coherent]
  · intro key given
    rcases operationWrappingKey_ok final.now handle operationClass given with
      ⟨operation, info, listed, authorised, session, same⟩
    exact ⟨operation, info, listed, authorised.current, session, same⟩

/-! ## A vault unlocked twice -/

/-- The vault is created, in a session numbered one, and unlocked again, after it
was locked or not. -/
def unlockedTwice (lockedBetween : Bool) : List VaultEvent :=
  sampleOperation (.create samplePassphrase) none 1 ++ (if lockedBetween then [.lock] else []) ++
    sampleOperation (.unlock samplePassphrase) (some []) 2

/-- Without a lock in between, the first session is no longer valid, and still
gives out the key. -/
theorem superseded_session_yields_key :
    Exists fun final =>
      (vaultMachine samplePrimitives).replay .initial (unlockedTwice false) = some final ∧
        final.inner.visibleSession = some 2 ∧
        (final.inner.validateSession 1).isOk = false ∧
        (final.inner.withCurrentSession 1 ()).isOk = false ∧
        final.inner.getWrappingKey 1 = .ok (sampleKey 1) := by
  decide +kernel

/-- With a lock in between, only the second session does. -/
theorem relocked_session_yields_no_key :
    Exists fun final =>
      ((vaultMachine samplePrimitives).guarded opensAlone).replay .initial (unlockedTwice true) =
        some final ∧
      (final.inner.getWrappingKey 2).isOk = true ∧ ¬(final.inner.getWrappingKey 1).isOk = true := by
  have shape : Exists fun final => ((vaultMachine samplePrimitives).guarded opensAlone).replay .initial
      (unlockedTwice true) = some final ∧ final.inner.locked = false ∧ final.inner.currentSession = some 2 := by
    decide +kernel
  rcases shape with ⟨final, replayed, unlocked, current⟩
  have uniform := (session_revocation_is_uniform (Machine.run_of_guarded_replay replayed)).1
  refine ⟨final, replayed, (uniform 2).1.mpr ⟨unlocked, current⟩, fun given => ?_⟩
  have other := ((uniform 1).1.mp given).2
  rw [current] at other
  cases other

end Crypto
end TelegramDrive
