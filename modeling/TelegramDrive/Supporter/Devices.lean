import TelegramDrive.Supporter.Webhooks

namespace TelegramDrive
namespace Supporter

/-!
# The devices of an entitlement

Admission counts and inserts in one statement, and a batch that makes an entitlement
brings its first device.  A device has the hash of its key.
-/

variable {service : Service} {state next : State} {event : Event} {db after : Database}

/-! ## Counts -/

/-- The devices that count against the limit. -/
def countsFor (entitlementId : String) (device : Device) : Bool :=
  decide (device.entitlementId = entitlementId) && device.revokedAt.isNone

/-- Whether the device under a key counts. -/
def Database.registered (db : Database) (entitlementId : String) (key : String × String) : Bool :=
  (db.devices.find? key).any (countsFor entitlementId)

theorem activeDevices_insert (db : Database) (device : Device) (entitlementId : String) :
    ({ db with devices := db.devices.insert device } : Database).activeDevices entitlementId +
        (if db.registered entitlementId device.key then 1 else 0) =
      db.activeDevices entitlementId + if countsFor entitlementId device then 1 else 0 := by
  have erased := db.devices.countP_erase device.key (countsFor entitlementId)
  have inserted := db.devices.countP_insert device (countsFor entitlementId)
  unfold Database.activeDevices Database.registered
  change (db.devices.insert device).items.countP (countsFor entitlementId) + _ =
    db.devices.items.countP (countsFor entitlementId) + _
  omega

/-- A change that registers no device again. -/
theorem activeDevices_update {selects : Device -> Bool} {change : Device -> Device}
    (keeps : forall device, (change device).key = device.key)
    (fewer : forall device, (change device).revokedAt = none -> device.revokedAt = none) (entitlementId : String) :
    ({ db with devices := db.devices.update selects change keeps } : Database).activeDevices entitlementId ≤
      db.activeDevices entitlementId := by
  unfold Database.activeDevices Table.update Table.filterMap
  simp only [List.filterMap_eq_map', List.countP_map]
  apply List.countP_mono_left
  intro device _ counts
  simp only [Function.comp_apply, Bool.and_eq_true, decide_eq_true_eq, Option.isNone_iff_eq_none] at counts ⊢
  split at counts
  · have same : (change device).entitlementId = device.entitlementId := congrArg Prod.fst (keeps device)
    exact ⟨same.symm.trans counts.1, fewer device counts.2⟩
  · exact counts

/-! ## The invariant -/

/-- The devices are within the limit, belong to an entitlement, and have the hash of
their key, as the claims do. -/
structure Registry (service : Service) (db : Database) : Prop where
  limit : forall entitlementId, db.activeDevices entitlementId ≤ service.maxActiveDevices
  owned : forall device, device ∈ db.devices.items -> Exists fun entitlement =>
    entitlement ∈ db.entitlements.items ∧ entitlement.id = device.entitlementId
  deviceKeys : forall device, device ∈ db.devices.items ->
    device.deviceKeyHash = service.primitives.sha256Text device.devicePublicKey
  claimKeys : forall claim, claim ∈ db.claims.items ->
    claim.deviceKeyHash = service.primitives.sha256Text claim.devicePublicKey

theorem empty_registry (service : Service) : Registry service .empty where
  limit _ := Nat.zero_le _
  owned _ member := absurd member List.not_mem_nil
  deviceKeys _ member := absurd member List.not_mem_nil
  claimKeys _ member := absurd member List.not_mem_nil

/-- What a statement needs: a limit that is positive, and keys with their hashes. -/
def Statement.Keyed (service : Service) : Statement -> Prop
  | .insertClaim _ _ publicKey keyHash _ _ _ => keyHash = service.primitives.sha256Text publicKey
  | .activate _ keyHash publicKey _ limit =>
    keyHash = service.primitives.sha256Text publicKey ∧ limit = service.maxActiveDevices
  | _ => True

/-- Whether a statement is about devices. -/
def Statement.registers : Statement -> Bool
  | .complete _ => true
  | .activate _ _ _ _ _ => true
  | .touch _ _ _ => true
  | .revokeDevice _ _ _ => true
  | _ => false

theorem Statement.devices_same (statement : Statement) (other : statement.registers = false) :
    (statement.apply db).devices = db.devices := by
  cases statement with
  | complete details | activate entitlementId keyHash publicKey now limit
  | touch entitlementId keyHash now | revokeDevice entitlementId keyHash now => cases other
  | insertClaim id secretHash publicKey keyHash termsVersion createdAt expiresAt =>
    exact @orElse_cases db _ (fun next => next.devices = db.devices) rfl fun _ inserted =>
      (insertClaim_others inserted).2.1
  | markPending claimId orderId approvalUrl =>
    exact @orElse_cases db _ (fun next => next.devices = db.devices) rfl fun _ marked =>
      (markPending_others marked).2.1
  | challenge id entitlementId keyHash nonceHash now =>
    exact @orElse_cases db _ (fun next => next.devices = db.devices) rfl fun _ created =>
      (challenge_others created).2
  | record eventId eventType now =>
    simp only [Statement.apply, Database.recordWebhook]
    split
    · rfl
    · rfl
  | revoke event now =>
    simp only [Statement.apply, Webhook.revoke]
    split
    · rfl
    · rfl
    · rfl
  | _ => rfl

theorem complete_devices {details : Database.Completion} (completed : db.completeCheckout details = .ok after) :
    after.devices = db.devices ∨ (db.devices.find? details.device.key = none ∧
      after.devices = db.devices.insert details.device) := by
  unfold Database.completeCheckout at completed
  split at completed
  next middle inserted =>
    cases completed
    have same : (db.insertEntitlement details).devices = db.devices := by
      unfold Database.insertEntitlement
      split
      · rfl
      · rfl
    unfold Database.insertDevice at inserted
    rw [same] at inserted
    split at inserted
    · cases inserted
    · split at inserted
      · cases inserted
        exact Or.inl same
      next absent =>
        cases inserted
        exact Or.inr ⟨Option.not_isSome_iff_eq_none.mp absent, rfl⟩
  · cases completed

theorem Statement.entitlements_grow (statement : Statement) (allowed : statement.Allowed service db)
    {entitlement : Entitlement} (member : entitlement ∈ db.entitlements.items) :
    Exists fun final => final ∈ (statement.apply db).entitlements.items ∧ final.id = entitlement.id := by
  by_cases plain : statement.plain = true
  · rcases (statement.steady plain).keptEntitlements entitlement member with ⟨final, inside, keeps⟩
    exact ⟨final, inside, keeps.id⟩
  · cases statement with
    | insertClaim id secretHash publicKey keyHash termsVersion createdAt expiresAt =>
      refine @orElse_cases db _ (fun next => Exists fun final => final ∈ next.entitlements.items ∧
        final.id = entitlement.id) ⟨entitlement, member, rfl⟩ fun next inserted => ?_
      rcases insertClaim_cases inserted with ⟨claim, -, -, -, -, rfl⟩
      exact ⟨entitlement, member, rfl⟩
    | markPending claimId orderId approvalUrl =>
      refine @orElse_cases db _ (fun next => Exists fun final => final ∈ next.entitlements.items ∧
        final.id = entitlement.id) ⟨entitlement, member, rfl⟩ fun next marked => ?_
      exact ⟨entitlement, (markPending_cases marked).2.2.1 ▸ member, rfl⟩
    | complete details =>
      refine @orElse_cases db _ (fun next => Exists fun final => final ∈ next.entitlements.items ∧
        final.id = entitlement.id) ⟨entitlement, member, rfl⟩ fun next completed => ?_
      rcases complete_cases allowed.2 completed with ⟨free, entitlements, -, -⟩
      exact ⟨entitlement, entitlements ▸ (mem_completed free).mpr (Or.inr member), rfl⟩
    | _ => exact absurd rfl plain

/-! ## Statements -/

theorem insertClaim_keys {id secretHash publicKey keyHash termsVersion : String} {createdAt expiresAt : Nat}
    (inserted : db.insertCheckoutClaim id secretHash publicKey keyHash termsVersion createdAt expiresAt = .ok after)
    {claim : CheckoutClaim} (member : claim ∈ after.claims.items) :
    claim ∈ db.claims.items ∨ (claim.devicePublicKey = publicKey ∧ claim.deviceKeyHash = keyHash) := by
  unfold Database.insertCheckoutClaim at inserted
  split at inserted
  · cases inserted
  · cases inserted
    rcases Table.mem_insert.mp member with rfl | ⟨before, -⟩
    · exact Or.inr ⟨rfl, rfl⟩
    · exact Or.inl before

theorem Statement.claimKeys (statement : Statement) (registry : Registry service db)
    (allowed : statement.Allowed service db) (keyed : statement.Keyed service) {claim : CheckoutClaim}
    (member : claim ∈ (statement.apply db).claims.items) :
    claim.deviceKeyHash = service.primitives.sha256Text claim.devicePublicKey := by
  by_cases plain : statement.plain = true
  · rcases (statement.steady plain).claims claim member with ⟨before, inside, moves⟩
    rw [moves.keyHash, moves.publicKey]
    exact registry.claimKeys before inside
  · cases statement with
    | insertClaim id secretHash publicKey keyHash termsVersion createdAt expiresAt =>
      revert member
      refine @orElse_cases db _ (fun next => claim ∈ next.claims.items -> _) (registry.claimKeys claim) ?_
      intro next inserted member
      rcases insertClaim_keys inserted member with before | ⟨publicKey, keyHash⟩
      · exact registry.claimKeys claim before
      · rw [publicKey, keyHash]
        exact keyed
    | markPending claimId orderId approvalUrl =>
      revert member
      refine @orElse_cases db _ (fun next => claim ∈ next.claims.items -> _) (registry.claimKeys claim) ?_
      intro next marked member
      rcases (markPending_cases marked).1 claim member with ⟨before, inside, rfl | ⟨-, -, -, rfl⟩⟩
      · exact registry.claimKeys claim inside
      · exact registry.claimKeys before inside
    | complete details =>
      revert member
      refine @orElse_cases db _ (fun next => claim ∈ next.claims.items -> _) (registry.claimKeys claim) ?_
      intro next completed member
      rcases complete_cases allowed.2 completed with ⟨-, -, -, claims⟩
      rw [claims] at member
      rcases mem_markCompleted.mp member with ⟨before, inside, ⟨rfl, -⟩ | ⟨-, -, rfl⟩⟩
      · exact registry.claimKeys claim inside
      · exact registry.claimKeys before inside
    | _ => exact absurd rfl plain

theorem Prepared.deviceKey {details : Database.Completion} (registry : Registry service db)
    (prepared : Prepared service db details) :
    details.device.deviceKeyHash = service.primitives.sha256Text details.device.devicePublicKey := by
  rcases prepared.claim with ⟨row, inside, later⟩
  have its := registry.claimKeys row inside
  rw [later.keyHash, later.publicKey] at its
  exact its

theorem Statement.devices_from (statement : Statement) (registry : Registry service db)
    (allowed : statement.Allowed service db) (keyed : statement.Keyed service) {device : Device}
    (member : device ∈ (statement.apply db).devices.items) :
    device.deviceKeyHash = service.primitives.sha256Text device.devicePublicKey ∧
      Exists fun entitlement => entitlement ∈ (statement.apply db).entitlements.items ∧
        entitlement.id = device.entitlementId := by
  have old : device ∈ db.devices.items -> device.deviceKeyHash = service.primitives.sha256Text device.devicePublicKey ∧
      Exists fun entitlement => entitlement ∈ (statement.apply db).entitlements.items ∧
        entitlement.id = device.entitlementId := by
    intro before
    rcases registry.owned device before with ⟨entitlement, inside, same⟩
    rcases statement.entitlements_grow allowed inside with ⟨final, there, its⟩
    exact ⟨registry.deviceKeys device before, final, there, its.trans same⟩
  by_cases other : statement.registers = false
  · rw [statement.devices_same other] at member
    exact old member
  · cases statement with
    | complete details =>
      simp only [Statement.apply] at member old ⊢
      cases completed : db.completeCheckout details with
      | error error =>
        simp only [completed, orElse] at member old ⊢
        exact old member
      | ok next =>
        simp only [completed, orElse] at member old ⊢
        rcases complete_cases allowed.2 completed with ⟨free, entitlements, -, -⟩
        rcases complete_devices completed with same | ⟨-, same⟩
        · exact old (same ▸ member)
        · rw [same] at member
          rcases Table.mem_insert.mp member with rfl | ⟨before, -⟩
          · refine ⟨allowed.1.deviceKey registry, details.entitlement, ?_, rfl⟩
            rw [entitlements, mem_completed free]
            exact Or.inl rfl
          · exact old before
    | activate entitlementId keyHash publicKey now limit =>
      simp only [Statement.apply, Database.activateDevice] at member old ⊢
      split at member
      next admitted =>
        rw [if_pos admitted] at old ⊢
        rcases Table.mem_insert.mp member with rfl | ⟨before, -⟩
        · have active := (Bool.and_eq_true_iff.mp admitted).1
          rcases (Option.any_eq_true _ _).mp active with ⟨entitlement, found, -⟩
          rcases Table.find?_eq_some.mp found with ⟨inside, same⟩
          exact ⟨keyed.1, entitlement, inside, same⟩
        · exact old before
      next denied =>
        rw [if_neg denied] at old ⊢
        exact old member
    | touch entitlementId keyHash now | revokeDevice entitlementId keyHash now =>
      rcases List.mem_filterMap.mp member with ⟨before, inside, same⟩
      cases same
      have kept : forall device, device ∈ db.devices.items ->
          device.deviceKeyHash = service.primitives.sha256Text device.devicePublicKey ∧
            Exists fun entitlement => entitlement ∈ db.entitlements.items ∧ entitlement.id = device.entitlementId :=
        fun device there => ⟨registry.deviceKeys device there, registry.owned device there⟩
      split
      · exact kept before inside
      · exact kept before inside
    | _ => exact absurd rfl other

theorem Registry.none (registry : Registry service db) {entitlementId : String}
    (absent : db.entitlements.find? entitlementId = none) : db.activeDevices entitlementId = 0 := by
  unfold Database.activeDevices
  rw [List.countP_eq_zero]
  intro device member counts
  simp only [Bool.and_eq_true, decide_eq_true_eq] at counts
  rcases registry.owned device member with ⟨entitlement, inside, same⟩
  exact Table.find?_eq_none.mp absent entitlement inside (same.trans counts.1)

/-- No statement takes an entitlement over the limit. -/
theorem Statement.limit (statement : Statement) (positive : 1 ≤ service.maxActiveDevices)
    (registry : Registry service db) (allowed : statement.Allowed service db) (keyed : statement.Keyed service)
    (entitlementId : String) : (statement.apply db).activeDevices entitlementId ≤ service.maxActiveDevices := by
  have before := registry.limit entitlementId
  have same : forall next : Database, next.devices = db.devices ->
      next.activeDevices entitlementId ≤ service.maxActiveDevices := by
    intro next devices
    unfold Database.activeDevices at before ⊢
    rw [devices]
    exact before
  by_cases other : statement.registers = false
  · exact same _ (statement.devices_same other)
  · cases statement with
    | complete details =>
      refine @orElse_cases db _ (fun next => next.activeDevices entitlementId ≤ service.maxActiveDevices) before ?_
      intro next completed
      rcases complete_devices completed with unchanged | ⟨-, inserted⟩
      · exact same next unchanged
      · have counted := activeDevices_insert db details.device entitlementId
        have exact : next.activeDevices entitlementId =
            ({ db with devices := db.devices.insert details.device } : Database).activeDevices entitlementId := by
          unfold Database.activeDevices
          rw [inserted]
        by_cases its : details.entitlementId = entitlementId
        · have none := registry.none allowed.2
          rw [its] at none
          split at counted <;> split at counted <;> omega
        · have apart : countsFor entitlementId details.device = false := by
            simp [countsFor, Database.Completion.device, its]
          simp only [apart, Bool.false_eq_true, if_false] at counted
          omega
    | activate id keyHash publicKey now limit =>
      simp only [Statement.apply, Database.activateDevice]
      split
      next admitted =>
        generalize registered : Device.mk id keyHash publicKey _ now none = device
        change ({ db with devices := db.devices.insert device } : Database).activeDevices entitlementId ≤ _
        have counted := activeDevices_insert db device entitlementId
        by_cases its : id = entitlementId
        · -- The device counts already, or there is room for it.
          rcases Bool.or_eq_true_iff.mp (Bool.and_eq_true_iff.mp admitted).2 with active | room
          · rcases (Option.any_eq_true _ _).mp active with ⟨old, found, unrevoked⟩
            have counts : db.registered entitlementId device.key = true := by
              have key : old.key = (id, keyHash) := Table.key_of_find? found
              rw [← registered]
              apply (Option.any_eq_true _ _).mpr
              refine ⟨old, found, ?_⟩
              simp only [countsFor, Bool.and_eq_true, decide_eq_true_eq]
              exact ⟨(congrArg Prod.fst key).trans its, unrevoked⟩
            rw [if_pos counts] at counted
            split at counted <;> omega
          · have room := of_decide_eq_true room
            rw [its, keyed.2] at room
            split at counted <;> split at counted <;> omega
        · have apart : countsFor entitlementId device = false := by
            rw [← registered]
            simp [countsFor, its]
          simp only [apart, Bool.false_eq_true, if_false] at counted
          omega
      · exact before
    | touch id keyHash now =>
      refine Nat.le_trans ?_ before
      change ({ db with devices := db.devices.update _ _ _ } : Database).activeDevices entitlementId ≤ _
      apply activeDevices_update
      intro device active
      exact active
    | revokeDevice id keyHash now =>
      refine Nat.le_trans ?_ before
      change ({ db with devices := db.devices.update _ _ _ } : Database).activeDevices entitlementId ≤ _
      apply activeDevices_update
      intro device active
      cases active
    | _ => exact absurd rfl other

theorem Statement.registry (statement : Statement) (positive : 1 ≤ service.maxActiveDevices)
    (registry : Registry service db) (allowed : statement.Allowed service db) (keyed : statement.Keyed service) :
    Registry service (statement.apply db) where
  limit := statement.limit positive registry allowed keyed
  owned _ member := (statement.devices_from registry allowed keyed member).2
  deviceKeys _ member := (statement.devices_from registry allowed keyed member).1
  claimKeys _ member := statement.claimKeys registry allowed keyed member

end Supporter
end TelegramDrive
