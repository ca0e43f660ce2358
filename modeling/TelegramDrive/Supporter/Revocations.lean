import TelegramDrive.Supporter.Access

namespace TelegramDrive
namespace Supporter

/-!
# Payments in every run

No statement removes an entitlement or makes a revoked one active again.  So a payment stays
what it was, and a request that begins after a revocation gets no token.
-/

variable {service : Service} {db middle next : Database}

/-! ## Entitlements -/

def EntitlementsKept (db next : Database) : Prop :=
  forall before, before ∈ db.entitlements.items ->
    Exists fun after => after ∈ next.entitlements.items ∧ Keeps before after

theorem EntitlementsKept.refl (db : Database) : EntitlementsKept db db :=
  fun entitlement member => ⟨entitlement, member, .refl entitlement⟩

theorem EntitlementsKept.trans (first : EntitlementsKept db middle) (second : EntitlementsKept middle next) :
    EntitlementsKept db next := by
  intro before member
  rcases first before member with ⟨between, inside, one⟩
  rcases second between inside with ⟨after, there, two⟩
  exact ⟨after, there, one.trans two⟩

theorem Statement.entitlementsKept (statement : Statement) (allowed : statement.Allowed service db) :
    EntitlementsKept db (statement.apply db) := by
  by_cases plain : statement.plain = true
  · exact (statement.steady plain).keptEntitlements
  · cases statement with
    | insertClaim id secretHash publicKey keyHash termsVersion createdAt expiresAt =>
      refine orElse_cases (.refl db) fun next inserted => ?_
      rcases insertClaim_cases inserted with ⟨claim, -, -, -, -, rfl⟩
      exact .refl db
    | markPending claimId orderId approvalUrl =>
      refine orElse_cases (.refl db) fun next marked => ?_
      have same := (markPending_cases marked).2.2.1
      exact fun before member => ⟨before, same ▸ member, .refl before⟩
    | complete details =>
      refine orElse_cases (.refl db) fun next completed => ?_
      have inserted := (complete_cases allowed.2 completed).2.1
      refine fun before member => ⟨before, ?_, .refl before⟩
      rw [inserted, Table.mem_insert]
      refine Or.inr ⟨member, fun same => ?_⟩
      -- the id of the new entitlement is free
      have found := Table.find?_of_mem member
      rw [same] at found
      cases allowed.2.symm.trans found
    | _ => exact absurd rfl plain

variable {state final : State} {event : Event} {events : List Event}

theorem step_entitlementsKept (valid : Valid service state)
    (moved : (serviceMachine service).step state event = some final) : EntitlementsKept state.db final.db := by
  rcases machine_act moved with ⟨after, acted, same, -, -⟩
  rw [same]
  rcases act_writes acted with unwritten | ⟨statement, its, wrote⟩
  · rw [unwritten]
    exact .refl state.db
  · rw [wrote]
    exact statement.entitlementsKept (act_allowed valid acted its)

/-- What the history has from some state on. -/
structure Since (service : Service) (before state : State) : Prop where
  valid : Valid service state
  clock : before.clock ≤ state.clock
  fewer : forall time, time ≤ before.clock -> (state.snapshot time).workers.length ≤ before.workers.length
  kept : forall time, before.clock ≤ time -> time ≤ state.clock ->
    EntitlementsKept before.db (state.snapshot time).db

theorem Since.step {before : State} (lawful : service.Lawful) (since : Since service before state)
    (moved : (serviceMachine service).step state event = some final) : Since service before final where
  valid := step_valid lawful since.valid moved
  clock := by
    rw [clock_step moved]
    exact Nat.le_succ_of_le since.clock
  fewer time early := by
    rw [snapshot_step moved (early.trans since.clock)]
    exact since.fewer time early
  kept time late early := by
    rcases Nat.lt_or_ge state.clock time with now | old
    · rw [Nat.le_antisymm early ((clock_step moved).trans_le now), snapshot_now]
      have present := since.kept state.clock since.clock (Nat.le_refl _)
      rw [snapshot_now] at present
      exact present.trans (step_entitlementsKept since.valid moved)
    · rw [snapshot_step moved old]
      exact since.kept time late old

end Supporter
end TelegramDrive
