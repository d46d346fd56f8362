import ShopBot.Guarantees.Fencing
import ShopBot.Refinement.RevokePlans

/-! # One revoke for each generation

Revoking is idempotent: the first call starts a generation and creates its task, further
calls find that task.
-/

namespace ShopBot

open Lifecycle Database

namespace System

variable {settings : Settings} {s : System}

/-- There is one revoke task for each generation; a call raises the generation exactly when it
starts to revoke, leaves no generation that is being revoked without its task, and writes
nothing where there is nothing to do. -/
theorem revoke_once_per_generation (h : Reachable settings s) :
    (∀ (id generation : ℕ) (r r' : TaskRef) (status status' : TaskStatus),
      s.db.taskOf id r = some ⟨.revoke, generation, status⟩ →
      s.db.taskOf id r' = some ⟨.revoke, generation, status'⟩ → r = r') ∧
    ∀ (ambient : Ambient) (id : ℕ) (reason : VpnRevokeReason) (plan : RevokePlan) (db' : Database),
      RevokeVpn.preparePlan settings ambient s.db id reason = .ok (plan, db') →
      (∀ (j : ℕ) (c c' : VpnConfiguration), s.db.vpnConfigurations[j]? = some c →
        db'.vpnConfigurations[j]? = some c' → c'.generation =
          if c.status ∈ [.provisioning, .active, .failed, .revokeFailed] ∧ c'.status = .revoking
          then c.generation + 1 else c.generation) ∧
      (∀ c' : VpnConfiguration, db'.vpnConfigurations[id]? = some c' → c'.status = .revoking →
        plan ≠ .result "skipped_current_access" (some id) →
        ∃ r status, db'.taskOf id r = some ⟨.revoke, c'.generation, status⟩) ∧
      ∀ c : VpnConfiguration, s.db.vpnConfigurations[id]? = some c →
        (c.isTerminal = true ∨ (c.status = .revoking ∧ ∃ r status,
          s.db.taskOf id r = some ⟨.revoke, c.generation, status⟩ ∧
          (status = .pending ∨ status = .inProgress))) → db' = s.db := by
  obtain ⟨hw, hinv⟩ := h.inv
  refine ⟨fun id generation r r' status status' hr hr' => ?_, fun ambient id reason plan db' hp => ?_⟩
  · have hlt := hw.taskAt_lt (taskOf_eq_some.1 hr)
    obtain ⟨e, -, ha⟩ := hw.row (List.getElem?_eq_getElem hlt)
    exact (hinv.each id _ ha).ledger.unique r r' _ _ hr hr' rfl rfl
  · have hout := RevokeVpn.preparePlan_outcome hw hp
    refine ⟨fun j c c' => hout.generation, fun c' => hout.task hw, fun c hc hidle => ?_⟩
    refine RevokeVpn.preparePlan_idle hw hinv hp hc (hidle.imp_right ?_)
    rintro ⟨hs, r, status, ht, hst⟩
    refine ⟨hs, r, status, ht, ?_⟩
    rcases hst with rfl | rfl
    · rfl
    · rfl

/-- The client of the shop is revoked twice; the second call writes nothing. -/
def revokedTwice : List Command :=
  purchase ++ [.provisionVpn { now := 0, clientUuid := 100, taskUuid := 1 } 0,
    .revokeVpn { now := 1, taskUuid := 2 } 0 .force]

theorem revoke_once_per_generation_twice : ∃ s plan, Reachable shopSettings s ∧
    RevokeVpn.preparePlan shopSettings { now := 2, taskUuid := 3 } s.db 0 .expiration =
      .ok (plan, s.db) := by
  have hr : Reachable shopSettings ((shop nodeEndpoint).after shopSettings revokedTwice) :=
    .after (shop_initial _) (by decide +kernel)
  obtain ⟨c, hc, hcond⟩ := (Option.any_eq_true _ _).1
    (show (((shop nodeEndpoint).after shopSettings revokedTwice).db.vpnConfigurations[0]?).any
      (fun c => c.status = .revoking ∧
        (RevokeVpn.preparePlan shopSettings { now := 2, taskUuid := 3 }
          ((shop nodeEndpoint).after shopSettings revokedTwice).db 0 .expiration).toOption.isSome ∧
        ((shop nodeEndpoint).after shopSettings revokedTwice).db.taskOf 0 (.node 1) =
          some ⟨.revoke, c.generation, .pending⟩) = true by decide +kernel)
  obtain ⟨hs, hok, ht⟩ := of_decide_eq_true hcond
  obtain ⟨⟨plan, db'⟩, hp⟩ := Option.isSome_iff_exists.1 hok
  have hp := toOption_eq_some hp
  have hsame := ((revoke_once_per_generation hr).2 _ 0 _ plan db' hp).2.2 c hc
    (.inr ⟨hs, .node 1, .pending, ht, .inl rfl⟩)
  exact ⟨_, plan, hr, by rw [hp, hsame]⟩

end System

end ShopBot
