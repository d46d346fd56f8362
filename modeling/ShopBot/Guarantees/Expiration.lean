import ShopBot.Guarantees.Fencing
import ShopBot.Refinement.RevokePlans

/-! # Expiration and renewals

An expiration reads the clock, waits for the lock of the subscription and then asks whether
the subscription is paid for at the moment it has read. A renewal that begins while it waits
is not current at that moment.
-/

namespace ShopBot

open Lifecycle Database

namespace RevokeVpn

variable {settings : Settings} {ambient : Ambient} {db db' : Database} {id : ℕ}
  {reason : VpnRevokeReason} {c c' : VpnConfiguration} {plan : RevokePlan}

/-- Only the configuration that is asked for is written. -/
theorem Outcome.others (h : Outcome settings ambient db id reason plan db') {j : ℕ} (hj : j ≠ id) :
    db'.vpnConfigurations[j]? = db.vpnConfigurations[j]? := by
  cases h with
  | skipped | kept => rfl
  | recovered => exact List.getElem?_set_ne (Ne.symm hj)
  | requested d d' e _ row endpoint checked request task =>
    rw [createTask_configurations task]
    exact List.getElem?_set_ne (Ne.symm hj)

/-- A configuration changes exactly when it can be revoked and has no access at the moment that
has been read. -/
theorem Outcome.changes_iff (hinv : db.fleet.Inv) (hwf : db.WellFormed)
    (h : Outcome settings ambient db id .expiration plan db')
    (hc : db.vpnConfigurations[id]? = some c) (hc' : db'.vpnConfigurations[id]? = some c') :
    (c'.status ≠ c.status ∨ c'.generation ≠ c.generation) ↔
      db.hasAccess ambient.now c.subscriptionId = false ∧ c.status ∈ revocable := by
  have hsame : c' = c → ¬ (c'.status ≠ c.status ∨ c'.generation ≠ c.generation) := by
    rintro rfl (hne | hne) <;> exact hne rfl
  have hset : ∀ {d' : VpnConfiguration}, db'.vpnConfigurations = db.vpnConfigurations.set id d' →
      c' = d' := by
    intro d' hrows
    rw [hrows, List.getElem?_set_self (List.getElem?_eq_some_iff.1 hc).1] at hc'
    exact (Option.some.inj hc').symm
  obtain ⟨e, -, ha⟩ := hwf.row hc
  have hst := (hinv.each id _ ha).status
  cases h with
  | skipped d row result expiration access =>
    obtain rfl := Option.some.inj (row.symm.trans hc)
    refine iff_of_false (hsame (Option.some.inj (hc'.symm.trans hc))) ?_
    rintro ⟨hno, -⟩
    cases hno.symm.trans access
  | kept owned idle =>
    refine iff_of_false (hsame (Option.some.inj (hc'.symm.trans hc))) ?_
    rintro ⟨-, hs⟩
    obtain ⟨hfailed, hd⟩ := idle c hc hs
    simp only [Aggregate.StatusInv, aggregateOf, hfailed, hd] at hst
    cases hst.1
  | recovered d d' r row done revoke =>
    -- a configuration that is being revoked has no revoke that has succeeded
    obtain rfl := Option.some.inj (row.symm.trans hc)
    obtain ⟨hrev, -⟩ := VpnConfiguration.revoke_eq_ok.1 revoke
    simp only [Aggregate.StatusInv, aggregateOf, hrev] at hst
    cases hst.2.1 r _ done rfl rfl
  | requested d d' e _ row endpoint checked request task =>
    obtain rfl := Option.some.inj (row.symm.trans hc)
    obtain rfl := hset (createTask_configurations task)
    rcases requestRevoke_ok request with ⟨hs, heq⟩ | ⟨hs, -, hs', -, -⟩
    · refine iff_of_false (hsame heq) ?_
      rintro ⟨-, hlive⟩
      rw [hs] at hlive
      exact absurd hlive (by decide)
    · have hlive : d.status ∈ revocable := by
        rcases hs with hs | hs | hs | hs <;> rw [hs] <;> decide
      refine iff_of_true (.inl ?_) ⟨checked rfl, hlive⟩
      rw [hs']
      rintro heq
      rw [← heq] at hlive
      exact absurd hlive (by decide)

end RevokeVpn

namespace System

variable {settings : Settings} {s : System} {ambient : Ambient} {id j : ℕ}
  {c c' : VpnConfiguration} {plan : RevokePlan} {db' : Database}

/-- An expiration that holds the lock at `held` spares a configuration with access at that
moment, unless the access begins after the moment the expiration has read. -/
theorem expiration_spares_access_iff (h : Reachable settings s) (held : DateTime)
    (hp : RevokeVpn.preparePlan settings ambient s.db id .expiration = .ok (plan, db'))
    (hc : s.db.vpnConfigurations[j]? = some c) (hc' : db'.vpnConfigurations[j]? = some c') :
    (c'.status ≠ c.status ∨ c'.generation ≠ c.generation →
      s.db.hasAccess held c.subscriptionId = false) ↔
    ¬ (j = id ∧ s.db.hasAccess held c.subscriptionId = true ∧
      s.db.hasAccess ambient.now c.subscriptionId = false ∧
      c.status ∈ [.provisioning, .active, .failed, .revokeFailed]) := by
  obtain ⟨hw, hinv⟩ := h.inv
  have hout := RevokeVpn.preparePlan_outcome hw hp
  by_cases hj : j = id
  · subst hj
    rw [hout.changes_iff hinv hw hc hc']
    constructor
    · rintro hspared ⟨-, haccess, hno, hlive⟩
      cases haccess.symm.trans (hspared ⟨hno, hlive⟩)
    · rintro hcond ⟨hno, hlive⟩
      rw [← Bool.not_eq_true]
      exact fun haccess => hcond ⟨rfl, haccess, hno, hlive⟩
  · rw [hout.others hj, hc] at hc'
    obtain rfl := Option.some.inj hc'
    refine iff_of_true ?_ fun hcond => hj hcond.1
    rintro (hne | hne) <;> exact absurd rfl hne

/-- The client of an active configuration renews six seconds after the subscription has
lapsed. -/
def renewedLate : List Command :=
  buy 0 month 0 "first" 0 ++ [.provisionVpn { now := 0, clientUuid := 100, taskUuid := 1 } 0,
    .prepareNode { now := 1, leaseToken := 5 } 0, confirm 2 "provisioned"] ++
  buy 1 month 0 "second" (days 30 + seconds 6)

/-- The expiration has read the clock after the renewal. -/
theorem expiration_spares_access_renewed : ∃ s plan db' c c', Reachable shopSettings s ∧
    RevokeVpn.preparePlan shopSettings { now := days 30 + seconds 7, taskUuid := 9 } s.db 0
      .expiration = .ok (plan, db') ∧
    s.db.vpnConfigurations[0]? = some c ∧ db'.vpnConfigurations[0]? = some c' ∧
    (c'.status ≠ c.status ∨ c'.generation ≠ c.generation →
      s.db.hasAccess (days 30 + seconds 7) c.subscriptionId = false) := by
  obtain ⟨s, hs, hcond⟩ := (Option.any_eq_true _ _).1
    (show (Transition.execAll (exec shopSettings) (shop nodeEndpoint) renewedLate).any (fun s =>
      (RevokeVpn.preparePlan shopSettings { now := days 30 + seconds 7, taskUuid := 9 } s.db 0
        .expiration).toOption.any fun r => (s.db.vpnConfigurations[0]?).any fun c =>
          (r.2.vpnConfigurations[0]?).isSome ∧
          s.db.hasAccess (days 30 + seconds 7) c.subscriptionId = true) = true by decide +kernel)
  obtain ⟨⟨plan, db'⟩, hp, hcond⟩ := (Option.any_eq_true _ _).1 hcond
  obtain ⟨c, hc, hcond⟩ := (Option.any_eq_true _ _).1 hcond
  obtain ⟨hsome, haccess⟩ := of_decide_eq_true hcond
  obtain ⟨c', hc'⟩ := Option.isSome_iff_exists.1 hsome
  have hr : Reachable shopSettings s := Transition.Reachable.of_execAll (shop_initial _) hs
  have hp := toOption_eq_some hp
  refine ⟨s, plan, db', c, c', hr, hp, hc, hc', ?_⟩
  refine (expiration_spares_access_iff hr _ hp hc hc').2 ?_
  rintro ⟨-, -, hno, -⟩
  cases hno.symm.trans haccess

/-- The expiration reads the clock five seconds after the lapse, waits for the renewal, and
revokes the client who has paid for the moment at which it holds the lock. -/
theorem expiration_cuts_renewed : ∃ s plan db' c c', Reachable shopSettings s ∧
    RevokeVpn.preparePlan shopSettings { now := days 30 + seconds 5, taskUuid := 9 } s.db 0
      .expiration = .ok (plan, db') ∧
    s.db.vpnConfigurations[0]? = some c ∧ db'.vpnConfigurations[0]? = some c' ∧
    c.status = .active ∧ c'.status = .revoking ∧ c'.generation = c.generation + 1 ∧
    s.db.hasAccess (days 30 + seconds 7) c.subscriptionId = true := by
  obtain ⟨s, hs, hcond⟩ := (Option.any_eq_true _ _).1
    (show (Transition.execAll (exec shopSettings) (shop nodeEndpoint) renewedLate).any (fun s =>
      (RevokeVpn.preparePlan shopSettings { now := days 30 + seconds 5, taskUuid := 9 } s.db 0
        .expiration).toOption.any fun r => (s.db.vpnConfigurations[0]?).any fun c =>
          (r.2.vpnConfigurations[0]?).any fun c' => c.status = .active ∧ c'.status = .revoking ∧
            c'.generation = c.generation + 1 ∧
            s.db.hasAccess (days 30 + seconds 7) c.subscriptionId = true) = true by decide +kernel)
  obtain ⟨⟨plan, db'⟩, hp, hcond⟩ := (Option.any_eq_true _ _).1 hcond
  obtain ⟨c, hc, hcond⟩ := (Option.any_eq_true _ _).1 hcond
  obtain ⟨c', hc', hcond⟩ := (Option.any_eq_true _ _).1 hcond
  obtain ⟨hst, hst', hg, haccess⟩ := of_decide_eq_true hcond
  exact ⟨s, plan, db', c, c', Transition.Reachable.of_execAll (shop_initial _) hs,
    toOption_eq_some hp, hc, hc', hst, hst', hg, haccess⟩

end System

end ShopBot
