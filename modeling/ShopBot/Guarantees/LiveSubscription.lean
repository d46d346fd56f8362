import ShopBot.Guarantees.Fencing
import ShopBot.Lifecycle.BillingHistory

/-! # Access by a live subscription

A configuration is created for an active subscription, and its activation looks at the
paid periods only. As long as no subscription ends with paid time left while one of its
configurations is being provisioned, the periods alone tell that it is still active.
-/

namespace ShopBot

open Lifecycle Database Relation

/-- The clock of a command that may confirm an operation. -/
def Command.confirmsAt : Command → Option DateTime
  | .provisionVpn ambient _ | .revokeVpn ambient _ _ | .finalizeNode ambient _ _
  | .finalizeProvision ambient _ | .finalizePanelRevoke ambient _ => some ambient.now
  | _ => none

namespace System

variable {settings : Settings} {s s' : System} {cmd : Command} {id : ℕ} {c c' : VpnConfiguration}

/-! ## Which commands create and confirm -/

theorem actors_request (h : s.actors cmd .request) :
    (∃ ambient sid, cmd = .provisionVpn ambient sid) ∨
      ∃ ambient id reason, cmd = .revokeVpn ambient id reason := by
  cases cmd with
  | provisionVpn ambient sid => exact .inl ⟨ambient, sid, rfl⟩
  | revokeVpn ambient id reason => exact .inr ⟨ambient, id, reason, rfl⟩
  | finalizeNode =>
    obtain ⟨_, -, h | ⟨h, -⟩⟩ := h <;> cases h
  | recordCompensation =>
    obtain ⟨_, -, h | h⟩ := h <;> cases h
  | prepareNode | preparePanel | preparePanelRevoke => cases h
  | recoverNodes | recoverPanelProvisions | recoverPanelRevokes | finalizeProvision
  | failProvision | recordCompensationFailure | finalizePanelRevoke | failPanelRevoke =>
    obtain ⟨_, -, h⟩ := h
    cases h
  | _ => exact h.elim

theorem actors_success {r : TaskRef} (h : s.actors cmd (.success r)) :
    cmd.confirmsAt = some cmd.now := by
  cases cmd with
  | provisionVpn | revokeVpn | finalizeNode | finalizeProvision | finalizePanelRevoke => rfl
  | recordCompensation =>
    obtain ⟨_, -, h | h⟩ := h <;> cases h
  | prepareNode | preparePanel | preparePanelRevoke => cases h
  | recoverNodes | recoverPanelProvisions | recoverPanelRevokes | failProvision
  | recordCompensationFailure | failPanelRevoke =>
    obtain ⟨_, -, h⟩ := h
    cases h
  | _ => exact h.elim

/-- A command that confirms an operation leaves the billing alone. -/
theorem confirms_billingLedger (hw : s.db.WellFormed) (hcmd : s.exec settings cmd = some s')
    (hc : cmd.confirmsAt.isSome = true) : s'.db.billingLedger = s.db.billingLedger := by
  cases cmd with
  | provisionVpn ambient sid =>
    obtain ⟨r, h⟩ := commit_eq_some hcmd
    have href : s.db.Refines ambient.now (fun _ => True) s'.db :=
      ProvisionVpn.preparePlan_refines hw trivial (fun _ _ => trivial) h
    exact href.billingLedger
  | revokeVpn ambient id reason =>
    obtain ⟨r, h⟩ := commit_eq_some hcmd
    have href : s.db.Refines ambient.now (fun _ => True) s'.db :=
      RevokeVpn.preparePlan_refines hw trivial (fun _ _ => trivial) h
    exact href.billingLedger
  | finalizeNode ambient worker reply =>
    obtain ⟨w, f, -, -, h, -⟩ := finalizeNode_eq_some hcmd
    have href : s.db.Refines ambient.now (fun _ => True) s'.db :=
      DispatchNodeTask.finalize_refines hw trivial (fun _ _ _ _ _ => trivial) h
    exact href.billingLedger
  | finalizeProvision ambient worker =>
    simp only [exec] at hcmd
    obtain ⟨w, next, -, -, h, -⟩ := panelTransaction_eq_some hcmd
    obtain ⟨⟨outcome, db⟩, hf, hr⟩ := bind_eq_ok.1 h
    cases hr
    have href : s.db.Refines ambient.now (fun _ => True) s'.db :=
      DispatchPanelProvisionTask.finalizeProvisionSuccess_refines hw trivial hf
    exact href.billingLedger
  | finalizePanelRevoke ambient worker =>
    obtain ⟨w, status, -, -, h, -⟩ := panelRevokeTransaction_eq_some hcmd
    have href : s.db.Refines ambient.now (fun _ => True) s'.db :=
      DispatchPanelRevokeTask.finalizeSuccess_refines hw trivial h
    exact href.billingLedger
  | _ => cases hc

/-- A configuration that is being provisioned after a transaction was so before, or is
created for an active subscription. -/
theorem Reachable.provisioning_before (h : Reachable settings s)
    (hcmd : s.exec settings cmd = some s') (hc' : s'.db.vpnConfigurations[id]? = some c')
    (hs' : c'.status = .provisioning) :
    (∃ c, s.db.vpnConfigurations[id]? = some c ∧ c.status = .provisioning ∧
      c.subscriptionId = c'.subscriptionId) ∨
    ∃ sub, s'.db.subscriptions[c'.subscriptionId]? = some sub ∧ sub.status = .active := by
  obtain ⟨hw, hinv⟩ := h.inv
  have hev := exec_evolves hw hcmd
  cases hc : s.db.vpnConfigurations[id]? with
  | some c =>
    refine .inl ⟨c, rfl, ?_, ?_⟩
    · obtain ⟨e, e', hrun, -, ha, ha'⟩ := h.run hcmd hc hc'
      by_contra hne
      refine Fleet.Run.invariant (fun a => a.status ≠ .provisioning) ?_ hrun hinv ha hne ha' hs'
      exact fun a a' _ _ hstep hn hp => hn (hstep.provisioning hp)
    · obtain ⟨d, hd, hsub, -⟩ := hev.row hw hc
      cases hd.symm.trans hc'
      exact hsub.symm
  | none =>
    refine .inr ?_
    obtain ⟨e', -, ha'⟩ := hev.wellFormed.row hc'
    have hnone : s.db.fleet id = none := by
      simp [Database.fleet, Database.getConfigurationWithEndpoint, hc]
    have hnew : s.db.vpnConfigurations.length < s'.db.vpnConfigurations.length := by
      have hle := List.getElem?_eq_none_iff.1 hc
      have hlt := (List.getElem?_eq_some_iff.1 hc').1
      omega
    rcases actors_request (hev.run.created hnone ha') with ⟨ambient, sid, rfl⟩ |
      ⟨ambient, id', reason, rfl⟩
    · have hbilling := confirms_billingLedger hw hcmd rfl
      have hsubs : s'.db.subscriptions = s.db.subscriptions :=
        congrArg Billing.subscriptions hbilling
      obtain ⟨plan, hplan⟩ := commit_eq_some hcmd
      rcases ProvisionVpn.preparePlan_created hplan with hlen | ⟨d, sub, hrows, hsub, hactive⟩
      · omega
      · have hd : d = c' := by
          rw [hrows, List.getElem?_append_right (List.getElem?_eq_none_iff.1 hc)] at hc'
          have hm := List.mem_of_getElem? hc'
          exact (List.mem_singleton.1 hm).symm
        rw [hsubs, ← hd]
        exact ⟨sub, hsub, hactive⟩
    · obtain ⟨plan, hplan⟩ := commit_eq_some hcmd
      have hlen := RevokeVpn.preparePlan_length hplan
      omega

/-! ## Runs in which no paid time is lost -/

/-- A subscription whose configuration is being provisioned only ends when its paid periods
have expired, and an operation is not confirmed at a clock before that end. -/
structure EndsUnfunded (s : System) (cmd : Command) (s' : System) : Prop where
  ended : ∀ (i : ℕ) (c : VpnConfiguration) (sub sub' : Subscription) (t : DateTime),
    s.db.vpnConfigurations[i]? = some c → c.status = .provisioning →
    s.db.subscriptions[c.subscriptionId]? = some sub → sub.status = .active →
    s'.db.subscriptions[c.subscriptionId]? = some sub' → sub'.status = .ended →
    sub'.endedAt = some t → ∀ p ∈ s'.db.subscriptionPeriods,
      p.subscriptionId = some c.subscriptionId → p.isPaid = true → p.expiresAt ≤ t
  clock : ∀ now, cmd.confirmsAt = some now → ∀ (i : ℕ) (c : VpnConfiguration)
    (sub : Subscription) (t : DateTime), s.db.vpnConfigurations[i]? = some c →
    c.status = .provisioning → s.db.subscriptions[c.subscriptionId]? = some sub →
    sub.endedAt = some t → t ≤ now

def UnfundedStep (settings : Settings) (s s' : System) : Prop :=
  ∃ cmd, s.exec settings cmd = some s' ∧ EndsUnfunded s cmd s'

/-- The subscription of a configuration that is being provisioned is active, or it has ended
and no paid period of it outlasts the end. -/
def ProvisionsLive (s : System) : Prop :=
  ∀ (i : ℕ) (c : VpnConfiguration), s.db.vpnConfigurations[i]? = some c →
    c.status = .provisioning → ∃ sub, s.db.subscriptions[c.subscriptionId]? = some sub ∧
      (sub.status = .active ∨ sub.status = .ended ∧ ∃ t, sub.endedAt = some t ∧
        ∀ p ∈ s.db.subscriptionPeriods, p.subscriptionId = some c.subscriptionId →
          p.isPaid = true → p.expiresAt ≤ t)

theorem ProvisionsLive.step (hinv : ProvisionsLive s) (h : Reachable settings s)
    (hcmd : s.exec settings cmd = some s') (hg : EndsUnfunded s cmd s') : ProvisionsLive s' := by
  have hlater := (exec_evolves h.inv.1 hcmd).billing.later
  intro i c' hc' hs'
  rcases h.provisioning_before hcmd hc' hs' with ⟨c, hc, hs, hsid⟩ | ⟨sub, hsub, hactive⟩
  · obtain ⟨sub, hsub, hlive⟩ := hinv i c hc hs
    obtain ⟨sub', hsub', -, hcase⟩ := hlater.subscription _ sub hsub
    rw [← hsid]
    refine ⟨sub', hsub', ?_⟩
    rcases hlive with hactive | ⟨hended, t, ht, hbound⟩
    · rcases hcase with rfl | ⟨-, hended, hat⟩
      · exact .inl hactive
      · obtain ⟨t, ht⟩ := Option.isSome_iff_exists.1 hat
        exact .inr ⟨hended, t, ht, hg.ended i c sub sub' t hc hs hsub hactive hsub' hended ht⟩
    · rcases hcase with rfl | ⟨hne, -⟩
      · refine .inr ⟨hended, t, ht, fun p hp hpid hpaid => ?_⟩
        rcases hlater.period p hp hpaid _ hpid with hold | hopen
        · exact hbound p hold hpid hpaid
        · exact absurd hended (hopen sub' hsub)
      · exact absurd hended hne
  · exact ⟨sub, hsub, .inl hactive⟩

theorem reachable_of_unfunded (h : Transition.Reachable Initial (UnfundedStep settings) s) :
    Reachable settings s := by
  obtain ⟨s₀, h₀, hr⟩ := h
  exact ⟨s₀, h₀, ReflTransGen.mono (fun _ _ ⟨cmd, hcmd, _⟩ => ⟨cmd, hcmd⟩) _ _ hr⟩

theorem provisionsLive_of_unfunded (h : Transition.Reachable Initial (UnfundedStep settings) s) :
    ProvisionsLive s := by
  refine Transition.Reachable.invariant ProvisionsLive (fun s hs i c hc => ?_) ?_ h
  · rw [hs] at hc
    cases hc
  · rintro s s' hr hinv ⟨cmd, hcmd, hg⟩
    exact hinv.step (reachable_of_unfunded hr) hcmd hg

theorem Reachable.oneActiveSubscription (h : Reachable settings s) :
    Billing.OneActive s.db.subscriptions := by
  refine Transition.Reachable.invariant (fun s : System => Billing.OneActive s.db.subscriptions)
    (fun s hs i j x y hx => ?_) ?_ h
  · rw [hs] at hx
    cases hx
  · rintro s s' hr hone ⟨cmd, hcmd⟩
    exact (exec_evolves (Reachable.inv hr).1 hcmd).billing.oneActive hone

/-- The configuration belongs to the one active subscription of its user, which has a
current paid period. -/
def GrantedByLiveSubscription (s : System) (now : DateTime) (c : VpnConfiguration) : Prop :=
  ∃ sub, s.db.subscriptions[c.subscriptionId]? = some sub ∧ sub.status = .active ∧
    (s.db.getCurrentPeriod c.subscriptionId now).isSome = true ∧
    ∀ (j : ℕ) (other : Subscription), s.db.subscriptions[j]? = some other →
      other.userId = sub.userId → other.status = .active → j = c.subscriptionId

/-- In a run in which no subscription ends with paid time left while a configuration of it is
being provisioned, every activation is granted by the live subscription of its user. -/
theorem activation_by_live_subscription
    (h : Transition.Reachable Initial (UnfundedStep settings) s)
    (hcmd : s.exec settings cmd = some s') (hg : EndsUnfunded s cmd s')
    (hs : ∀ c, s.db.vpnConfigurations[id]? = some c → c.status ≠ .active)
    (hc' : s'.db.vpnConfigurations[id]? = some c') (hs' : c'.status = .active) :
    GrantedByLiveSubscription s' cmd.now c' := by
  have hr := reachable_of_unfunded h
  cases hc : s.db.vpnConfigurations[id]? with
  | none => exact absurd hs' (hr.not_active_of_created hcmd hc hc')
  | some c =>
    have hact := hr.activates hcmd hc hc' (hs c hc) hs'
    obtain ⟨r, t, hsucc, -⟩ := hact.task
    have hconf := actors_success hsucc
    have hbilling := confirms_billingLedger hr.inv.1 hcmd (by rw [hconf]; rfl)
    have hsubs : s'.db.subscriptions = s.db.subscriptions := congrArg Billing.subscriptions hbilling
    have hperiods : s'.db.subscriptionPeriods = s.db.subscriptionPeriods :=
      congrArg Billing.periods hbilling
    obtain ⟨d, hd, hsid, -⟩ := (exec_evolves hr.inv.1 hcmd).row hr.inv.1 hc
    cases hd.symm.trans hc'
    obtain ⟨sub, hsub, hlive⟩ := provisionsLive_of_unfunded h id c hc hact.status
    have hactive : sub.status = .active := by
      rcases hlive with hactive | ⟨-, t, ht, hbound⟩
      · exact hactive
      · obtain ⟨p, hp, hpid, hcontains⟩ := getCurrentPeriod_isSome.1 hact.period
        obtain ⟨hpaid, -, hlt⟩ := SubscriptionPeriod.contains_iff.1 hcontains
        have hle := hbound p hp hpid hpaid
        have hclock := hg.clock _ hconf id c sub t hc hact.status hsub ht
        exact absurd (hlt.trans_le (hle.trans hclock)) (lt_irrefl _)
    rw [← hsid] at hsub
    refine ⟨sub, by rw [hsubs]; exact hsub, hactive, ?_, fun j other hother huser hoa => ?_⟩
    · unfold getCurrentPeriod
      rw [hperiods, hsid]
      exact hact.period
    · rw [hsubs] at hother
      exact hr.oneActiveSubscription j _ other sub hother hsub huser hoa hactive

/-! ## Two tariffs -/

def year : Tariff where
  name := "year"
  price := ⟨5000, ⟨"RUB"⟩⟩
  price_pos := by decide
  periodDays := 365
  periodDays_pos := by decide

/-- A shop with two tariffs that has sold nothing yet. -/
def twoTariffs : System where
  db := {
    tariffs := [month, year]
    nodes := [shopNode]
    serverEndpoints := [nodeEndpoint] }

/-- A node provisions the configuration of the first subscription. -/
def provisioned : List Command := buy 0 month 0 "month" 0 ++ [
  .provisionVpn { now := 0, clientUuid := 100, taskUuid := 1 } 0,
  .prepareNode { now := 1, leaseToken := 5 } 0]

theorem twoTariffs_initial : twoTariffs.Initial := rfl

/-- No subscription has ended. -/
def noneEnded (s s' : System) : Bool :=
  s.db.subscriptions.all (·.endedAt.isNone) && s'.db.subscriptions.all (·.endedAt.isNone)

theorem endsUnfunded_of_noneEnded (h : noneEnded s s' = true) : EndsUnfunded s cmd s' := by
  have hnone : ∀ {subs : List Subscription} {k : ℕ} {sub : Subscription} {t : DateTime},
      subs.all (·.endedAt.isNone) = true → subs[k]? = some sub → sub.endedAt ≠ some t := by
    intro subs k sub t hall hsub ht
    have hn := List.all_eq_true.1 hall sub (List.mem_of_getElem? hsub)
    rw [ht] at hn
    cases hn
  obtain ⟨hbefore, hafter⟩ := Bool.and_eq_true_iff.1 h
  exact ⟨fun i c sub sub' t _ _ _ _ hsub' _ ht => absurd ht (hnone hafter hsub'),
    fun now _ i c sub t _ _ hsub ht => absurd ht (hnone hbefore hsub)⟩

theorem unfunded_of_execAll {cmds : List Command} (h₀ : s.Initial)
    (h : Transition.execAll (Transition.restrict (exec settings) noneEnded) s cmds = some s') :
    Transition.Reachable Initial (UnfundedStep settings) s' := by
  refine ⟨s, h₀, ReflTransGen.mono ?_ _ _ (Transition.execAll_run h)⟩
  rintro t t' ⟨cmd, hcmd⟩
  obtain ⟨hexec, hcheck⟩ := Option.filter_eq_some_iff.1 hcmd
  exact ⟨cmd, hexec, endsUnfunded_of_noneEnded hcheck⟩

theorem activation_by_live_subscription_shop : ∃ s' c',
    GrantedByLiveSubscription s' (confirm 2 "provisioned").now c' ∧ c'.subscriptionId = 0 := by
  obtain ⟨s, hs, hcond⟩ := (Option.any_eq_true _ _).1
    (show (Transition.execAll (Transition.restrict (exec shopSettings) noneEnded) twoTariffs
      provisioned).any (fun s => (s.db.vpnConfigurations[0]?).all (·.status ≠ .active) &&
        (s.exec shopSettings (confirm 2 "provisioned")).any fun s' => noneEnded s s' &&
          (s'.db.vpnConfigurations[0]?).any fun c' =>
            c'.status = .active && c'.subscriptionId = 0) = true by decide +kernel)
  obtain ⟨hbefore, hcond⟩ := Bool.and_eq_true_iff.1 hcond
  obtain ⟨s', hs', hcond⟩ := (Option.any_eq_true _ _).1 hcond
  obtain ⟨hnone, hcond⟩ := Bool.and_eq_true_iff.1 hcond
  obtain ⟨c', hc', hcond⟩ := (Option.any_eq_true _ _).1 hcond
  simp only [Bool.and_eq_true, decide_eq_true_eq] at hcond
  exact ⟨s', c', activation_by_live_subscription (unfunded_of_execAll twoTariffs_initial hs) hs'
    (endsUnfunded_of_noneEnded hnone) (fun c hc => by rw [hc] at hbefore; simpa using hbefore) hc'
    hcond.1, hcond.2⟩

/-- The client buys another tariff while the node provisions: the first configuration becomes
active although its subscription has been replaced. -/
theorem activation_by_replaced_subscription :
    ¬ ∀ (settings : Settings) (s s' : System) (cmd : Command) (id : ℕ) (c' : VpnConfiguration),
      Reachable settings s → s.exec settings cmd = some s' →
      (∀ c, s.db.vpnConfigurations[id]? = some c → c.status ≠ .active) →
      s'.db.vpnConfigurations[id]? = some c' → c'.status = .active →
      GrantedByLiveSubscription s' cmd.now c' := by
  intro hall
  have hr : Reachable shopSettings
      (twoTariffs.after shopSettings (provisioned ++ buy 1 year 1 "year" 2)) :=
    .after twoTariffs_initial (by decide +kernel)
  obtain ⟨s', hs', hcond⟩ := (Option.any_eq_true _ _).1
    (show ((twoTariffs.after shopSettings (provisioned ++ buy 1 year 1 "year" 2)).exec shopSettings
      (confirm 3 "provisioned")).any (fun s' => (s'.db.vpnConfigurations[0]?).any fun c' =>
        c'.status = .active &&
          (s'.db.subscriptions[c'.subscriptionId]?).any (·.status = .ended)) = true
      by decide +kernel)
  obtain ⟨c', hc', hcond⟩ := (Option.any_eq_true _ _).1 hcond
  simp only [Bool.and_eq_true, decide_eq_true_eq, Option.any_eq_true] at hcond
  obtain ⟨hactive, sub, hsub, hended⟩ := hcond
  have hbefore : ((twoTariffs.after shopSettings
      (provisioned ++ buy 1 year 1 "year" 2)).db.vpnConfigurations[0]?).all
        (·.status ≠ .active) = true := by decide +kernel
  obtain ⟨sub₁, hsub₁, hlive, -⟩ := hall shopSettings _ s' _ 0 c' hr hs'
    (fun c hc => by rw [hc] at hbefore; simpa using hbefore) hc' hactive
  cases hsub₁.symm.trans hsub
  exact nomatch hlive.symm.trans hended

end System

end ShopBot
