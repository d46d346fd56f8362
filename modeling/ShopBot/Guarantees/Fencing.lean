import ShopBot.Refinement.System

/-! # Generations and live configurations

What a whole history of transactions can do to one configuration, and how many
configurations of a subscription can be alive. The results are read off the runs of the
fleet that the commands refine.
-/

namespace ShopBot

open Lifecycle Relation

/-! ## A shop -/

def month : Tariff where
  name := "month"
  price := ⟨500, ⟨"RUB"⟩⟩
  price_pos := by decide
  periodDays := 30
  periodDays_pos := by decide

def shopNode : Node where
  health := some {
    healthStatus := .online
    lastCheckedAt := some 0
    maxClients := some 10 }
  activeCredential := some "token"

def nodeEndpoint : ServerEndpoint where
  serverId := 0
  nodeId := some 0

def panelEndpoint : ServerEndpoint where
  serverId := 0

/-- A shop that has sold nothing yet, with one tariff and one endpoint. -/
def shop (endpoint : ServerEndpoint) : System where
  db := {
    tariffs := [month]
    nodes := [shopNode]
    serverEndpoints := [endpoint] }

def shopSettings : Settings where
  displayNamePrefix := "shop"
  nodeInboundId := "1"
  xuiInboundId := 1
  mapper := .storedFields

/-- The first order is created and settled by hand. -/
def purchase : List Command :=
  [.createPayment {
      telegramId := 7
      tariffId := 0
      provider := "yookassa"
      idempotencyKey := "order"
      nameOrNick := some "client" } 0 60 1,
    .markPaymentOrderPaid 0 0]

/-- The client buys a tariff through the payment provider; it is order `n`. -/
def buy (n : ℕ) (tariff : Tariff) (tariffId : ℕ) (name : String) (now : DateTime) : List Command :=
  [.createPayment {
      telegramId := 7
      tariffId := tariffId
      provider := "yookassa"
      idempotencyKey := name
      nameOrNick := some "client" } now 60 n,
    .finalizeInvoice n { providerPaymentId := name } now,
    .ingestWebhook "yookassa" {
      eventKey := name
      eventType := "payment.succeeded"
      status := some .paid
      providerPaymentId := some name
      amountMinor := some tariff.price.minor
      currency := some tariff.price.currency } [] [] now,
    .processPayment now n]

theorem shop_initial (endpoint : ServerEndpoint) : (shop endpoint).Initial := rfl

namespace System

variable {settings : Settings} {s s' : System} {cmd : Command} {id : ℕ} {c c' : VpnConfiguration}

/-- The state after a list of commands that all commit. -/
def after (settings : Settings) (s : System) (cmds : List Command) : System :=
  (Transition.execAll (exec settings) s cmds).getD s

theorem Reachable.after {cmds : List Command} (h : s.Initial)
    (hc : (Transition.execAll (exec settings) s cmds).isSome = true) :
    Reachable settings (s.after settings cmds) := by
  obtain ⟨s', hs'⟩ := Option.isSome_iff_exists.1 hc
  have hafter : s.after settings cmds = s' := by rw [System.after, hs', Option.getD_some]
  rw [hafter]
  exact Transition.Reachable.of_execAll h hs'

/-! ## One transaction -/

theorem Reachable.exec (h : Reachable settings s) (hc : s.exec settings cmd = some s') :
    Reachable settings s' :=
  h.tail ⟨cmd, hc⟩

theorem Reachable.steps (h : Reachable settings s) (hr : ReflTransGen (Step settings) s s') :
    Reachable settings s' :=
  Transition.Reachable.trans h hr

/-- What a command does to one configuration, as a run of the fleet. -/
theorem Reachable.run (h : Reachable settings s) (hcmd : s.exec settings cmd = some s')
    (hc : s.db.vpnConfigurations[id]? = some c) (hc' : s'.db.vpnConfigurations[id]? = some c') :
    ∃ e e', Fleet.Run (s.db.Funded cmd.now) (s.actors cmd) s.db.fleet s'.db.fleet ∧
      s.db.fleet.Inv ∧ s.db.fleet id = some (s.db.aggregateOf id c e) ∧
      s'.db.fleet id = some (s'.db.aggregateOf id c' e') := by
  obtain ⟨hw, hinv⟩ := h.inv
  have hev := exec_evolves hw hcmd
  obtain ⟨e, -, ha⟩ := hw.row hc
  obtain ⟨e', -, ha'⟩ := hev.wellFormed.row hc'
  exact ⟨e, e', hev.run, hinv, ha, ha'⟩

/-- The transaction sees configuration `c` provisioning, still wanted and paid for, and a
provision of its generation that has succeeded. -/
structure Activates (s : System) (cmd : Command) (s' : System) (id : ℕ) (c : VpnConfiguration) :
    Prop where
  status : c.status = .provisioning
  desired : c.desiredState = .active
  period : (s.db.getCurrentPeriod c.subscriptionId cmd.now).isSome = true
  task : ∃ r t, s.actors cmd (.success r) ∧ s'.db.taskOf id r = some t ∧
    t.operation = .provision ∧ t.generation = c.generation

/-- Why a transaction may change the status of configuration `c`. -/
inductive Settles (s : System) (cmd : Command) (s' : System) (id : ℕ) (c c' : VpnConfiguration) :
    Prop where
  /-- The result, or the loss, of a task of its generation. -/
  | result (r : TaskRef) (t : Lifecycle.Task)
      (acts : s.actors cmd (.attempt r) ∨ s.actors cmd (.success r))
      (task : s'.db.taskOf id r = some t) (generation : t.generation = c.generation)

  /-- The recorded compensation of a panel provision of the generation before. -/
  | compensation (ambient : Ambient) (worker : ℕ) (w : PanelDispatch) (p : PanelProvisionTask)
      (command : cmd = .recordCompensation ambient worker)
      (claimed : s.panelDispatches[worker]? = some w)
      (task : s'.db.panelProvisionTasks[w.prepared.taskId]? = some p)
      (configuration : p.vpnConfigurationId = id)
      (generation : c.generation = p.vpnGeneration + 1)
      (before : c.status = .revoking) (after : c'.status = .revoked)

  /-- A new request to revoke, which starts a generation of its own. -/
  | request (acts : s.actors cmd .request) (desired : c'.desiredState = .revoked)
      (generation : c.generation < c'.generation)

theorem actors_compensation {r : TaskRef} (h : s.actors cmd (.compensation r)) :
    ∃ ambient worker w, cmd = .recordCompensation ambient worker ∧
      s.panelDispatches[worker]? = some w ∧ r = .panelProvision w.prepared.taskId := by
  cases cmd with
  | recordCompensation ambient worker =>
    obtain ⟨w, hw, h | h⟩ := h
    · cases h
    · cases h
      exact ⟨ambient, worker, w, rfl, hw, rfl⟩
  | provisionVpn | revokeVpn =>
    obtain h | ⟨_, h, -⟩ := h <;> cases h
  | finalizeNode =>
    obtain ⟨_, -, h | ⟨h, -⟩⟩ := h <;> cases h
  | prepareNode | preparePanel | preparePanelRevoke => cases h
  | recoverNodes | recoverPanelProvisions | recoverPanelRevokes | finalizeProvision
  | failProvision | recordCompensationFailure | finalizePanelRevoke | failPanelRevoke =>
    obtain ⟨_, -, h⟩ := h
    cases h
  | _ => exact h.elim

theorem Reachable.settles (h : Reachable settings s) (hcmd : s.exec settings cmd = some s')
    (hc : s.db.vpnConfigurations[id]? = some c) (hc' : s'.db.vpnConfigurations[id]? = some c')
    (hne : c'.status ≠ c.status) : Settles s cmd s' id c c' := by
  obtain ⟨e, e', hrun, hinv, ha, ha'⟩ := h.run hcmd hc hc'
  rcases hrun.status_change hinv ha ha' hne with
    ⟨r, t, hact, ht, hg⟩ | ⟨r, t, hact, hs, hs', ht, hop, hg⟩ | ⟨hact, hd, hg⟩
  · exact .result r t hact ht hg
  · obtain ⟨ambient, worker, w, rfl, hw, rfl⟩ := actors_compensation hact
    have hrow := Database.taskOf_eq_some.1 ht
    simp only [Database.taskAt, Option.map_eq_some_iff, Prod.mk.injEq] at hrow
    obtain ⟨p, hp, hid, rfl⟩ := hrow
    exact .compensation ambient worker w p rfl hw hp hid hg hs hs'
  · exact .request hact hd hg

/-- A configuration that a transaction leaves active was active, or is activated by it. -/
theorem Reachable.activates (h : Reachable settings s) (hcmd : s.exec settings cmd = some s')
    (hc : s.db.vpnConfigurations[id]? = some c) (hc' : s'.db.vpnConfigurations[id]? = some c')
    (hs : c.status ≠ .active) (hs' : c'.status = .active) : Activates s cmd s' id c := by
  obtain ⟨e, e', hrun, hinv, ha, ha'⟩ := h.run hcmd hc hc'
  obtain ⟨hst, hd, hf, ht⟩ := hrun.activation hinv ha ha' hs hs'
  exact ⟨hst, hd, hf, ht⟩

theorem Reachable.not_active_of_created (h : Reachable settings s)
    (hcmd : s.exec settings cmd = some s') (hc : s.db.vpnConfigurations[id]? = none)
    (hc' : s'.db.vpnConfigurations[id]? = some c') : c'.status ≠ .active := by
  intro hs
  obtain ⟨hw, hinv⟩ := h.inv
  have hev := exec_evolves hw hcmd
  obtain ⟨e', -, ha'⟩ := hev.wellFormed.row hc'
  have hnone : s.db.fleet id = none := by
    simp [Database.fleet, Database.getConfigurationWithEndpoint, hc]
  have hstatus := ((hev.run.inv hinv).each _ _ ha').status
  simp only [Aggregate.StatusInv, Database.aggregateOf, hs] at hstatus
  obtain ⟨-, r, t, ht, -, -, hsucc⟩ := hstatus
  rcases hev.run.succeeded ha' ht hsucc with ⟨a, ha, -⟩ | hact
  · cases hnone.symm.trans ha
  · have hreq := hev.run.created hnone ha'
    have hold : s.db.HasSucceeded r := by
      cases cmd with
      | provisionVpn | revokeVpn =>
        obtain hact | ⟨_, hact, hold⟩ := hact
        · cases hact
        · cases hact
          exact hold
      | finalizeNode =>
        obtain ⟨_, -, h | ⟨h, -⟩⟩ := hreq <;> cases h
      | recordCompensation =>
        obtain ⟨_, -, h | h⟩ := hreq <;> cases h
      | prepareNode | preparePanel | preparePanelRevoke => cases hreq
      | recoverNodes | recoverPanelProvisions | recoverPanelRevokes | finalizeProvision
      | failProvision | recordCompensationFailure | finalizePanelRevoke | failPanelRevoke =>
        obtain ⟨_, -, h⟩ := hreq
        cases h
      | _ => exact hreq.elim
    -- the task had succeeded for a configuration that was there
    obtain ⟨j, t₀, ht₀, -⟩ := hold
    obtain ⟨e₀, -, hb⟩ := hw.row (List.getElem?_eq_getElem (hw.taskAt_lt ht₀))
    obtain ⟨b', hb'⟩ := hev.run.at hb
    obtain ⟨_, hkeep⟩ := hev.run.keeps_task hinv hb (Database.taskOf_eq_some.2 ht₀) hb'
    obtain ⟨d, f, -, -, rfl⟩ := Database.fleet_eq_some.1 hb'
    have hj := (Database.taskOf_eq_some.1 hkeep).symm.trans (Database.taskOf_eq_some.1 ht)
    rw [Option.some.injEq, Prod.mk.injEq] at hj
    cases hj.1
    cases hnone.symm.trans hb

/-! ## A history -/

/-- A configuration stays, its generation never falls, and it is not wanted again. -/
theorem Reachable.later (h : Reachable settings s) (hr : ReflTransGen (Step settings) s s')
    (hc : s.db.vpnConfigurations[id]? = some c) :
    Reachable settings s' ∧ ∃ c', s'.db.vpnConfigurations[id]? = some c' ∧
      c'.subscriptionId = c.subscriptionId ∧ c'.clientUuid = c.clientUuid ∧
      c.generation ≤ c'.generation ∧
      (c.desiredState = .revoked → c'.desiredState = .revoked) := by
  induction hr with
  | refl => exact ⟨h, c, hc, rfl, rfl, Nat.le_refl _, fun hd => hd⟩
  | @tail t t' _ hstep ih =>
    obtain ⟨ht, d, hd, hsub, huuid, hg, hdes⟩ := ih
    obtain ⟨cmd, hcmd⟩ := hstep
    obtain ⟨d', hd', hsub', huuid'⟩ := (exec_evolves ht.inv.1 hcmd).row ht.inv.1 hd
    obtain ⟨e, e', hrun, hinv, ha, ha'⟩ := ht.run hcmd hd hd'
    refine ⟨ht.exec hcmd, d', hd', hsub'.trans hsub, huuid'.trans huuid,
      hg.trans (hrun.generation_le hinv ha ha'), fun h => ?_⟩
    exact hrun.desired_revoked hinv ha (hdes h) ha'

/-- Once the client is not wanted, the configuration is not active again. -/
theorem Reachable.not_active_of_revoked (h : Reachable settings s)
    (hc : s.db.vpnConfigurations[id]? = some c) (hd : c.desiredState = .revoked) :
    c.status ≠ .active := by
  intro hs
  obtain ⟨e, -, ha⟩ := h.inv.1.row hc
  have hstatus := (h.inv.2.each _ _ ha).status
  simp only [Aggregate.StatusInv, Database.aggregateOf, hs, hd] at hstatus
  cases hstatus.1

/-- Recovering one lost attempt of a batch. -/
theorem Reachable.recoverOne_settles {ambient : Ambient} {before : List ℕ} {k : ℕ}
    {db db' : Database} (h : Reachable settings s)
    (hbefore : DispatchNodeTask.recoverAll settings ambient s.db before = .ok db)
    (hk : DispatchNodeTask.recoverOne settings ambient db k = .ok db')
    (hc : db.vpnConfigurations[id]? = some c) (hc' : db'.vpnConfigurations[id]? = some c')
    (hne : c'.status ≠ c.status) :
    ∃ t, db'.taskOf id (.node k) = some t ∧ t.generation = c.generation := by
  obtain ⟨hw, hinv⟩ := h.inv
  have hpre : s.db.Refines ambient.now (fun _ => True) db :=
    DispatchNodeTask.recoverAll_refines hw (fun _ _ => trivial) hbefore
  have hone : db.Refines ambient.now (· = .attempt (.node k)) db' :=
    DispatchNodeTask.recoverOne_refines hpre.wellFormed rfl hk
  obtain ⟨e, -, ha⟩ := hpre.wellFormed.row hc
  obtain ⟨e', -, ha'⟩ := hone.wellFormed.row hc'
  rcases hone.run.status_change (hpre.run.inv hinv) ha ha' hne with
    ⟨r, t, hact | hact, ht, hg⟩ | ⟨r, t, hact, -⟩ | ⟨hact, -⟩
  · cases hact
    exact ⟨t, ht, hg⟩
  all_goals cases hact

/-- Generations only rise, a configuration that is no longer wanted is not active again, it
becomes active on a current period and the success of a provision of its generation only,
and no task of another generation changes its status but a compensated panel provision. -/
theorem generation_fencing (h : Reachable settings s) :
    (∀ (s' : System) (id : ℕ) (c c' : VpnConfiguration), ReflTransGen (Step settings) s s' →
      s.db.vpnConfigurations[id]? = some c → s'.db.vpnConfigurations[id]? = some c' → c.generation ≤ c'.generation ∧
        (c.desiredState = .revoked → c'.desiredState = .revoked ∧ c'.status ≠ .active)) ∧
    (∀ (cmd : Command) (s' : System) (id : ℕ) (c' : VpnConfiguration),
      s.exec settings cmd = some s' → s'.db.vpnConfigurations[id]? = some c' →
      c'.status = .active → ∃ c, s.db.vpnConfigurations[id]? = some c ∧
        (c.status = .active ∨ Activates s cmd s' id c)) ∧
    (∀ (cmd : Command) (s' : System) (id : ℕ) (c c' : VpnConfiguration),
      s.exec settings cmd = some s' → s.db.vpnConfigurations[id]? = some c →
      s'.db.vpnConfigurations[id]? = some c' → c'.status ≠ c.status →
        Settles s cmd s' id c c') ∧
    (∀ (ambient : Ambient) (before : List ℕ) (k : ℕ) (db db' : Database) (id : ℕ)
      (c c' : VpnConfiguration),
      DispatchNodeTask.recoverAll settings ambient s.db before = .ok db →
      DispatchNodeTask.recoverOne settings ambient db k = .ok db' →
      db.vpnConfigurations[id]? = some c → db'.vpnConfigurations[id]? = some c' →
      c'.status ≠ c.status →
        ∃ t, db'.taskOf id (.node k) = some t ∧ t.generation = c.generation) ∧
    (∀ (ambient : Ambient) (locked : List ℕ) (limit : ℕ) (s' : System),
      s.exec settings (.recoverPanelProvisions ambient locked limit) = some s' ∨
        s.exec settings (.recoverPanelRevokes ambient locked limit) = some s' →
      s'.db.vpnConfigurations = s.db.vpnConfigurations) := by
  refine ⟨fun s' id c c' hr hc hc' => ?_, fun cmd s' id c' hcmd hc' hs' => ?_,
    fun cmd s' id c c' hcmd hc hc' hne => h.settles hcmd hc hc' hne,
    fun ambient before k db db' id c c' hb hk hc hc' hne =>
      h.recoverOne_settles hb hk hc hc' hne,
    fun ambient locked limit s' hcmd => ?_⟩
  · obtain ⟨h', d, hd, -, -, hg, hdes⟩ := h.later hr hc
    cases hd.symm.trans hc'
    exact ⟨hg, fun hrev => ⟨hdes hrev, h'.not_active_of_revoked hc' (hdes hrev)⟩⟩
  · cases hc : s.db.vpnConfigurations[id]? with
    | none => exact absurd hs' (h.not_active_of_created hcmd hc hc')
    | some c =>
      refine ⟨c, rfl, ?_⟩
      by_cases hs : c.status = .active
      · exact .inl hs
      · exact .inr (h.activates hcmd hc hc' hs hs')
  · rcases hcmd with hcmd | hcmd
    · exact DispatchPanelProvisionTask.recoverAll_configurations (commitDb_eq_some hcmd)
    · exact DispatchPanelRevokeTask.recoverAll_configurations (commitDb_eq_some hcmd)

/-- A worker holds the provision of the first configuration of the shop. -/
def claimed : List Command := purchase ++ [
  .provisionVpn { now := 0, clientUuid := 100, taskUuid := 1 } 0,
  .prepareNode { now := 1, leaseToken := 5 } 0]

/-- The node has confirmed the operation of the first worker. -/
def confirm (now : DateTime) (status : String) : Command :=
  .finalizeNode { now := now } 0 (.response { status := some status })

theorem generation_fencing_shop : ∃ c,
    ((shop nodeEndpoint).after shopSettings claimed).db.vpnConfigurations[0]? = some c ∧
      Activates ((shop nodeEndpoint).after shopSettings claimed) (confirm 2 "provisioned")
        ((shop nodeEndpoint).after shopSettings (claimed ++ [confirm 2 "provisioned"])) 0 c := by
  have hr : Reachable shopSettings ((shop nodeEndpoint).after shopSettings claimed) :=
    .after (shop_initial _) (by decide +kernel)
  have hactive : (((shop nodeEndpoint).after shopSettings
      (claimed ++ [confirm 2 "provisioned"])).db.vpnConfigurations[0]?).any
        (·.status = .active) = true := by decide +kernel
  obtain ⟨c', hc', hs'⟩ := (Option.any_eq_true _ _).1 hactive
  obtain ⟨c, hc, hs | h⟩ := (generation_fencing hr).2.1 (confirm 2 "provisioned") _ 0 c'
    (by decide +kernel) hc' (by simpa using hs')
  · have hnot : (((shop nodeEndpoint).after shopSettings claimed).db.vpnConfigurations[0]?).any
        (·.status = .active) = false := by decide +kernel
    rw [hc, Option.any_some, hs] at hnot
    cases hnot
  · exact ⟨c, hc, h⟩

/-! ## Live configurations -/

/-- `uq_vpn_configurations_one_active_per_subscription`. -/
def OneActivePerSubscription (rows : List VpnConfiguration) : Prop :=
  ∀ (j k : ℕ) (c d : VpnConfiguration), rows[j]? = some c → rows[k]? = some d →
    c.subscriptionId = d.subscriptionId → c.status = .active → d.status = .active → j = k

/-- Every other configuration of the subscription has ended, and is older. -/
theorem Reachable.oneLive (h : Reachable settings s) {j k : ℕ} {c d : VpnConfiguration}
    (hc : s.db.vpnConfigurations[j]? = some c) (hd : s.db.vpnConfigurations[k]? = some d)
    (hsub : c.subscriptionId = d.subscriptionId) (hne : j ≠ k) (hlive : d.isTerminal = false) :
    c.isTerminal = true ∧ j < k := by
  obtain ⟨hw, hinv⟩ := h.inv
  obtain ⟨e, -, ha⟩ := hw.row hc
  obtain ⟨f, -, hb⟩ := hw.row hd
  rcases Nat.lt_or_gt_of_ne hne with hlt | hgt
  · exact ⟨hinv.oneLive _ _ _ _ hlt ha hb hsub, hlt⟩
  · have hterm : d.isTerminal = true := hinv.oneLive _ _ _ _ hgt hb ha hsub.symm
    rw [hlive] at hterm
    cases hterm

theorem not_terminal_of_active (hs : c.status = .active) : c.isTerminal = false := by
  rw [VpnConfiguration.isTerminal, hs]
  rfl

theorem Reachable.oneActive (h : Reachable settings s) :
    OneActivePerSubscription s.db.vpnConfigurations := by
  intro j k c d hc hd hsub hcs hds
  by_contra hne
  have hterm := (h.oneLive hc hd hsub hne (not_terminal_of_active hds)).1
  rw [not_terminal_of_active hcs] at hterm
  cases hterm

/-- Writing the row that a command activates keeps the index, before any other write. -/
theorem Reachable.oneActive_set (h : Reachable settings s) (hcmd : s.exec settings cmd = some s')
    (hc' : s'.db.vpnConfigurations[id]? = some c') (hs' : c'.status = .active) :
    OneActivePerSubscription (s.db.vpnConfigurations.set id c') := by
  have hother : ∀ {j d}, j ≠ id → s.db.vpnConfigurations[j]? = some d →
      (s.db.vpnConfigurations.set id c')[id]? = some c' →
      d.subscriptionId = c'.subscriptionId → d.status ≠ .active := by
    intro j d hj hd hset hsub hds
    have hlt : id < s.db.vpnConfigurations.length := by
      simpa using (List.getElem?_eq_some_iff.1 hset).1
    have hc := List.getElem?_eq_getElem hlt
    obtain ⟨c₁, hc₁, hsub₁, -⟩ := (exec_evolves h.inv.1 hcmd).row h.inv.1 hc
    cases hc₁.symm.trans hc'
    have hlive : s.db.vpnConfigurations[id].isTerminal = false := by
      by_cases hs : s.db.vpnConfigurations[id].status = .active
      · exact not_terminal_of_active hs
      · rw [VpnConfiguration.isTerminal, (h.activates hcmd hc hc' hs hs').status]
        rfl
    have hterm := (h.oneLive hd hc (hsub.trans hsub₁) hj hlive).1
    rw [not_terminal_of_active hds] at hterm
    cases hterm
  intro j k c d hc hd hsub hcs hds
  by_contra hne
  by_cases hj : j = id
  · subst hj
    have hk : k ≠ j := fun h => hne h.symm
    rw [List.getElem?_set_ne hne] at hd
    have hcc : c = c' := by
      rw [List.getElem?_set_self'] at hc
      obtain ⟨_, -, rfl⟩ := Option.map_eq_some_iff.1 hc
      rfl
    subst hcc
    exact hother hk hd hc hsub.symm hds
  · rw [List.getElem?_set_ne (fun h => hj h.symm)] at hc
    by_cases hk : k = id
    · subst hk
      have hdc : d = c' := by
        rw [List.getElem?_set_self'] at hd
        obtain ⟨_, -, rfl⟩ := Option.map_eq_some_iff.1 hd
        rfl
      subst hdc
      exact hother hj hc hd hsub hcs
    · rw [List.getElem?_set_ne (fun h => hk h.symm)] at hd
      exact hne (h.oneActive j k c d hc hd hsub hcs hds)

/-- A subscription has at most one live configuration, every other one of it has ended and
is older, and no activation meets another active row. -/
theorem one_live_configuration (h : Reachable settings s) :
    (∀ (j k : ℕ) (c d : VpnConfiguration), s.db.vpnConfigurations[j]? = some c →
      s.db.vpnConfigurations[k]? = some d → c.subscriptionId = d.subscriptionId → j ≠ k →
      d.isTerminal = false → c.isTerminal = true ∧ j < k) ∧
    (∀ (cmd : Command) (s' : System) (id : ℕ) (c' : VpnConfiguration),
      s.exec settings cmd = some s' → s'.db.vpnConfigurations[id]? = some c' →
      c'.status = .active → OneActivePerSubscription (s.db.vpnConfigurations.set id c') ∧
        OneActivePerSubscription s'.db.vpnConfigurations) :=
  ⟨fun _ _ _ _ hc hd hsub hne hlive => h.oneLive hc hd hsub hne hlive,
    fun _ _ _ _ hcmd hc' hs' => ⟨h.oneActive_set hcmd hc' hs', (h.exec hcmd).oneActive⟩⟩

/-- The first configuration has been revoked and the second one is being provisioned. -/
def renewed : List Command := claimed ++ [
  confirm 2 "provisioned",
  .revokeVpn { now := 3, taskUuid := 2 } 0 .force,
  .prepareNode { now := 4, leaseToken := 6 } 1,
  .finalizeNode { now := 5 } 1 (.response { status := some "revoked" }),
  .provisionVpn { now := 6, clientUuid := 101, taskUuid := 3 } 0]

theorem one_live_configuration_shop : ∃ c d,
    ((shop nodeEndpoint).after shopSettings renewed).db.vpnConfigurations[0]? = some c ∧
      ((shop nodeEndpoint).after shopSettings renewed).db.vpnConfigurations[1]? = some d ∧
      d.isTerminal = false ∧ c.isTerminal = true ∧ 0 < 1 := by
  have hr : Reachable shopSettings ((shop nodeEndpoint).after shopSettings renewed) :=
    .after (shop_initial _) (by decide +kernel)
  have hrows : (((shop nodeEndpoint).after shopSettings renewed).db.vpnConfigurations[0]?).any
      (·.subscriptionId = 0) = true ∧
      (((shop nodeEndpoint).after shopSettings renewed).db.vpnConfigurations[1]?).any
        (fun d => d.subscriptionId = 0 && !d.isTerminal) = true := by decide +kernel
  obtain ⟨c, hc, hcs⟩ := (Option.any_eq_true _ _).1 hrows.1
  obtain ⟨d, hd, hds⟩ := (Option.any_eq_true _ _).1 hrows.2
  simp only [Bool.and_eq_true, decide_eq_true_eq, Bool.not_eq_true'] at hcs hds
  exact ⟨c, d, hc, hd, hds.2, (one_live_configuration hr).1 0 1 c d hc hd
    (hcs.trans hds.1.symm) (by decide) hds.2⟩

end System

end ShopBot
