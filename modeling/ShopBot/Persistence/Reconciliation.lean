import Mathlib.Data.List.Sort
import ShopBot.Persistence.PaymentRepository

/-! # Reconciliation anomalies

The six queries that compare subscriptions and configurations with the access and the
tasks they should have. Each lists the identifiers of the rows that need work.
-/

namespace ShopBot

inductive ReconciliationAnomalyKind where
  | expireSubscription

  | revokeVpn

  | cleanupVpn

  | provisionSubscription

  | repairProvision

  | repairRevoke
deriving DecidableEq, Repr

def ReconciliationAnomalyKind.order : ReconciliationAnomalyKind → ℕ
  | .expireSubscription => 1
  | .revokeVpn => 2
  | .cleanupVpn => 3
  | .provisionSubscription => 4
  | .repairProvision => 5
  | .repairRevoke => 6

structure ReconciliationAnomaly where
  kind : ReconciliationAnomalyKind
  entityId : ℕ
deriving DecidableEq, Repr

def BLOCKING_VPN_STATUSES : List VpnConfigurationStatus :=
  [.provisioning, .active, .failed, .revoking, .revokeFailed]

def REMOTE_LIVE_VPN_STATUSES : List VpnConfigurationStatus :=
  [.provisioning, .active, .failed, .revokeFailed]

def TERMINAL_TASK_STATUSES : List TaskStatus := [.succeeded, .failed, .cancelled]

namespace Database

variable (db : Database) (now : DateTime)

def hasCurrentPeriod (subscriptionId : ℕ) : Bool :=
  db.subscriptionPeriods.any fun p =>
    p.subscriptionId = some subscriptionId && p.isPaid && p.startsAt ≤ now && now < p.expiresAt

/-- The subscription row of a join satisfies the condition. -/
def subscriptionIs (subscriptionId : ℕ) (condition : Subscription → Bool) : Bool :=
  (db.getSubscription subscriptionId).any condition

/-- The subscription is active and funded at `now`. -/
def hasAccess (subscriptionId : ℕ) : Bool :=
  db.subscriptionIs subscriptionId (·.status = .active) && db.hasCurrentPeriod now subscriptionId

def nodeTaskExists (id : ℕ) (operation : NodeTaskOperation) (generation : ℕ)
    (condition : TaskStatus → Bool) : Bool :=
  db.nodeTasks.any fun t => isVpnTask id operation generation t && condition t.status

def panelProvisionTaskExists (id generation : ℕ) (condition : TaskStatus → Bool) : Bool :=
  db.panelProvisionTasks.any fun t =>
    t.vpnConfigurationId = id && t.vpnGeneration = generation && condition t.status

def panelRevokeTaskExists (id generation : ℕ) (condition : TaskStatus → Bool) : Bool :=
  db.panelRevokeTasks.any fun t =>
    t.vpnConfigurationId = id && t.vpnGeneration = generation && condition t.status

def provisionNeedsRepair (c : VpnConfiguration) (id : ℕ) (endpoint : ServerEndpoint) : Bool :=
  (endpoint.nodeId.isSome &&
    (!db.nodeTaskExists id .provisionClient c.generation (fun _ => true) ||
      db.nodeTaskExists id .provisionClient c.generation (· ∈ TERMINAL_TASK_STATUSES))) ||
  (endpoint.nodeId.isNone &&
    (!db.panelProvisionTaskExists id c.generation (fun _ => true) ||
      db.panelProvisionTaskExists id c.generation (· ∈ TERMINAL_TASK_STATUSES)))

def revokeNeedsRepair (c : VpnConfiguration) (id : ℕ) (endpoint : ServerEndpoint) : Bool :=
  (endpoint.nodeId.isSome &&
    (!db.nodeTaskExists id .revokeClient c.generation (fun _ => true) ||
      db.nodeTaskExists id .revokeClient c.generation (· = .succeeded))) ||
  (endpoint.nodeId.isNone &&
    (!db.panelRevokeTaskExists id c.generation (fun _ => true) ||
      db.panelRevokeTaskExists id c.generation (· = .succeeded)))

def expireSubscriptions : List ReconciliationAnomaly :=
  ((Table.select (·.status = .active) db.subscriptions).filter fun row =>
    !db.hasCurrentPeriod now row.2).map fun row => ⟨.expireSubscription, row.2⟩

def revokeVpn : List ReconciliationAnomaly :=
  (Table.select (fun c => c.status ∈ REMOTE_LIVE_VPN_STATUSES &&
    (db.subscriptionIs c.subscriptionId (·.status ≠ .active) ||
      db.subscriptionIs c.subscriptionId (fun _ => !db.hasCurrentPeriod now c.subscriptionId)))
    db.vpnConfigurations).map fun row => ⟨.revokeVpn, row.2⟩

def cleanupVpn : List ReconciliationAnomaly :=
  (Table.select (fun c => c.status = .failed && db.hasAccess now c.subscriptionId)
    db.vpnConfigurations).map fun row => ⟨.cleanupVpn, row.2⟩

def provisionSubscriptions : List ReconciliationAnomaly :=
  ((Table.select (·.status = .active) db.subscriptions).filter fun row =>
    db.hasCurrentPeriod now row.2 && !db.vpnConfigurations.any fun c =>
      c.subscriptionId = row.2 && c.status ∈ BLOCKING_VPN_STATUSES).map
    fun row => ⟨.provisionSubscription, row.2⟩

def repairProvision : List ReconciliationAnomaly :=
  ((Table.select (fun c => c.status = .provisioning && c.desiredState = .active &&
    db.hasAccess now c.subscriptionId) db.vpnConfigurations).filter fun row =>
      (db.serverEndpoints[row.1.serverEndpointId]?).any
        (db.provisionNeedsRepair row.1 row.2)).map
    fun row => ⟨.repairProvision, row.1.subscriptionId⟩

def repairRevoke : List ReconciliationAnomaly :=
  ((Table.select (fun c => c.status = .revoking && c.desiredState = .revoked)
    db.vpnConfigurations).filter fun row =>
      (db.serverEndpoints[row.1.serverEndpointId]?).any
        (db.revokeNeedsRepair row.1 row.2)).map fun row => ⟨.repairRevoke, row.2⟩

/-- The union of the six queries. -/
def reconciliationAnomalies : List ReconciliationAnomaly :=
  db.expireSubscriptions now ++ db.revokeVpn now ++ db.cleanupVpn now ++
    db.provisionSubscriptions now ++ db.repairProvision now ++ db.repairRevoke

def listReconciliationAnomalies (afterKindOrder afterEntityId limit : ℕ) :
    List ReconciliationAnomaly :=
  (((db.reconciliationAnomalies now).filter fun a =>
    afterKindOrder < a.kind.order ||
      (a.kind.order = afterKindOrder && afterEntityId < a.entityId)).insertionSort fun a b =>
        a.kind.order < b.kind.order ∨
          (a.kind.order = b.kind.order ∧ a.entityId ≤ b.entityId)).take limit

variable {db : Database} {now : DateTime}

theorem hasCurrentPeriod_eq (subscriptionId : ℕ) :
    db.hasCurrentPeriod now subscriptionId = (db.getCurrentPeriod subscriptionId now).isSome := by
  unfold hasCurrentPeriod getCurrentPeriod
  rw [latestBy_isSome, Bool.eq_iff_iff, List.any_eq_true, Bool.not_eq_true', List.isEmpty_eq_false_iff,
    Ne, List.filter_eq_nil_iff]
  simp only [not_forall, not_not, exists_prop]

/-- A batch that is long enough lists every anomaly. -/
theorem mem_listReconciliationAnomalies {a : ReconciliationAnomaly} {limit : ℕ}
    (h : a ∈ db.reconciliationAnomalies now)
    (hlimit : (db.reconciliationAnomalies now).length ≤ limit) :
    a ∈ db.listReconciliationAnomalies now 0 0 limit := by
  unfold listReconciliationAnomalies
  rw [List.take_of_length_le]
  · refine (List.mem_insertionSort _).2 (List.mem_filter.2 ⟨h, ?_⟩)
    have hpos : 0 < a.kind.order := by cases a.kind <;> decide
    simp [hpos]
  · rw [List.length_insertionSort]
    exact (List.length_filter_le _ _).trans hlimit

theorem of_mem_listReconciliationAnomalies {a : ReconciliationAnomaly} {k i limit : ℕ}
    (h : a ∈ db.listReconciliationAnomalies now k i limit) : a ∈ db.reconciliationAnomalies now := by
  unfold listReconciliationAnomalies at h
  exact (List.mem_filter.1 ((List.mem_insertionSort _).1 (List.mem_of_mem_take h))).1

end Database

end ShopBot
