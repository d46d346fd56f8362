import ShopBot.Guarantees.Entitlement
import ShopBot.System.RowLocks

/-! # The order of row locks

Events, orders, attempts, tasks, subscriptions, periods, configurations and nodes are locked
in this order, except by a refund that withdraws a period, which locks the period before its
subscription. A recovery of node tasks locks the configurations of the tasks it fails one
after the other. Transactions that do not wait in these two places never deadlock.
-/

namespace ShopBot

namespace RowLocks

open LockOrder Relation

def RowClass.rank : RowClass → ℕ
  | paymentEvent => 0
  | paymentOrder => 1
  | paymentAttempt => 2
  | task => 3
  | subscription => 4
  | period => 5
  | configuration => 6
  | node => 7

def Row.rank (r : Row) : ℕ := r.rowClass.rank

attribute [simp] RowClass.rank Row.rowClass Row.rank

/-- The row comes after every row that is held. -/
def InOrder (held : List Row) (r : Row) : Prop := ∀ h ∈ held, h.rank < r.rank

/-- A subscription is asked for by a transaction that holds a period. -/
def AfterPeriod (held : List Row) (r : Row) : Prop :=
  (∃ id, r = .subscription id) ∧ ∃ id, .period id ∈ held

/-- A configuration is asked for by a transaction that holds another one, and no row of a
later class. -/
def NextConfiguration (held : List Row) (r : Row) : Prop :=
  (∃ id, r = .configuration id) ∧ (∃ id, .configuration id ∈ held) ∧
    ∀ h ∈ held, h.rank ≤ r.rank

variable {settings : Settings} {ambient : Ambient} {held : List Row} {r : Row} {t : Transaction}
  {n : ℕ} {may : List Row → Row → Prop}

/-! ## The transactions -/

theorem locks_lock (hr : InOrder held r) (ht : t.Locks InOrder (r :: held)) :
    (Script.lock r t).Locks InOrder held :=
  ⟨.inr hr, ht⟩

theorem below_cons (hr : r.rank < n) (hh : ∀ h ∈ held, h.rank < n) :
    ∀ h ∈ r :: held, h.rank < n := by
  intro h hm
  rcases List.mem_cons.1 hm with rfl | hm
  · exact hr
  · exact hh h hm

theorem below_nil : ∀ h ∈ ([] : List Row), h.rank < n := by
  intro h hm
  cases hm

theorem activateSubscription_locks (userId tariffId : ℕ) (hh : ∀ h ∈ held, h.rank < 4) :
    (activateSubscription userId tariffId).Locks InOrder held := by
  intro db
  dsimp only
  split
  · trivial
  · refine locks_lock hh fun db => ?_
    dsimp only
    split
    · trivial
    · split_ifs
      · intro db
        dsimp only
        split
        · trivial
        · exact locks_lock (below_cons (by simp) fun h hm => Nat.lt_succ_of_lt (hh h hm)) trivial
      · trivial

theorem lockOrderAndAttempt_locks (attemptId : ℕ) (hh : ∀ h ∈ held, h.rank < 1)
    (hm : ∀ held r, InOrder held r → may held r)
    (ht : ∀ o, t.Locks may (.attempt attemptId :: .order o :: held)) :
    (lockOrderAndAttempt attemptId t).Locks may held := by
  intro db
  dsimp only
  split
  · trivial
  · refine ⟨.inr (hm _ _ hh), fun db => ?_⟩
    dsimp only
    split
    · trivial
    · exact ⟨.inr (hm _ _ (below_cons (by simp) fun h hr => Nat.lt_succ_of_lt (hh h hr))), ht _⟩

theorem prepareOrder_locks (q : PaymentRequest) (now : DateTime) :
    (prepareOrder q now).Locks InOrder [] := by
  intro db
  dsimp only
  split
  · split_ifs
    · trivial
    · refine locks_lock below_nil fun db => ?_
      dsimp only
      split
      · trivial
      · split_ifs
        · intro db
          dsimp only
          split
          · split_ifs
            · exact locks_lock (below_cons (by simp) below_nil) trivial
            · trivial
          · trivial
        · trivial
  · trivial

theorem processPaid_locks (now : DateTime) (e : PaymentEvent) (eventId : ℕ) :
    (processPaid now e).Locks InOrder [.event eventId] := by
  unfold processPaid
  split
  · trivial
  · refine lockOrderAndAttempt_locks _ (below_cons (by simp) below_nil) (fun _ _ => id)
      fun o db => ?_
    dsimp only
    split
    · trivial
    · split
      · trivial
      · split_ifs
        · trivial
        · split
          · exact activateSubscription_locks _ _ (below_cons (by simp)
              (below_cons (by simp) (below_cons (by simp) below_nil)))
          · trivial

theorem processOther_locks (e : PaymentEvent) (eventId : ℕ) :
    (processOther e).Locks InOrder [.event eventId] := by
  intro db
  dsimp only
  split
  · trivial
  · refine locks_lock (below_cons (by simp) below_nil) fun db => ?_
    dsimp only
    have hattempt : ∀ id orderId,
        InOrder [.order orderId, .event eventId] (.attempt id) := fun _ _ =>
      below_cons (by simp) (below_cons (by simp) below_nil)
    split
    · trivial
    · exact locks_lock (hattempt _ _) trivial
    · intro db
      dsimp only
      split
      · trivial
      · split_ifs
        · trivial
        · exact locks_lock (hattempt _ _) trivial
        · trivial

theorem withdrawFunding_locks (orderId : ℕ) (hh : ∀ h ∈ held, h.rank < 5) :
    (withdrawFunding orderId).Locks (fun held r => InOrder held r ∨ AfterPeriod held r) held := by
  intro db
  dsimp only
  split
  · trivial
  · refine ⟨.inr (.inl hh), ?_⟩
    split
    · trivial
    · exact ⟨.inr (.inr ⟨⟨_, rfl⟩, _, List.mem_cons_self⟩), trivial⟩

theorem processRefund_locks (e : PaymentEvent) (eventId : ℕ) : (processRefund e).Locks
    (fun held r => InOrder held r ∨ AfterPeriod held r) [.event eventId] := by
  unfold processRefund
  split
  · trivial
  · refine lockOrderAndAttempt_locks _ (below_cons (by simp) below_nil) (fun _ _ => .inl)
      fun o db => ?_
    dsimp only
    split
    · trivial
    · split
      · split_ifs
        · trivial
        · trivial
        · intro db
          dsimp only
          split_ifs
          · exact withdrawFunding_locks _ (below_cons (by simp)
              (below_cons (by simp) (below_cons (by simp) below_nil)))
          · trivial
      · trivial

/-- The processing of an event leaves the order at one place only. -/
theorem processPayment_locks (now : DateTime) (eventId : ℕ) : (processPayment now eventId).Locks
    (fun held r => InOrder held r ∨ AfterPeriod held r) [] := by
  refine ⟨.inr (.inl below_nil), fun db => ?_⟩
  dsimp only
  split
  · trivial
  · split_ifs
    · trivial
    · exact processRefund_locks _ eventId
    · exact (processPaid_locks now _ eventId).mono fun _ _ => .inl
    · exact (processOther_locks _ eventId).mono fun _ _ => .inl

theorem markPaymentOrderPaid_locks (orderId : ℕ) (now : DateTime) :
    (markPaymentOrderPaid orderId now).Locks InOrder [] := by
  refine locks_lock below_nil fun db => ?_
  dsimp only
  split
  · trivial
  · split
    · exact activateSubscription_locks _ _ (below_cons (by simp) below_nil)
    · trivial

theorem selectEndpoint_locks (hh : ∀ h ∈ held, h.rank < 7) :
    (selectEndpoint settings ambient).Locks InOrder held := by
  intro db
  dsimp only
  split
  · trivial
  · exact locks_lock hh trivial

theorem reuseExistingProvisioning_locks (latest : VpnConfiguration) (id : ℕ)
    (hh : ∀ h ∈ held, h.rank < 6) :
    (reuseExistingProvisioning settings latest id).Locks InOrder held := by
  unfold reuseExistingProvisioning
  split_ifs
  · trivial
  · intro db
    dsimp only
    split
    · trivial
    · intro db
      dsimp only
      split
      · trivial
      · split_ifs
        · exact locks_lock hh trivial
        · trivial
    · intro db
      dsimp only
      split
      · split_ifs
        · exact locks_lock hh trivial
        · trivial
      · trivial

theorem provisionVpn_locks (subscriptionId : ℕ) :
    (provisionVpn settings ambient subscriptionId).Locks InOrder [] := by
  refine locks_lock below_nil fun db => ?_
  dsimp only
  split
  · trivial
  · split_ifs
    · trivial
    · intro db
      dsimp only
      split_ifs
      · trivial
      · intro db
        dsimp only
        split_ifs
        · trivial
        · intro db
          dsimp only
          split
          · exact selectEndpoint_locks (below_cons (by simp) below_nil)
          · split
            · trivial
            · trivial
            · trivial
            · exact reuseExistingProvisioning_locks _ _ (below_cons (by simp) below_nil)
            · exact selectEndpoint_locks (below_cons (by simp) below_nil)

theorem revokeVpn_locks (id : ℕ) (reason : VpnRevokeReason) :
    (revokeVpn ambient id reason).Locks InOrder [] := by
  intro db
  dsimp only
  split
  · trivial
  · split_ifs
    · refine locks_lock below_nil fun db => ?_
      dsimp only
      split
      · trivial
      · intro db
        dsimp only
        split_ifs
        · trivial
        · exact locks_lock (below_cons (by simp) below_nil) trivial
    · exact locks_lock below_nil trivial

theorem failOrRetry_locks (task : NodeTask) (lastError : String)
    (response : Option NodeResponse) (hh : ∀ h ∈ held, h.rank < 6) :
    (failOrRetry settings ambient task lastError response).Locks InOrder held := by
  unfold failOrRetry markConfigurationFailure
  split_ifs
  · split
    · trivial
    · exact locks_lock hh trivial
  · trivial

theorem prepareNode_locks (taskId : ℕ) :
    (prepareNode settings ambient taskId).Locks InOrder [] := by
  refine locks_lock below_nil fun db => ?_
  dsimp only
  split
  · trivial
  · split_ifs
    · trivial
    · intro db
      dsimp only
      split
      · trivial
      · split
        · split
          · trivial
          · split
            · exact failOrRetry_locks _ _ _ (below_cons (by simp) below_nil)
            · trivial
        · trivial

theorem finalizeNode_locks (prepared : PreparedDispatch) (reply : NodeReply) :
    (finalizeNode settings ambient prepared reply).Locks InOrder [] := by
  refine locks_lock below_nil fun db => ?_
  dsimp only
  have htask : ∀ {n}, 3 < n → ∀ h ∈ [Row.nodeTask prepared.taskId], h.rank < n :=
    fun hn => below_cons hn below_nil
  split
  · trivial
  · split_ifs
    · split
      · exact failOrRetry_locks _ _ _ (htask (by simp))
      · split_ifs
        · split
          · unfold completeProvision
            split
            · exact locks_lock (htask (by simp)) trivial
            · exact locks_lock (htask (by simp))
                (locks_lock (below_cons (by simp) (htask (by simp))) trivial)
          · exact locks_lock (htask (by simp)) trivial
          · trivial
        · exact failOrRetry_locks _ _ _ (htask (by simp))
    · trivial

/-- While a recovery works off its tasks it holds tasks and configurations. -/
theorem recoverTasks_locks (rows : List Row) (hh : ∀ h ∈ held, h.rank = 3 ∨
    ∃ id, h = .configuration id) : (recoverTasks settings ambient rows).Locks
      (fun held r => InOrder held r ∨ NextConfiguration held r) held := by
  induction rows generalizing held with
  | nil => trivial
  | cons row rest ih =>
    cases row with
    | nodeTask taskId =>
      intro db
      dsimp only
      split
      · exact ih hh
      · split_ifs
        · split
          · trivial
          · rename_i task _
            unfold markConfigurationFailure
            split_ifs
            · split
              · exact ih hh
              · rename_i id _
                refine ⟨.inr ?_, ih fun h hm => ?_⟩
                · by_cases hc : ∃ id', .configuration id' ∈ held
                  · refine .inr ⟨⟨id, rfl⟩, hc, fun h hm => ?_⟩
                    rcases hh h hm with h3 | ⟨_, rfl⟩
                    · rw [h3]
                      simp
                    · exact Nat.le_refl _
                  · refine .inl fun h hm => ?_
                    rcases hh h hm with h3 | ⟨id', rfl⟩
                    · rw [h3]
                      simp
                    · exact absurd ⟨id', hm⟩ hc
                · rcases List.mem_cons.1 hm with rfl | hm
                  · exact .inr ⟨id, rfl⟩
                  · exact hh h hm
            · exact ih hh
        · exact ih hh
    | _ => trivial

theorem recoverNodes_locks (limit : ℕ) : (recoverNodes settings ambient limit).Locks
    (fun held r => InOrder held r ∨ NextConfiguration held r) [] := by
  intro db granted hg
  apply recoverTasks_locks
  intro h hm
  rw [List.append_nil] at hm
  obtain ⟨id, -, rfl⟩ := List.mem_map.1 (hg hm)
  exact .inl rfl

theorem ownPanelTask_locks (taskId : ℕ) {next : PanelProvisionTask → Transaction}
    (hn : ∀ t, (next t).Locks InOrder [.panelProvisionTask taskId]) :
    (ownPanelTask settings taskId next).Locks InOrder [] := by
  refine locks_lock below_nil fun db => ?_
  dsimp only
  split
  · exact hn _
  · trivial

theorem ownRevokeTask_locks (taskId : ℕ) (wanted : PanelRevokeTask → Bool) :
    (ownRevokeTask taskId wanted).Locks InOrder [] := by
  refine locks_lock below_nil fun db => ?_
  dsimp only
  split
  · trivial
  · split_ifs
    · exact locks_lock (below_cons (by simp) below_nil) trivial
    · trivial

/-- Every transaction but two keeps to the order strictly. -/
theorem UseCase.locks (u : UseCase) (hp : ∀ now id, u ≠ .processPayment now id)
    (hr : ∀ ambient limit, u ≠ .recoverNodes ambient limit) :
    (u.transaction settings).Locks InOrder [] := by
  have hconfiguration : ∀ taskId id,
      (Script.lock (.configuration id) Script.ends : Transaction).Locks InOrder
        [.panelProvisionTask taskId] := fun _ _ =>
    locks_lock (below_cons (by simp) below_nil) trivial
  cases u with
  | prepareOrder q now => exact prepareOrder_locks q now
  | settleOwnedClaim attemptId => exact locks_lock below_nil trivial
  | processPayment now eventId => exact absurd rfl (hp now eventId)
  | markPaymentOrderPaid orderId now => exact markPaymentOrderPaid_locks orderId now
  | expireSubscription subscriptionId => exact locks_lock below_nil trivial
  | provisionVpn ambient subscriptionId => exact provisionVpn_locks subscriptionId
  | revokeVpn ambient id reason => exact revokeVpn_locks id reason
  | prepareNode ambient taskId => exact prepareNode_locks taskId
  | finalizeNode ambient prepared reply => exact finalizeNode_locks prepared reply
  | recoverNodes ambient limit => exact absurd rfl (hr ambient limit)
  | updatePanelTask taskId => exact locks_lock below_nil trivial
  | finalizeProvisionSuccess ambient prepared =>
    refine ownPanelTask_locks _ fun t => ?_
    split_ifs
    · exact locks_lock (below_cons (by simp) below_nil)
        (locks_lock (below_cons (by simp) (below_cons (by simp) below_nil)) trivial)
    · trivial
  | finalizeRemoteFailure ambient prepared error =>
    refine ownPanelTask_locks _ fun t => ?_
    split_ifs
    · exact hconfiguration _ _
    · trivial
  | recordCompensationSuccess prepared =>
    refine ownPanelTask_locks _ fun t => ?_
    split_ifs
    · exact hconfiguration _ _
    · trivial
  | recoverPanelTasks ambient limit => exact fun _ _ _ => trivial
  | prepareRevoke taskId => exact locks_lock below_nil trivial
  | finalizeRevokeSuccess ambient prepared => exact ownRevokeTask_locks _ _
  | finalizeRevokeFailure ambient prepared error => exact ownRevokeTask_locks _ _
  | recoverRevokeTasks ambient limit => exact fun _ _ _ => trivial

theorem UseCase.locks_admitted (u : UseCase) : (u.transaction settings).Locks
    (fun held r => InOrder held r ∨ AfterPeriod held r ∨ NextConfiguration held r) [] := by
  by_cases hp : ∃ now id, u = .processPayment now id
  · obtain ⟨now, id, rfl⟩ := hp
    exact (processPayment_locks now id).mono fun _ _ h => h.imp_right .inl
  · by_cases hr : ∃ ambient limit, u = .recoverNodes ambient limit
    · obtain ⟨ambient, limit, rfl⟩ := hr
      exact (recoverNodes_locks limit).mono fun _ _ h => h.imp_right .inr
    · push Not at hp hr
      exact (u.locks hp hr).mono fun _ _ => .inl

/-! ## Runs -/

def OneOf (settings : Settings) (t : Transaction) : Prop := ∃ u : UseCase, t = u.transaction settings

/-- Nobody waits for a subscription while holding a period, or for a configuration while
holding another. -/
def WaitsElsewhere (s : List (Session Database Row)) : Prop :=
  ∀ i j r x, WaitsFor s i j r → s[i]? = some x →
    ¬ AfterPeriod x.held r ∧ ¬ NextConfiguration x.held r

/-- Events, orders, attempts, tasks, subscriptions, periods, configurations and nodes are
locked in this order by every transaction, but for the subscription of a refund that has
locked a period. In every run in which no such refund waits for the subscription, and no
recovery waits for a further configuration, nobody is deadlocked. -/
theorem lock_order (settings : Settings) :
    (∀ u : UseCase, (∀ now id, u ≠ .processPayment now id) →
      (u.transaction settings).Locks (fun held r => ∀ h ∈ held, h.rank ≤ r.rank) []) ∧
    (∀ now id, ((UseCase.processPayment now id).transaction settings).Locks
      (fun held r => (∀ h ∈ held, h.rank ≤ r.rank) ∨ AfterPeriod held r) []) ∧
    ∀ s, Transition.Reachable (· = []) (Transition.Guarded (Step (OneOf settings))
      fun _ s' => WaitsElsewhere s') s → ¬ Deadlocked s := by
  refine ⟨fun u hp => ?_, fun now id => ?_, fun s h => ?_⟩
  · by_cases hr : ∃ ambient limit, u = .recoverNodes ambient limit
    · obtain ⟨ambient, limit, rfl⟩ := hr
      refine (recoverNodes_locks limit).mono fun held r h => ?_
      rcases h with h | h
      · exact fun x hx => Nat.le_of_lt (h x hx)
      · exact h.2.2
    · push Not at hr
      exact (u.locks hp hr).mono fun held r h x hx => Nat.le_of_lt (h x hx)
  · exact (processPayment_locks now id).mono fun held r h =>
      h.imp_left fun h x hx => Nat.le_of_lt (h x hx)
  · have hd : Disciplined
        (fun held r => InOrder held r ∨ AfterPeriod held r ∨ NextConfiguration held r) s := by
      refine disciplined_of_reachable ?_ h
      rintro t ⟨u, rfl⟩
      exact u.locks_admitted
    have hw : WaitsElsewhere s := by
      refine h.invariant WaitsElsewhere ?_ fun _ _ _ _ hs => hs.2
      rintro s rfl i j r x - hx
      simp at hx
    have horder : WaitsInOrder Row.rank s := by
      intro i j r x hij hx
      obtain ⟨hperiod, hconfiguration⟩ := hw i j r x hij hx
      exact (Disciplined.allowed hd hij hx).resolve_right fun hor => hor.elim hperiod hconfiguration
    exact horder.not_deadlocked

/-! ## A refund that meets a renewal -/

/-- One month is paid and refunded, and another one is paid; the refund and the second
payment are not processed yet. -/
def renewal : System :=
  (shop nodeEndpoint).after shopSettings (buy 0 month 0 "month" 0 ++
    (buy 1 month 0 "again" 1).take 3 ++ [System.refundReported "month" 500 2])

/-- What the refund sees once it has inserted its own provider transaction. -/
def refundSees : Database :=
  renewal.db.createProviderTransaction {
    paymentOrderId := 0
    paymentAttemptId := some 0
    provider := "yookassa"
    transactionType := "refund_succeeded"
    providerTransactionKey := "refund of month"
    transactionStatus := "succeeded"
    amountMinor := 500
    currency := ⟨"RUB"⟩
    payload := [] }

def refund : UseCase := .processPayment 3 2

def payment : UseCase := .processPayment 3 1

/-- The statements of a session that has `n` reads before its next lock, and then locks. -/
def advance (i n : ℕ) (db : Database) : List (Action Database Row) :=
  List.replicate n (.read i db) ++ [.lock i]

/-- The refund has locked the period, and the payment the subscription. -/
def crossing : List (Action Database Row) :=
  [.start (refund.transaction shopSettings), .start (payment.transaction shopSettings)] ++
    [.lock 0] ++ advance 0 2 refundSees ++ advance 0 1 refundSees ++ advance 0 3 refundSees ++
    [.lock 1] ++ advance 1 2 renewal.db ++ advance 1 1 renewal.db ++ advance 1 2 renewal.db ++
    [.read 1 renewal.db, .read 1 renewal.db]

/-! ## Two recoveries -/

def oneAttempt : Settings :=
  { shopSettings with nodeTaskMaxAttempts := 1, nodeTaskMaxAttempts_pos := Nat.one_pos }

def atSecond (t : ℤ) (uuid : Uuid) : Ambient where
  now := seconds t
  clientUuid := uuid
  taskUuid := uuid
  leaseToken := uuid

/-- Two configurations whose provision and revoke are both in progress; the leases of the
first provision and the second revoke end a minute before the two others. -/
def expiring : System :=
  (shop nodeEndpoint).after oneAttempt (purchase ++ [
    .createPayment {
        telegramId := 8
        tariffId := 0
        provider := "yookassa"
        idempotencyKey := "other"
        nameOrNick := some "other" } 0 60 2,
    .markPaymentOrderPaid 1 0,
    .provisionVpn (atSecond 0 0) 0, .provisionVpn (atSecond 0 1) 1,
    .revokeVpn (atSecond 0 2) 1 .force,
    .prepareNode (atSecond 0 3) 0, .prepareNode (atSecond 1 4) 2,
    .revokeVpn (atSecond 2 5) 0 .force,
    .prepareNode (atSecond 50 6) 1, .prepareNode (atSecond 51 7) 3])

def recovery (t : ℤ) : UseCase := .recoverNodes (atSecond t 0) 100

/-- Each recovery has failed one of its two tasks. -/
def overlap : List (Action Database Row) :=
  [.start ((recovery 62).transaction oneAttempt), .start ((recovery 112).transaction oneAttempt),
    .read 0 expiring.db, .claim 0, .read 0 expiring.db, .lock 0,
    .read 1 expiring.db, .claim 1, .read 1 expiring.db, .lock 1,
    .read 0 expiring.db, .read 1 expiring.db]

/-- No order of the classes is kept to by the refund and the payment. -/
theorem no_common_order {rank : RowClass → ℕ} (hinj : Function.Injective rank)
    (hall : ∀ u : UseCase, (u.transaction shopSettings).Locks
      (fun held r => ∀ h ∈ held, rank h.rowClass ≤ rank r.rowClass) []) : False := by
  have hrefund : (refund.transaction shopSettings).trace refundSees =
      [.event 2, .order 0, .attempt 0, .period 0] ++ .subscription 0 :: [] := by
    decide +kernel
  have hpayment : (payment.transaction shopSettings).trace renewal.db =
      [.event 1, .order 1, .attempt 1, .subscription 0] ++ .period 0 :: [] := by
    decide +kernel
  have hle : rank .period ≤ rank .subscription := by
    rcases (hall refund).trace hrefund with hm | hm | ⟨held, -, hp, hallowed⟩
    · cases hm
    · simp at hm
    · exact hallowed (.period 0) (hp (by simp))
  have hge : rank .subscription ≤ rank .period := by
    rcases (hall payment).trace hpayment with hm | hm | ⟨held, -, hp, hallowed⟩
    · cases hm
    · simp at hm
    · exact hallowed (.subscription 0) (hp (by simp))
  have := hinj (Nat.le_antisymm hle hge)
  cases this

/-- Not all transactions keep to one order of the classes; a refund and a renewal of one
subscription deadlock, and so do two recoveries. -/
theorem deadlocks :
    (∀ rank : RowClass → ℕ, Function.Injective rank →
      ¬ ∀ u : UseCase, (u.transaction shopSettings).Locks
        (fun held r => ∀ h ∈ held, rank h.rowClass ≤ rank r.rowClass) []) ∧
    (System.Reachable shopSettings renewal ∧
      ∃ s, Transition.execAll exec [] crossing = some s ∧ Deadlocked s) ∧
    System.Reachable oneAttempt expiring ∧
      ∃ s, Transition.execAll exec [] overlap = some s ∧ Deadlocked s := by
  refine ⟨fun rank hinj hall => no_common_order hinj hall, ⟨?_, ?_⟩, ?_, ?_⟩
  · exact System.Reachable.after (shop_initial _) (by decide +kernel)
  · obtain ⟨s, hs, hcond⟩ := (Option.any_eq_true _ _).1
      (show (Transition.execAll exec [] crossing).any (fun s =>
        WaitsFor s 0 1 (.subscription 0) ∧ WaitsFor s 1 0 (.period 0)) = true by decide +kernel)
    obtain ⟨h₀, h₁⟩ := of_decide_eq_true hcond
    exact ⟨s, hs, deadlocked_of_pair h₀ h₁⟩
  · exact System.Reachable.after (shop_initial _) (by decide +kernel)
  · obtain ⟨s, hs, hcond⟩ := (Option.any_eq_true _ _).1
      (show (Transition.execAll exec [] overlap).any (fun s =>
        WaitsFor s 0 1 (.configuration 1) ∧ WaitsFor s 1 0 (.configuration 0)) = true by
          decide +kernel)
    obtain ⟨h₀, h₁⟩ := of_decide_eq_true hcond
    exact ⟨s, hs, deadlocked_of_pair h₀ h₁⟩

end RowLocks

end ShopBot
