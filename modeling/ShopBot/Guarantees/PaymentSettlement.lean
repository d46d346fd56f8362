import ShopBot.Guarantees.Fencing
import ShopBot.Lifecycle.BillingHistory

/-! # Settlement of payments

Every paid order has been settled by an administrator, or rests on a processed event and
a paid attempt that agree with it in every respect. An event that is rejected or stale
changes its own row and nothing else.
-/

namespace ShopBot

open Database Relation

namespace ProcessPayment

variable {db db' : Database} {now : DateTime} {e e' : PaymentEvent} {eventId orderId : ℕ}
  {r : PaymentResult}

/-- The event has been rejected, or it was stale. -/
def Dismissed (e : PaymentEvent) : Prop := e.status = .failed ∨ e.status = .ignored

/-- Nothing but the row of the event is written when the event is dismissed. -/
def WritesEventOnly (db db' : Database) (eventId : ℕ) : Prop :=
  ∀ e', db'.paymentEvents[eventId]? = some e' → Dismissed e' →
    db' = { db with paymentEvents := db'.paymentEvents } ∧
      ∀ i, i ≠ eventId → db'.paymentEvents[i]? = db.paymentEvents[i]?

theorem saveEvent_writes (e : PaymentEvent) : WritesEventOnly db (db.saveEvent eventId e) eventId :=
  fun _ _ _ => ⟨rfl, fun _ hi => List.getElem?_set_ne hi.symm⟩

theorem refl_writes : WritesEventOnly db db eventId := fun _ _ _ => ⟨rfl, fun _ _ => rfl⟩

/-- A transaction that processes its event is not about a dismissed one. -/
theorem processed_writes (db₁ : Database) :
    WritesEventOnly db (db₁.saveEvent eventId (e.markProcessed now)) eventId := by
  intro e' he' hd
  unfold saveEvent at he'
  rw [List.getElem?_set_self'] at he'
  obtain ⟨_, -, rfl⟩ := Option.map_eq_some_iff.1 he'
  rcases hd with hd | hd <;> cases hd

theorem processRefund_writes : WritesEventOnly db (processRefund now db e eventId).2 eventId := by
  unfold processRefund
  split
  · exact saveEvent_writes _
  · split
    · exact saveEvent_writes _
    · split
      · exact saveEvent_writes _
      · split
        · split_ifs
          · exact saveEvent_writes _
          · exact saveEvent_writes _
          · exact processed_writes _
        · exact saveEvent_writes _

theorem resolvePaid_writes (h : resolvePaid now db e eventId = .ok (r, db')) :
    WritesEventOnly db db' eventId := by
  unfold resolvePaid at h
  split at h
  · cases h
    exact saveEvent_writes _
  · split at h
    · cases h
      exact saveEvent_writes _
    · split at h
      · cases h
        exact saveEvent_writes _
      · unfold processPaid at h
        split at h
        · cases h
          exact saveEvent_writes _
        · cases h
        · dsimp only at h
          split_ifs at h
          · cases h
            exact saveEvent_writes _
          · obtain ⟨db₁, -, h₁⟩ := bind_eq_ok.1 h
            obtain ⟨⟨sid, db₂⟩, -, h₂⟩ := bind_eq_ok.1 h₁
            cases h₂
            exact processed_writes _

theorem closeOrder_writes {o : PaymentOrder} {status : PaymentStatus} {db₁ : Database}
    (h : closeOrder now db₁ e eventId orderId o status = .ok (r, db')) :
    WritesEventOnly db db' eventId := by
  obtain ⟨⟨o', changed⟩, -, h₁⟩ := bind_eq_ok.1 h
  cases h₁
  exact processed_writes _

theorem resolveOther_writes (h : resolveOther now db e eventId = .ok (r, db')) :
    WritesEventOnly db db' eventId := by
  have hun : ∀ attempt orderId o status,
      processUnsuccessful now db e eventId attempt orderId o status = .ok (r, db') →
      WritesEventOnly db db' eventId := by
    intro attempt orderId o status h
    unfold processUnsuccessful at h
    split at h
    · exact closeOrder_writes h
    · dsimp only at h
      split_ifs at h
      · cases h
        exact saveEvent_writes _
      · obtain ⟨db₁, -, h₁⟩ := bind_eq_ok.1 h
        exact closeOrder_writes h₁
  unfold resolveOther at h
  split at h
  · cases h
    exact saveEvent_writes _
  · split at h
    · exact hun _ _ _ _ h
    · exact hun _ _ _ _ h
    · exact hun _ _ _ _ h
    · cases h
      exact saveEvent_writes _

theorem execute_writes (h : execute now db eventId = .ok (r, db')) :
    WritesEventOnly db db' eventId := by
  unfold execute at h
  split at h
  · cases h
    exact refl_writes
  · split_ifs at h
    · cases h
      exact refl_writes
    · cases h
      exact refl_writes
    · have hr : (processRefund now db _ eventId).2 = db' := congrArg Prod.snd (Except.ok.inj h)
      rw [← hr]
      exact processRefund_writes
    · exact resolvePaid_writes h
    · exact resolveOther_writes h

end ProcessPayment

namespace System

variable {settings : Settings} {s s' : System} {cmd : Command}

theorem Reachable.settled (h : Reachable settings s) : s.db.billingLedger.Settled := by
  refine Transition.Reachable.invariant (fun s : System => s.db.billingLedger.Settled)
    (fun s hs k o ho => ?_) ?_ h
  · change s.db.paymentOrders[k]? = some o at ho
    rw [hs] at ho
    cases ho
  · rintro s s' hr hsettled ⟨cmd, hcmd⟩
    exact (exec_evolves (Reachable.inv hr).1 hcmd).billing.settled hsettled

/-- Every paid order is marked as settled by hand or justified by a processed event, only an
administrator sets the mark, and a dismissed event changes its own row only. -/
theorem settlement_soundness (h : Reachable settings s) :
    (∀ (k : ℕ) (o : PaymentOrder), s.db.paymentOrders[k]? = some o → o.status = .paid →
      o.manuallySettled = true ∨ s.db.billingLedger.Justified k o) ∧
    (∀ (cmd : Command) (s' : System) (k : ℕ) (o' : PaymentOrder), s.exec settings cmd = some s' →
      s'.db.paymentOrders[k]? = some o' → o'.manuallySettled = true →
      (∃ now, cmd = .markPaymentOrderPaid k now) ∨
        ∃ o, s.db.paymentOrders[k]? = some o ∧ o.manuallySettled = true) ∧
    (∀ (now : DateTime) (eventId : ℕ) (r : PaymentResult) (db' : Database),
      ProcessPayment.execute now s.db eventId = .ok (r, db') →
      ProcessPayment.WritesEventOnly s.db db' eventId) := by
  refine ⟨h.settled, fun cmd s' k o' hcmd ho' hm => ?_,
    fun now eventId r db' hr => ProcessPayment.execute_writes hr⟩
  refine ((exec_evolves h.inv.1 hcmd).billing.manual ho' hm).imp_left fun hadmin => ?_
  cases cmd with
  | markPaymentOrderPaid orderId now =>
    obtain rfl : k = orderId := hadmin
    exact ⟨now, rfl⟩
  | _ => exact hadmin.elim

theorem settlement_soundness_shop : ∃ o,
    ((shop nodeEndpoint).after shopSettings (buy 0 month 0 "month" 0)).db.paymentOrders[0]? = some o ∧
      o.status = .paid ∧ ((shop nodeEndpoint).after shopSettings
        (buy 0 month 0 "month" 0)).db.billingLedger.Justified 0 o := by
  have hr : Reachable shopSettings
      ((shop nodeEndpoint).after shopSettings (buy 0 month 0 "month" 0)) :=
    .after (shop_initial _) (by decide +kernel)
  obtain ⟨o, ho, hcond⟩ := (Option.any_eq_true _ _).1
    (show (((shop nodeEndpoint).after shopSettings
      (buy 0 month 0 "month" 0)).db.paymentOrders[0]?).any
        (fun o => o.status = .paid && !o.manuallySettled) = true by decide +kernel)
  simp only [Bool.and_eq_true, decide_eq_true_eq, Bool.not_eq_true'] at hcond
  refine ⟨o, ho, hcond.1, ((settlement_soundness hr).1 0 o ho hcond.1).resolve_left ?_⟩
  rw [hcond.2]
  exact Bool.false_ne_true

end System

end ShopBot
