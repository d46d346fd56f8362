import ShopBot.Refinement.Inserts

/-! # Transactions refine lifecycles

A transaction of a use case is a run of the fleet, leaves the database well formed and
keeps what never changes about a configuration. A run of one step is read off the
writes of the transaction.
-/

namespace ShopBot

open Lifecycle

namespace Lifecycle.Aggregate

variable {S T : Type*} [DecidableEq T] {a : Aggregate S T} {r : T} {t t' : Lifecycle.Task}

theorem setTask_setTask : (a.setTask r t).setTask r t' = a.setTask r t' := by
  simp [setTask]

theorem setTask_eq_self (h : a.task r = some t) : a.setTask r t = a := by
  simp [setTask, ← h]

end Lifecycle.Aggregate

/-- A configuration that still wants what a task of the generation does. -/
def Wants (c : VpnConfiguration) (op : Operation) (generation : ℕ) : Prop :=
  generation = c.generation ∧
    match op with
    | .provision => c.desiredState = .active ∧ c.status = .provisioning
    | .revoke => c.desiredState = .revoked ∧ c.status = .revoking

theorem current_iff {db : Database} {id generation : ℕ} {c : VpnConfiguration}
    {e : ServerEndpoint} {op : Operation} {s : TaskStatus} :
    (db.aggregateOf id c e).Current ⟨op, generation, s⟩ ↔ Wants c op generation :=
  Iff.rfl

namespace Database

/-- The subscription has a current paid period. -/
def Funded (db : Database) (now : DateTime) (subscriptionId : ℕ) : Prop :=
  (db.getCurrentPeriod subscriptionId now).isSome = true

structure Refines (now : DateTime) (actors : Actor TaskRef → Prop) (db db' : Database) :
    Prop where
  wellFormed : db'.WellFormed
  billing : db'.billing = db.billing
  keeps : db.Keeps db'
  run : Fleet.Run (db.Funded now) actors db.fleet db'.fleet

variable {db db₁ db₂ : Database} {id : ℕ} {a a' : Aggregate ℕ TaskRef} {actor : Actor TaskRef}
  {actors actors' : Actor TaskRef → Prop} {now : DateTime}

theorem getCurrentPeriod_congr (h : db₁.billing = db.billing) (subscriptionId : ℕ) :
    db₁.getCurrentPeriod subscriptionId now = db.getCurrentPeriod subscriptionId now := by
  have hp : db₁.billing.subscriptionPeriods = db.billing.subscriptionPeriods := by rw [h]
  change db₁.subscriptionPeriods = db.subscriptionPeriods at hp
  unfold getCurrentPeriod
  rw [hp]

theorem funded_congr (h : db₁.billing = db.billing) : db₁.Funded now = db.Funded now := by
  funext subscriptionId
  unfold Funded
  rw [getCurrentPeriod_congr h]

theorem Refines.refl (hw : db.WellFormed) : db.Refines now actors db :=
  ⟨hw, rfl, .refl db, .refl⟩

theorem Refines.trans (h : db.Refines now actors db₁) (h' : db₁.Refines now actors db₂) :
    db.Refines now actors db₂ where
  wellFormed := h'.wellFormed
  billing := h'.billing.trans h.billing
  keeps := h.keeps.trans h'.keeps
  run := by
    have hr := h'.run
    rw [funded_congr h.billing] at hr
    exact h.run.trans hr

theorem Refines.mono (h : db.Refines now actors db₁) (hsub : ∀ x, actors x → actors' x) :
    db.Refines now actors' db₁ where
  wellFormed := h.wellFormed
  billing := h.billing
  keeps := h.keeps
  run := Relation.ReflTransGen.mono (fun _ _ ⟨x, hx, hs⟩ => ⟨x, hsub x hx, hs⟩) _ _ h.run

/-- Writes that amount to one step of the configuration. -/
theorem Wrote.refines (h : db.Wrote id a' db₁) (ha : db.fleet id = some a)
    (hs : Aggregate.Step (db.Funded now) a actor a') (hact : actors actor) :
    db.Refines now actors db₁ where
  wellFormed := h.wellFormed
  billing := h.billing
  keeps := h.keeps
  run := by
    rw [h.fleet]
    exact .single ⟨actor, hact, .transition id a a' actor ha hs⟩

/-- Writes that the lifecycle does not see. -/
theorem Wrote.refines_same (h : db.Wrote id a db₁) (ha : db.fleet id = some a) :
    db.Refines now actors db₁ where
  wellFormed := h.wellFormed
  billing := h.billing
  keeps := h.keeps
  run := by
    rw [h.fleet, ← ha, Function.update_eq_self]
    exact .refl

theorem fleet_lt (h : db.fleet id = some a) : id < db.vpnConfigurations.length := by
  obtain ⟨c, e, hc, -⟩ := fleet_eq_some.1 h
  exact (List.getElem?_eq_some_iff.1 hc).1

/-- Writes that create the next configuration of a subscription. -/
theorem Wrote.refines_create (h : db.Wrote id a db₁) (hwf : db.WellFormed)
    (hid : id = db.vpnConfigurations.length) (fresh : a.Fresh)
    (latest : ∀ (j : ℕ) (c : VpnConfiguration), db.vpnConfigurations[j]? = some c →
      c.subscriptionId = a.subscription → c.isTerminal = true ∨
        ∃ (k : ℕ) (d : VpnConfiguration), j < k ∧ db.vpnConfigurations[k]? = some d ∧
          d.subscriptionId = a.subscription)
    (hact : actors .request) : db.Refines now actors db₁ where
  wellFormed := h.wellFormed
  billing := h.billing
  keeps := h.keeps
  run := by
    rw [h.fleet]
    refine .single ⟨.request, hact, .create id a (fun j b hb => hid ▸ fleet_lt hb) fresh ?_⟩
    intro j b hb hs
    obtain ⟨c, e, hc, he, rfl⟩ := fleet_eq_some.1 hb
    rcases latest j c hc hs with ht | ⟨k, d, hjk, hd, hds⟩
    · exact .inl ht
    · obtain ⟨e', he'⟩ := hwf.endpoint k d hd
      exact .inr ⟨k, _, hjk, fleet_of_row hd he', hds⟩

end Database

end ShopBot
