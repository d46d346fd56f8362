import ShopBot.Persistence.Scheduling
import ShopBot.Refinement.Transaction
import ShopBot.UseCases.ProvisionVpn
import ShopBot.UseCases.RevokeVpn

/-! # Plans only insert tasks

Neither plan writes a task that exists: the ledgers grow by tasks that are pending, have
never been attempted and are owned by no worker.
-/

namespace ShopBot

namespace Database

/-- The rows grow by new rows that satisfy a condition. -/
def Grown {α : Type} (new : α → Prop) (rows rows' : List α) : Prop :=
  ∃ added, rows' = rows ++ added ∧ ∀ t ∈ added, new t

theorem Grown.refl {α : Type} {new : α → Prop} {rows : List α} : Grown new rows rows :=
  ⟨[], by simp, by simp⟩

theorem Grown.one {α : Type} {new : α → Prop} {rows : List α} {t : α} (h : new t) :
    Grown new rows (rows ++ [t]) :=
  ⟨[t], rfl, by simpa using h⟩

theorem Grown.trans {α : Type} {new : α → Prop} {rows rows₁ rows₂ : List α}
    (h : Grown new rows rows₁) (h' : Grown new rows₁ rows₂) : Grown new rows rows₂ := by
  obtain ⟨added, rfl, hnew⟩ := h
  obtain ⟨added', rfl, hnew'⟩ := h'
  refine ⟨added ++ added', by simp, fun t ht => ?_⟩
  rcases List.mem_append.1 ht with ht | ht
  · exact hnew t ht
  · exact hnew' t ht

/-- The ledgers after a transaction that inserts tasks and writes none. -/
structure Inserted (mapper : RowMapper) (db db' : Database) : Prop where
  nodeTasks : Grown (fun t : NodeTask => t.Fresh) db.nodeTasks db'.nodeTasks
  nodeTaskAttempts : db'.nodeTaskAttempts = db.nodeTaskAttempts
  panelProvisionTasks : Grown (fun t : PanelProvisionTask =>
    t.Fresh ∧ t.compensationRequired = false) db.panelProvisionTasks db'.panelProvisionTasks
  panelRevokeTasks : Grown (fun t : PanelRevokeTask => t.Fresh)
    db.panelRevokeTasks db'.panelRevokeTasks
  scheduled : Scheduled mapper db → Scheduled mapper db'

variable {mapper : RowMapper} {db db₁ db' : Database}

theorem Inserted.refl (db : Database) : Inserted mapper db db :=
  ⟨.refl, rfl, .refl, .refl, id⟩

theorem Inserted.trans (h : Inserted mapper db db₁) (h' : Inserted mapper db₁ db') :
    Inserted mapper db db' :=
  ⟨h.nodeTasks.trans h'.nodeTasks, h'.nodeTaskAttempts.trans h.nodeTaskAttempts,
    h.panelProvisionTasks.trans h'.panelProvisionTasks,
    h.panelRevokeTasks.trans h'.panelRevokeTasks, h'.scheduled ∘ h.scheduled⟩

/-- The tables of tasks are the same. -/
theorem Inserted.of_eq (h₁ : db'.nodeTasks = db.nodeTasks)
    (h₂ : db'.nodeTaskAttempts = db.nodeTaskAttempts)
    (h₃ : db'.panelProvisionTasks = db.panelProvisionTasks)
    (h₄ : db'.panelRevokeTasks = db.panelRevokeTasks) : Inserted mapper db db' := by
  refine ⟨?_, h₂, ?_, ?_, fun h => ⟨?_, ?_, ?_, ?_⟩⟩
  · rw [h₁]
    exact .refl
  · rw [h₃]
    exact .refl
  · rw [h₄]
    exact .refl
  · rw [h₁]
    exact h.nodeTasks
  · rw [h₃]
    exact h.panelProvisionTasks
  · rw [h₃]
    exact h.readable
  · rw [h₄]
    exact h.panelRevokeTasks

theorem Inserted.addNodeTask {t u : NodeTask} {k : ℕ} (hnew : t.Fresh)
    (hdue : t.nextRetryAt.isSome = true) (h : db.addNodeTask t = .ok (u, k, db')) :
    Inserted mapper db db' := by
  rcases addNodeTask_ok h with ⟨rfl, -⟩ | ⟨rfl, -⟩
  · exact ⟨.one hnew, rfl, .refl, .refl, fun hs => ⟨forall_mem_concat hs.nodeTasks
      (.of_due hnew.1 hdue), hs.panelProvisionTasks, hs.readable, hs.panelRevokeTasks⟩⟩
  · exact .refl _

theorem Inserted.addPanelProvisionTask {t u : PanelProvisionTask} {k : ℕ}
    (hnew : t.Fresh) (hdue : t.nextRetryAt.isSome = true) (hcomp : t.compensationRequired = false)
    (h : db.addPanelProvisionTask mapper t = .ok (u, k, db')) : Inserted mapper db db' := by
  obtain ⟨hstored, ⟨rfl, -⟩ | ⟨rfl, -⟩⟩ := addPanelProvisionTask_ok h
  · exact ⟨.refl, rfl, .one ⟨hnew, hcomp⟩, .refl, fun hs => ⟨hs.nodeTasks, forall_mem_concat
      hs.panelProvisionTasks (.of_due hnew.1 hdue), fun _ _ => hstored, hs.panelRevokeTasks⟩⟩
  · exact .refl _

theorem Inserted.addPanelRevokeTask {t u : PanelRevokeTask} {k : ℕ} (hnew : t.Fresh)
    (hdue : t.nextRetryAt.isSome = true) (h : db.addPanelRevokeTask t = .ok (u, k, db')) :
    Inserted mapper db db' := by
  rcases addPanelRevokeTask_ok h with ⟨rfl, -⟩ | ⟨rfl, -⟩
  · exact ⟨.refl, rfl, .refl, .one hnew, fun hs => ⟨hs.nodeTasks, hs.panelProvisionTasks,
      hs.readable, forall_mem_concat hs.panelRevokeTasks (.of_due hnew.1 hdue)⟩⟩
  · exact .refl _

end Database

open Database

namespace ProvisionVpn

variable {settings : Settings} {ambient : Ambient} {db db' : Database} {id subscriptionId : ℕ}
  {c : VpnConfiguration} {e : ServerEndpoint} {plan : ProvisionPlan} {expiresAt : DateTime}

theorem createNodeTask_inserted {nodeId : ℕ}
    (h : createNodeTask settings ambient db c id nodeId e expiresAt = .ok (plan, db')) :
    Inserted settings.mapper db db' := by
  obtain ⟨⟨u, k, db₁⟩, hadd, h⟩ := bind_eq_ok.1 h
  cases h
  exact .addNodeTask ⟨rfl, rfl, rfl, rfl, rfl⟩ rfl hadd

theorem createPanelTask_inserted
    (h : createPanelTask settings ambient db c id e expiresAt = .ok (plan, db')) :
    Inserted settings.mapper db db' := by
  obtain ⟨⟨u, k, db₁⟩, hadd, h⟩ := bind_eq_ok.1 h
  cases h
  exact .addPanelProvisionTask ⟨rfl, rfl, rfl, rfl, rfl⟩ rfl rfl hadd

theorem recoverSucceededProvision_inserted {ref : Option String}
    (h : recoverSucceededProvision db c id ref = .ok (plan, db')) :
    Inserted settings.mapper db db' := by
  obtain ⟨c', -, h⟩ := bind_eq_ok.1 h
  cases h
  exact .of_eq rfl rfl rfl rfl

theorem loadOrCreateConfiguration_inserted {endpointId : ℕ}
    {latest : Option (VpnConfiguration × ℕ)} {d : VpnConfiguration} {j : ℕ}
    (h : loadOrCreateConfiguration settings ambient db subscriptionId e endpointId latest =
      .ok (d, j, db')) : Inserted settings.mapper db db' := by
  rcases loadOrCreateConfiguration_cases _ _ h with ⟨-, -, rfl⟩ | ⟨db₀, -, hadd, rfl⟩
  · exact .refl _
  · unfold addConfiguration at hadd
    split_ifs at hadd
    cases hadd
    exact .of_eq rfl rfl rfl rfl

theorem provisionNew_inserted {latest : Option (VpnConfiguration × ℕ)}
    (h : provisionNew settings ambient db subscriptionId latest expiresAt = .ok (plan, db')) :
    Inserted settings.mapper db db' := by
  unfold provisionNew at h
  split at h
  next =>
    cases h
    exact .refl _
  next =>
    obtain ⟨⟨c, id, db₁⟩, hload, h⟩ := bind_eq_ok.1 h
    have hfirst := loadOrCreateConfiguration_inserted hload
    dsimp only at h
    split at h
    next => cases h
    next =>
      split at h
      next => exact hfirst.trans (createPanelTask_inserted h)
      next => exact hfirst.trans (createNodeTask_inserted h)

theorem reuseExistingProvisioning_inserted
    (h : reuseExistingProvisioning settings ambient db c id expiresAt = .ok (plan, db')) :
    Inserted settings.mapper db db' := by
  unfold reuseExistingProvisioning at h
  split_ifs at h
  · cases h
    exact .refl _
  split at h
  next => cases h
  next =>
    split at h
    next =>
      split at h
      next => exact createNodeTask_inserted h
      next =>
        split at h
        next => exact recoverSucceededProvision_inserted h
        all_goals
          cases h
          exact .refl _
    next =>
      obtain ⟨found, -, h⟩ := bind_eq_ok.1 h
      split at h
      next => exact createPanelTask_inserted h
      next =>
        split at h
        next => exact recoverSucceededProvision_inserted h
        all_goals
          cases h
          exact .refl _

theorem preparePlan_inserted
    (h : preparePlan settings ambient db subscriptionId = .ok (plan, db')) :
    Inserted settings.mapper db db' := by
  unfold preparePlan at h
  split at h
  next =>
    cases h
    exact .refl _
  next =>
    split_ifs at h
    · cases h
      exact .refl _
    split at h
    next =>
      cases h
      exact .refl _
    next =>
      split at h
      next =>
        cases h
        exact .refl _
      next =>
        split at h
        next => exact provisionNew_inserted h
        next =>
          split at h
          next =>
            cases h
            exact .refl _
          next =>
            cases h
            exact .refl _
          next =>
            cases h
            exact .refl _
          next => exact reuseExistingProvisioning_inserted h
          next => exact provisionNew_inserted h

end ProvisionVpn

namespace RevokeVpn

variable {settings : Settings} {ambient : Ambient} {db db' : Database} {id : ℕ}
  {c : VpnConfiguration} {e : ServerEndpoint} {plan : RevokePlan}

theorem createTask_inserted (h : createTask settings ambient db c id e = .ok (plan, db')) :
    Inserted settings.mapper db db' := by
  unfold createTask at h
  split at h
  next =>
    obtain ⟨⟨u, k, db₁⟩, hadd, h⟩ := bind_eq_ok.1 h
    cases h
    exact .addPanelRevokeTask ⟨rfl, rfl, rfl, rfl, rfl⟩ rfl hadd
  next =>
    obtain ⟨⟨u, k, db₁⟩, hadd, h⟩ := bind_eq_ok.1 h
    cases h
    exact .addNodeTask ⟨rfl, rfl, rfl, rfl, rfl⟩ rfl hadd

theorem startRevoke_inserted (h : startRevoke settings ambient db c id e = .ok (plan, db')) :
    Inserted settings.mapper db db' := by
  unfold startRevoke at h
  split_ifs at h
  · cases h
    exact .refl _
  · obtain ⟨found, -, h⟩ := bind_eq_ok.1 h
    cases found with
    | none =>
      cases h
      exact .refl _
    | some c' =>
      have hsave : Inserted settings.mapper db (db.saveConfiguration id c') :=
        .of_eq rfl rfl rfl rfl
      exact hsave.trans (createTask_inserted h)

theorem existingCurrentRevokeTask_inserted
    (h : existingCurrentRevokeTask ambient db c id e = .ok (.recovered plan db')) :
    Inserted settings.mapper db db' := by
  obtain ⟨c', -, rfl⟩ := recoverSucceededRevoke_ok _ (existingCurrentRevokeTask_eq_recovered _ h).1
  exact .of_eq rfl rfl rfl rfl

theorem revokeCurrent_inserted (h : revokeCurrent settings ambient db c id e = .ok (plan, db')) :
    Inserted settings.mapper db db' := by
  obtain ⟨existing, hex, h⟩ := bind_eq_ok.1 h
  split at h
  next plan₁ db₁ =>
    cases h
    exact existingCurrentRevokeTask_inserted hex
  next =>
    split_ifs at h
    · cases h
      exact .refl _
    · cases h
      exact .refl _
    · exact startRevoke_inserted h
  next => exact startRevoke_inserted h

theorem preparePlan_inserted {reason : VpnRevokeReason}
    (h : preparePlan settings ambient db id reason = .ok (plan, db')) :
    Inserted settings.mapper db db' := by
  unfold preparePlan at h
  split at h
  next =>
    cases h
    exact .refl _
  next =>
    split_ifs at h
    · split at h
      next =>
        cases h
        exact .refl _
      next =>
        split_ifs at h
        · cases h
          exact .refl _
        · exact revokeCurrent_inserted h
    · exact revokeCurrent_inserted h

end RevokeVpn

end ShopBot
