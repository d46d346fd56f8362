import ShopBot.Persistence.Maintenance

/-! # Who holds a lease

The row of a lease names one owner. It comes to name another one only where that one acquires
the lease; so an owner that can renew the lease has not been displaced since it acquired it.
-/

namespace ShopBot

open LeaseCall

namespace MaintenanceLeases

variable {leases leases' : MaintenanceLeases} {name : String} {owner : Uuid} {call : LeaseCall}

theorem acquireLease_cases (leases : MaintenanceLeases) (name : String) (owner : Uuid)
    (now : DateTime) (leaseSeconds : ℤ) :
    leases.acquireLease name owner now leaseSeconds = (false, leases) ∨
      leases.acquireLease name owner now leaseSeconds = (true, Function.update leases name (some {
        ownerToken := owner
        leaseExpiresAt := now + seconds leaseSeconds
        updatedAt := now })) ∧ ∀ lease ∈ leases name, lease.leaseExpiresAt ≤ now := by
  unfold acquireLease
  cases hrow : leases name with
  | none => exact .inr ⟨rfl, by simp⟩
  | some lease =>
    dsimp only
    split_ifs with hexpired
    · exact .inr ⟨rfl, by simpa using hexpired⟩
    · exact .inl rfl

theorem renewLease_cases (leases : MaintenanceLeases) (name : String) (owner : Uuid)
    (now : DateTime) (leaseSeconds : ℤ) :
    leases.renewLease name owner now leaseSeconds = (false, leases) ∧
        leases.holder name ≠ some owner ∨
      leases.holder name = some owner ∧ ∃ lease, lease.ownerToken = owner ∧
        leases.renewLease name owner now leaseSeconds =
          (true, Function.update leases name (some lease)) := by
  unfold renewLease holder
  cases leases name with
  | none => exact .inl ⟨rfl, by simp⟩
  | some lease =>
    dsimp only
    split_ifs with howner
    · exact .inr ⟨congrArg some howner, { lease with
        leaseExpiresAt := now + seconds leaseSeconds
        updatedAt := now }, howner, rfl⟩
    · exact .inl ⟨rfl, by simpa using howner⟩

theorem releaseLease_cases (leases : MaintenanceLeases) (name : String) (owner : Uuid) :
    leases.releaseLease name owner = (false, leases) ∧ leases.holder name ≠ some owner ∨
      leases.holder name = some owner ∧
        leases.releaseLease name owner = (true, Function.update leases name none) := by
  unfold releaseLease holder
  cases leases name with
  | none => exact .inl ⟨rfl, by simp⟩
  | some lease =>
    dsimp only
    split_ifs with howner
    · exact .inr ⟨congrArg some howner, rfl⟩
    · exact .inl ⟨rfl, by simpa using howner⟩

@[simp] theorem holder_update_self (row : Option MaintenanceLease) :
    holder (Function.update leases name row) name = row.map (·.ownerToken) := by
  simp [holder]

theorem holder_update_of_ne {name' : String} (h : name ≠ name') (row : Option MaintenanceLease) :
    holder (Function.update leases name' row) name = leases.holder name := by
  simp [holder, Function.update_of_ne h]

/-- A statement after which the row names the owner either is its own acquisition, or it found
the row like that and displaced nobody. -/
theorem holder_of_exec (h : (call.exec leases).2.holder name = some owner)
    (hown : ¬ Acquires name owner (call, (call.exec leases).1)) :
    leases.holder name = some owner ∧
      ∀ other, ¬ Acquires name other (call, (call.exec leases).1) := by
  cases call with
  | acquire name' owner' now leaseSeconds =>
    obtain hexec | ⟨hexec, -⟩ := acquireLease_cases leases name' owner' now leaseSeconds
    · simp only [exec, hexec] at h ⊢
      exact ⟨h, fun other hother => by cases hother.1⟩
    · simp only [exec, hexec] at h hown ⊢
      by_cases hname : name = name'
      · subst hname
        rw [holder_update_self, Option.map_some, Option.some.injEq] at h
        subst h
        exact absurd ⟨rfl, now, leaseSeconds, rfl⟩ hown
      · rw [holder_update_of_ne hname] at h
        refine ⟨h, fun other hother => ?_⟩
        obtain ⟨-, now', leaseSeconds', heq⟩ := hother
        exact hname (LeaseCall.acquire.inj heq).1.symm
  | renew name' owner' now leaseSeconds =>
    refine ⟨?_, fun other hother => by obtain ⟨-, now', leaseSeconds', heq⟩ := hother; cases heq⟩
    obtain ⟨hexec, -⟩ | ⟨hholder, lease, howner, hexec⟩ :=
      renewLease_cases leases name' owner' now leaseSeconds
    · simpa only [exec, hexec] using h
    · simp only [exec, hexec] at h
      by_cases hname : name = name'
      · subst hname
        rw [holder_update_self, Option.map_some, howner] at h
        rw [hholder, h]
      · rwa [holder_update_of_ne hname] at h
  | release name' owner' =>
    refine ⟨?_, fun other hother => by obtain ⟨-, now', leaseSeconds', heq⟩ := hother; cases heq⟩
    obtain ⟨hexec, -⟩ | ⟨-, hexec⟩ := releaseLease_cases leases name' owner'
    · simpa only [exec, hexec] using h
    · simp only [exec, hexec] at h
      by_cases hname : name = name'
      · subst hname
        simp at h
      · rwa [holder_update_of_ne hname] at h

/-- An owner that holds the lease after some statements without having acquired it by one of them
held it before, and none of them acquired it for another owner. -/
theorem holder_of_execAll : ∀ {calls : List LeaseCall} {leases : MaintenanceLeases},
    (execAll leases calls).2.holder name = some owner →
    (∀ entry ∈ (execAll leases calls).1, ¬ Acquires name owner entry) →
    leases.holder name = some owner ∧
      ∀ entry ∈ (execAll leases calls).1, ∀ other, ¬ Acquires name other entry
  | [], _, h, _ => ⟨h, by simp [execAll]⟩
  | call :: calls, leases, h, hown => by
      have hlater : (execAll (call.exec leases).2 calls).2.holder name = some owner := h
      have hrest := holder_of_execAll hlater
        fun entry hentry => hown entry (List.mem_cons_of_mem _ hentry)
      have hstep := holder_of_exec hrest.1 (hown _ List.mem_cons_self)
      refine ⟨hstep.1, fun entry hentry => ?_⟩
      obtain rfl | hentry := List.mem_cons.1 hentry
      · exact hstep.2
      · exact hrest.2 entry hentry

/-- An owner that can renew has not been displaced since it acquired the lease. -/
theorem not_displaced_of_renew {calls : List LeaseCall} {now : DateTime} {leaseSeconds : ℤ}
    (hrenew : ((execAll leases calls).2.renewLease name owner now leaseSeconds).1 = true)
    (hown : ∀ entry ∈ (execAll leases calls).1, ¬ Acquires name owner entry) :
    leases.holder name = some owner ∧
      ∀ entry ∈ (execAll leases calls).1, ∀ other, ¬ Acquires name other entry := by
  obtain ⟨hexec, -⟩ | ⟨hholder, -⟩ :=
    renewLease_cases (execAll leases calls).2 name owner now leaseSeconds
  · rw [hexec] at hrenew
    cases hrenew
  · exact holder_of_execAll hholder hown

theorem renewLease_of_not_holder (h : leases.holder name ≠ some owner) (now : DateTime)
    (leaseSeconds : ℤ) : leases.renewLease name owner now leaseSeconds = (false, leases) := by
  obtain ⟨hexec, -⟩ | ⟨hholder, -⟩ := renewLease_cases leases name owner now leaseSeconds
  · exact hexec
  · exact absurd hholder h

theorem releaseLease_of_not_holder (h : leases.holder name ≠ some owner) :
    leases.releaseLease name owner = (false, leases) := by
  obtain ⟨hexec, -⟩ | ⟨hholder, -⟩ := releaseLease_cases leases name owner
  · exact hexec
  · exact absurd hholder h

end MaintenanceLeases

end ShopBot
