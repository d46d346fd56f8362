import Mathlib.Logic.Function.Basic
import ShopBot.Domain.Common

/-! # Maintenance leases

A periodic job runs under a lease that a row of the table holds for its owner. Taking the
lease inserts the row, or takes over one that has expired; only the owner can prolong it or
give it back.
-/

namespace ShopBot

structure MaintenanceLease where
  ownerToken : Uuid
  leaseExpiresAt : DateTime
  updatedAt : DateTime
deriving DecidableEq, Repr

/-- The rows of the table, by the name of the lease. -/
abbrev MaintenanceLeases := String → Option MaintenanceLease

namespace MaintenanceLeases

variable (leases : MaintenanceLeases) (leaseName : String) (ownerToken : Uuid)

/-- `acquire_lease`: one statement that inserts, or updates where the lease has expired. -/
def acquireLease (now : DateTime) (leaseSeconds : ℤ) : Bool × MaintenanceLeases :=
  let taken := Function.update leases leaseName (some {
    ownerToken := ownerToken
    leaseExpiresAt := now + seconds leaseSeconds
    updatedAt := now })
  match leases leaseName with
  | none => (true, taken)
  | some lease => if lease.leaseExpiresAt ≤ now then (true, taken) else (false, leases)

def renewLease (now : DateTime) (leaseSeconds : ℤ) : Bool × MaintenanceLeases :=
  match leases leaseName with
  | none => (false, leases)
  | some lease =>
    if lease.ownerToken = ownerToken then
      (true, Function.update leases leaseName (some { lease with
        leaseExpiresAt := now + seconds leaseSeconds
        updatedAt := now }))
    else (false, leases)

def releaseLease : Bool × MaintenanceLeases :=
  match leases leaseName with
  | none => (false, leases)
  | some lease =>
    if lease.ownerToken = ownerToken then (true, Function.update leases leaseName none)
    else (false, leases)

/-- The owner that the row names. -/
def holder : Option Uuid := (leases leaseName).map (·.ownerToken)

end MaintenanceLeases

/-- A statement on the lease table, with the owner that sends it. -/
inductive LeaseCall where
  | acquire (leaseName : String) (ownerToken : Uuid) (now : DateTime) (leaseSeconds : ℤ)

  | renew (leaseName : String) (ownerToken : Uuid) (now : DateTime) (leaseSeconds : ℤ)

  | release (leaseName : String) (ownerToken : Uuid)
deriving DecidableEq, Repr

namespace LeaseCall

def exec (leases : MaintenanceLeases) : LeaseCall → Bool × MaintenanceLeases
  | acquire leaseName ownerToken now leaseSeconds =>
      leases.acquireLease leaseName ownerToken now leaseSeconds
  | renew leaseName ownerToken now leaseSeconds =>
      leases.renewLease leaseName ownerToken now leaseSeconds
  | release leaseName ownerToken => leases.releaseLease leaseName ownerToken

/-- The table after some statements, and which of them succeeded. -/
def execAll (leases : MaintenanceLeases) : List LeaseCall → List (LeaseCall × Bool) × MaintenanceLeases
  | [] => ([], leases)
  | call :: calls =>
    let (succeeded, leases) := call.exec leases
    let (history, leases) := execAll leases calls
    ((call, succeeded) :: history, leases)

/-- The owner takes the lease with this statement. -/
def Acquires (leaseName : String) (ownerToken : Uuid) (entry : LeaseCall × Bool) : Prop :=
  entry.2 = true ∧ ∃ now leaseSeconds, entry.1 = acquire leaseName ownerToken now leaseSeconds

end LeaseCall

end ShopBot
