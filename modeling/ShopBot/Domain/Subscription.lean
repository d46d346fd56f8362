import Mathlib.Order.Lattice
import ShopBot.Domain.Common

/-! # Subscriptions and paid periods

A period keeps a positive duration and an active subscription has no end. Extension
starts where the last period ends, or now when that has passed.
-/

namespace ShopBot

inductive SubscriptionStatus where
  | active

  | ended

  | cancelled

  | paused
deriving DecidableEq, Repr

def SubscriptionStatus.text : SubscriptionStatus → String
  | .active => "active"
  | .ended => "ended"
  | .cancelled => "cancelled"
  | .paused => "paused"

structure SubscriptionPeriod where
  subscriptionId : Option ℕ
  startsAt : DateTime
  expiresAt : DateTime
  starts_lt_expires : startsAt < expiresAt
  isPaid : Bool
  createdAt : DateTime
  paymentOrderId : Option ℕ := none
deriving DecidableEq, Repr

structure Subscription where
  userId : ℕ
  tariffId : ℕ
  status : SubscriptionStatus
  createdAt : DateTime
  endedAt : Option DateTime := none
  endedAt_of_active : status = .active → endedAt = none
deriving DecidableEq, Repr

namespace SubscriptionPeriod

/-- The period funds its subscription at `now`. -/
def contains (p : SubscriptionPeriod) (now : DateTime) : Bool :=
  p.isPaid && p.startsAt ≤ now && now < p.expiresAt

theorem contains_iff {p : SubscriptionPeriod} {now : DateTime} :
    p.contains now = true ↔ p.isPaid = true ∧ p.startsAt ≤ now ∧ now < p.expiresAt := by
  simp [contains, and_assoc]

end SubscriptionPeriod

namespace Subscription

variable {s : Subscription} {now : DateTime}

def start (userId tariffId : ℕ) (now : DateTime) : Subscription where
  userId := userId
  tariffId := tariffId
  status := .active
  createdAt := now
  endedAt_of_active := fun _ => rfl

def activate (s : Subscription) : Except Error Subscription :=
  if s.status = .cancelled then
    .error (.invalidStateTransition "Cancelled subscription cannot be activated")
  else
    .ok { s with status := .active, endedAt := none, endedAt_of_active := fun _ => rfl }

def expire (s : Subscription) (now : DateTime) : Subscription :=
  if s.status = .ended then s
  else { s with
    status := .ended
    endedAt := some now
    endedAt_of_active := fun h => nomatch h }

def extend (s : Subscription) (id : Option ℕ) (periodDays : ℕ) (now : DateTime)
    (lastPeriod : Option SubscriptionPeriod) :
    Except Error (Subscription × SubscriptionPeriod) :=
  if h : 0 < periodDays then do
    let s ← if s.status = .active then .ok s else s.activate
    let startsAt := match lastPeriod with
      | none => now
      | some last => max now last.expiresAt
    return (s, {
      subscriptionId := id
      startsAt := startsAt
      expiresAt := startsAt + days periodDays
      starts_lt_expires := Int.lt_add_of_pos_right _ (days_pos (Int.natCast_pos.2 h))
      isPaid := true
      createdAt := now })
  else .error (.domainValidation "Extension duration must be positive")

@[simp]
theorem start_status {userId tariffId : ℕ} : (start userId tariffId now).status = .active := rfl

theorem expire_status : (s.expire now).status = .ended := by
  unfold expire
  split_ifs with h
  · exact h
  · rfl

/-- Extending an active subscription leaves it as it is and yields a paid period of the
requested length. -/
theorem extend_eq_ok (hs : s.status = .active) {id : Option ℕ} {periodDays : ℕ}
    {last : Option SubscriptionPeriod} {r : Subscription × SubscriptionPeriod}
    (h : s.extend id periodDays now last = .ok r) :
    r.1 = s ∧ r.2.subscriptionId = id ∧ r.2.isPaid = true ∧ r.2.paymentOrderId = none ∧
      now ≤ r.2.startsAt ∧ r.2.expiresAt = r.2.startsAt + days periodDays := by
  unfold extend at h
  split_ifs at h
  obtain rfl : (s, _) = r := by simpa [pure, Except.pure, bind, Except.bind] using h
  refine ⟨rfl, rfl, rfl, rfl, ?_, rfl⟩
  cases last with
  | none => exact le_rfl
  | some last => exact le_max_left _ _

end Subscription

end ShopBot
