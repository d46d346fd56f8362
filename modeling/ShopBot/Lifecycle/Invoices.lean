import ShopBot.Lifecycle.Billing
import ShopBot.System.Command

/-! # Invoices and the events about them

Attempts with the claims on their creation and the events linked to them. An attempt in
creation has no invoice, only invoices are linked by events, and an open claim has its own
attempt, which is still in creation or was abandoned.
-/

namespace ShopBot

open Relation

structure Invoices where
  attempts : List PaymentAttempt
  events : List PaymentEvent
  claims : List InvoiceClaim

namespace Invoices

/-- An event about no attempt, or about the attempt with its invoice. -/
def Linked (attempts : List PaymentAttempt) (e : PaymentEvent) : Prop :=
  (e.paymentAttemptId = none ∧ e.paymentOrderId = none) ∨
  ∃ (j : ℕ) (a : PaymentAttempt), attempts[j]? = some a ∧ e.paymentAttemptId = some j ∧
    e.paymentOrderId = some a.paymentOrderId ∧ a.providerPaymentId.isSome = true

/-- One change of the attempts, the events or the claims. -/
inductive Step (b : Invoices) : Invoices → Prop where
  | fail (j : ℕ) (a : PaymentAttempt) (now : DateTime) (diagnostic : String)
      (row : b.attempts[j]? = some a) (created : a.status = .created) :
      Step b { b with attempts := b.attempts.set j (a.failCreation now diagnostic) }

  | claim (a : PaymentAttempt) (w : InvoiceClaim) (status : a.status = .created)
      (invoice : a.providerPaymentId = none) (token : a.creationLeaseToken = some w.token)
      (provider : a.provider = w.prepared.order.provider)
      (fresh : w.prepared.attemptId = b.attempts.length) :
      Step b { b with attempts := b.attempts ++ [a], claims := b.claims ++ [w] }

  | finalize (i : ℕ) (w : InvoiceClaim) (a a' : PaymentAttempt) (status : PaymentStatus)
      (id : String) (url : Option String) (payload : Payload) (now : DateTime)
      (claim : b.claims[i]? = some w) (unfinished : w.finished = false)
      (row : b.attempts[w.prepared.attemptId]? = some a)
      (final : a.finalizeCreation status id url payload now = .ok a') :
      Step b { b with
        attempts := b.attempts.set w.prepared.attemptId a'
        claims := b.claims.set i { w with finished := true } }

  | release (i : ℕ) (w : InvoiceClaim) (claim : b.claims[i]? = some w) :
      Step b { b with claims := b.claims.set i { w with finished := true } }

  | receive (e : PaymentEvent) (linked : Linked b.attempts e) :
      Step b { b with events := b.events ++ [e] }

  | close (i : ℕ) (e e' : PaymentEvent) (row : b.events[i]? = some e)
      (report : e'.report = e.report) :
      Step b { b with events := b.events.set i e' }

  /-- The status that an event reports reaches its attempt. -/
  | apply (i j : ℕ) (e : PaymentEvent) (a : PaymentAttempt) (status : PaymentStatus)
      (payload : Payload) (event : b.events[i]? = some e) (link : e.paymentAttemptId = some j)
      (row : b.attempts[j]? = some a) (reported : status ≠ .created) :
      Step b { b with attempts := b.attempts.set j { a with status := status, payload := payload } }

abbrev Run : Invoices → Invoices → Prop := ReflTransGen Step

/-- The attempt of an open claim. -/
def Claimed (attempts : List PaymentAttempt) (w : InvoiceClaim) : Prop :=
  ∃ a : PaymentAttempt, attempts[w.prepared.attemptId]? = some a ∧ a.providerPaymentId = none ∧
    a.provider = w.prepared.order.provider ∧
    (a.status = .created ∧ a.creationLeaseToken = some w.token ∨ a.status = .failed)

structure Inv (b : Invoices) : Prop where
  created : ∀ a ∈ b.attempts, a.status = .created → a.providerPaymentId = none
  linked : ∀ e ∈ b.events, Linked b.attempts e
  claimed : ∀ w ∈ b.claims, w.finished = false → Claimed b.attempts w
  present : ∀ w ∈ b.claims, w.prepared.attemptId < b.attempts.length
  distinct : (b.claims.map (·.prepared.attemptId)).Nodup

variable {b b' : Invoices} {attempts : List PaymentAttempt} {a a' : PaymentAttempt}
  {e e' : PaymentEvent} {w w' : InvoiceClaim} {i j : ℕ}

/-! ## Links and claims while the attempts change -/

theorem Linked.append (h : Linked attempts e) : Linked (attempts ++ [a]) e := by
  refine h.imp_right ?_
  rintro ⟨j, a, hrow, hlink⟩
  exact ⟨j, a, (List.getElem?_append_left (List.getElem?_eq_some_iff.1 hrow).1).trans hrow, hlink⟩

theorem Linked.set (h : Linked attempts e) (hrow : attempts[j]? = some a)
    (horder : a'.paymentOrderId = a.paymentOrderId)
    (hinvoice : a.providerPaymentId.isSome = true → a'.providerPaymentId.isSome = true) :
    Linked (attempts.set j a') e := by
  refine h.imp_right ?_
  rintro ⟨k, c, hk, hlink, hsame, hsome⟩
  have hset : (attempts.set j a')[k]? = _ := congrFun (Table.getElem?_set hrow) k
  by_cases hkj : k = j
  · subst hkj
    obtain rfl := Option.some.inj (hrow.symm.trans hk)
    rw [Function.update_self] at hset
    exact ⟨k, a', hset, hlink, by rw [hsame, horder], hinvoice hsome⟩
  · rw [Function.update_of_ne hkj] at hset
    exact ⟨k, c, hset.trans hk, hlink, hsame, hsome⟩

theorem Linked.report (h : Linked attempts e) (hr : e'.report = e.report) : Linked attempts e' := by
  have hattempt : e'.paymentAttemptId = e.paymentAttemptId := congrArg (·.paymentAttemptId) hr
  have horder : e'.paymentOrderId = e.paymentOrderId := congrArg (·.paymentOrderId) hr
  unfold Linked
  rwa [hattempt, horder]

theorem Claimed.append (h : Claimed attempts w) : Claimed (attempts ++ [a]) w := by
  obtain ⟨c, hrow, hc⟩ := h
  exact ⟨c, (List.getElem?_append_left (List.getElem?_eq_some_iff.1 hrow).1).trans hrow, hc⟩

theorem Claimed.set (h : Claimed attempts w) (hrow : attempts[j]? = some a)
    (hown : w.prepared.attemptId = j → a.providerPaymentId = none →
      a'.providerPaymentId = none ∧ a'.provider = a.provider ∧ a'.status = .failed) :
    Claimed (attempts.set j a') w := by
  obtain ⟨c, hc, hinvoice, hprovider, hstatus⟩ := h
  have hset : (attempts.set j a')[w.prepared.attemptId]? = _ :=
    congrFun (Table.getElem?_set hrow) _
  by_cases hj : w.prepared.attemptId = j
  · subst hj
    rw [Function.update_self] at hset
    obtain rfl := Option.some.inj (hrow.symm.trans hc)
    obtain ⟨hnone, hsame, hfailed⟩ := hown rfl hinvoice
    exact ⟨a', hset, hnone, hsame.trans hprovider, .inr hfailed⟩
  · rw [Function.update_of_ne hj] at hset
    exact ⟨c, hset.trans hc, hinvoice, hprovider, hstatus⟩

theorem failCreation_fields {now : DateTime} {diagnostic : String} (hs : a.status = .created) :
    (a.failCreation now diagnostic).status = .failed ∧
      (a.failCreation now diagnostic).providerPaymentId = a.providerPaymentId ∧
      (a.failCreation now diagnostic).paymentOrderId = a.paymentOrderId ∧
      (a.failCreation now diagnostic).provider = a.provider := by
  unfold PaymentAttempt.failCreation
  rw [if_neg (not_not.2 hs)]
  exact ⟨rfl, rfl, rfl, rfl⟩

theorem created_of_owns {token : Uuid} (h : a.ownsCreationClaim token = true) :
    a.status = .created := by
  simp only [PaymentAttempt.ownsCreationClaim, Bool.and_eq_true, decide_eq_true_eq] at h
  exact h.1

theorem finalizeCreation_fields {status : PaymentStatus} {id : String} {url : Option String}
    {payload : Payload} {now : DateTime}
    (h : a.finalizeCreation status id url payload now = .ok a') :
    a.status = .created ∧ status ≠ .created ∧ a'.status = status ∧
      a'.providerPaymentId = some id ∧ a'.paymentOrderId = a.paymentOrderId ∧
      a'.provider = a.provider := by
  unfold PaymentAttempt.finalizeCreation at h
  split_ifs at h with hs hstatus
  cases h
  exact ⟨not_not.1 hs, hstatus, rfl, rfl, rfl, rfl⟩

/-! ## Runs -/

/-- Writing an attempt whose links and claims stay as they were. -/
theorem Inv.set (hinv : b.Inv) (hrow : b.attempts[j]? = some a)
    (hcreated : a'.status = .created → a'.providerPaymentId = none)
    (horder : a'.paymentOrderId = a.paymentOrderId)
    (hinvoice : a.providerPaymentId.isSome = true → a'.providerPaymentId.isSome = true)
    (hown : ∀ w ∈ b.claims, w.finished = false → w.prepared.attemptId = j →
      a.providerPaymentId = none →
      a'.providerPaymentId = none ∧ a'.provider = a.provider ∧ a'.status = .failed) :
    Inv { b with attempts := b.attempts.set j a' } where
  created c hc := by
    rcases List.mem_or_eq_of_mem_set hc with hold | rfl
    · exact hinv.created c hold
    · exact hcreated
  linked e he := (hinv.linked e he).set hrow horder hinvoice
  claimed w hw hunfinished := (hinv.claimed w hw hunfinished).set hrow (hown w hw hunfinished)
  present w hw := by
    rw [List.length_set]
    exact hinv.present w hw
  distinct := hinv.distinct

/-- A claim that is finished needs its attempt no longer. -/
theorem Inv.finish (hinv : b.Inv) (hclaim : b.claims[i]? = some w) :
    Inv { b with claims := b.claims.set i { w with finished := true } } := by
  have hmem : ∀ w' ∈ b.claims.set i { w with finished := true },
      w' ∈ b.claims ∨ w' = { w with finished := true } := fun w' hw' =>
    List.mem_or_eq_of_mem_set hw'
  refine ⟨hinv.created, hinv.linked, ?_, ?_, ?_⟩
  · intro w' hw' hunfinished
    rcases hmem w' hw' with hold | rfl
    · exact hinv.claimed w' hold hunfinished
    · cases hunfinished
  · intro w' hw'
    rcases hmem w' hw' with hold | rfl
    · exact hinv.present w' hold
    · exact hinv.present w (List.mem_of_getElem? hclaim)
  · change ((b.claims.set i { w with finished := true }).map (·.prepared.attemptId)).Nodup
    rw [Table.map_set hclaim (by rfl)]
    exact hinv.distinct

/-- Different claims have different attempts. -/
theorem Inv.claim_unique (hinv : b.Inv) (hclaim : b.claims[i]? = some w) (hw' : w' ∈ b.claims)
    (hsame : w'.prepared.attemptId = w.prepared.attemptId) : w' = w := by
  obtain ⟨k, hk⟩ := List.getElem?_of_mem hw'
  have hki : k = i := by
    have hlt := (List.getElem?_eq_some_iff.1 hk).1
    refine (List.getElem?_inj (by simpa using hlt) hinv.distinct).1 ?_
    rw [List.getElem?_map, List.getElem?_map, hk, hclaim, Option.map_some, Option.map_some, hsame]
  subst hki
  exact Option.some.inj (hk.symm.trans hclaim)

theorem Inv.append (hinv : b.Inv) (hstatus : a.status = .created)
    (hinvoice : a.providerPaymentId = none) (htoken : a.creationLeaseToken = some w.token)
    (hprovider : a.provider = w.prepared.order.provider)
    (hfresh : w.prepared.attemptId = b.attempts.length) :
    Inv { b with attempts := b.attempts ++ [a], claims := b.claims ++ [w] } := by
  refine ⟨?_, fun e he => (hinv.linked e he).append, ?_, ?_, ?_⟩
  · intro c hc hs
    rcases List.mem_append.1 hc with hold | hnew
    · exact hinv.created c hold hs
    · obtain rfl := List.mem_singleton.1 hnew
      exact hinvoice
  · intro w' hw' hunfinished
    rcases List.mem_append.1 hw' with hold | hnew
    · exact (hinv.claimed w' hold hunfinished).append
    · obtain rfl := List.mem_singleton.1 hnew
      exact ⟨a, by rw [hfresh]; simp, hinvoice, hprovider, .inl ⟨hstatus, htoken⟩⟩
  · intro w' hw'
    rw [List.length_append, List.length_singleton]
    rcases List.mem_append.1 hw' with hold | hnew
    · exact Nat.lt_succ_of_lt (hinv.present w' hold)
    · obtain rfl := List.mem_singleton.1 hnew
      rw [hfresh]
      exact Nat.lt_succ_self _
  · rw [List.map_append, List.nodup_append]
    refine ⟨hinv.distinct, by simp, ?_⟩
    intro id hid id' hid' heq
    obtain ⟨w', hw', rfl⟩ := List.mem_map.1 hid
    obtain rfl : id' = w.prepared.attemptId := List.mem_singleton.1 hid'
    have hlt := hinv.present w' hw'
    rw [heq, hfresh] at hlt
    exact absurd hlt (Nat.lt_irrefl _)

theorem Step.inv (h : Step b b') (hinv : b.Inv) : b'.Inv := by
  cases h with
  | fail j a now diagnostic row created =>
    obtain ⟨hstatus, hid, horder, hprovider⟩ :
        (a.failCreation now diagnostic).status = .failed ∧ _ := failCreation_fields created
    have hnone := hinv.created a (List.mem_of_getElem? row) created
    rw [← hid] at hnone
    refine hinv.set row (fun _ => hnone) horder (fun hsome => ?_) fun _ _ _ _ _ =>
      ⟨hnone, hprovider, hstatus⟩
    rwa [hid]
  | claim a w status invoice token provider fresh =>
    exact hinv.append status invoice token provider fresh
  | finalize i w a a' status id url payload now claim unfinished row final =>
    obtain ⟨-, hne, hstatus, hid, horder, -⟩ := finalizeCreation_fields final
    refine (hinv.finish claim).set row (fun hs => absurd (hstatus.symm.trans hs) hne) horder
      (fun _ => by rw [hid]; rfl) ?_
    -- the claim that owned the attempt is finished now
    intro w' hw' hunfinished hsame
    have hi := (List.getElem?_eq_some_iff.1 claim).1
    have hdone := (hinv.finish claim).claim_unique (List.getElem?_set_self hi) hw' hsame
    rw [hdone] at hunfinished
    cases hunfinished
  | release i w claim => exact hinv.finish claim
  | receive e linked =>
    refine ⟨hinv.created, ?_, hinv.claimed, hinv.present, hinv.distinct⟩
    intro f hf
    rcases List.mem_append.1 hf with hold | hnew
    · exact hinv.linked f hold
    · obtain rfl := List.mem_singleton.1 hnew
      exact linked
  | close i e e' row report =>
    refine ⟨hinv.created, ?_, hinv.claimed, hinv.present, hinv.distinct⟩
    intro f hf
    rcases List.mem_or_eq_of_mem_set hf with hold | rfl
    · exact hinv.linked f hold
    · exact (hinv.linked e (List.mem_of_getElem? row)).report report
  | apply i j e a status payload event link row reported =>
    obtain ⟨hnone, -⟩ | ⟨k, c, hc, hk, -, hsome⟩ := hinv.linked e (List.mem_of_getElem? event)
    · rw [link] at hnone
      cases hnone
    · obtain rfl := Option.some.inj (link.symm.trans hk)
      obtain rfl := Option.some.inj (row.symm.trans hc)
      refine hinv.set row (fun hs => absurd hs reported) rfl id fun _ _ _ _ hnone => ?_
      rw [hnone] at hsome
      cases hsome

theorem Run.inv (h : Run b b') (hinv : b.Inv) : b'.Inv :=
  Transition.preserves_run Inv (fun _ _ hinv hstep => hstep.inv hinv) h hinv

end Invoices

end ShopBot
