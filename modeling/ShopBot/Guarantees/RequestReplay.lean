import Mathlib.Tactic.Linarith
import ShopBot.NodeAgent.Auth

/-! # Replayed requests

A nonce is remembered from the moment of acceptance, but a request is fresh around the
moment of signing. So a request that is accepted after it was signed can not be accepted
again, and one that is accepted no later than it was signed can.
-/

namespace ShopBot

open Auth

namespace AuthAgent

variable {lib : Primitives} {tolerance : ℤ} {a a' a'' : AuthAgent} {r r' : SignedRequest}
  {v v' : VerifiedNodeRequest}

/-- What an authenticated request carries. -/
theorem authenticate_eq_ok (h : authenticate lib tolerance r = .ok v) :
    v.nodeId = header r.headers nodeIdHeader ∧ v.nonce = header r.headers nonceHeader ∧
      parseTimestamp lib (header r.headers timestampHeader) = .ok v.timestamp ∧
      |r.now - v.timestamp| ≤ seconds tolerance := by
  unfold authenticate at h
  dsimp only at h
  split_ifs at h
  cases ht : parseTimestamp lib (header r.headers timestampHeader) with
  | error e =>
    rw [ht] at h
    cases h
  | ok t =>
    rw [ht] at h
    change authenticateAt lib tolerance r t = .ok v at h
    unfold authenticateAt at h
    dsimp only at h
    split_ifs at h with hskew
    cases h
    exact ⟨rfl, rfl, rfl, not_lt.1 hskew⟩

/-- The clock matters to the tolerance only. -/
theorem authenticate_at (h : authenticate lib tolerance r = .ok v) {now : DateTime}
    (hnow : |now - v.timestamp| ≤ seconds tolerance) :
    authenticate lib tolerance { r with now := now } = .ok v := by
  unfold authenticate at h ⊢
  dsimp only at h ⊢
  split_ifs at h ⊢
  cases ht : parseTimestamp lib (header r.headers timestampHeader) with
  | error e =>
    rw [ht] at h
    cases h
  | ok t =>
    rw [ht] at h
    change authenticateAt lib tolerance r t = .ok v at h
    change authenticateAt lib tolerance { r with now := now } t = .ok v
    unfold authenticateAt at h ⊢
    dsimp only at h ⊢
    split_ifs at h with hskew hascii hsignature
    cases h
    rw [if_neg (not_lt.2 hnow), if_neg hascii, if_neg hsignature]

theorem verify_eq_ok : (a.verify lib tolerance r).1 = .ok v ↔
    authenticate lib tolerance r = .ok v ∧ (ExpiringMemory.remember (seconds tolerance) a.store
      (nonceKey v.nodeId v.nonce) r.now).1 = true := by
  unfold verify verifySignedRequest
  cases hauth : authenticate lib tolerance r with
  | error e => simp
  | ok u =>
    dsimp only
    constructor
    · intro h
      split at h
      next s hs =>
        cases h
        exact ⟨rfl, by rw [hs]⟩
      next => cases h
    · rintro ⟨hv, hr⟩
      cases hv
      split
      next => rfl
      next s hs =>
        rw [hs] at hr
        cases hr

/-- A request that is not accepted leaves the store as it was, or forgets what has expired. -/
theorem verify_store (h : authenticate lib tolerance r = .ok v) :
    (a.verify lib tolerance r).2 = (ExpiringMemory.remember (seconds tolerance) a.store
      (nonceKey v.nodeId v.nonce) r.now).2 := by
  unfold verify verifySignedRequest
  rw [h]
  dsimp only
  split
  next s hs => rw [hs]
  next s hs => rw [hs]

/-! ## The nonce is remembered -/

theorem exec_eq_some : a.exec lib tolerance r = some a' ↔
    a.clock ≤ r.now ∧ a' = { store := (a.verify lib tolerance r).2, clock := r.now } := by
  unfold exec
  split_ifs with h
  · simp [not_le.2 h]
  · simp [not_lt.1 h, eq_comm]

/-- The key is refused for as long as the clock has not reached `expiry`. -/
def Remembers (a : AuthAgent) (key : String) (expiry : DateTime) : Prop :=
  a.clock < expiry → ExpiringMemory.HeldUntil a.store key expiry

theorem Remembers.step {key : String} {expiry : DateTime} (h : a.Remembers key expiry)
    (hstep : Step lib tolerance a a') : a'.Remembers key expiry := by
  obtain ⟨r, hr⟩ := hstep
  obtain ⟨hclock, rfl⟩ := exec_eq_some.1 hr
  intro hlt
  have hheld := h (lt_of_le_of_lt hclock hlt)
  dsimp only at hlt ⊢
  cases hauth : authenticate lib tolerance r with
  | error e =>
    simpa only [verify, verifySignedRequest, hauth] using hheld
  | ok v =>
    rw [verify_store hauth]
    exact hheld.remember hlt

theorem Remembers.refuses {expiry : DateTime} {v : VerifiedNodeRequest}
    (h : a.Remembers (nonceKey v.nodeId v.nonce) expiry) (hnow : r.now < expiry) :
    ¬ a.Accepts lib tolerance r v := by
  rintro ⟨hclock, hok⟩
  have hheld := h (lt_of_le_of_lt hclock hnow)
  have hnew := (verify_eq_ok.1 hok).2
  rw [ExpiringMemory.remember_of_held hheld hnow] at hnew
  cases hnew

/-- An accepted nonce is remembered for the time to live. -/
theorem Accepts.remembers (h : a.Accepts lib tolerance r v)
    (ha' : a.exec lib tolerance r = some a') :
    a'.store (nonceKey v.nodeId v.nonce) = some (r.now + seconds tolerance) := by
  obtain ⟨-, hok⟩ := h
  obtain ⟨-, rfl⟩ := exec_eq_some.1 ha'
  obtain ⟨hauth, hnew⟩ := verify_eq_ok.1 hok
  dsimp only
  rw [verify_store hauth]
  exact ExpiringMemory.remember_new hnew

/-! ## Replays -/

/-- Once a request has been accepted, no later one with its node, nonce and timestamp is,
exactly when its timestamp lies before its acceptance. -/
theorem replay_refused_iff (hr : a.Accepts lib tolerance r v)
    (ha' : a.exec lib tolerance r = some a') :
    (∀ a'' r' v', Relation.ReflTransGen (Step lib tolerance) a' a'' →
        header r'.headers nodeIdHeader = header r.headers nodeIdHeader →
        header r'.headers nonceHeader = header r.headers nonceHeader →
        header r'.headers timestampHeader = header r.headers timestampHeader →
        ¬ a''.Accepts lib tolerance r' v') ↔
      v.timestamp < r.now := by
  obtain ⟨hauth, -⟩ := verify_eq_ok.1 hr.2
  obtain ⟨hnode, hnonce, htime, hskew⟩ := authenticate_eq_ok hauth
  have hstore := hr.remembers ha'
  obtain ⟨-, hrun⟩ := exec_eq_some.1 ha'
  rw [abs_le] at hskew
  constructor
  · intro hsafe
    by_contra hlate
    -- the request itself, when its nonce has just been forgotten
    have hagain : authenticate lib tolerance { r with now := r.now + seconds tolerance } =
        .ok v := authenticate_at hauth (by rw [abs_le]; constructor <;> linarith)
    refine hsafe a' { r with now := r.now + seconds tolerance } v .refl rfl rfl rfl ⟨?_, ?_⟩
    · rw [hrun]
      dsimp only
      linarith
    · exact verify_eq_ok.2 ⟨hagain, ExpiringMemory.remember_of_expired hstore le_rfl⟩
  · intro hearly a'' r' v' hsteps hnode' hnonce' htime' hacc
    obtain ⟨hauth', -⟩ := verify_eq_ok.1 hacc.2
    obtain ⟨hn', ho', ht', hskew'⟩ := authenticate_eq_ok hauth'
    have hkey : nonceKey v'.nodeId v'.nonce = nonceKey v.nodeId v.nonce := by
      rw [hn', ho', hnode', hnonce', ← hnode, ← hnonce]
    have htimestamp : v'.timestamp = v.timestamp := by
      rw [htime', htime] at ht'
      exact (Except.ok.inj ht').symm
    have hheld : a'.Remembers (nonceKey v.nodeId v.nonce) (r.now + seconds tolerance) :=
      fun _ => ⟨_, hstore, le_rfl⟩
    have hkept := Transition.preserves_run
      (fun a => a.Remembers (nonceKey v.nodeId v.nonce) (r.now + seconds tolerance))
      (fun _ _ h hs => h.step hs) hsteps hheld
    rw [← hkey] at hkept
    refine hkept.refuses ?_ hacc
    rw [abs_le, htimestamp] at hskew'
    linarith

/-- The digests and the timestamp of the request below. -/
def healthPrimitives : Primitives where
  sha256 _ := "e3b0c44298fc1c149afbf4c8996fb92427ae41e4649b934ca495991b7852b855"
  hmacSha256 _ _ := "7469e85c3dd958bddb1c837cd89f23c560614f926e8f3a5dadc3a35642bb71da"
  upper text := .ofList (text.toList.map Char.toUpper)
  fromIsoFormat text := if text = "2026-04-25T12:01:00+00:00" then
    some { wall := 1777118460000000, utcoffset := some 0 } else none
  isoFormat _ := "2026-04-25T12:01:00+00:00"

/-- A request signed a minute after noon that reaches the agent `delay` seconds after noon. -/
def healthRequest (delay : ℤ) : SignedRequest where
  method := "GET"
  path := "/agent/health"
  body := []
  headers := buildSignedHeaders healthPrimitives "de-1" "default" "super-secret" "GET"
    "/agent/health" [] "health:1" "2026-04-25T12:01:00Z" "nonce-1"
  expectedNodeId := "de-1"
  expectedKeyId := "default"
  sharedSecret := "super-secret"
  now := 1777118400000000 + seconds delay

/-- An agent that has just been started. -/
def started : AuthAgent where
  store _ := none
  clock := 1777118400000000

theorem healthRequest_accepted (a : AuthAgent) (delay : ℤ)
    (hclock : a.clock ≤ (healthRequest delay).now)
    (h : (a.verify healthPrimitives 90 (healthRequest delay)).1.toOption.isSome = true) :
    ∃ v, a.Accepts healthPrimitives 90 (healthRequest delay) v := by
  cases hv : (a.verify healthPrimitives 90 (healthRequest delay)).1 with
  | error e =>
    rw [hv] at h
    cases h
  | ok v => exact ⟨v, hclock, hv⟩

/-- A request that arrives a minute after it was signed is never accepted again. -/
theorem replay_refused_iff_late : ∃ a v,
    started.exec healthPrimitives 90 (healthRequest 120) = some a ∧
      started.Accepts healthPrimitives 90 (healthRequest 120) v ∧
      ∀ a' v', Relation.ReflTransGen (Step healthPrimitives 90) a a' →
        ∀ delay, ¬ a'.Accepts healthPrimitives 90 (healthRequest delay) v' := by
  obtain ⟨v, hv⟩ := healthRequest_accepted started 120 (by decide) (by decide +kernel)
  have hexec : started.exec healthPrimitives 90 (healthRequest 120) = some _ :=
    exec_eq_some.2 ⟨hv.1, rfl⟩
  refine ⟨_, v, hexec, hv, fun a' v' hsteps delay => ?_⟩
  refine (replay_refused_iff hv hexec).2 ?_ a' (healthRequest delay) v' hsteps rfl rfl rfl
  obtain ⟨-, -, ht, -⟩ := authenticate_eq_ok (verify_eq_ok.1 hv.2).1
  have hsigned : parseTimestamp healthPrimitives
      (header (healthRequest 120).headers timestampHeader) = .ok 1777118460000000 := by
    decide +kernel
  rw [hsigned] at ht
  rw [← Except.ok.inj ht]
  decide

/-- The request is accepted at noon, and again when its nonce has been forgotten. -/
theorem request_is_replayed : ∃ a v v', started.Initial ∧
    started.exec healthPrimitives 90 (healthRequest 0) = some a ∧
      started.Accepts healthPrimitives 90 (healthRequest 0) v ∧
      a.Accepts healthPrimitives 90 (healthRequest 90) v' := by
  obtain ⟨v, hv⟩ := healthRequest_accepted started 0 (by decide) (by decide +kernel)
  obtain ⟨v', hv'⟩ := healthRequest_accepted {
    store := (started.verify healthPrimitives 90 (healthRequest 0)).2
    clock := (healthRequest 0).now } 90 (by decide) (by decide +kernel)
  exact ⟨_, v, v', rfl, exec_eq_some.2 ⟨hv.1, rfl⟩, hv, hv'⟩

end AuthAgent

end ShopBot
