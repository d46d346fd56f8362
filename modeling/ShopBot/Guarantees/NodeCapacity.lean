import ShopBot.Guarantees.Fencing
import ShopBot.System.NodeReservations

/-! # Nodes are not oversubscribed

A configuration on a node is only inserted by a transaction that has counted the
configurations of the node under its lock. Nothing that commits before the insertion can
raise that count: configurations that have ended stay so, and others wait for the lock.
-/

namespace ShopBot

open Lifecycle Database

namespace Database

variable {db db' : Database} {now : DateTime} {admin : Billing.Actor} {actors : Actor TaskRef → Prop} {nodeId : ℕ}
  {c c' : VpnConfiguration} {e : ServerEndpoint}

theorem reserves_iff : db.reserves nodeId c = true ↔ c.isTerminal = false ∧
    ∃ e, db.serverEndpoints[c.serverEndpointId]? = some e ∧ e.nodeId = some nodeId := by
  simp only [reserves, Bool.and_eq_true, decide_eq_true_eq, mem_capacityReservingStatuses,
    Option.any_eq_true, VpnConfiguration.isTerminal]

/-- Configurations that have ended stay so. -/
theorem Evolves.terminal (h : db.Evolves now admin actors db') (hinv : db.fleet.Inv)
    (hw : db.WellFormed) {id : ℕ} (hc : db.vpnConfigurations[id]? = some c)
    (hc' : db'.vpnConfigurations[id]? = some c') (ht : c.isTerminal = true) :
    c'.isTerminal = true := by
  obtain ⟨e, -, ha⟩ := hw.row hc
  obtain ⟨e', -, ha'⟩ := h.wellFormed.row hc'
  refine Fleet.Run.invariant (fun a => a.status.isTerminal = true) (fun a a' _ _ hs hterm => ?_)
    h.run hinv ha ht ha'
  rw [hs.status_of_terminal hterm]
  exact hterm

/-- A transaction that creates no configuration on the node does not raise its count. -/
theorem Evolves.reservedClients_le (h : db.Evolves now admin actors db') (hinv : db.fleet.Inv)
    (hw : db.WellFormed) (hnew : ∀ (id : ℕ) (c : VpnConfiguration),
      db.vpnConfigurations.length ≤ id → db'.vpnConfigurations[id]? = some c →
        db'.reserves nodeId c = false) :
    db'.reservedClients nodeId ≤ db.reservedClients nodeId := by
  refine Table.countP_le_countP fun id c' hc' hr => ?_
  rcases Nat.lt_or_ge id db.vpnConfigurations.length with hlt | hge
  · have hc : db.vpnConfigurations[id]? = some db.vpnConfigurations[id] :=
      List.getElem?_eq_getElem hlt
    obtain ⟨hlive, e', he', hn⟩ := reserves_iff.1 hr
    obtain ⟨e, he⟩ := hw.endpoint id _ hc
    refine ⟨_, hc, reserves_iff.2 ⟨?_, e, he, ?_⟩⟩
    · by_contra hterm
      rw [h.terminal hinv hw hc hc' (by simpa using hterm)] at hlive
      cases hlive
    · have ho := h.keeps.owner id _ (owner_eq_some.2 ⟨_, e, hc, he, rfl⟩)
      obtain ⟨d, f, hd, hf, hown⟩ := owner_eq_some.1 ho
      obtain rfl := Option.some.inj (hc'.symm.trans hd)
      obtain rfl := Option.some.inj (he'.symm.trans hf)
      rw [Owner.mk.injEq] at hown
      rw [hown.2.1]
      exact hn
  · rw [hnew id c' hge hc'] at hr
    cases hr

/-- Inserting a configuration raises the count of its own node by one at most. -/
theorem reservedClients_insert (nodeId : ℕ) (hc : db'.vpnConfigurations = db.vpnConfigurations ++ [c])
    (he : db'.serverEndpoints = db.serverEndpoints) :
    db'.reservedClients nodeId ≤ db.reservedClients nodeId + 1 ∧
      (db.reserves nodeId c = false → db'.reservedClients nodeId = db.reservedClients nodeId) := by
  have hr : db'.reserves nodeId = db.reserves nodeId := by
    funext d
    unfold reserves
    rw [he]
  unfold reservedClients
  rw [hc, hr, List.countP_append, List.countP_singleton]
  constructor
  · split_ifs <;> omega
  · intro hno
    simp [hno]

end Database

namespace ProvisionVpn

variable {settings : Settings} {ambient : Ambient} {db : Database} {subscriptionId : ℕ}
  {c selected : NodeSelectionCandidate} {e : ServerEndpoint}

/-- A candidate shows its endpoint and what its node holds. -/
theorem mem_nodeSelectionCandidates (h : c ∈ nodeSelectionCandidates db) :
    ∃ e, db.serverEndpoints[c.endpointId]? = some e ∧ e.nodeId = some c.nodeId ∧
      c.localReservedClients = db.reservedClients c.nodeId ∧
      c.maxClients.getD 0 = db.maxClients c.nodeId := by
  obtain ⟨row, -, h⟩ := List.mem_filterMap.1 h
  obtain ⟨e, he, h⟩ := Option.bind_eq_some_iff.1 h
  obtain ⟨nodeId, hn, h⟩ := Option.bind_eq_some_iff.1 h
  obtain ⟨node, hnode, h⟩ := Option.bind_eq_some_iff.1 h
  cases h
  refine ⟨e, he, hn, ?_, ?_⟩
  · refine congrFun (congrArg List.countP (funext fun d => ?_)) _
    rw [Bool.eq_iff_iff, reserves_iff, Bool.and_eq_true, Option.any_eq_true]
    simp
  · simp [maxClients, hnode]

theorem eligible_limit {policy : NodeAvailabilityPolicy} {now : DateTime}
    (h : policy.eligible c now = true) :
    ∃ limit, c.maxClients = some limit ∧ c.localReservedClients < limit := by
  unfold NodeAvailabilityPolicy.eligible at h
  split at h
  next => cases h
  next limit hlimit =>
    split_ifs at h
    have hlt : max (c.activeClients.getD 0) c.localReservedClients < limit := of_decide_eq_true h
    exact ⟨limit, hlimit, Nat.lt_of_le_of_lt (Nat.le_max_right _ _) hlt⟩

/-- What holds when a candidate has been read again under the lock of its node. -/
theorem revalidate_ok (h : revalidate settings ambient db selected = some (c, e)) :
    c.nodeId = selected.nodeId ∧ db.serverEndpoints[c.endpointId]? = some e ∧
      e.nodeId = some c.nodeId ∧ ∃ limit, c.maxClients = some limit ∧
        db.reservedClients c.nodeId < limit ∧ limit = db.maxClients c.nodeId := by
  unfold revalidate at h
  split at h
  next => cases h
  next locked hfind =>
    split_ifs at h with hel
    obtain ⟨e', he', h⟩ := Option.map_eq_some_iff.1 h
    cases h
    have hmatch := List.find?_some hfind
    simp only [Bool.and_eq_true, decide_eq_true_eq] at hmatch
    obtain ⟨e₀, he₀, hn, hcount, hmax⟩ := mem_nodeSelectionCandidates (List.mem_of_find?_eq_some hfind)
    obtain rfl := Option.some.inj (he'.symm.trans he₀)
    obtain ⟨limit, hlimit, hlt⟩ := eligible_limit hel
    rw [hlimit] at hmax
    exact ⟨hmatch.1, he', hn, limit, hlimit, hcount ▸ hlt, hmax⟩

/-- A subscription that needs a configuration exists, and its latest one has ended. -/
theorem needsConfiguration_ok {latest : Option (VpnConfiguration × ℕ)} {expiresAt : DateTime}
    (h : needsConfiguration ambient db subscriptionId = some (latest, expiresAt)) :
    subscriptionId < db.subscriptions.length ∧
      db.getLatestForSubscription subscriptionId = latest ∧
      ∀ c id, latest = some (c, id) → c.isTerminal = true := by
  obtain ⟨s, hs, h⟩ := Option.bind_eq_some_iff.1 h
  refine ⟨(List.getElem?_eq_some_iff.1 hs).1, ?_⟩
  split_ifs at h with hactive hsome
  · obtain ⟨_, -, h⟩ := Option.bind_eq_some_iff.1 h
    cases h
  obtain ⟨period, -, h⟩ := Option.bind_eq_some_iff.1 h
  split at h
  next hl =>
    cases h
    exact ⟨hl, fun _ _ h => nomatch h⟩
  next c id hl =>
    split_ifs at h with hst
    cases h
    refine ⟨hl, fun d j hd => ?_⟩
    cases hd
    obtain ⟨hc, hp, -⟩ := Table.lastWhere_some hl
    have hna : c.status ≠ .active := by
      intro hs
      have hnone := Table.firstWhere_eq_none.1 (Option.not_isSome_iff_eq_none.1 hsome) id c hc
      rw [Bool.and_eq_false_iff] at hnone
      rcases hnone with hno | hno
      · rw [hno] at hp
        cases hp
      · simp [hs] at hno
    rw [VpnConfiguration.isTerminal]
    cases hs : c.status <;> simp_all [VpnConfigurationStatus.isTerminal]

end ProvisionVpn

namespace NodeReservations

variable {settings : Settings} {n n' : NodeReservations} {r : Reservation}
  {locked : NodeSelectionCandidate} {endpoint : ServerEndpoint}

/-- What a transaction that holds the lock of a node can rely on. -/
structure Holds (db : Database) (locked : NodeSelectionCandidate) (endpoint : ServerEndpoint) :
    Prop where
  row : db.serverEndpoints[locked.endpointId]? = some endpoint
  node : endpoint.nodeId = some locked.nodeId
  room : ∃ limit, locked.maxClients = some limit ∧ db.reservedClients locked.nodeId < limit

structure Inv (n : NodeReservations) : Prop where
  wellFormed : n.system.db.WellFormed
  fleet : n.system.db.fleet.Inv
  latest : ∀ r ∈ n.reservations, ∀ c id, r.latest = some (c, id) → c.isTerminal = true
  subscription : ∀ r ∈ n.reservations, r.subscriptionId < n.system.db.subscriptions.length
  ended : ∀ r ∈ n.reservations, r.finished = false → ∀ (id : ℕ) (c : VpnConfiguration),
    n.system.db.vpnConfigurations[id]? = some c → c.subscriptionId = r.subscriptionId →
      c.isTerminal = true
  oneSubscription : ∀ (i j : ℕ) (r r' : Reservation), n.reservations[i]? = some r →
    n.reservations[j]? = some r' → r.finished = false → r'.finished = false →
      r.subscriptionId = r'.subscriptionId → i = j
  holds : ∀ r ∈ n.reservations, r.finished = false → ∀ locked endpoint,
    r.locked = some (locked, endpoint) → Holds n.system.db locked endpoint
  oneNode : ∀ (i j : ℕ) (r r' : Reservation), n.reservations[i]? = some r →
    n.reservations[j]? = some r' → r.finished = false → r'.finished = false →
      ∀ locked locked' endpoint endpoint', r.locked = some (locked, endpoint) →
        r'.locked = some (locked', endpoint') → locked.nodeId = locked'.nodeId → i = j

/-! ## Steps -/

/-- A commit that creates nothing for a locked subscription or on a locked node. -/
theorem Inv.advance {s' : System} {now : DateTime} {actors : Actor TaskRef → Prop} (h : n.Inv)
    (he : n.system.db.Evolves now admin actors s'.db)
    (hsub : ∀ (id : ℕ) (c : VpnConfiguration), n.system.db.vpnConfigurations.length ≤ id →
      s'.db.vpnConfigurations[id]? = some c → ∀ r ∈ n.reservations, r.finished = false →
        c.subscriptionId ≠ r.subscriptionId)
    (hnode : ∀ (id : ℕ) (c : VpnConfiguration), n.system.db.vpnConfigurations.length ≤ id →
      s'.db.vpnConfigurations[id]? = some c → ∀ r ∈ n.reservations, r.finished = false →
        ∀ locked endpoint, r.locked = some (locked, endpoint) →
          s'.db.reserves locked.nodeId c = false) :
    NodeReservations.Inv { n with system := s' } where
  wellFormed := he.wellFormed
  fleet := he.run.inv h.fleet
  latest := h.latest
  subscription r hr := Nat.lt_of_lt_of_le (h.subscription r hr) he.subscriptions
  ended := by
    intro r hr hopen id c' hc' hs
    rcases Nat.lt_or_ge id n.system.db.vpnConfigurations.length with hlt | hge
    · have hc : n.system.db.vpnConfigurations[id]? = some n.system.db.vpnConfigurations[id] :=
        List.getElem?_eq_getElem hlt
      obtain ⟨c₀, hc₀, hsame, -⟩ := he.row h.wellFormed hc
      obtain rfl := Option.some.inj (hc'.symm.trans hc₀)
      exact he.terminal h.fleet h.wellFormed hc hc' (h.ended r hr hopen id _ hc (hsame.symm.trans hs))
    · exact absurd hs (hsub id c' hge hc' r hr hopen)
  oneSubscription := h.oneSubscription
  holds := by
    intro r hr hopen locked endpoint hl
    obtain ⟨hrow, hn, limit, hlimit, hlt⟩ := h.holds r hr hopen locked endpoint hl
    refine ⟨he.endpoint _ _ hrow, hn, limit, hlimit, Nat.lt_of_le_of_lt ?_ hlt⟩
    exact he.reservedClients_le h.fleet h.wellFormed fun id c hge hc =>
      hnode id c hge hc r hr hopen locked endpoint hl
  oneNode := h.oneNode

theorem getElem?_set_open {rs : List Reservation} {i j : ℕ} {r r' : Reservation}
    (hr : rs[i]? = some r) (h : (rs.set i { r with finished := true })[j]? = some r')
    (hopen : r'.finished = false) : rs[j]? = some r' ∧ j ≠ i := by
  have hrow : (rs.set i { r with finished := true })[j]? = _ := congrFun (Table.getElem?_set hr) j
  rw [hrow] at h
  by_cases hj : j = i
  · subst hj
    rw [Function.update_self] at h
    obtain rfl := Option.some.inj h
    cases hopen
  · rw [Function.update_of_ne hj] at h
    exact ⟨h, hj⟩

theorem mem_set_open {rs : List Reservation} {i : ℕ} {r r' : Reservation} (hr : rs[i]? = some r)
    (h : r' ∈ rs.set i { r with finished := true }) (hopen : r'.finished = false) : r' ∈ rs := by
  obtain ⟨j, hj⟩ := List.mem_iff_getElem?.1 h
  exact List.mem_of_getElem? (getElem?_set_open hr hj hopen).1

/-- A transaction that ends releases its locks. -/
theorem Inv.finish {i : ℕ} (h : n.Inv) (hr : n.reservations[i]? = some r) :
    NodeReservations.Inv
      { n with reservations := n.reservations.set i { r with finished := true } } where
  wellFormed := h.wellFormed
  fleet := h.fleet
  latest := by
    intro r' hr' c id hl
    rcases List.mem_or_eq_of_mem_set hr' with hr' | rfl
    · exact h.latest r' hr' c id hl
    · exact h.latest r (List.mem_of_getElem? hr) c id hl
  subscription := by
    intro r' hr'
    rcases List.mem_or_eq_of_mem_set hr' with hr' | rfl
    · exact h.subscription r' hr'
    · exact h.subscription r (List.mem_of_getElem? hr)
  ended r' hr' hopen := h.ended r' (mem_set_open hr hr' hopen) hopen
  oneSubscription j k r₁ r₂ h₁ h₂ ho₁ ho₂ :=
    h.oneSubscription j k r₁ r₂ (getElem?_set_open hr h₁ ho₁).1 (getElem?_set_open hr h₂ ho₂).1
      ho₁ ho₂
  holds r' hr' hopen := h.holds r' (mem_set_open hr hr' hopen) hopen
  oneNode j k r₁ r₂ h₁ h₂ ho₁ ho₂ :=
    h.oneNode j k r₁ r₂ (getElem?_set_open hr h₁ ho₁).1 (getElem?_set_open hr h₂ ho₂).1 ho₁ ho₂

theorem Inv.select {ambient : Ambient} {subscriptionId : ℕ} (h : n.Inv)
    (hn : n.select settings ambient subscriptionId = some n') : n'.Inv := by
  unfold NodeReservations.select at hn
  split_ifs at hn with hfree
  obtain ⟨⟨latest, expiresAt⟩, hneeds, hn⟩ := Option.bind_eq_some_iff.1 hn
  obtain ⟨selected, -, hn⟩ := Option.bind_eq_some_iff.1 hn
  obtain rfl := Option.some.inj hn
  obtain ⟨hs, hlatest, hterm⟩ := ProvisionVpn.needsConfiguration_ok hneeds
  -- every other configuration of the subscription is older than the latest one
  have hended : ∀ (id : ℕ) (c : VpnConfiguration), n.system.db.vpnConfigurations[id]? = some c →
      c.subscriptionId = subscriptionId → c.isTerminal = true := by
    intro id c hc hcs
    rcases hl : latest with _ | ⟨l, k⟩
    · rw [hl] at hlatest
      have hnone := Table.lastWhere_eq_none.1 hlatest id c hc
      simp [hcs] at hnone
    · rw [hl] at hlatest
      obtain ⟨hrow, hp, hmax⟩ := Table.lastWhere_some hlatest
      rcases Nat.lt_or_eq_of_le (hmax id c hc (by simpa using hcs)) with hlt | rfl
      · obtain ⟨e, -, ha⟩ := h.wellFormed.row hc
        obtain ⟨f, -, hb⟩ := h.wellFormed.row hrow
        have hls : l.subscriptionId = subscriptionId := by simpa using hp
        exact h.fleet.oneLive id k _ _ hlt ha hb (hcs.trans hls.symm)
      · rw [hc] at hrow
        cases hrow
        exact hterm _ _ hl
  have hfree' : ∀ r ∈ n.reservations, r.finished = false → r.subscriptionId ≠ subscriptionId := by
    intro r hr hopen hsub
    refine hfree (List.any_eq_true.2 ⟨r, hr, ?_⟩)
    simp [Reservation.locksSubscription, hopen, hsub]
  set r₀ : Reservation := {
    ambient := ambient
    subscriptionId := subscriptionId
    latest := latest
    expiresAt := expiresAt
    selected := selected } with hr₀
  have hcases : ∀ {j : ℕ} {r : Reservation}, (n.reservations ++ [r₀])[j]? = some r →
      n.reservations[j]? = some r ∨ (j = n.reservations.length ∧ r = r₀) := by
    intro j r hr
    have happ : (n.reservations ++ [r₀])[j]? = _ := congrFun Table.getElem?_append j
    rw [happ] at hr
    by_cases hj : j = n.reservations.length
    · subst hj
      rw [Function.update_self] at hr
      exact .inr ⟨rfl, (Option.some.inj hr).symm⟩
    · rw [Function.update_of_ne hj] at hr
      exact .inl hr
  refine ⟨h.wellFormed, h.fleet, ?_, ?_, ?_, ?_, ?_, ?_⟩
  · intro r hr c id hl
    rcases List.mem_append.1 hr with hr | hr
    · exact h.latest r hr c id hl
    · obtain rfl := List.mem_singleton.1 hr
      exact hterm c id hl
  · intro r hr
    rcases List.mem_append.1 hr with hr | hr
    · exact h.subscription r hr
    · obtain rfl := List.mem_singleton.1 hr
      exact hs
  · intro r hr hopen
    rcases List.mem_append.1 hr with hr | hr
    · exact h.ended r hr hopen
    · obtain rfl := List.mem_singleton.1 hr
      exact hended
  · intro j k r₁ r₂ h₁ h₂ ho₁ ho₂ hsub
    rcases hcases h₁ with h₁ | ⟨rfl, rfl⟩ <;> rcases hcases h₂ with h₂ | ⟨rfl, rfl⟩
    · exact h.oneSubscription j k r₁ r₂ h₁ h₂ ho₁ ho₂ hsub
    · exact absurd hsub (hfree' r₁ (List.mem_of_getElem? h₁) ho₁)
    · exact absurd hsub.symm (hfree' r₂ (List.mem_of_getElem? h₂) ho₂)
    · rfl
  · intro r hr hopen locked endpoint hl
    rcases List.mem_append.1 hr with hr | hr
    · exact h.holds r hr hopen locked endpoint hl
    · obtain rfl := List.mem_singleton.1 hr
      cases hl
  · intro j k r₁ r₂ h₁ h₂ ho₁ ho₂ l₁ l₂ e₁ e₂ hl₁ hl₂
    rcases hcases h₁ with h₁ | ⟨rfl, rfl⟩
    · rcases hcases h₂ with h₂ | ⟨rfl, rfl⟩
      · exact h.oneNode j k r₁ r₂ h₁ h₂ ho₁ ho₂ l₁ l₂ e₁ e₂ hl₁ hl₂
      · cases hl₂
    · cases hl₁

theorem Inv.lock {i : ℕ} (h : n.Inv) (hn : n.lock settings i = some n') : n'.Inv := by
  obtain ⟨r, hr, hn⟩ := Option.bind_eq_some_iff.1 hn
  split_ifs at hn with hfree
  simp only [Bool.or_eq_true, not_or, Bool.not_eq_true] at hfree
  obtain ⟨⟨hopen, -⟩, hnode⟩ := hfree
  cases hre : ProvisionVpn.revalidate settings r.ambient n.system.db r.selected with
  | none =>
    rw [hre] at hn
    obtain rfl := Option.some.inj hn
    exact h.finish hr
  | some found =>
    obtain ⟨locked, endpoint⟩ := found
    rw [hre] at hn
    obtain rfl := Option.some.inj hn
    obtain ⟨hsame, hrow, hnid, limit, hlimit, hlt, -⟩ := ProvisionVpn.revalidate_ok hre
    have hother : ∀ r' ∈ n.reservations, r'.finished = false → ∀ locked' endpoint',
        r'.locked = some (locked', endpoint') → locked'.nodeId ≠ locked.nodeId := by
      intro r' hr' ho' locked' endpoint' hl' heq
      have := List.any_eq_false.1 hnode r' hr'
      simp [Reservation.locksNode, ho', hl', heq, hsame] at this
    set r₀ : Reservation := { r with locked := some (locked, endpoint) } with hr₀
    have hmem := List.mem_of_getElem? hr
    have hcases : ∀ {j : ℕ} {r' : Reservation}, (n.reservations.set i r₀)[j]? = some r' →
        (j ≠ i ∧ n.reservations[j]? = some r') ∨ (j = i ∧ r' = r₀) := by
      intro j r' hr'
      have hset : (n.reservations.set i r₀)[j]? = _ := congrFun (Table.getElem?_set hr) j
      rw [hset] at hr'
      by_cases hj : j = i
      · subst hj
        rw [Function.update_self] at hr'
        exact .inr ⟨rfl, (Option.some.inj hr').symm⟩
      · rw [Function.update_of_ne hj] at hr'
        exact .inl ⟨hj, hr'⟩
    refine ⟨h.wellFormed, h.fleet, ?_, ?_, ?_, ?_, ?_, ?_⟩
    · intro r' hr' c id hl
      rcases List.mem_or_eq_of_mem_set hr' with hr' | rfl
      · exact h.latest r' hr' c id hl
      · exact h.latest r hmem c id hl
    · intro r' hr'
      rcases List.mem_or_eq_of_mem_set hr' with hr' | rfl
      · exact h.subscription r' hr'
      · exact h.subscription r hmem
    · intro r' hr' ho'
      rcases List.mem_or_eq_of_mem_set hr' with hr' | rfl
      · exact h.ended r' hr' ho'
      · exact h.ended r hmem hopen
    · intro j k r₁ r₂ h₁ h₂ ho₁ ho₂ hsub
      rcases hcases h₁ with ⟨-, g₁⟩ | ⟨rfl, rfl⟩ <;> rcases hcases h₂ with ⟨-, g₂⟩ | ⟨rfl, rfl⟩
      · exact h.oneSubscription j k r₁ r₂ g₁ g₂ ho₁ ho₂ hsub
      · exact h.oneSubscription j k r₁ r g₁ hr ho₁ hopen hsub
      · exact h.oneSubscription j k r r₂ hr g₂ hopen ho₂ hsub
      · rfl
    · intro r' hr' ho' locked' endpoint' hl'
      rcases List.mem_or_eq_of_mem_set hr' with hr' | rfl
      · exact h.holds r' hr' ho' locked' endpoint' hl'
      · cases hl'
        exact ⟨hrow, hnid, limit, hlimit, hlt⟩
    · intro j k r₁ r₂ h₁ h₂ ho₁ ho₂ l₁ l₂ e₁ e₂ hl₁ hl₂ heq
      rcases hcases h₁ with ⟨-, g₁⟩ | ⟨rfl, rfl⟩ <;> rcases hcases h₂ with ⟨-, g₂⟩ | ⟨rfl, rfl⟩
      · exact h.oneNode j k r₁ r₂ g₁ g₂ ho₁ ho₂ l₁ l₂ e₁ e₂ hl₁ hl₂ heq
      · cases hl₂
        exact absurd heq (hother r₁ (List.mem_of_getElem? g₁) ho₁ l₁ e₁ hl₁)
      · cases hl₁
        exact absurd heq.symm (hother r₂ (List.mem_of_getElem? g₂) ho₂ l₂ e₂ hl₂)
      · rfl

/-- The insertion of a configuration under the lock of its node. -/
theorem Inv.commit {i : ℕ} (h : n.Inv) (hn : n.commit settings i = some n') :
    n'.Inv ∧ ∃ r locked endpoint c, n.reservations[i]? = some r ∧
      r.locked = some (locked, endpoint) ∧ Holds n.system.db locked endpoint ∧
      n'.system.db.vpnConfigurations = n.system.db.vpnConfigurations ++ [c] ∧
      n'.system.db.serverEndpoints = n.system.db.serverEndpoints ∧
      c.serverEndpointId = locked.endpointId := by
  obtain ⟨r, hr, hn⟩ := Option.bind_eq_some_iff.1 hn
  split_ifs at hn with hdone
  have hopen : r.finished = false := by simpa using hdone
  obtain ⟨⟨locked, endpoint⟩, hl, hn⟩ := Option.bind_eq_some_iff.1 hn
  obtain ⟨⟨plan, db⟩, hrun, hn⟩ := Option.bind_eq_some_iff.1 hn
  obtain rfl := Option.some.inj hn
  have hmem := List.mem_of_getElem? hr
  have hholds := h.holds r hmem hopen locked endpoint hl
  have hrefines : n.system.db.Refines r.ambient.now (fun x => x = .request) db ∧
      ∃ c : VpnConfiguration, db.vpnConfigurations = n.system.db.vpnConfigurations ++ [c] ∧
        c.subscriptionId = r.subscriptionId ∧ c.serverEndpointId = locked.endpointId :=
    ProvisionVpn.provisionOn_refines h.wellFormed rfl hholds.row (h.latest r hmem)
      (fun j c hc hs => .inl (h.ended r hmem hopen j c hc hs)) (h.subscription r hmem)
      (System.toOption_eq_some hrun)
  obtain ⟨href, c, hc, hsub, hend⟩ := hrefines
  have hbilling : db.billing.serverEndpoints = n.system.db.billing.serverEndpoints := by
    rw [href.billing]
  change db.serverEndpoints = n.system.db.serverEndpoints at hbilling
  have hnew : ∀ (id : ℕ) (d : VpnConfiguration), n.system.db.vpnConfigurations.length ≤ id →
      db.vpnConfigurations[id]? = some d → d = c := by
    intro id d hge hd
    rw [hc, List.getElem?_append_right hge] at hd
    exact List.mem_singleton.1 (List.mem_of_getElem? hd)
  refine ⟨?_, r, locked, endpoint, c, hr, hl, hholds, hc, hbilling, hend⟩
  have hevolves : n.system.db.Evolves r.ambient.now ⟨fun _ => False, fun _ => False⟩ (· = .request) db :=
    href.evolves
  refine (h.finish hr).advance hevolves (fun id d hge hd r' hr' ho' => ?_)
    fun id d hge hd r' hr' ho' locked' endpoint' hl' => ?_
  · rw [hnew id d hge hd, hsub]
    intro hsame
    obtain ⟨j, hj⟩ := List.mem_iff_getElem?.1 hr'
    obtain ⟨hj, hne⟩ := getElem?_set_open hr hj ho'
    exact hne (h.oneSubscription j i r' r hj hr ho' hopen hsame.symm)
  · rw [hnew id d hge hd]
    by_contra hres
    simp only [Bool.not_eq_false, reserves_iff] at hres
    obtain ⟨-, e, he, hnid⟩ := hres
    rw [hend, hbilling, hholds.row] at he
    cases he
    obtain ⟨j, hj⟩ := List.mem_iff_getElem?.1 hr'
    obtain ⟨hj, hne⟩ := getElem?_set_open hr hj ho'
    refine hne (h.oneNode j i r' r hj hr ho' hopen locked' locked endpoint' endpoint hl' hl ?_)
    exact Option.some.inj (hnid.symm.trans hholds.node)

/-- A transaction of the other kind creates configurations only where no lock is needed. -/
theorem unblocked_new {s' : System} (h : n.unblocked s' = true) {id : ℕ} {c : VpnConfiguration}
    (hge : n.system.db.vpnConfigurations.length ≤ id) (hc : s'.db.vpnConfigurations[id]? = some c) :
    (∀ e, s'.db.serverEndpoints[c.serverEndpointId]? = some e → e.nodeId = none) ∧
      ∀ r ∈ n.reservations, r.finished = false → c.subscriptionId ≠ r.subscriptionId := by
  have hmem : c ∈ s'.db.vpnConfigurations.drop n.system.db.vpnConfigurations.length := by
    refine List.mem_iff_getElem?.2 ⟨id - n.system.db.vpnConfigurations.length, ?_⟩
    rw [List.getElem?_drop, Nat.add_sub_cancel' hge]
    exact hc
  have hall := List.all_eq_true.1 h c hmem
  rw [Bool.and_eq_true] at hall
  refine ⟨fun e he => ?_, fun r hr hopen hs => ?_⟩
  · have hnode := hall.1
    rw [he] at hnode
    simpa using hnode
  · have hfree := hall.2
    simp only [Bool.not_eq_true', List.any_eq_false] at hfree
    refine hfree r hr ?_
    simp [Reservation.locksSubscription, hopen, hs]

/-- A transaction that holds no lock of a node. -/
theorem Inv.command {cmd : Command} {s' : System} (h : n.Inv)
    (hs : n.system.exec settings cmd = some s') (hu : n.unblocked s' = true) :
    NodeReservations.Inv { n with system := s' } ∧
      ∀ nodeId, s'.db.reservedClients nodeId ≤ n.system.db.reservedClients nodeId := by
  have he := System.exec_evolves h.wellFormed hs
  have hnew : ∀ (nodeId id : ℕ) (c : VpnConfiguration),
      n.system.db.vpnConfigurations.length ≤ id → s'.db.vpnConfigurations[id]? = some c →
        s'.db.reserves nodeId c = false := by
    intro nodeId id c hge hc
    by_contra hres
    simp only [Bool.not_eq_false, reserves_iff] at hres
    obtain ⟨-, e, he, hn⟩ := hres
    rw [(unblocked_new hu hge hc).1 e he] at hn
    cases hn
  exact ⟨h.advance he (fun id c hge hc r hr hopen => (unblocked_new hu hge hc).2 r hr hopen)
      fun id c hge hc r hr hopen locked endpoint hl => hnew _ id c hge hc,
    fun nodeId => he.reservedClients_le h.fleet h.wellFormed (hnew nodeId)⟩

theorem select_system {ambient : Ambient} {subscriptionId : ℕ}
    (hn : n.select settings ambient subscriptionId = some n') : n'.system = n.system := by
  unfold NodeReservations.select at hn
  split_ifs at hn
  obtain ⟨_, -, hn⟩ := Option.bind_eq_some_iff.1 hn
  obtain ⟨_, -, hn⟩ := Option.bind_eq_some_iff.1 hn
  obtain rfl := Option.some.inj hn
  rfl

theorem lock_system {i : ℕ} (hn : n.lock settings i = some n') : n'.system = n.system := by
  obtain ⟨r, -, hn⟩ := Option.bind_eq_some_iff.1 hn
  split_ifs at hn
  split at hn <;> obtain rfl := Option.some.inj hn <;> rfl

/-- Every event keeps the invariant. A count rises only by a commit under the lock of the
node, and stays within the room that was read there. -/
theorem Inv.exec {event : ReservationEvent} (h : n.Inv) (hn : n.exec settings event = some n') :
    n'.Inv ∧ ∀ nodeId,
      n'.system.db.reservedClients nodeId ≤ n.system.db.reservedClients nodeId ∨
      ∃ i r locked endpoint limit, event = .commit i ∧ n.reservations[i]? = some r ∧
        r.locked = some (locked, endpoint) ∧ locked.nodeId = nodeId ∧
        locked.maxClients = some limit ∧ n'.system.db.reservedClients nodeId ≤ limit := by
  cases event with
  | command cmd =>
    obtain ⟨s, hs, hn⟩ := Option.bind_eq_some_iff.1 hn
    split_ifs at hn with hu
    obtain rfl := Option.some.inj hn
    obtain ⟨hinv, hle⟩ := h.command hs hu
    exact ⟨hinv, fun nodeId => .inl (hle nodeId)⟩
  | select ambient subscriptionId =>
    exact ⟨h.select hn, fun nodeId => .inl (by rw [select_system hn])⟩
  | lock i => exact ⟨h.lock hn, fun nodeId => .inl (by rw [lock_system hn])⟩
  | commit i =>
    obtain ⟨hinv, r, locked, endpoint, c, hr, hl, hholds, hc, he, hend⟩ := h.commit hn
    refine ⟨hinv, fun nodeId => ?_⟩
    obtain ⟨hle, hsame⟩ := reservedClients_insert nodeId hc he
    by_cases hnode : locked.nodeId = nodeId
    · obtain ⟨limit, hlimit, hlt⟩ := hholds.room
      rw [hnode] at hlt
      exact .inr ⟨i, r, locked, endpoint, limit, rfl, hr, hl, hnode, hlimit, by omega⟩
    · refine .inl (Nat.le_of_eq (hsame ?_))
      by_contra hres
      simp only [Bool.not_eq_false, reserves_iff] at hres
      obtain ⟨-, e, he, hnid⟩ := hres
      rw [hend, hholds.row] at he
      cases he
      exact hnode (Option.some.inj (hholds.node.symm.trans hnid))
  | rollback i =>
    obtain ⟨r, hr, hn⟩ := Option.bind_eq_some_iff.1 hn
    obtain rfl := Option.some.inj hn
    exact ⟨h.finish hr, fun nodeId => .inl (Nat.le_refl _)⟩

theorem initial_inv (h : Initial n) : n.Inv := by
  obtain ⟨hw, hf⟩ := System.initial_inv h.1
  constructor <;> simp [h.2, hw, hf]

theorem Reachable.inv (h : Transition.Reachable Initial (Step settings) n) : n.Inv := by
  have hstep : ∀ n n', Transition.Reachable Initial (Step settings) n → n.Inv →
      Step settings n n' → n'.Inv := by
    rintro n n' - hinv ⟨event, hn⟩
    exact (hinv.exec hn).1
  exact Transition.Reachable.invariant Inv (fun _ => initial_inv) hstep h

/-- A new configuration on a node has been inserted under the lock of the node, and the
configurations of the node then fit into the room that was read there. -/
theorem Inv.creates {event : ReservationEvent} {id nodeId : ℕ} {c : VpnConfiguration}
    {e : ServerEndpoint} (h : n.Inv) (hn : n.exec settings event = some n')
    (hge : n.system.db.vpnConfigurations.length ≤ id)
    (hc : n'.system.db.vpnConfigurations[id]? = some c)
    (he : n'.system.db.serverEndpoints[c.serverEndpointId]? = some e)
    (hnode : e.nodeId = some nodeId) :
    ∃ i r locked endpoint limit, event = .commit i ∧ n.reservations[i]? = some r ∧
      r.locked = some (locked, endpoint) ∧ locked.nodeId = nodeId ∧
      locked.maxClients = some limit ∧ n'.system.db.reservedClients nodeId ≤ limit := by
  have hsame : n'.system = n.system → False := by
    intro hs
    rw [hs] at hc
    exact absurd (List.getElem?_eq_some_iff.1 hc).1 (Nat.not_lt.2 hge)
  cases event with
  | command cmd =>
    obtain ⟨s, hs, hn⟩ := Option.bind_eq_some_iff.1 hn
    split_ifs at hn with hu
    obtain rfl := Option.some.inj hn
    rw [(unblocked_new hu hge hc).1 e he] at hnode
    cases hnode
  | select ambient subscriptionId =>
    exact (hsame (select_system hn)).elim
  | lock i => exact (hsame (lock_system hn)).elim
  | commit i =>
    obtain ⟨-, r, locked, endpoint, d, hr, hl, hholds, hrows, hends, hend⟩ := h.commit hn
    rw [hrows, List.getElem?_append_right hge] at hc
    obtain rfl := List.mem_singleton.1 (List.mem_of_getElem? hc)
    rw [hends, hend, hholds.row] at he
    cases he
    have hlocked := Option.some.inj (hholds.node.symm.trans hnode)
    obtain ⟨limit, hlimit, hlt⟩ := hholds.room
    have hle := (reservedClients_insert nodeId hrows hends).1
    rw [hlocked] at hlt
    exact ⟨i, r, locked, e, limit, rfl, hr, hl, hlocked, hlimit, by omega⟩
  | rollback i =>
    obtain ⟨r, -, hn⟩ := Option.bind_eq_some_iff.1 hn
    obtain rfl := Option.some.inj hn
    exact (hsame rfl).elim

/-! ## Nodes that keep their room -/

/-- The configurations of every node fit, and so does the room that was read under a lock. -/
structure Fits (n : NodeReservations) : Prop where
  bound : ∀ nodeId, n.system.db.reservedClients nodeId ≤ n.system.db.maxClients nodeId
  room : ∀ r ∈ n.reservations, ∀ locked endpoint limit, r.locked = some (locked, endpoint) →
    locked.maxClients = some limit → limit ≤ n.system.db.maxClients locked.nodeId

theorem Fits.exec {event : ReservationEvent} (hf : n.Fits) (h : n.Inv)
    (hn : n.exec settings event = some n') (hg : Grows n n') : n'.Fits := by
  constructor
  · intro nodeId
    rcases (h.exec hn).2 nodeId with hle | ⟨i, r, l, e, limit, -, hr, hl, hnode, hlimit, hle⟩
    · exact (hle.trans (hf.bound nodeId)).trans (hg nodeId)
    · have hroom := hf.room r (List.mem_of_getElem? hr) l e limit hl hlimit
      rw [hnode] at hroom
      exact (hle.trans hroom).trans (hg nodeId)
  · -- a lock is read from the same rows, and every other lock was there before
    have hold : ∀ r ∈ n.reservations, ∀ locked endpoint limit, r.locked = some (locked, endpoint) →
        locked.maxClients = some limit → limit ≤ n'.system.db.maxClients locked.nodeId :=
      fun r hr l e limit hl hlimit => (hf.room r hr l e limit hl hlimit).trans (hg l.nodeId)
    have hfinish : ∀ {i : ℕ} {r : Reservation}, n.reservations[i]? = some r →
        ∀ r' ∈ n.reservations.set i { r with finished := true }, ∀ locked endpoint limit,
          r'.locked = some (locked, endpoint) → locked.maxClients = some limit →
            limit ≤ n'.system.db.maxClients locked.nodeId := by
      intro i r hr r' hr'
      rcases List.mem_or_eq_of_mem_set hr' with hr' | rfl
      · exact hold r' hr'
      · exact hold r (List.mem_of_getElem? hr)
    cases event with
    | command cmd =>
      obtain ⟨s, -, hn⟩ := Option.bind_eq_some_iff.1 hn
      split_ifs at hn
      obtain rfl := Option.some.inj hn
      exact hold
    | select ambient subscriptionId =>
      have hsel : n.select settings ambient subscriptionId = some n' := hn
      unfold NodeReservations.select at hsel
      split_ifs at hsel
      obtain ⟨_, -, hsel⟩ := Option.bind_eq_some_iff.1 hsel
      obtain ⟨_, -, hsel⟩ := Option.bind_eq_some_iff.1 hsel
      obtain rfl := Option.some.inj hsel
      intro r hr
      rcases List.mem_append.1 hr with hr | hr
      · exact hold r hr
      · obtain rfl := List.mem_singleton.1 hr
        rintro _ _ _ ⟨⟩
    | lock i =>
      obtain ⟨r, hr, hlock⟩ := Option.bind_eq_some_iff.1 hn
      split_ifs at hlock
      cases hre : ProvisionVpn.revalidate settings r.ambient n.system.db r.selected with
      | none =>
        rw [hre] at hlock
        obtain rfl := Option.some.inj hlock
        exact hfinish hr
      | some found =>
        rw [hre] at hlock
        obtain rfl := Option.some.inj hlock
        intro r' hr'
        rcases List.mem_or_eq_of_mem_set hr' with hr' | rfl
        · exact hold r' hr'
        · rintro l e limit hl hlimit
          cases hl
          obtain ⟨-, -, -, limit', hlimit', -, rfl⟩ := ProvisionVpn.revalidate_ok hre
          rw [hlimit] at hlimit'
          exact Nat.le_of_eq (Option.some.inj hlimit')
    | commit i =>
      obtain ⟨r, hr, hcommit⟩ := Option.bind_eq_some_iff.1 hn
      split_ifs at hcommit
      obtain ⟨_, -, hcommit⟩ := Option.bind_eq_some_iff.1 hcommit
      obtain ⟨_, -, hcommit⟩ := Option.bind_eq_some_iff.1 hcommit
      obtain rfl := Option.some.inj hcommit
      exact hfinish hr
    | rollback i =>
      obtain ⟨r, hr, hback⟩ := Option.bind_eq_some_iff.1 hn
      obtain rfl := Option.some.inj hback
      exact hfinish hr

theorem Reachable.fits (h : Transition.Reachable Initial
    (Transition.Guarded (Step settings) Grows) n) : n.Fits := by
  refine Transition.Reachable.invariant Fits (fun n hn => ?_) ?_ h
  · have hrows : n.system.db.vpnConfigurations = [] := by
      rw [hn.1]
    constructor <;> simp [hn.2, reservedClients, hrows]
  · rintro n n' hn hf ⟨⟨event, he⟩, hg⟩
    exact hf.exec (Reachable.inv hn.of_guarded) he hg

/-- Every commit that creates a configuration on a node leaves the configurations of the node
within the room that its transaction has read. So when no node is given less room than it
had, the configurations of every node fit in every reachable state. -/
theorem nodes_not_oversubscribed :
    (∀ (n n' : NodeReservations) (event : ReservationEvent),
      Transition.Reachable Initial (Step settings) n → n.exec settings event = some n' →
      ∀ (id nodeId : ℕ) (c : VpnConfiguration) (e : ServerEndpoint),
        n.system.db.vpnConfigurations.length ≤ id →
        n'.system.db.vpnConfigurations[id]? = some c →
        n'.system.db.serverEndpoints[c.serverEndpointId]? = some e → e.nodeId = some nodeId →
        ∃ i r locked endpoint limit, event = .commit i ∧ n.reservations[i]? = some r ∧
          r.locked = some (locked, endpoint) ∧ locked.nodeId = nodeId ∧
          locked.maxClients = some limit ∧ n'.system.db.reservedClients nodeId ≤ limit) ∧
    (∀ n : NodeReservations,
      Transition.Reachable Initial (Transition.Guarded (Step settings) Grows) n →
      ∀ nodeId, n.system.db.reservedClients nodeId ≤ n.system.db.maxClients nodeId) :=
  ⟨fun _ _ _ hr hn _ _ _ _ hge hc he hnode => (Reachable.inv hr).creates hn hge hc he hnode,
    fun _ hr => (Reachable.fits hr).bound⟩

/-- The first configuration of the shop, up to the commit of its transaction. -/
def reserved : List ReservationEvent :=
  purchase.map .command ++ [.select { now := 0, clientUuid := 100, taskUuid := 1 } 0, .lock 0]

theorem grows_of_nodes (h : n.system.db.nodes = n'.system.db.nodes) : Grows n n' := by
  intro nodeId
  unfold maxClients
  rw [h]

theorem nodes_not_oversubscribed_shop : ∃ n n' : NodeReservations,
    (∃ i r locked endpoint limit, ReservationEvent.commit 0 = .commit i ∧
      n.reservations[i]? = some r ∧ r.locked = some (locked, endpoint) ∧ locked.nodeId = 0 ∧
      locked.maxClients = some limit ∧ n'.system.db.reservedClients 0 ≤ limit) ∧
    n'.system.db.reservedClients 0 = 1 ∧
    n'.system.db.reservedClients 0 ≤ n'.system.db.maxClients 0 := by
  have hinit : Initial { system := shop nodeEndpoint } := ⟨shop_initial _, rfl⟩
  obtain ⟨n, hn, hcond⟩ := (Option.any_eq_true _ _).1
    (show (Transition.execAll (Transition.restrict (exec shopSettings)
        fun n n' => n.system.db.nodes = n'.system.db.nodes)
      { system := shop nodeEndpoint } reserved).any (fun n =>
        n.system.db.vpnConfigurations.length = 0 &&
        ((exec shopSettings n (.commit 0)).any fun n' =>
          n.system.db.nodes = n'.system.db.nodes && n'.system.db.reservedClients 0 = 1 &&
          (n'.system.db.vpnConfigurations[0]?).any fun c =>
            (n'.system.db.serverEndpoints[c.serverEndpointId]?).any (·.nodeId = some 0))) =
        true by decide +kernel)
  rw [Bool.and_eq_true, decide_eq_true_eq] at hcond
  obtain ⟨hlen, hcond⟩ := hcond
  obtain ⟨n', hn', hcond⟩ := (Option.any_eq_true _ _).1 hcond
  rw [Bool.and_eq_true, Bool.and_eq_true, decide_eq_true_eq, decide_eq_true_eq] at hcond
  obtain ⟨⟨hnodes, hone⟩, hcond⟩ := hcond
  obtain ⟨c, hc, hcond⟩ := (Option.any_eq_true _ _).1 hcond
  obtain ⟨e, he, hcond⟩ := (Option.any_eq_true _ _).1 hcond
  have hr : Transition.Reachable Initial
      (Transition.Guarded (Step shopSettings) Grows) n :=
    .of_restrict (fun n n' h => grows_of_nodes (of_decide_eq_true h)) hinit hn
  have hr' := hr.tail ⟨⟨_, hn'⟩, grows_of_nodes hnodes⟩
  exact ⟨n, n', nodes_not_oversubscribed.1 n n' _ hr.of_guarded hn' 0 0 c e
    (Nat.le_of_eq hlen) hc he (of_decide_eq_true hcond), hone, nodes_not_oversubscribed.2 n' hr' 0⟩

end NodeReservations

end ShopBot
