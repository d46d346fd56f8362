import ShopBot.Bot.Queries
import ShopBot.Guarantees.LiveSubscription
import ShopBot.Guarantees.VlessRoundTrip

/-! # What the dashboard shows

The two reads of the dashboard look for a subscription and for a configuration apart from each
other. They agree, since a user has at most one active subscription, and a subscription at most
one active configuration.
-/

namespace ShopBot

open Lifecycle Database BotQueryService Relation

/-- Configuration `id`, on endpoint `e`, serves the user at `now`. -/
structure Database.Serves (db : Database) (userId : ℕ) (now : DateTime) (id : ℕ)
    (c : VpnConfiguration) (e : ServerEndpoint) : Prop where
  row : db.vpnConfigurations[id]? = some c
  status : c.status = .active
  endpoint : db.serverEndpoints[c.serverEndpointId]? = some e
  subscription : ∃ sub, db.subscriptions[c.subscriptionId]? = some sub ∧ sub.userId = userId ∧
    sub.status = .active
  period : (db.getCurrentPeriod c.subscriptionId now).isSome = true

/-- A host that is a name or an address without a zone, and the number of a port. -/
structure EndpointAddress.Valid (address : EndpointAddress) : Prop where
  host : VlessBuildInput.IsDnsName address.host ∨
    (IpAddress.parse address.host.toList).isSome = true ∧ '%' ∉ address.host.toList
  port : 1 ≤ address.port ∧ address.port ≤ 65535

theorem vlessBuildInput_valid {addresses : ℕ → EndpointAddress} {c : VpnConfiguration}
    (e : ServerEndpoint) (h : (addresses c.serverEndpointId).Valid) :
    (vlessBuildInput addresses c e).Valid where
  uuid _ hmem := uuidText_chars hmem
  host := h.host
  port := h.port

/-- Every subscription is of a tariff that is there. -/
def Database.HasTariffs (db : Database) : Prop :=
  ∀ sub ∈ db.subscriptions, sub.tariffId < db.tariffs.length

namespace Database

variable {db : Database} {userId id : ℕ} {now : DateTime} {c : VpnConfiguration}
  {e : ServerEndpoint} {a : CurrentAccess}

theorem isActiveForUser_iff : db.isActiveForUser userId now c = true ↔
    (∃ sub, db.subscriptions[c.subscriptionId]? = some sub ∧ sub.userId = userId ∧
      sub.status = .active) ∧
    (db.getCurrentPeriod c.subscriptionId now).isSome = true ∧ c.status = .active ∧
    ∃ e, db.serverEndpoints[c.serverEndpointId]? = some e := by
  rw [getCurrentPeriod_isSome]
  simp only [isActiveForUser, Bool.and_eq_true, Option.any_eq_true, List.any_eq_true,
    decide_eq_true_eq, Option.isSome_iff_exists, and_assoc]

theorem Serves.isActiveForUser (h : db.Serves userId now id c e) :
    db.isActiveForUser userId now c = true :=
  isActiveForUser_iff.2 ⟨h.subscription, h.period, h.status, e, h.endpoint⟩

theorem serves_of_getActiveConfigurationForUser
    (h : db.getActiveConfigurationForUser userId now = some (c, id, e)) :
    db.Serves userId now id c e := by
  obtain ⟨⟨d, k⟩, hlast, h⟩ := Option.bind_eq_some_iff.1 h
  obtain ⟨f, hf, h⟩ := Option.bind_eq_some_iff.1 h
  cases h
  obtain ⟨hrow, hactive, -⟩ := Table.lastWhere_some hlast
  obtain ⟨hsub, hperiod, hstatus, -⟩ := isActiveForUser_iff.1 hactive
  exact ⟨hrow, hstatus, hf, hsub, hperiod⟩

theorem mem_accessRows : a ∈ db.accessRows userId now ↔
    db.subscriptions[a.subscriptionId]? = some a.subscription ∧
      a.subscription.userId = userId ∧ a.subscription.status = .active ∧
      a.period ∈ db.subscriptionPeriods ∧ a.period.subscriptionId = some a.subscriptionId ∧
      a.period.contains now = true ∧ db.tariffs[a.subscription.tariffId]? = some a.tariff := by
  simp only [accessRows, List.mem_flatMap, List.mem_filterMap, List.mem_filter,
    Option.map_eq_some_iff, Bool.and_eq_true, decide_eq_true_eq]
  constructor
  · rintro ⟨⟨sub, k⟩, hsub, p, ⟨hp, hpid, hnow⟩, tariff, htariff, rfl⟩
    obtain ⟨hrow, hactive⟩ := Table.mem_select.1 hsub
    simp only [Bool.and_eq_true, decide_eq_true_eq] at hactive
    exact ⟨hrow, hactive.1, hactive.2, hp, hpid, hnow, htariff⟩
  · rintro ⟨hrow, huser, hactive, hp, hpid, hnow, htariff⟩
    refine ⟨(a.subscription, a.subscriptionId), Table.mem_select.2 ⟨hrow, ?_⟩, a.period,
      ⟨hp, hpid, hnow⟩, a.tariff, htariff, rfl⟩
    simp [huser, hactive]

/-- A subscription with a current period is found. -/
theorem getCurrentAccessForUser_isSome {k : ℕ} {sub : Subscription} (ht : db.HasTariffs)
    (hsub : db.subscriptions[k]? = some sub) (huser : sub.userId = userId)
    (hactive : sub.status = .active) (hperiod : (db.getCurrentPeriod k now).isSome = true) :
    (db.getCurrentAccessForUser userId now).isSome = true := by
  obtain ⟨p, hp, hpid, hnow⟩ := getCurrentPeriod_isSome.1 hperiod
  have htariff := List.getElem?_eq_getElem (ht sub (List.mem_of_getElem? hsub))
  have hmem : (⟨k, sub, _, p⟩ : CurrentAccess) ∈ db.accessRows userId now :=
    mem_accessRows.2 ⟨hsub, huser, hactive, hp, hpid, hnow, htariff⟩
  rw [getCurrentAccessForUser, latestBy_isSome, Bool.not_eq_true']
  exact List.isEmpty_eq_false_iff.2 (List.ne_nil_of_mem hmem)

end Database

namespace System

variable {settings : Settings} {s s' : System} {userId id : ℕ} {now : DateTime}
  {c : VpnConfiguration} {e : ServerEndpoint} {telegramId : ℤ}
  {addresses : ℕ → EndpointAddress}
  {v : DashboardVpnConfigurationResponse}

/-- A user is served by one configuration. -/
theorem Reachable.serves_unique (h : Reachable settings s) {j : ℕ} {d : VpnConfiguration}
    {f : ServerEndpoint} {now' : DateTime} (hc : s.db.Serves userId now id c e)
    (hd : s.db.Serves userId now' j d f) : id = j := by
  obtain ⟨sub, hsub, huser, hactive⟩ := hc.subscription
  obtain ⟨sub', hsub', huser', hactive'⟩ := hd.subscription
  have hone : c.subscriptionId = d.subscriptionId :=
    h.oneActiveSubscription _ _ sub sub' hsub hsub' (huser.trans huser'.symm) hactive hactive'
  exact h.oneActive _ _ c d hc.row hd.row hone hc.status hd.status

theorem Reachable.getActiveConfigurationForUser_eq_some (h : Reachable settings s) :
    s.db.getActiveConfigurationForUser userId now = some (c, id, e) ↔
      s.db.Serves userId now id c e := by
  refine ⟨serves_of_getActiveConfigurationForUser, fun hserves => ?_⟩
  have hlast : Table.lastWhere (s.db.isActiveForUser userId now) s.db.vpnConfigurations =
      some (c, id) := by
    refine Table.lastWhere_of_unique hserves.row hserves.isActiveForUser fun j d hd hactive => ?_
    obtain ⟨hsub, hperiod, hstatus, f, hf⟩ := isActiveForUser_iff.1 hactive
    exact h.serves_unique ⟨hd, hstatus, hf, hsub, hperiod⟩ hserves
  exact Option.bind_eq_some_iff.2 ⟨_, hlast, Option.bind_eq_some_iff.2 ⟨e, hserves.endpoint, rfl⟩⟩

/-- The configuration that the dashboard of an account shows. -/
theorem Reachable.getDashboard_vpnConfiguration (h : Reachable settings s) :
    (getDashboard addresses s.db telegramId now).vpnConfiguration = some v ↔
      ∃ user userId id c e, s.db.getUserByTelegramId telegramId = some (user, userId) ∧
        s.db.Serves userId now id c e ∧ speaksVless e = true ∧
        v = vpnResponse addresses c id e := by
  unfold getDashboard
  constructor
  · intro hv
    split at hv
    · cases hv
    · next user userId huser =>
      obtain ⟨⟨c, id, e⟩, hc, hv⟩ := Option.bind_eq_some_iff.1 hv
      exact ⟨user, userId, id, c, e, huser, h.getActiveConfigurationForUser_eq_some.1 hc,
        (vpnPayload_eq_some _).1 hv⟩
  · rintro ⟨user, userId, id, c, e, huser, hserves, hv⟩
    rw [huser]
    exact Option.bind_eq_some_iff.2
      ⟨_, h.getActiveConfigurationForUser_eq_some.2 hserves, (vpnPayload_eq_some _).2 hv⟩

/-- The subscription shown beside a configuration is its own. -/
theorem Reachable.getDashboard_subscription (h : Reachable settings s) (ht : s.db.HasTariffs)
    {user : User} (huser : s.db.getUserByTelegramId telegramId = some (user, userId))
    (hserves : s.db.Serves userId now id c e) :
    ∃ r, (getDashboard addresses s.db telegramId now).subscription = some r ∧
      r.subscriptionId = c.subscriptionId ∧ r.startsAt ≤ now ∧ now < r.expiresAt := by
  obtain ⟨sub, hsub, hown, hactive⟩ := hserves.subscription
  obtain ⟨a, ha⟩ := Option.isSome_iff_exists.1
    (getCurrentAccessForUser_isSome ht hsub hown hactive hserves.period)
  obtain ⟨hrow, hauser, haactive, -, -, hnow, -⟩ := mem_accessRows.1 (latestBy_mem ha)
  obtain ⟨-, hstarts, hexpires⟩ := SubscriptionPeriod.contains_iff.1 hnow
  refine ⟨subscriptionPayload a, ?_, ?_, hstarts, hexpires⟩
  · simp [getDashboard, huser, ha]
  · exact h.oneActiveSubscription _ _ a.subscription sub hrow hsub (hauser.trans hown.symm)
      haactive hactive

theorem getUserByTelegramId_eq_some {db : Database} {user : User}
    (h : db.getUserByTelegramId telegramId = some (user, userId)) :
    db.users[userId]? = some user ∧ user.telegramId = telegramId := by
  obtain ⟨hrow, htelegram⟩ := Table.firstWhere_some h
  exact ⟨hrow, of_decide_eq_true htelegram⟩

/-- A dashboard shows a configuration exactly while it serves the user of the account, next to
its own subscription, and to no other account. The address that it shows is read as what the
configuration says. -/
theorem dashboard_shows_own_configuration (h : Reachable settings s) (ht : s.db.HasTariffs) :
    (getDashboard addresses s.db telegramId now).vpnConfiguration = some v ↔
      ∃ user userId id c e r, s.db.getUserByTelegramId telegramId = some (user, userId) ∧
        s.db.Serves userId now id c e ∧ speaksVless e = true ∧
        v = vpnResponse addresses c id e ∧
        (getDashboard addresses s.db telegramId now).subscription = some r ∧
        r.subscriptionId = c.subscriptionId ∧ r.startsAt ≤ now ∧ now < r.expiresAt ∧
        (∀ (other : ℤ) (now' : DateTime) (w : DashboardVpnConfigurationResponse),
          (getDashboard addresses s.db other now').vpnConfiguration = some w →
          w.vpnConfigurationId = id → other = telegramId) ∧
        ((addresses c.serverEndpointId).Valid → ∃ uri address, v.uri = some uri ∧
          VlessUri.parse uri = some address ∧
          address.input = (vlessBuildInput addresses c e).withDefaults) := by
  constructor
  · intro hv
    obtain ⟨user, userId, id, c, e, huser, hserves, hvless, rfl⟩ :=
      h.getDashboard_vpnConfiguration.1 hv
    obtain ⟨r, hr, hid, hstarts, hexpires⟩ := h.getDashboard_subscription ht huser hserves
    refine ⟨user, userId, id, c, e, r, huser, hserves, hvless, rfl, hr, hid, hstarts, hexpires,
      fun other now' w hw hwid => ?_, fun hvalid => ?_⟩
    · obtain ⟨user', userId', id', c', e', huser', hserves', -, rfl⟩ :=
        h.getDashboard_vpnConfiguration.1 hw
      have hcc : c' = c := by
        have hrow' := hserves'.row
        rw [show id' = id from hwid, hserves.row] at hrow'
        exact (Option.some.inj hrow').symm
      obtain ⟨sub, hsub, hown, -⟩ := hserves.subscription
      obtain ⟨sub', hsub', hown', -⟩ := hserves'.subscription
      rw [hcc, hsub] at hsub'
      cases hsub'
      obtain rfl : userId = userId' := hown.symm.trans hown'
      obtain ⟨hrow, htelegram⟩ := getUserByTelegramId_eq_some huser
      obtain ⟨hrow', htelegram'⟩ := getUserByTelegramId_eq_some huser'
      rw [hrow] at hrow'
      cases hrow'
      exact htelegram'.symm.trans htelegram
    · exact ⟨_, _, rfl, (vlessBuildInput_valid e hvalid).parse_build, VlessBuildInput.input_uri _⟩
  · rintro ⟨user, userId, id, c, e, r, huser, hserves, hvless, hv, -⟩
    exact h.getDashboard_vpnConfiguration.2 ⟨user, userId, id, c, e, huser, hserves, hvless, hv⟩

/-! ## Over time -/

/-- A subscription keeps its user, and once it has ended it is not active again. -/
theorem Reachable.subscription_later (h : Reachable settings s)
    (hr : ReflTransGen (Step settings) s s') {k : ℕ} {sub : Subscription}
    (hsub : s.db.subscriptions[k]? = some sub) :
    ∃ sub', s'.db.subscriptions[k]? = some sub' ∧ sub'.userId = sub.userId ∧
      (sub.status = .ended → sub'.status = .ended) := by
  induction hr with
  | refl => exact ⟨sub, hsub, rfl, fun hended => hended⟩
  | @tail t t' hrun hstep ih =>
    obtain ⟨sub₁, hsub₁, huser₁, hended₁⟩ := ih
    obtain ⟨cmd, hcmd⟩ := hstep
    have hw := (h.steps hrun).inv.1
    obtain ⟨sub₂, hsub₂, huser₂, hcase⟩ :=
      (exec_evolves hw hcmd).billing.later.subscription k sub₁ hsub₁
    refine ⟨sub₂, hsub₂, huser₂.trans huser₁, fun hended => ?_⟩
    rcases hcase with rfl | ⟨hne, -⟩
    · exact hended₁ hended
    · exact absurd (hended₁ hended) hne

/-- A configuration that a dashboard shows has been wanted ever since it was created, and its
subscription has not ended before. It was always of the user who sees it, with the key that is
shown. -/
theorem shown_configuration_over_time (h : Reachable settings s)
    (hr : ReflTransGen (Step settings) s s') (hc : s.db.vpnConfigurations[id]? = some c)
    (hv : (getDashboard addresses s'.db telegramId now).vpnConfiguration = some v)
    (hid : v.vpnConfigurationId = id) :
    c.desiredState = .active ∧ v.clientUuid = uuidText c.clientUuid ∧
      ∃ user sub, s.db.subscriptions[c.subscriptionId]? = some sub ∧ sub.status ≠ .ended ∧
        s'.db.getUserByTelegramId telegramId = some (user, sub.userId) := by
  obtain ⟨h', d, hd, hsub, huuid, -, hdesired⟩ := h.later hr hc
  obtain ⟨user, userId, k, d', e, huser, hserves, -, rfl⟩ := h'.getDashboard_vpnConfiguration.1 hv
  obtain rfl : k = id := hid
  have hrow := hserves.row
  rw [hd] at hrow
  cases hrow
  obtain ⟨sub, hsubrow⟩ : ∃ sub, s.db.subscriptions[c.subscriptionId]? = some sub :=
    ⟨_, List.getElem?_eq_getElem (h.inv.1.subscription _ _ hc)⟩
  obtain ⟨sub', hsub', huserId, hended⟩ := h.subscription_later hr hsubrow
  obtain ⟨live, hlive, hown, hactive⟩ := hserves.subscription
  rw [hsub, hsub'] at hlive
  cases hlive
  refine ⟨?_, congrArg uuidText huuid, user, sub, hsubrow, fun hs => ?_, ?_⟩
  · cases hd' : c.desiredState with
    | active => rfl
    | revoked => exact absurd hserves.status (h'.not_active_of_revoked hd (hdesired hd'))
  · exact absurd ((hended hs).symm.trans hactive) (by decide)
  · rw [← huserId, hown]
    exact huser

/-! ## A shop -/

def address : EndpointAddress where
  serverName := "nl-1"
  host := "nl-1.example.com"
  port := 443

/-- The first configuration of the shop is active. -/
def served : List Command := claimed ++ [confirm 2 "provisioned"]

theorem dashboard_shows_own_configuration_shop : ∃ v,
    (getDashboard (fun _ => address) ((shop nodeEndpoint).after shopSettings served).db 7
      3).vpnConfiguration = some v ∧
    ∀ (other : ℤ) (now' : DateTime) (w : DashboardVpnConfigurationResponse),
      (getDashboard (fun _ => address) ((shop nodeEndpoint).after shopSettings served).db other
        now').vpnConfiguration = some w →
      w.vpnConfigurationId = 0 → other = 7 := by
  have hr : Reachable shopSettings ((shop nodeEndpoint).after shopSettings served) :=
    .after (shop_initial _) (by decide +kernel)
  have ht : ((shop nodeEndpoint).after shopSettings served).db.subscriptions.all (fun sub =>
      sub.tariffId <
        ((shop nodeEndpoint).after shopSettings served).db.tariffs.length) = true := by
    decide +kernel
  obtain ⟨v, hv⟩ := Option.isSome_iff_exists.1
    (show (getDashboard (fun _ => address) ((shop nodeEndpoint).after shopSettings served).db 7
      3).vpnConfiguration.isSome = true by decide +kernel)
  have hzero : (getDashboard (fun _ => address)
      ((shop nodeEndpoint).after shopSettings served).db 7 3).vpnConfiguration.map
        (·.vpnConfigurationId) = some 0 := by decide +kernel
  obtain ⟨user, userId, id, c, e, r, -, -, -, rfl, -, -, -, -, hother, -⟩ :=
    (dashboard_shows_own_configuration hr fun sub hsub =>
      of_decide_eq_true (List.all_eq_true.1 ht sub hsub)).1 hv
  rw [hv] at hzero
  obtain rfl : id = 0 := Option.some.inj hzero
  exact ⟨_, hv, hother⟩

theorem shown_configuration_over_time_shop : ∃ c,
    ((shop nodeEndpoint).after shopSettings claimed).db.vpnConfigurations[0]? = some c ∧
      c.desiredState = .active := by
  have hr : Reachable shopSettings ((shop nodeEndpoint).after shopSettings claimed) :=
    .after (shop_initial _) (by decide +kernel)
  have hstep : ((shop nodeEndpoint).after shopSettings claimed).exec shopSettings
      (confirm 2 "provisioned") = some ((shop nodeEndpoint).after shopSettings served) := by
    decide +kernel
  obtain ⟨v, hv, hid⟩ := (Option.any_eq_true _ _).1
    (show (getDashboard (fun _ => address) ((shop nodeEndpoint).after shopSettings served).db 7
      3).vpnConfiguration.any (·.vpnConfigurationId = 0) = true by decide +kernel)
  obtain ⟨c, hc⟩ := Option.isSome_iff_exists.1
    (show (((shop nodeEndpoint).after shopSettings claimed).db.vpnConfigurations[0]?).isSome = true
      by decide +kernel)
  exact ⟨c, hc, (shown_configuration_over_time hr (.single ⟨_, hstep⟩) hc hv
    (of_decide_eq_true hid)).1⟩

end System

end ShopBot
