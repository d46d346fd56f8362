import ShopBot.Refinement.System
import ShopBot.System.BotSystem

/-! # What one event does to the bot

Each event starts a handler, lets one go on, or is a transaction of the shop. These are the
facts from which every invariant of the bot is derived.
-/

namespace ShopBot

open TelegramBot

namespace BotSystem

variable {settings : Settings} {botSettings : BotSettings} {addresses : ℕ → EndpointAddress}
  {descriptions : ℕ → Option String} {b b' : BotSystem} {w w' : Handler} {k : ℕ}
  {r : ℤ × Screen} {ev : BotEvent}

/-- What an update that is received leaves. -/
inductive Received (b : BotSystem) (user : TelegramUser) (route : Route) (hasMessage : Bool) :
    Bool → BotSystem → Prop where
  | known (b' : BotSystem) (shop : b'.shop = b.shop) (handlers : b'.handlers = b.handlers)
      (screens : b'.screens = b.screens) : Received b user route hasMessage false b'

  | fresh (b' : BotSystem) (stage : Stage) (shop : b'.shop = b.shop)
      (idle : ∀ prepared, stage ≠ .waiting prepared)
      (handlers : b'.handlers = b.handlers ++ [⟨user, route, hasMessage, stage⟩])
      (screens : b'.screens = b.screens ∨
        b'.screens = b.screens ++ [(user.id, route.opening.1)]) :
      Received b user route hasMessage true b'

theorem opening_idle (route : Route) (prepared : PreparedPaymentOrder) :
    route.opening.2 ≠ .waiting prepared := by
  cases route <;> exact Stage.noConfusion

theorem openHandler_received (b : BotSystem) (user : TelegramUser) (route : Route)
    (hasMessage : Bool) : Received b user route hasMessage true (b.openHandler user route hasMessage) := by
  cases hasMessage with
  | true => exact .fresh _ route.opening.2 rfl (opening_idle route) rfl (.inr rfl)
  | false => exact .fresh _ .finished rfl (fun _ => Stage.noConfusion) rfl (.inl rfl)

theorem start_received (b : BotSystem) (user : TelegramUser) (route : Route) (hasMessage : Bool) :
    Received b user route hasMessage true (b.start user route hasMessage) := by
  cases route with
  | selectTariff tariffId intentId =>
    exact .fresh _ .choosing rfl (fun _ => Stage.noConfusion) rfl (.inl rfl)
  | _ => exact openHandler_received b user _ hasMessage

theorem start_memory (b : BotSystem) (user : TelegramUser) (route : Route) (hasMessage : Bool) :
    (b.start user route hasMessage).memory = b.memory ∧
      (b.start user route hasMessage).clock = b.clock := by
  cases route <;> cases hasMessage <;> exact ⟨rfl, rfl⟩

theorem Received.of_ensureOnce {key : String} {user : TelegramUser} {route : Route}
    {hasMessage isNew : Bool} {now : DateTime}
    (h : Received (b.ensureOnce botSettings key now).2 user route hasMessage isNew b') :
    Received b user route hasMessage isNew b' := by
  cases h with
  | known _ shop handlers screens => exact .known _ shop handlers screens
  | fresh _ stage shop idle handlers screens => exact .fresh _ stage shop idle handlers screens

theorem receive_eq_some {key : String} {user : TelegramUser} {route : Route} {hasMessage : Bool}
    {now : DateTime} (h : b.receive botSettings key user route hasMessage now = some b') :
    b.clock ≤ now ∧ b'.clock = now ∧
      b'.memory = (ExpiringMemory.remember (seconds botSettings.dedupTtlSeconds) b.memory key now).2 ∧
      Received b user route hasMessage (ExpiringMemory.remember
        (seconds botSettings.dedupTtlSeconds) b.memory key now).1 b' := by
  unfold receive at h
  split_ifs at h with hclock
  refine ⟨not_lt.1 hclock, ?_⟩
  have h : (if (b.ensureOnce botSettings key now).1 = true then
      (b.ensureOnce botSettings key now).2.start user route hasMessage
    else (b.ensureOnce botSettings key now).2) = b' := Option.some.inj h
  change b'.clock = now ∧ b'.memory = (b.ensureOnce botSettings key now).2.memory ∧
    Received b user route hasMessage (b.ensureOnce botSettings key now).1 b'
  cases hnew : (b.ensureOnce botSettings key now).1 with
  | true =>
    obtain rfl := (if_pos hnew).symm.trans h
    obtain ⟨hmemory, hnow⟩ := start_memory (b.ensureOnce botSettings key now).2 user route hasMessage
    exact ⟨hnow, hmemory, (start_received _ user route hasMessage).of_ensureOnce⟩
  | false =>
    obtain rfl := (if_neg (Bool.eq_false_iff.1 hnew)).symm.trans h
    exact ⟨rfl, rfl, .known _ rfl rfl rfl⟩

/-- A handler goes on: its stage changes, and a screen may be shown. -/
structure GoesOn (b : BotSystem) (k : ℕ) (w : Handler) (stage : Stage) (b' : BotSystem) : Prop where
  row : b.handlers[k]? = some w
  handlers : b'.handlers = b.handlers.set k { w with stage := stage }
  screens : b'.screens = b.screens ∨
    ∃ screen, w.route.Shows screen ∧ b'.screens = b.screens ++ [(w.user.id, screen)]

/-- The handler of a button goes on, or its intent is known and it stops. -/
theorem takeIntent_cases {now : DateTime} (h : b.takeIntent botSettings k now = some b') :
    ∃ w tariffId intentId, b.handlers[k]? = some w ∧
      w.route.order = some (tariffId, intentId) ∧ w.stage = .choosing ∧ b.clock ≤ now ∧
      b'.clock = now ∧ b'.shop = b.shop ∧
      b'.memory = (b.ensureOnce botSettings (intentKey w.user.id tariffId intentId) now).2.memory ∧
      ((b.ensureOnce botSettings (intentKey w.user.id tariffId intentId) now).1 = true ∧
          w.hasMessage = true ∧
          b'.handlers = b.handlers.set k { w with stage := w.route.opening.2 } ∧
          b'.screens = b.screens ++ [(w.user.id, w.route.opening.1)] ∨
        ((b.ensureOnce botSettings (intentKey w.user.id tariffId intentId) now).1 = true →
            w.hasMessage = false) ∧
          b'.handlers = b.handlers.set k { w with stage := .finished } ∧
          b'.screens = b.screens) := by
  obtain ⟨w, hw, h⟩ := Option.bind_eq_some_iff.1 h
  obtain ⟨⟨tariffId, intentId⟩, horder, h⟩ := Option.bind_eq_some_iff.1 h
  dsimp only at h
  split_ifs at h with hguard hnew
  all_goals push Not at hguard
  · cases h
    obtain ⟨hnew, hmessage⟩ := Bool.and_eq_true_iff.1 hnew
    exact ⟨w, tariffId, intentId, hw, horder, hguard.1, hguard.2, rfl, rfl, rfl,
      .inl ⟨hnew, hmessage, rfl, rfl⟩⟩
  · cases h
    refine ⟨w, tariffId, intentId, hw, horder, hguard.1, hguard.2, rfl, rfl, rfl,
      .inr ⟨fun htrue => ?_, rfl, rfl⟩⟩
    rwa [htrue, Bool.true_and, Bool.not_eq_true] at hnew

theorem takeIntent_eq_some {now : DateTime} (h : b.takeIntent botSettings k now = some b') :
    ∃ w stage, (∀ prepared, stage ≠ .waiting prepared) ∧ b'.shop = b.shop ∧
      GoesOn b k w stage b' := by
  obtain ⟨w, _, _, hw, -, -, -, -, hshop, -, hcases⟩ := takeIntent_cases h
  rcases hcases with ⟨-, -, hhandlers, hscreens⟩ | ⟨-, hhandlers, hscreens⟩
  · exact ⟨w, w.route.opening.2, opening_idle w.route, hshop, hw, hhandlers,
      .inr ⟨_, .opening, hscreens⟩⟩
  · exact ⟨w, .finished, fun _ => Stage.noConfusion, hshop, hw, hhandlers, .inl hscreens⟩

theorem registerHandlerUser_eq_some (h : b.registerHandlerUser k = some b') :
    ∃ w id db stage, registerUser b.shop.db w.user.id (displayName w.user) = .ok (id, db) ∧
      b'.shop = { b.shop with db := db } ∧ b'.memory = b.memory ∧ b'.clock = b.clock ∧
      (stage = w.stage ∨ stage = .reading) ∧ GoesOn b k w stage b' := by
  obtain ⟨w, hw, h⟩ := Option.bind_eq_some_iff.1 h
  obtain ⟨⟨id, db⟩, hdb, h⟩ := Option.bind_eq_some_iff.1 h
  have hok := System.toOption_eq_some hdb
  dsimp only at h
  split_ifs at h with hstage
  · cases h
    exact ⟨w, id, db, _, hok, rfl, rfl, rfl, .inr rfl, hw, rfl, .inl rfl⟩
  · cases h
    refine ⟨w, id, db, w.stage, hok, rfl, rfl, rfl, .inl rfl, hw, ?_, .inl rfl⟩
    obtain ⟨hlt, rfl⟩ := List.getElem?_eq_some_iff.1 hw
    exact (List.set_getElem_self hlt).symm

theorem readDashboard_eq_some {now : DateTime} (h : b.readDashboard addresses k now = some b') :
    ∃ w, b'.shop = b.shop ∧ b'.memory = b.memory ∧ b'.clock = b.clock ∧
      GoesOn b k w .finished b' := by
  obtain ⟨w, hw, h⟩ := Option.bind_eq_some_iff.1 h
  split_ifs at h
  obtain ⟨screen, hscreen, h⟩ := Option.bind_eq_some_iff.1 h
  cases h
  exact ⟨w, rfl, rfl, rfl, hw, rfl, .inr ⟨screen, .dashboard hscreen, rfl⟩⟩

theorem useTariffs_idle {route : Route} {offered : List TariffResponse} {intentIds : ℕ → IntentId}
    {screen : Option Screen} {stage : Stage}
    (h : route.useTariffs offered intentIds = some (screen, stage)) (prepared : PreparedPaymentOrder) :
    stage ≠ .waiting prepared := by
  unfold Route.useTariffs at h
  split at h
  · cases h
    exact Stage.noConfusion
  · cases h
    exact Stage.noConfusion
  · split_ifs at h <;> cases h <;> exact Stage.noConfusion
  · split_ifs at h <;> cases h <;> exact Stage.noConfusion
  · cases h

theorem readTariffs_eq_some {intentIds : ℕ → IntentId}
    (h : b.readTariffs descriptions k intentIds = some b') :
    ∃ w stage, (∀ prepared, stage ≠ .waiting prepared) ∧ b'.shop = b.shop ∧ b'.memory = b.memory ∧
      b'.clock = b.clock ∧ GoesOn b k w stage b' := by
  obtain ⟨w, hw, h⟩ := Option.bind_eq_some_iff.1 h
  split_ifs at h
  obtain ⟨⟨screen, stage⟩, hscreen, h⟩ := Option.bind_eq_some_iff.1 h
  cases screen with
  | none =>
    cases h
    exact ⟨w, stage, useTariffs_idle hscreen, rfl, rfl, rfl, hw, rfl, .inl rfl⟩
  | some screen =>
    cases h
    exact ⟨w, stage, useTariffs_idle hscreen, rfl, rfl, rfl, hw, rfl, .inr ⟨screen, .tariffs hscreen, rfl⟩⟩

theorem createOrder_eq_some {now : DateTime} {leaseSeconds : ℤ} {token : Uuid}
    (h : b.createOrder settings botSettings k now leaseSeconds token = some b') :
    ∃ w tariffId intentId prepared db stage, w.route.order = some (tariffId, intentId) ∧
      CreatePayment.prepareOrder b.shop.db
        (orderRequest botSettings.provider w.user tariffId intentId) now leaseSeconds token =
          .ok (prepared, db) ∧
      b.shop.exec settings (.createPayment
        (orderRequest botSettings.provider w.user tariffId intentId) now leaseSeconds token) =
          some b'.shop ∧
      b'.memory = b.memory ∧ b'.clock = b.clock ∧
      (stage = .waiting prepared ∨ stage = .finished) ∧ GoesOn b k w stage b' := by
  obtain ⟨w, hw, h⟩ := Option.bind_eq_some_iff.1 h
  obtain ⟨⟨tariffId, intentId⟩, horder, h⟩ := Option.bind_eq_some_iff.1 h
  obtain ⟨⟨prepared, db⟩, hprepared, h⟩ := Option.bind_eq_some_iff.1 h
  obtain ⟨shop, hshop, h⟩ := Option.bind_eq_some_iff.1 h
  have hok := System.toOption_eq_some hprepared
  dsimp only at h
  split at h
  · cases h
    exact ⟨w, tariffId, intentId, prepared, db, _, horder, hok, hshop, rfl, rfl, .inl rfl, hw, rfl,
      .inl rfl⟩
  · cases h
    exact ⟨w, tariffId, intentId, prepared, db, _, horder, hok, hshop, rfl, rfl, .inr rfl, hw, rfl,
      .inl rfl⟩
  · cases h

theorem answerOrder_eq_some {attempt : PaymentAttempt} (h : b.answerOrder k attempt = some b') :
    ∃ w prepared, w.stage = .waiting prepared ∧ b.handlers[k]? = some w ∧ b'.shop = b.shop ∧
      b'.memory = b.memory ∧ b'.clock = b.clock ∧
      b'.handlers = b.handlers.set k { w with stage := .finished } ∧
      b'.screens = b.screens ++ [(w.user.id, .payment (orderResponse prepared attempt))] := by
  obtain ⟨w, hw, h⟩ := Option.bind_eq_some_iff.1 h
  split at h
  · next prepared hstage =>
    cases h
    exact ⟨w, prepared, hstage, hw, rfl, rfl, rfl, rfl, rfl⟩
  · cases h

theorem fail_eq_some (h : b.fail k = some b') :
    ∃ w stage, (∀ prepared, stage ≠ .waiting prepared) ∧ b'.shop = b.shop ∧ b'.memory = b.memory ∧
      b'.clock = b.clock ∧ GoesOn b k w stage b' := by
  obtain ⟨w, hw, h⟩ := Option.bind_eq_some_iff.1 h
  obtain ⟨stage, hstage, h⟩ := Option.bind_eq_some_iff.1 h
  obtain ⟨screen, hscreen, h⟩ := Option.bind_eq_some_iff.1 h
  cases h
  refine ⟨w, stage, fun prepared hwaiting => ?_, rfl, rfl, rfl, hw, rfl,
    .inr ⟨screen, .failure hscreen, rfl⟩⟩
  subst hwaiting
  unfold stageAfterFailure at hstage
  split at hstage <;> cases hstage

/-! ## Handlers and screens -/

/-- The handlers keep their users and their routes. -/
def KeepsHandlers (b b' : BotSystem) : Prop :=
  ∀ w' ∈ b'.handlers, ∃ w ∈ b.handlers, w'.user = w.user ∧ w'.route = w.route

theorem GoesOn.keepsHandlers {stage : Stage} (h : GoesOn b k w stage b') : KeepsHandlers b b' := by
  intro w' hw'
  rw [h.handlers] at hw'
  rcases List.mem_or_eq_of_mem_set hw' with hw' | rfl
  · exact ⟨w', hw', rfl, rfl⟩
  · exact ⟨w, List.mem_of_getElem? h.row, rfl, rfl⟩

theorem GoesOn.mem_handlers {stage : Stage} (h : GoesOn b k w stage b') :
    { w with stage := stage } ∈ b'.handlers := by
  rw [h.handlers]
  exact List.mem_set (List.getElem?_eq_some_iff.1 h.row).1 _

theorem GoesOn.screens_cases {stage : Stage} (h : GoesOn b k w stage b') (hr : r ∈ b'.screens) :
    r ∈ b.screens ∨ ∃ w' ∈ b'.handlers, r.1 = w'.user.id ∧ w'.route.Shows r.2 := by
  rcases h.screens with hs | ⟨screen, hshows, hs⟩
  · exact .inl (hs ▸ hr)
  · rw [hs] at hr
    rcases List.mem_append.1 hr with hr | hr
    · exact .inl hr
    · obtain rfl := List.mem_singleton.1 hr
      exact .inr ⟨_, h.mem_handlers, rfl, hshows⟩

theorem Received.handlers_cases {user : TelegramUser} {route : Route} {hasMessage isNew : Bool}
    (h : Received b user route hasMessage isNew b') (hw : w' ∈ b'.handlers) :
    w' ∈ b.handlers ∨ w'.user = user ∧ w'.route = route := by
  cases h with
  | known _ shop handlers screens => exact .inl (handlers ▸ hw)
  | fresh _ stage shop idle handlers screens =>
    rw [handlers] at hw
    rcases List.mem_append.1 hw with hw | hw
    · exact .inl hw
    · obtain rfl := List.mem_singleton.1 hw
      exact .inr ⟨rfl, rfl⟩

theorem Received.screens_cases {user : TelegramUser} {route : Route} {hasMessage isNew : Bool}
    (h : Received b user route hasMessage isNew b') (hr : r ∈ b'.screens) :
    r ∈ b.screens ∨ ∃ w' ∈ b'.handlers, r.1 = w'.user.id ∧ w'.route.Shows r.2 := by
  cases h with
  | known _ shop handlers screens => exact .inl (screens ▸ hr)
  | fresh _ stage shop idle handlers screens =>
    rcases screens with hs | hs
    · exact .inl (hs ▸ hr)
    · rw [hs] at hr
      rcases List.mem_append.1 hr with hr | hr
      · exact .inl hr
      · obtain rfl := List.mem_singleton.1 hr
        exact .inr ⟨_, handlers ▸ List.mem_append_right _ (List.mem_singleton_self _), rfl, .opening⟩

/-- A handler was at work before the event, or the event has started it. -/
theorem exec_handlers (h : b.exec settings botSettings addresses descriptions ev = some b')
    (hw : w' ∈ b'.handlers) :
    (∃ w ∈ b.handlers, w'.user = w.user ∧ w'.route = w.route) ∨ ev.Starts w'.user w'.route := by
  cases ev with
  | message m now =>
    obtain ⟨-, -, -, h⟩ := receive_eq_some h
    exact (h.handlers_cases hw).imp_left fun hw => ⟨w', hw, rfl, rfl⟩
  | callback c now =>
    obtain ⟨-, -, -, h⟩ := receive_eq_some h
    exact (h.handlers_cases hw).imp_left fun hw => ⟨w', hw, rfl, rfl⟩
  | takeIntent handler now =>
    obtain ⟨w, _, -, -, h⟩ := takeIntent_eq_some h
    exact .inl (h.keepsHandlers w' hw)
  | registerUser handler =>
    obtain ⟨w, _, _, _, -, -, -, -, -, h⟩ := registerHandlerUser_eq_some h
    exact .inl (h.keepsHandlers w' hw)
  | readDashboard handler now =>
    obtain ⟨w, -, -, -, h⟩ := readDashboard_eq_some h
    exact .inl (h.keepsHandlers w' hw)
  | readTariffs handler intentIds =>
    obtain ⟨w, _, -, -, -, -, h⟩ := readTariffs_eq_some h
    exact .inl (h.keepsHandlers w' hw)
  | createOrder handler now leaseSeconds token =>
    obtain ⟨w, _, _, _, _, _, -, -, -, -, -, -, h⟩ := createOrder_eq_some h
    exact .inl (h.keepsHandlers w' hw)
  | answerOrder handler attempt =>
    obtain ⟨w, -, -, hrow, -, -, -, hhandlers, -⟩ := answerOrder_eq_some h
    rw [hhandlers] at hw
    rcases List.mem_or_eq_of_mem_set hw with hw | rfl
    · exact .inl ⟨w', hw, rfl, rfl⟩
    · exact .inl ⟨w, List.mem_of_getElem? hrow, rfl, rfl⟩
  | fail handler =>
    obtain ⟨w, _, -, -, -, -, h⟩ := fail_eq_some h
    exact .inl (h.keepsHandlers w' hw)
  | shop cmd =>
    simp only [exec] at h
    split_ifs at h
    obtain ⟨shop, -, rfl⟩ := Option.map_eq_some_iff.1 h
    exact .inl ⟨w', hw, rfl, rfl⟩

/-- A screen was shown before the event, or a handler shows it, or it is that of an order. -/
theorem exec_screens (h : b.exec settings botSettings addresses descriptions ev = some b')
    (hr : r ∈ b'.screens) :
    r ∈ b.screens ∨ (∃ w' ∈ b'.handlers, r.1 = w'.user.id ∧ w'.route.Shows r.2) ∨
      ∃ order, r.2 = .payment order := by
  have hshows : (r ∈ b.screens ∨ ∃ w' ∈ b'.handlers, r.1 = w'.user.id ∧ w'.route.Shows r.2) →
      r ∈ b.screens ∨ (∃ w' ∈ b'.handlers, r.1 = w'.user.id ∧ w'.route.Shows r.2) ∨
        ∃ order, r.2 = .payment order := fun h => h.imp_right .inl
  cases ev with
  | message m now =>
    obtain ⟨-, -, -, h⟩ := receive_eq_some h
    exact hshows (h.screens_cases hr)
  | callback c now =>
    obtain ⟨-, -, -, h⟩ := receive_eq_some h
    exact hshows (h.screens_cases hr)
  | takeIntent handler now =>
    obtain ⟨w, _, -, -, h⟩ := takeIntent_eq_some h
    exact hshows (h.screens_cases hr)
  | registerUser handler =>
    obtain ⟨w, _, _, _, -, -, -, -, -, h⟩ := registerHandlerUser_eq_some h
    exact hshows (h.screens_cases hr)
  | readDashboard handler now =>
    obtain ⟨w, -, -, -, h⟩ := readDashboard_eq_some h
    exact hshows (h.screens_cases hr)
  | readTariffs handler intentIds =>
    obtain ⟨w, _, -, -, -, -, h⟩ := readTariffs_eq_some h
    exact hshows (h.screens_cases hr)
  | createOrder handler now leaseSeconds token =>
    obtain ⟨w, _, _, _, _, _, -, -, -, -, -, -, h⟩ := createOrder_eq_some h
    exact hshows (h.screens_cases hr)
  | answerOrder handler attempt =>
    obtain ⟨w, prepared, -, -, -, -, -, -, hscreens⟩ := answerOrder_eq_some h
    rw [hscreens] at hr
    rcases List.mem_append.1 hr with hr | hr
    · exact .inl hr
    · obtain rfl := List.mem_singleton.1 hr
      exact .inr (.inr ⟨_, rfl⟩)
  | fail handler =>
    obtain ⟨w, _, -, -, -, -, h⟩ := fail_eq_some h
    exact hshows (h.screens_cases hr)
  | shop cmd =>
    simp only [exec] at h
    split_ifs at h
    obtain ⟨shop, -, rfl⟩ := Option.map_eq_some_iff.1 h
    exact .inl hr

end BotSystem

end ShopBot
