import Mathlib.Data.String.Basic
import ShopBot.Guarantees.Dashboard
import ShopBot.Guarantees.VlessRoundTrip
import ShopBot.Refinement.BotSteps

/-! # Every button works

The data of a button is read back by the handler that it is routed to. So no screen that the
bot shows has a button that is stale, however its handlers are interleaved, and the data of a
button is short enough to be accepted.
-/

namespace ShopBot

namespace TelegramBot

open String

/-! ## The sizes of texts -/

theorem length_le_utf8Len : ∀ text : List Char, text.length ≤ utf8Len text
  | [] => le_rfl
  | c :: text => by
      have ih := length_le_utf8Len text
      have hpos := c.utf8Size_pos
      simp only [List.length_cons, utf8Len_cons]
      omega

theorem utf8Len_eq_length : ∀ {text : List Char}, (∀ c ∈ text, c.utf8Size = 1) →
    utf8Len text = text.length
  | [], _ => rfl
  | c :: text, h => by
      have ih := utf8Len_eq_length fun d hd => h d (List.mem_cons_of_mem _ hd)
      simp only [List.length_cons, utf8Len_cons, ih, h c List.mem_cons_self]

theorem utf8Size_of_le {c : Char} (h : c.val ≤ 'z'.val) : c.utf8Size = 1 :=
  Char.utf8Size_eq_one_iff.2 (UInt32.le_trans h (by decide))

theorem utf8Size_of_isDigit {c : Char} (h : c.isDigit = true) : c.utf8Size = 1 := by
  simp only [Char.isDigit, Bool.and_eq_true, decide_eq_true_eq] at h
  exact utf8Size_of_le (UInt32.le_trans h.2 (by decide))

theorem isIntentChar_iff {c : Char} : isIntentChar c = true ↔
    ('A'.val ≤ c.val ∧ c.val ≤ 'Z'.val) ∨ ('a'.val ≤ c.val ∧ c.val ≤ 'z'.val) ∨
      ('0'.val ≤ c.val ∧ c.val ≤ '9'.val) ∨ c = '_' ∨ c = '-' := by
  change (decide ('A'.val ≤ c.val ∧ c.val ≤ 'Z'.val) ||
    (decide ('a'.val ≤ c.val) && decide (c.val ≤ 'z'.val)) ||
    (decide ('0'.val ≤ c.val) && decide (c.val ≤ '9'.val)) || decide (c = '_') ||
    decide (c = '-')) = true ↔ _
  simp only [Bool.or_eq_true, Bool.and_eq_true, decide_eq_true_eq, or_assoc]

theorem utf8Size_of_isIntentChar {c : Char} (h : isIntentChar c = true) : c.utf8Size = 1 := by
  rcases isIntentChar_iff.1 h with ⟨-, h⟩ | ⟨-, h⟩ | ⟨-, h⟩ | rfl | rfl
  · exact utf8Size_of_le (UInt32.le_trans h (by decide))
  · exact utf8Size_of_le h
  · exact utf8Size_of_le (UInt32.le_trans h (by decide))
  · decide
  · decide

theorem ofDigitChars_lt : ∀ {text : List Char}, text.all Char.isDigit = true →
    Nat.ofDigitChars 10 text 0 < 10 ^ text.length
  | [], _ => by simp
  | c :: text, h => by
      obtain ⟨hdigit, hrest⟩ := Bool.and_eq_true_iff.1 h
      have ih := ofDigitChars_lt hrest
      have hc : c.toNat - '0'.toNat ≤ 9 := by
        simp only [Char.isDigit, Bool.and_eq_true, decide_eq_true_eq] at hdigit
        exact Nat.sub_le_of_le_add hdigit.2
      calc Nat.ofDigitChars 10 (c :: text) 0
          = 10 ^ text.length * (c.toNat - '0'.toNat) + Nat.ofDigitChars 10 text 0 := by
            rw [Nat.ofDigitChars_cons, Nat.ofDigitChars_eq_ofDigitChars_zero, Nat.mul_zero,
              Nat.zero_add]
        _ < 10 ^ text.length * 9 + 10 ^ text.length :=
            Nat.add_lt_add_of_le_of_lt (Nat.mul_le_mul_left _ hc) ih
        _ = 10 ^ (c :: text).length := by
            rw [List.length_cons, Nat.pow_succ]
            omega

/-- A number that is written in some digits has no more of them. -/
theorem length_toDigits_of_parseDecimal {text : List Char} {n : ℕ}
    (h : IpAddress.parseDecimal text = some n) : (Nat.toDigits 10 n).length ≤ text.length := by
  obtain ⟨⟨hne, hdigits⟩, h⟩ := Option.ite_none_right_eq_some.1 h
  obtain rfl := Option.some.inj h
  rw [Nat.length_toDigits_le_iff (by decide) (List.length_pos_of_ne_nil hne)]
  exact ofDigitChars_lt hdigits

/-! ## The data of an order -/

/-- The data of a button that orders. -/
def orderData (head : String) (tariffId : ℕ) (intentId : IntentId) : String :=
  s!"{head}{tariffId}:{intentId.1}"

variable {head data : String} {tariffId : ℕ} {intentId : IntentId}

theorem IntentId.length (intentId : IntentId) : intentId.1.toList.length = 10 := by
  have h := intentId.2
  simp only [isIntentId, Bool.and_eq_true, decide_eq_true_eq] at h
  exact h.1

theorem IntentId.chars (intentId : IntentId) {c : Char} (hc : c ∈ intentId.1.toList) :
    isIntentChar c = true := by
  have h := intentId.2
  simp only [isIntentId, Bool.and_eq_true] at h
  exact List.all_eq_true.1 h.2 c hc

theorem IntentId.not_mem_colon (intentId : IntentId) : ':' ∉ intentId.1.toList := by
  intro h
  exact absurd (IntentId.chars intentId h) (by decide)

theorem not_mem_colon_toDigits {n : ℕ} : ':' ∉ Nat.toDigits 10 n := by
  intro h
  exact absurd (Nat.isDigit_of_mem_toDigits (by decide) (by decide) h) (by decide)

theorem toList_orderData : (orderData head tariffId intentId).toList =
    head.toList ++ (Nat.toDigits 10 tariffId ++ ':' :: intentId.1.toList) := by
  simp [orderData, ToString.toString]

/-- An order is read back from the data of its button. -/
theorem parseOrderCallback_orderData :
    parseOrderCallback (orderData head tariffId intentId) head = some (tariffId, intentId) := by
  have hsplit : (Nat.toDigits 10 tariffId ++ ':' :: intentId.1.toList).splitOn ':' =
      [Nat.toDigits 10 tariffId, intentId.1.toList] := by
    have hfree : ∀ part ∈ [Nat.toDigits 10 tariffId, intentId.1.toList], ':' ∉ part := by
      simp [not_mem_colon_toDigits, IntentId.not_mem_colon intentId]
    have hjoin := List.splitOn_intercalate ':' hfree (by simp)
    simpa using hjoin
  have hdecimal : IpAddress.parseDecimal (Nat.toDigits 10 tariffId) = some tariffId := by
    rw [IpAddress.parseDecimal, if_pos, Nat.ofDigitChars_ten_toDigits]
    exact ⟨Nat.toDigits_ne_nil, List.all_eq_true.2 fun c hc =>
      Nat.isDigit_of_mem_toDigits (by decide) (by decide) hc⟩
  simp only [parseOrderCallback, toList_orderData, VlessBuildInput.dropPrefix?_append_self,
    Option.bind_eq_bind, Option.bind_some, hsplit, hdecimal, String.ofList_toList]
  rw [dif_pos intentId.2]

/-- The number of a tariff that is read from a button is as short as the button. -/
theorem length_of_parseOrderCallback (h : parseOrderCallback data head = some (tariffId, intentId)) :
    head.toList.length + (Nat.toDigits 10 tariffId).length + 11 ≤ data.utf8ByteSize := by
  obtain ⟨rest, hrest, h⟩ := Option.bind_eq_some_iff.1 h
  split at h
  · next tariffRaw intent hsplit =>
    obtain ⟨n, hn, h⟩ := Option.bind_eq_some_iff.1 h
    split_ifs at h with hintent
    cases h
    have hjoin : [':'].intercalate (rest.splitOn ':') = rest := List.intercalate_splitOn ':'
    rw [hsplit] at hjoin
    have hlength : intent.length = 10 := by
      simpa using IntentId.length ⟨.ofList intent, hintent⟩
    have hdigits := length_toDigits_of_parseDecimal hn
    obtain ⟨start, hdata, hstart⟩ := List.dropPrefix?_eq_some_iff.1 hrest
    obtain rfl := eq_of_beq hstart
    have hbytes := length_le_utf8Len data.toList
    rw [utf8Len_toList, hdata, ← hjoin] at hbytes
    simp only [List.intercalate_cons_cons, List.intercalate_singleton, List.length_append,
      List.length_singleton, hlength] at hbytes
    omega
  · cases h

/-! ## Where buttons lead -/

theorem routeCallback_select :
    routeCallback (orderData "ui2:o:" tariffId intentId) = .selectTariff tariffId intentId := by
  have hne : ∀ other ∈ ["ui2:h", "ui2:t", "ui2:v", "ui2:i", "ui2:help"],
      orderData "ui2:o:" tariffId intentId ≠ other := by
    intro other hother h
    have h := congrArg String.toList h
    rw [toList_orderData] at h
    simp only [List.mem_cons, List.not_mem_nil, or_false] at hother
    rcases hother with rfl | rfl | rfl | rfl | rfl <;> simp at h
  simp only [List.forall_mem_cons] at hne
  simp only [routeCallback, hne, if_false, prefixedRoute, parseOrderCallback_orderData]
  simp [toList_orderData, List.dropPrefix?]

theorem routeCallback_retry :
    routeCallback (orderData "ui2:r:" tariffId intentId) = .retryOrder tariffId intentId := by
  have hne : ∀ other ∈ ["ui2:h", "ui2:t", "ui2:v", "ui2:i", "ui2:help"],
      orderData "ui2:r:" tariffId intentId ≠ other := by
    intro other hother h
    have h := congrArg String.toList h
    rw [toList_orderData] at h
    simp only [List.mem_cons, List.not_mem_nil, or_false] at hother
    rcases hother with rfl | rfl | rfl | rfl | rfl <;> simp at h
  simp only [List.forall_mem_cons] at hne
  simp only [routeCallback, hne, if_false, prefixedRoute, parseOrderCallback_orderData]
  simp [toList_orderData, List.dropPrefix?]

/-- The data of the buttons that lead to a screen. -/
def menuData : List String :=
  ["ui2:h", "ui2:t", "ui2:v", "ui2:i", "ui2:help", "ui2:b:h", "ui2:b:t", "ui2:retry:h",
    "ui2:retry:t", "ui2:retry:v"]

theorem menuData_live : ∀ data ∈ menuData, routeCallback data ≠ .stale ∧
    (routeCallback data).order = none ∧ data.utf8ByteSize ≤ 64 := by
  decide +kernel

/-! ## The buttons of a screen -/

/-- What is known of a screen that the bot shows: where it leads back to, and that the number
of a tariff came with the data of a button. -/
def Screen.Sound : Screen → Prop
  | .backendError contextCode => contextCode ∈ ["h", "t", "v"]
  | .orderError tariffId _ => (Nat.toDigits 10 tariffId).length ≤ 47
  | _ => True

/-- A screen offers the order of a tariff with an intent. -/
inductive Screen.Offers : Screen → ℕ → IntentId → Prop where
  | tariffs {offered : List TariffResponse} {intentIds : ℕ → IntentId} {tariff : TariffResponse}
      (listed : tariff ∈ offered) :
      Offers (.tariffs offered intentIds) tariff.tariffId (intentIds tariff.tariffId)

  | retry {tariffId : ℕ} {intentId : IntentId} : Offers (.orderError tariffId intentId) tariffId intentId

variable {formatPrice : ℕ → String → String} {urlparse : String → ParsedUrl} {isProduction : Bool}
  {screen : Screen}

theorem callbacks_tariffsKeyboard {offered : List TariffResponse} {intentIds : ℕ → IntentId} :
    callbacks (tariffsKeyboard formatPrice offered fun id => (intentIds id).1) =
      (offered.map fun tariff => orderData "ui2:o:" tariff.tariffId (intentIds tariff.tariffId)) ++
        ["ui2:b:h"] := by
  unfold callbacks tariffsKeyboard
  rw [List.flatten_append, List.filterMap_append]
  congr 1
  induction offered with
  | nil => rfl
  | cons tariff offered ih =>
    rw [List.map_cons, List.flatten_cons, List.filterMap_append, ih]
    rfl

theorem callbacks_paymentKeyboard {order : BotCreateOrderResponse}
    (h : data ∈ callbacks (paymentKeyboard formatPrice urlparse isProduction order)) :
    data ∈ menuData := by
  have hunavailable : ∀ data ∈ callbacks paymentUnavailableKeyboard, data ∈ menuData := by decide
  have hready : ∀ data ∈ ["ui2:v", "ui2:b:t", "ui2:h"], data ∈ menuData := by decide
  unfold paymentKeyboard at h
  split at h
  · exact hunavailable _ h
  · split_ifs at h
    · exact hunavailable _ h
    · exact hunavailable _ h
    · exact hunavailable _ h
    · exact hready _ h

/-- The data of a button leads to a screen, or orders what its screen offers. -/
theorem Screen.callbacks_cases (hs : screen.Sound)
    (h : data ∈ callbacks (screen.keyboard formatPrice urlparse isProduction)) :
    data ∈ menuData ∨ ∃ tariffId intentId, screen.Offers tariffId intentId ∧
      (data = orderData "ui2:o:" tariffId intentId ∨
        data = orderData "ui2:r:" tariffId intentId ∧
          (Nat.toDigits 10 tariffId).length ≤ 47) := by
  cases screen with
  | homeLoading | orderCreating => simp [Screen.keyboard, callbacks] at h
  | tariffs offered intentIds =>
    rw [Screen.keyboard, callbacks_tariffsKeyboard, List.mem_append, List.mem_map] at h
    rcases h with ⟨tariff, htariff, rfl⟩ | h
    · exact .inr ⟨_, _, .tariffs htariff, .inl rfl⟩
    · obtain rfl := List.mem_singleton.1 h
      exact .inl (by decide)
  | orderError tariffId intentId =>
    have hrest : ∀ data ∈ ["ui2:t", "ui2:b:t", "ui2:h"], data ∈ menuData := by decide
    rcases List.mem_cons.1 (show data ∈ orderData "ui2:r:" tariffId intentId ::
      ["ui2:t", "ui2:b:t", "ui2:h"] from h) with rfl | h
    · exact .inr ⟨_, _, .retry, .inr ⟨rfl, hs⟩⟩
    · exact .inl (hrest _ h)
  | payment order => exact .inl (callbacks_paymentKeyboard h)
  | home dashboard =>
    left
    revert h
    simp only [Screen.keyboard, homeKeyboard]
    split_ifs <;> exact fun h => (by decide : ∀ data ∈ callbacks _, data ∈ menuData) _ h
  | myVpn dashboard =>
    left
    revert h
    simp only [Screen.keyboard, myVpnKeyboard]
    split_ifs <;> exact fun h => (by decide : ∀ data ∈ callbacks _, data ∈ menuData) _ h
  | backendError contextCode =>
    left
    revert h
    simp only [Screen.Sound, List.mem_cons, List.not_mem_nil, or_false] at hs
    rcases hs with rfl | rfl | rfl <;>
      exact fun h => (by decide : ∀ data ∈ callbacks (backendErrorKeyboard _), data ∈ menuData) _ h
  | tariffsLoading | myVpnLoading =>
    exact .inl ((by decide : ∀ data ∈ callbacks routeLoadingKeyboard, data ∈ menuData) _ h)
  | tariffsEmpty | tariffStale =>
    exact .inl ((by decide : ∀ data ∈ callbacks tariffRefreshKeyboard, data ∈ menuData) _ h)
  | help => exact .inl ((by decide : ∀ data ∈ callbacks helpKeyboard, data ∈ menuData) _ h)
  | instructions =>
    exact .inl ((by decide : ∀ data ∈ callbacks instructionsKeyboard, data ∈ menuData) _ h)
  | unknownInput | stale =>
    exact .inl ((by decide : ∀ data ∈ callbacks homeOnlyKeyboard, data ∈ menuData) _ h)

/-- The bytes of the data of an order. -/
theorem utf8ByteSize_orderData (hhead : head.utf8ByteSize = 6) :
    (orderData head tariffId intentId).utf8ByteSize = (Nat.toDigits 10 tariffId).length + 17 := by
  have hdigits := utf8Len_eq_length fun c hc => utf8Size_of_isDigit
    (Nat.isDigit_of_mem_toDigits (n := tariffId) (by decide : 0 < 10) (by decide) hc)
  have hintent := utf8Len_eq_length fun c hc => utf8Size_of_isIntentChar
    (IntentId.chars intentId hc)
  rw [IntentId.length] at hintent
  rw [← utf8Len_toList, toList_orderData]
  simp only [utf8Len_append, utf8Len_cons, utf8Len_toList, hhead, hdigits]
  rw [← utf8Len_toList, hintent]
  have hcolon : ':'.utf8Size = 1 := by decide
  omega

/-! ## Handlers -/

/-- The number of a tariff that a handler is about came with the data of a button. -/
def Route.Sound (route : Route) : Prop :=
  ∀ tariffId intentId, route.order = some (tariffId, intentId) →
    (Nat.toDigits 10 tariffId).length ≤ 47

theorem length_order_of_routeCallback (hbytes : data.utf8ByteSize ≤ 64)
    (h : (routeCallback data).order = some (tariffId, intentId)) :
    (Nat.toDigits 10 tariffId).length ≤ 47 := by
  have hparsed : ∀ {head : String} {route : ℕ × IntentId → Route}, head.toList.length = 6 →
      (∀ order, (route order).order = some order) →
      (((parseOrderCallback data head).map route).getD .stale).order = some (tariffId, intentId) →
      (Nat.toDigits 10 tariffId).length ≤ 47 := by
    intro head route hhead hroute h
    cases hparse : parseOrderCallback data head with
    | none =>
      rw [hparse] at h
      cases h
    | some order =>
      rw [hparse, Option.map_some, Option.getD_some, hroute] at h
      obtain rfl := Option.some.inj h
      have hlength := length_of_parseOrderCallback hparse
      omega
  have hback : ∀ code, (backRoute code).order ≠ some (tariffId, intentId) := by
    intro code
    unfold backRoute
    split <;> simp [Route.order]
  have hretry : ∀ code, (retryContextRoute code).order ≠ some (tariffId, intentId) := by
    intro code
    unfold retryContextRoute
    split <;> simp [Route.order]
  have hlegacy : (legacyRoute data).order ≠ some (tariffId, intentId) := by
    unfold legacyRoute
    split_ifs <;> simp [Route.order]
  unfold routeCallback at h
  split_ifs at h
  iterate 5 cases h
  unfold prefixedRoute at h
  split at h
  · exact absurd h (hback _)
  · exact absurd h (hretry _)
  · split_ifs at h
    · exact hparsed (by decide) (fun _ => rfl) h
    · exact hparsed (by decide) (fun _ => rfl) h
    · exact absurd h hlegacy

theorem sound_of_starts {ev : BotEvent} {user : TelegramUser} {route : Route}
    (h : ev.Starts user route) : route.Sound := by
  intro tariffId intentId horder
  cases ev with
  | message m now =>
    obtain ⟨-, rfl⟩ := h
    unfold routeMessage at horder
    split_ifs at horder <;> cases horder
  | callback c now =>
    obtain ⟨-, rfl⟩ := h
    cases hdata : c.data with
    | none =>
      rw [hdata] at horder
      cases horder
    | some data =>
      rw [hdata] at horder
      exact length_order_of_routeCallback data.2 horder
  | _ => exact h.elim

theorem Route.Shows.sound {route : Route} (h : route.Shows screen) (hs : route.Sound) :
    screen.Sound := by
  cases h with
  | opening => cases route <;> trivial
  | failure failure =>
    unfold Route.failure at failure
    split at failure
    · cases failure
      exact List.mem_of_elem_eq_true rfl
    · cases failure
      exact List.mem_of_elem_eq_true rfl
    · cases failure
      exact List.mem_of_elem_eq_true rfl
    · cases failure
      exact List.mem_of_elem_eq_true rfl
    · cases failure
      exact hs _ _ rfl
    · cases failure
      exact hs _ _ rfl
    · cases failure
  | dashboard dashboard =>
    unfold Route.showDashboard at dashboard
    split at dashboard <;> cases dashboard <;> trivial
  | tariffs tariffs =>
    unfold Route.useTariffs renderTariffs at tariffs
    split at tariffs
    · split_ifs at tariffs <;> cases tariffs <;> trivial
    · cases tariffs
      trivial
    · split_ifs at tariffs
      · cases tariffs
      · cases tariffs
        trivial
    · split_ifs at tariffs
      · cases tariffs
      · cases tariffs
        trivial
    · cases tariffs

end TelegramBot

namespace BotSystem

open TelegramBot

variable {settings : Settings} {botSettings : BotSettings} {addresses : ℕ → EndpointAddress}
  {descriptions : ℕ → Option String} {b : BotSystem} {formatPrice : ℕ → String → String}
  {urlparse : String → ParsedUrl} {isProduction : Bool} {telegramId : ℤ} {screen : Screen}
  {data : String}

/-- Handlers and screens know of no number that did not come with the data of a button. -/
theorem Reachable.sound (h : Reachable settings botSettings addresses descriptions b) :
    (∀ w ∈ b.handlers, w.route.Sound) ∧ ∀ r ∈ b.screens, r.2.Sound := by
  refine Transition.Reachable.invariant
    (fun b : BotSystem => (∀ w ∈ b.handlers, w.route.Sound) ∧ ∀ r ∈ b.screens, r.2.Sound)
    ?_ ?_ h
  · rintro b ⟨-, -, hhandlers, hscreens⟩
    rw [hhandlers, hscreens]
    exact ⟨by simp, by simp⟩
  · rintro b b' - ⟨hhandlers, hscreens⟩ ⟨ev, hev⟩
    have hhandlers' : ∀ w' ∈ b'.handlers, w'.route.Sound := by
      intro w' hw'
      rcases exec_handlers hev hw' with ⟨w, hw, -, hroute⟩ | hstarts
      · rw [hroute]
        exact hhandlers w hw
      · exact sound_of_starts hstarts
    refine ⟨hhandlers', fun r hr => ?_⟩
    rcases exec_screens hev hr with hr | ⟨w', hw', -, hshows⟩ | ⟨order, horder⟩
    · exact hscreens r hr
    · exact hshows.sound (hhandlers' w' hw')
    · rw [horder]
      trivial

/-- No button that was ever shown is stale. A button that orders leads back to the tariff and
the intent that its screen offers, and the data of a button is accepted unless the number of a
tariff on sale does not fit into its column. -/
theorem every_button_is_live (h : Reachable settings botSettings addresses descriptions b)
    (hs : (telegramId, screen) ∈ b.screens)
    (hdata : data ∈ callbacks (screen.keyboard formatPrice urlparse isProduction)) :
    routeCallback data ≠ .stale ∧
      (∀ tariffId intentId, (routeCallback data).order = some (tariffId, intentId) →
        screen.Offers tariffId intentId) ∧
      ((∀ tariffId intentId, routeCallback data = .selectTariff tariffId intentId →
        tariffId < 2 ^ 63) → data.utf8ByteSize ≤ 64) := by
  rcases Screen.callbacks_cases (h.sound.2 _ hs) hdata with
    hmenu | ⟨tariffId, intentId, hoffers, rfl | ⟨rfl, hdigits⟩⟩
  · obtain ⟨hlive, horder, hbytes⟩ := menuData_live data hmenu
    refine ⟨hlive, fun tariffId intentId hsome => ?_, fun _ => hbytes⟩
    rw [horder] at hsome
    cases hsome
  · rw [routeCallback_select]
    refine ⟨Route.noConfusion, fun t i hsome => ?_, fun hbound => ?_⟩
    · cases hsome
      exact hoffers
    · have hlt : tariffId < 10 ^ 19 := lt_trans (hbound _ _ rfl) (by decide)
      rw [← Nat.length_toDigits_le_iff (by decide) (by decide)] at hlt
      rw [utf8ByteSize_orderData (by decide)]
      omega
  · rw [routeCallback_retry]
    refine ⟨Route.noConfusion, fun t i hsome => ?_, fun _ => ?_⟩
    · cases hsome
      exact hoffers
    · rw [utf8ByteSize_orderData (by decide)]
      omega

/-! ## A shop with a bot -/

def shopBot : BotSystem where
  shop := ShopBot.shop nodeEndpoint
  memory := fun _ => none
  clock := 0
  handlers := []
  screens := []

def shopBotSettings : BotSettings where
  provider := "yookassa"
  dedupTtlSeconds := 3600
  dedupTtlSeconds_pos := by decide

/-- The bot after a list of events. -/
def after (events : List BotEvent) : BotSystem :=
  (Transition.execAll (exec shopSettings shopBotSettings (fun _ => System.address)
    fun _ => none) shopBot events).getD shopBot

theorem Reachable.after {events : List BotEvent}
    (h : (Transition.execAll (exec shopSettings shopBotSettings (fun _ => System.address)
      fun _ => none) shopBot events).isSome = true) :
    Reachable shopSettings shopBotSettings (fun _ => System.address) (fun _ => none)
      (BotSystem.after events) := by
  obtain ⟨b, hb⟩ := Option.isSome_iff_exists.1 h
  have hafter : BotSystem.after events = b := by rw [BotSystem.after, hb, Option.getD_some]
  rw [hafter]
  exact Transition.Reachable.of_execAll ⟨shop_initial _, rfl, rfl, rfl⟩ hb

def client : TelegramUser where
  id := 7
  firstName := some "client"

def intent : IntentId := ⟨"0123456789", by decide +kernel⟩

/-- The client asks for the tariffs. -/
def browse : List BotEvent :=
  [.message { chatId := 7, messageId := 1, fromUser := client, command := some "plans" } 0,
    .registerUser 0, .readTariffs 0 fun _ => intent]

theorem every_button_is_live_shop : ∃ r ∈ (after browse).screens, ∃ tariffId,
    r.2.Offers tariffId intent := by
  have hr : Reachable _ _ _ _ (after browse) := .after (by decide +kernel)
  obtain ⟨r, hmem, hselect⟩ := List.any_eq_true.1
    (show (after browse).screens.any (fun r => decide ("ui2:o:0:0123456789" ∈
      callbacks (r.2.keyboard (fun _ _ => "") (fun _ => ⟨"", "", none⟩) true))) = true by
        decide +kernel)
  have hroute : (routeCallback "ui2:o:0:0123456789").order = some (0, intent) := by decide +kernel
  exact ⟨r, hmem, 0, (every_button_is_live hr hmem (of_decide_eq_true hselect)).2.1 0 intent hroute⟩

end BotSystem

end ShopBot
