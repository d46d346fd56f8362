import ShopBot.Guarantees.BotOrders

/-! # Updates are handled once

An update that is delivered again is ignored while it is remembered, and the button that orders
is taken once for its intent. Nothing else is ignored: an update is told from every other one.
-/

namespace ShopBot

open TelegramBot

/-- What the bot asks `RedisDeduplicator` about. -/
inductive Subject where
  | message (chatId messageId : ℤ)

  | callback (telegramId : ℤ) (id : String)

  | intent (telegramId : ℤ) (tariffId : ℕ) (intentId : IntentId)

namespace Subject

def key : Subject → String
  | .message chatId messageId => s!"telegram:message:{chatId}:{messageId}"
  | .callback telegramId id => s!"telegram:callback:{telegramId}:{id}"
  | .intent telegramId tariffId intentId => intentKey telegramId tariffId intentId

/-- What follows the kind of a subject in its key. -/
def parts : Subject → List (List Char)
  | .message chatId messageId => [(toString chatId).toList, (toString messageId).toList]
  | .callback telegramId id => [(toString telegramId).toList, id.toList]
  | .intent telegramId tariffId intentId =>
    [(toString telegramId).toList, Nat.toDigits 10 tariffId, intentId.1.toList]

def kind : Subject → String
  | .message _ _ => "telegram:message:"
  | .callback _ _ => "telegram:callback:"
  | .intent _ _ _ => "telegram:ui2:intent:"

theorem toList_key (sub : Subject) :
    sub.key.toList = sub.kind.toList ++ [':'].intercalate sub.parts := by
  have hcolon : ":".toList = [':'] := by simp
  cases sub with
  | message chatId messageId =>
    change ("telegram:message:" ++ toString chatId ++ ":" ++ toString messageId).toList =
      "telegram:message:".toList ++
        [':'].intercalate [(toString chatId).toList, (toString messageId).toList]
    simp only [String.toList_append, List.intercalate_cons_cons, List.intercalate_singleton,
      hcolon, List.append_assoc]
  | callback telegramId id =>
    change ("telegram:callback:" ++ toString telegramId ++ ":" ++ id).toList =
      "telegram:callback:".toList ++ [':'].intercalate [(toString telegramId).toList, id.toList]
    simp only [String.toList_append, List.intercalate_cons_cons, List.intercalate_singleton,
      hcolon, List.append_assoc]
  | intent telegramId tariffId intentId =>
    have hdigits : (toString tariffId).toList = Nat.toDigits 10 tariffId := Nat.toList_repr
    change ("telegram:ui2:intent:" ++ toString telegramId ++ ":" ++ toString tariffId ++ ":" ++
        intentId.1).toList = "telegram:ui2:intent:".toList ++
      [':'].intercalate [(toString telegramId).toList, Nat.toDigits 10 tariffId, intentId.1.toList]
    simp only [String.toList_append, List.intercalate_cons_cons, List.intercalate_singleton,
      hcolon, hdigits, List.append_assoc]

theorem not_mem_colon_int (n : ℤ) : ':' ∉ (toString n).toList := by
  intro h
  rcases mem_toString_int h with h | h
  · exact absurd h (by decide)
  · exact absurd h (by decide)

/-- A subject is told from every other one by its key. -/
theorem key_inj {sub sub' : Subject} (h : sub.key = sub'.key) : sub = sub' := by
  have hlist := congrArg String.toList h
  rw [toList_key, toList_key] at hlist
  cases sub with
  | message chatId messageId =>
    cases sub' with
    | message chatId' messageId' =>
      obtain ⟨hchat, hmessage⟩ := Separated.first_inj (not_mem_colon_int chatId)
        (not_mem_colon_int chatId') (List.append_cancel_left hlist)
      rw [toString_int_inj hchat, toString_int_inj hmessage]
    | callback telegramId' id' => simp [kind] at hlist
    | intent telegramId' tariffId' intentId' => simp [kind] at hlist
  | callback telegramId id =>
    cases sub' with
    | message chatId' messageId' => simp [kind] at hlist
    | callback telegramId' id' =>
      obtain ⟨htelegram, hid⟩ := Separated.first_inj (not_mem_colon_int telegramId)
        (not_mem_colon_int telegramId') (List.append_cancel_left hlist)
      rw [toString_int_inj htelegram, String.toList_inj.1 hid]
    | intent telegramId' tariffId' intentId' => simp [kind] at hlist
  | intent telegramId tariffId intentId =>
    cases sub' with
    | message chatId' messageId' => simp [kind] at hlist
    | callback telegramId' id' => simp [kind] at hlist
    | intent telegramId' tariffId' intentId' =>
      have horders : orderKey telegramId tariffId intentId =
          orderKey telegramId' tariffId' intentId' := by
        rw [← String.toList_inj, toList_orderKey, toList_orderKey]
        have htail := List.append_cancel_left hlist
        simp only [parts, orderParts, List.intercalate_cons_cons] at htail ⊢
        rw [htail]
      obtain ⟨rfl, rfl, rfl⟩ := orderKey_inj horders
      rfl

end Subject

namespace BotSystem

section Runs

variable (settings : Settings) (botSettings : BotSettings) (addresses : ℕ → EndpointAddress)
  (descriptions : ℕ → Option String)

/-- What an event asks `RedisDeduplicator` about, and when. -/
def subject (b : BotSystem) : BotEvent → Option (Subject × DateTime)
  | .message m now => some (.message m.chatId m.messageId, now)
  | .callback c now => some (.callback c.fromUser.id c.id, now)
  | .takeIntent handler now => do
    let w ← b.handlers[handler]?
    let (tariffId, intentId) ← w.route.order
    return (.intent w.user.id tariffId intentId, now)
  | _ => none

/-- The subject of an event, if it is new. -/
def letThrough (b : BotSystem) (ev : BotEvent) : List (Subject × DateTime) :=
  (b.subject ev).toList.filter fun asked => (b.ensureOnce botSettings asked.1.key asked.2).1

/-- A run of the bot, with the subjects that were let through. -/
inductive Run : BotSystem → List (Subject × DateTime) → Prop where
  | start {b : BotSystem} (initial : b.Initial) : Run b []

  | step {b b' : BotSystem} {taken : List (Subject × DateTime)} {ev : BotEvent} (run : Run b taken)
      (exec : b.exec settings botSettings addresses descriptions ev = some b') :
      Run b' (taken ++ b.letThrough botSettings ev)

end Runs

variable {settings : Settings} {botSettings : BotSettings} {addresses : ℕ → EndpointAddress}
  {descriptions : ℕ → Option String} {b b' : BotSystem} {ev : BotEvent} {sub : Subject}
  {now : DateTime} {taken : List (Subject × DateTime)}

theorem Reachable.exists_run (h : Reachable settings botSettings addresses descriptions b) :
    ∃ taken, Run settings botSettings addresses descriptions b taken := by
  refine Transition.Reachable.invariant
    (fun b => ∃ taken, Run settings botSettings addresses descriptions b taken) ?_ ?_ h
  · intro b hb
    exact ⟨[], .start hb⟩
  · rintro b b' - ⟨taken, hr⟩ ⟨ev, hev⟩
    exact ⟨_, hr.step hev⟩

/-- An event that is ignored: no handler starts or goes on, and nothing is shown. -/
structure Ignores (b b' : BotSystem) : Prop where
  shop : b'.shop = b.shop
  screens : b'.screens = b.screens
  handlers : ∀ w ∈ b'.handlers, w ∈ b.handlers ∨ w.stage = .finished

/-- An event that is handled: a handler starts, or goes on if it can show that it does. -/
def Takes (b b' : BotSystem) : BotEvent → Prop
  | .takeIntent handler _ => ∀ w, b.handlers[handler]? = some w → w.hasMessage = true →
    b'.handlers = b.handlers.set handler { w with stage := .registering } ∧
      b'.screens = b.screens ++ [(w.user.id, .orderCreating)]
  | ev => ∃ w, b'.handlers = b.handlers ++ [w] ∧ ev.Starts w.user w.route

theorem opening_of_order {route : Route} {order : ℕ × IntentId} (h : route.order = some order) :
    route.opening = (.orderCreating, .registering) := by
  cases route with
  | selectTariff | retryOrder => rfl
  | _ => cases h

/-- What an event makes of its subject. -/
theorem exec_subject (h : b.exec settings botSettings addresses descriptions ev = some b')
    (hsub : b.subject ev = some (sub, now)) :
    b.clock ≤ now ∧ b'.clock = now ∧
      b'.memory = (b.ensureOnce botSettings sub.key now).2.memory ∧
      ((b.ensureOnce botSettings sub.key now).1 = true ∧ b.Takes b' ev ∨
        (b.ensureOnce botSettings sub.key now).1 = false ∧ b.Ignores b') := by
  have hreceived : ∀ {user : TelegramUser} {route : Route} {hasMessage isNew : Bool},
      Received b user route hasMessage isNew b' →
      isNew = true ∧ (∃ w, b'.handlers = b.handlers ++ [w] ∧ w.user = user ∧ w.route = route) ∨
        isNew = false ∧ b.Ignores b' := by
    intro user route hasMessage isNew hr
    cases hr with
    | known _ shop handlers screens =>
      exact .inr ⟨rfl, shop, screens, fun w hw => .inl (handlers ▸ hw)⟩
    | fresh _ stage shop idle handlers screens => exact .inl ⟨rfl, _, handlers, rfl, rfl⟩
  cases ev with
  | message m t =>
    obtain ⟨rfl, rfl⟩ := Prod.mk.inj (Option.some.inj hsub)
    obtain ⟨hclock, hnow, hmemory, hr⟩ := receive_eq_some h
    exact ⟨hclock, hnow, hmemory, (hreceived hr).imp_left fun ⟨hnew, w, hw⟩ => ⟨hnew, w, hw⟩⟩
  | callback c t =>
    obtain ⟨rfl, rfl⟩ := Prod.mk.inj (Option.some.inj hsub)
    obtain ⟨hclock, hnow, hmemory, hr⟩ := receive_eq_some h
    exact ⟨hclock, hnow, hmemory, (hreceived hr).imp_left fun ⟨hnew, w, hw⟩ => ⟨hnew, w, hw⟩⟩
  | takeIntent k t =>
    obtain ⟨w, tariffId, intentId, hw, horder, hstage, hclock, hnow, hshop, hmemory, hcases⟩ :=
      takeIntent_cases h
    simp only [subject, hw, horder, Option.bind_eq_bind, Option.bind_some] at hsub
    obtain ⟨rfl, rfl⟩ := Prod.mk.inj (Option.some.inj hsub)
    refine ⟨hclock, hnow, hmemory, ?_⟩
    rcases hcases with ⟨hnew, -, hhandlers, hscreens⟩ | ⟨hstop, hhandlers, hscreens⟩
    · refine .inl ⟨hnew, fun w' hw' _ => ?_⟩
      obtain rfl := Option.some.inj (hw.symm.trans hw')
      rw [hhandlers, hscreens, opening_of_order horder]
      exact ⟨rfl, rfl⟩
    · cases hnew : (b.ensureOnce botSettings (Subject.intent w.user.id tariffId intentId).key
        t).1 with
      | true =>
        refine .inl ⟨rfl, fun w' hw' hmessage => ?_⟩
        obtain rfl := Option.some.inj (hw.symm.trans hw')
        exact absurd (hstop hnew) (by simp [hmessage])
      | false =>
        refine .inr ⟨rfl, hshop, hscreens, fun w' hw' => ?_⟩
        rw [hhandlers] at hw'
        rcases List.mem_or_eq_of_mem_set hw' with hw' | rfl
        · exact .inl hw'
        · exact .inr rfl
  | _ => cases hsub

/-- Other events neither remember nor forget. -/
theorem exec_memory (h : b.exec settings botSettings addresses descriptions ev = some b')
    (hsub : b.subject ev = none) : b'.memory = b.memory ∧ b'.clock = b.clock := by
  cases ev with
  | message | callback => cases hsub
  | takeIntent k t =>
    obtain ⟨w, tariffId, intentId, hw, horder, -⟩ := takeIntent_cases h
    simp [subject, hw, horder] at hsub
  | registerUser handler =>
    obtain ⟨w, _, _, _, -, -, hmemory, hclock, -⟩ := registerHandlerUser_eq_some h
    exact ⟨hmemory, hclock⟩
  | readDashboard handler t =>
    obtain ⟨w, -, hmemory, hclock, -⟩ := readDashboard_eq_some h
    exact ⟨hmemory, hclock⟩
  | readTariffs handler intentIds =>
    obtain ⟨w, _, -, -, hmemory, hclock, -⟩ := readTariffs_eq_some h
    exact ⟨hmemory, hclock⟩
  | createOrder handler t leaseSeconds token =>
    obtain ⟨w, _, _, _, _, _, -, -, -, hmemory, hclock, -⟩ := createOrder_eq_some h
    exact ⟨hmemory, hclock⟩
  | answerOrder handler attempt =>
    obtain ⟨w, _, -, -, -, hmemory, hclock, -⟩ := answerOrder_eq_some h
    exact ⟨hmemory, hclock⟩
  | fail handler =>
    obtain ⟨w, _, -, -, hmemory, hclock, -⟩ := fail_eq_some h
    exact ⟨hmemory, hclock⟩
  | shop cmd =>
    simp only [BotSystem.exec] at h
    split_ifs at h
    obtain ⟨shop, -, rfl⟩ := Option.map_eq_some_iff.1 h
    exact ⟨rfl, rfl⟩

/-- The memory of the bot recalls what was let through. -/
theorem Run.recalls (h : Run settings botSettings addresses descriptions b taken) :
    ExpiringMemory.Recalls (seconds botSettings.dedupTtlSeconds) b.clock b.memory
      (taken.map fun asked => (asked.1.key, asked.2)) := by
  induction h with
  | start initial =>
    obtain ⟨-, hmemory, -, -⟩ := initial
    rw [hmemory]
    exact .empty _
  | @step b b' taken ev run hev ih =>
    cases hsub : b.subject ev with
    | none =>
      obtain ⟨hmemory, hclock⟩ := exec_memory hev hsub
      simpa [letThrough, hsub, hmemory, hclock] using ih
    | some asked =>
      obtain ⟨sub, now⟩ := asked
      obtain ⟨hclock, rfl, hmemory, -⟩ := exec_subject hev hsub
      change b'.memory = (ExpiringMemory.remember (seconds botSettings.dedupTtlSeconds) b.memory
        sub.key b'.clock).2 at hmemory
      rcases ih.remember sub.key hclock with ⟨hnew, -, hnext⟩ | ⟨hnew, -, hnext⟩
      · have hnew' : (b.ensureOnce botSettings sub.key b'.clock).1 = true := hnew
        simpa [letThrough, hsub, hnew', hmemory] using hnext
      · have hnew' : (b.ensureOnce botSettings sub.key b'.clock).1 = false := hnew
        simpa [letThrough, hsub, hnew', hmemory] using hnext

/-- The client asks for the tariffs, in a message that may be delivered more than once. -/
def plans (now : DateTime) : BotEvent :=
  .message { chatId := 7, messageId := 1, fromUser := client, command := some "plans" } now

end BotSystem

end ShopBot
