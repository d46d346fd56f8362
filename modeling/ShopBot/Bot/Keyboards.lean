import ShopBot.Domain.Common

/-! # Keyboards of the bot

The buttons under the messages of the bot. A button calls the bot back with a text, or opens
an address.
-/

namespace ShopBot

namespace TelegramBot

inductive Button where
  | callback (text data : String)

  | url (text address : String)
deriving DecidableEq, Repr

abbrev Keyboard := List (List Button)

def Button.callbackData : Button → Option String
  | callback _ data => some data
  | url _ _ => none

/-- The texts with which the buttons of a keyboard call the bot back. -/
def callbacks (keyboard : Keyboard) : List String := keyboard.flatten.filterMap (·.callbackData)

/-- An entry of the list of tariffs. -/
structure TariffResponse where
  tariffId : ℕ
  tariffName : String
  priceMinor : ℕ
  currency : String
  periodDays : ℕ
  description : Option String := none
  isEnabled : Bool
deriving DecidableEq, Repr

def ANDROID_URL : String := "https://telegra.ph/Instrukciya-Android-11-09"

def IOS_URL : String := "https://telegra.ph/Instrukciya-iOS-11-09"

def WINDOWS_URL : String := "https://telegra.ph/Instrukciya-Windows-11-09"

def LINUX_URL : String := "https://telegra.ph/Instrukciya-Linux-11-09"

def backAndHomeRow (backRouteCode : String) : List Button :=
  [.callback "Назад" s!"ui2:b:{backRouteCode}", .callback "Главное меню" "ui2:h"]

def platformRow (firstLabel firstUrl secondLabel secondUrl : String) : List Button :=
  [.url firstLabel firstUrl, .url secondLabel secondUrl]

def homeInactiveKeyboard : Keyboard :=
  [[.callback "Выбрать тариф" "ui2:t"],
    [.callback "Мой VPN" "ui2:v"],
    [.callback "Инструкции" "ui2:i"],
    [.callback "Помощь" "ui2:help"]]

def homeActiveReadyKeyboard : Keyboard :=
  [[.callback "Мой VPN" "ui2:v"],
    [.callback "Продлить подписку" "ui2:t"],
    [.callback "Инструкции" "ui2:i"],
    [.callback "Помощь" "ui2:help"]]

def homeActivePendingKeyboard : Keyboard :=
  [[.callback "Обновить статус" "ui2:v"],
    [.callback "Продлить подписку" "ui2:t"],
    [.callback "Инструкции" "ui2:i"],
    [.callback "Помощь" "ui2:help"]]

def routeLoadingKeyboard : Keyboard := [[.callback "Назад" "ui2:b:h"]]

def tariffRefreshKeyboard : Keyboard :=
  [[.callback "Обновить тарифы" "ui2:t"],
    [.callback "Назад" "ui2:b:h"]]

def orderErrorKeyboard (tariffId : ℕ) (intentId : String) : Keyboard :=
  [[.callback "Повторить" s!"ui2:r:{tariffId}:{intentId}"],
    [.callback "Вернуться к тарифам" "ui2:t"],
    backAndHomeRow "t"]

def paymentUnavailableKeyboard : Keyboard :=
  [[.callback "Вернуться к тарифам" "ui2:t"],
    backAndHomeRow "t"]

def paymentDevLocalKeyboard : Keyboard :=
  [[.callback "Вернуться к тарифам" "ui2:t"],
    backAndHomeRow "t"]

def myVpnInactiveKeyboard : Keyboard :=
  [[.callback "Выбрать тариф" "ui2:t"],
    [.callback "Инструкции" "ui2:i"],
    [.callback "Назад" "ui2:b:h"]]

def myVpnPendingKeyboard : Keyboard :=
  [[.callback "Обновить статус" "ui2:v"],
    [.callback "Помощь" "ui2:help"],
    [.callback "Назад" "ui2:b:h"]]

def myVpnReadyKeyboard : Keyboard :=
  [platformRow "Android" ANDROID_URL "iOS" IOS_URL,
    platformRow "Windows" WINDOWS_URL "Linux" LINUX_URL,
    [.callback "Продлить подписку" "ui2:t"],
    [.callback "Назад" "ui2:b:h"]]

def instructionsKeyboard : Keyboard :=
  [platformRow "Android" ANDROID_URL "iOS" IOS_URL,
    platformRow "Windows" WINDOWS_URL "Linux" LINUX_URL,
    [.callback "Мой VPN" "ui2:v"],
    [.callback "Назад" "ui2:b:h"]]

def helpKeyboard : Keyboard :=
  [[.callback "Мой VPN" "ui2:v"],
    [.callback "Инструкции" "ui2:i"],
    [.callback "Назад" "ui2:b:h"]]

def backendErrorKeyboard (contextCode : String) : Keyboard :=
  [[.callback "Повторить" s!"ui2:retry:{contextCode}"],
    [.callback "Главное меню" "ui2:h"]]

def homeOnlyKeyboard : Keyboard := [[.callback "Главное меню" "ui2:h"]]

section Prices

-- how a price is written; the source divides the amount in floating point
variable (formatPrice : ℕ → String → String)

def tariffsKeyboard (tariffs : List TariffResponse) (intentIds : ℕ → String) : Keyboard :=
  (tariffs.map fun tariff => [.callback
    s!"Выбрать · {tariff.tariffName} · {formatPrice tariff.priceMinor tariff.currency}"
    s!"ui2:o:{tariff.tariffId}:{intentIds tariff.tariffId}"]) ++ [[.callback "Назад" "ui2:b:h"]]

def paymentReadyKeyboard (paymentUrl : String) (amountMinor : ℕ) (currency : String) : Keyboard :=
  [[.url s!"Оплатить {formatPrice amountMinor currency}" paymentUrl],
    [.callback "Открыть мой VPN" "ui2:v"],
    backAndHomeRow "t"]

end Prices

end TelegramBot

end ShopBot
