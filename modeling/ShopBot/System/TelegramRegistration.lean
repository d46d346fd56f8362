import ShopBot.Domain.Common
import ShopBot.Library.ReadCommitted
import ShopBot.Library.Transition

/-! # Telegram registration, statement by statement

Concurrent transactions of `register_telegram_user` on the tables of users and contacts.
Each SQL statement is one step under READ COMMITTED, and a statement that has to wait for a
row of another transaction is not enabled. A row of `users` whose version is `none` has been
deleted; a user is identified by the position of its row.
-/

namespace ShopBot

namespace TelegramRegistration

open ReadCommitted

structure UserRow where
  nameOrNick : String
deriving DecidableEq, Repr

structure UserContact where
  userId : ℕ
  contactType : String
  contactValue : String
  isPrimary : Bool := true
deriving DecidableEq, Repr

namespace UserContact

/-- `uq_user_contacts_type_value`. -/
def key (contact : UserContact) : String × String :=
  (contact.contactType, contact.contactValue)

/-- The constraints of `user_contacts` on a single row. -/
def check (contact : UserContact) : Except Error Unit := do
  require (!btrimIsEmpty contact.contactType) (.integrity "user_contacts_type_not_blank")
  require (!btrimIsEmpty contact.contactValue) (.integrity "user_contacts_value_not_blank")

end UserContact

/-- What `register_telegram_user` returns. -/
structure RegisteredUser where
  userId : ℕ
  nameOrNick : String
deriving DecidableEq, Repr

/-- The statement that a call executes next. -/
inductive Stage where
  | findExisting

  | createUser

  | claimContact (userId : ℕ)

  | deleteUser (userId : ℕ)

  | findCanonical

  | upsertUsername (username : String) (owner : RegisteredUser)

  | commit (owner : RegisteredUser)

  | returned (owner : RegisteredUser)

  | raised (e : Error)

  | aborted
deriving DecidableEq, Repr

def Stage.ended : Stage → Bool
  | returned _ | raised _ | aborted => true
  | _ => false

structure Call where
  telegramId : ℤ
  username : Option String
  nameOrNick : String
  stage : Stage
deriving DecidableEq, Repr

/-- `if username:`, and otherwise the owner is returned. -/
def Call.afterOwner (c : Call) (owner : RegisteredUser) : Stage :=
  match c.username with
  | none => .commit owner
  | some username => if username = "" then .commit owner else .upsertUsername username owner

/-- The key of the contact that the call registers. -/
def Call.telegramKey (c : Call) : String × String := ("telegram_id", toString c.telegramId)

/-- The tables, and the calls that have been made; a call is also its transaction. -/
structure Registry where
  users : List (Row (Option UserRow)) := []
  contacts : List (Row UserContact) := []
  calls : List Call := []
deriving DecidableEq

namespace Registry

def goto (s : Registry) (i : ℕ) (c : Call) (stage : Stage) : Registry :=
  { s with calls := s.calls.set i { c with stage := stage } }

def rollback (s : Registry) (i : ℕ) (c : Call) (stage : Stage) : Registry where
  users := rollbackAll i s.users
  contacts := rollbackAll i s.contacts
  calls := s.calls.set i { c with stage := stage }

def commit (s : Registry) (i : ℕ) (c : Call) (stage : Stage) : Registry where
  users := commitAll i s.users
  contacts := commitAll i s.contacts
  calls := s.calls.set i { c with stage := stage }

/-- The user that a transaction sees, unless it is deleted. -/
def user (s : Registry) (i userId : ℕ) : Option UserRow := ((row s.users userId).visible i).join

end Registry

variable (s : Registry) (i : ℕ) (c : Call)

/-- `get_user_by_contact`: the contact joined with its user. -/
def getUserByContact (key : String × String) : Option RegisteredUser :=
  (lastVisible i (·.key = key) s.contacts).bind fun contact =>
    (s.user i contact.1.userId).map fun user => ⟨contact.1.userId, user.nameOrNick⟩

/-- The foreign key of a contact. -/
def ownerExists (contact : UserContact) : Bool := (s.user i contact.userId).isSome

/-- `INSERT` of a contact whose key is free. -/
def insertContact (contact : UserContact) (next : Stage) : Registry :=
  if ownerExists s i contact then
    { s with contacts := s.contacts ++ [Row.write i contact {}] }.goto i c next
  else s.rollback i c (.raised (.integrity "user_contacts_user_id_fkey"))

/-! ## Statements -/

def findExisting : Registry :=
  match getUserByContact s i c.telegramKey with
  | some existing => s.goto i c (c.afterOwner existing)
  | none => s.goto i c .createUser

def createUser : Registry :=
  let user : UserRow := { nameOrNick := c.nameOrNick }
  if btrimIsEmpty user.nameOrNick then
    s.rollback i c (.raised (.integrity "users_name_or_nick_not_blank"))
  else { s with users := s.users ++ [Row.write i (some user) {}] }.goto i c
    (.claimContact s.users.length)

/-- `claim_telegram_id_contact`: `INSERT … ON CONFLICT DO NOTHING`. -/
def claimContact (userId : ℕ) : Option Registry :=
  let contact : UserContact := {
    userId := userId
    contactType := "telegram_id"
    contactValue := toString c.telegramId }
  match contact.check with
  | .error e => some (s.rollback i c (.raised e))
  | .ok () =>
    if s.contacts.any (Row.blocks i (·.key = contact.key)) then none
    else if s.contacts.any (Row.clashes i (·.key = contact.key)) then
      some (s.goto i c (.deleteUser userId))
    else some (insertContact s i c contact (c.afterOwner ⟨userId, c.nameOrNick⟩))

/-- `DELETE` of the user that has just been created, which no contact may refer to. -/
def deleteUser (userId : ℕ) : Option Registry :=
  let r := row s.users userId
  if r.Free i then
    match r.visible i with
    | some (some _) =>
      if s.contacts.any (Row.clashes i (·.userId = userId)) then
        some (s.rollback i c (.raised (.integrity "user_contacts_user_id_fkey")))
      else some ({ s with users := s.users.set userId (r.write i none) }.goto i c .findCanonical)
    | _ => some (s.goto i c .findCanonical)
  else none

def findCanonical : Registry :=
  match getUserByContact s i c.telegramKey with
  | none => s.rollback i c
    (.raised (.runtime "Telegram contact claim was lost but canonical owner is missing"))
  | some canonical => s.goto i c (c.afterOwner canonical)

/-- `upsert_contact`: `INSERT … ON CONFLICT DO UPDATE` of the owner of the username. -/
def upsertUsername (username : String) (owner : RegisteredUser) : Option Registry :=
  let contact : UserContact := {
    userId := owner.userId
    contactType := "telegram_username"
    contactValue := username
    isPrimary := false }
  match contact.check with
  | .error e => some (s.rollback i c (.raised e))
  | .ok () =>
    if s.contacts.any (Row.blocks i (·.key = contact.key)) then none
    else
      match lastVisible i (·.key = contact.key) s.contacts with
      | none => some (insertContact s i c contact (.commit owner))
      | some (existing, k) =>
        let r := row s.contacts k
        if r.Free i then
          if ownerExists s i contact then
            some ({ s with contacts := s.contacts.set k (r.write i { existing with
              userId := owner.userId
              isPrimary := false }) }.goto i c (.commit owner))
          else some (s.rollback i c (.raised (.integrity "user_contacts_user_id_fkey")))
        else none

/-! ## Runs -/

/-- The next statement of the call. -/
def statement : Option Registry :=
  match c.stage with
  | .findExisting => some (findExisting s i c)
  | .createUser => some (createUser s i c)
  | .claimContact userId => claimContact s i c userId
  | .deleteUser userId => deleteUser s i c userId
  | .findCanonical => some (findCanonical s i c)
  | .upsertUsername username owner => upsertUsername s i c username owner
  | .commit owner => some (s.commit i c (.returned owner))
  | _ => none

inductive Action where
  | call (telegramId : ℤ) (username : Option String) (nameOrNick : String)

  | statement (i : ℕ)

  /-- The transaction is rolled back where it stands. -/
  | abort (i : ℕ)
deriving DecidableEq

def exec (s : Registry) : Action → Option Registry
  | .call telegramId username nameOrNick =>
    some { s with calls := s.calls ++ [⟨telegramId, username, nameOrNick, .findExisting⟩] }
  | .statement i => s.calls[i]?.bind fun c => statement s i c
  | .abort i => s.calls[i]?.bind fun c =>
      if c.stage.ended then none else some (s.rollback i c .aborted)

/-- A committed state of the database, before any of the calls. -/
structure Init (s : Registry) : Prop where
  calls : s.calls = []
  users : ∀ u, (row s.users u).holder = none
  contacts : ∀ k, (row s.contacts k).holder = none
  unique : ∀ k k' v w, (row s.contacts k).committed = some v →
    (row s.contacts k').committed = some w → v.key = w.key → k = k'
  owned : ∀ k v, (row s.contacts k).committed = some v →
    ∃ user, (row s.users v.userId).committed = some (some user)

/-- The committed owner of a telegram contact. -/
def OwnsTelegram (value : String) (userId : ℕ) : Prop :=
  ∃ (k : ℕ) (v : UserContact), (row s.contacts k).committed = some v ∧
    v.key = ("telegram_id", value) ∧ v.userId = userId

end TelegramRegistration

end ShopBot
