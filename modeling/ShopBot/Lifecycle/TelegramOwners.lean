import ShopBot.Library.UniqueKeys
import ShopBot.System.TelegramRegistration

/-! # Owners of telegram contacts

A committed user and a committed telegram contact are never rewritten, and a version of a
contact refers to a user that its writer sees. A transaction that is about to commit sees
the contact of its call, and the only user it may have created is the owner.
-/

namespace ShopBot

namespace TelegramRegistration

open ReadCommitted

/-- The transaction holds no row of the table. -/
def Untouched {α : Type*} (rows : List (Row α)) (i : ℕ) : Prop :=
  ∀ k, (row rows k).holder ≠ some i

def UserContact.IsTelegram (v : UserContact) : Prop := v.contactType = "telegram_id"

/-- The only row that the transaction has written is that of a user without a contact. -/
structure Created (s : Registry) (i userId : ℕ) (name : String) : Prop where
  contacts : Untouched s.contacts i
  user : s.user i userId = some ⟨name⟩
  uncommitted : (row s.users userId).committed = none
  others : ∀ u, (row s.users u).holder = some i → u = userId

/-- The contact is committed, under whichever owner. -/
def Claimed (s : Registry) (key : String × String) : Prop :=
  ∃ (k : ℕ) (v : UserContact), (row s.contacts k).committed = some v ∧ v.key = key

/-- The transaction sees the contact and its owner, and it has created no other user. -/
structure Owner (s : Registry) (i : ℕ) (c : Call) (owner : RegisteredUser) : Prop where
  contact : ∃ (k : ℕ) (v : UserContact), (row s.contacts k).visible i = some v ∧
    v.key = c.telegramKey ∧ v.userId = owner.userId
  user : s.user i owner.userId = some ⟨owner.nameOrNick⟩
  others : ∀ u x, (row s.users u).holder = some i → s.user i u = some x → u = owner.userId

/-- A call raises only what its own arguments cause. -/
def Call.Excuses (c : Call) (e : Error) : Prop :=
  btrimIsEmpty c.nameOrNick = true ∧ e = .integrity "users_name_or_nick_not_blank" ∨
    ∃ username, c.username = some username ∧ btrimIsEmpty username = true ∧
      e = .integrity "user_contacts_value_not_blank"

/-- What a call relies on before its next statement. -/
def Call.Sound (s : Registry) (i : ℕ) (c : Call) : Prop :=
  match c.stage with
  | .findExisting | .createUser => Untouched s.users i ∧ Untouched s.contacts i
  | .claimContact userId => Created s i userId c.nameOrNick
  | .deleteUser userId => Created s i userId c.nameOrNick ∧ Claimed s c.telegramKey
  | .findCanonical => Untouched s.contacts i ∧
      (∀ u, (row s.users u).holder = some i → s.user i u = none) ∧ Claimed s c.telegramKey
  | .upsertUsername username owner => Owner s i c owner ∧ c.username = some username
  | .commit owner => Owner s i c owner
  | .returned owner => OwnsTelegram s (toString c.telegramId) owner.userId ∧
      (row s.users owner.userId).committed = some (some ⟨owner.nameOrNick⟩)
  | .raised e => c.Excuses e
  | .aborted => True

/-- The invariant; the users from a position on have been created by the calls. -/
structure Sound (first : ℕ) (s : Registry) : Prop where
  keyed : UniqueKeys UserContact.key s.contacts
  telegram : ∀ k v, (row s.contacts k).committed = some v → v.IsTelegram →
    (row s.contacts k).pending = none
  users : ∀ u x, (row s.users u).committed = some (some x) → (row s.users u).pending = none
  owned : ∀ k v, (row s.contacts k).committed = some v →
    ∃ x, (row s.users v.userId).committed = some (some x)
  written : ∀ i k v, (row s.contacts k).holder = some i → (row s.contacts k).pending = some v →
    ∃ x, s.user i v.userId = some x
  registered : ∀ u x, first ≤ u → (row s.users u).committed = some (some x) →
    ∃ value, OwnsTelegram s value u
  waiting : ∀ i, s.calls[i]? = none → Untouched s.users i ∧ Untouched s.contacts i
  calls : ∀ (i : ℕ) (c : Call), s.calls[i]? = some c → c.Sound s i

variable {s s' : Registry} {first i i' k u : ℕ} {c c' : Call} {v w : UserContact} {x : UserRow}
  {stage : Stage} {owner : RegisteredUser}

theorem user_eq_some : s.user i u = some x ↔ (row s.users u).visible i = some (some x) :=
  Option.join_eq_some_iff

theorem isTelegram_of_key {value : String} (h : v.key = ("telegram_id", value)) :
    v.IsTelegram := (Prod.ext_iff.1 h).1

theorem Created.holder {name : String} (h : Created s i u name) :
    (row s.users u).holder = some i := by
  by_contra hh
  have hv := user_eq_some.1 h.user
  rw [Row.visible_of_not_holder hh, h.uncommitted] at hv
  cases hv

/-! ## Steps of other transactions -/

/-- What a step of another transaction leaves as it is. -/
structure Elsewhere (i : ℕ) (s s' : Registry) : Prop where
  users : ∀ u, (row s.users u).holder = some i ∨ (row s'.users u).holder = some i →
    row s'.users u = row s.users u
  contacts : ∀ k, (row s.contacts k).holder = some i ∨ (row s'.contacts k).holder = some i →
    row s'.contacts k = row s.contacts k
  user : ∀ u x, s.user i u = some x → s'.user i u = some x
  contact : ∀ k v, v.IsTelegram → (row s.contacts k).visible i = some v →
    (row s'.contacts k).visible i = some v

/-- Committed users and telegram contacts stay as they are. -/
structure Keeps (s s' : Registry) : Prop where
  users : ∀ u x, (row s.users u).committed = some (some x) →
    (row s'.users u).committed = some (some x)
  contacts : ∀ k v, v.IsTelegram → (row s.contacts k).committed = some v →
    (row s'.contacts k).committed = some v

theorem Keeps.refl : Keeps s s := ⟨fun _ _ h => h, fun _ _ _ h => h⟩

theorem Keeps.trans {s₁ : Registry} (h : Keeps s s') (h' : Keeps s' s₁) : Keeps s s₁ where
  users u x hx := h'.users u x (h.users u x hx)
  contacts k v ht hv := h'.contacts k v ht (h.contacts k v ht hv)

theorem Keeps.owns {value : String} (h : Keeps s s') (ho : OwnsTelegram s value u) :
    OwnsTelegram s' value u := by
  obtain ⟨k, v, hv, hkey, hu⟩ := ho
  exact ⟨k, v, h.contacts k v (isTelegram_of_key hkey) hv, hkey, hu⟩

theorem Keeps.claimed (h : Keeps s s') (hc : Claimed s c.telegramKey) :
    Claimed s' c.telegramKey := by
  obtain ⟨k, v, hv, hkey⟩ := hc
  exact ⟨k, v, h.contacts k v (isTelegram_of_key hkey) hv, hkey⟩

namespace Elsewhere

variable (h : Elsewhere i s s')
include h

theorem untouched (hu : Untouched s.users i ∧ Untouched s.contacts i) :
    Untouched s'.users i ∧ Untouched s'.contacts i :=
  ⟨fun u hh => hu.1 u (h.users u (.inr hh) ▸ hh),
    fun k hh => hu.2 k (h.contacts k (.inr hh) ▸ hh)⟩

theorem created {name : String} (hc : Created s i u name) : Created s' i u name where
  contacts k hh := hc.contacts k (h.contacts k (.inr hh) ▸ hh)
  user := h.user u _ hc.user
  uncommitted := by
    rw [h.users u (.inl hc.holder)]
    exact hc.uncommitted
  others u' hh := hc.others u' (h.users u' (.inr hh) ▸ hh)

theorem user_of_holder (hh : (row s'.users u).holder = some i) : s'.user i u = s.user i u := by
  rw [Registry.user, Registry.user, h.users u (.inr hh)]

theorem keeps_owner (ho : Owner s i c owner) : Owner s' i c owner where
  contact := by
    obtain ⟨k, v, hv, hkey, hu⟩ := ho.contact
    exact ⟨k, v, h.contact k v (isTelegram_of_key hkey) hv, hkey, hu⟩
  user := h.user _ _ ho.user
  others u x hh hx := by
    rw [h.user_of_holder hh] at hx
    exact ho.others u x (h.users u (.inr hh) ▸ hh) hx

theorem sound (hk : Keeps s s') (hc : c.Sound s i) : c.Sound s' i := by
  unfold Call.Sound at hc ⊢
  split at hc
  · exact h.untouched hc
  · exact h.untouched hc
  · exact h.created hc
  · exact ⟨h.created hc.1, hk.claimed hc.2⟩
  · obtain ⟨hcontacts, hdeleted, hclaimed⟩ := hc
    refine ⟨fun k hh => hcontacts k (h.contacts k (.inr hh) ▸ hh), fun u hh => ?_,
      hk.claimed hclaimed⟩
    rw [h.user_of_holder hh]
    exact hdeleted u (h.users u (.inr hh) ▸ hh)
  · exact ⟨h.keeps_owner hc.1, hc.2⟩
  · exact h.keeps_owner hc
  · exact ⟨hk.owns hc.1, hk.users _ _ hc.2⟩
  · exact hc
  · trivial

end Elsewhere

/-- A call relies on the tables only. -/
theorem Call.Sound.of_tables (h : c.Sound s i) (hu : s'.users = s.users)
    (hk : s'.contacts = s.contacts) : c.Sound s' i := by
  have he : Elsewhere i s s' := by
    constructor
    · simp [hu]
    · simp [hk]
    · simp [Registry.user, hu]
    · simp [hk]
  refine he.sound ⟨?_, ?_⟩ h
  · simp [hu]
  · simp [hk]

/-! ## Private steps -/

/-- A statement before the commit. -/
structure PrivateStep (i : ℕ) (s s' : Registry) : Prop where
  users : ∀ u, Row.Private i (row s.users u) (row s'.users u)
  contacts : ∀ k, Row.Private i (row s.contacts k) (row s'.contacts k)

namespace PrivateStep

variable (h : PrivateStep i s s')
include h

theorem elsewhere (hi : i' ≠ i) : Elsewhere i' s s' where
  users u hh := (h.users u).2 i' hi hh
  contacts k hh := (h.contacts k).2 i' hi hh
  user u x hx := by
    rw [Registry.user, (h.users u).visible hi]
    exact hx
  contact k v _ hv := by
    rw [(h.contacts k).visible hi]
    exact hv

theorem keeps : Keeps s s' where
  users u x hx := by
    rw [(h.users u).1]
    exact hx
  contacts k v _ hv := by
    rw [(h.contacts k).1]
    exact hv

end PrivateStep

namespace Sound

variable (h : Sound first s)
include h

theorem user_of_committed (hx : (row s.users u).committed = some (some x)) :
    s.user i u = some x := by
  rw [user_eq_some, Row.visible_of_unwritten (h.users u x hx)]
  exact hx

/-- Whoever sees a contact sees its user. -/
theorem user_of_contact (hv : (row s.contacts k).visible i = some v) :
    ∃ x, s.user i v.userId = some x := by
  by_cases hh : (row s.contacts k).holder = some i
  · rw [Row.visible_of_holder hh] at hv
    rcases Option.or_eq_some_iff.1 hv with hp | ⟨-, hc⟩
    · exact h.written i k v hh hp
    · obtain ⟨x, hx⟩ := h.owned k v hc
      exact ⟨x, h.user_of_committed hx⟩
  · rw [Row.visible_of_not_holder hh] at hv
    obtain ⟨x, hx⟩ := h.owned k v hv
    exact ⟨x, h.user_of_committed hx⟩

theorem contact_of_committed (ht : v.IsTelegram) (hv : (row s.contacts k).committed = some v) :
    (row s.contacts k).visible i = some v :=
  (Row.visible_of_unwritten (h.telegram k v hv ht)).trans hv

/-- A statement that keeps the keys and writes only rows that may be rewritten. -/
theorem step (hc : s.calls[i]? = some c) (hp : PrivateStep i s s')
    (hcalls : s'.calls = s.calls.set i c') (hkeyed : UniqueKeys UserContact.key s'.contacts)
    (hcontacts : ∀ k w, (row s'.contacts k).holder = some i →
      (row s'.contacts k).pending = some w →
      (∀ v, (row s.contacts k).committed = some v → ¬ v.IsTelegram) ∧
        ∃ x, s'.user i w.userId = some x)
    (husers : ∀ u y, (row s'.users u).holder = some i → (row s'.users u).pending = some y →
      ∀ x, (row s.users u).committed ≠ some (some x))
    (hsound : c'.Sound s' i) : Sound first s' where
  keyed := hkeyed
  telegram k v hv ht := by
    rw [(hp.contacts k).1] at hv
    by_contra hn
    obtain ⟨w, hw⟩ := Option.ne_none_iff_exists'.1 hn
    by_cases hh : (row s'.contacts k).holder = some i
    · exact (hcontacts k w hh hw).1 v hv ht
    · rw [(hp.contacts k).pending hh hw, h.telegram k v hv ht] at hw
      cases hw
  users u x hx := by
    rw [(hp.users u).1] at hx
    by_contra hn
    obtain ⟨y, hy⟩ := Option.ne_none_iff_exists'.1 hn
    by_cases hh : (row s'.users u).holder = some i
    · exact husers u y hh hy x hx
    · rw [(hp.users u).pending hh hy, h.users u x hx] at hy
      cases hy
  owned k v hv := by
    rw [(hp.contacts k).1] at hv
    obtain ⟨x, hx⟩ := h.owned k v hv
    exact ⟨x, hp.keeps.users _ _ hx⟩
  written i' k v hh hv := by
    by_cases hi : i' = i
    · subst hi
      exact (hcontacts k v hh hv).2
    · have he := hp.elsewhere hi
      have hrow := he.contacts k (.inr hh)
      rw [hrow] at hh hv
      obtain ⟨x, hx⟩ := h.written i' k v hh hv
      exact ⟨x, he.user _ _ hx⟩
  registered u x hu hx := by
    rw [(hp.users u).1] at hx
    obtain ⟨value, ho⟩ := h.registered u x hu hx
    exact ⟨value, hp.keeps.owns ho⟩
  waiting i' hn := by
    have hi : i' ≠ i := by
      rintro rfl
      rw [hcalls] at hn
      simp [(List.getElem?_eq_some_iff.1 hc).1] at hn
    rw [hcalls, List.getElem?_set_ne (Ne.symm hi)] at hn
    exact (hp.elsewhere hi).untouched (h.waiting i' hn)
  calls := by
    rw [hcalls]
    exact Table.forall_set hsound fun i' d hi hd => (hp.elsewhere hi).sound hp.keeps (h.calls i' d hd)

/-- The versions that the call had written before stay in order. -/
theorem own (hh : (row s.contacts k).holder = some i) (hw : (row s.contacts k).pending = some w) :
    (∀ v, (row s.contacts k).committed = some v → ¬ v.IsTelegram) ∧
      ∃ x, s.user i w.userId = some x := by
  refine ⟨fun v hv ht => ?_, h.written i k w hh hw⟩
  rw [h.telegram k v hv ht] at hw
  cases hw

theorem own_user {y : Option UserRow} (hy : (row s.users u).pending = some y) (x : UserRow) :
    (row s.users u).committed ≠ some (some x) := by
  intro hx
  rw [h.users u x hx] at hy
  cases hy

theorem goto (hc : s.calls[i]? = some c)
    (hsound : Call.Sound s i { c with stage := stage }) : Sound first (s.goto i c stage) :=
  h.step hc ⟨fun _ => .refl, fun _ => .refl⟩ rfl h.keyed (fun _ _ => h.own)
    (fun _ _ _ => h.own_user) (hsound.of_tables rfl rfl)

theorem rollback (hc : s.calls[i]? = some c)
    (hsound : Call.Sound (s.rollback i c stage) i { c with stage := stage }) :
    Sound first (s.rollback i c stage) := by
  refine h.step hc ⟨fun u => ?_, fun k => ?_⟩ rfl h.keyed.rollback (fun k w hh => ?_)
    (fun u y hh => ?_) hsound
  · simp only [Registry.rollback, row_rollbackAll]
    exact Row.private_rollback
  · simp only [Registry.rollback, row_rollbackAll]
    exact Row.private_rollback
  · simp only [Registry.rollback, row_rollbackAll, Row.rollback_holder] at hh
    exact absurd rfl hh.2
  · simp only [Registry.rollback, row_rollbackAll, Row.rollback_holder] at hh
    exact absurd rfl hh.2

/-! ## Commits -/

theorem commit_elsewhere (hi : i' ≠ i) : Elsewhere i' s (s.commit i c stage) where
  users u hh := by
    simp only [Registry.commit, row_commitAll] at hh ⊢
    rcases hh with hh | hh
    · exact Row.commit_eq (Row.commit_holder.2 ⟨hh, hi⟩)
    · exact Row.commit_eq hh
  contacts k hh := by
    simp only [Registry.commit, row_commitAll] at hh ⊢
    rcases hh with hh | hh
    · exact Row.commit_eq (Row.commit_holder.2 ⟨hh, hi⟩)
    · exact Row.commit_eq hh
  user u x hx := by
    rw [user_eq_some] at hx ⊢
    rw [Registry.commit, row_commitAll]
    exact Row.visible_commit (h.users u x) hx
  contact k v ht hv := by
    rw [Registry.commit, row_commitAll]
    exact Row.visible_commit (fun hc => h.telegram k v hc ht) hv

theorem commit_keeps : Keeps s (s.commit i c stage) where
  users u x hx := by
    rw [Registry.commit, row_commitAll, Row.commit_committed]
    exact user_eq_some.1 (h.user_of_committed hx)
  contacts k v ht hv := by
    rw [Registry.commit, row_commitAll, Row.commit_committed]
    exact h.contact_of_committed ht hv

theorem commit (hc : s.calls[i]? = some c) (ho : Owner s i c owner) :
    Sound first (s.commit i c (.returned owner)) := by
  have hkeeps : Keeps s (s.commit i c (.returned owner)) := h.commit_keeps
  have huser : ∀ u, (row (s.commit i c (.returned owner)).users u).committed =
      (row s.users u).visible i := by
    intro u
    rw [Registry.commit, row_commitAll, Row.commit_committed]
  have hcontact : ∀ k, (row (s.commit i c (.returned owner)).contacts k).committed =
      (row s.contacts k).visible i := by
    intro k
    rw [Registry.commit, row_commitAll, Row.commit_committed]
  have howns : OwnsTelegram (s.commit i c (.returned owner)) (toString c.telegramId)
      owner.userId := by
    obtain ⟨k, v, hv, hkey, hu⟩ := ho.contact
    exact ⟨k, v, (hcontact k).trans hv, hkey, hu⟩
  refine ⟨h.keyed.commit, fun k v hv ht => ?_, fun u x hx => ?_, fun k v hv => ?_,
    fun i' k v hh hv => ?_, fun u x hu hx => ?_, fun i' hn => ?_, ?_⟩
  · by_contra hn
    obtain ⟨w, hw⟩ := Option.ne_none_iff_exists'.1 hn
    simp only [Registry.commit, row_commitAll] at hv hw
    rw [Row.commit_pending hw] at hv hw
    rw [h.telegram k v hv ht] at hw
    cases hw
  · by_contra hn
    obtain ⟨y, hy⟩ := Option.ne_none_iff_exists'.1 hn
    simp only [Registry.commit, row_commitAll] at hx hy
    rw [Row.commit_pending hy] at hx hy
    exact h.own_user hy x hx
  · rw [hcontact] at hv
    obtain ⟨x, hx⟩ := h.user_of_contact hv
    exact ⟨x, (huser _).trans (user_eq_some.1 hx)⟩
  · have hi : i' ≠ i := by
      simp only [Registry.commit, row_commitAll, Row.commit_holder] at hh
      exact hh.2
    have he : Elsewhere i' s (s.commit i c (.returned owner)) := h.commit_elsewhere hi
    have hrow := he.contacts k (.inr hh)
    rw [hrow] at hh hv
    obtain ⟨x, hx⟩ := h.written i' k v hh hv
    exact ⟨x, he.user _ _ hx⟩
  · rw [huser] at hx
    by_cases hh : (row s.users u).holder = some i
    · obtain rfl := ho.others u x hh (user_eq_some.2 hx)
      exact ⟨_, howns⟩
    · rw [Row.visible_of_not_holder hh] at hx
      obtain ⟨value, hown⟩ := h.registered u x hu hx
      exact ⟨value, hkeeps.owns hown⟩
  · have hi : i' ≠ i := by
      rintro rfl
      simp [Registry.commit, (List.getElem?_eq_some_iff.1 hc).1] at hn
    rw [Registry.commit, List.getElem?_set_ne (Ne.symm hi)] at hn
    exact (h.commit_elsewhere hi).untouched (h.waiting i' hn)
  · refine Table.forall_set ⟨howns, ?_⟩ fun i' d hi hd =>
      (h.commit_elsewhere hi).sound hkeeps (h.calls i' d hd)
    rw [huser]
    exact user_eq_some.1 ho.user

end Sound

theorem Sound.of_init (h : Init s) : Sound s.users.length s where
  keyed := by
    have hp : ∀ k, (row s.contacts k).pending = none := fun k =>
      (row s.contacts k).owned (h.contacts k)
    refine ⟨fun k a b _ hb => ?_, fun k k' a b ha hb he => ?_⟩
    · rw [hp] at hb
      cases hb
    · have ha' := ha.resolve_right (by simp [hp])
      have hb' := hb.resolve_right (by simp [hp])
      exact h.unique k k' a b ha' hb' he
  telegram k _ _ _ := (row s.contacts k).owned (h.contacts k)
  users u _ _ := (row s.users u).owned (h.users u)
  owned := h.owned
  written i k v hh _ := by
    rw [h.contacts k] at hh
    cases hh
  registered u x hu hx := by simp [row, List.getElem?_eq_none hu] at hx
  waiting i _ := ⟨fun u => by simp [h.users u], fun k => by simp [h.contacts k]⟩
  calls i c hc := by simp [h.calls] at hc

end TelegramRegistration

end ShopBot
