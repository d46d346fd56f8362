import ShopBot.Lifecycle.TelegramOwners

/-! # One user for a telegram account

Every statement of a registration keeps the owners of the telegram contacts, whichever
other transactions have committed, waited or been rolled back in between. A call that commits
returns the owner, and no user is left without a contact.
-/

namespace ShopBot

namespace TelegramRegistration

open ReadCommitted Relation

variable {s s' : Registry} {first i k u : ℕ} {c : Call} {v : UserContact} {x : UserRow}
  {stage : Stage} {owner : RegisteredUser} {key : String × String}

/-! ## Lookups -/

theorem getUserByContact_some (h : getUserByContact s i key = some owner) :
    (∃ k v, (row s.contacts k).visible i = some v ∧ v.key = key ∧ v.userId = owner.userId) ∧
      s.user i owner.userId = some ⟨owner.nameOrNick⟩ := by
  obtain ⟨⟨v, k⟩, hl, hm⟩ := Option.bind_eq_some_iff.1 h
  obtain ⟨x, hx, rfl⟩ := Option.map_eq_some_iff.1 hm
  obtain ⟨hv, hkey, -⟩ := lastVisible_some hl
  exact ⟨⟨k, v, hv, of_decide_eq_true hkey, rfl⟩, hx⟩

/-- A committed contact is found with its owner. -/
theorem Sound.getUserByContact_ne_none (h : Sound first s) (hc : Claimed s c.telegramKey) :
    getUserByContact s i c.telegramKey ≠ none := by
  obtain ⟨k, v, hv, hkey⟩ := hc
  have hvis := h.contact_of_committed (i := i) (isTelegram_of_key hkey) hv
  intro hn
  cases hl : lastVisible i (·.key = c.telegramKey) s.contacts with
  | none => simpa [hkey] using lastVisible_none hl hvis
  | some found =>
    obtain ⟨hfound, -, -⟩ := lastVisible_some hl
    obtain ⟨x, hx⟩ := h.user_of_contact hfound
    rw [getUserByContact, hl, Option.bind_some, hx] at hn
    cases hn

theorem afterOwner_cases : c.afterOwner owner = .commit owner ∨ ∃ username,
    c.username = some username ∧ c.afterOwner owner = .upsertUsername username owner := by
  unfold Call.afterOwner
  cases c.username with
  | none => exact .inl rfl
  | some username =>
    dsimp only
    split_ifs
    · exact .inl rfl
    · exact .inr ⟨username, rfl, rfl⟩

theorem Owner.afterOwner (h : Owner s i c owner) :
    Call.Sound s i { c with stage := c.afterOwner owner } := by
  rcases afterOwner_cases with he | ⟨username, hu, he⟩
  · rw [he]
    exact ⟨h.contact, h.user, h.others⟩
  · rw [he]
    exact ⟨⟨h.contact, h.user, h.others⟩, hu⟩

theorem Owner.of_lookup (h : getUserByContact s i c.telegramKey = some owner)
    (hdeleted : ∀ u, (row s.users u).holder = some i → s.user i u = none) :
    Owner s i c owner where
  contact := (getUserByContact_some h).1
  user := (getUserByContact_some h).2
  others u x hh hx := by
    rw [hdeleted u hh] at hx
    cases hx

theorem btrimIsEmpty_telegramId (n : ℤ) : btrimIsEmpty (toString n) = false := by
  rw [Int.toString_eq_repr, Int.repr_eq_if, btrimIsEmpty, List.all_eq_false]
  split_ifs with hn
  · rw [Nat.toList_repr]
    obtain ⟨d, hd⟩ := List.exists_mem_of_ne_nil _ (Nat.toDigits_ne_nil (n := n.toNat) (b := 10))
    have hdigit := Nat.isDigit_of_mem_toDigits (by decide) (by decide) hd
    refine ⟨d, hd, fun hspace => ?_⟩
    rw [of_decide_eq_true hspace] at hdigit
    cases hdigit
  · exact ⟨'-', by simp [String.toList_append], by decide⟩

/-! ## Statements -/

/-- A statement of the call, and what holds after it. -/
structure Advance (first : ℕ) (s s' : Registry) : Prop where
  sound : Sound first s'
  keeps : Keeps s s'

section Statements

variable (h : Sound first s) (hc : s.calls[i]? = some c)
include h hc

theorem goto_advance (hsound : Call.Sound s i { c with stage := stage }) :
    Advance first s (s.goto i c stage) where
  sound := h.goto hc hsound
  keeps := ⟨fun _ _ hx => hx, fun _ _ _ hv => hv⟩

theorem rollback_advance
    (hsound : Call.Sound (s.rollback i c stage) i { c with stage := stage }) :
    Advance first s (s.rollback i c stage) where
  sound := h.rollback hc hsound
  keeps := by
    refine ⟨fun u x hx => ?_, fun k v _ hv => ?_⟩
    · rw [Registry.rollback, row_rollbackAll, Row.rollback_committed]
      exact hx
    · rw [Registry.rollback, row_rollbackAll, Row.rollback_committed]
      exact hv

theorem findExisting_advance (hst : c.stage = .findExisting) :
    Advance first s (findExisting s i c) := by
  have hu : Untouched s.users i ∧ Untouched s.contacts i := by
    have := h.calls i c hc
    rwa [Call.Sound, hst] at this
  unfold findExisting
  split
  · rename_i existing hl
    have ho : Owner s i c existing := .of_lookup hl fun u hh => absurd hh (hu.1 u)
    exact goto_advance h hc ho.afterOwner
  · exact goto_advance h hc hu

theorem createUser_advance (hst : c.stage = .createUser) :
    Advance first s (createUser s i c) := by
  have hu : Untouched s.users i ∧ Untouched s.contacts i := by
    have := h.calls i c hc
    rwa [Call.Sound, hst] at this
  unfold createUser
  dsimp only
  split_ifs with hblank
  · exact rollback_advance h hc (.inl ⟨hblank, rfl⟩)
  · set t := Registry.goto { s with
      users := s.users ++ [Row.write i (some ⟨c.nameOrNick⟩) {}] } i c
      (.claimContact s.users.length) with ht
    have hrow : row t.users = _ := row_append
    have hheld : ∀ u, (row t.users u).holder = some i → u = s.users.length := by
      intro u hh
      by_contra hne
      rw [hrow, Function.update_of_ne hne] at hh
      exact hu.1 u hh
    have hstep : PrivateStep i s t := ⟨private_append, fun _ => .refl⟩
    refine ⟨h.step hc hstep rfl h.keyed (fun k w hh => absurd hh (hu.2 k))
      (fun u y hh _ x hx => ?_) ⟨hu.2, ?_, ?_, hheld⟩, hstep.keeps⟩
    · obtain rfl := hheld u hh
      simp [row] at hx
    · rw [user_eq_some, hrow, Function.update_self]
      exact Row.visible_write
    · rw [hrow, Function.update_self]
      rfl

/-- `INSERT` of a contact of a user that the transaction sees. -/
theorem insertContact_advance {contact : UserContact} (hx : s.user i contact.userId = some x)
    (hb : s.contacts.any (Row.blocks i (·.key = contact.key)) = false)
    (hcl : s.contacts.any (Row.clashes i (·.key = contact.key)) = false)
    (hnext : Call.Sound { s with contacts := s.contacts ++ [Row.write i contact {}] } i
      { c with stage := stage }) : Advance first s (insertContact s i c contact stage) := by
  have hexists : ownerExists s i contact = true := by rw [ownerExists, hx, Option.isSome_some]
  rw [insertContact, if_pos hexists]
  set t := Registry.goto { s with contacts := s.contacts ++ [Row.write i contact {}] } i c stage
    with ht
  have hrow : row t.contacts = _ := row_append
  have hstep : PrivateStep i s t := ⟨fun _ => .refl, private_append⟩
  refine ⟨h.step hc hstep rfl (h.keyed.append hb hcl) (fun k w hh hw => ?_)
    (fun u y _ hy => h.own_user hy) ?_, hstep.keeps⟩
  · by_cases hk : k = s.contacts.length
    · subst hk
      rw [hrow, Function.update_self] at hw
      obtain rfl : contact = w := Option.some.inj hw
      refine ⟨fun v hv => ?_, x, hx⟩
      simp [row] at hv
    · rw [hrow, Function.update_of_ne hk] at hh hw
      exact h.own hh hw
  · exact hnext.of_tables rfl rfl

theorem claimContact_advance (hst : c.stage = .claimContact u)
    (hs : claimContact s i c u = some s') : Advance first s s' := by
  have hcr : Created s i u c.nameOrNick := by
    have := h.calls i c hc
    rwa [Call.Sound, hst] at this
  unfold claimContact at hs
  dsimp only at hs
  have hcheck : UserContact.check ⟨u, "telegram_id", toString c.telegramId, true⟩ = .ok () := by
    have htype : btrimIsEmpty "telegram_id" = false := by decide
    have hvalue := btrimIsEmpty_telegramId c.telegramId
    simp only [UserContact.check, htype, hvalue]
    rfl
  rw [hcheck] at hs
  dsimp only at hs
  split_ifs at hs with hb hcl
  · cases hs
    obtain ⟨k, r, hr, hv⟩ := Table.any_iff.1 hcl
    obtain ⟨v, hv, hkey⟩ := (Option.any_eq_true _ _).1 hv
    rw [← row_of_getElem? hr, Row.visible_of_not_holder (hcr.contacts k)] at hv
    exact goto_advance h hc ⟨hcr, k, v, hv, of_decide_eq_true hkey⟩
  · cases hs
    refine insertContact_advance h hc hcr.user (by simpa using hb) (by simpa using hcl) ?_
    refine Owner.afterOwner ⟨⟨s.contacts.length, ⟨u, "telegram_id", toString c.telegramId, true⟩,
      ?_, rfl, rfl⟩, hcr.user, fun u' y hh _ => hcr.others u' hh⟩
    rw [row_append, Function.update_self]
    exact Row.visible_write

theorem deleteUser_advance (hst : c.stage = .deleteUser u)
    (hs : deleteUser s i c u = some s') : Advance first s s' := by
  have hcr : Created s i u c.nameOrNick ∧ Claimed s c.telegramKey := by
    have := h.calls i c hc
    rwa [Call.Sound, hst] at this
  obtain ⟨hcr, hclaimed⟩ := hcr
  have hfree : (row s.users u).Free i := fun i' hh =>
    Option.some.inj (hh.symm.trans hcr.holder)
  have hvis := user_eq_some.1 hcr.user
  -- a contact of the user would be committed, and so would be the user
  have hcl : s.contacts.any (Row.clashes i (·.userId = u)) = false := by
    refine Table.any_eq_false_iff.2 fun k r hr => ?_
    by_contra hclash
    obtain ⟨v, hv, hu⟩ := (Option.any_eq_true _ _).1 (Bool.not_eq_false _ ▸ hclash)
    rw [← row_of_getElem? hr, Row.visible_of_not_holder (hcr.contacts k)] at hv
    obtain ⟨y, hy⟩ := h.owned k v hv
    rw [of_decide_eq_true hu, hcr.uncommitted] at hy
    cases hy
  unfold deleteUser at hs
  dsimp only at hs
  rw [if_pos hfree, hvis] at hs
  dsimp only at hs
  rw [hcl, if_neg (by simp)] at hs
  cases hs
  set t := Registry.goto { s with users := s.users.set u ((row s.users u).write i none) } i c
    .findCanonical with ht
  have hlt := (List.getElem?_eq_some_iff.1 (getElem?_of_row hvis)).1
  have hrow : row t.users = _ := row_set hlt
  have hheld : ∀ u', (row t.users u').holder = some i → u' = u := by
    intro u' hh
    by_contra hne
    rw [hrow, Function.update_of_ne hne] at hh
    exact hne (hcr.others u' hh)
  have hstep : PrivateStep i s t := ⟨private_set hlt hfree, fun _ => .refl⟩
  refine ⟨h.step hc hstep rfl h.keyed (fun k w hh => absurd hh (hcr.contacts k))
    (fun u' y hh _ x hx => ?_) ⟨hcr.contacts, fun u' hh => ?_, hclaimed⟩, hstep.keeps⟩
  · obtain rfl := hheld u' hh
    rw [hcr.uncommitted] at hx
    cases hx
  · obtain rfl := hheld u' hh
    rw [Registry.user, hrow, Function.update_self, Row.visible_write]
    rfl

theorem findCanonical_advance (hst : c.stage = .findCanonical) :
    Advance first s (findCanonical s i c) := by
  have hstage := h.calls i c hc
  rw [Call.Sound, hst] at hstage
  obtain ⟨-, hdeleted, hclaimed⟩ := hstage
  unfold findCanonical
  split
  · rename_i hn
    exact absurd hn (h.getUserByContact_ne_none hclaimed)
  · rename_i canonical hl
    exact goto_advance h hc (Owner.of_lookup hl hdeleted).afterOwner

/-- `UPDATE` of the owner of a username. -/
theorem moveUsername_advance {username : String} (ho : Owner s i c owner)
    (hf : (row s.contacts k).Free i) (hv : (row s.contacts k).visible i = some v)
    (hkey : v.key = ("telegram_username", username)) :
    Advance first s ({ s with contacts := s.contacts.set k ((row s.contacts k).write i
      { v with userId := owner.userId, isPrimary := false }) }.goto i c (.commit owner)) := by
  set t := Registry.goto { s with contacts := s.contacts.set k ((row s.contacts k).write i
    { v with userId := owner.userId, isPrimary := false }) } i c (.commit owner) with ht
  have hlt := (List.getElem?_eq_some_iff.1 (getElem?_of_row hv)).1
  have hrow : row t.contacts = _ := row_set hlt
  have hstep : PrivateStep i s t := ⟨fun _ => .refl, private_set hlt hf⟩
  -- the row is that of a username, in every version
  have htype : ∀ w, (row s.contacts k).Version w → ¬ w.IsTelegram := by
    intro w hw htel
    have hsame : w.key = v.key := h.keyed.version_key hw (.of_visible hv)
    rw [hkey] at hsame
    have hname : w.contactType = "telegram_username" := congrArg Prod.fst hsame
    rw [UserContact.IsTelegram, hname] at htel
    exact absurd htel (by decide)
  refine ⟨h.step hc hstep rfl (h.keyed.set hv rfl) (fun k' w hh hw => ?_)
    (fun u y _ hy => h.own_user hy) ⟨?_, ho.user, ho.others⟩, hstep.keeps⟩
  · by_cases hk : k' = k
    · subst hk
      rw [hrow, Function.update_self] at hw
      refine ⟨fun v' hv' => htype v' (.inl hv'), ⟨owner.nameOrNick⟩, ?_⟩
      rw [← Option.some.inj hw]
      exact ho.user
    · rw [hrow, Function.update_of_ne hk] at hh hw
      exact h.own hh hw
  · obtain ⟨k', w, hw, hwkey, hu⟩ := ho.contact
    have hk : k' ≠ k := by
      rintro rfl
      exact htype w (.of_visible hw) (isTelegram_of_key hwkey)
    refine ⟨k', w, ?_, hwkey, hu⟩
    rw [hrow, Function.update_of_ne hk]
    exact hw

theorem upsertUsername_advance {username : String} (hst : c.stage = .upsertUsername username owner)
    (hs : upsertUsername s i c username owner = some s') : Advance first s s' := by
  have hstage := h.calls i c hc
  rw [Call.Sound, hst] at hstage
  obtain ⟨ho, husername⟩ := hstage
  unfold upsertUsername at hs
  dsimp only at hs
  split at hs
  · rename_i e he
    cases hs
    refine rollback_advance h hc (.inr ⟨username, husername, ?_⟩)
    have htype : btrimIsEmpty "telegram_username" = false := by decide
    cases hblank : btrimIsEmpty username with
    | false => simp [UserContact.check, require, htype, hblank, bind, Except.bind] at he
    | true =>
      simp [UserContact.check, require, htype, hblank, bind, Except.bind] at he
      exact ⟨rfl, he.symm⟩
  · split at hs
    · cases hs
    rename_i hb
    split at hs
    · rename_i hl
      cases hs
      refine insertContact_advance h hc ho.user (by simpa using hb) (any_clashes_of_none hl) ?_
      obtain ⟨k, v, hv, hkey, hu⟩ := ho.contact
      exact ⟨⟨k, v, visible_append hv, hkey, hu⟩, ho.user, ho.others⟩
    · rename_i existing k hl
      obtain ⟨hv, hkey, -⟩ := lastVisible_some hl
      have hkey : existing.key = ("telegram_username", username) := of_decide_eq_true hkey
      have hexists : s.user i owner.userId = some ⟨owner.nameOrNick⟩ := ho.user
      split at hs
      · rename_i hf
        rw [if_pos (by rw [ownerExists, hexists, Option.isSome_some])] at hs
        cases hs
        exact moveUsername_advance h hc ho hf hv hkey
      · cases hs

theorem commit_advance (hst : c.stage = .commit owner) :
    Advance first s (s.commit i c (.returned owner)) := by
  have ho : Owner s i c owner := by
    have := h.calls i c hc
    rwa [Call.Sound, hst] at this
  exact ⟨h.commit hc ho, h.commit_keeps⟩

theorem statement_advance (hs : statement s i c = some s') : Advance first s s' := by
  unfold statement at hs
  split at hs
  next hst => cases hs; exact findExisting_advance h hc hst
  next hst => cases hs; exact createUser_advance h hc hst
  next hst => exact claimContact_advance h hc hst hs
  next hst => exact deleteUser_advance h hc hst hs
  next hst => cases hs; exact findCanonical_advance h hc hst
  next hst => exact upsertUsername_advance h hc hst hs
  next hst => cases hs; exact commit_advance h hc hst
  next => cases hs

end Statements

theorem call_advance (h : Sound first s) {telegramId : ℤ} {username : Option String}
    {name : String} : Advance first s
      { s with calls := s.calls ++ [⟨telegramId, username, name, .findExisting⟩] } := by
  refine ⟨⟨h.keyed, h.telegram, h.users, h.owned, h.written, h.registered, fun j hn => ?_,
    fun j d hd => ?_⟩, ⟨fun _ _ hx => hx, fun _ _ _ hv => hv⟩⟩
  · apply h.waiting
    rw [List.getElem?_eq_none_iff] at hn ⊢
    rw [List.length_append] at hn
    omega
  · rw [congrFun Table.getElem?_append j] at hd
    by_cases hj : j = s.calls.length
    · subst hj
      rw [Function.update_self] at hd
      cases hd
      exact h.waiting _ (by simp)
    · rw [Function.update_of_ne hj] at hd
      exact (h.calls j d hd).of_tables rfl rfl

theorem Sound.advance (h : Sound first s) (hs : Transition.Labelled exec s s') :
    Advance first s s' := by
  obtain ⟨a, hs⟩ := hs
  cases a with
  | call telegramId username name =>
    cases hs
    exact call_advance h
  | statement i =>
    obtain ⟨c, hc, hs⟩ := Option.bind_eq_some_iff.1 hs
    exact statement_advance h hc hs
  | abort i =>
    obtain ⟨c, hc, hs⟩ := Option.bind_eq_some_iff.1 hs
    split_ifs at hs
    cases hs
    exact rollback_advance h hc trivial

/-! ## Runs -/

theorem Sound.run (h : Sound first s) (hr : ReflTransGen (Transition.Labelled exec) s s') :
    Advance first s s' := by
  induction hr with
  | refl => exact ⟨h, .refl⟩
  | tail _ hs ih =>
    have hstep := ih.sound.advance hs
    exact ⟨hstep.sound, ih.keeps.trans hstep.keeps⟩

variable {s₀ : Registry}

/-- No call finds that it has lost its contact without another owner: it raises only for a
blank name or a blank username of its own. -/
theorem raises_own_blanks (h₀ : Init s₀) (hr : ReflTransGen (Transition.Labelled exec) s₀ s)
    (hc : s.calls[i]? = some c) {e : Error} (hst : c.stage = .raised e) : c.Excuses e := by
  have h := ((Sound.of_init h₀).run hr).sound.calls i c hc
  rwa [Call.Sound, hst] at h

/-- From any committed state, in every interleaving of registrations: a telegram contact has
one owner, who exists and stays its owner; a call that has committed has returned the owner
of its telegram identifier; and every user that the calls have created and committed owns a
telegram contact. -/
theorem telegram_contact_has_one_owner (h₀ : Init s₀)
    (hr : ReflTransGen (Transition.Labelled exec) s₀ s) :
    (∀ value u, OwnsTelegram s value u →
      (∃ x, (row s.users u).committed = some (some x)) ∧
      (∀ u', OwnsTelegram s value u' → u' = u) ∧
      ∀ s', ReflTransGen (Transition.Labelled exec) s s' → OwnsTelegram s' value u) ∧
    (∀ (i : ℕ) (c : Call) owner, s.calls[i]? = some c → c.stage = .returned owner →
      OwnsTelegram s (toString c.telegramId) owner.userId ∧
      (row s.users owner.userId).committed = some (some ⟨owner.nameOrNick⟩)) ∧
    ∀ u x, s₀.users.length ≤ u → (row s.users u).committed = some (some x) →
      ∃ value, OwnsTelegram s value u := by
  have h := ((Sound.of_init h₀).run hr).sound
  refine ⟨fun value u hu => ⟨?_, fun u' hu' => ?_, fun s' hr' => ?_⟩, fun i c owner hc hst => ?_,
    h.registered⟩
  · obtain ⟨k, v, hv, -, rfl⟩ := hu
    exact h.owned k v hv
  · obtain ⟨k, v, hv, hkey, rfl⟩ := hu
    obtain ⟨k', v', hv', hkey', rfl⟩ := hu'
    obtain rfl := h.keyed.unique k k' v v' (.inl hv) (.inl hv') (hkey.trans hkey'.symm)
    rw [hv] at hv'
    cases hv'
    rfl
  · exact (h.run hr').keeps.owns hu
  · have hcall := h.calls i c hc
    rwa [Call.Sound, hst] at hcall

/-- Two registrations of one account race, and the second waits for the contact of the first;
a third is rolled back after it has claimed its contact. -/
def race : List Action :=
  [.call 1001 (some "alice") "Alice", .call 1001 (some "alice") "Alice A.", .statement 0,
    .statement 1, .statement 0, .statement 1, .statement 0, .call 1002 none "Bob", .statement 2,
    .statement 2, .statement 2, .statement 0, .abort 2, .statement 0, .statement 1, .statement 1,
    .statement 1, .statement 1, .statement 1]

example : (Transition.execAll exec {} (race.take 7)).any (fun s => (exec s (.statement 1)).isNone) =
    true := by decide +kernel

theorem init_empty : Init {} := by
  constructor <;> simp [row]

theorem telegram_contact_has_one_owner_race : ∃ s,
    ReflTransGen (Transition.Labelled exec) {} s ∧ s.users.length = 3 ∧
    OwnsTelegram s "1001" 0 ∧ (∀ u, OwnsTelegram s "1001" u → u = 0) ∧
    ∀ u x, (row s.users u).committed = some (some x) → ∃ value, OwnsTelegram s value u := by
  obtain ⟨s, hs, hcond⟩ := (Option.any_eq_true _ _).1
    (show (Transition.execAll exec {} race).any (fun s => s.users.length = 3 &&
      s.calls[1]?.any (fun c => c.telegramId = 1001 && c.stage = .returned ⟨0, "Alice"⟩)) = true by
        decide +kernel)
  simp only [Bool.and_eq_true, decide_eq_true_eq] at hcond
  obtain ⟨hlen, hcall⟩ := hcond
  obtain ⟨c, hc, hst⟩ := (Option.any_eq_true _ _).1 hcall
  simp only [Bool.and_eq_true, decide_eq_true_eq] at hst
  have hr := Transition.execAll_run hs
  obtain ⟨hunique, hreturned, hregistered⟩ := telegram_contact_has_one_owner init_empty hr
  have howns := (hreturned 1 c _ hc hst.2).1
  rw [hst.1] at howns
  exact ⟨s, hr, hlen, howns, (hunique _ _ howns).2.1, fun u x => hregistered u x (Nat.zero_le u)⟩

end TelegramRegistration

end ShopBot
