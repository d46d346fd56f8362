import ShopBot.Api.Webhooks

/-! # Forwarded addresses

The address a webhook is taken to come from is the first one, walking from the peer to the
client, that no trusted proxy stands for. What the header says further to the left was written
by that address or behind it, and nothing of it is read.
-/

namespace ShopBot
open ShopBot

namespace Webhooks

/-! ## The walk -/

theorem walk_eq_find? {cidrs : List String} {a : String} :
    ∀ {entries : List String} {current : String}, walk cidrs current entries = .ok a →
      a = ((current :: entries).find? (!inCidrs · cidrs)).getD
        ((current :: entries).getLast (List.cons_ne_nil _ _))
  | [], current, h => by
      obtain rfl : current = a := by simpa [walk] using h
      cases hcurrent : inCidrs current cidrs <;> simp [hcurrent]
  | candidate :: rest, current, h => by
      rw [walk] at h
      split_ifs at h with huntrusted haddress
      · obtain rfl : current = a := by simpa using h
        simp [List.find?, huntrusted]
      · have htrusted : inCidrs current cidrs = true := by simpa using huntrusted
        rw [List.find?_cons_of_neg (by simp [htrusted]), List.getLast_cons (List.cons_ne_nil _ _)]
        exact walk_eq_find? h

/-- A walk that ends at an untrusted address never looked behind it. -/
theorem walk_append {cidrs : List String} {a : String} (ha : inCidrs a cidrs = false)
    (far : List String) : ∀ {near : List String} {current : String},
      walk cidrs current near = .ok a → walk cidrs current (near ++ far) = .ok a
  | [], current, h => by
      obtain rfl : current = a := by simpa [walk] using h
      cases far with
      | nil => rfl
      | cons candidate rest => simp [walk, ha]
  | candidate :: rest, current, h => by
      rw [walk] at h
      rw [List.cons_append, walk]
      split_ifs at h ⊢ with huntrusted haddress
      · exact h
      · exact walk_append ha far h

theorem walk_stops {cidrs : List String} {a : String} (ha : inCidrs a cidrs = false) :
    ∀ {entries : List String} {current : String}, inCidrs current cidrs = true →
      walk cidrs current entries = .ok a →
      ∃ trusted far, entries = trusted ++ a :: far ∧
        (∀ proxy ∈ trusted, inCidrs proxy cidrs = true) ∧
        walk cidrs current (trusted ++ [a]) = .ok a
  | [], current, hcurrent, h => by
      obtain rfl : current = a := by simpa [walk] using h
      simp [hcurrent] at ha
  | candidate :: rest, current, hcurrent, h => by
      rw [walk, hcurrent] at h
      split_ifs at h with hfalse haddress
      · exact absurd hfalse (by simp)
      · cases hcandidate : inCidrs candidate cidrs with
        | false =>
          obtain rfl : candidate = a := by
            cases rest with
            | nil => simpa [walk] using h
            | cons _ _ => simpa [walk, hcandidate] using h
          exact ⟨[], rest, rfl, by simp, by simp [walk, hcurrent, haddress]⟩
        | true =>
          obtain ⟨trusted, far, rfl, htrusted, hwalk⟩ := walk_stops ha hcandidate h
          refine ⟨candidate :: trusted, far, rfl, ?_, ?_⟩
          · simpa [hcandidate] using htrusted
          · simp [walk, hcurrent, haddress, hwalk]

/-! ## The header -/

theorem chainOf_append (left right : List Char) :
    chainOf (left ++ ',' :: right) = chainOf left ++ chainOf right := by
  simp only [chainOf, List.splitOn_append_cons_self, List.map_append, List.filter_append]

theorem length_chainOf_le {text : List Char} (h : ',' ∉ text) : (chainOf text).length ≤ 1 := by
  rw [chainOf, List.splitOn_eq_singleton h]
  simpa using List.length_filter_le (· ≠ "") [stripText (.ofList text)]

/-- The text ends with these characters, and a comma divides them from what is before. -/
def IsTail (right text : List Char) : Prop := text = right ∨ ∃ left, text = left ++ ',' :: right

theorem IsTail.append {right text : List Char} (h : IsTail right text) (left : List Char) :
    IsTail right (left ++ ',' :: text) := by
  obtain rfl | ⟨middle, rfl⟩ := h
  · exact .inr ⟨left, rfl⟩
  · exact .inr ⟨left ++ ',' :: middle, by simp⟩

theorem IsTail.chainOf_eq {right text : List Char} (h : IsTail right text) :
    ∃ before, chainOf text = before ++ chainOf right := by
  obtain rfl | ⟨left, rfl⟩ := h
  · exact ⟨[], rfl⟩
  · exact ⟨chainOf left, chainOf_append left right⟩

/-- Before any entry of the chain the header can be cut. -/
theorem exists_tail {a : String} {after before : List String} {text : List Char}
    (h : chainOf text = before ++ a :: after) :
    ∃ right, IsTail right text ∧ chainOf right = a :: after := by
  by_cases hcomma : ',' ∈ text
  · obtain ⟨left, rest, rfl, hleft⟩ := List.eq_append_cons_of_mem hcomma
    have hlength := length_chainOf_le hleft
    rw [chainOf_append] at h
    -- the first part of the text holds no entry, the entry itself or one before it
    match hchain : chainOf left, before with
    | [], _ =>
      rw [hchain, List.nil_append] at h
      obtain ⟨right, htail, hright⟩ := exists_tail h
      exact ⟨right, htail.append left, hright⟩
    | [entry], [] => exact ⟨_, .inl rfl, by rw [chainOf_append]; exact h⟩
    | [entry], _ :: before =>
      rw [hchain] at h
      obtain ⟨right, htail, hright⟩ := exists_tail (List.cons.inj h).2
      exact ⟨right, htail.append left, hright⟩
    | _ :: _ :: _, _ => simp [hchain] at hlength
  · have hlength := length_chainOf_le hcomma
    rw [h, List.length_append, List.length_cons] at hlength
    obtain rfl : before = [] := List.eq_nil_of_length_eq_zero (by omega)
    exact ⟨text, .inl rfl, h⟩
termination_by text.length
decreasing_by all_goals (subst_vars; simp; omega)

/-! ## The address of the client -/

theorem effectiveClientIp_of_untrusted {request : Request} {cidrs : List String} {peer : String}
    (hpeer : peerIp request = .ok peer) (h : inCidrs peer cidrs = false) :
    effectiveClientIp request cidrs = .ok peer := by
  simp [effectiveClientIp, hpeer, h, pure, Except.pure, bind, Except.bind]

theorem effectiveClientIp_of_trusted {request : Request} {cidrs : List String} {peer : String}
    (hpeer : peerIp request = .ok peer) (h : inCidrs peer cidrs = true) :
    effectiveClientIp request cidrs = walk cidrs peer (forwardedChain request).reverse := by
  cases hchain : forwardedChain request with
  | nil => simp [effectiveClientIp, hpeer, h, hchain, walk, pure, Except.pure, bind, Except.bind]
  | cons entry rest =>
    simp [effectiveClientIp, hpeer, h, hchain, bind, Except.bind]

/-- The chain walked from the peer: the header from right to left. -/
def route (peer : String) (request : Request) : List String :=
  peer :: (forwardedChain request).reverse

theorem getLast_cons_reverse (peer : String) (entries : List String) :
    (peer :: entries.reverse).getLast (List.cons_ne_nil _ _) = entries.headD peer := by
  cases entries <;> simp

theorem getLast_route (peer : String) (request : Request) :
    (route peer request).getLast (List.cons_ne_nil _ _) = (forwardedChain request).headD peer :=
  getLast_cons_reverse peer _

theorem peer_of_ok {request : Request} {cidrs : List String} {a : String}
    (h : effectiveClientIp request cidrs = .ok a) : ∃ peer, peerIp request = .ok peer := by
  cases hpeer : peerIp request with
  | ok peer => exact ⟨peer, rfl⟩
  | error e => simp [effectiveClientIp, hpeer, bind, Except.bind] at h

/-- The address is the first on the route that is not trusted, or the last one there is; and
where it is not trusted, the header to the left of it can be any text. -/
theorem forwarded_address_not_spoofed {request : Request} {cidrs : List String} {a : String}
    (h : effectiveClientIp request cidrs = .ok a) :
    ∃ peer, peerIp request = .ok peer ∧
      a = ((route peer request).find? (!inCidrs · cidrs)).getD
        ((forwardedChain request).headD peer) ∧
      (inCidrs a cidrs = false →
        (a = peer ∧ ∀ header, effectiveClientIp { request with forwardedFor := header } cidrs =
          .ok a) ∨
        ∃ right proxies, IsTail right (request.forwardedFor.getD "").toList ∧
          chainOf right = a :: proxies ∧ (∀ proxy ∈ proxies, inCidrs proxy cidrs = true) ∧
          ∀ header : String, IsTail right header.toList →
            effectiveClientIp { request with forwardedFor := some header } cidrs = .ok a) := by
  obtain ⟨peer, hpeer⟩ := peer_of_ok h
  refine ⟨peer, hpeer, ?_, fun ha => ?_⟩
  · cases htrusted : inCidrs peer cidrs with
    | false =>
      rw [effectiveClientIp_of_untrusted hpeer htrusted] at h
      simpa [route, htrusted] using h.symm
    | true =>
      rw [effectiveClientIp_of_trusted hpeer htrusted] at h
      rw [← getLast_route]
      exact walk_eq_find? h
  · cases htrusted : inCidrs peer cidrs with
    | false =>
      rw [effectiveClientIp_of_untrusted hpeer htrusted] at h
      obtain rfl : peer = a := by simpa using h
      exact .inl ⟨rfl, fun header => effectiveClientIp_of_untrusted hpeer htrusted⟩
    | true =>
      rw [effectiveClientIp_of_trusted hpeer htrusted] at h
      obtain ⟨trusted, far, hentries, hproxies, hwalk⟩ := walk_stops ha htrusted h
      have hchain : forwardedChain request = far.reverse ++ a :: trusted.reverse := by
        rw [← List.reverse_reverse (forwardedChain request), hentries]
        simp
      obtain ⟨right, htail, hright⟩ := exists_tail hchain
      refine .inr ⟨right, trusted.reverse, htail, hright, by simpa using hproxies, ?_⟩
      intro header hheader
      obtain ⟨before, hbefore⟩ := hheader.chainOf_eq
      have hforwarded : forwardedChain { request with forwardedFor := some header } =
          before ++ a :: trusted.reverse := by rw [← hright]; exact hbefore
      have hpeer' : peerIp { request with forwardedFor := some header } = .ok peer := hpeer
      rw [effectiveClientIp_of_trusted hpeer' htrusted, hforwarded]
      simpa using walk_append ha before.reverse hwalk

def proxied : Request where
  clientHost := some "10.0.0.9"
  forwardedFor := some "not an address, 198.51.100.7, 10.0.0.1"

theorem proxied_address_not_spoofed : ∃ peer, peerIp proxied = .ok peer ∧
    "198.51.100.7" = ((route peer proxied).find? (!inCidrs · ["10.0.0.0/8"])).getD
      ((forwardedChain proxied).headD peer) := by
  obtain ⟨peer, hpeer, haddress, -⟩ := forwarded_address_not_spoofed
    (show effectiveClientIp proxied ["10.0.0.0/8"] = .ok "198.51.100.7" by decide +kernel)
  exact ⟨peer, hpeer, haddress⟩

end Webhooks

end ShopBot
