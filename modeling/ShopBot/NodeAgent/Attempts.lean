import ShopBot.NodeAgent.Operations

/-! # What an event does to an agent

A handler keeps its attempt, and has done its operation when the panel has executed the
request that carries it out. Every event is one of a few changes of the agent.
-/

namespace ShopBot

open Linearization

namespace AgentHandler

variable {lib : AgentPrimitives} {h : AgentHandler}

/-- The panel has done the operation of the handler. -/
def applied (h : AgentHandler) : Bool :=
  match h.stage with
  | .deleting => h.executed && h.payload.operation = .revoke
  | .adding => h.executed
  | .finishing (.ok _) => true
  | _ => false

/-- The request in flight is the one of the stage. -/
def Sends (lib : AgentPrimitives) (h : AgentHandler) (p : XuiPost) : Prop :=
  match h.stage with
  | .deleting => p = .delClient
  | .adding => p.client = h.payload.outcome lib
  | .verifying | .finishing (.ok _) => False
  | .finishing (.error _) | .ended => True

structure WellFormed (lib : AgentPrimitives) (h : AgentHandler) : Prop where
  idle : h.executed = true → h.inFlight = none
  sends : ∀ p ∈ h.inFlight, h.Sends lib p

/-- A handler moves on without a new effect on the panel. -/
structure Moves (lib : AgentPrimitives) (h h' : AgentHandler) : Prop where
  attempt : h'.toAgentAttempt = h.toAgentAttempt
  wellFormed : h.WellFormed lib → h'.WellFormed lib
  applied : h'.applied = true → h.applied = true

theorem Moves.of_idle {h' : AgentHandler} (hattempt : h'.toAgentAttempt = h.toAgentAttempt)
    (hidle : h'.inFlight = none) (happlied : h'.applied = true → h.applied = true) :
    h.Moves lib h' where
  attempt := hattempt
  wellFormed _ := ⟨fun _ => hidle, by simp [hidle]⟩
  applied := happlied

theorem Moves.trans {g h' : AgentHandler} (hg : h.Moves lib g) (hh' : g.Moves lib h') :
    h.Moves lib h' where
  attempt := hh'.attempt.trans hg.attempt
  wellFormed hw := hh'.wellFormed (hg.wellFormed hw)
  applied ha := hg.applied (hh'.applied ha)

theorem moves_raised (error : String) : h.Moves lib (h.raised error) where
  attempt := rfl
  wellFormed hw := ⟨hw.idle, fun _ _ => trivial⟩
  applied happlied := by cases happlied

theorem moves_ended : h.Moves lib { h with stage := .ended } where
  attempt := rfl
  wellFormed hw := ⟨hw.idle, fun _ _ => trivial⟩
  applied happlied := by cases happlied

theorem moves_provisionClient {request : AgentProvisionRequest}
    (hpayload : h.payload = .provision request) : h.Moves lib (h.provisionClient lib request) := by
  unfold provisionClient
  split
  next => exact moves_raised _
  next expiryTime hexpiry =>
    constructor
    · rfl
    · intro _
      constructor
      · intro hexecuted
        cases hexecuted
      · intro p hp
        cases hp
        change some (request.client expiryTime) = h.payload.outcome lib
        rw [hpayload, AgentPayload.outcome, hexpiry]
        rfl
    · intro happlied
      cases happlied

theorem moves_revokeClient : h.Moves lib h.revokeClient where
  attempt := rfl
  wellFormed _ := by
    constructor
    · intro hexecuted
      cases hexecuted
    · intro p hp
      cases hp
      exact rfl
  applied happlied := by cases happlied

theorem moves_start (reclaimed : Bool) : h.Moves lib (h.start lib reclaimed) := by
  unfold start
  split
  next request hpayload =>
    split_ifs
    · exact moves_revokeClient
    · exact moves_provisionClient hpayload
  next => exact moves_revokeClient

theorem not_applied_provisionClient (request : AgentProvisionRequest) :
    (h.provisionClient lib request).applied = false := by
  unfold provisionClient
  split <;> rfl

/-- After a deletion a handler has done its operation if that was the deletion. -/
theorem afterDeletion_spec (deleted : Bool) (now : DateTime)
    (hidle : h.WellFormed lib → h.inFlight = none) :
    (h.afterDeletion lib deleted now).toAgentAttempt = h.toAgentAttempt ∧
      (h.WellFormed lib → (h.afterDeletion lib deleted now).WellFormed lib) ∧
      ((h.afterDeletion lib deleted now).applied = true →
        deleted = true ∧ h.payload.operation = .revoke) := by
  unfold afterDeletion
  cases deleted with
  | false =>
    have hmoves : h.Moves lib (h.raised _) := moves_raised
      (XuiClient.runtimeError "XUI client deletion could not be verified")
    refine ⟨hmoves.attempt, hmoves.wellFormed, ?_⟩
    intro happlied
    cases happlied
  | true =>
    rw [if_pos rfl]
    split
    next request hpayload =>
      have hstatus : (h.revokedResponse now).status ∈ REVOKE_SUCCESS_STATUSES :=
        List.mem_cons_self
      rw [if_pos hstatus]
      have hmoves : h.Moves lib _ := moves_provisionClient hpayload
      refine ⟨hmoves.attempt, hmoves.wellFormed, ?_⟩
      intro happlied
      rw [not_applied_provisionClient] at happlied
      cases happlied
    next request hpayload =>
      refine ⟨rfl, ?_, ?_⟩
      · intro hw
        constructor
        · exact fun _ => hidle hw
        · intro p hp
          cases (hidle hw).symm.trans hp
      · intro _
        rw [hpayload]
        exact ⟨rfl, rfl⟩

theorem isOk_of_deleted {reply : XuiReply} (h : XuiClient.deleteClient lib reply = .deleted) :
    (XuiClient.addClient lib reply).isOk = true := by
  unfold XuiClient.deleteClient at h
  split_ifs at h
  split at h
  next => cases h
  next hstatus =>
    split at h
    next hbody =>
      rw [XuiClient.addClient, hstatus, hbody]
      rfl
    next => split_ifs at h

theorem moves_afterReply {reply : XuiReply} {now : DateTime}
    (hgenuine : h.genuine lib reply = true) : h.Moves lib (h.afterReply lib reply now) := by
  have hsuccess : (XuiClient.addClient lib reply).isOk = true → h.executed = true := by
    intro hok
    simpa [genuine, hok] using hgenuine
  -- the panel has answered, so that the request is not executed any more
  have hdropped : h.Moves lib { h with inFlight := none } :=
    Moves.of_idle rfl rfl id
  unfold afterReply
  dsimp only
  split
  next hstage =>
    apply hdropped.trans
    split
    next hdeleted =>
      have hidle : ({ h with inFlight := none } : AgentHandler).WellFormed lib →
          ({ h with inFlight := none } : AgentHandler).inFlight = none := fun _ => rfl
      obtain ⟨hattempt, hwell, happlied⟩ := afterDeletion_spec true now hidle
      refine ⟨hattempt, hwell, ?_⟩
      intro hdone
      have hrevoke := (happlied hdone).2
      unfold applied
      simp only [hstage, hsuccess (isOk_of_deleted hdeleted), hrevoke]
      rfl
    next =>
      apply Moves.of_idle
      · rfl
      · rfl
      · intro happlied
        cases happlied
    next => exact moves_raised _
  next hstage =>
    unfold afterAddition
    split
    next request hok hpayload =>
      apply Moves.of_idle
      · rfl
      · rfl
      · intro _
        unfold applied
        simp only [hstage]
        apply hsuccess
        rw [hok]
        rfl
    next =>
      apply Moves.of_idle
      · rfl
      · rfl
      · intro happlied
        cases happlied
    next => exact hdropped
  next => exact hdropped

theorem outcome_revoke (hrevoke : h.payload.operation = .revoke) :
    h.payload.outcome lib = none := by
  cases hpayload : h.payload with
  | provision request =>
    rw [hpayload] at hrevoke
    cases hrevoke
  | revoke request => rfl

/-- The request that carries the operation out leaves what the operation is to leave. -/
theorem WellFormed.outcome (hw : h.WellFormed lib) {p : XuiPost} (hp : h.inFlight = some p)
    (happlied : ({ h with inFlight := none, executed := true } : AgentHandler).applied = true) :
    p.client = h.payload.outcome lib := by
  have hsends := hw.sends p hp
  unfold Sends at hsends
  unfold AgentHandler.applied at happlied
  dsimp only at happlied
  cases hstage : h.stage with
  | deleting =>
    rw [hstage] at hsends happlied
    simp only [Bool.true_and, decide_eq_true_eq] at happlied
    rw [hsends, outcome_revoke happlied]
    rfl
  | adding =>
    rw [hstage] at hsends
    exact hsends
  | verifying =>
    rw [hstage] at hsends
    exact hsends.elim
  | ended =>
    rw [hstage] at happlied
    cases happlied
  | finishing outcome =>
    rw [hstage] at hsends happlied
    cases outcome with
    | ok response => exact hsends.elim
    | error error => cases happlied

end AgentHandler

/-- The attempt asks for what its request says, on an inbound of the panel. -/
structure AgentAttempt.Valid (lib : AgentPrimitives) (a : AgentAttempt) : Prop where
  payload : a.request.payload lib = some a.payload
  inboundId : validateXuiInbound lib a.payload.inboundId = some a.inboundId

theorem AgentAttempt.Valid.operation {lib : AgentPrimitives} {a : AgentAttempt} (h : a.Valid lib) :
    a.payload.operation = a.request.operation := by
  have hpayload := h.payload
  unfold AgentRequest.payload at hpayload
  split at hpayload
  next hoperation =>
    obtain ⟨p, -, hp⟩ := Option.map_eq_some_iff.1 hpayload
    rw [← hp, hoperation]
    rfl
  next hoperation =>
    obtain ⟨p, -, hp⟩ := Option.map_eq_some_iff.1 hpayload
    rw [← hp, hoperation]
    rfl

namespace NodeAgent

variable (lib : AgentPrimitives) (codec : ResponseCodec AgentOperationResponse)
  (leaseSeconds : ℤ)

/-- What the journal says to the claim of an attempt. -/
def claimOf (n : NodeAgent) (now : DateTime) (a : AgentAttempt) :
    JournalClaim AgentOperationResponse :=
  (NodeOperationJournal.claim codec leaseSeconds n.journal.rows a.key (a.journalRequest lib) now
    a.ownerToken).1

/-- The agent after its journal has taken a claim. -/
def withClaim (n : NodeAgent) (journal : JournalState) (a : AgentAttempt) : NodeAgent :=
  { n with
    journal := journal
    history := n.history ++ [.received a.key a.request] }

/-- The agent with a write of an attempt in its history. -/
def withWrite (n : NodeAgent) (w : Write String XuiCell (Option XuiClientPayload)) : NodeAgent :=
  { n with
    panel := apply n.panel w
    history := n.history ++ [.wrote w] }

/-- The changes that events make. In punctual changes the panel serves owners. -/
inductive Change (punctual : Prop) (n : NodeAgent) : NodeAgent → Prop where
  | unchanged : Change punctual n n

  | refused (key : String) (request : AgentRequest) (statusCode : ℕ) (detail : String) :
      Change punctual n (n.answer key request (.error statusCode detail))

  | declined (a : AgentAttempt) (valid : a.Valid lib) (now : DateTime) (journal : JournalState)
      (answer : AgentAnswer)
      (exec : n.journal.exec codec leaseSeconds
        (.claim a.key (a.journalRequest lib) now a.ownerToken) = some journal)
      (replayed : ∀ r, answer = .ok r → (n.claimOf lib codec leaseSeconds now a).kind = .replay ∧
        r = (n.claimOf lib codec leaseSeconds now a).response.getD codec.empty) :
      Change punctual n ((n.withClaim journal a).answer a.key a.request answer)

  | granted (h : AgentHandler) (valid : h.Valid lib) (now : DateTime) (journal : JournalState)
      (exec : n.journal.exec codec leaseSeconds
        (.claim h.key (h.journalRequest lib) now h.ownerToken) = some journal)
      (owner : (n.claimOf lib codec leaseSeconds now h.toAgentAttempt).kind = .owner)
      (wellFormed : h.WellFormed lib) (applied : h.applied = false) :
      Change punctual n { n.withClaim journal h.toAgentAttempt with
        handlers := n.handlers ++ [h] }

  | executed (i : ℕ) (h : AgentHandler) (p : XuiPost) (handler : n.handlers[i]? = some h)
      (inFlight : h.inFlight = some p) (owner : punctual → n.owns h.toAgentAttempt = true) :
      Change punctual n
        ((n.withWrite { key := h.key, cell := h.cell, value := p.client }).setHandler i
          { h with inFlight := none, executed := true })

  | moved (i : ℕ) (h h' : AgentHandler) (handler : n.handlers[i]? = some h)
      (moves : h.Moves lib h') : Change punctual n (n.setHandler i h')

  /-- A handler that has lost its key verifies a deletion. -/
  | overtaken (i : ℕ) (h h' : AgentHandler) (handler : n.handlers[i]? = some h)
      (attempt : h'.toAgentAttempt = h.toAgentAttempt)
      (wellFormed : h.WellFormed lib → h'.WellFormed lib)
      (owner : n.owns h.toAgentAttempt = false) : Change punctual n (n.setHandler i h')

  | verified (i : ℕ) (h h' : AgentHandler) (handler : n.handlers[i]? = some h)
      (attempt : h'.toAgentAttempt = h.toAgentAttempt)
      (wellFormed : h.WellFormed lib → h'.WellFormed lib)
      (applied : h'.applied = true → h.payload.operation = .revoke)
      (owner : n.owns h.toAgentAttempt = true) :
      Change punctual n
        ((n.withWrite { key := h.key, cell := h.cell, value := none }).setHandler i h')

  | failed (i : ℕ) (h : AgentHandler) (handler : n.handlers[i]? = some h) (error : String)
      (now : DateTime) (journal : JournalState) (answer : AgentAnswer)
      (exec : n.journal.exec codec leaseSeconds
        (.markRetryable h.key h.ownerToken error now) = some journal)
      (failure : ∀ r, answer = .ok r → r.status ∉ h.payload.operation.successStatuses) :
      Change punctual n
        (({ n with journal := journal }.setHandler i { h with stage := .ended }).answer h.key
          h.request answer)

  | completed (i : ℕ) (h : AgentHandler) (handler : n.handlers[i]? = some h)
      (response : AgentOperationResponse) (stage : h.stage = .finishing (.ok response))
      (now : DateTime) (journal : JournalState) (answer : AgentAnswer)
      (exec : n.journal.exec codec leaseSeconds
        (.complete h.key h.ownerToken response now) = some journal)
      (success : ∀ r, answer = .ok r → r = response ∧
        (NodeOperationJournal.complete codec n.journal.rows h.key h.ownerToken response now).1 =
          true) :
      Change punctual n
        (({ n with journal := journal }.setHandler i { h with stage := .ended }).answer h.key
          h.request answer)

  | kept (key : String) (now : DateTime) (journal : JournalState)
      (exec : n.journal.exec codec leaseSeconds (.retire key now) = some journal)
      (notRetired : (NodeOperationJournal.retire n.journal.rows key).1 ≠ .retired) :
      Change punctual n { n with journal := journal }

  | retired (key : String) (now : DateTime) (journal : JournalState)
      (exec : n.journal.exec codec leaseSeconds (.retire key now) = some journal) :
      Change punctual n { n with journal := journal, retired := n.retired ++ [key] }

variable {lib codec leaseSeconds} {n n' : NodeAgent} {punctual : Prop} {i : ℕ} {now : DateTime}
  {h : AgentHandler}

theorem claim_change {a : AgentAttempt} (hvalid : a.Valid lib)
    (hexec : n.claim lib codec leaseSeconds now a = some n') :
    n.Change lib codec leaseSeconds punctual n' := by
  unfold claim at hexec
  obtain ⟨journal, hjournal, rfl⟩ := Option.map_eq_some_iff.1 hexec
  dsimp only
  split
  next =>
    apply Change.declined a hvalid now journal _ hjournal
    intro r hr
    cases hr
  next =>
    apply Change.declined a hvalid now journal _ hjournal
    intro r hr
    cases hr
  next hkind =>
    apply Change.declined a hvalid now journal _ hjournal
    rintro _ ⟨⟩
    exact ⟨hkind, rfl⟩
  next hkind =>
    have hmoves : ({ toAgentAttempt := a, stage := .ended } : AgentHandler).Moves lib _ :=
      AgentHandler.moves_start (NodeOperationJournal.claim codec leaseSeconds n.journal.rows a.key
        (a.journalRequest lib) now a.ownerToken).1.reclaimed
    generalize AgentHandler.start lib _ _ = h at hmoves ⊢
    obtain ⟨hattempt, hwell, happlied⟩ := hmoves
    cases hattempt
    apply Change.granted h hvalid now journal hjournal hkind
    · apply hwell
      constructor
      · intro hexecuted
        cases hexecuted
      · intro p hp
        cases hp
    · rw [← Bool.not_eq_true]
      intro hdone
      cases happlied hdone

theorem receive_change {request : AgentRequest} {verifiedKey : String} {ownerToken : Uuid}
    (hexec : n.receive lib codec leaseSeconds request verifiedKey now ownerToken = some n') :
    n.Change lib codec leaseSeconds punctual n' := by
  unfold receive at hexec
  split at hexec
  next =>
    cases hexec
    exact .refused ..
  next payload hpayload =>
    split at hexec
    next =>
      cases hexec
      exact .refused ..
    next inboundId hinbound =>
      split_ifs at hexec
      · cases hexec
        exact .refused ..
      · apply claim_change _ hexec
        exact { payload := hpayload, inboundId := hinbound }

theorem execute_change (howner : punctual → n.late (.execute i) = false)
    (hexec : n.execute i = some n') : n.Change lib codec leaseSeconds punctual n' := by
  unfold execute at hexec
  split at hexec
  next => cases hexec
  next h hh =>
    obtain ⟨p, hp, rfl⟩ := Option.map_eq_some_iff.1 hexec
    apply Change.executed i h p hh hp
    intro hpunctual
    have hlate := howner hpunctual
    simpa [late, hh, hp] using hlate

theorem reply_change {reply : XuiReply} (hexec : n.reply lib i reply now = some n') :
    n.Change lib codec leaseSeconds punctual n' := by
  unfold NodeAgent.reply at hexec
  split at hexec
  next => cases hexec
  next h hh =>
    split_ifs at hexec with hcan
    rw [Bool.and_eq_true] at hcan
    obtain rfl := Option.some.inj hexec
    apply Change.moved i h (h.afterReply lib reply now) hh
    exact AgentHandler.moves_afterReply hcan.2

theorem inspect_change (hexec : n.inspect lib i now = some n') :
    n.Change lib codec leaseSeconds punctual n' := by
  unfold inspect at hexec
  split at hexec
  next => cases hexec
  next h hh =>
    split at hexec
    next hstage =>
      dsimp only at hexec
      have hidle : h.WellFormed lib → h.inFlight = none := by
        intro hw
        cases hp : h.inFlight with
        | none => rfl
        | some p =>
          have hsends := hw.sends p hp
          simp [AgentHandler.Sends, hstage] at hsends
      cases hpanel : n.panel h.cell with
      | some client =>
        simp only [hpanel, Option.isSome_some, Bool.not_true, Bool.false_and, Bool.false_eq_true,
          if_false] at hexec
        obtain rfl := Option.some.inj hexec
        apply Change.moved i h _ hh
        unfold AgentHandler.afterDeletion
        exact AgentHandler.moves_raised _
      | none =>
        simp only [hpanel, Option.isSome_none, Bool.not_false, Bool.true_and] at hexec
        obtain ⟨hattempt, hwell, happlied⟩ := AgentHandler.afterDeletion_spec true now hidle
        split_ifs at hexec with howner
        · obtain rfl := Option.some.inj hexec
          have hsame : n.panel = apply n.panel ⟨h.key, h.cell, none⟩ := by
            funext c
            unfold apply
            rw [← hpanel, Function.update_eq_self]
          have hchange : n.Change lib codec leaseSeconds punctual _ :=
            .verified i h _ hh hattempt hwell (fun hdone => (happlied hdone).2) howner
          unfold withWrite at hchange
          rw [← hsame] at hchange
          exact hchange
        · obtain rfl := Option.some.inj hexec
          rw [Bool.not_eq_true] at howner
          exact Change.overtaken i h _ hh hattempt hwell howner
    next => cases hexec

theorem fail_change {error : String} (hexec : n.fail i error = some n') :
    n.Change lib codec leaseSeconds punctual n' := by
  unfold fail at hexec
  split at hexec
  next => cases hexec
  next h hh =>
    split_ifs at hexec
    obtain rfl := Option.some.inj hexec
    exact Change.moved i h _ hh (AgentHandler.moves_raised _)

theorem finish_change (hexec : n.finish codec leaseSeconds i now = some n') :
    n.Change lib codec leaseSeconds punctual n' := by
  unfold finish at hexec
  split at hexec
  next => cases hexec
  next h hh =>
    dsimp only at hexec
    split at hexec
    next error hstage =>
      obtain ⟨journal, hjournal, rfl⟩ := Option.map_eq_some_iff.1 hexec
      apply Change.failed i h hh error now journal _ hjournal
      intro r hr
      cases hr
    next response hstage =>
      by_cases hstatus : response.status ∈ h.payload.operation.successStatuses
      · rw [if_pos hstatus] at hexec
        obtain ⟨journal, hjournal, rfl⟩ := Option.map_eq_some_iff.1 hexec
        apply Change.completed i h hh response hstage now journal _ hjournal
        intro r hr
        split_ifs at hr with hdone
        cases hr
        exact ⟨rfl, hdone⟩
      · rw [if_neg hstatus] at hexec
        obtain ⟨journal, hjournal, rfl⟩ := Option.map_eq_some_iff.1 hexec
        apply Change.failed i h hh _ now journal _ hjournal
        rintro _ ⟨⟩
        exact hstatus
    next => cases hexec

theorem abandon_change (hexec : n.abandon i = some n') :
    n.Change lib codec leaseSeconds punctual n' := by
  obtain ⟨h, hh, rfl⟩ := Option.map_eq_some_iff.1 hexec
  exact Change.moved i h _ hh AgentHandler.moves_ended

theorem retire_change {key verifiedKey : String}
    (hexec : n.retire codec leaseSeconds key verifiedKey now = some n') :
    n.Change lib codec leaseSeconds punctual n' := by
  unfold retire at hexec
  split_ifs at hexec
  · cases hexec
    exact .unchanged
  · obtain ⟨journal, hjournal, rfl⟩ := Option.map_eq_some_iff.1 hexec
    split
    next => exact .retired key now journal hjournal
    next hkept => exact .kept key now journal hjournal hkept

theorem exec_change {event : AgentEvent} (hlate : punctual → n.late event = false)
    (hexec : n.exec lib codec leaseSeconds event = some n') :
    n.Change lib codec leaseSeconds punctual n' := by
  cases event with
  | receive => exact receive_change hexec
  | execute => exact execute_change hlate hexec
  | reply => exact reply_change hexec
  | inspect => exact inspect_change hexec
  | fail => exact fail_change hexec
  | finish => exact finish_change hexec
  | abandon => exact abandon_change hexec
  | retire => exact retire_change hexec

end NodeAgent

end ShopBot
