import ShopBot.NodeAgent.Handlers

/-! # The operations of a node agent

Requests, calls of the panel, writes to the journal and crashes of handlers come in any
order. The history keeps what the panel has done and what the agent has received and
answered.
-/

namespace ShopBot

open Linearization

inductive AgentAnswer where
  | ok (response : AgentOperationResponse)

  | error (statusCode : ℕ) (detail : String)
deriving DecidableEq, Repr

inductive AgentEntry where
  | received (key : String) (request : AgentRequest)

  /-- What the panel has executed for the owner of a key, or has reported to it as done. -/
  | wrote (write : Write String XuiCell (Option XuiClientPayload))

  | answered (key : String) (request : AgentRequest) (answer : AgentAnswer)
deriving DecidableEq, Repr

/-- An agent with its panel; `retired` are the keys whose rows have been deleted. -/
structure NodeAgent where
  journal : JournalState
  panel : XuiPanel
  handlers : List AgentHandler := []
  history : List AgentEntry := []
  retired : List String := []

inductive AgentEvent where
  /-- A request whose signature is valid for the key. -/
  | receive (request : AgentRequest) (verifiedKey : String) (now : DateTime) (ownerToken : Uuid)

  /-- The panel executes the request of a handler. -/
  | execute (handler : ℕ)

  | reply (handler : ℕ) (reply : XuiReply) (now : DateTime)

  /-- The panel returns the inbound to a handler that verifies a deletion. -/
  | inspect (handler : ℕ) (now : DateTime)

  /-- The call of a handler raises. -/
  | fail (handler : ℕ) (error : String)

  /-- A handler writes its outcome to the journal and answers. -/
  | finish (handler : ℕ) (now : DateTime)

  /-- A handler is cancelled, or dies with its process. -/
  | abandon (handler : ℕ)

  | retire (key verifiedKey : String) (now : DateTime)

namespace NodeAgent

variable (lib : AgentPrimitives) (codec : ResponseCodec AgentOperationResponse)
  (leaseSeconds : ℤ)

def answer (n : NodeAgent) (key : String) (request : AgentRequest) (answer : AgentAnswer) :
    NodeAgent :=
  { n with history := n.history ++ [.answered key request answer] }

/-- The attempts that have been granted, oldest first. -/
def attempts (n : NodeAgent) : List AgentAttempt := n.handlers.map AgentHandler.toAgentAttempt

def setHandler (n : NodeAgent) (i : ℕ) (h : AgentHandler) : NodeAgent :=
  { n with handlers := n.handlers.set i h }

/-- The attempt still owns its key. -/
def owns (n : NodeAgent) (a : AgentAttempt) : Bool :=
  (n.journal.rows a.key).any (·.ownedBy a.ownerToken)

/-- `_execute_operation`, from the claim to the first call of the runtime. -/
def claim (n : NodeAgent) (now : DateTime) (a : AgentAttempt) : Option NodeAgent :=
  (n.journal.exec codec leaseSeconds
    (.claim a.key (a.journalRequest lib) now a.ownerToken)).map fun journal =>
      let n' : NodeAgent := { n with
        journal := journal
        history := n.history ++ [.received a.key a.request] }
      let claim := (NodeOperationJournal.claim codec leaseSeconds n.journal.rows a.key
        (a.journalRequest lib) now a.ownerToken).1
      match claim.kind with
      | .conflict => n'.answer a.key a.request
          (.error 409 "Idempotency key was already used for a different request")
      | .inProgress => n'.answer a.key a.request
          (.error 409 "Operation with this idempotency key is already in progress")
      | .replay => n'.answer a.key a.request (.ok (claim.response.getD codec.empty))
      | .owner =>
        let h : AgentHandler := { toAgentAttempt := a, stage := .ended }
        { n' with handlers := n.handlers ++ [h.start lib claim.reclaimed] }

/-- `_execute_operation`, up to the claim. -/
def receive (n : NodeAgent) (request : AgentRequest) (verifiedKey : String) (now : DateTime)
    (ownerToken : Uuid) : Option NodeAgent :=
  match request.payload lib with
  | none => some (n.answer verifiedKey request (.error 422 "invalid request body"))
  | some payload =>
    match validateXuiInbound lib payload.inboundId with
    | none => some (n.answer verifiedKey request
        (.error 422 "inbound_id must be a positive integer"))
    | some inboundId =>
      if payload.idempotencyKey ≠ verifiedKey then
        some (n.answer verifiedKey request
          (.error 400 "Signed idempotency key does not match request body"))
      else
        n.claim lib codec leaseSeconds now {
          request := request
          payload := payload
          inboundId := inboundId
          ownerToken := ownerToken }

def execute (n : NodeAgent) (i : ℕ) : Option NodeAgent :=
  match n.handlers[i]? with
  | none => none
  | some h =>
    h.inFlight.map fun p =>
      let w := { key := h.key, cell := h.cell, value := p.client }
      { n.setHandler i { h with inFlight := none, executed := true } with
        panel := apply n.panel w
        history := n.history ++ [.wrote w] }

def reply (n : NodeAgent) (i : ℕ) (reply : XuiReply) (now : DateTime) : Option NodeAgent :=
  match n.handlers[i]? with
  | none => none
  | some h =>
    if h.waits && h.genuine lib reply then some (n.setHandler i (h.afterReply lib reply now))
    else none

/-- An owner that is told that the client is not there has its deletion done. -/
def inspect (n : NodeAgent) (i : ℕ) (now : DateTime) : Option NodeAgent :=
  match n.handlers[i]? with
  | none => none
  | some h =>
    match h.stage with
    | .verifying =>
      let contains := (n.panel h.cell).isSome
      let n' := n.setHandler i (h.afterDeletion lib (!contains) now)
      if !contains && n.owns h.toAgentAttempt then
        some { n' with
          history := n.history ++ [.wrote { key := h.key, cell := h.cell, value := none }] }
      else some n'
    | _ => none

def fail (n : NodeAgent) (i : ℕ) (error : String) : Option NodeAgent :=
  match n.handlers[i]? with
  | none => none
  | some h => if h.waits then some (n.setHandler i (h.raised error)) else none

/-- `_execute_operation`, from the outcome of the runtime on. -/
def finish (n : NodeAgent) (i : ℕ) (now : DateTime) : Option NodeAgent :=
  match n.handlers[i]? with
  | none => none
  | some h =>
    let n' := n.setHandler i { h with stage := .ended }
    match h.stage with
    | .finishing (.error error) =>
      (n.journal.exec codec leaseSeconds (.markRetryable h.key h.ownerToken error now)).map
        fun journal => { n' with journal := journal }.answer h.key h.request
          (.error 500 "Internal Server Error")
    | .finishing (.ok response) =>
      if response.status ∈ h.payload.operation.successStatuses then
        (n.journal.exec codec leaseSeconds (.complete h.key h.ownerToken response now)).map
          fun journal => { n' with journal := journal }.answer h.key h.request <|
            if (NodeOperationJournal.complete codec n.journal.rows h.key h.ownerToken response
              now).1 then .ok response
            else .error 409 "Operation ownership changed before journal finalization"
      else
        let error := Auth.orDefault response.message
          (Auth.orDefault response.errorCode s!"remote status={response.status}")
        (n.journal.exec codec leaseSeconds (.markRetryable h.key h.ownerToken error now)).map
          fun journal => { n' with journal := journal }.answer h.key h.request (.ok response)
    | _ => none

def abandon (n : NodeAgent) (i : ℕ) : Option NodeAgent :=
  n.handlers[i]?.map fun h => n.setHandler i { h with stage := .ended }

/-- `retire_journal` -/
def retire (n : NodeAgent) (key verifiedKey : String) (now : DateTime) : Option NodeAgent :=
  if key ≠ verifiedKey then some n
  else
    (n.journal.exec codec leaseSeconds (.retire key now)).map fun journal =>
      match (NodeOperationJournal.retire n.journal.rows key).1 with
      | .retired => { n with journal := journal, retired := n.retired ++ [key] }
      | _ => { n with journal := journal }

def exec (n : NodeAgent) : AgentEvent → Option NodeAgent
  | .receive request verifiedKey now ownerToken =>
    n.receive lib codec leaseSeconds request verifiedKey now ownerToken
  | .execute i => n.execute i
  | .reply i reply now => n.reply lib i reply now
  | .inspect i now => n.inspect lib i now
  | .fail i error => n.fail i error
  | .finish i now => n.finish codec leaseSeconds i now
  | .abandon i => n.abandon i
  | .retire key verifiedKey now => n.retire codec leaseSeconds key verifiedKey now

/-- An empty journal, and no handler. -/
def Initial (n : NodeAgent) : Prop :=
  n.journal.Initial ∧ n.panel = (fun _ => none) ∧ n.handlers = [] ∧ n.history = [] ∧
    n.retired = []

def Step : NodeAgent → NodeAgent → Prop := Transition.Labelled (exec lib codec leaseSeconds)

def Reachable : NodeAgent → Prop := Transition.Reachable Initial (Step lib codec leaseSeconds)

/-- The panel executes a request of a handler that has lost its key. -/
def late (n : NodeAgent) : AgentEvent → Bool
  | .execute i => n.handlers[i]?.any fun h => h.inFlight.isSome && !n.owns h.toAgentAttempt
  | _ => false

/-- Execute an event unless it is late. -/
def execPunctual (n : NodeAgent) (event : AgentEvent) : Option NodeAgent :=
  if n.late event then none else n.exec lib codec leaseSeconds event

/-- Steps in which the panel executes requests of owners only. -/
def PunctualStep : NodeAgent → NodeAgent → Prop :=
  Transition.Labelled (execPunctual lib codec leaseSeconds)

def PunctualReachable : NodeAgent → Prop :=
  Transition.Reachable Initial (PunctualStep lib codec leaseSeconds)

/-! ## What the history tells -/

def write? : AgentEntry → Option (Write String XuiCell (Option XuiClientPayload))
  | .wrote w => some w
  | _ => none

/-- What has been written to the panel, oldest first. -/
def writes (n : NodeAgent) : List (Write String XuiCell (Option XuiClientPayload)) :=
  n.history.filterMap write?

/-- The key was answered with a success. -/
def isSuccess (key : String) : AgentEntry → Bool
  | .answered key' request (.ok response) =>
    key' = key && response.status ∈ request.operation.successStatuses
  | _ => false

def isReceipt (key : String) : AgentEntry → Bool
  | .received key' _ => key' = key
  | _ => false

/-- The first key had been answered with success before the second key was received. -/
def Before (n : NodeAgent) (key key' : String) : Prop :=
  ∃ earlier later, n.history = earlier ++ later ∧ earlier.any (isSuccess key) = true ∧
    earlier.any (isReceipt key') = false

end NodeAgent

end ShopBot
