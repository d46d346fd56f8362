import ShopBot.Domain.Node
import ShopBot.Library.Linearization
import ShopBot.NodeAgent.Auth
import ShopBot.NodeAgent.Journal

/-! # Handlers of a node agent

A handler that has claimed the key of its request has the panel delete or add the client.
It calls the panel with one request after another; each call may raise, and the panel may
still execute a request whose call has raised.
-/

namespace ShopBot

open Linearization

structure AgentProvisionRequest where
  idempotencyKey : String
  clientUuid : String
  displayName : String
  inboundId : String
  flow : Option String := none
  expiresAt : Option String := none
deriving DecidableEq, Repr

structure AgentRevokeRequest where
  idempotencyKey : String
  clientUuid : String
  inboundId : String
deriving DecidableEq, Repr

inductive AgentPayload where
  | provision (request : AgentProvisionRequest)

  | revoke (request : AgentRevokeRequest)
deriving DecidableEq, Repr

structure AgentOperationResponse where
  status : String
  clientUuid : String
  remoteClientRef : Option String := none
  appliedAt : Option DateTime := none
  errorCode : Option String := none
  message : Option String := none
deriving DecidableEq, Repr

/-- The client of `addClient`. -/
structure XuiClientPayload where
  id : String
  email : String
  flow : String
  expiryTime : ℤ
deriving DecidableEq, Repr

/-- What the operations of an agent take from libraries besides digests and timestamps. -/
structure AgentPrimitives extends Primitives where
  /-- `int` of a text. -/
  int : String → Option ℤ
  readProvision : Bytes → Option AgentProvisionRequest
  readRevoke : Bytes → Option AgentRevokeRequest
  /-- `_expiry_milliseconds`, or the message that it raises. -/
  expiryMilliseconds : Option String → Except String ℤ
  /-- The exception of `raise_for_status`, as text. -/
  statusError : ℕ → String

namespace AgentProvisionRequest

def client (r : AgentProvisionRequest) (expiryTime : ℤ) : XuiClientPayload where
  id := r.clientUuid
  email := r.displayName
  flow := r.flow.getD ""
  expiryTime := expiryTime

end AgentProvisionRequest

namespace AgentOperation

def path : AgentOperation → String
  | .provision => "/agent/clients/provision"
  | .revoke => "/agent/clients/revoke"

def successStatuses : AgentOperation → List String
  | .provision => PROVISION_SUCCESS_STATUSES
  | .revoke => REVOKE_SUCCESS_STATUSES

end AgentOperation

namespace AgentPayload

def operation : AgentPayload → AgentOperation
  | .provision _ => .provision
  | .revoke _ => .revoke

def idempotencyKey : AgentPayload → String
  | .provision request => request.idempotencyKey
  | .revoke request => request.idempotencyKey

def clientUuid : AgentPayload → String
  | .provision request => request.clientUuid
  | .revoke request => request.clientUuid

def inboundId : AgentPayload → String
  | .provision request => request.inboundId
  | .revoke request => request.inboundId

/-- The client that the operation is to leave. -/
def outcome (lib : AgentPrimitives) : AgentPayload → Option XuiClientPayload
  | .provision request => (lib.expiryMilliseconds request.expiresAt).toOption.map request.client
  | .revoke _ => none

end AgentPayload

/-- An operation as it is asked for. -/
structure AgentRequest where
  operation : AgentOperation
  rawBody : Bytes
deriving DecidableEq, Repr

namespace AgentRequest

variable (lib : AgentPrimitives)

def payload (r : AgentRequest) : Option AgentPayload :=
  match r.operation with
  | .provision => (lib.readProvision r.rawBody).map .provision
  | .revoke => (lib.readRevoke r.rawBody).map .revoke

def requestHash (r : AgentRequest) : String :=
  lib.sha256 <|
    (lib.upper "POST" ++ "\n" ++ r.operation.path ++ "\n").toUTF8.data.toList ++ r.rawBody

end AgentRequest

/-- `_validate_xui_inbound` -/
def validateXuiInbound (lib : AgentPrimitives) (value : String) : Option ℤ :=
  (lib.int (stripText value)).filter (0 < ·)

/-! ## The panel -/

/-- Where the panel keeps a client: the inbound and the uuid. -/
abbrev XuiCell := ℤ × String

abbrev XuiPanel := XuiCell → Option XuiClientPayload

/-- A request that changes the clients of an inbound. -/
inductive XuiPost where
  | addClient (client : XuiClientPayload)

  | delClient
deriving DecidableEq, Repr

/-- The body of an answer of the panel. -/
inductive XuiBody where
  | notJson

  | notObject

  | object (success : Bool) (message : String)
deriving DecidableEq, Repr

structure XuiReply where
  statusCode : ℕ
  body : XuiBody
deriving DecidableEq, Repr

/-- What an answer to a deletion says. -/
inductive XuiDeletion where
  | deleted

  | ambiguous

  | raised (error : String)
deriving DecidableEq, Repr

namespace XuiPost

/-- The client that the panel has after it has executed the request. -/
def client : XuiPost → Option XuiClientPayload
  | .addClient client => some client
  | .delClient => none

end XuiPost

namespace XuiClient

variable (lib : AgentPrimitives)

def raiseForStatus (reply : XuiReply) : Except String Unit :=
  if 200 ≤ reply.statusCode ∧ reply.statusCode < 300 then .ok ()
  else .error (lib.statusError reply.statusCode)

/-- The message of the exception that a body raises. -/
def validatedBody : XuiBody → Except String Unit
  | .notJson => .error "XUI returned a non-JSON application response"
  | .notObject => .error "XUI returned a non-object application response"
  | .object success message =>
    if success then .ok () else .error s!"XUI logical request failed: {message}"

def runtimeError (message : String) : String := s!"RuntimeError: {message}"

def addClient (reply : XuiReply) : Except String Unit :=
  (raiseForStatus lib reply).bind fun _ => (validatedBody reply.body).mapError runtimeError

def deleteClient (reply : XuiReply) : XuiDeletion :=
  if reply.statusCode = 404 then .ambiguous
  else
    match raiseForStatus lib reply with
    | .error error => .raised error
    | .ok () =>
      match validatedBody reply.body with
      | .ok () => .deleted
      | .error message =>
        if ["not found", "not exist", "does not exist"].any (textContains (lowerText message)) then
          .ambiguous
        else .raised (runtimeError message)

end XuiClient

/-! ## Handlers -/

inductive AgentStage where
  /-- The panel is asked to delete the client. -/
  | deleting

  /-- The answer was ambiguous, and the panel is asked for the inbound. -/
  | verifying

  /-- The panel is asked to add the client. -/
  | adding

  /-- The runtime has returned or raised, and the journal is to be written. -/
  | finishing (outcome : Except String AgentOperationResponse)

  | ended
deriving Repr

/-- A claim of an operation that the journal has granted. -/
structure AgentAttempt where
  request : AgentRequest
  payload : AgentPayload
  inboundId : ℤ
  ownerToken : Uuid
deriving DecidableEq, Repr

namespace AgentAttempt

variable (lib : AgentPrimitives)

def key (a : AgentAttempt) : String := a.payload.idempotencyKey

def cell (a : AgentAttempt) : XuiCell := (a.inboundId, a.payload.clientUuid)

def journalRequest (a : AgentAttempt) : JournalRequest where
  requestHash := a.request.requestHash lib
  operation := a.payload.operation
  clientUuid := a.payload.clientUuid
  inboundId := a.payload.inboundId

/-- The operation, as one write of the client. -/
def write (a : AgentAttempt) : Write String XuiCell (Option XuiClientPayload) where
  key := a.key
  cell := a.cell
  value := a.payload.outcome lib

/-- Execute the operation at once. -/
def perform (panel : XuiPanel) (a : AgentAttempt) : XuiPanel := apply panel (a.write lib)

end AgentAttempt

/-- A handler with the attempt it makes. -/
structure AgentHandler extends AgentAttempt where
  stage : AgentStage
  /-- The request that the panel has been sent and has not executed. -/
  inFlight : Option XuiPost := none
  /-- Whether the panel has executed the last request. -/
  executed : Bool := false
deriving Repr

namespace AgentHandler

variable (lib : AgentPrimitives)

def raised (h : AgentHandler) (error : String) : AgentHandler :=
  { h with stage := .finishing (.error error) }

def returned (h : AgentHandler) (response : AgentOperationResponse) : AgentHandler :=
  { h with stage := .finishing (.ok response) }

/-- Send the panel a request. -/
def post (h : AgentHandler) (stage : AgentStage) (p : XuiPost) : AgentHandler :=
  { h with stage := stage, inFlight := some p, executed := false }

/-- `revoke_client`, up to the answer of the panel. -/
def revokeClient (h : AgentHandler) : AgentHandler := h.post .deleting .delClient

/-- `provision_client`, up to the answer of the panel. -/
def provisionClient (h : AgentHandler) (request : AgentProvisionRequest) : AgentHandler :=
  match lib.expiryMilliseconds request.expiresAt with
  | .error message => h.raised (XuiClient.runtimeError message)
  | .ok expiryTime => h.post .adding (.addClient (request.client expiryTime))

/-- The first call of the runtime: a provision that has been claimed before starts with a
cleanup. -/
def start (h : AgentHandler) (reclaimed : Bool) : AgentHandler :=
  match h.payload with
  | .provision request => if reclaimed then h.revokeClient else h.provisionClient lib request
  | .revoke _ => h.revokeClient

def revokedResponse (h : AgentHandler) (now : DateTime) : AgentOperationResponse where
  status := "revoked"
  clientUuid := h.payload.clientUuid
  appliedAt := some now

def provisionedResponse (request : AgentProvisionRequest) (now : DateTime) :
    AgentOperationResponse where
  status := "provisioned"
  clientUuid := request.clientUuid
  remoteClientRef := some request.displayName
  appliedAt := some now

/-- `revoke_client` has found out whether the client is gone. -/
def afterDeletion (h : AgentHandler) (deleted : Bool) (now : DateTime) : AgentHandler :=
  if deleted then
    match h.payload with
    | .provision request =>
      if (h.revokedResponse now).status ∈ REVOKE_SUCCESS_STATUSES then h.provisionClient lib request
      else h.raised (XuiClient.runtimeError "Ambiguous provision cleanup did not converge")
    | .revoke _ => h.returned (h.revokedResponse now)
  else h.raised (XuiClient.runtimeError "XUI client deletion could not be verified")

/-- `provision_client` has the answer of the panel. -/
def afterAddition (h : AgentHandler) (reply : XuiReply) (now : DateTime) : AgentHandler :=
  match XuiClient.addClient lib reply, h.payload with
  | .ok (), .provision request => h.returned (provisionedResponse request now)
  | .error error, _ => h.raised error
  | .ok (), .revoke _ => h

/-- The panel has answered: it does not execute the request any more. -/
def afterReply (h : AgentHandler) (reply : XuiReply) (now : DateTime) : AgentHandler :=
  let h := { h with inFlight := none }
  match h.stage with
  | .deleting =>
    match XuiClient.deleteClient lib reply with
    | .deleted => h.afterDeletion lib true now
    | .ambiguous => { h with stage := .verifying }
    | .raised error => h.raised error
  | .adding => h.afterAddition lib reply now
  | _ => h

/-- A success is the answer to a request that has been executed. -/
def genuine (h : AgentHandler) (reply : XuiReply) : Bool :=
  h.executed || !(XuiClient.addClient lib reply).isOk

/-- The handler waits for the panel. -/
def waits (h : AgentHandler) : Bool :=
  match h.stage with
  | .deleting | .verifying | .adding => true
  | _ => false

end AgentHandler

end ShopBot
