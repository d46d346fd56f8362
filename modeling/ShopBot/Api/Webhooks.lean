import ShopBot.Domain.Common
import ShopBot.Library.IpAddress

/-! # Where a webhook comes from

The peer of a connection may be a proxy that is trusted. Then the chain of forwarded
addresses is walked from the peer to the client, as far as trusted proxies vouch for it.
-/

namespace ShopBot

namespace Webhooks

structure HttpError where
  statusCode : ℕ
  detail : String
deriving DecidableEq, Repr

def invalidSource : HttpError where
  statusCode := 401
  detail := "invalid webhook source"

/-- What a request says of its origin: the host of the connection and the header. -/
structure Request where
  clientHost : Option String
  forwardedFor : Option String
deriving DecidableEq, Repr

def peerIp (request : Request) : Except HttpError String :=
  match request.clientHost with
  | none => .error invalidSource
  | some host => if host = "" then .error invalidSource else .ok host

def isAddress (value : String) : Bool := (IpAddress.parse value.toList).isSome

/-- Some network contains the address; a text that is no network ends the search. -/
def inNetworks (address : IpAddress.Address) : List String → Bool
  | [] => false
  | cidr :: rest =>
    match IpAddress.parseNetwork cidr.toList with
    | none => false
    | some network => network.contains address || inNetworks address rest

def inCidrs (value : String) (cidrs : List String) : Bool :=
  (IpAddress.parse value.toList).any fun address => inNetworks address cidrs

/-- `[part.strip() for part in text.split(",") if part.strip()]` -/
def chainOf (text : List Char) : List String :=
  ((text.splitOn ',').map fun part => stripText (.ofList part)).filter (· ≠ "")

/-- The entries of the header, from the client to the peer. -/
def forwardedChain (request : Request) : List String :=
  chainOf (request.forwardedFor.getD "").toList

/-- The walk over the entries that are left, the nearest first. -/
def walk (cidrs : List String) (current : String) : List String → Except HttpError String
  | [] => .ok current
  | candidate :: rest =>
    if !inCidrs current cidrs then .ok current
    else if !isAddress candidate then .error invalidSource
    else walk cidrs candidate rest

/-- `_effective_client_ip` -/
def effectiveClientIp (request : Request) (trustedProxyCidrs : List String) :
    Except HttpError String := do
  let peer ← peerIp request
  if !inCidrs peer trustedProxyCidrs then return peer
  let chain := forwardedChain request
  if chain.isEmpty then return peer
  walk trustedProxyCidrs peer chain.reverse

/-- The check that `_handle_payment_webhook` makes of a provider that signs nothing. -/
def checkSource (provider : String) (request : Request)
    (trustedProxyCidrs yookassaWebhookAllowedNetworks : List String) : Except HttpError Unit := do
  if lowerText (stripText provider) = "yookassa" then
    let sourceIp ← effectiveClientIp request trustedProxyCidrs
    if !inCidrs sourceIp yookassaWebhookAllowedNetworks then throw invalidSource

end Webhooks

end ShopBot
