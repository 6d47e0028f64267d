import Dandelion.Core.Machine
import Dandelion.Endpoint
import Dandelion.Net.HeaderMap

/-!
# The HTTP acceptor

A client connection of an HTTP proxy. The first request decides on the endpoint: a `CONNECT`
becomes a tunnel, and every other request is forwarded. Parsing of URIs and the HTTP library are
parameters.
-/

namespace Dandelion.Acceptor.HttpProxy

open Net Http

/-- The host of a URI: free of colons, or in brackets. -/
structure Host where
  text : List Char
  valid : ':' ∉ text ∨ ∃ inner, text = '[' :: (inner ++ [']'])

/-- A URI, by its textual form and its parts. -/
structure Uri where
  text : String
  host : Option Host
  port : Option UInt16
  pathAndQuery : Option String

inductive Method where
  | connect
  | other (name : String)
deriving DecidableEq

structure Request where
  method : Method
  uri : Uri
  headers : HeaderMap
  body : List UInt8

/-- Turn a request to a proxy into one to the server itself. -/
def transformProxyRequest (parseUri : String → Option Uri) (request : Request) :
    Option Request := do
  let headers ←
    if request.headers.containsKey "host" then some request.headers
    else do
      let host ← request.uri.host
      let value ← headerValue (String.ofList host.text)
      some (request.headers.insert "host" value)
  let pathAndQuery ← request.uri.pathAndQuery
  let uri ← parseUri pathAndQuery
  let headers := (headers.remove "proxy-authenticate").2
  let headers := (headers.remove "proxy-authorization").2
  -- map Proxy-Connection to Connection if necessary
  let headers := match headers.remove "proxy-connection" with
    | (some c, headers) => headers.orInsert "connection" c
    | (none, headers)   => headers
  some { request with uri := uri, headers := headers }

/-- `notConnected` says whether the signal to connect is still there to be taken. -/
inductive State where
  | notConnected (signal : Bool)
  | connected (endpoint : Endpoint)

/-- A connection, and what was sent to the caller of the handshake, if anything: whether the
request was a `CONNECT`, and the endpoint. -/
structure Connection where
  state : State
  delivered : Option (Bool × Endpoint)

def Connection.new : Connection := ⟨.notConnected true, none⟩

/-- What a handler meets: whether the caller of the handshake waits for an endpoint, what it
signals when the endpoint is connected (nothing if it went away), and how the upstream connection
takes the request. -/
structure Surroundings where
  receiver : Bool
  done : Option (Option Unit)
  ready : Except String Unit
  response : Except String Unit

inductive Reply where
  | response
  | error (message : String)
  | panic (message : String)
deriving DecidableEq

/-- The request sent upstream, if any, and the reply to the client. -/
structure Answer where
  forwarded : Option Request
  reply : Reply

/-- The endpoint for a host. -/
def endpointOf (host : Host) : Except String Endpoint :=
  match Endpoint.fromStr (String.ofList host.text) with
  | .ok endpoint => .ok endpoint
  | .error _     => Endpoint.fromStr (String.ofList (host.text ++ [':', '8', '0']))

def Reply.of : Except String Unit → Reply
  | .ok _          => .response
  | .error message => .error message

/-- A `CONNECT` request. -/
def handleConnect (c : Connection) (request : Request) (s : Surroundings) : Connection × Answer :=
  match c.state with
  | .notConnected true =>
    let c := { c with state := .notConnected false }
    match Endpoint.fromStr request.uri.text with
    | .error message => (c, ⟨none, .error message⟩)
    | .ok endpoint =>
      if s.receiver then
        let c := { c with delivered := some (true, endpoint) }
        match s.done with
        | none   =>
          (c, ⟨none, .panic "the done signal should be sent before polling the connection"⟩)
        | some _ => (c, ⟨none, .response⟩)
      else (c, ⟨none, .panic "the other side should not be released"⟩)
  | _ => (c, ⟨none, .error "The CONNECT method can only be send in the first header"⟩)

/-- The first request, when it is no `CONNECT`. -/
def handleFirst (parseUri : String → Option Uri) (c : Connection) (request : Request)
    (s : Surroundings) : Connection × Answer :=
  let c := { c with state := .notConnected false }
  match request.uri.host with
  | none      => (c, ⟨none, .error "Invalid proxy request with no host in uri."⟩)
  | some host =>
    match endpointOf host with
    | .error message => (c, ⟨none, .error message⟩)
    | .ok endpoint =>
      if s.receiver then
        let c := { c with delivered := some (false, endpoint) }
        match s.done with
        | none           =>
          (c, ⟨none, .panic "the done signal should be sent before polling the connection"⟩)
        | some none      => (c, ⟨none, .panic "called `Option::unwrap()` on a `None` value"⟩)
        | some (some ()) =>
          match transformProxyRequest parseUri request with
          | none         => (c, ⟨none, .error "Not a valid proxy request"⟩)
          | some request =>
            ({ c with state := .connected endpoint }, ⟨some request, .of s.response⟩)
      else (c, ⟨none, .panic "the other side should not be released"⟩)

/-- A later request. -/
def handleNext (parseUri : String → Option Uri) (c : Connection) (target : Endpoint)
    (request : Request) (s : Surroundings) : Connection × Answer :=
  match request.uri.host with
  | none      => (c, ⟨none, .error "Invalid proxy request with no host in uri"⟩)
  | some host =>
    match endpointOf host with
    | .error message => (c, ⟨none, .error message⟩)
    | .ok endpoint =>
      if endpoint = target then
        match transformProxyRequest parseUri request with
        | none         => (c, ⟨none, .error "Not a valid proxy request"⟩)
        | some request =>
          match s.ready with
          | .error message => (c, ⟨none, .error message⟩)
          | .ok _          => (c, ⟨some request, .of s.response⟩)
      else
        (c, ⟨none,
          .error "Do not support using same connection for requests to different hosts"⟩)

def handler (parseUri : String → Option Uri) (c : Connection) (request : Request)
    (s : Surroundings) : Connection × Answer :=
  if request.method = .connect then handleConnect c request s
  else
    match c.state with
    | .notConnected true  => handleFirst parseUri c request s
    | .notConnected false => (c, ⟨none, .panic "internal error: entered unreachable code"⟩)
    | .connected target   => handleNext parseUri c target request s

/-- The requests of a connection, one after the other. -/
def machine (parseUri : String → Option Uri) :
    Machine Connection (Request × Surroundings) Answer where
  step c i := handler parseUri c i.1 i.2

end Dandelion.Acceptor.HttpProxy
