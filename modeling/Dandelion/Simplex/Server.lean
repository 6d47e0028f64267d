import Dandelion.Core.Machine
import Dandelion.Endpoint
import Dandelion.Net.HeaderValue

/-!
# The simplex server

A client upgrades an HTTP connection to a WebSocket by a request to a secret path with a secret
header and the endpoint to connect to. Every other request gets an innocent answer. The caller of
the handshake gets the endpoint first, and the WebSocket once it lets the request proceed.

Requests are dispatched one after the other. A connection that ends while a request is unanswered
ends with an error.
-/

namespace Dandelion.Simplex

open Http

structure Config where
  host : String
  path : String
  secretHeader : String × String

def endpointHeaderKey : String := "Simplex-Endpoint"

namespace Server

/-- The path and the headers of a request. -/
structure Request where
  path : String
  headers : Headers

structure Response where
  status : ℕ
  headers : Headers
  body : String
deriving DecidableEq

/-- What the WebSocket library decides. -/
structure Library where
  isUpgradeRequest : Request → Bool
  deriveAcceptKey : HeaderValue → HeaderValue

/-- A library that recognises an upgrade by the two headers of a plain client. -/
def plainLibrary : Library where
  isUpgradeRequest request :=
    request.headers.get "Connection" = some "Upgrade".utf8Bytes &&
      request.headers.get "Upgrade" = some "websocket".utf8Bytes
  deriveAcceptKey key := key

def exampleConfig : Config := ⟨"example.com", "/s", ("x-secret", "1")⟩

variable (lib : Library) (config : Config)

/-! ### The handler -/

/-- The checks of a request, in order, up to the endpoint it asks for. -/
def check (request : Request) : Except String Endpoint :=
  if request.path ≠ config.path then
    .error ("Got a simplex request to wrong path: " ++ request.path)
  else if (request.headers.get config.secretHeader.1).bind HeaderValue.toStr
      ≠ some config.secretHeader.2 then
    .error "Got a simplex request with wrong secret header value."
  else if !lib.isUpgradeRequest request then
    .error "Got a non upgrade request when simplex request is expected"
  else
    match (request.headers.get endpointHeaderKey).bind HeaderValue.toStr with
    | none    => .error "Failed to find valid target endpoint from simplex request"
    | some ep =>
      match Endpoint.fromStr ep with
      | .error _     => .error "Failed to find valid target endpoint from simplex request"
      | .ok endpoint => .ok endpoint

lemma check_eq_ok_iff {request : Request} {endpoint : Endpoint} :
    check lib config request = .ok endpoint ↔
      request.path = config.path ∧
      (request.headers.get config.secretHeader.1).bind HeaderValue.toStr
        = some config.secretHeader.2 ∧
      lib.isUpgradeRequest request = true ∧
      ∃ ep, (request.headers.get endpointHeaderKey).bind HeaderValue.toStr = some ep ∧
        Endpoint.fromStr ep = .ok endpoint := by
  rw [check]
  by_cases hpath : request.path = config.path
  · by_cases hsecret : (request.headers.get config.secretHeader.1).bind HeaderValue.toStr
        = some config.secretHeader.2
    · cases hupgrade : lib.isUpgradeRequest request with
      | false => simp [hpath, hsecret]
      | true =>
        cases hep : (request.headers.get endpointHeaderKey).bind HeaderValue.toStr with
        | none => simp [hpath, hsecret]
        | some ep => cases hparse : Endpoint.fromStr ep <;> simp [hpath, hsecret, hparse]
    · simp [hpath, hsecret]
  · simp [hpath]

inductive ProtocolError where
  | missingSecWebSocketKey
  | missingSecWebSocketVersionHeader

def upgradeResponse (request : Request) : Except ProtocolError Response :=
  match request.headers.get "Sec-WebSocket-Key" with
  | none     => .error .missingSecWebSocketKey
  | some key =>
    if request.headers.get "Sec-WebSocket-Version" ≠ some "13".utf8Bytes then
      .error .missingSecWebSocketVersionHeader
    else
      .ok {
        status := 101
        headers := [("connection", "upgrade".utf8Bytes), ("upgrade", "websocket".utf8Bytes),
          ("sec-websocket-accept", lib.deriveAcceptKey key)]
        body := "switching to websocket protocol" }

/-- The innocent answer. -/
def decoy (now : String) : Response := ⟨200, [], "Now is " ++ now⟩

/-- An error of the handler is not shown to the client. -/
def hideError {E : Type*} (now : String) : Except E Response → Response
  | .ok response => response
  | .error _     => decoy now

/-! ### The connection -/

/-- How far the caller of the handshake is. -/
inductive Caller where
  /-- In the handshake: the connection and the endpoint channel are polled. -/
  | waiting
  /-- The handshake has returned; its future was not polled yet. -/
  | returned (endpoint : Endpoint)
  /-- The future has sent the done signal and polls the connection. -/
  | polling (endpoint : Endpoint)
  /-- The future has returned: the raw connection for the WebSocket, or an error. -/
  | finished (endpoint : Endpoint) (result : Except String Unit)
  /-- The handshake has failed. -/
  | failed (message : String)
  | panicked
deriving DecidableEq

namespace Caller

/-- Whether the connection is polled. -/
def polls : Caller → Bool
  | .waiting | .polling _ => true
  | _                     => false

/-- The endpoint that the handshake has returned. -/
def endpoint : Caller → Option Endpoint
  | .returned endpoint | .polling endpoint | .finished endpoint _ => some endpoint
  | _                                                             => none

end Caller

/-- A request, whether it took the upgrade signal, and the response to it. -/
structure Answered where
  request : Request
  tookSignal : Bool
  response : Response

structure Connection where
  /-- Whether the upgrade signal, with its ends of both channels, is still there to be taken. -/
  signal : Bool
  /-- The endpoint that was sent and not yet received. -/
  endpointChannel : Option Endpoint
  /-- The request whose handler waits for the done signal. -/
  suspended : Option Request
  /-- Whether a request was answered with an upgrade. -/
  upgraded : Bool
  caller : Caller
  /-- What was answered so far. -/
  answered : List Answered

namespace Connection

def new : Connection := ⟨true, none, none, false, .waiting, []⟩

/-- Whether a further request would be dispatched. -/
def dispatches (c : Connection) : Bool := c.caller.polls && c.suspended.isNone && !c.upgraded

end Connection

/-- What happens to a connection. -/
inductive Event where
  /-- A request arrives, at a time whose text is `now`. -/
  | request (request : Request) (now : String)
  /-- The handshake receives the endpoint and returns. -/
  | receive
  /-- The future of the handshake is polled first and sends the done signal. -/
  | proceed
  /-- The handler receives the done signal. -/
  | respond (now : String)
  /-- The connection ends. -/
  | ended (result : Except String Unit)

/-- What the client sees of it. -/
inductive Answer where
  | nothing
  | response (response : Response)
  | panic (message : String)
deriving DecidableEq

/-- Answer a request. -/
def Connection.respond (c : Connection) (request : Request) (tookSignal : Bool)
    (response : Response) : Connection × Answer :=
  ({ c with
      upgraded := c.upgraded || response.status = 101
      answered := c.answered ++ [⟨request, tookSignal, response⟩] }, .response response)

def Connection.panic (c : Connection) (message : String) : Connection × Answer :=
  ({ c with caller := .panicked }, .panic message)

/-- The handler, up to the point where it waits for the done signal. -/
def beginHandler (c : Connection) (request : Request) (now : String) : Connection × Answer :=
  match check lib config request with
  | .error message => c.respond request false (hideError now (.error message))
  | .ok endpoint =>
    if !c.signal then
      c.panic "there should be only one upgrade request for one connection"
    else if c.caller = .waiting then
      ({ c with signal := false, endpointChannel := some endpoint, suspended := some request },
        .nothing)
    else c.panic "the other side should not be released"

/-- The handler, once it got the done signal. -/
def finishHandler (c : Connection) (request : Request) (now : String) : Connection × Answer :=
  { c with suspended := none }.respond request true (hideError now (upgradeResponse lib request))

/-- The end of the connection. -/
def endConnection (c : Connection) (result : Except String Unit) : Connection :=
  let result := if c.suspended.isSome then .error "connection closed before message completed"
    else result
  match c.caller with
  | .waiting =>
    { c with caller := .failed "The client is not a valid simplex client", suspended := none }
  | .polling endpoint => { c with caller := .finished endpoint result, suspended := none }
  | _ => c

/-- One connection from the handshake to the end of its future. -/
def machine : Machine Connection Event Answer where
  step
    | c, .request request now =>
      if c.dispatches then beginHandler lib config c request now else (c, .nothing)
    | c, .receive =>
      match c.caller, c.endpointChannel with
      | .waiting, some endpoint =>
        ({ c with caller := .returned endpoint, endpointChannel := none }, .nothing)
      | _, _ => (c, .nothing)
    | c, .proceed =>
      match c.caller with
      | .returned endpoint =>
        if c.suspended.isSome then ({ c with caller := .polling endpoint }, .nothing)
        else c.panic "bug: the done signal receiver should not be deallocated"
      | _ => (c, .nothing)
    | c, .respond now =>
      match c.caller, c.suspended with
      | .polling _, some request => finishHandler lib c request now
      | _, _                     => (c, .nothing)
    | c, .ended result => (endConnection c result, .nothing)

/-! ### What an event does -/

variable {lib config} {c c' : Connection} {request : Request} {answer : Answer}

/-- A request that fails a check gets the innocent answer, and nothing else happens. -/
lemma beginHandler_of_rejected {message : String} (h : check lib config request = .error message)
    (now : String) :
    beginHandler lib config c request now
      = ({ c with answered := c.answered ++ [⟨request, false, decoy now⟩] },
          .response (decoy now)) := by
  simp [beginHandler, h, hideError, Connection.respond, decoy]

/-- A request that passes all checks takes the signal and sends the endpoint. -/
lemma beginHandler_of_accepted {endpoint : Endpoint} (h : check lib config request = .ok endpoint)
    (hsignal : c.signal = true) (hcaller : c.caller = .waiting) (now : String) :
    beginHandler lib config c request now
      = ({ c with
            signal := false
            endpointChannel := some endpoint
            suspended := some request }, .nothing) := by
  simp [beginHandler, h, hsignal, hcaller]

/-- The things an event can do. -/
inductive Rule (lib : Library) (config : Config) (c : Connection) :
    Event → Connection → Answer → Prop
  | ignored (event : Event)
      (hrequest : ∀ request now, event = .request request now → c.dispatches = false) :
      Rule lib config c event c .nothing
  | rejected (request : Request) (now message : String) (hdispatches : c.dispatches = true)
      (hcheck : check lib config request = .error message) :
      Rule lib config c (.request request now)
        { c with answered := c.answered ++ [⟨request, false, decoy now⟩] } (.response (decoy now))
  | accepted (request : Request) (now : String) (endpoint : Endpoint)
      (hdispatches : c.dispatches = true) (hcheck : check lib config request = .ok endpoint)
      (hsignal : c.signal = true) (hcaller : c.caller = .waiting) :
      Rule lib config c (.request request now)
        { c with signal := false, endpointChannel := some endpoint, suspended := some request }
        .nothing
  | panicked (request : Request) (now message : String) (hdispatches : c.dispatches = true)
      (hsignal : c.signal = false ∨ c.caller ≠ .waiting) :
      Rule lib config c (.request request now) { c with caller := .panicked } (.panic message)
  | received (endpoint : Endpoint) (hcaller : c.caller = .waiting)
      (hchannel : c.endpointChannel = some endpoint) :
      Rule lib config c .receive
        { c with caller := .returned endpoint, endpointChannel := none } .nothing
  | proceeded (endpoint : Endpoint) (hcaller : c.caller = .returned endpoint)
      (hsuspended : c.suspended.isSome = true) :
      Rule lib config c .proceed { c with caller := .polling endpoint } .nothing
  | orphaned (endpoint : Endpoint) (message : String) (hcaller : c.caller = .returned endpoint)
      (hsuspended : c.suspended = none) :
      Rule lib config c .proceed { c with caller := .panicked } (.panic message)
  | responded (request : Request) (endpoint : Endpoint) (now : String)
      (hcaller : c.caller = .polling endpoint) (hsuspended : c.suspended = some request) :
      Rule lib config c (.respond now) (finishHandler lib c request now).1
        (.response (hideError now (upgradeResponse lib request)))
  | failed (result : Except String Unit) (message : String) (hcaller : c.caller = .waiting) :
      Rule lib config c (.ended result)
        { c with caller := .failed message, suspended := none } .nothing
  | finished (endpoint : Endpoint) (result result' : Except String Unit)
      (hcaller : c.caller = .polling endpoint)
      (hresult : c.suspended.isSome = true → ∃ message, result' = .error message) :
      Rule lib config c (.ended result)
        { c with caller := .finished endpoint result', suspended := none } .nothing

lemma Rule.of_beginHandler {now : String} (hdispatches : c.dispatches = true)
    (h : beginHandler lib config c request now = (c', answer)) :
    Rule lib config c (.request request now) c' answer := by
  cases hcheck : check lib config request with
  | error message =>
    rw [beginHandler_of_rejected hcheck] at h
    cases h
    exact .rejected request now message hdispatches hcheck
  | ok endpoint =>
    cases hsignal : c.signal with
    | false =>
      have hpanic : beginHandler lib config c request now
          = c.panic "there should be only one upgrade request for one connection" := by
        simp [beginHandler, hcheck, hsignal]
      rw [hpanic] at h
      cases h
      exact .panicked request now _ hdispatches (.inl hsignal)
    | true =>
      by_cases hcaller : c.caller = .waiting
      · rw [beginHandler_of_accepted hcheck hsignal hcaller] at h
        cases h
        exact .accepted request now endpoint hdispatches hcheck hsignal hcaller
      · have hpanic : beginHandler lib config c request now
            = c.panic "the other side should not be released" := by
          simp [beginHandler, hcheck, hsignal, hcaller]
        rw [hpanic] at h
        cases h
        exact .panicked request now _ hdispatches (.inr hcaller)

lemma Rule.of_endConnection {result : Except String Unit} (h : endConnection c result = c') :
    Rule lib config c (.ended result) c' .nothing := by
  simp only [endConnection] at h
  split at h
  case h_1 hcaller =>
    cases h
    exact .failed result _ hcaller
  case h_2 endpoint hcaller =>
    cases h
    refine .finished endpoint result _ hcaller ?_
    intro hsuspended
    rw [if_pos hsuspended]
    exact ⟨_, rfl⟩
  case h_3 =>
    cases h
    exact .ignored _ (by simp)

lemma Rule.of_step {event : Event} (h : (machine lib config).step c event = (c', answer)) :
    Rule lib config c event c' answer := by
  cases event with
  | request request now =>
    simp only [machine] at h
    split at h
    case isFalse hdispatches =>
      cases h
      exact .ignored _ fun _ _ _ => eq_false_of_ne_true hdispatches
    case isTrue hdispatches => exact .of_beginHandler hdispatches h
  | receive =>
    simp only [machine] at h
    split at h
    case h_1 endpoint hcaller hchannel =>
      cases h
      exact .received endpoint hcaller hchannel
    case h_2 =>
      cases h
      exact .ignored _ (by simp)
  | proceed =>
    simp only [machine] at h
    split at h
    case h_1 endpoint hcaller =>
      split at h
      case isTrue hsuspended =>
        cases h
        exact .proceeded endpoint hcaller hsuspended
      case isFalse hsuspended =>
        cases h
        exact .orphaned endpoint _ hcaller (by simpa using hsuspended)
    case h_2 =>
      cases h
      exact .ignored _ (by simp)
  | respond now =>
    simp only [machine] at h
    split at h
    case h_1 endpoint request hcaller hsuspended =>
      cases h
      exact .responded request endpoint now hcaller hsuspended
    case h_2 =>
      cases h
      exact .ignored _ (by simp)
  | ended result =>
    cases h
    exact .of_endConnection rfl

end Server

end Dandelion.Simplex
