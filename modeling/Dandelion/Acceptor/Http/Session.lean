import Dandelion.Acceptor.Http
import Dandelion.Core.Oneshot

/-!
# Sessions of the HTTP acceptor

A handler waits for the caller of the handshake and for the upstream connection. Here the handler,
the two channels between them and the caller take their steps in any order that polls allow.

Requests are dispatched one after the other, the connection is over when a handler fails, and
nothing is dispatched after a successful `CONNECT`.
-/

namespace Dandelion.Acceptor.HttpProxy

open Net Http

/-! ### The handler, step by step -/

/-- Where a handler waits. -/
inductive Suspended where
  /-- For the done signal, after the endpoint was sent. -/
  | done (request : Request) (endpoint : Endpoint)
  /-- For the upstream connection to take a request. -/
  | ready (request forwarded : Request)
  /-- For the response to a request that was sent upstream. -/
  | response (request forwarded : Request)

inductive Progress where
  | suspended (place : Suspended)
  | finished (answer : Answer)

def beginConnect (c : Connection) (request : Request) (receiver : Bool) : Connection × Progress :=
  match c.state with
  | .notConnected true =>
    let c := { c with state := .notConnected false }
    match Endpoint.fromStr request.uri.text with
    | .error message => (c, .finished ⟨none, .error message⟩)
    | .ok endpoint =>
      if receiver then
        ({ c with delivered := some (true, endpoint) }, .suspended (.done request endpoint))
      else (c, .finished ⟨none, .panic "the other side should not be released"⟩)
  | _ => (c, .finished ⟨none, .error "The CONNECT method can only be send in the first header"⟩)

def beginFirst (c : Connection) (request : Request) (receiver : Bool) : Connection × Progress :=
  let c := { c with state := .notConnected false }
  match request.uri.host with
  | none      => (c, .finished ⟨none, .error "Invalid proxy request with no host in uri."⟩)
  | some host =>
    match endpointOf host with
    | .error message => (c, .finished ⟨none, .error message⟩)
    | .ok endpoint =>
      if receiver then
        ({ c with delivered := some (false, endpoint) }, .suspended (.done request endpoint))
      else (c, .finished ⟨none, .panic "the other side should not be released"⟩)

def beginNext (parseUri : String → Option Uri) (c : Connection) (target : Endpoint)
    (request : Request) : Connection × Progress :=
  match request.uri.host with
  | none      => (c, .finished ⟨none, .error "Invalid proxy request with no host in uri"⟩)
  | some host =>
    match endpointOf host with
    | .error message => (c, .finished ⟨none, .error message⟩)
    | .ok endpoint =>
      if endpoint = target then
        match transformProxyRequest parseUri request with
        | none           => (c, .finished ⟨none, .error "Not a valid proxy request"⟩)
        | some forwarded => (c, .suspended (.ready request forwarded))
      else
        (c, .finished ⟨none,
          .error "Do not support using same connection for requests to different hosts"⟩)

/-- The handler up to the point where it first waits. -/
def beginHandler (parseUri : String → Option Uri) (c : Connection) (request : Request)
    (receiver : Bool) : Connection × Progress :=
  if request.method = .connect then beginConnect c request receiver
  else
    match c.state with
    | .notConnected true  => beginFirst c request receiver
    | .notConnected false =>
      (c, .finished ⟨none, .panic "internal error: entered unreachable code"⟩)
    | .connected target   => beginNext parseUri c target request

/-- The handler, once it has what it waits for. -/
def resume (parseUri : String → Option Uri) (s : Surroundings) (c : Connection) :
    Suspended → Connection × Progress
  | .done request endpoint =>
    match s.done with
    | none =>
      (c, .finished
        ⟨none, .panic "the done signal should be sent before polling the connection"⟩)
    | some done =>
      if request.method = .connect then (c, .finished ⟨none, .response⟩)
      else
        match done with
        | none    => (c, .finished ⟨none, .panic "called `Option::unwrap()` on a `None` value"⟩)
        | some () =>
          match transformProxyRequest parseUri request with
          | none           => (c, .finished ⟨none, .error "Not a valid proxy request"⟩)
          | some forwarded =>
            ({ c with state := .connected endpoint }, .suspended (.response request forwarded))
  | .ready request forwarded =>
    match s.ready with
    | .error message => (c, .finished ⟨none, .error message⟩)
    | .ok _          => (c, .suspended (.response request forwarded))
  | .response _ forwarded => (c, .finished ⟨some forwarded, .of s.response⟩)

/-- The handler is resumed until it is finished. -/
inductive Completes (parseUri : String → Option Uri) (s : Surroundings) :
    Connection × Progress → Connection × Answer → Prop
  | finished (c : Connection) (answer : Answer) :
      Completes parseUri s (c, .finished answer) (c, answer)
  | resumed {c : Connection} {place : Suspended} {r : Connection × Answer}
      (h : Completes parseUri s (resume parseUri s c place) r) :
      Completes parseUri s (c, .suspended place) r

section

variable {parseUri : String → Option Uri} {s : Surroundings}

lemma completes_handleConnect (c : Connection) {request : Request}
    (hconnect : request.method = .connect) :
    Completes parseUri s (beginConnect c request s.receiver) (handleConnect c request s) := by
  obtain ⟨state, delivered⟩ := c
  unfold beginConnect handleConnect
  rcases state with (_ | _) | target
  · exact .finished _ _
  · cases Endpoint.fromStr request.uri.text with
    | error message => exact .finished _ _
    | ok endpoint =>
      cases s.receiver with
      | false => exact .finished _ _
      | true =>
        apply Completes.resumed
        cases hdone : s.done with
        | none =>
          simp only [resume, hdone]
          exact .finished _ _
        | some done =>
          simp only [resume, hdone, if_pos hconnect]
          exact .finished _ _
  · exact .finished _ _

lemma completes_handleFirst (c : Connection) {request : Request}
    (hconnect : request.method ≠ .connect) :
    Completes parseUri s (beginFirst c request s.receiver) (handleFirst parseUri c request s) := by
  unfold beginFirst handleFirst
  cases request.uri.host with
  | none => exact .finished _ _
  | some host =>
    cases hendpoint : endpointOf host with
    | error message =>
      simp only [hendpoint]
      exact .finished _ _
    | ok endpoint =>
      simp only [hendpoint]
      cases s.receiver with
      | false => exact .finished _ _
      | true =>
        apply Completes.resumed
        cases hdone : s.done with
        | none =>
          simp only [resume, hdone]
          exact .finished _ _
        | some done =>
          simp only [resume, hdone, if_neg hconnect]
          cases done with
          | none => exact .finished _ _
          | some done =>
            cases transformProxyRequest parseUri request with
            | none => exact .finished _ _
            | some forwarded => exact .resumed (.finished _ _)

lemma completes_handleNext (c : Connection) (target : Endpoint) (request : Request) :
    Completes parseUri s (beginNext parseUri c target request)
      (handleNext parseUri c target request s) := by
  unfold beginNext handleNext
  cases request.uri.host with
  | none => exact .finished _ _
  | some host =>
    cases hendpoint : endpointOf host with
    | error message =>
      simp only [hendpoint]
      exact .finished _ _
    | ok endpoint =>
      by_cases htarget : endpoint = target
      · simp only [hendpoint, if_pos htarget]
        cases transformProxyRequest parseUri request with
        | none => exact .finished _ _
        | some forwarded =>
          apply Completes.resumed
          cases hready : s.ready with
          | error message =>
            simp only [resume, hready]
            exact .finished _ _
          | ok _ =>
            simp only [resume, hready]
            exact .resumed (.finished _ _)
      · simp only [hendpoint, if_neg htarget]
        exact .finished _ _

/-- Taken step by step, the handler does what it does in one go. -/
theorem completes_handler (c : Connection) (request : Request) :
    Completes parseUri s (beginHandler parseUri c request s.receiver)
      (handler parseUri c request s) := by
  unfold beginHandler handler
  by_cases hconnect : request.method = .connect
  · rw [if_pos hconnect, if_pos hconnect]
    exact completes_handleConnect c hconnect
  · rw [if_neg hconnect, if_neg hconnect]
    obtain ⟨state, delivered⟩ := c
    rcases state with (_ | _) | target
    · exact .finished _ _
    · exact completes_handleFirst _ hconnect
    · exact completes_handleNext _ target request

end

/-! ### The session -/

/-- How far the caller of the handshake is. -/
inductive Caller where
  /-- In the handshake: the connection and the endpoint channel are polled. -/
  | selecting
  /-- The handshake has returned, and its future was not polled yet. -/
  | returned (connect : Bool) (endpoint : Endpoint)
  /-- The future opens an upstream connection. -/
  | handshaking (endpoint : Endpoint)
  /-- The future has sent the done signal for a `CONNECT` and polls the connection. -/
  | polling (endpoint : Endpoint)
  /-- The future has sent the done signal for another request and has returned. The connection is
  a task of its own. -/
  | spawned (endpoint : Endpoint)
  /-- The future has returned after a `CONNECT`. -/
  | finished (endpoint : Endpoint) (result : Except String Unit)
  /-- The handshake or its future has failed. -/
  | failed (message : String)
  /-- The handshake or its future was dropped. -/
  | dropped
  | panicked (message : String)

/-- Whether the connection is polled. -/
def Caller.polls : Caller → Bool
  | .selecting | .polling _ | .spawned _ => true
  | _                                    => false

inductive Serving where
  | running
  /-- A `CONNECT` was answered. -/
  | tunnelled
  /-- The connection is over or was dropped. -/
  | closed
deriving DecidableEq

structure Session where
  connection : Connection
  suspended : Option Suspended
  serving : Serving
  endpointChannel : Oneshot (Bool × Endpoint)
  doneChannel : Oneshot (Option Unit)
  caller : Caller
  /-- What was sent over the endpoint channel so far. -/
  sent : List (Bool × Endpoint)
  /-- The requests that were answered so far. -/
  served : List (Request × Answer)

namespace Session

def new : Session := ⟨.new, none, .running, .new, .new, .selecting, [], []⟩

/-- Drop the connection, with the handler and the ends of the channels in it. -/
def dropConnection (s : Session) : Session :=
  { s with
    suspended := none
    serving := .closed
    endpointChannel := s.endpointChannel.dropSender
    doneChannel := s.doneChannel.dropReceiver }

/-- Drop what the caller of the handshake holds. -/
def dropCaller (s : Session) (caller : Caller) : Session :=
  { s.dropConnection with
    caller := caller
    endpointChannel := s.endpointChannel.dropSender.dropReceiver
    doneChannel := s.doneChannel.dropReceiver.dropSender }

/-- The connection is over, and whoever polls it learns so. -/
def resolve (s : Session) (result : Except String Unit) : Session :=
  match s.caller with
  | .selecting        => s.dropCaller (.failed "No HTTP request received.")
  | .polling endpoint => { s.dropConnection with caller := .finished endpoint result }
  | _                 => s.dropConnection

def panic (s : Session) (message : String) : Session := { s with caller := .panicked message }

/-- The handler has an answer. -/
def finish (s : Session) (request : Request) (answer : Answer) : Session :=
  let s := { s with suspended := none, served := s.served ++ [(request, answer)] }
  match answer.reply with
  | .response      => if request.method = .connect then { s with serving := .tunnelled } else s
  | .error message => s.resolve (.error message)
  | .panic message => s.panic message

def advance (s : Session) (request : Request) : Connection × Progress → Session
  | (c, .suspended place) => { s with connection := c, suspended := some place }
  | (c, .finished answer) => { s with connection := c }.finish request answer

/-- An endpoint is sent. -/
def announce (s : Session) (connect : Bool) (endpoint : Endpoint) : Session :=
  { s with
    endpointChannel := s.endpointChannel.put (connect, endpoint)
    sent := s.sent ++ [(connect, endpoint)] }

/-- The done signal is sent. -/
def signal (s : Session) (done : Option Unit) (caller : Caller) : Session :=
  match s.doneChannel.send done with
  | some doneChannel => { s with doneChannel := doneChannel, caller := caller }
  | none             => s.panic "bug: the done signal receiver should not be deallocated"

end Session

/-- What happens in a session. -/
inductive Event where
  /-- A request is dispatched. -/
  | request (request : Request)
  /-- The handler is polled; what it waits for upstream has the given outcome. -/
  | resume (outcome : Except String Unit)
  /-- The connection ends by itself. -/
  | ended (result : Except String Unit)
  /-- The handshake polls the endpoint channel. -/
  | receive
  /-- The future of the handshake is polled; `client` is the answer of the upstream handshake. -/
  | proceed (client : Poll (Except String Unit))
  /-- What the caller of the handshake holds, or the task of the connection, is dropped. -/
  | drop

namespace Session

variable (parseUri : String → Option Uri)

def request (s : Session) (request : Request) : Session :=
  if s.caller.polls && s.suspended.isNone && s.serving = .running then
    let (c, progress) := beginHandler parseUri s.connection request s.endpointChannel.receiver
    match progress with
    | .suspended (.done _ endpoint) =>
      (s.announce (request.method = .connect) endpoint).advance request (c, progress)
    | _ => s.advance request (c, progress)
  else s

def resume (s : Session) (outcome : Except String Unit) : Session :=
  if s.caller.polls then
    match s.suspended with
    | none => s
    | some (.done request endpoint) =>
      match s.doneChannel.poll with
      | .pending    => s
      | .ready done =>
        { s with doneChannel := s.doneChannel.dropReceiver }.advance request
          (HttpProxy.resume parseUri ⟨true, done, outcome, outcome⟩ s.connection
            (.done request endpoint))
    | some (.ready request forwarded) =>
      s.advance request
        (HttpProxy.resume parseUri ⟨true, none, outcome, outcome⟩ s.connection
          (.ready request forwarded))
    | some (.response request forwarded) =>
      s.advance request
        (HttpProxy.resume parseUri ⟨true, none, outcome, outcome⟩ s.connection
          (.response request forwarded))
  else s

def receive (s : Session) : Session :=
  match s.caller with
  | .selecting =>
    match s.endpointChannel.poll with
    | .pending => s
    | .ready (some (connect, endpoint)) =>
      { s with
        caller := .returned connect endpoint
        endpointChannel := s.endpointChannel.dropReceiver }
    | .ready none => s.panic "internal error: entered unreachable code"
  | _ => s

/-- The future after a request that is no `CONNECT`. -/
def openUpstream (s : Session) (endpoint : Endpoint) : Poll (Except String Unit) → Session
  | .pending                => { s with caller := .handshaking endpoint }
  | .ready (.error message) => s.dropCaller (.failed message)
  | .ready (.ok _)          => s.signal (some ()) (.spawned endpoint)

def proceed (s : Session) (client : Poll (Except String Unit)) : Session :=
  match s.caller with
  | .returned true endpoint  => s.signal none (.polling endpoint)
  | .returned false endpoint => s.openUpstream endpoint client
  | .handshaking endpoint    => s.openUpstream endpoint client
  | _                        => s

def drop (s : Session) : Session :=
  match s.caller with
  | .selecting | .returned _ _ | .handshaking _ | .polling _ => s.dropCaller .dropped
  | .spawned _                                               => s.dropConnection
  | _                                                        => s

/-- A client connection from the handshake to its end. -/
def machine : Machine Session Event Unit where
  step s event := (match event with
    | .request request => s.request parseUri request
    | .resume outcome  => s.resume parseUri outcome
    | .ended result    =>
      if s.caller.polls && s.serving ≠ .closed then s.resolve result else s
    | .receive         => s.receive
    | .proceed client  => s.proceed client
    | .drop            => s.drop, ())

end Session

end Dandelion.Acceptor.HttpProxy
