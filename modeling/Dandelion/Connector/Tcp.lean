import Dandelion.Core.Interleave
import Dandelion.Core.Poll
import Dandelion.Net.Addr

/-!
# The Happy Eyeballs connector

A shallow embedding of `HappyEyeballConnector`. Every `TcpStream::connect` makes a future on a
heap of attempts and is named by its index there; `connections` holds the indices of the
attempts that did not complete at their first poll. What the environment answers to each poll
of a future is an input of the connector's own poll.
-/

namespace Dandelion.Connector

open Itertools Net

variable {S E : Type*}

/-- An attempt to connect to an address, and its future. -/
structure Attempt (S E : Type*) where
  addr : IpAddr
  future : Fused (Except E S)
deriving DecidableEq

/-- What was polled pending with the waker of the current poll. -/
inductive Source where
  | ipv4Future
  | ipv6Future
  | connection (id : ℕ)
  | timer
deriving DecidableEq

structure HappyEyeballConnector (S E : Type*) where
  ipv4Future : Fused (Except E (List Ipv4Addr))
  ipv6Future : Fused (Except E (List Ipv6Addr))
  ips : List IpAddr
  ipCount : ℕ
  connections : List ℕ
  /-- The deadline of the timer, in milliseconds. -/
  nextConnectionTimer : ℕ
  host : String
  port : UInt16
  /-- The heap of attempts, in the order they were made. -/
  attempts : List (Attempt S E)
  /-- The wake-ups registered during the last poll. -/
  registered : List Source

/-- The clock and the answers of all futures during one poll. -/
structure PollInput (S E : Type*) where
  now : ℕ
  ipv4 : Poll (Except E (List Ipv4Addr))
  ipv6 : Poll (Except E (List Ipv6Addr))
  /-- The answer of the attempt with a given index. -/
  attempt : ℕ → Poll (Except E S)

/-- How one poll of the connector ends. -/
inductive PollResult (S : Type*) where
  | pending
  | ok (stream : S)
  | err (message : String)
  | panic
deriving DecidableEq

def connectionAttemptDelay : ℕ := 250

/-- A timer is ready once its deadline is reached. -/
def pollTimer (deadline now : ℕ) : Poll Unit :=
  if deadline ≤ now then .ready () else .pending

namespace HappyEyeballConnector

def new (host : String) (port : UInt16) (now : ℕ) : HappyEyeballConnector S E where
  ipv4Future := .running
  ipv6Future := .running
  ips := []
  ipCount := 0
  connections := []
  nextConnectionTimer := now
  host := host
  port := port
  attempts := []
  registered := []

def isResolving (s : HappyEyeballConnector S E) : Bool :=
  !(s.ipv4Future.isTerminated && s.ipv6Future.isTerminated)

/-- Whether the attempt with index `id` has completed. -/
def isTerminated (s : HappyEyeballConnector S E) (id : ℕ) : Bool :=
  match s.attempts[id]? with
  | some attempt => attempt.future.isTerminated
  | none         => false

def register (s : HappyEyeballConnector S E) (source : Source) : HappyEyeballConnector S E :=
  { s with registered := source :: s.registered }

/-- Take in the addresses a lookup returned. -/
def addAddrs (s : HappyEyeballConnector S E) (addrs : List IpAddr) : HappyEyeballConnector S E :=
  { s with ipCount := s.ipCount + addrs.length, ips := interleave s.ips addrs }

/-- Poll a lookup unless it has completed. `set` puts its future into the connector. -/
def pollLookup {A : Type} (set : Fused (Except E (List A)) → HappyEyeballConnector S E)
    (toAddr : A → IpAddr) (source : Source) (future : Fused (Except E (List A)))
    (answer : Poll (Except E (List A))) : HappyEyeballConnector S E :=
  if future.isTerminated then set future
  else
    let s := set (future.poll answer)
    match answer with
    | .ready (.ok addrs) => s.addAddrs (addrs.map toAddr)
    | .ready (.error _)  => s
    | .pending           => s.register source

def pollIpv4 (s : HappyEyeballConnector S E) (i : PollInput S E) : HappyEyeballConnector S E :=
  pollLookup (fun f => { s with ipv4Future := f }) .v4 .ipv4Future s.ipv4Future i.ipv4

def pollIpv6 (s : HappyEyeballConnector S E) (i : PollInput S E) : HappyEyeballConnector S E :=
  pollLookup (fun f => { s with ipv6Future := f }) .v6 .ipv6Future s.ipv6Future i.ipv6

/-- Poll the lookups that have not completed yet. -/
def pollLookups (s : HappyEyeballConnector S E) (i : PollInput S E) : HappyEyeballConnector S E :=
  (s.pollIpv4 i).pollIpv6 i

/-- Record the answer of a poll of the attempt with index `id`. -/
def pollAttempt (s : HappyEyeballConnector S E) (id : ℕ) (answer : Poll (Except E S)) :
    HappyEyeballConnector S E :=
  { s with attempts := s.attempts.modify id fun a => { a with future := a.future.poll answer } }

/-- The state of the fold over the ongoing connections. -/
structure Scan (S E : Type*) where
  conn : HappyEyeballConnector S E
  hasPending : Bool
  hasError : Bool
  maybeStream : Option S

/-- Poll one ongoing connection, unless a stream was found already. -/
def scanStep (i : PollInput S E) (acc : Scan S E) (id : ℕ) : Scan S E :=
  if acc.maybeStream.isSome then acc
  else if acc.conn.isTerminated id then acc
  else
    match i.attempt id with
    | .ready (.ok stream) =>
      { acc with
        conn := acc.conn.pollAttempt id (.ready (.ok stream)), maybeStream := some stream }
    | .ready (.error e) =>
      { acc with
        conn := acc.conn.pollAttempt id (.ready (.error e)), hasError := true }
    | .pending =>
      { acc with conn := acc.conn.register (.connection id), hasPending := true }

/-- Poll all ongoing connections. -/
def scan (s : HappyEyeballConnector S E) (i : PollInput S E) : Scan S E :=
  s.connections.foldl (scanStep i) ⟨s, false, false, none⟩

/-- Restart the timer and push a connection that is under way. The code asserts that the
restarted timer is pending. -/
def startTimer (s : HappyEyeballConnector S E) (i : PollInput S E) (id : ℕ) :
    HappyEyeballConnector S E × PollResult S :=
  let deadline := i.now + connectionAttemptDelay
  match pollTimer deadline i.now with
  | .ready _ => ({ s with nextConnectionTimer := deadline }, .panic)
  | .pending =>
    ({ s with
       nextConnectionTimer := deadline
       registered := .timer :: s.registered
       connections := s.connections ++ [id] }, .pending)

/-- The loop that makes new connections until one is under way. -/
def connectLoop (i : PollInput S E) :
    List IpAddr → HappyEyeballConnector S E → HappyEyeballConnector S E × PollResult S
  | [], s =>
    if s.isResolving then (s, .pending)
    else (s, .err ("Failed to connect to domain " ++ s.host))
  | addr :: ips, s =>
    let id := s.attempts.length
    let answer := i.attempt id
    let s' := { s with ips := ips, attempts := s.attempts ++ [⟨addr, Fused.running.poll answer⟩] }
    match answer with
    | .ready (.ok stream) => (s', .ok stream)
    | .ready (.error _)   => connectLoop i ips s'
    | .pending            => (s'.register (.connection id)).startTimer i id

/-- One poll. The timer is looked at only while a connection is pending and none has failed. -/
def poll (s : HappyEyeballConnector S E) (i : PollInput S E) :
    HappyEyeballConnector S E × PollResult S :=
  let s := ({ s with registered := [] } : HappyEyeballConnector S E).pollLookups i
  if !s.isResolving && s.ipCount == 0 then
    (s, .err ("Failed to resolve domain " ++ s.host))
  else
    let r := s.scan i
    match r.maybeStream with
    | some stream => (r.conn, .ok stream)
    | none =>
      if !r.hasPending || r.hasError then r.conn.connectLoop i r.conn.ips
      else
        match pollTimer r.conn.nextConnectionTimer i.now with
        | .ready _ => r.conn.connectLoop i r.conn.ips
        | .pending => (r.conn.register .timer, .pending)

/-- One poll of a run. -/
structure Step (S E : Type*) where
  before : HappyEyeballConnector S E
  input : PollInput S E
  after : HappyEyeballConnector S E
  result : PollResult S

/-- The polls of a run, up to the first one that is not pending. -/
def polls : HappyEyeballConnector S E → List (PollInput S E) → List (Step S E)
  | _, [] => []
  | s, i :: is =>
    let r := s.poll i
    ⟨s, i, r.1, r.2⟩ ::
      match r.2 with
      | .pending => polls r.1 is
      | _        => []

end HappyEyeballConnector

end Dandelion.Connector
