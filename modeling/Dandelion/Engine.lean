import Dandelion.Acceptor.Http.Session
import Dandelion.Acceptor.Socks5
import Dandelion.Core.Relay
import Dandelion.Core.Tasks

/-!
# The engine

The engine accepts connections and gives each of them a task. A task does the first part of a
handshake, calls the handler of the acceptor with the endpoint that the client has asked for, and
does the second part of the handshake once the handler has returned a connection to the target. From
then on it copies in both directions.

The handlers are functions of a script, and all of them are given the same cache. Here they return
when they like and with any result, so nothing is said of how one call affects another through it.
-/

namespace Dandelion.Engine

open Net

inductive AcceptorConfig where
  | socks5 (addr : SocketAddr) (handler : String)
  | http (addr : SocketAddr) (handler : String)
deriving DecidableEq

/-! ### The task of a connection -/

/-- A handshake with the states `φ` of its first and `ψ` of its second part and the labels `ℓ` of
their steps. -/
structure Handshake (φ ψ ℓ : Type) where
  start : φ
  first : φ → ℓ → φ → Prop
  returns : φ → Except String (Endpoint × ψ) → Prop
  second : ψ → ℓ → ψ → Prop
  completes : ψ → Except String Unit → Prop

/-- The handshake of a SOCKS5 acceptor. -/
def socks5 :
    Handshake (Proc String (Endpoint × Proc String Unit)) (Proc String Unit) Proc.Act where
  start := Acceptor.Socks5.handshake
  first := Proc.Step
  returns := Proc.Ends
  second := Proc.Step
  completes := Proc.Ends

section

open Acceptor.HttpProxy

/-- What can happen in a session during the handshake. -/
def ofHandshake : Event → Bool
  | .proceed _ | .drop => false
  | _                  => true

/-- What can happen once the future of the handshake is polled. -/
def ofFuture : Event → Bool
  | .receive | .drop => false
  | _                => true

/-- How the handshake can end. -/
inductive Returns : Session → Except String (Endpoint × Session) → Prop
  | returned {s : Session} {connect : Bool} {endpoint : Endpoint}
      (h : s.caller = .returned connect endpoint) : Returns s (.ok (endpoint, s))
  | failed {s : Session} {message : String} (h : s.caller = .failed message) :
      Returns s (.error message)

/-- How the future of the handshake can end. -/
inductive Completes : Session → Except String Unit → Prop
  | finished {s : Session} {endpoint : Endpoint} {result : Except String Unit}
      (h : s.caller = .finished endpoint result) : Completes s result
  | spawned {s : Session} {endpoint : Endpoint} (h : s.caller = .spawned endpoint) :
      Completes s (.ok ())
  | failed {s : Session} {message : String} (h : s.caller = .failed message) :
      Completes s (.error message)

/-- The handshake of an HTTP acceptor. -/
def http (parseUri : String → Option Uri) : Handshake Session Session Event where
  start := .new
  first s event s' := ofHandshake event = true ∧ s' = ((Session.machine parseUri).step s event).1
  returns := Returns
  second s event s' := ofFuture event = true ∧ s' = ((Session.machine parseUri).step s event).1
  completes := Completes

end

/-- An error and its contexts, the outermost one first. -/
structure Failure where
  contexts : List String
  message : String
deriving DecidableEq

inductive Task (φ ψ : Type) where
  | handshaking (s : φ)
  /-- The handler was called. -/
  | routing (endpoint : Endpoint) (s : ψ)
  /-- The handler has returned a connection. -/
  | completing (endpoint : Endpoint) (s : ψ)
  | forwarding (endpoint : Endpoint) (s : ψ) (relay : Relay)
  | finished
  | failed (e : Failure)

inductive Label (ℓ : Type) where
  | handshake (l : ℓ)
  | called (request : ConnectRequest)
  | connected
  | completed
  | relayed (a : Relay.Act)
  | finished
  | failed (e : Failure)

/-- The size of the buffers of `copy_bidirectional`. -/
def bufferSize : ℕ := 8192

def targetContext (endpoint : Endpoint) : String := "target endpoint " ++ endpoint.display

/-- One step of a task. The client is on the left of the relay and the target on its right. -/
inductive Task.Step {φ ψ ℓ : Type} (H : Handshake φ ψ ℓ) : Task φ ψ → Label ℓ → Task φ ψ → Prop
  | handshake {s s' : φ} {l : ℓ} (h : H.first s l s') :
      Step H (.handshaking s) (.handshake l) (.handshaking s')
  | rejected {s : φ} {message : String} (h : H.returns s (.error message)) :
      Step H (.handshaking s) (.failed ⟨[], message⟩) (.failed ⟨[], message⟩)
  | called {s : φ} {endpoint : Endpoint} {s' : ψ}
      (h : H.returns s (.ok (endpoint, s'))) :
      Step H (.handshaking s) (.called ⟨endpoint⟩) (.routing endpoint s')
  | refused (endpoint : Endpoint) (s : ψ) (message : String) :
      Step H (.routing endpoint s) (.failed ⟨[targetContext endpoint], message⟩)
        (.failed ⟨[targetContext endpoint], message⟩)
  | connected (endpoint : Endpoint) (s : ψ) :
      Step H (.routing endpoint s) .connected (.completing endpoint s)
  | complete {endpoint : Endpoint} {s s' : ψ} {l : ℓ} (h : H.second s l s') :
      Step H (.completing endpoint s) (.handshake l) (.completing endpoint s')
  | incomplete {endpoint : Endpoint} {s : ψ} {message : String}
      (h : H.completes s (.error message)) :
      Step H (.completing endpoint s) (.failed ⟨[targetContext endpoint], message⟩)
        (.failed ⟨[targetContext endpoint], message⟩)
  | completed {endpoint : Endpoint} {s : ψ} (h : H.completes s (.ok ())) :
      Step H (.completing endpoint s) .completed (.forwarding endpoint s .new)
  -- what the handshake has left to a task of its own
  | serve {endpoint : Endpoint} {s s' : ψ} {relay : Relay} {l : ℓ}
      (h : H.second s l s') :
      Step H (.forwarding endpoint s relay) (.handshake l) (.forwarding endpoint s' relay)
  | relayed {endpoint : Endpoint} {s : ψ} {relay relay' : Relay} {a : Relay.Act}
      (h : relay.Step bufferSize a relay') :
      Step H (.forwarding endpoint s relay) (.relayed a) (.forwarding endpoint s relay')
  | broken (endpoint : Endpoint) (s : ψ) (relay : Relay) (message : String) :
      Step H (.forwarding endpoint s relay)
        (.failed ⟨[targetContext endpoint, "Error happened when forwarding data"], message⟩)
        (.failed ⟨[targetContext endpoint, "Error happened when forwarding data"], message⟩)
  | finished {endpoint : Endpoint} {s : ψ} {relay : Relay} (h : relay.IsDone) :
      Step H (.forwarding endpoint s relay) .finished .finished

/-- The steps of a task from the start of the handshake. -/
def Task.Runs {φ ψ ℓ : Type} (H : Handshake φ ψ ℓ) : List (Label ℓ) → Task φ ψ → Prop :=
  Tasks.Reaches (Task.Step H) (.handshaking H.start)

/-! ### The engine -/

section

variable {φ ψ ℓ : AcceptorConfig → Type}

/-- A connection, and the acceptor it came in through. -/
structure Connection (φ ψ : AcceptorConfig → Type) where
  acceptor : AcceptorConfig
  task : Task (φ acceptor) (ψ acceptor)

inductive Connection.Step (handshake : ∀ c, Handshake (φ c) (ψ c) (ℓ c)) :
    Connection φ ψ → (c : AcceptorConfig) × Label (ℓ c) → Connection φ ψ → Prop
  | mk (c : AcceptorConfig) {t t' : Task (φ c) (ψ c)} {l : Label (ℓ c)}
      (h : t.Step (handshake c) l t') : Connection.Step handshake ⟨c, t⟩ ⟨c, l⟩ ⟨c, t'⟩

inductive Status where
  | running
  | returned (result : Except String Unit)
  | panicked

structure State (φ ψ : AcceptorConfig → Type) where
  /-- For each acceptor whether its listener is bound. -/
  bound : List Bool
  connections : List (Connection φ ψ)
  status : Status

/-- `select_all` panics if it is given nothing. -/
def start (acceptors : List AcceptorConfig) : State φ ψ where
  bound := acceptors.map fun _ => false
  connections := []
  status := if acceptors.isEmpty then .panicked else .running

inductive Event (ℓ : AcceptorConfig → Type) where
  | bound (k : ℕ)
  | accepted (k : ℕ)
  /-- An acceptor cannot bind its address or accept a connection. -/
  | failed (k : ℕ) (message : String)
  | task (i : ℕ) (l : (c : AcceptorConfig) × Label (ℓ c))

variable (handshake : ∀ c, Handshake (φ c) (ψ c) (ℓ c)) (acceptors : List AcceptorConfig)
  (localSet : Bool)

def Connection.new (c : AcceptorConfig) : Connection φ ψ := ⟨c, .handshaking (handshake c).start⟩

/-- One step of the acceptors or of the task of a connection. Outside of a local set no task can be
spawned. -/
inductive Step : State φ ψ → Event ℓ → State φ ψ → Prop
  | bound (s : State φ ψ) (k : ℕ) (hrunning : s.status = .running) (hk : s.bound[k]? = some false) :
      Step s (.bound k) { s with bound := s.bound.set k true }
  | accepted (s : State φ ψ) (k : ℕ) (c : AcceptorConfig) (hrunning : s.status = .running)
      (hk : s.bound[k]? = some true) (hc : acceptors[k]? = some c) (hlocal : localSet = true) :
      Step s (.accepted k) { s with connections := s.connections ++ [.new handshake c] }
  | outside (s : State φ ψ) (k : ℕ) (hrunning : s.status = .running) (hk : s.bound[k]? = some true)
      (hlocal : localSet = false) : Step s (.accepted k) { s with status := .panicked }
  | failed (s : State φ ψ) (k : ℕ) (message : String) (hrunning : s.status = .running)
      (hk : k < acceptors.length) :
      Step s (.failed k message) { s with status := .returned (.error message) }
  | task (s : State φ ψ) (i : ℕ) (l : (c : AcceptorConfig) × Label (ℓ c))
      (connections : List (Connection φ ψ))
      (h : Tasks.Step (Connection.Step handshake) s.connections (.step i l) connections) :
      Step s (.task i l) { s with connections := connections }

inductive Runs : List (Event ℓ) → State φ ψ → Prop
  | start : Runs [] (start acceptors)
  | step {events : List (Event ℓ)} {event : Event ℓ} {s t : State φ ψ} (h : Runs events s)
      (hstep : Step handshake acceptors localSet s event t) : Runs (events ++ [event]) t

end

/-! ### The handshakes of the acceptors -/

def First : AcceptorConfig → Type
  | .socks5 _ _ => Proc String (Endpoint × Proc String Unit)
  | .http _ _   => Acceptor.HttpProxy.Session

def Second : AcceptorConfig → Type
  | .socks5 _ _ => Proc String Unit
  | .http _ _   => Acceptor.HttpProxy.Session

def Act : AcceptorConfig → Type
  | .socks5 _ _ => Proc.Act
  | .http _ _   => Acceptor.HttpProxy.Event

def handshake (parseUri : String → Option Acceptor.HttpProxy.Uri) :
    (c : AcceptorConfig) → Handshake (First c) (Second c) (Act c)
  | .socks5 _ _ => socks5
  | .http _ _   => http parseUri

end Dandelion.Engine
