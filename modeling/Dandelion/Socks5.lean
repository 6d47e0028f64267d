import Dandelion.Acceptor.Socks5
import Dandelion.Connector.Socks5
import Dandelion.Core.Duplex

/-!
# The two halves of SOCKS5

The connector and the acceptor agree on every byte of the handshake, however the two streams are
fragmented, and leave what is sent afterwards untouched.
-/

namespace Dandelion.Socks5

open Proc Duplex Relation

variable {e : Endpoint}

/-- The connector, and then what the client sends to the target. -/
def client (e : Endpoint) (toTarget : List UInt8) : Proc String Unit := do
  Connector.Socks5.connect e
  Proc.write toTarget

/-- The acceptor, with its reply, and then what the target sends to the client. -/
def server (toClient : List UInt8) : Proc String Endpoint := do
  let (endpoint, reply) ← Acceptor.Socks5.handshake
  reply
  Proc.write toClient
  return endpoint

def Result : Party → Type
  | .left  => Unit
  | .right => Endpoint

/-- The client and the server, with the bytes under way to the server and to the client. -/
def state (l : Proc String Unit) (r : Proc String Endpoint) (a b : List UInt8) :
    Duplex String Result :=
  join l r a b

/-- The connector and the acceptor before either has done anything. -/
def start (e : Endpoint) (toTarget toClient : List UInt8) : Duplex String Result :=
  state (client e toTarget) (server toClient) [] []

/-! ### The phases of the handshake -/

/-- The client after its greeting. -/
def clientGreeted (e : Endpoint) (toTarget : List UInt8) : Proc String Unit := do
  Connector.Socks5.readMethod
  Connector.Socks5.sendRequest e
  Connector.Socks5.readReply
  Proc.write toTarget

/-- The server after it has answered the greeting. -/
def serverGreeted (toClient : List UInt8) : Proc String Endpoint := do
  let (endpoint, reply) ← Acceptor.Socks5.readRequest
  reply
  Proc.write toClient
  return endpoint

lemma client_greets (e : Endpoint) (toTarget : List UInt8) :
    (client e toTarget).Talks [.wrote [5, 1, 0]] (clientGreeted e toTarget) := by
  have hclient : client e toTarget = Proc.writeAll [5, 1, 0] (clientGreeted e toTarget) := by
    simp only [client, Connector.Socks5.connect, clientGreeted, bind_assoc]
    rfl
  rw [hclient]
  exact .wrote _ (.done _)

lemma server_greets (toClient : List UInt8) :
    (server toClient).Talks [.got [5, 1], .got [0], .wrote [5, 0]] (serverGreeted toClient) := by
  have hserver : server toClient
      = Acceptor.Socks5.readGreeting >>= fun _ =>
          Proc.writeAll [5, 0] (serverGreeted toClient) := by
    simp only [server, Acceptor.Socks5.handshake, serverGreeted, bind_assoc]
    rfl
  rw [hserver]
  exact Acceptor.Socks5.readGreeting_talks.seq (.wrote _ (.done _))

/-- The client after it has sent its request. -/
def clientRequested (toTarget : List UInt8) : Proc String Unit := do
  Connector.Socks5.readReply
  Proc.write toTarget

lemma client_requests (hlen : e.hostname.utf8Bytes.length ≤ 255) (toTarget : List UInt8) :
    (clientGreeted e toTarget).Talks
      [.got [5, 0], .wrote [5, 1, 0, 3, UInt8.ofNat e.hostname.utf8Bytes.length],
        .wrote e.hostname.utf8Bytes, .wrote e.port.toBeBytes]
      (clientRequested toTarget) :=
  Connector.Socks5.readMethod_talks.seq
    ((Connector.Socks5.sendRequest_talks hlen).seq (.done _))

lemma client_finishes (toTarget : List UInt8) :
    (clientRequested toTarget).Talks
      [.got [5, 0, 0, 1], .got [0, 0, 0, 0, 0, 0], .wrote toTarget] (ret ()) :=
  Connector.Socks5.readReply_talks.seq (.wrote _ (.done _))

lemma server_finishes (hlen : e.hostname.utf8Bytes.length ≤ 255) (toClient : List UInt8) :
    (serverGreeted toClient).Talks
      [.got [5, 1, 0, 3], .got [UInt8.ofNat e.hostname.utf8Bytes.length],
        .got e.hostname.utf8Bytes, .got e.port.toBeBytes,
        .wrote [5, 0, 0, 1, 0, 0, 0, 0, 0, 0], .wrote toClient]
      (ret (.domain e.hostname e.port)) :=
  (Acceptor.Socks5.readRequest_talks e.port hlen).seq (.wrote _ (.wrote _ (.done _)))

/-! ### The handshake -/

section

variable {l l' : Proc String Unit} {r r' : Proc String Endpoint} {a b : List UInt8}
  {acts : List Act}

lemma client_talks (h : l.Talks acts l') :
    ReflTransGen Step (state l r a (gotBytes acts ++ b)) (state l' r (a ++ wroteBytes acts) b) :=
  left_talks h

lemma server_talks (h : r.Talks acts r') :
    ReflTransGen Step (state l r (gotBytes acts ++ a) b) (state l r' a (b ++ wroteBytes acts)) :=
  right_talks h

end

/-- The greeting and its answer. -/
lemma start_greets (e : Endpoint) (toTarget toClient : List UInt8) :
    ReflTransGen Step (start e toTarget toClient)
      (state (clientGreeted e toTarget) (serverGreeted toClient) [] [5, 0]) := by
  have hclient := client_talks (r := server toClient) (a := []) (b := []) (client_greets e toTarget)
  have hserver := server_talks (l := clientGreeted e toTarget) (a := []) (b := [])
    (server_greets toClient)
  exact hclient.trans hserver

/-- One way to run the handshake to its end. -/
lemma start_reaches (hlen : e.hostname.utf8Bytes.length ≤ 255) (toTarget toClient : List UInt8) :
    ReflTransGen Step (start e toTarget toClient)
      (state (ret ()) (ret (.domain e.hostname e.port)) toTarget toClient) := by
  have hrequest := client_talks (r := serverGreeted toClient) (a := []) (b := [])
    (client_requests hlen toTarget)
  have hreply := server_talks (l := clientRequested toTarget) (a := []) (b := [])
    (server_finishes hlen toClient)
  have hfinish := client_talks (r := ret (.domain e.hostname e.port)) (a := []) (b := toClient)
    (client_finishes toTarget)
  simp only [gotBytes, wroteBytes, List.append_nil, List.nil_append, List.cons_append]
    at hrequest hreply hfinish
  exact (start_greets e toTarget toClient).trans (hrequest.trans (hreply.trans hfinish))

/-- The error of a host that is too long. -/
lemma start_fails (hlen : 255 < e.hostname.utf8Bytes.length) (toTarget toClient : List UInt8) :
    ReflTransGen Step (start e toTarget toClient)
      (state (fail "The socks5 protocol cannot support domain longer than 255 bytes.")
        (serverGreeted toClient) [] []) := by
  have hmethod : (clientGreeted e toTarget).Talks [.got [5, 0]]
      (fail "The socks5 protocol cannot support domain longer than 255 bytes.") := by
    rw [clientGreeted, Connector.Socks5.sendRequest_of_lt hlen]
    exact Connector.Socks5.readMethod_talks.seq (.done _)
  have hclient := client_talks (r := serverGreeted toClient) (a := []) (b := []) hmethod
  exact (start_greets e toTarget toClient).trans hclient

/-- For a host of at most 255 bytes every run of the connector against the acceptor ends with both
of them successful. The acceptor has the host and the port the connector was given, and what is
left to read is what was sent after the handshake. For a longer host the connector fails, having
sent nothing but the greeting. -/
theorem connect_handshake (e : Endpoint) (toTarget toClient : List UInt8) :
    (e.hostname.utf8Bytes.length ≤ 255 → ∃ e' : Endpoint,
      (start e toTarget toClient).EndsIn (state (ret ()) (ret e') toTarget toClient) ∧
      e'.hostname = e.hostname ∧ e'.port = e.port ∧
      (ConnectRequest.mk e').hostnameIsIp = (ConnectRequest.mk e).hostnameIsIp) ∧
    (255 < e.hostname.utf8Bytes.length →
      (∃ r, (start e toTarget toClient).EndsIn
        (state (fail "The socks5 protocol cannot support domain longer than 255 bytes.") r [] [])) ∧
      ∀ acts P, (Connector.Socks5.connect e).Steps acts P →
        wroteBytes acts <+: [5, 1, 0] ∧ ∀ u, P ≠ ret u) := by
  refine ⟨fun hlen => ⟨.domain e.hostname e.port, ?_, rfl, rfl, ?_⟩,
    fun hlen => ⟨⟨serverGreeted toClient, ?_⟩, ?_⟩⟩
  · apply endsIn_of_reflTransGen (start_reaches hlen toTarget toClient)
    apply not_step_of_stuck
    rintro (_ | _)
    · exact stuck_ret _ _
    · exact stuck_ret _ _
  · rw [ConnectRequest.hostnameIsIp_eq, ConnectRequest.hostnameIsIp_eq]
    rfl
  · apply endsIn_of_reflTransGen (start_fails hlen toTarget toClient)
    apply not_step_of_stuck
    rintro (_ | _)
    · exact stuck_fail _ _
    · exact stuck_readExact 3 _
  · intro acts P hsteps
    exact (Connector.Socks5.connect_failsWithin hlen).steps hsteps

/-- A host name and an IPv6 address, which is sent as text too. -/
theorem connect_handshake_examples :
    (∃ e' : Endpoint, (start (.domain "example.com" 443) [1] [2]).EndsIn
      (state (ret ()) (ret e') [1] [2]) ∧ e'.hostname = "example.com" ∧ e'.port = 443) ∧
    (∃ e' : Endpoint,
      (start (.addr (.v6 ⟨[0xfe80, 0, 0, 0, 0, 0, 0, 1], rfl⟩ 80 0 0)) [1] [2]).EndsIn
      (state (ret ()) (ret e') [1] [2]) ∧ e'.hostname = "fe80::1" ∧
      (ConnectRequest.mk e').hostnameIsIp = true) := by
  constructor
  · obtain ⟨e', hends, hhost, hport, -⟩ :=
      (connect_handshake (.domain "example.com" 443) [1] [2]).1 (by decide)
    exact ⟨e', hends, hhost, hport⟩
  · obtain ⟨e', hends, hhost, -, hip⟩ := (connect_handshake
      (.addr (.v6 ⟨[0xfe80, 0, 0, 0, 0, 0, 0, 1], rfl⟩ 80 0 0)) [1] [2]).1 (by decide)
    exact ⟨e', hends, hhost.trans (by decide), hip⟩

end Dandelion.Socks5
