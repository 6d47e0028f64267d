import Dandelion.Socks5

/-!
# Chains of SOCKS5 proxies

A connection through a proxy can be the next hop of the connector again. Through any number of
proxies, and however the two streams are fragmented, every proxy gets the endpoint that it was asked
for, and the last one is left with what is sent afterwards.
-/

namespace Dandelion.Socks5

open Proc Duplex Relation

/-- Each endpoint is asked for over the connection to the one before. -/
def connectAll : List Endpoint → Proc String Unit
  | []      => return ()
  | e :: es => do
    Connector.Socks5.connect e
    connectAll es

/-- The proxies on the way, each of which passes on what comes after its reply. -/
def acceptAll : ℕ → Proc String (List Endpoint)
  | 0     => return []
  | n + 1 => do
    let (endpoint, reply) ← Acceptor.Socks5.handshake
    reply
    let endpoints ← acceptAll n
    return endpoint :: endpoints

/-- The connector, and then what the client sends to the last endpoint. -/
def chainClient (es : List Endpoint) (toTarget : List UInt8) : Proc String Unit := do
  connectAll es
  Proc.write toTarget

/-- The proxies, and then what the last endpoint sends to the client. -/
def chainServer (n : ℕ) (toClient : List UInt8) : Proc String (List Endpoint) := do
  let endpoints ← acceptAll n
  Proc.write toClient
  return endpoints

def ChainResult : Party → Type
  | .left  => Unit
  | .right => List Endpoint

def chainState (l : Proc String Unit) (r : Proc String (List Endpoint)) (a b : List UInt8) :
    Duplex String ChainResult :=
  join l r a b

def chainStart (es : List Endpoint) (toTarget toClient : List UInt8) : Duplex String ChainResult :=
  chainState (chainClient es toTarget) (chainServer es.length toClient) [] []

/-! ### One proxy -/

section

variable {e : Endpoint} {l l' : Proc String Unit} {r r' : Proc String (List Endpoint)}
  {a b : List UInt8} {acts : List Act}

lemma chain_left_talks (h : l.Talks acts l') :
    ReflTransGen Step (chainState l r a (gotBytes acts ++ b))
      (chainState l' r (a ++ wroteBytes acts) b) :=
  left_talks h

lemma chain_right_talks (h : r.Talks acts r') :
    ReflTransGen Step (chainState l r (gotBytes acts ++ a) b)
      (chainState l r' a (b ++ wroteBytes acts)) :=
  right_talks h

/-- The proxy answers the greeting, whatever the client does afterwards. -/
lemma hop_greets (e : Endpoint) (l : Proc String Unit)
    (k : Endpoint × Proc String Unit → Proc String (List Endpoint)) :
    ReflTransGen Step
      (chainState (Connector.Socks5.connect e >>= fun _ => l) (Acceptor.Socks5.handshake >>= k)
        [] [])
      (chainState (Connector.Socks5.readMethod >>= fun _ => Connector.Socks5.sendRequest e >>=
        fun _ => Connector.Socks5.readReply >>= fun _ => l) (Acceptor.Socks5.readRequest >>= k)
        [] [5, 0]) := by
  have hclient : (Connector.Socks5.connect e >>= fun _ => l).Talks [.wrote [5, 1, 0]]
      (Connector.Socks5.readMethod >>= fun _ => Connector.Socks5.sendRequest e >>= fun _ =>
        Connector.Socks5.readReply >>= fun _ => l) := by
    simp only [Connector.Socks5.connect, bind_assoc]
    exact .wrote _ (.done _)
  have hserver : (Acceptor.Socks5.handshake >>= k).Talks [.got [5, 1], .got [0], .wrote [5, 0]]
      (Acceptor.Socks5.readRequest >>= k) := by
    simp only [Acceptor.Socks5.handshake, bind_assoc]
    exact Acceptor.Socks5.readGreeting_talks.seq (.wrote _ (.done _))
  have hleft := chain_left_talks (r := Acceptor.Socks5.handshake >>= k) (a := []) (b := []) hclient
  exact hleft.trans (chain_right_talks (a := []) (b := []) hserver)

/-- The proxy gets the endpoint and replies. -/
lemma hop_reaches (hlen : e.hostname.utf8Bytes.length ≤ 255) (l : Proc String Unit)
    (k : Endpoint → Proc String (List Endpoint)) :
    ReflTransGen Step
      (chainState (Connector.Socks5.connect e >>= fun _ => l)
        (Acceptor.Socks5.handshake >>= fun p => p.2 >>= fun _ => k p.1) [] [])
      (chainState l (k (.domain e.hostname e.port)) [] []) := by
  have hrequest : (Connector.Socks5.readMethod >>= fun _ => Connector.Socks5.sendRequest e >>=
      fun _ => Connector.Socks5.readReply >>= fun _ => l).Talks
      [.got [5, 0], .wrote [5, 1, 0, 3, UInt8.ofNat e.hostname.utf8Bytes.length],
        .wrote e.hostname.utf8Bytes, .wrote e.port.toBeBytes]
      (Connector.Socks5.readReply >>= fun _ => l) :=
    Connector.Socks5.readMethod_talks.seq ((Connector.Socks5.sendRequest_talks hlen).seq (.done _))
  have hreply : (Acceptor.Socks5.readRequest >>= fun p => p.2 >>= fun _ => k p.1).Talks
      [.got [5, 1, 0, 3], .got [UInt8.ofNat e.hostname.utf8Bytes.length],
        .got e.hostname.utf8Bytes, .got e.port.toBeBytes, .wrote [5, 0, 0, 1, 0, 0, 0, 0, 0, 0]]
      (k (.domain e.hostname e.port)) :=
    (Acceptor.Socks5.readRequest_talks e.port hlen).seq (.wrote _ (.done _))
  have hfinish : (Connector.Socks5.readReply >>= fun _ => l).Talks
      [.got [5, 0, 0, 1], .got [0, 0, 0, 0, 0, 0]] l :=
    Connector.Socks5.readReply_talks.seq (.done _)
  have hfirst := chain_left_talks
    (r := Acceptor.Socks5.readRequest >>= fun p => p.2 >>= fun _ => k p.1) (a := []) (b := [])
    hrequest
  have hsecond := chain_right_talks (l := Connector.Socks5.readReply >>= fun _ => l) (a := [])
    (b := []) hreply
  have hthird := chain_left_talks (r := k (.domain e.hostname e.port)) (a := []) (b := []) hfinish
  simp only [gotBytes, wroteBytes, List.append_nil, List.nil_append, List.cons_append]
    at hfirst hsecond hthird
  exact (hop_greets e l _).trans (hfirst.trans (hsecond.trans hthird))

end

/-! ### All proxies -/

section

variable {es : List Endpoint}

lemma connectAll_cons (e : Endpoint) (es : List Endpoint) (l : Proc String Unit) :
    (connectAll (e :: es) >>= fun _ => l)
      = Connector.Socks5.connect e >>= fun _ => connectAll es >>= fun _ => l := by
  rw [connectAll, bind_assoc]

lemma acceptAll_succ (n : ℕ) (k : List Endpoint → Proc String (List Endpoint)) :
    acceptAll (n + 1) >>= k = Acceptor.Socks5.handshake >>= fun p => p.2 >>= fun _ =>
      acceptAll n >>= fun endpoints => k (p.1 :: endpoints) := by
  simp only [acceptAll, bind_assoc, pure_bind]

/-- What a proxy is asked for is a name. -/
def byName (e : Endpoint) : Endpoint := .domain e.hostname e.port

lemma chain_reaches (hes : ∀ e ∈ es, e.hostname.utf8Bytes.length ≤ 255) (l : Proc String Unit)
    (k : List Endpoint → Proc String (List Endpoint)) (n : ℕ) :
    ReflTransGen Step
      (chainState (connectAll es >>= fun _ => l) (acceptAll (es.length + n) >>= k) [] [])
      (chainState l (acceptAll n >>= fun endpoints => k (es.map byName ++ endpoints)) [] []) := by
  induction es generalizing k with
  | nil =>
    rw [List.length_nil, Nat.zero_add]
    exact .refl
  | cons e es ih =>
    rw [List.forall_mem_cons] at hes
    rw [connectAll_cons, List.length_cons, Nat.succ_add, acceptAll_succ]
    have hhop := hop_reaches hes.1 (connectAll es >>= fun _ => l) fun endpoint =>
      acceptAll (es.length + n) >>= fun endpoints => k (endpoint :: endpoints)
    exact hhop.trans (ih hes.2 fun endpoints => k (byName e :: endpoints))

/-- One way to run all handshakes to their end. -/
lemma chainStart_reaches (hes : ∀ e ∈ es, e.hostname.utf8Bytes.length ≤ 255)
    (toTarget toClient : List UInt8) :
    ReflTransGen Step (chainStart es toTarget toClient)
      (chainState (ret ()) (ret (es.map byName)) toTarget toClient) := by
  have hchain := chain_reaches hes (Proc.write toTarget)
    (fun endpoints => Proc.write toClient >>= fun _ => ret endpoints) 0
  have hclient : (Proc.write toTarget : Proc String Unit).Talks [.wrote toTarget] (ret ()) :=
    .wrote _ (.done _)
  have hserver : (acceptAll 0 >>= fun endpoints => Proc.write toClient >>= fun _ =>
      (ret (es.map byName ++ endpoints) : Proc String (List Endpoint))).Talks [.wrote toClient]
      (ret (es.map byName)) := by
    rw [acceptAll, pure_bind, List.append_nil]
    exact .wrote _ (.done _)
  have hleft := chain_left_talks (r := acceptAll 0 >>= fun endpoints => Proc.write toClient >>=
    fun _ => ret (es.map byName ++ endpoints)) (a := []) (b := []) hclient
  have hright := chain_right_talks (l := ret ()) (a := toTarget) (b := []) hserver
  simp only [gotBytes, wroteBytes, List.append_nil, List.nil_append] at hleft hright
  exact hchain.trans (hleft.trans hright)

lemma connectAll_append (es es' : List Endpoint) :
    connectAll (es ++ es') = connectAll es >>= fun _ => connectAll es' := by
  induction es with
  | nil => rfl
  | cons e es ih => rw [List.cons_append, connectAll, ih, connectAll_cons]

/-- A host that is too long ends the chain, after the handshakes before it. -/
lemma chainStart_fails {e : Endpoint} (hes : ∀ e ∈ es, e.hostname.utf8Bytes.length ≤ 255)
    (hlen : 255 < e.hostname.utf8Bytes.length) (rest : List Endpoint)
    (toTarget toClient : List UInt8) :
    ∃ k, ReflTransGen Step (chainStart (es ++ e :: rest) toTarget toClient)
      (chainState (fail "The socks5 protocol cannot support domain longer than 255 bytes.")
        (Acceptor.Socks5.readRequest >>= k) [] []) := by
  have hchain := chain_reaches hes (connectAll (e :: rest) >>= fun _ => Proc.write toTarget)
    (fun endpoints => Proc.write toClient >>= fun _ => ret endpoints) (rest.length + 1)
  rw [← bind_assoc, ← connectAll_append, connectAll_cons, acceptAll_succ] at hchain
  have hclient : (Connector.Socks5.readMethod >>= fun _ => Connector.Socks5.sendRequest e >>=
      fun _ => Connector.Socks5.readReply >>= fun _ => connectAll rest >>=
        fun _ => Proc.write toTarget).Talks [.got [5, 0]]
      (fail "The socks5 protocol cannot support domain longer than 255 bytes.") := by
    rw [Connector.Socks5.sendRequest_of_lt hlen]
    exact Connector.Socks5.readMethod_talks.seq (.done _)
  refine ⟨fun p => p.2 >>= fun _ => acceptAll rest.length >>= fun endpoints =>
    Proc.write toClient >>= fun _ => ret (es.map byName ++ p.1 :: endpoints), ?_⟩
  rw [chainStart, List.length_append, List.length_cons]
  exact hchain.trans ((hop_greets e _ _).trans (chain_left_talks (a := []) (b := []) hclient))

end

/-- Through any chain of proxies, however the two streams are fragmented, every run ends with all
handshakes successful: every proxy has the host and the port it was asked for, and what is left to
read is what was sent afterwards. If a host is too long, every run ends with the error of the first
such host. -/
theorem chain_handshake (es : List Endpoint) (toTarget toClient : List UInt8) :
    ((∀ e ∈ es, e.hostname.utf8Bytes.length ≤ 255) →
      (chainStart es toTarget toClient).EndsIn
        (chainState (ret ()) (ret (es.map byName)) toTarget toClient)) ∧
    (∀ e ∈ es, 255 < e.hostname.utf8Bytes.length → ∃ r, (chainStart es toTarget toClient).EndsIn
      (chainState (fail "The socks5 protocol cannot support domain longer than 255 bytes.") r
        [] [])) := by
  constructor
  · intro hes
    apply endsIn_of_reflTransGen (chainStart_reaches hes toTarget toClient)
    apply not_step_of_stuck
    rintro (_ | _)
    · exact stuck_ret _ _
    · exact stuck_ret _ _
  · intro e he hlen
    have hsome : (es.find? fun e => decide (255 < e.hostname.utf8Bytes.length)).isSome :=
      List.find?_isSome.mpr ⟨e, he, decide_eq_true hlen⟩
    obtain ⟨e', hfirst⟩ := Option.isSome_iff_exists.mp hsome
    obtain ⟨hlen', before, rest, rfl, hall⟩ := List.find?_eq_some_iff_append.mp hfirst
    have hbefore : ∀ x ∈ before, x.hostname.utf8Bytes.length ≤ 255 := by simpa using hall
    obtain ⟨k, hreaches⟩ :=
      chainStart_fails hbefore (by simpa using hlen') rest toTarget toClient
    refine ⟨_, endsIn_of_reflTransGen hreaches ?_⟩
    apply not_step_of_stuck
    rintro (_ | _)
    · exact stuck_fail _ _
    · exact stuck_readExact 3 _

/-- A host behind two proxies. -/
theorem chain_handshake_two :
    (chainStart [.domain "first" 1080, .addr (.v4 ⟨10, 0, 0, 1⟩ 1080), .domain "example.com" 443]
      [1] [2]).EndsIn
      (chainState (ret ())
        (ret [.domain "first" 1080, .domain "10.0.0.1" 1080, .domain "example.com" 443]) [1] [2]) :=
  (chain_handshake
    [.domain "first" 1080, .addr (.v4 ⟨10, 0, 0, 1⟩ 1080), .domain "example.com" 443] [1] [2]).1
    (by decide)

end Dandelion.Socks5
