import Dandelion.Acceptor.Http.Handshake
import Dandelion.Connector.Http.Response
import Dandelion.Endpoint.Reparse
import Dandelion.Engine

/-!
# The two halves of the HTTP proxy

The connector asks the acceptor for a tunnel. The HTTP library of the acceptor may reject the
request with a response of its own. Otherwise the handler of the acceptor connects to the target or
refuses, and from then on the acceptor copies in both directions. The two of them are joined by two
byte streams that do not fail, and take their steps in any order.
-/

namespace Dandelion.HttpProxy

open Net Http Relation Connector.HttpProxy

/-- The parser of a server for the head of a request: an error, or the request and the length of
its head if there are enough bytes. -/
abbrev RequestParser := List UInt8 → Except String (Option (Acceptor.HttpProxy.Request × ℕ))

/-- What the two halves are given: the endpoint, the parsers, and the responses to a `CONNECT` and
to a head that is rejected. -/
structure Setup where
  endpoint : Endpoint
  parseResponse : ResponseParser
  parseUri : String → Option Acceptor.HttpProxy.Uri
  parseRequest : RequestParser
  response : List UInt8
  rejection : List UInt8

/-- The request, once its head is complete. -/
def Setup.parseHead (S : Setup) (input : List UInt8) : Option (Acceptor.HttpProxy.Request × ℕ) :=
  match S.parseRequest input with
  | .ok head => head
  | .error _ => none

/-- What is relied on of the HTTP library. -/
structure Setup.Lawful (S : Setup) : Prop where
  parseResponse : Connector.HttpProxy.Lawful S.parseResponse
  response : IsHead S.parseResponse S.response 200
  rejection : ∃ code, code ≠ 200 ∧ IsHead S.parseResponse S.rejection code
  /-- A head that is not complete wants more, or is rejected. -/
  wantsMore : ∀ front, front <+: request S.endpoint → front ≠ request S.endpoint →
    ∀ head, S.parseRequest front = .ok head → head = none
  /-- The target of a `CONNECT` that is not rejected is taken as it is. -/
  complete : ∀ head, S.parseRequest (request S.endpoint) = .ok head →
    ∃ r : Acceptor.HttpProxy.Request, r.method = .connect ∧ r.uri.text = S.endpoint.display ∧
      head = some (r, (request S.endpoint).length)

/-- The connector, and then the user of the tunnel. -/
inductive Client where
  | sending (left : List UInt8)
  | waiting (reads : List (List UInt8))
  | tunnel
  | failed (e : ConnectError)
  | gone

/-- The connector after the given reads. -/
def Client.next (S : Setup) (reads : List (List UInt8)) : Client :=
  match readResponse S.parseResponse S.endpoint [] (reads.map .ok) with
  | none            => .waiting reads
  | some (.ok _)    => .tunnel
  | some (.error e) => .failed e

/-- The task of the acceptor. -/
inductive Server where
  | reading (reads : List (List UInt8))
  /-- The library writes its response to a head that it has rejected. -/
  | rejecting (left : List UInt8)
  | routing (endpoint : Endpoint) (readBuf : List UInt8)
  | answering (endpoint : Endpoint) (readBuf left : List UInt8)
  | relaying (endpoint : Endpoint) (relay : Relay)
  /-- The request is no `CONNECT`. -/
  | forwarding
  | closed

/-- The acceptor after the given reads. -/
def Server.next (S : Setup) (reads : List (List UInt8)) : Server :=
  match S.parseRequest reads.flatten with
  | .error _ => .rejecting S.rejection
  | .ok _    =>
    match serveConnection S.parseHead reads reads.length with
    | none            => .reading reads
    | some (_, parts) =>
      match Acceptor.HttpProxy.handshake S.parseUri S.parseHead reads reads.length with
      | .ok (endpoint, .ok (.client _)) => .routing endpoint parts.readBuf
      | .ok (_, .ok .upstream)          => .forwarding
      | .ok (_, .error _) | .error _    => .closed

/-- The endpoint that the handler was called with. -/
def Server.endpoint : Server → Option Endpoint
  | .routing e _ | .answering e _ _ | .relaying e _   => some e
  | .reading _ | .rejecting _ | .forwarding | .closed => none

/-- What has happened: what the user has put into the tunnel and taken from it, the reads of the
connector, what the acceptor has read too early, what the handler has returned, and what the relay
has done. -/
structure Log where
  put : List UInt8
  took : List UInt8
  responses : List (List UInt8)
  early : List UInt8
  handler : Option Bool
  relays : List Relay.Act

/-- The two halves, and the bytes under way to either of them. -/
structure Link where
  client : Client
  server : Server
  toServer : List UInt8
  toClient : List UInt8
  log : Log

def start (S : Setup) : Link where
  client := .sending (request S.endpoint)
  server := .reading []
  toServer := []
  toClient := []
  log := ⟨[], [], [], [], none, []⟩

/-- One step of one of the halves. -/
inductive Step (S : Setup) : Link → Link → Prop
  | send (s : Link) (f left : List UInt8) (hf : f ≠ []) (h : s.client = .sending (f ++ left)) :
      Step S s { s with client := .sending left, toServer := s.toServer ++ f }
  | sent (s : Link) (h : s.client = .sending []) : Step S s { s with client := .waiting [] }
  | response (s : Link) (reads : List (List UInt8)) (f rest : List UInt8) (hf : f ≠ [])
      (h : s.client = .waiting reads) (hbytes : s.toClient = f ++ rest) :
      Step S s
        { s with
          client := .next S (reads ++ [f])
          toClient := rest
          log := { s.log with responses := reads ++ [f] } }
  -- the acceptor has closed the connection
  | eof (s : Link) (reads : List (List UInt8)) (h : s.client = .waiting reads)
      (hbytes : s.toClient = []) (hclosed : s.server = .closed) :
      Step S s { s with client := .next S (reads ++ [[]]) }
  | put (s : Link) (f : List UInt8) (h : s.client = .tunnel) :
      Step S s
        { s with toServer := s.toServer ++ f, log := { s.log with put := s.log.put ++ f } }
  | take (s : Link) (f rest : List UInt8) (h : s.client = .tunnel)
      (hbytes : s.toClient = f ++ rest) :
      Step S s { s with toClient := rest, log := { s.log with took := s.log.took ++ f } }
  | leave (s : Link) : Step S s { s with client := .gone }
  | receive (s : Link) (reads : List (List UInt8)) (f rest : List UInt8) (hf : f ≠ [])
      (h : s.server = .reading reads) (hbytes : s.toServer = f ++ rest) :
      Step S s { s with server := .next S (reads ++ [f]), toServer := rest }
  | noRequest (s : Link) (reads : List (List UInt8)) (h : s.server = .reading reads)
      (hbytes : s.toServer = []) (hgone : s.client = .gone) : Step S s { s with server := .closed }
  | reject (s : Link) (f left : List UInt8) (hf : f ≠ []) (h : s.server = .rejecting (f ++ left)) :
      Step S s { s with server := .rejecting left, toClient := s.toClient ++ f }
  -- the connection ends with the error of the parser, also if the response is not all written
  | rejected (s : Link) (left : List UInt8) (h : s.server = .rejecting left) :
      Step S s { s with server := .closed }
  | connected (s : Link) (e : Endpoint) (readBuf : List UInt8)
      (h : s.server = .routing e readBuf) :
      Step S s
        { s with
          server := .answering e readBuf S.response
          log := { s.log with handler := some true } }
  | refused (s : Link) (e : Endpoint) (readBuf : List UInt8)
      (h : s.server = .routing e readBuf) :
      Step S s { s with server := .closed, log := { s.log with handler := some false } }
  | answer (s : Link) (e : Endpoint) (readBuf f left : List UInt8) (hf : f ≠ [])
      (h : s.server = .answering e readBuf (f ++ left)) :
      Step S s { s with server := .answering e readBuf left, toClient := s.toClient ++ f }
  -- the HTTP library may read on while it has the transport
  | early (s : Link) (e : Endpoint) (readBuf left f rest : List UInt8) (hf : f ≠ [])
      (h : s.server = .answering e readBuf left) (hbytes : s.toServer = f ++ rest) :
      Step S s
        { s with
          server := .answering e (readBuf ++ f) left
          toServer := rest
          log := { s.log with early := s.log.early ++ f } }
  -- what the library has read and not used is dropped
  | answered (s : Link) (e : Endpoint) (readBuf : List UInt8)
      (h : s.server = .answering e readBuf []) : Step S s { s with server := .relaying e .new }
  | aborted (s : Link) (e : Endpoint) (readBuf left : List UInt8)
      (h : s.server = .answering e readBuf left) (hgone : s.client = .gone) :
      Step S s { s with server := .closed }
  | relayed (s : Link) (e : Endpoint) (relay relay' : Relay) (a : Relay.Act) (rest : List UInt8)
      (h : s.server = .relaying e relay) (hstep : relay.Step Engine.bufferSize a relay')
      (hbytes : s.toServer = a.bytesRead .left ++ rest)
      (heof : a = .eof .left → s.client = .gone ∧ s.toServer = []) :
      Step S s
        { s with
          server := .relaying e relay'
          toServer := rest
          toClient := s.toClient ++ a.bytesWritten .right
          log := { s.log with relays := s.log.relays ++ [a] } }
  | finished (s : Link) (e : Endpoint) (relay : Relay) (h : s.server = .relaying e relay) :
      Step S s { s with server := .closed }

/-! ### The parsers -/

variable {S : Setup} {s t : Link}

/-- What comes before the end of the head is kept. -/
lemma readResponse_append {parse : ResponseParser} (hparse : Connector.HttpProxy.Lawful parse)
    {head : List UInt8} {code : UInt16} (hhead : IsHead parse head code) (e : Endpoint)
    (buf : List UInt8) {chunks : List (List UInt8)} (hchunks : ∀ chunk ∈ chunks, chunk ≠ [])
    (hle : buf ++ chunks.flatten <+: head) (hne : buf ++ chunks.flatten ≠ head)
    (rest : List (Except String (List UInt8))) :
    readResponse parse e buf (chunks.map .ok ++ rest)
      = readResponse parse e (buf ++ chunks.flatten) rest := by
  induction chunks generalizing buf with
  | nil => simp
  | cons chunk chunks ih =>
    obtain ⟨hchunk, hchunks⟩ := List.forall_mem_cons.mp hchunks
    rw [List.flatten_cons, ← List.append_assoc] at hle hne
    have hfront : buf ++ chunk <+: head := (List.prefix_append _ _).trans hle
    have hpart : buf ++ chunk ≠ head := by
      intro heq
      apply hne
      rw [heq] at hle ⊢
      exact hle.eq_of_length_le (List.prefix_append _ _).length_le
    rw [List.map_cons, List.cons_append, List.flatten_cons, ← List.append_assoc,
      ← ih _ hchunks hle hne, readResponse, hparse.wantsMore hhead _ hfront hpart]
    exact fun h => hchunk h

/-- The connector waits for the rest of a response. -/
lemma Client.next_of_prefix (hS : S.Lawful) {head : List UInt8} {code : UInt16}
    (hhead : IsHead S.parseResponse head code) {reads : List (List UInt8)}
    (hreads : ∀ f ∈ reads, f ≠ []) (hle : reads.flatten <+: head) (hne : reads.flatten ≠ head) :
    Client.next S reads = .waiting reads := by
  have hread := readResponse_append hS.parseResponse hhead S.endpoint [] hreads
    (by simpa using hle) (by simpa using hne) []
  rw [List.append_nil] at hread
  rw [Client.next, hread]
  rfl

/-- A connection that is closed is taken for a tunnel. -/
lemma Client.next_eof (hS : S.Lawful) {head : List UInt8} {code : UInt16}
    (hhead : IsHead S.parseResponse head code) {reads : List (List UInt8)}
    (hreads : ∀ f ∈ reads, f ≠ []) (hle : reads.flatten <+: head) (hne : reads.flatten ≠ head) :
    Client.next S (reads ++ [[]]) = .tunnel := by
  have hread := readResponse_append hS.parseResponse hhead S.endpoint [] hreads
    (by simpa using hle) (by simpa using hne) [.ok []]
  rw [Client.next, List.map_append, List.map_singleton, hread]
  rfl

/-- The end of a response decides. -/
lemma Client.next_of_head (hS : S.Lawful) {head : List UInt8} {code : UInt16}
    (hhead : IsHead S.parseResponse head code) {reads : List (List UInt8)}
    (hreads : ∀ f ∈ reads, f ≠ []) (hle : head <+: reads.flatten) :
    ∃ front, head <+: front ∧ front <+: reads.flatten ∧
      Client.next S reads = if code = 200 then .tunnel else .failed (refused S.endpoint front) := by
  obtain ⟨payload, hpayload⟩ := hle
  obtain ⟨first, chunk, later, hcut, -, -, hlast, hread⟩ :=
    readResponseIo_of_isHead S.endpoint [] hS.parseResponse hhead List.nil_prefix
      (hhead.ne_nil hS.parseResponse).symm hreads hpayload.symm
  rw [List.nil_append] at hlast hread
  have hmap : (readResponseIo S.parseResponse S.endpoint []
      (Connector.HttpProxy.reads reads [])).map (Except.map fun _ => ())
      = readResponse S.parseResponse S.endpoint [] (Connector.HttpProxy.reads reads []) :=
    map_readResponseIo [] (Connector.HttpProxy.reads reads [])
  have hreads' : Connector.HttpProxy.reads reads [] = reads.map .ok := List.append_nil _
  rw [hread, hreads'] at hmap
  refine ⟨(first ++ [chunk]).flatten, hlast, ⟨later.flatten, by simp [hcut]⟩, ?_⟩
  rw [Client.next, ← hmap]
  split_ifs <;> rfl

/-- The tunnel is open with the end of the response. -/
lemma Client.next_of_response (hS : S.Lawful) {reads : List (List UInt8)}
    (hreads : ∀ f ∈ reads, f ≠ []) (hle : S.response <+: reads.flatten) :
    Client.next S reads = .tunnel := by
  obtain ⟨front, -, -, hnext⟩ := Client.next_of_head hS hS.response hreads hle
  exact hnext

/-- The connector fails with the end of a rejection. -/
lemma Client.next_of_rejection (hS : S.Lawful) {reads : List (List UInt8)}
    (hreads : ∀ f ∈ reads, f ≠ []) (heq : reads.flatten = S.rejection) :
    Client.next S reads = .failed (refused S.endpoint S.rejection) := by
  obtain ⟨code, hcode, hhead⟩ := hS.rejection
  obtain ⟨front, hle, hfront, hnext⟩ :=
    Client.next_of_head hS hhead hreads (heq ▸ List.prefix_rfl)
  rw [heq] at hfront
  obtain rfl := hfront.eq_of_length_le hle.length_le
  rw [hnext, if_neg hcode]

lemma Server.next_of_error {reads : List (List UInt8)} {message : String}
    (hparse : S.parseRequest reads.flatten = .error message) :
    Server.next S reads = .rejecting S.rejection := by
  rw [Server.next, hparse]

/-- The acceptor waits for the rest of the request. -/
lemma Server.next_of_prefix (hS : S.Lawful) {reads : List (List UInt8)}
    {head : Option (Acceptor.HttpProxy.Request × ℕ)}
    (hparse : S.parseRequest reads.flatten = .ok head)
    (hle : reads.flatten <+: request S.endpoint) (hne : reads.flatten ≠ request S.endpoint) :
    Server.next S reads = .reading reads := by
  obtain rfl := hS.wantsMore _ hle hne head hparse
  simp [Server.next, serveConnection, Setup.parseHead, hparse]

/-- The text of an endpoint stands for an endpoint with the same host and port, unless its host is a
name in the form of a bracketed IPv6 address. -/
lemma exists_fromStr_display (e : Endpoint) :
    ∃ e', Endpoint.fromStr e.display = .ok e' ∧
      (¬e.HasBracketedName → e'.hostname = e.hostname ∧ e'.port = e.port) := by
  cases e with
  | addr a =>
    refine ⟨_, Endpoint.fromStr_display_addr a, fun _ => ?_⟩
    cases a <;> exact ⟨rfl, rfl⟩
  | domain d p =>
    by_cases hd : BracketedIpv6 d.toList
    · obtain ⟨ip, scopeId, hparse⟩ := Endpoint.fromStr_display_of_bracketed hd p
      exact ⟨_, hparse, fun h => absurd ⟨d, p, rfl, hd⟩ h⟩
    · rcases Endpoint.fromStr_display_of_not_bracketed hd p with hparse | ⟨ip, hip, hparse⟩
      · exact ⟨_, hparse, fun _ => ⟨rfl, rfl⟩⟩
      · refine ⟨_, hparse, fun _ => ⟨?_, rfl⟩⟩
        rw [Endpoint.hostname, Endpoint.hostname, SocketAddr.ip, IpAddr.display, ← hip,
          String.ofList_toList]

/-- The handler is called for the endpoint of the request. -/
lemma Server.next_of_request (hS : S.Lawful) {reads : List (List UInt8)}
    {head : Option (Acceptor.HttpProxy.Request × ℕ)}
    (hparse : S.parseRequest reads.flatten = .ok head)
    (hrequest : reads.flatten = request S.endpoint) {e : Endpoint}
    (he : Endpoint.fromStr S.endpoint.display = .ok e) : Server.next S reads = .routing e [] := by
  obtain ⟨r, hconnect, htext, rfl⟩ := hS.complete head (hrequest ▸ hparse)
  have hserve : serveConnection S.parseHead reads reads.length = some (r, ⟨[], []⟩) := by
    rw [serveConnection, List.take_length, Setup.parseHead, hparse]
    simp [hrequest]
  rw [← htext] at he
  simp only [Server.next, hparse, hserve,
    Acceptor.HttpProxy.handshake_of_connect hserve hconnect he]

end Dandelion.HttpProxy
