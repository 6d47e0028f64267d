import Dandelion.HttpProxy.Rejection

/-!
# Tunnels

The bytes of a tunnel keep their order. What can get lost is what one half reads along with the
handshake: the connector with the end of the response, and the acceptor after the response is
written and before it has taken the transport back.

The connector fails only if the HTTP library of the acceptor rejects the request itself. A refusal
of the handler is a closed connection, which the connector takes for a tunnel.
-/

namespace Dandelion.HttpProxy

open Net Relation Connector.HttpProxy

variable {S : Setup} {s t : Link}

/-! ### All runs -/

lemma Inv.step (h : Inv S s) (hS : S.Lawful) (hstep : Step S s t) : Inv S t ∨ Rejected S t := by
  cases hstep with
  | send f left hf hclient => exact .inl (h.send hf hclient)
  | sent hclient => exact .inl (h.sent hS hclient)
  | response reads f rest hf hclient hbytes => exact .inl (h.response hS hf hclient hbytes)
  | eof reads hclient hbytes hclosed => exact .inl (h.eof hS hclient hbytes hclosed)
  | put f hclient => exact .inl (h.put hS hclient f)
  | take f rest hclient hbytes => exact .inl (h.take hclient hbytes)
  | leave => exact .inl h.leave
  | receive reads f rest hf hserver hbytes =>
    cases hparse : S.parseRequest (reads ++ [f]).flatten with
    | error message => exact .inr (h.rejected hS hserver hbytes hparse)
    | ok head => exact .inl (h.receive hS hserver hbytes hparse)
  | noRequest reads hserver hbytes hgone =>
    exact .inl (h.close (by simp [hserver]) fun _ _ => ⟨hgone, hbytes⟩)
  | reject f left hf hserver | rejected left hserver =>
    have hok := h.server
    rw [ServerOk, hserver] at hok
    exact hok.elim
  | connected e readBuf hserver => exact .inl (h.connected hserver)
  | refused e readBuf hserver => exact .inl (h.refused hserver)
  | answer e readBuf f left hf hserver => exact .inl (h.answer hserver)
  | early e readBuf left f rest hf hserver hbytes => exact .inl (h.early hf hserver hbytes)
  | answered e readBuf hserver => exact .inl (h.answered hserver)
  | aborted e readBuf left hserver hgone =>
    exact .inl (h.close (by simp [hserver]) (by simp [hserver]))
  | relayed e relay relay' a rest hserver hstep hbytes heof =>
    exact .inl (h.relayed hserver hstep hbytes)
  | finished e relay hserver => exact .inl (h.close (by simp [hserver]) (by simp [hserver]))

lemma inv_or_rejected_of_reaches (hS : S.Lawful) (h : ReflTransGen (Step S) (start S) s) :
    Inv S s ∨ Rejected S s := by
  induction h with
  | refl => exact .inl (inv_start S)
  | tail _ hstep ih =>
    rcases ih with hinv | hrejected
    · exact hinv.step hS hstep
    · exact .inr (hrejected.step hS hstep)

/-! ### Tunnels -/

/-- What the two halves promise of a tunnel. -/
structure Faithful (S : Setup) (s : Link) : Prop where
  /-- The handler is called for the endpoint that the connector was given. -/
  endpoint : ∀ e, s.server.endpoint = some e → Endpoint.fromStr S.endpoint.display = .ok e ∧
    (¬S.endpoint.HasBracketedName → e.hostname = S.endpoint.hostname ∧ e.port = S.endpoint.port)
  /-- The connector fails only if the library has rejected the request, with that response. -/
  failed : ∀ e, s.client = .failed e → e = refused S.endpoint S.rejection ∧ RejectedBy S ∧
    s.log.handler = none
  /-- It succeeds when the handler has connected, or when the acceptor has closed the connection. -/
  opened : s.client = .tunnel →
    s.log.handler = some true ∧ S.response <+: s.log.responses.flatten ∨
      s.server = .closed ∧ s.toClient = [] ∧ s.log.took = []
  /-- A connector whose target was refused gets no byte, and succeeds. -/
  refused : s.log.handler = some false → s.log.took = [] ∧ s.log.responses.flatten = [] ∧
    s.log.relays = [] ∧
    ∀ reads, s.client = .waiting reads → Step S s { s with client := .tunnel }
  /-- The bytes to the target, but for those that the acceptor has read too early. -/
  up : s.log.handler = some true →
    s.log.put = s.log.early ++ Relay.bytesRead .left s.log.relays ++ s.toServer
  /-- Only a target that the handler has connected to gets or sends anything. -/
  relays : s.log.handler ≠ some true → s.log.relays = [] ∧ s.log.took = []
  /-- The acceptor reads too early only after it has written the response. -/
  early : s.log.early ≠ [] → S.response <+: s.down
  /-- The bytes from the target, but for those that it has sent unasked and that come with the end
  of the response. -/
  down : s.log.took ≠ [] → ∃ lost, Answered S s lost ∧
    Relay.bytesWritten .right s.log.relays = lost ++ s.log.took ++ s.toClient
  relay : ∀ p, ∃ rest,
    Relay.bytesRead p s.log.relays = Relay.bytesWritten p s.log.relays ++ rest ∧
    rest.length ≤ Engine.bufferSize

lemma Inv.server_of_refused (h : Inv S s) (hhandler : s.log.handler = some false) :
    s.server = .closed := by
  have hok := h.server
  rw [ServerOk] at hok
  cases hserver : s.server with
  | closed => rfl
  | reading | rejecting | routing | answering | relaying | forwarding =>
    simp [hserver, hhandler] at hok

lemma Inv.fromStr_endpoint (h : Inv S s) {e : Endpoint} (he : s.server.endpoint = some e) :
    Endpoint.fromStr S.endpoint.display = .ok e := by
  have hok := h.server
  rw [ServerOk] at hok
  cases hserver : s.server with
  | routing e' readBuf =>
    rw [hserver] at hok he
    cases he
    exact hok.2.2
  | answering e' readBuf left =>
    rw [hserver] at hok he
    cases he
    exact hok.2.2.2
  | relaying e' relay =>
    rw [hserver] at hok he
    cases he
    exact hok.2.2.2
  | reading | rejecting | forwarding | closed =>
    rw [hserver] at he
    cases he

/-- What the user takes from the tunnel comes behind the response. -/
lemma Inv.answered_of_took (h : Inv S s) (htook : s.log.took ≠ []) :
    ∃ lost, Answered S s lost := by
  have hopened := h.client.fresh_or_opened.resolve_left fun hfresh => htook hfresh.2
  exact hopened.resolve_right fun hclosed => htook hclosed.1

/-- There is a response only if the handler has connected. -/
lemma Inv.handler_of_answered (h : Inv S s) (hS : S.Lawful) {lost : List UInt8}
    (hanswered : Answered S s lost) : s.log.handler = some true := by
  by_contra hsilent
  have hdown := (h.down.silent hsilent).1
  simp only [Link.down, hanswered.flatten_responses, List.append_eq_nil_iff] at hdown
  exact hS.response.ne_nil hS.parseResponse hdown.1.1.1

lemma Inv.put_eq (h : Inv S s) (hhandler : s.log.handler = some true) :
    s.log.put = s.log.early ++ Relay.bytesRead .left s.log.relays ++ s.toServer := by
  have hup := h.up
  rw [Up] at hup
  split at hup
  case h_1 reads hserver =>
    have hok := h.server
    rw [ServerOk, hserver] at hok
    rw [hok] at hhandler
    cases hhandler
  case h_2 => exact hup.2

/-- The connector takes a closed connection for a tunnel. -/
lemma Inv.exists_eof (h : Inv S s) (hS : S.Lawful) {reads : List (List UInt8)}
    (hwaiting : s.client = .waiting reads) (hclosed : s.server = .closed)
    (hnothing : s.toClient = []) : Step S s { s with client := .tunnel } := by
  have hok := h.client
  rw [ClientOk, hwaiting] at hok
  obtain ⟨-, -, -, hpart⟩ := hok
  rw [← Client.next_eof hS hS.response hpart.nonempty hpart.le hpart.ne]
  exact .eof s reads hwaiting hnothing hclosed

/-- A request that is not rejected. -/
lemma Inv.faithful (hinv : Inv S s) (hS : S.Lawful) : Faithful S s := by
  refine ⟨?_, ?_, ?_, ?_, hinv.put_eq, ?_, hinv.down.early, ?_, ?_⟩
  · intro e he
    have hparse := hinv.fromStr_endpoint he
    refine ⟨hparse, fun hname => ?_⟩
    obtain ⟨e', hparse', hsame⟩ := exists_fromStr_display S.endpoint
    rw [hparse] at hparse'
    cases hparse'
    exact hsame hname
  · intro e hfailed
    have hok := hinv.client
    rw [ClientOk, hfailed] at hok
    exact hok.elim
  · intro htunnel
    have hok := hinv.client
    rw [ClientOk, htunnel] at hok
    rcases hok with ⟨lost, hanswered⟩ | ⟨htook, hclosed, hnothing⟩
    · left
      exact ⟨hinv.handler_of_answered hS hanswered, lost, hanswered.flatten_responses.symm⟩
    · exact .inr ⟨hclosed, hnothing, htook⟩
  · intro hrefused
    have hclosed := hinv.server_of_refused hrefused
    obtain ⟨hdown, hrelays, -⟩ := hinv.down.silent (by simp [hrefused])
    rw [Link.down, List.append_eq_nil_iff, List.append_eq_nil_iff] at hdown
    obtain ⟨⟨hresponses, htook⟩, hnothing⟩ := hdown
    refine ⟨htook, hresponses, hrelays, ?_⟩
    exact fun _ hwaiting => hinv.exists_eof hS hwaiting hclosed hnothing
  · intro hsilent
    obtain ⟨hdown, hrelays, -⟩ := hinv.down.silent hsilent
    rw [Link.down, List.append_eq_nil_iff, List.append_eq_nil_iff] at hdown
    exact ⟨hrelays, hdown.1.2⟩
  · intro htook
    obtain ⟨lost, hanswered⟩ := hinv.answered_of_took htook
    refine ⟨lost, hanswered, hinv.down.bytesWritten_eq ?_⟩
    simp [Link.down, hanswered.flatten_responses]
  · intro p
    obtain ⟨relay, hruns⟩ := hinv.down.runs
    exact hruns.bytesWritten_prefix p

/-- A request that is rejected. -/
lemma Rejected.faithful (h : Rejected S s) : Faithful S s := by
  refine ⟨?_, ?_, ?_, ?_, ?_, fun _ => ⟨h.relays, h.took⟩, fun hearly => absurd h.early hearly,
    fun htook => absurd h.took htook, fun p => ?_⟩
  · intro e he
    obtain ⟨left, -, hserver | hserver⟩ := h.server
    · simp [hserver, Server.endpoint] at he
    · simp [hserver, Server.endpoint] at he
  · intro e hfailed
    have hclient := h.client
    rw [ClientRejected, hfailed] at hclient
    exact ⟨hclient, h.parse, h.handler⟩
  · intro htunnel
    have hclient := h.client
    rw [ClientRejected, htunnel] at hclient
    exact .inr ⟨hclient.1, hclient.2, h.took⟩
  · intro hrefused
    rw [h.handler] at hrefused
    cases hrefused
  · intro hconnected
    rw [h.handler] at hconnected
    cases hconnected
  · rw [h.relays]
    exact ⟨[], rfl, Nat.zero_le _⟩

/-- In every run of the connector against the acceptor, the handler is called for the endpoint that
the connector was given, the connector fails only if the request itself is rejected, and the bytes
of the tunnel arrive in order, but for those that are read along with the handshake. -/
theorem tunnel_faithful (hS : S.Lawful) (h : ReflTransGen (Step S) (start S) s) :
    Faithful S s := by
  rcases inv_or_rejected_of_reaches hS h with hinv | hrejected
  · exact hinv.faithful hS
  · exact hrejected.faithful

/-- A target that speaks first: its first byte comes in one read with the response. -/
lemma exists_first_byte_lost (hS : S.Lawful) {head : Option (Acceptor.HttpProxy.Request × ℕ)}
    (hparse : S.parseRequest (request S.endpoint) = .ok head) (a b c : UInt8) :
    ∃ s, ReflTransGen (Step S) (start S) s ∧ s.log.put = [c] ∧ s.log.took = [b] ∧
      Relay.bytesWritten .right s.log.relays = [a, b] := by
  obtain ⟨e, he, -⟩ := exists_fromStr_display S.endpoint
  have hresponse := hS.response.ne_nil hS.parseResponse
  have hsent : ReflTransGen (Step S) (start S)
      ⟨.waiting [], .reading [], request S.endpoint, [], ⟨[], [], [], [], none, []⟩⟩ :=
    (ReflTransGen.refl.tail (.send _ (request S.endpoint) [] (request_ne_nil _)
      (by simp [start]))).tail (.sent _ rfl)
  have hrouting := hsent.tail
    (.receive _ [] (request S.endpoint) [] (request_ne_nil _) rfl (by simp))
  rw [Server.next_of_request hS (by simpa using hparse) (by simp) he] at hrouting
  have hrelaying : ReflTransGen (Step S) (start S)
      ⟨.waiting [], .relaying e .new, [], S.response, ⟨[], [], [], [], some true, []⟩⟩ :=
    ((hrouting.tail (.connected _ e [] rfl)).tail
      (.answer _ e [] S.response [] hresponse (by simp))).tail (.answered _ e [] rfl)
  have hread := hrelaying.tail (.relayed _ e .new _ (.read .right [a, b]) [] rfl
    (.read _ .right [] [a, b] rfl (by simp) (by simp [Engine.bufferSize])) rfl (by simp))
  have hfirst := hread.tail (.relayed _ e _ _ (.wrote .right [a]) [] rfl
    (.wrote _ .right [a] [b] false rfl (by simp)) rfl (by simp))
  have hopened := hfirst.tail (.response _ [] (S.response ++ [a]) [] (by simp) rfl
    (by simp [Relay.Act.bytesWritten]))
  rw [Client.next_of_response hS (by simp) (by simp)] at hopened
  have hsecond := hopened.tail (.relayed _ e _ _ (.wrote .right [b]) [] rfl
    (.wrote _ .right [b] [] false rfl (by simp)) rfl (by simp))
  have htake := hsecond.tail (.take _ [b] [] rfl (by simp [Relay.Act.bytesWritten]))
  exact ⟨_, htake.tail (.put _ [c] rfl), rfl, rfl, rfl⟩

/-- A request whose head is rejected once it is complete. -/
lemma exists_failed (hS : S.Lawful) {message : String}
    (hparse : S.parseRequest (request S.endpoint) = .error message) :
    ∃ s, ReflTransGen (Step S) (start S) s ∧
      s.client = .failed (refused S.endpoint S.rejection) := by
  have hsent : ReflTransGen (Step S) (start S)
      ⟨.waiting [], .reading [], request S.endpoint, [], ⟨[], [], [], [], none, []⟩⟩ :=
    (ReflTransGen.refl.tail (.send _ (request S.endpoint) [] (request_ne_nil _)
      (by simp [start]))).tail (.sent _ rfl)
  have hrejecting := hsent.tail
    (.receive _ [] (request S.endpoint) [] (request_ne_nil _) rfl (by simp))
  rw [Server.next_of_error (by simpa using hparse)] at hrejecting
  have hwritten := hrejecting.tail (.reject _ S.rejection [] (rejection_ne_nil hS) (by simp))
  have hfailed := hwritten.tail (.response _ [] S.rejection [] (rejection_ne_nil hS) rfl (by simp))
  exact ⟨_, hfailed, Client.next_of_rejection hS (by simp [rejection_ne_nil hS]) (by simp)⟩

def sampleEndpoint : Endpoint := .domain "example.org" 443

def sampleRequest : Acceptor.HttpProxy.Request :=
  { Acceptor.HttpProxy.connectRequest with headers := [("host", "example.org:443")] }

def sampleRejection : List UInt8 := "HTTP/1.1 400 Bad Request\r\n\r\n".utf8Bytes

/-- A parser that knows two responses only. -/
def parseSampleResponse : ResponseParser := fun buf =>
  if sampleHead <+: buf then .ok (some 200)
  else if sampleRejection <+: buf then .ok (some 400)
  else if buf <+: sampleHead ∨ buf <+: sampleRejection then .ok none
  else .error "invalid HTTP version"

lemma not_sampleHead_of_sampleRejection {buf : List UInt8} (h : sampleRejection <+: buf) :
    ¬sampleHead <+: buf := by
  intro hhead
  rcases List.prefix_or_prefix_of_prefix h hhead with hle | hle
  · exact absurd hle (by decide)
  · exact absurd hle (by decide)

lemma parseSampleResponse_eq_some_iff {buf : List UInt8} {code : UInt16} :
    parseSampleResponse buf = .ok (some code) ↔
      sampleHead <+: buf ∧ code = 200 ∨ sampleRejection <+: buf ∧ code = 400 := by
  rw [parseSampleResponse]
  by_cases hhead : sampleHead <+: buf
  · have hno : ¬sampleRejection <+: buf := fun h => not_sampleHead_of_sampleRejection h hhead
    simp [hhead, hno, eq_comm]
  · by_cases hrejection : sampleRejection <+: buf
    · simp [hhead, hrejection, eq_comm]
    · by_cases hmore : buf <+: sampleHead ∨ buf <+: sampleRejection
      · simp [hhead, hrejection, hmore]
      · simp [hhead, hrejection, hmore]

lemma isHead_parseSampleResponse_iff {head : List UInt8} {code : UInt16} :
    IsHead parseSampleResponse head code ↔
      head = sampleHead ∧ code = 200 ∨ head = sampleRejection ∧ code = 400 := by
  constructor
  · intro h
    rcases parseSampleResponse_eq_some_iff.mp h.parsed with ⟨hle, rfl⟩ | ⟨hle, rfl⟩
    · exact .inl ⟨(h.minimal sampleHead hle 200 (by decide)).symm, rfl⟩
    · exact .inr ⟨(h.minimal sampleRejection hle 400 (by decide)).symm, rfl⟩
  · rintro (⟨rfl, rfl⟩ | ⟨rfl, rfl⟩)
    · refine ⟨by decide, fun front hfront code hparsed => ?_⟩
      rcases parseSampleResponse_eq_some_iff.mp hparsed with ⟨hle, -⟩ | ⟨hle, -⟩
      · exact hfront.eq_of_length_le hle.length_le
      · exact absurd (hle.trans hfront) (by decide)
    · refine ⟨by decide, fun front hfront code hparsed => ?_⟩
      rcases parseSampleResponse_eq_some_iff.mp hparsed with ⟨hle, -⟩ | ⟨hle, -⟩
      · exact absurd (hle.trans hfront) (by decide)
      · exact hfront.eq_of_length_le hle.length_le

lemma lawful_parseSampleResponse : Connector.HttpProxy.Lawful parseSampleResponse where
  nil := by decide
  wantsMore := by
    intro head code hhead front hfront hne
    have hpart : front <+: sampleHead ∨ front <+: sampleRejection := by
      rcases isHead_parseSampleResponse_iff.mp hhead with ⟨rfl, -⟩ | ⟨rfl, -⟩
      · exact .inl hfront
      · exact .inr hfront
    have hno (code : UInt16) : parseSampleResponse front ≠ .ok (some code) :=
      fun hparsed => hne (hhead.minimal front hfront code hparsed)
    simp only [ne_eq, parseSampleResponse_eq_some_iff, not_or, not_and] at hno
    have hhead' : ¬sampleHead <+: front := fun h => (hno 200).1 h rfl
    have hrejection : ¬sampleRejection <+: front := fun h => (hno 400).2 h rfl
    rw [parseSampleResponse, if_neg hhead', if_neg hrejection, if_pos hpart]
  ignores := by
    intro head code hhead payload
    rw [parseSampleResponse_eq_some_iff]
    rcases isHead_parseSampleResponse_iff.mp hhead with ⟨rfl, rfl⟩ | ⟨rfl, rfl⟩
    · exact .inl ⟨List.prefix_append _ _, rfl⟩
    · exact .inr ⟨List.prefix_append _ _, rfl⟩

/-- A parser that knows the request for one endpoint only. -/
def parseSampleRequest : RequestParser := fun input =>
  if request sampleEndpoint <+: input then
    .ok (some (sampleRequest, (request sampleEndpoint).length))
  else .ok none

def sampleSetup : Setup where
  endpoint := sampleEndpoint
  parseResponse := parseSampleResponse
  parseUri := fun _ => none
  parseRequest := parseSampleRequest
  response := sampleHead
  rejection := sampleRejection

lemma lawful_sampleSetup : sampleSetup.Lawful where
  parseResponse := lawful_parseSampleResponse
  response := isHead_parseSampleResponse_iff.mpr (.inl ⟨rfl, rfl⟩)
  rejection := ⟨400, by decide, isHead_parseSampleResponse_iff.mpr (.inr ⟨rfl, rfl⟩)⟩
  wantsMore front hfront hne head hhead := by
    have hno : ¬request sampleEndpoint <+: front :=
      fun h => hne (hfront.eq_of_length_le h.length_le)
    simp only [sampleSetup, parseSampleRequest, if_neg hno] at hhead
    cases hhead
    rfl
  complete head hhead := by
    simp only [sampleSetup, parseSampleRequest, List.prefix_rfl, if_true] at hhead
    cases hhead
    exact ⟨sampleRequest, rfl, by decide, rfl⟩

/-- An endpoint whose text is no target. -/
def rejectedSetup : Setup :=
  { sampleSetup with
    endpoint := .domain "::1" 80
    parseRequest := fun input =>
      if request (.domain "::1" 80) <+: input then .error "invalid URI" else .ok none }

lemma lawful_rejectedSetup : rejectedSetup.Lawful where
  parseResponse := lawful_sampleSetup.parseResponse
  response := lawful_sampleSetup.response
  rejection := lawful_sampleSetup.rejection
  wantsMore front hfront hne head hhead := by
    have hno : ¬request (.domain "::1" 80) <+: front :=
      fun h => hne (hfront.eq_of_length_le h.length_le)
    simp only [rejectedSetup, if_neg hno] at hhead
    cases hhead
    rfl
  complete head hhead := by
    simp only [rejectedSetup, List.prefix_rfl, if_true] at hhead
    cases hhead

/-- The bytes of the user all arrive, and the first byte of the target does not. A request that is
rejected fails. -/
theorem tunnel_faithful_first_byte_lost :
    (sampleSetup.Lawful ∧ ∃ s, ReflTransGen (Step sampleSetup) (start sampleSetup) s ∧
      Faithful sampleSetup s ∧ s.log.put = [22] ∧ s.log.took = [84] ∧
      Relay.bytesWritten .right s.log.relays = [83, 84]) ∧
    rejectedSetup.Lawful ∧ ∃ s, ReflTransGen (Step rejectedSetup) (start rejectedSetup) s ∧
      Faithful rejectedSetup s ∧
      s.client = .failed (refused (.domain "::1" 80) sampleRejection) := by
  have htaken : sampleSetup.parseRequest (request sampleSetup.endpoint)
      = .ok (some (sampleRequest, (request sampleEndpoint).length)) := by
    simp only [sampleSetup, parseSampleRequest, List.prefix_rfl, if_true]
  have hrejected : rejectedSetup.parseRequest (request rejectedSetup.endpoint)
      = .error "invalid URI" := by
    simp only [rejectedSetup, List.prefix_rfl, if_true]
  obtain ⟨s, hreaches, hput, htook, hwritten⟩ :=
    exists_first_byte_lost lawful_sampleSetup htaken 83 84 22
  obtain ⟨s', hreaches', hfailed⟩ := exists_failed lawful_rejectedSetup hrejected
  exact ⟨⟨lawful_sampleSetup, s, hreaches, tunnel_faithful lawful_sampleSetup hreaches, hput, htook,
    hwritten⟩, lawful_rejectedSetup, s', hreaches', tunnel_faithful lawful_rejectedSetup hreaches',
    hfailed⟩

end Dandelion.HttpProxy
