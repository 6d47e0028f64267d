import Dandelion.HttpProxy

/-!
# What holds while a tunnel is set up and used

Where the bytes of the request, of the response and of the tunnel are, in every state of the two
halves. Each step keeps it, unless the request is rejected.
-/

namespace Dandelion.HttpProxy

open Net Relation Connector.HttpProxy

variable {S : Setup} {s t : Link}

/-! ### The invariant -/

/-- The bytes of the request that are not written yet. -/
def Client.unsent : Client → List UInt8
  | .sending left => left
  | _             => []

/-- The connector has read the response, and `lost` along with its end. -/
structure Answered (S : Setup) (s : Link) (lost : List UInt8) : Prop where
  reads : ∃ first g, s.log.responses = first ++ [g ++ lost] ∧ g ≠ [] ∧
    first.flatten ++ g = S.response
  /-- The target has sent these bytes before it got any. -/
  unasked : ∃ before, before <+: s.log.relays ∧ Relay.bytesRead .left before = [] ∧
    lost <+: Relay.bytesWritten .right before

/-- The tunnel was opened by the end of the response, or by the end of the stream. -/
def Opened (S : Setup) (s : Link) : Prop :=
  (∃ lost, Answered S s lost) ∨ s.log.took = [] ∧ s.server = .closed ∧ s.toClient = []

/-- What the connector has read is a part of the response. -/
structure Partial (S : Setup) (reads : List (List UInt8)) : Prop where
  nonempty : ∀ f ∈ reads, f ≠ []
  le : reads.flatten <+: S.response
  ne : reads.flatten ≠ S.response

/-- The connector and the user of the tunnel. -/
def ClientOk (S : Setup) (s : Link) : Prop :=
  match s.client with
  | .sending _     => s.log.put = [] ∧ s.log.took = [] ∧ s.log.responses = []
  | .waiting reads => s.log.put = [] ∧ s.log.took = [] ∧ s.log.responses = reads ∧ Partial S reads
  | .tunnel        => Opened S s
  | .failed _      => False
  | .gone          => s.log.put = [] ∧ s.log.took = [] ∨ Opened S s

/-- The bytes to the acceptor. -/
def Up (S : Setup) (s : Link) : Prop :=
  match s.server with
  | .reading reads =>
    s.log.put = [] ∧ reads.flatten ++ s.toServer <+: request S.endpoint ∧
    reads.flatten ≠ request S.endpoint ∧
    (s.client ≠ .gone → reads.flatten ++ s.toServer ++ s.client.unsent = request S.endpoint)
  | _ =>
    s.client.unsent = [] ∧
    s.log.put = s.log.early ++ Relay.bytesRead .left s.log.relays ++ s.toServer

/-- The bytes that have left the acceptor. -/
def Link.down (s : Link) : List UInt8 := s.log.responses.flatten ++ s.log.took ++ s.toClient

/-- The bytes to the connector. -/
structure Down (S : Setup) (s : Link) : Prop where
  silent : s.log.handler ≠ some true → s.down = [] ∧ s.log.relays = [] ∧ s.log.early = []
  answer : s.log.relays = [] → s.down <+: S.response
  relay : s.log.relays ≠ [] → s.down = S.response ++ Relay.bytesWritten .right s.log.relays
  early : s.log.early ≠ [] → S.response <+: s.down
  runs : ∃ relay, Relay.Runs Engine.bufferSize s.log.relays relay

/-- The task of the acceptor. -/
def ServerOk (S : Setup) (s : Link) : Prop :=
  match s.server with
  | .reading _ => s.log.handler = none
  | .routing e readBuf =>
    s.log.handler = none ∧ readBuf = [] ∧ Endpoint.fromStr S.endpoint.display = .ok e
  | .answering e _ left =>
    s.log.handler = some true ∧ s.log.relays = [] ∧ s.down ++ left = S.response ∧
      Endpoint.fromStr S.endpoint.display = .ok e
  | .relaying e relay =>
    s.log.handler = some true ∧ Relay.Runs Engine.bufferSize s.log.relays relay ∧
      s.down = S.response ++ Relay.bytesWritten .right s.log.relays ∧
      Endpoint.fromStr S.endpoint.display = .ok e
  | .rejecting _ | .forwarding => False
  | .closed => True

/-- What holds of the two halves in every run, unless the request is rejected. -/
structure Inv (S : Setup) (s : Link) : Prop where
  client : ClientOk S s
  up : Up S s
  down : Down S s
  server : ServerOk S s

lemma request_ne_nil (e : Endpoint) : request e ≠ [] := by
  rw [request_eq]
  simp [show "CONNECT".utf8Bytes ≠ [] by decide]

lemma inv_start (S : Setup) : Inv S (start S) where
  client := ⟨rfl, rfl, rfl⟩
  up := ⟨rfl, List.nil_prefix, (request_ne_nil _).symm, fun _ => rfl⟩
  down := ⟨fun _ => ⟨rfl, rfl, rfl⟩, fun _ => List.nil_prefix, fun h => absurd rfl h,
    fun h => absurd rfl h, .new, .refl⟩
  server := rfl

/-! ### The steps of the connector -/

lemma unsent_next (S : Setup) (reads : List (List UInt8)) : (Client.next S reads).unsent = [] := by
  rw [Client.next]
  split <;> rfl

lemma Answered.flatten_responses {lost : List UInt8} (h : Answered S s lost) :
    s.log.responses.flatten = S.response ++ lost := by
  obtain ⟨first, g, hresponses, -, hresponse⟩ := h.reads
  simp [hresponses, ← hresponse]

lemma Opened.mono (h : Opened S s) (hresponses : t.log.responses = s.log.responses)
    (hrelays : s.log.relays <+: t.log.relays)
    (hclosed : s.log.took = [] → s.server = .closed → s.toClient = [] →
      t.log.took = [] ∧ t.server = .closed ∧ t.toClient = []) : Opened S t := by
  rcases h with ⟨lost, hreads, before, hbefore, hunasked⟩ | ⟨htook, hserver, hnothing⟩
  · exact .inl ⟨lost, hresponses ▸ hreads, before, hbefore.trans hrelays, hunasked⟩
  · exact .inr (hclosed htook hserver hnothing)

/-- Where a tunnel was opened by a response, the response has left the acceptor. -/
lemma Opened.response_prefix (h : Opened S s) (hserver : s.server ≠ .closed) :
    S.response <+: s.down := by
  rcases h with ⟨lost, hanswered⟩ | ⟨-, hclosed, -⟩
  · refine ⟨lost ++ s.log.took ++ s.toClient, ?_⟩
    simp [Link.down, hanswered.flatten_responses]
  · exact absurd hclosed hserver

/-- The tunnel carries something only after it was opened. -/
lemma ClientOk.fresh_or_opened (h : ClientOk S s) :
    s.log.put = [] ∧ s.log.took = [] ∨ Opened S s := by
  rw [ClientOk] at h
  split at h
  case h_1 => exact .inl ⟨h.1, h.2.1⟩
  case h_2 => exact .inl ⟨h.1, h.2.1⟩
  case h_3 => exact .inr h
  case h_4 => exact h.elim
  case h_5 => exact h

lemma ClientOk.opened (h : ClientOk S s) (hput : s.log.put ≠ []) : Opened S s :=
  h.fresh_or_opened.resolve_left fun hfresh => hput hfresh.1

/-- The acceptor does not see what the connector takes from the stream. -/
lemma Inv.of_client (h : Inv S s) (hserver : t.server = s.server) (hdown : t.down = s.down)
    (hhandler : t.log.handler = s.log.handler) (hearly : t.log.early = s.log.early)
    (hrelays : t.log.relays = s.log.relays) (hclient : ClientOk S t) (hup : Up S t) : Inv S t where
  client := hclient
  up := hup
  down := by
    obtain ⟨hsilent, hanswer, hrelay, hearly', hruns⟩ := h.down
    constructor <;> simp only [hdown, hhandler, hearly, hrelays] <;> assumption
  server := by
    have hok := h.server
    rw [ServerOk] at hok ⊢
    rw [hserver, hdown, hhandler, hrelays]
    exact hok

/-- The bytes that have left the acceptor, and the response. -/
lemma Down.prefix_or_prefix (h : Down S s) {front : List UInt8} (hfront : front <+: s.down) :
    front <+: S.response ∨ S.response <+: front := by
  by_cases hrelays : s.log.relays = []
  · exact .inl (hfront.trans (h.answer hrelays))
  · rw [h.relay hrelays] at hfront
    exact List.prefix_or_prefix_of_prefix hfront (List.prefix_append _ _)

/-- Behind the response are the bytes of the target. -/
lemma Down.bytesWritten_eq (h : Down S s) {bytes : List UInt8}
    (hdown : s.down = S.response ++ bytes) :
    Relay.bytesWritten .right s.log.relays = bytes := by
  by_cases hrelays : s.log.relays = []
  · have hle := h.answer hrelays
    rw [hdown] at hle
    obtain ⟨more, hmore⟩ := hle
    rw [List.append_assoc, List.append_right_eq_self, List.append_eq_nil_iff] at hmore
    rw [hrelays, hmore.1]
    rfl
  · have heq := h.relay hrelays
    rw [hdown] at heq
    exact (List.append_cancel_left heq).symm

/-- While the acceptor reads the request no response has left it. -/
lemma Inv.not_reading (h : Inv S s) (hS : S.Lawful) (hresponse : S.response <+: s.down)
    (reads : List (List UInt8)) : s.server ≠ .reading reads := by
  intro hserver
  have hok := h.server
  rw [ServerOk, hserver] at hok
  rw [(h.down.silent (by simp [hok])).1, List.prefix_nil] at hresponse
  exact hS.response.ne_nil hS.parseResponse hresponse

/-- Before the user has put anything into the tunnel the target gets nothing. -/
lemma Inv.bytesRead_eq_nil (h : Inv S s) (hS : S.Lawful) (hresponse : S.response <+: s.down)
    (hput : s.log.put = []) : Relay.bytesRead .left s.log.relays = [] := by
  have hup := h.up
  rw [Up] at hup
  split at hup
  case h_1 reads hserver => exact absurd hserver (h.not_reading hS hresponse reads)
  case h_2 =>
    rw [hput] at hup
    exact (List.append_eq_nil_iff.mp (List.append_eq_nil_iff.mp hup.2.symm).1).2

lemma Inv.send (h : Inv S s) {f left : List UInt8} (hf : f ≠ [])
    (hclient : s.client = .sending (f ++ left)) :
    Inv S { s with client := .sending left, toServer := s.toServer ++ f } := by
  refine h.of_client rfl rfl rfl rfl rfl ?_ ?_
  · have hok := h.client
    rw [ClientOk, hclient] at hok
    exact hok
  · have hup := h.up
    rw [Up, hclient] at hup
    rw [Up]
    cases hserver : s.server with
    | reading reads =>
      rw [hserver] at hup
      obtain ⟨hput, -, hne, heq⟩ := hup
      have hwhole := heq (by simp)
      simp only [Client.unsent] at hwhole ⊢
      refine ⟨hput, ⟨left, by simpa using hwhole⟩, hne, fun _ => by simpa using hwhole⟩
    | rejecting | routing | answering | relaying | forwarding | closed =>
      rw [hserver] at hup
      exact absurd (List.append_eq_nil_iff.mp hup.1).1 hf

/-- Steps of the connector that write nothing. -/
lemma Up.of_client (h : Up S s) (hserver : t.server = s.server) (hto : t.toServer = s.toServer)
    (hput : t.log.put = s.log.put) (hearly : t.log.early = s.log.early)
    (hrelays : t.log.relays = s.log.relays) (hunsent : t.client.unsent = [])
    (hstays : t.client ≠ .gone → s.client ≠ .gone ∧ s.client.unsent = []) : Up S t := by
  rw [Up] at h ⊢
  rw [hserver, hto, hput, hearly, hrelays, hunsent]
  split at h
  case h_1 =>
    obtain ⟨hput, hle, hne, heq⟩ := h
    refine ⟨hput, hle, hne, fun h => ?_⟩
    obtain ⟨hgone, hnothing⟩ := hstays h
    rw [← hnothing]
    exact heq hgone
  case h_2 => exact ⟨rfl, h.2⟩

lemma Inv.sent (h : Inv S s) (hS : S.Lawful) (hclient : s.client = .sending []) :
    Inv S { s with client := .waiting [] } := by
  refine h.of_client rfl rfl rfl rfl rfl ?_ ?_
  · have hok := h.client
    rw [ClientOk, hclient] at hok
    obtain ⟨hput, htook, hresponses⟩ := hok
    exact ⟨hput, htook, hresponses, by simp, List.nil_prefix,
      (hS.response.ne_nil hS.parseResponse).symm⟩
  · exact h.up.of_client rfl rfl rfl rfl rfl rfl fun _ => by simp [hclient, Client.unsent]

lemma Inv.response (h : Inv S s) (hS : S.Lawful) {reads : List (List UInt8)}
    {f rest : List UInt8} (hf : f ≠ []) (hclient : s.client = .waiting reads)
    (hbytes : s.toClient = f ++ rest) :
    Inv S
      { s with
        client := .next S (reads ++ [f])
        toClient := rest
        log := { s.log with responses := reads ++ [f] } } := by
  have hok := h.client
  rw [ClientOk, hclient] at hok
  obtain ⟨hput, htook, hresponses, hpart⟩ := hok
  have hdown : s.down = (reads ++ [f]).flatten ++ rest := by
    simp [Link.down, hresponses, htook, hbytes]
  have hall : ∀ g ∈ reads ++ [f], g ≠ [] :=
    List.forall_mem_append.mpr ⟨hpart.nonempty, List.forall_mem_singleton.mpr hf⟩
  refine h.of_client rfl ?_ rfl rfl rfl ?_ ?_
  · rw [hdown, Link.down, htook, List.append_nil]
  · rw [ClientOk]
    by_cases hcomplete : S.response <+: (reads ++ [f]).flatten
    · -- this read has brought the end of the response
      rw [Client.next_of_response hS hall hcomplete]
      obtain ⟨lost, hlost⟩ := hcomplete
      obtain ⟨g, hg⟩ := hpart.le
      have hsplit : f = g ++ lost := by
        rw [← hg, List.flatten_append, List.append_assoc] at hlost
        simpa using (List.append_cancel_left hlost).symm
      have hg' : g ≠ [] := by
        rintro rfl
        exact hpart.ne (by simpa using hg)
      rw [← hlost, List.append_assoc] at hdown
      refine .inl ⟨lost, ⟨reads, g, by rw [← hsplit], hg', hg⟩, s.log.relays, List.prefix_rfl,
        h.bytesRead_eq_nil hS ⟨_, hdown.symm⟩ hput, ?_⟩
      rw [h.down.bytesWritten_eq hdown]
      exact List.prefix_append _ _
    · have hle : (reads ++ [f]).flatten <+: S.response :=
        (h.down.prefix_or_prefix ⟨rest, hdown.symm⟩).resolve_right hcomplete
      have hne : (reads ++ [f]).flatten ≠ S.response :=
        fun heq => hcomplete (heq ▸ List.prefix_rfl)
      rw [Client.next_of_prefix hS hS.response hall hle hne]
      exact ⟨hput, htook, rfl, hall, hle, hne⟩
  · exact h.up.of_client rfl rfl rfl rfl rfl (unsent_next _ _)
      fun _ => by simp [hclient, Client.unsent]

lemma Inv.eof (h : Inv S s) (hS : S.Lawful) {reads : List (List UInt8)}
    (hclient : s.client = .waiting reads) (hbytes : s.toClient = [])
    (hclosed : s.server = .closed) : Inv S { s with client := .next S (reads ++ [[]]) } := by
  have hok := h.client
  rw [ClientOk, hclient] at hok
  obtain ⟨hput, htook, hresponses, hpart⟩ := hok
  refine h.of_client rfl rfl rfl rfl rfl ?_ ?_
  · rw [Client.next_eof hS hS.response hpart.nonempty hpart.le hpart.ne]
    exact .inr ⟨htook, hclosed, hbytes⟩
  · exact h.up.of_client rfl rfl rfl rfl rfl (unsent_next _ _)
      fun _ => by simp [hclient, Client.unsent]

lemma Inv.put (h : Inv S s) (hS : S.Lawful) (hclient : s.client = .tunnel) (f : List UInt8) :
    Inv S { s with toServer := s.toServer ++ f, log := { s.log with put := s.log.put ++ f } } := by
  have hopened : Opened S s := by
    have hok := h.client
    rwa [ClientOk, hclient] at hok
  refine h.of_client rfl rfl rfl rfl rfl ?_ ?_
  · rw [ClientOk, hclient]
    exact hopened.mono rfl List.prefix_rfl fun htook hclosed hnothing => ⟨htook, hclosed, hnothing⟩
  · have hup := h.up
    rw [Up] at hup ⊢
    split at hup
    case h_1 reads hserver =>
      have hresponse := hopened.response_prefix (by simp [hserver])
      exact absurd hserver (h.not_reading hS hresponse reads)
    case h_2 =>
      obtain ⟨hunsent, hput⟩ := hup
      exact ⟨hunsent, by simp [hput]⟩

lemma Inv.take (h : Inv S s) {f rest : List UInt8} (hclient : s.client = .tunnel)
    (hbytes : s.toClient = f ++ rest) :
    Inv S { s with toClient := rest, log := { s.log with took := s.log.took ++ f } } := by
  refine h.of_client rfl ?_ rfl rfl rfl ?_ ?_
  · simp [Link.down, hbytes]
  · have hok := h.client
    rw [ClientOk, hclient] at hok ⊢
    refine Opened.mono hok rfl List.prefix_rfl fun htook hclosed hnothing => ?_
    rw [hbytes, List.append_eq_nil_iff] at hnothing
    exact ⟨by simp [htook, hnothing.1], hclosed, hnothing.2⟩
  · exact h.up.of_client rfl rfl rfl rfl rfl (by simp [hclient, Client.unsent])
      fun _ => by simp [hclient, Client.unsent]

lemma Inv.leave (h : Inv S s) : Inv S { s with client := .gone } := by
  refine h.of_client rfl rfl rfl rfl rfl ?_ ?_
  · rcases h.client.fresh_or_opened with hfresh | hopened
    · exact .inl hfresh
    · exact .inr (hopened.mono rfl List.prefix_rfl fun htook hclosed hnothing =>
        ⟨htook, hclosed, hnothing⟩)
  · exact h.up.of_client rfl rfl rfl rfl rfl rfl fun h => absurd rfl h

/-! ### The steps of the acceptor -/

/-- The connector does not see what the acceptor does, until it has closed the connection. -/
lemma ClientOk.of_server (h : ClientOk S s) (hserver : s.server ≠ .closed)
    (hclient : t.client = s.client) (hput : t.log.put = s.log.put)
    (htook : t.log.took = s.log.took) (hresponses : t.log.responses = s.log.responses)
    (hrelays : s.log.relays <+: t.log.relays) : ClientOk S t := by
  have hopened (h : Opened S s) : Opened S t :=
    h.mono hresponses hrelays fun _ hclosed _ => absurd hclosed hserver
  rw [ClientOk] at h ⊢
  rw [hclient, hput, htook, hresponses]
  split at h
  case h_1 => exact h
  case h_2 => exact h
  case h_3 => exact hopened h
  case h_4 => exact h
  case h_5 => exact h.imp_right hopened

/-- Only what leaves the acceptor matters. -/
lemma Down.of_eq (h : Down S s) (hlog : t.log = s.log) (hto : t.toClient = s.toClient) :
    Down S t := by
  have hdown : t.down = s.down := by rw [Link.down, Link.down, hlog, hto]
  obtain ⟨hsilent, hanswer, hrelay, hearly, hruns⟩ := h
  constructor <;> simp only [hdown, hlog] <;> assumption

/-- A read of which the library rejects nothing. -/
lemma Inv.receive (h : Inv S s) (hS : S.Lawful) {reads : List (List UInt8)}
    {f rest : List UInt8} {head : Option (Acceptor.HttpProxy.Request × ℕ)}
    (hserver : s.server = .reading reads) (hbytes : s.toServer = f ++ rest)
    (hparse : S.parseRequest (reads ++ [f]).flatten = .ok head) :
    Inv S { s with server := .next S (reads ++ [f]), toServer := rest } := by
  have hok := h.server
  rw [ServerOk, hserver] at hok
  have hup := h.up
  rw [Up, hserver, hbytes] at hup
  obtain ⟨hput, hle, hne, heq⟩ := hup
  have hflat : reads.flatten ++ (f ++ rest) = (reads ++ [f]).flatten ++ rest := by simp
  rw [hflat] at hle heq
  have hclient : ∀ server, ClientOk S { s with server := server, toServer := rest } := by
    intro server
    exact h.client.of_server (by simp [hserver]) rfl rfl rfl rfl List.prefix_rfl
  have hfront : (reads ++ [f]).flatten <+: request S.endpoint := (List.prefix_append _ _).trans hle
  by_cases hrequest : (reads ++ [f]).flatten = request S.endpoint
  · obtain ⟨e, he, -⟩ := exists_fromStr_display S.endpoint
    rw [Server.next_of_request hS hparse hrequest he]
    have hrest : rest = [] := by
      rw [hrequest] at hle
      obtain ⟨more, hmore⟩ := hle
      rw [List.append_assoc, List.append_right_eq_self, List.append_eq_nil_iff] at hmore
      exact hmore.1
    have hunsent : s.client.unsent = [] := by
      by_cases hgone : s.client = .gone
      · rw [hgone]
        rfl
      · have hwhole := heq hgone
        rw [hrequest, List.append_assoc, List.append_right_eq_self, List.append_eq_nil_iff]
          at hwhole
        exact hwhole.2
    obtain ⟨-, hrelays, hearly⟩ := h.down.silent (by simp [hok])
    refine ⟨hclient _, ⟨hunsent, ?_⟩, h.down.of_eq rfl rfl, hok, rfl, he⟩
    simp [hput, hrelays, hearly, hrest]
  · rw [Server.next_of_prefix hS hparse hfront hrequest]
    exact ⟨hclient _, ⟨hput, hle, hrequest, heq⟩, h.down.of_eq rfl rfl, hok⟩

/-- The acceptor closes the connection. -/
lemma Inv.close (h : Inv S s) (hserver : s.server ≠ .closed) (hread : ∀ reads,
      s.server = .reading reads → s.client = .gone ∧ s.toServer = []) :
    Inv S { s with server := .closed } := by
  refine ⟨h.client.of_server hserver rfl rfl rfl rfl List.prefix_rfl, ?_, h.down.of_eq rfl rfl,
    trivial⟩
  have hup := h.up
  rw [Up] at hup
  split at hup
  case h_1 reads hreading =>
    obtain ⟨hgone, hnothing⟩ := hread reads hreading
    have hok := h.server
    rw [ServerOk, hreading] at hok
    obtain ⟨-, hrelays, hearly⟩ := h.down.silent (by simp [hok])
    refine ⟨by simp [hgone, Client.unsent], ?_⟩
    simp [hup.1, hrelays, hearly, hnothing]
  case h_2 => exact hup

lemma Inv.connected (h : Inv S s) {e : Endpoint} {readBuf : List UInt8}
    (hserver : s.server = .routing e readBuf) :
    Inv S
      { s with
        server := .answering e readBuf S.response
        log := { s.log with handler := some true } } := by
  have hok := h.server
  rw [ServerOk, hserver] at hok
  obtain ⟨hhandler, -, he⟩ := hok
  obtain ⟨hdown, hrelays, hearly⟩ := h.down.silent (by simp [hhandler])
  have hup := h.up
  rw [Up, hserver] at hup
  refine ⟨h.client.of_server (by simp [hserver]) rfl rfl rfl rfl List.prefix_rfl, hup,
    ⟨fun h => absurd rfl h, h.down.answer, h.down.relay, h.down.early, h.down.runs⟩, rfl, hrelays,
    ?_, he⟩
  exact congrArg (· ++ S.response) hdown

lemma Inv.refused (h : Inv S s) {e : Endpoint} {readBuf : List UInt8}
    (hserver : s.server = .routing e readBuf) :
    Inv S { s with server := .closed, log := { s.log with handler := some false } } := by
  have hok := h.server
  rw [ServerOk, hserver] at hok
  have hsilent := h.down.silent (by simp [hok.1])
  have hup := h.up
  rw [Up, hserver] at hup
  exact ⟨h.client.of_server (by simp [hserver]) rfl rfl rfl rfl List.prefix_rfl, hup,
    ⟨fun _ => hsilent, h.down.answer, h.down.relay, h.down.early, h.down.runs⟩, trivial⟩

lemma Inv.answer (h : Inv S s) {e : Endpoint} {readBuf f left : List UInt8}
    (hserver : s.server = .answering e readBuf (f ++ left)) :
    Inv S { s with server := .answering e readBuf left, toClient := s.toClient ++ f } := by
  have hok := h.server
  rw [ServerOk, hserver] at hok
  obtain ⟨hhandler, hrelays, hresponse, he⟩ := hok
  have hdown : Link.down { s with
      server := .answering e readBuf left, toClient := s.toClient ++ f } = s.down ++ f := by
    simp [Link.down]
  have hup := h.up
  rw [Up, hserver] at hup
  refine ⟨h.client.of_server (by simp [hserver]) rfl rfl rfl rfl List.prefix_rfl, hup,
    ⟨?_, ?_, ?_, ?_, h.down.runs⟩, hhandler, hrelays, ?_, he⟩
  · exact fun h => absurd hhandler h
  · intro _
    rw [hdown]
    exact ⟨left, by simpa using hresponse⟩
  · exact fun h => absurd hrelays h
  · intro hearly
    rw [hdown]
    exact (h.down.early hearly).trans (List.prefix_append _ _)
  · rw [hdown]
    simpa using hresponse

lemma Inv.early (h : Inv S s) {e : Endpoint} {readBuf left f rest : List UInt8} (hf : f ≠ [])
    (hserver : s.server = .answering e readBuf left) (hbytes : s.toServer = f ++ rest) :
    Inv S
      { s with
        server := .answering e (readBuf ++ f) left
        toServer := rest
        log := { s.log with early := s.log.early ++ f } } := by
  have hok := h.server
  rw [ServerOk, hserver] at hok
  obtain ⟨hhandler, hrelays, hresponse, he⟩ := hok
  have hup := h.up
  rw [Up, hserver, hbytes] at hup
  obtain ⟨hunsent, hput⟩ := hup
  refine ⟨h.client.of_server (by simp [hserver]) rfl rfl rfl rfl List.prefix_rfl, ⟨hunsent, ?_⟩,
    ⟨fun h => absurd hhandler h, h.down.answer, h.down.relay, fun _ => ?_, h.down.runs⟩,
    hhandler, hrelays, hresponse, he⟩
  · simpa [hrelays] using hput
  · -- what is read here was put into the tunnel
    have hopened := h.client.opened (by simp [hput, hf])
    exact hopened.response_prefix (by simp [hserver])

lemma Inv.answered (h : Inv S s) {e : Endpoint} {readBuf : List UInt8}
    (hserver : s.server = .answering e readBuf []) :
    Inv S { s with server := .relaying e .new } := by
  have hok := h.server
  rw [ServerOk, hserver] at hok
  obtain ⟨hhandler, hrelays, hresponse, he⟩ := hok
  have hup := h.up
  rw [Up, hserver] at hup
  refine ⟨h.client.of_server (by simp [hserver]) rfl rfl rfl rfl List.prefix_rfl, hup,
    h.down.of_eq rfl rfl, hhandler, ?_, ?_, he⟩
  · rw [hrelays]
    exact .refl
  · simpa [hrelays, Link.down] using hresponse

lemma Inv.relayed (h : Inv S s) {e : Endpoint} {relay relay' : Relay} {a : Relay.Act}
    {rest : List UInt8} (hserver : s.server = .relaying e relay)
    (hstep : relay.Step Engine.bufferSize a relay')
    (hbytes : s.toServer = a.bytesRead .left ++ rest) :
    Inv S
      { s with
        server := .relaying e relay'
        toServer := rest
        toClient := s.toClient ++ a.bytesWritten .right
        log := { s.log with relays := s.log.relays ++ [a] } } := by
  have hok := h.server
  rw [ServerOk, hserver] at hok
  obtain ⟨hhandler, hruns, hdown, he⟩ := hok
  have hup := h.up
  rw [Up, hserver, hbytes] at hup
  obtain ⟨hunsent, hput⟩ := hup
  have hdown' : Link.down { s with
      server := .relaying e relay'
      toServer := rest
      toClient := s.toClient ++ a.bytesWritten .right
      log := { s.log with relays := s.log.relays ++ [a] } }
        = S.response ++ Relay.bytesWritten .right (s.log.relays ++ [a]) := by
    rw [Relay.bytesWritten_append, Relay.bytesWritten_singleton, ← List.append_assoc, ← hdown]
    simp [Link.down]
  refine ⟨h.client.of_server (by simp [hserver]) rfl rfl rfl rfl (List.prefix_append _ _),
    ⟨hunsent, ?_⟩, ⟨fun h => absurd hhandler h, fun h => ?_, fun _ => hdown', fun _ => ?_, relay',
      hruns.tail hstep⟩, hhandler, hruns.tail hstep, hdown', he⟩
  · simpa using hput
  · simp at h
  · rw [hdown']
    exact List.prefix_append _ _

end Dandelion.HttpProxy
