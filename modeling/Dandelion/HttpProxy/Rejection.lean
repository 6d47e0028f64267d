import Dandelion.HttpProxy.Invariant

/-!
# Rejected requests

The HTTP library of the acceptor may reject the request before any handler is called. Then only its
response comes back, or a part of it.
-/

namespace Dandelion.HttpProxy

open Net Relation Connector.HttpProxy

variable {S : Setup} {s t : Link}

/-- The library has rejected what it has read of the request. -/
def RejectedBy (S : Setup) : Prop :=
  ∃ front message, front <+: request S.endpoint ∧ S.parseRequest front = .error message

/-- The connector and the user of the tunnel after that. -/
def ClientRejected (S : Setup) (s : Link) : Prop :=
  match s.client with
  | .sending _     => s.log.responses = []
  | .waiting reads =>
    s.log.responses = reads ∧ (∀ f ∈ reads, f ≠ []) ∧ reads.flatten ≠ S.rejection
  | .tunnel        => s.server = .closed ∧ s.toClient = []
  | .failed e      => e = refused S.endpoint S.rejection
  | .gone          => True

/-- What holds of the two halves once the request is rejected: only the rejection comes back. -/
structure Rejected (S : Setup) (s : Link) : Prop where
  parse : RejectedBy S
  handler : s.log.handler = none
  took : s.log.took = []
  early : s.log.early = []
  relays : s.log.relays = []
  server : ∃ left, s.log.responses.flatten ++ s.toClient ++ left = S.rejection ∧
    (s.server = .rejecting left ∨ s.server = .closed)
  client : ClientRejected S s

lemma rejection_ne_nil (hS : S.Lawful) : S.rejection ≠ [] := by
  obtain ⟨code, -, hhead⟩ := hS.rejection
  exact hhead.ne_nil hS.parseResponse

/-- A connector that has read nothing. -/
lemma ClientOk.rejected (h : ClientOk S s) (hS : S.Lawful) (hnil : s.log.responses.flatten = [])
    (hopened : ¬Opened S s) (hclient : t.client = s.client)
    (hresponses : t.log.responses = s.log.responses) : ClientRejected S t := by
  rw [ClientOk] at h
  rw [ClientRejected, hclient, hresponses]
  cases hs : s.client with
  | sending left =>
    rw [hs] at h
    exact h.2.2
  | waiting reads =>
    rw [hs] at h
    obtain ⟨-, -, heq, hpart⟩ := h
    rw [heq] at hnil
    exact ⟨heq, hpart.nonempty, hnil ▸ (rejection_ne_nil hS).symm⟩
  | tunnel =>
    rw [hs] at h
    exact absurd h hopened
  | failed e =>
    rw [hs] at h
    exact h.elim
  | gone => trivial

lemma Inv.rejected (h : Inv S s) (hS : S.Lawful) {reads : List (List UInt8)}
    {f rest : List UInt8} {message : String} (hserver : s.server = .reading reads)
    (hbytes : s.toServer = f ++ rest)
    (hparse : S.parseRequest (reads ++ [f]).flatten = .error message) :
    Rejected S { s with server := .next S (reads ++ [f]), toServer := rest } := by
  have hhandler := h.server
  rw [ServerOk, hserver] at hhandler
  obtain ⟨hdown, hrelays, hearly⟩ := h.down.silent (by simp [hhandler])
  have hnothing := hdown
  rw [Link.down, List.append_eq_nil_iff, List.append_eq_nil_iff] at hnothing
  obtain ⟨⟨hresponses, htook⟩, hto⟩ := hnothing
  have hup := h.up
  rw [Up, hserver, hbytes] at hup
  rw [Server.next_of_error hparse]
  refine ⟨⟨_, message, ?_, hparse⟩, hhandler, htook, hearly, hrelays,
    ⟨S.rejection, by simp [hresponses, hto], .inl rfl⟩, ?_⟩
  · have hle := hup.2.1
    rw [← List.append_assoc] at hle
    simpa using (List.prefix_append _ rest).trans hle
  · refine h.client.rejected hS hresponses (fun hopened => ?_) rfl rfl
    have hresponse := hopened.response_prefix (by simp [hserver])
    exact h.not_reading hS hresponse reads hserver

/-- The acceptor does nothing but to write the rejection. -/
lemma Rejected.not_serving (h : Rejected S s) (hclosed : s.server ≠ .closed)
    (hrejecting : ∀ left, s.server ≠ .rejecting left) : False := by
  obtain ⟨left, -, hserver | hserver⟩ := h.server
  · exact hrejecting left hserver
  · exact hclosed hserver

/-- The connector does not see what the acceptor does, until it has closed the connection. -/
lemma ClientRejected.of_server (h : ClientRejected S s) (hserver : s.server ≠ .closed)
    (hclient : t.client = s.client) (hresponses : t.log.responses = s.log.responses) :
    ClientRejected S t := by
  rw [ClientRejected] at h ⊢
  rw [hclient, hresponses]
  split at h
  case h_1 => exact h
  case h_2 => exact h
  case h_3 => exact absurd h.1 hserver
  case h_4 => exact h
  case h_5 => trivial

lemma Rejected.response (h : Rejected S s) (hS : S.Lawful) {reads : List (List UInt8)}
    {f rest : List UInt8} (hf : f ≠ []) (hclient : s.client = .waiting reads)
    (hbytes : s.toClient = f ++ rest) :
    Rejected S
      { s with
        client := .next S (reads ++ [f])
        toClient := rest
        log := { s.log with responses := reads ++ [f] } } := by
  have hok := h.client
  rw [ClientRejected, hclient] at hok
  obtain ⟨hresponses, hnonempty, hne⟩ := hok
  obtain ⟨left, hleft, hserver⟩ := h.server
  have hdown : (reads ++ [f]).flatten ++ rest ++ left = S.rejection := by
    rw [← hleft, hresponses, hbytes]
    simp
  have hall : ∀ g ∈ reads ++ [f], g ≠ [] :=
    List.forall_mem_append.mpr ⟨hnonempty, List.forall_mem_singleton.mpr hf⟩
  refine ⟨h.parse, h.handler, h.took, h.early, h.relays, ⟨left, hdown, hserver⟩, ?_⟩
  rw [ClientRejected]
  by_cases hcomplete : (reads ++ [f]).flatten = S.rejection
  · rw [Client.next_of_rejection hS hall hcomplete]
  · obtain ⟨code, -, hhead⟩ := hS.rejection
    have hle : (reads ++ [f]).flatten <+: S.rejection := ⟨rest ++ left, by simpa using hdown⟩
    rw [Client.next_of_prefix hS hhead hall hle hcomplete]
    exact ⟨rfl, hall, hcomplete⟩

lemma Rejected.eof (h : Rejected S s) (hS : S.Lawful) {reads : List (List UInt8)}
    (hclient : s.client = .waiting reads) (hbytes : s.toClient = [])
    (hclosed : s.server = .closed) : Rejected S { s with client := .next S (reads ++ [[]]) } := by
  have hok := h.client
  rw [ClientRejected, hclient] at hok
  obtain ⟨hresponses, hnonempty, hne⟩ := hok
  obtain ⟨left, hleft, -⟩ := h.server
  obtain ⟨code, -, hhead⟩ := hS.rejection
  have hle : reads.flatten <+: S.rejection := ⟨left, by simpa [hresponses, hbytes] using hleft⟩
  refine ⟨h.parse, h.handler, h.took, h.early, h.relays, h.server, ?_⟩
  rw [ClientRejected, Client.next_eof hS hhead hnonempty hle hne]
  exact ⟨hclosed, hbytes⟩

lemma Rejected.take (h : Rejected S s) {f rest : List UInt8} (hclient : s.client = .tunnel)
    (hbytes : s.toClient = f ++ rest) :
    Rejected S { s with toClient := rest, log := { s.log with took := s.log.took ++ f } } := by
  have hok := h.client
  rw [ClientRejected, hclient] at hok
  obtain ⟨hclosed, hnothing⟩ := hok
  rw [hbytes, List.append_eq_nil_iff] at hnothing
  obtain ⟨rfl, rfl⟩ := hnothing
  refine ⟨h.parse, h.handler, by simp [h.took], h.early, h.relays, ?_, ?_⟩
  · simpa [hbytes] using h.server
  · rw [ClientRejected, hclient]
    exact ⟨hclosed, rfl⟩

lemma Rejected.reject (h : Rejected S s) {f left : List UInt8}
    (hserver : s.server = .rejecting (f ++ left)) :
    Rejected S { s with server := .rejecting left, toClient := s.toClient ++ f } := by
  obtain ⟨left', hleft, hserver'⟩ := h.server
  rw [hserver] at hserver'
  obtain rfl : f ++ left = left' := by simpa using hserver'
  refine ⟨h.parse, h.handler, h.took, h.early, h.relays, ⟨left, ?_, .inl rfl⟩,
    h.client.of_server (by simp [hserver]) rfl rfl⟩
  simpa using hleft

lemma Rejected.close (h : Rejected S s) {left : List UInt8} (hserver : s.server = .rejecting left) :
    Rejected S { s with server := .closed } := by
  obtain ⟨left', hleft, -⟩ := h.server
  exact ⟨h.parse, h.handler, h.took, h.early, h.relays, ⟨left', hleft, .inr rfl⟩,
    h.client.of_server (by simp [hserver]) rfl rfl⟩

lemma Rejected.step (h : Rejected S s) (hS : S.Lawful) (hstep : Step S s t) : Rejected S t := by
  have hclient := h.client
  rw [ClientRejected] at hclient
  cases hstep with
  | send f left hf hsending =>
    rw [hsending] at hclient
    exact ⟨h.parse, h.handler, h.took, h.early, h.relays, h.server, hclient⟩
  | sent hsending =>
    rw [hsending] at hclient
    exact ⟨h.parse, h.handler, h.took, h.early, h.relays, h.server, hclient, by simp,
      (rejection_ne_nil hS).symm⟩
  | response reads f rest hf hwaiting hbytes => exact h.response hS hf hwaiting hbytes
  | eof reads hwaiting hbytes hclosed => exact h.eof hS hwaiting hbytes hclosed
  | put f htunnel => exact ⟨h.parse, h.handler, h.took, h.early, h.relays, h.server, h.client⟩
  | take f rest htunnel hbytes => exact h.take htunnel hbytes
  | leave => exact ⟨h.parse, h.handler, h.took, h.early, h.relays, h.server, trivial⟩
  | reject f left hf hserver => exact h.reject hserver
  | rejected left hserver => exact h.close hserver
  | receive | noRequest | connected | refused | answer | early | answered | aborted | relayed
  | finished => exact (h.not_serving (by simp [*]) (by simp [*])).elim

end Dandelion.HttpProxy
