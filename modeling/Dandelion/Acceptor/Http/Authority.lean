import Dandelion.Acceptor.Http

/-!
# Where requests are forwarded to

The acceptor derives the endpoint of a request from the host of its URI alone and takes port 80,
so the requests that go where the client asked are those whose URI has no other port.
-/

namespace Dandelion.Acceptor.HttpProxy

open Net Http

/-! ### The endpoint for a host -/

lemma bracket_not_mem_digits {ds : List Char} (hds : ∀ c ∈ ds, isDigit 10 c = true) :
    ']' ∉ ds := by
  intro hmem
  exact absurd (hds ']' hmem) (by decide)

lemma parseU16_eq_none {cs : List Char} (h : ']' ∈ cs) : parseU16 cs = none := by
  have hnone {ds : List Char} (hds : ']' ∈ ds) : ds.all (isDigit 10) = false := by
    by_contra hall
    rw [Bool.not_eq_false, List.all_eq_true] at hall
    exact bracket_not_mem_digits hall hds
  unfold parseU16
  split
  case h_1 ds =>
    have hds : ']' ∈ ds := by simpa using h
    simp [hnone hds]
  case h_2 => simp [hnone h]

/-- What stands behind a colon in a bracketed host ends with the bracket. -/
lemma bracket_mem_of_suffix {inner back : List Char}
    (h : ':' :: back <:+ '[' :: (inner ++ [']'])) : ']' ∈ back := by
  obtain ⟨front, heq⟩ := h
  have hlast : (':' :: back).getLast? = some ']' :=
    calc (':' :: back).getLast?
      _ = (front ++ ':' :: back).getLast? := by
        simp [List.getLast?_append, List.getLast?_cons]
      _ = ('[' :: (inner ++ [']'])).getLast? := by rw [heq]
      _ = some ']' := by rw [← List.cons_append, List.getLast?_concat]
  simpa using List.mem_of_getLast? hlast

/-- A host alone is no socket address. -/
lemma parse_host (host : Host) : SocketAddr.parse (String.ofList host.text) = none := by
  by_contra hne
  obtain ⟨a, ha⟩ := Option.ne_none_iff_exists'.mp hne
  rw [SocketAddr.parse, String.toList_ofList] at ha
  obtain ⟨ds, hds, -, hsuffix, -⟩ := of_readSocketAddr (of_parseWith ha)
  rw [List.append_nil] at hsuffix
  rcases host.valid with hcolon | ⟨inner, htext⟩
  · exact hcolon (hsuffix.subset List.mem_cons_self)
  · rw [htext] at hsuffix
    exact bracket_not_mem_digits hds (bracket_mem_of_suffix hsuffix)

/-- A host alone is no endpoint, for want of a port. -/
lemma fromStr_host (host : Host) :
    ∃ message, Endpoint.fromStr (String.ofList host.text) = .error message := by
  unfold Endpoint.fromStr
  rw [parse_host, String.toList_ofList]
  dsimp only
  split
  case h_1 => exact ⟨_, rfl⟩
  case h_2 front back hsplit =>
    have hback : parseU16 back = none := by
      have htext := of_rsplitOnce hsplit
      rcases host.valid with hcolon | ⟨inner, hinner⟩
      · exact absurd (by simp [htext]) hcolon
      · have hsuffix : ':' :: back <:+ '[' :: (inner ++ [']']) := by
          rw [← hinner, htext]
          exact List.suffix_append _ _
        exact parseU16_eq_none (bracket_mem_of_suffix hsuffix)
    rw [hback]
    exact ⟨_, rfl⟩

lemma endpointOf_eq (host : Host) :
    endpointOf host = Endpoint.fromStr (String.ofList (host.text ++ [':', '8', '0'])) := by
  obtain ⟨message, herror⟩ := fromStr_host host
  unfold endpointOf
  generalize Endpoint.fromStr (String.ofList (host.text ++ [':', '8', '0'])) = r
  rw [herror]

/-- The endpoint has port 80, and it has the host: by name, or as the address it stands for. -/
lemma of_endpointOf {host : Host} {e : Endpoint} (h : endpointOf host = .ok e) :
    e.port = 80 ∧ (e.hostname = String.ofList host.text ∨
      ∃ a, e = .addr a ∧
        SocketAddr.parse (String.ofList (host.text ++ ':' :: ['8', '0'])) = some a) := by
  rw [endpointOf_eq] at h
  rcases Endpoint.fromStr_eq_ok_iff.mp h with
    ⟨a, hparse, rfl⟩ | ⟨-, name, back, port, hname, hback, rfl⟩
  · refine ⟨?_, .inr ⟨a, rfl, hparse⟩⟩
    have hport : a.port = UInt16.ofNat (ofDigits 10 ['8', '0']) :=
      SocketAddr.port_of_parse (by decide) hparse
    exact hport.trans (by decide)
  · have hsplit : rsplitOnce ':' (host.text ++ [':', '8', '0']) = some (host.text, ['8', '0']) :=
      rsplitOnce_append (by decide)
    have hport : parseU16 ['8', '0'] = some 80 := by decide
    rw [String.toList_ofList, hsplit] at hname
    cases hname
    rw [hport] at hback
    cases hback
    exact ⟨rfl, .inl rfl⟩

/-- The endpoint is what the URI names: it has its port, 80 by default, and its host, by name or
as the address that the host stands for. -/
def Uri.Names (uri : Uri) (e : Endpoint) : Prop :=
  ∃ host, uri.host = some host ∧ e.port = uri.port.getD 80 ∧
    (e.hostname = String.ofList host.text ∨
      ∃ a, e = .addr a ∧ SocketAddr.parse
        (String.ofList (host.text ++ ':' :: dec (uri.port.getD 80).toNat)) = some a)

lemma Uri.names_iff {uri : Uri} {host : Host} {e : Endpoint} (hhost : uri.host = some host)
    (he : endpointOf host = .ok e) : uri.Names e ↔ uri.port.getD 80 = 80 := by
  obtain ⟨hport, hname⟩ := of_endpointOf he
  constructor
  · rintro ⟨host', -, hasked, -⟩
    rw [← hasked, hport]
  · intro hasked
    refine ⟨host, hhost, hport.trans hasked.symm, ?_⟩
    have hdec : dec (UInt16.toNat 80) = ['8', '0'] := by decide
    rw [hasked, hdec]
    exact hname

/-! ### One request -/

section

variable {parseUri : String → Option Uri} {c : Connection} {request : Request} {s : Surroundings}
  {e : Endpoint}

/-- What a request can do to a connection, and what is sent upstream for it. -/
inductive Handled (parseUri : String → Option Uri) (c : Connection) (request : Request) :
    Connection → Option Request → Prop
  | refused : Handled parseUri c request c none
  | spent {delivered : Option (Bool × Endpoint)} (hc : c.state = .notConnected true) :
      Handled parseUri c request ⟨.notConnected false, delivered⟩ none
  | first {host : Host} {e : Endpoint} {sent : Request} (hc : c.state = .notConnected true)
      (hhost : request.uri.host = some host) (he : endpointOf host = .ok e)
      (hsent : transformProxyRequest parseUri request = some sent) :
      Handled parseUri c request ⟨.connected e, some (false, e)⟩ (some sent)
  | next {host : Host} {e : Endpoint} {sent : Request} (hc : c.state = .connected e)
      (hhost : request.uri.host = some host) (he : endpointOf host = .ok e)
      (hsent : transformProxyRequest parseUri request = some sent) :
      Handled parseUri c request c (some sent)

lemma handleConnect_handled :
    Handled parseUri c request (handleConnect c request s).1
      (handleConnect c request s).2.forwarded := by
  unfold handleConnect
  split
  case h_2 => exact .refused
  case h_1 hc =>
    dsimp only
    split
    · exact .spent hc
    · split
      · split <;> exact .spent hc
      · exact .spent hc

lemma handleFirst_handled (hc : c.state = .notConnected true) :
    Handled parseUri c request (handleFirst parseUri c request s).1
      (handleFirst parseUri c request s).2.forwarded := by
  unfold handleFirst
  dsimp only
  split
  case h_1 => exact .spent hc
  case h_2 host hhost =>
    split
    case h_1 => exact .spent hc
    case h_2 e he =>
      split
      case isFalse => exact .spent hc
      case isTrue =>
        split
        case h_1 => exact .spent hc
        case h_2 => exact .spent hc
        case h_3 =>
          split
          case h_1 => exact .spent hc
          case h_2 sent hsent => exact .first hc hhost he hsent

lemma handleNext_handled (hc : c.state = .connected e) :
    Handled parseUri c request (handleNext parseUri c e request s).1
      (handleNext parseUri c e request s).2.forwarded := by
  unfold handleNext
  split
  case h_1 => exact .refused
  case h_2 host hhost =>
    split
    case h_1 => exact .refused
    case h_2 e' he =>
      split
      case isFalse => exact .refused
      case isTrue heq =>
        subst heq
        split
        case h_1 => exact .refused
        case h_2 sent hsent =>
          split
          case h_1 => exact .refused
          case h_2 => exact .next hc hhost he hsent

lemma handler_handled :
    Handled parseUri c request (handler parseUri c request s).1
      (handler parseUri c request s).2.forwarded := by
  unfold handler
  split
  case isTrue => exact handleConnect_handled
  case isFalse =>
    split
    case h_1 hc => exact handleFirst_handled hc
    case h_2 => exact .refused
    case h_3 e hc => exact handleNext_handled hc

/-- The endpoint of a connection is the one that was handed to the caller of the handshake. -/
def Connection.Served (c : Connection) : Prop :=
  ∀ e, c.state = .connected e → c.delivered = some (false, e)

variable {c' : Connection} {sent : Option Request}

lemma Handled.served (h : Handled parseUri c request c' sent) (hc : c.Served) : c'.Served := by
  cases h with
  | refused => exact hc
  | spent =>
    intro e he
    cases he
  | first =>
    intro e he
    cases he
    rfl
  | next => exact hc

/-- Once connected, a connection stays as it is. -/
lemma Handled.eq_of_connected (h : Handled parseUri c request c' sent)
    (hc : c.state = .connected e) : c' = c := by
  cases h with
  | refused => rfl
  | spent hfirst =>
    rw [hc] at hfirst
    cases hfirst
  | first hfirst =>
    rw [hc] at hfirst
    cases hfirst
  | next => rfl

/-- A request that is forwarded goes to the endpoint derived from its host. -/
lemma Handled.of_isSome (h : Handled parseUri c request c' sent) (hsent : sent.isSome)
    (hc : c.Served) :
    ∃ host e, request.uri.host = some host ∧ endpointOf host = .ok e ∧
      c'.state = .connected e ∧ c'.delivered = some (false, e) := by
  cases h with
  | refused => cases hsent
  | spent => cases hsent
  | first _ hhost he => exact ⟨_, _, hhost, he, rfl, rfl⟩
  | next hstate hhost he => exact ⟨_, _, hhost, he, hstate, hc _ hstate⟩

end

/-! ### Runs -/

section

variable {parseUri : String → Option Uri} {inputs : List (Request × Surroundings)}
  {t : Machine.Transition Connection (Request × Surroundings) Answer}

lemma run_of_connected {c : Connection} {e : Endpoint} (hc : c.state = .connected e) :
    (machine parseUri).run c inputs = c := by
  refine (machine parseUri).run_invariant (P := fun c' => c' = c) ?_ rfl inputs
  rintro c' i rfl
  exact handler_handled.eq_of_connected hc

lemma served_before (ht : t ∈ (machine parseUri).transitions .new inputs) : t.before.Served := by
  have hstep : ∀ c i, c.Served → True → ((machine parseUri).step c i).1.Served := by
    intro c i hc _
    exact handler_handled.served hc
  have hnew : Connection.new.Served := by
    intro e he
    cases he
  exact ((machine parseUri).guarded_invariant hstep hnew fun _ _ => trivial).1 t ht

/-- In every run, the connection of a forwarded request was opened to the endpoint derived from
the host of its URI. -/
lemma delivered_of_forwarded (ht : t ∈ (machine parseUri).transitions .new inputs)
    (hforwarded : t.answer.forwarded.isSome) :
    ∃ host e, t.input.1.uri.host = some host ∧ endpointOf host = .ok e ∧
      ((machine parseUri).run .new inputs).delivered = some (false, e) := by
  have hhandled : Handled parseUri t.before t.input.1 t.after t.answer.forwarded := by
    rw [(machine parseUri).after_of_mem_transitions ht,
      (machine parseUri).answer_of_mem_transitions ht]
    exact handler_handled
  obtain ⟨host, e, hhost, he, hstate, hdelivered⟩ :=
    hhandled.of_isSome hforwarded (served_before ht)
  obtain ⟨rest, hrest⟩ := (machine parseUri).run_of_mem_transitions ht
  refine ⟨host, e, hhost, he, ?_⟩
  rw [hrest, run_of_connected hstate, hdelivered]

/-- In every run, a request that is forwarded goes where its URI says if and only if its URI
has no port or port 80. -/
theorem forwarded_as_asked_iff (ht : t ∈ (machine parseUri).transitions .new inputs)
    (hforwarded : t.answer.forwarded.isSome) :
    (∃ e, ((machine parseUri).run .new inputs).delivered = some (false, e) ∧
        t.input.1.uri.Names e)
      ↔ t.input.1.uri.port.getD 80 = 80 := by
  obtain ⟨host, e, hhost, he, hdelivered⟩ := delivered_of_forwarded ht hforwarded
  rw [← Uri.names_iff hhost he]
  constructor
  · rintro ⟨e', hdelivered', hnames⟩
    rw [hdelivered] at hdelivered'
    cases hdelivered'
    exact hnames
  · intro hnames
    exact ⟨e, hdelivered, hnames⟩

end

/-! ### A request that names a port -/

/-- The parser of URIs, on a path. -/
def parsePath (text : String) : Option Uri :=
  if text.front = '/' then some ⟨text, none, none, some text⟩ else none

/-- An endpoint that is reached, and that replies. -/
def Surroundings.alive : Surroundings := ⟨true, some (some ()), .ok (), .ok ()⟩

/-- A request for the root of `example.com`. -/
def exampleRequest (text : String) (port : Option UInt16) : Request where
  method := .other "GET"
  uri := ⟨text, some ⟨"example.com".toList, .inl (by decide)⟩, port, some "/"⟩
  headers := [("host", "example.com")]
  body := []

/-- A request without a port is forwarded to port 80. -/
theorem forwarded_as_asked_iff_without_port :
    ∃ t ∈ (machine parsePath).transitions .new
        [(exampleRequest "http://example.com/" none, .alive)],
      t.answer.forwarded.isSome ∧
      ∃ e, ((machine parsePath).run .new
          [(exampleRequest "http://example.com/" none, .alive)]).delivered = some (false, e) ∧
        t.input.1.uri.Names e := by
  refine ⟨_, List.mem_cons_self, rfl, ?_⟩
  exact (forwarded_as_asked_iff List.mem_cons_self rfl).mpr rfl

/-- A request for port 8080 is forwarded, to port 80. -/
theorem not_forwarded_as_asked :
    ¬ ∀ inputs, ∀ t ∈ (machine parsePath).transitions .new inputs, t.answer.forwarded.isSome →
      ∃ e, ((machine parsePath).run .new inputs).delivered = some (false, e) ∧
        t.input.1.uri.Names e := by
  intro h
  obtain ⟨e, hdelivered, hnames⟩ :=
    h [(exampleRequest "http://example.com:8080/" (some 8080), .alive)] _ List.mem_cons_self rfl
  have he : some (false, Endpoint.domain "example.com" 80) = some (false, e) := hdelivered
  cases he
  obtain ⟨host, -, hport, -⟩ := hnames
  exact absurd hport (by decide)

end Dandelion.Acceptor.HttpProxy
