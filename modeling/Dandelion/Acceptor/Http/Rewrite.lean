import Dandelion.Acceptor.Http.Authority
import Dandelion.Net.AbsoluteForm

/-!
# What a rewritten request asks for

The acceptor moves the target of a request from its URI to the `Host` header and the path. The
server puts the two together again, and gets the URI that the client asked for if no port was
lost on the way, and if the path and query can be parsed by themselves.
-/

namespace Dandelion.Acceptor.HttpProxy

open Net Http

/-! ### URIs and requests -/

/-- How the HTTP library parses URIs. -/
structure UriParser where
  parse : String → Option Uri
  host_visible : ∀ {text uri host}, parse text = some uri → uri.host = some host →
    ∀ c ∈ host.text, 32 ≤ c.toNat ∧ c.toNat < 127
  /-- The parts of a URI in absolute form. -/
  parse_absolute : ∀ {text uri u host port}, parse text = some uri →
    AbsoluteForm.ofText text.toList = some u → splitHostPort u.hostPort = some (host, port) →
    (∃ h, uri.host = some h ∧ h.text = host) ∧
    ∃ shown, uri.pathAndQuery = some shown ∧ ShownAs u.pathAndQuery shown.toList
  /-- The path and query of a URI are a URI in origin form. -/
  parse_origin : ∀ {text uri shown}, parse text = some uri → uri.pathAndQuery = some shown →
    shown.toList.head? = some '/' →
    ∃ uri', parse shown = some uri' ∧ uri'.host = none ∧ uri'.pathAndQuery = some shown
  /-- A query alone is a URI in none of the forms. -/
  parse_query : ∀ {text}, text.toList.head? = some '?' → parse text = none

/-- The URI has a path and query that begin with a slash. -/
def Uri.HasSlash (uri : Uri) : Prop :=
  ∃ shown, uri.pathAndQuery = some shown ∧ shown.toList.head? = some '/'

def Request.OriginForm (request : Request) : Prop := request.uri.host = none ∧ request.uri.HasSlash

/-- What the server takes a request in origin form to ask for. -/
def Request.effective (request : Request) : Option Location := do
  let host ← request.headers.get "host"
  let pathAndQuery ← request.uri.pathAndQuery
  locate (['h', 't', 't', 'p', ':', '/', '/'] ++ (host.toList ++ pathAndQuery.toList))

/-- The request is rewritten to one in origin form that asks for what its URI, with the given
text, denotes. -/
def PreservesTarget (parseUri : String → Option Uri) (request : Request) (text : String) : Prop :=
  ∃ r, transformProxyRequest parseUri request = some r ∧ r.OriginForm ∧
    r.headers.containsKey "host" ∧ r.effective = locate text.toList

/-! ### Rewriting -/

/-- The headers with a `Host`. -/
def withHost (request : Request) : Option HeaderMap :=
  if request.headers.containsKey "host" then some request.headers
  else do
    let host ← request.uri.host
    let value ← headerValue (String.ofList host.text)
    some (request.headers.insert "host" value)

/-- The headers without those that are for the proxy. -/
def forwardedHeaders (headers : HeaderMap) : HeaderMap :=
  let headers := (headers.remove "proxy-authenticate").2
  let headers := (headers.remove "proxy-authorization").2
  match headers.remove "proxy-connection" with
  | (some c, headers) => headers.orInsert "connection" c
  | (none, headers)   => headers

section

variable {parser : UriParser} {request r : Request} {text shown : String} {u : AbsoluteForm}
  {host : List Char} {port : Option UInt16}

lemma transformProxyRequest_eq (parseUri : String → Option Uri) (request : Request) :
    transformProxyRequest parseUri request
      = (withHost request).bind fun headers => request.uri.pathAndQuery.bind fun shown =>
        (parseUri shown).bind fun uri =>
          some { request with uri := uri, headers := forwardedHeaders headers } := by
  unfold transformProxyRequest withHost
  by_cases hkey : request.headers.containsKey "host" = true
  · rw [if_pos hkey, if_pos hkey]
    rfl
  · rw [if_neg hkey, if_neg hkey]
    simp only [Option.bind_eq_bind, Option.bind_assoc, Option.bind_some]
    rfl

/-- The headers without `Proxy-Authenticate`, `Proxy-Authorization` and `Proxy-Connection`. -/
def withoutProxyHeaders (headers : HeaderMap) : HeaderMap :=
  (((headers.remove "proxy-authenticate").2.remove "proxy-authorization").2.remove
    "proxy-connection").2

lemma forwardedHeaders_eq (headers : HeaderMap) :
    forwardedHeaders headers = match headers.get "proxy-connection" with
      | some c => (withoutProxyHeaders headers).orInsert "connection" c
      | none   => withoutProxyHeaders headers := by
  have hremove : ((headers.remove "proxy-authenticate").2.remove "proxy-authorization").2.remove
      "proxy-connection" = (headers.get "proxy-connection", withoutProxyHeaders headers) := by
    refine Prod.ext ?_ rfl
    rw [HeaderMap.remove, HeaderMap.get_eq_head?_getAll, HeaderMap.getAll_remove_of_ne (by decide),
      HeaderMap.getAll_remove_of_ne (by decide), HeaderMap.get_eq_head?_getAll]
  rw [forwardedHeaders, hremove]
  cases headers.get "proxy-connection" with
  | none => rfl
  | some c => rfl

lemma getAll_withoutProxyHeaders {headers : HeaderMap} {name : String}
    (hauthenticate : name ≠ "proxy-authenticate") (hauthorization : name ≠ "proxy-authorization")
    (hconnection : name ≠ "proxy-connection") :
    (withoutProxyHeaders headers).getAll name = headers.getAll name := by
  rw [withoutProxyHeaders, HeaderMap.getAll_remove_of_ne hconnection,
    HeaderMap.getAll_remove_of_ne hauthorization, HeaderMap.getAll_remove_of_ne hauthenticate]

/-- Only `Connection` may get a value. -/
lemma getAll_forwardedHeaders {headers : HeaderMap} {name : String} (h : name ≠ "connection") :
    (forwardedHeaders headers).getAll name = (withoutProxyHeaders headers).getAll name := by
  rw [forwardedHeaders_eq]
  split
  · exact HeaderMap.getAll_orInsert_of_ne h
  · rfl

lemma getAll_host_forwardedHeaders (headers : HeaderMap) :
    (forwardedHeaders headers).getAll "host" = headers.getAll "host" := by
  rw [getAll_forwardedHeaders (by decide),
    getAll_withoutProxyHeaders (by decide) (by decide) (by decide)]

/-- What a rewritten request is made of. -/
lemma of_transformProxyRequest {parseUri : String → Option Uri}
    (h : transformProxyRequest parseUri request = some r) :
    ∃ headers shown uri, withHost request = some headers ∧
      request.uri.pathAndQuery = some shown ∧ parseUri shown = some uri ∧
      r = { request with uri := uri, headers := forwardedHeaders headers } := by
  rw [transformProxyRequest_eq, Option.bind_eq_some_iff] at h
  obtain ⟨headers, hheaders, h⟩ := h
  rw [Option.bind_eq_some_iff] at h
  obtain ⟨shown, hshown, h⟩ := h
  rw [Option.bind_eq_some_iff] at h
  obtain ⟨uri, huri, h⟩ := h
  exact ⟨headers, shown, uri, hheaders, hshown, huri, (Option.some.inj h).symm⟩

lemma headerValue_of_visible (h : ∀ c ∈ host, 32 ≤ c.toNat ∧ c.toNat < 127) :
    headerValue (String.ofList host) = some (String.ofList host) := by
  rw [headerValue, if_pos]
  rw [String.toList_ofList, List.all_eq_true]
  intro c hc
  obtain ⟨hlow, hhigh⟩ := h c hc
  simp [hlow, hhigh.ne]

/-- The `Host` header names the host of the URI, and its port if the client sent the header. -/
lemma withHost_eq (hparse : parser.parse text = some request.uri)
    (hform : AbsoluteForm.ofText text.toList = some u)
    (hsplit : splitHostPort u.hostPort = some (host, port))
    (hhost : ∀ value, request.headers.get "host" = some value → value.toList = u.hostPort) :
    ∃ headers value, withHost request = some headers ∧ headers.get "host" = some value ∧
      (∀ c ∈ value.toList, inAuthority c = true ∧ c ≠ '@') ∧
      splitHostPort value.toList
        = some (host, if request.headers.containsKey "host" then port else none) := by
  rw [withHost]
  split
  case isTrue hkey =>
    have hsome : (request.headers.get "host").isSome := by
      rwa [← HeaderMap.containsKey_eq_isSome_get]
    obtain ⟨value, hvalue⟩ := Option.isSome_iff_exists.mp hsome
    refine ⟨_, value, rfl, hvalue, ?_⟩
    rw [hhost value hvalue]
    exact ⟨u.hostPort_valid, hsplit⟩
  case isFalse =>
    obtain ⟨⟨h, hh, rfl⟩, -⟩ := parser.parse_absolute hparse hform hsplit
    have hvisible := headerValue_of_visible (parser.host_visible hparse hh)
    refine ⟨request.headers.insert "host" (String.ofList h.text), String.ofList h.text, ?_,
      ?_, ?_⟩
    · rw [hh]
      simp [hvisible]
    · rw [HeaderMap.get_eq_head?_getAll, HeaderMap.getAll_insert_self]
      rfl
    rw [String.toList_ofList]
    constructor
    · exact fun c hc => u.hostPort_valid c (subset_of_splitHostPort hsplit hc)
    · exact splitHostPort_host hsplit

/-- What the server takes a rewritten request to ask for. -/
lemma effective_eq (hparse : parser.parse text = some request.uri)
    (hform : AbsoluteForm.ofText text.toList = some u)
    (hsplit : splitHostPort u.hostPort = some (host, port))
    (hhost : ∀ value, request.headers.get "host" = some value → value.toList = u.hostPort)
    (hr : transformProxyRequest parser.parse request = some r) :
    r.OriginForm ∧ r.headers.containsKey "host" ∧ request.uri.HasSlash ∧
    r.effective = some
      ⟨host, some ((if request.headers.containsKey "host" then port else none).getD 80),
        pathOf u.pathAndQuery, queryOf u.pathAndQuery⟩ := by
  obtain ⟨headers, shown, uri, hheaders, hshown, huri, rfl⟩ := of_transformProxyRequest hr
  obtain ⟨headers', value, hheaders', hvalue, hvalid, hsplit'⟩ :=
    withHost_eq hparse hform hsplit hhost
  obtain ⟨-, shown', hshown', hshownAs⟩ := parser.parse_absolute hparse hform hsplit
  rw [hheaders] at hheaders'
  cases hheaders'
  rw [hshown] at hshown'
  cases hshown'
  have hslash : shown.toList.head? = some '/' := by
    rcases hshownAs.head?_eq with hslash | hquery
    · exact hslash
    · rw [parser.parse_query hquery] at huri
      cases huri
  obtain ⟨uri', huri', hnone, hsame⟩ := parser.parse_origin hparse hshown hslash
  rw [huri] at huri'
  cases huri'
  have hget : (forwardedHeaders headers).get "host" = some value := by
    rw [HeaderMap.get_eq_head?_getAll, getAll_host_forwardedHeaders,
      ← HeaderMap.get_eq_head?_getAll, hvalue]
  refine ⟨⟨hnone, shown, hsame, hslash⟩, ?_, ⟨shown, hshown, hslash⟩, ?_⟩
  · rw [HeaderMap.containsKey_eq_isSome_get, hget]
    rfl
  · have hhash := hshownAs.hash_not_mem u.pathAndQuery_valid
    have hlocate := locate_http hvalid hslash hhash hsplit'
    rw [hshownAs.pathOf_eq, hshownAs.queryOf_eq] at hlocate
    simp only [Request.effective, hget, hsame]
    exact hlocate

/-- The `Host` header of the rewritten request stands for the port of the URI: the client sent it,
and the URI gives a port or is one for port 80; or the URI is for port 80 anyway. -/
def KeepsPort (request : Request) (u : AbsoluteForm) (port : Option UInt16) : Prop :=
  if request.headers.containsKey "host" then port.isSome ∨ defaultPort u.scheme = some 80
  else port.or (defaultPort u.scheme) = some 80

lemma keepsPort_iff :
    some ((if request.headers.containsKey "host" then port else none).getD 80)
      = port.or (defaultPort u.scheme) ↔ KeepsPort request u port := by
  rw [KeepsPort]
  split
  · cases port with
    | some p => simp
    | none => simp [eq_comm]
  · simp [eq_comm]

/-- A request in absolute form, without a `Host` header or with the one of its URI, is rewritten
to one that asks for the same, exactly if the rewritten `Host` header stands for the port of the
URI, and its path and query begin with a slash. -/
theorem preservesTarget_iff (parser : UriParser) (hparse : parser.parse text = some request.uri)
    (hform : AbsoluteForm.ofText text.toList = some u)
    (hsplit : splitHostPort u.hostPort = some (host, port))
    (hhost : ∀ value, request.headers.get "host" = some value → value.toList = u.hostPort) :
    PreservesTarget parser.parse request text ↔
      KeepsPort request u port ∧ request.uri.HasSlash := by
  have hlocate : locate text.toList = some ⟨host, port.or (defaultPort u.scheme),
      pathOf u.pathAndQuery, queryOf u.pathAndQuery⟩ := by
    simp [locate, hform, AbsoluteForm.location, hsplit]
  rw [← keepsPort_iff]
  constructor
  · rintro ⟨r, hr, -, -, hsame⟩
    obtain ⟨-, -, hslash, heffective⟩ := effective_eq hparse hform hsplit hhost hr
    rw [heffective, hlocate, Option.some.injEq, Location.mk.injEq] at hsame
    exact ⟨hsame.2.1, hslash⟩
  · rintro ⟨hport, shown, hshown, hslash⟩
    obtain ⟨headers, value, hheaders, -⟩ := withHost_eq hparse hform hsplit hhost
    obtain ⟨uri, huri, -⟩ := parser.parse_origin hparse hshown hslash
    have hr : transformProxyRequest parser.parse request
        = some { request with uri := uri, headers := forwardedHeaders headers } := by
      rw [transformProxyRequest_eq, hheaders, hshown, Option.bind_some, Option.bind_some, huri]
      rfl
    obtain ⟨horigin, hkey, -, heffective⟩ := effective_eq hparse hform hsplit hhost hr
    refine ⟨_, hr, horigin, hkey, ?_⟩
    rw [heffective, hlocate, hport]

end

/-! ### A port that is lost -/

section

variable {text : String} {u : AbsoluteForm} {uri : Uri} {cs host : List Char}
  {port : Option UInt16}

lemma host_valid_of_splitHostPort (h : splitHostPort cs = some (host, port)) :
    ':' ∉ host ∨ ∃ inner, host = '[' :: (inner ++ [']']) := by
  obtain ⟨-, -, -, ⟨inner, hinner, -⟩ | ⟨hcolon, -⟩⟩ := of_splitHostPort h
  · exact .inr ⟨inner, hinner⟩
  · exact .inl hcolon

/-- The path and query of a URI, or the root. -/
def shownPathAndQuery (u : AbsoluteForm) : List Char :=
  if u.pathAndQuery = [] then ['/'] else u.pathAndQuery

lemma shownAs_shownPathAndQuery (u : AbsoluteForm) :
    ShownAs u.pathAndQuery (shownPathAndQuery u) := by
  rw [shownPathAndQuery]
  split
  case isTrue hnil =>
    rw [hnil]
    exact .root
  case isFalse hne => exact .same hne

/-- The URI with the given parts. -/
def parseAbsolute (text : String) (u : AbsoluteForm) : Option Uri :=
  match h : splitHostPort u.hostPort with
  | none => none
  | some (host, port) =>
    if host.all fun c => 32 ≤ c.toNat && c.toNat < 127 then
      some ⟨text, some ⟨host, host_valid_of_splitHostPort h⟩, port,
        some (String.ofList (shownPathAndQuery u))⟩
    else none

/-- A parser of URIs in origin form and in absolute form. -/
def parseForms (text : String) : Option Uri :=
  match text.toList with
  | '/' :: _ => some ⟨text, none, none, some text⟩
  | cs       => (AbsoluteForm.ofText cs).bind (parseAbsolute text)

lemma of_parseAbsolute (h : parseAbsolute text u = some uri) :
    ∃ host port, splitHostPort u.hostPort = some (host.text, port) ∧
      (∀ c ∈ host.text, 32 ≤ c.toNat ∧ c.toNat < 127) ∧
      uri = ⟨text, some host, port, some (String.ofList (shownPathAndQuery u))⟩ := by
  unfold parseAbsolute at h
  split at h
  case h_1 => cases h
  case h_2 host port hsplit =>
    rw [Option.ite_none_right_eq_some] at h
    obtain ⟨hvisible, huri⟩ := h
    cases huri
    refine ⟨_, _, hsplit, ?_, rfl⟩
    intro c hc
    simpa using List.all_eq_true.mp hvisible c hc

lemma of_parseForms (h : parseForms text = some uri) :
    (text.toList.head? = some '/' ∧ uri = ⟨text, none, none, some text⟩) ∨
    ∃ u, AbsoluteForm.ofText text.toList = some u ∧ parseAbsolute text u = some uri := by
  unfold parseForms at h
  split at h
  case h_1 htext =>
    cases h
    rw [htext]
    exact .inl ⟨rfl, rfl⟩
  case h_2 => exact .inr (Option.bind_eq_some_iff.mp h)

lemma parseForms_slash (h : text.toList.head? = some '/') :
    parseForms text = some ⟨text, none, none, some text⟩ := by
  obtain ⟨cs, hcs⟩ := List.head?_eq_some_iff.mp h
  rw [parseForms]
  rw [hcs]
  rfl

end

/-- The parser with the laws of the library. -/
def UriParser.forms : UriParser where
  parse := parseForms
  host_visible := by
    intro text uri host h hhost
    rcases of_parseForms h with ⟨-, rfl⟩ | ⟨u, -, hu⟩
    · cases hhost
    · obtain ⟨host', port, -, hvisible, rfl⟩ := of_parseAbsolute hu
      cases hhost
      exact hvisible
  parse_absolute := by
    intro text uri u host port h hform hsplit
    rcases of_parseForms h with ⟨hslash, -⟩ | ⟨u', hform', hu⟩
    · obtain ⟨cs, hcs⟩ := List.head?_eq_some_iff.mp hslash
      rw [hcs, ofText_cons_of_not_isAlpha (by decide) (by decide)] at hform
      cases hform
    · rw [hform] at hform'
      cases hform'
      obtain ⟨host', port', hsplit', -, rfl⟩ := of_parseAbsolute hu
      rw [hsplit] at hsplit'
      cases hsplit'
      refine ⟨⟨host', rfl, rfl⟩, _, rfl, ?_⟩
      rw [String.toList_ofList]
      exact shownAs_shownPathAndQuery u
  parse_origin := by
    intro text uri shown _ _ hslash
    exact ⟨_, parseForms_slash hslash, rfl, rfl⟩
  parse_query := by
    intro text hquery
    obtain ⟨cs, hcs⟩ := List.head?_eq_some_iff.mp hquery
    rw [parseForms]
    rw [hcs]
    have hnone : AbsoluteForm.ofText ('?' :: cs) = none :=
      ofText_cons_of_not_isAlpha (by decide) (by decide)
    exact congrArg (Option.bind · (parseAbsolute text)) hnone

/-- A request for the root of `example.com`, without headers. -/
def bareRequest (text : String) (port : Option UInt16) : Request :=
  { exampleRequest text port with headers := [] }

/-- A request without a port and without a path is rewritten to one for the same. -/
theorem preservesTarget_without_port :
    PreservesTarget parseForms (bareRequest "http://example.com" none) "http://example.com" := by
  have hform : AbsoluteForm.ofText "http://example.com".toList
      = some ⟨"http".toList, "example.com".toList, [],
        hostPort_valid_of_text "example.com".toList, by decide, by decide⟩ := rfl
  have hsplit : splitHostPort "example.com".toList = some ("example.com".toList, none) := rfl
  apply (preservesTarget_iff .forms rfl hform hsplit (by rintro _ ⟨⟩)).mpr
  exact ⟨rfl, "/", rfl, rfl⟩

/-- A request for port 8080 is rewritten to one for port 80. -/
theorem not_preservesTarget_of_port :
    ¬∀ (text : String) (request : Request) (u : AbsoluteForm) (host : List Char)
        (port : Option UInt16), UriParser.forms.parse text = some request.uri →
      AbsoluteForm.ofText text.toList = some u → splitHostPort u.hostPort = some (host, port) →
      (∀ value, request.headers.get "host" = some value → value.toList = u.hostPort) →
      PreservesTarget UriParser.forms.parse request text := by
  intro h
  have hparse : UriParser.forms.parse "http://example.com:8080/"
      = some (bareRequest "http://example.com:8080/" (some 8080)).uri := rfl
  have hform : AbsoluteForm.ofText "http://example.com:8080/".toList
      = some ⟨"http".toList, "example.com:8080".toList, ['/'],
        hostPort_valid_of_text "example.com:8080".toList, by decide, by decide⟩ := rfl
  have hsplit : splitHostPort "example.com:8080".toList
      = some ("example.com".toList, some 8080) := rfl
  have hhost : ∀ value, (bareRequest "http://example.com:8080/" (some 8080)).headers.get "host"
      = some value → value.toList = "example.com:8080".toList := by
    rintro _ ⟨⟩
  obtain ⟨r, hr, -, -, hsame⟩ := h _ _ _ _ _ hparse hform hsplit hhost
  obtain ⟨-, -, -, heffective⟩ := effective_eq hparse hform hsplit hhost hr
  rw [heffective] at hsame
  exact absurd hsame (by decide)

end Dandelion.Acceptor.HttpProxy
