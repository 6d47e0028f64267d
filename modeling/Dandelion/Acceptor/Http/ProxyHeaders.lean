import Dandelion.Acceptor.Http.Rewrite

/-!
# The headers of a rewritten request

Rewriting takes the headers that are meant for the proxy out of a request, and leaves all other
headers, with all their values, as they are. A request that was rewritten stays the same when it is
rewritten again.
-/

namespace Dandelion.Acceptor.HttpProxy

open Net Http

/-- The headers that are meant for the proxy. -/
def proxyHeaders : List String :=
  ["proxy-authenticate", "proxy-authorization", "proxy-connection"]

/-- How the HTTP library parses the target of a request: its path and query begin with a slash, or
with the question mark of a query, or are the asterisk. -/
structure TargetParser extends UriParser where
  shown_form : ∀ {text uri shown}, parse text = some uri → uri.pathAndQuery = some shown →
    shown.toList.head? = some '/' ∨ shown.toList.head? = some '?' ∨ shown = "*"
  parse_asterisk : ∀ {uri}, parse "*" = some uri → uri.pathAndQuery = some "*"

section

variable {headers headers' : HeaderMap} {name : String} {request r : Request}

/-! ### Headers for the proxy -/

lemma getAll_withoutProxyHeaders_of_mem (h : name ∈ proxyHeaders) :
    (withoutProxyHeaders headers).getAll name = [] := by
  rw [withoutProxyHeaders]
  by_cases hconnection : name = "proxy-connection"
  · rw [hconnection, HeaderMap.getAll_remove_self]
  rw [HeaderMap.getAll_remove_of_ne hconnection]
  by_cases hauthorization : name = "proxy-authorization"
  · rw [hauthorization, HeaderMap.getAll_remove_self]
  rw [HeaderMap.getAll_remove_of_ne hauthorization]
  have hauthenticate : name = "proxy-authenticate" := by
    simpa [proxyHeaders, hconnection, hauthorization] using h
  rw [hauthenticate, HeaderMap.getAll_remove_self]

lemma getAll_withoutProxyHeaders_of_not_mem (h : name ∉ proxyHeaders) :
    (withoutProxyHeaders headers).getAll name = headers.getAll name := by
  simp only [proxyHeaders, List.mem_cons, List.not_mem_nil, or_false, not_or] at h
  exact getAll_withoutProxyHeaders h.1 h.2.1 h.2.2

/-- No header for the proxy is forwarded. -/
lemma getAll_forwardedHeaders_of_mem (h : name ∈ proxyHeaders) :
    (forwardedHeaders headers).getAll name = [] := by
  have hne : name ≠ "connection" := by
    rintro rfl
    exact absurd h (by decide)
  rw [getAll_forwardedHeaders hne, getAll_withoutProxyHeaders_of_mem h]

/-- Headers for others are. -/
lemma getAll_forwardedHeaders_of_not_mem (h : name ∉ proxyHeaders) (hne : name ≠ "connection") :
    (forwardedHeaders headers).getAll name = headers.getAll name := by
  rw [getAll_forwardedHeaders hne, getAll_withoutProxyHeaders_of_not_mem h]

/-- `Connection` takes the place of `Proxy-Connection` if it is not there itself. -/
lemma getAll_connection_forwardedHeaders (headers : HeaderMap) :
    (forwardedHeaders headers).getAll "connection"
      = if headers.getAll "connection" ≠ [] then headers.getAll "connection"
        else (headers.getAll "proxy-connection").take 1 := by
  have hkept : (withoutProxyHeaders headers).getAll "connection" = headers.getAll "connection" :=
    getAll_withoutProxyHeaders_of_not_mem (by decide)
  rw [forwardedHeaders_eq, HeaderMap.get_eq_head?_getAll]
  by_cases hconnection : headers.getAll "connection" = []
  · rw [if_neg (not_not.mpr hconnection)]
    rw [hconnection] at hkept
    cases headers.getAll "proxy-connection" with
    | nil => exact hkept
    | cons c cs =>
      change ((withoutProxyHeaders headers).orInsert "connection" c).getAll "connection" = [c]
      rw [HeaderMap.orInsert_of_getAll_eq_nil hkept, HeaderMap.getAll_insert_self]
  · rw [if_pos hconnection]
    rw [← hkept] at hconnection ⊢
    cases headers.getAll "proxy-connection" with
    | nil => rfl
    | cons c cs =>
      change ((withoutProxyHeaders headers).orInsert "connection" c).getAll "connection" = _
      rw [HeaderMap.orInsert_of_getAll_ne_nil hconnection]

/-- Headers without one for the proxy are forwarded as they are. -/
lemma forwardedHeaders_eq_self (h : ∀ name ∈ proxyHeaders, headers.getAll name = []) :
    forwardedHeaders headers = headers := by
  have hauthenticate := HeaderMap.remove_eq_of_getAll (h "proxy-authenticate" (by decide))
  have hauthorization := HeaderMap.remove_eq_of_getAll (h "proxy-authorization" (by decide))
  have hconnection := HeaderMap.remove_eq_of_getAll (h "proxy-connection" (by decide))
  rw [forwardedHeaders, hauthenticate, hauthorization, hconnection]

/-! ### The `Host` header -/

/-- The `Host` header is there, and no other header is touched. -/
lemma of_withHost (h : withHost request = some headers) :
    headers.getAll "host" ≠ [] ∧
    (request.headers.getAll "host" ≠ [] → headers = request.headers) ∧
    ∀ name, name ≠ "host" → headers.getAll name = request.headers.getAll name := by
  rw [withHost] at h
  split at h
  case isTrue hkey =>
    cases h
    exact ⟨HeaderMap.containsKey_iff.mp hkey, fun _ => rfl, fun _ _ => rfl⟩
  case isFalse hkey =>
    simp only [Option.bind_eq_bind, Option.bind_eq_some_iff] at h
    obtain ⟨host, -, value, -, heq⟩ := h
    cases heq
    refine ⟨?_, ?_, fun name hne => HeaderMap.getAll_insert_of_ne hne⟩
    · rw [HeaderMap.getAll_insert_self]
      exact List.cons_ne_nil _ _
    · intro hne
      exact absurd (HeaderMap.containsKey_iff.mpr hne) hkey

lemma withHost_of_getAll_ne_nil (h : request.headers.getAll "host" ≠ []) :
    withHost request = some request.headers := by
  rw [withHost, if_pos (HeaderMap.containsKey_iff.mpr h)]

end

/-! ### Rewriting twice -/

/-- The path and query, when they are parsed by themselves, are the path and query again. -/
lemma TargetParser.pathAndQuery_eq (parser : TargetParser) {text shown : String} {uri uri' : Uri}
    (hparse : parser.parse text = some uri) (hshown : uri.pathAndQuery = some shown)
    (huri' : parser.parse shown = some uri') : uri'.pathAndQuery = some shown := by
  rcases parser.shown_form hparse hshown with hslash | hquery | rfl
  · obtain ⟨origin, horigin, -, hsame⟩ := parser.parse_origin hparse hshown hslash
    rw [huri'] at horigin
    cases horigin
    exact hsame
  · rw [parser.parse_query hquery] at huri'
    cases huri'
  · exact parser.parse_asterisk huri'

/-- Only headers for the proxy are taken out of a request, a `Proxy-Connection` may become the
`Connection`, and rewriting a request again changes nothing. -/
theorem transformProxyRequest_touches_proxyHeaders (parser : TargetParser) {text : String}
    {request r : Request} (hparse : parser.parse text = some request.uri)
    (h : transformProxyRequest parser.parse request = some r) :
    (∀ name ∈ proxyHeaders, r.headers.getAll name = []) ∧
    r.headers.getAll "connection"
      = (if request.headers.getAll "connection" ≠ [] then request.headers.getAll "connection"
        else (request.headers.getAll "proxy-connection").take 1) ∧
    (request.headers.getAll "host" ≠ [] →
      r.headers.getAll "host" = request.headers.getAll "host") ∧
    (∀ name, name ∉ proxyHeaders → name ≠ "connection" → name ≠ "host" →
      r.headers.getAll name = request.headers.getAll name) ∧
    r.method = request.method ∧ r.body = request.body ∧
    transformProxyRequest parser.parse r = some r := by
  obtain ⟨headers, shown, uri, hheaders, hshown, huri, rfl⟩ := of_transformProxyRequest h
  obtain ⟨hhost, hkept, hothers⟩ := of_withHost hheaders
  have hforwarded : ∀ name ∈ proxyHeaders, (forwardedHeaders headers).getAll name = [] :=
    fun name hname => getAll_forwardedHeaders_of_mem hname
  refine ⟨hforwarded, ?_, ?_, ?_, rfl, rfl, ?_⟩
  · rw [getAll_connection_forwardedHeaders, hothers "connection" (by decide),
      hothers "proxy-connection" (by decide)]
  · intro hne
    rw [getAll_host_forwardedHeaders, hkept hne]
  · intro name hname hconnection hne
    rw [getAll_forwardedHeaders_of_not_mem hname hconnection, hothers name hne]
  · have hagain : (forwardedHeaders headers).getAll "host" ≠ [] := by
      rwa [getAll_host_forwardedHeaders]
    rw [transformProxyRequest_eq, withHost_of_getAll_ne_nil hagain, Option.bind_some,
      parser.pathAndQuery_eq hparse hshown huri, Option.bind_some, huri, Option.bind_some,
      forwardedHeaders_eq_self hforwarded]

/-- The parser of both forms parses the target of a request. -/
def TargetParser.forms : TargetParser where
  toUriParser := .forms
  shown_form := by
    intro text uri shown h hshown
    rcases of_parseForms h with ⟨hslash, rfl⟩ | ⟨u, -, hu⟩
    · cases hshown
      exact .inl hslash
    · obtain ⟨host, port, -, -, rfl⟩ := of_parseAbsolute hu
      cases hshown
      rw [String.toList_ofList]
      rcases (shownAs_shownPathAndQuery u).head?_eq with hslash | hquery
      · exact .inl hslash
      · exact .inr (.inl hquery)
  parse_asterisk := by
    intro uri h
    have hparse : parseForms "*" = some uri := h
    rcases of_parseForms hparse with ⟨hslash, -⟩ | ⟨u, hu, -⟩
    · exact absurd hslash (by decide)
    · have hnone : AbsoluteForm.ofText "*".toList = none :=
        ofText_cons_of_not_isAlpha (by decide) (by decide)
      rw [hnone] at hu
      cases hu

/-- A request with headers that are repeated. -/
def repeatedHeaders : Request :=
  { exampleRequest "http://example.com/" none with
    headers := [("x", "1"), ("proxy-connection", "keep-alive"), ("x", "2"),
      ("proxy-authorization", "Basic"), ("proxy-connection", "close")] }

/-- What it is rewritten to. -/
def rewrittenHeaders : Request :=
  { repeatedHeaders with
    uri := ⟨"/", none, none, some "/"⟩
    headers := [("x", "1"), ("x", "2"), ("host", "example.com"), ("connection", "keep-alive")] }

/-- The first `Proxy-Connection` is kept, and both values of the other header. -/
theorem transformProxyRequest_of_repeatedHeaders :
    transformProxyRequest parseForms repeatedHeaders = some rewrittenHeaders ∧
    rewrittenHeaders.headers.getAll "connection" = ["keep-alive"] ∧
    transformProxyRequest parseForms rewrittenHeaders = some rewrittenHeaders := by
  have hparse : TargetParser.forms.parse "http://example.com/" = some repeatedHeaders.uri := rfl
  have hrewritten : transformProxyRequest TargetParser.forms.parse repeatedHeaders
      = some rewrittenHeaders := rfl
  obtain ⟨-, hconnection, -, -, -, -, hagain⟩ :=
    transformProxyRequest_touches_proxyHeaders .forms hparse hrewritten
  exact ⟨hrewritten, hconnection, hagain⟩

end Dandelion.Acceptor.HttpProxy
