import Dandelion.Endpoint.Reparse
import Dandelion.Net.Target
import Dandelion.Simplex.Server

/-!
# The simplex client

The client asks for an upgrade at the path of its configuration, with the secret header and the
text of the endpoint. A server with the same configuration accepts the request and gets the same
endpoint, unless the configuration or the endpoint does not survive the transport.
-/

namespace Dandelion.Simplex.Client

open Http

/-- What the HTTP and WebSocket libraries decide for a client. -/
structure Library where
  targets : Targets
  acceptsHost : String → Bool
  acceptsName : String → Bool
  acceptsValue : String → Bool
  /-- The headers of an upgrade request to a host, if one can be made. -/
  upgradeHeaders : String → Option Headers
  asksConnection : ∀ host headers, upgradeHeaders host = some headers →
    headers.transmitted.hasToken "Connection" "upgrade" = true
  asksWebSocket : ∀ host headers, upgradeHeaders host = some headers →
    headers.transmitted.hasToken "Upgrade" "websocket" = true

structure UpgradeRequest where
  target : List Char
  headers : Headers

inductive ConnectError where
  | uri (message : String)
  | request
  | headerName
  | headerValue

variable (lib : Library) (config : Config) (endpoint : Endpoint)

def intoClientRequest : Option UpgradeRequest :=
  (lib.upgradeHeaders config.host).map fun headers => ⟨requestTarget config.path.toList, headers⟩

/-- The request that `connect` sends, unless a part of it is not accepted. -/
def upgradeRequest : Except ConnectError UpgradeRequest :=
  if !(lib.acceptsHost config.host && lib.targets.accepts config.path.toList) then
    .error (.uri ("Failed to create simplex request URI connecting with server: " ++ config.host ++
      " and path: " ++ config.path))
  else
    match intoClientRequest lib config with
    | none => .error .request
    | some request =>
      if !lib.acceptsName config.secretHeader.1 then .error .headerName
      else if !lib.acceptsValue config.secretHeader.2 then .error .headerValue
      else if !lib.acceptsValue endpoint.display then .error .headerValue
      else
        .ok { request with
          headers := (request.headers.insert config.secretHeader.1
            config.secretHeader.2.utf8Bytes).insert endpointHeaderKey endpoint.display.utf8Bytes }

/-- The request as it arrives at a server. -/
def received (sent : UpgradeRequest) : Server.Request where
  path := String.ofList (lib.targets.path sent.target)
  headers := sent.headers.transmitted

/-- A request asks for an upgrade to a WebSocket by two headers. -/
def asksUpgrade (request : Server.Request) : Bool :=
  request.headers.hasToken "Connection" "upgrade" && request.headers.hasToken "Upgrade" "websocket"

/-- A text that arrives as it was sent: visible ASCII without a blank at either end. -/
def Transmissible (text : String) : Prop :=
  text.utf8Bytes.all isVisibleAscii = true ∧
    (∀ b ∈ text.utf8Bytes.head?, isBlank b = false) ∧
    ∀ b ∈ text.utf8Bytes.getLast?, isBlank b = false

lemma toStr_trim_iff {text : String} :
    HeaderValue.toStr (HeaderValue.trim text.utf8Bytes) = some text ↔ Transmissible text := by
  rw [HeaderValue.toStr_eq_some_iff, Transmissible, ← trim_eq_self_iff]
  constructor
  · rintro ⟨htrim, hall⟩
    rw [← htrim] at hall
    exact ⟨hall, htrim.symm⟩
  · rintro ⟨hall, htrim⟩
    rw [htrim]
    exact ⟨rfl, hall⟩

/-- A character that is lost at either end of a value. -/
def Blank (c : Char) : Prop := c = ' ' ∨ c = '\t'

lemma transmissible_of_chars {text : String} (hall : text.utf8Bytes.all isVisibleAscii = true)
    (hhead : ∀ c ∈ text.toList.head?, ¬Blank c) (hlast : ∀ c ∈ text.toList.getLast?, ¬Blank c) :
    Transmissible text := by
  rw [toList_of_visible hall] at hhead hlast
  refine ⟨hall, fun b hb => ?_, fun b hb => ?_⟩
  · apply eq_false_of_ne_true
    intro hblank
    apply hhead (Char.ofNat b.toNat) _ (char_of_isBlank hblank)
    rw [List.head?_map, Option.mem_def.mp hb]
    rfl
  · apply eq_false_of_ne_true
    intro hblank
    apply hlast (Char.ofNat b.toNat) _ (char_of_isBlank hblank)
    rw [List.getLast?_map, Option.mem_def.mp hb]
    rfl

/-- A value that arrived as text has no blank in front. -/
lemma not_blank_of_arrived {value : HeaderValue} {text : String}
    (h : HeaderValue.toStr (HeaderValue.trim value) = some text) :
    ∀ c ∈ text.toList.head?, ¬Blank c := by
  obtain ⟨hbytes, hall⟩ := HeaderValue.toStr_eq_some_iff.mp h
  rw [← hbytes] at hall
  intro c hc hblank
  rw [toList_of_visible hall, List.head?_map, hbytes, Option.mem_def, Option.map_eq_some_iff] at hc
  obtain ⟨b, hb, rfl⟩ := hc
  have hvisible : isVisibleAscii b = true := by
    rw [hbytes] at hall
    exact List.all_eq_true.mp hall b (List.mem_of_mem_head? hb)
  have hfalse := head?_trim hb
  rw [isBlank_of_char hvisible hblank] at hfalse
  cases hfalse

lemma visible_of_arrived {value : HeaderValue} {text : String}
    (h : HeaderValue.toStr (HeaderValue.trim value) = some text) :
    value.all isVisibleAscii = true := by
  obtain ⟨-, hall⟩ := HeaderValue.toStr_eq_some_iff.mp h
  rw [List.all_eq_true] at hall ⊢
  intro b hb
  rcases mem_trim_or_isBlank hb with hmem | hblank
  · exact hall b hmem
  · simp only [isBlank, Bool.or_eq_true, decide_eq_true_eq] at hblank
    rcases hblank with rfl | rfl <;> rfl

lemma not_blank_of_plain {c : Char} (h : Net.Plain c) : ¬Blank c := by
  rintro (rfl | rfl)
  · exact absurd h.1 (by decide)
  · exact absurd h.1 (by decide)

/-- If an endpoint is parsed from a text without a blank in front, its own text has no blank at
either end. -/
lemma not_blank_display {ep : String} {e : Endpoint} (hparse : Endpoint.fromStr ep = .ok e)
    (hhead : ∀ c ∈ ep.toList.head?, ¬Blank c) :
    (∀ c ∈ e.display.toList.head?, ¬Blank c) ∧ ∀ c ∈ e.display.toList.getLast?, ¬Blank c := by
  cases e with
  | addr a =>
    rw [Endpoint.display, String.toList_ofList]
    constructor
    · intro c hc
      exact not_blank_of_plain (a.plain_display c (List.mem_of_mem_head? hc))
    · intro c hc
      exact not_blank_of_plain (a.plain_display c (List.mem_of_mem_getLast? hc))
  | domain d p =>
    have hplain : ∀ c ∈ ':' :: Net.dec p.toNat, Net.Plain c :=
      Net.plain_cons Net.plain_colon (Net.plain_dec _)
    obtain ⟨port, hep⟩ := Endpoint.of_fromStr_domain hparse
    rw [Endpoint.toList_display_domain]
    constructor
    · intro c hc
      -- the host is the front of the text, and a colon follows it
      cases hd : d.toList with
      | nil =>
        rw [hd, List.nil_append] at hc
        exact not_blank_of_plain (hplain c (List.mem_of_mem_head? hc))
      | cons x xs =>
        apply hhead c
        rw [hep]
        rw [hd] at hc ⊢
        exact hc
    · intro c hc
      rw [List.getLast?_append_of_ne_nil _ (List.cons_ne_nil _ _)] at hc
      exact not_blank_of_plain (hplain c (List.mem_of_mem_getLast? hc))

/-- The server decodes an endpoint with the same text exactly if the text is transmissible and
stays the same when it is parsed and printed again. -/
lemma decoded_iff {e : Endpoint} :
    (∃ ep e', HeaderValue.toStr (HeaderValue.trim e.display.utf8Bytes) = some ep ∧
      Endpoint.fromStr ep = .ok e' ∧ e'.display = e.display) ↔
    Transmissible e.display ∧ ¬e.HasUnprintedName := by
  constructor
  · rintro ⟨ep, e', harrived, hparse, hdisplay⟩
    have hends := not_blank_display hparse (not_blank_of_arrived harrived)
    rw [hdisplay] at hends
    have htext : Transmissible e.display :=
      transmissible_of_chars (visible_of_arrived harrived) hends.1 hends.2
    rw [toStr_trim_iff.mpr htext] at harrived
    cases harrived
    exact ⟨htext, e.reprinted_iff_not_hasUnprintedName.mp ⟨e', hparse, hdisplay⟩⟩
  · rintro ⟨htext, hname⟩
    obtain ⟨e', hparse, hdisplay⟩ := e.reprinted_iff_not_hasUnprintedName.mpr hname
    exact ⟨_, e', toStr_trim_iff.mpr htext, hparse, hdisplay⟩

/-- What a configuration and an endpoint must be like for the two ends to agree. -/
structure Agreeable : Prop where
  path : PlainPath config.path.toList
  secret : Transmissible config.secretHeader.2
  text : Transmissible endpoint.display
  name : lowerCase config.secretHeader.1 = lowerCase endpointHeaderKey →
    config.secretHeader.2 = endpoint.display
  connection : lowerCase config.secretHeader.1 = "connection" →
    HeaderValue.containsToken config.secretHeader.2.utf8Bytes "upgrade" = true
  upgrade : lowerCase config.secretHeader.1 = "upgrade" →
    HeaderValue.containsToken config.secretHeader.2.utf8Bytes "websocket" = true
  host : ¬endpoint.HasUnprintedName

/-! ### Agreement -/

variable {lib config endpoint} {sent : UpgradeRequest}

lemma of_upgradeRequest (h : upgradeRequest lib config endpoint = .ok sent) :
    ∃ headers, lib.upgradeHeaders config.host = some headers ∧
      sent.target = requestTarget config.path.toList ∧
      sent.headers = (headers.insert config.secretHeader.1
        config.secretHeader.2.utf8Bytes).insert endpointHeaderKey endpoint.display.utf8Bytes := by
  rw [upgradeRequest, intoClientRequest] at h
  cases hheaders : lib.upgradeHeaders config.host with
  | none =>
    simp only [hheaders, Option.map_none] at h
    split_ifs at h
  | some headers =>
    simp only [hheaders, Option.map_some] at h
    split_ifs at h
    cases h
    exact ⟨headers, rfl, rfl, rfl⟩

lemma path_iff (h : upgradeRequest lib config endpoint = .ok sent) :
    (received lib sent).path = config.path ↔ PlainPath config.path.toList := by
  obtain ⟨headers, -, htarget, -⟩ := of_upgradeRequest h
  rw [received, htarget, ← lib.targets.path_requestTarget_iff, ← String.toList_inj,
    String.toList_ofList]

lemma get_endpointHeaderKey (h : upgradeRequest lib config endpoint = .ok sent) :
    (received lib sent).headers.get endpointHeaderKey
      = some (HeaderValue.trim endpoint.display.utf8Bytes) := by
  obtain ⟨headers, -, -, hsent⟩ := of_upgradeRequest h
  rw [received, Headers.get_transmitted, hsent, Headers.get_insert_self rfl]
  rfl

lemma secret_iff (h : upgradeRequest lib config endpoint = .ok sent)
    (htext : Transmissible endpoint.display) :
    ((received lib sent).headers.get config.secretHeader.1).bind HeaderValue.toStr
        = some config.secretHeader.2 ↔
      Transmissible config.secretHeader.2 ∧
      (lowerCase config.secretHeader.1 = lowerCase endpointHeaderKey →
        config.secretHeader.2 = endpoint.display) := by
  obtain ⟨headers, -, -, hsent⟩ := of_upgradeRequest h
  rw [received, Headers.get_transmitted, hsent]
  by_cases hname : lowerCase config.secretHeader.1 = lowerCase endpointHeaderKey
  · -- the endpoint takes the place of the secret
    rw [Headers.get_insert_self hname, Option.map_some, Option.bind_some,
      toStr_trim_iff.mpr htext, Option.some.injEq]
    constructor
    · intro heq
      exact ⟨heq ▸ htext, fun _ => heq.symm⟩
    · rintro ⟨-, heq⟩
      exact (heq hname).symm
  · rw [Headers.get_insert_of_ne hname, Headers.get_insert_self rfl, Option.map_some,
      Option.bind_some, toStr_trim_iff]
    constructor
    · intro hsecret
      exact ⟨hsecret, fun heq => absurd heq hname⟩
    · rintro ⟨hsecret, -⟩
      exact hsecret

/-- A token of the upgrade arrives unless the secret header takes its place. -/
lemma hasToken_iff {name token : String} (h : upgradeRequest lib config endpoint = .ok sent)
    (hsecret : Transmissible config.secretHeader.2)
    (hkey : lowerCase name ≠ lowerCase endpointHeaderKey)
    (htoken : ∀ headers, lib.upgradeHeaders config.host = some headers →
      headers.transmitted.hasToken name token = true) :
    (received lib sent).headers.hasToken name token = true ↔
      (lowerCase config.secretHeader.1 = lowerCase name →
        HeaderValue.containsToken config.secretHeader.2.utf8Bytes token = true) := by
  obtain ⟨headers, hheaders, -, hsent⟩ := of_upgradeRequest h
  rw [received, hsent, Headers.hasToken_insert_of_ne hkey]
  by_cases hname : lowerCase config.secretHeader.1 = lowerCase name
  · rw [Headers.hasToken_insert_self hname.symm, trim_eq_self_iff.mpr hsecret.2]
    constructor
    · intro htrue _
      exact htrue
    · intro himp
      exact himp hname
  · rw [Headers.hasToken_insert_of_ne (Ne.symm hname), htoken headers hheaders]
    simp [hname]

lemma asksUpgrade_iff (h : upgradeRequest lib config endpoint = .ok sent)
    (hsecret : Transmissible config.secretHeader.2) :
    asksUpgrade (received lib sent) = true ↔
      (lowerCase config.secretHeader.1 = "connection" →
        HeaderValue.containsToken config.secretHeader.2.utf8Bytes "upgrade" = true) ∧
      (lowerCase config.secretHeader.1 = "upgrade" →
        HeaderValue.containsToken config.secretHeader.2.utf8Bytes "websocket" = true) := by
  rw [asksUpgrade, Bool.and_eq_true,
    hasToken_iff h hsecret (by decide) (lib.asksConnection config.host),
    hasToken_iff h hsecret (by decide) (lib.asksWebSocket config.host)]
  rfl

/-- A server with the configuration of the client accepts its request and decodes an endpoint with
the same text, exactly if configuration and endpoint are agreeable. -/
theorem agree_iff {server : Server.Library}
    (hserver : ∀ request, server.isUpgradeRequest request = asksUpgrade request)
    (h : upgradeRequest lib config endpoint = .ok sent) :
    (∃ e', Server.check server config (received lib sent) = .ok e' ∧
      e'.display = endpoint.display) ↔
    Agreeable config endpoint := by
  constructor
  · rintro ⟨e', hcheck, hdisplay⟩
    obtain ⟨hpath, hsecret, hupgrade, ep, hep, hparse⟩ :=
      (Server.check_eq_ok_iff server config).mp hcheck
    rw [get_endpointHeaderKey h, Option.bind_some] at hep
    obtain ⟨htext, hhost⟩ := decoded_iff.mp ⟨ep, e', hep, hparse, hdisplay⟩
    obtain ⟨hsecret, hname⟩ := (secret_iff h htext).mp hsecret
    rw [hserver] at hupgrade
    obtain ⟨hconnection, hupgrade⟩ := (asksUpgrade_iff h hsecret).mp hupgrade
    exact ⟨(path_iff h).mp hpath, hsecret, htext, hname, hconnection, hupgrade, hhost⟩
  · intro hagree
    obtain ⟨ep, e', hep, hparse, hdisplay⟩ := decoded_iff.mpr ⟨hagree.text, hagree.host⟩
    refine ⟨e', (Server.check_eq_ok_iff server config).mpr ⟨?_, ?_, ?_, ep, ?_, hparse⟩, hdisplay⟩
    · exact (path_iff h).mpr hagree.path
    · exact (secret_iff h hagree.text).mpr ⟨hagree.secret, hagree.name⟩
    · rw [hserver]
      exact (asksUpgrade_iff h hagree.secret).mpr ⟨hagree.connection, hagree.upgrade⟩
    · rw [get_endpointHeaderKey h, Option.bind_some]
      exact hep

/-- Targets in origin form and the asterisk; nothing else has a path. -/
def originTargets : Targets where
  accepts path := path.all fun c => 32 < c.toNat && c.toNat < 127
  path
    | '/' :: rest => '/' :: rest.takeWhile (· ≠ '?')
    | ['*']       => ['*']
    | _           => []
  path_slash := by
    intro target h _
    obtain ⟨rest, rfl⟩ := List.head?_eq_some_iff.mp h
    simp
  path_asterisk := rfl
  path_form := by
    intro target
    split <;> simp

/-- A library that accepts tokens as names and visible ASCII as values. -/
def plainLibrary : Library where
  targets := originTargets
  acceptsHost host := !host.isEmpty
  acceptsName name := !name.isEmpty && name.utf8Bytes.all isToken
  acceptsValue text := text.utf8Bytes.all isVisibleAscii
  upgradeHeaders host := some [("host", host.utf8Bytes), ("connection", "Upgrade".utf8Bytes),
    ("upgrade", "websocket".utf8Bytes), ("sec-websocket-version", "13".utf8Bytes),
    ("sec-websocket-key", "dGhlIHNhbXBsZSBub25jZQ==".utf8Bytes)]
  asksConnection host headers h := by
    cases h
    exact Headers.hasToken_of_mem (List.mem_cons_of_mem _ List.mem_cons_self) (by decide)
  asksWebSocket host headers h := by
    cases h
    exact Headers.hasToken_of_mem
      (List.mem_cons_of_mem _ (List.mem_cons_of_mem _ List.mem_cons_self)) (by decide)

/-- A library that recognises an upgrade by its two headers. -/
def tokenLibrary : Server.Library where
  isUpgradeRequest := asksUpgrade
  deriveAcceptKey key := key

lemma agreeable_example : Agreeable Server.exampleConfig (.domain "a.com" 80) where
  path := .inr ⟨by decide, by decide, by decide⟩
  secret := toStr_trim_iff.mp (by decide)
  text := toStr_trim_iff.mp (by decide)
  name h := absurd h (by decide)
  connection h := absurd h (by decide)
  upgrade h := absurd h (by decide)
  host := by
    rintro ⟨d, p, heq, ⟨text, scope, hbracket, -⟩, -⟩
    cases heq
    simp at hbracket

/-- The server accepts the request of a client for the path `/s`. -/
theorem agree_example : ∃ sent,
    upgradeRequest plainLibrary Server.exampleConfig (.domain "a.com" 80) = .ok sent ∧
    ∃ e', Server.check tokenLibrary Server.exampleConfig (received plainLibrary sent) = .ok e' ∧
      e'.display = Endpoint.display (.domain "a.com" 80) := by
  have hsent : upgradeRequest plainLibrary Server.exampleConfig (.domain "a.com" 80) = .ok _ := rfl
  refine ⟨_, hsent, (agree_iff ?_ hsent).mpr agreeable_example⟩
  intro request
  rfl

def queryConfig : Config := ⟨"example.com", "/s?v=1", ("x-secret", "1")⟩

/-- The client sends the query of its path, and the server compares the path without it. -/
theorem disagree_of_query : ∃ sent,
    upgradeRequest plainLibrary queryConfig (.domain "a.com" 80) = .ok sent ∧
    Server.check tokenLibrary queryConfig (received plainLibrary sent)
      = .error "Got a simplex request to wrong path: /s" ∧
    ¬∃ e', Server.check tokenLibrary queryConfig (received plainLibrary sent) = .ok e' ∧
      e'.display = Endpoint.display (.domain "a.com" 80) := by
  refine ⟨_, rfl, by decide, ?_⟩
  rintro ⟨e', hcheck, -⟩
  obtain ⟨hpath, -⟩ := (Server.check_eq_ok_iff _ _).mp hcheck
  exact absurd hpath (by decide)

end Dandelion.Simplex.Client
