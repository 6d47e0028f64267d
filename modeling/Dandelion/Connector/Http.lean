import Dandelion.Endpoint
import Dandelion.Net.Http

/-!
# The HTTP connector

Ask an HTTP proxy for a tunnel to an endpoint. The textual form of the endpoint is put into the
request as it is. How the head of a response is parsed is a parameter.
-/

namespace Dandelion.Connector.HttpProxy

open Net Http

/-- Why no tunnel was opened. -/
inductive ConnectError where
  | context (message : String)
  | parse (message : String)
  | notUtf8

/-- A parser of response heads: it fails, wants more, or gives the status code. -/
abbrev ResponseParser := List UInt8 → Except String (Option UInt16)

/-- The bytes of the request. -/
def request (endpoint : Endpoint) : List UInt8 :=
  ("CONNECT " ++ endpoint.display ++ " HTTP/1.1\r\nHost: " ++ endpoint.display ++
    "\r\n\r\n").utf8Bytes

/-- The error for a response with another status than 200. -/
def refused (endpoint : Endpoint) (buf : List UInt8) : ConnectError :=
  match String.fromUtf8Bytes buf with
  | some text =>
    .context ("Failed to CONNECT to " ++ endpoint.display ++ ", got error response " ++ text)
  | none => .notUtf8

/-- Read until the head of the response is complete or the stream has ended. There is no result
while the reads are used up. -/
def readResponse (parse : ResponseParser) (endpoint : Endpoint) :
    (buf : List UInt8) → List (Except String (List UInt8)) → Option (Except ConnectError Unit)
  | _, []                 => none
  | _, .error _ :: _      => some (.error (.context "Failed to read CONNECT response"))
  | _, .ok [] :: _        => some (.ok ())
  | buf, .ok bytes :: reads =>
    let buf := buf ++ bytes
    match parse buf with
    | .error message   => some (.error (.parse message))
    | .ok none         => readResponse parse endpoint buf reads
    | .ok (some code)  => some (if code = 200 then .ok () else .error (refused endpoint buf))

/-- What is written, and the result, given how the write ends and what the reads return. -/
def connect (parse : ResponseParser) (endpoint : Endpoint) (write : Except String Unit)
    (reads : List (Except String (List UInt8))) :
    List UInt8 × Option (Except ConnectError Unit) :=
  (request endpoint,
    match write with
    | .error _ => some (.error (.context
        ("Failed to send CONNECT request to connect to " ++ endpoint.display)))
    | .ok _    => readResponse parse endpoint [] reads)

/-! ### The request as HTTP -/

/-- The request that an endpoint stands for. -/
def requestHead (endpoint : Endpoint) : RequestHead where
  method := "CONNECT".utf8Bytes
  target := endpoint.display.utf8Bytes
  headers := [("Host".utf8Bytes, endpoint.display.utf8Bytes)]

/-- The host of the endpoint is an address, or a name without blanks and control bytes. -/
def HostVisible : Endpoint → Prop
  | .addr _     => True
  | .domain d _ => ∀ b ∈ d.utf8Bytes, isVisible b = true

lemma isVisible_of_plain {cs : List Char} (h : ∀ c ∈ cs, Plain c) :
    ∀ b ∈ (String.ofList cs).utf8Bytes, isVisible b = true := by
  intro b hb
  rw [String.utf8Bytes_ofList] at hb
  obtain ⟨c, hc, hb⟩ := List.mem_flatMap.mp hb
  obtain ⟨hlow, hhigh⟩ := h c hc
  rw [String.utf8EncodeChar_of_lt (by omega), List.mem_singleton] at hb
  have hnat : b.toNat = c.toNat := by
    rw [hb, UInt8.toNat_ofNat']
    omega
  have hne : b ≠ 127 := by
    rintro rfl
    rw [show UInt8.toNat 127 = 127 from rfl] at hnat
    omega
  have hlt : 32 < b := UInt8.lt_iff_toNat_lt.mpr (hnat ▸ hlow)
  simp [isVisible, hlt, hne]

lemma display_visible_iff (e : Endpoint) :
    (∀ b ∈ e.display.utf8Bytes, isVisible b = true) ↔ HostVisible e := by
  cases e with
  | addr a => exact ⟨fun _ => trivial, fun _ => isVisible_of_plain a.plain_display⟩
  | domain d p =>
    have hport : ∀ b ∈ (String.ofList (dec p.toNat)).utf8Bytes, isVisible b = true :=
      isVisible_of_plain (plain_dec _)
    have hcolon : ∀ b ∈ ":".utf8Bytes, isVisible b = true := List.all_eq_true.mp (by decide)
    simp only [Endpoint.display, String.utf8Bytes_append, List.forall_mem_append, HostVisible]
    exact ⟨fun h => h.1.1, fun h => ⟨⟨h, hcolon⟩, hport⟩⟩

lemma colon_mem_display (a : SocketAddr) : ':' ∈ a.display := by
  cases a <;> simp [SocketAddr.display]

lemma display_ne_nil (e : Endpoint) : e.display.utf8Bytes ≠ [] := by
  cases e with
  | addr a =>
    apply List.ne_nil_of_mem (a := 58)
    rw [Endpoint.display, String.utf8Bytes_ofList]
    exact List.mem_flatMap.mpr ⟨':', colon_mem_display a, by decide⟩
  | domain d p =>
    simp only [Endpoint.display, String.utf8Bytes_append]
    have hcolon : ":".utf8Bytes ≠ [] := by decide
    simp [hcolon]

lemma request_eq (e : Endpoint) :
    request e = "CONNECT".utf8Bytes ++ 32 :: (e.display.utf8Bytes ++
      (" HTTP/1.1".utf8Bytes ++ crlf ++ ("Host".utf8Bytes ++ 58 :: 32 ::
        (e.display.utf8Bytes ++ (crlf ++ crlf))))) := by
  have hmethod : "CONNECT ".utf8Bytes = "CONNECT".utf8Bytes ++ [32] := by decide
  have hversion : " HTTP/1.1\r\nHost: ".utf8Bytes
      = " HTTP/1.1".utf8Bytes ++ crlf ++ "Host".utf8Bytes ++ [58, 32] := by decide
  have hend : "\r\n\r\n".utf8Bytes = crlf ++ crlf := by decide
  simp [request, String.utf8Bytes_append, hmethod, hversion, hend]

/-- What is written is exactly the request for the endpoint if and only if the host of the
endpoint has no blanks and no control bytes. -/
theorem connect_writes_request_iff (parse : ResponseParser) (e : Endpoint)
    (write : Except String Unit) (reads : List (Except String (List UInt8))) :
    readRequestHead (connect parse e write reads).1 = some (requestHead e, []) ↔
      HostVisible e := by
  constructor
  · intro hread
    have hvisible := isVisible_of_readRequestHead hread
    exact (display_visible_iff e).mp hvisible
  · intro hvisible
    have htext := (display_visible_iff e).mpr hvisible
    show readRequestHead (request e) = _
    have hmethod : ∀ b ∈ "CONNECT".utf8Bytes, isToken b = true := List.all_eq_true.mp (by decide)
    have hname : ∀ b ∈ "Host".utf8Bytes, isToken b = true := List.all_eq_true.mp (by decide)
    rw [request_eq]
    exact readRequestHead_of_field (by decide) hmethod (display_ne_nil e) htext (by decide) hname
      htext

/-- A name that ends the request line early, adds a header and goes on behind the head. -/
def smuggled : String := "h:1 HTTP/1.1\r\nA: b\r\n\r\n:80"

/-- The written bytes are the head of another request, with more bytes behind it. -/
theorem connect_smuggled :
    Endpoint.fromStr smuggled = .ok (.domain "h:1 HTTP/1.1\r\nA: b\r\n\r\n" 80) ∧
    ∀ (parse : ResponseParser) (write : Except String Unit)
      (reads : List (Except String (List UInt8))),
      readRequestHead
          (connect parse (.domain "h:1 HTTP/1.1\r\nA: b\r\n\r\n" 80) write reads).1
        ≠ some (requestHead (.domain "h:1 HTTP/1.1\r\nA: b\r\n\r\n" 80), []) := by
  constructor
  · decide
  · intro parse write reads
    show readRequestHead (request _) ≠ _
    decide

end Dandelion.Connector.HttpProxy
