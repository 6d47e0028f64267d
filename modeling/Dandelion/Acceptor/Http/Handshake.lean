import Dandelion.Acceptor.Http
import Dandelion.Net.Serve

/-!
# The handshake of the HTTP acceptor

The handshake serves a client connection until the first request has named an endpoint. Its future
then lets the request proceed and gives the stream to be joined with that endpoint: the transport
of the client after a `CONNECT`, and the other end of an upstream connection otherwise.
-/

namespace Dandelion.Acceptor.HttpProxy

open Net Http

/-- The stream that the future gives. -/
inductive HandshakeIo where
  | client (reads : List (List UInt8))
  | upstream
deriving DecidableEq

/-- What the first request meets when the future is run. -/
def Surroundings.running (request : Request) : Surroundings where
  receiver := true
  done := some (if request.method = .connect then none else some ())
  ready := .ok ()
  response := .ok ()

/-- The endpoint, and what running the future gives, on a client that sends `reads`, when the
connection has made `k` of them. -/
def handshake (parseUri : String → Option Uri) (parseHead : List UInt8 → Option (Request × ℕ))
    (reads : List (List UInt8)) (k : ℕ) :
    Except String (Endpoint × Except String HandshakeIo) :=
  match serveConnection parseHead reads k with
  | none => .error "No HTTP request received."
  | some (request, parts) =>
    let (c, answer) := handler parseUri .new request (.running request)
    match c.delivered with
    -- the connection ends with the error of the handler
    | none => .error "No HTTP request received."
    | some (true, endpoint) =>
      match answer.reply with
      | .response      => .ok (endpoint, .ok (.client parts.io))
      | .error message => .ok (endpoint, .error message)
      | .panic message => .ok (endpoint, .error message)
    | some (false, endpoint) => .ok (endpoint, .ok .upstream)

section

variable {parseUri : String → Option Uri} {parseHead : List UInt8 → Option (Request × ℕ)}
  {reads : List (List UInt8)} {k : ℕ} {request : Request} {parts : Parts} {e : Endpoint}
  {head payload : List UInt8}

/-- A tunnel is the transport alone. -/
lemma handshake_of_connect (hserve : serveConnection parseHead reads k = some (request, parts))
    (hconnect : request.method = .connect) (hendpoint : Endpoint.fromStr request.uri.text = .ok e) :
    handshake parseUri parseHead reads k = .ok (e, .ok (.client parts.io)) := by
  have hhandler : handler parseUri .new request (.running request)
      = (⟨.notConnected false, some (true, e)⟩, ⟨none, .response⟩) := by
    simp only [handler, hconnect, if_true, handleConnect, Connection.new, hendpoint,
      Surroundings.running]
  simp only [handshake, hserve, hhandler]

/-- A tunnel yields what the client sends behind the head of its `CONNECT` if and only if the
connection has not read past that head. -/
theorem tunnel_yields_payload_iff (hstream : reads.flatten = head ++ payload)
    (hhead : ∀ rest, parseHead (head ++ rest) = some (request, head.length))
    (hconnect : request.method = .connect) (hendpoint : Endpoint.fromStr request.uri.text = .ok e)
    (hread : head.length ≤ (reads.take k).flatten.length) :
    (∃ rest, handshake parseUri parseHead reads k = .ok (e, .ok (.client rest)) ∧
        rest.flatten = payload)
      ↔ (reads.take k).flatten.length = head.length := by
  obtain ⟨parts, hserve, hpayload, hlen⟩ := serveConnection_of_head hstream hhead hread
  rw [handshake_of_connect hserve hconnect hendpoint]
  constructor
  · rintro ⟨rest, hrest, hyields⟩
    cases hrest
    rw [← hpayload, List.self_eq_append_left] at hyields
    rw [← hlen, hyields, List.length_nil, Nat.zero_add]
  · intro hexact
    refine ⟨parts.io, rfl, ?_⟩
    have hempty : parts.readBuf = [] := List.eq_nil_of_length_eq_zero (by omega)
    rw [← hpayload, hempty, List.nil_append]

end

/-! ### A client that does not wait -/

/-- The head of a `CONNECT`. -/
def connectHead : List UInt8 := "CONNECT example.org:443 HTTP/1.1\r\n\r\n".utf8Bytes

def connectRequest : Request where
  method := .connect
  uri := ⟨"example.org:443", some ⟨"example.org".toList, .inl (by decide)⟩, some 443, none⟩
  headers := []
  body := []

/-- The parser of heads, on a stream that starts with this one. -/
def parseConnectHead (input : List UInt8) : Option (Request × ℕ) :=
  if connectHead <+: input then some (connectRequest, connectHead.length) else none

lemma parseConnectHead_append (rest : List UInt8) :
    parseConnectHead (connectHead ++ rest) = some (connectRequest, connectHead.length) :=
  if_pos (List.prefix_append _ _)

/-- The bytes of a client that waits for the reply to its `CONNECT` all arrive. -/
theorem tunnel_yields_payload_iff_waiting :
    ∃ rest, handshake (fun _ => none) parseConnectHead [connectHead, [22, 3, 1]] 1
        = .ok (.domain "example.org" 443, .ok (.client rest)) ∧ rest.flatten = [22, 3, 1] := by
  have hstream : [connectHead, [22, 3, 1]].flatten = connectHead ++ [22, 3, 1] := rfl
  apply (tunnel_yields_payload_iff hstream parseConnectHead_append rfl rfl (by decide)).mpr
  rfl

/-- The bytes of a client that does not wait are lost if they arrive with the head. -/
theorem not_tunnel_yields_payload :
    ¬ ∀ (reads : List (List UInt8)) (k : ℕ) (payload : List UInt8),
      reads.flatten = connectHead ++ payload →
      connectHead.length ≤ (reads.take k).flatten.length →
      ∃ rest, handshake (fun _ => none) parseConnectHead reads k
          = .ok (.domain "example.org" 443, .ok (.client rest)) ∧ rest.flatten = payload := by
  intro h
  obtain ⟨rest, hrest, hyields⟩ := h [connectHead ++ [22, 3, 1]] 1 [22, 3, 1] rfl (by decide)
  have hserve : serveConnection parseConnectHead [connectHead ++ [22, 3, 1]] 1
      = some (connectRequest, ⟨[22, 3, 1], []⟩) := rfl
  rw [handshake_of_connect (e := .domain "example.org" 443) hserve rfl rfl] at hrest
  cases hrest
  cases hyields

end Dandelion.Acceptor.HttpProxy
