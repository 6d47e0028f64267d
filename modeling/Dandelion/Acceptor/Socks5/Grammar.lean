import Dandelion.Acceptor.Socks5
import Dandelion.Core.Feed

/-!
# What the SOCKS5 acceptor accepts

The requests of a client as a grammar. However the stream of the client is fragmented, the acceptor
returns exactly for a stream that begins with a greeting and a request, and then has read these and
nothing else.
-/

namespace Dandelion.Acceptor.Socks5

open Net Proc

/-- A greeting that offers to do without authentication. -/
inductive Greeting : List UInt8 → Prop
  | mk (n : UInt8) (methods : List UInt8) (hn : 1 ≤ n.toNat) (hlen : methods.length = n.toNat)
      (hmethods : 0 ∈ methods) : Greeting (5 :: n :: methods)

/-- The bytes of a host, by the type of its address. -/
inductive Host : UInt8 → List UInt8 → IpOrDomain → Prop
  | ipv4 (a b c d : UInt8) : Host 1 [a, b, c, d] (.ip (.v4 ⟨a, b, c, d⟩))
  | domain (len : UInt8) (domain : String) (hlen : domain.utf8Bytes.length = len.toNat) :
      Host 3 (len :: domain.utf8Bytes) (.domain domain)
  | ipv6 (octets : List UInt8) (hlen : octets.length = 16) :
      Host 4 octets (.ip (.v6 (.ofOctets octets)))

def IpOrDomain.endpoint (port : UInt16) : IpOrDomain → Endpoint
  | .ip addr  => .addr (.new addr port)
  | .domain d => .domain d port

/-- The bytes of a request for an endpoint. -/
inductive Request : UInt8 → List UInt8 → Endpoint → Prop
  | mk (reserved requestType : UInt8) (bytes : List UInt8) (host : IpOrDomain) (port : UInt16)
      (hhost : Host requestType bytes host) :
      Request requestType ([5, 1, reserved, requestType] ++ bytes ++ port.toBeBytes)
        (host.endpoint port)

/-- The choice of the reply as the code makes it: no arm is left for other types. -/
def responseArm (requestType : UInt8) : Option (List UInt8) :=
  if requestType = 1 ∨ requestType = 3 then some [5, 0, 0, 1, 0, 0, 0, 0, 0, 0]
  else if requestType = 4 then
    some [5, 0, 0, 4, 0, 0, 0, 0, 0, 0, 0, 0, 0, 0, 0, 0, 0, 0, 0, 0, 0, 0]
  else none

/-- The type of an accepted request has an arm. -/
lemma Request.responseArm_eq {requestType : UInt8} {bytes : List UInt8} {e : Endpoint}
    (h : Request requestType bytes e) : responseArm requestType = some (response requestType) := by
  obtain ⟨reserved, _, bytes, host, port, hhost⟩ := h
  cases hhost <;> rfl

variable {stream wrote left : List UInt8}

/-! ### The greeting -/

lemma readGreeting_reads : readGreeting.Reads fun _ => Greeting := by
  intro stream wrote u left
  simp only [readGreeting, returns_read_bind_iff, returns_ensure_bind_iff, returns_ensure_iff]
  constructor
  · rintro ⟨buf, mid, hbuf, rfl, hversion, hcount, methods, _, hlen, rfl, hmethods, rfl, rfl⟩
    obtain ⟨version, n, rfl⟩ := List.length_eq_two.mp hbuf
    obtain rfl : version = 5 := by simpa using hversion
    have hn : n ≠ 0 := by simpa using hcount
    have hpos : 1 ≤ n.toNat := Nat.one_le_iff_ne_zero.mpr fun h => hn (UInt8.toNat_inj.mp h)
    exact ⟨rfl, _, .mk n methods hpos hlen (by simpa using hmethods), rfl⟩
  · rintro ⟨rfl, _, ⟨n, methods, hn, hlen, hmethods⟩, rfl⟩
    have hcount : n ≠ 0 := by
      rintro rfl
      simp at hn
    exact ⟨[5, n], methods ++ left, rfl, rfl, rfl, by simpa using hcount, methods, left, hlen, rfl,
      by simpa using hmethods, rfl, rfl⟩

lemma silent_readGreeting : readGreeting.Silent :=
  (silent_read 2).bind fun _ => (silent_ensure _ _).bind fun _ => (silent_ensure _ _).bind fun _ =>
    (silent_read _).bind fun _ => silent_ensure _ _

/-! ### The request -/

lemma readIpOrDomain_reads (requestType : UInt8) :
    (readIpOrDomain requestType).Reads fun host bytes => Host requestType bytes host := by
  intro stream wrote host left
  constructor
  · rw [readIpOrDomain]
    split_ifs with h1 h3 h4
    · intro hreturns
      obtain ⟨rfl, buf, hlen, rfl, rfl⟩ := returns_read_ret_iff.mp hreturns
      obtain ⟨a, b, c, d, rfl⟩ := List.of_length_eq_four hlen
      exact ⟨rfl, _, h1 ▸ .ipv4 a b c d, rfl⟩
    · simp only [returns_read_bind_iff]
      rintro ⟨len, mid, hlen, rfl, buf, mid', hbuf, rfl, hret⟩
      obtain ⟨n, rfl⟩ := List.length_eq_one_iff.mp hlen
      cases hdomain : String.fromUtf8Bytes buf with
      | none =>
        rw [hdomain] at hret
        exact absurd hret not_returns_fail
      | some domain =>
        rw [hdomain] at hret
        obtain ⟨rfl, rfl, rfl⟩ := returns_ret_iff.mp hret
        obtain rfl := String.fromUtf8Bytes_eq_some_iff.mp hdomain
        refine ⟨rfl, n :: domain.utf8Bytes, ?_, rfl⟩
        rw [h3]
        exact .domain n domain hbuf
    · intro hreturns
      obtain ⟨rfl, buf, hlen, rfl, rfl⟩ := returns_read_ret_iff.mp hreturns
      exact ⟨rfl, _, h4 ▸ .ipv6 buf hlen, rfl⟩
    · exact fun h => absurd h not_returns_fail
  · rintro ⟨rfl, bytes, hhost, rfl⟩
    cases hhost with
    | ipv4 a b c d => rfl
    | domain len domain hlen =>
      refine returns_read_bind_iff.mpr ⟨[len], domain.utf8Bytes ++ left, rfl, rfl, ?_⟩
      refine returns_read_bind_iff.mpr ⟨domain.utf8Bytes, left, hlen, rfl, ?_⟩
      rw [String.fromUtf8Bytes_utf8Bytes]
      rfl
    | ipv6 _ hlen => exact returns_read_ret_iff.mpr ⟨rfl, bytes, hlen, rfl, rfl⟩

lemma silent_readIpOrDomain (requestType : UInt8) : (readIpOrDomain requestType).Silent := by
  rw [readIpOrDomain]
  split_ifs
  · exact (silent_read 4).bind fun _ => silent_ret _
  · refine (silent_read 1).bind fun len => (silent_read _).bind fun buf => ?_
    cases String.fromUtf8Bytes buf with
    | none => exact silent_fail _
    | some domain => exact silent_ret _
  · exact (silent_read 16).bind fun _ => silent_ret _
  · exact silent_fail _

lemma readRequest_reads : readRequest.Reads fun result request => ∃ requestType,
    Request requestType request result.1 ∧ result.2 = Proc.write (response requestType) := by
  rintro stream wrote ⟨e, reply⟩ left
  simp only [readRequest, returns_read_bind_iff, returns_ensure_bind_iff,
    (readIpOrDomain_reads _).bind_iff]
  constructor
  · rintro ⟨buf, mid, hbuf, rfl, hversion, hcommand, host, bytes, _, hhost, rfl, port, _, hport,
      rfl, hret⟩
    obtain ⟨version, command, reserved, requestType, rfl⟩ := List.of_length_eq_four hbuf
    obtain rfl : version = 5 := by simpa using hversion
    obtain rfl : command = 1 := by simpa using hcommand
    obtain ⟨high, low, rfl⟩ := List.length_eq_two.mp hport
    obtain ⟨rfl, heq, rfl⟩ := returns_ret_iff.mp hret
    cases heq
    have hrequest := Request.mk reserved requestType bytes host (.fromBeBytes high low) hhost
    rw [UInt16.toBeBytes_fromBeBytes] at hrequest
    refine ⟨rfl, [5, 1, reserved, requestType] ++ bytes ++ [high, low], ⟨requestType, ?_, rfl⟩,
      by simp⟩
    cases host with
    | ip addr => exact hrequest
    | domain d => exact hrequest
  · rintro ⟨rfl, _, ⟨requestType, ⟨reserved, _, bytes, host, port, hhost⟩, rfl⟩, rfl⟩
    refine ⟨[5, 1, reserved, requestType], bytes ++ port.toBeBytes ++ left, rfl, by simp, rfl, rfl,
      host, bytes, port.toBeBytes ++ left, hhost, by simp, port.toBeBytes, left, rfl, rfl, ?_⟩
    refine returns_ret_iff.mpr ⟨rfl, ?_, rfl⟩
    have hport : UInt16.fromBeBytes (port.toBeBytes.getD 0 0) (port.toBeBytes.getD 1 0) = port :=
      UInt16.fromBeBytes_high_low port
    cases host with
    | ip addr => simp only [hport]; rfl
    | domain d => simp only [hport]; rfl

lemma silent_readRequest : readRequest.Silent :=
  (silent_read 4).bind fun _ => (silent_ensure _ _).bind fun _ => (silent_ensure _ _).bind fun _ =>
    (silent_readIpOrDomain _).bind fun _ => (silent_read 2).bind fun _ => silent_ret _

/-! ### The handshake -/

lemma handshake_returns_iff {e : Endpoint} {reply : Proc String Unit} :
    handshake.Returns stream wrote (e, reply) left ↔
      wrote = [5, 0] ∧ ∃ greeting request requestType, Greeting greeting ∧
        Request requestType request e ∧ reply = Proc.write (response requestType) ∧
        stream = greeting ++ request ++ left := by
  simp only [handshake, readGreeting_reads.bind_iff, returns_write_bind_iff]
  constructor
  · rintro ⟨_, greeting, _, hgreeting, rfl, _, rfl, hrest⟩
    obtain ⟨rfl, request, ⟨requestType, hrequest, rfl⟩, rfl⟩ := (readRequest_reads _ _ _ _).mp hrest
    exact ⟨rfl, greeting, request, requestType, hgreeting, hrequest, rfl, by simp⟩
  · rintro ⟨rfl, greeting, request, requestType, hgreeting, hrequest, rfl, rfl⟩
    exact ⟨(), greeting, request ++ left, hgreeting, by simp, [], rfl,
      (readRequest_reads _ _ _ _).mpr ⟨rfl, request, ⟨requestType, hrequest, rfl⟩, rfl⟩⟩

/-- The answer to the greeting is all that is written, and only if the greeting is valid. -/
lemma wrote_feed_handshake (stream : List UInt8) :
    ((∃ greeting, Greeting greeting ∧ greeting <+: stream) ∧
        (handshake.feed stream).wrote = [5, 0]) ∨
      ((¬∃ greeting, Greeting greeting ∧ greeting <+: stream) ∧
        (handshake.feed stream).wrote = []) := by
  by_cases hvalid : ∃ greeting, Greeting greeting ∧ greeting <+: stream
  · obtain ⟨greeting, hgreeting, left, rfl⟩ := hvalid
    have hfeed : readGreeting.feed (greeting ++ left) = ⟨[], left, .ret ()⟩ :=
      (readGreeting_reads _ _ _ _).mpr ⟨rfl, greeting, hgreeting, rfl⟩
    refine .inl ⟨⟨greeting, hgreeting, left, rfl⟩, ?_⟩
    rw [handshake, feed_bind, hfeed]
    change [5, 0] ++ (readRequest.feed left).wrote = [5, 0]
    rw [silent_readRequest left, List.append_nil]
  · refine .inr ⟨hvalid, ?_⟩
    rw [handshake, feed_bind]
    split
    case h_1 u hret =>
      have hreturns : readGreeting.Returns stream _ u _ := congrArg (Fed.mk _ _) hret
      obtain ⟨-, greeting, hgreeting, hstream⟩ := (readGreeting_reads _ _ _ _).mp hreturns
      exact absurd ⟨greeting, hgreeting, _, hstream.symm⟩ hvalid
    case h_2 => exact silent_readGreeting stream
    case h_3 => exact silent_readGreeting stream

/-- However the stream of a client is fragmented, the acceptor comes to an end. It never writes
anything but the answer to the greeting, and that only after a valid greeting. At the end it has
returned exactly if the stream begins with a greeting and a request, for the endpoint of the
request. It then has read these and nothing else, and the reply is left to the program that it
returns. -/
theorem handshake_accepts_grammar (stream : List UInt8) :
    Acc Rest handshake ∧
    (∀ acts P rest, handshake.RunsOn stream acts P rest → wroteBytes acts <+: [5, 0] ∧
      (wroteBytes acts ≠ [] → ∃ greeting, Greeting greeting ∧ greeting <+: gotBytes acts)) ∧
    ∀ acts P rest, handshake.RunsOn stream acts P rest → P.Stuck rest →
      (∀ e, (∃ reply, P = ret (e, reply)) ↔ ∃ greeting request requestType,
        Greeting greeting ∧ Request requestType request e ∧ greeting ++ request <+: stream) ∧
      (∀ e reply, P = ret (e, reply) → ∃ greeting request requestType,
        Greeting greeting ∧ Request requestType request e ∧ gotBytes acts = greeting ++ request ∧
        ∃ bytes, responseArm requestType = some bytes ∧ reply = Proc.write bytes) ∧
      (wroteBytes acts = [5, 0] ↔ ∃ greeting, Greeting greeting ∧ greeting <+: stream) := by
  refine ⟨acc_rest handshake, ?_, ?_⟩
  · intro acts P rest hrun
    have hfront := wroteBytes_start hrun.steps
    rcases wrote_feed_handshake (gotBytes acts) with ⟨hvalid, hwrote⟩ | ⟨-, hwrote⟩
    · rw [hwrote] at hfront
      exact ⟨hfront, fun _ => hvalid⟩
    · rw [hwrote, List.prefix_nil] at hfront
      rw [hfront]
      exact ⟨List.nil_prefix, fun h => absurd rfl h⟩
  · intro acts P rest hrun hstuck
    refine ⟨fun e => ⟨?_, ?_⟩, ?_, ?_⟩
    · rintro ⟨reply, rfl⟩
      obtain ⟨-, greeting, request, requestType, hgreeting, hrequest, -, hstream⟩ :=
        handshake_returns_iff.mp hrun.returns
      exact ⟨greeting, request, requestType, hgreeting, hrequest, rest, hstream.symm⟩
    · rintro ⟨greeting, request, requestType, hgreeting, hrequest, left, hstream⟩
      refine ⟨Proc.write (response requestType), (hrun.eq_ret_iff hstuck _).mpr ⟨[5, 0], left, ?_⟩⟩
      exact handshake_returns_iff.mpr
        ⟨rfl, greeting, request, requestType, hgreeting, hrequest, rfl, hstream.symm⟩
    · rintro e reply rfl
      obtain ⟨-, greeting, request, requestType, hgreeting, hrequest, rfl, hstream⟩ :=
        handshake_returns_iff.mp hrun.returns
      rw [hrun.stream_eq] at hstream
      exact ⟨greeting, request, requestType, hgreeting, hrequest, List.append_cancel_right hstream,
        response requestType, hrequest.responseArm_eq, rfl⟩
    · obtain ⟨ending, hfeed, -⟩ := hrun.feed_eq hstuck
      have hwrote := wrote_feed_handshake stream
      rw [hfeed] at hwrote
      rcases hwrote with ⟨hvalid, hwrote⟩ | ⟨hvalid, hwrote⟩
      · exact ⟨fun _ => hvalid, fun _ => hwrote⟩
      · refine ⟨fun h => ?_, fun h => absurd h hvalid⟩
        cases h.symm.trans hwrote

end Dandelion.Acceptor.Socks5
