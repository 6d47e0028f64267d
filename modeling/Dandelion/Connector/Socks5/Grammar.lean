import Dandelion.Connector.Socks5
import Dandelion.Core.Feed

/-!
# What the SOCKS5 connector accepts

The replies of a server as a grammar. However the stream of the server is fragmented, the connector
returns exactly for a stream that begins with the answer to the greeting and a reply, and then has
read these and nothing else.
-/

namespace Dandelion.Connector.Socks5

open Proc

/-- The bytes of a bound address, by its type. -/
inductive BoundAddr : UInt8 → List UInt8 → Prop
  | ipv4 (octets : List UInt8) (hlen : octets.length = 4) : BoundAddr 1 octets
  | domain (len : UInt8) (name : List UInt8) (hlen : name.length = len.toNat) :
      BoundAddr 3 (len :: name)
  | ipv6 (octets : List UInt8) (hlen : octets.length = 16) : BoundAddr 4 octets

/-- The bytes of a reply that tells of success. -/
inductive Reply : List UInt8 → Prop
  | mk (addressType : UInt8) (bound port : List UInt8) (hbound : BoundAddr addressType bound)
      (hport : port.length = 2) : Reply ([5, 0, 0, addressType] ++ bound ++ port)

/-- The bytes of the request. -/
def requestBytes (e : Endpoint) : List UInt8 :=
  [5, 1, 0, 3, UInt8.ofNat e.hostname.utf8Bytes.length] ++ e.hostname.utf8Bytes ++
    e.port.toBeBytes

/-! ### The answer to the greeting -/

lemma readMethod_reads : readMethod.Reads fun _ answer => answer = [5, 0] := by
  intro stream wrote u left
  simp only [readMethod, returns_read_bind_iff, returns_ensure_bind_iff, returns_ensure_iff]
  constructor
  · rintro ⟨buf, mid, hbuf, rfl, hversion, hmethod, rfl, rfl⟩
    obtain ⟨version, method, rfl⟩ := List.length_eq_two.mp hbuf
    obtain rfl : version = 5 := by simpa using hversion
    obtain rfl : method = 0 := by simpa using hmethod
    exact ⟨rfl, _, rfl, rfl⟩
  · rintro ⟨rfl, _, rfl, rfl⟩
    exact ⟨[5, 0], left, rfl, rfl, rfl, rfl, rfl, rfl⟩

lemma silent_readMethod : readMethod.Silent :=
  (silent_read 2).bind fun _ => (silent_ensure _ _).bind fun _ => silent_ensure _ _

/-! ### The reply -/

lemma skipBoundAddr_reads (addressType : UInt8) :
    (skipBoundAddr addressType).Reads fun _ skipped =>
      ∃ bound port, BoundAddr addressType bound ∧ port.length = 2 ∧ skipped = bound ++ port := by
  intro stream wrote u left
  constructor
  · rw [skipBoundAddr]
    split_ifs with h1 h3 h4
    · intro hreturns
      obtain ⟨rfl, buf, hlen, rfl, rfl⟩ := returns_read_ret_iff.mp hreturns
      refine ⟨rfl, buf, ⟨buf.take 4, buf.drop 4, ?_, by simp [hlen], by simp⟩, rfl⟩
      rw [h1]
      exact .ipv4 _ (by simp [hlen])
    · intro hreturns
      obtain ⟨len, mid, hlen, rfl, hreturns⟩ := returns_read_bind_iff.mp hreturns
      obtain ⟨n, rfl⟩ := List.length_eq_one_iff.mp hlen
      obtain ⟨rfl, buf, hbuf, rfl, rfl⟩ := returns_read_ret_iff.mp hreturns
      have hbuf' : buf.length = n.toNat + 2 := hbuf
      refine ⟨rfl, n :: buf, ⟨n :: buf.take n.toNat, buf.drop n.toNat, ?_, ?_, ?_⟩, rfl⟩
      · rw [h3]
        exact .domain n _ (by simp [hbuf'])
      · simp [hbuf']
      · simp
    · intro hreturns
      obtain ⟨rfl, buf, hlen, rfl, rfl⟩ := returns_read_ret_iff.mp hreturns
      refine ⟨rfl, buf, ⟨buf.take 16, buf.drop 16, ?_, by simp [hlen], by simp⟩, rfl⟩
      rw [h4]
      exact .ipv6 _ (by simp [hlen])
    · exact fun h => absurd h not_returns_fail
  · rintro ⟨rfl, _, ⟨bound, port, hbound, hport, rfl⟩, rfl⟩
    cases hbound with
    | ipv4 _ hlen =>
      exact returns_read_ret_iff.mpr ⟨rfl, bound ++ port, by simp [hlen, hport], rfl, rfl⟩
    | domain len name hlen =>
      refine returns_read_bind_iff.mpr ⟨[len], name ++ port ++ left, rfl, by simp, ?_⟩
      exact returns_read_ret_iff.mpr ⟨rfl, name ++ port, by simp [hlen, hport], rfl, rfl⟩
    | ipv6 _ hlen =>
      exact returns_read_ret_iff.mpr ⟨rfl, bound ++ port, by simp [hlen, hport], rfl, rfl⟩

lemma silent_skipBoundAddr (addressType : UInt8) : (skipBoundAddr addressType).Silent := by
  rw [skipBoundAddr]
  split_ifs
  · exact (silent_read 6).bind fun _ => silent_ret _
  · exact (silent_read 1).bind fun _ => (silent_read _).bind fun _ => silent_ret _
  · exact (silent_read 18).bind fun _ => silent_ret _
  · exact silent_fail _

lemma readReply_reads : readReply.Reads fun _ => Reply := by
  intro stream wrote u left
  simp only [readReply, returns_read_bind_iff, returns_ensure_bind_iff, skipBoundAddr_reads _ _ _]
  constructor
  · rintro ⟨buf, mid, hbuf, rfl, hversion, hstatus, hreserved, rfl, _,
      ⟨bound, port, hbound, hport, rfl⟩, rfl⟩
    obtain ⟨version, status, reserved, addressType, rfl⟩ := List.of_length_eq_four hbuf
    obtain rfl : version = 5 := by simpa using hversion
    obtain rfl : status = 0 := by simpa using hstatus
    obtain rfl : reserved = 0 := by simpa using hreserved
    exact ⟨rfl, _, .mk addressType bound port hbound hport, by simp⟩
  · rintro ⟨rfl, _, ⟨addressType, bound, port, hbound, hport⟩, rfl⟩
    exact ⟨[5, 0, 0, addressType], bound ++ port ++ left, rfl, by simp, rfl, rfl, rfl, rfl,
      bound ++ port, ⟨bound, port, hbound, hport, rfl⟩, rfl⟩

lemma silent_readReply : readReply.Silent :=
  (silent_read 4).bind fun _ => (silent_ensure _ _).bind fun _ => (silent_ensure _ _).bind fun _ =>
    (silent_ensure _ _).bind fun _ => silent_skipBoundAddr _

/-! ### The whole exchange -/

variable {e : Endpoint}

lemma feed_sendRequest_bind (hlen : e.hostname.utf8Bytes.length ≤ 255) {β : Type}
    (f : Unit → Proc String β) (stream : List UInt8) :
    (sendRequest e >>= f).feed stream = ((f ()).feed stream).after (requestBytes e) := by
  simp only [sendRequest, hlen, decide_true, ensure_true]
  change ((((f ()).feed stream).after _).after _).after _ = _
  rw [Fed.after_after, Fed.after_after, requestBytes, List.append_assoc]

lemma feed_connect (e : Endpoint) (stream : List UInt8) :
    (connect e).feed stream
      = ((readMethod >>= fun _ => sendRequest e >>= fun _ => readReply).feed stream).after
          [5, 1, 0] := rfl

lemma feed_connect_of_answer (hlen : e.hostname.utf8Bytes.length ≤ 255) (stream : List UInt8) :
    (connect e).feed ([5, 0] ++ stream)
      = (readReply.feed stream).after ([5, 1, 0] ++ requestBytes e) := by
  have hmethod : readMethod.feed ([5, 0] ++ stream) = ⟨[], stream, .ret ()⟩ :=
    (readMethod_reads _ _ _ _).mpr ⟨rfl, [5, 0], rfl, rfl⟩
  rw [feed_connect, feed_bind, hmethod]
  simp only [feed_sendRequest_bind hlen, Fed.after_after, List.nil_append]

lemma feed_connect_of_no_answer {stream : List UInt8} (hanswer : ¬[5, 0] <+: stream) :
    ((connect e).feed stream).wrote = [5, 1, 0] ∧
      ∀ u, ((connect e).feed stream).ending ≠ .ret u := by
  rw [feed_connect, feed_bind]
  split
  case h_1 u hret =>
    have hreturns : readMethod.Returns stream _ u _ := congrArg (Fed.mk _ _) hret
    obtain ⟨-, _, rfl, hstream⟩ := (readMethod_reads _ _ _ _).mp hreturns
    exact absurd ⟨_, hstream.symm⟩ hanswer
  case h_2 => simp [Fed.after, silent_readMethod stream]
  case h_3 => simp [Fed.after, silent_readMethod stream]

lemma connect_returns_iff (hlen : e.hostname.utf8Bytes.length ≤ 255)
    {stream wrote left : List UInt8} {u : Unit} :
    (connect e).Returns stream wrote u left ↔ wrote = [5, 1, 0] ++ requestBytes e ∧
      ∃ reply, Reply reply ∧ stream = [5, 0] ++ reply ++ left := by
  constructor
  · intro hreturns
    by_cases hanswer : [5, 0] <+: stream
    · obtain ⟨tail, rfl⟩ := hanswer
      have hsilent := silent_readReply tail
      rw [Returns, feed_connect_of_answer hlen] at hreturns
      rcases hreply : readReply.feed tail with ⟨wrote', left', ending⟩
      rw [hreply] at hreturns hsilent
      obtain rfl : wrote' = [] := hsilent
      cases hreturns
      obtain ⟨-, reply, hgrammar, rfl⟩ := (readReply_reads _ _ _ _).mp hreply
      exact ⟨by simp, reply, hgrammar, by simp⟩
    · refine absurd ?_ ((feed_connect_of_no_answer (e := e) hanswer).2 u)
      rw [hreturns]
  · rintro ⟨rfl, reply, hgrammar, rfl⟩
    have hreply : readReply.feed (reply ++ left) = ⟨[], left, .ret u⟩ :=
      (readReply_reads _ _ _ _).mpr ⟨rfl, reply, hgrammar, rfl⟩
    rw [Returns, List.append_assoc, feed_connect_of_answer hlen, hreply]
    simp [Fed.after]

/-- However the stream of a server is fragmented, the connector comes to an end. It writes its
greeting, and the request only after the answer to the greeting. At the end it has returned exactly
if the stream begins with this answer and a reply of success, and then has written the whole
request, has read these and nothing else. -/
theorem connect_accepts_grammar (e : Endpoint) (hlen : e.hostname.utf8Bytes.length ≤ 255)
    (stream : List UInt8) :
    (UInt8.ofNat e.hostname.utf8Bytes.length).toNat = e.hostname.utf8Bytes.length ∧
    Acc Rest (connect e) ∧
    (∀ acts P rest, (connect e).RunsOn stream acts P rest →
      wroteBytes acts <+: [5, 1, 0] ++ requestBytes e ∧
      (¬wroteBytes acts <+: [5, 1, 0] → [5, 0] <+: gotBytes acts)) ∧
    ∀ acts P rest, (connect e).RunsOn stream acts P rest → P.Stuck rest →
      (P = ret () ↔ ∃ reply, Reply reply ∧ [5, 0] ++ reply <+: stream) ∧
      (P = ret () → (∃ reply, Reply reply ∧ gotBytes acts = [5, 0] ++ reply) ∧
        wroteBytes acts = [5, 1, 0] ++ requestBytes e) := by
  refine ⟨?_, acc_rest (connect e), ?_, ?_⟩
  · rw [UInt8.toNat_ofNat']
    omega
  · intro acts P rest hrun
    have hfront := wroteBytes_start hrun.steps
    by_cases hanswer : [5, 0] <+: gotBytes acts
    · refine ⟨?_, fun _ => hanswer⟩
      obtain ⟨tail, htail⟩ := hanswer
      rw [← htail, feed_connect_of_answer hlen, Fed.after, silent_readReply tail,
        List.append_nil] at hfront
      exact hfront
    · rw [(feed_connect_of_no_answer hanswer).1] at hfront
      exact ⟨hfront.trans (List.prefix_append _ _), fun h => absurd hfront h⟩
  · intro acts P rest hrun hstuck
    refine ⟨⟨?_, ?_⟩, ?_⟩
    · rintro rfl
      obtain ⟨-, reply, hgrammar, hstream⟩ := (connect_returns_iff hlen).mp hrun.returns
      exact ⟨reply, hgrammar, rest, hstream.symm⟩
    · rintro ⟨reply, hgrammar, left, hstream⟩
      refine (hrun.eq_ret_iff hstuck ()).mpr ⟨[5, 1, 0] ++ requestBytes e, left, ?_⟩
      exact (connect_returns_iff hlen).mpr ⟨rfl, reply, hgrammar, hstream.symm⟩
    · rintro rfl
      obtain ⟨hwrote, reply, hgrammar, hstream⟩ := (connect_returns_iff hlen).mp hrun.returns
      rw [hrun.stream_eq] at hstream
      exact ⟨⟨reply, hgrammar, List.append_cancel_right hstream⟩, hwrote⟩

/-- A reply with an empty name, and a tunnel behind it. -/
theorem connect_accepts_empty_name :
    (Endpoint.domain "example.com" 443).hostname.utf8Bytes.length ≤ 255 ∧
    ∀ acts P rest, (connect (.domain "example.com" 443)).RunsOn
        [5, 0, 5, 0, 0, 3, 0, 0, 80, 1, 2] acts P rest → P.Stuck rest → P = ret () := by
  refine ⟨by decide, fun acts P rest hrun hstuck => ?_⟩
  obtain ⟨-, -, -, hend⟩ := connect_accepts_grammar (.domain "example.com" 443) (by decide)
    [5, 0, 5, 0, 0, 3, 0, 0, 80, 1, 2]
  refine (hend acts P rest hrun hstuck).1.mpr ⟨[5, 0, 0, 3, 0, 0, 80], ?_, [1, 2], rfl⟩
  exact .mk 3 [0] [0, 80] (.domain 0 [] rfl) rfl

end Dandelion.Connector.Socks5
