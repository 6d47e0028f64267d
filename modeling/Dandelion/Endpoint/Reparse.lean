import Dandelion.Endpoint
import Dandelion.Net.Literal

/-!
# Endpoints that are parsed again

A routing script gets an endpoint as text and hands the text to a connector, which parses it
again. The two agree on the host unless the host is a name in the form of a bracketed IPv6
address.
-/

namespace Net

/-- No address is printed with a bracket in front. -/
lemma Ipv6Addr.head?_display_ne (ip : Ipv6Addr) : ip.display.head? ≠ some '[' := by
  intro hhead
  have hread := readIpv6Addr_display ip (show EndsAddr [] from ⟨noDigit_nil 16, by simp⟩) (by simp)
  rw [List.append_nil] at hread
  obtain ⟨cs, hcs⟩ : ∃ cs, ip.display = '[' :: cs := List.head?_eq_some_iff.mp hhead
  have hstop : readGroups 8 true ('[' :: cs) = ([], false, '[' :: cs) :=
    stops_first (noDigit_cons (by decide)) 8
  rw [hcs] at hread
  simp [readIpv6Addr, hstop, readGivenChar] at hread

end Net

namespace Dandelion

open Net

namespace Endpoint

variable {e : Endpoint}

/-- A name in the form of a bracketed IPv6 address. -/
def HasBracketedName (e : Endpoint) : Prop :=
  ∃ d p, e = .domain d p ∧ BracketedIpv6 d.toList

lemma toList_display_domain (d : String) (p : UInt16) :
    (display (.domain d p)).toList = d.toList ++ ':' :: dec p.toNat := by
  simp [display]

lemma fromStr_display_addr (a : SocketAddr) :
    fromStr (display (.addr a)) = .ok (.addr a.withoutFlowinfo) :=
  fromStr_eq_ok_iff.mpr (.inl ⟨_, a.parse_display, rfl⟩)

/-- A name that is the literal of an IP address is parsed as that address. -/
lemma fromStr_display_of_literal {d : String} {p : UInt16} {a : SocketAddr}
    (h : Literal d.toList p a) : fromStr (display (.domain d p)) = .ok (.addr a) := by
  have hparse := (parse_eq_some_iff_literal (portText_dec p)).mpr h
  rw [← toList_display_domain, String.ofList_toList] at hparse
  exact fromStr_eq_ok_iff.mpr (.inl ⟨a, hparse, rfl⟩)

/-- Every other name is parsed as itself. -/
lemma fromStr_display_of_not_literal {d : String} {p : UInt16} (h : ∀ a, ¬Literal d.toList p a) :
    fromStr (display (.domain d p)) = .ok (.domain d p) := by
  have hnone : SocketAddr.parse (display (.domain d p)) = none := by
    apply Option.eq_none_iff_forall_ne_some.mpr
    intro a hparse
    apply h a
    rw [← parse_eq_some_iff_literal (portText_dec p), ← toList_display_domain,
      String.ofList_toList]
    exact hparse
  have hsplit : rsplitOnce ':' (display (.domain d p)).toList = some (d.toList, dec p.toNat) := by
    rw [toList_display_domain, rsplitOnce_append (portText_dec p).colon_not_mem]
  refine fromStr_eq_ok_iff.mpr (.inr ⟨hnone, _, _, p, hsplit, parseU16_dec p, ?_⟩)
  rw [String.ofList_toList]

/-- A name in the form of a bracketed IPv6 address is parsed as that address. -/
lemma fromStr_display_of_bracketed {d : String} (h : BracketedIpv6 d.toList) (p : UInt16) :
    ∃ ip scopeId, fromStr (display (.domain d p)) = .ok (.addr (.v6 ip p 0 scopeId)) := by
  obtain ⟨ip, scopeId, hliteral⟩ := literal_of_bracketedIpv6 h p
  exact ⟨ip, scopeId, fromStr_display_of_literal hliteral⟩

/-- Every other name is parsed as itself, or as the IPv4 address that is printed so. -/
lemma fromStr_display_of_not_bracketed {d : String} (h : ¬BracketedIpv6 d.toList) (p : UInt16) :
    fromStr (display (.domain d p)) = .ok (.domain d p) ∨
      ∃ ip : Ipv4Addr, d.toList = ip.display ∧
        fromStr (display (.domain d p)) = .ok (.addr (.v4 ip p)) := by
  by_cases hliteral : ∃ a, Literal d.toList p a
  · obtain ⟨a, ha⟩ := hliteral
    have hparse := fromStr_display_of_literal ha
    rcases of_literal ha with ⟨ip, rfl, hip⟩ | ⟨-, -, -, hd⟩
    · exact .inr ⟨ip, hip, hparse⟩
    · exact absurd hd h
  · exact .inl (fromStr_display_of_not_literal (not_exists.mp hliteral))

/-- The text of an endpoint is always parsed; host and port are the ones of the endpoint, and so
is the answer to whether the host is an IP address, exactly if the host is not a name in the form
of a bracketed IPv6 address. -/
theorem reparsed_iff_not_hasBracketedName (e : Endpoint) :
    (∃ e', fromStr e.display = .ok e' ∧ e'.hostname = e.hostname ∧ e'.port = e.port ∧
      (ConnectRequest.mk e').hostnameIsIp = (ConnectRequest.mk e).hostnameIsIp) ↔
    ¬e.HasBracketedName := by
  have hsame : ∀ e', fromStr e.display = .ok e' → e'.hostname = e.hostname → e'.port = e.port →
      ∃ e', fromStr e.display = .ok e' ∧ e'.hostname = e.hostname ∧ e'.port = e.port ∧
        (ConnectRequest.mk e').hostnameIsIp = (ConnectRequest.mk e).hostnameIsIp := by
    intro e' hparse hhost hport
    refine ⟨e', hparse, hhost, hport, ?_⟩
    rw [ConnectRequest.hostnameIsIp_eq, ConnectRequest.hostnameIsIp_eq, hhost]
  constructor
  · rintro ⟨e', hparse, hhost, -⟩ ⟨d, p, rfl, hd⟩
    obtain ⟨ip, scopeId, haddr⟩ := fromStr_display_of_bracketed hd p
    rw [haddr] at hparse
    cases hparse
    -- a printed address has no brackets
    obtain ⟨text, scope, hcs, -⟩ := hd
    have hlist := congrArg String.toList hhost
    simp only [hostname, String.toList_ofList, SocketAddr.ip, IpAddr.display] at hlist
    apply ip.head?_display_ne
    rw [hlist, hcs]
    rfl
  · intro h
    cases e with
    | addr a =>
      apply hsame _ (fromStr_display_addr a)
      · cases a <;> rfl
      · cases a <;> rfl
    | domain d p =>
      have hd : ¬BracketedIpv6 d.toList := fun hd => h ⟨d, p, rfl, hd⟩
      rcases fromStr_display_of_not_bracketed hd p with heq | ⟨ip, hip, heq⟩
      · exact hsame _ heq rfl rfl
      · apply hsame _ heq
        · rw [hostname, hostname, SocketAddr.ip, IpAddr.display, ← hip, String.ofList_toList]
        · rfl

/-- A client that asks for the name `[::1]` is judged by that name, and the connector dials the
loopback address. -/
theorem not_reparsed_of_bracketed_loopback :
    "[::1]".utf8Bytes.length ≤ 255 ∧
    (¬∃ e', fromStr (display (.domain "[::1]" 80)) = .ok e' ∧
      e'.hostname = hostname (.domain "[::1]" 80) ∧ e'.port = port (.domain "[::1]" 80) ∧
      (ConnectRequest.mk e').hostnameIsIp
        = (ConnectRequest.mk (.domain "[::1]" 80)).hostnameIsIp) ∧
    fromStr (display (.domain "[::1]" 80))
      = .ok (.addr (.v6 ⟨[0, 0, 0, 0, 0, 0, 0, 1], rfl⟩ 80 0 0)) := by
  have hparse : fromStr (display (.domain "[::1]" 80))
      = .ok (.addr (.v6 ⟨[0, 0, 0, 0, 0, 0, 0, 1], rfl⟩ 80 0 0)) := by
    decide
  refine ⟨by decide, ?_, hparse⟩
  rintro ⟨e', heq, hhost, -⟩
  rw [hparse] at heq
  cases heq
  exact absurd hhost (by decide)

/-! ### Endpoints that are printed again -/

lemma of_fromStr_domain {ep d : String} {p : UInt16} (h : fromStr ep = .ok (.domain d p)) :
    ∃ port, ep.toList = d.toList ++ ':' :: port := by
  rcases fromStr_eq_ok_iff.mp h with ⟨a, -, heq⟩ | ⟨-, host, back, port, hsplit, -, heq⟩
  · cases heq
  · cases heq
    exact ⟨back, by rw [String.toList_ofList, of_rsplitOnce hsplit]⟩

/-- A name in the form of a bracketed IPv6 address, but not as such an address is printed. -/
def HasUnprintedName (e : Endpoint) : Prop :=
  ∃ d p, e = .domain d p ∧ BracketedIpv6 d.toList ∧
    ∀ ip scopeId, (SocketAddr.v6 ip p 0 scopeId).display ≠ d.toList ++ ':' :: dec p.toNat

/-- The text of an endpoint stays the same when it is parsed and printed again, exactly if the
host is not a name in the form of a bracketed IPv6 address that is printed otherwise. -/
lemma reprinted_iff_not_hasUnprintedName (e : Endpoint) :
    (∃ e', fromStr e.display = .ok e' ∧ e'.display = e.display) ↔ ¬e.HasUnprintedName := by
  constructor
  · rintro ⟨e', hparse, hdisplay⟩ ⟨d, p, rfl, hd, hnot⟩
    obtain ⟨ip, scopeId, haddr⟩ := fromStr_display_of_bracketed hd p
    rw [haddr] at hparse
    cases hparse
    apply hnot ip scopeId
    have hlist := congrArg String.toList hdisplay
    rwa [toList_display_domain, display, String.toList_ofList] at hlist
  · intro h
    cases e with
    | addr a => exact ⟨_, fromStr_display_addr a, by cases a <;> rfl⟩
    | domain d p =>
      by_cases hd : BracketedIpv6 d.toList
      · obtain ⟨ip, scopeId, hprinted⟩ : ∃ ip scopeId,
            (SocketAddr.v6 ip p 0 scopeId).display = d.toList ++ ':' :: dec p.toNat := by
          by_contra hnot
          push Not at hnot
          exact h ⟨d, p, rfl, hd, hnot⟩
        have hsame : display (.addr (.v6 ip p 0 scopeId)) = display (.domain d p) := by
          apply String.toList_inj.mp
          rw [toList_display_domain, ← hprinted, display, String.toList_ofList]
        refine ⟨.addr (.v6 ip p 0 scopeId), ?_, hsame⟩
        rw [← hsame]
        exact fromStr_display_addr _
      · rcases fromStr_display_of_not_bracketed hd p with heq | ⟨ip, hip, heq⟩
        · exact ⟨_, heq, rfl⟩
        · refine ⟨_, heq, ?_⟩
          apply String.toList_inj.mp
          rw [toList_display_domain, hip, display, String.toList_ofList]
          rfl

end Endpoint

end Dandelion
