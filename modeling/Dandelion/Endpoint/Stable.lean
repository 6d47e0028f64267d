import Dandelion.Endpoint.Reparse

/-!
# Endpoints through their text

An endpoint that is printed and parsed is the same endpoint, unless it is a name in the form of an
IP address. Parsing does not make such names, except for a port with a plus sign: it is not the
port of a socket address, but is printed as one.
-/

namespace Dandelion.Endpoint

open Net

/-- The endpoint has no flow label, which has no textual form. -/
def NoFlowinfo : Endpoint → Prop
  | .addr (.v6 _ _ flowinfo _) => flowinfo = 0
  | _                          => True

lemma fromStr_display_addr_of_noFlowinfo {a : SocketAddr} (h : NoFlowinfo (.addr a)) :
    fromStr (display (.addr a)) = .ok (.addr a) := by
  rw [fromStr_display_addr]
  cases a with
  | v4 ip port => rfl
  | v6 ip port flowinfo scopeId =>
    obtain rfl : flowinfo = 0 := h
    rfl

lemma fromStr_display_domain_iff (d : String) (p : UInt16) :
    fromStr (display (.domain d p)) = .ok (.domain d p) ↔ ∀ a, ¬Literal d.toList p a := by
  constructor
  · intro hsame a hliteral
    rw [fromStr_display_of_literal hliteral] at hsame
    cases hsame
  · exact fromStr_display_of_not_literal

/-- The text of an endpoint is always parsed, and as the same endpoint exactly if this is not a
name in the form of an IPv4 address or of an IPv6 address in brackets, which is parsed as the
address. In particular this holds for an empty name, one with a space, and one with a colon that
is not in brackets. -/
theorem fromStr_display_iff_not_literal (e : Endpoint) (hflow : NoFlowinfo e) :
    (∃ e', fromStr e.display = .ok e') ∧
    (fromStr e.display = .ok e ↔ ∀ d p a, e = .domain d p → ¬Literal d.toList p a) ∧
    (∀ d p a, e = .domain d p → Literal d.toList p a → fromStr e.display = .ok (.addr a)) ∧
    (∀ d p, e = .domain d p → d = "" ∨ ' ' ∈ d.toList ∨
      (':' ∈ d.toList ∧ d.toList.head? ≠ some '[') → fromStr e.display = .ok e) := by
  cases e with
  | addr a =>
    have hsame := fromStr_display_addr_of_noFlowinfo hflow
    exact ⟨⟨_, hsame⟩, ⟨by simp, fun _ => hsame⟩, by simp, fun _ _ _ _ => hsame⟩
  | domain d p =>
    have hiff := fromStr_display_domain_iff d p
    refine ⟨?_, ?_, ?_, ?_⟩
    · by_cases hliteral : ∃ a, Literal d.toList p a
      · obtain ⟨a, ha⟩ := hliteral
        exact ⟨_, fromStr_display_of_literal ha⟩
      · exact ⟨_, fromStr_display_of_not_literal (not_exists.mp hliteral)⟩
    · rw [hiff]
      constructor
      · rintro hnot _ _ a ⟨⟩
        exact hnot a
      · exact fun hnot a => hnot d p a rfl
    · rintro _ _ a ⟨⟩ hliteral
      exact fromStr_display_of_literal hliteral
    · rintro _ _ ⟨⟩ hform
      rw [hiff]
      intro a hliteral
      rcases hform with rfl | hspace | ⟨hcolon, hhead⟩
      · exact hliteral.ne_nil rfl
      · exact hliteral.space_not_mem hspace
      · exact hhead (hliteral.head?_of_colon_mem hcolon)

/-- A name with colons, a bracket and a space. -/
theorem fromStr_display_of_odd_name :
    NoFlowinfo (.domain "a:[b c" 80) ∧
    fromStr (display (.domain "a:[b c" 80)) = .ok (.domain "a:[b c" 80) :=
  ⟨trivial, (fromStr_display_iff_not_literal (.domain "a:[b c" 80) trivial).2.2.2 _ _ rfl
    (.inr (.inl (by decide)))⟩

/-! ### Parsing is stable -/

/-- The literal of an IP address and a port with a plus sign. -/
def PlusPort (s : String) : Prop :=
  ∃ host ds port a, s.toList = host ++ ':' :: '+' :: ds ∧ PortText ds port ∧ Literal host port a

/-- A socket address is read without a flow label. -/
lemma noFlowinfo_of_parse {s : String} {a : SocketAddr} (h : SocketAddr.parse s = some a) :
    NoFlowinfo (.addr a) := by
  have hread := of_parseWith h
  rw [readSocketAddr] at hread
  cases hv4 : readSocketAddrV4 s.toList with
  | some r =>
    rw [hv4] at hread
    cases hread
    simp only [readSocketAddrV4, Option.bind_eq_bind, Option.bind_eq_some_iff] at hv4
    obtain ⟨⟨ip, _⟩, -, ⟨port, _⟩, -, heq⟩ := hv4
    cases heq
    trivial
  | none =>
    rw [hv4] at hread
    have hv6 : readSocketAddrV6 s.toList = some (a, []) := hread
    simp only [readSocketAddrV6, Option.bind_eq_bind, Option.bind_eq_some_iff] at hv6
    obtain ⟨_, -, ⟨ip, _⟩, -, _, -, ⟨port, _⟩, -, heq⟩ := hv6
    cases heq
    rfl

/-- A socket address has no sign before its port. -/
lemma parse_eq_none_of_plus {s : String} {host ds : List Char}
    (hs : s.toList = host ++ ':' :: '+' :: ds) (hds : ':' ∉ ds) : SocketAddr.parse s = none := by
  apply Option.eq_none_iff_forall_ne_some.mpr
  intro a h
  obtain ⟨ds', hdigits, -, hsuffix, -⟩ := of_readSocketAddr (of_parseWith h)
  rw [List.append_nil, hs] at hsuffix
  have hlast : ds' = '+' :: ds :=
    eq_of_colon_suffix (colon_not_mem_digits hdigits) (by simp [hds]) hsuffix
  exact absurd (hdigits '+' (by simp [hlast])) (by decide)

/-- A name and a port that are parsed from a text which is no socket address: if the name is the
literal of an IP address, then the port has a sign. -/
lemma plusPort_of_literal {s : String} {host back : List Char} {p : UInt16} {a : SocketAddr}
    (hs : s.toList = host ++ ':' :: back) (hnone : SocketAddr.parse s = none)
    (hback : parseU16 back = some p) (hliteral : Literal host p a) : PlusPort s := by
  rcases parseU16_eq_some_iff.mp hback with hport | ⟨ds, rfl, hport⟩
  · have hparse := (parse_eq_some_iff_literal hport).mpr hliteral
    rw [← hs, String.ofList_toList, hnone] at hparse
    cases hparse
  · exact ⟨host, ds, p, a, hs, hport, hliteral⟩

/-- A port with a sign makes a name of a literal. -/
lemma fromStr_of_plus {s : String} {host ds : List Char} {p : UInt16}
    (hs : s.toList = host ++ ':' :: '+' :: ds) (hport : PortText ds p) :
    fromStr s = .ok (.domain (String.ofList host) p) := by
  have hsplit : rsplitOnce ':' s.toList = some (host, '+' :: ds) := by
    rw [hs, rsplitOnce_append (by simp [hport.colon_not_mem])]
  have hback := parseU16_eq_some_iff.mpr (.inr ⟨ds, rfl, hport⟩)
  exact fromStr_eq_ok_iff.mpr
    (.inr ⟨parse_eq_none_of_plus hs hport.colon_not_mem, host, _, p, hsplit, hback, rfl⟩)

/-- An endpoint that came from a text stays the same when it is printed and parsed again, exactly
if the text is not the literal of an IP address and a port with a plus sign. -/
theorem stable_iff_not_plusPort (s : String) :
    (∀ e, fromStr s = .ok e → fromStr e.display = .ok e) ↔ ¬PlusPort s := by
  constructor
  · rintro hstable ⟨host, ds, p, a, hs, hport, hliteral⟩
    have hsame := hstable _ (fromStr_of_plus hs hport)
    rw [fromStr_display_domain_iff, String.toList_ofList] at hsame
    exact hsame a hliteral
  · intro hplus e he
    rcases fromStr_eq_ok_iff.mp he with
      ⟨a, hparse, rfl⟩ | ⟨hnone, host, back, p, hsplit, hback, rfl⟩
    · exact fromStr_display_addr_of_noFlowinfo (noFlowinfo_of_parse hparse)
    · rw [fromStr_display_domain_iff, String.toList_ofList]
      intro a hliteral
      exact hplus (plusPort_of_literal (of_rsplitOnce hsplit) hnone hback hliteral)

/-- The loopback address with a sign before the port is a name, until it is printed and parsed
again. -/
theorem not_stable_of_plus :
    (¬∀ e, fromStr "127.0.0.1:+80" = .ok e → fromStr e.display = .ok e) ∧
    fromStr "127.0.0.1:+80" = .ok (.domain "127.0.0.1" 80) ∧
    fromStr (display (.domain "127.0.0.1" 80)) = .ok (.addr (.v4 ⟨127, 0, 0, 1⟩ 80)) := by
  have hparse : fromStr "127.0.0.1:+80" = .ok (.domain "127.0.0.1" 80) := by decide
  have hagain : fromStr (display (.domain "127.0.0.1" 80))
      = .ok (.addr (.v4 ⟨127, 0, 0, 1⟩ 80)) := by decide
  refine ⟨?_, hparse, hagain⟩
  intro hstable
  have hsame := hstable _ hparse
  rw [hagain] at hsame
  cases hsame

end Dandelion.Endpoint
