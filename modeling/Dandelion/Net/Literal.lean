import Dandelion.Net.Local

/-!
# Socket addresses as a host and a port

The text of a socket address is the literal of an IP address, a colon, and the port in decimal
digits.
-/

namespace Net

variable {cs ds host : List Char} {port : UInt16} {a : SocketAddr}

/-! ### Ports -/

/-- The digits of a port; leading zeros are allowed. -/
structure PortText (ds : List Char) (port : UInt16) : Prop where
  ne_nil : ds ≠ []
  digits : ∀ c ∈ ds, isDigit 10 c = true
  lt : ofDigits 10 ds < 65536
  value : port = UInt16.ofNat (ofDigits 10 ds)

lemma isDigit_of_mem_dec {n : ℕ} {c : Char} (hc : c ∈ dec n) : isDigit 10 c = true :=
  isDigit_of_mem_toDigits (by decide) (by decide) hc

/-- A port as it is printed. -/
lemma portText_dec (port : UInt16) : PortText (dec port.toNat) port := by
  have hvalue : ofDigits 10 (dec port.toNat) = port.toNat :=
    ofDigits_toDigits (by decide) (by decide) port.toNat
  refine ⟨by simp [dec], fun c hc => isDigit_of_mem_dec hc, ?_, ?_⟩
  · rw [hvalue]
    exact port.toNat_lt
  · rw [hvalue, UInt16.ofNat_toNat]

lemma PortText.colon_not_mem (h : PortText ds port) : ':' ∉ ds := colon_not_mem_digits h.digits

lemma PortText.readPort (h : PortText ds port) : readPort (':' :: ds) = some (port, []) := by
  have htake := takeWhile_append_of_noDigit h.digits (noDigit_nil 10)
  have hdrop := dropWhile_append_of_noDigit h.digits (noDigit_nil 10)
  rw [List.append_nil] at htake hdrop
  have hread : readNumber 10 none true 65536 ds = some (ofDigits 10 ds, []) := by
    simp only [readNumber, htake, hdrop]
    simp [h.ne_nil, h.lt]
  simp [Net.readPort, readGivenChar, hread, h.value]

/-- A port that is parsed by itself may have a plus sign in front. -/
lemma parseU16_eq_some_iff :
    parseU16 cs = some port ↔ PortText cs port ∨ ∃ ds, cs = '+' :: ds ∧ PortText ds port := by
  have hdigits : ∀ ds : List Char,
      (if ds.isEmpty || !ds.all (isDigit 10) then none
        else if ofDigits 10 ds < 65536 then some (UInt16.ofNat (ofDigits 10 ds)) else none)
        = some port ↔ PortText ds port := by
    intro ds
    constructor
    · intro h
      split at h
      · cases h
      case isFalse hds =>
        split at h
        case isTrue hlt =>
          simp only [Bool.or_eq_true, not_or, List.isEmpty_iff, Bool.not_eq_true',
            Bool.not_eq_false, List.all_eq_true] at hds
          exact ⟨hds.1, hds.2, hlt, (Option.some.inj h).symm⟩
        · cases h
    · intro h
      have hall : ds.all (isDigit 10) = true := List.all_eq_true.mpr h.digits
      simp [h.ne_nil, hall, h.lt, h.value]
  unfold parseU16
  split
  case h_1 ds =>
    rw [hdigits]
    constructor
    · exact fun h => .inr ⟨ds, rfl, h⟩
    · rintro (h | ⟨ds', heq, h⟩)
      · exact absurd (h.digits '+' List.mem_cons_self) (by decide)
      · cases heq
        exact h
  case h_2 hplus =>
    rw [hdigits]
    constructor
    · exact .inl
    · rintro (h | ⟨ds, rfl, -⟩)
      · exact h
      · exact absurd rfl (hplus ds)

lemma parseU16_dec (port : UInt16) : parseU16 (dec port.toNat) = some port :=
  parseU16_eq_some_iff.mpr (.inl (portText_dec port))

/-! ### Hosts -/

/-- The literals of IP addresses, and the socket addresses they stand for with a port: an IPv4
address, or an IPv6 address in brackets, with or without a scope. -/
inductive Literal : List Char → UInt16 → SocketAddr → Prop
  | ipv4 {text : List Char} {ip : Ipv4Addr} (port : UInt16)
      (hip : parseWith readIpv4Addr text = some ip) : Literal text port (.v4 ip port)
  | ipv6 {text : List Char} {ip : Ipv6Addr} (port : UInt16)
      (hip : parseWith readIpv6Addr text = some ip) :
      Literal ('[' :: (text ++ [']'])) port (.v6 ip port 0 0)
  | ipv6Scoped {text scope : List Char} {ip : Ipv6Addr} {scopeId : UInt32} (port : UInt16)
      (hip : parseWith readIpv6Addr text = some ip)
      (hscope : parseWith readScopeId scope = some scopeId) :
      Literal ('[' :: (text ++ scope ++ [']'])) port (.v6 ip port 0 scopeId)

/-- The host of an IPv4 socket address. -/
lemma of_readSocketAddrV4_port (hport : PortText ds port)
    (h : readSocketAddrV4 (host ++ ':' :: ds) = some (a, [])) :
    ∃ ip, a = .v4 ip port ∧ parseWith readIpv4Addr host = some ip := by
  simp only [readSocketAddrV4, Option.bind_eq_bind, Option.bind_eq_some_iff] at h
  obtain ⟨⟨ip, cs⟩, hip, ⟨port', cs'⟩, hread, heq⟩ := h
  cases heq
  obtain ⟨ds', hcs, hds', -⟩ := of_readPort hread
  obtain rfl : cs = ':' :: ds' := by simpa using hcs
  have htext : ip.display ++ ':' :: ds' = host ++ ':' :: ds := (of_readIpv4Addr hip).symm
  have hlast : ds' = ds := by
    apply eq_of_colon_suffix (colon_not_mem_digits hds') hport.colon_not_mem
    rw [← htext]
    exact List.suffix_append _ _
  subst hlast
  have hsame : (port', ([] : List Char)) = (port, []) :=
    Option.some.inj (hread.symm.trans hport.readPort)
  cases hsame
  refine ⟨ip, rfl, ?_⟩
  exact (local_readIpv4Addr (noDigit_cons (by decide)) (by simp)).parseWith_eq_some.mp hip

/-- The host of an IPv6 socket address. -/
lemma of_readSocketAddrV6_port (hport : PortText ds port)
    (h : readSocketAddrV6 (host ++ ':' :: ds) = some (a, [])) : Literal host port a := by
  simp only [readSocketAddrV6, Option.bind_eq_bind, Option.bind_eq_some_iff] at h
  obtain ⟨cs₁, hopen, ⟨ip, cs₂⟩, hip, cs₃, hclose, ⟨port', cs₄⟩, hread, heq⟩ := h
  simp only at hip hclose heq
  cases heq
  obtain ⟨ds', hcs₃, hds', -⟩ := of_readPort hread
  rw [List.append_nil] at hcs₃
  obtain ⟨scope, hcs₂, hscope, hends, hcolon⟩ := of_readScopeId_bracket hclose
  obtain ⟨text, rfl⟩ := suffix_of_readIpv6Addr hip
  have hparse := (local_readIpv6Addr hends hcolon).parseWith_eq_some.mp hip
  have htext : '[' :: (text ++ scope ++ [']']) ++ ':' :: ds' = host ++ ':' :: ds := by
    rw [of_readGivenChar hopen, hcs₂, hcs₃]
    simp
  -- both sides end with their last colon and digits
  have hlast : ds' = ds := by
    apply eq_of_colon_suffix (colon_not_mem_digits hds') hport.colon_not_mem
    rw [← htext]
    exact List.suffix_append _ _
  subst hlast
  subst hcs₃
  have hsame : (port', ([] : List Char)) = (port, []) :=
    Option.some.inj (hread.symm.trans hport.readPort)
  cases hsame
  rw [← List.append_cancel_right htext]
  rcases hscope with ⟨rfl, hzero⟩ | hscope
  · rw [hzero, List.append_nil]
    exact .ipv6 port hparse
  · exact .ipv6Scoped port hparse hscope

lemma readSocketAddr_of_readSocketAddrV6 {text : List Char} {r : SocketAddr × List Char}
    (h : readSocketAddrV6 ('[' :: text) = some r) : readSocketAddr ('[' :: text) = some r := by
  rw [readSocketAddr, readSocketAddrV4_of_bracket]
  exact h

/-- A literal and a port are a socket address. -/
lemma Literal.readSocketAddr (h : Literal host port a) (hport : PortText ds port) :
    readSocketAddr (host ++ ':' :: ds) = some (a, []) := by
  have hread := hport.readPort
  have hbracket := endsAddr_bracket (':' :: ds)
  cases h with
  | ipv4 _ hip =>
    have hlocal : Local (':' :: ds) readIpv4Addr :=
      local_readIpv4Addr (noDigit_cons (by decide)) (by simp)
    have hip := hlocal.parseWith_eq_some.mpr hip
    simp [Net.readSocketAddr, readSocketAddrV4, hip, hread]
  | @ipv6 text ip _ hip =>
    have hip := (local_readIpv6Addr hbracket (by simp)).parseWith_eq_some.mpr hip
    have hnone : readScopeId (']' :: ':' :: ds) = none := by
      simp [readScopeId, readGivenChar]
    apply readSocketAddr_of_readSocketAddrV6
    simp [readSocketAddrV6, hip, hnone, hread]
  | @ipv6Scoped text scope ip scopeId _ hip hscope =>
    have hid := (local_readScopeId hbracket.1.ten (by simp)).parseWith_eq_some.mpr hscope
    obtain ⟨cs, hcs⟩ : ∃ cs, scope = '%' :: cs := by
      have hsome := of_parseWith hscope
      simp only [readScopeId, Option.bind_eq_bind, Option.bind_eq_some_iff] at hsome
      obtain ⟨cs, hgiven, -⟩ := hsome
      exact ⟨cs, of_readGivenChar hgiven⟩
    have hends : EndsAddr (scope ++ ']' :: ':' :: ds) := by
      rw [hcs]
      exact endsAddr_percent _
    have hip := (local_readIpv6Addr hends (by simp [hcs])).parseWith_eq_some.mpr hip
    apply readSocketAddr_of_readSocketAddrV6
    simp [readSocketAddrV6, hip, hid, hread]

/-- A text that ends with a port is a socket address exactly if its host is a literal. -/
theorem parse_eq_some_iff_literal (hport : PortText ds port) :
    SocketAddr.parse (String.ofList (host ++ ':' :: ds)) = some a ↔ Literal host port a := by
  rw [SocketAddr.parse, String.toList_ofList]
  constructor
  · intro h
    have hread := of_parseWith h
    rw [readSocketAddr] at hread
    cases hv4 : readSocketAddrV4 (host ++ ':' :: ds) with
    | none =>
      rw [hv4] at hread
      exact of_readSocketAddrV6_port hport hread
    | some r =>
      rw [hv4] at hread
      cases hread
      obtain ⟨ip, rfl, hip⟩ := of_readSocketAddrV4_port hport hv4
      exact .ipv4 port hip
  · intro h
    rw [parseWith, h.readSocketAddr hport]

/-! ### What literals look like -/

/-- A literal is an IPv4 address as it is printed, or an IPv6 address in brackets. -/
lemma of_literal (h : Literal host port a) :
    (∃ ip, a = .v4 ip port ∧ host = ip.display) ∨
      ∃ ip scopeId, a = .v6 ip port 0 scopeId ∧ BracketedIpv6 host := by
  cases h with
  | @ipv4 _ ip _ hip =>
    have htext := of_readIpv4Addr (of_parseWith hip)
    rw [List.append_nil] at htext
    exact .inl ⟨ip, rfl, htext⟩
  | @ipv6 text ip _ hip =>
    exact .inr ⟨ip, 0, rfl, text, [], by simp, by rw [hip]; rfl, .inl rfl⟩
  | @ipv6Scoped _ _ ip scopeId _ hip hscope =>
    exact .inr ⟨ip, scopeId, rfl, _, _, rfl, by rw [hip]; rfl, .inr (by rw [hscope]; rfl)⟩

lemma literal_of_bracketedIpv6 (h : BracketedIpv6 host) (port : UInt16) :
    ∃ ip scopeId, Literal host port (.v6 ip port 0 scopeId) := by
  obtain ⟨text, scope, rfl, htext, hscope⟩ := h
  obtain ⟨ip, hip⟩ := Option.isSome_iff_exists.mp htext
  rcases hscope with rfl | hscope
  · rw [List.append_nil]
    exact ⟨ip, 0, .ipv6 port hip⟩
  · obtain ⟨scopeId, hid⟩ := Option.isSome_iff_exists.mp hscope
    exact ⟨ip, scopeId, .ipv6Scoped port hip hid⟩

lemma Ipv4Addr.colon_not_mem_display (ip : Ipv4Addr) : ':' ∉ ip.display := by
  have hdec : ∀ n, ':' ∉ dec n := fun n => colon_not_mem_digits fun c hc => isDigit_of_mem_dec hc
  simp [display, hdec]

/-- A literal with a colon is in brackets. -/
lemma Literal.head?_of_colon_mem (h : Literal host port a) (hcolon : ':' ∈ host) :
    host.head? = some '[' := by
  rcases of_literal h with ⟨ip, -, rfl⟩ | ⟨-, -, -, text, scope, rfl, -⟩
  · exact absurd hcolon ip.colon_not_mem_display
  · rfl

lemma Literal.ne_nil (h : Literal host port a) : host ≠ [] := by
  rcases of_literal h with ⟨ip, -, rfl⟩ | ⟨-, -, -, text, scope, rfl, -⟩
  · simp [Ipv4Addr.display]
  · simp

/-- A reader that stops at a character does not read a text with that character to its end. -/
lemma Local.not_mem {α : Type*} {f : List Char → Option (α × List Char)} {c : Char}
    (hf : ∀ rest, Local (c :: rest) f) {text : List Char} {x : α}
    (h : parseWith f text = some x) : c ∉ text := by
  intro hmem
  obtain ⟨front, rest, rfl⟩ := List.append_of_mem hmem
  have hread := of_parseWith h
  rw [hf rest front] at hread
  obtain ⟨r, -, heq⟩ := Option.map_eq_some_iff.mp hread
  simp at heq

/-- There is no space in a literal. -/
lemma Literal.space_not_mem (h : Literal host port a) : ' ' ∉ host := by
  have hends : ∀ rest, EndsAddr (' ' :: rest) := fun rest => ⟨noDigit_cons (by decide), by simp⟩
  have hipv6 : ∀ {text ip}, parseWith readIpv6Addr text = some ip → ' ' ∉ text :=
    fun hip => Local.not_mem (fun rest => local_readIpv6Addr (hends rest) (by simp)) hip
  cases h with
  | ipv4 _ hip =>
    exact Local.not_mem (fun rest => local_readIpv4Addr (hends rest).1.ten (by simp)) hip
  | ipv6 _ hip => simp [hipv6 hip]
  | ipv6Scoped _ hip hscope =>
    have hscope' :=
      Local.not_mem (fun rest => local_readScopeId (hends rest).1.ten (by simp)) hscope
    simp [hipv6 hip, hscope']

end Net
