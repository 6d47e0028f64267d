import Dandelion.Net.Text
import Mathlib.Data.List.TakeWhile

/-!
# What readers leave

A reader returns the end of the text it was given. In particular the port of a socket address is
what stands behind the last colon.
-/

namespace Net

variable {cs rest : List Char}

lemma of_readGivenChar {c : Char} (h : readGivenChar c cs = some rest) : cs = c :: rest := by
  cases cs with
  | nil => cases h
  | cons c' cs =>
    simp only [readGivenChar, Option.ite_none_right_eq_some, Option.some.injEq] at h
    obtain ⟨rfl, rfl⟩ := h
    rfl

lemma of_readNumber {radix bound n : ℕ} {maxDigits : Option ℕ} {allowZeroPrefix : Bool}
    (h : readNumber radix maxDigits allowZeroPrefix bound cs = some (n, rest)) :
    ∃ ds, cs = ds ++ rest ∧ (∀ c ∈ ds, isDigit radix c = true) ∧ n = ofDigits radix ds ∧
      n < bound := by
  simp only [readNumber] at h
  split at h
  · cases h
  · split at h
    · cases h
    · split at h
      case isTrue hbound =>
        cases h
        refine ⟨cs.takeWhile (isDigit radix), List.takeWhile_append_dropWhile.symm, ?_, rfl, hbound⟩
        exact fun c hc => List.mem_takeWhile_imp hc
      case isFalse => cases h

lemma suffix_of_readSeparator {α : Type*} {sep : Char} {first : Bool} {a : α}
    {inner : List Char → Option (α × List Char)}
    (hinner : ∀ cs a rest, inner cs = some (a, rest) → rest <:+ cs)
    (h : readSeparator sep first inner cs = some (a, rest)) : rest <:+ cs := by
  cases first with
  | true => exact hinner cs a rest h
  | false =>
    obtain ⟨cs', hsep, hread⟩ := Option.bind_eq_some_iff.mp h
    rw [of_readGivenChar hsep]
    exact (hinner cs' a rest hread).trans (List.suffix_cons sep cs')

lemma suffix_of_readNumber {radix bound n : ℕ} {maxDigits : Option ℕ} {allowZeroPrefix : Bool}
    (h : readNumber radix maxDigits allowZeroPrefix bound cs = some (n, rest)) : rest <:+ cs := by
  obtain ⟨ds, rfl, -⟩ := of_readNumber h
  exact List.suffix_append ds rest

lemma suffix_of_readOctet (cs : List Char) (n : UInt8) (rest : List Char)
    (h : readOctet cs = some (n, rest)) : rest <:+ cs := by
  obtain ⟨⟨m, rest'⟩, hread, heq⟩ := Option.map_eq_some_iff.mp h
  cases heq
  exact suffix_of_readNumber hread

lemma suffix_of_readSegment (cs : List Char) (g : UInt16) (rest : List Char)
    (h : readSegment cs = some (g, rest)) : rest <:+ cs := by
  obtain ⟨⟨m, rest'⟩, hread, heq⟩ := Option.map_eq_some_iff.mp h
  cases heq
  exact suffix_of_readNumber hread

lemma suffix_of_readIpv4Addr (cs : List Char) (ip : Ipv4Addr) (rest : List Char)
    (h : readIpv4Addr cs = some (ip, rest)) : rest <:+ cs := by
  simp only [readIpv4Addr, Option.bind_eq_bind, Option.bind_eq_some_iff] at h
  obtain ⟨⟨a, cs₁⟩, h₁, ⟨b, cs₂⟩, h₂, ⟨c, cs₃⟩, h₃, ⟨d, cs₄⟩, h₄, heq⟩ := h
  cases heq
  exact (suffix_of_readSeparator suffix_of_readOctet h₄).trans <|
    (suffix_of_readSeparator suffix_of_readOctet h₃).trans <|
      (suffix_of_readSeparator suffix_of_readOctet h₂).trans <|
        suffix_of_readSeparator suffix_of_readOctet h₁

lemma suffix_of_readGroups (n : ℕ) (first : Bool) (cs : List Char) :
    (readGroups n first cs).2.2 <:+ cs := by
  induction n generalizing first cs with
  | zero => exact List.suffix_refl cs
  | succ n ih =>
    rw [readGroups]
    split
    case h_1 ip cs' heq =>
      split at heq
      · cases heq
      · exact suffix_of_readSeparator suffix_of_readIpv4Addr heq
    case h_2 =>
      split
      case h_1 heq => exact (ih false _).trans (suffix_of_readSeparator suffix_of_readSegment heq)
      case h_2 => exact List.suffix_refl cs

lemma suffix_of_readIpv6Addr {ip : Ipv6Addr} (h : readIpv6Addr cs = some (ip, rest)) :
    rest <:+ cs := by
  have hhead := suffix_of_readGroups 8 true cs
  simp only [readIpv6Addr] at h
  split at h
  · cases h
    exact hhead
  · split at h
    · cases h
    · simp only [Option.bind_eq_bind, Option.bind_eq_some_iff] at h
      obtain ⟨cs₁, h₁, cs₂, h₂, heq⟩ := h
      cases heq
      rw [of_readGivenChar h₁, of_readGivenChar h₂] at hhead
      exact (suffix_of_readGroups _ true cs₂).trans <|
        (List.suffix_cons _ _).trans <| (List.suffix_cons _ _).trans hhead

lemma suffix_of_readScopeId (cs : List Char) : ((readScopeId cs).getD (0, cs)).2 <:+ cs := by
  cases h : readScopeId cs with
  | none => exact List.suffix_refl cs
  | some r =>
    simp only [readScopeId, Option.bind_eq_bind, Option.bind_eq_some_iff] at h
    obtain ⟨cs', hgiven, ⟨n, rest⟩, hread, heq⟩ := h
    cases heq
    rw [of_readGivenChar hgiven]
    exact (suffix_of_readNumber hread).trans (List.suffix_cons _ _)

lemma of_readPort {port : UInt16} (h : readPort cs = some (port, rest)) :
    ∃ ds, cs = ':' :: (ds ++ rest) ∧ (∀ c ∈ ds, isDigit 10 c = true) ∧
      port = UInt16.ofNat (ofDigits 10 ds) := by
  simp only [readPort, Option.bind_eq_bind, Option.bind_eq_some_iff] at h
  obtain ⟨cs', hgiven, ⟨n, rest'⟩, hread, heq⟩ := h
  cases heq
  obtain ⟨ds, rfl, hds, rfl, -⟩ := of_readNumber hread
  exact ⟨ds, of_readGivenChar hgiven, hds, rfl⟩

lemma of_readSocketAddrV4 {a : SocketAddr} (h : readSocketAddrV4 cs = some (a, rest)) :
    (∃ r, readIpv4Addr cs = some r) ∧ ∃ ds, (∀ c ∈ ds, isDigit 10 c = true) ∧
      a.port = UInt16.ofNat (ofDigits 10 ds) ∧ ':' :: (ds ++ rest) <:+ cs := by
  simp only [readSocketAddrV4, Option.bind_eq_bind, Option.bind_eq_some_iff] at h
  obtain ⟨⟨ip, cs₁⟩, hip, ⟨port, cs₂⟩, hport, heq⟩ := h
  cases heq
  obtain ⟨ds, rfl, hds, rfl⟩ := of_readPort hport
  exact ⟨⟨_, hip⟩, ds, hds, rfl, suffix_of_readIpv4Addr cs ip _ hip⟩

lemma of_readSocketAddrV6 {a : SocketAddr} (h : readSocketAddrV6 cs = some (a, rest)) :
    ∃ ds, (∀ c ∈ ds, isDigit 10 c = true) ∧ a.port = UInt16.ofNat (ofDigits 10 ds) ∧
      ']' :: ':' :: (ds ++ rest) <:+ cs := by
  simp only [readSocketAddrV6, Option.bind_eq_bind, Option.bind_eq_some_iff] at h
  obtain ⟨cs₁, hopen, ⟨ip, cs₂⟩, hip, cs₃, hclose, ⟨port, cs₄⟩, hport, heq⟩ := h
  cases heq
  obtain ⟨ds, rfl, hds, rfl⟩ := of_readPort hport
  have hscope := suffix_of_readScopeId cs₂
  rw [of_readGivenChar hclose] at hscope
  rw [of_readGivenChar hopen]
  refine ⟨ds, hds, rfl, ?_⟩
  exact hscope.trans <| (suffix_of_readIpv6Addr hip).trans (List.suffix_cons _ _)

/-- A socket address ends with a port, and has a bracket before it if it does not start with an
IPv4 address. -/
lemma of_readSocketAddr {a : SocketAddr} (h : readSocketAddr cs = some (a, rest)) :
    ∃ ds, (∀ c ∈ ds, isDigit 10 c = true) ∧ a.port = UInt16.ofNat (ofDigits 10 ds) ∧
      ':' :: (ds ++ rest) <:+ cs ∧
      ((∃ r, readIpv4Addr cs = some r) ∨ ']' :: ':' :: (ds ++ rest) <:+ cs) := by
  rw [readSocketAddr] at h
  cases hv4 : readSocketAddrV4 cs with
  | some r =>
    rw [hv4] at h
    cases h
    obtain ⟨hip, ds, hds, hport, hsuffix⟩ := of_readSocketAddrV4 hv4
    exact ⟨ds, hds, hport, hsuffix, .inl hip⟩
  | none =>
    rw [hv4] at h
    obtain ⟨ds, hds, hport, hsuffix⟩ := of_readSocketAddrV6 h
    exact ⟨ds, hds, hport, (List.suffix_cons _ _).trans hsuffix, .inr hsuffix⟩

lemma of_parseWith {α : Type*} {inner : List Char → Option (α × List Char)} {a : α}
    (h : parseWith inner cs = some a) : inner cs = some (a, []) := by
  unfold parseWith at h
  split at h
  case h_1 heq =>
    cases h
    exact heq
  case h_2 => cases h

/-! ### The last colon -/

lemma colon_not_mem_digits {ds : List Char} (hds : ∀ c ∈ ds, isDigit 10 c = true) : ':' ∉ ds := by
  intro hmem
  exact absurd (hds ':' hmem) (by decide)

/-- There is one last colon. -/
lemma eq_of_colon_suffix {front ds back : List Char} (hds : ':' ∉ ds) (hback : ':' ∉ back)
    (h : ':' :: ds <:+ front ++ ':' :: back) : ds = back := by
  obtain ⟨front', heq⟩ := h
  rcases List.append_eq_append_iff.mp heq with ⟨mid, -, hmid⟩ | ⟨mid, -, hmid⟩
  · cases mid with
    | nil => exact (List.cons.inj hmid).2
    | cons c mid =>
      obtain ⟨-, rfl⟩ := List.cons.inj hmid
      exact absurd (by simp) hds
  · cases mid with
    | nil => exact (List.cons.inj hmid).2.symm
    | cons c mid =>
      obtain ⟨-, rfl⟩ := List.cons.inj hmid
      exact absurd (by simp) hback

/-- The port of a socket address is what stands behind the last colon. -/
theorem SocketAddr.port_of_parse {front back : List Char} {a : SocketAddr} (hback : ':' ∉ back)
    (h : SocketAddr.parse (String.ofList (front ++ ':' :: back)) = some a) :
    a.port = UInt16.ofNat (ofDigits 10 back) := by
  rw [SocketAddr.parse, String.toList_ofList] at h
  obtain ⟨ds, hds, hport, hsuffix, -⟩ := of_readSocketAddr (of_parseWith h)
  rw [List.append_nil] at hsuffix
  rw [hport, eq_of_colon_suffix (colon_not_mem_digits hds) hback hsuffix]

end Net
