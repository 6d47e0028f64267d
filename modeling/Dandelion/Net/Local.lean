import Dandelion.Net.RoundTrip
import Dandelion.Net.Suffix

/-!
# Readers look no further than they must

What follows a text does not change how its front is read, if the reader cannot take the first
character that follows. So a text can be cut where a reader stops.
-/

namespace Net

variable {α β : Type*} {rest : List Char}

/-- The reader treats a text followed by `rest` as the text alone. -/
def Local (rest : List Char) (f : List Char → Option (α × List Char)) : Prop :=
  ∀ cs, f (cs ++ rest) = (f cs).map fun r => (r.1, r.2 ++ rest)

/-! ### Single characters and numbers -/

lemma readGivenChar_append {c : Char} (hrest : rest.head? ≠ some c) (cs : List Char) :
    readGivenChar c (cs ++ rest) = (readGivenChar c cs).map (· ++ rest) := by
  cases cs with
  | nil => exact readGivenChar_of_ne hrest
  | cons c' cs =>
    rw [List.cons_append, readGivenChar, readGivenChar]
    split
    · rfl
    · rfl

lemma takeWhile_append_noDigit {radix : ℕ} (hrest : NoDigit radix rest) (cs : List Char) :
    (cs ++ rest).takeWhile (isDigit radix) = cs.takeWhile (isDigit radix) ∧
      (cs ++ rest).dropWhile (isDigit radix) = cs.dropWhile (isDigit radix) ++ rest := by
  induction cs with
  | nil =>
    cases rest with
    | nil => exact ⟨rfl, rfl⟩
    | cons c rest => simp [hrest c rfl]
  | cons c cs ih =>
    cases hc : isDigit radix c <;> simp [hc, ih]

lemma local_readNumber {radix bound : ℕ} {maxDigits : Option ℕ} {allowZeroPrefix : Bool}
    (hrest : NoDigit radix rest) :
    Local rest (readNumber radix maxDigits allowZeroPrefix bound) := by
  intro cs
  obtain ⟨htake, hdrop⟩ := takeWhile_append_noDigit hrest cs
  simp only [readNumber, htake, hdrop]
  split
  · rfl
  · split
    · rfl
    · split
      · rfl
      · rfl

lemma Local.map {f : List Char → Option (α × List Char)} (hf : Local rest f) (g : α → β) :
    Local rest fun cs => (f cs).map fun r => (g r.1, r.2) := by
  intro cs
  simp only [hf cs, Option.map_map]
  rfl

lemma Local.bind {f : List Char → Option (α × List Char)}
    {g : α → List Char → Option (β × List Char)} (hf : Local rest f)
    (hg : ∀ a, Local rest (g a)) : Local rest fun cs => (f cs).bind fun r => g r.1 r.2 := by
  intro cs
  simp only [hf cs]
  cases f cs with
  | none => rfl
  | some r => exact hg r.1 r.2

lemma Local.readSeparator {sep : Char} (hsep : rest.head? ≠ some sep)
    {inner : List Char → Option (α × List Char)} (hinner : Local rest inner) (first : Bool) :
    Local rest (readSeparator sep first inner) := by
  intro cs
  cases first with
  | true => exact hinner cs
  | false =>
    simp only [Net.readSeparator, Bool.false_eq_true, if_false, readGivenChar_append hsep]
    cases readGivenChar sep cs with
    | none => rfl
    | some cs => exact hinner cs

/-! ### Addresses -/

lemma local_readOctet (hrest : NoDigit 10 rest) : Local rest readOctet :=
  (local_readNumber hrest).map _

lemma local_readSegment (hrest : NoDigit 16 rest) : Local rest readSegment :=
  (local_readNumber hrest).map _

lemma local_readIpv4Addr (hrest : NoDigit 10 rest) (hdot : rest.head? ≠ some '.') :
    Local rest readIpv4Addr := by
  have hoctet := Local.readSeparator hdot (local_readOctet hrest)
  have hdone : ∀ a b c d, Local rest fun cs => some ((⟨a, b, c, d⟩ : Ipv4Addr), cs) :=
    fun _ _ _ _ _ => rfl
  exact (hoctet true).bind fun a => (hoctet false).bind fun b => (hoctet false).bind fun c =>
    (hoctet false).bind fun d => hdone a b c d

lemma readGroups_append (hrest : EndsAddr rest) (hcolon : rest.head? ≠ some ':') (n : ℕ)
    (first : Bool) (cs : List Char) :
    readGroups n first (cs ++ rest)
      = ((readGroups n first cs).1, (readGroups n first cs).2.1,
          (readGroups n first cs).2.2 ++ rest) := by
  have hipv4 := Local.readSeparator hcolon (local_readIpv4Addr hrest.1.ten hrest.2)
  have hsegment := Local.readSeparator hcolon (local_readSegment hrest.1)
  induction n generalizing first cs with
  | zero => rfl
  | succ n ih =>
    have hif : (if n = 0 then none else readSeparator ':' first readIpv4Addr (cs ++ rest))
        = (if n = 0 then none else readSeparator ':' first readIpv4Addr cs).map
            fun r => (r.1, r.2 ++ rest) := by
      rw [hipv4 first cs]
      split
      · rfl
      · rfl
    rw [readGroups, readGroups, hif, hsegment first cs]
    cases (if n = 0 then none else readSeparator ':' first readIpv4Addr cs) with
    | some r => rfl
    | none =>
      cases readSeparator ':' first readSegment cs with
      | none => rfl
      | some r => simp [ih]

lemma local_readIpv6Addr (hrest : EndsAddr rest) (hcolon : rest.head? ≠ some ':') :
    Local rest readIpv6Addr := by
  intro cs
  obtain ⟨gs, ipv4, left, hread⟩ : ∃ gs ipv4 left, readGroups 8 true cs = (gs, ipv4, left) :=
    ⟨_, _, _, rfl⟩
  have hread' := readGroups_append hrest hcolon 8 true cs
  rw [hread] at hread'
  by_cases hlen : gs.length = 8
  · rw [readIpv6Addr_of_full hlen hread, readIpv6Addr_of_full hlen hread']
    rfl
  · cases ipv4 with
    | true => simp [readIpv6Addr, hread, hread', hlen]
    | false =>
      simp only [readIpv6Addr, hread, hread', hlen, dite_false, Bool.false_eq_true, if_false,
        readGivenChar_append hcolon]
      cases readGivenChar ':' left with
      | none => rfl
      | some left =>
        simp only [Option.map_some, Option.bind_eq_bind, Option.bind_some,
          readGivenChar_append hcolon]
        cases readGivenChar ':' left with
        | none => rfl
        | some left => simp [readGroups_append hrest hcolon]

lemma local_readScopeId (hrest : NoDigit 10 rest) (hpercent : rest.head? ≠ some '%') :
    Local rest readScopeId := by
  intro cs
  simp only [readScopeId, readGivenChar_append hpercent, Option.bind_eq_bind]
  cases readGivenChar '%' cs with
  | none => rfl
  | some cs =>
    simp only [Option.map_some, Option.bind_some]
    rw [local_readNumber hrest cs]
    cases readNumber 10 none true (2 ^ 32) cs with
    | none => rfl
    | some r => rfl

/-- A reader that stops at `rest` reads the text before it to its end. -/
lemma Local.parseWith_eq_some {f : List Char → Option (α × List Char)} (hf : Local rest f)
    {cs : List Char} {a : α} : f (cs ++ rest) = some (a, rest) ↔ parseWith f cs = some a := by
  rw [hf cs]
  constructor
  · intro h
    obtain ⟨⟨b, left⟩, hread, heq⟩ := Option.map_eq_some_iff.mp h
    obtain ⟨rfl, hleft⟩ := Prod.mk.inj heq
    have hnil : left = [] := by simpa using hleft
    rw [parseWith, hread, hnil]
  · intro h
    rw [of_parseWith h]
    rfl

/-! ### Texts of IPv4 addresses -/

lemma of_readNumber_noZero {maxDigits : Option ℕ} {bound n : ℕ} {cs : List Char}
    (h : readNumber 10 maxDigits false bound cs = some (n, rest)) : cs = dec n ++ rest := by
  simp only [readNumber] at h
  split at h
  · cases h
  case isFalse hlen =>
    split at h
    · cases h
    case isFalse hzero =>
      split at h
      · cases h
        have hne : cs.takeWhile (isDigit 10) ≠ [] := by
          intro hnil
          simp [hnil] at hlen
        have hone : (cs.takeWhile (isDigit 10)).head? = some '0' →
            (cs.takeWhile (isDigit 10)).length = 1 := by
          intro hhead
          have hpos := List.length_pos_iff.mpr hne
          simp only [hhead] at hzero
          simp at hzero
          omega
        rw [dec, toDigits_ofDigits hne (fun c hc => List.mem_takeWhile_imp hc) hone,
          List.takeWhile_append_dropWhile]
      · cases h

lemma of_readOctet {cs : List Char} {n : UInt8} (h : readOctet cs = some (n, rest)) :
    cs = dec n.toNat ++ rest := by
  obtain ⟨⟨m, rest'⟩, hread, heq⟩ := Option.map_eq_some_iff.mp h
  cases heq
  obtain ⟨-, -, -, -, hlt⟩ := of_readNumber hread
  rw [UInt8.toNat_ofNat_of_lt' hlt]
  exact of_readNumber_noZero hread

/-- The text of an IPv4 address is the one that is printed for it. -/
lemma of_readIpv4Addr {cs : List Char} {ip : Ipv4Addr} (h : readIpv4Addr cs = some (ip, rest)) :
    cs = ip.display ++ rest := by
  have hdot : ∀ {cs n rest}, readSeparator '.' false readOctet cs = some (n, rest) →
      cs = '.' :: (dec n.toNat ++ rest) := by
    intro cs n rest h
    obtain ⟨cs', hsep, hread⟩ := Option.bind_eq_some_iff.mp h
    rw [of_readGivenChar hsep, of_readOctet hread]
  simp only [readIpv4Addr, Option.bind_eq_bind, Option.bind_eq_some_iff] at h
  obtain ⟨⟨a, cs₁⟩, h₁, ⟨b, cs₂⟩, h₂, ⟨c, cs₃⟩, h₃, ⟨d, cs₄⟩, h₄, heq⟩ := h
  cases heq
  have ha : cs = dec a.toNat ++ cs₁ := of_readOctet h₁
  have hb : cs₁ = '.' :: (dec b.toNat ++ cs₂) := hdot h₂
  have hc : cs₂ = '.' :: (dec c.toNat ++ cs₃) := hdot h₃
  have hd : cs₃ = '.' :: (dec d.toNat ++ cs₄) := hdot h₄
  simp [Ipv4Addr.display, ha, hb, hc, hd]

/-! ### IPv6 addresses in brackets -/

/-- The text of an IPv6 address, with or without a scope, in brackets. -/
def BracketedIpv6 (cs : List Char) : Prop :=
  ∃ ip scope, cs = '[' :: (ip ++ scope ++ [']']) ∧ (parseWith readIpv6Addr ip).isSome ∧
    (scope = [] ∨ (parseWith readScopeId scope).isSome)

/-- What stands behind an IPv6 address in brackets, if it is read at all. -/
lemma of_readScopeId_bracket {cs cs' : List Char}
    (h : readGivenChar ']' ((readScopeId cs).getD (0, cs)).2 = some cs') :
    ∃ scope, cs = scope ++ ']' :: cs' ∧
      ((scope = [] ∧ ((readScopeId cs).getD (0, cs)).1 = 0) ∨
        parseWith readScopeId scope = some ((readScopeId cs).getD (0, cs)).1) ∧
      EndsAddr cs ∧ cs.head? ≠ some ':' := by
  have hbracket := of_readGivenChar h
  cases hscope : readScopeId cs with
  | none =>
    rw [hscope, Option.getD_none] at hbracket
    obtain rfl : cs = ']' :: cs' := hbracket
    exact ⟨[], rfl, .inl ⟨rfl, rfl⟩, endsAddr_bracket cs', by simp⟩
  | some r =>
    obtain ⟨scopeId, cs''⟩ := r
    have hsuffix := suffix_of_readScopeId cs
    rw [hscope, Option.getD_some] at hbracket hsuffix
    obtain rfl : cs'' = ']' :: cs' := hbracket
    obtain ⟨scope, rfl⟩ := hsuffix
    have hlocal := local_readScopeId (endsAddr_bracket cs').1.ten (by simp)
    have hparse := hlocal.parseWith_eq_some.mp hscope
    have hpercent : ∃ cs₀, scope ++ ']' :: cs' = '%' :: cs₀ := by
      simp only [readScopeId, Option.bind_eq_bind, Option.bind_eq_some_iff] at hscope
      obtain ⟨cs₀, hgiven, -⟩ := hscope
      exact ⟨cs₀, of_readGivenChar hgiven⟩
    obtain ⟨cs₀, hcs₀⟩ := hpercent
    refine ⟨scope, rfl, .inr hparse, ?_⟩
    rw [hcs₀]
    exact ⟨endsAddr_percent cs₀, by simp⟩

end Net
