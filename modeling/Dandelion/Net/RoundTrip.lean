import Dandelion.Net.Text

/-!
# Printed addresses are read back

Each reader takes what the matching printer wrote off the front of a text, provided the text goes
on with something that cannot be taken for a part of the address.
-/

namespace Net

variable {rest : List Char}

/-- A text that goes on with no hexadecimal digit and no dot. -/
def EndsAddr (rest : List Char) : Prop := NoDigit 16 rest ∧ rest.head? ≠ some '.'

lemma isDigit_sixteen_of_ten {c : Char} (h : isDigit 10 c = true) : isDigit 16 c = true := by
  unfold isDigit toDigit at *
  split at h
  all_goals grind

lemma NoDigit.ten (h : NoDigit 16 rest) : NoDigit 10 rest := by
  intro c hc
  by_contra hdigit
  have hsixteen := isDigit_sixteen_of_ten (eq_true_of_ne_false hdigit)
  rw [h c hc] at hsixteen
  cases hsixteen

@[simp] lemma noDigit_nil (radix : ℕ) : NoDigit radix [] := nofun

lemma noDigit_cons {radix : ℕ} {c : Char} {cs : List Char} (hc : isDigit radix c = false) :
    NoDigit radix (c :: cs) := by
  intro c' hc'
  obtain rfl : c = c' := by simpa using hc'
  exact hc

lemma noDigit_ten_dot (cs : List Char) : NoDigit 10 ('.' :: cs) := noDigit_cons (by decide)

lemma noDigit_sixteen_colon (cs : List Char) : NoDigit 16 (':' :: cs) := noDigit_cons (by decide)

lemma endsAddr_colon (cs : List Char) : EndsAddr (':' :: cs) :=
  ⟨noDigit_sixteen_colon cs, by simp⟩

/-! ### Single numbers -/

lemma readOctet_dec (n : UInt8) (hrest : NoDigit 10 rest) :
    readOctet (dec n.toNat ++ rest) = some (n, rest) := by
  have hn : n.toNat < 256 := n.toNat_lt
  have hread : readNumber 10 (some 3) false 256 (dec n.toNat ++ rest) = some (n.toNat, rest) := by
    refine readNumber_toDigits (by decide) (by decide) false ?_ hn hrest
    rintro m ⟨⟩
    exact ⟨by decide, by omega⟩
  simp [readOctet, hread]

lemma readSegment_hex (g : UInt16) (hrest : NoDigit 16 rest) :
    readSegment (hex g ++ rest) = some (g, rest) := by
  have hg : g.toNat < 65536 := g.toNat_lt
  have hread : readNumber 16 (some 4) true 65536 (hex g ++ rest) = some (g.toNat, rest) := by
    refine readNumber_toDigits (by decide) (by decide) true ?_ hg hrest
    rintro m ⟨⟩
    exact ⟨by decide, by omega⟩
  simp [readSegment, hread]

lemma readNumber_of_noDigit {radix bound : ℕ} {maxDigits : Option ℕ} {allowZeroPrefix : Bool}
    (hrest : NoDigit radix rest) :
    readNumber radix maxDigits allowZeroPrefix bound rest = none := by
  have hnil : rest.takeWhile (isDigit radix) = [] := by
    cases rest with
    | nil => rfl
    | cons c rest => simp [hrest c rfl]
  simp [readNumber, hnil]

@[simp] lemma readGivenChar_self (c : Char) (cs : List Char) :
    readGivenChar c (c :: cs) = some cs := by
  simp [readGivenChar]

lemma readGivenChar_of_ne {c : Char} {cs : List Char} (h : cs.head? ≠ some c) :
    readGivenChar c cs = none := by
  cases cs with
  | nil => rfl
  | cons c' cs => simpa [readGivenChar] using h

/-! ### IPv4 -/

lemma readIpv4Addr_display (ip : Ipv4Addr) (hrest : NoDigit 10 rest) :
    readIpv4Addr (ip.display ++ rest) = some (ip, rest) := by
  obtain ⟨a, b, c, d⟩ := ip
  simp [readIpv4Addr, Ipv4Addr.display, readSeparator, readOctet_dec, noDigit_ten_dot, hrest]

/-- An IPv4 address starts with digits and a dot. -/
lemma readIpv4Addr_eq_none {cs : List Char}
    (h : (cs.dropWhile (isDigit 10)).head? ≠ some '.') : readIpv4Addr cs = none := by
  cases hoctet : readOctet cs with
  | none => simp [readIpv4Addr, readSeparator, hoctet]
  | some r =>
    obtain ⟨a, cs'⟩ := r
    have hcs' : cs' = cs.dropWhile (isDigit 10) := by
      unfold readOctet readNumber at hoctet
      grind
    have hdot : readGivenChar '.' cs' = none := readGivenChar_of_ne (hcs' ▸ h)
    simp [readIpv4Addr, readSeparator, hoctet, hdot]

lemma head?_dropWhile_append {p : Char → Bool} {c : Char} {xs cs : List Char} (hxs : c ∉ xs)
    (hp : ∀ x ∈ cs.head?, p x = false) (hcs : cs.head? ≠ some c) :
    ((xs ++ cs).dropWhile p).head? ≠ some c := by
  induction xs with
  | nil =>
    cases cs with
    | nil => simp
    | cons x cs => simpa [hp x rfl] using hcs
  | cons x xs ih =>
    rw [List.mem_cons, not_or] at hxs
    rw [List.cons_append, List.dropWhile_cons]
    split
    · exact ih hxs.2
    · simpa using Ne.symm hxs.1

lemma dot_not_mem_hex (g : UInt16) : '.' ∉ hex g := by
  intro hmem
  have hdigit : isDigit 16 '.' = true := isDigit_of_mem_toDigits (by decide) (by decide) hmem
  exact absurd hdigit (by decide)

/-- A segment is not the start of an IPv4 address. -/
lemma readIpv4Addr_hex (g : UInt16) (hrest : EndsAddr rest) :
    readIpv4Addr (hex g ++ rest) = none :=
  readIpv4Addr_eq_none (head?_dropWhile_append (dot_not_mem_hex g) hrest.1.ten hrest.2)

/-! ### IPv6 segments -/

/-- No further segment can be read. -/
def Stops (first : Bool) (rest : List Char) : Prop :=
  ∀ n, readGroups n first rest = ([], false, rest)

lemma stops_of_none {first : Bool} (hipv4 : readSeparator ':' first readIpv4Addr rest = none)
    (hsegment : readSeparator ':' first readSegment rest = none) : Stops first rest := by
  intro n
  cases n with
  | zero => rfl
  | succ n => simp [readGroups, hipv4, hsegment]

lemma readSegment_of_noDigit (hrest : NoDigit 16 rest) : readSegment rest = none := by
  simp [readSegment, readNumber_of_noDigit hrest]

lemma readIpv4Addr_of_noDigit (hrest : NoDigit 10 rest) : readIpv4Addr rest = none := by
  simp [readIpv4Addr, readSeparator, readOctet, readNumber_of_noDigit hrest]

lemma stops_first (hrest : NoDigit 16 rest) : Stops true rest :=
  stops_of_none (readIpv4Addr_of_noDigit hrest.ten) (readSegment_of_noDigit hrest)

lemma stops_of_head?_ne (hrest : rest.head? ≠ some ':') : Stops false rest := by
  apply stops_of_none <;> simp [readSeparator, readGivenChar_of_ne hrest]

lemma stops_colons (rest : List Char) : Stops false (':' :: ':' :: rest) := by
  have hcolon := noDigit_sixteen_colon rest
  apply stops_of_none
  · simpa [readSeparator] using readIpv4Addr_of_noDigit hcolon.ten
  · simpa [readSeparator] using readSegment_of_noDigit hcolon

lemma endsAddr_segments (gs : List UInt16) (hrest : EndsAddr rest) :
    EndsAddr ((gs.flatMap fun g => ':' :: hex g) ++ rest) := by
  cases gs with
  | nil => exact hrest
  | cons g gs => exact endsAddr_colon _

/-- The segments after the first are read back, each with its colon. -/
lemma readGroups_tail {gs : List UInt16} {n : ℕ} (hlen : gs.length ≤ n) (hrest : EndsAddr rest)
    (hstop : gs.length = n ∨ Stops false rest) :
    readGroups n false ((gs.flatMap fun g => ':' :: hex g) ++ rest) = (gs, false, rest) := by
  induction gs generalizing n with
  | nil =>
    rcases hstop with hn | hstop
    · obtain rfl : 0 = n := hn
      rfl
    · exact hstop n
  | cons g gs ih =>
    obtain _ | n := n
    · simp at hlen
    · have hnext := endsAddr_segments gs hrest
      have htail := ih (n := n) (by simpa using hlen) (by simpa using hstop)
      simp [readGroups, readSeparator, readIpv4Addr_hex g hnext, readSegment_hex g hnext.1, htail]

/-- Printed segments are read back. -/
lemma readGroups_fmtSubslice {gs : List UInt16} {n : ℕ} (hlen : gs.length ≤ n)
    (hrest : EndsAddr rest) (hstop : gs.length = n ∨ Stops false rest) :
    readGroups n true (fmtSubslice gs ++ rest) = (gs, false, rest) := by
  cases gs with
  | nil => exact stops_first hrest.1 n
  | cons g gs =>
    obtain _ | n := n
    · simp at hlen
    · have hnext := endsAddr_segments gs hrest
      have htail := readGroups_tail (n := n) (by simpa using hlen) hrest (by simpa using hstop)
      simp [readGroups, readSeparator, fmtSubslice, readIpv4Addr_hex g hnext,
        readSegment_hex g hnext.1, htail]

/-! ### Runs of zeros -/

/-- All segments of the run are zero. -/
def Span.Zero (segments : List UInt16) (s : Span) : Prop :=
  ∀ j, s.start ≤ j → j < s.start + s.len → segments[j]? = some 0

/-- A run of zeros that ends just before a zero segment grows by it. -/
lemma Span.Zero.extend {segments : List UInt16} {current : Span} (h : current.Zero segments)
    {i : ℕ} (hend : current.len = 0 ∨ current.start + current.len = i)
    (hi : segments[i]? = some 0) :
    (current.extend i).Zero segments ∧
      (current.extend i).start + (current.extend i).len = i + 1 := by
  rw [Span.extend]
  split
  case isTrue =>
    refine ⟨fun j hle hlt => ?_, rfl⟩
    obtain rfl : j = i := by
      simp only at hle hlt
      omega
    exact hi
  case isFalse hlen =>
    have hstart : current.start + current.len = i := hend.resolve_left hlen
    refine ⟨fun j hle hlt => ?_, by simp only; omega⟩
    rcases Nat.lt_or_ge j i with hj | hj
    · exact h j hle (by omega)
    · obtain rfl : j = i := by
        simp only at hlt
        omega
      exact hi

lemma zero_longestZeroes (done segments : List UInt16) {longest current : Span}
    (hlongest : longest.Zero (done ++ segments)) (hcurrent : current.Zero (done ++ segments))
    (hend : current.len = 0 ∨ current.start + current.len = done.length) :
    (longestZeroes done.length longest current segments).Zero (done ++ segments) := by
  induction segments generalizing done longest current with
  | nil => exact hlongest
  | cons segment segments ih =>
    have hassoc : done ++ segment :: segments = (done ++ [segment]) ++ segments := by simp
    have hlength : done.length + 1 = (done ++ [segment]).length := by simp
    rw [longestZeroes, hlength]
    split
    case isTrue hzero =>
      have hat : (done ++ segment :: segments)[done.length]? = some 0 := by simp [hzero]
      have hgrown := hcurrent.extend hend hat
      rw [hassoc] at hlongest hgrown ⊢
      refine ih _ ?_ hgrown.1 (.inr (hlength ▸ hgrown.2))
      split
      · exact hgrown.1
      · exact hlongest
    case isFalse =>
      rw [hassoc] at hlongest ⊢
      exact ih _ hlongest (by intro j _ hj; simp at hj) (.inl rfl)

lemma zero_zeroes (segments : List UInt16) : (zeroes segments).Zero segments := by
  have hnone : (⟨0, 0⟩ : Span).Zero segments := fun j _ hj => by simp at hj
  exact zero_longestZeroes [] segments hnone hnone (.inl rfl)

/-- A list of segments around a run of zeros. -/
lemma Span.Zero.split {segments : List UInt16} {s : Span} (h : s.Zero segments)
    (hlen : 0 < s.len) :
    s.start + s.len ≤ segments.length ∧
      segments = segments.take s.start ++ List.replicate s.len 0 ++
        segments.drop (s.start + s.len) := by
  have hbound : s.start + s.len ≤ segments.length := by
    have hlast := h (s.start + s.len - 1) (by omega) (by omega)
    have hlt := (List.getElem?_eq_some_iff.mp hlast).1
    omega
  have hzero : (segments.drop s.start).take s.len = List.replicate s.len 0 := by
    apply List.ext_getElem?
    intro j
    by_cases hj : j < s.len
    · have hat := h (s.start + j) (by omega) (by omega)
      simp [hj, hat]
    · simp [hj]
  refine ⟨hbound, ?_⟩
  rw [← hzero, List.append_assoc, ← List.drop_drop, List.take_append_drop, List.take_append_drop]

/-! ### IPv6 -/

lemma readIpv6Addr_of_full {cs : List Char} {gs : List UInt16} {ipv4 : Bool} (h : gs.length = 8)
    (hread : readGroups 8 true cs = (gs, ipv4, rest)) :
    readIpv6Addr cs = some (⟨gs, h⟩, rest) := by
  simp [readIpv6Addr, hread, h]

/-- What is read around two colons. -/
lemma readIpv6Addr_of_colons {cs cs' : List Char} {head tail : List UInt16} {ipv4 : Bool}
    (hhead : readGroups 8 true cs = (head, false, ':' :: ':' :: cs')) (hlt : head.length < 8)
    (htail : readGroups (7 - head.length) true cs' = (tail, ipv4, rest))
    (hlen : head.length + tail.length ≤ 8) :
    readIpv6Addr cs = some (.ofHeadTail head tail hlen, rest) := by
  simp [readIpv6Addr, hhead, hlt.ne, htail]

lemma toIpv4Mapped_eq_some {ip : Ipv6Addr} {ipv4 : Ipv4Addr} (h : ip.toIpv4Mapped = some ipv4) :
    ip.segments = List.replicate 5 0 ++
      [0xffff, UInt16.fromBeBytes ipv4.a ipv4.b, UInt16.fromBeBytes ipv4.c ipv4.d] := by
  unfold Ipv6Addr.toIpv4Mapped at h
  split at h
  case h_1 ab cd heq =>
    cases h
    simp [heq, List.replicate]
  case h_2 => cases h

/-- The end of a printed IPv4-mapped address. -/
lemma readGroups_mapped (ipv4 : Ipv4Addr) (hrest : NoDigit 10 rest) :
    readGroups 7 true (['f', 'f', 'f', 'f', ':'] ++ ipv4.display ++ rest)
      = ([0xffff, UInt16.fromBeBytes ipv4.a ipv4.b, UInt16.fromBeBytes ipv4.c ipv4.d], true,
          rest) := by
  have hcolon := endsAddr_colon (ipv4.display ++ rest)
  have htext : ['f', 'f', 'f', 'f', ':'] ++ ipv4.display ++ rest
      = hex 0xffff ++ ':' :: (ipv4.display ++ rest) := by
    rw [show hex 0xffff = ['f', 'f', 'f', 'f'] by decide]
    simp
  rw [htext]
  simp [readGroups, readSeparator, readIpv4Addr_hex _ hcolon, readSegment_hex _ hcolon.1,
    readIpv4Addr_display ipv4 hrest]

/-- A printed IPv6 address is read back. -/
theorem readIpv6Addr_display (ip : Ipv6Addr) (hrest : EndsAddr rest)
    (hcolon : rest.head? ≠ some ':') : readIpv6Addr (ip.display ++ rest) = some (ip, rest) := by
  have hstop := stops_of_head?_ne hcolon
  rw [Ipv6Addr.display]
  split
  case h_1 ipv4 hmapped =>
    have hhead := stops_first
      (noDigit_sixteen_colon (':' :: (['f', 'f', 'f', 'f', ':'] ++ ipv4.display ++ rest))) 8
    have hread := readIpv6Addr_of_colons hhead (by simp) (readGroups_mapped ipv4 hrest.1.ten)
      (by simp)
    have hip : ip = .ofHeadTail [] [0xffff, UInt16.fromBeBytes ipv4.a ipv4.b,
        UInt16.fromBeBytes ipv4.c ipv4.d] (by simp) :=
      Ipv6Addr.ext (toIpv4Mapped_eq_some hmapped)
    rw [hip]
    exact hread
  case h_2 hmapped =>
    dsimp only
    split
    case isTrue hlen =>
      obtain ⟨hbound, hsplit⟩ := (zero_zeroes ip.segments).split (by omega)
      generalize zeroes ip.segments = z at hlen hbound hsplit ⊢
      rw [ip.length_segments] at hbound
      have hhead : (ip.segments.take z.start).length = z.start := by
        rw [List.length_take, ip.length_segments]
        omega
      have htail : (ip.segments.drop (z.start + z.len)).length = 8 - (z.start + z.len) := by
        rw [List.length_drop, ip.length_segments]
      have hreadHead := readGroups_fmtSubslice
        (show (ip.segments.take z.start).length ≤ 8 by omega)
        (endsAddr_colon (':' :: (fmtSubslice (ip.segments.drop (z.start + z.len)) ++ rest)))
        (.inr (stops_colons _))
      have hreadTail := readGroups_fmtSubslice
        (show (ip.segments.drop (z.start + z.len)).length
          ≤ 7 - (ip.segments.take z.start).length by omega) hrest (.inr hstop)
      have hread := readIpv6Addr_of_colons hreadHead (by omega) hreadTail (by omega)
      have hip : ip = .ofHeadTail (ip.segments.take z.start)
          (ip.segments.drop (z.start + z.len)) (by omega) := by
        apply Ipv6Addr.ext
        rw [Ipv6Addr.ofHeadTail]
        have hzeros : 8 - ((ip.segments.take z.start).length +
            (ip.segments.drop (z.start + z.len)).length) = z.len := by omega
        simpa only [hzeros] using hsplit
      rw [List.append_assoc, List.cons_append, List.cons_append, hread, ← hip]
    case isFalse =>
      have hread := readGroups_fmtSubslice (n := 8) ip.length_segments.le hrest
        (.inl ip.length_segments)
      exact readIpv6Addr_of_full ip.length_segments hread

/-! ### IP addresses -/

lemma readIpv4Addr_fmtSubslice_colon (gs : List UInt16) (cs : List Char) :
    readIpv4Addr (fmtSubslice gs ++ ':' :: cs) = none := by
  cases gs with
  | nil => exact readIpv4Addr_of_noDigit (noDigit_sixteen_colon cs).ten
  | cons g gs =>
    rw [fmtSubslice, List.append_assoc]
    exact readIpv4Addr_hex g (endsAddr_segments gs (endsAddr_colon cs))

/-- A printed IPv6 address does not start with an IPv4 address. -/
lemma readIpv4Addr_ipv6_display (ip : Ipv6Addr) (hrest : EndsAddr rest) :
    readIpv4Addr (ip.display ++ rest) = none := by
  rw [Ipv6Addr.display]
  split
  · exact readIpv4Addr_fmtSubslice_colon [] _
  · dsimp only
    split
    · rw [List.append_assoc]
      exact readIpv4Addr_fmtSubslice_colon _ _
    · obtain ⟨g, gs, hgs⟩ := List.exists_cons_of_length_eq_add_one ip.length_segments
      rw [hgs, fmtSubslice, List.append_assoc]
      exact readIpv4Addr_hex g (endsAddr_segments gs hrest)

lemma readIpAddr_display (ip : IpAddr) (hrest : EndsAddr rest) (hcolon : rest.head? ≠ some ':') :
    readIpAddr (ip.display ++ rest) = some (ip, rest) := by
  cases ip with
  | v4 ip => simp [readIpAddr, IpAddr.display, readIpv4Addr_display ip hrest.1.ten]
  | v6 ip =>
    simp [readIpAddr, IpAddr.display, readIpv4Addr_ipv6_display ip hrest,
      readIpv6Addr_display ip hrest hcolon]

/-- Parsing undoes printing. -/
theorem IpAddr.parse_display (ip : IpAddr) :
    IpAddr.parse (String.ofList ip.display) = some ip := by
  have hread := readIpAddr_display ip (show EndsAddr [] from ⟨noDigit_nil 16, by simp⟩) (by simp)
  rw [List.append_nil] at hread
  simp [IpAddr.parse, parseWith, hread]

example : String.ofList (IpAddr.display (.v6 ⟨[0xfe80, 0, 0, 0, 1, 0, 0, 2], rfl⟩))
    = "fe80::1:0:0:2" := by
  decide

/-! ### Socket addresses -/

/-- What the text of a socket address tells of it: all but the flow label. -/
def SocketAddr.withoutFlowinfo : SocketAddr → SocketAddr
  | .v4 ip port           => .v4 ip port
  | .v6 ip port _ scopeId => .v6 ip port 0 scopeId

lemma readPort_dec (port : UInt16) (hrest : NoDigit 10 rest) :
    readPort (':' :: (dec port.toNat ++ rest)) = some (port, rest) := by
  have hread : readNumber 10 none true 65536 (dec port.toNat ++ rest)
      = some (port.toNat, rest) :=
    readNumber_toDigits (by decide) (by decide) true (by simp) port.toNat_lt hrest
  simp [readPort, hread]

lemma readScopeId_dec (scopeId : UInt32) (hrest : NoDigit 10 rest) :
    readScopeId ('%' :: (dec scopeId.toNat ++ rest)) = some (scopeId, rest) := by
  have hread : readNumber 10 none true 4294967296 (dec scopeId.toNat ++ rest)
      = some (scopeId.toNat, rest) :=
    readNumber_toDigits (by decide) (by decide) true (by simp) scopeId.toNat_lt hrest
  simp [readScopeId, hread]

lemma endsAddr_bracket (cs : List Char) : EndsAddr (']' :: cs) :=
  ⟨noDigit_cons (by decide), by simp⟩

lemma endsAddr_percent (cs : List Char) : EndsAddr ('%' :: cs) :=
  ⟨noDigit_cons (by decide), by simp⟩

lemma readSocketAddrV4_of_bracket (cs : List Char) : readSocketAddrV4 ('[' :: cs) = none := by
  have hip : readIpv4Addr ('[' :: cs) = none :=
    readIpv4Addr_of_noDigit (noDigit_cons (by decide))
  simp [readSocketAddrV4, hip]

/-- Parsing undoes printing, but for the flow label. -/
theorem SocketAddr.parse_display (a : SocketAddr) :
    SocketAddr.parse (String.ofList a.display) = some a.withoutFlowinfo := by
  cases a with
  | v4 ip port =>
    have hip := readIpv4Addr_display ip (noDigit_sixteen_colon (dec port.toNat)).ten
    have hport := readPort_dec port (noDigit_nil 10)
    rw [List.append_nil] at hport
    simp [SocketAddr.parse, parseWith, readSocketAddr, SocketAddr.display, readSocketAddrV4, hip,
      hport, withoutFlowinfo]
  | v6 ip port flowinfo scopeId =>
    have hport := readPort_dec port (noDigit_nil 10)
    rw [List.append_nil] at hport
    have hread : readSocketAddrV6 (SocketAddr.v6 ip port flowinfo scopeId).display
        = some (.v6 ip port 0 scopeId, []) := by
      by_cases hscope : scopeId = 0
      · have hip := readIpv6Addr_display ip (endsAddr_bracket (':' :: dec port.toNat)) (by simp)
        have hnone : readScopeId (']' :: ':' :: dec port.toNat) = none := by
          simp [readScopeId, readGivenChar]
        simp [SocketAddr.display, readSocketAddrV6, hscope, hip, hnone, hport]
      · have hip := readIpv6Addr_display ip
          (endsAddr_percent (dec scopeId.toNat ++ ']' :: ':' :: dec port.toNat)) (by simp)
        have hsome := readScopeId_dec scopeId (endsAddr_bracket (':' :: dec port.toNat)).1.ten
        simp [SocketAddr.display, readSocketAddrV6, hscope, hip, hsome, hport]
    rw [SocketAddr.parse, parseWith, readSocketAddr, String.toList_ofList, hread,
      SocketAddr.display, readSocketAddrV4_of_bracket]
    rfl

/-! ### Characters -/

/-- A visible ASCII character. -/
def Plain (c : Char) : Prop := 32 < c.toNat ∧ c.toNat < 127

lemma plain_of_le {a b c : Char} (ha : 32 < a.toNat) (hb : b.toNat < 127)
    (h : a ≤ c ∧ c ≤ b) : Plain c :=
  ⟨Nat.lt_of_lt_of_le ha h.1, Nat.lt_of_le_of_lt h.2 hb⟩

lemma plain_of_isDigit {radix : ℕ} {c : Char} (h : isDigit radix c = true) : Plain c := by
  by_cases hnine : '0' ≤ c ∧ c ≤ '9'
  · exact plain_of_le (by decide) (by decide) hnine
  by_cases hlower : 'a' ≤ c ∧ c ≤ 'z'
  · exact plain_of_le (by decide) (by decide) hlower
  by_cases hupper : 'A' ≤ c ∧ c ≤ 'Z'
  · exact plain_of_le (by decide) (by decide) hupper
  simp [isDigit, toDigit, hnine, hlower, hupper] at h

lemma plain_dec (n : ℕ) : ∀ c ∈ dec n, Plain c :=
  fun _ hc => plain_of_isDigit (isDigit_of_mem_toDigits (by decide) (by decide) hc)

lemma plain_hex (n : UInt16) : ∀ c ∈ hex n, Plain c :=
  fun _ hc => plain_of_isDigit (isDigit_of_mem_toDigits (by decide) (by decide) hc)

lemma plain_append {cs cs' : List Char} (h : ∀ c ∈ cs, Plain c) (h' : ∀ c ∈ cs', Plain c) :
    ∀ c ∈ cs ++ cs', Plain c :=
  List.forall_mem_append.mpr ⟨h, h'⟩

lemma plain_cons {c : Char} {cs : List Char} (hc : Plain c) (h : ∀ c ∈ cs, Plain c) :
    ∀ c' ∈ c :: cs, Plain c' :=
  List.forall_mem_cons.mpr ⟨hc, h⟩

lemma plain_dot : Plain '.' := ⟨by decide, by decide⟩

lemma plain_colon : Plain ':' := ⟨by decide, by decide⟩

lemma Ipv4Addr.plain_display (ip : Ipv4Addr) : ∀ c ∈ ip.display, Plain c :=
  plain_append (plain_dec _) <| plain_cons plain_dot <| plain_append (plain_dec _) <|
    plain_cons plain_dot <| plain_append (plain_dec _) <| plain_cons plain_dot <| plain_dec _

lemma plain_fmtSubslice (gs : List UInt16) : ∀ c ∈ fmtSubslice gs, Plain c := by
  cases gs with
  | nil => simp [fmtSubslice]
  | cons g gs =>
    refine plain_append (plain_hex g) fun c hc => ?_
    obtain ⟨g', -, hc⟩ := List.mem_flatMap.mp hc
    exact plain_cons plain_colon (plain_hex g') c hc

lemma Ipv6Addr.plain_display (ip : Ipv6Addr) : ∀ c ∈ ip.display, Plain c := by
  rw [Ipv6Addr.display]
  split
  case h_1 ipv4 _ =>
    have hmapped : ∀ c ∈ [':', ':', 'f', 'f', 'f', 'f', ':'], Plain c := by
      simp [Plain]
    exact plain_append hmapped ipv4.plain_display
  case h_2 =>
    dsimp only
    split
    · exact plain_append (plain_fmtSubslice _)
        (plain_cons plain_colon (plain_cons plain_colon (plain_fmtSubslice _)))
    · exact plain_fmtSubslice _

/-- A printed socket address consists of visible ASCII characters. -/
theorem SocketAddr.plain_display (a : SocketAddr) : ∀ c ∈ a.display, Plain c := by
  cases a with
  | v4 ip port => exact plain_append ip.plain_display (plain_cons plain_colon (plain_dec _))
  | v6 ip port flowinfo scopeId =>
    have hscope : ∀ c ∈ (if scopeId = 0 then [] else '%' :: dec scopeId.toNat), Plain c := by
      split
      · simp
      · exact plain_cons ⟨by decide, by decide⟩ (plain_dec _)
    refine plain_cons ⟨by decide, by decide⟩ ?_
    apply plain_append (plain_append ip.plain_display hscope)
    exact plain_cons ⟨by decide, by decide⟩ (plain_cons plain_colon (plain_dec _))

end Net
