import Dandelion.Core.Bytes
import Dandelion.Net.Addr
import Dandelion.Net.Digits

/-!
# Addresses in text

How the standard library prints and reads IP and socket addresses. A reader takes the address at
the front of a text and returns the rest.
-/

namespace Net

/-! ### Printing -/

def dec (n : ℕ) : List Char := Nat.toDigits 10 n

def hex (n : UInt16) : List Char := Nat.toDigits 16 n.toNat

def Ipv4Addr.display (ip : Ipv4Addr) : List Char :=
  dec ip.a.toNat ++ '.' :: (dec ip.b.toNat ++ '.' :: (dec ip.c.toNat ++ '.' :: dec ip.d.toNat))

/-- A run of segments. -/
structure Span where
  start : ℕ
  len : ℕ

/-- The run with the zero segment at index `i` added to it. -/
def Span.extend (s : Span) (i : ℕ) : Span :=
  if s.len = 0 then ⟨i, 1⟩ else ⟨s.start, s.len + 1⟩

/-- The longest run of zero segments, the first of them if there are several, when the segment at
hand has the index `i`. -/
def longestZeroes : (i : ℕ) → (longest current : Span) → List UInt16 → Span
  | _, longest, _, [] => longest
  | i, longest, current, segment :: segments =>
    if segment = 0 then
      let current := current.extend i
      longestZeroes (i + 1) (if longest.len < current.len then current else longest) current segments
    else longestZeroes (i + 1) longest ⟨0, 0⟩ segments

def zeroes (segments : List UInt16) : Span := longestZeroes 0 ⟨0, 0⟩ ⟨0, 0⟩ segments

/-- Segments with colons between them. -/
def fmtSubslice : List UInt16 → List Char
  | []            => []
  | first :: tail => hex first ++ tail.flatMap fun segment => ':' :: hex segment

namespace Ipv6Addr

/-- The IPv4 address that an IPv4-mapped address stands for. -/
def toIpv4Mapped (ip : Ipv6Addr) : Option Ipv4Addr :=
  match ip.segments with
  | [0, 0, 0, 0, 0, 0xffff, ab, cd] => some ⟨ab.high, ab.low, cd.high, cd.low⟩
  | _                               => none

def display (ip : Ipv6Addr) : List Char :=
  match ip.toIpv4Mapped with
  | some ipv4 => [':', ':', 'f', 'f', 'f', 'f', ':'] ++ ipv4.display
  | none =>
    let zeroes := zeroes ip.segments
    if 1 < zeroes.len then
      fmtSubslice (ip.segments.take zeroes.start) ++
        ':' :: ':' :: fmtSubslice (ip.segments.drop (zeroes.start + zeroes.len))
    else fmtSubslice ip.segments

end Ipv6Addr

def IpAddr.display : IpAddr → List Char
  | .v4 ip => ip.display
  | .v6 ip => ip.display

/-- The flow label has no textual form, and the scope only when it is not zero. -/
def SocketAddr.display : SocketAddr → List Char
  | .v4 ip port           => ip.display ++ ':' :: dec port.toNat
  | .v6 ip port _ scopeId =>
    let scope := if scopeId = 0 then [] else '%' :: dec scopeId.toNat
    '[' :: (ip.display ++ scope ++ ']' :: ':' :: dec port.toNat)

/-! ### Reading -/

/-- Read one given character. -/
def readGivenChar (target : Char) : List Char → Option (List Char)
  | []      => none
  | c :: cs => if c = target then some cs else none

/-- Read a separator, unless this is the first item, and then the item. -/
def readSeparator {α : Type*} (sep : Char) (first : Bool)
    (inner : List Char → Option (α × List Char)) (cs : List Char) : Option (α × List Char) :=
  if first then inner cs else (readGivenChar sep cs).bind inner

/-- Read a decimal octet; leading zeros are not allowed. -/
def readOctet (cs : List Char) : Option (UInt8 × List Char) :=
  (readNumber 10 (some 3) false 256 cs).map fun r => (UInt8.ofNat r.1, r.2)

/-- Read a hexadecimal segment. -/
def readSegment (cs : List Char) : Option (UInt16 × List Char) :=
  (readNumber 16 (some 4) true 65536 cs).map fun r => (UInt16.ofNat r.1, r.2)

def readIpv4Addr (cs : List Char) : Option (Ipv4Addr × List Char) := do
  let (a, cs) ← readSeparator '.' true readOctet cs
  let (b, cs) ← readSeparator '.' false readOctet cs
  let (c, cs) ← readSeparator '.' false readOctet cs
  let (d, cs) ← readSeparator '.' false readOctet cs
  some (⟨a, b, c, d⟩, cs)

/-- Read up to `n` segments. An IPv4 address at the end stands for two of them; the flag says
whether there was one. -/
def readGroups : (n : ℕ) → (first : Bool) → List Char → List UInt16 × Bool × List Char
  | 0, _, cs         => ([], false, cs)
  | n + 1, first, cs =>
    -- an embedded address needs room for two segments
    match if n = 0 then none else readSeparator ':' first readIpv4Addr cs with
    | some (ip, cs) =>
      ([UInt16.fromBeBytes ip.a ip.b, UInt16.fromBeBytes ip.c ip.d], true, cs)
    | none =>
      match readSeparator ':' first readSegment cs with
      | some (segment, cs) =>
        let r := readGroups n false cs
        (segment :: r.1, r.2)
      | none => ([], false, cs)

lemma length_readGroups_le (n : ℕ) (first : Bool) (cs : List Char) :
    (readGroups n first cs).1.length ≤ n := by
  induction n generalizing first cs with
  | zero => simp [readGroups]
  | succ n ih =>
    rw [readGroups]
    split
    case h_1 heq =>
      split at heq
      · cases heq
      case isFalse hn =>
        simp only [List.length_cons, List.length_nil]
        omega
    case h_2 =>
      split
      · simpa using ih _ _
      · simp

/-- Eight segments of which those between the head and the tail are zero. -/
def Ipv6Addr.ofHeadTail (head tail : List UInt16) (h : head.length + tail.length ≤ 8) :
    Ipv6Addr where
  segments := head ++ List.replicate (8 - (head.length + tail.length)) 0 ++ tail
  length_segments := by
    simp only [List.length_append, List.length_replicate]
    omega

def readIpv6Addr (cs : List Char) : Option (Ipv6Addr × List Char) :=
  let head := readGroups 8 true cs
  if h : head.1.length = 8 then some (⟨head.1, h⟩, head.2.2)
  else if head.2.1 then none
  else do
    let rest ← readGivenChar ':' head.2.2
    let rest ← readGivenChar ':' rest
    let tail := readGroups (8 - (head.1.length + 1)) true rest
    have hlen : head.1.length + tail.1.length ≤ 8 := by
      have hhead : head.1.length ≤ 8 := length_readGroups_le 8 true cs
      have htail : tail.1.length ≤ 8 - (head.1.length + 1) := length_readGroups_le _ _ _
      omega
    some (.ofHeadTail head.1 tail.1 hlen, tail.2.2)

def readIpAddr (cs : List Char) : Option (IpAddr × List Char) :=
  match readIpv4Addr cs with
  | some (ip, cs) => some (.v4 ip, cs)
  | none          => (readIpv6Addr cs).map fun r => (.v6 r.1, r.2)

def readPort (cs : List Char) : Option (UInt16 × List Char) := do
  let cs ← readGivenChar ':' cs
  let (port, cs) ← readNumber 10 none true 65536 cs
  some (UInt16.ofNat port, cs)

def readScopeId (cs : List Char) : Option (UInt32 × List Char) := do
  let cs ← readGivenChar '%' cs
  let (scopeId, cs) ← readNumber 10 none true (2 ^ 32) cs
  some (UInt32.ofNat scopeId, cs)

def readSocketAddrV4 (cs : List Char) : Option (SocketAddr × List Char) := do
  let (ip, cs) ← readIpv4Addr cs
  let (port, cs) ← readPort cs
  some (.v4 ip port, cs)

def readSocketAddrV6 (cs : List Char) : Option (SocketAddr × List Char) := do
  let cs ← readGivenChar '[' cs
  let (ip, cs) ← readIpv6Addr cs
  let (scopeId, cs) := (readScopeId cs).getD (0, cs)
  let cs ← readGivenChar ']' cs
  let (port, cs) ← readPort cs
  some (.v6 ip port 0 scopeId, cs)

def readSocketAddr (cs : List Char) : Option (SocketAddr × List Char) :=
  (readSocketAddrV4 cs).orElse fun _ => readSocketAddrV6 cs

/-- A reader that must use up the text. -/
def parseWith {α : Type*} (inner : List Char → Option (α × List Char)) (cs : List Char) :
    Option α :=
  match inner cs with
  | some (a, []) => some a
  | _            => none

def IpAddr.parse (s : String) : Option IpAddr := parseWith readIpAddr s.toList

def SocketAddr.parse (s : String) : Option SocketAddr := parseWith readSocketAddr s.toList

/-- A decimal number below `2 ^ 16`, with an optional plus sign. -/
def parseU16 (cs : List Char) : Option UInt16 :=
  let ds := match cs with
    | '+' :: ds => ds
    | _         => cs
  if ds.isEmpty || !ds.all (isDigit 10) then none
  else if ofDigits 10 ds < 65536 then some (UInt16.ofNat (ofDigits 10 ds))
  else none

end Net
