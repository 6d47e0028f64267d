import Dandelion.Core.Bytes
import Mathlib.Data.List.DropRight

/-!
# HTTP request heads

The head of an HTTP/1.1 request as its bytes delimit it: a method, a request target without
blanks or control bytes, the version, and header fields, each on a line of its own.
-/

namespace Http

/-- A byte of a token. -/
def isToken (b : UInt8) : Bool :=
  (48 ≤ b && b ≤ 57) || (65 ≤ b && b ≤ 90) || (97 ≤ b && b ≤ 122) ||
    "!#$%&'*+-.^_`|~".utf8Bytes.contains b

/-- A byte that is no blank and no control byte. -/
def isVisible (b : UInt8) : Bool := 32 < b && b ≠ 127

def isBlank (b : UInt8) : Bool := b = 32 || b = 9

structure RequestHead where
  method : List UInt8
  target : List UInt8
  headers : List (List UInt8 × List UInt8)
deriving DecidableEq

/-- Read the given bytes. -/
def readGiven : List UInt8 → List UInt8 → Option (List UInt8)
  | [], input           => some input
  | _ :: _, []          => none
  | b :: bs, b' :: input => if b = b' then readGiven bs input else none

/-- Read the longest run of bytes with a property; there must be one. -/
def readRun (p : UInt8 → Bool) (input : List UInt8) : Option (List UInt8 × List UInt8) :=
  if (input.takeWhile p).isEmpty then none else some (input.takeWhile p, input.dropWhile p)

def crlf : List UInt8 := [13, 10]

/-- Read a header field. Blanks around its value do not count. -/
def readField (input : List UInt8) : Option ((List UInt8 × List UInt8) × List UInt8) := do
  let (name, rest) ← readRun isToken input
  let rest ← readGiven [58] rest
  let rest := rest.dropWhile isBlank
  let value := rest.takeWhile fun b => isVisible b || isBlank b
  let rest ← readGiven crlf (rest.dropWhile fun b => isVisible b || isBlank b)
  some ((name, value.rdropWhile isBlank), rest)

/-- Read at most `n` header fields and the empty line behind them. -/
def readFields : (n : ℕ) → List UInt8 → Option (List (List UInt8 × List UInt8) × List UInt8)
  | 0, input     => (readGiven crlf input).map fun rest => ([], rest)
  | n + 1, input =>
    match readGiven crlf input with
    | some rest => some ([], rest)
    | none => do
      let (field, rest) ← readField input
      let (fields, rest) ← readFields n rest
      some (field :: fields, rest)

/-- Read a request head, and return the bytes behind it. -/
def readRequestHead (input : List UInt8) : Option (RequestHead × List UInt8) := do
  let (method, rest) ← readRun isToken input
  let rest ← readGiven [32] rest
  let (target, rest) ← readRun isVisible rest
  let rest ← readGiven (" HTTP/1.1".utf8Bytes ++ crlf) rest
  -- every field takes up at least one byte
  let (headers, rest) ← readFields input.length rest
  some (⟨method, target, headers⟩, rest)

/-! ### Reading -/

@[simp] lemma readGiven_append (bs input : List UInt8) :
    readGiven bs (bs ++ input) = some input := by
  induction bs with
  | nil => rfl
  | cons b bs ih => simpa [readGiven] using ih

lemma readRun_append {p : UInt8 → Bool} {run : List UInt8} {b : UInt8} {input : List UInt8}
    (hne : run ≠ []) (hrun : ∀ x ∈ run, p x = true) (hb : p b = false) :
    readRun p (run ++ b :: input) = some (run, b :: input) := by
  have htake : (run ++ b :: input).takeWhile p = run := by
    rw [List.takeWhile_append_of_pos hrun]
    simp [hb]
  have hdrop : (run ++ b :: input).dropWhile p = b :: input := by
    rw [List.dropWhile_append_of_pos hrun]
    simp [hb]
  simp [readRun, htake, hdrop, hne]

lemma of_readRun {p : UInt8 → Bool} {input run rest : List UInt8}
    (h : readRun p input = some (run, rest)) : ∀ b ∈ run, p b = true := by
  unfold readRun at h
  split at h
  · cases h
  · cases h
    exact fun b hb => List.mem_takeWhile_imp hb

/-- The target of a request has no blanks and no control bytes. -/
theorem isVisible_of_readRequestHead {input rest : List UInt8} {head : RequestHead}
    (h : readRequestHead input = some (head, rest)) : ∀ b ∈ head.target, isVisible b = true := by
  simp only [readRequestHead, Option.bind_eq_bind, Option.bind_eq_some_iff] at h
  obtain ⟨⟨method, rest₁⟩, -, rest₂, -, ⟨target, rest₃⟩, htarget, rest₄, -,
    ⟨headers, rest₅⟩, -, heq⟩ := h
  cases heq
  exact of_readRun htarget

lemma isBlank_of_isVisible {b : UInt8} (h : isVisible b = true) : isBlank b = false := by
  have hne : b ≠ 32 ∧ b ≠ 9 := by
    constructor
    · rintro rfl
      exact absurd h (by decide)
    · rintro rfl
      exact absurd h (by decide)
  simp [isBlank, hne]

lemma dropWhile_isBlank {value : List UInt8} (hvalue : ∀ b ∈ value, isVisible b = true)
    (rest : List UInt8) : (value ++ 13 :: rest).dropWhile isBlank = value ++ 13 :: rest := by
  cases value with
  | nil => rw [List.nil_append, List.dropWhile_cons_of_neg (by decide)]
  | cons b value =>
    have hb := isBlank_of_isVisible (hvalue b List.mem_cons_self)
    rw [List.cons_append, List.dropWhile_cons_of_neg (by simp [hb])]

lemma rdropWhile_isBlank {value : List UInt8} (hvalue : ∀ b ∈ value, isVisible b = true) :
    value.rdropWhile isBlank = value := by
  rw [List.rdropWhile_eq_self_iff]
  intro hne
  rw [isBlank_of_isVisible (hvalue _ (List.getLast_mem hne))]
  exact Bool.false_ne_true

/-- A header field is read back. -/
lemma readField_append {name value : List UInt8} (hne : name ≠ [])
    (hname : ∀ b ∈ name, isToken b = true) (hvalue : ∀ b ∈ value, isVisible b = true)
    (rest : List UInt8) :
    readField (name ++ 58 :: 32 :: (value ++ (crlf ++ rest))) = some ((name, value), rest) := by
  have hrun : readRun isToken (name ++ 58 :: 32 :: (value ++ (crlf ++ rest)))
      = some (name, 58 :: 32 :: (value ++ (crlf ++ rest))) :=
    readRun_append hne hname (by decide)
  have hblank : (32 :: (value ++ (crlf ++ rest))).dropWhile isBlank = value ++ (crlf ++ rest) := by
    rw [List.dropWhile_cons_of_pos (by decide)]
    exact dropWhile_isBlank hvalue (10 :: rest)
  have hbytes : ∀ b ∈ value, (isVisible b || isBlank b) = true := by
    intro b hb
    rw [hvalue b hb, Bool.true_or]
  have htake : (value ++ (crlf ++ rest)).takeWhile (fun b => isVisible b || isBlank b) = value := by
    rw [List.takeWhile_append_of_pos hbytes]
    simp [crlf, isVisible, isBlank]
  have hdrop : (value ++ (crlf ++ rest)).dropWhile (fun b => isVisible b || isBlank b)
      = crlf ++ rest := by
    rw [List.dropWhile_append_of_pos hbytes]
    simp [crlf, isVisible, isBlank]
  simp only [readField, hrun, Option.bind_eq_bind, Option.bind_some, readGiven, if_true, hblank,
    htake, hdrop, readGiven_append, rdropWhile_isBlank hvalue]

/-- A request head with one field is read back. -/
theorem readRequestHead_of_field {method target name value : List UInt8} (hmethodNe : method ≠ [])
    (hmethod : ∀ b ∈ method, isToken b = true) (htargetNe : target ≠ [])
    (htarget : ∀ b ∈ target, isVisible b = true) (hnameNe : name ≠ [])
    (hname : ∀ b ∈ name, isToken b = true) (hvalue : ∀ b ∈ value, isVisible b = true) :
    readRequestHead (method ++ 32 :: (target ++ (" HTTP/1.1".utf8Bytes ++ crlf ++
      (name ++ 58 :: 32 :: (value ++ (crlf ++ crlf)))))) =
      some (⟨method, target, [(name, value)]⟩, []) := by
  generalize hfields : name ++ 58 :: 32 :: (value ++ (crlf ++ crlf)) = fields
  generalize hline : " HTTP/1.1".utf8Bytes ++ crlf ++ fields = line
  have hspace : line = 32 :: line.tail := by
    rw [← hline]
    rfl
  have hreadMethod : readRun isToken (method ++ 32 :: (target ++ line))
      = some (method, 32 :: (target ++ line)) :=
    readRun_append hmethodNe hmethod (by decide)
  have hreadTarget : readRun isVisible (target ++ line) = some (target, line) := by
    rw [hspace]
    exact readRun_append htargetNe htarget (by decide)
  have hreadVersion : readGiven (" HTTP/1.1".utf8Bytes ++ crlf) line = some fields := by
    rw [← hline]
    exact readGiven_append _ _
  have hreadFields (n : ℕ) : readFields (n + 1) fields = some ([(name, value)], []) := by
    have hcrlf : readGiven crlf fields = none := by
      obtain ⟨b, bs, rfl⟩ := List.exists_cons_of_ne_nil hnameNe
      have hb : ¬13 = b := by
        rintro rfl
        exact absurd (hname 13 List.mem_cons_self) (by decide)
      rw [← hfields]
      simp [readGiven, crlf, hb]
    have hfield : readField fields = some ((name, value), crlf) := by
      rw [← hfields]
      simpa using readField_append hnameNe hname hvalue crlf
    have hend (m : ℕ) : readFields m crlf = some ([], []) := by
      cases m <;> rfl
    simp [readFields, hcrlf, hfield, hend]
  have hlen : ∃ n, (method ++ 32 :: (target ++ line)).length = n + 1 := by
    refine ⟨method.length + (target ++ line).length, ?_⟩
    simp only [List.length_append, List.length_cons]
    omega
  obtain ⟨n, hn⟩ := hlen
  simp [readRequestHead, hreadMethod, readGiven, hreadTarget, hreadVersion, hn, hreadFields]

end Http
