import Dandelion.Net.Http

/-!
# Headers as they arrive

The value of a header is a list of bytes, which need not be text. Names are kept in lower case.
-/

namespace Http

abbrev HeaderValue := List UInt8

/-- A byte that `to_str` accepts: visible ASCII, a space or a tab. -/
def isVisibleAscii (b : UInt8) : Bool := (32 ≤ b && b < 127) || b = 9

/-- The value as text, if it is visible ASCII. -/
def HeaderValue.toStr (value : HeaderValue) : Option String :=
  if value.all isVisibleAscii then some (String.ofList (value.map fun b => Char.ofNat b.toNat))
  else none

/-- A value without the blanks around it, which are not transmitted. -/
def HeaderValue.trim (value : HeaderValue) : HeaderValue :=
  (value.dropWhile isBlank).rdropWhile isBlank

/-- The tokens of a value, between commas. -/
def HeaderValue.tokens (value : HeaderValue) : List HeaderValue :=
  (value.splitOn 44).map HeaderValue.trim

/-- Whether a token stands in a value, in lower or upper case. -/
def HeaderValue.containsToken (value : HeaderValue) (token : String) : Bool :=
  value.tokens.any fun t =>
    t.map (fun b => UInt8.ofNat (Char.ofNat b.toNat).toLower.toNat) = token.utf8Bytes

/-- The form in which the name of a header is kept. -/
def lowerCase (name : String) : String := String.ofList (name.toList.map Char.toLower)

/-- Headers in order. -/
abbrev Headers := List (String × HeaderValue)

namespace Headers

variable (headers : Headers) (name : String) (value : HeaderValue)

/-- The first value of a header. -/
def get : Option HeaderValue := (headers.find? (·.1 = lowerCase name)).map (·.2)

/-- Make `value` the only value of a header. -/
def insert : Headers := headers.filter (·.1 ≠ lowerCase name) ++ [(lowerCase name, value)]

/-- Whether a token stands in some value of a header. -/
def hasToken (token : String) : Bool :=
  headers.any fun h => h.1 = lowerCase name && h.2.containsToken token

/-- The headers as they arrive. -/
def transmitted : Headers := headers.map fun h => (h.1, h.2.trim)

end Headers

/-! ### Looking headers up -/

namespace Headers

variable {headers : Headers} {name name' : String} {value : HeaderValue} {token : String}

lemma get_insert_self (h : lowerCase name = lowerCase name') :
    (headers.insert name' value).get name = some value := by
  have hnone : (headers.filter (·.1 ≠ lowerCase name')).find? (·.1 = lowerCase name) = none := by
    rw [List.find?_eq_none]
    intro x hx
    simpa [h] using (List.mem_filter.mp hx).2
  rw [get, insert, List.find?_append, hnone, Option.none_or, h]
  simp

lemma get_insert_of_ne (h : lowerCase name ≠ lowerCase name') :
    (headers.insert name' value).get name = headers.get name := by
  have hkept : (headers.filter (·.1 ≠ lowerCase name')).find? (·.1 = lowerCase name)
      = headers.find? (·.1 = lowerCase name) := by
    rw [List.find?_filter]
    congr 1
    funext x
    by_cases hx : x.1 = lowerCase name <;> simp [hx, h]
  rw [get, insert, List.find?_append, hkept, List.find?_singleton, if_neg (by simp [Ne.symm h]),
    Option.or_none]
  rfl

lemma get_transmitted : headers.transmitted.get name = (headers.get name).map HeaderValue.trim := by
  simp only [get, transmitted, List.find?_map, Option.map_map]
  rfl

lemma hasToken_insert_self (h : lowerCase name = lowerCase name') :
    (headers.insert name' value).transmitted.hasToken name token
      = value.trim.containsToken token := by
  have hnone : (headers.filter (·.1 ≠ lowerCase name')).any
      (fun x => x.1 = lowerCase name && x.2.trim.containsToken token) = false := by
    rw [List.any_eq_false]
    intro x hx
    have hne : x.1 ≠ lowerCase name := by simpa [h] using (List.mem_filter.mp hx).2
    simp [hne]
  simp only [hasToken, transmitted, insert, List.any_map, List.any_append, Function.comp_def, hnone]
  simp [h]

lemma hasToken_insert_of_ne (h : lowerCase name ≠ lowerCase name') :
    (headers.insert name' value).transmitted.hasToken name token
      = headers.transmitted.hasToken name token := by
  simp only [hasToken, transmitted, insert, List.any_map, List.any_append, Function.comp_def,
    List.any_filter]
  have hkept : ∀ x : String × HeaderValue,
      (!decide (x.1 = lowerCase name') &&
        (decide (x.1 = lowerCase name) && x.2.trim.containsToken token))
        = (decide (x.1 = lowerCase name) && x.2.trim.containsToken token) := by
    intro x
    by_cases hx : x.1 = lowerCase name <;> simp [hx, h]
  simp [hkept, Ne.symm h]

lemma hasToken_of_mem (hmem : (lowerCase name, value) ∈ headers)
    (htoken : value.containsToken token = true) : headers.hasToken name token = true := by
  rw [hasToken, List.any_eq_true]
  exact ⟨_, hmem, by simp [htoken]⟩

end Headers

/-! ### Values as text -/

variable {value : HeaderValue} {text : String}

lemma utf8EncodeChar_of_visible {b : UInt8} (h : isVisibleAscii b = true) :
    String.utf8EncodeChar (Char.ofNat b.toNat) = [b] := by
  have hlt : b.toNat < 128 := by
    simp only [isVisibleAscii, Bool.or_eq_true, Bool.and_eq_true, decide_eq_true_eq] at h
    rcases h with ⟨-, hlt⟩ | rfl
    · exact Nat.lt_of_lt_of_le (UInt8.lt_iff_toNat_lt.mp hlt) (by decide)
    · decide
  have hchar : (Char.ofNat b.toNat).toNat = b.toNat := by
    have hvalid : b.toNat.isValidChar := .inl (by omega)
    rw [Char.ofNat, dif_pos hvalid]
    rfl
  rw [String.utf8EncodeChar_of_lt (by rw [hchar]; exact hlt), hchar, UInt8.ofNat_toNat]

lemma utf8Bytes_of_visible (h : value.all isVisibleAscii = true) :
    (String.ofList (value.map fun b => Char.ofNat b.toNat)).utf8Bytes = value := by
  rw [String.utf8Bytes_ofList]
  induction value with
  | nil => rfl
  | cons b value ih =>
    rw [List.all_cons, Bool.and_eq_true] at h
    rw [List.map_cons, List.flatMap_cons, utf8EncodeChar_of_visible h.1, ih h.2]
    rfl

lemma eq_of_utf8Bytes_eq {s t : String} (h : s.utf8Bytes = t.utf8Bytes) : s = t := by
  have hsome := congrArg String.fromUtf8Bytes h
  rw [String.fromUtf8Bytes_utf8Bytes, String.fromUtf8Bytes_utf8Bytes] at hsome
  exact Option.some.inj hsome

lemma HeaderValue.toStr_eq_some_iff :
    HeaderValue.toStr value = some text ↔
      text.utf8Bytes = value ∧ value.all isVisibleAscii = true := by
  rw [HeaderValue.toStr]
  constructor
  · intro h
    rw [Option.ite_none_right_eq_some, Option.some.injEq] at h
    obtain ⟨hall, rfl⟩ := h
    exact ⟨utf8Bytes_of_visible hall, hall⟩
  · rintro ⟨rfl, hall⟩
    rw [if_pos hall, eq_of_utf8Bytes_eq (utf8Bytes_of_visible hall)]

/-- The characters of a visible text are its bytes. -/
lemma toList_of_visible (h : text.utf8Bytes.all isVisibleAscii = true) :
    text.toList = text.utf8Bytes.map fun b => Char.ofNat b.toNat := by
  have heq := eq_of_utf8Bytes_eq (utf8Bytes_of_visible h)
  nth_rewrite 1 [← heq]
  rw [String.toList_ofList]

lemma char_of_isBlank {b : UInt8} (h : isBlank b = true) :
    Char.ofNat b.toNat = ' ' ∨ Char.ofNat b.toNat = '\t' := by
  simp only [isBlank, Bool.or_eq_true, decide_eq_true_eq] at h
  rcases h with rfl | rfl
  · exact .inl rfl
  · exact .inr rfl

lemma isBlank_of_char {b : UInt8} (hb : isVisibleAscii b = true)
    (h : Char.ofNat b.toNat = ' ' ∨ Char.ofNat b.toNat = '\t') : isBlank b = true := by
  have hbyte := utf8EncodeChar_of_visible hb
  rcases h with h | h
  · rw [h] at hbyte
    obtain rfl : 32 = b := List.singleton_inj.mp hbyte
    rfl
  · rw [h] at hbyte
    obtain rfl : 9 = b := List.singleton_inj.mp hbyte
    rfl

/-! ### Values in transit -/

/-- Only blanks are lost. -/
lemma mem_trim_or_isBlank {b : UInt8} (h : b ∈ value) :
    b ∈ HeaderValue.trim value ∨ isBlank b = true := by
  rw [← List.takeWhile_append_dropWhile (p := isBlank) (l := value), List.mem_append] at h
  rcases h with h | h
  · exact .inr (List.mem_takeWhile_imp h)
  · have hsplit : HeaderValue.trim value ++ (value.dropWhile isBlank).rtakeWhile isBlank
        = value.dropWhile isBlank := List.rdropWhile_append_rtakeWhile
    rw [← hsplit, List.mem_append] at h
    rcases h with h | h
    · exact .inl h
    · exact .inr (List.mem_rtakeWhile_imp h)

/-- A value arrives without a blank in front. -/
lemma head?_trim {b : UInt8} (h : b ∈ (HeaderValue.trim value).head?) : isBlank b = false := by
  obtain ⟨rest, hrest⟩ := List.rdropWhile_prefix isBlank (value.dropWhile isBlank)
  have hhead : b ∈ (value.dropWhile isBlank).head? := by
    rw [← hrest, List.head?_append, Option.mem_def]
    rw [Option.mem_def] at h
    rw [show ((value.dropWhile isBlank).rdropWhile isBlank).head? = some b from h]
    rfl
  have hnot := List.head?_dropWhile_not isBlank value
  rw [Option.mem_def.mp hhead] at hnot
  simpa using hnot

lemma trim_eq_self_iff :
    HeaderValue.trim value = value ↔
      (∀ b ∈ value.head?, isBlank b = false) ∧ ∀ b ∈ value.getLast?, isBlank b = false := by
  constructor
  · intro h
    have hdrop : value.dropWhile isBlank = value := by
      apply (List.dropWhile_suffix isBlank).eq_of_length_le
      have hle := (List.rdropWhile_prefix isBlank (value.dropWhile isBlank)).length_le
      rwa [show (value.dropWhile isBlank).rdropWhile isBlank = value from h] at hle
    refine ⟨fun b hb => head?_trim (h ▸ hb), fun b hb => ?_⟩
    have hrdrop : value.rdropWhile isBlank = value := by
      rw [HeaderValue.trim, hdrop] at h
      exact h
    obtain ⟨hne, rfl⟩ := List.mem_getLast?_eq_getLast hb
    simpa using List.rdropWhile_eq_self_iff.mp hrdrop hne
  · rintro ⟨hhead, hlast⟩
    have hdrop : value.dropWhile isBlank = value := by
      cases value with
      | nil => rfl
      | cons b value => simp [hhead b rfl]
    rw [HeaderValue.trim, hdrop, List.rdropWhile_eq_self_iff]
    intro hne
    rw [hlast _ (List.getLast_mem_getLast? hne)]
    simp

end Http
