import Mathlib.Tactic.Common

/-!
# Bytes of strings and of numbers
-/

namespace List

lemma of_length_eq_four {α : Type*} {xs : List α} (h : xs.length = 4) :
    ∃ a b c d, xs = [a, b, c, d] := by
  match xs, h with
  | [a, b, c, d], _ => exact ⟨a, b, c, d, rfl⟩

end List

namespace String

/-- The UTF-8 bytes of a string. -/
def utf8Bytes (s : String) : List UInt8 :=
  s.toByteArray.data.toList

/-- The string with the given UTF-8 bytes, if they are valid. -/
def fromUtf8Bytes (bytes : List UInt8) : Option String :=
  String.fromUTF8? ⟨bytes.toArray⟩

@[simp] lemma fromUtf8Bytes_utf8Bytes (s : String) : fromUtf8Bytes s.utf8Bytes = some s := by
  simp [fromUtf8Bytes, utf8Bytes, String.fromUTF8?, String.fromUTF8, s.isValidUTF8]

lemma fromUtf8Bytes_eq_some_iff {bytes : List UInt8} {s : String} :
    fromUtf8Bytes bytes = some s ↔ s.utf8Bytes = bytes := by
  constructor
  · intro h
    unfold fromUtf8Bytes fromUTF8? at h
    split at h
    · cases h
      simp [utf8Bytes, fromUTF8]
    · cases h
  · rintro rfl
    exact fromUtf8Bytes_utf8Bytes s

lemma utf8Bytes_append (s t : String) : (s ++ t).utf8Bytes = s.utf8Bytes ++ t.utf8Bytes := by
  simp [utf8Bytes]

lemma utf8Bytes_ofList (cs : List Char) :
    (String.ofList cs).utf8Bytes = cs.flatMap String.utf8EncodeChar := by
  simp [utf8Bytes, List.utf8Encode]

lemma utf8EncodeChar_of_lt {c : Char} (h : c.toNat < 128) :
    String.utf8EncodeChar c = [UInt8.ofNat c.toNat] := by
  have hsize : c.utf8Size = 1 := by
    rw [Char.utf8Size_eq_one_iff]
    exact Nat.le_of_lt_succ h
  rw [String.utf8EncodeChar_eq_singleton hsize]
  rfl

end String

namespace UInt16

/-- The more significant byte. -/
def high (n : UInt16) : UInt8 := UInt8.ofNat (n.toNat / 256)

/-- The less significant byte. -/
def low (n : UInt16) : UInt8 := UInt8.ofNat (n.toNat % 256)

def toBeBytes (n : UInt16) : List UInt8 := [n.high, n.low]

def fromBeBytes (a b : UInt8) : UInt16 := UInt16.ofNat (a.toNat * 256 + b.toNat)

@[simp] lemma fromBeBytes_high_low (n : UInt16) : fromBeBytes n.high n.low = n := by
  have hn : n.toNat < 65536 := n.toNat_lt
  apply UInt16.toNat_inj.mp
  simp only [fromBeBytes, high, low, UInt16.toNat_ofNat', UInt8.toNat_ofNat']
  omega

lemma toBeBytes_fromBeBytes (a b : UInt8) : (fromBeBytes a b).toBeBytes = [a, b] := by
  have ha := a.toNat_lt
  have hb := b.toNat_lt
  have hnat : (fromBeBytes a b).toNat = a.toNat * 256 + b.toNat := by
    rw [fromBeBytes, UInt16.toNat_ofNat']
    omega
  have hhigh : (a.toNat * 256 + b.toNat) / 256 = a.toNat := by omega
  have hlow : (a.toNat * 256 + b.toNat) % 256 = b.toNat := by omega
  rw [toBeBytes, high, low, hnat, hhigh, hlow, UInt8.ofNat_toNat, UInt8.ofNat_toNat]

end UInt16
