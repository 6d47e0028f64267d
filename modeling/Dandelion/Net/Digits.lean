import Mathlib.Data.List.Induction
import Mathlib.Tactic.IntervalCases

/-!
# Numbers in text

Numbers are printed without leading zeros and read greedily from the front of a text.
-/

namespace Net

variable {radix : ℕ}

/-- The value of a digit in the given radix. -/
def toDigit (radix : ℕ) (c : Char) : Option ℕ :=
  let d := if '0' ≤ c ∧ c ≤ '9' then c.toNat - 48
    else if 'a' ≤ c ∧ c ≤ 'z' then c.toNat - 87
    else if 'A' ≤ c ∧ c ≤ 'Z' then c.toNat - 55
    else radix
  if d < radix then some d else none

def isDigit (radix : ℕ) (c : Char) : Bool := (toDigit radix c).isSome

/-- The value of a list of digits. -/
def ofDigits (radix : ℕ) (ds : List Char) : ℕ :=
  ds.foldl (fun n c => radix * n + (toDigit radix c).getD 0) 0

/-- Read the digits at the front of a text. There must be one, at most `maxDigits` of them, and
their value must be below `bound`. -/
def readNumber (radix : ℕ) (maxDigits : Option ℕ) (allowZeroPrefix : Bool) (bound : ℕ)
    (cs : List Char) : Option (ℕ × List Char) :=
  let ds := cs.takeWhile (isDigit radix)
  if ds.isEmpty || maxDigits.any (· < ds.length) then none
  else if !allowZeroPrefix && ds.head? == some '0' && 1 < ds.length then none
  else if ofDigits radix ds < bound then
    some (ofDigits radix ds, cs.dropWhile (isDigit radix))
  else none

/-- No number continues at the front of a text. -/
def NoDigit (radix : ℕ) (cs : List Char) : Prop :=
  ∀ c ∈ cs.head?, isDigit radix c = false

/-! ### Printed numbers -/

lemma toDigit_digitChar (hradix : radix ≤ 16) {d : ℕ} (hd : d < radix) :
    toDigit radix d.digitChar = some d := by
  have hlt : d < 16 := by omega
  interval_cases d <;> simp [toDigit, Nat.digitChar, hd]

lemma isDigit_of_mem_toDigits (hradix : radix ≤ 16) (hone : 1 < radix) {n : ℕ} {c : Char}
    (hc : c ∈ Nat.toDigits radix n) : isDigit radix c = true := by
  induction n using Nat.strongRecOn with
  | _ n ih =>
    rcases Nat.lt_or_ge n radix with hlt | hge
    · rw [Nat.toDigits_of_lt_base hlt, List.mem_singleton] at hc
      rw [hc, isDigit, toDigit_digitChar hradix hlt, Option.isSome_some]
    · rw [Nat.toDigits_of_base_le hone hge, List.mem_append] at hc
      rcases hc with hc | hc
      · exact ih (n / radix) (Nat.div_lt_self (by omega) hone) hc
      · have hmod : n % radix < radix := Nat.mod_lt n (by omega)
        rw [List.mem_singleton] at hc
        rw [hc, isDigit, toDigit_digitChar hradix hmod, Option.isSome_some]

lemma ofDigits_toDigits (hradix : radix ≤ 16) (hone : 1 < radix) (n : ℕ) :
    ofDigits radix (Nat.toDigits radix n) = n := by
  induction n using Nat.strongRecOn with
  | _ n ih =>
    rcases Nat.lt_or_ge n radix with hlt | hge
    · rw [Nat.toDigits_of_lt_base hlt]
      simp [ofDigits, toDigit_digitChar hradix hlt]
    · have hmod : n % radix < radix := Nat.mod_lt n (by omega)
      have hdiv := ih (n / radix) (Nat.div_lt_self (by omega) hone)
      rw [ofDigits] at hdiv
      rw [Nat.toDigits_of_base_le hone hge, ofDigits, List.foldl_append, hdiv]
      simp [toDigit_digitChar hradix hmod, Nat.div_add_mod]

lemma head?_toDigits_eq_zero (hone : 1 < radix) {n : ℕ}
    (h : (Nat.toDigits radix n).head? = some '0') : n = 0 := by
  induction n using Nat.strongRecOn with
  | _ n ih =>
    rcases Nat.lt_or_ge n radix with hlt | hge
    · rw [Nat.toDigits_of_lt_base hlt] at h
      simpa using h
    · obtain ⟨c, cs, hcs⟩ := List.exists_cons_of_ne_nil (Nat.toDigits_ne_nil (n := n / radix))
      have hhead : (Nat.toDigits radix (n / radix)).head? = some '0' := by
        rw [Nat.toDigits_of_base_le hone hge, hcs] at h
        rw [hcs]
        exact h
      have hzero := ih (n / radix) (Nat.div_lt_self (by omega) hone) hhead
      have hpos : 0 < n / radix := Nat.div_pos hge (by omega)
      omega

lemma digitChar_of_toDigit {c : Char} {d : ℕ} (h : toDigit 10 c = some d) : d.digitChar = c := by
  have hnine : '0' ≤ c ∧ c ≤ '9' := by
    by_contra hnot
    by_cases hlower : 'a' ≤ c ∧ c ≤ 'z'
    · have hle : 97 ≤ c.toNat := hlower.1
      rw [toDigit, if_neg hnot, if_pos hlower, if_neg (by omega)] at h
      cases h
    · by_cases hupper : 'A' ≤ c ∧ c ≤ 'Z'
      · have hle : 65 ≤ c.toNat := hupper.1
        rw [toDigit, if_neg hnot, if_neg hlower, if_pos hupper, if_neg (by omega)] at h
        cases h
      · rw [toDigit, if_neg hnot, if_neg hlower, if_neg hupper] at h
        cases h
  have hle : 48 ≤ c.toNat := hnine.1
  have hge : c.toNat ≤ 57 := hnine.2
  have hd : c.toNat - 48 = d := by
    rw [toDigit, if_pos hnine, if_pos (by omega)] at h
    exact Option.some.inj h
  have hofNat : c = Char.ofNat (d + 48) := by
    rw [← hd, Nat.sub_add_cancel hle, Char.ofNat_toNat]
  have hlt : d < 10 := by omega
  rw [hofNat]
  interval_cases d <;> rfl

lemma ofDigits_append (radix : ℕ) (ds : List Char) (c : Char) :
    ofDigits radix (ds ++ [c]) = radix * ofDigits radix ds + (toDigit radix c).getD 0 := by
  simp [ofDigits]

/-- Decimal digits without a leading zero are those that are printed for their value. -/
lemma toDigits_ofDigits {ds : List Char} (hne : ds ≠ [])
    (hds : ∀ c ∈ ds, isDigit 10 c = true) (hzero : ds.head? = some '0' → ds.length = 1) :
    Nat.toDigits 10 (ofDigits 10 ds) = ds := by
  induction ds using List.reverseRecOn with
  | nil => exact absurd rfl hne
  | append_singleton ds c ih =>
    obtain ⟨d, hd⟩ := Option.isSome_iff_exists.mp (hds c (by simp))
    have hchar := digitChar_of_toDigit hd
    have hlt : d < 10 := by
      rw [toDigit, Option.ite_none_right_eq_some, Option.some.injEq] at hd
      exact hd.2 ▸ hd.1
    rw [ofDigits_append, hd, Option.getD_some]
    by_cases hnil : ds = []
    · subst hnil
      rw [show 10 * ofDigits 10 [] + d = d by simp [ofDigits], Nat.toDigits_of_lt_base hlt, hchar]
      rfl
    · have hhead : ds.head? ≠ some '0' := by
        intro hhead
        have hlen := hzero (by rw [List.head?_append, hhead]; rfl)
        rw [List.length_append, List.length_singleton] at hlen
        exact hnil (List.eq_nil_of_length_eq_zero (by omega))
      have hprev := ih hnil (fun c hc => hds c (by simp [hc])) (fun h => absurd h hhead)
      have hpos : ofDigits 10 ds ≠ 0 := by
        intro h
        rw [h, Nat.toDigits_zero] at hprev
        rw [← hprev] at hhead
        exact hhead rfl
      have hdiv : (10 * ofDigits 10 ds + d) / 10 = ofDigits 10 ds := by omega
      have hmod : (10 * ofDigits 10 ds + d) % 10 = d := by omega
      rw [Nat.toDigits_of_base_le (by decide) (by omega), hdiv, hmod, hprev, hchar]

lemma takeWhile_append_of_noDigit {ds rest : List Char}
    (hds : ∀ c ∈ ds, isDigit radix c = true) (hrest : NoDigit radix rest) :
    (ds ++ rest).takeWhile (isDigit radix) = ds := by
  rw [List.takeWhile_append_of_pos hds]
  cases rest with
  | nil => simp
  | cons c rest => simp [hrest c rfl]

lemma dropWhile_append_of_noDigit {ds rest : List Char}
    (hds : ∀ c ∈ ds, isDigit radix c = true) (hrest : NoDigit radix rest) :
    (ds ++ rest).dropWhile (isDigit radix) = rest := by
  rw [List.dropWhile_append_of_pos hds]
  cases rest with
  | nil => simp
  | cons c rest => simp [hrest c rfl]

/-- A printed number is read back, whatever follows it. -/
theorem readNumber_toDigits (hradix : radix ≤ 16) (hone : 1 < radix) {maxDigits : Option ℕ}
    {bound n : ℕ} (allowZeroPrefix : Bool) (hmax : ∀ m ∈ maxDigits, 0 < m ∧ n < radix ^ m)
    (hbound : n < bound) {rest : List Char} (hrest : NoDigit radix rest) :
    readNumber radix maxDigits allowZeroPrefix bound (Nat.toDigits radix n ++ rest)
      = some (n, rest) := by
  have hdigits : ∀ c ∈ Nat.toDigits radix n, isDigit radix c = true :=
    fun c hc => isDigit_of_mem_toDigits hradix hone hc
  have hlen : maxDigits.any (· < (Nat.toDigits radix n).length) = false := by
    cases maxDigits with
    | none => rfl
    | some m =>
      obtain ⟨hpos, hlt⟩ := hmax m rfl
      simpa using (Nat.length_toDigits_le_iff hone hpos).mpr hlt
  have hzero : (!allowZeroPrefix && (Nat.toDigits radix n).head? == some '0' &&
      decide (1 < (Nat.toDigits radix n).length)) = false := by
    by_cases hhead : (Nat.toDigits radix n).head? = some '0'
    · rw [head?_toDigits_eq_zero hone hhead, Nat.toDigits_zero]
      simp
    · simp [hhead]
  have hne : (Nat.toDigits radix n).isEmpty = false := by
    simp
  simp only [readNumber, takeWhile_append_of_noDigit hdigits hrest,
    dropWhile_append_of_noDigit hdigits hrest, hne, hlen, hzero, ofDigits_toDigits hradix hone]
  simp [hbound]

end Net
