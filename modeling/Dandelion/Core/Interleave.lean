import Mathlib.Data.List.Basic

/-!
# Interleaving of sequences

Elements are taken from the two sequences in turn until both have run out, as the adaptor of
`itertools` takes them. It is recursive on the first list, so that runs of a model can be evaluated.
-/

namespace Itertools

open List

variable {α : Type*}

/-- Alternate between two lists, starting with the first; the longer one fills up the rest. -/
def interleave : List α → List α → List α
  | [],      bs      => bs
  | as,      []      => as
  | a :: as, b :: bs => a :: b :: interleave as bs

@[simp] lemma interleave_nil_left (bs : List α) : interleave [] bs = bs := by
  cases bs <;> rfl

@[simp] lemma interleave_nil_right (as : List α) : interleave as [] = as := by
  cases as <;> rfl

@[simp] lemma interleave_cons_cons (a b : α) (as bs : List α) :
    interleave (a :: as) (b :: bs) = a :: b :: interleave as bs := rfl

/-- Interleaving loses and repeats nothing. -/
lemma interleave_perm (as bs : List α) : (interleave as bs).Perm (as ++ bs) := by
  induction as generalizing bs with
  | nil => simp
  | cons a as ih =>
    cases bs with
    | nil => simp
    | cons b bs =>
      rw [interleave_cons_cons, cons_append]
      exact (((ih bs).cons b).trans perm_middle.symm).cons a

@[simp] lemma length_interleave (as bs : List α) :
    (interleave as bs).length = as.length + bs.length := by
  rw [(interleave_perm as bs).length_eq, length_append]

/-- What is not in the second list is kept in its order. -/
lemma filter_interleave_left {p : α → Bool} (as : List α) {bs : List α}
    (hbs : ∀ b ∈ bs, p b = false) : (interleave as bs).filter p = as.filter p := by
  induction as generalizing bs with
  | nil => simpa using hbs
  | cons a as ih =>
    cases bs with
    | nil => simp
    | cons b bs =>
      obtain ⟨hb, hbs⟩ := forall_mem_cons.mp hbs
      rw [interleave_cons_cons, filter_cons, filter_cons, filter_cons, ih hbs]
      simp [hb]

/-- What is not in the first list is kept in its order. -/
lemma filter_interleave_right {p : α → Bool} {as : List α} (has : ∀ a ∈ as, p a = false)
    (bs : List α) : (interleave as bs).filter p = bs.filter p := by
  induction as generalizing bs with
  | nil => simp
  | cons a as ih =>
    obtain ⟨ha, has⟩ := forall_mem_cons.mp has
    cases bs with
    | nil => simpa using ⟨ha, has⟩
    | cons b bs =>
      rw [interleave_cons_cons, filter_cons, filter_cons, filter_cons, ih has]
      simp [ha]

/-- As long as neither list has run out, the two take turns. -/
lemma mem_of_getElem?_interleave {as bs : List α} {j : ℕ} {x : α}
    (hj : j < 2 * min as.length bs.length) (hx : (interleave as bs)[j]? = some x) :
    if j % 2 = 0 then x ∈ as else x ∈ bs := by
  induction as generalizing bs j with
  | nil => simp at hj
  | cons a as ih =>
    cases bs with
    | nil => simp at hj
    | cons b bs =>
      rw [interleave_cons_cons] at hx
      match j with
      | 0 => simp_all
      | 1 => simp_all
      | j + 2 =>
        rw [getElem?_cons_succ, getElem?_cons_succ] at hx
        have hlt : j < 2 * min as.length bs.length := by
          rw [length_cons, length_cons, Nat.succ_min_succ] at hj
          omega
        have hmem := ih hlt hx
        rw [Nat.add_mod_right]
        split_ifs at hmem ⊢
        · exact mem_cons_of_mem _ hmem
        · exact mem_cons_of_mem _ hmem

end Itertools
