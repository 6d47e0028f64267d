import Mathlib.Data.List.TakeWhile

/-!
# Targets of requests

A client turns a path, which may have a query and a fragment, into the target of a request, and
the server takes the path out of the target.
-/

namespace Http

/-- The target that is sent for a path and query: the fragment is cut off, and nothing is sent as
the root. -/
def requestTarget (path : List Char) : List Char :=
  match path.takeWhile (· ≠ '#') with
  | []     => ['/']
  | target => target

/-- How an HTTP library deals with targets. -/
structure Targets where
  /-- Whether the client accepts a path and query. -/
  accepts : List Char → Bool
  /-- The path of a request with the given target. -/
  path : List Char → List Char
  path_slash : ∀ target, target.head? = some '/' → '#' ∉ target →
    path target = target.takeWhile (· ≠ '?')
  path_asterisk : path ['*'] = ['*']
  path_form : ∀ target, path target = [] ∨ path target = ['*'] ∨ (path target).head? = some '/'

/-- A path without query and fragment, or the asterisk. -/
def PlainPath (path : List Char) : Prop :=
  path = ['*'] ∨ (path.head? = some '/' ∧ '?' ∉ path ∧ '#' ∉ path)

lemma takeWhile_ne_eq_self_iff {c : Char} {cs : List Char} :
    cs.takeWhile (· ≠ c) = cs ↔ c ∉ cs := by
  rw [List.takeWhile_eq_self_iff]
  constructor
  · intro h hc
    simpa using h c hc
  · intro h x hx
    have hne : x ≠ c := by
      rintro rfl
      exact h hx
    simpa using hne

lemma requestTarget_of_slash {path : List Char} (h : path.head? = some '/') :
    requestTarget path = path.takeWhile (· ≠ '#') ∧ (requestTarget path).head? = some '/' := by
  obtain ⟨rest, rfl⟩ := List.head?_eq_some_iff.mp h
  simp [requestTarget]

lemma hash_not_mem_requestTarget (path : List Char) : '#' ∉ requestTarget path := by
  intro hmem
  unfold requestTarget at hmem
  split at hmem
  case h_1 => simp at hmem
  case h_2 => simpa using List.mem_takeWhile_imp hmem

/-- The server sees the path of the client exactly if the path is plain. -/
lemma Targets.path_requestTarget_iff (targets : Targets) (path : List Char) :
    targets.path (requestTarget path) = path ↔ PlainPath path := by
  constructor
  · intro h
    rcases targets.path_form (requestTarget path) with hnil | hstar | hslash
    · -- nothing is sent as the root, whose path is not empty
      rw [h] at hnil
      subst hnil
      rw [targets.path_slash _ rfl (hash_not_mem_requestTarget [])] at h
      cases h
    · exact .inl (h.symm.trans hstar)
    · rw [h] at hslash
      obtain ⟨htarget, hhead⟩ := requestTarget_of_slash hslash
      rw [targets.path_slash _ hhead (hash_not_mem_requestTarget path), htarget] at h
      have hquery : path.takeWhile (· ≠ '#') = path := by
        apply (List.takeWhile_prefix _).eq_of_length_le
        have hle := (List.takeWhile_prefix (l := path.takeWhile (· ≠ '#'))
          (fun c => decide (c ≠ '?'))).length_le
        rwa [h] at hle
      rw [hquery] at h
      exact .inr ⟨hslash, takeWhile_ne_eq_self_iff.mp h, takeWhile_ne_eq_self_iff.mp hquery⟩
  · rintro (rfl | ⟨hslash, hquery, hfragment⟩)
    · exact targets.path_asterisk
    · obtain ⟨htarget, hhead⟩ := requestTarget_of_slash hslash
      rw [targets.path_slash _ hhead (hash_not_mem_requestTarget path), htarget,
        takeWhile_ne_eq_self_iff.mpr hfragment, takeWhile_ne_eq_self_iff.mpr hquery]

end Http
