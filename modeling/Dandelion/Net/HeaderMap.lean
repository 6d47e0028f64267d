import Mathlib.Tactic.Common

/-!
# Header maps

The headers of an HTTP message: a multimap from lower-case names to values, in order.
-/

namespace Http

abbrev HeaderMap := List (String × String)

namespace HeaderMap

def containsKey (headers : HeaderMap) (name : String) : Bool := headers.any (·.1 = name)

/-- The first value of a header. -/
def get (headers : HeaderMap) (name : String) : Option String :=
  (headers.find? (·.1 = name)).map (·.2)

/-- The values of a header, in order. -/
def getAll (headers : HeaderMap) (name : String) : List String :=
  (headers.filter (·.1 = name)).map (·.2)

/-- Make `value` the only value of a header. -/
def insert (headers : HeaderMap) (name value : String) : HeaderMap :=
  match headers with
  | []      => [(name, value)]
  | h :: hs =>
    if h.1 = name then (name, value) :: hs.filter (·.1 ≠ name) else h :: insert hs name value

/-- Drop a header, and return its first value. -/
def remove (headers : HeaderMap) (name : String) : Option String × HeaderMap :=
  (headers.get name, headers.filter (·.1 ≠ name))

/-- Give a header a value unless it has one. -/
def orInsert (headers : HeaderMap) (name value : String) : HeaderMap :=
  if headers.containsKey name then headers else headers.insert name value

/-! ### Looking headers up -/

section

variable {headers : HeaderMap} {name name' value : String}

lemma get_eq_head?_getAll (headers : HeaderMap) (name : String) :
    headers.get name = (headers.getAll name).head? := by
  rw [get, getAll, List.head?_map, List.head?_filter]

lemma containsKey_eq_isSome_get (headers : HeaderMap) (name : String) :
    headers.containsKey name = (headers.get name).isSome := by
  rw [containsKey, get, Option.isSome_map, List.isSome_find?]

lemma containsKey_iff : headers.containsKey name = true ↔ headers.getAll name ≠ [] := by
  rw [containsKey_eq_isSome_get, get_eq_head?_getAll]
  exact List.isSome_head?

lemma getAll_remove_self (headers : HeaderMap) (name : String) :
    (headers.remove name).2.getAll name = [] := by
  rw [remove, getAll, List.filter_filter]
  simp

lemma getAll_remove_of_ne (h : name ≠ name') :
    (headers.remove name').2.getAll name = headers.getAll name := by
  rw [remove, getAll, getAll, List.filter_filter]
  congr 2
  funext x
  by_cases hx : x.1 = name
  · simp [hx, h]
  · simp [hx]

/-- A header that is not there cannot be removed. -/
lemma remove_eq_of_getAll (h : headers.getAll name = []) :
    headers.remove name = (none, headers) := by
  have hfilter : headers.filter (·.1 ≠ name) = headers := by
    rw [List.filter_eq_self]
    intro x hx
    rw [getAll, List.map_eq_nil_iff, List.filter_eq_nil_iff] at h
    simpa using h x hx
  rw [remove, get_eq_head?_getAll, h, hfilter]
  rfl

lemma getAll_insert_self (headers : HeaderMap) (name value : String) :
    (headers.insert name value).getAll name = [value] := by
  induction headers with
  | nil => simp [insert, getAll]
  | cons x hs ih =>
    rw [insert]
    split
    · have hnone := getAll_remove_self hs name
      rw [remove, getAll, List.map_eq_nil_iff] at hnone
      rw [getAll, List.filter_cons_of_pos (by simp), hnone]
      rfl
    case isFalse hne =>
      rw [getAll, List.filter_cons_of_neg (by simpa using hne)]
      exact ih

lemma getAll_insert_of_ne (h : name ≠ name') :
    (headers.insert name' value).getAll name = headers.getAll name := by
  induction headers with
  | nil => simp [insert, getAll, h.symm]
  | cons x hs ih =>
    rw [insert]
    split
    case isTrue hx =>
      have hremove : (remove hs name').2.getAll name = getAll hs name := getAll_remove_of_ne h
      rw [getAll, getAll, List.filter_cons_of_neg (by simpa using h.symm),
        List.filter_cons_of_neg (by simpa [hx] using h.symm)]
      exact hremove
    case isFalse hx =>
      rw [getAll, getAll, List.filter_cons, List.filter_cons]
      split
      · rw [List.map_cons, List.map_cons]
        exact congrArg (x.2 :: ·) ih
      · exact ih

lemma orInsert_of_getAll_ne_nil (h : headers.getAll name ≠ []) (value : String) :
    headers.orInsert name value = headers := by
  rw [orInsert, if_pos (containsKey_iff.mpr h)]

lemma orInsert_of_getAll_eq_nil (h : headers.getAll name = []) (value : String) :
    headers.orInsert name value = headers.insert name value := by
  rw [orInsert, if_neg]
  exact fun hkey => containsKey_iff.mp hkey h

lemma getAll_orInsert_of_ne (h : name ≠ name') :
    (headers.orInsert name' value).getAll name = headers.getAll name := by
  rw [orInsert]
  split
  · rfl
  · exact getAll_insert_of_ne h

end

end HeaderMap

/-- A text that may stand as the value of a header: it has no control characters but tabs. -/
def headerValue (text : String) : Option String :=
  if text.toList.all fun c => (32 ≤ c.toNat && c.toNat ≠ 127) || c = '\t' then some text else none

end Http
