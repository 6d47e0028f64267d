import Dandelion.Net.Text
import Mathlib.Data.List.DropRight
import Mathlib.Data.List.TakeWhile

/-!
# URIs in absolute form

The parts of a URI that names a server, and what it denotes: a host, a port, a path and a query.
-/

namespace Http

open Net

/-! ### Parts -/

/-- A letter, and then letters, digits and some marks. -/
def isScheme : List Char → Bool
  | []      => false
  | c :: cs => c.isAlpha && cs.all fun c => c.isAlphanum || c = '+' || c = '-' || c = '.'

/-- The characters of an authority. -/
def inAuthority (c : Char) : Bool := c ≠ '/' && c ≠ '?' && c ≠ '#'

/-- The parts of a URI, without user information and without a fragment. -/
structure AbsoluteForm where
  scheme : List Char
  hostPort : List Char
  pathAndQuery : List Char
  hostPort_valid : ∀ c ∈ hostPort, inAuthority c = true ∧ c ≠ '@'
  pathAndQuery_head : pathAndQuery = [] ∨ pathAndQuery.head? = some '/' ∨
    pathAndQuery.head? = some '?'
  pathAndQuery_valid : '#' ∉ pathAndQuery

lemma hostPort_valid_of_text (rest : List Char) :
    ∀ c ∈ (rest.takeWhile inAuthority).rtakeWhile (· ≠ '@'), inAuthority c = true ∧ c ≠ '@' := by
  intro c hc
  have hsuffix := List.rtakeWhile_suffix (· ≠ '@') (rest.takeWhile inAuthority)
  refine ⟨List.mem_takeWhile_imp (hsuffix.subset hc), ?_⟩
  simpa using List.mem_rtakeWhile_imp hc

lemma pathAndQuery_head_of_text (rest : List Char) :
    (rest.dropWhile inAuthority).takeWhile (· ≠ '#') = [] ∨
    ((rest.dropWhile inAuthority).takeWhile (· ≠ '#')).head? = some '/' ∨
    ((rest.dropWhile inAuthority).takeWhile (· ≠ '#')).head? = some '?' := by
  cases hrest : rest.dropWhile inAuthority with
  | nil => exact .inl rfl
  | cons c cs =>
    have hc : inAuthority c = false := by
      have hhead := List.head?_dropWhile_not inAuthority rest
      rwa [hrest] at hhead
    simp only [inAuthority, Bool.and_eq_false_iff, decide_eq_false_iff_not, not_not] at hc
    rcases hc with (rfl | rfl) | rfl
    · exact .inr (.inl (by simp))
    · exact .inr (.inr (by simp))
    · exact .inl (by simp)

lemma pathAndQuery_valid_of_text (cs : List Char) : '#' ∉ cs.takeWhile (· ≠ '#') := by
  intro hmem
  simpa using List.mem_takeWhile_imp hmem

def AbsoluteForm.ofText (text : List Char) : Option AbsoluteForm :=
  match text.dropWhile (· ≠ ':') with
  | ':' :: '/' :: '/' :: rest =>
    if isScheme (text.takeWhile (· ≠ ':')) then some
      { scheme := text.takeWhile (· ≠ ':')
        hostPort := (rest.takeWhile inAuthority).rtakeWhile (· ≠ '@')
        pathAndQuery := (rest.dropWhile inAuthority).takeWhile (· ≠ '#')
        hostPort_valid := hostPort_valid_of_text rest
        pathAndQuery_head := pathAndQuery_head_of_text rest
        pathAndQuery_valid := pathAndQuery_valid_of_text _ }
    else none
  | _ => none

/-- A text that begins with a mark is not in absolute form. -/
lemma ofText_cons_of_not_isAlpha {c : Char} {cs : List Char} (hc : c.isAlpha = false)
    (hcolon : c ≠ ':') : AbsoluteForm.ofText (c :: cs) = none := by
  rw [AbsoluteForm.ofText]
  split
  · rw [List.takeWhile_cons_of_pos (by simpa using hcolon), isScheme, hc]
    rfl
  · rfl

/-- The port behind a host, which may be left out. -/
def portAfter : List Char → Option (Option UInt16)
  | []        => some none
  | [':']     => some none
  | ':' :: ds => (parseU16 ds).map some
  | _         => none

/-- The host, with the brackets around an IPv6 address, and the port. -/
def splitHostPort : List Char → Option (List Char × Option UInt16)
  | '[' :: cs =>
    match cs.dropWhile (· ≠ ']') with
    | ']' :: back => (portAfter back).map ('[' :: (cs.takeWhile (· ≠ ']') ++ [']']), ·)
    | _           => none
  | cs => (portAfter (cs.dropWhile (· ≠ ':'))).map (cs.takeWhile (· ≠ ':'), ·)

/-! ### What a URI denotes -/

/-- An empty path is the root. -/
def pathOf (pathAndQuery : List Char) : List Char :=
  match pathAndQuery.takeWhile (· ≠ '?') with
  | []   => ['/']
  | path => path

def queryOf (pathAndQuery : List Char) : Option (List Char) :=
  (pathAndQuery.dropWhile (· ≠ '?')).tail?

/-- The port of a URI that gives none. -/
def defaultPort (scheme : List Char) : Option UInt16 :=
  if scheme.map Char.toLower = ['h', 't', 't', 'p'] then some 80
  else if scheme.map Char.toLower = ['h', 't', 't', 'p', 's'] then some 443
  else none

structure Location where
  host : List Char
  port : Option UInt16
  path : List Char
  query : Option (List Char)
deriving DecidableEq

def AbsoluteForm.location (u : AbsoluteForm) : Option Location :=
  (splitHostPort u.hostPort).map fun r =>
    ⟨r.1, r.2.or (defaultPort u.scheme), pathOf u.pathAndQuery, queryOf u.pathAndQuery⟩

/-- What the text of a URI denotes. -/
def locate (text : List Char) : Option Location := (AbsoluteForm.ofText text).bind (·.location)

/-! ### Hosts -/

section

variable {cs host : List Char} {port : Option UInt16}

/-- What a host and a port are made of. -/
lemma of_splitHostPort (h : splitHostPort cs = some (host, port)) :
    ∃ back, cs = host ++ back ∧ portAfter back = some port ∧
      ((∃ inner, host = '[' :: (inner ++ [']']) ∧ ']' ∉ inner) ∨
        (':' ∉ host ∧ host.head? ≠ some '[')) := by
  unfold splitHostPort at h
  split at h
  case h_1 cs =>
    split at h
    case h_2 => cases h
    case h_1 back hback =>
      rw [Option.map_eq_some_iff] at h
      obtain ⟨port, hport, heq⟩ := h
      cases heq
      refine ⟨back, ?_, hport, .inl ⟨_, rfl, ?_⟩⟩
      · conv_lhs => rw [← List.takeWhile_append_dropWhile (p := (· ≠ ']')) (l := cs), hback]
        simp
      · intro hmem
        simpa using List.mem_takeWhile_imp hmem
  case h_2 _ hcs =>
    rw [Option.map_eq_some_iff] at h
    obtain ⟨port, hport, heq⟩ := h
    cases heq
    refine ⟨_, List.takeWhile_append_dropWhile.symm, hport, .inr ⟨?_, ?_⟩⟩
    · intro hmem
      simpa using List.mem_takeWhile_imp hmem
    · intro hhead
      obtain ⟨tail, htail⟩ := List.head?_eq_some_iff.mp hhead
      obtain ⟨back, hback⟩ := List.takeWhile_prefix (l := cs) (fun c => decide (c ≠ ':'))
      rw [htail] at hback
      exact hcs _ hback.symm

/-- A host alone is a host without a port. -/
lemma splitHostPort_host (h : splitHostPort cs = some (host, port)) :
    splitHostPort host = some (host, none) := by
  obtain ⟨back, -, -, ⟨inner, rfl, hinner⟩ | ⟨hcolon, hhead⟩⟩ := of_splitHostPort h
  · have hne : ∀ c ∈ inner, decide (c ≠ ']') = true := by
      intro c hc
      simpa using ne_of_mem_of_not_mem hc hinner
    rw [splitHostPort, List.dropWhile_append_of_pos hne, List.takeWhile_append_of_pos hne]
    simp [portAfter]
  · have hne : ∀ c ∈ host, decide (c ≠ ':') = true := by
      intro c hc
      simpa using ne_of_mem_of_not_mem hc hcolon
    unfold splitHostPort
    split
    case h_1 => exact absurd rfl hhead
    case h_2 =>
      rw [List.dropWhile_eq_nil_iff.mpr hne, List.takeWhile_eq_self_iff.mpr hne]
      rfl

lemma subset_of_splitHostPort (h : splitHostPort cs = some (host, port)) : host ⊆ cs := by
  obtain ⟨back, rfl, -⟩ := of_splitHostPort h
  exact List.subset_append_left host back

end

/-! ### Paths and queries -/

/-- How the path and query of a URI are shown: as they stand, but never as an empty text. Whether
a query without a path gets a slash in front is left open. -/
inductive ShownAs : List Char → List Char → Prop
  | root : ShownAs [] ['/']
  | same {data : List Char} (h : data ≠ []) : ShownAs data data
  | slash (query : List Char) : ShownAs ('?' :: query) ('/' :: '?' :: query)

namespace ShownAs

variable {data shown : List Char}

lemma pathOf_eq (h : ShownAs data shown) : pathOf shown = pathOf data := by
  cases h with
  | root => rfl
  | same => rfl
  | slash query => simp [pathOf]

lemma queryOf_eq (h : ShownAs data shown) : queryOf shown = queryOf data := by
  cases h with
  | root => rfl
  | same => rfl
  | slash query => simp [queryOf]

lemma hash_not_mem (h : ShownAs data shown) (hdata : '#' ∉ data) : '#' ∉ shown := by
  cases h with
  | root => decide
  | same => exact hdata
  | slash query =>
    rw [List.mem_cons, not_or]
    exact ⟨by decide, hdata⟩

lemma head?_eq {u : AbsoluteForm} (h : ShownAs u.pathAndQuery shown) :
    shown.head? = some '/' ∨ shown.head? = some '?' := by
  generalize hdata : u.pathAndQuery = data at h
  cases h with
  | root => exact .inl rfl
  | same hne =>
    rcases u.pathAndQuery_head with hnil | hhead
    · exact absurd (hdata.symm.trans hnil) hne
    · rwa [hdata] at hhead
  | slash query => exact .inl rfl

end ShownAs

lemma locate_http_eq (rest : List Char) :
    locate ('h' :: 't' :: 't' :: 'p' :: ':' :: '/' :: '/' :: rest)
      = (splitHostPort ((rest.takeWhile inAuthority).rtakeWhile (· ≠ '@'))).map fun r =>
        ⟨r.1, r.2.or (some 80), pathOf ((rest.dropWhile inAuthority).takeWhile (· ≠ '#')),
          queryOf ((rest.dropWhile inAuthority).takeWhile (· ≠ '#'))⟩ := rfl

/-- A host and port, and a path and query, as the parts of an `http` URI. -/
lemma locate_http {hostPort pathAndQuery host : List Char} {port : Option UInt16}
    (hvalid : ∀ c ∈ hostPort, inAuthority c = true ∧ c ≠ '@')
    (hslash : pathAndQuery.head? = some '/') (hhash : '#' ∉ pathAndQuery)
    (hsplit : splitHostPort hostPort = some (host, port)) :
    locate ('h' :: 't' :: 't' :: 'p' :: ':' :: '/' :: '/' :: (hostPort ++ pathAndQuery))
      = some ⟨host, some (port.getD 80), pathOf pathAndQuery, queryOf pathAndQuery⟩ := by
  obtain ⟨path, rfl⟩ := List.head?_eq_some_iff.mp hslash
  have hauthority : ∀ c ∈ hostPort, inAuthority c = true := fun c hc => (hvalid c hc).1
  have htake : (hostPort ++ '/' :: path).takeWhile inAuthority = hostPort := by
    rw [List.takeWhile_append_of_pos hauthority]
    simp [inAuthority]
  have hdrop : (hostPort ++ '/' :: path).dropWhile inAuthority = '/' :: path := by
    rw [List.dropWhile_append_of_pos hauthority]
    simp [inAuthority]
  have huser : hostPort.rtakeWhile (· ≠ '@') = hostPort := by
    rw [List.rtakeWhile_eq_self_iff]
    intro c hc
    simpa using (hvalid c hc).2
  have hfragment : ('/' :: path).takeWhile (· ≠ '#') = '/' :: path := by
    rw [List.takeWhile_eq_self_iff]
    intro c hc
    simpa using ne_of_mem_of_not_mem hc hhash
  have hport : port.or (some 80) = some (port.getD 80) := by cases port <;> rfl
  rw [locate_http_eq, htake, hdrop, huser, hfragment, hsplit, Option.map_some, hport]

end Http
