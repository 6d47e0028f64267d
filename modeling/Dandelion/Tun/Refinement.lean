import Dandelion.Tun.Invariant

/-!
# The pool refines a recency list

The reference model keeps one list of (key, value) pairs in order of last use and the values
that were never given out. It says what the pool is for without the two maps of the source.
-/

namespace Dandelion.Tun

variable {κ ν : Type*} [DecidableEq κ] [DecidableEq ν]

/-- Pairs ordered by last use, the most recent one first, and the unallocated values. -/
structure RecencyList (κ ν : Type*) where
  used : List (κ × ν)
  free : List ν

namespace RecencyList

open PoolWithBidirectionalMapping (Call Answer)

def new (pool : List ν) : RecencyList κ ν where
  used := []
  free := pool

/-- A known key becomes most recent. An unknown one takes the next unallocated value, or else
the value of the least recently used pair. -/
def get (t : RecencyList κ ν) (key : κ) : RecencyList κ ν × Option ν :=
  match t.used.find? (·.1 = key) with
  | some pair => ({ t with used := pair :: t.used.eraseP (·.1 = key) }, some pair.2)
  | none =>
    match t.free with
    | value :: free => ({ used := (key, value) :: t.used, free := free }, some value)
    | [] =>
      match t.used.getLast? with
      | some oldest => ({ t with used := (key, oldest.2) :: t.used.dropLast }, some oldest.2)
      | none => (t, none)

/-- The owner of a value becomes most recent. -/
def getReverse (t : RecencyList κ ν) (value : ν) : RecencyList κ ν × Option κ :=
  match t.used.find? (·.2 = value) with
  | some pair => ({ t with used := pair :: t.used.eraseP (·.2 = value) }, some pair.1)
  | none => (t, none)

def machine : Machine (RecencyList κ ν) (Call κ ν) (Answer κ ν) where
  step
    | t, .get key => ((t.get key).1, .value (t.get key).2)
    | t, .getReverse value => ((t.getReverse value).1, .owner (t.getReverse value).2)

end RecencyList

namespace PoolWithBidirectionalMapping

variable {s s' : PoolWithBidirectionalMapping κ ν} {init : List ν}

/-- The recency list a pool stands for. -/
def recency (s : PoolWithBidirectionalMapping κ ν) : RecencyList κ ν where
  used := s.reverseMapping.entries.map fun e => (e.2, e.1)
  free := s.pool

omit [DecidableEq κ] in
lemma mem_used_iff {key : κ} {value : ν} :
    (key, value) ∈ s.recency.used ↔ s.reverseMapping.lookup value = some key := by
  rw [← Option.mem_def, AList.mem_lookup_iff]
  simp [recency]

omit [DecidableEq κ] in
/-- Any test that singles out the value finds its pair, and a refresh of the value moves that
pair to the front. -/
lemma find_and_refresh {key : κ} {value : ν}
    (hown : s.reverseMapping.lookup value = some key) {p : κ × ν → Bool}
    (hp : ∀ k v, s.reverseMapping.lookup v = some k → (p (k, v) = true ↔ v = value)) :
    s.recency.used.find? p = some (key, value) ∧
      ({ s with reverseMapping := (LruCache.get s.reverseMapping value).2 }
        : PoolWithBidirectionalMapping κ ν).recency.used
        = (key, value) :: s.recency.used.eraseP p := by
  constructor
  · apply find?_eq_some_of_unique (mem_used_iff.mpr hown)
    rintro ⟨k, v⟩ hkv
    rw [mem_used_iff] at hkv
    rw [hp k v hkv, Prod.mk.injEq]
    constructor
    · rintro rfl
      exact ⟨Option.some.inj (hkv.symm.trans hown), rfl⟩
    · exact And.right
  · simp only [recency, LruCache.get_of_lookup_some _ hown, AList.entries_insert, List.map_cons,
      List.kerase, List.eraseP_map]
    congr 2
    apply eraseP_congr
    rintro ⟨v, k⟩ hvk
    have hlook : s.reverseMapping.lookup v = some k := AList.mem_lookup_iff.mpr hvk
    rw [Bool.eq_iff_iff, decide_eq_true_eq, Function.comp_apply, hp k v hlook]
    exact eq_comm

lemma Consistent.find_key_eq_none (h : Consistent init s) {key : κ}
    (hmap : s.mapping.lookup key = none) : s.recency.used.find? (·.1 = key) = none := by
  rw [List.find?_eq_none]
  rintro ⟨k, v⟩ hkv hk
  obtain rfl : k = key := by simpa using hk
  rw [mem_used_iff, ← h.inverse k v, hmap] at hkv
  cases hkv

/-- A `get` of the pool is a `get` of its recency list. -/
lemma Consistent.recency_get (h : Consistent init s) {key : κ} {answer : Option ν}
    (hinit : init.Nodup) (hget : s.get key = (s', answer)) :
    s.recency.get key = (s'.recency, answer) := by
  cases GetRule.of_get hget with
  | hit value hmap =>
    have hown := (h.inverse key value).mp hmap
    have hkey : ∀ k v, s.reverseMapping.lookup v = some k →
        (decide (k = key) = true ↔ v = value) := by
      intro k v hkv
      rw [decide_eq_true_eq]
      constructor
      · rintro rfl
        exact Option.some.inj (((h.inverse k v).mpr hkv).symm.trans hmap)
      · rintro rfl
        exact Option.some.inj (hkv.symm.trans hown)
    obtain ⟨hfind, hused⟩ := find_and_refresh hown (p := fun pair => decide (pair.1 = key)) hkey
    rw [RecencyList.get, hfind]
    simp only [← hused]
    rfl
  | fresh value pool hmap hpool =>
    have hfree := h.lookup_eq_none_of_pool hinit hpool
    rw [RecencyList.get, h.find_key_eq_none hmap]
    simp [recency, hpool, LruCache.entries_put_of_lookup_none _ _ hfree]
  | evict value oldKey rest hmap hpool hpop =>
    have hentries := LruCache.entries_eq_of_popLru _ hpop
    have hfree : rest.lookup value = none := by
      rw [(LruCache.of_popLru_eq_some _ hpop).2, AList.lookup_erase]
    rw [RecencyList.get, h.find_key_eq_none hmap]
    simp [recency, hpool, hentries, LruCache.entries_put_of_lookup_none _ _ hfree]
  | exhausted hmap hpool hpop =>
    have hentries : s.reverseMapping.entries = [] := by
      simpa [LruCache.popLru] using hpop
    rw [RecencyList.get, h.find_key_eq_none hmap]
    simp [recency, hpool, hentries]

omit [DecidableEq κ] in
/-- A `get_reverse` of the pool is one of its recency list. -/
lemma recency_getReverse (s : PoolWithBidirectionalMapping κ ν) (value : ν) :
    s.recency.getReverse value
      = ((s.getReverse value).1.recency, (s.getReverse value).2) := by
  cases hown : s.reverseMapping.lookup value with
  | none =>
    have hfind : s.recency.used.find? (·.2 = value) = none := by
      rw [List.find?_eq_none]
      rintro ⟨k, v⟩ hkv hv
      obtain rfl : v = value := by simpa using hv
      rw [mem_used_iff, hown] at hkv
      cases hkv
    rw [RecencyList.getReverse, hfind, getReverse, LruCache.get_of_lookup_none _ hown]
  | some key =>
    obtain ⟨hfind, hused⟩ := find_and_refresh hown (p := fun pair => decide (pair.2 = value))
      (fun k v _ => decide_eq_true_iff)
    rw [RecencyList.getReverse, hfind]
    simp only [← hused, getReverse, LruCache.get_fst, hown]
    rfl

/-- From a pool without duplicates, every sequence of calls is answered as the recency list
answers it. -/
theorem answers_eq_recencyList (hinit : init.Nodup) (calls : List (Call κ ν)) :
    machine.answers (PoolWithBidirectionalMapping.new init) calls
      = RecencyList.machine.answers (RecencyList.new init) calls := by
  apply Machine.answers_eq_of_simulation
    (R := fun s t => Consistent init s ∧ s.recency = t)
  · rintro s _ call ⟨h, rfl⟩
    cases call with
    | get key =>
      have hget : s.recency.get key = ((s.get key).1.recency, (s.get key).2) :=
        h.recency_get hinit rfl
      refine ⟨⟨h.step hinit (.get key), ?_⟩, ?_⟩
      · simp [machine, RecencyList.machine, hget]
      · simp [machine, RecencyList.machine, hget]
    | getReverse value =>
      have hget := recency_getReverse s value
      refine ⟨⟨h.step hinit (.getReverse value), ?_⟩, ?_⟩
      · simp [machine, RecencyList.machine, hget]
      · simp [machine, RecencyList.machine, hget]
  · exact ⟨.new init, rfl⟩

/-- A reverse lookup refreshes: the third name takes the value of the second. -/
theorem answers_eq_recencyList_two_values :
    machine.answers (PoolWithBidirectionalMapping.new [10, 20] :
        PoolWithBidirectionalMapping ℕ ℕ) [.get 1, .get 2, .getReverse 10, .get 3]
      = [.value (some 10), .value (some 20), .owner (some 1), .value (some 20)] :=
  (answers_eq_recencyList (by decide) _).trans (by decide)

end PoolWithBidirectionalMapping

end Dandelion.Tun
