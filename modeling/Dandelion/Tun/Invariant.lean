import Dandelion.Tun.Resolver

/-!
# The representation invariant of the pool

Along every run the two maps stay inverse to each other, and the free values together with the
allocated ones stay a rearrangement of the initial pool.
-/

namespace Dandelion.Tun.PoolWithBidirectionalMapping

variable {κ ν : Type*} [DecidableEq κ] [DecidableEq ν]
variable {s s' : PoolWithBidirectionalMapping κ ν} {init : List ν}

/-- The values that are mapped to by some key. -/
def allocated (s : PoolWithBidirectionalMapping κ ν) : List ν :=
  s.mapping.entries.map Sigma.snd

/-- What holds of every state reached from the pool `init`. -/
structure Consistent (init : List ν) (s : PoolWithBidirectionalMapping κ ν) : Prop where
  inverse : MutuallyInverse s.mapping s.reverseMapping
  perm : (s.pool ++ s.reverseMapping.keys).Perm init

lemma Consistent.new (init : List ν) :
    Consistent init (new init : PoolWithBidirectionalMapping κ ν) where
  inverse := .empty
  perm := by simp [PoolWithBidirectionalMapping.new]

/-- Refreshing the entry of a value keeps the invariant. -/
lemma Consistent.refresh (h : Consistent init s) (value : ν) :
    Consistent init
      { s with reverseMapping := (LruCache.get s.reverseMapping value).2 } where
  inverse := h.inverse.get_snd value
  perm := (List.Perm.append_left _ (LruCache.keys_get_snd_perm _ value)).trans h.perm

/-- A value at the front of the pool has no owner, since the initial pool has no duplicates. -/
lemma Consistent.lookup_eq_none_of_pool (hinit : init.Nodup) (h : Consistent init s) {value : ν}
    {pool : List ν} (hpool : s.pool = value :: pool) :
    s.reverseMapping.lookup value = none := by
  have hnodup := h.perm.nodup_iff.mpr hinit
  rw [hpool, List.cons_append] at hnodup
  rw [AList.lookup_eq_none]
  intro hmem
  exact (List.nodup_cons.mp hnodup).1 (List.mem_append_right _ hmem)

lemma Consistent.get (hinit : init.Nodup) (h : Consistent init s) {key : κ} {answer : Option ν}
    (hget : s.get key = (s', answer)) : Consistent init s' := by
  cases GetRule.of_get hget with
  | hit value hmap => exact h.refresh value
  | fresh value pool hmap hpool =>
    have hfree := h.lookup_eq_none_of_pool hinit hpool
    have hperm : (value :: (pool ++ s.reverseMapping.keys)).Perm init := by
      simpa [hpool] using h.perm
    refine ⟨h.inverse.insert hmap hfree, ?_⟩
    simp only [LruCache.keys_put_of_lookup_none _ _ hfree]
    exact List.perm_middle.trans hperm
  | evict value oldKey rest hmap hpool hpop =>
    obtain ⟨howner, rfl⟩ := LruCache.of_popLru_eq_some _ hpop
    have hfree : (s.reverseMapping.erase value).lookup value = none := AList.lookup_erase _ _
    have hkey : (s.mapping.erase oldKey).lookup key = none := by
      by_cases hk : key = oldKey
      · rw [hk, AList.lookup_erase]
      · rw [AList.lookup_erase_ne hk, hmap]
    refine ⟨(h.inverse.erase howner).insert hkey hfree, ?_⟩
    have hmem : value ∈ s.reverseMapping.keys := AList.lookup_isSome.mp (by simp [howner])
    have hperm : s.reverseMapping.keys.Perm init := by simpa [hpool] using h.perm
    simp only [LruCache.keys_put_of_lookup_none _ _ hfree, AList.keys_erase, List.nil_append]
    exact (List.perm_cons_erase hmem).symm.trans hperm
  | exhausted hmap hpool hpop => exact h

/-- The value just handed out is owned by the key that asked for it. -/
lemma Consistent.getReverse_of_get (hinit : init.Nodup) (h : Consistent init s) {key : κ}
    {value : ν} (hget : s.get key = (s', some value)) : (s'.getReverse value).2 = some key := by
  have hmap : s'.mapping.lookup key = some value := by
    cases GetRule.of_get hget with
    | hit _ hmap => exact hmap
    | fresh => exact AList.lookup_insert _
    | evict => exact AList.lookup_insert _
  rw [getReverse, LruCache.get_fst]
  exact ((h.get hinit hget).inverse key value).mp hmap

lemma Consistent.step (hinit : init.Nodup) (h : Consistent init s) (call : Call κ ν) :
    Consistent init (machine.step s call).1 := by
  cases call with
  | get key => exact h.get hinit rfl
  | getReverse value => exact h.refresh value

/-- Every state reached from a pool without duplicates is consistent with it. -/
lemma Consistent.run (hinit : init.Nodup) (calls : List (Call κ ν)) :
    Consistent init (machine.run (PoolWithBidirectionalMapping.new init) calls) :=
  machine.run_invariant (fun _ call h => h.step hinit call) (.new init) calls

lemma Consistent.allocated_perm (h : Consistent init s) :
    (s.pool ++ s.allocated).Perm init :=
  (List.Perm.append_left _ h.inverse.values_perm_keys).trans h.perm

lemma Consistent.disjoint (hinit : init.Nodup) (h : Consistent init s) :
    s.pool.Disjoint s.allocated :=
  List.disjoint_of_nodup_append (h.allocated_perm.nodup_iff.mpr hinit)

/-- A `get` fails only if there never was a value to give out. -/
lemma Consistent.get_eq_none_iff (h : Consistent init s) (key : κ) :
    (s.get key).2 = none ↔ init = [] := by
  constructor
  · intro hnone
    obtain ⟨s', hget⟩ : ∃ s', s.get key = (s', none) := ⟨_, Prod.ext rfl hnone⟩
    cases GetRule.of_get hget with
    | exhausted hmap hpool hpop =>
      have hkeys := (LruCache.popLru_eq_none_iff _).mp hpop
      simpa [hpool, hkeys] using h.perm.symm
  · rintro rfl
    have hempty := h.allocated_perm.eq_nil
    rw [List.append_eq_nil_iff] at hempty
    have hkeys := h.perm.eq_nil
    rw [List.append_eq_nil_iff] at hkeys
    have hmap : s.mapping.lookup key = none := by
      rw [AList.lookup_eq_none, AList.mem_keys, AList.keys, List.keys,
        List.map_eq_nil_iff.mp hempty.2]
      simp
    have hpop := (LruCache.popLru_eq_none_iff _).mpr hkeys.2
    simp [PoolWithBidirectionalMapping.get, hmap, hempty.1, hpop]

/-- In every state reached from a pool without duplicates, the maps are inverse to each other,
no free value is allocated, no value is lost or duplicated, and a `get` fails only on a pool
that was empty from the start. -/
theorem representation_invariant (hinit : init.Nodup) (calls : List (Call κ ν)) :
    let s := machine.run (PoolWithBidirectionalMapping.new init) calls
    (∀ k v, s.mapping.lookup k = some v ↔ s.reverseMapping.lookup v = some k) ∧
      (∀ k k' v, s.mapping.lookup k = some v → s.mapping.lookup k' = some v → k = k') ∧
      s.pool.Disjoint s.allocated ∧
      (s.pool ++ s.allocated).Perm init ∧
      ∀ key, (s.get key).2 = none ↔ init = [] := by
  have h := Consistent.run hinit calls
  exact ⟨h.inverse, fun _ _ _ => h.inverse.injective, h.disjoint hinit, h.allocated_perm,
    h.get_eq_none_iff⟩

/-- Two values for three names: the last one takes over the value of the first. -/
theorem representation_invariant_two_values :
    let s := machine.run (PoolWithBidirectionalMapping.new [10, 20] :
      PoolWithBidirectionalMapping ℕ ℕ) [.get 1, .get 2, .get 3, .getReverse 20]
    s.mapping.lookup 3 = some 10 ∧ s.mapping.lookup 1 = none ∧
      (s.pool ++ s.allocated).Perm [10, 20] :=
  ⟨by decide, by decide, (representation_invariant (by decide) _).2.2.2.1⟩

end Dandelion.Tun.PoolWithBidirectionalMapping
