import Dandelion.Core.LruCache
import Dandelion.Core.Machine
import Mathlib.Data.List.Induction

/-!
# The pool behind the fake DNS resolver

`PoolWithBidirectionalMapping` hands out the values of a fixed pool to the keys that ask for
one. Once the pool is used up, the value of the least recently used key is taken over. The
order of use is kept by the reverse map alone.
-/

namespace Dandelion.Tun

variable {κ ν : Type*} [DecidableEq κ] [DecidableEq ν]

/-- The free values, the value of each key, and the owner of each value in order of use. -/
structure PoolWithBidirectionalMapping (κ ν : Type*) where
  pool : List ν
  mapping : AList fun _ : κ => ν
  reverseMapping : LruCache ν κ

namespace PoolWithBidirectionalMapping

def new (pool : List ν) : PoolWithBidirectionalMapping κ ν where
  pool := pool
  mapping := ∅
  reverseMapping := ∅

def get (s : PoolWithBidirectionalMapping κ ν) (key : κ) :
    PoolWithBidirectionalMapping κ ν × Option ν :=
  match s.mapping.lookup key with
  | some value =>
    -- refresh the lru cache entry
    ({ s with reverseMapping := (LruCache.get s.reverseMapping value).2 }, some value)
  | none =>
    match s.pool with
    | value :: pool =>
      ({ pool := pool
         mapping := s.mapping.insert key value
         reverseMapping := LruCache.put s.reverseMapping value key }, some value)
    | [] =>
      -- evict an entry, and forget its owner in the forward map too
      match LruCache.popLru s.reverseMapping with
      | some ((value, oldKey), reverseMapping) =>
        ({ pool := []
           mapping := (s.mapping.erase oldKey).insert key value
           reverseMapping := LruCache.put reverseMapping value key }, some value)
      | none => (s, none)

def getReverse (s : PoolWithBidirectionalMapping κ ν) (value : ν) :
    PoolWithBidirectionalMapping κ ν × Option κ :=
  ({ s with reverseMapping := (LruCache.get s.reverseMapping value).2 },
    (LruCache.get s.reverseMapping value).1)

/-- The four things a `get` can do. -/
inductive GetRule (s : PoolWithBidirectionalMapping κ ν) (key : κ) :
    PoolWithBidirectionalMapping κ ν → Option ν → Prop
  | hit (value : ν) (hmap : s.mapping.lookup key = some value) :
      GetRule s key { s with reverseMapping := (LruCache.get s.reverseMapping value).2 }
        (some value)
  | fresh (value : ν) (pool : List ν) (hmap : s.mapping.lookup key = none)
      (hpool : s.pool = value :: pool) :
      GetRule s key
        { pool := pool
          mapping := s.mapping.insert key value
          reverseMapping := LruCache.put s.reverseMapping value key } (some value)
  | evict (value : ν) (oldKey : κ) (rest : LruCache ν κ) (hmap : s.mapping.lookup key = none)
      (hpool : s.pool = [])
      (hpop : LruCache.popLru s.reverseMapping = some ((value, oldKey), rest)) :
      GetRule s key
        { pool := []
          mapping := (s.mapping.erase oldKey).insert key value
          reverseMapping := LruCache.put rest value key } (some value)
  | exhausted (hmap : s.mapping.lookup key = none) (hpool : s.pool = [])
      (hpop : LruCache.popLru s.reverseMapping = none) : GetRule s key s none

lemma GetRule.of_get {s s' : PoolWithBidirectionalMapping κ ν} {key : κ} {answer : Option ν}
    (h : s.get key = (s', answer)) : GetRule s key s' answer := by
  unfold get at h
  split at h
  · cases h
    exact .hit _ ‹_›
  · split at h
    · cases h
      exact .fresh _ _ ‹_› ‹_›
    · split at h
      · cases h
        exact .evict _ _ _ ‹_› ‹_› ‹_›
      · cases h
        exact .exhausted ‹_› ‹_› ‹_›

/-- After a `get` a value has the owner it had before, or the key of the call. -/
lemma owner_of_get (s : PoolWithBidirectionalMapping κ ν) (key : κ) {value : ν} {owner : κ}
    (h : (s.get key).1.reverseMapping.lookup value = some owner) :
    owner = key ∨ s.reverseMapping.lookup value = some owner := by
  have hput : ∀ (c : LruCache ν κ) v, (LruCache.put c v key).lookup value = some owner →
      owner = key ∨ c.lookup value = some owner := by
    intro c v hc
    by_cases hv : value = v
    · rw [hv, LruCache.put, AList.lookup_insert, Option.some.injEq] at hc
      exact .inl hc.symm
    · rw [LruCache.put, AList.lookup_insert_ne hv] at hc
      exact .inr hc
  obtain ⟨s', answer, hget⟩ : ∃ s' answer, s.get key = (s', answer) := ⟨_, _, rfl⟩
  rw [hget] at h
  cases GetRule.of_get hget with
  | hit v hmap => exact .inr (by simpa using h)
  | fresh v pool hmap hpool => exact hput _ v h
  | evict v oldKey rest hmap hpool hpop =>
    apply (hput rest v h).imp_right
    intro hrest
    rw [(LruCache.of_popLru_eq_some _ hpop).2] at hrest
    by_cases hv : value = v
    · rw [hv, AList.lookup_erase] at hrest
      cases hrest
    · rwa [AList.lookup_erase_ne hv] at hrest
  | exhausted hmap hpool hpop => exact .inr h

/-- The calls a client of the pool makes. -/
inductive Call (κ ν : Type*) where
  | get (key : κ)
  | getReverse (value : ν)

/-- What a call returns. -/
inductive Answer (κ ν : Type*) where
  | value (v : Option ν)
  | owner (k : Option κ)
deriving DecidableEq

/-- The pool as a machine that is driven by calls. -/
def machine : Machine (PoolWithBidirectionalMapping κ ν) (Call κ ν) (Answer κ ν) where
  step
    | s, .get key => ((s.get key).1, .value (s.get key).2)
    | s, .getReverse value => ((s.getReverse value).1, .owner (s.getReverse value).2)

/-- Every owner has asked for a value. -/
lemma get_mem_of_owner {pool : List ν} {calls : List (Call κ ν)} {value : ν} {owner : κ}
    (h : (machine.run (new pool) calls).reverseMapping.lookup value = some owner) :
    .get owner ∈ calls := by
  induction calls using List.reverseRecOn with
  | nil => simp [new] at h
  | append_singleton calls call ih =>
    rw [machine.run_append, Machine.run_cons, Machine.run_nil] at h
    cases call with
    | get key =>
      rcases owner_of_get _ key h with rfl | h
      · simp
      · exact List.mem_append_left _ (ih h)
    | getReverse v =>
      refine List.mem_append_left _ (ih ?_)
      simpa [machine, getReverse] using h

end PoolWithBidirectionalMapping

end Dandelion.Tun
