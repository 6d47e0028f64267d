import Dandelion.Tun.Refinement
import Mathlib.Data.Finset.Card

/-!
# How long a value stays with its key

A value that was handed out stays with its key until as many other keys as the pool has values
were used. In the recency list, only keys that were used since stand in front of the pair.
-/

namespace Dandelion.Tun

variable {κ ν : Type*} [DecidableEq κ] [DecidableEq ν]

/-! ### The pair in the recency list -/

namespace RecencyList

variable {t : RecencyList κ ν} {T : Finset κ} {key key' : κ} {value : ν} {pair : κ × ν}

/-- The key still has the value, and all pairs used more recently have a key in `T`. -/
def Retained (T : Finset κ) (key : κ) (value : ν) (t : RecencyList κ ν) : Prop :=
  ∃ front back, t.used = front ++ (key, value) :: back ∧ ∀ pair ∈ front, pair.1 ∈ T

omit [DecidableEq κ] [DecidableEq ν] in
lemma Retained.of_head {back : List (κ × ν)} (h : t.used = (key, value) :: back) :
    Retained T key value t :=
  ⟨[], back, h, by simp⟩

omit [DecidableEq κ] [DecidableEq ν] in
lemma Retained.mem (h : Retained T key value t) : (key, value) ∈ t.used := by
  obtain ⟨front, back, hused, -⟩ := h
  simp [hused]

omit [DecidableEq κ] [DecidableEq ν] in
/-- A new pair in front, whose key is in `T`, leaves the pair where it was. -/
lemma Retained.cons (h : Retained T key value t) (hpair : pair.1 ∈ T) (free : List ν) :
    Retained T key value { used := pair :: t.used, free := free } := by
  obtain ⟨front, back, hused, hfront⟩ := h
  exact ⟨pair :: front, back, by simp [hused], List.forall_mem_cons.mpr ⟨hpair, hfront⟩⟩

omit [DecidableEq κ] [DecidableEq ν] in
/-- Moving a pair to the front keeps the pair, if it is the moved one or the key of the moved
one is in `T`. -/
lemma Retained.refresh (h : Retained T key value t) {p : κ × ν → Bool}
    (hfind : t.used.find? p = some pair) (hpair : pair = (key, value) ∨ pair.1 ∈ T) :
    Retained T key value { t with used := pair :: t.used.eraseP p } := by
  rcases hpair with rfl | hpair
  · exact .of_head rfl
  obtain ⟨front, back, hused, hfront⟩ := h
  rw [hused, List.find?_append] at hfind
  cases hin : front.find? p with
  | some x =>
    -- the moved pair was in front of it already
    obtain ⟨hx, hmem⟩ := And.intro (List.find?_some hin) (List.mem_of_find?_eq_some hin)
    refine ⟨pair :: front.eraseP p, back, ?_, ?_⟩
    · rw [hused, List.eraseP_append_left hx _ hmem, List.cons_append]
    · rw [List.forall_mem_cons]
      exact ⟨hpair, fun q hq => hfront q (List.mem_of_mem_eraseP hq)⟩
  | none =>
    rw [hin, Option.none_or, List.find?_cons] at hfind
    have hnot := List.find?_eq_none.mp hin
    cases hp : p (key, value) with
    | true =>
      obtain rfl : (key, value) = pair := by simpa [hp] using hfind
      exact .of_head rfl
    | false =>
      refine ⟨pair :: front, back.eraseP p, ?_, List.forall_mem_cons.mpr ⟨hpair, hfront⟩⟩
      rw [hused, List.eraseP_append_right _ hnot, List.eraseP_cons, hp]
      rfl

omit [DecidableEq ν] in
/-- As long as `T` has fewer keys than there are pairs, a new key of `T` takes over the value of
a pair behind this one. -/
lemma Retained.evict (h : Retained T key value t) (hnodup : (t.used.map Prod.fst).Nodup)
    (hnew : key' ∉ t.used.map Prod.fst) (hkey' : key' ∈ T) (hcard : T.card < t.used.length)
    (oldest : ν) :
    Retained T key value { t with used := (key', oldest) :: t.used.dropLast } := by
  obtain ⟨front, back, hused, hfront⟩ := h
  have hback : back ≠ [] := by
    rintro rfl
    -- otherwise the new key and those in front are as many keys of `T` as there are pairs
    have hkeys : (key' :: front.map Prod.fst).Nodup := by
      rw [hused, List.map_append] at hnodup hnew
      refine List.nodup_cons.mpr ⟨?_, (List.nodup_append.mp hnodup).1⟩
      intro hmem
      exact hnew (List.mem_append_left _ hmem)
    have hsub : (key' :: front.map Prod.fst).toFinset ⊆ T := by
      intro k hk
      rcases List.mem_cons.mp (List.mem_toFinset.mp hk) with rfl | hk
      · exact hkey'
      · obtain ⟨q, hq, rfl⟩ := List.mem_map.mp hk
        exact hfront q hq
    have hle := Finset.card_le_card hsub
    rw [List.toFinset_card_of_nodup hkeys] at hle
    simp only [hused, List.length_cons, List.length_map, List.length_append,
      List.length_nil] at hle hcard
    omega
  refine ⟨(key', oldest) :: front, back.dropLast, ?_,
    List.forall_mem_cons.mpr ⟨hkey', hfront⟩⟩
  rw [hused, List.dropLast_append_cons, List.dropLast_cons_of_ne_nil hback, List.cons_append]

omit [DecidableEq ν] in
/-- What a `get` keeps: if its key is this one or in `T`, and `T` has fewer keys than there are
values, the pair stays. -/
lemma Retained.get (h : Retained T key value t) (hnodup : (t.used.map Prod.fst).Nodup)
    (hcard : T.card < t.free.length + t.used.length) (hkey : key' = key ∨ key' ∈ T) :
    Retained T key value (t.get key').1 := by
  rw [RecencyList.get]
  cases hfind : t.used.find? (·.1 = key') with
  | some pair =>
    have hpair : pair.1 = key' := by simpa using List.find?_some hfind
    apply h.refresh hfind
    rcases hkey with rfl | hkey
    · left
      exact List.inj_on_of_nodup_map hnodup (List.mem_of_find?_eq_some hfind) h.mem hpair
    · exact .inr (hpair ▸ hkey)
  | none =>
    have hnew : key' ∉ t.used.map Prod.fst := by
      intro hmem
      obtain ⟨q, hq, rfl⟩ := List.mem_map.mp hmem
      simpa using List.find?_eq_none.mp hfind q hq
    have hT : key' ∈ T := by
      apply hkey.resolve_left
      rintro rfl
      exact hnew (List.mem_map_of_mem h.mem)
    cases hfree : t.free with
    | cons v free => exact h.cons hT free
    | nil =>
      cases hlast : t.used.getLast? with
      | some oldest =>
        simp only
        rw [hfree, List.length_nil, Nat.zero_add] at hcard
        exact h.evict hnodup hnew hT hcard oldest.2
      | none => exact h

omit [DecidableEq κ] in
/-- What a `get_reverse` keeps: if it answers with this key or one in `T`, the pair stays. -/
lemma Retained.getReverse (h : Retained T key value t) (hnodup : (t.used.map Prod.fst).Nodup)
    {value' : ν} (hkey : ∀ k, (t.getReverse value').2 = some k → k = key ∨ k ∈ T) :
    Retained T key value (t.getReverse value').1 := by
  unfold RecencyList.getReverse at hkey ⊢
  cases hfind : t.used.find? (·.2 = value') with
  | none => exact h
  | some pair =>
    rw [hfind] at hkey
    apply h.refresh hfind
    rcases hkey pair.1 rfl with hpair | hpair
    · left
      exact List.inj_on_of_nodup_map hnodup (List.mem_of_find?_eq_some hfind) h.mem hpair
    · exact .inr hpair

end RecencyList

/-! ### The pair in the pool -/

namespace PoolWithBidirectionalMapping

variable {s : PoolWithBidirectionalMapping κ ν} {init : List ν} {T : Finset κ} {key : κ}
  {value : ν}

/-- The key a call uses: the one a `get` asks for, or the one a `get_reverse` returns. -/
def usedKey : Call κ ν → Answer κ ν → Option κ
  | .get key,      _          => some key
  | .getReverse _, .owner key => key
  | .getReverse _, .value _   => none

/-- The keys other than `key` that are used along a run. -/
def othersUsed (key : κ) (s : PoolWithBidirectionalMapping κ ν) (calls : List (Call κ ν)) :
    Finset κ :=
  ((machine.transitions s calls).filterMap fun t => usedKey t.input t.answer).toFinset.erase key

lemma mem_othersUsed {calls : List (Call κ ν)} {t : Machine.Transition _ _ _} {k : κ}
    (ht : t ∈ machine.transitions s calls) (hk : usedKey t.input t.answer = some k)
    (hne : k ≠ key) : k ∈ othersUsed key s calls := by
  rw [othersUsed, Finset.mem_erase, List.mem_toFinset, List.mem_filterMap]
  exact ⟨hne, t, ht, hk⟩

lemma Consistent.nodup_keys (h : Consistent init s) : (s.recency.used.map Prod.fst).Nodup := by
  have hsymm : MutuallyInverse s.reverseMapping s.mapping := fun v k => (h.inverse k v).symm
  simpa [recency, Function.comp_def] using hsymm.values_nodup

lemma Consistent.length_eq (h : Consistent init s) :
    s.recency.free.length + s.recency.used.length = init.length := by
  have hlen := h.perm.length_eq
  simpa [recency, AList.keys, List.keys] using hlen

/-- The state in which `key` still has `value`. -/
structure Holds (init : List ν) (T : Finset κ) (key : κ) (value : ν)
    (s : PoolWithBidirectionalMapping κ ν) : Prop where
  consistent : Consistent init s
  retained : s.recency.Retained T key value

lemma Holds.lookup (h : Holds init T key value s) : s.reverseMapping.lookup value = some key :=
  mem_used_iff.mp h.retained.mem

lemma Holds.get_snd (h : Holds init T key value s) : (s.get key).2 = some value := by
  have hmap := (h.consistent.inverse key value).mpr h.lookup
  simp [PoolWithBidirectionalMapping.get, hmap]

lemma Holds.getReverse_snd (h : Holds init T key value s) :
    (s.getReverse value).2 = some key := by
  simp [PoolWithBidirectionalMapping.getReverse, h.lookup]

/-- A `get` that succeeds puts its pair in front of all others. -/
lemma Holds.of_get (hinit : init.Nodup) (h : Consistent init s)
    {s' : PoolWithBidirectionalMapping κ ν} (hget : s.get key = (s', some value)) :
    Holds init T key value s' := by
  refine ⟨h.get hinit hget, ?_⟩
  have hrec := h.recency_get hinit hget
  unfold RecencyList.get at hrec
  cases hfind : s.recency.used.find? (·.1 = key) with
  | some pair =>
    have hpair : pair.1 = key := by simpa using List.find?_some hfind
    rw [hfind] at hrec
    simp only [Prod.mk.injEq, Option.some.injEq] at hrec
    obtain ⟨hnext, rfl⟩ := hrec
    rw [← hnext, ← hpair]
    exact .of_head rfl
  | none =>
    rw [hfind] at hrec
    cases hfree : s.recency.free with
    | cons v free =>
      simp only [hfree, Prod.mk.injEq, Option.some.injEq] at hrec
      obtain ⟨hnext, rfl⟩ := hrec
      rw [← hnext]
      exact .of_head rfl
    | nil =>
      cases hlast : s.recency.used.getLast? with
      | some oldest =>
        simp only [hfree, hlast, Prod.mk.injEq, Option.some.injEq] at hrec
        obtain ⟨hnext, rfl⟩ := hrec
        rw [← hnext]
        exact .of_head rfl
      | none => simp [hfree, hlast] at hrec

/-- A call that uses `key` itself or a key of a small `T` leaves the value with its key. -/
lemma Holds.step (hinit : init.Nodup) (hcard : T.card < init.length)
    (h : Holds init T key value s) (call : Call κ ν)
    (hused : ∀ k, usedKey call (machine.step s call).2 = some k → k = key ∨ k ∈ T) :
    Holds init T key value (machine.step s call).1 := by
  have hnodup := h.consistent.nodup_keys
  refine ⟨h.consistent.step hinit call, ?_⟩
  cases call with
  | get key' =>
    have hnext : s.recency.get key' = ((s.get key').1.recency, (s.get key').2) :=
      h.consistent.recency_get hinit rfl
    have hkept := h.retained.get hnodup (by rwa [h.consistent.length_eq]) (hused key' rfl)
    rw [hnext] at hkept
    exact hkept
  | getReverse value' =>
    have hnext := recency_getReverse s value'
    have hkept : (s.recency.getReverse value').1.Retained T key value := by
      apply h.retained.getReverse hnodup
      intro k hk
      rw [hnext] at hk
      exact hused k hk
    rw [hnext] at hkept
    exact hkept

/-- A value that `key` has before and after a `get` is not handed out to another key by it. -/
lemma Holds.eq_of_get (hinit : init.Nodup) {s' : PoolWithBidirectionalMapping κ ν} {k : κ}
    (h : Holds init T key value s) (h' : Holds init T key value s')
    (hget : s.get k = (s', some value)) : k = key := by
  have hk : Holds init T k value s' := .of_get hinit h.consistent hget
  exact Option.some.inj (hk.lookup.symm.trans h'.lookup)

/-- A key used along a run is `key` itself or one of the others. -/
lemma usedKey_cases {later : List (Call κ ν)} {t : Machine.Transition _ _ _}
    (ht : t ∈ machine.transitions s later) :
    ∀ k, usedKey t.input (machine.step t.before t.input).2 = some k →
      k = key ∨ k ∈ othersUsed key s later := by
  intro k hk
  rw [← machine.answer_of_mem_transitions ht] at hk
  by_cases hne : k = key
  · exact .inl hne
  · exact .inr (mem_othersUsed ht hk hne)

/-- A value that was handed out to `key` belongs to it, and is handed out to no other key, as
long as fewer other keys were used since than the pool has values. -/
theorem retained_of_few_others (hinit : init.Nodup) (calls : List (Call κ ν)) (key : κ)
    (value : ν) (later : List (Call κ ν))
    (hget : ((machine.run (new init) calls).get key).2 = some value)
    (hfew : (othersUsed key ((machine.run (new init) calls).get key).1 later).card
      < init.length) :
    let s := ((machine.run (new init) calls).get key).1
    ((machine.run s later).getReverse value).2 = some key ∧
      ((machine.run s later).get key).2 = some value ∧
      ∀ t ∈ machine.transitions s later, ∀ k,
        t.input = .get k → t.answer = .value (some value) → k = key := by
  intro s
  have hstart : Holds init (othersUsed key s later) key value s :=
    .of_get hinit (Consistent.run hinit calls) (Prod.ext rfl hget)
  have hstep : ∀ s' call, Holds init (othersUsed key s later) key value s' →
      (∀ k, usedKey call (machine.step s' call).2 = some k → k = key ∨ k ∈ othersUsed key s later) →
      Holds init (othersUsed key s later) key value (machine.step s' call).1 := by
    intro s' call h hused
    exact h.step hinit hfew call hused
  obtain ⟨hbefore, hend⟩ := machine.guarded_invariant hstep hstart fun t ht => usedKey_cases ht
  refine ⟨hend.getReverse_snd, hend.get_snd, ?_⟩
  intro t ht k hin hout
  have hafter := machine.guarded_invariant_after hstep hstart (fun t ht => usedKey_cases ht) ht
  have hnext := machine.step_of_mem_transitions ht
  rw [hin, hout] at hnext
  simp only [machine, Prod.mk.injEq, Answer.value.injEq] at hnext
  exact (hbefore t ht).eq_of_get hinit hafter (Prod.ext hnext.1 hnext.2)

/-- Two values: name 2 keeps its one while name 1 alone is used, by `get` and in reverse. -/
theorem retained_of_one_other :
    let s := ((machine.run (PoolWithBidirectionalMapping.new [10, 20] :
      PoolWithBidirectionalMapping ℕ ℕ) [.get 1]).get 2).1
    ((machine.run s [.get 1, .getReverse 10]).getReverse 20).2 = some 2 ∧
      ((machine.run s [.get 1, .getReverse 10]).get 2).2 = some 20 := by
  intro s
  have hpool : [10, 20].Nodup := by decide
  have h := retained_of_few_others hpool [.get 1] 2 20 [.get 1, .getReverse 10] (by decide)
    (by decide)
  exact ⟨h.1, h.2.1⟩

-- as many other names as there are values do take the value away
example :
    let s := ((machine.run (PoolWithBidirectionalMapping.new [10, 20] :
      PoolWithBidirectionalMapping ℕ ℕ) []).get 1).1
    (othersUsed 1 s [.get 2, .get 3]).card = 2 ∧
      ((machine.run s [.get 2, .get 3]).getReverse 10).2 = some 3 := by
  decide

end PoolWithBidirectionalMapping

end Dandelion.Tun
