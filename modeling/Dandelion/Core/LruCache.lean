import Mathlib.Data.List.AList

/-!
# Least-recently-used caches and mutually inverse maps

An unbounded LRU cache is an association list in order of use, the most recently used entry
first; that no key occurs twice is part of the type. The second half is about two finite maps
that are inverse to each other, and the updates that keep them so.
-/

/-! ### Lists with at most one match -/

section Match

variable {γ : Type*} {p q : γ → Bool} {l : List γ} {a : γ}

/-- If `a` is the only match, it is the one found. -/
lemma find?_eq_some_of_unique (ha : a ∈ l) (huniq : ∀ x ∈ l, p x = true ↔ x = a) :
    l.find? p = some a := by
  cases hfind : l.find? p with
  | none => exact absurd ((huniq a ha).mpr rfl) (List.find?_eq_none.mp hfind a ha)
  | some x =>
    rw [(huniq x (List.mem_of_find?_eq_some hfind)).mp (List.find?_some hfind)]

lemma eraseP_congr (h : ∀ x ∈ l, p x = q x) : l.eraseP p = l.eraseP q := by
  induction l with
  | nil => rfl
  | cons x l ih =>
    have htail := ih fun y hy => h y (List.mem_cons_of_mem x hy)
    rw [List.eraseP_cons, List.eraseP_cons, h x List.mem_cons_self, htail]

end Match

/-! ### The cache -/

variable {α β : Type*} [DecidableEq α]

/-- Entries ordered by last use, the most recent one first. -/
abbrev LruCache (α β : Type*) := AList fun _ : α => β

namespace LruCache

/-- Look a key up and make its entry the most recent one. -/
def get (c : LruCache α β) (a : α) : Option β × LruCache α β :=
  match c.lookup a with
  | some b => (some b, c.insert a b)
  | none   => (none, c)

/-- Store an entry as the most recent one, replacing the one its key had. -/
def put (c : LruCache α β) (a : α) (b : β) : LruCache α β :=
  c.insert a b

/-- Take the least recently used entry out. -/
def popLru (c : LruCache α β) : Option ((α × β) × LruCache α β) :=
  c.entries.getLast?.map fun e => ((e.1, e.2), c.erase e.1)

variable (c : LruCache α β)

@[simp] lemma get_fst (a : α) : (get c a).1 = c.lookup a := by
  rw [get]
  cases c.lookup a <;> rfl

lemma get_of_lookup_some {a : α} {b : β} (h : c.lookup a = some b) :
    get c a = (some b, c.insert a b) := by
  simp [get, h]

lemma get_of_lookup_none {a : α} (h : c.lookup a = none) : get c a = (none, c) := by
  simp [get, h]

/-- Looking a key up does not change what any key is mapped to. -/
@[simp] lemma lookup_get_snd (a a' : α) : (get c a).2.lookup a' = c.lookup a' := by
  cases h : c.lookup a with
  | none => rw [get_of_lookup_none c h]
  | some b =>
    rw [get_of_lookup_some c h]
    by_cases ha : a' = a
    · subst ha
      rw [AList.lookup_insert, h]
    · exact AList.lookup_insert_ne ha

/-- Looking a key up only reorders the keys. -/
lemma keys_get_snd_perm (a : α) : (get c a).2.keys.Perm c.keys := by
  cases h : c.lookup a with
  | none => rw [get_of_lookup_none c h]
  | some b =>
    rw [get_of_lookup_some c h, AList.keys_insert]
    have ha : a ∈ c.keys := AList.lookup_isSome.mp (by simp [h])
    exact (List.perm_cons_erase ha).symm

/-- A new key is added in front of all entries. -/
lemma entries_put_of_lookup_none {a : α} (b : β) (h : c.lookup a = none) :
    (put c a b).entries = ⟨a, b⟩ :: c.entries :=
  AList.entries_insert_of_notMem (AList.lookup_eq_none.mp h)

lemma keys_put_of_lookup_none {a : α} (b : β) (h : c.lookup a = none) :
    (put c a b).keys = a :: c.keys := by
  simp [AList.keys, entries_put_of_lookup_none c b h]

lemma popLru_eq_none_iff : popLru c = none ↔ c.keys = [] := by
  simp [popLru, AList.keys, List.keys]

/-- The popped entry was in the cache, and only it is gone. -/
lemma of_popLru_eq_some {a : α} {b : β} {c' : LruCache α β}
    (h : popLru c = some ((a, b), c')) : c.lookup a = some b ∧ c' = c.erase a := by
  simp only [popLru, Option.map_eq_some_iff, Prod.mk.injEq] at h
  obtain ⟨⟨a', b'⟩, hlast, ⟨rfl, rfl⟩, rfl⟩ := h
  exact ⟨AList.mem_lookup_iff.mpr (List.mem_of_getLast? hlast), rfl⟩

/-- The popped entry is the one at the end, behind all that stay. -/
lemma entries_eq_of_popLru {a : α} {b : β} {c' : LruCache α β}
    (h : popLru c = some ((a, b), c')) : c.entries = c'.entries ++ [⟨a, b⟩] := by
  simp only [popLru, Option.map_eq_some_iff, Prod.mk.injEq] at h
  obtain ⟨⟨a', b'⟩, hlast, ⟨rfl, rfl⟩, rfl⟩ := h
  obtain ⟨front, hfront⟩ := List.getLast?_eq_some_iff.mp hlast
  have hnodup := c.nodupKeys
  rw [hfront, List.NodupKeys, List.keys_append, List.nodup_append] at hnodup
  have hnot : ∀ e ∈ front, ¬decide (a' = e.1) = true := by
    intro e he
    simpa using (hnodup.2.2 e.1 (List.mem_keys_of_mem he) a' (by simp [List.keys])).symm
  change c.entries = c.entries.kerase a' ++ _
  rw [hfront, List.kerase, List.eraseP_append_right _ hnot]
  simp

end LruCache

/-! ### Mutually inverse maps -/

variable [DecidableEq β]

/-- `m` sends `a` to `b` exactly when `r` sends `b` to `a`. -/
def MutuallyInverse (m : AList fun _ : α => β) (r : AList fun _ : β => α) : Prop :=
  ∀ a b, m.lookup a = some b ↔ r.lookup b = some a

namespace MutuallyInverse

variable {m : AList fun _ : α => β} {r : AList fun _ : β => α}

lemma empty : MutuallyInverse (∅ : AList fun _ : α => β) ∅ := by
  intro a b
  simp

lemma injective (h : MutuallyInverse m r) {a a' : α} {b : β}
    (ha : m.lookup a = some b) (ha' : m.lookup a' = some b) : a = a' := by
  have hb := ((h a b).mp ha).symm.trans ((h a' b).mp ha')
  exact Option.some.inj hb

lemma values_nodup (h : MutuallyInverse m r) : (m.entries.map Sigma.snd).Nodup := by
  refine List.Nodup.map_on ?_ m.nodupKeys.nodup
  rintro ⟨a, b⟩ ha ⟨a', b'⟩ ha' hb
  obtain rfl : b = b' := hb
  obtain rfl := h.injective (AList.mem_lookup_iff.mpr ha) (AList.mem_lookup_iff.mpr ha')
  rfl

/-- The values of one map are the keys of the other. -/
lemma values_perm_keys (h : MutuallyInverse m r) : (m.entries.map Sigma.snd).Perm r.keys := by
  rw [List.perm_ext_iff_of_nodup h.values_nodup r.keys_nodup]
  intro b
  rw [← AList.mem_keys, ← AList.lookup_isSome, Option.isSome_iff_exists]
  constructor
  · intro hb
    obtain ⟨⟨a, _⟩, ha, rfl⟩ := List.mem_map.mp hb
    exact ⟨a, (h a _).mp (AList.mem_lookup_iff.mpr ha)⟩
  · rintro ⟨a, ha⟩
    exact List.mem_map.mpr ⟨⟨a, b⟩, AList.mem_lookup_iff.mp ((h a b).mpr ha), rfl⟩

/-- Pairing two unused elements keeps the maps inverse. -/
lemma insert (h : MutuallyInverse m r) {a : α} {b : β}
    (ha : m.lookup a = none) (hb : r.lookup b = none) :
    MutuallyInverse (m.insert a b) (r.insert b a) := by
  intro x y
  by_cases hx : x = a
  · subst hx
    by_cases hy : y = b
    · subst hy
      simp
    · rw [AList.lookup_insert, AList.lookup_insert_ne hy, ← h x y, ha]
      simp [Ne.symm hy]
  · rw [AList.lookup_insert_ne hx]
    by_cases hy : y = b
    · subst hy
      rw [AList.lookup_insert, h x y, hb]
      simp [Ne.symm hx]
    · rw [AList.lookup_insert_ne hy, h x y]

/-- Taking a pair out of both maps keeps them inverse. -/
lemma erase (h : MutuallyInverse m r) {a : α} {b : β} (hab : r.lookup b = some a) :
    MutuallyInverse (m.erase a) (r.erase b) := by
  intro x y
  by_cases hx : x = a
  · subst hx
    rw [AList.lookup_erase]
    by_cases hy : y = b
    · subst hy
      simp
    · rw [AList.lookup_erase_ne hy, ← h x y, (h x b).mpr hab]
      simp [Ne.symm hy]
  · rw [AList.lookup_erase_ne hx]
    by_cases hy : y = b
    · subst hy
      rw [AList.lookup_erase, h x y, hab]
      simp [Ne.symm hx]
    · rw [AList.lookup_erase_ne hy, h x y]

/-- Refreshing an entry of the reverse map keeps the maps inverse. -/
lemma get_snd {r : LruCache β α} (h : MutuallyInverse m r) (b : β) :
    MutuallyInverse m (LruCache.get r b).2 := by
  intro x y
  rw [LruCache.lookup_get_snd]
  exact h x y

end MutuallyInverse
