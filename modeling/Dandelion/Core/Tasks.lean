import Mathlib.Tactic.Common

/-!
# Tasks that run side by side

Tasks are spawned one after the other and take their steps in any order. Whatever the order is, what
one of them does is a run of it alone.
-/

namespace Tasks

variable {σ ℓ : Type*} (step : σ → ℓ → σ → Prop)

/-- The steps of one task. -/
inductive Reaches (s : σ) : List ℓ → σ → Prop
  | refl : Reaches s [] s
  | tail {t u : σ} {ls : List ℓ} {l : ℓ} (h : Reaches s ls t) (hstep : step t l u) :
      Reaches s (ls ++ [l]) u

lemma Reaches.trans {step : σ → ℓ → σ → Prop} {s t u : σ} {ls ls' : List ℓ}
    (h : Reaches step s ls t) (h' : Reaches step t ls' u) : Reaches step s (ls ++ ls') u := by
  induction h' with
  | refl => simpa using h
  | tail _ hstep ih => simpa using ih.tail hstep

/-- A task that is a part of another one. -/
lemma Reaches.map {σ' ℓ' : Type*} {step : σ → ℓ → σ → Prop} {step' : σ' → ℓ' → σ' → Prop}
    {f : σ → σ'} {g : ℓ → ℓ'} (hfg : ∀ s l t, step s l t → step' (f s) (g l) (f t)) {s t : σ}
    {ls : List ℓ} (h : Reaches step s ls t) : Reaches step' (f s) (ls.map g) (f t) := by
  induction h with
  | refl => exact .refl
  | tail _ hstep ih => simpa using ih.tail (hfg _ _ _ hstep)

/-- What happens to the tasks. -/
inductive Act (σ ℓ : Type*) where
  | spawn (s : σ)
  | step (i : ℕ) (l : ℓ)

/-- A task is spawned, or one of them takes a step. -/
inductive Step : List σ → Act σ ℓ → List σ → Prop
  | spawn (tasks : List σ) (s : σ) : Step tasks (.spawn s) (tasks ++ [s])
  | step (tasks : List σ) (i : ℕ) (l : ℓ) (s t : σ) (hi : tasks[i]? = some s) (h : step s l t) :
      Step tasks (.step i l) (tasks.set i t)

inductive Runs : List (Act σ ℓ) → List σ → Prop
  | nil : Runs [] []
  | tail {acts : List (Act σ ℓ)} {a : Act σ ℓ} {tasks tasks' : List σ} (h : Runs acts tasks)
      (hstep : Step step tasks a tasks') : Runs (acts ++ [a]) tasks'

def Act.spawned : Act σ ℓ → Option σ
  | .spawn s  => some s
  | .step _ _ => none

def Act.label (i : ℕ) : Act σ ℓ → Option ℓ
  | .spawn _  => none
  | .step j l => if j = i then some l else none

/-- The tasks as they were spawned. -/
def spawned (acts : List (Act σ ℓ)) : List σ := acts.filterMap Act.spawned

/-- The steps of one of the tasks. -/
def labels (i : ℕ) (acts : List (Act σ ℓ)) : List ℓ := acts.filterMap (Act.label i)

@[simp] lemma spawned_append (acts acts' : List (Act σ ℓ)) :
    spawned (acts ++ acts') = spawned acts ++ spawned acts' := by
  simp [spawned]

@[simp] lemma labels_append (i : ℕ) (acts acts' : List (Act σ ℓ)) :
    labels i (acts ++ acts') = labels i acts ++ labels i acts' := by
  simp [labels]

@[simp] lemma spawned_spawn (s : σ) : spawned [(.spawn s : Act σ ℓ)] = [s] := rfl

@[simp] lemma spawned_step (i : ℕ) (l : ℓ) : spawned [(.step i l : Act σ ℓ)] = [] := rfl

@[simp] lemma labels_spawn (i : ℕ) (s : σ) : labels i [(.spawn s : Act σ ℓ)] = [] := rfl

@[simp] lemma labels_step_self (i : ℕ) (l : ℓ) : labels i [(.step i l : Act σ ℓ)] = [l] := by
  simp [labels, Act.label]

lemma labels_step_of_ne {i j : ℕ} (h : j ≠ i) (l : ℓ) : labels i [(.step j l : Act σ ℓ)] = [] := by
  simp [labels, Act.label, h]

variable {step} {acts : List (Act σ ℓ)} {tasks : List σ} {i : ℕ}

/-- What the steps of a task keep is kept for all of them. -/
lemma Step.map_eq {β : Type*} {f : σ → β} (hf : ∀ s l t, step s l t → f t = f s) {l : ℓ}
    {tasks' : List σ} (h : Step step tasks (.step i l) tasks') : tasks'.map f = tasks.map f := by
  cases h with
  | step _ _ s t hi hst =>
    apply List.ext_getElem?
    intro j
    rw [List.map_set, List.getElem?_set]
    split_ifs with hij hlt
    · subst hij
      rw [List.getElem?_map, hi, hf s l t hst, Option.map_some]
    · rw [List.getElem?_eq_none (by omega)]
    · rfl

/-- Only tasks that were spawned take steps. -/
lemma Runs.length_eq (h : Runs step acts tasks) : tasks.length = (spawned acts).length := by
  induction h with
  | nil => rfl
  | tail _ hstep ih =>
    cases hstep with
    | spawn s => simp [ih]
    | step i l s t hi hst => simp [ih]

lemma Runs.labels_eq_nil (h : Runs step acts tasks) (hi : tasks.length ≤ i) :
    labels i acts = [] := by
  induction h with
  | nil => rfl
  | tail _ hstep ih =>
    cases hstep with
    | spawn s =>
      rw [List.length_append] at hi
      simp [ih (by omega)]
    | step j l s t hj hst =>
      rw [List.length_set] at hi
      have hne : j ≠ i := by
        rintro rfl
        rw [List.getElem?_eq_none hi] at hj
        cases hj
      simp [ih hi, labels_step_of_ne hne]

/-- What one task does is a run of it alone. -/
lemma Runs.reaches (h : Runs step acts tasks) {t : σ} (hi : tasks[i]? = some t) :
    ∃ s, (spawned acts)[i]? = some s ∧ Reaches step s (labels i acts) t := by
  induction h generalizing t with
  | nil => simp at hi
  | @tail acts a tasks tasks' hruns hstep ih =>
    cases hstep with
    | spawn s =>
      rw [List.getElem?_append] at hi
      split at hi
      case isTrue hlt =>
        obtain ⟨s', hs', hreaches⟩ := ih hi
        refine ⟨s', ?_, by simpa using hreaches⟩
        rw [spawned_append, List.getElem?_append_left (hruns.length_eq ▸ hlt), hs']
      case isFalse hle =>
        rw [List.getElem?_singleton, Option.ite_none_right_eq_some] at hi
        obtain ⟨hzero, heq⟩ := hi
        cases heq
        obtain rfl : i = tasks.length := by omega
        refine ⟨t, by simp [hruns.length_eq], ?_⟩
        simpa [hruns.labels_eq_nil (Nat.le_refl _)] using
          (Reaches.refl : Reaches step t [] t)
    | step j l s u hj hst =>
      by_cases hij : j = i
      · subst hij
        have hlt : j < tasks.length := (List.getElem?_eq_some_iff.mp hj).1
        rw [List.getElem?_set_self hlt] at hi
        cases hi
        obtain ⟨s', hs', hreaches⟩ := ih hj
        exact ⟨s', by simpa using hs', by simpa using hreaches.tail hst⟩
      · rw [List.getElem?_set_ne hij] at hi
        obtain ⟨s', hs', hreaches⟩ := ih hi
        refine ⟨s', by simpa using hs', ?_⟩
        simpa [labels_step_of_ne hij] using hreaches

end Tasks
