import Mathlib.Tactic.Common

/-!
# Machines and their runs

A machine reads one input at a time, moves to a new state and gives an answer. Invariants and
simulations are proved for one step; the rules below carry them to runs of any length.
-/

variable {σ τ ι ο : Type*}

/-- A deterministic machine with states `σ`, inputs `ι` and answers `ο`. -/
structure Machine (σ ι ο : Type*) where
  step : σ → ι → σ × ο

namespace Machine

/-- The state reached after a list of inputs. -/
def run (m : Machine σ ι ο) : σ → List ι → σ
  | s, []      => s
  | s, i :: is => m.run (m.step s i).1 is

/-- The answers given along a list of inputs. -/
def answers (m : Machine σ ι ο) : σ → List ι → List ο
  | _, []      => []
  | s, i :: is => (m.step s i).2 :: m.answers (m.step s i).1 is

variable (m : Machine σ ι ο)

@[simp] lemma run_nil (s : σ) : m.run s [] = s := rfl

@[simp] lemma run_cons (s : σ) (i : ι) (is : List ι) :
    m.run s (i :: is) = m.run (m.step s i).1 is := rfl

@[simp] lemma answers_nil (s : σ) : m.answers s [] = [] := rfl

@[simp] lemma answers_cons (s : σ) (i : ι) (is : List ι) :
    m.answers s (i :: is) = (m.step s i).2 :: m.answers (m.step s i).1 is := rfl

lemma run_append (s : σ) (is js : List ι) : m.run s (is ++ js) = m.run (m.run s is) js := by
  induction is generalizing s with
  | nil => rfl
  | cons i is ih => exact ih _

/-- A property kept by every step holds after every run. -/
lemma run_invariant {P : σ → Prop} (hstep : ∀ s i, P s → P (m.step s i).1)
    {s : σ} (hs : P s) (is : List ι) : P (m.run s is) := by
  induction is generalizing s with
  | nil => exact hs
  | cons i is ih => exact ih (hstep s i hs)

/-- Related machines that agree on every answer give the same answers along every run. -/
lemma answers_eq_of_simulation {n : Machine τ ι ο} {R : σ → τ → Prop}
    (hstep : ∀ s t i, R s t → R (m.step s i).1 (n.step t i).1 ∧ (m.step s i).2 = (n.step t i).2)
    {s : σ} {t : τ} (hst : R s t) (is : List ι) : m.answers s is = n.answers t is := by
  induction is generalizing s t with
  | nil => rfl
  | cons i is ih =>
    obtain ⟨hnext, hans⟩ := hstep s t i hst
    rw [answers_cons, answers_cons, hans, ih hnext]

/-! ### Transitions -/

/-- One step of a run. -/
structure Transition (σ ι ο : Type*) where
  before : σ
  input : ι
  after : σ
  answer : ο

/-- The steps of a run, in order. -/
def transitions (m : Machine σ ι ο) : σ → List ι → List (Transition σ ι ο)
  | _, []      => []
  | s, i :: is => ⟨s, i, (m.step s i).1, (m.step s i).2⟩ :: m.transitions (m.step s i).1 is

@[simp] lemma transitions_nil (s : σ) : m.transitions s [] = [] := rfl

@[simp] lemma transitions_cons (s : σ) (i : ι) (is : List ι) :
    m.transitions s (i :: is)
      = ⟨s, i, (m.step s i).1, (m.step s i).2⟩ :: m.transitions (m.step s i).1 is := rfl

lemma transitions_append (s : σ) (is js : List ι) :
    m.transitions s (is ++ js) = m.transitions s is ++ m.transitions (m.run s is) js := by
  induction is generalizing s with
  | nil => rfl
  | cons i is ih => rw [List.cons_append, transitions_cons, transitions_cons, ih, run_cons,
      List.cons_append]

/-- A step of a run comes after the inputs before its own. -/
lemma split_of_mem_transitions {s : σ} {is : List ι} {t : Transition σ ι ο}
    (ht : t ∈ m.transitions s is) :
    ∃ first rest, is = first ++ t.input :: rest ∧ m.run s first = t.before := by
  induction is generalizing s with
  | nil => simp at ht
  | cons i is ih =>
    rcases List.mem_cons.mp ht with rfl | ht
    · exact ⟨[], is, rfl, rfl⟩
    · obtain ⟨first, rest, rfl, hrun⟩ := ih ht
      exact ⟨i :: first, rest, rfl, hrun⟩

lemma step_of_mem_transitions {s : σ} {is : List ι} {t : Transition σ ι ο}
    (ht : t ∈ m.transitions s is) : m.step t.before t.input = (t.after, t.answer) := by
  induction is generalizing s with
  | nil => simp at ht
  | cons i is ih =>
    rcases List.mem_cons.mp ht with rfl | ht
    · rfl
    · exact ih ht

lemma after_of_mem_transitions {s : σ} {is : List ι} {t : Transition σ ι ο}
    (ht : t ∈ m.transitions s is) : t.after = (m.step t.before t.input).1 := by
  rw [m.step_of_mem_transitions ht]

lemma answer_of_mem_transitions {s : σ} {is : List ι} {t : Transition σ ι ο}
    (ht : t ∈ m.transitions s is) : t.answer = (m.step t.before t.input).2 := by
  rw [m.step_of_mem_transitions ht]

/-- What follows a step of a run is a run again. -/
lemma run_of_mem_transitions {s : σ} {is : List ι} {t : Transition σ ι ο}
    (ht : t ∈ m.transitions s is) : ∃ rest, m.run s is = m.run t.after rest := by
  induction is generalizing s with
  | nil => simp at ht
  | cons i is ih =>
    rcases List.mem_cons.mp ht with rfl | ht
    · exact ⟨is, rfl⟩
    · exact ih ht

/-- A property kept by the steps that meet a condition holds before every step of a run whose
steps all meet it, and at its end. -/
lemma guarded_invariant {P : σ → Prop} {G : σ → ι → Prop}
    (hstep : ∀ s i, P s → G s i → P (m.step s i).1) {s : σ} (hs : P s) {is : List ι}
    (hG : ∀ t ∈ m.transitions s is, G t.before t.input) :
    (∀ t ∈ m.transitions s is, P t.before) ∧ P (m.run s is) := by
  induction is generalizing s with
  | nil => simp [hs]
  | cons i is ih =>
    rw [transitions_cons, List.forall_mem_cons] at hG
    obtain ⟨hbefore, hend⟩ := ih (hstep s i hs hG.1) hG.2
    exact ⟨List.forall_mem_cons.mpr ⟨hs, hbefore⟩, hend⟩

/-- Such a property holds after every step as well. -/
lemma guarded_invariant_after {P : σ → Prop} {G : σ → ι → Prop}
    (hstep : ∀ s i, P s → G s i → P (m.step s i).1) {s : σ} (hs : P s) {is : List ι}
    (hG : ∀ t ∈ m.transitions s is, G t.before t.input) {t : Transition σ ι ο}
    (ht : t ∈ m.transitions s is) : P t.after := by
  rw [m.after_of_mem_transitions ht]
  exact hstep t.before t.input ((m.guarded_invariant hstep hs hG).1 t ht) (hG t ht)

/-- If under an invariant a step is good exactly when it meets a condition, and steps that meet
it keep the invariant, then all steps of a run are good exactly when all meet the condition. -/
lemma forall_transitions_iff {P : σ → Prop} {G : σ → ι → Prop} {Q : Transition σ ι ο → Prop}
    (hgood : ∀ s i, P s → (Q ⟨s, i, (m.step s i).1, (m.step s i).2⟩ ↔ G s i))
    (hstep : ∀ s i, P s → G s i → P (m.step s i).1) {s : σ} (hs : P s) (is : List ι) :
    (∀ t ∈ m.transitions s is, Q t) ↔ ∀ t ∈ m.transitions s is, G t.before t.input := by
  induction is generalizing s with
  | nil => simp
  | cons i is ih =>
    rw [transitions_cons, List.forall_mem_cons, List.forall_mem_cons, hgood s i hs]
    apply and_congr_right
    intro hG
    exact ih (hstep s i hs hG)

/-! ### Components

A machine may drive another one with some of its inputs and not touch it with the rest. -/

/-- `π` reads the state of `n` off a state of `m`; the inputs with a translation drive it, and
their answers are those of `n`. -/
structure Component (m : Machine σ ι ο) {κ ξ : Type*} (n : Machine τ κ ξ) (π : σ → τ)
    (translate : ι → Option κ) (report : ξ → ο) : Prop where
  hidden : ∀ s i, translate i = none → π (m.step s i).1 = π s
  seen : ∀ s i j, translate i = some j →
    π (m.step s i).1 = (n.step (π s) j).1 ∧ (m.step s i).2 = report (n.step (π s) j).2

section Component

variable {m} {κ ξ : Type*} {n : Machine τ κ ξ} {π : σ → τ} {translate : ι → Option κ}
  {report : ξ → ο}

/-- The component runs on its own inputs alone. -/
lemma Component.run (h : m.Component n π translate report) (s : σ) (is : List ι) :
    π (m.run s is) = n.run (π s) (is.filterMap translate) := by
  induction is generalizing s with
  | nil => rfl
  | cons i is ih =>
    rw [run_cons, ih]
    cases hi : translate i with
    | none => rw [List.filterMap_cons_none hi, h.hidden s i hi]
    | some j => rw [List.filterMap_cons_some hi, run_cons, (h.seen s i j hi).1]

/-- The answers to the inputs of the component do not change when all other inputs are left out
of the run. -/
lemma Component.answers_filter (h : m.Component n π translate report) {p : ι → Bool}
    (hp : ∀ i, p i = (translate i).isSome) {s t : σ} (hst : π s = π t) (is : List ι) :
    ((m.transitions s is).filter fun r => p r.input).map Transition.answer
      = m.answers t (is.filter p) := by
  induction is generalizing s t with
  | nil => rfl
  | cons i is ih =>
    cases hi : translate i with
    | none =>
      have hpi : p i = false := by rw [hp, hi, Option.isSome_none]
      simp only [transitions_cons, List.filter_cons, hpi, Bool.false_eq_true, if_false]
      exact ih ((h.hidden s i hi).trans hst)
    | some j =>
      have hpi : p i = true := by rw [hp, hi, Option.isSome_some]
      obtain ⟨hs, hanss⟩ := h.seen s i j hi
      obtain ⟨ht, hanst⟩ := h.seen t i j hi
      have hnext : π (m.step s i).1 = π (m.step t i).1 := by rw [hs, ht, hst]
      simp only [transitions_cons, List.filter_cons, hpi, if_true, List.map_cons, answers_cons,
        hanss, hanst, hst, ih hnext]

end Component

end Machine
