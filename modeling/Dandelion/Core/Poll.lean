import Mathlib.Tactic.Common

/-!
# Polled futures

The answer of one poll, and futures that are polled until they complete and never again.
-/

variable {α : Type*}

/-- The answer of one poll. -/
inductive Poll (α : Type*) where
  | ready (a : α)
  | pending
deriving DecidableEq

/-- A fused future. It is terminated once it has returned; the value it returned is kept so
that statements about a whole run can speak of it. -/
structure Fused (α : Type*) where
  outcome : Option α
deriving DecidableEq

namespace Fused

/-- A future that has not completed yet. -/
def running : Fused α := ⟨none⟩

def isTerminated (f : Fused α) : Bool := f.outcome.isSome

/-- The future after a poll that was answered with `answer`. -/
def poll (f : Fused α) : Poll α → Fused α
  | .ready a => ⟨some a⟩
  | .pending => f

/-- The future after a poll that skips it once it is terminated. -/
def next (f : Fused α) (answer : Poll α) : Fused α :=
  if f.isTerminated then f else f.poll answer

@[simp] lemma isTerminated_mk_some (a : α) : (⟨some a⟩ : Fused α).isTerminated = true := rfl

@[simp] lemma poll_pending (f : Fused α) : f.poll .pending = f := rfl

@[simp] lemma poll_ready (f : Fused α) (a : α) : f.poll (.ready a) = ⟨some a⟩ := rfl

lemma next_of_isTerminated {f : Fused α} (h : f.isTerminated = true) (answer : Poll α) :
    f.next answer = f := by
  rw [next, if_pos h]

lemma next_of_not_isTerminated {f : Fused α} (h : f.isTerminated = false) (answer : Poll α) :
    f.next answer = f.poll answer := by
  rw [next, if_neg (by simp [h])]

@[simp] lemma next_pending (f : Fused α) : f.next .pending = f := by
  simp [next]

@[simp] lemma isTerminated_next_ready (f : Fused α) (a : α) :
    (f.next (.ready a)).isTerminated = true := by
  cases h : f.isTerminated with
  | true => rw [next_of_isTerminated h, h]
  | false => simp [next_of_not_isTerminated h]

/-- Polling twice with the same answer changes nothing more. -/
@[simp] lemma next_next (f : Fused α) (answer : Poll α) :
    (f.next answer).next answer = f.next answer := by
  cases answer with
  | pending => simp
  | ready a => exact next_of_isTerminated (isTerminated_next_ready f a) _

lemma isTerminated_eq_false {f : Fused α} : f.isTerminated = false ↔ f.outcome = none := by
  simp [isTerminated]

end Fused
