import Mathlib.Data.List.Infix
import Mathlib.Tactic.Common

/-!
# Programs that talk over byte streams

A program writes and reads whole blocks, but a stream carries them in fragments of any size. It is
run one fragment at a time.
-/

/-- A program over a byte stream that returns an `α` or fails with an `ε`. -/
inductive Proc (ε α : Type) : Type where
  | ret (a : α)
  | fail (e : ε)
  | writeAll (bytes : List UInt8) (next : Proc ε α)
  | readExact (n : ℕ) (next : List UInt8 → Proc ε α)

namespace Proc

variable {ε α β : Type}

def bind : Proc ε α → (α → Proc ε β) → Proc ε β
  | ret a, f                => f a
  | fail e, _               => fail e
  | writeAll bytes next, f  => writeAll bytes (next.bind f)
  | readExact n next, f     => readExact n fun bytes => (next bytes).bind f

instance : Monad (Proc ε) where
  pure := ret
  bind := bind

def write (bytes : List UInt8) : Proc ε Unit := writeAll bytes (ret ())

def read (n : ℕ) : Proc ε (List UInt8) := readExact n ret

/-- Fail with the given error unless the condition holds. -/
def ensure (b : Bool) (e : ε) : Proc ε Unit := if b then ret () else fail e

instance : LawfulMonad (Proc ε) :=
  .mk' _
    (fun P => by
      show P.bind ret = P
      induction P with
      | ret | fail => rfl
      | writeAll bytes next ih => rw [bind, ih]
      | readExact n next ih => rw [bind, funext ih])
    (fun _ _ => rfl)
    (fun P f g => by
      show (P.bind f).bind g = P.bind fun a => (f a).bind g
      induction P with
      | ret | fail => rfl
      | writeAll bytes next ih => simp only [bind, ih]
      | readExact n next ih => simp only [bind, ih])

@[simp] lemma fail_bind (e : ε) (f : α → Proc ε β) : (fail e : Proc ε α) >>= f = fail e := rfl

@[simp] lemma ensure_true (e : ε) (f : Unit → Proc ε β) : ensure true e >>= f = f () := rfl

@[simp] lemma ensure_false (e : ε) (f : Unit → Proc ε β) : ensure false e >>= f = fail e := rfl

/-! ### Fragments -/

/-- What a program does to its streams in one step. -/
inductive Act where
  | wrote (fragment : List UInt8)
  | got (fragment : List UInt8)

/-- One step of a program: a fragment of the block at hand, or the end of the block. -/
inductive Step : Proc ε α → Act → Proc ε α → Prop
  | write (bytes f rest : List UInt8) (next : Proc ε α) (hf : f ≠ []) (hbytes : bytes = f ++ rest) :
      Step (writeAll bytes next) (.wrote f) (writeAll rest next)
  | written (next : Proc ε α) : Step (writeAll [] next) (.wrote []) next
  | read (n : ℕ) (f : List UInt8) (next : List UInt8 → Proc ε α) (hf : f ≠ [])
      (hle : f.length ≤ n) :
      Step (readExact n next) (.got f) (readExact (n - f.length) fun bytes => next (f ++ bytes))
  | filled (next : List UInt8 → Proc ε α) : Step (readExact 0 next) (.got []) (next [])

/-- Two writes of one program: one of them is a part of the other. -/
lemma Step.wrote_wrote {P Q R : Proc ε α} {f g : List UInt8} (hf : P.Step (.wrote f) Q)
    (hg : P.Step (.wrote g) R) :
    (f = g ∧ Q = R) ∨ (∃ h, g = f ++ h ∧ Q.Step (.wrote h) R) ∨
      ∃ h, f = g ++ h ∧ R.Step (.wrote h) Q := by
  cases hf with
  | written next =>
    cases hg with
    | write _ _ rest _ hne hnil => exact absurd (List.append_eq_nil_iff.mp hnil.symm).1 hne
    | written => exact .inl ⟨rfl, rfl⟩
  | write bytes _ rest next hf hbytes =>
    cases hg with
    | written => exact absurd (List.append_eq_nil_iff.mp hbytes.symm).1 hf
    | write _ _ rest' _ hg hbytes' =>
      rcases List.append_eq_append_iff.mp (hbytes.symm.trans hbytes') with
        ⟨h, rfl, rfl⟩ | ⟨h, rfl, rfl⟩
      · rcases eq_or_ne h [] with rfl | hne
        · exact .inl (by simp)
        · exact .inr (.inl ⟨h, rfl, .write _ h rest' next hne rfl⟩)
      · rcases eq_or_ne h [] with rfl | hne
        · exact .inl (by simp)
        · exact .inr (.inr ⟨h, rfl, .write _ h rest next hne rfl⟩)

lemma Step.read_append {n : ℕ} {f h : List UInt8} {next : List UInt8 → Proc ε α} (hne : h ≠ [])
    (hle : (f ++ h).length ≤ n) :
    (readExact (n - f.length) fun bytes => next (f ++ bytes)).Step (.got h)
      (readExact (n - (f ++ h).length) fun bytes => next (f ++ h ++ bytes)) := by
  rw [List.length_append] at hle
  have hstep := Step.read (n - f.length) h (fun bytes => next (f ++ bytes)) hne (by omega)
  simpa only [List.append_assoc, List.length_append, Nat.sub_sub] using hstep

/-- Two reads of one program from one stream: one of them is a part of the other. -/
lemma Step.got_got {P Q R : Proc ε α} {f g s t : List UInt8} (hf : P.Step (.got f) Q)
    (hg : P.Step (.got g) R) (hstream : f ++ s = g ++ t) :
    (f = g ∧ Q = R) ∨ (∃ h, g = f ++ h ∧ Q.Step (.got h) R) ∨
      ∃ h, f = g ++ h ∧ R.Step (.got h) Q := by
  cases hf with
  | filled next =>
    cases hg with
    | read _ _ _ hne hle => exact absurd (List.length_eq_zero_iff.mp (Nat.le_zero.mp hle)) hne
    | filled => exact .inl ⟨rfl, rfl⟩
  | read n _ next hf hle =>
    cases hg with
    | filled => exact absurd (List.length_eq_zero_iff.mp (Nat.le_zero.mp hle)) hf
    | read _ _ _ hg hle' =>
      rcases List.append_eq_append_iff.mp hstream with ⟨h, rfl, -⟩ | ⟨h, rfl, -⟩
      · rcases eq_or_ne h [] with rfl | hne
        · exact .inl (by simp)
        · exact .inr (.inl ⟨h, rfl, .read_append hne hle'⟩)
      · rcases eq_or_ne h [] with rfl | hne
        · exact .inl (by simp)
        · exact .inr (.inr ⟨h, rfl, .read_append hne hle⟩)

lemma Step.not_wrote_got {P Q R : Proc ε α} {f g : List UInt8} (hf : P.Step (.wrote f) Q) :
    ¬P.Step (.got g) R := by
  intro hg
  cases hf <;> cases hg

/-! ### Termination -/

/-- `Q` is what is left of `P` after a step. -/
def Rest (Q P : Proc ε α) : Prop := ∃ a, P.Step a Q

lemma acc_writeAll {next : Proc ε α} (hnext : Acc Rest next) (bytes : List UInt8) :
    Acc Rest (writeAll bytes next) := by
  induction hlen : bytes.length using Nat.strongRecOn generalizing bytes with
  | _ n ih =>
    refine ⟨_, ?_⟩
    rintro Q ⟨a, hstep⟩
    cases hstep with
    | written => exact hnext
    | write _ f rest _ hf hbytes =>
      have hpos := List.length_pos_iff.mpr hf
      refine ih rest.length ?_ rest rfl
      rw [← hlen, hbytes, List.length_append]
      omega

lemma acc_readExact (n : ℕ) {next : List UInt8 → Proc ε α}
    (hnext : ∀ bytes, Acc Rest (next bytes)) : Acc Rest (readExact n next) := by
  induction n using Nat.strongRecOn generalizing next with
  | _ n ih =>
    refine ⟨_, ?_⟩
    rintro Q ⟨a, hstep⟩
    cases hstep with
    | filled => exact hnext []
    | read _ f _ hf hle =>
      have hpos := List.length_pos_iff.mpr hf
      exact ih (n - f.length) (by omega) fun bytes => hnext (f ++ bytes)

/-- A program takes finitely many steps. -/
lemma acc_rest (P : Proc ε α) : Acc Rest P := by
  induction P with
  | ret a => exact ⟨_, fun Q ⟨_, hstep⟩ => by cases hstep⟩
  | fail e => exact ⟨_, fun Q ⟨_, hstep⟩ => by cases hstep⟩
  | writeAll bytes next ih => exact acc_writeAll ih bytes
  | readExact n next ih => exact acc_readExact n ih

/-! ### Conversations -/

/-- The bytes written in a list of actions. -/
def wroteBytes : List Act → List UInt8
  | []               => []
  | .wrote f :: acts => f ++ wroteBytes acts
  | .got _ :: acts   => wroteBytes acts

/-- The bytes read in a list of actions. -/
def gotBytes : List Act → List UInt8
  | []               => []
  | .wrote _ :: acts => gotBytes acts
  | .got f :: acts   => f ++ gotBytes acts

@[simp] lemma wroteBytes_append (acts acts' : List Act) :
    wroteBytes (acts ++ acts') = wroteBytes acts ++ wroteBytes acts' := by
  induction acts with
  | nil => rfl
  | cons a acts ih => cases a <;> simp [wroteBytes, ih]

@[simp] lemma gotBytes_append (acts acts' : List Act) :
    gotBytes (acts ++ acts') = gotBytes acts ++ gotBytes acts' := by
  induction acts with
  | nil => rfl
  | cons a acts ih => cases a <;> simp [gotBytes, ih]

/-- The program writes and reads the given blocks, and then goes on as `Q`. -/
inductive Talks : Proc ε α → List Act → Proc ε α → Prop
  | done (P : Proc ε α) : Talks P [] P
  | wrote (bytes : List UInt8) {next Q : Proc ε α} {acts : List Act} (h : Talks next acts Q) :
      Talks (writeAll bytes next) (.wrote bytes :: acts) Q
  | got (bytes : List UInt8) {n : ℕ} {next : List UInt8 → Proc ε α} {Q : Proc ε α}
      {acts : List Act} (hn : bytes.length = n) (h : Talks (next bytes) acts Q) :
      Talks (readExact n next) (.got bytes :: acts) Q

namespace Talks

lemma trans {P Q R : Proc ε α} {acts acts' : List Act} (h : P.Talks acts Q)
    (h' : Q.Talks acts' R) : P.Talks (acts ++ acts') R := by
  induction h with
  | done => exact h'
  | wrote bytes _ ih => exact .wrote bytes (ih h')
  | got bytes hn _ ih => exact .got bytes hn (ih h')

lemma bind {P Q : Proc ε α} {acts : List Act} (h : P.Talks acts Q) (f : α → Proc ε β) :
    (P >>= f).Talks acts (Q >>= f) := by
  induction h with
  | done => exact .done _
  | wrote bytes _ ih => exact .wrote bytes ih
  | got bytes hn _ ih => exact .got bytes hn ih

/-- One program after another. -/
lemma seq {P : Proc ε α} {a : α} {f : α → Proc ε β} {Q : Proc ε β} {acts acts' : List Act}
    (h : P.Talks acts (ret a)) (h' : (f a).Talks acts' Q) :
    (P >>= f).Talks (acts ++ acts') Q :=
  (h.bind f).trans h'

end Talks

/-! ### Programs that wait or are done -/

/-- The program cannot take a step when `incoming` is all there is to read. -/
def Stuck (P : Proc ε α) (incoming : List UInt8) : Prop :=
  ∀ a Q, P.Step a Q → ∃ f, a = .got f ∧ ∀ rest, incoming ≠ f ++ rest

lemma stuck_ret (a : α) (incoming : List UInt8) : (ret a : Proc ε α).Stuck incoming := nofun

lemma stuck_fail (e : ε) (incoming : List UInt8) : (fail e : Proc ε α).Stuck incoming := nofun

lemma stuck_readExact (n : ℕ) (next : List UInt8 → Proc ε α) :
    (readExact (n + 1) next).Stuck [] := by
  intro a Q hstep
  cases hstep with
  | read _ f _ hf hle =>
    refine ⟨f, rfl, fun rest hnil => hf ?_⟩
    exact (List.append_eq_nil_iff.mp hnil.symm).1

/-! ### Programs that only fail -/

/-- The program never returns, and writes no more than a beginning of `bytes`. -/
inductive FailsWithin : List UInt8 → Proc ε α → Prop
  | fail (bytes : List UInt8) (e : ε) : FailsWithin bytes (fail e)
  | writeAll (bytes rest : List UInt8) (next : Proc ε α) (h : FailsWithin rest next) :
      FailsWithin (bytes ++ rest) (writeAll bytes next)
  | readExact (bytes : List UInt8) (n : ℕ) (next : List UInt8 → Proc ε α)
      (h : ∀ block, FailsWithin bytes (next block)) : FailsWithin bytes (readExact n next)

lemma FailsWithin.ensure {bytes : List UInt8} (b : Bool) (e : ε) {f : Unit → Proc ε α}
    (h : FailsWithin bytes (f ())) : FailsWithin bytes (ensure b e >>= f) := by
  cases b with
  | true => exact h
  | false => exact .fail bytes e

/-- How a program can end. An error of its stream can end it wherever it reads or writes. -/
inductive Ends : Proc ε α → Except ε α → Prop
  | ret (a : α) : Ends (ret a) (.ok a)
  | fail (e : ε) : Ends (fail e) (.error e)
  | writeAll (bytes : List UInt8) (next : Proc ε α) (e : ε) : Ends (writeAll bytes next) (.error e)
  | readExact (n : ℕ) (next : List UInt8 → Proc ε α) (e : ε) : Ends (readExact n next) (.error e)

lemma Ends.eq_ret {P : Proc ε α} {a : α} (h : P.Ends (.ok a)) : P = .ret a := by
  cases h
  rfl

/-- The steps of a program, whatever its peer does. -/
inductive Steps : Proc ε α → List Act → Proc ε α → Prop
  | nil (P : Proc ε α) : Steps P [] P
  | cons {P Q R : Proc ε α} {a : Act} {acts : List Act} (h : P.Step a Q) (hs : Steps Q acts R) :
      Steps P (a :: acts) R

lemma Steps.trans {P Q R : Proc ε α} {acts acts' : List Act} (h : P.Steps acts Q)
    (h' : Q.Steps acts' R) : P.Steps (acts ++ acts') R := by
  induction h with
  | nil P => exact h'
  | cons hfirst _ ih => exact .cons hfirst (ih h')

lemma Steps.tail {P Q R : Proc ε α} {acts : List Act} {a : Act} (h : P.Steps acts Q)
    (hstep : Q.Step a R) : P.Steps (acts ++ [a]) R :=
  h.trans (.cons hstep (.nil R))

lemma FailsWithin.step_wrote {bytes f : List UInt8} {P Q : Proc ε α} (h : FailsWithin bytes P)
    (hstep : P.Step (.wrote f) Q) : ∃ rest, bytes = f ++ rest ∧ FailsWithin rest Q := by
  cases hstep with
  | written =>
    cases h with
    | writeAll _ rest _ h => exact ⟨rest, rfl, h⟩
  | write block _ left next hf hblock =>
    cases h with
    | writeAll _ rest _ h => exact ⟨left ++ rest, by simp [hblock], .writeAll left rest next h⟩

lemma FailsWithin.step_got {bytes f : List UInt8} {P Q : Proc ε α} (h : FailsWithin bytes P)
    (hstep : P.Step (.got f) Q) : FailsWithin bytes Q := by
  cases hstep with
  | filled =>
    cases h with
    | readExact _ _ _ h => exact h []
  | read n _ next hf hle =>
    cases h with
    | readExact _ _ _ h => exact .readExact bytes _ _ fun block => h (f ++ block)

lemma FailsWithin.steps {bytes : List UInt8} {P Q : Proc ε α} {acts : List Act}
    (h : FailsWithin bytes P) (hsteps : P.Steps acts Q) :
    wroteBytes acts <+: bytes ∧ ∀ a, Q ≠ ret a := by
  induction hsteps generalizing bytes with
  | nil P =>
    refine ⟨by simp [wroteBytes], ?_⟩
    rintro a rfl
    cases h
  | @cons P Q R a acts hstep _ ih =>
    cases a with
    | wrote f =>
      obtain ⟨rest, rfl, hrest⟩ := h.step_wrote hstep
      obtain ⟨hstart, hne⟩ := ih hrest
      exact ⟨(List.prefix_append_right_inj f).mpr hstart, hne⟩
    | got f => exact ih (h.step_got hstep)

end Proc
