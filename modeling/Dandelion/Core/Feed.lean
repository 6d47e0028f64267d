import Dandelion.Core.Proc

/-!
# Programs that are fed with a stream

A program is given all the bytes that its peer will ever send. Whatever fragments it reads and
writes them in, it writes the same bytes, leaves the same bytes unread and ends in the same way.
-/

namespace Proc

variable {ε α β : Type}

/-- How a program ends. -/
inductive Ending (ε α : Type) where
  | ret (a : α)
  | fail (e : ε)
  /-- The stream ended inside a block. -/
  | eof

/-- What a program wrote, what it left unread and how it ended. -/
structure Fed (ε α : Type) where
  wrote : List UInt8
  left : List UInt8
  ending : Ending ε α

/-- What was written before. -/
def Fed.after (bytes : List UInt8) (r : Fed ε α) : Fed ε α := { r with wrote := bytes ++ r.wrote }

def feed : Proc ε α → List UInt8 → Fed ε α
  | ret a, stream               => ⟨[], stream, .ret a⟩
  | fail e, stream              => ⟨[], stream, .fail e⟩
  | writeAll bytes next, stream => (feed next stream).after bytes
  | readExact n next, stream    =>
    if n ≤ stream.length then feed (next (stream.take n)) (stream.drop n) else ⟨[], [], .eof⟩

@[simp] lemma Fed.after_after (bytes bytes' : List UInt8) (r : Fed ε α) :
    (r.after bytes').after bytes = r.after (bytes ++ bytes') := by
  simp [Fed.after]

/-! ### Fragments do not matter -/

lemma feed_of_step_wrote {P Q : Proc ε α} {f : List UInt8} (h : P.Step (.wrote f) Q)
    (stream : List UInt8) : P.feed stream = (Q.feed stream).after f := by
  cases h with
  | write bytes _ rest next hf hbytes => rw [feed, feed, hbytes, Fed.after_after]
  | written => rfl

lemma feed_of_step_got {P Q : Proc ε α} {f : List UInt8} (h : P.Step (.got f) Q)
    (stream : List UInt8) : P.feed (f ++ stream) = Q.feed stream := by
  cases h with
  | filled next => simp [feed]
  | read n _ next hf hle =>
    rw [feed, feed, List.length_append]
    by_cases hlen : n ≤ f.length + stream.length
    · rw [if_pos hlen, if_pos (by omega), List.take_append, List.drop_append,
        List.take_of_length_le hle, List.drop_of_length_le hle, List.nil_append]
    · rw [if_neg hlen, if_neg (by omega)]

lemma feed_of_steps {P Q : Proc ε α} {acts : List Act} (h : P.Steps acts Q)
    (rest : List UInt8) :
    P.feed (gotBytes acts ++ rest) = (Q.feed rest).after (wroteBytes acts) := by
  induction h with
  | nil P => rfl
  | @cons P Q R a acts hstep _ ih =>
    cases a with
    | wrote f => rw [gotBytes, wroteBytes, feed_of_step_wrote hstep, ih, Fed.after_after]
    | got f => rw [gotBytes, wroteBytes, List.append_assoc, feed_of_step_got hstep, ih]

/-- Fed with a stream, the program has done `acts`; it goes on as `Q`, and the rest of the stream is
left. -/
structure RunsOn (P : Proc ε α) (stream : List UInt8) (acts : List Act) (Q : Proc ε α)
    (rest : List UInt8) : Prop where
  steps : P.Steps acts Q
  stream_eq : stream = gotBytes acts ++ rest

/-- What is written in the course of a run is what will have been written, or a beginning of it. -/
lemma wroteBytes_start {P Q : Proc ε α} {acts : List Act} (h : P.Steps acts Q) :
    wroteBytes acts <+: (P.feed (gotBytes acts)).wrote := by
  have hfeed := feed_of_steps h []
  rw [List.append_nil] at hfeed
  rw [hfeed]
  exact List.prefix_append _ _

/-- A program that cannot take a step has returned, has failed, or waits at the end of its
stream. -/
lemma of_stuck {P : Proc ε α} {incoming : List UInt8} (h : P.Stuck incoming) :
    (∃ a, P = ret a) ∨ (∃ e, P = fail e) ∨
      incoming = [] ∧ ∃ n next, P = readExact (n + 1) next := by
  cases P with
  | ret a => exact .inl ⟨a, rfl⟩
  | fail e => exact .inr (.inl ⟨e, rfl⟩)
  | writeAll bytes next =>
    exfalso
    cases bytes with
    | nil =>
      obtain ⟨f, heq, -⟩ := h _ _ (.written next)
      cases heq
    | cons b bytes =>
      obtain ⟨f, heq, -⟩ := h _ _ (.write (b :: bytes) [b] bytes next (by simp) rfl)
      cases heq
  | readExact n next =>
    cases n with
    | zero =>
      obtain ⟨f, heq, hne⟩ := h _ _ (.filled next)
      cases heq
      exact absurd rfl (hne incoming)
    | succ n =>
      refine .inr (.inr ⟨?_, n, next, rfl⟩)
      cases incoming with
      | nil => rfl
      | cons b incoming =>
        obtain ⟨f, heq, hne⟩ := h _ _ (.read (n + 1) [b] next (by simp) (by simp))
        cases heq
        exact absurd rfl (hne incoming)

/-- The end of a run tells the end of the program. -/
lemma RunsOn.feed_eq {P Q : Proc ε α} {stream rest : List UInt8} {acts : List Act}
    (h : P.RunsOn stream acts Q rest) (hstuck : Q.Stuck rest) :
    ∃ ending, P.feed stream = ⟨wroteBytes acts, rest, ending⟩ ∧
      ∀ a, Q = ret a ↔ ending = .ret a := by
  rw [h.stream_eq, feed_of_steps h.steps]
  rcases of_stuck hstuck with ⟨a, rfl⟩ | ⟨e, rfl⟩ | ⟨rfl, n, next, rfl⟩
  · exact ⟨.ret a, by simp [feed, Fed.after], by simp⟩
  · exact ⟨.fail e, by simp [feed, Fed.after], by simp⟩
  · exact ⟨.eof, by simp [feed, Fed.after], by simp⟩

/-! ### Programs that return -/

/-- Fed with a stream, the program writes the given bytes and returns, and leaves the rest of the
stream unread. -/
def Returns (P : Proc ε α) (stream wrote : List UInt8) (a : α) (left : List UInt8) : Prop :=
  P.feed stream = ⟨wrote, left, .ret a⟩

lemma RunsOn.eq_ret_iff {P Q : Proc ε α} {stream rest : List UInt8} {acts : List Act}
    (h : P.RunsOn stream acts Q rest) (hstuck : Q.Stuck rest) (a : α) :
    Q = ret a ↔ ∃ wrote left, P.Returns stream wrote a left := by
  obtain ⟨ending, hfeed, hret⟩ := h.feed_eq hstuck
  rw [hret]
  constructor
  · rintro rfl
    exact ⟨wroteBytes acts, rest, hfeed⟩
  · rintro ⟨wrote, left, hreturns⟩
    rw [Returns, hfeed] at hreturns
    cases hreturns
    rfl

lemma RunsOn.returns {P : Proc ε α} {stream rest : List UInt8} {acts : List Act} {a : α}
    (h : P.RunsOn stream acts (ret a) rest) : P.Returns stream (wroteBytes acts) a rest := by
  rw [Returns, h.stream_eq, feed_of_steps h.steps]
  simp [feed, Fed.after]

variable {stream wrote left : List UInt8}

lemma exists_steps_writeAll (bytes : List UInt8) (next : Proc ε α) :
    ∃ acts, (writeAll bytes next).Steps acts next ∧ wroteBytes acts = bytes ∧
      gotBytes acts = [] := by
  cases bytes with
  | nil => exact ⟨[.wrote []], .cons (.written next) (.nil _), rfl, rfl⟩
  | cons b bytes =>
    have hstep : (writeAll (b :: bytes) next).Step (.wrote (b :: bytes)) (writeAll [] next) :=
      .write _ _ [] next (by simp) (by simp)
    exact ⟨_, .cons hstep (.cons (.written next) (.nil _)), by simp [wroteBytes], rfl⟩

lemma exists_steps_readExact (bytes : List UInt8) (next : List UInt8 → Proc ε α) :
    ∃ acts, (readExact bytes.length next).Steps acts (next bytes) ∧ wroteBytes acts = [] ∧
      gotBytes acts = bytes := by
  cases bytes with
  | nil => exact ⟨[.got []], .cons (.filled next) (.nil _), rfl, rfl⟩
  | cons b bytes =>
    have hstep := Step.read (b :: bytes).length (b :: bytes) next (by simp) (Nat.le_refl _)
    rw [Nat.sub_self] at hstep
    have hfilled := Step.filled fun rest => next (b :: bytes ++ rest)
    rw [List.append_nil] at hfilled
    exact ⟨_, .cons hstep (.cons hfilled (.nil _)), rfl, by simp [gotBytes]⟩

/-- A program that returns has steps to do so. -/
lemma Returns.exists_steps {P : Proc ε α} {a : α} (h : P.Returns stream wrote a left) :
    ∃ acts, P.Steps acts (ret a) ∧ wroteBytes acts = wrote ∧ stream = gotBytes acts ++ left := by
  induction P generalizing stream wrote with
  | ret b =>
    cases h
    exact ⟨[], .nil _, rfl, rfl⟩
  | fail e => cases h
  | writeAll bytes next ih =>
    rcases hnext : next.feed stream with ⟨wrote', left', ending⟩
    simp only [Returns, feed, hnext, Fed.after, Fed.mk.injEq] at h
    obtain ⟨rfl, rfl, rfl⟩ := h
    obtain ⟨acts, hsteps, hwrote, hgot⟩ := ih hnext
    obtain ⟨first, hfirst, hwrote', hgot'⟩ := exists_steps_writeAll bytes next
    exact ⟨first ++ acts, hfirst.trans hsteps, by simp [hwrote, hwrote'], by simp [hgot, hgot']⟩
  | readExact n next ih =>
    rw [Returns, feed] at h
    split at h
    case isTrue hlen =>
      obtain ⟨acts, hsteps, hwrote, hgot⟩ := ih _ h
      obtain ⟨first, hfirst, hwrote', hgot'⟩ := exists_steps_readExact (stream.take n) next
      rw [List.length_take_of_le hlen] at hfirst
      refine ⟨first ++ acts, hfirst.trans hsteps, by simp [hwrote, hwrote'], ?_⟩
      rw [gotBytes_append, hgot', List.append_assoc, ← hgot, List.take_append_drop]
    case isFalse => cases h

lemma feed_bind (P : Proc ε α) (f : α → Proc ε β) (stream : List UInt8) :
    (P >>= f).feed stream =
      match (P.feed stream).ending with
      | .ret a  => ((f a).feed (P.feed stream).left).after (P.feed stream).wrote
      | .fail e => ⟨(P.feed stream).wrote, (P.feed stream).left, .fail e⟩
      | .eof    => ⟨(P.feed stream).wrote, (P.feed stream).left, .eof⟩ := by
  induction P generalizing stream with
  | ret a => rfl
  | fail e => rfl
  | writeAll bytes next ih =>
    change ((next >>= f).feed stream).after bytes = _
    rw [ih, feed]
    simp only [Fed.after]
    split <;> simp
  | readExact n next ih =>
    change feed (readExact n fun bytes => next bytes >>= f) stream = _
    rw [feed, feed]
    split
    · exact ih _ _
    · rfl

/-- One program after another. -/
lemma returns_bind_iff {P : Proc ε α} {f : α → Proc ε β} {b : β} :
    (P >>= f).Returns stream wrote b left ↔ ∃ wrote₁ a mid wrote₂,
      P.Returns stream wrote₁ a mid ∧ (f a).Returns mid wrote₂ b left ∧
      wrote = wrote₁ ++ wrote₂ := by
  unfold Returns
  rw [feed_bind]
  rcases hP : P.feed stream with ⟨wrote₁, mid, ending⟩
  cases ending with
  | ret a =>
    rcases hf : (f a).feed mid with ⟨wrote₂, left', ending⟩
    simp only [hf, Fed.after, Fed.mk.injEq, Ending.ret.injEq]
    constructor
    · rintro ⟨rfl, rfl, rfl⟩
      exact ⟨wrote₁, a, mid, wrote₂, ⟨rfl, rfl, rfl⟩, hf, rfl⟩
    · rintro ⟨_, _, _, wrote', ⟨rfl, rfl, rfl⟩, hf', rfl⟩
      rw [hf] at hf'
      cases hf'
      exact ⟨rfl, rfl, rfl⟩
  | fail e => simp
  | eof => simp

lemma returns_ret_iff {a b : α} :
    (ret a : Proc ε α).Returns stream wrote b left ↔ wrote = [] ∧ b = a ∧ left = stream := by
  simp only [Returns, feed, Fed.mk.injEq, Ending.ret.injEq]
  constructor
  · rintro ⟨rfl, rfl, rfl⟩
    exact ⟨rfl, rfl, rfl⟩
  · rintro ⟨rfl, rfl, rfl⟩
    exact ⟨rfl, rfl, rfl⟩

lemma not_returns_fail {e : ε} {a : α} : ¬(fail e : Proc ε α).Returns stream wrote a left := by
  simp [Returns, feed]

lemma returns_write_iff {bytes : List UInt8} {u : Unit} :
    (write bytes : Proc ε Unit).Returns stream wrote u left ↔ wrote = bytes ∧ left = stream := by
  simp only [Returns, write, feed, Fed.after, Fed.mk.injEq, List.append_nil, and_true]
  constructor
  · rintro ⟨rfl, rfl⟩
    exact ⟨rfl, rfl⟩
  · rintro ⟨rfl, rfl⟩
    exact ⟨rfl, rfl⟩

lemma returns_read_iff {n : ℕ} {bytes : List UInt8} :
    (read n : Proc ε (List UInt8)).Returns stream wrote bytes left ↔
      wrote = [] ∧ bytes.length = n ∧ stream = bytes ++ left := by
  simp only [Returns, read, feed]
  split
  case isTrue hlen =>
    simp only [Fed.mk.injEq, Ending.ret.injEq]
    constructor
    · rintro ⟨rfl, rfl, rfl⟩
      exact ⟨rfl, List.length_take_of_le hlen, (List.take_append_drop n stream).symm⟩
    · rintro ⟨rfl, rfl, rfl⟩
      simp
  case isFalse hlen =>
    simp only [Fed.mk.injEq, reduceCtorEq, and_false, false_iff, not_and]
    rintro - rfl rfl
    simp at hlen

lemma returns_ensure_iff {b : Bool} {e : ε} {u : Unit} :
    (ensure b e : Proc ε Unit).Returns stream wrote u left ↔
      b = true ∧ wrote = [] ∧ left = stream := by
  cases b with
  | true =>
    simp [ensure, returns_ret_iff]
  | false => simp [ensure, not_returns_fail]

/-- The steps of a program that writes one block. -/
lemma of_steps_write {bytes : List UInt8} {acts : List Act} {P : Proc ε Unit}
    (h : (write bytes).Steps acts P) :
    gotBytes acts = [] ∧ ((P = ret () ∧ bytes = wroteBytes acts) ∨
      ∃ rest, P = writeAll rest (ret ()) ∧ bytes = wroteBytes acts ++ rest) := by
  generalize hstart : write bytes = start at h
  induction h generalizing bytes with
  | nil P => exact ⟨rfl, .inr ⟨bytes, hstart.symm, rfl⟩⟩
  | cons hstep hsteps ih =>
    subst hstart
    cases hstep with
    | written =>
      cases hsteps with
      | nil => exact ⟨rfl, .inl ⟨rfl, rfl⟩⟩
      | cons hstep => cases hstep
    | write _ f rest _ hf hbytes =>
      obtain ⟨hgot, hwrote⟩ := @ih rest rfl
      refine ⟨hgot, ?_⟩
      rcases hwrote with ⟨rfl, hrest⟩ | ⟨left, rfl, hrest⟩
      · exact .inl ⟨rfl, by rw [hbytes, hrest, wroteBytes]⟩
      · exact .inr ⟨left, rfl, by rw [hbytes, hrest, wroteBytes, List.append_assoc]⟩

/-! The same with something to follow. -/

lemma returns_read_bind_iff {n : ℕ} {f : List UInt8 → Proc ε β} {b : β} :
    (read n >>= f).Returns stream wrote b left ↔
      ∃ bytes mid, bytes.length = n ∧ stream = bytes ++ mid ∧
        (f bytes).Returns mid wrote b left := by
  simp only [returns_bind_iff, returns_read_iff]
  constructor
  · rintro ⟨_, bytes, mid, _, ⟨rfl, hlen, hstream⟩, hf, rfl⟩
    exact ⟨bytes, mid, hlen, hstream, hf⟩
  · rintro ⟨bytes, mid, hlen, hstream, hf⟩
    exact ⟨[], bytes, mid, wrote, ⟨rfl, hlen, hstream⟩, hf, rfl⟩

/-- A read whose bytes are all that is returned. -/
lemma returns_read_ret_iff {n : ℕ} {f : List UInt8 → β} {b : β} :
    (read n >>= fun bytes => (ret (f bytes) : Proc ε β)).Returns stream wrote b left ↔
      wrote = [] ∧ ∃ bytes, bytes.length = n ∧ stream = bytes ++ left ∧ b = f bytes := by
  simp only [returns_read_bind_iff, returns_ret_iff]
  constructor
  · rintro ⟨bytes, mid, hlen, rfl, rfl, rfl, rfl⟩
    exact ⟨rfl, bytes, hlen, rfl, rfl⟩
  · rintro ⟨rfl, bytes, hlen, rfl, rfl⟩
    exact ⟨bytes, left, hlen, rfl, rfl, rfl, rfl⟩

lemma returns_ensure_bind_iff {c : Bool} {e : ε} {f : Unit → Proc ε β} {b : β} :
    (ensure c e >>= f).Returns stream wrote b left ↔
      c = true ∧ (f ()).Returns stream wrote b left := by
  cases c with
  | true => simp
  | false => simp [not_returns_fail]

lemma returns_write_bind_iff {bytes : List UInt8} {f : Unit → Proc ε β} {b : β} :
    (write bytes >>= f).Returns stream wrote b left ↔
      ∃ wrote', wrote = bytes ++ wrote' ∧ (f ()).Returns stream wrote' b left := by
  simp only [returns_bind_iff, returns_write_iff]
  constructor
  · rintro ⟨_, _, _, wrote', ⟨rfl, rfl⟩, hf, rfl⟩
    exact ⟨wrote', rfl, hf⟩
  · rintro ⟨wrote', rfl, hf⟩
    exact ⟨bytes, (), stream, wrote', ⟨rfl, rfl⟩, hf, rfl⟩

/-! ### Programs that only read -/

/-- The program writes nothing before it returns, and returns `a` exactly if the stream begins with
bytes of the grammar `G a`, which it reads. -/
def Reads (P : Proc ε α) (G : α → List UInt8 → Prop) : Prop :=
  ∀ stream wrote a left, P.Returns stream wrote a left ↔
    wrote = [] ∧ ∃ bytes, G a bytes ∧ stream = bytes ++ left

lemma Reads.bind_iff {P : Proc ε α} {G : α → List UInt8 → Prop} (hP : P.Reads G)
    {f : α → Proc ε β} {b : β} :
    (P >>= f).Returns stream wrote b left ↔
      ∃ a bytes mid, G a bytes ∧ stream = bytes ++ mid ∧ (f a).Returns mid wrote b left := by
  rw [returns_bind_iff]
  constructor
  · rintro ⟨_, a, mid, _, hret, hf, rfl⟩
    obtain ⟨rfl, bytes, hbytes, hstream⟩ := (hP _ _ _ _).mp hret
    exact ⟨a, bytes, mid, hbytes, hstream, hf⟩
  · rintro ⟨a, bytes, mid, hbytes, hstream, hf⟩
    exact ⟨[], a, mid, wrote, (hP _ _ _ _).mpr ⟨rfl, bytes, hbytes, hstream⟩, hf, rfl⟩

/-- The program writes nothing, whatever it reads. -/
def Silent (P : Proc ε α) : Prop := ∀ stream, (P.feed stream).wrote = []

lemma silent_ret (a : α) : (ret a : Proc ε α).Silent := fun _ => rfl

lemma silent_fail (e : ε) : (fail e : Proc ε α).Silent := fun _ => rfl

lemma silent_read (n : ℕ) : (read n : Proc ε (List UInt8)).Silent := by
  intro stream
  rw [read, feed]
  split <;> rfl

lemma silent_ensure (b : Bool) (e : ε) : (ensure b e).Silent := by
  cases b with
  | true => exact silent_ret ()
  | false => exact silent_fail e

lemma Silent.bind {P : Proc ε α} (hP : P.Silent) {f : α → Proc ε β} (hf : ∀ a, (f a).Silent) :
    (P >>= f).Silent := by
  intro stream
  rw [feed_bind]
  split
  case h_1 a _ => rw [Fed.after, hP stream, hf a, List.nil_append]
  case h_2 => exact hP stream
  case h_3 => exact hP stream

end Proc
