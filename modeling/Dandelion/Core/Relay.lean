import Dandelion.Core.Party
import Dandelion.Core.Tasks
import Mathlib.Logic.Function.Basic

/-!
# Copying in both directions

Two streams are joined by a relay, as `copy_bidirectional` of `tokio` documents it. What is read
from one of them is kept in a buffer until it is written to the other one. When a stream ends, the
rest of its buffer is written and the other stream is shut down; the relay is over when that has
happened in both directions. Which direction goes on is left open.
-/

open Function

/-- How far the copy of one direction is. -/
inductive Direction where
  /-- The bytes that were read and not written yet, and whether the stream has ended. -/
  | running (buffer : List UInt8) (readDone : Bool)
  /-- The other stream is shut down. -/
  | done
deriving DecidableEq

/-- The direction of a party carries what is read from it to its peer. -/
abbrev Relay : Type := Party → Direction

namespace Relay

def new : Relay := fun _ => .running [] false

inductive Act where
  /-- A fragment is read from a party. -/
  | read (p : Party) (fragment : List UInt8)
  /-- The stream of a party has ended. -/
  | eof (p : Party)
  /-- A fragment that was read from a party is written to its peer. -/
  | wrote (p : Party) (fragment : List UInt8)
  /-- After the end of the stream of a party its peer is shut down. -/
  | shutdown (p : Party)
deriving DecidableEq

/-- One step of one of the directions, with buffers of the given size. -/
inductive Step (capacity : ℕ) : Relay → Act → Relay → Prop
  /-- Both streams are read from, as long as there is room in the buffer of the direction. -/
  | read (r : Relay) (p : Party) (buffer f : List UInt8) (h : r p = .running buffer false)
      (hf : f ≠ []) (hle : buffer.length + f.length ≤ capacity) :
      Step capacity r (.read p f) (update r p (.running (buffer ++ f) false))
  /-- Reading from a stream stops when it has ended. -/
  | eof (r : Relay) (p : Party) (buffer : List UInt8) (h : r p = .running buffer false) :
      Step capacity r (.eof p) (update r p (.running buffer true))
  /-- Any data that was read is written to the opposing stream, in order. -/
  | wrote (r : Relay) (p : Party) (f rest : List UInt8) (readDone : Bool)
      (h : r p = .running (f ++ rest) readDone) (hf : f ≠ []) :
      Step capacity r (.wrote p f) (update r p (.running rest readDone))
  /-- The opposing stream is shut down after the end of a stream, when its data was written. -/
  | shutdown (r : Relay) (p : Party) (h : r p = .running [] true) :
      Step capacity r (.shutdown p) (update r p .done)

/-- A relay completes once both directions have been shut down. -/
def IsDone (r : Relay) : Prop := ∀ p, r p = .done

/-! ### What was read and written -/

def Act.bytesRead (p : Party) : Act → List UInt8
  | .read q f => if q = p then f else []
  | _         => []

def Act.bytesWritten (p : Party) : Act → List UInt8
  | .wrote q f => if q = p then f else []
  | _          => []

/-- The bytes that were read from a party. -/
def bytesRead (p : Party) (acts : List Act) : List UInt8 := acts.flatMap (Act.bytesRead p)

/-- The bytes that were read from a party and were written to its peer. -/
def bytesWritten (p : Party) (acts : List Act) : List UInt8 := acts.flatMap (Act.bytesWritten p)

@[simp] lemma bytesRead_nil (p : Party) : bytesRead p [] = [] := rfl

@[simp] lemma bytesWritten_nil (p : Party) : bytesWritten p [] = [] := rfl

@[simp] lemma bytesRead_append (p : Party) (acts acts' : List Act) :
    bytesRead p (acts ++ acts') = bytesRead p acts ++ bytesRead p acts' := by
  simp [bytesRead]

@[simp] lemma bytesWritten_append (p : Party) (acts acts' : List Act) :
    bytesWritten p (acts ++ acts') = bytesWritten p acts ++ bytesWritten p acts' := by
  simp [bytesWritten]

@[simp] lemma bytesRead_singleton (p : Party) (a : Act) : bytesRead p [a] = a.bytesRead p := by
  simp [bytesRead]

@[simp] lemma bytesWritten_singleton (p : Party) (a : Act) :
    bytesWritten p [a] = a.bytesWritten p := by
  simp [bytesWritten]

/-- What is known of a direction after a list of actions. -/
def Copied (capacity : ℕ) (p : Party) (acts : List Act) : Direction → Prop
  | .running buffer readDone =>
    bytesRead p acts = bytesWritten p acts ++ buffer ∧ buffer.length ≤ capacity ∧
      (.eof p ∈ acts ↔ readDone = true) ∧ .shutdown p ∉ acts
  | .done => bytesRead p acts = bytesWritten p acts ∧ .eof p ∈ acts ∧ .shutdown p ∈ acts

variable {capacity : ℕ} {p q : Party} {acts : List Act} {a : Act} {r r' : Relay}

lemma copied_new (p : Party) : Copied capacity p [] (new p) := by
  simp [Copied, new]

/-- The actions of the other direction do not matter. -/
lemma Copied.of_ne {d : Direction} (h : Copied capacity p acts d) (hread : a.bytesRead p = [])
    (hwrote : a.bytesWritten p = []) (heof : a ≠ .eof p) (hshutdown : a ≠ .shutdown p) :
    Copied capacity p (acts ++ [a]) d := by
  cases d with
  | running buffer readDone => simpa [Copied, hread, hwrote, heof.symm, hshutdown.symm] using h
  | done => simpa [Copied, hread, hwrote, heof.symm, hshutdown.symm] using h

lemma Step.copied (hstep : Step capacity r a r')
    (h : ∀ p, Copied capacity p acts (r p)) (p : Party) :
    Copied capacity p (acts ++ [a]) (r' p) := by
  have hp := h p
  cases hstep with
  | read q buffer f hq hf hle =>
    by_cases hpq : p = q
    · subst hpq
      rw [hq] at hp
      obtain ⟨hread, -, heof, hshutdown⟩ := hp
      simp [Copied, Act.bytesRead, Act.bytesWritten, hread, hle, hshutdown, heof]
    · rw [update_of_ne hpq]
      exact hp.of_ne (if_neg (Ne.symm hpq)) rfl (by simp) (by simp)
  | eof q buffer hq =>
    by_cases hpq : p = q
    · subst hpq
      rw [hq] at hp
      obtain ⟨hread, hle, -, hshutdown⟩ := hp
      simp [Copied, Act.bytesRead, Act.bytesWritten, hread, hle, hshutdown]
    · rw [update_of_ne hpq]
      exact hp.of_ne rfl rfl (by simpa using Ne.symm hpq) (by simp)
  | wrote q f rest readDone hq hf =>
    by_cases hpq : p = q
    · subst hpq
      rw [hq] at hp
      obtain ⟨hread, hle, heof, hshutdown⟩ := hp
      rw [List.length_append] at hle
      simp [Copied, Act.bytesRead, Act.bytesWritten, hread, hshutdown, heof]
      omega
    · rw [update_of_ne hpq]
      exact hp.of_ne rfl (if_neg (Ne.symm hpq)) (by simp) (by simp)
  | shutdown q hq =>
    by_cases hpq : p = q
    · subst hpq
      rw [hq] at hp
      obtain ⟨hread, hle, heof, -⟩ := hp
      simp [Copied, Act.bytesRead, Act.bytesWritten, hread, heof]
    · rw [update_of_ne hpq]
      exact hp.of_ne rfl rfl (by simp) (by simpa using Ne.symm hpq)

/-- The actions of a relay from its start. -/
abbrev Runs (capacity : ℕ) : List Act → Relay → Prop := Tasks.Reaches (Step capacity) new

lemma Runs.copied (h : Runs capacity acts r) (p : Party) : Copied capacity p acts (r p) := by
  induction h generalizing p with
  | refl => exact copied_new p
  | tail _ hstep ih => exact hstep.copied ih p

/-- What is written is what was read, but for what is in the buffer. -/
lemma Runs.bytesWritten_prefix (h : Runs capacity acts r) (p : Party) :
    ∃ rest, bytesRead p acts = bytesWritten p acts ++ rest ∧ rest.length ≤ capacity := by
  have hp := h.copied p
  cases hd : r p with
  | running buffer readDone =>
    rw [hd] at hp
    exact ⟨buffer, hp.1, hp.2.1⟩
  | done =>
    rw [hd] at hp
    exact ⟨[], by simpa using hp.1, by simp⟩

/-- A stream is shut down only after the other one has ended and all of it was written. -/
lemma Runs.of_shutdown (h : Runs capacity acts r) (hp : Act.shutdown p ∈ acts) :
    bytesRead p acts = bytesWritten p acts ∧ Act.eof p ∈ acts := by
  have hcopied := h.copied p
  cases hd : r p with
  | running buffer readDone =>
    rw [hd] at hcopied
    exact absurd hp hcopied.2.2.2
  | done =>
    rw [hd] at hcopied
    exact ⟨hcopied.1, hcopied.2.1⟩

lemma Runs.shutdown_of_isDone (h : Runs capacity acts r) (hdone : r.IsDone) (p : Party) :
    Act.shutdown p ∈ acts := by
  have hcopied := h.copied p
  rw [hdone p] at hcopied
  exact hcopied.2.2

/-! ### Relays that are done -/

/-- Whatever a party sends can be passed on byte by byte. -/
lemma exists_copies (hcapacity : 0 < capacity) (h : r p = .running [] false)
    (bytes : List UInt8) :
    ∃ acts, Tasks.Reaches (Step capacity) r acts r ∧ bytesRead p acts = bytes ∧
      bytesRead p.peer acts = [] := by
  induction bytes with
  | nil => exact ⟨[], .refl, rfl, rfl⟩
  | cons b bytes ih =>
    obtain ⟨acts, hreaches, hread, hpeer⟩ := ih
    have hfirst : Step capacity r (.read p [b]) (update r p (.running [b] false)) :=
      .read r p [] [b] h (by simp) hcapacity
    have hsecond : Step capacity (update r p (.running [b] false)) (.wrote p [b])
        (update (update r p (.running [b] false)) p (.running [] false)) :=
      .wrote _ p [b] [] false (by simp) (by simp)
    rw [update_idem, ← h, update_eq_self] at hsecond
    refine ⟨_, ((Tasks.Reaches.refl.tail hfirst).tail hsecond).trans hreaches, ?_, ?_⟩
    · rw [bytesRead_append, hread]
      simp [bytesRead, Act.bytesRead]
    · rw [bytesRead_append, hpeer]
      simp [bytesRead, Act.bytesRead]

/-- After the end of the stream the peer is shut down. -/
lemma exists_shutdown (h : r p = .running [] false) :
    Tasks.Reaches (Step capacity) r [.eof p, .shutdown p] (update r p .done) := by
  have hfirst : Step capacity r (.eof p) (update r p (.running [] true)) := .eof r p [] h
  have hsecond : Step capacity (update r p (.running [] true)) (.shutdown p)
      (update (update r p (.running [] true)) p .done) := .shutdown _ p (by simp)
  rw [update_idem] at hsecond
  exact (Tasks.Reaches.refl.tail hfirst).tail hsecond

/-- A direction can be brought to its end: what is in its buffer is written. -/
lemma exists_direction_done (capacity : ℕ) (r : Relay) (p : Party) :
    ∃ acts, Tasks.Reaches (Step capacity) r acts (update r p .done) := by
  have hwritten : ∀ buffer readDone, r p = .running buffer readDone →
      ∃ acts, Tasks.Reaches (Step capacity) r acts (update r p (.running [] readDone)) := by
    intro buffer readDone h
    cases buffer with
    | nil =>
      refine ⟨[], ?_⟩
      rw [← h, update_eq_self]
      exact .refl
    | cons b bytes =>
      exact ⟨_, Tasks.Reaches.refl.tail
        (.wrote r p (b :: bytes) [] readDone (by simpa using h) (by simp))⟩
  cases h : r p with
  | done =>
    refine ⟨[], ?_⟩
    rw [← h, update_eq_self]
    exact .refl
  | running buffer readDone =>
    obtain ⟨acts, hacts⟩ := hwritten buffer readDone h
    cases readDone with
    | false =>
      have hlast : Tasks.Reaches (Step capacity) (update r p (.running [] false))
          [.eof p, .shutdown p] (update (update r p (.running [] false)) p .done) :=
        exists_shutdown (by simp)
      rw [update_idem] at hlast
      exact ⟨_, hacts.trans hlast⟩
    | true =>
      have hlast : Step capacity (update r p (.running [] true)) (.shutdown p) _ :=
        .shutdown _ p (by simp)
      rw [update_idem] at hlast
      exact ⟨_, hacts.tail hlast⟩

/-- A relay is never stuck: when both streams end, it can be done. -/
lemma exists_isDone (capacity : ℕ) (r : Relay) :
    ∃ acts r', Tasks.Reaches (Step capacity) r acts r' ∧ r'.IsDone := by
  obtain ⟨acts, hleft⟩ := exists_direction_done capacity r .left
  obtain ⟨acts', hright⟩ := exists_direction_done capacity (update r .left .done) .right
  refine ⟨_, _, hleft.trans hright, ?_⟩
  rintro (_ | _) <;> rfl

/-- Whatever the two parties send, a relay can pass it on and be done. -/
lemma exists_done (hcapacity : 0 < capacity) (left right : List UInt8) :
    ∃ acts r, Runs capacity acts r ∧ r.IsDone ∧ bytesRead .left acts = left ∧
      bytesRead .right acts = right := by
  obtain ⟨acts, hleft, hread, hpeer⟩ := exists_copies (p := .left) hcapacity (r := new) rfl left
  obtain ⟨acts', hright, hread', hpeer'⟩ :=
    exists_copies (p := .right) hcapacity (r := new) rfl right
  have hcopies := (hleft.trans hright).trans (exists_shutdown (p := .left) rfl)
  have hdone := hcopies.trans (exists_shutdown (p := .right) rfl)
  refine ⟨_, _, hdone, ?_, ?_, ?_⟩
  · rintro (_ | _) <;> rfl
  · simp_all [bytesRead, Act.bytesRead, Party.peer]
  · simp_all [bytesRead, Act.bytesRead, Party.peer]

end Relay
