import Dandelion.Core.Party
import Dandelion.Core.Proc
import Mathlib.Logic.Relation
import Mathlib.Order.GameAdd

/-!
# Two programs joined by two streams

The programs of the two parties are run one fragment at a time, in any order. The order does not
matter: every run is finite, and all of them end in the same state.
-/

open Relation Function

/-- The programs of two parties, and the bytes each of them has written and its peer has not read
yet. -/
@[ext]
structure Duplex (ε : Type) (α : Party → Type) where
  procs : ∀ p, Proc ε (α p)
  chans : Party → List UInt8

namespace Duplex

variable {ε : Type} {α : Party → Type} {s t u : Duplex ε α}

/-- Party `p` has written a fragment. -/
def wrote (s : Duplex ε α) (p : Party) (P : Proc ε (α p)) (f : List UInt8) : Duplex ε α :=
  ⟨update s.procs p P, update s.chans p (s.chans p ++ f)⟩

/-- Party `p` has read a fragment, and `rest` is left for it to read. -/
def got (s : Duplex ε α) (p : Party) (P : Proc ε (α p)) (rest : List UInt8) : Duplex ε α :=
  ⟨update s.procs p P, update s.chans p.peer rest⟩

/-- One step of one of the parties. -/
inductive Step : Duplex ε α → Duplex ε α → Prop
  | wrote (s : Duplex ε α) (p : Party) (f : List UInt8) (P : Proc ε (α p))
      (h : (s.procs p).Step (.wrote f) P) : Step s (s.wrote p P f)
  | got (s : Duplex ε α) (p : Party) (f rest : List UInt8) (P : Proc ε (α p))
      (h : (s.procs p).Step (.got f) P) (hchan : s.chans p.peer = f ++ rest) :
      Step s (s.got p P rest)

/-! ### The order does not matter -/

lemma wrote_wrote (s : Duplex ε α) (p : Party) (P Q : Proc ε (α p)) (f g : List UInt8) :
    (s.wrote p P f).wrote p Q g = s.wrote p Q (f ++ g) := by
  simp [wrote]

lemma got_got (s : Duplex ε α) (p : Party) (P Q : Proc ε (α p)) (rest rest' : List UInt8) :
    (s.got p P rest).got p Q rest' = s.got p Q rest' := by
  simp [got]

/-- The common successor of two steps, if they are not the same step. -/
def Joins (t u : Duplex ε α) : Prop :=
  ∃ d, ReflGen Step t d ∧ ReflGen Step u d

lemma Joins.symm (h : Joins t u) : Joins u t := by
  obtain ⟨d, ht, hu⟩ := h
  exact ⟨d, hu, ht⟩

lemma joins_of_step (h : Step t u) : Joins t u := ⟨u, .single h, .refl⟩

lemma joins_wrote_wrote (s : Duplex ε α) (p : Party) {P Q : Proc ε (α p)} {f g : List UInt8}
    (hf : (s.procs p).Step (.wrote f) P) (hg : (s.procs p).Step (.wrote g) Q) :
    Joins (s.wrote p P f) (s.wrote p Q g) := by
  rcases hf.wrote_wrote hg with ⟨rfl, rfl⟩ | ⟨h, rfl, hstep⟩ | ⟨h, rfl, hstep⟩
  · exact ⟨_, .refl, .refl⟩
  · rw [← wrote_wrote s p P Q]
    exact joins_of_step (.wrote _ p h Q (by simpa [wrote] using hstep))
  · rw [← wrote_wrote s p Q P]
    exact (joins_of_step (.wrote _ p h P (by simpa [wrote] using hstep))).symm

lemma joins_got_got (s : Duplex ε α) (p : Party) {P Q : Proc ε (α p)}
    {f g rest rest' : List UInt8} (hf : (s.procs p).Step (.got f) P)
    (hg : (s.procs p).Step (.got g) Q) (hchan : s.chans p.peer = f ++ rest)
    (hchan' : s.chans p.peer = g ++ rest') :
    Joins (s.got p P rest) (s.got p Q rest') := by
  rcases hf.got_got hg (hchan.symm.trans hchan') with ⟨rfl, rfl⟩ | ⟨h, rfl, hstep⟩ | ⟨h, rfl, hstep⟩
  · rw [hchan, List.append_cancel_left_eq] at hchan'
    rw [hchan']
    exact ⟨_, .refl, .refl⟩
  · rw [hchan, List.append_assoc, List.append_cancel_left_eq] at hchan'
    rw [← got_got s p P Q rest]
    exact joins_of_step
      (.got _ p h rest' Q (by simpa [got] using hstep) (by simpa [got] using hchan'))
  · rw [hchan', List.append_assoc, List.append_cancel_left_eq] at hchan
    rw [← got_got s p Q P rest']
    exact (joins_of_step
      (.got _ p h rest P (by simpa [got] using hstep) (by simpa [got] using hchan))).symm

lemma joins_wrote_wrote_peer (s : Duplex ε α) (p : Party) {P : Proc ε (α p)}
    {Q : Proc ε (α p.peer)} {f g : List UInt8} (hf : (s.procs p).Step (.wrote f) P)
    (hg : (s.procs p.peer).Step (.wrote g) Q) :
    Joins (s.wrote p P f) (s.wrote p.peer Q g) := by
  have hcomm : (s.wrote p P f).wrote p.peer Q g = (s.wrote p.peer Q g).wrote p P f := by
    simp [wrote, update_comm p.ne_peer]
  refine ⟨(s.wrote p P f).wrote p.peer Q g, .single (.wrote _ _ g Q ?_), ?_⟩
  · simpa [wrote] using hg
  · rw [hcomm]
    exact .single (.wrote _ p f P (by simpa [wrote] using hf))

lemma joins_wrote_got_peer (s : Duplex ε α) (p : Party) {P : Proc ε (α p)}
    {Q : Proc ε (α p.peer)} {f g rest : List UInt8} (hf : (s.procs p).Step (.wrote f) P)
    (hg : (s.procs p.peer).Step (.got g) Q) (hchan : s.chans p = g ++ rest) :
    Joins (s.wrote p P f) (s.got p.peer Q rest) := by
  have hcomm : (s.wrote p P f).got p.peer Q (rest ++ f) = (s.got p.peer Q rest).wrote p P f := by
    simp [wrote, got, update_comm p.ne_peer]
  refine ⟨(s.wrote p P f).got p.peer Q (rest ++ f), .single (.got _ _ g _ Q ?_ ?_), ?_⟩
  · simpa [wrote] using hg
  · simp [wrote, hchan]
  · rw [hcomm]
    exact .single (.wrote _ p f P (by simpa [got] using hf))

lemma joins_got_got_peer (s : Duplex ε α) (p : Party) {P : Proc ε (α p)}
    {Q : Proc ε (α p.peer)} {f g rest rest' : List UInt8} (hf : (s.procs p).Step (.got f) P)
    (hg : (s.procs p.peer).Step (.got g) Q) (hchan : s.chans p.peer = f ++ rest)
    (hchan' : s.chans p = g ++ rest') :
    Joins (s.got p P rest) (s.got p.peer Q rest') := by
  have hcomm : (s.got p P rest).got p.peer Q rest' = (s.got p.peer Q rest').got p P rest := by
    simp [got, update_comm p.ne_peer]
  refine ⟨(s.got p P rest).got p.peer Q rest', .single (.got _ _ g _ Q ?_ ?_), ?_⟩
  · simpa [got] using hg
  · simpa [got] using hchan'
  · rw [hcomm]
    refine .single (.got _ p f rest P ?_ ?_)
    · simpa [got] using hf
    · simpa [got] using hchan

/-- Two steps from one state have a common successor. -/
lemma joins_of_steps (ht : Step s t) (hu : Step s u) : Joins t u := by
  cases ht with
  | wrote p f P hf =>
    cases hu with
    | wrote q g Q hg =>
      rcases p.eq_or_eq_peer q with rfl | rfl
      · exact joins_wrote_wrote s q hf hg
      · exact joins_wrote_wrote_peer s p hf hg
    | got q g rest Q hg hchan =>
      rcases p.eq_or_eq_peer q with rfl | rfl
      · exact absurd hg hf.not_wrote_got
      · rw [Party.peer_peer] at hchan
        exact joins_wrote_got_peer s p hf hg hchan
  | got p f rest P hf hchan =>
    cases hu with
    | wrote q g Q hg =>
      rcases q.eq_or_eq_peer p with rfl | rfl
      · exact absurd hf hg.not_wrote_got
      · rw [Party.peer_peer] at hchan
        exact (joins_wrote_got_peer s q hg hf hchan).symm
    | got q g rest' Q hg hchan' =>
      rcases p.eq_or_eq_peer q with rfl | rfl
      · exact joins_got_got s q hf hg hchan hchan'
      · rw [Party.peer_peer] at hchan'
        exact joins_got_got_peer s p hf hg hchan hchan'

/-! ### Every run ends -/

lemma acc_step (s : Duplex ε α) : Acc (fun t s => Step s t) s := by
  have hacc : Acc (Prod.GameAdd Proc.Rest Proc.Rest) (s.procs .left, s.procs .right) :=
    (Proc.acc_rest (s.procs .left)).prod_gameAdd (Proc.acc_rest (s.procs .right))
  generalize hx : (s.procs .left, s.procs .right) = x at hacc
  induction hacc generalizing s with
  | intro x _ ih =>
    subst hx
    refine ⟨_, fun t hstep => ih _ ?_ t rfl⟩
    cases hstep with
    | wrote p f P h =>
      cases p with
      | left => exact .fst ⟨_, h⟩
      | right => exact .snd ⟨_, h⟩
    | got p f rest P h hchan =>
      cases p with
      | left => exact .fst ⟨_, h⟩
      | right => exact .snd ⟨_, h⟩

/-- Every run from `s` is finite, and ends in `t`. -/
def EndsIn (s t : Duplex ε α) : Prop :=
  Acc (fun v u => Step u v) s ∧ ∀ u, ReflTransGen Step s u → (∀ v, ¬Step u v) → u = t

/-- If one run ends in a state then all of them do. -/
theorem endsIn_of_reflTransGen (h : ReflTransGen Step s t) (hend : ∀ u, ¬Step t u) :
    s.EndsIn t := by
  refine ⟨acc_step s, fun u hu hstuck => ?_⟩
  have hdiamond (a b c : Duplex ε α) (hab : Step a b) (hac : Step a c) :
      ∃ d, ReflGen Step b d ∧ ReflTransGen Step c d := by
    obtain ⟨d, hb, hc⟩ := joins_of_steps hab hac
    exact ⟨d, hb, hc.to_reflTransGen⟩
  obtain ⟨d, hud, htd⟩ := church_rosser hdiamond hu h
  rw [reflTransGen_iff_eq hstuck] at hud
  rw [reflTransGen_iff_eq hend] at htd
  exact hud.symm.trans htd

lemma not_step_of_stuck (h : ∀ p, (s.procs p).Stuck (s.chans p.peer)) (t : Duplex ε α) :
    ¬Step s t := by
  intro hstep
  cases hstep with
  | wrote p f P hf =>
    obtain ⟨_, heq, -⟩ := h p _ _ hf
    cases heq
  | got p f rest P hf hchan =>
    obtain ⟨f, heq, hne⟩ := h p _ _ hf
    cases heq
    exact hne rest hchan

/-! ### Whole blocks -/

/-- The state with the given programs and unread bytes of the left and the right party. -/
def join (l : Proc ε (α .left)) (r : Proc ε (α .right)) (toRight toLeft : List UInt8) :
    Duplex ε α where
  procs
    | .left  => l
    | .right => r
  chans
    | .left  => toRight
    | .right => toLeft

lemma writeAll_steps {p : Party} {bytes : List UInt8} {next : Proc ε (α p)}
    (h : s.procs p = .writeAll bytes next) : ReflTransGen Step s (s.wrote p next bytes) := by
  rcases eq_or_ne bytes [] with rfl | hne
  · exact .single (.wrote s p [] next (h ▸ .written next))
  · have hfirst : Step s (s.wrote p (.writeAll [] next) bytes) :=
      .wrote s p bytes _ (h ▸ .write _ bytes [] next hne (by simp))
    have hlast := Step.wrote (s.wrote p (.writeAll [] next) bytes) p [] next
      (by simpa [wrote] using Proc.Step.written next)
    rw [wrote_wrote, List.append_nil] at hlast
    exact .tail (.single hfirst) hlast

lemma readExact_steps {p : Party} {bytes rest : List UInt8} {next : List UInt8 → Proc ε (α p)}
    (h : s.procs p = .readExact bytes.length next) (hchan : s.chans p.peer = bytes ++ rest) :
    ReflTransGen Step s (s.got p (next bytes) rest) := by
  rcases eq_or_ne bytes [] with rfl | hne
  · exact .single (.got s p [] rest _ (h ▸ .filled next) hchan)
  · have hread := Proc.Step.read bytes.length bytes next hne le_rfl
    rw [Nat.sub_self, ← h] at hread
    have hfirst := Step.got s p bytes rest _ hread hchan
    have hfilled := Proc.Step.filled fun tail => next (bytes ++ tail)
    rw [List.append_nil] at hfilled
    have hlast := Step.got (s.got p (.readExact 0 fun tail => next (bytes ++ tail)) rest) p [] rest
      (next bytes) (by simpa [got] using hfilled) (by simp [got])
    rw [got_got] at hlast
    exact .tail (.single hfirst) hlast

section

variable {l : Proc ε (α .left)} {r : Proc ε (α .right)} {toRight toLeft : List UInt8}

lemma left_writeAll (bytes : List UInt8) :
    ReflTransGen Step (join (.writeAll bytes l) r toRight toLeft)
      (join l r (toRight ++ bytes) toLeft) := by
  have hsteps := writeAll_steps (s := join (.writeAll bytes l) r toRight toLeft) (p := .left) rfl
  rwa [show wrote _ .left l bytes = join l r (toRight ++ bytes) toLeft by ext (_ | _) <;> rfl]
    at hsteps

lemma right_writeAll (bytes : List UInt8) :
    ReflTransGen Step (join l (.writeAll bytes r) toRight toLeft)
      (join l r toRight (toLeft ++ bytes)) := by
  have hsteps := writeAll_steps (s := join l (.writeAll bytes r) toRight toLeft) (p := .right) rfl
  rwa [show wrote _ .right r bytes = join l r toRight (toLeft ++ bytes) by ext (_ | _) <;> rfl]
    at hsteps

lemma left_readExact {n : ℕ} (bytes : List UInt8) (hn : bytes.length = n)
    (next : List UInt8 → Proc ε (α .left)) :
    ReflTransGen Step (join (.readExact n next) r toRight (bytes ++ toLeft))
      (join (next bytes) r toRight toLeft) := by
  subst hn
  have hsteps := readExact_steps
    (s := join (.readExact bytes.length next) r toRight (bytes ++ toLeft)) (p := .left) rfl rfl
  rwa [show got _ .left (next bytes) toLeft = join (next bytes) r toRight toLeft by
    ext (_ | _) <;> rfl] at hsteps

lemma right_readExact {n : ℕ} (bytes : List UInt8) (hn : bytes.length = n)
    (next : List UInt8 → Proc ε (α .right)) :
    ReflTransGen Step (join l (.readExact n next) (bytes ++ toRight) toLeft)
      (join l (next bytes) toRight toLeft) := by
  subst hn
  have hsteps := readExact_steps
    (s := join l (.readExact bytes.length next) (bytes ++ toRight) toLeft) (p := .right) rfl rfl
  rwa [show got _ .right (next bytes) toRight = join l (next bytes) toRight toLeft by
    ext (_ | _) <;> rfl] at hsteps

/-- A conversation of the left party for which all it reads is there. -/
lemma left_talks {l' : Proc ε (α .left)} {acts : List Proc.Act} (h : l.Talks acts l') :
    ReflTransGen Step (join l r toRight (Proc.gotBytes acts ++ toLeft))
      (join l' r (toRight ++ Proc.wroteBytes acts) toLeft) := by
  induction h generalizing toRight with
  | done P => simpa [Proc.gotBytes, Proc.wroteBytes] using ReflTransGen.refl
  | wrote bytes _ ih =>
    apply (left_writeAll bytes).trans
    simpa [Proc.gotBytes, Proc.wroteBytes] using @ih (toRight ++ bytes)
  | got bytes hn _ ih =>
    rw [Proc.gotBytes, List.append_assoc]
    exact (left_readExact bytes hn _).trans ih

/-- A conversation of the right party for which all it reads is there. -/
lemma right_talks {r' : Proc ε (α .right)} {acts : List Proc.Act} (h : r.Talks acts r') :
    ReflTransGen Step (join l r (Proc.gotBytes acts ++ toRight) toLeft)
      (join l r' toRight (toLeft ++ Proc.wroteBytes acts)) := by
  induction h generalizing toLeft with
  | done P => simpa [Proc.gotBytes, Proc.wroteBytes] using ReflTransGen.refl
  | wrote bytes _ ih =>
    apply (right_writeAll bytes).trans
    simpa [Proc.gotBytes, Proc.wroteBytes] using @ih (toLeft ++ bytes)
  | got bytes hn _ ih =>
    rw [Proc.gotBytes, List.append_assoc]
    exact (right_readExact bytes hn _).trans ih

end

end Duplex
