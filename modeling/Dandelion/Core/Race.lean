import Dandelion.Core.Poll
import Mathlib.Data.List.Forall2

/-!
# Races of futures

Futures that may fail run against each other. `select_ok` of the `futures` crate is documented to
take the first success, or the last failure if there is none, and to panic without futures. What
follows holds of every such implementation, in whatever order it polls the futures.

A future is a state that is polled with an input, the environment of the poll. Futures are named by
their place in the list the race was made of, and those that have left it are kept on record.
-/

variable {σ ι ε α : Type*}

/-- A future in a race. -/
structure Racer (σ : Type*) where
  id : ℕ
  future : σ
deriving DecidableEq

/-- A future that has left the race, with its result. -/
structure Finish (σ ε α : Type*) where
  id : ℕ
  future : σ
  result : Except ε α

structure Race (σ ε α : Type*) where
  inner : List (Racer σ)
  /-- Those that have left the race, the last one first. -/
  finished : List (Finish σ ε α)

namespace Race

/-- The futures with their names, counted from `n`. -/
def start : ℕ → List σ → List (Racer σ)
  | _, []      => []
  | n, f :: fs => ⟨n, f⟩ :: start (n + 1) fs

variable (fut : σ → ι → σ × Poll (Except ε α)) (i : ι)

/-! ### One poll -/

/-- The future was polled and is pending. -/
structure Waits (r r' : Racer σ) : Prop where
  id_eq : r'.id = r.id
  poll_eq : fut r.future i = (r'.future, .pending)

/-- The future was not polled, or it is pending. -/
def Stays (r r' : Racer σ) : Prop := r' = r ∨ Waits fut i r r'

/-- A future that is ready leaves the race, and the others stay. -/
inductive Leaves : List (Racer σ) → Finish σ ε α → List (Racer σ) → Prop
  | mk {before before' after after' : List (Racer σ)} {r : Racer σ} {fin : Finish σ ε α}
      (hbefore : List.Forall₂ (Stays fut i) before before')
      (hafter : List.Forall₂ (Stays fut i) after after') (hid : fin.id = r.id)
      (hready : fut r.future i = (fin.future, .ready fin.result)) :
      Leaves (before ++ r :: after) fin (before' ++ after')

/-- What a poll of a race can do. -/
inductive Polls : Race σ ε α → Race σ ε α → Poll (Except ε α) → Prop
  | pending {race : Race σ ε α} {inner : List (Racer σ)}
      (hwait : List.Forall₂ (Waits fut i) race.inner inner) (hne : inner ≠ []) :
      Polls race ⟨inner, race.finished⟩ .pending
  | won {race : Race σ ε α} {inner : List (Racer σ)} {fin : Finish σ ε α} {a : α}
      (hleave : Leaves fut i race.inner fin inner) (hok : fin.result = .ok a) :
      Polls race ⟨inner, fin :: race.finished⟩ (.ready (.ok a))
  | lost {race : Race σ ε α} {fin : Finish σ ε α} {e : ε}
      (hleave : Leaves fut i race.inner fin []) (herror : fin.result = .error e) :
      Polls race ⟨[], fin :: race.finished⟩ (.ready (.error e))
  | again {race race' : Race σ ε α} {inner : List (Racer σ)} {fin : Finish σ ε α} {e : ε}
      {answer : Poll (Except ε α)} (hleave : Leaves fut i race.inner fin inner)
      (herror : fin.result = .error e) (h : Polls ⟨inner, fin :: race.finished⟩ race' answer) :
      Polls race race' answer

end Race

/-- An implementation of races, and what is relied on of it. -/
structure SelectOk (σ ι ε α : Type*) where
  selectOk : List σ → Option (Race σ ε α)
  poll : (σ → ι → σ × Poll (Except ε α)) → ι → Race σ ε α → Race σ ε α × Poll (Except ε α)
  /-- A race needs a future; it panics without one. -/
  selectOk_eq_none_iff : ∀ futures, selectOk futures = none ↔ futures = []
  /-- All futures take part. -/
  eq_of_selectOk : ∀ futures race, selectOk futures = some race → race = ⟨Race.start 0 futures, []⟩
  /-- A poll goes on until no future is ready, one has succeeded, or all have failed. -/
  polls : ∀ fut i race, race.inner ≠ [] →
    Race.Polls fut i race (poll fut i race).1 (poll fut i race).2

/-- A race is polled until it is ready. -/
def SelectOk.run (select : SelectOk σ ι ε α) (fut : σ → ι → σ × Poll (Except ε α)) :
    Race σ ε α → List ι → Race σ ε α × Poll (Except ε α)
  | race, []      => (race, .pending)
  | race, i :: is =>
    match select.poll fut i race with
    | (race, .pending)      => select.run fut race is
    | (race, .ready result) => (race, .ready result)

namespace Race

variable {fut : σ → ι → σ × Poll (Except ε α)} {i : ι} {select : SelectOk σ ι ε α}

/-! ### Who takes part -/

/-- The names of all futures, in the race or not. -/
def ids (race : Race σ ε α) : List ℕ :=
  race.inner.map Racer.id ++ race.finished.map Finish.id

lemma map_id_of_stays {inner inner' : List (Racer σ)}
    (h : List.Forall₂ (Stays fut i) inner inner') :
    inner'.map Racer.id = inner.map Racer.id := by
  induction h with
  | nil => rfl
  | cons hstays _ ih =>
    rw [List.map_cons, List.map_cons, ih]
    rcases hstays with rfl | hwait
    · rfl
    · rw [hwait.id_eq]

lemma map_id_of_waits {inner inner' : List (Racer σ)}
    (h : List.Forall₂ (Waits fut i) inner inner') :
    inner'.map Racer.id = inner.map Racer.id :=
  map_id_of_stays (h.imp fun _ _ => .inr)

lemma Leaves.perm {inner inner' : List (Racer σ)} {fin : Finish σ ε α}
    (h : Leaves fut i inner fin inner') (finished : List (Finish σ ε α)) :
    (ids ⟨inner', fin :: finished⟩).Perm (ids ⟨inner, finished⟩) := by
  cases h with
  | @mk before before' after after' r _ hbefore hafter hid hready =>
    simp only [ids, List.map_append, List.map_cons, map_id_of_stays hbefore,
      map_id_of_stays hafter, hid, List.append_assoc, List.cons_append]
    exact List.perm_middle.append_left (before.map Racer.id)

/-- No future is lost, and none takes part twice. -/
lemma Polls.perm {race race' : Race σ ε α} {answer : Poll (Except ε α)}
    (h : Polls fut i race race' answer) : race'.ids.Perm race.ids := by
  induction h with
  | pending hwait => rw [ids, ids, map_id_of_waits hwait]
  | won hleave => exact hleave.perm _
  | lost hleave => exact hleave.perm _
  | again hleave _ _ ih => exact ih.trans (hleave.perm _)

lemma map_id_start (n : ℕ) (futures : List σ) :
    (start n futures).map Racer.id = List.range' n futures.length := by
  induction futures generalizing n with
  | nil => rfl
  | cons f fs ih => rw [start, List.map_cons, ih, List.length_cons, List.range'_succ]

lemma getElem?_of_mem_start {n : ℕ} {futures : List σ} {r : Racer σ} (h : r ∈ start n futures) :
    n ≤ r.id ∧ futures[r.id - n]? = some r.future := by
  induction futures generalizing n with
  | nil => cases h
  | cons f fs ih =>
    rcases List.mem_cons.mp h with rfl | h
    · simp
    · obtain ⟨hle, hget⟩ := ih h
      refine ⟨by omega, ?_⟩
      rw [show r.id - n = r.id - (n + 1) + 1 by omega, List.getElem?_cons_succ, hget]

lemma of_selectOk {futures : List σ} {race : Race σ ε α}
    (h : select.selectOk futures = some race) :
    futures ≠ [] ∧ race = ⟨start 0 futures, []⟩ := by
  refine ⟨?_, select.eq_of_selectOk futures race h⟩
  intro hnil
  rw [(select.selectOk_eq_none_iff futures).mpr hnil] at h
  cases h

lemma ids_selectOk {futures : List σ} {race : Race σ ε α}
    (h : select.selectOk futures = some race) : race.ids = List.range futures.length := by
  obtain ⟨-, rfl⟩ := of_selectOk h
  rw [ids, map_id_start, List.map_nil, List.append_nil, List.range_eq_range']

/-! ### What the futures have in common -/

/-- What is known of the futures in a race, and of those that have left it. -/
structure Holds (Live : ℕ → σ → Prop) (Done : ℕ → σ → Except ε α → Prop) (race : Race σ ε α) :
    Prop where
  live : ∀ r ∈ race.inner, Live r.id r.future
  done : ∀ fin ∈ race.finished, Done fin.id fin.future fin.result

/-- A poll of a future with the given input keeps what is known of it. -/
structure Keeps (fut : σ → ι → σ × Poll (Except ε α)) (i : ι) (Live : ℕ → σ → Prop)
    (Done : ℕ → σ → Except ε α → Prop) : Prop where
  pending : ∀ k s s', Live k s → fut s i = (s', .pending) → Live k s'
  ready : ∀ k s s' result, Live k s → fut s i = (s', .ready result) → Done k s' result

section

variable {Live Live' : ℕ → σ → Prop} {Done : ℕ → σ → Except ε α → Prop}

lemma holds_selectOk {futures : List σ} {race : Race σ ε α}
    (h : select.selectOk futures = some race) (hlive : ∀ k f, futures[k]? = some f → Live k f) :
    race.Holds Live Done := by
  obtain ⟨-, rfl⟩ := of_selectOk h
  refine ⟨?_, nofun⟩
  intro r hr
  obtain ⟨-, hget⟩ := getElem?_of_mem_start hr
  rw [Nat.sub_zero] at hget
  exact hlive r.id r.future hget

lemma live_of_waits (hpending : ∀ k s s', Live k s → fut s i = (s', .pending) → Live' k s')
    {inner inner' : List (Racer σ)} (h : List.Forall₂ (Waits fut i) inner inner')
    (hlive : ∀ r ∈ inner, Live r.id r.future) : ∀ r ∈ inner', Live' r.id r.future := by
  induction h with
  | nil => simp
  | cons hwait _ ih =>
    rw [List.forall_mem_cons] at hlive ⊢
    refine ⟨?_, ih hlive.2⟩
    rw [hwait.id_eq]
    exact hpending _ _ _ hlive.1 hwait.poll_eq

lemma Keeps.live_of_stays (hkeeps : Keeps fut i Live Done) {inner inner' : List (Racer σ)}
    (h : List.Forall₂ (Stays fut i) inner inner') (hlive : ∀ r ∈ inner, Live r.id r.future) :
    ∀ r ∈ inner', Live r.id r.future := by
  induction h with
  | nil => simp
  | cons hstays _ ih =>
    rw [List.forall_mem_cons] at hlive ⊢
    refine ⟨?_, ih hlive.2⟩
    rcases hstays with rfl | hwait
    · exact hlive.1
    · rw [hwait.id_eq]
      exact hkeeps.pending _ _ _ hlive.1 hwait.poll_eq

lemma Keeps.of_leaves (hkeeps : Keeps fut i Live Done) {inner inner' : List (Racer σ)}
    {fin : Finish σ ε α} {finished : List (Finish σ ε α)} (h : Leaves fut i inner fin inner')
    (hholds : Holds Live Done ⟨inner, finished⟩) :
    Holds Live Done ⟨inner', fin :: finished⟩ := by
  cases h with
  | mk hbefore hafter hid hready =>
    have hlive := hholds.live
    simp only [List.forall_mem_append, List.forall_mem_cons] at hlive
    obtain ⟨hlive, hr, hlive'⟩ := hlive
    constructor
    · exact List.forall_mem_append.mpr
        ⟨hkeeps.live_of_stays hbefore hlive, hkeeps.live_of_stays hafter hlive'⟩
    · refine List.forall_mem_cons.mpr ⟨?_, hholds.done⟩
      rw [hid]
      exact hkeeps.ready _ _ _ _ hr hready

lemma Polls.holds {race race' : Race σ ε α} {answer : Poll (Except ε α)}
    (h : Polls fut i race race' answer) (hkeeps : Keeps fut i Live Done)
    (hholds : Holds Live Done race) : Holds Live Done race' := by
  induction h with
  | pending hwait => exact ⟨live_of_waits hkeeps.pending hwait hholds.live, hholds.done⟩
  | won hleave => exact hkeeps.of_leaves hleave hholds
  | lost hleave => exact hkeeps.of_leaves hleave hholds
  | again hleave _ _ ih => exact ih (hkeeps.of_leaves hleave hholds)

/-- When the race is pending, every future left in it was polled last of all and is pending. -/
lemma Polls.waited {race race' : Race σ ε α} {answer : Poll (Except ε α)}
    (h : Polls fut i race race' answer) (hanswer : answer = .pending)
    (hkeeps : Keeps fut i Live Done) (hholds : Holds Live Done race)
    (hpending : ∀ k s s', Live k s → fut s i = (s', .pending) → Live' k s') :
    ∀ r ∈ race'.inner, Live' r.id r.future := by
  induction h with
  | pending hwait => exact live_of_waits hpending hwait hholds.live
  | won => cases hanswer
  | lost => cases hanswer
  | again hleave _ _ ih => exact ih hanswer (hkeeps.of_leaves hleave hholds)

end

/-! ### The outcome -/

def AllFailed (finished : List (Finish σ ε α)) : Prop :=
  ∀ fin ∈ finished, ∃ e, fin.result = .error e

/-- Who has left a race with this answer. As long as it is pending, and before it is won, only
futures that have failed leave it. It is lost when all of them have. -/
def Decided (race : Race σ ε α) : Poll (Except ε α) → Prop
  | .pending          => race.inner ≠ [] ∧ AllFailed race.finished
  | .ready (.ok a)    =>
    ∃ fin failed, race.finished = fin :: failed ∧ fin.result = .ok a ∧ AllFailed failed
  | .ready (.error e) => race.inner = [] ∧ AllFailed race.finished ∧
    ∃ fin failed, race.finished = fin :: failed ∧ fin.result = .error e

lemma AllFailed.cons {finished : List (Finish σ ε α)} (h : AllFailed finished)
    {fin : Finish σ ε α} {e : ε} (herror : fin.result = .error e) :
    AllFailed (fin :: finished) :=
  List.forall_mem_cons.mpr ⟨⟨e, herror⟩, h⟩

lemma Polls.decided {race race' : Race σ ε α} {answer : Poll (Except ε α)}
    (h : Polls fut i race race' answer) (hfailed : AllFailed race.finished) :
    race'.Decided answer := by
  induction h with
  | pending _ hne => exact ⟨hne, hfailed⟩
  | won _ hok => exact ⟨_, _, rfl, hok, hfailed⟩
  | lost _ herror => exact ⟨rfl, hfailed.cons herror, _, _, rfl, herror⟩
  | again _ herror _ ih => exact ih (hfailed.cons herror)

/-- All futures of a race that is lost have failed. -/
lemma Decided.exists_failed {race : Race σ ε α} {e : ε} {n : ℕ}
    (h : race.Decided (.ready (.error e))) (hperm : race.ids.Perm (List.range n)) {k : ℕ}
    (hk : k < n) : ∃ fin ∈ race.finished, fin.id = k ∧ ∃ e', fin.result = .error e' := by
  obtain ⟨hinner, hfailed, -⟩ := h
  have hmem : k ∈ race.ids := hperm.mem_iff.mpr (List.mem_range.mpr hk)
  rw [ids, hinner, List.map_nil, List.nil_append, List.mem_map] at hmem
  obtain ⟨fin, hfin, hid⟩ := hmem
  exact ⟨fin, hfin, hid, hfailed fin hfin⟩

lemma decided_of_selectOk {futures : List σ} {race : Race σ ε α}
    (h : select.selectOk futures = some race) : race.Decided .pending := by
  obtain ⟨hne, rfl⟩ := of_selectOk h
  refine ⟨?_, nofun⟩
  cases futures with
  | nil => exact absurd rfl hne
  | cons f fs => exact List.cons_ne_nil _ _

/-! ### Runs -/

/-- The polls of a run. -/
inductive Runs (fut : σ → ι → σ × Poll (Except ε α)) :
    Race σ ε α → List ι → Race σ ε α → Poll (Except ε α) → Prop
  | nil (race : Race σ ε α) : Runs fut race [] race .pending
  | pending {race race' race'' : Race σ ε α} {i : ι} {is : List ι} {answer : Poll (Except ε α)}
      (h : Polls fut i race race' .pending) (hs : Runs fut race' is race'' answer) :
      Runs fut race (i :: is) race'' answer
  | ready {race race' : Race σ ε α} {i : ι} {is : List ι} {result : Except ε α}
      (h : Polls fut i race race' (.ready result)) :
      Runs fut race (i :: is) race' (.ready result)

lemma runs_run (select : SelectOk σ ι ε α) {race : Race σ ε α} (h : race.Decided .pending)
    (is : List ι) :
    Runs fut race is (select.run fut race is).1 (select.run fut race is).2 := by
  induction is generalizing race with
  | nil => exact .nil race
  | cons i is ih =>
    have hpolls := select.polls fut i race h.1
    rw [SelectOk.run]
    rcases hpoll : select.poll fut i race with ⟨race', result | _⟩
    · rw [hpoll] at hpolls
      exact .ready hpolls
    · rw [hpoll] at hpolls
      exact .pending hpolls (ih (hpolls.decided h.2))

section

variable {race race' : Race σ ε α} {is : List ι} {answer : Poll (Except ε α)}

lemma Runs.perm (h : Runs fut race is race' answer) : race'.ids.Perm race.ids := by
  induction h with
  | nil => exact .refl _
  | pending hpolls _ ih => exact ih.trans hpolls.perm
  | ready hpolls => exact hpolls.perm

lemma Runs.decided (h : Runs fut race is race' answer) (hrace : race.Decided .pending) :
    race'.Decided answer := by
  induction h with
  | nil => exact hrace
  | pending hpolls _ ih => exact ih (hpolls.decided hrace.2)
  | ready hpolls => exact hpolls.decided hrace.2

lemma Runs.holds {Live : ℕ → σ → Prop} {Done : ℕ → σ → Except ε α → Prop}
    (h : Runs fut race is race' answer) (hkeeps : ∀ i ∈ is, Keeps fut i Live Done)
    (hholds : Holds Live Done race) : Holds Live Done race' := by
  induction h with
  | nil => exact hholds
  | pending hpolls _ ih =>
    rw [List.forall_mem_cons] at hkeeps
    exact ih hkeeps.2 (hpolls.holds hkeeps.1 hholds)
  | ready hpolls => exact hpolls.holds (hkeeps _ List.mem_cons_self) hholds

end

/-! ### Races that poll in order -/

section

variable (fut : σ → ι → σ × Poll (Except ε α)) (i : ι)

/-- Poll the futures up to the first that is ready, which leaves the race. -/
def pollFirst : List (Racer σ) → List (Racer σ) × Option (Finish σ ε α)
  | []      => ([], none)
  | r :: rs =>
    match fut r.future i with
    | (f, .ready result) => (rs, some ⟨r.id, f, result⟩)
    | (f, .pending)      => (⟨r.id, f⟩ :: (pollFirst rs).1, (pollFirst rs).2)

/-- The loop of one poll. Every round but the last takes a future out of the race, so that there
are no more rounds than futures. -/
def pollLoop : ℕ → Race σ ε α → Race σ ε α × Poll (Except ε α)
  | 0, race          => (race, .pending)
  | rounds + 1, race =>
    match pollFirst fut i race.inner with
    | (inner, none)     => (⟨inner, race.finished⟩, .pending)
    | (inner, some fin) =>
      match fin.result with
      | .ok a    => (⟨inner, fin :: race.finished⟩, .ready (.ok a))
      | .error e =>
        match inner with
        | [] => (⟨[], fin :: race.finished⟩, .ready (.error e))
        | _  => pollLoop rounds ⟨inner, fin :: race.finished⟩

lemma pollFirst_cases (inner : List (Racer σ)) :
    (∃ inner', pollFirst fut i inner = (inner', none) ∧
      List.Forall₂ (Waits fut i) inner inner') ∨
    ∃ inner' fin, pollFirst fut i inner = (inner', some fin) ∧ Leaves fut i inner fin inner' := by
  induction inner with
  | nil => exact .inl ⟨[], rfl, .nil⟩
  | cons r rs ih =>
    rcases hpoll : fut r.future i with ⟨f, result | _⟩
    · have hleave : Leaves fut i ([] ++ r :: rs) ⟨r.id, f, result⟩ ([] ++ rs) :=
        .mk .nil (List.forall₂_same.mpr fun _ _ => .inl rfl) rfl hpoll
      refine .inr ⟨rs, ⟨r.id, f, result⟩, ?_, hleave⟩
      rw [pollFirst, hpoll]
    · have hwait : Waits fut i r ⟨r.id, f⟩ := ⟨rfl, hpoll⟩
      rcases ih with ⟨rs', hrs, hforall⟩ | ⟨rs', fin, hrs, hleave⟩
      · refine .inl ⟨⟨r.id, f⟩ :: rs', ?_, .cons hwait hforall⟩
        rw [pollFirst, hpoll, hrs]
      · refine .inr ⟨⟨r.id, f⟩ :: rs', fin, ?_, ?_⟩
        · rw [pollFirst, hpoll, hrs]
        · cases hleave with
          | mk hbefore hafter hid hready =>
            exact .mk (.cons (.inr hwait) hbefore) hafter hid hready

variable {fut} {i}

lemma Leaves.length_eq {inner inner' : List (Racer σ)} {fin : Finish σ ε α}
    (h : Leaves fut i inner fin inner') : inner.length = inner'.length + 1 := by
  cases h with
  | mk hbefore hafter =>
    simp only [List.length_append, List.length_cons, hbefore.length_eq, hafter.length_eq]
    omega

lemma polls_pollLoop {rounds : ℕ} {race : Race σ ε α} (hlen : race.inner.length = rounds)
    (hne : race.inner ≠ []) :
    Polls fut i race (pollLoop fut i rounds race).1 (pollLoop fut i rounds race).2 := by
  induction rounds generalizing race with
  | zero => exact absurd (List.length_eq_zero_iff.mp hlen) hne
  | succ rounds ih =>
    rcases pollFirst_cases fut i race.inner with
      ⟨inner, hfirst, hwait⟩ | ⟨inner, fin, hfirst, hleave⟩
    · have hleft : inner ≠ [] := by
        rw [← List.length_pos_iff, ← hwait.length_eq, hlen]
        exact Nat.succ_pos _
      rw [pollLoop, hfirst]
      exact .pending hwait hleft
    · rw [pollLoop, hfirst]
      cases hresult : fin.result with
      | ok a =>
        simp only [hresult]
        exact .won hleave hresult
      | error e =>
        simp only [hresult]
        cases inner with
        | nil => exact .lost hleave hresult
        | cons r rs =>
          have hleft := hleave.length_eq
          exact .again hleave hresult (ih (Nat.succ.inj (hleft.symm.trans hlen)) (by simp))

end

/-- Every poll goes through the futures in order. -/
def inOrder (σ ι ε α : Type*) : SelectOk σ ι ε α where
  selectOk
    | []      => none
    | futures => some ⟨start 0 futures, []⟩
  poll fut i race := pollLoop fut i race.inner.length race
  selectOk_eq_none_iff futures := by cases futures <;> simp
  eq_of_selectOk futures race h := by
    cases futures with
    | nil => cases h
    | cons f fs => exact (Option.some.inj h).symm
  polls fut i race hne := polls_pollLoop rfl hne

end Race
