import Dandelion.Connector.Tcp
import Dandelion.Core.Race
import Dandelion.Endpoint
import Mathlib.Logic.Relation

/-!
# The fastest connector

Several connectors are tried for one endpoint, each after a delay of its own, and the first one
that connects is taken. A connector is a function to a future, and is called only when its delay
has passed.
-/

namespace Dandelion.Connector.Speed

open Relation

variable {φ ω S E : Type*}

/-- A connector, and how many milliseconds it waits before it is called. -/
structure Delayed (φ : Type*) where
  delay : ℕ
  connector : Endpoint → φ

/-- The block that is run for a connector. -/
inductive Block (φ : Type*) where
  /-- It was not polled yet. -/
  | created (c : Delayed φ)
  | sleeping (deadline : ℕ) (connector : Endpoint → φ)
  /-- The connector was called at the given time. -/
  | connecting (called : ℕ) (future : φ)

/-- The clock during a poll, and what the futures of the connectors depend on. -/
structure PollInput (ω : Type*) where
  now : ℕ
  env : ω

variable (fut : φ → ω → φ × Poll (Except E S)) (endpoint : Endpoint)

def pollConnecting (called : ℕ) (f : φ) (i : PollInput ω) : Block φ × Poll (Except E S) :=
  let (f, answer) := fut f i.env
  (.connecting called f, answer)

def pollSleeping (deadline : ℕ) (connector : Endpoint → φ) (i : PollInput ω) :
    Block φ × Poll (Except E S) :=
  match pollTimer deadline i.now with
  | .pending => (.sleeping deadline connector, .pending)
  | .ready _ => pollConnecting fut i.now (connector endpoint) i

/-- One poll of a block. Its timer starts with the first poll. -/
def poll (block : Block φ) (i : PollInput ω) : Block φ × Poll (Except E S) :=
  match block with
  | .created c                   => pollSleeping fut endpoint (i.now + c.delay) c.connector i
  | .sleeping deadline connector => pollSleeping fut endpoint deadline connector i
  | .connecting called f         => pollConnecting fut called f i

/-- The race of all connectors; it panics if there is none. -/
def connect (select : SelectOk (Block φ) (PollInput ω) E S) (connectors : List (Delayed φ)) :
    Option (Race (Block φ) E S) :=
  select.selectOk (connectors.map .created)

/-! ### One poll -/

variable {fut endpoint}

/-- The future was polled, any number of times, and is pending. -/
def Awaits (fut : φ → ω → φ × Poll (Except E S)) : φ → φ → Prop :=
  ReflTransGen fun f f' => ∃ env, fut f env = (f', .pending)

/-- How far the block of a connector is, in a race that was first polled at `start`. -/
inductive Progress (fut : φ → ω → φ × Poll (Except E S)) (endpoint : Endpoint) (start : ℕ)
    (c : Delayed φ) : Block φ → Prop
  | created : Progress fut endpoint start c (.created c)
  | sleeping : Progress fut endpoint start c (.sleeping (start + c.delay) c.connector)
  | connecting {called : ℕ} {f : φ} (hcalled : start + c.delay ≤ called)
      (hf : Awaits fut (c.connector endpoint) f) :
      Progress fut endpoint start c (.connecting called f)

/-- The connector was called after its delay, and its future gave the result. -/
inductive Returned (fut : φ → ω → φ × Poll (Except E S)) (endpoint : Endpoint) (start : ℕ)
    (c : Delayed φ) : Block φ → Except E S → Prop
  | mk {called : ℕ} {f f' : φ} {env : ω} {result : Except E S} (hcalled : start + c.delay ≤ called)
      (hf : Awaits fut (c.connector endpoint) f) (hresult : fut f env = (f', .ready result)) :
      Returned fut endpoint start c (.connecting called f') result

/-- The block was polled with the given input, and waits: for the end of its delay, or for its
connector. -/
inductive Waiting (fut : φ → ω → φ × Poll (Except E S)) (i : PollInput ω) : Block φ → Prop
  | sleeping {deadline : ℕ} {connector : Endpoint → φ} (hnow : i.now < deadline) :
      Waiting fut i (.sleeping deadline connector)
  | connecting {called : ℕ} {f f' : φ} (hf : fut f i.env = (f', .pending)) :
      Waiting fut i (.connecting called f')

section

variable {start called : ℕ} {c : Delayed φ} {f : φ} {i : PollInput ω} {block block' : Block φ}
  {result : Except E S}

lemma pollConnecting_pending (hcalled : start + c.delay ≤ called)
    (hf : Awaits fut (c.connector endpoint) f)
    (hpoll : pollConnecting fut called f i = (block', .pending)) :
    Progress fut endpoint start c block' ∧ Waiting fut i block' := by
  rcases hfut : fut f i.env with ⟨f', answer⟩
  rw [pollConnecting, hfut, Prod.mk.injEq] at hpoll
  obtain ⟨rfl, rfl⟩ := hpoll
  exact ⟨.connecting hcalled (hf.tail ⟨i.env, hfut⟩), .connecting hfut⟩

lemma pollConnecting_ready (hcalled : start + c.delay ≤ called)
    (hf : Awaits fut (c.connector endpoint) f)
    (hpoll : pollConnecting fut called f i = (block', .ready result)) :
    Returned fut endpoint start c block' result := by
  rcases hfut : fut f i.env with ⟨f', answer⟩
  rw [pollConnecting, hfut, Prod.mk.injEq] at hpoll
  obtain ⟨rfl, rfl⟩ := hpoll
  exact .mk hcalled hf hfut

lemma pollSleeping_pending
    (hpoll : pollSleeping fut endpoint (start + c.delay) c.connector i = (block', .pending)) :
    Progress fut endpoint start c block' ∧ Waiting fut i block' := by
  rw [pollSleeping, pollTimer] at hpoll
  by_cases hnow : start + c.delay ≤ i.now
  · rw [if_pos hnow] at hpoll
    exact pollConnecting_pending hnow .refl hpoll
  · rw [if_neg hnow] at hpoll
    cases hpoll
    exact ⟨.sleeping, .sleeping (Nat.lt_of_not_le hnow)⟩

lemma pollSleeping_ready
    (hpoll : pollSleeping fut endpoint (start + c.delay) c.connector i
      = (block', .ready result)) :
    Returned fut endpoint start c block' result := by
  rw [pollSleeping, pollTimer] at hpoll
  by_cases hnow : start + c.delay ≤ i.now
  · rw [if_pos hnow] at hpoll
    exact pollConnecting_ready hnow .refl hpoll
  · rw [if_neg hnow] at hpoll
    cases hpoll

lemma poll_pending (h : Progress fut endpoint start c block)
    (hstart : block = .created c → i.now = start)
    (hpoll : poll fut endpoint block i = (block', .pending)) :
    Progress fut endpoint start c block' ∧ Waiting fut i block' := by
  cases h with
  | created =>
    rw [poll, hstart rfl] at hpoll
    exact pollSleeping_pending hpoll
  | sleeping => exact pollSleeping_pending hpoll
  | connecting hcalled hf => exact pollConnecting_pending hcalled hf hpoll

lemma poll_ready (h : Progress fut endpoint start c block)
    (hstart : block = .created c → i.now = start)
    (hpoll : poll fut endpoint block i = (block', .ready result)) :
    Returned fut endpoint start c block' result := by
  cases h with
  | created =>
    rw [poll, hstart rfl] at hpoll
    exact pollSleeping_ready hpoll
  | sleeping => exact pollSleeping_ready hpoll
  | connecting hcalled hf => exact pollConnecting_ready hcalled hf hpoll

end

/-! ### The race -/

section

variable (fut endpoint)

/-- The block of the connector with number `k`. -/
def InRace (connectors : List (Delayed φ)) (start k : ℕ) (block : Block φ) : Prop :=
  ∃ c, connectors[k]? = some c ∧ Progress fut endpoint start c block

/-- The same, once it was polled. -/
def UnderWay (connectors : List (Delayed φ)) (start k : ℕ) (block : Block φ) : Prop :=
  InRace fut endpoint connectors start k block ∧ ∀ c, block ≠ .created c

/-- The connector with number `k` has left the race. -/
def OutOfRace (connectors : List (Delayed φ)) (start k : ℕ) (block : Block φ)
    (result : Except E S) : Prop :=
  ∃ c, connectors[k]? = some c ∧ Returned fut endpoint start c block result

end

section

variable {select : SelectOk (Block φ) (PollInput ω) E S} {connectors : List (Delayed φ)}
  {start : ℕ} {i : PollInput ω}

lemma Waiting.ne_created {block : Block φ} (h : Waiting fut i block) (c : Delayed φ) :
    block ≠ .created c := by
  cases h <;> nofun

/-- The first poll starts the timers. -/
lemma keeps_first (hstart : i.now = start) :
    Race.Keeps (poll fut endpoint) i (InRace fut endpoint connectors start)
      (OutOfRace fut endpoint connectors start) where
  pending := by
    rintro k s s' ⟨c, hc, hs⟩ hpoll
    exact ⟨c, hc, (poll_pending hs (fun _ => hstart) hpoll).1⟩
  ready := by
    rintro k s s' result ⟨c, hc, hs⟩ hpoll
    exact ⟨c, hc, poll_ready hs (fun _ => hstart) hpoll⟩

/-- A block that was polled and is pending is under way, and waits. -/
lemma underWay_of_pending {k : ℕ} {block block' : Block φ}
    (h : InRace fut endpoint connectors start k block)
    (hstart : ∀ c, block = .created c → i.now = start)
    (hpoll : poll fut endpoint block i = (block', .pending)) :
    UnderWay fut endpoint connectors start k block' ∧ Waiting fut i block' := by
  obtain ⟨c, hc, hp⟩ := h
  obtain ⟨hp', hwait⟩ := poll_pending hp (hstart c) hpoll
  exact ⟨⟨⟨c, hc, hp'⟩, hwait.ne_created⟩, hwait⟩

/-- The polls after it do not. -/
lemma keeps_next :
    Race.Keeps (poll fut endpoint) i (UnderWay fut endpoint connectors start)
      (OutOfRace fut endpoint connectors start) where
  pending := by
    rintro k s s' ⟨hs, hne⟩ hpoll
    exact (underWay_of_pending hs (fun c heq => absurd heq (hne c)) hpoll).1
  ready := by
    rintro k s s' result ⟨⟨c, hc, hs⟩, hne⟩ hpoll
    exact ⟨c, hc, poll_ready hs (fun heq => absurd heq (hne c)) hpoll⟩

lemma holds_connect {race : Race (Block φ) E S} (h : connect select connectors = some race)
    (start : ℕ) :
    race.Holds (InRace fut endpoint connectors start)
      (OutOfRace fut endpoint connectors start) := by
  apply Race.holds_selectOk h
  intro k block hget
  rw [List.getElem?_map, Option.map_eq_some_iff] at hget
  obtain ⟨c, hc, rfl⟩ := hget
  exact ⟨c, hc, .created⟩

lemma ids_connect {race : Race (Block φ) E S} (h : connect select connectors = some race) :
    race.ids = List.range connectors.length := by
  rw [Race.ids_selectOk h, List.length_map]

/-- All blocks in a race that is pending are under way, and wait. -/
lemma waiting_of_runs {mid race : Race (Block φ) E S} {is : List (PollInput ω)}
    {answer : Poll (Except E S)} (h : Race.Runs (poll fut endpoint) mid is race answer)
    (hanswer : answer = .pending)
    (hmid : mid.Holds (UnderWay fut endpoint connectors start)
      (OutOfRace fut endpoint connectors start))
    (hwait : ∀ r ∈ mid.inner, Waiting fut i r.future) :
    ∀ r ∈ race.inner, UnderWay fut endpoint connectors start r.id r.future ∧
      Waiting fut ((i :: is).getLast (List.cons_ne_nil i is)) r.future := by
  induction h generalizing i with
  | nil => exact fun r hr => ⟨hmid.live r hr, hwait r hr⟩
  | @pending mid race' _ j is _ hpolls _ ih =>
    have hnext := hpolls.waited rfl keeps_next hmid
      fun k s s' (hs : UnderWay fut endpoint connectors start k s) hpoll =>
        underWay_of_pending hs.1 (fun c heq => absurd heq (hs.2 c)) hpoll
    rw [List.getLast_cons_cons]
    exact ih hanswer ⟨fun r hr => (hnext r hr).1, (hpolls.holds keeps_next hmid).done⟩
      fun r hr => (hnext r hr).2
  | ready => cases hanswer

/-- What is known of all connectors after the polls of a run. -/
lemma of_runs {race race' : Race (Block φ) E S} {first : PollInput ω} {rest : List (PollInput ω)}
    {answer : Poll (Except E S)} (h : connect select connectors = some race)
    (hruns : Race.Runs (poll fut endpoint) race (first :: rest) race' answer) :
    race'.Holds (InRace fut endpoint connectors first.now)
      (OutOfRace fut endpoint connectors first.now) ∧
    (answer = .pending → ∀ r ∈ race'.inner,
      UnderWay fut endpoint connectors first.now r.id r.future ∧
      Waiting fut ((first :: rest).getLast (List.cons_ne_nil first rest)) r.future) := by
  have hholds : race.Holds (InRace fut endpoint connectors first.now)
    (OutOfRace fut endpoint connectors first.now) := holds_connect h first.now
  cases hruns with
  | ready hpolls => exact ⟨hpolls.holds (keeps_first rfl) hholds, nofun⟩
  | pending hpolls hs =>
    have hfirst := hpolls.waited rfl (keeps_first rfl) hholds
      fun k s s' (hs : InRace fut endpoint connectors first.now k s) hpoll =>
        underWay_of_pending hs (fun _ _ => rfl) hpoll
    have hmid : Race.Holds (UnderWay fut endpoint connectors first.now)
        (OutOfRace fut endpoint connectors first.now) _ :=
      ⟨fun r hr => (hfirst r hr).1, (hpolls.holds (keeps_first rfl) hholds).done⟩
    have hend := hs.holds (fun _ _ => keeps_next) hmid
    refine ⟨⟨fun r hr => (hend.live r hr).1, hend.done⟩, ?_⟩
    intro hanswer
    exact waiting_of_runs hs hanswer hmid fun r hr => (hfirst r hr).2

end

/-- The connector was called with the endpoint, and its future gave the result. -/
def Gives (fut : φ → ω → φ × Poll (Except E S)) (endpoint : Endpoint) (c : Delayed φ)
    (result : Except E S) : Prop :=
  ∃ f f' env, Awaits fut (c.connector endpoint) f ∧ fut f env = (f', .ready result)

section

variable {select : SelectOk (Block φ) (PollInput ω) E S} {connectors : List (Delayed φ)}
  {race : Race (Block φ) E S}

lemma connect_eq_none_iff : connect select connectors = none ↔ connectors = [] := by
  rw [connect, select.selectOk_eq_none_iff, List.map_eq_nil_iff]

lemma gives_of_outOfRace {start k : ℕ} {block : Block φ} {result : Except E S}
    (h : OutOfRace fut endpoint connectors start k block result) :
    ∃ c, connectors[k]? = some c ∧ Gives fut endpoint c result := by
  obtain ⟨c, hc, hreturned⟩ := h
  cases hreturned with
  | mk hcalled hf hresult => exact ⟨c, hc, _, _, _, hf, hresult⟩

/-- Whatever has left the race was called and gave its result. -/
lemma gives_of_run (h : connect select connectors = some race) (inputs : List (PollInput ω)) :
    ∀ fin ∈ (select.run (poll fut endpoint) race inputs).1.finished,
      ∃ c, connectors[fin.id]? = some c ∧ Gives fut endpoint c fin.result := by
  cases inputs with
  | nil =>
    obtain ⟨-, rfl⟩ := Race.of_selectOk h
    exact nofun
  | cons first rest =>
    have hruns : Race.Runs (poll fut endpoint) race (first :: rest) _ _ :=
      Race.runs_run select (Race.decided_of_selectOk h) (first :: rest)
    intro fin hfin
    exact gives_of_outOfRace ((of_runs h hruns).1.done fin hfin)

end

/-- A race without connectors panics. In any other, after any polls, every connector is in the race
or has left it. If the race gives a stream, then a connector was called with the endpoint and its
future gave this stream, and all that left before have failed. It fails only if all connectors were
called and all have failed, and then with the error of the last one. -/
theorem connect_outcome (select : SelectOk (Block φ) (PollInput ω) E S)
    (fut : φ → ω → φ × Poll (Except E S)) (endpoint : Endpoint) (connectors : List (Delayed φ)) :
    (connect select connectors = none ↔ connectors = []) ∧
    ∀ (race : Race (Block φ) E S) (inputs : List (PollInput ω)),
      connect select connectors = some race →
      let r := select.run (poll fut endpoint) race inputs
      r.1.ids.Perm (List.range connectors.length) ∧
      (r.2 = .pending → r.1.inner ≠ [] ∧ Race.AllFailed r.1.finished) ∧
      (∀ stream, r.2 = .ready (.ok stream) → ∃ fin failed c, r.1.finished = fin :: failed ∧
        Race.AllFailed failed ∧ connectors[fin.id]? = some c ∧
        Gives fut endpoint c (.ok stream)) ∧
      ∀ e, r.2 = .ready (.error e) →
        (∀ c ∈ connectors, ∃ e', Gives fut endpoint c (.error e')) ∧
        ∃ fin failed c, r.1.finished = fin :: failed ∧ connectors[fin.id]? = some c ∧
          Gives fut endpoint c (.error e) := by
  refine ⟨connect_eq_none_iff, ?_⟩
  intro race inputs h r
  have hruns : Race.Runs (poll fut endpoint) race inputs r.1 r.2 :=
    Race.runs_run select (Race.decided_of_selectOk h) inputs
  have hperm : r.1.ids.Perm (List.range connectors.length) := by
    rw [← ids_connect h]
    exact hruns.perm
  have hdecided : r.1.Decided r.2 := hruns.decided (Race.decided_of_selectOk h)
  have hgives : ∀ fin ∈ r.1.finished, ∃ c, connectors[fin.id]? = some c ∧
    Gives fut endpoint c fin.result := gives_of_run h inputs
  refine ⟨hperm, ?_, ?_, ?_⟩
  · intro hanswer
    rwa [hanswer] at hdecided
  · intro stream hanswer
    rw [hanswer] at hdecided
    obtain ⟨fin, failed, hfinished, hok, hfailed⟩ := hdecided
    obtain ⟨c, hc, hgive⟩ := hgives fin (hfinished ▸ List.mem_cons_self)
    exact ⟨fin, failed, c, hfinished, hfailed, hc, hok ▸ hgive⟩
  · intro e hanswer
    rw [hanswer] at hdecided
    refine ⟨?_, ?_⟩
    · intro c hc
      obtain ⟨k, hk⟩ := List.mem_iff_getElem?.mp hc
      obtain ⟨hlt, -⟩ := List.getElem?_eq_some_iff.mp hk
      obtain ⟨fin, hfin, rfl, e', he'⟩ := hdecided.exists_failed hperm hlt
      obtain ⟨c', hc', hgive⟩ := hgives fin hfin
      rw [hk] at hc'
      cases hc'
      exact ⟨e', he' ▸ hgive⟩
    · obtain ⟨-, -, fin, failed, hfinished, herror⟩ := hdecided
      obtain ⟨c, hc, hgive⟩ := hgives fin (hfinished ▸ List.mem_cons_self)
      exact ⟨fin, failed, c, hfinished, hc, herror ▸ hgive⟩

/-- Connectors whose futures give the answers that are written down for them. -/
def scripted (script : List (Poll (Except String ℕ))) (_ : Unit) :
    List (Poll (Except String ℕ)) × Poll (Except String ℕ) :=
  match script with
  | []               => ([], .pending)
  | answer :: script => (script, answer)

/-- One that fails after a while, and one that is called later and connects at once. -/
def twoConnectors : List (Delayed (List (Poll (Except String ℕ)))) :=
  [⟨0, fun _ => [.pending, .ready (.error "refused")]⟩, ⟨250, fun _ => [.ready (.ok 7)]⟩]

/-- The race of the two. -/
def twoRace : Race (Block (List (Poll (Except String ℕ)))) String ℕ :=
  ⟨[⟨0, .created ⟨0, fun _ => [.pending, .ready (.error "refused")]⟩⟩,
    ⟨1, .created ⟨250, fun _ => [.ready (.ok 7)]⟩⟩], []⟩

/-- Their blocks are polled in order. -/
def inOrder : SelectOk (Block (List (Poll (Except String ℕ)))) (PollInput Unit) String ℕ :=
  Race.inOrder ..

/-- The first connector fails, and the race waits for the second one. -/
theorem connect_outcome_twoRace :
    ∃ fin failed c, (inOrder.run (poll scripted (.domain "example.com" 80)) twoRace
      [⟨5, ()⟩, ⟨100, ()⟩, ⟨260, ()⟩]).1.finished = fin :: failed ∧ Race.AllFailed failed ∧
      twoConnectors[fin.id]? = some c ∧
      Gives scripted (.domain "example.com" 80) c (.ok 7) := by
  have hconnect : connect inOrder twoConnectors = some twoRace := rfl
  obtain ⟨-, -, hok, -⟩ := (connect_outcome inOrder scripted (.domain "example.com" 80)
    twoConnectors).2 twoRace [⟨5, ()⟩, ⟨100, ()⟩, ⟨260, ()⟩] hconnect
  exact hok 7 rfl

/-- No connector is called before its delay has passed since the first poll of the race. As long as
the race is pending, a connector that was not called yet still has time to wait, and every other
that has not failed was polled in the last poll. -/
theorem connect_staggered (select : SelectOk (Block φ) (PollInput ω) E S)
    (fut : φ → ω → φ × Poll (Except E S)) (endpoint : Endpoint) {connectors : List (Delayed φ)}
    {race : Race (Block φ) E S} (h : connect select connectors = some race)
    (first : PollInput ω) (rest : List (PollInput ω)) :
    let r := select.run (poll fut endpoint) race (first :: rest)
    let last := (first :: rest).getLast (List.cons_ne_nil first rest)
    (∀ racer ∈ r.1.inner, ∀ called f, racer.future = .connecting called f →
      ∃ c, connectors[racer.id]? = some c ∧ first.now + c.delay ≤ called) ∧
    (∀ fin ∈ r.1.finished, ∃ c called f, connectors[fin.id]? = some c ∧
      fin.future = .connecting called f ∧ first.now + c.delay ≤ called) ∧
    (r.2 = .pending → ∀ racer ∈ r.1.inner, ∃ c, connectors[racer.id]? = some c ∧
      (racer.future = .sleeping (first.now + c.delay) c.connector ∧
        last.now < first.now + c.delay ∨
      ∃ called f f', racer.future = .connecting called f' ∧ fut f last.env = (f', .pending))) := by
  intro r last
  have hruns : Race.Runs (poll fut endpoint) race (first :: rest) r.1 r.2 :=
    Race.runs_run select (Race.decided_of_selectOk h) (first :: rest)
  obtain ⟨hholds, hwaits⟩ := of_runs h hruns
  refine ⟨?_, ?_, ?_⟩
  · intro racer hracer called f hconnecting
    obtain ⟨c, hc, hprogress⟩ := hholds.live racer hracer
    rw [hconnecting] at hprogress
    cases hprogress with
    | connecting hcalled => exact ⟨c, hc, hcalled⟩
  · intro fin hfin
    obtain ⟨c, hc, hreturned⟩ := hholds.done fin hfin
    rcases hfuture : fin.future with _ | _ | ⟨called, f⟩
    all_goals rw [hfuture] at hreturned
    · cases hreturned
    · cases hreturned
    · cases hreturned with
      | mk hcalled => exact ⟨c, called, f, hc, rfl, hcalled⟩
  · intro hanswer racer hracer
    obtain ⟨⟨⟨c, hc, hprogress⟩, -⟩, hwait⟩ := hwaits hanswer racer hracer
    refine ⟨c, hc, ?_⟩
    rcases hfuture : racer.future with _ | ⟨deadline, connector⟩ | ⟨called, f'⟩
    all_goals rw [hfuture] at hprogress hwait
    · cases hwait
    · cases hprogress
      cases hwait with
      | sleeping hnow => exact .inl ⟨rfl, hnow⟩
    · cases hwait with
      | @connecting _ f _ hf => exact .inr ⟨called, f, f', rfl, hf⟩

/-- After the first connector has failed, the second one still sleeps. -/
theorem connect_staggered_twoRace :
    let r := inOrder.run (poll scripted (.domain "example.com" 80)) twoRace [⟨5, ()⟩, ⟨100, ()⟩]
    r.2 = .pending ∧ r.1.inner.map Racer.id = [1] ∧ ∀ racer ∈ r.1.inner, ∃ c,
      twoConnectors[racer.id]? = some c ∧
      (racer.future = .sleeping (5 + c.delay) c.connector ∧ 100 < 5 + c.delay ∨
      ∃ called f f', racer.future = .connecting called f' ∧ scripted f () = (f', .pending)) := by
  have hconnect : connect inOrder twoConnectors = some twoRace := rfl
  obtain ⟨-, -, hpending⟩ := connect_staggered inOrder scripted (.domain "example.com" 80)
    hconnect ⟨5, ()⟩ [⟨100, ()⟩]
  exact ⟨rfl, rfl, hpending rfl⟩

end Dandelion.Connector.Speed
