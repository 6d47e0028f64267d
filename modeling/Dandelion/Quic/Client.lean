import Dandelion.Core.Race
import Dandelion.Endpoint
import Dandelion.Resolver
import Mathlib.Logic.Relation

/-!
# The QUIC client

All addresses of a server are dialled at once, and the first connection is taken. The server is
given by name, and this name is what its certificate has to be for.
-/

namespace Dandelion.Quic

open Net Relation

variable {φ ω C : Type}

/-- What is dialled: from which address, to which, and for whom the certificate has to be. -/
structure Dial where
  bound : SocketAddr
  remote : SocketAddr
  serverName : String
  alpnProtocols : List (List UInt8)

/-- The block that is run for an address. -/
inductive Attempt (φ : Type) where
  | created (addr : IpAddr)
  | connecting (dial : Dial) (future : φ)

/-- What is left to the QUIC library, and to the one that runs races. -/
structure Library (φ ω C : Type) where
  /-- Open a socket. -/
  client : SocketAddr → ω → Except String Unit
  connectWith : Dial → ω → Except String φ
  /-- One poll of a connection that is being set up. -/
  poll : φ → ω → φ × Poll (Except String C)
  select : SelectOk (Attempt φ) ω String C

/-- The address of all interfaces, of the family of the given address. -/
def unspecified : IpAddr → IpAddr
  | .v4 _ => .v4 ⟨0, 0, 0, 0⟩
  | .v6 _ => .v6 ⟨[0, 0, 0, 0, 0, 0, 0, 0], rfl⟩

/-- How an address of the server is dialled. -/
def dial (host : String) (port : UInt16) (alpnProtocols : List (List UInt8)) (addr : IpAddr) :
    Dial where
  bound := .new (unspecified addr) 0
  remote := .new addr port
  serverName := host
  alpnProtocols := alpnProtocols

variable (lib : Library φ ω C) (host : String) (port : UInt16) (alpnProtocols : List (List UInt8))

def pollConnecting (d : Dial) (f : φ) (env : ω) : Attempt φ × Poll (Except String C) :=
  let (f, answer) := lib.poll f env
  (.connecting d f, answer)

def pollAttempt (attempt : Attempt φ) (env : ω) : Attempt φ × Poll (Except String C) :=
  match attempt with
  | .created addr =>
    let d := dial host port alpnProtocols addr
    match lib.client d.bound env with
    | .error e => (.created addr, .ready (.error e))
    | .ok _    =>
      match lib.connectWith d env with
      | .error e => (.created addr, .ready (.error e))
      | .ok f    => pollConnecting lib d f env
  | .connecting d f => pollConnecting lib d f env

/-- What a poll of the client finds: the answer of the resolver, whether the verifier of
certificates could be set up, and what the QUIC library depends on. -/
structure PollInput (ω : Type) where
  lookup : Poll (Except String (List IpAddr))
  verifier : Except String Unit
  env : ω

inductive PollResult (C : Type) where
  | pending
  | ok (connection : C)
  | err (message : String)
  | panic

/-- How far the client is. -/
inductive State (φ C : Type) where
  | resolving
  | racing (addrs : List IpAddr) (race : Race (Attempt φ) String C)
  /-- It has returned before there was a race. -/
  | returned

def pollRace (addrs : List IpAddr) (race : Race (Attempt φ) String C) (env : ω) :
    State φ C × PollResult C :=
  match lib.select.poll (pollAttempt lib host port alpnProtocols) env race with
  | (race, .pending)          => (.racing addrs race, .pending)
  | (race, .ready (.ok c))    => (.racing addrs race, .ok c)
  | (race, .ready (.error e)) => (.racing addrs race, .err e)

/-- The client, once it has the addresses of the server. -/
def startRace (addrs : List IpAddr) (i : PollInput ω) : State φ C × PollResult C :=
  match i.verifier with
  | .error e => (.returned, .err e)
  | .ok _    =>
    match lib.select.selectOk (addrs.map .created) with
    | none      => (.returned, .panic)
    | some race => pollRace lib host port alpnProtocols addrs race i.env

/-- One poll for a server that is given by name. -/
def pollDomain (state : State φ C) (i : PollInput ω) : State φ C × PollResult C :=
  match state with
  | .resolving =>
    match i.lookup with
    | .pending           => (.resolving, .pending)
    | .ready (.error e)  => (.returned, .err e)
    | .ready (.ok addrs) => startRace lib host port alpnProtocols addrs i
  | .racing addrs race => pollRace lib host port alpnProtocols addrs race i.env
  | .returned          => (.returned, .pending)

/-- The client is polled until it returns. -/
def runDomain : State φ C → List (PollInput ω) → State φ C × PollResult C
  | state, []      => (state, .pending)
  | state, i :: is =>
    match pollDomain lib host port alpnProtocols state i with
    | (state, .pending) => runDomain state is
    | r                 => r

/-- A server that is given by its address is refused. -/
def createQuicConnection (server : Endpoint) (is : List (PollInput ω)) :
    State φ C × PollResult C :=
  match server, is with
  | .addr _, []          => (.resolving, .pending)
  | .addr addr, _ :: _   =>
    (.returned, .err ("Cannot connect to remote with ip " ++ String.ofList addr.display ++
      ", domain is required for certificate validation"))
  | .domain host port, _ => runDomain lib host port alpnProtocols .resolving is

/-! ### One attempt -/

/-- The library was told to dial, and the connection is being set up. -/
inductive Dialled (d : Dial) : φ → Prop
  | dialled {env : ω} {f : φ} (hclient : lib.client d.bound env = .ok ())
      (hconnect : lib.connectWith d env = .ok f) : Dialled d f
  | polled {env : ω} {f f' : φ} (h : Dialled d f) (hpoll : lib.poll f env = (f', .pending)) :
      Dialled d f'

/-- What dialling came to. -/
inductive Gave (d : Dial) : Except String C → Prop
  | unbound {env : ω} {e : String} (hclient : lib.client d.bound env = .error e) : Gave d (.error e)
  | refused {env : ω} {e : String} (hclient : lib.client d.bound env = .ok ())
      (hconnect : lib.connectWith d env = .error e) : Gave d (.error e)
  | polled {env : ω} {f f' : φ} {result : Except String C} (h : Dialled lib d f)
      (hpoll : lib.poll f env = (f', .ready result)) : Gave d result

/-- The attempt with number `k`. -/
inductive InRace (addrs : List IpAddr) (k : ℕ) : Attempt φ → Prop
  | created {addr : IpAddr} (haddr : addrs[k]? = some addr) : InRace addrs k (.created addr)
  | connecting {addr : IpAddr} {f : φ} (haddr : addrs[k]? = some addr)
      (hf : Dialled lib (dial host port alpnProtocols addr) f) :
      InRace addrs k (.connecting (dial host port alpnProtocols addr) f)

/-- The attempt with number `k` and its result. -/
def OutOfRace (addrs : List IpAddr) (k : ℕ) (attempt : Attempt φ) (result : Except String C) :
    Prop :=
  ∃ addr, addrs[k]? = some addr ∧ Gave lib (dial host port alpnProtocols addr) result ∧
    ∀ d f, attempt = .connecting d f → d = dial host port alpnProtocols addr

variable {lib host port alpnProtocols}

section

variable {addrs : List IpAddr} {k : ℕ} {addr : IpAddr} {f : φ} {env : ω}
  {attempt attempt' : Attempt φ} {result : Except String C}

lemma pollConnecting_pending (haddr : addrs[k]? = some addr)
    (hf : Dialled lib (dial host port alpnProtocols addr) f)
    (hpoll : pollConnecting lib (dial host port alpnProtocols addr) f env
      = (attempt', .pending)) : InRace lib host port alpnProtocols addrs k attempt' := by
  rcases hlib : lib.poll f env with ⟨f', answer⟩
  rw [pollConnecting, hlib, Prod.mk.injEq] at hpoll
  obtain ⟨rfl, rfl⟩ := hpoll
  exact .connecting haddr (hf.polled hlib)

lemma pollConnecting_ready (haddr : addrs[k]? = some addr)
    (hf : Dialled lib (dial host port alpnProtocols addr) f)
    (hpoll : pollConnecting lib (dial host port alpnProtocols addr) f env
      = (attempt', .ready result)) :
    OutOfRace lib host port alpnProtocols addrs k attempt' result := by
  rcases hlib : lib.poll f env with ⟨f', answer⟩
  rw [pollConnecting, hlib, Prod.mk.injEq] at hpoll
  obtain ⟨rfl, rfl⟩ := hpoll
  refine ⟨addr, haddr, .polled hf hlib, ?_⟩
  rintro d f ⟨⟩
  rfl

/-- An address is dialled in the first poll of its attempt, or the attempt fails. -/
lemma keeps_pollAttempt : Race.Keeps (pollAttempt lib host port alpnProtocols) env
    (InRace lib host port alpnProtocols addrs) (OutOfRace lib host port alpnProtocols addrs) where
  pending := by
    intro k attempt attempt' hin hpoll
    cases hin with
    | connecting haddr hf => exact pollConnecting_pending haddr hf hpoll
    | @created addr haddr =>
      simp only [pollAttempt] at hpoll
      cases hclient : lib.client (dial host port alpnProtocols addr).bound env with
      | error e => simp [hclient] at hpoll
      | ok u =>
        cases hconnect : lib.connectWith (dial host port alpnProtocols addr) env with
        | error e => simp [hclient, hconnect] at hpoll
        | ok f =>
          simp only [hclient, hconnect] at hpoll
          exact pollConnecting_pending haddr (.dialled hclient hconnect) hpoll
  ready := by
    intro k attempt attempt' result hin hpoll
    cases hin with
    | connecting haddr hf => exact pollConnecting_ready haddr hf hpoll
    | @created addr haddr =>
      simp only [pollAttempt] at hpoll
      cases hclient : lib.client (dial host port alpnProtocols addr).bound env with
      | error e =>
        simp only [hclient, Prod.mk.injEq, Poll.ready.injEq] at hpoll
        obtain ⟨rfl, rfl⟩ := hpoll
        exact ⟨addr, haddr, .unbound hclient, nofun⟩
      | ok u =>
        cases hconnect : lib.connectWith (dial host port alpnProtocols addr) env with
        | error e =>
          simp only [hclient, hconnect, Prod.mk.injEq, Poll.ready.injEq] at hpoll
          obtain ⟨rfl, rfl⟩ := hpoll
          exact ⟨addr, haddr, .refused hclient hconnect, nofun⟩
        | ok f =>
          simp only [hclient, hconnect] at hpoll
          exact pollConnecting_ready haddr (.dialled hclient hconnect) hpoll

end

/-! ### The client -/

section

variable (lib host port alpnProtocols)

/-- The race of the addresses that the resolver gave with one of the inputs. -/
structure Races (all : List (PollInput ω)) (addrs : List IpAddr)
    (race : Race (Attempt φ) String C) : Prop where
  found : ∃ i ∈ all, i.lookup = .ready (.ok addrs)
  perm : race.ids.Perm (List.range addrs.length)
  holds : race.Holds (InRace lib host port alpnProtocols addrs)
    (OutOfRace lib host port alpnProtocols addrs)

/-- What is known of the client as long as it has not returned. -/
inductive Running (all : List (PollInput ω)) : State φ C → Prop
  | resolving : Running all .resolving
  | racing {addrs : List IpAddr} {race : Race (Attempt φ) String C}
      (hraces : Races lib host port alpnProtocols all addrs race)
      (hdecided : race.Decided .pending) : Running all (.racing addrs race)

/-- How the client can return. -/
inductive Returns (all : List (PollInput ω)) : State φ C → PollResult C → Prop
  | connected {addrs : List IpAddr} {race : Race (Attempt φ) String C} {c : C}
      (hraces : Races lib host port alpnProtocols all addrs race)
      (hdecided : race.Decided (.ready (.ok c))) : Returns all (.racing addrs race) (.ok c)
  | failed {addrs : List IpAddr} {race : Race (Attempt φ) String C} {e : String}
      (hraces : Races lib host port alpnProtocols all addrs race)
      (hdecided : race.Decided (.ready (.error e))) : Returns all (.racing addrs race) (.err e)
  | unresolved {e : String} (h : ∃ i ∈ all, i.lookup = .ready (.error e)) :
      Returns all .returned (.err e)
  | unverified {e : String} (h : ∃ i ∈ all, i.verifier = .error e) : Returns all .returned (.err e)
  | panicked (h : ∃ i ∈ all, i.lookup = .ready (.ok [])) : Returns all .returned .panic

/-- What a poll does. -/
def Proceeds (all : List (PollInput ω)) (r : State φ C × PollResult C) : Prop :=
  r.2 = .pending ∧ Running lib host port alpnProtocols all r.1 ∨
    Returns lib host port alpnProtocols all r.1 r.2

end

section

variable {all : List (PollInput ω)} {addrs : List IpAddr} {race race' : Race (Attempt φ) String C}

lemma Races.polls (h : Races lib host port alpnProtocols all addrs race) {env : ω}
    {answer : Poll (Except String C)}
    (hpolls : Race.Polls (pollAttempt lib host port alpnProtocols) env race race' answer) :
    Races lib host port alpnProtocols all addrs race' :=
  ⟨h.found, hpolls.perm.trans h.perm, hpolls.holds keeps_pollAttempt h.holds⟩

lemma proceeds_pollRace (h : Races lib host port alpnProtocols all addrs race)
    (hdecided : race.Decided .pending) (env : ω) :
    Proceeds lib host port alpnProtocols all
      (pollRace lib host port alpnProtocols addrs race env) := by
  have hpolls := lib.select.polls (pollAttempt lib host port alpnProtocols) env race hdecided.1
  have hnext := hpolls.decided hdecided.2
  rw [pollRace]
  rcases hpoll : lib.select.poll (pollAttempt lib host port alpnProtocols) env race with
    ⟨race', (e | c) | _⟩
  all_goals rw [hpoll] at hpolls hnext
  · exact .inr (.failed (h.polls hpolls) hnext)
  · exact .inr (.connected (h.polls hpolls) hnext)
  · exact .inl ⟨rfl, .racing (h.polls hpolls) hnext⟩

lemma races_selectOk (hfound : ∃ i ∈ all, i.lookup = .ready (.ok addrs))
    (hrace : lib.select.selectOk (addrs.map .created) = some race) :
    Races lib host port alpnProtocols all addrs race := by
  refine ⟨hfound, ?_, Race.holds_selectOk hrace ?_⟩
  · rw [Race.ids_selectOk hrace, List.length_map]
  · intro k attempt hget
    rw [List.getElem?_map, Option.map_eq_some_iff] at hget
    obtain ⟨addr, haddr, rfl⟩ := hget
    exact .created haddr

lemma proceeds_startRace {i : PollInput ω} (hi : i ∈ all)
    (hlookup : i.lookup = .ready (.ok addrs)) :
    Proceeds lib host port alpnProtocols all (startRace lib host port alpnProtocols addrs i) := by
  rw [startRace]
  cases hverifier : i.verifier with
  | error e => exact .inr (.unverified ⟨i, hi, hverifier⟩)
  | ok u =>
    cases hrace : lib.select.selectOk (addrs.map .created) with
    | none =>
      have hnil : addrs = [] :=
        List.map_eq_nil_iff.mp ((lib.select.selectOk_eq_none_iff _).mp hrace)
      exact .inr (.panicked ⟨i, hi, hnil ▸ hlookup⟩)
    | some race =>
      exact proceeds_pollRace (races_selectOk ⟨i, hi, hlookup⟩ hrace)
        (Race.decided_of_selectOk hrace) i.env

lemma proceeds_pollDomain {state : State φ C} (h : Running lib host port alpnProtocols all state)
    {i : PollInput ω} (hi : i ∈ all) :
    Proceeds lib host port alpnProtocols all (pollDomain lib host port alpnProtocols state i) := by
  cases h with
  | racing hraces hdecided => exact proceeds_pollRace hraces hdecided i.env
  | resolving =>
    rw [pollDomain]
    rcases hlookup : i.lookup with (e | addrs) | _
    · exact .inr (.unresolved ⟨i, hi, hlookup⟩)
    · exact proceeds_startRace hi hlookup
    · exact .inl ⟨rfl, .resolving⟩

lemma proceeds_runDomain {state : State φ C} (h : Running lib host port alpnProtocols all state)
    {is : List (PollInput ω)} (his : ∀ i ∈ is, i ∈ all) :
    Proceeds lib host port alpnProtocols all (runDomain lib host port alpnProtocols state is) := by
  induction is generalizing state with
  | nil => exact .inl ⟨rfl, h⟩
  | cons i is ih =>
    rw [List.forall_mem_cons] at his
    rw [runDomain]
    rcases hpoll : pollDomain lib host port alpnProtocols state i with ⟨state', result⟩
    have hproceeds := proceeds_pollDomain h his.1
    rw [hpoll] at hproceeds
    rcases hproceeds with ⟨rfl, hrunning⟩ | hreturns
    · exact ih hrunning his.2
    · cases result with
      | pending => cases hreturns
      | ok | err | panic => exact .inr hreturns

/-- Every address of a race that is lost was dialled in vain. -/
lemma Races.all_failed (h : Races lib host port alpnProtocols all addrs race) {e : String}
    (hdecided : race.Decided (.ready (.error e))) :
    (∀ addr ∈ addrs, ∃ e', Gave lib (dial host port alpnProtocols addr) (.error e')) ∧
    ∃ addr ∈ addrs, Gave lib (dial host port alpnProtocols addr) (.error e) := by
  constructor
  · intro addr haddr
    obtain ⟨k, hk⟩ := List.mem_iff_getElem?.mp haddr
    obtain ⟨hlt, -⟩ := List.getElem?_eq_some_iff.mp hk
    obtain ⟨fin, hfin, rfl, e', he'⟩ := hdecided.exists_failed h.perm hlt
    obtain ⟨addr', haddr', hgave, -⟩ := h.holds.done fin hfin
    rw [hk] at haddr'
    cases haddr'
    exact ⟨e', he' ▸ hgave⟩
  · obtain ⟨-, -, fin, failed, hfinished, herror⟩ := hdecided
    obtain ⟨addr, haddr, hgave, -⟩ := h.holds.done fin (hfinished ▸ List.mem_cons_self)
    exact ⟨addr, List.mem_of_getElem? haddr, herror ▸ hgave⟩

variable {r : State φ C × PollResult C}

lemma Proceeds.races (h : Proceeds lib host port alpnProtocols all r)
    (hstate : r.1 = .racing addrs race) : Races lib host port alpnProtocols all addrs race := by
  obtain ⟨state, result⟩ := r
  cases hstate
  rcases h with ⟨-, hrunning⟩ | hreturns
  · cases hrunning with
    | racing h => exact h
  · cases hreturns with
    | connected h => exact h
    | failed h => exact h

lemma Proceeds.of_ok (h : Proceeds lib host port alpnProtocols all r) {c : C} (hok : r.2 = .ok c) :
    ∃ addrs, (∃ i ∈ all, i.lookup = .ready (.ok addrs)) ∧
      ∃ addr ∈ addrs, Gave lib (dial host port alpnProtocols addr) (.ok c) := by
  obtain ⟨state, result⟩ := r
  cases hok
  rcases h with ⟨heq, -⟩ | hreturns
  · cases heq
  · cases hreturns with
    | connected hraces hdecided =>
      obtain ⟨fin, failed, hfinished, hok, -⟩ := hdecided
      obtain ⟨addr, haddr, hgave, -⟩ := hraces.holds.done fin (hfinished ▸ List.mem_cons_self)
      exact ⟨_, hraces.found, addr, List.mem_of_getElem? haddr, hok ▸ hgave⟩

lemma Proceeds.of_err (h : Proceeds lib host port alpnProtocols all r) {e : String}
    (herr : r.2 = .err e) :
    (∃ i ∈ all, i.lookup = .ready (.error e) ∨ i.verifier = .error e) ∨
    ∃ addrs, (∃ i ∈ all, i.lookup = .ready (.ok addrs)) ∧
      (∀ addr ∈ addrs, ∃ e', Gave lib (dial host port alpnProtocols addr) (.error e')) ∧
      ∃ addr ∈ addrs, Gave lib (dial host port alpnProtocols addr) (.error e) := by
  obtain ⟨state, result⟩ := r
  cases herr
  rcases h with ⟨heq, -⟩ | hreturns
  · cases heq
  · cases hreturns with
    | unresolved h =>
      obtain ⟨i, hi, hlookup⟩ := h
      exact .inl ⟨i, hi, .inl hlookup⟩
    | unverified h =>
      obtain ⟨i, hi, hverifier⟩ := h
      exact .inl ⟨i, hi, .inr hverifier⟩
    | failed hraces hdecided => exact .inr ⟨_, hraces.found, hraces.all_failed hdecided⟩

lemma Proceeds.of_panic (h : Proceeds lib host port alpnProtocols all r) (hpanic : r.2 = .panic) :
    ∃ i ∈ all, i.lookup = .ready (.ok []) := by
  obtain ⟨state, result⟩ := r
  cases hpanic
  rcases h with ⟨heq, -⟩ | hreturns
  · cases heq
  · cases hreturns with
    | panicked h => exact h

end

/-- A server that is given by its address is refused, and nothing is dialled. For one that is given
by name, all attempts, those that are over included, dial addresses that the resolver gave, each
with the port of the server, from an address of the same family, and for a certificate of the name.
A connection is one of these, and the client fails only when the lookup or the verifier has failed
or all addresses were dialled in vain, with the last error. It panics if the resolver gives no
address, which the one that asks name servers does not do. -/
theorem createQuicConnection_dials (lib : Library φ ω C) (alpnProtocols : List (List UInt8))
    (server : Endpoint) (is : List (PollInput ω)) :
    let r := createQuicConnection lib alpnProtocols server is
    (∀ addr, server = .addr addr → (∀ addrs race, r.1 ≠ .racing addrs race) ∧
      (r.2 = .pending ∨ ∃ e, r.2 = .err e)) ∧
    ∀ host port, server = .domain host port →
      (∀ addrs race, r.1 = .racing addrs race →
        (∃ i ∈ is, i.lookup = .ready (.ok addrs)) ∧ race.ids.Perm (List.range addrs.length) ∧
        (∀ racer ∈ race.inner, ∀ d f, racer.future = .connecting d f →
          ∃ addr, addrs[racer.id]? = some addr ∧ d = dial host port alpnProtocols addr) ∧
        ∀ fin ∈ race.finished, ∃ addr, addrs[fin.id]? = some addr ∧
          Gave lib (dial host port alpnProtocols addr) fin.result ∧
          ∀ d f, fin.future = .connecting d f → d = dial host port alpnProtocols addr) ∧
      (∀ c, r.2 = .ok c → ∃ addrs, (∃ i ∈ is, i.lookup = .ready (.ok addrs)) ∧
        ∃ addr ∈ addrs, Gave lib (dial host port alpnProtocols addr) (.ok c)) ∧
      (∀ e, r.2 = .err e → (∃ i ∈ is, i.lookup = .ready (.error e) ∨ i.verifier = .error e) ∨
        ∃ addrs, (∃ i ∈ is, i.lookup = .ready (.ok addrs)) ∧
          (∀ addr ∈ addrs, ∃ e', Gave lib (dial host port alpnProtocols addr) (.error e')) ∧
          ∃ addr ∈ addrs, Gave lib (dial host port alpnProtocols addr) (.error e)) ∧
      (r.2 = .panic → ∃ i ∈ is, i.lookup = .ready (.ok [])) ∧
      ((∀ i ∈ is, ∀ result, i.lookup = .ready result →
        ∃ answer, result = Resolver.Hickory.lookupIp host answer) → r.2 ≠ .panic) := by
  intro r
  constructor
  · rintro addr rfl
    cases is with
    | nil => exact ⟨nofun, .inl rfl⟩
    | cons i is => exact ⟨nofun, .inr ⟨_, rfl⟩⟩
  · rintro host port rfl
    have hproceeds : Proceeds lib host port alpnProtocols is r :=
      proceeds_runDomain .resolving fun _ hi => hi
    refine ⟨?_, fun c => hproceeds.of_ok, fun e => hproceeds.of_err, hproceeds.of_panic, ?_⟩
    · intro addrs race hstate
      obtain ⟨hfound, hperm, hholds⟩ := hproceeds.races hstate
      refine ⟨hfound, hperm, ?_, hholds.done⟩
      intro racer hracer d f hconnecting
      have hlive := hholds.live racer hracer
      rw [hconnecting] at hlive
      cases hlive with
      | connecting haddr => exact ⟨_, haddr, rfl⟩
    · intro hhickory heq
      obtain ⟨i, hi, hlookup⟩ := hproceeds.of_panic heq
      obtain ⟨answer, hanswer⟩ := hhickory i hi _ hlookup
      exact Resolver.Hickory.ne_nil_of_lookupIp hanswer.symm rfl

/-- A library that connects at once, and only over IPv6. -/
def ipv6Only : Library Unit Unit ℕ where
  client _ _ := .ok ()
  connectWith d _ :=
    match d.remote with
    | .v4 _ _     => .error "unreachable"
    | .v6 _ _ _ _ => .ok ()
  poll _ _ := ((), .ready (.ok 7))
  select := Race.inOrder ..

/-- The resolver answers at once, with an address of each family. -/
def twoAddresses : PollInput Unit where
  lookup := .ready (.ok [.v4 ⟨10, 0, 0, 1⟩, .v6 ⟨[0, 0, 0, 0, 0, 0, 0, 1], rfl⟩])
  verifier := .ok ()
  env := ()

/-- The first address is unreachable, and the second is connected. -/
theorem createQuicConnection_dials_ipv6Only :
    (createQuicConnection ipv6Only [] (.domain "example.com" 443) [twoAddresses]).2 = .ok 7 ∧
    ∃ addrs, (∃ i ∈ [twoAddresses], i.lookup = .ready (.ok addrs)) ∧
      ∃ addr ∈ addrs, Gave ipv6Only (dial "example.com" 443 [] addr) (.ok 7) := by
  refine ⟨rfl, ?_⟩
  obtain ⟨-, hok, -⟩ := (createQuicConnection_dials ipv6Only [] (.domain "example.com" 443)
    [twoAddresses]).2 "example.com" 443 rfl
  exact hok 7 rfl

end Dandelion.Quic
