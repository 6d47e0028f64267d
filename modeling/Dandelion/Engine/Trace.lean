import Dandelion.Engine

/-!
# The runs of the engine

The steps of a task come in a fixed order: the handler is called once the first part of the
handshake has returned, the second part is run once the handler has returned a connection, and only
then does anything pass between the client and the target.

The connections of an engine run side by side. Taken alone, the steps of each of them are a run of
its task.
-/

namespace Dandelion.Engine

/-! ### The order of the steps of a task -/

section

variable {φ ψ ℓ : Type} {H : Handshake φ ψ ℓ}

def Label.handshakes (ls : List (Label ℓ)) : List ℓ :=
  ls.filterMap fun
    | .handshake l => some l
    | _            => none

def Label.relays (ls : List (Label ℓ)) : List Relay.Act :=
  ls.filterMap fun
    | .relayed a => some a
    | _          => none

/-- The requests that the handler is called with. -/
def Label.calls (ls : List (Label ℓ)) : List ConnectRequest :=
  ls.filterMap fun
    | .called request => some request
    | _               => none

@[simp] lemma Label.calls_append (ls ls' : List (Label ℓ)) :
    calls (ls ++ ls') = calls ls ++ calls ls' := by
  simp [calls]

@[simp] lemma Label.calls_handshakes (hs : List ℓ) : calls (hs.map .handshake) = [] := by
  simp [calls]

@[simp] lemma Label.handshakes_append (ls ls' : List (Label ℓ)) :
    handshakes (ls ++ ls') = handshakes ls ++ handshakes ls' := by
  simp [handshakes]

@[simp] lemma Label.handshakes_handshakes (hs : List ℓ) :
    handshakes (hs.map .handshake) = hs := by
  simp [handshakes]

@[simp] lemma Label.relays_append (ls ls' : List (Label ℓ)) :
    relays (ls ++ ls') = relays ls ++ relays ls' := by
  simp [relays]

@[simp] lemma Label.relays_handshakes (hs : List ℓ) : relays (hs.map .handshake) = [] := by
  simp [relays]

@[simp] lemma Label.relays_nil : relays ([] : List (Label ℓ)) = [] := rfl

@[simp] lemma Label.relays_called (request : ConnectRequest) (ls : List (Label ℓ)) :
    relays (.called request :: ls) = relays ls := rfl

@[simp] lemma Label.relays_connected (ls : List (Label ℓ)) :
    relays (.connected :: ls) = relays ls := rfl

@[simp] lemma Label.relays_completed (ls : List (Label ℓ)) :
    relays (.completed :: ls) = relays ls := rfl

@[simp] lemma Label.relays_finished (ls : List (Label ℓ)) :
    relays (.finished :: ls) = relays ls := rfl

@[simp] lemma Label.relays_relays (acts : List Relay.Act) :
    relays (acts.map .relayed : List (Label ℓ)) = acts := by
  simp [relays]

/-- Steps of a relay only. -/
lemma Label.eq_relays {ls : List (Label ℓ)} (hnil : handshakes ls = [])
    (hls : ∀ l ∈ ls, (∃ h, l = .handshake h) ∨ ∃ a, l = .relayed a) :
    ls = (relays ls).map .relayed := by
  induction ls with
  | nil => rfl
  | cons l ls ih =>
    rw [List.forall_mem_cons] at hls
    rcases hls.1 with ⟨h, rfl⟩ | ⟨a, rfl⟩
    · simp [handshakes] at hnil
    · have hrest := ih (by simpa [handshakes] using hnil) hls.2
      simpa [relays] using hrest

@[simp] lemma Label.calls_called (request : ConnectRequest) (ls : List (Label ℓ)) :
    calls (.called request :: ls) = request :: calls ls := rfl

@[simp] lemma Label.calls_connected (ls : List (Label ℓ)) :
    calls (.connected :: ls) = calls ls := rfl

@[simp] lemma Label.calls_completed (ls : List (Label ℓ)) :
    calls (.completed :: ls) = calls ls := rfl

@[simp] lemma Label.calls_finished (ls : List (Label ℓ)) :
    calls (.finished :: ls) = calls ls := rfl

@[simp] lemma Label.calls_nil : calls ([] : List (Label ℓ)) = [] := rfl

lemma Label.calls_eq_nil {ls : List (Label ℓ)}
    (hls : ∀ l ∈ ls, (∃ h, l = .handshake h) ∨ ∃ a, l = .relayed a) : calls ls = [] := by
  rw [calls, List.filterMap_eq_nil_iff]
  intro l hl
  rcases hls l hl with ⟨h, rfl⟩ | ⟨a, rfl⟩ <;> rfl

namespace Task

open Tasks

/-- The steps that lead to a call of the handler. -/
def Calls (H : Handshake φ ψ ℓ) (hs : List ℓ) (endpoint : Endpoint) (s : ψ) : Prop :=
  ∃ first, Reaches H.first H.start hs first ∧ H.returns first (.ok (endpoint, s))

/-- The labels of a run, in their order. -/
inductive Trace (H : Handshake φ ψ ℓ) : List (Label ℓ) → Task φ ψ → Prop
  | handshaking {hs : List ℓ} {s : φ} (hfirst : Reaches H.first H.start hs s) :
      Trace H (hs.map .handshake) (.handshaking s)
  | routing {hs : List ℓ} {endpoint : Endpoint} {s : ψ}
      (hcalls : Calls H hs endpoint s) :
      Trace H (hs.map .handshake ++ [.called ⟨endpoint⟩]) (.routing endpoint s)
  | completing {hs hs' : List ℓ} {endpoint : Endpoint} {s s' : ψ}
      (hcalls : Calls H hs endpoint s) (hsecond : Reaches H.second s hs' s') :
      Trace H (hs.map .handshake ++ .called ⟨endpoint⟩ :: .connected :: hs'.map .handshake)
        (.completing endpoint s')
  | forwarding {hs hs' : List ℓ} {endpoint : Endpoint} {s s' s'' : ψ}
      {relay : Relay} (ls : List (Label ℓ)) (hcalls : Calls H hs endpoint s)
      (hsecond : Reaches H.second s hs' s') (hcompletes : H.completes s' (.ok ()))
      (hserves : Reaches H.second s' (Label.handshakes ls) s'')
      (hrelay : relay.Runs bufferSize (Label.relays ls))
      (hls : ∀ l ∈ ls, (∃ h, l = .handshake h) ∨ ∃ a, l = .relayed a) :
      Trace H (hs.map .handshake ++ .called ⟨endpoint⟩ :: .connected ::
        (hs'.map .handshake ++ .completed :: ls)) (.forwarding endpoint s'' relay)
  | finished {ls : List (Label ℓ)} {endpoint : Endpoint} {s : ψ} {relay : Relay}
      (h : Trace H ls (.forwarding endpoint s relay)) (hdone : relay.IsDone) :
      Trace H (ls ++ [.finished]) .finished
  | failed {ls : List (Label ℓ)} {t : Task φ ψ} {e : Failure} (h : Trace H ls t)
      (hstep : t.Step H (.failed e) (.failed e)) : Trace H (ls ++ [.failed e]) (.failed e)

lemma Trace.step {ls : List (Label ℓ)} {l : Label ℓ} {t t' : Task φ ψ} (h : Trace H ls t)
    (hstep : t.Step H l t') : Trace H (ls ++ [l]) t' := by
  cases hstep with
  | handshake hfirst' =>
    cases h with
    | @handshaking hs _ hfirst =>
      have htail := hfirst.tail hfirst'
      simpa using Trace.handshaking htail
  | rejected hreturns => exact .failed h (.rejected hreturns)
  | called hreturns =>
    cases h with
    | handshaking hfirst => exact .routing ⟨_, hfirst, hreturns⟩
  | refused endpoint s message => exact .failed h (.refused endpoint s message)
  | connected endpoint s =>
    cases h with
    | routing hcalls => simpa using Trace.completing hcalls .refl
  | complete hsecond' =>
    cases h with
    | completing hcalls hsecond =>
      simpa using Trace.completing hcalls (hsecond.tail hsecond')
  | incomplete hcompletes => exact .failed h (.incomplete hcompletes)
  | completed hcompletes =>
    cases h with
    | completing hcalls hsecond =>
      simpa using Trace.forwarding [] hcalls hsecond hcompletes .refl .refl (by simp)
  | @serve _ _ _ _ l hsecond' =>
    cases h with
    | forwarding ls hcalls hsecond hcompletes hserves hrelay hls =>
      have hhandshakes : Label.handshakes (ls ++ [.handshake l]) = Label.handshakes ls ++ [l] := by
        simp [Label.handshakes]
      have hrelays : Label.relays (ls ++ [.handshake l]) = Label.relays ls := by
        simp [Label.relays]
      have htrace := Trace.forwarding (ls ++ [.handshake l]) hcalls hsecond hcompletes
        (hhandshakes ▸ hserves.tail hsecond') (hrelays ▸ hrelay)
        (List.forall_mem_append.mpr ⟨hls, by simp⟩)
      simpa using htrace
  | @relayed _ _ _ _ a hrelay' =>
    cases h with
    | forwarding ls hcalls hsecond hcompletes hserves hrelay hls =>
      have hhandshakes :
          Label.handshakes (ls ++ [(.relayed a : Label ℓ)]) = Label.handshakes ls := by
        simp [Label.handshakes]
      have hrelays : Label.relays (ls ++ [(.relayed a : Label ℓ)]) = Label.relays ls ++ [a] := by
        simp [Label.relays]
      have htrace := Trace.forwarding (ls ++ [.relayed a]) hcalls hsecond hcompletes
        (hhandshakes ▸ hserves) (hrelays ▸ hrelay.tail hrelay')
        (List.forall_mem_append.mpr ⟨hls, by simp⟩)
      simpa using htrace
  | broken endpoint s relay message => exact .failed h (.broken endpoint s relay message)
  | finished hdone => exact .finished h hdone

lemma Runs.trace {ls : List (Label ℓ)} {t : Task φ ψ} (h : Runs H ls t) : Trace H ls t := by
  induction h with
  | refl => exact .handshaking .refl
  | tail _ hstep ih => exact ih.step hstep

/-- The handler is called once at most. -/
lemma Trace.calls_length {ls : List (Label ℓ)} {t : Task φ ψ} (h : Trace H ls t) :
    (Label.calls ls).length ≤ 1 := by
  induction h with
  | handshaking => simp
  | routing => simp
  | completing => simp
  | forwarding ls _ _ _ _ _ hls => simp [Label.calls_eq_nil hls]
  | finished _ _ ih => simpa using ih
  | failed _ _ ih => simpa [Label.calls] using ih

/-- The handler is called with the endpoint that the first part of the handshake has returned. -/
lemma Trace.exists_calls {ls : List (Label ℓ)} {t : Task φ ψ} (h : Trace H ls t)
    {endpoint : Endpoint} (hcalled : ⟨endpoint⟩ ∈ Label.calls ls) :
    ∃ hs s, Calls H hs endpoint s ∧ hs <+: Label.handshakes ls := by
  induction h with
  | handshaking => simp at hcalled
  | @routing hs endpoint' s hcalls =>
    obtain rfl : endpoint = endpoint' := by simpa using hcalled
    exact ⟨hs, s, hcalls, by simp⟩
  | @completing hs hs' endpoint' s s' hcalls =>
    obtain rfl : endpoint = endpoint' := by simpa using hcalled
    exact ⟨hs, s, hcalls, by simp⟩
  | @forwarding hs hs' endpoint' s s' s'' relay ls hcalls _ _ _ _ hls =>
    obtain rfl : endpoint = endpoint' := by simpa [Label.calls_eq_nil hls] using hcalled
    exact ⟨hs, s, hcalls, by simp⟩
  | finished _ _ ih =>
    obtain ⟨hs, s, hcalls, hle⟩ := ih (by simpa using hcalled)
    refine ⟨hs, s, hcalls, hle.trans ?_⟩
    rw [Label.handshakes_append]
    exact List.prefix_append _ _
  | failed _ _ ih =>
    obtain ⟨hs, s, hcalls, hle⟩ := ih (by simpa [Label.calls] using hcalled)
    refine ⟨hs, s, hcalls, hle.trans ?_⟩
    rw [Label.handshakes_append]
    exact List.prefix_append _ _

/-- Nothing passes between the client and the target before the handshake is complete. -/
lemma Trace.relays_eq_nil {ls : List (Label ℓ)} {t : Task φ ψ} (h : Trace H ls t)
    (hcompleted : .completed ∉ ls) : Label.relays ls = [] := by
  induction h with
  | handshaking => simp
  | routing => simp
  | completing => simp
  | forwarding => simp at hcompleted
  | finished _ _ ih => simpa using ih (by simpa using hcompleted)
  | failed _ _ ih => simpa [Label.relays] using ih (by simpa using hcompleted)

/-- The outermost context of an error names the target that the handler was called for. -/
lemma Trace.contexts_eq {ls : List (Label ℓ)} {t : Task φ ψ} {e : Failure} (h : Trace H ls t)
    (hstep : t.Step H (.failed e) (.failed e)) :
    e.contexts.head?
      = (Label.calls ls).head?.map fun request => targetContext request.endpoint := by
  cases hstep with
  | rejected =>
    cases h with
    | handshaking => simp
  | refused =>
    cases h with
    | routing => simp
  | incomplete =>
    cases h with
    | completing => simp
  | broken =>
    cases h with
    | forwarding => simp

end Task

end

/-! ### The connections of an engine -/

section

variable {φ ψ ℓ : AcceptorConfig → Type} {handshake : ∀ c, Handshake (φ c) (ψ c) (ℓ c)}
  {acceptors : List AcceptorConfig} {events : List (Event ℓ)} {s : State φ ψ}

/-- The acceptors of the connections that came in. -/
def accepts (events : List (Event ℓ)) : List ℕ :=
  events.filterMap fun
    | .accepted k => some k
    | _           => none

/-- What an event does to the tasks. -/
def Event.act? (handshake : ∀ c, Handshake (φ c) (ψ c) (ℓ c)) (acceptors : List AcceptorConfig) :
    Event ℓ →
      Option (Tasks.Act (Connection φ ψ) ((c : AcceptorConfig) × Label (ℓ c)))
  | .accepted k => acceptors[k]?.map fun c => .spawn (.new handshake c)
  | .task i l   => some (.step i l)
  | _           => none

/-- The connections run side by side. -/
lemma Runs.tasks (h : Runs handshake acceptors true events s) :
    Tasks.Runs (Connection.Step handshake) (events.filterMap (Event.act? handshake acceptors))
      s.connections := by
  induction h with
  | start => exact .nil
  | step _ hstep ih =>
    cases hstep with
    | bound k hrunning hk => simpa [List.filterMap_cons, Event.act?] using ih
    | accepted k c hrunning hk hc hlocal =>
      simpa [Event.act?, hc] using ih.tail (.spawn _ (.new handshake c))
    | outside k hrunning hk hlocal => cases hlocal
    | failed k message hrunning hk => simpa [List.filterMap_cons, Event.act?] using ih
    | task i l connections htask => simpa [Event.act?] using ih.tail htask

/-- All steps of a connection are steps of the task that it has from its acceptor. -/
lemma Connection.reaches_cases {c : AcceptorConfig} {conn : Connection φ ψ}
    {ls : List ((c : AcceptorConfig) × Label (ℓ c))}
    (h : Tasks.Reaches (Connection.Step handshake) (.new handshake c) ls conn) :
    ∃ ls' t, ls = ls'.map (Sigma.mk c) ∧ conn = ⟨c, t⟩ ∧ Task.Runs (handshake c) ls' t := by
  induction h with
  | refl => exact ⟨[], _, rfl, rfl, .refl⟩
  | tail _ hstep ih =>
    obtain ⟨ls', t, rfl, rfl, hruns⟩ := ih
    cases hstep with
    | mk _ htask => exact ⟨ls' ++ [_], _, by simp, rfl, hruns.tail htask⟩

/-- The steps of one of the connections. -/
def labels (i : ℕ) (events : List (Event ℓ)) :
    List ((c : AcceptorConfig) × Label (ℓ c)) :=
  events.filterMap fun
    | .task j l => if j = i then some l else none
    | _         => none

lemma labels_eq (handshake : ∀ c, Handshake (φ c) (ψ c) (ℓ c))
    (acceptors : List AcceptorConfig) (i : ℕ) (events : List (Event ℓ)) :
    Tasks.labels i (events.filterMap (Event.act? handshake acceptors)) = labels i events := by
  rw [Tasks.labels, labels, List.filterMap_filterMap]
  congr 1
  funext event
  cases event with
  | accepted k =>
    simp only [Event.act?]
    cases acceptors[k]? <;> rfl
  | bound k | failed k message | task j l => rfl

lemma mem_spawned {s₀ : Connection φ ψ}
    (h : s₀ ∈ Tasks.spawned (events.filterMap (Event.act? handshake acceptors))) :
    ∃ c, s₀ = .new handshake c := by
  simp only [Tasks.spawned, List.filterMap_filterMap, List.mem_filterMap] at h
  obtain ⟨event, -, hevent⟩ := h
  cases event with
  | accepted k =>
    simp only [Event.act?, Option.bind_eq_some_iff, Option.map_eq_some_iff] at hevent
    obtain ⟨_, ⟨c, -, rfl⟩, hspawned⟩ := hevent
    exact ⟨c, (Option.some.inj hspawned).symm⟩
  | bound k | failed k message | task j l => cases hevent

/-- The connections are those that came in, each with its acceptor. -/
lemma Runs.acceptors_eq (h : Runs handshake acceptors true events s) :
    s.connections.map (fun conn => some conn.acceptor)
      = (accepts events).map fun k => acceptors[k]? := by
  induction h with
  | start => rfl
  | step _ hstep ih =>
    cases hstep with
    | bound k hrunning hk => simpa [accepts] using ih
    | accepted k c hrunning hk hc hlocal =>
      simpa [accepts, Connection.new, hc] using ih
    | outside k hrunning hk hlocal => cases hlocal
    | failed k message hrunning hk => simpa [accepts] using ih
    | task i l connections htask =>
      have hkeeps : ∀ conn l conn', Connection.Step handshake conn l conn' →
          some conn'.acceptor = some conn.acceptor := by
        rintro conn l conn' ⟨c, -⟩
        rfl
      simpa [accepts, htask.map_eq hkeeps] using ih

lemma Runs.acceptor (h : Runs handshake acceptors true events s) {i : ℕ} {conn : Connection φ ψ}
    (hi : s.connections[i]? = some conn) :
    ∃ k, (accepts events)[i]? = some k ∧ acceptors[k]? = some conn.acceptor := by
  have hmap := congrArg (fun l => l[i]?) h.acceptors_eq
  simp only [List.getElem?_map, hi, Option.map_some] at hmap
  obtain ⟨k, hk, hacceptor⟩ := Option.map_eq_some_iff.mp hmap.symm
  exact ⟨k, hk, hacceptor⟩

/-- The steps of a connection are a run of its task. -/
lemma Runs.connection (h : Runs handshake acceptors true events s) {i : ℕ}
    {conn : Connection φ ψ} (hi : s.connections[i]? = some conn) :
    ∃ ls, labels i events = ls.map (Sigma.mk conn.acceptor) ∧
      Task.Runs (handshake conn.acceptor) ls conn.task := by
  obtain ⟨s₀, hs₀, hreaches⟩ := h.tasks.reaches hi
  obtain ⟨c, rfl⟩ := mem_spawned (List.mem_of_getElem? hs₀)
  rw [labels_eq] at hreaches
  obtain ⟨ls, t, hls, rfl, hruns⟩ := Connection.reaches_cases hreaches
  exact ⟨ls, hls, hruns⟩

/-- Every run of a task is that of a connection of some engine. -/
lemma runs_of_task {c : AcceptorConfig} {ls : List (Label (ℓ c))} {t : Task (φ c) (ψ c)}
    (h : Task.Runs (handshake c) ls t) :
    Runs handshake [c] true ([.bound 0, .accepted 0] ++ ls.map fun l => .task 0 ⟨c, l⟩)
      ⟨[true], [⟨c, t⟩], .running⟩ := by
  induction h with
  | refl =>
    have hbound : Runs handshake [c] true [.bound 0] ⟨[true], [], .running⟩ :=
      .step .start (.bound _ 0 rfl rfl)
    exact .step hbound (.accepted _ 0 c rfl rfl rfl rfl)
  | tail _ hstep ih =>
    rw [List.map_append, ← List.append_assoc]
    exact .step ih (.task _ 0 _ _ (.step _ 0 _ _ _ rfl (.mk c hstep)))

@[simp] lemma labels_task {c : AcceptorConfig} (ls : List (Label (ℓ c))) :
    labels 0 ([.bound 0, .accepted 0] ++ ls.map fun l => .task 0 ⟨c, l⟩) = ls.map (Sigma.mk c) := by
  simp [labels]

end

end Dandelion.Engine
