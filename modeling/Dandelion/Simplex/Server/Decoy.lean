import Dandelion.Simplex.Server

/-!
# Rejected requests

A request that fails a check learns nothing and changes nothing. The endpoint that the handshake
returns is the one of the first request that passes all checks.
-/

namespace Dandelion.Simplex.Server

open Http

variable (lib : Library) (config : Config)

/-- A request fails one of the four checks: its path, its secret, the upgrade it asks for, or the
endpoint it names. -/
def FailsCheck (request : Request) : Prop :=
  request.path ≠ config.path ∨
    (request.headers.get config.secretHeader.1).bind HeaderValue.toStr
      ≠ some config.secretHeader.2 ∨
    lib.isUpgradeRequest request = false ∨
    ∀ ep, (request.headers.get endpointHeaderKey).bind HeaderValue.toStr = some ep →
      ∃ message, Endpoint.fromStr ep = .error message

lemma failsCheck_iff (request : Request) :
    FailsCheck lib config request ↔ ∃ message, check lib config request = .error message := by
  have hok : (∃ message, check lib config request = .error message) ↔
      ¬∃ endpoint, check lib config request = .ok endpoint := by
    cases check lib config request <;> simp
  have hparse : ∀ ep, (∃ message, Endpoint.fromStr ep = .error message) ↔
      ¬∃ endpoint, Endpoint.fromStr ep = .ok endpoint := by
    intro ep
    cases Endpoint.fromStr ep <;> simp
  simp only [hok, check_eq_ok_iff, FailsCheck, hparse]
  grind

/-- The endpoint of a request that passes all checks. -/
def acceptedEndpoint : Event → Option Endpoint
  | .request request _ => (check lib config request).toOption
  | _                  => none

/-- The endpoint of the first request that passes all checks. -/
def firstAccepted (events : List Event) : Option Endpoint :=
  events.findSome? (acceptedEndpoint lib config)

/-! ### The endpoint of the handshake -/

/-- `first` is the endpoint of the first request that has passed all checks so far: no such
request was ignored, and no other endpoint was sent. -/
structure Heard (first : Option Endpoint) (c : Connection) : Prop where
  fresh : c.signal = true → c.suspended = none ∧ c.upgraded = false
  quiet : c.signal = true → c.caller = .waiting → first = none
  sent : ∀ endpoint, c.endpointChannel = some endpoint → first = some endpoint
  returned : ∀ endpoint, c.caller.endpoint = some endpoint → first = some endpoint

lemma Heard.new : Heard none .new where
  fresh := fun _ => ⟨rfl, rfl⟩
  quiet := fun _ _ => rfl
  sent := nofun
  returned := nofun

variable {c : Connection} {first : Option Endpoint}

lemma Heard.step (h : Heard first c) (event : Event) :
    Heard (first.or (acceptedEndpoint lib config event))
      ((machine lib config).step c event).1 := by
  have hkeep : ∀ endpoint, first = some endpoint →
      first.or (acceptedEndpoint lib config event) = some endpoint := by
    rintro endpoint rfl
    rfl
  have hsent : ∀ endpoint, c.endpointChannel = some endpoint →
      first.or (acceptedEndpoint lib config event) = some endpoint :=
    fun endpoint hchannel => hkeep endpoint (h.sent endpoint hchannel)
  have hreturned : ∀ endpoint, c.caller.endpoint = some endpoint →
      first.or (acceptedEndpoint lib config event) = some endpoint :=
    fun endpoint hcaller => hkeep endpoint (h.returned endpoint hcaller)
  obtain ⟨c', answer, hstep⟩ : ∃ c' answer, (machine lib config).step c event = (c', answer) :=
    ⟨_, _, rfl⟩
  rw [hstep]
  cases Rule.of_step hstep with
  | ignored event hrequest =>
    refine ⟨h.fresh, ?_, hsent, hreturned⟩
    intro (hsignal : c.signal = true) (hcaller : c.caller = .waiting)
    rw [h.quiet hsignal hcaller, Option.none_or]
    cases event with
    | request request now =>
      obtain ⟨hsuspended, hupgraded⟩ := h.fresh hsignal
      have hdispatches := hrequest request now rfl
      simp [Connection.dispatches, hcaller, Caller.polls, hsuspended, hupgraded] at hdispatches
    | _ => rfl
  | rejected request now message hdispatches hcheck =>
    have hsame : first.or (acceptedEndpoint lib config (.request request now)) = first := by
      simp [acceptedEndpoint, hcheck, Except.toOption]
    rw [hsame]
    exact ⟨h.fresh, h.quiet, h.sent, h.returned⟩
  | accepted request now endpoint hdispatches hcheck hsignal hcaller =>
    have hfirst : first.or (acceptedEndpoint lib config (.request request now))
        = some endpoint := by
      simp [h.quiet hsignal hcaller, acceptedEndpoint, hcheck, Except.toOption]
    rw [hfirst]
    refine ⟨by simp, by simp, fun e he => he, ?_⟩
    simp [hcaller, Caller.endpoint]
  | panicked request now message hdispatches hsignal =>
    exact ⟨h.fresh, by simp, hsent, by simp [Caller.endpoint]⟩
  | received endpoint hcaller hchannel =>
    refine ⟨h.fresh, by simp, by simp, ?_⟩
    rintro _ ⟨⟩
    exact hsent endpoint hchannel
  | proceeded endpoint hcaller hsuspended =>
    refine ⟨h.fresh, by simp, hsent, ?_⟩
    rintro _ ⟨⟩
    exact hreturned endpoint (by simp [hcaller, Caller.endpoint])
  | orphaned endpoint message hcaller hsuspended =>
    exact ⟨h.fresh, by simp, hsent, by simp [Caller.endpoint]⟩
  | responded request endpoint now hcaller hsuspended =>
    have htaken : c.signal = true → False := by
      intro hsignal
      rw [(h.fresh hsignal).1] at hsuspended
      cases hsuspended
    exact ⟨fun hsignal => (htaken hsignal).elim, fun hsignal => (htaken hsignal).elim,
      hsent, hreturned⟩
  | failed result message hcaller =>
    exact ⟨fun hsignal => ⟨rfl, (h.fresh hsignal).2⟩, by simp,
      hsent, by simp [Caller.endpoint]⟩
  | finished endpoint result result' hcaller hresult =>
    refine ⟨fun hsignal => ⟨rfl, (h.fresh hsignal).2⟩, by simp,
      hsent, ?_⟩
    rintro _ ⟨⟩
    exact hreturned endpoint (by simp [hcaller, Caller.endpoint])

lemma Heard.run (h : Heard first c) (events : List Event) :
    Heard (first.or (firstAccepted lib config events)) ((machine lib config).run c events) := by
  induction events generalizing c first with
  | nil => simpa [firstAccepted] using h
  | cons event events ih =>
    have hnext := ih (h.step lib config event)
    rw [Option.or_assoc] at hnext
    rw [firstAccepted, List.findSome?_cons]
    cases hevent : acceptedEndpoint lib config event with
    | none =>
      rw [hevent, Option.none_or] at hnext
      exact hnext
    | some endpoint =>
      rw [hevent, Option.some_or] at hnext
      exact hnext

/-! ### Rejections -/

/-- The requests of a list, each at its time. -/
def requests (probes : List (Request × String)) : List Event :=
  probes.map fun probe => .request probe.1 probe.2

/-- Rejected requests get the innocent answer of their time, and change nothing. -/
lemma run_rejected (hdispatches : c.dispatches = true) {probes : List (Request × String)}
    (hprobes : ∀ probe ∈ probes, FailsCheck lib config probe.1) :
    (machine lib config).answers c (requests probes)
        = probes.map (fun probe => .response (decoy probe.2)) ∧
      (machine lib config).run c (requests probes)
        = { c with
            answered := c.answered ++ probes.map fun probe =>
              ⟨probe.1, false, decoy probe.2⟩ } := by
  induction probes generalizing c with
  | nil => simp [requests]
  | cons probe probes ih =>
    rw [List.forall_mem_cons] at hprobes
    obtain ⟨message, hcheck⟩ := (failsCheck_iff lib config probe.1).mp hprobes.1
    have hstep : (machine lib config).step c (.request probe.1 probe.2)
        = ({ c with answered := c.answered ++ [⟨probe.1, false, decoy probe.2⟩] },
            .response (decoy probe.2)) := by
      rw [← beginHandler_of_rejected hcheck]
      simp [machine, hdispatches]
    have hnext : ({ c with answered := c.answered ++ [⟨probe.1, false, decoy probe.2⟩] } :
        Connection).dispatches = true := hdispatches
    obtain ⟨hanswers, hrun⟩ := ih hnext hprobes.2
    rw [requests] at hanswers hrun
    simp [requests, hstep, hanswers, hrun]

/-- On a fresh connection a request that passes all checks makes the handshake return its
endpoint. -/
lemma run_accepted {request : Request} {endpoint : Endpoint}
    (hcheck : check lib config request = .ok endpoint) (now : String) (answered : List Answered) :
    ((machine lib config).run { Connection.new with answered := answered }
      [.request request now, .receive]).caller = .returned endpoint := by
  have hstep : (machine lib config).step { Connection.new with answered := answered }
      (.request request now) = beginHandler lib config { Connection.new with answered := answered }
        request now := rfl
  rw [Machine.run_cons, hstep, beginHandler_of_accepted hcheck rfl rfl]
  rfl

/-- However long a connection starts with requests that fail a check, each gets the same innocent
answer, up to its time, whatever failed and whatever the configuration is; the signal and both
channels are as they were. The endpoint that the handshake returns after that is the one of the
first request that passes all checks, and it is returned once such a request comes. -/
theorem rejections_hidden (probes : List (Request × String))
    (hprobes : ∀ probe ∈ probes, FailsCheck lib config probe.1) :
    (∀ lib' config' probes', (∀ probe ∈ probes', FailsCheck lib' config' probe.1) →
      probes'.map Prod.snd = probes.map Prod.snd →
      (machine lib' config').answers .new (requests probes')
        = (machine lib config).answers .new (requests probes)) ∧
    (machine lib config).answers .new (requests probes)
      = probes.map (fun probe => .response (decoy probe.2)) ∧
    (machine lib config).run .new (requests probes)
      = { Connection.new with
          answered := probes.map fun probe => ⟨probe.1, false, decoy probe.2⟩ } ∧
    (∀ later endpoint,
      ((machine lib config).run .new (requests probes ++ later)).caller.endpoint = some endpoint →
        firstAccepted lib config (requests probes ++ later) = some endpoint) ∧
    ∀ request now endpoint, check lib config request = .ok endpoint →
      ((machine lib config).run .new
        (requests probes ++ [.request request now, .receive])).caller = .returned endpoint := by
  obtain ⟨hanswers, hrun⟩ := run_rejected lib config (c := .new) rfl hprobes
  refine ⟨?_, hanswers, hrun, ?_, ?_⟩
  · intro lib' config' probes' hprobes' htimes
    rw [hanswers, (run_rejected lib' config' (c := .new) rfl hprobes').1]
    have hdecoys := congrArg (List.map fun now => Answer.response (decoy now)) htimes
    simpa [Function.comp_def] using hdecoys
  · intro later endpoint hreturned
    have hheard := Heard.new.run lib config (requests probes ++ later)
    rw [Option.none_or] at hheard
    exact hheard.returned endpoint hreturned
  · intro request now endpoint hcheck
    rw [Machine.run_append, hrun]
    exact run_accepted lib config hcheck now _

/-- A request of a plain client to the given path. -/
def plainRequest (path : String) : Request where
  path := path
  headers := [("connection", "Upgrade".utf8Bytes), ("upgrade", "websocket".utf8Bytes),
    ("x-secret", "1".utf8Bytes), ("simplex-endpoint", "a:80".utf8Bytes)]

/-- Two probes, one of the path and one of the secret, do not disturb the request after them. -/
theorem rejections_hidden_two_probes :
    let probes := [(plainRequest "/", "t"), (⟨"/s", []⟩, "u")]
    (machine plainLibrary exampleConfig).answers .new (requests probes)
      = [.response (decoy "t"), .response (decoy "u")] ∧
    ((machine plainLibrary exampleConfig).run .new
      (requests probes ++ [.request (plainRequest "/s") "v", .receive])).caller
        = .returned (.domain "a" 80) := by
  intro probes
  have hfirst : FailsCheck plainLibrary exampleConfig (plainRequest "/") := .inl (by decide)
  have hsecond : FailsCheck plainLibrary exampleConfig ⟨"/s", []⟩ := .inr (.inl (by decide))
  have h := rejections_hidden plainLibrary exampleConfig probes (by simp [probes, hfirst, hsecond])
  exact ⟨h.2.1, h.2.2.2.2 _ "v" _ (by rfl)⟩

end Dandelion.Simplex.Server
