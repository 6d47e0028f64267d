import Dandelion.Simplex.Server

/-!
# The upgrade signal and the upgrade

The signal is taken before the headers of the upgrade are looked at. As long as no request that
lacks them is let through, the signal is taken by the request that is upgraded and by no other.
-/

namespace Dandelion.Simplex.Server

open Http

variable (lib : Library) (config : Config)

/-- The headers that a request must have to be upgraded. -/
def HasUpgradeHeaders (request : Request) : Prop :=
  (request.headers.get "Sec-WebSocket-Key").isSome ∧
    request.headers.get "Sec-WebSocket-Version" = some "13".utf8Bytes

lemma upgradeResponse_of_headers {request : Request} (h : HasUpgradeHeaders request) :
    ∃ response, upgradeResponse lib request = .ok response ∧ response.status = 101 := by
  obtain ⟨hkey, hversion⟩ := h
  obtain ⟨key, hkey⟩ := Option.isSome_iff_exists.mp hkey
  simp [upgradeResponse, hkey, hversion]

lemma upgradeResponse_of_not_headers {request : Request} (h : ¬HasUpgradeHeaders request) :
    ∃ e, upgradeResponse lib request = .error e := by
  cases hkey : request.headers.get "Sec-WebSocket-Key" with
  | none => simp [upgradeResponse, hkey]
  | some key =>
    have hversion : request.headers.get "Sec-WebSocket-Version" ≠ some "13".utf8Bytes := by
      intro hversion
      exact h ⟨by simp [hkey], hversion⟩
    simp [upgradeResponse, hkey, hversion]

/-- A handler goes on with a request that lacks the headers of an upgrade. -/
def AnswersUnfit (c : Connection) : Event → Prop
  | .respond _ => ∃ endpoint request, c.caller = .polling endpoint ∧ c.suspended = some request ∧
      ¬HasUpgradeHeaders request
  | _ => False

/-- The signal is taken exactly by the request that is answered with an upgrade, by at most one,
no `expect` fails, and the raw connection is handed over only after an upgrade. -/
structure UpgradeSafe (t : Machine.Transition Connection Event Answer) : Prop where
  taken : ∀ a ∈ t.after.answered, a.tookSignal = true ↔ a.response.status = 101
  once : (t.after.answered.filter (·.tookSignal)).length + t.after.suspended.toList.length ≤ 1
  noPanic : ∀ message, t.answer ≠ .panic message
  handedOver : ∀ endpoint, t.after.caller = .finished endpoint (.ok ()) →
    ∃ a ∈ t.after.answered, a.response.status = 101

/-! ### The states of a connection -/

/-- A request that was answered without an upgrade, and did not take the signal. -/
def Decoyed (a : Answered) : Prop := a.tookSignal = false ∧ a.response.status ≠ 101

/-- The states of a connection on which no unfit request is answered. -/
inductive Phase : Connection → Prop
  | idle (answered) (h : ∀ a ∈ answered, Decoyed a) :
      Phase ⟨true, none, none, false, .waiting, answered⟩
  | asked (request endpoint answered) (h : ∀ a ∈ answered, Decoyed a) :
      Phase ⟨false, some endpoint, some request, false, .waiting, answered⟩
  | returned (request endpoint answered) (h : ∀ a ∈ answered, Decoyed a) :
      Phase ⟨false, none, some request, false, .returned endpoint, answered⟩
  | polling (request endpoint answered) (h : ∀ a ∈ answered, Decoyed a) :
      Phase ⟨false, none, some request, false, .polling endpoint, answered⟩
  | upgraded (request response endpoint answered) (h : ∀ a ∈ answered, Decoyed a)
      (hstatus : response.status = 101) :
      Phase ⟨false, none, none, true, .polling endpoint, answered ++ [⟨request, true, response⟩]⟩
  | finished (request response endpoint result answered) (h : ∀ a ∈ answered, Decoyed a)
      (hstatus : response.status = 101) :
      Phase ⟨false, none, none, true, .finished endpoint result,
        answered ++ [⟨request, true, response⟩]⟩
  | failed (signal channel message answered) (h : ∀ a ∈ answered, Decoyed a) :
      Phase ⟨signal, channel, none, false, .failed message, answered⟩
  | broken (endpoint message answered) (h : ∀ a ∈ answered, Decoyed a) :
      Phase ⟨false, none, none, false, .finished endpoint (.error message), answered⟩

variable {c : Connection}

lemma decoyed_append {answered : List Answered} (h : ∀ a ∈ answered, Decoyed a)
    (request : Request) (now : String) :
    ∀ a ∈ answered ++ [⟨request, false, decoy now⟩], Decoyed a := by
  intro a ha
  rcases List.mem_append.mp ha with ha | ha
  · exact h a ha
  · rw [List.mem_singleton] at ha
    rw [ha]
    exact ⟨rfl, by simp [decoy]⟩

/-- No event makes a connection panic, and none but the answer to an unfit request leaves the
states above. -/
lemma Phase.step (h : Phase c) (event : Event) (hfit : ¬AnswersUnfit c event) :
    Phase ((machine lib config).step c event).1 ∧
      ∀ message, ((machine lib config).step c event).2 ≠ .panic message := by
  obtain ⟨c', answer, hstep⟩ : ∃ c' answer, (machine lib config).step c event = (c', answer) :=
    ⟨_, _, rfl⟩
  rw [hstep]
  cases Rule.of_step hstep with
  | ignored => exact ⟨h, by simp⟩
  | rejected request now message hdispatches hcheck =>
    cases h with
    | idle answered h => exact ⟨.idle _ (decoyed_append h request now), by simp⟩
    | _ => simp [Connection.dispatches, Caller.polls] at hdispatches
  | accepted request now endpoint hdispatches hcheck hsignal hcaller =>
    cases h with
    | idle answered h => exact ⟨.asked request endpoint answered h, by simp⟩
    | _ => simp [Connection.dispatches, Caller.polls] at hdispatches
  | panicked request now message hdispatches hsignal =>
    cases h with
    | idle answered h => simp at hsignal
    | _ => simp [Connection.dispatches, Caller.polls] at hdispatches
  | received endpoint hcaller hchannel =>
    cases h with
    | asked request endpoint' answered h =>
      cases hchannel
      exact ⟨.returned request endpoint answered h, by simp⟩
    | idle answered h => cases hchannel
    | _ => cases hcaller
  | proceeded endpoint hcaller hsuspended =>
    cases h with
    | returned request endpoint' answered h =>
      cases hcaller
      exact ⟨.polling request endpoint answered h, by simp⟩
    | _ => cases hcaller
  | orphaned endpoint message hcaller hsuspended =>
    cases h with
    | returned request endpoint' answered h => cases hsuspended
    | _ => cases hcaller
  | responded request endpoint now hcaller hsuspended =>
    have hheaders : HasUpgradeHeaders request := by
      by_contra hnot
      exact hfit ⟨endpoint, request, hcaller, hsuspended, hnot⟩
    obtain ⟨response, hresponse, hstatus⟩ := upgradeResponse_of_headers lib hheaders
    cases h with
    | polling request' endpoint' answered h =>
      cases hcaller
      simp only [finishHandler, hresponse, hideError, Connection.respond, hstatus]
      exact ⟨.upgraded request response endpoint answered h hstatus, by simp⟩
    | upgraded => cases hsuspended
    | _ => cases hcaller
  | failed result message hcaller =>
    cases h with
    | idle answered h => exact ⟨.failed _ _ message answered h, by simp⟩
    | asked request endpoint answered h => exact ⟨.failed _ _ message answered h, by simp⟩
    | _ => cases hcaller
  | finished endpoint result result' hcaller hresult =>
    cases h with
    | polling request endpoint' answered h =>
      obtain ⟨message, rfl⟩ := hresult rfl
      exact ⟨.broken endpoint message answered h, by simp⟩
    | upgraded request response endpoint' answered h hstatus =>
      exact ⟨.finished request response endpoint result' answered h hstatus, by simp⟩
    | _ => cases hcaller

/-! ### Safety -/

lemma filter_tookSignal_eq_nil {answered : List Answered} (h : ∀ a ∈ answered, Decoyed a) :
    answered.filter (·.tookSignal) = [] := by
  rw [List.filter_eq_nil_iff]
  intro a ha
  simp [(h a ha).1]

/-- What is to be known of the signal and the responses. -/
structure Accounted (c : Connection) : Prop where
  taken : ∀ a ∈ c.answered, a.tookSignal = true ↔ a.response.status = 101
  once : (c.answered.filter (·.tookSignal)).length + c.suspended.toList.length ≤ 1
  handedOver : ∀ endpoint, c.caller = .finished endpoint (.ok ()) →
    ∃ a ∈ c.answered, a.response.status = 101

lemma Decoyed.iff {a : Answered} (h : Decoyed a) :
    a.tookSignal = true ↔ a.response.status = 101 := by
  simp [h.1, h.2]

lemma accounted_of_decoyed (h : ∀ a ∈ c.answered, Decoyed a)
    (hcaller : ∀ endpoint, c.caller ≠ .finished endpoint (.ok ())) : Accounted c where
  taken a ha := (h a ha).iff
  once := by
    rw [filter_tookSignal_eq_nil h]
    cases c.suspended <;> simp
  handedOver endpoint hover := absurd hover (hcaller endpoint)

lemma accounted_of_upgraded {answered : List Answered} {request : Request} {response : Response}
    (h : ∀ a ∈ answered, Decoyed a) (hstatus : response.status = 101)
    (hanswered : c.answered = answered ++ [⟨request, true, response⟩])
    (hsuspended : c.suspended = none) : Accounted c where
  taken a ha := by
    rw [hanswered] at ha
    rcases List.mem_append.mp ha with ha | ha
    · exact (h a ha).iff
    · rw [List.mem_singleton] at ha
      simp [ha, hstatus]
  once := by
    simp [hanswered, hsuspended, List.filter_append, filter_tookSignal_eq_nil h]
  handedOver _ _ := ⟨⟨request, true, response⟩, by simp [hanswered], hstatus⟩

lemma Phase.accounted (h : Phase c) : Accounted c := by
  cases h with
  | idle answered h => exact accounted_of_decoyed h (by simp)
  | asked request endpoint answered h => exact accounted_of_decoyed h (by simp)
  | returned request endpoint answered h => exact accounted_of_decoyed h (by simp)
  | polling request endpoint answered h => exact accounted_of_decoyed h (by simp)
  | upgraded request response endpoint answered h hstatus =>
    exact accounted_of_upgraded h hstatus rfl rfl
  | finished request response endpoint result answered h hstatus =>
    exact accounted_of_upgraded h hstatus rfl rfl
  | failed signal channel message answered h => exact accounted_of_decoyed h (by simp)
  | broken endpoint message answered h => exact accounted_of_decoyed h (by simp)

/-- The answer to an unfit request leaves the signal taken without an upgrade. -/
lemma not_upgradeSafe_of_answersUnfit {event : Event} (h : AnswersUnfit c event) :
    ¬UpgradeSafe ⟨c, event, ((machine lib config).step c event).1,
      ((machine lib config).step c event).2⟩ := by
  intro hsafe
  cases event with
  | respond now =>
    obtain ⟨endpoint, request, hcaller, hsuspended, hnot⟩ := h
    obtain ⟨e, he⟩ := upgradeResponse_of_not_headers lib hnot
    have hstep : (machine lib config).step c (.respond now) = finishHandler lib c request now := by
      simp [machine, hcaller, hsuspended]
    have htaken := (hsafe.taken ⟨request, true, decoy now⟩ (by
      simp [hstep, finishHandler, Connection.respond, he, hideError])).mp rfl
    simp [decoy] at htaken
  | _ => exact h

/-- In every run: the signal is taken exactly by the request that is upgraded, by at most one, no
`expect` fails and the raw connection is handed over only after an upgrade, exactly if no request
is let through that passes the checks and lacks the headers of an upgrade. -/
theorem upgradeSafe_iff_not_answersUnfit (events : List Event) :
    (∀ t ∈ (machine lib config).transitions .new events, UpgradeSafe t) ↔
      ∀ t ∈ (machine lib config).transitions .new events, ¬AnswersUnfit t.before t.input := by
  apply (machine lib config).forall_transitions_iff (P := Phase) (Q := UpgradeSafe)
    (G := fun c event => ¬AnswersUnfit c event)
  · intro c event h
    constructor
    · intro hsafe hunfit
      exact not_upgradeSafe_of_answersUnfit lib config hunfit hsafe
    · intro hfit
      obtain ⟨hphase, hpanic⟩ := h.step lib config event hfit
      obtain ⟨htaken, honce, hover⟩ := hphase.accounted
      exact ⟨htaken, honce, hpanic, hover⟩
  · intro c event h hfit
    exact (h.step lib config event hfit).1
  · exact .idle [] (by simp)

/-- A request that passes all checks and has no key for the WebSocket. -/
def keyless : Request where
  path := "/s"
  headers := [("connection", "Upgrade".utf8Bytes), ("upgrade", "websocket".utf8Bytes),
    ("x-secret", "1".utf8Bytes), ("simplex-endpoint", "a:80".utf8Bytes)]

/-- The request without a key is let through, and sent once more. -/
def keylessTwice : List Event :=
  [.request keyless "t", .receive, .proceed, .respond "t", .request keyless "t"]

/-- The request without a key is let through, and the client leaves. -/
def keylessOnce : List Event :=
  [.request keyless "t", .receive, .proceed, .respond "t", .ended (.ok ())]

/-- The request without a key takes the signal and gets the innocent answer. A second one then
makes the server panic; if the client leaves, a connection that was not upgraded is handed over. -/
theorem keyless_not_upgradeSafe :
    ¬(∀ t ∈ (machine plainLibrary exampleConfig).transitions .new keylessTwice, UpgradeSafe t) ∧
    (machine plainLibrary exampleConfig).answers .new keylessTwice
      = [.nothing, .nothing, .nothing, .response (decoy "t"),
        .panic "there should be only one upgrade request for one connection"] ∧
    ((machine plainLibrary exampleConfig).run .new keylessOnce).caller
      = .finished (.domain "a" 80) (.ok ()) ∧
    ∀ a ∈ ((machine plainLibrary exampleConfig).run .new keylessOnce).answered,
      a.response = decoy "t" := by
  refine ⟨?_, by decide, by decide, ?_⟩
  · intro h
    simp only [keylessTwice, Machine.transitions_cons, List.forall_mem_cons] at h
    obtain ⟨-, -, -, -, hlast, -⟩ := h
    exact hlast.noPanic "there should be only one upgrade request for one connection" (by decide)
  · have hanswered : ((machine plainLibrary exampleConfig).run .new keylessOnce).answered.map
        Answered.response = [decoy "t"] := by decide
    intro a ha
    have hmem := List.mem_map_of_mem (f := Answered.response) ha
    rw [hanswered, List.mem_singleton] at hmem
    exact hmem

end Dandelion.Simplex.Server
