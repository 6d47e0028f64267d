import Dandelion.Acceptor.Http.Safety
import Dandelion.Engine.Trace

/-!
# HTTP connections of the engine

An HTTP client gets no response, and none of its requests is forwarded, until the handler has
returned a connection to the target of the first request. The handler is called once, with the
endpoint that this request asks for, and all later requests of the session go there.
-/

namespace Dandelion.Engine

open Acceptor.HttpProxy Tasks

namespace Http

variable {parseUri : String → Option Uri} {s s' : Session} {event : Acceptor.HttpProxy.Event}
  {events : List Acceptor.HttpProxy.Event}

def firstRequest (events : List Acceptor.HttpProxy.Event) : Option Request :=
  events.findSome? fun
    | .request request => some request
    | _                => none

@[simp] lemma firstRequest_append (events events' : List Acceptor.HttpProxy.Event) :
    firstRequest (events ++ events') = (firstRequest events).or (firstRequest events') := by
  simp [firstRequest, List.findSome?_append]

/-- The first request stays the first one. -/
lemma firstRequest_of_prefix {request : Request} {events' : List Acceptor.HttpProxy.Event}
    (h : firstRequest events = some request) (hle : events <+: events') :
    firstRequest events' = some request := by
  obtain ⟨more, rfl⟩ := hle
  rw [firstRequest_append, h, Option.some_or]

/-! ### Sessions before the future of the handshake is polled -/

/-- No request was forwarded or got a response. -/
def Unanswered (s : Session) : Prop :=
  ∀ x ∈ s.log, x.forwarded = none ∧ x.reply ≠ some .response

def early : Caller → Bool
  | .selecting | .returned _ _ | .failed _ => true
  | _                                      => false

/-- Before the future of the handshake is polled, requests can only fail, and only the first one can
wait. -/
structure Quiet (events : List Acceptor.HttpProxy.Event) (s : Session) : Prop where
  caller : early s.caller = true
  served : ∀ x ∈ s.served, ∃ message, x.2 = ⟨none, .error message⟩
  fresh : s.caller = .selecting → s.suspended = none → firstRequest events = none
  first : ∀ request e, s.suspended = some (.done request e) → firstRequest events = some request

lemma Quiet.unanswered (h : Quiet events s) (hphase : Phase parseUri s) : Unanswered s := by
  intro x hx
  rw [Session.log, List.mem_append] at hx
  rcases hx with hserved | hsuspended
  · obtain ⟨y, hy, rfl⟩ := List.mem_map.mp hserved
    obtain ⟨message, hmessage⟩ := h.served y hy
    simp [Entry.ofServed, hmessage]
  · have hcaller := h.caller
    cases hphase with
    | fresh => simp [Session.new] at hsuspended
    | announced request connect e endpointChannel caller =>
      simp only [Option.map_some, Option.toList_some, List.mem_singleton] at hsuspended
      simp [hsuspended, Suspended.entry]
    | tunnelling | tunnelled | connecting | forwarding => cases hcaller
    | closed _ hserving hnone => simp [hnone] at hsuspended

/-- There was no request. -/
lemma quiet_new (hfirst : firstRequest events = none) : Quiet events .new where
  caller := rfl
  served x hx := by cases hx
  fresh _ _ := hfirst
  first request e h := by cases h

/-- The first request waits. -/
lemma quiet_of_suspended {request : Request} {e : Endpoint} (hcaller : early s.caller = true)
    (hserved : s.served = []) (hsuspended : s.suspended = some (.done request e))
    (hfirst : firstRequest events = some request) : Quiet events s where
  caller := hcaller
  served := by simp [hserved]
  fresh _ hnone := by
    rw [hsuspended] at hnone
    cases hnone
  first request' e' h := by
    rw [hsuspended] at h
    cases h
    exact hfirst

/-- The connection is over before the handshake has returned. -/
lemma quiet_of_resolve (hselecting : s.caller = .selecting)
    (hserved : ∀ x ∈ s.served, ∃ message, x.2 = ⟨none, .error message⟩)
    (result : Except String Unit) : Quiet events (s.resolve result) := by
  rw [Session.resolve, hselecting]
  refine ⟨rfl, hserved, ?_, ?_⟩
  · intro h
    cases h
  · intro request e h
    cases h

/-- The first request. -/
lemma quiet_request_new (parseUri : String → Option Uri) (hfirst : firstRequest events = none)
    (request : Request) :
    Quiet (events ++ [.request request]) (Session.request parseUri .new request) := by
  rcases beginHandler_new parseUri request with ⟨c, message, hbegin⟩ | ⟨e, -, hbegin⟩
  · have hstep : Session.request parseUri .new request
        = Session.new.advance request (c, .finished ⟨none, .error message⟩) := by
      simp [Session.request, Session.new, Caller.polls, Oneshot.new, hbegin]
    rw [hstep]
    refine quiet_of_resolve (s := { Session.new with
      connection := c, served := [(request, ⟨none, .error message⟩)] }) rfl ?_ (.error message)
    simp
  · have hstep : Session.request parseUri .new request
        = (Session.new.announce (request.method = .connect) e).advance request
            (⟨.notConnected false, some (decide (request.method = .connect), e)⟩,
              .suspended (.done request e)) := by
      simp [Session.request, Session.new, Caller.polls, Oneshot.new, hbegin]
    rw [hstep]
    refine quiet_of_suspended rfl rfl rfl ?_
    rw [firstRequest_append, hfirst]
    rfl

/-- A session without requests. -/
lemma quiet_step_new (hfirst : firstRequest events = none) (hevent : ofHandshake event = true) :
    Quiet (events ++ [event]) ((Session.machine parseUri).step .new event).1 := by
  cases event with
  | request request => exact quiet_request_new parseUri hfirst request
  | resume outcome => exact quiet_new (by rw [firstRequest_append, hfirst]; rfl)
  | ended result => exact quiet_of_resolve (s := .new) rfl (by simp [Session.new]) result
  | receive => exact quiet_new (by rw [firstRequest_append, hfirst]; rfl)
  | proceed client => cases hevent
  | drop => cases hevent

/-- A session whose first request waits for the done signal. -/
lemma quiet_step_announced {request : Request} {connect : Bool} {e : Endpoint}
    {endpointChannel : Oneshot (Bool × Endpoint)}
    (hchannel : endpointChannel.sender = .sent (connect, e))
    (hfirst : firstRequest events = some request) (hevent : ofHandshake event = true) :
    Quiet (events ++ [event]) ((Session.machine parseUri).step ⟨⟨.notConnected false,
      some (connect, e)⟩, some (.done request e), .running, endpointChannel, .new, .selecting,
      [(connect, e)], []⟩ event).1 := by
  have hfirst' := firstRequest_of_prefix hfirst (List.prefix_append events [event])
  cases event with
  | request request => exact quiet_of_suspended rfl rfl rfl hfirst'
  | resume outcome => exact quiet_of_suspended rfl rfl rfl hfirst'
  | ended result =>
    simp only [Session.machine, Caller.polls, ne_eq, reduceCtorEq, not_false_eq_true, decide_true,
      Bool.and_self, if_true]
    exact quiet_of_resolve rfl (by simp) result
  | receive =>
    simp only [Session.machine, Session.receive, Oneshot.poll, hchannel]
    exact quiet_of_suspended rfl rfl rfl hfirst'
  | proceed client => cases hevent
  | drop => cases hevent

/-- Nothing happens in a session that is not polled. -/
lemma step_of_not_polls (hpolls : s.caller.polls = false) (hevent : ofHandshake event = true) :
    ((Session.machine parseUri).step s event).1 = s := by
  cases event with
  | request request => simp [Session.machine, Session.request, hpolls]
  | resume outcome => simp [Session.machine, Session.resume, hpolls]
  | ended result => simp [Session.machine, hpolls]
  | receive =>
    simp only [Session.machine, Session.receive]
    split
    case h_1 hselecting =>
      rw [hselecting] at hpolls
      cases hpolls
    case h_2 => rfl
  | proceed client => cases hevent
  | drop => cases hevent

lemma Quiet.step (h : Quiet events s) (hphase : Phase parseUri s)
    (hevent : ofHandshake event = true) :
    Quiet (events ++ [event]) ((Session.machine parseUri).step s event).1 := by
  cases hpolls : s.caller.polls with
  | false =>
    rw [step_of_not_polls hpolls hevent]
    refine ⟨h.caller, h.served, ?_, fun request e hsuspended => ?_⟩
    · intro hselecting
      rw [hselecting] at hpolls
      cases hpolls
    · exact firstRequest_of_prefix (h.first request e hsuspended) (List.prefix_append _ _)
  | true =>
    have hcaller := h.caller
    cases hphase with
    | fresh => exact quiet_step_new (h.fresh rfl rfl) hevent
    | announced request connect e endpointChannel caller hconnect hasks hchannel hwaits =>
      rcases hwaits with rfl | rfl | ⟨-, rfl⟩
      · exact quiet_step_announced hchannel (h.first request e rfl) hevent
      · cases hpolls
      · cases hcaller
    | tunnelling | tunnelled | connecting | forwarding => cases hcaller
    | closed _ hserving hsuspended hover =>
      cases hs : s.caller <;> simp_all [early, Caller.polls, Caller.over]

lemma quiet_of_reaches (h : Reaches (http parseUri).first .new events s) :
    Phase parseUri s ∧ Quiet events s := by
  induction h with
  | refl => exact ⟨.fresh, quiet_new rfl⟩
  | tail _ hstep ih =>
    obtain ⟨hevent, rfl⟩ := hstep
    exact ⟨ih.1.step _, ih.2.step ih.1 hevent⟩

/-- The endpoint that the handshake returns is the one that the session has sent, and that the
waiting request asks for. -/
lemma of_returned (hphase : Phase parseUri s) {connect : Bool} {e : Endpoint}
    (hcaller : s.caller = .returned connect e) :
    s.sent = [(connect, e)] ∧ ∃ request, s.suspended = some (.done request e) ∧ Asks request e := by
  cases hphase with
  | fresh => cases hcaller
  | announced request connect' e' endpointChannel caller hconnect hasks hchannel hwaits =>
    obtain rfl : caller = .returned connect e := hcaller
    rcases hwaits with h | h | ⟨-, h⟩
    · cases h
    · cases h
      exact ⟨rfl, request, rfl, hasks⟩
    · cases h
  | tunnelling | tunnelled | connecting | forwarding => cases hcaller
  | closed _ hserving hsuspended hover =>
    rw [hcaller] at hover
    cases hover

/-! ### The endpoint of a session -/

lemma sent_resolve (s : Session) (result : Except String Unit) :
    (s.resolve result).sent = s.sent := by
  rw [Session.resolve]
  split <;> rfl

lemma sent_advance (s : Session) (request : Request)
    (p : Acceptor.HttpProxy.Connection × Progress) : (s.advance request p).sent = s.sent := by
  obtain ⟨c, place | ⟨forwarded, reply⟩⟩ := p
  · rfl
  · rw [Session.advance, Session.finish]
    cases reply with
    | response =>
      simp only
      split <;> rfl
    | error message => exact sent_resolve _ _
    | panic message => rfl

lemma sent_request (s : Session) (request : Request) :
    s.sent <+: (s.request parseUri request).sent := by
  rw [Session.request]
  split
  · simp only
    split
    · rw [sent_advance]
      exact List.prefix_append _ _
    · rw [sent_advance]
  · exact List.prefix_rfl

lemma sent_resume (s : Session) (outcome : Except String Unit) :
    (s.resume parseUri outcome).sent = s.sent := by
  rw [Session.resume]
  split
  · split
    · rfl
    · split
      · rfl
      · rw [sent_advance]
    · rw [sent_advance]
    · rw [sent_advance]
  · rfl

lemma sent_signal (s : Session) (done : Option Unit) (caller : Caller) :
    (s.signal done caller).sent = s.sent := by
  rw [Session.signal]
  split <;> rfl

lemma sent_proceed (s : Session) (client : Poll (Except String Unit)) :
    (s.proceed client).sent = s.sent := by
  have hopen (e : Endpoint) : (s.openUpstream e client).sent = s.sent := by
    rcases client with (message | ⟨⟩) | _
    · rfl
    · exact sent_signal _ _ _
    · rfl
  rw [Session.proceed]
  split
  · exact sent_signal _ _ _
  · exact hopen _
  · exact hopen _
  · rfl

/-- An endpoint that was sent stays sent. -/
lemma sent_step (s : Session) (hevent : ofFuture event = true) :
    s.sent <+: ((Session.machine parseUri).step s event).1.sent := by
  cases event with
  | request request => exact sent_request s request
  | resume outcome =>
    simp only [Session.machine]
    rw [sent_resume]
  | ended result =>
    simp only [Session.machine]
    split
    · rw [sent_resolve]
    · exact List.prefix_rfl
  | proceed client =>
    simp only [Session.machine]
    rw [sent_proceed]
  | receive => cases hevent
  | drop => cases hevent

lemma of_reaches_second {connect : Bool} {e : Endpoint}
    (h : Reaches (http parseUri).second s events s') (hphase : Phase parseUri s)
    (hsent : s.sent = [(connect, e)]) : Phase parseUri s' ∧ s'.sent = [(connect, e)] := by
  induction h with
  | refl => exact ⟨hphase, hsent⟩
  | @tail t _ _ event _ hstep ih =>
    obtain ⟨hevent, rfl⟩ := hstep
    obtain ⟨hphase', hsent'⟩ := ih
    have hnext := hphase'.step event
    refine ⟨hnext, ?_⟩
    have hstart : t.sent <+: ((Session.machine parseUri).step t event).1.sent :=
      sent_step t hevent
    rw [hsent'] at hstart
    exact (hstart.eq_of_length_le hnext.safe.once).symm

/-! ### The connections -/

/-- What is known of a connection after the given steps. -/
structure Guarded (parseUri : String → Option Uri) (ls : List (Label Acceptor.HttpProxy.Event))
    (t : Task Session Session) : Prop where
  calledOnce : (Label.calls ls).length ≤ 1
  /-- The handler is called with the endpoint that the first request of the session asks for. -/
  called : ∀ e, ⟨e⟩ ∈ Label.calls ls → ∃ request,
    firstRequest (Label.handshakes ls) = some request ∧ Asks request e
  unrelayed : .completed ∉ ls → Label.relays ls = []
  handshaking : ∀ s, t = .handshaking s → Label.calls ls = [] ∧ Unanswered s
  /-- While the handler runs no request has been answered or forwarded. -/
  routing : ∀ e s, t = .routing e s → Label.calls ls = [⟨e⟩] ∧ Unanswered s ∧
    ∃ connect, s.sent = [(connect, e)]
  /-- The requests of the session go to the endpoint that the handler was called with. -/
  completing : ∀ e s, t = .completing e s → Label.calls ls = [⟨e⟩] ∧ Safe parseUri s ∧
    ∃ connect, s.sent = [(connect, e)]
  forwarding : ∀ e s relay, t = .forwarding e s relay → Label.calls ls = [⟨e⟩] ∧
    Safe parseUri s ∧ ∃ connect, s.sent = [(connect, e)]

variable {ls : List (Label Acceptor.HttpProxy.Event)} {t : Task Session Session}
  {hs : List Acceptor.HttpProxy.Event} {e : Endpoint}

lemma of_calls (h : Task.Calls (http parseUri) hs e s) :
    Phase parseUri s ∧ Quiet hs s ∧ (∃ connect, s.sent = [(connect, e)]) ∧
      ∃ request, firstRequest hs = some request ∧ Asks request e := by
  obtain ⟨first, hfirst, hreturns⟩ := h
  obtain ⟨hphase, hquiet⟩ := quiet_of_reaches hfirst
  cases hreturns with
  | @returned connect _ hcaller =>
    obtain ⟨hsent, request, hsuspended, hasks⟩ := of_returned hphase hcaller
    exact ⟨hphase, hquiet, ⟨connect, hsent⟩, request, hquiet.first request e hsuspended, hasks⟩

lemma guarded_of_trace (h : Task.Trace (http parseUri) ls t) : Guarded parseUri ls t := by
  refine ⟨h.calls_length, ?_, h.relays_eq_nil, ?_, ?_, ?_, ?_⟩
  · intro e hcalled
    obtain ⟨hs, s, hcalls, hle⟩ := h.exists_calls hcalled
    obtain ⟨-, -, -, request, hfirst, hasks⟩ := of_calls hcalls
    exact ⟨request, firstRequest_of_prefix hfirst hle, hasks⟩
  · rintro s rfl
    cases h with
    | handshaking hfirst =>
      obtain ⟨hphase, hquiet⟩ := quiet_of_reaches hfirst
      exact ⟨by simp, hquiet.unanswered hphase⟩
  · rintro e s rfl
    cases h with
    | routing hcalls =>
      obtain ⟨hphase, hquiet, hsent, -⟩ := of_calls hcalls
      exact ⟨by simp, hquiet.unanswered hphase, hsent⟩
  · rintro e s rfl
    cases h with
    | completing hcalls hsecond =>
      obtain ⟨hphase, -, ⟨connect, hsent⟩, -⟩ := of_calls hcalls
      obtain ⟨hphase', hsent'⟩ := of_reaches_second hsecond hphase hsent
      exact ⟨by simp, hphase'.safe, connect, hsent'⟩
  · rintro e s relay rfl
    cases h with
    | forwarding ls hcalls hsecond hcompletes hserves hrelay hls =>
      obtain ⟨hphase, -, ⟨connect, hsent⟩, -⟩ := of_calls hcalls
      obtain ⟨hphase', hsent'⟩ := of_reaches_second hsecond hphase hsent
      obtain ⟨hphase'', hsent''⟩ := of_reaches_second hserves hphase' hsent'
      exact ⟨by simp [Label.calls_eq_nil hls], hphase''.safe, connect, hsent''⟩

end Http

variable {parseUri : String → Option Uri} {acceptors : List AcceptorConfig}
  {events : List (Event Act)} {s : State First Second} {i : ℕ} {addr : Net.SocketAddr}
  {handler : String} {t : Task (First (.http addr handler)) (Second (.http addr handler))}

/-- In every run of the engine, the handler of an HTTP acceptor is called with the endpoint that the
first request of a connection asks for. No request is answered or forwarded before it has returned a
connection to that endpoint, and all later requests go there. -/
theorem run_http (h : Runs (handshake parseUri) acceptors true events s)
    (hi : s.connections[i]? = some ⟨.http addr handler, t⟩) :
    ∃ (k : ℕ) (ls : List (Label (Act (.http addr handler)))), (accepts events)[i]? = some k ∧
      acceptors[k]? = some (.http addr handler) ∧
      labels i events = ls.map (Sigma.mk (.http addr handler)) ∧ Http.Guarded parseUri ls t := by
  obtain ⟨ls, hlabels, hruns⟩ := h.connection hi
  obtain ⟨k, hk, hacceptor⟩ := h.acceptor hi
  exact ⟨k, ls, hk, hacceptor, hlabels, Http.guarded_of_trace hruns.trace⟩

/-- An acceptor on the local host. -/
def localHttp : AcceptorConfig := .http (.v4 ⟨127, 0, 0, 1⟩ 8080) "handler"

/-- The session of a client that has asked for the root of a host. -/
def rootSession : Session :=
  (Session.machine fun _ => none).run .new
    [.request (rootRequest ⟨['a'], .inl (by decide)⟩), .receive]

/-- The handler is called for the first request. -/
theorem run_http_root :
    ∃ (events : List (Event Act)) (s : State First Second)
      (ls : List (Label Acceptor.HttpProxy.Event)),
      Runs (handshake fun _ => none) [localHttp] true events s ∧
      labels 0 events = ls.map (Sigma.mk localHttp) ∧
      Http.Guarded (fun _ => none) ls (.routing (.domain "a" 80) rootSession) ∧
      Label.calls ls = [⟨.domain "a" 80⟩] := by
  have hcaller : rootSession.caller = .returned false (.domain "a" 80) := rfl
  have hcalled : Task.Runs (http fun _ => none)
      [.handshake (.request (rootRequest ⟨['a'], .inl (by decide)⟩)), .handshake .receive,
        .called ⟨.domain "a" 80⟩] (.routing (.domain "a" 80) rootSession) :=
    ((Reaches.refl.tail (.handshake ⟨rfl, rfl⟩)).tail (.handshake ⟨rfl, rfl⟩)).tail
      (.called (.returned hcaller))
  have hrun : Runs (handshake fun _ => none) [localHttp] true _ _ := runs_of_task hcalled
  obtain ⟨k, ls, -, -, hlabels, hguarded⟩ := run_http (i := 0) hrun rfl
  have hmap := (labels_task _).symm.trans hlabels
  obtain rfl := List.map_injective_iff.mpr sigma_mk_injective hmap
  exact ⟨_, _, _, hrun, hlabels, hguarded, rfl⟩

end Dandelion.Engine
