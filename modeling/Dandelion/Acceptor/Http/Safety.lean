import Dandelion.Acceptor.Http.Session

/-!
# No session panics

The two channels of a session are always used as their ends expect: nothing is sent to a receiver
that is gone, and no receiver waits for a sender that is gone. One endpoint is sent at most, and
every request after the first goes to that endpoint or fails.
-/

namespace Dandelion.Acceptor.HttpProxy

open Net Http

/-! ### What was done with the requests -/

/-- A request, what was sent upstream for it and what was replied, so far. -/
structure Entry where
  request : Request
  forwarded : Option Request
  reply : Option Reply

def Suspended.entry : Suspended → Entry
  | .done request _             => ⟨request, none, none⟩
  | .ready request _            => ⟨request, none, none⟩
  | .response request forwarded => ⟨request, some forwarded, none⟩

def Entry.ofServed (served : Request × Answer) : Entry :=
  ⟨served.1, served.2.forwarded, some served.2.reply⟩

/-- All requests of a session in order, the one that is being handled included. -/
def Session.log (s : Session) : List Entry :=
  s.served.map Entry.ofServed ++ (s.suspended.map Suspended.entry).toList

/-- The endpoint of a request that is no `CONNECT`. -/
def Derives (request : Request) (e : Endpoint) : Prop :=
  ∃ host, request.uri.host = some host ∧ endpointOf host = .ok e

/-- The endpoint that the first request of a session asks for. -/
def Asks (request : Request) (e : Endpoint) : Prop :=
  if request.method = .connect then Endpoint.fromStr request.uri.text = .ok e else Derives request e

lemma Asks.derives {request : Request} {e : Endpoint} (h : Asks request e)
    (hmethod : request.method ≠ .connect) : Derives request e := by
  rwa [Asks, if_neg hmethod] at h

variable (parseUri : String → Option Uri)

/-- A request that was forwarded is for the given endpoint, and every other request fails. -/
structure Later (e : Endpoint) (x : Entry) : Prop where
  forwarded : ∀ request, x.forwarded = some request → x.request.method ≠ .connect ∧
    Derives x.request e ∧ transformProxyRequest parseUri x.request = some request
  failed : x.forwarded = none → ∀ reply, x.reply = some reply → ∃ message, reply = .error message

/-- Only the first request can be a successful `CONNECT`, and if it is none, all later requests
go to its endpoint, which is the one that was sent. -/
structure Orderly (sent : List (Bool × Endpoint)) (log : List Entry) : Prop where
  connect : ∀ i x, log[i]? = some x → x.request.method = .connect → x.reply = some .response → i = 0
  later : ∀ first x rest, log = first :: x :: rest → first.request.method ≠ .connect →
    ∃ e, sent = [(false, e)] ∧ Derives first.request e ∧ ∀ y ∈ x :: rest, Later parseUri e y

/-- No session panics, and its requests are orderly. -/
structure Safe (s : Session) : Prop where
  noPanic : ∀ message, s.caller ≠ .panicked message
  once : s.sent.length ≤ 1
  orderly : Orderly parseUri s.sent s.log

/-- A log whose first request is no `CONNECT`. -/
inductive PlainFirst (e : Endpoint) : List Entry → Prop
  | mk (first : Entry) (rest : List Entry) (hmethod : first.request.method ≠ .connect)
      (hderives : Derives first.request e) (hrest : ∀ x ∈ rest, Later parseUri e x) :
      PlainFirst e (first :: rest)

section

variable {parseUri} {e : Endpoint} {sent : List (Bool × Endpoint)} {log : List Entry} {x x' : Entry}

lemma later_undecided (request : Request) : Later parseUri e ⟨request, none, none⟩ where
  forwarded _ h := by cases h
  failed _ _ h := by cases h

lemma later_failed (request : Request) (message : String) :
    Later parseUri e ⟨request, none, some (.error message)⟩ where
  forwarded _ h := by cases h
  failed _ _ h := ⟨message, (Option.some.inj h).symm⟩

lemma later_forwarded {request forwarded : Request} (hmethod : request.method ≠ .connect)
    (hderives : Derives request e)
    (htransform : transformProxyRequest parseUri request = some forwarded) (reply : Option Reply) :
    Later parseUri e ⟨request, some forwarded, reply⟩ where
  forwarded request' h := ⟨hmethod, hderives, htransform.trans h⟩
  failed h := by cases h

/-- A later request is no successful `CONNECT`. -/
lemma Later.not_connect (h : Later parseUri e x) (hconnect : x.request.method = .connect) :
    x.reply ≠ some .response := by
  intro hreply
  cases hforwarded : x.forwarded with
  | some request => exact (h.forwarded request hforwarded).1 hconnect
  | none =>
    obtain ⟨message, heq⟩ := h.failed hforwarded _ hreply
    cases heq

lemma orderly_nil : Orderly parseUri sent [] where
  connect i x h := by simp at h
  later first x rest h := by cases h

lemma orderly_singleton (x : Entry) : Orderly parseUri sent [x] where
  connect i y h _ _ := by
    rw [List.getElem?_singleton] at h
    by_contra hi
    rw [if_neg hi] at h
    cases h
  later first y rest h := by cases h

lemma Orderly.of_append {log' : List Entry} (h : Orderly parseUri sent (log ++ log')) :
    Orderly parseUri sent log where
  connect i y hy := h.connect i y (by rw [List.getElem?_append_left
    (List.getElem?_eq_some_iff.mp hy).1, hy])
  later first y rest hlog hmethod := by
    subst hlog
    obtain ⟨e, hsent, hderives, hrest⟩ := h.later first y (rest ++ log') rfl hmethod
    refine ⟨e, hsent, hderives, fun z hz => hrest z ?_⟩
    exact List.mem_append_left log' hz

lemma PlainFirst.orderly (h : PlainFirst parseUri e log) : Orderly parseUri [(false, e)] log := by
  obtain ⟨first, rest, hmethod, hderives, hrest⟩ := h
  constructor
  · intro i y hy hconnect hreply
    cases i with
    | zero => rfl
    | succ i =>
      rw [List.getElem?_cons_succ] at hy
      exact absurd hreply ((hrest y (List.mem_of_getElem? hy)).not_connect hconnect)
  · intro first' y rest' hlog _
    cases hlog
    exact ⟨e, rfl, hderives, hrest⟩

lemma PlainFirst.append (h : PlainFirst parseUri e log) (hx : Later parseUri e x) :
    PlainFirst parseUri e (log ++ [x]) := by
  obtain ⟨first, rest, hmethod, hderives, hrest⟩ := h
  refine .mk first (rest ++ [x]) hmethod hderives ?_
  exact List.forall_mem_append.mpr ⟨hrest, List.forall_mem_singleton.mpr hx⟩

/-- More is known of the last request. -/
lemma PlainFirst.update (h : PlainFirst parseUri e (log ++ [x])) (hrequest : x'.request = x.request)
    (hx : Later parseUri e x') : PlainFirst parseUri e (log ++ [x']) := by
  cases log with
  | nil =>
    cases h with
    | mk first rest hmethod hderives hrest =>
      exact .mk x' [] (hrequest ▸ hmethod) (hrequest ▸ hderives) (by simp)
  | cons first rest =>
    rw [List.cons_append] at h
    cases h with
    | mk _ _ hmethod hderives hrest =>
      refine .mk first (rest ++ [x']) hmethod hderives ?_
      rw [List.forall_mem_append] at hrest ⊢
      exact ⟨hrest.1, List.forall_mem_singleton.mpr hx⟩

end

/-! ### What a handler does with a request -/

/-- The first request fails, or its endpoint is sent. -/
lemma beginHandler_new (request : Request) :
    (∃ c message, beginHandler parseUri .new request true = (c, .finished ⟨none, .error message⟩)) ∨
    ∃ e, Asks request e ∧ beginHandler parseUri .new request true
        = (⟨.notConnected false, some (decide (request.method = .connect), e)⟩,
            .suspended (.done request e)) := by
  by_cases hmethod : request.method = .connect
  · cases hparse : Endpoint.fromStr request.uri.text with
    | error message =>
      left
      simp [beginHandler, beginConnect, Connection.new, hmethod, hparse]
    | ok e =>
      right
      refine ⟨e, ?_, by simp [beginHandler, beginConnect, Connection.new, hmethod, hparse]⟩
      rw [Asks, if_pos hmethod, hparse]
  · cases hhost : request.uri.host with
    | none =>
      left
      simp [beginHandler, beginFirst, Connection.new, hmethod, hhost]
    | some host =>
      cases hendpoint : endpointOf host with
      | error message =>
        left
        simp [beginHandler, beginFirst, Connection.new, hmethod, hhost, hendpoint]
      | ok e =>
        right
        refine ⟨e, ?_, by
          simp [beginHandler, beginFirst, Connection.new, hmethod, hhost, hendpoint]⟩
        rw [Asks, if_neg hmethod]
        exact ⟨host, hhost, hendpoint⟩

/-- A later request fails, or it is for the same endpoint and waits to be forwarded. -/
lemma beginHandler_connected (e : Endpoint) (delivered : Option (Bool × Endpoint))
    (request : Request) (receiver : Bool) :
    (∃ message, beginHandler parseUri ⟨.connected e, delivered⟩ request receiver
      = (⟨.connected e, delivered⟩, .finished ⟨none, .error message⟩)) ∨
    ∃ forwarded, request.method ≠ .connect ∧ Derives request e ∧
      transformProxyRequest parseUri request = some forwarded ∧
      beginHandler parseUri ⟨.connected e, delivered⟩ request receiver
        = (⟨.connected e, delivered⟩, .suspended (.ready request forwarded)) := by
  by_cases hmethod : request.method = .connect
  · left
    simp [beginHandler, beginConnect, hmethod]
  · cases hhost : request.uri.host with
    | none =>
      left
      simp [beginHandler, beginNext, hmethod, hhost]
    | some host =>
      cases hendpoint : endpointOf host with
      | error message =>
        left
        simp [beginHandler, beginNext, hmethod, hhost, hendpoint]
      | ok e' =>
        by_cases htarget : e' = e
        · subst htarget
          cases htransform : transformProxyRequest parseUri request with
          | none =>
            left
            simp [beginHandler, beginNext, hmethod, hhost, hendpoint, htransform]
          | some forwarded =>
            right
            exact ⟨forwarded, hmethod, ⟨host, hhost, hendpoint⟩, rfl, by
              simp [beginHandler, beginNext, hmethod, hhost, hendpoint, htransform]⟩
        · left
          simp [beginHandler, beginNext, hmethod, hhost, hendpoint, htarget]

/-! ### The states of a session -/

/-- The caller of the handshake has nothing to do with the session any more. -/
def Caller.over : Caller → Bool
  | .spawned _ | .finished _ _ | .failed _ | .dropped => true
  | _                                                 => false

/-- What the handler of a later request can wait for. -/
inductive Suspended.Fits (e : Endpoint) : Suspended → Prop
  | ready (request forwarded : Request) (hmethod : request.method ≠ .connect)
      (hderives : Derives request e)
      (htransform : transformProxyRequest parseUri request = some forwarded) :
      Fits e (.ready request forwarded)
  | response (request forwarded : Request) (hmethod : request.method ≠ .connect)
      (hderives : Derives request e)
      (htransform : transformProxyRequest parseUri request = some forwarded) :
      Fits e (.response request forwarded)

inductive Phase : Session → Prop
  | fresh : Phase .new
  /-- The endpoint was sent, and the future of the handshake does not poll the connection yet. -/
  | announced (request : Request) (connect : Bool) (e : Endpoint)
      (endpointChannel : Oneshot (Bool × Endpoint)) (caller : Caller)
      (hconnect : connect = decide (request.method = .connect))
      (hasks : Asks request e)
      (hchannel : endpointChannel.sender = .sent (connect, e))
      (hcaller : caller = .selecting ∨ caller = .returned connect e ∨
        (connect = false ∧ caller = .handshaking e)) :
      Phase ⟨⟨.notConnected false, some (connect, e)⟩, some (.done request e), .running,
        endpointChannel, .new, caller, [(connect, e)], []⟩
  /-- The done signal was sent for a `CONNECT`. -/
  | tunnelling (request : Request) (e : Endpoint) (endpointChannel : Oneshot (Bool × Endpoint))
      (hmethod : request.method = .connect) :
      Phase ⟨⟨.notConnected false, some (true, e)⟩, some (.done request e), .running,
        endpointChannel, ⟨.sent none, true⟩, .polling e, [(true, e)], []⟩
  | tunnelled (request : Request) (e : Endpoint) (endpointChannel : Oneshot (Bool × Endpoint))
      (doneChannel : Oneshot (Option Unit)) :
      Phase ⟨⟨.notConnected false, some (true, e)⟩, none, .tunnelled, endpointChannel, doneChannel,
        .polling e, [(true, e)], [(request, ⟨none, .response⟩)]⟩
  /-- The done signal was sent for another request. -/
  | connecting (request : Request) (e : Endpoint) (endpointChannel : Oneshot (Bool × Endpoint))
      (hmethod : request.method ≠ .connect) (hderives : Derives request e) :
      Phase ⟨⟨.notConnected false, some (false, e)⟩, some (.done request e), .running,
        endpointChannel, ⟨.sent (some ()), true⟩, .spawned e, [(false, e)], []⟩
  /-- Requests are forwarded. -/
  | forwarding (e : Endpoint) (suspended : Option Suspended)
      (endpointChannel : Oneshot (Bool × Endpoint)) (doneChannel : Oneshot (Option Unit))
      (served : List (Request × Answer)) (hfits : ∀ place ∈ suspended, place.Fits parseUri e)
      (hlog : PlainFirst parseUri e
        (served.map Entry.ofServed ++ (suspended.map Suspended.entry).toList)) :
      Phase ⟨⟨.connected e, some (false, e)⟩, suspended, .running, endpointChannel, doneChannel,
        .spawned e, [(false, e)], served⟩
  | closed (s : Session) (hserving : s.serving = .closed) (hsuspended : s.suspended = none)
      (hcaller : s.caller.over = true) (honce : s.sent.length ≤ 1)
      (horderly : Orderly parseUri s.sent (s.served.map Entry.ofServed)) : Phase s

variable {parseUri} {s : Session}

/-- In all these states a session is safe. -/
lemma Phase.safe (h : Phase parseUri s) : Safe parseUri s := by
  cases h with
  | fresh => exact ⟨by simp [Session.new], by simp [Session.new], orderly_nil⟩
  | announced request connect e endpointChannel caller hconnect hasks hchannel hcaller =>
    refine ⟨?_, le_rfl, orderly_singleton _⟩
    rintro message rfl
    simp at hcaller
  | tunnelling request e endpointChannel hmethod =>
    exact ⟨by simp, le_rfl, orderly_singleton _⟩
  | tunnelled request e endpointChannel doneChannel =>
    exact ⟨by simp, le_rfl, orderly_singleton _⟩
  | connecting request e endpointChannel hmethod hderives =>
    exact ⟨by simp, le_rfl, orderly_singleton _⟩
  | forwarding e suspended endpointChannel doneChannel served hfits hlog =>
    exact ⟨by simp, le_rfl, hlog.orderly⟩
  | closed _ hserving hsuspended hcaller honce horderly =>
    refine ⟨?_, honce, ?_⟩
    · intro message heq
      rw [heq] at hcaller
      cases hcaller
    · rw [Session.log, hsuspended]
      simpa using horderly

/-- The end of a connection. -/
lemma Phase.of_dropCaller {caller : Caller} (hcaller : caller.over = true)
    (hsafe : Safe parseUri s) : Phase parseUri (s.dropCaller caller) :=
  .closed _ rfl rfl hcaller hsafe.once hsafe.orderly.of_append

lemma Phase.of_resolve (hpolls : s.caller.polls = true) (honce : s.sent.length ≤ 1)
    (horderly : Orderly parseUri s.sent (s.served.map Entry.ofServed))
    (result : Except String Unit) : Phase parseUri (s.resolve result) := by
  rw [Session.resolve]
  split
  case h_1 => exact .closed _ rfl rfl rfl honce horderly
  case h_2 => exact .closed _ rfl rfl rfl honce horderly
  case h_3 hselecting hpolling =>
    refine .closed _ rfl rfl ?_ honce horderly
    rw [Session.dropConnection]
    cases hcaller : s.caller <;> simp_all [Caller.polls, Caller.over]

/-! ### What an event does -/

/-- A request that fails ends the connection. -/
lemma Phase.of_error {c : Connection} {request : Request} {forwarded : Option Request}
    {message : String} (hpolls : s.caller.polls = true) (honce : s.sent.length ≤ 1)
    (horderly : Orderly parseUri s.sent
      (s.served.map Entry.ofServed ++ [⟨request, forwarded, some (.error message)⟩])) :
    Phase parseUri (s.advance request (c, .finished ⟨forwarded, .error message⟩)) := by
  have hstep : s.advance request (c, .finished ⟨forwarded, .error message⟩)
      = Session.resolve { s with
          connection := c
          suspended := none
          served := s.served ++ [(request, ⟨forwarded, .error message⟩)] } (.error message) := rfl
  rw [hstep]
  refine Phase.of_resolve ?_ ?_ ?_ _
  · exact hpolls
  · exact honce
  · rw [List.map_append]
    exact horderly

/-- A request is not dispatched before the last one is answered, nor after a tunnel was opened. -/
lemma request_of_waits (request : Request) (h : s.suspended ≠ none ∨ s.serving ≠ .running) :
    s.request parseUri request = s := by
  rw [Session.request, if_neg]
  intro hdispatch
  simp only [Bool.and_eq_true, decide_eq_true_eq, Option.isNone_iff_eq_none] at hdispatch
  exact h.elim (absurd hdispatch.1.2) (absurd hdispatch.2)

lemma Phase.request_new (request : Request) :
    Phase parseUri (Session.request parseUri .new request) := by
  rcases beginHandler_new parseUri request with ⟨c, message, hbegin⟩ | ⟨e, hasks, hbegin⟩
  · have hstep : Session.request parseUri .new request
        = Session.new.advance request (c, .finished ⟨none, .error message⟩) := by
      simp [Session.request, Session.new, Caller.polls, Oneshot.new, hbegin]
    rw [hstep]
    exact .of_error rfl (Nat.zero_le _) (orderly_singleton _)
  · have hstep : Session.request parseUri .new request
        = (Session.new.announce (request.method = .connect) e).advance request
            (⟨.notConnected false, some (decide (request.method = .connect), e)⟩,
              .suspended (.done request e)) := by
      simp [Session.request, Session.new, Caller.polls, Oneshot.new, hbegin]
    rw [hstep]
    exact .announced request _ e _ _ rfl hasks rfl (.inl rfl)

lemma Phase.request_forwarding {e : Endpoint} {endpointChannel : Oneshot (Bool × Endpoint)}
    {doneChannel : Oneshot (Option Unit)} {served : List (Request × Answer)}
    (hlog : PlainFirst parseUri e (served.map Entry.ofServed)) (request : Request) :
    Phase parseUri (Session.request parseUri ⟨⟨.connected e, some (false, e)⟩, none, .running,
      endpointChannel, doneChannel, .spawned e, [(false, e)], served⟩ request) := by
  rcases beginHandler_connected parseUri e (some (false, e)) request endpointChannel.receiver with
    ⟨message, hbegin⟩ | ⟨forwarded, hmethod, hderives, htransform, hbegin⟩
  · simp only [Session.request, Caller.polls, hbegin, Option.isNone_none, Bool.and_self,
      decide_true, if_true]
    exact .of_error rfl le_rfl (hlog.append (later_failed request message)).orderly
  · simp only [Session.request, Caller.polls, hbegin, Option.isNone_none, Bool.and_self,
      decide_true, if_true]
    refine .forwarding e (some (.ready request forwarded)) endpointChannel doneChannel served ?_
      (hlog.append (later_undecided request))
    rintro place ⟨⟩
    exact .ready request forwarded hmethod hderives htransform

lemma Phase.request (h : Phase parseUri s) (request : Request) :
    Phase parseUri (s.request parseUri request) := by
  cases h with
  | fresh => exact .request_new request
  | announced request' connect e endpointChannel caller hconnect hasks hchannel hcaller =>
    rw [request_of_waits request (.inl (by simp))]
    exact .announced request' connect e endpointChannel caller hconnect hasks hchannel hcaller
  | tunnelling request' e endpointChannel hmethod =>
    rw [request_of_waits request (.inl (by simp))]
    exact .tunnelling request' e endpointChannel hmethod
  | tunnelled request' e endpointChannel doneChannel =>
    rw [request_of_waits request (.inr (by simp))]
    exact .tunnelled request' e endpointChannel doneChannel
  | connecting request' e endpointChannel hmethod hderives =>
    rw [request_of_waits request (.inl (by simp))]
    exact .connecting request' e endpointChannel hmethod hderives
  | forwarding e suspended endpointChannel doneChannel served hfits hlog =>
    cases suspended with
    | some place =>
      rw [request_of_waits request (.inl (by simp))]
      exact .forwarding e (some place) endpointChannel doneChannel served hfits hlog
    | none =>
      simp only [Option.map_none, Option.toList_none, List.append_nil] at hlog
      exact .request_forwarding hlog request
  | closed _ hserving hsuspended hcaller honce horderly =>
    rw [request_of_waits request (.inr (by simp [hserving]))]
    exact .closed s hserving hsuspended hcaller honce horderly

/-- The handler of a request that is to be forwarded is polled. -/
lemma Phase.resume_forwarding {e : Endpoint} {endpointChannel : Oneshot (Bool × Endpoint)}
    {doneChannel : Oneshot (Option Unit)} {served : List (Request × Answer)} {place : Suspended}
    (hfits : place.Fits parseUri e)
    (hlog : PlainFirst parseUri e (served.map Entry.ofServed ++ [place.entry]))
    (outcome : Except String Unit) :
    Phase parseUri (Session.resume parseUri ⟨⟨.connected e, some (false, e)⟩, some place, .running,
      endpointChannel, doneChannel, .spawned e, [(false, e)], served⟩ outcome) := by
  cases hfits with
  | ready request forwarded hmethod hderives htransform =>
    cases outcome with
    | error message =>
      have hfailed : PlainFirst parseUri e (served.map Entry.ofServed ++
          [⟨request, none, some (.error message)⟩]) :=
        hlog.update rfl (later_failed request message)
      simp only [Session.resume, Caller.polls, if_true, HttpProxy.resume]
      exact .of_error rfl le_rfl hfailed.orderly
    | ok _ =>
      refine .forwarding e (some (.response request forwarded)) endpointChannel doneChannel
        served ?_ (hlog.update rfl (later_forwarded hmethod hderives htransform _))
      rintro place ⟨⟩
      exact .response request forwarded hmethod hderives htransform
  | response request forwarded hmethod hderives htransform =>
    have hanswered : ∀ reply, PlainFirst parseUri e (served.map Entry.ofServed ++
        [⟨request, some forwarded, some reply⟩]) := by
      intro reply
      exact hlog.update rfl (later_forwarded hmethod hderives htransform _)
    cases outcome with
    | error message =>
      simp only [Session.resume, Caller.polls, if_true, HttpProxy.resume, Reply.of]
      exact .of_error rfl le_rfl (hanswered (.error message)).orderly
    | ok _ =>
      simp only [Session.resume, Caller.polls, if_true, HttpProxy.resume, Session.advance,
        Session.finish, Reply.of, hmethod, if_false]
      refine .forwarding e none endpointChannel doneChannel _ (by simp) ?_
      simpa [Entry.ofServed] using hanswered .response

lemma Phase.resume (h : Phase parseUri s) (outcome : Except String Unit) :
    Phase parseUri (s.resume parseUri outcome) := by
  cases h with
  | fresh => exact .fresh
  | announced request connect e endpointChannel caller hconnect hasks hchannel hcaller =>
    have hstep : Session.resume parseUri ⟨⟨.notConnected false, some (connect, e)⟩,
        some (.done request e), .running, endpointChannel, .new, caller, [(connect, e)], []⟩ outcome
        = ⟨⟨.notConnected false, some (connect, e)⟩, some (.done request e), .running,
          endpointChannel, .new, caller, [(connect, e)], []⟩ := by
      simp [Session.resume, Oneshot.poll, Oneshot.new]
    rw [hstep]
    exact .announced request connect e endpointChannel caller hconnect hasks hchannel hcaller
  | tunnelling request e endpointChannel hmethod =>
    simp only [Session.resume, Caller.polls, if_true, Oneshot.poll, HttpProxy.resume, hmethod,
      Session.advance, Session.finish]
    exact .tunnelled request e endpointChannel _
  | tunnelled request e endpointChannel doneChannel =>
    exact .tunnelled request e endpointChannel doneChannel
  | connecting request e endpointChannel hmethod hderives =>
    simp only [Session.resume, Caller.polls, if_true, Oneshot.poll, HttpProxy.resume, hmethod,
      if_false]
    cases htransform : transformProxyRequest parseUri request with
    | none => exact .of_error rfl le_rfl (orderly_singleton _)
    | some forwarded =>
      refine .forwarding e (some (.response request forwarded)) endpointChannel _ [] ?_
        (.mk _ [] hmethod hderives (by simp))
      rintro place ⟨⟩
      exact .response request forwarded hmethod hderives htransform
  | forwarding e suspended endpointChannel doneChannel served hfits hlog =>
    cases suspended with
    | none => exact .forwarding e none endpointChannel doneChannel served hfits hlog
    | some place => exact .resume_forwarding (hfits place rfl) hlog outcome
  | closed _ hserving hsuspended hcaller honce horderly =>
    have hstep : s.resume parseUri outcome = s := by
      simp [Session.resume, hsuspended]
    rw [hstep]
    exact .closed s hserving hsuspended hcaller honce horderly

lemma Phase.ended (h : Phase parseUri s) (hpolls : s.caller.polls = true)
    (result : Except String Unit) : Phase parseUri (s.resolve result) :=
  .of_resolve hpolls h.safe.once h.safe.orderly.of_append result

lemma receive_of_over (h : s.caller.over = true) : s.receive = s := by
  rw [Session.receive]
  cases hcaller : s.caller <;> simp_all [Caller.over]

lemma proceed_of_over (h : s.caller.over = true) (client : Poll (Except String Unit)) :
    s.proceed client = s := by
  rw [Session.proceed]
  cases hcaller : s.caller <;> simp_all [Caller.over]

lemma Phase.receive (h : Phase parseUri s) : Phase parseUri s.receive := by
  cases h with
  | fresh => exact .fresh
  | announced request connect e endpointChannel caller hconnect hasks hchannel hcaller =>
    rcases hcaller with rfl | rfl | ⟨hplain, rfl⟩
    · simp only [Session.receive, Oneshot.poll, hchannel]
      exact .announced request connect e _ _ hconnect hasks hchannel (.inr (.inl rfl))
    · exact .announced request connect e _ _ hconnect hasks hchannel (.inr (.inl rfl))
    · exact .announced request connect e _ _ hconnect hasks hchannel (.inr (.inr ⟨hplain, rfl⟩))
  | tunnelling request e endpointChannel hmethod =>
    exact .tunnelling request e endpointChannel hmethod
  | tunnelled request e endpointChannel doneChannel =>
    exact .tunnelled request e endpointChannel doneChannel
  | connecting request e endpointChannel hmethod hderives =>
    exact .connecting request e endpointChannel hmethod hderives
  | forwarding e suspended endpointChannel doneChannel served hfits hlog =>
    exact .forwarding e suspended endpointChannel doneChannel served hfits hlog
  | closed _ hserving hsuspended hcaller honce horderly =>
    rw [receive_of_over hcaller]
    exact .closed s hserving hsuspended hcaller honce horderly

lemma Phase.proceed (h : Phase parseUri s) (client : Poll (Except String Unit)) :
    Phase parseUri (s.proceed client) := by
  have hsafe := h.safe
  cases h with
  | fresh => exact .fresh
  | announced request connect e endpointChannel caller hconnect hasks hchannel hcaller =>
    -- an upstream connection is opened for a request that is no `CONNECT`
    have hopen : connect = false → Phase parseUri (Session.openUpstream
        ⟨⟨.notConnected false, some (connect, e)⟩, some (.done request e), .running,
          endpointChannel, .new, caller, [(connect, e)], []⟩ e client) := by
      rintro rfl
      have hmethod : request.method ≠ .connect := by simpa using hconnect
      rcases client with (message | ⟨⟩) | _
      · exact .of_dropCaller rfl hsafe
      · exact .connecting request e endpointChannel hmethod (hasks.derives hmethod)
      · exact .announced request false e _ _ hconnect hasks hchannel (.inr (.inr ⟨rfl, rfl⟩))
    rcases hcaller with rfl | rfl | ⟨hplain, rfl⟩
    · exact .announced request connect e _ _ hconnect hasks hchannel (.inl rfl)
    · cases connect with
      | true => exact .tunnelling request e endpointChannel (by simpa using hconnect)
      | false => exact hopen rfl
    · exact hopen hplain
  | tunnelling request e endpointChannel hmethod =>
    exact .tunnelling request e endpointChannel hmethod
  | tunnelled request e endpointChannel doneChannel =>
    exact .tunnelled request e endpointChannel doneChannel
  | connecting request e endpointChannel hmethod hderives =>
    exact .connecting request e endpointChannel hmethod hderives
  | forwarding e suspended endpointChannel doneChannel served hfits hlog =>
    exact .forwarding e suspended endpointChannel doneChannel served hfits hlog
  | closed _ hserving hsuspended hcaller honce horderly =>
    rw [proceed_of_over hcaller]
    exact .closed s hserving hsuspended hcaller honce horderly

lemma Phase.drop (h : Phase parseUri s) : Phase parseUri s.drop := by
  rw [Session.drop]
  have hover : (s.dropCaller .dropped).caller.over = true := rfl
  split
  case h_1 => exact .of_dropCaller hover h.safe
  case h_2 => exact .of_dropCaller hover h.safe
  case h_3 => exact .of_dropCaller hover h.safe
  case h_4 => exact .of_dropCaller hover h.safe
  case h_5 hcaller =>
    refine .closed _ rfl rfl ?_ h.safe.once h.safe.orderly.of_append
    rw [Session.dropConnection, hcaller]
    rfl
  case h_6 => exact h

lemma Phase.step (h : Phase parseUri s) (event : Event) :
    Phase parseUri ((Session.machine parseUri).step s event).1 := by
  cases event with
  | request request => exact h.request request
  | resume outcome => exact h.resume outcome
  | ended result =>
    simp only [Session.machine]
    split
    case isTrue hpolls =>
      rw [Bool.and_eq_true] at hpolls
      exact h.ended hpolls.1 result
    case isFalse => exact h
  | receive => exact h.receive
  | proceed client => exact h.proceed client
  | drop => exact h.drop

/-- Whatever happens in a session, in whatever order: nothing panics, one endpoint is sent at most,
only the first request can be a successful `CONNECT`, and if it is another request, every later
request is forwarded to its endpoint or fails. -/
theorem session_safe (parseUri : String → Option Uri) (events : List Event) :
    Safe parseUri ((Session.machine parseUri).run .new events) := by
  apply Phase.safe
  exact (Session.machine parseUri).run_invariant (fun s event h => h.step event) .fresh events

/-- A request without headers for the root of a host. -/
def rootRequest (host : Host) : Request where
  method := .other "GET"
  uri := ⟨"http://" ++ String.ofList host.text ++ "/", some host, none, some "/"⟩
  headers := []
  body := []

-- one request is answered, and the next one, for another host, ends the connection
example : ((Session.machine fun path => some ⟨path, none, none, some path⟩).run .new
    [.request (rootRequest ⟨['a'], .inl (by decide)⟩), .receive, .proceed (.ready (.ok ())),
      .resume (.ok ()), .resume (.ok ()),
      .request (rootRequest ⟨['b'], .inl (by decide)⟩)]).log.map Entry.reply
    = [some .response,
        some (.error "Do not support using same connection for requests to different hosts")] := by
  decide

end Dandelion.Acceptor.HttpProxy
