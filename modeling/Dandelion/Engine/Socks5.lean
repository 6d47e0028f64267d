import Dandelion.Acceptor.Socks5.Grammar
import Dandelion.Engine.Trace

/-!
# SOCKS5 connections of the engine

What a SOCKS5 client and its target see of the engine. Until the handler has returned a connection
to the target, the client gets nothing but the answer to its greeting. Afterwards it gets the reply
and then what the target sends, and the target gets what the client sends after its request, byte by
byte.
-/

namespace Dandelion.Engine

open Acceptor.Socks5 Proc Tasks

namespace Socks5

/-! ### What the client and the target see -/

/-- The bytes that are read from the client. -/
def fromClient (ls : List (Label Proc.Act)) : List UInt8 :=
  ls.flatMap fun
    | .handshake (.got f)      => f
    | .relayed (.read .left f) => f
    | _                        => []

/-- The bytes that are written to the client. -/
def toClient (ls : List (Label Proc.Act)) : List UInt8 :=
  ls.flatMap fun
    | .handshake (.wrote f)      => f
    | .relayed (.wrote .right f) => f
    | _                          => []

/-- The bytes that are read from the target. -/
def fromTarget (ls : List (Label Proc.Act)) : List UInt8 := Relay.bytesRead .right (Label.relays ls)

/-- The bytes that are written to the target. -/
def toTarget (ls : List (Label Proc.Act)) : List UInt8 := Relay.bytesWritten .left (Label.relays ls)

/-- The client has sent the given greeting and request. -/
structure Accepted (ls : List (Label Proc.Act)) (e : Endpoint) (greeting request : List UInt8)
    (requestType : UInt8) : Prop where
  isGreeting : Greeting greeting
  isRequest : Request requestType request e
  /-- What else it has sent is written to the target, but for what is in a buffer. -/
  forwarded : ∃ rest, fromClient ls = greeting ++ request ++ toTarget ls ++ rest ∧
    rest.length ≤ bufferSize
  /-- Before the reply was written nothing is read from the target. -/
  replied : (Label.relays ls = [] ∧ toClient ls <+: [5, 0] ++ response requestType) ∨
    ∃ rest, [5, 0] ++ response requestType ++ fromTarget ls = toClient ls ++ rest ∧
      rest.length ≤ bufferSize
  /-- A side is shut down only after all that the other one has sent was written to it. -/
  shutdownTarget : .shutdown .left ∈ Label.relays ls → .eof .left ∈ Label.relays ls ∧
    fromClient ls = greeting ++ request ++ toTarget ls
  shutdownClient : .shutdown .right ∈ Label.relays ls → .eof .right ∈ Label.relays ls ∧
    [5, 0] ++ response requestType ++ fromTarget ls = toClient ls
  finished : .finished ∈ ls → ∀ p, .shutdown p ∈ Label.relays ls

/-- What is known of a connection after the given steps. -/
structure Transparent (ls : List (Label Proc.Act)) : Prop where
  calledOnce : (Label.calls ls).length ≤ 1
  /-- Until there is a connection to the target the client gets nothing but the answer to its
  greeting. -/
  unconnected : .connected ∉ ls → toClient ls <+: [5, 0] ∧ Label.relays ls = []
  accepted : ∀ request ∈ Label.calls ls, ∃ greeting bytes requestType,
    Accepted ls request.endpoint greeting bytes requestType
  /-- An error names the target that the handler was called for. -/
  failed : ∀ e, .failed e ∈ ls →
    e.contexts.head? = (Label.calls ls).head?.map fun request => targetContext request.endpoint

/-! ### The parts of a run -/

variable {ls ls' : List (Label Proc.Act)} {hs hs' : List Proc.Act} {P : Proc String Unit}

@[simp] lemma fromClient_append : fromClient (ls ++ ls') = fromClient ls ++ fromClient ls' := by
  simp [fromClient]

@[simp] lemma toClient_append : toClient (ls ++ ls') = toClient ls ++ toClient ls' := by
  simp [toClient]

lemma fromClient_cons (l : Label Proc.Act) (ls : List (Label Proc.Act)) :
    fromClient (l :: ls) = fromClient [l] ++ fromClient ls := by
  simp [fromClient]

lemma toClient_cons (l : Label Proc.Act) (ls : List (Label Proc.Act)) :
    toClient (l :: ls) = toClient [l] ++ toClient ls := by
  simp [toClient]

@[simp] lemma fromClient_called (request : ConnectRequest) (ls : List (Label Proc.Act)) :
    fromClient (.called request :: ls) = fromClient ls := rfl

@[simp] lemma fromClient_connected (ls : List (Label Proc.Act)) :
    fromClient (.connected :: ls) = fromClient ls := rfl

@[simp] lemma fromClient_completed (ls : List (Label Proc.Act)) :
    fromClient (.completed :: ls) = fromClient ls := rfl

@[simp] lemma fromClient_finished (ls : List (Label Proc.Act)) :
    fromClient (.finished :: ls) = fromClient ls := rfl

@[simp] lemma toClient_called (request : ConnectRequest) (ls : List (Label Proc.Act)) :
    toClient (.called request :: ls) = toClient ls := rfl

@[simp] lemma toClient_connected (ls : List (Label Proc.Act)) :
    toClient (.connected :: ls) = toClient ls := rfl

@[simp] lemma toClient_completed (ls : List (Label Proc.Act)) :
    toClient (.completed :: ls) = toClient ls := rfl

@[simp] lemma toClient_finished (ls : List (Label Proc.Act)) :
    toClient (.finished :: ls) = toClient ls := rfl

@[simp] lemma fromClient_nil : fromClient [] = [] := rfl

@[simp] lemma toClient_nil : toClient [] = [] := rfl

@[simp] lemma fromClient_handshakes (hs : List Proc.Act) :
    fromClient (hs.map .handshake) = gotBytes hs := by
  induction hs with
  | nil => rfl
  | cons a hs ih =>
    rw [List.map_cons, fromClient_cons, ih]
    cases a <;> simp [fromClient, gotBytes]

@[simp] lemma toClient_handshakes (hs : List Proc.Act) :
    toClient (hs.map .handshake) = wroteBytes hs := by
  induction hs with
  | nil => rfl
  | cons a hs ih =>
    rw [List.map_cons, toClient_cons, ih]
    cases a <;> simp [toClient, wroteBytes]

@[simp] lemma fromClient_relays (acts : List Relay.Act) :
    fromClient (acts.map .relayed) = Relay.bytesRead .left acts := by
  induction acts with
  | nil => rfl
  | cons a acts ih =>
    rw [List.map_cons, fromClient_cons, ih]
    rcases a with ⟨_ | _, f⟩ | p | ⟨p, f⟩ | p <;>
      simp [fromClient, Relay.bytesRead, Relay.Act.bytesRead]

@[simp] lemma toClient_relays (acts : List Relay.Act) :
    toClient (acts.map .relayed) = Relay.bytesWritten .right acts := by
  induction acts with
  | nil => rfl
  | cons a acts ih =>
    rw [List.map_cons, toClient_cons, ih]
    rcases a with ⟨p, f⟩ | p | ⟨_ | _, f⟩ | p <;>
      simp [toClient, Relay.bytesWritten, Relay.Act.bytesWritten]

lemma steps_of_reaches {α : Type} {P Q : Proc String α}
    (h : Reaches Proc.Step P hs Q) : P.Steps hs Q := by
  induction h with
  | refl => exact .nil P
  | tail _ hstep ih => exact ih.tail hstep

/-- The client has sent a greeting and a request when the handler is called. -/
lemma of_calls {e : Endpoint} {reply : Proc String Unit} (h : Task.Calls socks5 hs e reply) :
    wroteBytes hs = [5, 0] ∧ ∃ greeting request requestType, Greeting greeting ∧
      Request requestType request e ∧ reply = Proc.write (response requestType) ∧
      gotBytes hs = greeting ++ request := by
  obtain ⟨first, hfirst, hreturns⟩ := h
  obtain rfl := Ends.eq_ret hreturns
  have hruns : Acceptor.Socks5.handshake.RunsOn (gotBytes hs) hs (ret (e, reply)) [] :=
    ⟨steps_of_reaches hfirst, by simp⟩
  obtain ⟨hwrote, greeting, request, requestType, hgreeting, hrequest, hreply, hgot⟩ :=
    handshake_returns_iff.mp hruns.returns
  exact ⟨hwrote, greeting, request, requestType, hgreeting, hrequest, hreply, by simpa using hgot⟩

/-- The answer to the greeting is all that is written before the handler is called. -/
lemma of_reaches {P : Proc String (Endpoint × Proc String Unit)}
    (h : Reaches Proc.Step Acceptor.Socks5.handshake hs P) : wroteBytes hs <+: [5, 0] := by
  have hstart := wroteBytes_start (steps_of_reaches h)
  rcases wrote_feed_handshake (gotBytes hs) with ⟨-, hwrote⟩ | ⟨-, hwrote⟩
  · rwa [hwrote] at hstart
  · rw [hwrote, List.prefix_nil] at hstart
    rw [hstart]
    exact List.nil_prefix

/-- After the reply there are no more steps of the handshake. -/
lemma eq_relays (hserves : Reaches Proc.Step (ret () : Proc String Unit) (Label.handshakes ls) P)
    (hls : ∀ l ∈ ls, (∃ h, l = .handshake h) ∨ ∃ a, l = .relayed a) :
    ls = (Label.relays ls).map .relayed := by
  refine Label.eq_relays ?_ hls
  cases hhs : Label.handshakes ls with
  | nil => rfl
  | cons a hs =>
    rw [hhs] at hserves
    cases steps_of_reaches hserves with
    | cons hstep => cases hstep

/-! ### The connections -/

variable {e : Endpoint} {greeting request : List UInt8} {requestType : UInt8}

/-- Nothing has passed yet between the client and the target. -/
lemma accepted_of_silent (hgreeting : Greeting greeting) (hrequest : Request requestType request e)
    (hrelays : Label.relays ls = []) (hfrom : fromClient ls = greeting ++ request)
    (hto : toClient ls <+: [5, 0] ++ response requestType) (hfinished : .finished ∉ ls) :
    Accepted ls e greeting request requestType where
  isGreeting := hgreeting
  isRequest := hrequest
  forwarded := ⟨[], by simp [hfrom, toTarget, hrelays], by simp⟩
  replied := .inl ⟨hrelays, hto⟩
  shutdownTarget h := by simp [hrelays] at h
  shutdownClient h := by simp [hrelays] at h
  finished h := absurd h hfinished

/-- The reply was written, and the relay has started. -/
lemma accepted_of_relay (hgreeting : Greeting greeting) (hrequest : Request requestType request e)
    {relay : Relay} (hrelay : relay.Runs bufferSize (Label.relays ls))
    (hfrom : fromClient ls = greeting ++ request ++ Relay.bytesRead .left (Label.relays ls))
    (hto : toClient ls
      = [5, 0] ++ response requestType ++ Relay.bytesWritten .right (Label.relays ls))
    (hfinished : .finished ∉ ls) : Accepted ls e greeting request requestType where
  isGreeting := hgreeting
  isRequest := hrequest
  forwarded := by
    obtain ⟨rest, hread, hlen⟩ := hrelay.bytesWritten_prefix .left
    exact ⟨rest, by simp [hfrom, hread, toTarget], hlen⟩
  replied := by
    obtain ⟨rest, hread, hlen⟩ := hrelay.bytesWritten_prefix .right
    exact .inr ⟨rest, by simp [hto, hread, fromTarget], hlen⟩
  shutdownTarget h := by
    obtain ⟨hread, heof⟩ := hrelay.of_shutdown h
    exact ⟨heof, by rw [hfrom, hread, toTarget]⟩
  shutdownClient h := by
    obtain ⟨hread, heof⟩ := hrelay.of_shutdown h
    exact ⟨heof, by rw [hto, ← hread, fromTarget]⟩
  finished h := absurd h hfinished

/-- A step that neither reads nor writes. -/
def IsMark (l : Label Proc.Act) : Prop :=
  fromClient [l] = [] ∧ toClient [l] = [] ∧ Label.relays [l] = [] ∧ Label.calls [l] = []

/-- The last step of a task. -/
lemma Accepted.append {l : Label Proc.Act} (h : Accepted ls e greeting request requestType)
    (hl : IsMark l) (hfinished : l = .finished → ∀ p, .shutdown p ∈ Label.relays ls) :
    Accepted (ls ++ [l]) e greeting request requestType := by
  obtain ⟨hfrom, hto, hrelays, -⟩ := hl
  have hrelays' : Label.relays (ls ++ [l]) = Label.relays ls := by simp [hrelays]
  have hfrom' : fromClient (ls ++ [l]) = fromClient ls := by simp [hfrom]
  have hto' : toClient (ls ++ [l]) = toClient ls := by simp [hto]
  obtain ⟨hgreeting, hrequest, hforwarded, hreplied, htarget, hclient, hfin⟩ := h
  refine ⟨hgreeting, hrequest, ?_, ?_, ?_, ?_, ?_⟩
  · rwa [hfrom', toTarget, hrelays']
  · rwa [hto', fromTarget, hrelays']
  · rwa [hfrom', toTarget, hrelays']
  · rwa [hto', fromTarget, hrelays']
  · rw [hrelays', List.mem_append, List.mem_singleton]
    rintro (hmem | rfl)
    · exact hfin hmem
    · exact hfinished rfl

lemma transparent_handshaking {P : Proc String (Endpoint × Proc String Unit)}
    (h : Reaches Proc.Step Acceptor.Socks5.handshake hs P) : Transparent (hs.map .handshake) where
  calledOnce := by simp
  unconnected _ := by simpa using of_reaches h
  accepted := by simp
  failed := by simp

/-- The handler was called once. -/
lemma Accepted.transparent (h : Accepted ls e greeting request requestType)
    (hcalls : Label.calls ls = [⟨e⟩])
    (hunconnected : .connected ∉ ls → toClient ls <+: [5, 0] ∧ Label.relays ls = [])
    (hfailed : ∀ f, .failed f ∉ ls) : Transparent ls where
  calledOnce := by simp [hcalls]
  unconnected := hunconnected
  accepted := by simpa [hcalls] using ⟨greeting, request, requestType, h⟩
  failed f hf := absurd hf (hfailed f)

/-- While the handler runs nothing is read or written. -/
lemma transparent_routing {reply : Proc String Unit} (h : Task.Calls socks5 hs e reply) :
    Transparent (hs.map .handshake ++ [.called ⟨e⟩]) := by
  obtain ⟨hwrote, greeting, request, requestType, hgreeting, hrequest, -, hgot⟩ := of_calls h
  have haccepted : Accepted (hs.map .handshake ++ [.called ⟨e⟩]) e greeting request requestType :=
    accepted_of_silent hgreeting hrequest (by simp [Label.relays]) (by simp [hgot])
      (by simp [hwrote]) (by simp)
  refine haccepted.transparent (by simp [Label.calls]) (fun _ => ?_) (by simp)
  simp [hwrote, Label.relays]

/-- The reply is written. -/
lemma transparent_completing {reply : Proc String Unit} (h : Task.Calls socks5 hs e reply)
    (hreply : Reaches Proc.Step reply hs' P) :
    Transparent (hs.map .handshake ++ .called ⟨e⟩ :: .connected :: hs'.map .handshake) := by
  obtain ⟨hwrote, greeting, request, requestType, hgreeting, hrequest, rfl, hgot⟩ := of_calls h
  obtain ⟨hgot', hwrote'⟩ := of_steps_write (steps_of_reaches hreply)
  have hbegin : wroteBytes hs' <+: response requestType := by
    rcases hwrote' with ⟨-, heq⟩ | ⟨rest, -, heq⟩
    · rw [heq]
    · rw [heq]
      exact List.prefix_append _ _
  have haccepted : Accepted
      (hs.map .handshake ++ .called ⟨e⟩ :: .connected :: hs'.map .handshake) e greeting request
      requestType :=
    accepted_of_silent hgreeting hrequest (by simp) (by simp [hgot, hgot'])
      (by simpa [hwrote] using hbegin) (by simp)
  exact haccepted.transparent (by simp) (by simp) (by simp)

/-- The reply was written, and the relay runs. -/
lemma transparent_forwarding {reply Q : Proc String Unit} {relay : Relay}
    (h : Task.Calls socks5 hs e reply) (hreply : Reaches Proc.Step reply hs' P)
    (hcompletes : P.Ends (.ok ())) (hserves : Reaches Proc.Step P (Label.handshakes ls) Q)
    (hrelay : relay.Runs bufferSize (Label.relays ls))
    (hls : ∀ l ∈ ls, (∃ h, l = .handshake h) ∨ ∃ a, l = .relayed a) :
    Transparent (hs.map .handshake ++ .called ⟨e⟩ :: .connected ::
      (hs'.map .handshake ++ .completed :: ls)) := by
  obtain ⟨hwrote, greeting, request, requestType, hgreeting, hrequest, rfl, hgot⟩ := of_calls h
  obtain rfl := hcompletes.eq_ret
  obtain ⟨hgot', hwrote'⟩ := of_steps_write (steps_of_reaches hreply)
  have hresponse : response requestType = wroteBytes hs' := by
    rcases hwrote' with ⟨-, heq⟩ | ⟨rest, hret, -⟩
    · exact heq
    · cases hret
  have heq := eq_relays hserves hls
  have hfrom : fromClient ls = Relay.bytesRead .left (Label.relays ls) := by
    rw [heq, fromClient_relays, ← heq]
  have hto : toClient ls = Relay.bytesWritten .right (Label.relays ls) := by
    rw [heq, toClient_relays, ← heq]
  have hrelays : Label.relays (hs.map .handshake ++ .called ⟨e⟩ :: .connected ::
      (hs'.map .handshake ++ .completed :: ls)) = Label.relays ls := by simp
  have hfinished : .finished ∉ ls := by
    rw [heq]
    simp
  have hfailed (f : Failure) : .failed f ∉ ls := by
    rw [heq]
    simp
  have haccepted : Accepted (hs.map .handshake ++ .called ⟨e⟩ :: .connected ::
      (hs'.map .handshake ++ .completed :: ls)) e greeting request requestType :=
    accepted_of_relay hgreeting hrequest (hrelays ▸ hrelay) (by simp [hgot, hgot', hfrom])
      (by simp [hwrote, hresponse, hto]) (by simp [hfinished])
  exact haccepted.transparent (by simp [Label.calls_eq_nil hls]) (by simp) (by simp [hfailed])

/-- The last step of a task. -/
lemma Transparent.append {l : Label Proc.Act} (h : Transparent ls) (hl : IsMark l)
    (hfinished : l = .finished → ∀ p, .shutdown p ∈ Label.relays ls)
    (hfailed : ∀ f, l = .failed f → f.contexts.head?
      = (Label.calls ls).head?.map fun request => targetContext request.endpoint) :
    Transparent (ls ++ [l]) := by
  have hcalls : Label.calls (ls ++ [l]) = Label.calls ls := by simp [hl.2.2.2]
  constructor
  · rw [hcalls]
    exact h.calledOnce
  · intro hconnected
    obtain ⟨hto, hrelays⟩ := h.unconnected fun hmem => hconnected (List.mem_append_left _ hmem)
    simpa [hl.2.1, hl.2.2.1, hrelays] using hto
  · intro request hrequest
    rw [hcalls] at hrequest
    obtain ⟨greeting, bytes, requestType, haccepted⟩ := h.accepted request hrequest
    exact ⟨greeting, bytes, requestType, haccepted.append hl hfinished⟩
  · intro f hf
    rw [hcalls]
    rw [List.mem_append, List.mem_singleton] at hf
    rcases hf with hmem | heq
    · exact h.failed f hmem
    · exact hfailed f heq.symm

lemma transparent_of_trace {t : Task (Proc String (Endpoint × Proc String Unit)) (Proc String Unit)}
    (h : Task.Trace socks5 ls t) : Transparent ls := by
  induction h with
  | handshaking hfirst => exact transparent_handshaking hfirst
  | routing hcalls => exact transparent_routing hcalls
  | completing hcalls hsecond => exact transparent_completing hcalls hsecond
  | forwarding ls hcalls hsecond hcompletes hserves hrelay hls =>
    exact transparent_forwarding hcalls hsecond hcompletes hserves hrelay hls
  | finished htrace hdone ih =>
    refine ih.append ⟨rfl, rfl, rfl, rfl⟩ (fun _ p => ?_) (by simp)
    cases htrace with
    | forwarding ls hcalls hsecond hcompletes hserves hrelay hls =>
      simpa using hrelay.shutdown_of_isDone hdone p
  | failed htrace hstep ih =>
    refine ih.append ⟨rfl, rfl, rfl, rfl⟩ nofun ?_
    rintro f heq
    cases heq
    exact htrace.contexts_eq hstep

/-! ### Clients that are served -/

lemma reaches_of_steps {α : Type} {P Q : Proc String α} (h : P.Steps hs Q) :
    Reaches Proc.Step P hs Q := by
  induction h with
  | nil P => exact .refl
  | cons hstep _ ih => exact (Reaches.refl.tail hstep).trans ih

/-- A client that sends a greeting and a request can be served to the end, whatever it and the
target send. -/
lemma exists_served (hgreeting : Greeting greeting) (hrequest : Request requestType request e)
    (payload answer : List UInt8) :
    ∃ ls, Task.Runs socks5 ls .finished ∧ Label.calls ls = [⟨e⟩] ∧
      fromClient ls = greeting ++ request ++ payload ∧ toTarget ls = payload ∧
      fromTarget ls = answer ∧ toClient ls = [5, 0] ++ response requestType ++ answer := by
  have hreturns : Acceptor.Socks5.handshake.Returns (greeting ++ request) [5, 0]
      (e, Proc.write (response requestType)) [] :=
    handshake_returns_iff.mpr
      ⟨rfl, greeting, request, requestType, hgreeting, hrequest, rfl, by simp⟩
  obtain ⟨hs, hfirst, hwrote, hgot⟩ := hreturns.exists_steps
  obtain ⟨hs', hsecond, hwrote', hgot'⟩ := exists_steps_writeAll (ε := String)
    (response requestType) (ret ())
  obtain ⟨acts, relay, hrelay, hdone, hleft, hright⟩ :=
    Relay.exists_done (by decide : 0 < bufferSize) payload answer
  have hcalled : Task.Runs socks5 (hs.map .handshake ++ [.called ⟨e⟩])
      (.routing e (Proc.write (response requestType))) :=
    ((reaches_of_steps hfirst).map fun _ _ _ h => .handshake (H := socks5) h).tail
      (.called (.ret _))
  have hcompleted : Task.Runs socks5 (hs.map .handshake ++ [.called ⟨e⟩] ++ [.connected] ++
      hs'.map .handshake ++ [.completed]) (.forwarding e (ret ()) .new) :=
    ((hcalled.tail (.connected _ _)).trans
      ((reaches_of_steps hsecond).map fun _ _ _ h => .complete (H := socks5) h)).tail
      (.completed (.ret ()))
  have hfinished := (hcompleted.trans (hrelay.map fun _ _ _ h => .relayed (H := socks5) h)).tail
    (.finished hdone)
  have hwritten (p : Party) := (hrelay.of_shutdown (hrelay.shutdown_of_isDone hdone p)).1
  refine ⟨_, hfinished, ?_, ?_, ?_, ?_, ?_⟩
  · simp [Label.calls_eq_nil]
  · simp [hgot', hleft, hgot]
  · simp [toTarget, ← hwritten, hleft]
  · simp [fromTarget, hright]
  · simp [hwrote, hwrote', ← hwritten, hright]

end Socks5

variable {parseUri : String → Option Acceptor.HttpProxy.Uri} {acceptors : List AcceptorConfig}
  {events : List (Event Act)} {s : State First Second} {i : ℕ} {addr : Net.SocketAddr}
  {handler : String} {t : Task (First (.socks5 addr handler)) (Second (.socks5 addr handler))}

/-- In every run of the engine, every connection of a SOCKS5 acceptor is transparent: nothing the
other connections do makes a difference. -/
theorem run_socks5 (h : Runs (handshake parseUri) acceptors true events s)
    (hi : s.connections[i]? = some ⟨.socks5 addr handler, t⟩) :
    ∃ (k : ℕ) (ls : List (Label (Act (.socks5 addr handler)))), (accepts events)[i]? = some k ∧
      acceptors[k]? = some (.socks5 addr handler) ∧
      labels i events = ls.map (Sigma.mk (.socks5 addr handler)) ∧ Socks5.Transparent ls := by
  obtain ⟨ls, hlabels, hruns⟩ := h.connection hi
  obtain ⟨k, hk, hacceptor⟩ := h.acceptor hi
  exact ⟨k, ls, hk, hacceptor, hlabels, Socks5.transparent_of_trace hruns.trace⟩

/-- An acceptor on the local host. -/
def localSocks5 : AcceptorConfig := .socks5 (.v4 ⟨127, 0, 0, 1⟩ 1080) "handler"

/-- A client asks for an IPv4 address and is served to the end. -/
theorem run_socks5_ipv4 :
    ∃ (events : List (Event Act)) (s : State First Second) (ls : List (Label Proc.Act)),
      Runs (handshake fun _ => none) [localSocks5] true events s ∧
      labels 0 events = ls.map (Sigma.mk localSocks5) ∧
      Socks5.Transparent ls ∧ Label.calls ls = [⟨.addr (.v4 ⟨10, 0, 0, 1⟩ 80)⟩] ∧
      Socks5.toTarget ls = [1, 2] ∧
      Socks5.toClient ls = [5, 0, 5, 0, 0, 1, 0, 0, 0, 0, 0, 0, 3] := by
  have hgreeting : Greeting [5, 1, 0] := .mk 1 [0] (by decide) rfl (by simp)
  have hrequest := Request.mk 0 1 [10, 0, 0, 1] _ 80 (.ipv4 10 0 0 1)
  obtain ⟨ls, hserved, hcalls, -, htarget, -, hclient⟩ :=
    Socks5.exists_served hgreeting hrequest [1, 2] [3]
  have hrun : Runs (handshake fun _ => none) [localSocks5] true _ _ := runs_of_task hserved
  obtain ⟨k, ls', -, -, hlabels, htransparent⟩ := run_socks5 (i := 0) hrun rfl
  have hmap := (labels_task _).symm.trans hlabels
  obtain rfl := List.map_injective_iff.mpr sigma_mk_injective hmap
  exact ⟨_, _, ls, hrun, hlabels, htransparent, hcalls, htarget, hclient⟩

end Dandelion.Engine
