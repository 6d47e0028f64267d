import Dandelion.Engine.Socks5

/-!
# SOCKS5 connections are never stuck

From every state of the engine, the steps of one connection alone can serve its client to the end,
as long as the client keeps to the protocol. Nothing that the other connections have done, or that
the client has sent in pieces, is in the way.
-/

namespace Dandelion.Engine

open Acceptor.Socks5 Proc Tasks

section

variable {φ ψ ℓ : AcceptorConfig → Type} {handshake : ∀ c, Handshake (φ c) (ψ c) (ℓ c)}
  {acceptors : List AcceptorConfig} {localSet : Bool} {events : List (Event ℓ)} {s : State φ ψ}
  {i : ℕ} {c : AcceptorConfig} {t t' : Task (φ c) (ψ c)} {ls : List (Label (ℓ c))}

/-- A connection goes on while all others stand still. -/
lemma Runs.extend (h : Runs handshake acceptors localSet events s)
    (hi : s.connections[i]? = some ⟨c, t⟩) (hreaches : Reaches (Task.Step (handshake c)) t ls t') :
    Runs handshake acceptors localSet (events ++ ls.map fun l => .task i ⟨c, l⟩)
      { s with connections := s.connections.set i ⟨c, t'⟩ } := by
  obtain ⟨hlt, hget⟩ := List.getElem?_eq_some_iff.mp hi
  induction hreaches with
  | refl =>
    rw [← hget, List.set_getElem_self]
    simpa using h
  | tail _ hstep ih =>
    rw [List.map_append, ← List.append_assoc]
    have hnext := ih.step (.task _ i _ _
      (.step _ i _ _ _ (List.getElem?_set_self hlt) (.mk c hstep)))
    rwa [List.set_set] at hnext

end

namespace Socks5

variable {ls : List (Label Proc.Act)} {hs : List Proc.Act} {P : Proc String Unit} {e : Endpoint}
  {greeting request : List UInt8} {requestType : UInt8}
  {t : Task (Proc String (Endpoint × Proc String Unit)) (Proc String Unit)}

/-- Both sides end. -/
lemma exists_finished_forwarding (e : Endpoint) (P : Proc String Unit) (relay : Relay) :
    ∃ ls, Reaches (Task.Step socks5) (.forwarding e P relay) ls .finished := by
  obtain ⟨acts, relay', hrelay, hdone⟩ := Relay.exists_isDone bufferSize relay
  have hforwarded := hrelay.map (f := fun relay => Task.forwarding e P relay) (g := Label.relayed)
    fun _ _ _ h => Task.Step.relayed (H := socks5) h
  exact ⟨_, hforwarded.tail (.finished hdone)⟩

/-- The reply is written to its end. -/
lemma exists_finished_completing {bytes : List UInt8} {P : Proc String Unit}
    (hreply : (Proc.write bytes).Steps hs P) (e : Endpoint) :
    ∃ ls, Reaches (Task.Step socks5) (.completing e P) ls .finished := by
  have hwritten : ∃ acts, P.Steps acts (ret ()) := by
    rcases (of_steps_write hreply).2 with ⟨rfl, -⟩ | ⟨rest, rfl, -⟩
    · exact ⟨[], .nil _⟩
    · obtain ⟨acts, hsteps, -⟩ := exists_steps_writeAll (ε := String) rest (ret ())
      exact ⟨acts, hsteps⟩
  obtain ⟨acts, hsteps⟩ := hwritten
  obtain ⟨ls, hfinished⟩ := exists_finished_forwarding e (ret ()) .new
  have hcompleted := (reaches_of_steps hsteps).map (f := fun P => Task.completing e P)
    (g := Label.handshake) fun _ _ _ h => Task.Step.complete (H := socks5) h
  exact ⟨_, (hcompleted.tail (.completed (.ret ()))).trans hfinished⟩

/-- The handler returns a connection. -/
lemma exists_finished_routing (h : Task.Calls socks5 hs e P) :
    ∃ ls, Reaches (Task.Step socks5) (.routing e P) ls .finished := by
  obtain ⟨-, -, -, requestType, -, -, rfl, -⟩ := of_calls h
  obtain ⟨ls, hfinished⟩ := exists_finished_completing (.nil (Proc.write (response requestType))) e
  exact ⟨_, (Reaches.refl.tail (.connected e _)).trans hfinished⟩

/-- The client sends the rest of its greeting and its request. -/
lemma exists_finished_handshaking {P : Proc String (Endpoint × Proc String Unit)}
    (h : Reaches Proc.Step Acceptor.Socks5.handshake hs P) (hgreeting : Greeting greeting)
    (hrequest : Request requestType request e) (hsent : gotBytes hs <+: greeting ++ request) :
    ∃ ls, Reaches (Task.Step socks5) (.handshaking P) ls .finished := by
  obtain ⟨rest, hrest⟩ := hsent
  have hreturns : Acceptor.Socks5.handshake.Returns (gotBytes hs ++ rest) [5, 0]
      (e, Proc.write (response requestType)) [] :=
    handshake_returns_iff.mpr
      ⟨rfl, greeting, request, requestType, hgreeting, hrequest, rfl, by simp [hrest]⟩
  rw [Proc.Returns, feed_of_steps (steps_of_reaches h)] at hreturns
  rcases hfeed : P.feed rest with ⟨wrote, left, ending⟩
  simp only [hfeed, Fed.after, Fed.mk.injEq] at hreturns
  obtain ⟨-, rfl, rfl⟩ := hreturns
  obtain ⟨acts, hsteps, -, -⟩ := Proc.Returns.exists_steps hfeed
  have hreturned := (reaches_of_steps hsteps).map (f := Task.handshaking) (g := Label.handshake)
    fun _ _ _ h => Task.Step.handshake (H := socks5) h
  have hcalls : Task.Calls socks5 (hs ++ acts) e (Proc.write (response requestType)) :=
    ⟨_, h.trans (reaches_of_steps hsteps), .ret _⟩
  obtain ⟨ls, hfinished⟩ := exists_finished_routing hcalls
  exact ⟨_, (hreturned.tail (.called (.ret _))).trans hfinished⟩

/-- What the client has sent so far is the beginning of a greeting and a request. -/
def Compliant (ls : List (Label Proc.Act)) : Prop :=
  ∃ greeting request requestType e, Greeting greeting ∧ Request requestType request e ∧
    fromClient ls <+: greeting ++ request

lemma exists_finished_of_trace (h : Task.Trace socks5 ls t) (hfailed : ∀ f, t ≠ .failed f)
    (hclient : ∀ P, t = .handshaking P → Compliant ls) :
    ∃ ls', Reaches (Task.Step socks5) t ls' .finished := by
  cases h with
  | handshaking hfirst =>
    obtain ⟨greeting, request, requestType, e, hgreeting, hrequest, hsent⟩ := hclient _ rfl
    rw [fromClient_handshakes] at hsent
    exact exists_finished_handshaking hfirst hgreeting hrequest hsent
  | routing hcalls => exact exists_finished_routing hcalls
  | completing hcalls hsecond =>
    obtain ⟨-, -, -, requestType, -, -, rfl, -⟩ := of_calls hcalls
    exact exists_finished_completing (steps_of_reaches hsecond) _
  | forwarding => exact exists_finished_forwarding _ _ _
  | finished => exact ⟨[], .refl⟩
  | failed => exact absurd rfl (hfailed _)

end Socks5

variable {parseUri : String → Option Acceptor.HttpProxy.Uri} {acceptors : List AcceptorConfig}
  {events : List (Event Act)} {s : State First Second} {i : ℕ} {addr : Net.SocketAddr}
  {handler : String} {t : Task (First (.socks5 addr handler)) (Second (.socks5 addr handler))}

/-- In every state that a running engine can reach, a connection of a SOCKS5 acceptor that has not
failed can be served to the end by steps of its own, if the client has kept to the protocol. All
other connections stay as they are. -/
theorem run_socks5_progress (h : Runs (handshake parseUri) acceptors true events s)
    (hrunning : s.status = .running)
    (hi : s.connections[i]? = some ⟨.socks5 addr handler, t⟩) (hfailed : ∀ f, t ≠ .failed f)
    {ls : List (Label (Act (.socks5 addr handler)))}
    (hls : labels i events = ls.map (Sigma.mk (.socks5 addr handler)))
    (hclient : ∀ P, t = .handshaking P → Socks5.Compliant ls) :
    ∃ more s', Runs (handshake parseUri) acceptors true (events ++ more) s' ∧
      (∀ event ∈ more, ∃ l, event = .task i l) ∧ s'.status = .running ∧
      s'.connections[i]? = some ⟨.socks5 addr handler, .finished⟩ ∧
      ∀ j, j ≠ i → s'.connections[j]? = s.connections[j]? := by
  obtain ⟨ls', hlabels, hruns⟩ := h.connection hi
  rw [hls] at hlabels
  obtain rfl := List.map_injective_iff.mpr sigma_mk_injective hlabels
  obtain ⟨more, hfinished⟩ := Socks5.exists_finished_of_trace hruns.trace hfailed hclient
  have hlt := (List.getElem?_eq_some_iff.mp hi).1
  refine ⟨_, _, h.extend hi hfinished, ?_, hrunning, List.getElem?_set_self hlt, ?_⟩
  · intro event hevent
    obtain ⟨l, -, rfl⟩ := List.mem_map.mp hevent
    exact ⟨_, rfl⟩
  · intro j hj
    exact List.getElem?_set_ne (Ne.symm hj)

/-- Of two clients, the first has sent the first byte of its greeting. -/
theorem run_socks5_progress_first_byte :
    ∃ (events more : List (Event Act)) (s s' : State First Second),
      Runs (handshake fun _ => none) [localSocks5] true events s ∧
      labels 0 events = [⟨localSocks5, .handshake (.got [5])⟩] ∧
      Runs (handshake fun _ => none) [localSocks5] true (events ++ more) s' ∧
      s'.connections[0]? = some ⟨localSocks5, .finished⟩ ∧
      s'.connections[1]? = s.connections[1]? := by
  have haccepted : Runs (handshake fun _ => none) [localSocks5] true
      [.bound 0, .accepted 0, .accepted 0] _ :=
    .step (.step (.step .start (.bound _ 0 rfl rfl)) (.accepted _ 0 localSocks5 rfl rfl rfl rfl))
      (.accepted _ 0 localSocks5 rfl rfl rfl rfl)
  have hread : Acceptor.Socks5.handshake.Step (.got [5]) _ := .read 2 [5] _ (by simp) (by simp)
  have hstep := Runs.step haccepted (.task _ 0 _ _
    (.step _ 0 _ _ _ rfl (.mk localSocks5 (.handshake (H := socks5) hread))))
  have hcompliant : Socks5.Compliant [.handshake (.got [5])] :=
    ⟨[5, 1, 0], _, _, _, .mk 1 [0] (by decide) rfl (by simp),
      .mk 0 1 [10, 0, 0, 1] _ 80 (.ipv4 10 0 0 1), List.prefix_append [5] _⟩
  have hlabels : labels 0 ([.bound 0, .accepted 0, .accepted 0] ++
      [.task 0 ⟨localSocks5, .handshake (Proc.Act.got [5])⟩] : List (Event Act))
      = [Label.handshake (Proc.Act.got [5])].map (Sigma.mk localSocks5) := rfl
  obtain ⟨more, s', hruns, -, -, hfinished, hothers⟩ := run_socks5_progress hstep rfl rfl
    (fun f h => by cases h) hlabels fun _ _ => hcompliant
  exact ⟨_, more, _, s', hstep, rfl, hruns, hfinished, hothers 1 (by decide)⟩

end Dandelion.Engine
