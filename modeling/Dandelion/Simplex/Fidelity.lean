import Dandelion.Simplex.Calls

/-!
# The simplex adapter is a byte stream

Over a WebSocket that delivers every message, what is read is at any time the beginning of what
was written, and a read comes back empty only when the writer has shut down and everything
it wrote was read.
-/

namespace Dandelion.Simplex

open Message WebSocketStreamToAsyncWrite

variable {E : Type*} {sys : System}

/-- A party writes non-empty buffers, and none after its end marker. Its stream ends only after
the closing handshake: either it started the handshake itself, or its peer did and every message
of the peer was taken. -/
def Delivers (sys : System) (e : Event E) : Prop :=
  match e.call with
  | .pollWrite buf _    => buf ≠ [] ∧ (sys e.party).io.writeClosed = false
  | .pollRead _ .ended  =>
    (sys e.party).io.stream.closing = true ∨
      ((sys e.party.peer).io.stream.closing = true ∧ (sys e.party.peer).io.stream.wire = [] ∧
        (sys e.party.peer).io.stream.buffer = [])
  | _                   => True

instance (sys : System) : (e : Event E) → Decidable (Delivers sys e)
  | ⟨_, .pollWrite _ _, _⟩      => inferInstanceAs (Decidable (_ ∧ _))
  | ⟨_, .pollRead _ .ended, _⟩  => inferInstanceAs (Decidable (_ ∨ _))
  | ⟨_, .pollRead _ .pending, _⟩ | ⟨_, .pollRead _ .message, _⟩
  | ⟨_, .pollRead _ (.error _), _⟩ | ⟨_, .pollFlush _, _⟩ | ⟨_, .pollShutdown _, _⟩ =>
    inferInstanceAs (Decidable True)

lemma Delivers.writes {e : Event E} (h : Delivers sys e) : Writes (· ≠ []) sys e := by
  obtain ⟨p, c, n⟩ := e
  cases c with
  | pollWrite buf a => exact h
  | _ => trivial

/-- What holds in every state of a run over such a WebSocket. -/
structure Delivered (sys : System) : Prop where
  flows : Flows (· ≠ []) sys
  closesLast : ClosesLast sys
  whole : ∀ p : Party, (sys p).cutOff = false

namespace Delivered

lemma new : Delivered System.new :=
  ⟨Flows.new, fun _ => nofun, fun _ => rfl⟩

/-- The incoming data of a party has ended only when it took the end marker of its peer. -/
lemma eofMessage_mem_taken (h : Delivered sys) {p : Party}
    (hclosed : (sys p).io.readClosed = true) : eofMessage ∈ (sys p).taken := by
  have hflow := h.flows p.peer
  rw [Party.peer_peer] at hflow
  rcases hflow.readClosed.mp hclosed with heof | hcut
  · exact heof
  · have hwhole : (sys p).incoming.cutOff = false := h.whole p
    rw [hwhole] at hcut
    cases hcut

lemma eofMessage_mem_taken_of_ended (h : Delivered sys) {p : Party} {remaining n : ℕ}
    (hdelivers : Delivers sys (⟨p, .pollRead remaining .ended, n⟩ : Event E)) :
    eofMessage ∈ (sys p).taken := by
  have hends : (sys p).io.stream.closing = true ∨ ((sys p.peer).io.stream.closing = true ∧
      (sys p.peer).io.stream.wire = [] ∧ (sys p.peer).io.stream.buffer = []) := hdelivers
  rcases hends with hclosing | ⟨hclosing, hwire, hbuffer⟩
  · exact h.eofMessage_mem_taken (h.closesLast p hclosing)
  · have hflow := h.flows p.peer
    rw [Party.peer_peer] at hflow
    obtain ⟨bufs, -, -, hsent⟩ := hflow.sent
    have htaken : (sys p).taken = script bufs true true :=
      calc (sys p).taken
        _ = (sys p).taken ++ (sys p.peer).io.stream.wire ++ (sys p.peer).io.stream.buffer := by
          rw [hwire, hbuffer, List.append_nil, List.append_nil]
        _ = (sys p.peer).io.stream.sent := hflow.fifo.symm
        _ = script bufs true true := by
          have hboth := hsent
          have hstream : (sys p.peer).outgoing.stream.closing = true := hclosing
          rw [hflow.closing hclosing, hstream] at hboth
          exact hboth
    simp [htaken, script]

lemma step (sys : System) (e : Event E) (h : Delivered sys) (hdelivers : Delivers sys e) :
    Delivered (System.machine.step sys e).1 := by
  refine ⟨h.flows.step sys e hdelivers.writes, h.closesLast.step sys e, fun p => ?_⟩
  rcases incoming_step sys e p with hsame | ⟨remaining, arrival, rfl, hcall, hread⟩
  · exact (congrArg Incoming.cutOff hsame).trans (h.whole p)
  · apply (congrArg Incoming.cutOff hread).trans
    show ((sys e.party).cutOff || (sys e.party).findsCut remaining arrival) = false
    rw [h.whole, Bool.false_or]
    obtain ⟨p, c, n⟩ := e
    obtain rfl : c = .pollRead remaining arrival := hcall
    cases arrival with
    | ended =>
      have heof := h.eofMessage_mem_taken_of_ended hdelivers
      simp [Side.findsCut, heof]
    | _ => rfl

end Delivered

/-- The bytes on offer are those of the chunk, or there are none since the data has ended. -/
lemma of_pollFillBuf_ok {s s' : WebSocketStreamToAsyncWrite}
    {next : Poll (Option (Except E Message))} {inner : List UInt8}
    (h : s.pollFillBuf next = (s', .ready (.ok inner))) :
    s'.chunk = some inner ∨ (inner = [] ∧ s'.readClosed = true) := by
  unfold pollFillBuf at h
  split at h
  case h_1 chunk hchunk =>
    cases h
    exact .inl hchunk
  case h_2 =>
    split at h
    case h_1 => cases h
    case h_2 m =>
      split at h
      case isTrue =>
        cases h
        exact .inr ⟨rfl, rfl⟩
      case isFalse =>
        cases h
        exact .inl rfl
    case h_3 => cases h
    case h_4 =>
      cases h
      refine .inr ⟨rfl, ?_⟩
      cases hclosed : s.readClosed <;> simp [hclosed, closeRead]

/-- A read with room that returns nothing has seen an empty message or the end of the data. -/
lemma chunk_or_readClosed_of_pollRead_ok_nil (s : WebSocketStreamToAsyncWrite) {remaining : ℕ}
    (hremaining : remaining ≠ 0) (next : Poll (Option (Except E Message)))
    (hnil : (s.pollRead remaining next).2 = .ok []) :
    (s.pollRead remaining next).1.chunk = some [] ∨
      (s.pollRead remaining next).1.readClosed = true := by
  rcases hfill : s.pollFillBuf next with ⟨s', answer⟩
  cases answer with
  | pending => simp [pollRead, hfill, hremaining] at hnil
  | ready result =>
    cases result with
    | error e => simp [pollRead, hfill, hremaining] at hnil
    | ok inner =>
      rcases of_pollFillBuf_ok hfill with hchunk | ⟨rfl, hclosed⟩
      · rw [pollRead_of_chunk hremaining hfill hchunk] at hnil ⊢
        obtain rfl : inner = [] := by
          simpa [hremaining] using hnil
        exact .inl (by simp [leftover])
      · rw [pollRead_of_end hremaining hfill]
        exact .inr hclosed

/-- A party that has taken the end marker faces a writer that has shut down. -/
lemma Flow.writeClosed_of_eofMessage_mem {P : List UInt8 → Prop} {o : Outgoing} {i : Incoming}
    (h : Flow P o i) (heof : eofMessage ∈ i.taken) : o.writeClosed = true := by
  obtain ⟨bufs, -, -, hsent⟩ := h.sent
  have hmem : eofMessage ∈ script bufs o.writeClosed o.stream.closing := by
    rw [← hsent, h.fifo]
    simp [heof]
  have hcount := List.count_pos_iff.mpr hmem
  rw [count_eofMessage_script] at hcount
  cases hclosed : o.writeClosed with
  | true => rfl
  | false => simp [hclosed] at hcount

/-- In every run over a WebSocket that delivers every message, the bytes a party has read are the
beginning of the bytes its peer has written. No read panics, and a read with room that returns no
bytes has the end marker of a writer all of whose bytes were read. -/
theorem reads_are_the_writes (events : List (Event E))
    (hdelivers : ∀ t ∈ System.machine.transitions System.new events,
      Delivers t.before t.input) :
    (∀ p : Party, ((System.machine.run System.new events) p.peer).read
        <+: ((System.machine.run System.new events) p).written) ∧
      ∀ t ∈ System.machine.transitions System.new events, ∀ remaining arrival,
        t.input.call = .pollRead remaining arrival →
          t.answer ≠ .read .panic ∧
          (remaining ≠ 0 → t.answer = .read (.ok []) →
            eofMessage ∈ (t.after t.input.party).taken ∧
            (t.after t.input.party.peer).io.writeClosed = true ∧
            (t.after t.input.party).read = (t.after t.input.party.peer).written) := by
  have hend := (System.machine.guarded_invariant Delivered.step Delivered.new hdelivers).2
  refine ⟨fun p => (hend.flows p).read_starts_written, ?_⟩
  intro t ht remaining arrival hcall
  have hafter := System.machine.guarded_invariant_after Delivered.step Delivered.new hdelivers ht
  have hstep := System.machine.step_of_mem_transitions ht
  obtain ⟨sys, ⟨p, c, n⟩, sys', answer⟩ := t
  obtain rfl : c = .pollRead remaining arrival := hcall
  obtain ⟨hanswer, hincoming⟩ := pollRead_step sys p remaining n arrival
  rw [hstep] at hanswer hincoming
  obtain rfl := hanswer
  refine ⟨?_, fun hremaining hnil => ?_⟩
  · have hpanic := ((sys p).incoming_pollRead (sys p.peer) remaining arrival).2
    simpa using hpanic
  · have hflow := hafter.flows p.peer
    rw [Party.peer_peer] at hflow
    have heof : eofMessage ∈ (sys' p).taken := by
      rcases chunk_or_readClosed_of_pollRead_ok_nil (sys p).io hremaining _ (Answer.read.inj hnil)
        with hchunk | hclosed
      · have hchunk' : (sys' p).incoming.chunk = some [] := by
          rw [hincoming]
          exact hchunk
        rcases hflow.stalled hchunk' with hne | heof
        · exact absurd rfl hne
        · exact heof
      · have hclosed' : (sys' p).incoming.readClosed = true := by
          rw [hincoming]
          exact hclosed
        exact hafter.eofMessage_mem_taken hclosed'
    exact ⟨heof, hflow.writeClosed_of_eofMessage_mem heof, hflow.read_eq_written heof⟩

/-- A write of the bytes that spell the end marker, read in two pieces, then a shutdown. -/
def shortConversation : List (Event Unit) :=
  let eager : SinkAnswers Unit :=
    ⟨.ready (.ok ()), .ok (), .ready (.ok ()), .ready (.ok ())⟩
  [ ⟨.left, .pollWrite [69, 79, 70] eager, 1⟩,
    ⟨.right, .pollRead 0 .message, 0⟩,
    ⟨.right, .pollRead 2 .message, 0⟩,
    ⟨.right, .pollRead 8 .pending, 0⟩,
    ⟨.left, .pollShutdown eager, 1⟩,
    ⟨.right, .pollRead 8 .message, 0⟩ ]

theorem reads_are_the_writes_shortConversation :
    (∀ t ∈ System.machine.transitions System.new shortConversation,
      Delivers t.before t.input) ∧
    ((System.machine.run System.new shortConversation) .right).read = [69, 79, 70] ∧
    ((System.machine.run System.new shortConversation) .right).read
      <+: ((System.machine.run System.new shortConversation) .left).written := by
  have hdelivers : ∀ t ∈ System.machine.transitions System.new shortConversation,
      Delivers t.before t.input := by decide
  exact ⟨hdelivers, by decide, (reads_are_the_writes _ hdelivers).1 .left⟩

end Dandelion.Simplex
