import Dandelion.Simplex.Calls

/-!
# Shutting down

The two halves of a conversation end one after the other. A party closes the connection only
after it has marked the end of its own data and has seen the data of its peer end. While it waits
for the peer, its own end marker may still be in the write buffer.
-/

namespace Dandelion.Simplex

open Message WebSocketStreamToAsyncWrite

variable {E : Type*} {sys : System}

/-! ### Closing -/

/-- What holds in every state of a run in which no party writes after its end marker. -/
structure HalfClosing (sys : System) : Prop where
  flows : Flows (fun _ => True) sys
  closesLast : ClosesLast sys

namespace HalfClosing

lemma new : HalfClosing System.new :=
  ⟨Flows.new, fun _ => nofun⟩

lemma step (sys : System) (e : Event E) (h : HalfClosing sys)
    (hwrites : Writes (fun _ => True) sys e) : HalfClosing (System.machine.step sys e).1 :=
  ⟨h.flows.step sys e hwrites, h.closesLast.step sys e⟩

lemma count_eofMessage_le_one (h : HalfClosing sys) (p : Party) :
    (sys p).io.stream.sent.count eofMessage ≤ 1 := by
  obtain ⟨bufs, -, -, hsent⟩ := (h.flows p).sent
  rw [show (sys p).io.stream.sent = _ from hsent, count_eofMessage_script]
  split <;> simp

/-- What a party has sent when it has started the closing handshake. -/
lemma sent_eq (h : HalfClosing sys) {p : Party} (hclosing : (sys p).io.stream.closing = true) :
    ∃ bufs : List (List UInt8), bufs.flatten = (sys p).written ∧
      (sys p).io.stream.sent = bufs.map .binary ++ [eofMessage, .close none] := by
  have hflow := h.flows p
  obtain ⟨bufs, -, hwritten, hsent⟩ := hflow.sent
  rw [hflow.closing hclosing, show (sys p).outgoing.stream.closing = true from hclosing] at hsent
  exact ⟨bufs, hwritten.symm, by simpa [script, Side.outgoing] using hsent⟩

/-- A party whose incoming data has ended took the end marker of its peer, and then it has read
all that the peer has written, or saw the stream end without it. -/
lemma heard (h : HalfClosing sys) {p : Party} (hclosed : (sys p).io.readClosed = true) :
    (eofMessage ∈ (sys p).taken ∨ (sys p).cutOff = true) ∧
      ((sys p).cutOff = false → (sys p).read = (sys p.peer).written) := by
  have hflow := h.flows p.peer
  rw [Party.peer_peer] at hflow
  have hheard := hflow.readClosed.mp hclosed
  refine ⟨hheard, fun hwhole => ?_⟩
  rcases hheard with heof | hcut
  · exact hflow.read_eq_written heof
  · rw [show (sys p).incoming.cutOff = false from hwhole] at hcut
    cases hcut

end HalfClosing

/-- A shutdown that succeeds has started the closing handshake. -/
lemma closing_of_finishShutdown_ok {s : WebSocketStreamToAsyncWrite} {a : SinkAnswers E}
    (h : (s.finishShutdown a).2 = .ready (.ok ())) :
    (s.finishShutdown a).1.stream.closing = true := by
  have hclose : s.stream.startClose.closing = true := by
    rw [WebSocketStream.startClose]
    split
    case isTrue hclosing => exact hclosing
    case isFalse => rfl
  unfold finishShutdown at h ⊢
  split at h
  case isTrue hread =>
    rw [if_pos hread]
    cases hanswer : a.close with
    | pending => simp [hanswer] at h
    | ready result =>
      cases result with
      | error e => simp [hanswer] at h
      | ok u => exact hclose
  case isFalse => cases h

lemma closing_of_pollShutdown_ok {s : WebSocketStreamToAsyncWrite} {a : SinkAnswers E}
    (h : (s.pollShutdown a).2 = .ready (.ok ())) :
    (s.pollShutdown a).1.stream.closing = true := by
  rcases pollShutdown_cases s a with ⟨-, heq⟩ | ⟨-, -, -, heq⟩ | ⟨-, -, -, hne⟩
  · rw [heq] at h ⊢
    exact closing_of_finishShutdown_ok h
  · rw [heq] at h ⊢
    exact closing_of_finishShutdown_ok h
  · exact absurd h hne

/-- In every run in which no party writes after its end marker, each party sends the marker at
most once. It starts the closing handshake, or succeeds in shutting down, only after its own
marker and after it took the marker of its peer or saw the stream end; in the first case it has
read all that the peer has ever written. -/
theorem closes_after_both_halves (events : List (Event E))
    (hwrites : ∀ t ∈ System.machine.transitions System.new events,
      Writes (fun _ => True) t.before t.input) :
    (∀ p : Party,
      ((System.machine.run System.new events) p).io.stream.sent.count eofMessage ≤ 1) ∧
    (∀ t ∈ System.machine.transitions System.new events,
      t.answer = .shutdown (.ready (.ok ())) →
        (t.after t.input.party).io.stream.closing = true) ∧
    (∀ t ∈ System.machine.transitions System.new events, ∀ p : Party,
      (t.before p).io.stream.closing = false → (t.after p).io.stream.closing = true →
        (eofMessage ∈ (t.before p).taken ∨ (t.before p).cutOff = true) ∧
        ((t.before p).cutOff = false → (t.before p).read = (t.before p.peer).written)) ∧
    (∀ p : Party, ((System.machine.run System.new events) p).io.stream.closing = true →
      (∃ bufs : List (List UInt8),
        bufs.flatten = ((System.machine.run System.new events) p).written ∧
        ((System.machine.run System.new events) p).io.stream.sent
          = bufs.map .binary ++ [eofMessage, .close none]) ∧
      (eofMessage ∈ ((System.machine.run System.new events) p).taken ∨
        ((System.machine.run System.new events) p).cutOff = true) ∧
      (((System.machine.run System.new events) p).cutOff = false →
        ((System.machine.run System.new events) p).read
          = ((System.machine.run System.new events) p.peer).written)) := by
  obtain ⟨hbefore, hend⟩ :=
    System.machine.guarded_invariant HalfClosing.step HalfClosing.new hwrites
  refine ⟨hend.count_eofMessage_le_one, ?_, ?_, ?_⟩
  · intro t ht hok
    rw [System.machine.answer_of_mem_transitions ht] at hok
    rw [System.machine.after_of_mem_transitions ht]
    obtain ⟨sys, ⟨p, c, n⟩, sys', answer⟩ := t
    cases c with
    | pollShutdown a =>
      have hclosing := closing_of_pollShutdown_ok (Answer.shutdown.inj hok)
      apply (push_unchanged _ p p n).2.trans
      simpa [System.call] using hclosing
    | _ => cases hok
  · intro t ht p hopen hclosing
    rw [System.machine.after_of_mem_transitions ht] at hclosing
    rcases closing_step t.before t.input p hclosing with hbad | ⟨-, -, hread⟩
    · rw [hopen] at hbad
      cases hbad
    · exact (hbefore t ht).heard hread
  · intro p hclosing
    exact ⟨hend.sent_eq hclosing, hend.heard (hend.closesLast p hclosing)⟩

instance {P : List UInt8 → Prop} [DecidablePred P] (sys : System) :
    (e : Event E) → Decidable (Writes P sys e)
  | ⟨_, .pollWrite _ _, _⟩ => inferInstanceAs (Decidable (_ ∧ _))
  | ⟨_, .pollRead _ _, _⟩ | ⟨_, .pollFlush _, _⟩ | ⟨_, .pollShutdown _, _⟩ =>
    inferInstanceAs (Decidable True)

/-- A sink that accepts everything, and flushes and closes at once when asked to. -/
def obliging : SinkAnswers Unit :=
  ⟨.ready (.ok ()), .ok (), .ready (.ok ()), .ready (.ok ())⟩

/-- Both parties write, shut down, read the data and the marker of the other, and close. -/
def fullConversation : List (Event Unit) :=
  [ ⟨.left, .pollWrite [1, 2] obliging, 0⟩,
    ⟨.right, .pollWrite [3] obliging, 1⟩,
    ⟨.left, .pollShutdown obliging, 2⟩,
    ⟨.right, .pollRead 8 .message, 0⟩,
    ⟨.right, .pollRead 8 .message, 0⟩,
    ⟨.right, .pollShutdown obliging, 0⟩,
    ⟨.left, .pollRead 8 .message, 0⟩,
    ⟨.left, .pollRead 8 .message, 0⟩,
    ⟨.left, .pollShutdown obliging, 0⟩ ]

theorem closes_after_both_halves_fullConversation :
    (∀ t ∈ System.machine.transitions System.new fullConversation,
      Writes (fun _ => True) t.before t.input) ∧
    ((System.machine.run System.new fullConversation) .left).io.stream.closing = true ∧
    eofMessage ∈ ((System.machine.run System.new fullConversation) .left).taken ∧
    ((System.machine.run System.new fullConversation) .left).io.stream.sent.count eofMessage
      ≤ 1 := by
  have hwrites : ∀ t ∈ System.machine.transitions System.new fullConversation,
      Writes (fun _ => True) t.before t.input := by decide
  have hsafe := closes_after_both_halves _ hwrites
  have hclosing : ((System.machine.run System.new fullConversation) .left).io.stream.closing
      = true := by decide
  rcases (hsafe.2.2.2 .left hclosing).2.1 with heof | hcut
  · exact ⟨hwrites, hclosing, heof, hsafe.1 .left⟩
  · exact absurd hcut (by decide)

/-! ### The end marker of a waiting party -/

/-- The adapter of the calling party after a call. -/
def callIo (s : WebSocketStreamToAsyncWrite) (wire : List Message) :
    Call E → WebSocketStreamToAsyncWrite
  | .pollWrite buf a            => (s.pollWrite buf a).1
  | .pollFlush a                => (s.pollFlush a).1
  | .pollShutdown a             => (s.pollShutdown a).1
  | .pollRead remaining arrival => (s.pollRead remaining (offer wire arrival)).1

lemma io_step (sys : System) (e : Event E) :
    ((System.machine.step sys e).1 e.party).io
      = { callIo (sys e.party).io (sys e.party.peer).io.stream.wire e.call with
          stream := (callIo (sys e.party).io (sys e.party.peer).io.stream.wire
            e.call).stream.push e.pushed } := by
  obtain ⟨p, c, n⟩ := e
  cases c <;> simp [System.machine, System.call, Side.push, Side.pollWrite, Side.pollRead, callIo]

lemma Side.io_afterRead (side reader : Side) (remaining : ℕ) (arrival : Arrival E) :
    ∃ wire, (side.afterRead reader remaining arrival).io
      = { side.io with stream.wire := wire } := by
  unfold Side.afterRead
  repeat' split
  · exact ⟨_, rfl⟩
  · exact ⟨side.io.stream.wire, rfl⟩
  · exact ⟨side.io.stream.wire, rfl⟩

lemma io_step_peer (sys : System) (e : Event E) :
    ∃ wire, ((System.machine.step sys e).1 e.party.peer).io
      = { (sys e.party.peer).io with stream.wire := wire } := by
  obtain ⟨p, c, n⟩ := e
  cases c with
  | pollRead remaining arrival =>
    obtain ⟨wire, hwire⟩ := (sys p.peer).io_afterRead (sys p) remaining arrival
    exact ⟨wire, by simpa [System.machine, System.call] using hwire⟩
  | _ => exact ⟨(sys p.peer).io.stream.wire, by simp [System.machine, System.call]⟩

/-- No end marker is left in the write buffer while its party waits for the peer. -/
structure Marked (s : WebSocketStreamToAsyncWrite) : Prop where
  flushed : s.writeClosed = true → s.readClosed = false → eofMessage ∉ s.stream.buffer
  waiting : s.waker = true → s.writeClosed = true ∧ s.readClosed = false

namespace Marked

variable {s : WebSocketStreamToAsyncWrite}

lemma new : Marked (.new .new) := ⟨nofun, nofun⟩

lemma push (h : Marked s) (n : ℕ) : Marked { s with stream := s.stream.push n } := by
  refine ⟨fun hclosed hopen hmem => ?_, h.waiting⟩
  exact h.flushed hclosed hopen (List.mem_of_mem_drop hmem)

lemma pollWrite (h : Marked s) (buf : List UInt8) (a : SinkAnswers E) :
    Marked (s.pollWrite buf a).1 := by
  rw [WebSocketStreamToAsyncWrite.pollWrite]
  split
  · exact h
  · exact h
  · split
    · exact h
    · refine ⟨fun hclosed hopen hmem => ?_, h.waiting⟩
      rcases List.mem_append.mp hmem with hmem | hmem
      · exact h.flushed hclosed hopen hmem
      · simp [eofMessage] at hmem

lemma pollFlush (h : Marked s) (a : SinkAnswers E) : Marked (s.pollFlush a).1 := by
  rw [WebSocketStreamToAsyncWrite.pollFlush]
  split
  · exact h
  · exact h
  · exact h.push _

lemma finishShutdown (h : Marked s) (hclosed : s.writeClosed = true) (a : SinkAnswers E) :
    Marked (s.finishShutdown a).1 := by
  rw [WebSocketStreamToAsyncWrite.finishShutdown]
  split
  case isTrue hread =>
    have hwaiting : s.waker = true → s.writeClosed = true ∧ s.readClosed = false := h.waiting
    have hvoid (stream : WebSocketStream) : Marked { s with stream := stream } := by
      refine ⟨fun _ hopen => ?_, hwaiting⟩
      rw [show s.readClosed = false from hopen] at hread
      cases hread
    split <;> exact hvoid _
  case isFalse hopen =>
    exact ⟨h.flushed, fun _ => ⟨hclosed, eq_false_of_ne_true hopen⟩⟩

/-- A party whose incoming data has ended does not wait. -/
lemma markEnd (h : Marked s) (hopen : s.writeClosed = false) (hread : s.readClosed = true) :
    Marked (markEnd s) := by
  refine ⟨fun _ hnot => ?_, fun hwaker => ?_⟩
  · rw [show s.readClosed = false from hnot] at hread
    cases hread
  · rw [(h.waiting hwaker).1] at hopen
    cases hopen

lemma pollRead (h : Marked s) (remaining : ℕ) (next : Poll (Option (Except E Message))) :
    Marked (s.pollRead remaining next).1 := by
  rcases pollRead_cases s remaining next with ⟨_, heq | heq⟩
  · rw [heq]
    exact ⟨h.flushed, h.waiting⟩
  · rw [heq]
    refine ⟨nofun, fun hwaker => ?_⟩
    obtain ⟨hbefore, hopen⟩ : s.waker = true ∧ s.writeClosed = false := by
      simpa [closeRead] using hwaker
    rw [(h.waiting hbefore).1] at hopen
    cases hopen

end Marked

/-- A shutdown that hands the end marker to the sink, and then waits for the peer. -/
def MarksEnd (s : WebSocketStreamToAsyncWrite) (a : SinkAnswers E) : Prop :=
  s.writeClosed = false ∧ s.readClosed = false ∧ a.ready = .ready (.ok ()) ∧ a.send = .ok ()

/-- The sink puts the end marker on the wire in the very call that hands it over, if the party
then waits for its peer. -/
def PushesMarker (sys : System) (e : Event E) : Prop :=
  ∀ a, e.call = .pollShutdown a → MarksEnd (sys e.party).io a →
    (sys e.party).io.stream.buffer.length < e.pushed

lemma pollShutdown_of_marksEnd {s : WebSocketStreamToAsyncWrite} {a : SinkAnswers E}
    (h : MarksEnd s a) : s.pollShutdown a = ({ markEnd s with waker := true }, .pending) := by
  obtain ⟨hopen, hread, hready, hsend⟩ := h
  simp [pollShutdown, finishShutdown, markEnd, hopen, hread, hready, hsend]

/-- The marker leaves the write buffer with everything before it. -/
lemma not_mem_buffer_markEnd_iff (s : WebSocketStreamToAsyncWrite) (n : ℕ) :
    eofMessage ∉ ((markEnd s).stream.push n).buffer ↔ s.stream.buffer.length < n := by
  show eofMessage ∉ (s.stream.buffer ++ [eofMessage]).drop n ↔ _
  rcases Nat.lt_or_ge s.stream.buffer.length n with hlt | hle
  · have hlen : (s.stream.buffer ++ [eofMessage]).length ≤ n := by
      rw [List.length_append, List.length_singleton]
      exact hlt
    rw [List.drop_eq_nil_of_le hlen]
    simp [hlt]
  · rw [List.drop_append_of_le_length hle]
    simp [hle]

lemma Marked.step (sys : System) (e : Event E) (h : ∀ p, Marked (sys p).io)
    (hpushes : PushesMarker sys e) : ∀ p, Marked ((System.machine.step sys e).1 p).io := by
  intro p
  rcases e.party.eq_or_eq_peer p with rfl | rfl
  · rw [io_step]
    obtain ⟨p, c, n⟩ := e
    cases c with
    | pollWrite buf a => exact ((h p).pollWrite buf a).push n
    | pollFlush a => exact ((h p).pollFlush a).push n
    | pollRead remaining arrival => exact ((h p).pollRead remaining _).push n
    | pollShutdown a =>
      show Marked { ((sys p).io.pollShutdown a).1 with
        stream := ((sys p).io.pollShutdown a).1.stream.push n }
      rcases pollShutdown_cases (sys p).io a with
        ⟨hclosed, heq⟩ | ⟨hopen, hready, hsend, heq⟩ | ⟨-, -, hsame, -⟩
      · rw [heq]
        exact ((h p).finishShutdown hclosed a).push n
      · cases hread : (sys p).io.readClosed with
        | true =>
          rw [heq]
          exact (((h p).markEnd hopen hread).finishShutdown rfl a).push n
        | false =>
          have hmarks : MarksEnd (sys p).io a := ⟨hopen, hread, hready, hsend⟩
          rw [pollShutdown_of_marksEnd hmarks]
          refine ⟨fun _ _ => ?_, fun _ => ⟨rfl, hread⟩⟩
          have hlt : (sys p).io.stream.buffer.length < n := hpushes a rfl hmarks
          simp [not_mem_buffer_markEnd_iff, hlt]
      · rw [hsame]
        exact (h p).push n
  · obtain ⟨wire, hwire⟩ := io_step_peer sys e
    rw [hwire]
    exact ⟨(h _).flushed, (h _).waiting⟩

/-- Both parties wait for the end marker of the other, and both markers are in write buffers. -/
def Deadlocked (sys : System) : Prop :=
  ∀ p : Party, (sys p).io.waker = true ∧ eofMessage ∈ (sys p).io.stream.buffer

/-- A shutdown that waits for the end marker of the peer has its own marker on the wire. -/
def MarkerFlushed (t : Machine.Transition System (Event E) (Answer E)) : Prop :=
  t.answer = .shutdown .pending →
    (t.after t.input.party).io.writeClosed = true →
    (t.after t.input.party).io.readClosed = false →
      eofMessage ∉ (t.after t.input.party).io.stream.buffer

/-- Waiting parties have their end marker on the wire, and never wait for each other's, exactly
in the runs in which the sink pushes every marker out on its own. -/
theorem markers_flushed_iff_pushed (events : List (Event E)) :
    ((∀ t ∈ System.machine.transitions System.new events, MarkerFlushed t) ∧
      (∀ t ∈ System.machine.transitions System.new events, ¬Deadlocked t.after)) ↔
    ∀ t ∈ System.machine.transitions System.new events, PushesMarker t.before t.input := by
  constructor
  · rintro ⟨hflushed, -⟩ t ht a hcall hmarks
    have hmarker := hflushed t ht
    rw [MarkerFlushed, System.machine.after_of_mem_transitions ht,
      System.machine.answer_of_mem_transitions ht, io_step] at hmarker
    obtain ⟨sys, ⟨p, c, n⟩, sys', answer⟩ := t
    obtain rfl : c = .pollShutdown a := hcall
    have hcalled : (sys p).io.pollShutdown a = _ := pollShutdown_of_marksEnd hmarks
    simp only [callIo, hcalled] at hmarker
    refine (not_mem_buffer_markEnd_iff (sys p).io n).mp (hmarker ?_ rfl hmarks.2.1)
    show Answer.shutdown ((sys p).io.pollShutdown a).2 = _
    rw [hcalled]
  · intro hpushes
    have hafter {t} (ht : t ∈ System.machine.transitions System.new events) :
        ∀ p, Marked (t.after p).io :=
      System.machine.guarded_invariant_after (P := fun sys => ∀ p, Marked (sys p).io) Marked.step
        (fun _ => Marked.new) hpushes ht
    refine ⟨fun t ht _ => (hafter ht _).flushed, fun t ht hdead => ?_⟩
    obtain ⟨hwaker, hmem⟩ := hdead .left
    obtain ⟨hclosed, hopen⟩ := (hafter ht .left).waiting hwaker
    exact (hafter ht .left).flushed hclosed hopen hmem

/-- Both parties shut down, with sinks that keep what they accept until they are flushed. -/
def bothShutDown : List (Event Unit) :=
  [⟨.left, .pollShutdown obliging, 0⟩, ⟨.right, .pollShutdown obliging, 0⟩]

/-- Both parties of this run wait for a marker that no call pushes out. -/
theorem bothShutDown_deadlocked :
    ¬(∀ t ∈ System.machine.transitions System.new bothShutDown, MarkerFlushed t) ∧
      Deadlocked (System.machine.run System.new bothShutDown) ∧
      ∀ p : Party, ((System.machine.run System.new bothShutDown) p).io.stream.wire = [] := by
  refine ⟨fun hflushed => ?_, ?_, ?_⟩
  · rw [bothShutDown, Machine.transitions_cons, List.forall_mem_cons] at hflushed
    exact hflushed.1 rfl rfl rfl (by decide)
  · rintro (_ | _) <;> exact ⟨rfl, by decide⟩
  · rintro (_ | _) <;> rfl

end Dandelion.Simplex
