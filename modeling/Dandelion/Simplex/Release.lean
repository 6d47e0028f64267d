import Dandelion.Simplex.Receiver

/-!
# The end of the reads releases the shutdown

A shutdown waits for the incoming data to end. A reader learns of the end by a read that returns
nothing although there is room. The two agree unless a message without payload is taken for the
end.
-/

namespace Dandelion.Simplex.Receiver

open Message WebSocketStreamToAsyncWrite

variable {E : Type*} {s : Receiver}

/-- A read with room that returns nothing: the end of the stream as a reader sees it. -/
def ReturnsNothing (t : Machine.Transition Receiver (Call E) (Answer E)) : Prop :=
  ∃ remaining next, t.input = .pollRead remaining next ∧ remaining ≠ 0 ∧
    t.answer = .read (.ok [])

/-- A shutdown that waits for the read side. -/
def Waits (t : Machine.Transition Receiver (Call E) (Answer E)) : Prop :=
  (∃ a, t.input = .pollShutdown a) ∧ t.answer = .shutdown .pending ∧
    t.after.io.writeClosed = true ∧ t.after.io.readClosed = false

/-- Once a read has returned nothing, no registered waker is left unwoken, and no shutdown waits
whatever is called later. -/
def Released (t : Machine.Transition Receiver (Call E) (Answer E)) : Prop :=
  ReturnsNothing t → t.after.io.waker = false ∧
    ∀ later, ∀ t' ∈ machine.transitions t.after later, ¬Waits (E := E) t'

/-- A read that takes a message without payload, other than the marker, before the end. -/
def TakesEmpty (s : Receiver) (call : Call E) : Prop :=
  ∃ remaining next m, call = .pollRead remaining next ∧
    messageOf (s.arrival remaining next) = some m ∧ m.isEof = false ∧ m.intoData = [] ∧
    s.io.readClosed = false

/-- What holds between the calls as long as no such message is taken. -/
structure Settled (s : Receiver) : Prop where
  waiting : s.io.waker = true → s.io.writeClosed = true ∧ s.io.readClosed = false
  stuck : s.io.chunk = some [] → s.io.readClosed = true

lemma Settled.new : Settled new := ⟨nofun, nofun⟩

/-! ### The end of the incoming data is noted for good -/

lemma readClosed_step (h : s.io.readClosed = true) (call : Call E) :
    (machine.step s call).1.io.readClosed = true := by
  cases call with
  | pollWrite buf a =>
    obtain ⟨stream, heq⟩ := pollWrite_stream s.io buf a
    simp [machine, heq, h]
  | pollFlush a =>
    obtain ⟨stream, heq⟩ := pollFlush_stream s.io a
    simp [machine, heq, h]
  | pollShutdown a =>
    obtain ⟨stream, writeClosed, waker, heq⟩ := pollShutdown_fields s.io a
    simp [machine, heq, h]
  | pollRead remaining next =>
    obtain ⟨chunk, heq | heq⟩ := pollRead_cases s.io remaining next
    · simp [machine, Receiver.pollRead, heq, h]
    · simp [machine, Receiver.pollRead, heq, closeRead]

lemma not_waits_of_readClosed (h : s.io.readClosed = true) (later : List (Call E)) :
    ∀ t ∈ machine.transitions s later, ¬Waits t := by
  intro t ht hwaits
  have hafter := machine.guarded_invariant_after (P := fun s => s.io.readClosed = true)
    (G := fun _ _ => True) (fun _ call hs _ => readClosed_step hs call) h (fun _ _ => trivial) ht
  rw [hwaits.2.2.2] at hafter
  cases hafter

/-- A shutdown that can send its marker waits as long as the incoming data has not ended. -/
lemma waits_of_open (h : s.io.readClosed = false) (a : SinkAnswers E)
    (hready : a.ready = .ready (.ok ())) (hsend : a.send = .ok ()) :
    Waits ⟨s, .pollShutdown a, (machine.step s (.pollShutdown a)).1,
      (machine.step s (.pollShutdown a)).2⟩ := by
  refine ⟨⟨a, rfl⟩, ?_⟩
  rcases pollShutdown_cases s.io a with
    ⟨hclosed, heq⟩ | ⟨hopen, -, -, heq⟩ | ⟨-, hnot, -⟩
  · simp [machine, heq, finishShutdown, h, hclosed]
  · simp [machine, heq, finishShutdown, markEnd, h]
  · exact absurd ⟨hready, hsend⟩ hnot

/-! ### Reads -/

variable {remaining : ℕ} {next : Poll (Option (Except E Message))}

/-- A message without payload is returned as nothing, and the end is not noted. -/
lemma TakesEmpty.pollRead (h : s.TakesEmpty (.pollRead remaining next)) :
    remaining ≠ 0 ∧ (s.pollRead remaining next).2 = .ok [] ∧
      (s.pollRead remaining next).1.io.readClosed = false := by
  obtain ⟨_, _, m, ⟨⟩, htaken, hm, hempty, hopen⟩ := h
  obtain ⟨hroom, hchunk, rfl⟩ := of_messageOf_arrival htaken
  rw [pollRead_of_message hroom hchunk hm]
  exact ⟨hroom, by simp [hempty], hopen⟩

/-- A read with room that returns nothing, or leaves an empty chunk, has met the end of the data
unless it took a message without payload. -/
lemma Settled.readClosed_of_nothing (h : Settled s)
    (hcall : ¬s.TakesEmpty (.pollRead remaining next)) :
    (remaining ≠ 0 → (s.pollRead remaining next).2 = .ok [] →
        (s.pollRead remaining next).1.io.readClosed = true) ∧
      ((s.pollRead remaining next).1.io.chunk = some [] →
        (s.pollRead remaining next).1.io.readClosed = true) := by
  obtain ⟨io', result, hread⟩ : ∃ io' result, s.io.pollRead remaining next = (io', result) :=
    ⟨_, _, rfl⟩
  simp only [Receiver.pollRead, hread]
  cases Reads.of_pollRead hread with
  | noRoom _ hroom => exact ⟨fun hne => absurd hroom hne, h.stuck⟩
  | held _ chunk hroom hchunk =>
    have hstuck : chunk = [] → s.io.readClosed = true := by
      rintro rfl
      exact h.stuck hchunk
    constructor
    · intro _ hzero
      rw [ReadResult.ok.injEq, take_eq_nil_iff hroom] at hzero
      exact hstuck hzero
    · intro hleft
      exact hstuck (leftover_eq_some_nil_iff.mp hleft)
  | pending hroom hchunk => exact ⟨by simp, h.stuck⟩
  | error e hroom hchunk => exact ⟨by simp, h.stuck⟩
  | eof hroom hchunk => exact ⟨fun _ _ => rfl, fun _ => rfl⟩
  | message m hroom hchunk hm =>
    have hempty : m.intoData = [] → s.io.readClosed = true := by
      intro hnil
      by_contra hopen
      rw [Bool.not_eq_true] at hopen
      refine hcall ⟨remaining, _, m, rfl, ?_, hm, hnil, hopen⟩
      rw [arrival_of_asked hroom hchunk]
      rfl
    constructor
    · intro _ hzero
      rw [ReadResult.ok.injEq, take_eq_nil_iff hroom] at hzero
      exact hempty hzero
    · intro hleft
      exact hempty (leftover_eq_some_nil_iff.mp hleft)
  | ended hroom hchunk =>
    have hclosed : (if s.io.readClosed then s.io else s.io.closeRead).readClosed = true := by
      split
      · assumption
      · rfl
    exact ⟨fun _ _ => hclosed, fun _ => hclosed⟩

lemma Settled.pollRead (h : Settled s) (hcall : ¬s.TakesEmpty (.pollRead remaining next)) :
    Settled (s.pollRead remaining next).1 := by
  refine ⟨?_, (h.readClosed_of_nothing hcall).2⟩
  obtain ⟨chunk, heq | heq⟩ := pollRead_cases s.io remaining next
  · simp only [Receiver.pollRead, heq]
    exact h.waiting
  · -- noting the end wakes whoever waits, since it waits after its own marker
    simp only [Receiver.pollRead, heq, closeRead]
    intro hwaker
    obtain ⟨hbefore, hopen⟩ : s.io.waker = true ∧ s.io.writeClosed = false := by
      simpa using hwaker
    rw [(h.waiting hbefore).1] at hopen
    cases hopen

/-! ### All calls -/

lemma Settled.finishShutdown {io : WebSocketStreamToAsyncWrite} (h : Settled { s with io := io })
    (hclosed : io.writeClosed = true) (a : SinkAnswers E) :
    Settled { s with io := (io.finishShutdown a).1 } := by
  rcases finishShutdown_cases io a with ⟨-, stream, heq⟩ | ⟨hopen, heq⟩
  · rw [heq]
    exact ⟨h.waiting, h.stuck⟩
  · rw [heq]
    exact ⟨fun _ => ⟨hclosed, hopen⟩, h.stuck⟩

lemma Settled.step (h : Settled s) (call : Call E) (hcall : ¬s.TakesEmpty call) :
    Settled (machine.step s call).1 := by
  cases call with
  | pollWrite buf a =>
    obtain ⟨stream, heq⟩ := pollWrite_stream s.io buf a
    simp only [machine, heq]
    exact ⟨h.waiting, h.stuck⟩
  | pollFlush a =>
    obtain ⟨stream, heq⟩ := pollFlush_stream s.io a
    simp only [machine, heq]
    exact ⟨h.waiting, h.stuck⟩
  | pollRead remaining next => exact h.pollRead hcall
  | pollShutdown a =>
    simp only [machine]
    rcases pollShutdown_cases s.io a with
      ⟨hclosed, heq⟩ | ⟨hopen, -, -, heq⟩ | ⟨-, -, hsame, -⟩
    · rw [heq]
      exact Settled.finishShutdown h hclosed a
    · have hmarked : Settled { s with io := markEnd s.io } := by
        refine ⟨fun hwaker => ?_, h.stuck⟩
        rw [(h.waiting hwaker).1] at hopen
        cases hopen
      rw [heq]
      exact hmarked.finishShutdown rfl a
    · rw [hsame]
      exact h

lemma Settled.released_iff (h : Settled s) (call : Call E) :
    Released ⟨s, call, (machine.step s call).1, (machine.step s call).2⟩ ↔
      ¬s.TakesEmpty call := by
  constructor
  · intro hreleased hempty
    obtain ⟨remaining, next, rfl⟩ : ∃ remaining next, call = .pollRead remaining next := by
      obtain ⟨remaining, next, -, heq, -⟩ := hempty
      exact ⟨remaining, next, heq⟩
    obtain ⟨hroom, hnil, hopen⟩ := TakesEmpty.pollRead hempty
    obtain ⟨-, hlater⟩ := hreleased ⟨remaining, next, rfl, hroom, congrArg _ hnil⟩
    -- a shutdown whose marker the sink accepts would wait now
    let a : SinkAnswers E := ⟨.ready (.ok ()), .ok (), .pending, .pending⟩
    apply hlater [.pollShutdown a]
    · exact List.mem_singleton_self _
    · exact waits_of_open hopen a rfl rfl
  · rintro hcall ⟨remaining, next, rfl, hroom, hnil⟩
    have hclosed := (h.readClosed_of_nothing hcall).1 hroom (Answer.read.inj hnil)
    have hsettled := h.step _ hcall
    refine ⟨?_, not_waits_of_readClosed hclosed⟩
    rw [Bool.eq_false_iff]
    intro hwaker
    have hopen := (hsettled.waiting hwaker).2
    rw [show (machine.step s (.pollRead remaining next)).1.io.readClosed = true from hclosed]
      at hopen
    cases hopen

/-- In every run of calls and over every peer: a read that returns nothing has woken whoever
waits in a shutdown and lets no later shutdown wait, exactly if no read takes a message without
payload, other than the marker, before the incoming data was noted to have ended. -/
theorem released_iff_not_takesEmpty (calls : List (Call E)) :
    (∀ t ∈ machine.transitions new calls, Released t) ↔
      ∀ t ∈ machine.transitions new calls, ¬t.before.TakesEmpty t.input :=
  machine.forall_transitions_iff (fun _ call h => h.released_iff call)
    (fun _ call h => h.step call) Settled.new calls

/-- A shutdown that waits, and a read that takes a close frame without a reason. -/
def closeWhileWaiting : List (Call Unit) :=
  [ .pollShutdown ⟨.ready (.ok ()), .ok (), .pending, .pending⟩,
    .pollRead 8 (.ready (some (.ok (.close none)))) ]

/-- The reader is at the end, the shutdown is never woken and waits again when it is called. -/
theorem closeWhileWaiting_not_released :
    ¬(∀ t ∈ machine.transitions new closeWhileWaiting, Released t) ∧
      machine.answers new closeWhileWaiting = [.shutdown .pending, .read (.ok [])] ∧
      (machine.run new closeWhileWaiting).io.waker = true := by
  refine ⟨?_, rfl, rfl⟩
  intro h
  rw [closeWhileWaiting, Machine.transitions_cons, List.forall_mem_cons, Machine.transitions_cons,
    List.forall_mem_cons] at h
  have hwoken := (h.2.1 ⟨8, _, rfl, by decide, rfl⟩).1
  cases hwoken

end Dandelion.Simplex.Receiver
