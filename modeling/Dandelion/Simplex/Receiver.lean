import Dandelion.Simplex.Calls

/-!
# One adapter and an arbitrary peer

The adapter reads what its WebSocket surfaces: data, control frames, markers, errors and the end
of the stream in any order. Its calls may come in any order too.
-/

namespace Dandelion.Simplex

open Message WebSocketStreamToAsyncWrite

variable {E : Type*}

/-! ### What a read does -/

/-- The things a read into a buffer with room for `remaining` bytes can do. -/
inductive Reads (s : WebSocketStreamToAsyncWrite) (remaining : ℕ) :
    Poll (Option (Except E Message)) → WebSocketStreamToAsyncWrite → ReadResult E → Prop
  | noRoom (next) (hroom : remaining = 0) : Reads s remaining next s (.ok [])
  | held (next) (chunk : List UInt8) (hroom : remaining ≠ 0) (hchunk : s.chunk = some chunk) :
      Reads s remaining next { s with chunk := leftover chunk remaining }
        (.ok (chunk.take (min chunk.length remaining)))
  | pending (hroom : remaining ≠ 0) (hchunk : s.chunk = none) :
      Reads s remaining .pending s .pending
  | error (e : E) (hroom : remaining ≠ 0) (hchunk : s.chunk = none) :
      Reads s remaining (.ready (some (.error e))) s (.err (wsToIoError e))
  | eof (hroom : remaining ≠ 0) (hchunk : s.chunk = none) :
      Reads s remaining (.ready (some (.ok eofMessage))) s.closeRead (.ok [])
  | message (m : Message) (hroom : remaining ≠ 0) (hchunk : s.chunk = none)
      (hm : m.isEof = false) :
      Reads s remaining (.ready (some (.ok m)))
        { s with chunk := leftover m.intoData remaining }
        (.ok (m.intoData.take (min m.intoData.length remaining)))
  | ended (hroom : remaining ≠ 0) (hchunk : s.chunk = none) :
      Reads s remaining (.ready none) (if s.readClosed then s else s.closeRead) (.ok [])

lemma Reads.of_pollRead {s s' : WebSocketStreamToAsyncWrite} {remaining : ℕ}
    {next : Poll (Option (Except E Message))} {result : ReadResult E}
    (h : s.pollRead remaining next = (s', result)) : Reads s remaining next s' result := by
  obtain ⟨rfl, rfl⟩ := Prod.ext_iff.mp h
  by_cases hroom : remaining = 0
  · rw [pollRead, if_pos hroom]
    exact .noRoom next hroom
  cases hchunk : s.chunk with
  | some chunk =>
    have hfill : s.pollFillBuf next = (s, .ready (.ok chunk)) := by simp [pollFillBuf, hchunk]
    rw [pollRead_of_chunk hroom hfill hchunk]
    exact .held next chunk hroom hchunk
  | none =>
    cases next with
    | pending =>
      simp only [pollRead, if_neg hroom, pollFillBuf, hchunk]
      exact .pending hroom hchunk
    | ready item =>
      cases item with
      | none =>
        have hfill : s.pollFillBuf (E := E) (.ready none)
            = (if s.readClosed then s else s.closeRead, .ready (.ok [])) := by
          simp [pollFillBuf, hchunk]
        rw [pollRead_of_end hroom hfill]
        exact .ended hroom hchunk
      | some result =>
        cases result with
        | error e =>
          simp only [pollRead, if_neg hroom, pollFillBuf, hchunk]
          exact .error e hroom hchunk
        | ok m =>
          cases hm : m.isEof with
          | true =>
            obtain rfl := isEof_eq_true_iff.mp hm
            have hfill : s.pollFillBuf (E := E) (.ready (some (.ok eofMessage)))
                = (s.closeRead, .ready (.ok [])) := by
              simp [pollFillBuf, hchunk]
            rw [pollRead_of_end hroom hfill]
            exact .eof hroom hchunk
          | false =>
            have hfill : s.pollFillBuf (E := E) (.ready (some (.ok m)))
                = ({ s with chunk := some m.intoData }, .ready (.ok m.intoData)) := by
              simp [pollFillBuf, hchunk, hm]
            rw [pollRead_of_chunk hroom hfill rfl]
            exact .message m hroom hchunk hm

/-- A read splits a chunk into what it returns and what is left. -/
lemma take_append_leftover (chunk : List UInt8) (remaining : ℕ) :
    chunk.take (min chunk.length remaining) ++ (leftover chunk remaining).getD [] = chunk := by
  unfold leftover
  dsimp only
  split
  case isTrue hlen => simp [hlen]
  case isFalse hlen =>
    split
    case isTrue hrest =>
      rw [List.isEmpty_iff] at hrest
      nth_rewrite 3 [← List.take_append_drop (min chunk.length remaining) chunk]
      rw [hrest]
      rfl
    case isFalse => exact List.take_append_drop _ _

/-- A read with room returns nothing, and leaves an empty chunk, only if the chunk is empty. -/
lemma take_eq_nil_iff {chunk : List UInt8} {remaining : ℕ} (hroom : remaining ≠ 0) :
    chunk.take (min chunk.length remaining) = [] ↔ chunk = [] := by
  rw [List.take_eq_nil_iff]
  constructor
  · rintro (hmin | hnil)
    · exact List.eq_nil_of_length_eq_zero ((Nat.min_eq_zero_iff.mp hmin).resolve_right hroom)
    · exact hnil
  · exact .inr

lemma leftover_eq_some_nil_iff {chunk : List UInt8} {remaining : ℕ} :
    leftover chunk remaining = some [] ↔ chunk = [] := by
  constructor
  · intro h
    unfold leftover at h
    dsimp only at h
    split at h
    · exact Option.some.inj h
    · split at h
      · cases h
      case isFalse hrest => exact absurd (Option.some.inj h) (by simpa using hrest)
  · rintro rfl
    rfl

/-! ### The adapter with its history -/

/-- An adapter, and what it has delivered and taken. -/
structure Receiver where
  io : WebSocketStreamToAsyncWrite
  /-- The bytes of all reads that succeeded. -/
  read : List UInt8
  /-- The messages taken from the stream. -/
  taken : List Message
  /-- Whether the stream was found to have ended. -/
  ended : Bool

namespace Receiver

def new : Receiver := ⟨.new .new, [], [], false⟩

/-- The polls the owner of an adapter makes, with what the WebSocket answers. -/
inductive Call (E : Type*) where
  | pollWrite (buf : List UInt8) (answers : SinkAnswers E)
  | pollFlush (answers : SinkAnswers E)
  | pollShutdown (answers : SinkAnswers E)
  | pollRead (remaining : ℕ) (next : Poll (Option (Except E Message)))

variable {s : Receiver}

/-- What a read gets from the stream: nothing while a chunk is held or if there is no room. -/
def arrival (s : Receiver) (remaining : ℕ) (next : Poll (Option (Except E Message))) :
    Poll (Option (Except E Message)) :=
  if remaining = 0 ∨ s.io.chunk.isSome then .pending else next

/-- The message that a poll of the stream gives. -/
def messageOf : Poll (Option (Except E Message)) → Option Message
  | .ready (some (.ok m)) => some m
  | _                     => none

/-- Whether a poll of the stream gives its end. -/
def isEnd : Poll (Option (Except E Message)) → Bool
  | .ready none => true
  | _           => false

def pollRead (s : Receiver) (remaining : ℕ) (next : Poll (Option (Except E Message))) :
    Receiver × ReadResult E :=
  ({ io := (s.io.pollRead remaining next).1
     read := s.read ++ (s.io.pollRead remaining next).2.bytes
     taken := s.taken ++ (messageOf (s.arrival remaining next)).toList
     ended := s.ended || isEnd (s.arrival remaining next) }, (s.io.pollRead remaining next).2)

/-- The adapter as a machine that is driven by polls. -/
def machine : Machine Receiver (Call E) (Answer E) where
  step
    | s, .pollWrite buf a =>
      ({ s with io := (s.io.pollWrite buf a).1 }, .write (s.io.pollWrite buf a).2)
    | s, .pollFlush a => ({ s with io := (s.io.pollFlush a).1 }, .flush (s.io.pollFlush a).2)
    | s, .pollShutdown a =>
      ({ s with io := (s.io.pollShutdown a).1 }, .shutdown (s.io.pollShutdown a).2)
    | s, .pollRead remaining next =>
      ((s.pollRead remaining next).1, .read (s.pollRead remaining next).2)

/-! ### The bytes a reader should see -/

/-- The bytes that a message carries as data. -/
def binaryData : Message → List UInt8
  | .binary data => data
  | _            => []

/-- The payloads of the binary messages before the first end marker. -/
def dataBeforeEof (msgs : List Message) : List UInt8 :=
  (msgs.takeWhile fun m => !m.isEof).flatMap binaryData

lemma dataBeforeEof_cons (m : Message) (msgs : List Message) :
    dataBeforeEof (m :: msgs) = if m.isEof then [] else binaryData m ++ dataBeforeEof msgs := by
  cases hm : m.isEof <;> simp [dataBeforeEof, hm]

lemma dataBeforeEof_append (msgs : List Message) (m : Message) :
    dataBeforeEof (msgs ++ [m])
      = dataBeforeEof msgs ++ if eofMessage ∈ msgs then [] else binaryData m := by
  induction msgs with
  | nil =>
    cases hm : m.isEof with
    | false => simp [dataBeforeEof, hm]
    | true =>
      obtain rfl := isEof_eq_true_iff.mp hm
      rfl
  | cons x msgs ih =>
    rw [List.cons_append, dataBeforeEof_cons, dataBeforeEof_cons, ih]
    cases hx : x.isEof with
    | true => simp [isEof_eq_true_iff.mp hx]
    | false =>
      have hne : eofMessage ≠ x := by
        rintro rfl
        simp at hx
      simp [hne]

lemma dataBeforeEof_append_eof (msgs : List Message) :
    dataBeforeEof (msgs ++ [eofMessage]) = dataBeforeEof msgs := by
  rw [dataBeforeEof_append, show binaryData eofMessage = [] from rfl, ite_self, List.append_nil]

/-- The reader was told that no more data comes: by a marker, by a close frame, or by the end of
the stream. -/
def ReachedEnd (s : Receiver) : Prop :=
  eofMessage ∈ s.taken ∨ (∃ frame, .close frame ∈ s.taken) ∨ s.ended = true

/-- The messages that do no harm to a reader. -/
inductive Harmless (s : Receiver) : Message → Prop
  | eof : Harmless s eofMessage
  | data (bytes : List UInt8) (hbytes : bytes ≠ []) (heof : eofMessage ∉ s.taken) :
      Harmless s (.binary bytes)
  | close (frame : Option (UInt16 × String)) (hempty : (Message.close frame).intoData = []) :
      Harmless s (.close frame)
  | late (m : Message) (hempty : m.intoData = []) (hend : s.ReachedEnd) : Harmless s m

/-- A call that takes no message off the stream but harmless ones. -/
def TakesHarmless (s : Receiver) : Call E → Prop
  | .pollRead remaining next =>
    ∀ m, messageOf (s.arrival remaining next) = some m → Harmless s m
  | _ => True

/-- After the step the bytes delivered, with those held of the last message, are the data before
the first marker, and a read with room has returned nothing only at the end. -/
structure Faithful (t : Machine.Transition Receiver (Call E) (Answer E)) : Prop where
  bytes : t.after.read ++ t.after.io.chunk.getD [] = dataBeforeEof t.after.taken
  ends : ∀ remaining next, t.input = .pollRead remaining next → remaining ≠ 0 →
    t.answer = .read (.ok []) → t.after.ReachedEnd

/-- What holds between the calls as long as all messages are harmless. -/
structure Sound (s : Receiver) : Prop where
  bytes : s.read ++ s.io.chunk.getD [] = dataBeforeEof s.taken
  stuck : s.io.chunk = some [] → s.ReachedEnd

lemma Sound.new : Sound new := ⟨rfl, nofun⟩

lemma harmless_iff {m : Message} (hm : m.isEof = false) :
    Harmless s m ↔
      (m.intoData = if eofMessage ∈ s.taken then [] else binaryData m) ∧
      (m.intoData = [] → s.ReachedEnd ∨ ∃ frame, m = .close frame) := by
  constructor
  · intro h
    cases h with
    | eof => simp at hm
    | data bytes hbytes heof => simp [intoData, binaryData, heof, hbytes]
    | close frame hempty => simp [hempty, binaryData]
    | late m hempty hend =>
      refine ⟨?_, fun _ => .inl hend⟩
      cases m <;> simp_all [intoData, binaryData]
  · rintro ⟨hdata, hend⟩
    by_cases hempty : m.intoData = []
    · rcases hend hempty with hend | ⟨frame, rfl⟩
      · exact .late m hempty hend
      · exact .close frame hempty
    · have heof : eofMessage ∉ s.taken := by
        intro heof
        exact hempty (hdata.trans (if_pos heof))
      rw [if_neg heof] at hdata
      cases m with
      | binary bytes => exact .data bytes hempty heof
      | _ => exact absurd hdata hempty

/-! ### Calls that do not read -/

lemma pollWrite_stream (s : WebSocketStreamToAsyncWrite) (buf : List UInt8)
    (a : SinkAnswers E) : ∃ stream, (s.pollWrite buf a).1 = { s with stream := stream } := by
  rw [pollWrite]
  split
  · exact ⟨_, rfl⟩
  · exact ⟨_, rfl⟩
  · split
    · exact ⟨_, rfl⟩
    · exact ⟨_, rfl⟩

lemma pollFlush_stream (s : WebSocketStreamToAsyncWrite) (a : SinkAnswers E) :
    ∃ stream, (s.pollFlush a).1 = { s with stream := stream } := by
  rw [pollFlush]
  split
  · exact ⟨_, rfl⟩
  · exact ⟨_, rfl⟩
  · exact ⟨_, rfl⟩

/-- Once the end of the data is marked, a shutdown closes the stream or waits for the peer. -/
lemma finishShutdown_cases (s : WebSocketStreamToAsyncWrite) (a : SinkAnswers E) :
    (s.readClosed = true ∧ ∃ stream, (s.finishShutdown a).1 = { s with stream := stream }) ∨
      (s.readClosed = false ∧ s.finishShutdown a = ({ s with waker := true }, .pending)) := by
  rw [finishShutdown]
  cases hread : s.readClosed with
  | true =>
    refine .inl ⟨rfl, ?_⟩
    simp only [if_true]
    split
    · exact ⟨_, rfl⟩
    · exact ⟨_, rfl⟩
    · exact ⟨_, rfl⟩
  | false => exact .inr ⟨rfl, rfl⟩

lemma pollShutdown_fields (s : WebSocketStreamToAsyncWrite) (a : SinkAnswers E) :
    ∃ stream writeClosed waker, (s.pollShutdown a).1
      = { s with stream := stream, writeClosed := writeClosed, waker := waker } := by
  have hfinish : ∀ s : WebSocketStreamToAsyncWrite, ∃ stream waker,
      (s.finishShutdown a).1 = { s with stream := stream, waker := waker } := by
    intro s
    rcases finishShutdown_cases s a with ⟨-, stream, heq⟩ | ⟨-, heq⟩
    · exact ⟨stream, s.waker, heq⟩
    · exact ⟨s.stream, true, by rw [heq]⟩
  rcases pollShutdown_cases s a with ⟨-, heq⟩ | ⟨-, -, -, heq⟩ | ⟨-, -, hsame, -⟩
  · obtain ⟨stream, waker, hs⟩ := hfinish s
    exact ⟨stream, s.writeClosed, waker, by rw [heq, hs]⟩
  · obtain ⟨stream, waker, hs⟩ := hfinish (markEnd s)
    exact ⟨stream, true, waker, by rw [heq, hs]; rfl⟩
  · exact ⟨s.stream, s.writeClosed, s.waker, hsame⟩

lemma Sound.of_chunk (h : Sound s) {io : WebSocketStreamToAsyncWrite}
    (hchunk : io.chunk = s.io.chunk) : Sound { s with io := io } := by
  refine ⟨?_, ?_⟩
  · rw [hchunk]
    exact h.bytes
  · intro hstuck
    exact h.stuck (hchunk.symm.trans hstuck)

/-! ### Reads -/

variable {remaining : ℕ} {next : Poll (Option (Except E Message))}

lemma arrival_of_not_asked (h : remaining = 0 ∨ s.io.chunk.isSome) :
    s.arrival remaining next = .pending :=
  if_pos h

lemma arrival_of_asked (hroom : remaining ≠ 0) (hchunk : s.io.chunk = none) :
    s.arrival remaining next = next := by
  apply if_neg
  simp [hroom, hchunk]

/-- A message with data, or one that is not the marker, is held as a chunk at first. -/
lemma pollRead_of_message (hroom : remaining ≠ 0) (hchunk : s.io.chunk = none) {m : Message}
    (hm : m.isEof = false) :
    s.pollRead remaining (.ready (some (.ok m)) : Poll (Option (Except E Message)))
      = ({ s with
            io := { s.io with chunk := leftover m.intoData remaining }
            read := s.read ++ m.intoData.take (min m.intoData.length remaining)
            taken := s.taken ++ [m] },
          .ok (m.intoData.take (min m.intoData.length remaining))) := by
  obtain ⟨io', result, hread⟩ : ∃ io' result,
      s.io.pollRead remaining (.ready (some (.ok m)) : Poll (Option (Except E Message)))
        = (io', result) := ⟨_, _, rfl⟩
  simp only [Receiver.pollRead, hread, arrival_of_asked hroom hchunk]
  cases Reads.of_pollRead hread with
  | noRoom _ hzero => exact absurd hzero hroom
  | held _ chunk _ hsome =>
    rw [hchunk] at hsome
    cases hsome
  | eof => simp at hm
  | message => simp [messageOf, isEnd, ReadResult.bytes]

/-- A read that takes no message, or the marker, keeps the adapter sound and returns nothing
only at the end. -/
lemma Sound.pollRead_of_quiet (h : Sound s)
    (hquiet : ∀ m, messageOf (s.arrival remaining next) = some m → m = eofMessage) :
    Sound (s.pollRead remaining next).1 ∧
      (remaining ≠ 0 → (s.pollRead remaining next).2 = .ok [] →
        (s.pollRead remaining next).1.ReachedEnd) := by
  obtain ⟨io', result, hread⟩ : ∃ io' result, s.io.pollRead remaining next = (io', result) :=
    ⟨_, _, rfl⟩
  simp only [Receiver.pollRead, hread]
  cases Reads.of_pollRead hread with
  | noRoom _ hroom =>
    rw [arrival_of_not_asked (.inl hroom)]
    refine ⟨?_, fun hne => absurd hroom hne⟩
    simpa [messageOf, isEnd, ReadResult.bytes] using h
  | held _ chunk hroom hchunk =>
    rw [arrival_of_not_asked (.inr (by simp [hchunk]))]
    have hstuck : chunk = [] → s.ReachedEnd := by
      rintro rfl
      exact h.stuck hchunk
    have hbytes : s.read ++ chunk = dataBeforeEof s.taken := by simpa [hchunk] using h.bytes
    refine ⟨⟨?_, ?_⟩, ?_⟩
    · simpa [messageOf, ReadResult.bytes, take_append_leftover] using hbytes
    · intro hleft
      simpa [messageOf, isEnd, ReachedEnd] using hstuck (leftover_eq_some_nil_iff.mp hleft)
    · intro _ hzero
      rw [ReadResult.ok.injEq, take_eq_nil_iff hroom] at hzero
      simpa [messageOf, isEnd, ReachedEnd] using hstuck hzero
  | pending hroom hchunk =>
    rw [arrival_of_asked hroom hchunk]
    refine ⟨?_, by simp⟩
    simpa [messageOf, isEnd, ReadResult.bytes] using h
  | error e hroom hchunk =>
    rw [arrival_of_asked hroom hchunk]
    refine ⟨?_, by simp⟩
    simpa [messageOf, isEnd, ReadResult.bytes] using h
  | eof hroom hchunk =>
    rw [arrival_of_asked hroom hchunk]
    refine ⟨⟨?_, ?_⟩, fun _ _ => .inl (by simp [messageOf])⟩
    · simpa [messageOf, ReadResult.bytes, closeRead, dataBeforeEof_append_eof] using h.bytes
    · intro hstuck
      exact .inl (by simp [messageOf])
  | message m hroom hchunk hm =>
    rw [arrival_of_asked hroom hchunk] at hquiet
    rw [hquiet m rfl, isEof_eofMessage] at hm
    cases hm
  | ended hroom hchunk =>
    rw [arrival_of_asked hroom hchunk]
    have hend : ∀ io read, ReachedEnd ⟨io, read, s.taken, true⟩ := fun _ _ => .inr (.inr rfl)
    have hsame : (if s.io.readClosed then s.io else s.io.closeRead).chunk = s.io.chunk := by
      split <;> rfl
    refine ⟨⟨?_, ?_⟩, ?_⟩
    · simpa [messageOf, ReadResult.bytes, hsame] using h.bytes
    · intro _
      simpa [messageOf, isEnd] using hend _ _
    · intro _ _
      simpa [messageOf, isEnd] using hend _ _

/-- Of the other messages, exactly the harmless ones are read faithfully. -/
lemma Sound.pollRead_of_message (h : Sound s) (hroom : remaining ≠ 0) (hchunk : s.io.chunk = none)
    {m : Message} (hm : m.isEof = false) :
    let r := s.pollRead remaining (.ready (some (.ok m)) : Poll (Option (Except E Message)))
    (r.1.read ++ r.1.io.chunk.getD [] = dataBeforeEof r.1.taken ∧
        (r.2 = .ok [] → r.1.ReachedEnd) ↔ Harmless s m) ∧
      (r.1.io.chunk = some [] → r.2 = .ok []) := by
  intro r
  have hr : r = _ := Receiver.pollRead_of_message hroom hchunk hm
  have hbytes : s.read = dataBeforeEof s.taken := by simpa [hchunk] using h.bytes
  rw [hr]
  refine ⟨?_, ?_⟩
  · rw [harmless_iff hm, ReadResult.ok.injEq, take_eq_nil_iff hroom]
    apply and_congr
    · rw [List.append_assoc, take_append_leftover, dataBeforeEof_append, hbytes]
      exact List.append_right_inj _
    · apply imp_congr_right
      intro _
      have hne : eofMessage ≠ m := by
        rintro rfl
        simp at hm
      simp only [ReachedEnd, List.mem_append, List.mem_singleton, hne, or_false, exists_or,
        @eq_comm _ _ m]
      tauto
  · intro hleft
    rw [leftover_eq_some_nil_iff] at hleft
    simp [hleft]

lemma of_messageOf_arrival {m : Message} (h : messageOf (s.arrival remaining next) = some m) :
    remaining ≠ 0 ∧ s.io.chunk = none ∧ next = .ready (some (.ok m)) := by
  by_cases hasked : remaining = 0 ∨ s.io.chunk.isSome
  · rw [arrival_of_not_asked hasked] at h
    cases h
  · obtain ⟨hroom, hchunk⟩ := not_or.mp hasked
    rw [Bool.not_eq_true, Option.isSome_eq_false_iff, Option.isNone_iff_eq_none] at hchunk
    rw [arrival_of_asked hroom hchunk] at h
    refine ⟨hroom, hchunk, ?_⟩
    unfold messageOf at h
    split at h
    · cases h
      rfl
    · cases h

/-- Exactly the reads that take no message but harmless ones are faithful, and they keep the
adapter sound. -/
lemma Sound.pollRead (h : Sound s) (remaining : ℕ) (next : Poll (Option (Except E Message))) :
    ((s.pollRead remaining next).1.read ++ (s.pollRead remaining next).1.io.chunk.getD []
        = dataBeforeEof (s.pollRead remaining next).1.taken ∧
      (remaining ≠ 0 → (s.pollRead remaining next).2 = .ok [] →
        (s.pollRead remaining next).1.ReachedEnd) ↔
      s.TakesHarmless (.pollRead remaining next)) ∧
    (s.TakesHarmless (.pollRead remaining next) → Sound (s.pollRead remaining next).1) := by
  by_cases hquiet : ∀ m, messageOf (s.arrival remaining next) = some m → m = eofMessage
  · obtain ⟨hsound, hends⟩ := h.pollRead_of_quiet hquiet
    have hharmless : s.TakesHarmless (.pollRead remaining next) := by
      intro m hm
      rw [hquiet m hm]
      exact .eof
    exact ⟨iff_of_true ⟨hsound.bytes, hends⟩ hharmless, fun _ => hsound⟩
  · push Not at hquiet
    obtain ⟨m, htaken, hne⟩ := hquiet
    obtain ⟨hroom, hchunk, rfl⟩ := of_messageOf_arrival htaken
    have hm : m.isEof = false := by
      rw [← Bool.not_eq_true, isEof_eq_true_iff]
      exact hne
    have hharmless : s.TakesHarmless (.pollRead remaining (.ready (some (.ok m)) :
        Poll (Option (Except E Message)))) ↔ Harmless s m := by
      simp [TakesHarmless, htaken]
    obtain ⟨hiff, hstuck⟩ := h.pollRead_of_message (E := E) hroom hchunk hm
    rw [hharmless]
    refine ⟨?_, ?_⟩
    · rw [← hiff]
      simp [hroom]
    · intro hm'
      obtain ⟨hbytes, hends⟩ := hiff.mpr hm'
      exact ⟨hbytes, fun hnil => hends (hstuck hnil)⟩

lemma Sound.step (h : Sound s) (call : Call E) (hharmless : s.TakesHarmless call) :
    Sound (machine.step s call).1 := by
  cases call with
  | pollWrite buf a =>
    obtain ⟨stream, heq⟩ := pollWrite_stream s.io buf a
    exact h.of_chunk (by rw [heq])
  | pollFlush a =>
    obtain ⟨stream, heq⟩ := pollFlush_stream s.io a
    exact h.of_chunk (by rw [heq])
  | pollShutdown a =>
    obtain ⟨stream, writeClosed, waker, heq⟩ := pollShutdown_fields s.io a
    exact h.of_chunk (by rw [heq])
  | pollRead remaining next => exact (h.pollRead remaining next).2 hharmless

lemma Sound.faithful_iff (h : Sound s) (call : Call E) :
    Faithful ⟨s, call, (machine.step s call).1, (machine.step s call).2⟩ ↔
      s.TakesHarmless call := by
  have hother : ∀ call : Call E, (∀ remaining next, call ≠ .pollRead remaining next) →
      s.TakesHarmless call →
      Faithful ⟨s, call, (machine.step s call).1, (machine.step s call).2⟩ := by
    intro call hcall hharmless
    exact ⟨(h.step call hharmless).bytes, fun remaining next heq => absurd heq (hcall _ _)⟩
  cases call with
  | pollWrite buf a => exact iff_of_true (hother _ (by simp) trivial) trivial
  | pollFlush a => exact iff_of_true (hother _ (by simp) trivial) trivial
  | pollShutdown a => exact iff_of_true (hother _ (by simp) trivial) trivial
  | pollRead remaining next =>
    rw [← (h.pollRead remaining next).1]
    constructor
    · intro hf
      exact ⟨hf.bytes, fun hroom hzero => hf.ends remaining next rfl hroom (congrArg _ hzero)⟩
    · rintro ⟨hbytes, hends⟩
      refine ⟨hbytes, ?_⟩
      rintro _ _ ⟨⟩ hroom hzero
      exact hends hroom (Answer.read.inj hzero)

/-- In every run of calls and over every peer: the bytes delivered are the binary payloads
before the first marker, and a read with room returns nothing only at the end, exactly if no
message is taken but markers, binary messages with data that come before any marker, close
frames without a reason and, at the end, messages without payload. -/
theorem faithful_iff_takesHarmless (calls : List (Call E)) :
    (∀ t ∈ machine.transitions new calls, Faithful t) ↔
      ∀ t ∈ machine.transitions new calls, t.before.TakesHarmless t.input :=
  machine.forall_transitions_iff (fun _ call h => h.faithful_iff call)
    (fun _ call h => h.step call) Sound.new calls

/-- The stream surfaces a ping with a payload, then the marker. -/
def pingThenEof : List (Call Unit) :=
  [ .pollRead 8 (.ready (some (.ok (.ping [7])))),
    .pollRead 8 (.ready (some (.ok eofMessage))) ]

/-- The stream surfaces a binary message without data, then one with data. -/
def emptyThenData : List (Call Unit) :=
  [ .pollRead 8 (.ready (some (.ok (.binary [])))),
    .pollRead 8 (.ready (some (.ok (.binary [1])))) ]

/-- The payload of a ping is delivered as data, and an empty binary message looks like the end of
the data for good. -/
theorem not_faithful_of_ping_or_empty :
    (¬(∀ t ∈ machine.transitions new pingThenEof, Faithful t) ∧
      (machine.run new pingThenEof).read = [7]) ∧
    ¬(∀ t ∈ machine.transitions new emptyThenData, Faithful t) ∧
      machine.answers new emptyThenData = [.read (.ok []), .read (.ok [])] := by
  refine ⟨⟨?_, rfl⟩, ?_, rfl⟩
  · intro h
    rw [pingThenEof, Machine.transitions_cons, List.forall_mem_cons] at h
    exact absurd h.1.bytes (by decide)
  · intro h
    rw [emptyThenData, Machine.transitions_cons, List.forall_mem_cons] at h
    rcases h.1.ends 8 _ rfl (by decide) rfl with heof | ⟨frame, hclose⟩ | hended
    · exact absurd heof (by decide)
    · change .close frame ∈ [Message.binary []] at hclose
      simp at hclose
    · cases hended

end Receiver

end Dandelion.Simplex
