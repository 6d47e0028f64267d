import Dandelion.Simplex.Flow

/-!
# The calls keep to the rules

Every poll of a party acts on its sending half and on the direction it reads from by the rules of
`Dandelion.Simplex.Flow`, so both directions keep their invariant in every run.
-/

namespace Dandelion.Simplex

open Relation Message WebSocketStreamToAsyncWrite

variable {E : Type*} {P : List UInt8 → Prop} (side : Side)

/-! ### Writes and shutdowns -/

lemma Side.outgoing_pollWrite (buf : List UInt8) (a : SinkAnswers E) (hbuf : P buf)
    (hopen : side.io.writeClosed = false) :
    ReflTransGen (OutRule P) side.outgoing (side.pollWrite buf a).1.outgoing ∧
      (side.pollWrite buf a).1.incoming = side.incoming := by
  unfold Side.pollWrite WebSocketStreamToAsyncWrite.pollWrite
  split
  · simp [acceptedBytes, Side.outgoing, Side.incoming, ReflTransGen.refl]
  · simp [acceptedBytes, Side.outgoing, Side.incoming, ReflTransGen.refl]
  · split
    · simp [acceptedBytes, Side.outgoing, Side.incoming, ReflTransGen.refl]
    · refine ⟨.single ?_, rfl⟩
      simpa [acceptedBytes, Side.outgoing] using OutRule.write side.outgoing buf hbuf hopen

lemma Side.outgoing_pollFlush (a : SinkAnswers E) :
    ReflTransGen (OutRule P) side.outgoing
        ({ side with io := (side.io.pollFlush a).1 } : Side).outgoing ∧
      ({ side with io := (side.io.pollFlush a).1 } : Side).incoming = side.incoming := by
  rw [WebSocketStreamToAsyncWrite.pollFlush]
  split
  · exact ⟨.refl, rfl⟩
  · exact ⟨.refl, rfl⟩
  · exact ⟨.single (.push side.outgoing _), rfl⟩

lemma Side.outgoing_push (n : ℕ) :
    OutRule P side.outgoing (side.push n).outgoing ∧ (side.push n).incoming = side.incoming :=
  ⟨.push side.outgoing n, rfl⟩

lemma Side.outgoing_finishShutdown (a : SinkAnswers E) (hclosed : side.io.writeClosed = true) :
    ReflTransGen (OutRule P) side.outgoing
        ({ side with io := (side.io.finishShutdown a).1 } : Side).outgoing ∧
      ({ side with io := (side.io.finishShutdown a).1 } : Side).incoming = side.incoming := by
  have hclose : ReflTransGen (OutRule P) side.outgoing
      { side.outgoing with stream := side.io.stream.startClose } := by
    rw [WebSocketStream.startClose]
    split
    case isTrue => exact .refl
    case isFalse hclosing =>
      exact .single (.close side.outgoing hclosed (eq_false_of_ne_true hclosing))
  rw [finishShutdown]
  split
  · split
    · exact ⟨hclose, rfl⟩
    · exact ⟨hclose, rfl⟩
    · exact ⟨hclose.tail (.push _ _), rfl⟩
  · exact ⟨.refl, rfl⟩

/-- The adapter after its sink accepted the end marker. -/
def markEnd (s : WebSocketStreamToAsyncWrite) : WebSocketStreamToAsyncWrite :=
  { s with stream := s.stream.startSend eofMessage, writeClosed := true }

/-- A shutdown marks the end of the data if that was not done, and goes on once it is done. -/
lemma pollShutdown_cases (s : WebSocketStreamToAsyncWrite) (a : SinkAnswers E) :
    (s.writeClosed = true ∧ s.pollShutdown a = s.finishShutdown a) ∨
      (s.writeClosed = false ∧ a.ready = .ready (.ok ()) ∧ a.send = .ok () ∧
        s.pollShutdown a = (markEnd s).finishShutdown a) ∨
      (s.writeClosed = false ∧ ¬(a.ready = .ready (.ok ()) ∧ a.send = .ok ()) ∧
        (s.pollShutdown a).1 = s ∧ (s.pollShutdown a).2 ≠ .ready (.ok ())) := by
  rw [pollShutdown]
  cases hclosed : s.writeClosed with
  | true => exact .inl ⟨rfl, rfl⟩
  | false =>
    right
    match hready : a.ready with
    | .pending => exact .inr ⟨rfl, by simp, rfl, by simp⟩
    | .ready (.error e) => exact .inr ⟨rfl, by simp, rfl, by simp⟩
    | .ready (.ok ()) =>
      match hsend : a.send with
      | .error e => exact .inr ⟨rfl, by simp, rfl, by simp⟩
      | .ok () => exact .inl ⟨rfl, rfl, rfl, rfl⟩

lemma Side.outgoing_pollShutdown (a : SinkAnswers E) :
    ReflTransGen (OutRule P) side.outgoing
        ({ side with io := (side.io.pollShutdown a).1 } : Side).outgoing ∧
      ({ side with io := (side.io.pollShutdown a).1 } : Side).incoming = side.incoming := by
  rcases pollShutdown_cases side.io a with
    ⟨hclosed, heq⟩ | ⟨hopen, -, -, heq⟩ | ⟨-, -, hsame, -⟩
  · rw [heq]
    exact side.outgoing_finishShutdown a hclosed
  · rw [heq]
    let marked : Side := { side with io := markEnd side.io }
    obtain ⟨hrules, hsame⟩ := marked.outgoing_finishShutdown (P := P) a rfl
    exact ⟨.head (.eof side.outgoing hopen) hrules, hsame⟩
  · rw [hsame]
    exact ⟨.refl, rfl⟩

/-! ### Reads -/

/-- What is left of a chunk after a read into a buffer with room for `remaining` bytes. -/
def leftover (chunk : List UInt8) (remaining : ℕ) : Option (List UInt8) :=
  let len := min chunk.length remaining
  if len = 0 then some chunk
  else if (chunk.drop len).isEmpty then none
  else some (chunk.drop len)

lemma pollRead_of_chunk {s s' : WebSocketStreamToAsyncWrite} {remaining : ℕ}
    {next : Poll (Option (Except E Message))} {chunk : List UInt8} (hremaining : remaining ≠ 0)
    (hfill : s.pollFillBuf next = (s', .ready (.ok chunk))) (hchunk : s'.chunk = some chunk) :
    s.pollRead remaining next
      = ({ s' with chunk := leftover chunk remaining },
          .ok (chunk.take (min chunk.length remaining))) := by
  have hconsume : s'.consume (min chunk.length remaining)
      = some { s' with chunk := leftover chunk remaining } := by
    have hle : min chunk.length remaining ≤ chunk.length := Nat.min_le_left _ _
    unfold Simplex.leftover consume
    generalize min chunk.length remaining = len at hle
    cases len with
    | zero => simp [← hchunk]
    | succ len => simp [hchunk, hle]
  rw [pollRead, if_neg hremaining, hfill]
  simp only [hconsume]

lemma pollRead_of_end {s s' : WebSocketStreamToAsyncWrite} {remaining : ℕ}
    {next : Poll (Option (Except E Message))} (hremaining : remaining ≠ 0)
    (hfill : s.pollFillBuf next = (s', .ready (.ok []))) :
    s.pollRead remaining next = (s', .ok []) := by
  rw [pollRead, if_neg hremaining, hfill]
  simp [consume]

/-- The receiving half after a read took bytes off its chunk. -/
lemma ReadRule.leftover (o : Outgoing) (i : Incoming) {chunk : List UInt8} (remaining : ℕ)
    (hchunk : i.chunk = some chunk) :
    ReflTransGen ReadRule (o, i)
      (o, { i with
            chunk := leftover chunk remaining,
            read := i.read ++ chunk.take (min chunk.length remaining) }) := by
  rw [Simplex.leftover]
  generalize hlen : min chunk.length remaining = len
  rcases Nat.eq_zero_or_pos len with rfl | hpos
  · simpa [← hchunk] using ReflTransGen.refl
  · rw [if_neg (Nat.ne_of_gt hpos)]
    refine .single (.consume o i _ _ ?_ ?_)
    · rw [List.take_append_drop, hchunk]
    · intro hnil
      have := congrArg List.length hnil
      rw [List.length_take, List.length_nil] at this
      omega

variable (peer : Side) {remaining : ℕ}

/-- A read that finds a chunk, or has no room, leaves the wire alone. -/
lemma Side.incoming_pollRead_of_not_polls (arrival : Arrival E)
    (hpolls : side.polls remaining = false) :
    ReflTransGen ReadRule (peer.outgoing, side.incoming)
        (peer.outgoing, (side.pollRead remaining peer.io.stream.wire arrival).1.incoming) ∧
      (side.pollRead remaining peer.io.stream.wire arrival).2 ≠ .panic := by
  have htook := took_of_not_polls hpolls peer.io.stream.wire arrival
  have hcut := findsCut_of_not_polls hpolls arrival
  by_cases hremaining : remaining = 0
  · subst hremaining
    simp [Side.pollRead, WebSocketStreamToAsyncWrite.pollRead, htook, hcut, Side.incoming,
      ReadResult.bytes, ReflTransGen.refl]
  · obtain ⟨chunk, hchunk⟩ : ∃ chunk, side.io.chunk = some chunk := by
      simpa [Side.polls, hremaining, Option.isSome_iff_exists] using hpolls
    have hfill : side.io.pollFillBuf (offer peer.io.stream.wire arrival)
        = (side.io, .ready (.ok chunk)) := by
      simp [pollFillBuf, hchunk]
    have hread := pollRead_of_chunk hremaining hfill hchunk
    simp only [Side.pollRead, hread, htook, hcut]
    refine ⟨?_, by simp⟩
    simpa [Side.incoming, ReadResult.bytes]
      using ReadRule.leftover peer.outgoing side.incoming remaining hchunk

/-- A read takes the first message off the wire and returns from it what fits. -/
lemma Side.incoming_pollRead_of_message (hpolls : side.polls remaining = true) {m : Message}
    {wire : List Message} (hwire : peer.io.stream.wire = m :: wire) :
    ReflTransGen ReadRule (peer.outgoing, side.incoming)
        ((peer.afterRead side remaining (.message : Arrival E)).outgoing,
          (side.pollRead remaining (m :: wire) (.message : Arrival E)).1.incoming) ∧
      (side.pollRead remaining (m :: wire) (.message : Arrival E)).2 ≠ .panic := by
  obtain ⟨hremaining, hchunk⟩ : remaining ≠ 0 ∧ side.io.chunk = none := by
    simpa [Side.polls] using hpolls
  have hpeer : (peer.afterRead side remaining (.message : Arrival E)).outgoing
      = { peer.outgoing with stream.wire := wire } := by
    simp [Side.afterRead, Side.outgoing, hpolls, hwire]
  rw [hpeer]
  cases hm : m.isEof with
  | true =>
    have hfill : side.io.pollFillBuf (offer (E := E) (m :: wire) .message)
        = (side.io.closeRead, .ready (.ok [])) := by
      simp [pollFillBuf, hchunk, offer, hm]
    obtain rfl := isEof_eq_true_iff.mp hm
    simp only [Side.pollRead, pollRead_of_end hremaining hfill, took, findsCut, hpolls]
    refine ⟨.single ?_, by simp⟩
    simpa [Side.incoming, ReadResult.bytes, closeRead]
      using ReadRule.eof peer.outgoing side.incoming wire hwire hchunk
  | false =>
    have hfill : side.io.pollFillBuf (offer (E := E) (m :: wire) .message)
        = ({ side.io with chunk := some m.intoData }, .ready (.ok m.intoData)) := by
      simp [pollFillBuf, hchunk, offer, hm]
    simp only [Side.pollRead, pollRead_of_chunk hremaining hfill rfl, took, findsCut, hpolls]
    refine ⟨?_, by simp⟩
    have hrule := ReadRule.data peer.outgoing side.incoming m wire hwire hchunk hm
    refine .head hrule ?_
    simpa [Side.incoming, ReadResult.bytes]
      using ReadRule.leftover { peer.outgoing with stream.wire := wire }
        { side.incoming with chunk := some m.intoData, taken := side.taken ++ [m] }
        remaining rfl

/-- A read that finds the stream at its end notes it. -/
lemma Side.incoming_pollRead_of_ended (hpolls : side.polls remaining = true)
    (wire : List Message) :
    ReadRule (peer.outgoing, side.incoming)
        ((peer.afterRead side remaining (.ended : Arrival E)).outgoing,
          (side.pollRead remaining wire (.ended : Arrival E)).1.incoming) ∧
      (side.pollRead remaining wire (.ended : Arrival E)).2 ≠ .panic := by
  obtain ⟨hremaining, hchunk⟩ : remaining ≠ 0 ∧ side.io.chunk = none := by
    simpa [Side.polls] using hpolls
  have hfill : side.io.pollFillBuf (offer (E := E) wire .ended)
      = (if side.io.readClosed then side.io else side.io.closeRead, .ready (.ok [])) := by
    simp [pollFillBuf, hchunk, offer]
  simp only [Side.pollRead, pollRead_of_end hremaining hfill, took, findsCut, hpolls,
    Side.afterRead]
  refine ⟨?_, by simp⟩
  have hrule := ReadRule.ended peer.outgoing side.incoming hchunk
  cases hclosed : side.io.readClosed <;>
    simpa [Side.incoming, ReadResult.bytes, closeRead, hclosed] using hrule

/-- A read that asks the stream takes at most one message off the wire. -/
lemma Side.incoming_pollRead_of_polls (arrival : Arrival E)
    (hpolls : side.polls remaining = true) :
    ReflTransGen ReadRule (peer.outgoing, side.incoming)
        ((peer.afterRead side remaining arrival).outgoing,
          (side.pollRead remaining peer.io.stream.wire arrival).1.incoming) ∧
      (side.pollRead remaining peer.io.stream.wire arrival).2 ≠ .panic := by
  obtain ⟨hremaining, hchunk⟩ : remaining ≠ 0 ∧ side.io.chunk = none := by
    simpa [Side.polls] using hpolls
  cases arrival with
  | pending =>
    simp [Side.pollRead, WebSocketStreamToAsyncWrite.pollRead, pollFillBuf, hremaining, hchunk,
      offer, Side.afterRead, Side.incoming, ReadResult.bytes, took, findsCut, ReflTransGen.refl]
  | error e =>
    simp [Side.pollRead, WebSocketStreamToAsyncWrite.pollRead, pollFillBuf, hremaining, hchunk,
      offer, Side.afterRead, Side.incoming, ReadResult.bytes, took, findsCut, ReflTransGen.refl]
  | ended =>
    obtain ⟨hrule, hpanic⟩ :=
      side.incoming_pollRead_of_ended (E := E) peer hpolls peer.io.stream.wire
    exact ⟨.single hrule, hpanic⟩
  | message =>
    cases hwire : peer.io.stream.wire with
    | nil =>
      have hpeer : (peer.afterRead side remaining (.message : Arrival E)).outgoing
          = peer.outgoing := by
        have hsame : ({ peer.io.stream with wire := [] } : WebSocketStream) = peer.io.stream := by
          rw [← hwire]
        simp [Side.afterRead, Side.outgoing, hpolls, hwire, hsame]
      rw [hpeer]
      simp [Side.pollRead, WebSocketStreamToAsyncWrite.pollRead, pollFillBuf, hremaining, hchunk,
        offer, Side.incoming, ReadResult.bytes, took, findsCut, ReflTransGen.refl]
    | cons m wire => exact side.incoming_pollRead_of_message peer hpolls hwire

/-- What a read does to the direction it reads from; it never panics. -/
lemma Side.incoming_pollRead (remaining : ℕ) (arrival : Arrival E) :
    ReflTransGen ReadRule (peer.outgoing, side.incoming)
        ((peer.afterRead side remaining arrival).outgoing,
          (side.pollRead remaining peer.io.stream.wire arrival).1.incoming) ∧
      (side.pollRead remaining peer.io.stream.wire arrival).2 ≠ .panic := by
  cases hpolls : side.polls remaining with
  | true => exact side.incoming_pollRead_of_polls peer arrival hpolls
  | false =>
    rw [afterRead_of_not_polls hpolls]
    exact side.incoming_pollRead_of_not_polls peer arrival hpolls

lemma pollFillBuf_cases (s : WebSocketStreamToAsyncWrite)
    (next : Poll (Option (Except E Message))) :
    ∃ chunk, (s.pollFillBuf next).1 = { s with chunk := chunk } ∨
      (s.pollFillBuf next).1 = { s.closeRead with chunk := chunk } := by
  unfold pollFillBuf
  repeat' split
  all_goals first
    | exact ⟨_, .inl rfl⟩
    | exact ⟨_, .inr rfl⟩

lemma of_consume {s s' : WebSocketStreamToAsyncWrite} {amt : ℕ}
    (h : s.consume amt = some s') : ∃ chunk, s' = { s with chunk := chunk } := by
  unfold consume at h
  repeat' split at h
  all_goals cases h
  all_goals exact ⟨_, rfl⟩

/-- Apart from the chunk, a read can only note the end of the incoming data. -/
lemma pollRead_cases (s : WebSocketStreamToAsyncWrite) (remaining : ℕ)
    (next : Poll (Option (Except E Message))) :
    ∃ chunk, (s.pollRead remaining next).1 = { s with chunk := chunk } ∨
      (s.pollRead remaining next).1 = { s.closeRead with chunk := chunk } := by
  have hfill := pollFillBuf_cases s next
  rw [pollRead]
  split
  · exact ⟨_, .inl rfl⟩
  · split
    case h_1 heq => rwa [heq] at hfill
    case h_2 heq => rwa [heq] at hfill
    case h_3 heq =>
      rw [heq] at hfill
      dsimp only
      split
      case h_1 => exact hfill
      case h_2 hconsume =>
        obtain ⟨chunk, rfl⟩ := of_consume hconsume
        rcases hfill with ⟨_, rfl | rfl⟩
        · exact ⟨chunk, .inl rfl⟩
        · exact ⟨chunk, .inr rfl⟩

/-- A read leaves the direction a party writes to alone. -/
lemma Side.outgoing_pollRead (remaining : ℕ) (wire : List Message) (arrival : Arrival E) :
    (side.pollRead remaining wire arrival).1.outgoing = side.outgoing := by
  rcases pollRead_cases side.io remaining (offer wire arrival) with ⟨_, h | h⟩
  · simp [Side.outgoing, Side.pollRead, h]
  · simp [Side.outgoing, Side.pollRead, h, closeRead]

lemma Side.incoming_afterRead (reader : Side) (remaining : ℕ) (arrival : Arrival E) :
    (side.afterRead reader remaining arrival).incoming = side.incoming := by
  unfold Side.afterRead
  repeat' split
  all_goals rfl

/-! ### Steps and runs -/

/-- Both directions keep their invariant. -/
def Flows (P : List UInt8 → Prop) (sys : System) : Prop :=
  ∀ p : Party, Flow P (sys p).outgoing (sys p.peer).incoming

lemma Flows.new : Flows P System.new := fun _ => Flow.new

/-- A party writes only buffers with the property `P`, and none after its end marker. -/
def Writes (P : List UInt8 → Prop) (sys : System) (e : Event E) : Prop :=
  match e.call with
  | .pollWrite buf _ => P buf ∧ (sys e.party).io.writeClosed = false
  | _                => True

variable {sys : System}

/-- Replacing one side by one that writes by the rules and receives nothing. -/
lemma Flows.update_outgoing (h : Flows P sys) (p : Party) {side : Side}
    (hrules : ReflTransGen (OutRule P) (sys p).outgoing side.outgoing)
    (hsame : side.incoming = (sys p).incoming) : Flows P (Function.update sys p side) := by
  intro q
  rcases p.eq_or_eq_peer q with rfl | rfl
  · simpa using (h q).outRules hrules
  · have hq := h p.peer
    rw [Party.peer_peer] at hq
    simpa [hsame] using hq

lemma Flows.call (h : Flows P sys) (p : Party) (c : Call E) (n : ℕ)
    (hwrites : Writes P sys ⟨p, c, n⟩) : Flows P (sys.call p c).1 := by
  cases c with
  | pollWrite buf a =>
    obtain ⟨hrules, hsame⟩ := (sys p).outgoing_pollWrite buf a hwrites.1 hwrites.2
    exact h.update_outgoing p hrules hsame
  | pollFlush a =>
    obtain ⟨hrules, hsame⟩ := (sys p).outgoing_pollFlush (P := P) a
    exact h.update_outgoing p hrules hsame
  | pollShutdown a =>
    obtain ⟨hrules, hsame⟩ := (sys p).outgoing_pollShutdown (P := P) a
    exact h.update_outgoing p hrules hsame
  | pollRead remaining arrival =>
    have hreads := ((sys p).incoming_pollRead (sys p.peer) remaining arrival).1
    have hpeer := h p.peer
    rw [Party.peer_peer] at hpeer
    have hincoming := Flow.readRules hpeer hreads
    intro q
    rcases p.eq_or_eq_peer q with rfl | rfl
    · simpa [System.call, Side.outgoing_pollRead, Side.incoming_afterRead] using h q
    · simpa [System.call] using hincoming

lemma Flows.step (sys : System) (e : Event E) (h : Flows P sys) (hwrites : Writes P sys e) :
    Flows P (System.machine.step sys e).1 := by
  have hcall := h.call e.party e.call e.pushed hwrites
  obtain ⟨hrule, hsame⟩ := (((sys.call e.party e.call).1) e.party).outgoing_push (P := P) e.pushed
  exact hcall.update_outgoing e.party (.single hrule) hsame

/-! ### What a step can change -/

lemma Side.pollWrite_unchanged (buf : List UInt8) (a : SinkAnswers E) :
    (side.pollWrite buf a).1.incoming = side.incoming ∧
      (side.pollWrite buf a).1.io.stream.closing = side.io.stream.closing := by
  unfold Side.pollWrite WebSocketStreamToAsyncWrite.pollWrite
  repeat' split
  all_goals exact ⟨rfl, rfl⟩

lemma pollFlush_closing (s : WebSocketStreamToAsyncWrite) (a : SinkAnswers E) :
    (s.pollFlush a).1.stream.closing = s.stream.closing := by
  rw [WebSocketStreamToAsyncWrite.pollFlush]
  split <;> rfl

lemma finishShutdown_closing (s : WebSocketStreamToAsyncWrite) (a : SinkAnswers E)
    (h : (s.finishShutdown a).1.stream.closing = true) :
    s.stream.closing = true ∨ s.readClosed = true := by
  unfold finishShutdown at h
  split at h
  case isTrue hread => exact .inr hread
  case isFalse => exact .inl h

/-- A shutdown starts the closing handshake only when the incoming data has ended. -/
lemma pollShutdown_closing (s : WebSocketStreamToAsyncWrite) (a : SinkAnswers E)
    (h : (s.pollShutdown a).1.stream.closing = true) :
    s.stream.closing = true ∨ s.readClosed = true := by
  rcases pollShutdown_cases s a with ⟨-, heq⟩ | ⟨-, -, -, heq⟩ | ⟨-, -, hsame, -⟩
  · rw [heq] at h
    exact finishShutdown_closing s a h
  · rw [heq] at h
    exact finishShutdown_closing (markEnd s) a h
  · rw [hsame] at h
    exact .inl h

lemma Side.closing_afterRead (reader : Side) (remaining : ℕ) (arrival : Arrival E) :
    (side.afterRead reader remaining arrival).io.stream.closing = side.io.stream.closing := by
  unfold Side.afterRead
  repeat' split
  all_goals rfl

lemma push_unchanged (sys : System) (p q : Party) (n : ℕ) :
    (Function.update sys p ((sys p).push n) q).incoming = (sys q).incoming ∧
      (Function.update sys p ((sys p).push n) q).io.stream.closing
        = (sys q).io.stream.closing := by
  rcases p.eq_or_eq_peer q with rfl | rfl
  · rw [Function.update_self]
    exact ⟨rfl, rfl⟩
  · rw [Function.update_of_ne p.peer_ne]
    exact ⟨rfl, rfl⟩

/-- Only a read of its own changes the receiving half of a party. -/
lemma incoming_step (sys : System) (e : Event E) (p : Party) :
    ((System.machine.step sys e).1 p).incoming = (sys p).incoming ∨
      ∃ remaining arrival, e.party = p ∧ e.call = .pollRead remaining arrival ∧
        ((System.machine.step sys e).1 p).incoming
          = ((sys p).pollRead remaining (sys p.peer).io.stream.wire arrival).1.incoming := by
  obtain ⟨q, c, n⟩ := e
  rw [show ((System.machine.step sys ⟨q, c, n⟩).1 p).incoming
    = ((sys.call q c).1 p).incoming from (push_unchanged _ q p n).1]
  rcases q.eq_or_eq_peer p with rfl | rfl
  · cases c with
    | pollWrite buf a =>
      left
      simpa [System.call] using ((sys p).pollWrite_unchanged buf a).1
    | pollFlush a =>
      left
      simpa [System.call] using ((sys p).outgoing_pollFlush (P := fun _ => True) a).2
    | pollShutdown a =>
      left
      simpa [System.call] using ((sys p).outgoing_pollShutdown (P := fun _ => True) a).2
    | pollRead remaining arrival =>
      right
      exact ⟨remaining, arrival, rfl, rfl, by simp [System.call]⟩
  · left
    cases c with
    | pollRead remaining arrival => simp [System.call, Side.incoming_afterRead]
    | _ => simp [System.call]

lemma pollRead_step (sys : System) (p : Party) (remaining n : ℕ) (arrival : Arrival E) :
    (System.machine.step sys ⟨p, .pollRead remaining arrival, n⟩).2
        = .read ((sys p).pollRead remaining (sys p.peer).io.stream.wire arrival).2 ∧
      ((System.machine.step sys ⟨p, .pollRead remaining arrival, n⟩).1 p).incoming
        = ((sys p).pollRead remaining (sys p.peer).io.stream.wire arrival).1.incoming := by
  refine ⟨rfl, (push_unchanged _ p p n).1.trans ?_⟩
  simp [System.call]

/-- The closing handshake of a party starts only in a shutdown of its own, when its incoming
data has ended. -/
lemma closing_step (sys : System) (e : Event E) (p : Party)
    (h : ((System.machine.step sys e).1 p).io.stream.closing = true) :
    (sys p).io.stream.closing = true ∨
      (e.party = p ∧ (∃ a, e.call = .pollShutdown a) ∧ (sys p).io.readClosed = true) := by
  obtain ⟨q, c, n⟩ := e
  rw [show ((System.machine.step sys ⟨q, c, n⟩).1 p).io.stream.closing
    = ((sys.call q c).1 p).io.stream.closing from (push_unchanged _ q p n).2] at h
  rcases q.eq_or_eq_peer p with rfl | rfl
  · cases c with
    | pollWrite buf a =>
      left
      simpa [System.call, ((sys p).pollWrite_unchanged buf a).2] using h
    | pollFlush a =>
      left
      simpa [System.call, pollFlush_closing] using h
    | pollShutdown a =>
      rw [show ((sys.call p (.pollShutdown a)).1 p).io
        = ((sys p).io.pollShutdown a).1 by simp [System.call]] at h
      rcases pollShutdown_closing (sys p).io a h with h | h
      · exact .inl h
      · exact .inr ⟨rfl, ⟨a, rfl⟩, h⟩
    | pollRead remaining arrival =>
      left
      have hsame := (sys p).outgoing_pollRead remaining (sys p.peer).io.stream.wire arrival
      have hclosing := congrArg (fun o : Outgoing => o.stream.closing) hsame
      simp only [System.call, Function.update_of_ne p.ne_peer, Function.update_self] at h
      exact hclosing.symm.trans h
  · left
    cases c with
    | pollRead remaining arrival =>
      simpa [System.call, Side.closing_afterRead] using h
    | _ => simpa [System.call] using h

lemma ReadRule.readClosed_mono {c c' : Outgoing × Incoming} (h : ReflTransGen ReadRule c c')
    (hclosed : c.2.readClosed = true) : c'.2.readClosed = true := by
  induction h with
  | refl => exact hclosed
  | tail _ hrule ih =>
    cases hrule with
    | data | consume => exact ih
    | eof | ended => rfl

lemma readClosed_step (sys : System) (e : Event E) (p : Party)
    (hclosed : (sys p).io.readClosed = true) :
    ((System.machine.step sys e).1 p).io.readClosed = true := by
  rcases incoming_step sys e p with hsame | ⟨remaining, arrival, -, -, hread⟩
  · exact (congrArg Incoming.readClosed hsame).trans hclosed
  · apply (congrArg Incoming.readClosed hread).trans
    exact ReadRule.readClosed_mono
      ((sys p).incoming_pollRead (sys p.peer) remaining arrival).1 hclosed

/-- A party that has started the closing handshake has seen its incoming data end. -/
def ClosesLast (sys : System) : Prop :=
  ∀ p : Party, (sys p).io.stream.closing = true → (sys p).io.readClosed = true

lemma ClosesLast.step (sys : System) (e : Event E) (h : ClosesLast sys) :
    ClosesLast (System.machine.step sys e).1 := by
  intro p hclosing
  apply readClosed_step
  rcases closing_step sys e p hclosing with hbefore | ⟨-, -, hread⟩
  · exact h p hbefore
  · exact hread

end Dandelion.Simplex
