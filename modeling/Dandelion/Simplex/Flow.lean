import Dandelion.Simplex.Link
import Mathlib.Logic.Relation

/-!
# One direction of a joined pair

What a party has sent and what its peer has received are tied by an invariant that speaks of
the sending half of one party and the receiving half of the other only. `OutRule` and `ReadRule`
list all that can happen to the two halves.
-/

namespace Dandelion.Simplex

open Relation Message

variable {E : Type*} {P : List UInt8 → Prop}

/-- The sending half of a party. -/
structure Outgoing where
  stream : WebSocketStream
  writeClosed : Bool
  written : List UInt8

/-- The receiving half of a party. -/
structure Incoming where
  chunk : Option (List UInt8)
  readClosed : Bool
  read : List UInt8
  taken : List Message
  cutOff : Bool

def Side.outgoing (side : Side) : Outgoing :=
  ⟨side.io.stream, side.io.writeClosed, side.written⟩

def Side.incoming (side : Side) : Incoming :=
  ⟨side.io.chunk, side.io.readClosed, side.read, side.taken, side.cutOff⟩

/-- What can happen to a sending half that writes only buffers with the property `P`, and none
after the end marker. -/
inductive OutRule (P : List UInt8 → Prop) : Outgoing → Outgoing → Prop
  | write (o : Outgoing) (buf : List UInt8) (hbuf : P buf) (hopen : o.writeClosed = false) :
      OutRule P o
        { o with stream := o.stream.startSend (.binary buf), written := o.written ++ buf }
  | eof (o : Outgoing) (hopen : o.writeClosed = false) :
      OutRule P o { o with stream := o.stream.startSend eofMessage, writeClosed := true }
  | close (o : Outgoing) (hclosed : o.writeClosed = true) (hclosing : o.stream.closing = false) :
      OutRule P o { o with stream := { o.stream.startSend (.close none) with closing := true } }
  | push (o : Outgoing) (n : ℕ) : OutRule P o { o with stream := o.stream.push n }

/-- What a read can do to the receiving half and to the wire of its peer. -/
inductive ReadRule : Outgoing × Incoming → Outgoing × Incoming → Prop
  | data (o : Outgoing) (i : Incoming) (m : Message) (wire : List Message)
      (hwire : o.stream.wire = m :: wire) (hchunk : i.chunk = none) (hm : m.isEof = false) :
      ReadRule (o, i)
        ({ o with stream.wire := wire },
          { i with chunk := some m.intoData, taken := i.taken ++ [m] })
  | eof (o : Outgoing) (i : Incoming) (wire : List Message)
      (hwire : o.stream.wire = eofMessage :: wire) (hchunk : i.chunk = none) :
      ReadRule (o, i)
        ({ o with stream.wire := wire },
          { i with readClosed := true, taken := i.taken ++ [eofMessage] })
  | ended (o : Outgoing) (i : Incoming) (hchunk : i.chunk = none) :
      ReadRule (o, i)
        (o, { i with
              readClosed := true, cutOff := i.cutOff || !i.taken.contains eofMessage })
  | consume (o : Outgoing) (i : Incoming) (a b : List UInt8) (hchunk : i.chunk = some (a ++ b))
      (ha : a ≠ []) :
      ReadRule (o, i)
        (o, { i with chunk := if b.isEmpty then none else some b, read := i.read ++ a })

/-! ### The invariant -/

/-- The payload of a list of messages, the end marker aside. -/
def payload (ms : List Message) : List UInt8 :=
  (ms.filter fun m => !m.isEof).flatMap intoData

@[simp] lemma payload_append (ms ms' : List Message) :
    payload (ms ++ ms') = payload ms ++ payload ms' := by
  simp [payload]

@[simp] lemma payload_map_binary (bufs : List (List UInt8)) :
    payload (bufs.map .binary) = bufs.flatten := by
  induction bufs with
  | nil => rfl
  | cons buf bufs ih => simpa [payload, intoData] using ih

/-- Everything a party ever sends: its data, then the end marker, then the close frame. -/
def script (bufs : List (List UInt8)) (writeClosed closing : Bool) : List Message :=
  bufs.map .binary ++ (if writeClosed then [eofMessage] else []) ++
    (if closing then [.close none] else [])

lemma payload_script (bufs : List (List UInt8)) (writeClosed closing : Bool) :
    payload (script bufs writeClosed closing) = bufs.flatten := by
  have heof : payload [eofMessage] = [] := by simp [payload]
  have hclose : payload [Message.close none] = [] := by simp [payload, intoData]
  cases writeClosed <;> cases closing <;> simp [script, heof, hclose, -List.append_assoc]

lemma count_eofMessage_script (bufs : List (List UInt8)) (writeClosed closing : Bool) :
    (script bufs writeClosed closing).count eofMessage = if writeClosed then 1 else 0 := by
  have hbufs : (bufs.map Message.binary).count eofMessage = 0 := by
    simp [List.count_eq_zero, eofMessage]
  cases writeClosed <;> cases closing <;>
    simp [script, List.count_append, List.count_singleton, hbufs] <;> simp [eofMessage]

/-- Where a message stands in all that is sent. -/
lemma script_split {bufs : List (List UInt8)} {writeClosed closing : Bool}
    (hclosing : closing = true → writeClosed = true) {front rest : List Message} {m : Message}
    (h : script bufs writeClosed closing = front ++ m :: rest) :
    (∃ buf ∈ bufs, m = .binary buf ∧ eofMessage ∉ front) ∨
      (m = eofMessage ∧ front = bufs.map .binary) ∨
      (m = .close none ∧ front = bufs.map .binary ++ [eofMessage]) := by
  induction bufs generalizing front with
  | nil =>
    cases writeClosed with
    | false =>
      have hfalse : closing = false := by simpa using hclosing
      simp [script, hfalse] at h
    | true =>
      right
      match front with
      | [] =>
        simp only [script, List.map_nil, if_true, List.nil_append, List.singleton_append,
          List.cons.injEq] at h
        exact .inl ⟨h.1.symm, rfl⟩
      | x :: front =>
        simp only [script, List.map_nil, if_true, List.nil_append, List.cons_append,
          List.cons.injEq] at h
        obtain ⟨rfl, h⟩ := h
        cases closing with
        | false => simp at h
        | true =>
          rw [if_pos rfl, List.singleton_eq_append_iff] at h
          rcases h with ⟨rfl, h⟩ | ⟨rfl, h⟩
          · obtain ⟨rfl, -⟩ := List.cons.inj h
            exact .inr ⟨rfl, rfl⟩
          · cases h
  | cons buf bufs ih =>
    match front with
    | [] =>
      simp only [script, List.map_cons, List.cons_append, List.nil_append, List.cons.injEq] at h
      exact .inl ⟨buf, List.mem_cons_self, h.1.symm, List.not_mem_nil⟩
    | x :: front =>
      simp only [script, List.map_cons, List.cons_append, List.cons.injEq] at h
      obtain ⟨rfl, h⟩ := h
      rcases ih h with ⟨b, hb, hm, hfront⟩ | ⟨hm, rfl⟩ | ⟨hm, rfl⟩
      · refine .inl ⟨b, List.mem_cons_of_mem _ hb, hm, ?_⟩
        simpa [eofMessage] using hfront
      · exact .inr (.inl ⟨hm, rfl⟩)
      · exact .inr (.inr ⟨hm, rfl⟩)

/-- The invariant of one direction. -/
structure Flow (P : List UInt8 → Prop) (o : Outgoing) (i : Incoming) : Prop where
  fifo : o.stream.sent = i.taken ++ o.stream.wire ++ o.stream.buffer
  sent : ∃ bufs : List (List UInt8), (∀ buf ∈ bufs, P buf) ∧ o.written = bufs.flatten ∧
    o.stream.sent = script bufs o.writeClosed o.stream.closing
  closing : o.stream.closing = true → o.writeClosed = true
  data : i.read ++ i.chunk.getD [] = payload i.taken
  readClosed : i.readClosed = true ↔ eofMessage ∈ i.taken ∨ i.cutOff = true
  drained : eofMessage ∈ i.taken → i.chunk.getD [] = []
  stalled : i.chunk = some [] → P [] ∨ eofMessage ∈ i.taken

lemma Flow.new : Flow P Side.new.outgoing Side.new.incoming := by
  refine ⟨rfl, ⟨[], by simp, rfl, rfl⟩, ?_, rfl, ?_, ?_, ?_⟩ <;>
    simp [Side.new, Side.outgoing, Side.incoming, WebSocketStream.new,
      WebSocketStreamToAsyncWrite.new]

namespace Flow

variable {o o' : Outgoing} {i i' : Incoming}

lemma closing_eq_false (h : Flow P o i) (hopen : o.writeClosed = false) :
    o.stream.closing = false := by
  by_contra hne
  rw [h.closing (by simpa using hne)] at hopen
  cases hopen

lemma outRule (h : Flow P o i) (hrule : OutRule P o o') : Flow P o' i := by
  obtain ⟨bufs, hP, hwritten, hsent⟩ := h.sent
  cases hrule with
  | write buf hbuf hopen =>
    have hclosing := h.closing_eq_false hopen
    refine ⟨?_, ⟨bufs ++ [buf], ?_, ?_, ?_⟩, h.closing, h.data, h.readClosed, h.drained, h.stalled⟩
    · simp [WebSocketStream.startSend, h.fifo]
    · intro b hb
      rcases List.mem_append.mp hb with hb | hb
      · exact hP b hb
      · rwa [List.mem_singleton.mp hb]
    · simp [hwritten]
    · simp [WebSocketStream.startSend, hsent, script, hopen, hclosing]
  | eof hopen =>
    have hclosing := h.closing_eq_false hopen
    refine ⟨?_, ⟨bufs, hP, hwritten, ?_⟩, fun _ => rfl, h.data, h.readClosed, h.drained, h.stalled⟩
    · simp [WebSocketStream.startSend, h.fifo]
    · simp [WebSocketStream.startSend, hsent, script, hopen, hclosing]
  | close hclosed hclosing =>
    refine ⟨?_, ⟨bufs, hP, hwritten, ?_⟩, fun _ => hclosed, h.data, h.readClosed, h.drained,
      h.stalled⟩
    · simp [WebSocketStream.startSend, h.fifo]
    · simp [WebSocketStream.startSend, hsent, script, hclosed, hclosing]
  | push n =>
    refine ⟨?_, ⟨bufs, hP, hwritten, hsent⟩, h.closing, h.data, h.readClosed, h.drained, h.stalled⟩
    simp [WebSocketStream.push, h.fifo]

/-- A message on the wire is data, the end marker, or the close frame behind it. -/
lemma of_wire (h : Flow P o i) {m : Message} {wire : List Message}
    (hwire : o.stream.wire = m :: wire) :
    (∃ buf, P buf ∧ m = .binary buf ∧ eofMessage ∉ i.taken) ∨
      m = eofMessage ∨ (m = .close none ∧ eofMessage ∈ i.taken) := by
  obtain ⟨bufs, hP, -, hsent⟩ := h.sent
  have hsplit : script bufs o.writeClosed o.stream.closing
      = i.taken ++ m :: (wire ++ o.stream.buffer) := by
    rw [← hsent, h.fifo, hwire]
    simp
  rcases script_split h.closing hsplit with ⟨buf, hbuf, hm, htaken⟩ | ⟨hm, -⟩ | ⟨hm, htaken⟩
  · exact .inl ⟨buf, hP buf hbuf, hm, htaken⟩
  · exact .inr (.inl hm)
  · exact .inr (.inr ⟨hm, by simp [htaken]⟩)

/-- A party that has taken the end marker has read every byte that was written. -/
lemma read_eq_written (h : Flow P o i) (heof : eofMessage ∈ i.taken) : i.read = o.written := by
  obtain ⟨bufs, -, hwritten, hsent⟩ := h.sent
  obtain ⟨front, back, htaken⟩ := List.append_of_mem heof
  have hsplit : script bufs o.writeClosed o.stream.closing
      = front ++ eofMessage :: (back ++ o.stream.wire ++ o.stream.buffer) := by
    rw [← hsent, h.fifo, htaken]
    simp
  have hfront : front = bufs.map .binary := by
    rcases script_split h.closing hsplit with ⟨buf, -, hm, -⟩ | ⟨-, hfront⟩ | ⟨hm, -⟩
    · cases hm
    · exact hfront
    · cases hm
  have htotal := congrArg payload hsplit
  rw [payload_script, hfront] at htotal
  have hback : payload back = [] := by
    have hcons : payload (eofMessage :: (back ++ o.stream.wire ++ o.stream.buffer))
        = payload back ++ payload o.stream.wire ++ payload o.stream.buffer := by
      simp [payload]
    rw [payload_append, payload_map_binary, hcons] at htotal
    simp only [List.self_eq_append_right, List.append_eq_nil_iff] at htotal
    exact htotal.1.1
  have hpayload : payload i.taken = bufs.flatten := by
    rw [htaken, payload_append, hfront, payload_map_binary]
    simpa [payload] using hback
  have hdata := h.data
  rw [h.drained heof, List.append_nil, hpayload] at hdata
  rw [hdata, hwritten]

/-- What was read is always the beginning of what was written. -/
lemma read_starts_written (h : Flow P o i) : i.read <+: o.written := by
  obtain ⟨bufs, -, hwritten, hsent⟩ := h.sent
  have htotal := congrArg payload (hsent.symm.trans h.fifo)
  rw [payload_script, payload_append, payload_append, ← h.data, ← hwritten] at htotal
  rw [htotal, List.append_assoc, List.append_assoc]
  exact List.prefix_append _ _

lemma readRule (h : Flow P o i) (hrule : ReadRule (o, i) (o', i')) : Flow P o' i' := by
  cases hrule with
  | data _ _ m wire hwire hchunk hm =>
    have hdata := h.data
    rw [hchunk, Option.getD_none, List.append_nil] at hdata
    have hmem : eofMessage ∈ i.taken ++ [m] ↔ eofMessage ∈ i.taken := by
      have hne : eofMessage ≠ m := fun heq => by simp [← heq] at hm
      simp [hne]
    refine ⟨?_, h.sent, h.closing, ?_, ?_, ?_, ?_⟩
    · simp [h.fifo, hwire]
    · simp [hdata, payload, hm]
    · rw [hmem, h.readClosed]
    · rw [hmem]
      intro heof
      rcases h.of_wire hwire with ⟨_, -, -, hnot⟩ | rfl | ⟨rfl, -⟩
      · exact absurd heof hnot
      · simp at hm
      · rfl
    · rw [hmem]
      intro hempty
      rcases h.of_wire hwire with ⟨buf, hbuf, rfl, -⟩ | rfl | ⟨-, heof⟩
      · obtain rfl : buf = [] := by simpa [intoData] using hempty
        exact .inl hbuf
      · simp at hm
      · exact .inr heof
  | eof _ _ wire hwire hchunk =>
    have hdata := h.data
    rw [hchunk, Option.getD_none, List.append_nil] at hdata
    refine ⟨?_, h.sent, h.closing, ?_, ?_, ?_, ?_⟩
    · simp [h.fifo, hwire]
    · simp [hchunk, hdata, payload]
    · simp
    · simp [hchunk]
    · simp
  | ended _ _ hchunk =>
    refine ⟨h.fifo, h.sent, h.closing, h.data, ?_, h.drained, h.stalled⟩
    by_cases heof : eofMessage ∈ i.taken <;> simp [heof]
  | consume _ _ a b hchunk ha =>
    have hdata := h.data
    rw [hchunk, Option.getD_some] at hdata
    have hrest : (if b.isEmpty then none else some b : Option (List UInt8)).getD [] = b := by
      cases b <;> rfl
    refine ⟨h.fifo, h.sent, h.closing, ?_, h.readClosed, ?_, ?_⟩
    · rw [hrest, List.append_assoc, hdata]
    · intro heof
      have hnil := h.drained heof
      rw [hchunk, Option.getD_some, List.append_eq_nil_iff] at hnil
      exact absurd hnil.1 ha
    · intro hempty
      cases b with
      | nil => cases hempty
      | cons x b => simp at hempty

lemma outRules (h : Flow P o i) (hrules : ReflTransGen (OutRule P) o o') : Flow P o' i := by
  induction hrules with
  | refl => exact h
  | tail _ hrule ih => exact ih.outRule hrule

lemma readRules {c c' : Outgoing × Incoming} (h : Flow P c.1 c.2)
    (hrules : ReflTransGen ReadRule c c') : Flow P c'.1 c'.2 := by
  induction hrules with
  | refl => exact h
  | tail _ hrule ih => exact ih.readRule hrule

end Flow

end Dandelion.Simplex
