import Dandelion.Core.AsyncRead

/-!
# The stream behind an upgrade

When the HTTP library gives up a connection, it may have read more than the request. The WebSocket
reads these bytes first, and goes on with the connection when they are exhausted.
-/

namespace Dandelion.Simplex.Server

open AsyncRead
open Stream' (Seq)

/-! ### Bytes -/

/-- A part of some bytes. It panics if the range goes beyond them. -/
def slice (bytes : List UInt8) (start stop : ℕ) : Option (List UInt8) :=
  if start ≤ stop ∧ stop ≤ bytes.length then some ((bytes.take stop).drop start) else none

/-- Drop bytes at the front. It panics if there are not so many. -/
def advance (bytes : List UInt8) (n : ℕ) : Option (List UInt8) :=
  if n ≤ bytes.length then some (bytes.drop n) else none

structure ChainReadBufAndIo (I : Type) where
  readBuf : List UInt8
  io : I

variable {I E : Type} {reader : AsyncRead I E} {c : ChainReadBufAndIo I} {buf : ReadBuf}

/-- One poll; `none` is a panic. -/
def ChainReadBufAndIo.pollRead (reader : AsyncRead I E) (c : ChainReadBufAndIo I) (buf : ReadBuf) :
    Option (ChainReadBufAndIo I × ReadBuf × Poll (Except E Unit)) :=
  if c.readBuf ≠ [] then do
    let len := min c.readBuf.length buf.remaining
    let buf ← buf.putSlice (← slice c.readBuf 0 len)
    let readBuf ← advance c.readBuf len
    some ({ c with readBuf := readBuf }, buf, .ready (.ok ()))
  else
    let (io, buf, answer) := reader.pollRead c.io buf
    some ({ c with io := io }, buf, answer)

/-! ### One poll -/

/-- As long as there are bytes, they are all that is read. -/
lemma pollRead_of_ne_nil (reader : AsyncRead I E) (buf : ReadBuf) (h : c.readBuf ≠ []) : ∃ n buf',
    (0 < buf.remaining → c.readBuf.take n ≠ []) ∧ buf.putSlice (c.readBuf.take n) = some buf' ∧
    c.pollRead reader buf = some (⟨c.readBuf.drop n, c.io⟩, buf', .ready (.ok ())) := by
  have hpos := List.length_pos_iff.mpr h
  have hslice : slice c.readBuf 0 (min c.readBuf.length buf.remaining)
      = some (c.readBuf.take (min c.readBuf.length buf.remaining)) := by
    rw [slice, if_pos ⟨Nat.zero_le _, Nat.min_le_left ..⟩, List.drop_zero]
  have hadvance : advance c.readBuf (min c.readBuf.length buf.remaining)
      = some (c.readBuf.drop (min c.readBuf.length buf.remaining)) := by
    rw [advance, if_pos (Nat.min_le_left ..)]
  have hfits : (c.readBuf.take (min c.readBuf.length buf.remaining)).length ≤ buf.remaining := by
    rw [List.length_take]
    omega
  obtain ⟨buf', hput⟩ := ReadBuf.exists_putSlice hfits
  refine ⟨_, buf', ?_, hput, ?_⟩
  · intro hroom
    rw [ne_eq, List.take_eq_nil_iff, not_or]
    exact ⟨(lt_min hpos hroom).ne', h⟩
  · simp [ChainReadBufAndIo.pollRead, h, hslice, hput, hadvance]

lemma pollRead_of_nil (reader : AsyncRead I E) (buf : ReadBuf) (h : c.readBuf = []) :
    c.pollRead reader buf
      = some (⟨[], (reader.pollRead c.io buf).1⟩, (reader.pollRead c.io buf).2) := by
  simp [ChainReadBufAndIo.pollRead, h]

/-- No poll panics. -/
lemma isSome_pollRead (reader : AsyncRead I E) (c : ChainReadBufAndIo I) (buf : ReadBuf) :
    (c.pollRead reader buf).isSome := by
  by_cases h : c.readBuf = []
  · rw [pollRead_of_nil reader buf h]
    rfl
  · obtain ⟨n, buf', -, -, hpoll⟩ := pollRead_of_ne_nil reader buf h
    rw [hpoll]
    rfl

/-! ### Concatenation -/

/-- The bytes that were read already, and then the stream of the connection. -/
def ChainReadBufAndIo.stream (reader : AsyncRead I E) (c : ChainReadBufAndIo I) : Seq UInt8 :=
  (Seq.ofList c.readBuf).append (reader.stream c.io)

lemma polled_pollRead {r : ChainReadBufAndIo I × ReadBuf × Poll (Except E Unit)}
    (hpoll : c.pollRead reader buf = some r) :
    Polled (ChainReadBufAndIo.stream reader) c buf r := by
  by_cases h : c.readBuf = []
  · rw [pollRead_of_nil reader buf h] at hpoll
    cases hpoll
    apply (reader.polled c.io buf).congr
    · rw [ChainReadBufAndIo.stream, h, Seq.ofList_nil, Seq.nil_append]
    · rw [ChainReadBufAndIo.stream, Seq.ofList_nil, Seq.nil_append]
  · obtain ⟨n, buf', hsome, hput, heq⟩ := pollRead_of_ne_nil reader buf h
    rw [heq] at hpoll
    cases hpoll
    apply Polled.read (c.readBuf.take n) hput _ hsome
    rw [ChainReadBufAndIo.stream, ChainReadBufAndIo.stream, ← Seq.append_assoc,
      ← Seq.ofList_append, List.take_append_drop]

/-- The chain is a reader of the concatenation. -/
def chain (reader : AsyncRead I E) : AsyncRead (ChainReadBufAndIo I) E where
  pollRead c buf := (c.pollRead reader buf).get (isSome_pollRead reader c buf)
  stream := ChainReadBufAndIo.stream reader
  polled _ _ := polled_pollRead (Option.some_get _).symm

lemma pollRead_chain (reader : AsyncRead I E) (c : ChainReadBufAndIo I) (buf : ReadBuf) :
    c.pollRead reader buf = some ((chain reader).pollRead c buf) :=
  (Option.some_get _).symm

/-- The connection is not touched as long as there are bytes. -/
lemma io_of_ne_nil (reader : AsyncRead I E) (buf : ReadBuf) (h : c.readBuf ≠ []) :
    ((chain reader).pollRead c buf).1.io = c.io := by
  obtain ⟨n, buf', -, -, hpoll⟩ := pollRead_of_ne_nil reader buf h
  rw [pollRead_chain, Option.some.injEq] at hpoll
  rw [hpoll]

/-- A poll with room reads something as long as there are bytes. -/
lemma added_of_ne_nil (reader : AsyncRead I E) (h : c.readBuf ≠ []) (hroom : 0 < buf.remaining) :
    buf.added ((chain reader).pollRead c buf).2.1 ≠ [] := by
  obtain ⟨n, buf', hsome, hput, hpoll⟩ := pollRead_of_ne_nil reader buf h
  rw [pollRead_chain, Option.some.injEq] at hpoll
  rw [hpoll, ReadBuf.added_of_putSlice hput]
  exact hsome hroom

/-- Once the bytes are exhausted, they stay so, and polls are passed on. -/
lemma of_pollRead_of_nil (reader : AsyncRead I E) (buf : ReadBuf) (h : c.readBuf = []) :
    ((chain reader).pollRead c buf).1.readBuf = [] ∧
    ((chain reader).pollRead c buf).2 = (reader.pollRead c.io buf).2 := by
  have hpoll := pollRead_of_nil reader buf h
  rw [pollRead_chain, Option.some.injEq] at hpoll
  rw [hpoll]
  exact ⟨rfl, rfl⟩

/-! ### Runs -/

/-- The polls of a WebSocket, on a connection that counts how often it is polled itself. -/
def polls (reader : AsyncRead I E) (readBuf : List UInt8) (io : I) (bufs : List ReadBuf) :
    List (Machine.Transition (ChainReadBufAndIo (I × ℕ)) ReadBuf
      (ReadBuf × Poll (Except E Unit))) :=
  (chain reader.counted).machine.transitions ⟨readBuf, (io, 0)⟩ bufs

section

variable {readBuf : List UInt8} {io : I} {bufs : List ReadBuf}
  {t : Machine.Transition (ChainReadBufAndIo (I × ℕ)) ReadBuf (ReadBuf × Poll (Except E Unit))}

lemma step_of_mem_polls (ht : t ∈ polls reader readBuf io bufs) :
    (chain reader.counted).pollRead t.before t.input = (t.after, t.answer) :=
  (chain reader.counted).machine.step_of_mem_transitions ht

/-- The connection is as it was as long as there are bytes, and was never polled. -/
lemma io_of_mem_polls (ht : t ∈ polls reader readBuf io bufs) (h : t.before.readBuf ≠ []) :
    t.after.io = (io, 0) := by
  have hstep : ∀ (c : ChainReadBufAndIo (I × ℕ)) (buf : ReadBuf),
      (c.readBuf ≠ [] → c.io = (io, 0)) → True →
      ((chain reader.counted).pollRead c buf).1.readBuf ≠ [] →
      ((chain reader.counted).pollRead c buf).1.io = (io, 0) := by
    intro c buf hc _ hleft
    by_cases hnil : c.readBuf = []
    · exact absurd (of_pollRead_of_nil reader.counted buf hnil).1 hleft
    · rw [io_of_ne_nil reader.counted buf hnil, hc hnil]
  have hbefore := ((chain reader.counted).machine.guarded_invariant hstep (fun _ => rfl)
    fun _ _ => trivial).1 t ht
  have hio := io_of_ne_nil reader.counted t.input h
  rw [step_of_mem_polls ht] at hio
  rw [hio, hbefore h]

/-- A poll with room that reads nothing comes after the bytes, and if it succeeds then the
connection has reported its end. -/
lemma of_added_eq_nil (ht : t ∈ polls reader readBuf io bufs) (hroom : 0 < t.input.remaining)
    (hnone : t.input.added t.answer.1 = []) :
    t.before.readBuf = [] ∧ t.answer = (reader.pollRead t.before.io.1 t.input).2 ∧
    (t.answer.2 = .ready (.ok ()) → reader.stream t.before.io.1 = .nil) := by
  have hstep := step_of_mem_polls ht
  have hnil : t.before.readBuf = [] := by
    by_contra hne
    have hadded := added_of_ne_nil reader.counted hne hroom
    rw [hstep] at hadded
    exact hadded hnone
  have hanswer : t.answer = (reader.pollRead t.before.io.1 t.input).2 := by
    have hpassed := (of_pollRead_of_nil reader.counted t.input hnil).2
    rwa [hstep] at hpassed
  refine ⟨hnil, hanswer, ?_⟩
  intro hready
  rw [hanswer] at hready hnone
  exact (reader.polled t.before.io.1 t.input).stream_eq_nil hready hroom hnone

end

/-- The WebSocket reads the bytes that were read already, and then the stream of the connection. No
poll panics. What was read in any run of polls is a front of this stream, and all of it once a poll
has reported the end. The connection is not polled before the bytes are exhausted, and a poll with
room reads nothing only when they are exhausted and the connection has nothing either. If the HTTP
library had used up exactly the head of what it read from the connection, then this stream is all
that the client has sent behind the head. -/
theorem chain_concatenates (reader : AsyncRead I E) (readBuf : List UInt8) (io : I)
    (bufs : List ReadBuf) :
    (∀ (c : ChainReadBufAndIo I) (buf : ReadBuf), (c.pollRead reader buf).isSome) ∧
    (∃ rest, (Seq.ofList readBuf).append (reader.stream io)
      = (Seq.ofList (received (polls reader readBuf io bufs))).append rest) ∧
    (∀ t ∈ polls reader readBuf io bufs,
      t.answer.1.filled = t.input.filled ++ t.input.added t.answer.1 ∧
      t.answer.1.capacity = t.input.capacity ∧
      (t.before.readBuf ≠ [] → t.after.io = (io, 0)) ∧
      (0 < t.input.remaining → t.input.added t.answer.1 = [] →
        t.before.readBuf = [] ∧ t.answer = (reader.pollRead t.before.io.1 t.input).2 ∧
        (t.answer.2 = .ready (.ok ()) → reader.stream t.before.io.1 = .nil)) ∧
      (0 < t.input.remaining → t.input.added t.answer.1 = [] → t.answer.2 = .ready (.ok ()) →
        (Seq.ofList readBuf).append (reader.stream io)
          = Seq.ofList (received (polls reader readBuf io bufs)))) ∧
    ∀ (start : I) (reads : List ReadBuf) (head : List UInt8) (payload : Seq UInt8),
      reader.machine.run start reads = io →
      received (reader.machine.transitions start reads) = head ++ readBuf →
      reader.stream start = (Seq.ofList head).append payload →
      (Seq.ofList readBuf).append (reader.stream io) = payload := by
  have hstream : (Seq.ofList readBuf).append (reader.stream io)
      = (chain reader.counted).stream ⟨readBuf, (io, 0)⟩ := rfl
  refine ⟨isSome_pollRead reader, ?_, ?_, ?_⟩
  · exact ⟨_, (chain reader.counted).stream_run ⟨readBuf, (io, 0)⟩ bufs⟩
  · intro t ht
    obtain ⟨hfilled, hcapacity⟩ := (polled_of_mem_transitions ht).filled_eq
    refine ⟨hfilled, hcapacity, io_of_mem_polls ht, of_added_eq_nil ht, ?_⟩
    intro hroom hnone hready
    rw [hstream]
    exact received_of_eof ht hready hroom hnone
  · intro start reads head payload hrun hreceived hpayload
    have hall := reader.stream_run start reads
    rw [hreceived, hrun, hpayload, Seq.ofList_append, Seq.append_assoc] at hall
    exact (append_ofList_cancel hall).symm

/-! ### A connection with pauses -/

/-- What comes in, and pauses. -/
abbrev Script := List (Poll (List UInt8))

/-- The bytes of a script. -/
def Script.bytes (script : Script) : List UInt8 :=
  script.flatMap fun
    | .ready chunk => chunk
    | .pending     => []

/-- A poll gives of the first chunk what there is room for, and pauses behind a chunk. -/
def Script.pollRead (script : Script) (buf : ReadBuf) :
    Script × ReadBuf × Poll (Except E Unit) :=
  match script with
  | []                     => ([], buf, .ready (.ok ()))
  | .pending :: script     => (script, buf, .pending)
  | .ready [] :: script    => (script, buf, .pending)
  | .ready chunk :: script =>
    (.ready (chunk.drop buf.remaining) :: script,
      ⟨buf.filled ++ chunk.take buf.remaining, buf.capacity,
        ReadBuf.valid_append (List.length_take_le _ _)⟩, .ready (.ok ()))

def scripted : AsyncRead Script E where
  pollRead := Script.pollRead
  stream script := Seq.ofList script.bytes
  polled script buf := by
    rw [Script.pollRead.eq_def]
    split
    · exact .eof rfl rfl
    · exact .pending rfl
    · exact .pending rfl
    case h_4 chunk script hchunk =>
      refine .read (chunk.take buf.remaining) ?_ ?_ ?_
      · rw [ReadBuf.putSlice, dif_pos (List.length_take_le _ _)]
      · rw [← Seq.ofList_append]
        simp [Script.bytes, ← List.append_assoc]
      · intro hroom hnil
        rcases List.take_eq_nil_iff.mp hnil with hzero | rfl
        · exact absurd hzero hroom.ne'
        · exact hchunk rfl

/-- An empty buffer. -/
def emptyBuf (capacity : ℕ) : ReadBuf := ⟨[], capacity, Nat.zero_le _⟩

/-- Buffers that are too small, and a pause right behind the bytes that were read already. -/
theorem chain_concatenates_with_pause :
    received (polls (scripted : AsyncRead Script Unit) [1, 2, 3] [.pending, .ready [4, 5]]
      [emptyBuf 2, emptyBuf 0, emptyBuf 4, emptyBuf 4, emptyBuf 1, emptyBuf 4]) = [1, 2, 3, 4, 5] ∧
    ∀ t ∈ polls (scripted : AsyncRead Script Unit) [1, 2, 3] [.pending, .ready [4, 5]]
      [emptyBuf 2, emptyBuf 0, emptyBuf 4, emptyBuf 4, emptyBuf 1, emptyBuf 4],
      t.before.readBuf ≠ [] → t.after.io = ([.pending, .ready [4, 5]], 0) := by
  refine ⟨rfl, ?_⟩
  intro t ht
  obtain ⟨-, -, hpolls, -⟩ := chain_concatenates (scripted : AsyncRead Script Unit) [1, 2, 3]
    [.pending, .ready [4, 5]]
    [emptyBuf 2, emptyBuf 0, emptyBuf 4, emptyBuf 4, emptyBuf 1, emptyBuf 4]
  exact (hpolls t ht).2.2.1

end Dandelion.Simplex.Server
