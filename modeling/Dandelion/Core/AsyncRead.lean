import Dandelion.Core.Machine
import Dandelion.Core.Poll
import Mathlib.Data.Seq.Basic

/-!
# Streams that are read by polls

A reader puts the bytes of a stream, which may be infinite, into buffers. A poll may give any number
of bytes, or none for now. If it succeeds without a byte although there is room for one, then the
stream has come to its end.
-/

open Stream' (Seq)

/-! ### Buffers -/

/-- The buffer of a read: what is filled already, and how much it can hold. -/
structure ReadBuf where
  filled : List UInt8
  capacity : ℕ
  valid : filled.length ≤ capacity

namespace ReadBuf

variable {buf buf' : ReadBuf} {bytes : List UInt8}

def remaining (buf : ReadBuf) : ℕ := buf.capacity - buf.filled.length

lemma valid_append (h : bytes.length ≤ buf.remaining) :
    (buf.filled ++ bytes).length ≤ buf.capacity := by
  have hvalid := buf.valid
  rw [remaining] at h
  rw [List.length_append]
  omega

/-- Put bytes behind the filled part. It panics if there is no room for them. -/
def putSlice (buf : ReadBuf) (bytes : List UInt8) : Option ReadBuf :=
  if h : bytes.length ≤ buf.remaining then
    some ⟨buf.filled ++ bytes, buf.capacity, valid_append h⟩
  else none

lemma exists_putSlice (h : bytes.length ≤ buf.remaining) :
    ∃ buf', buf.putSlice bytes = some buf' := by
  rw [putSlice, dif_pos h]
  exact ⟨_, rfl⟩

lemma of_putSlice (h : buf.putSlice bytes = some buf') :
    buf'.filled = buf.filled ++ bytes ∧ buf'.capacity = buf.capacity := by
  rw [putSlice] at h
  split at h
  · cases h
    exact ⟨rfl, rfl⟩
  · cases h

/-- The bytes that a poll has put into its buffer. -/
def added (buf buf' : ReadBuf) : List UInt8 := buf'.filled.drop buf.filled.length

lemma added_self (buf : ReadBuf) : added buf buf = [] := List.drop_length

lemma added_of_putSlice (h : buf.putSlice bytes = some buf') : added buf buf' = bytes := by
  rw [added, (of_putSlice h).1, List.drop_left]

end ReadBuf

/-! ### Readers -/

variable {I J E : Type*}

/-- What a poll of a reader may do, when `stream` gives the bytes that are still to come. -/
inductive Polled (stream : I → Seq UInt8) (io : I) (buf : ReadBuf) :
    I × ReadBuf × Poll (Except E Unit) → Prop
  | read {io' : I} {buf' : ReadBuf} (bytes : List UInt8) (hput : buf.putSlice bytes = some buf')
      (hstream : stream io = (Seq.ofList bytes).append (stream io'))
      (hsome : 0 < buf.remaining → bytes ≠ []) : Polled stream io buf (io', buf', .ready (.ok ()))
  | eof {io' : I} (hend : stream io = .nil) (hend' : stream io' = .nil) :
      Polled stream io buf (io', buf, .ready (.ok ()))
  | pending {io' : I} (hstream : stream io' = stream io) : Polled stream io buf (io', buf, .pending)
  | failed {io' : I} (e : E) (hstream : stream io' = stream io) :
      Polled stream io buf (io', buf, .ready (.error e))

namespace Polled

variable {stream : I → Seq UInt8} {io : I} {buf : ReadBuf}
  {r : I × ReadBuf × Poll (Except E Unit)}

/-- No byte is lost. -/
lemma stream_eq (h : Polled stream io buf r) :
    stream io = (Seq.ofList (buf.added r.2.1)).append (stream r.1) := by
  cases h with
  | read bytes hput hstream hsome => rw [ReadBuf.added_of_putSlice hput, hstream]
  | eof hend hend' => rw [ReadBuf.added_self, Seq.ofList_nil, Seq.nil_append, hend, hend']
  | pending hstream => rw [ReadBuf.added_self, Seq.ofList_nil, Seq.nil_append, hstream]
  | failed e hstream => rw [ReadBuf.added_self, Seq.ofList_nil, Seq.nil_append, hstream]

/-- What was filled before stays. -/
lemma filled_eq (h : Polled stream io buf r) :
    r.2.1.filled = buf.filled ++ buf.added r.2.1 ∧ r.2.1.capacity = buf.capacity := by
  cases h with
  | read bytes hput hstream hsome =>
    rw [ReadBuf.added_of_putSlice hput]
    exact ReadBuf.of_putSlice hput
  | eof | pending | failed => exact ⟨by rw [ReadBuf.added_self, List.append_nil], rfl⟩

/-- A poll that succeeds without a byte says that the stream has ended. -/
lemma stream_eq_nil (h : Polled stream io buf r) (hready : r.2.2 = .ready (.ok ()))
    (hroom : 0 < buf.remaining) (hnone : buf.added r.2.1 = []) : stream io = .nil := by
  cases h with
  | read bytes hput hstream hsome =>
    rw [ReadBuf.added_of_putSlice hput] at hnone
    exact absurd hnone (hsome hroom)
  | eof hend hend' => exact hend
  | pending | failed => cases hready

/-- The same poll, seen as one of another reader. -/
lemma congr {stream' : J → Seq UInt8} {j j' : J} (h : Polled stream io buf r)
    (hj : stream' j = stream io) (hj' : stream' j' = stream r.1) :
    Polled stream' j buf (j', r.2) := by
  cases h with
  | read bytes hput hstream hsome =>
    apply read bytes hput _ hsome
    rw [hj, hj', hstream]
  | eof hend hend' => exact eof (hj.trans hend) (hj'.trans hend')
  | pending hstream => exact pending (by rw [hj, hj', hstream])
  | failed e hstream => exact failed e (by rw [hj, hj', hstream])

end Polled

/-- A reader, with the stream that it reads. -/
structure AsyncRead (I E : Type*) where
  pollRead : I → ReadBuf → I × ReadBuf × Poll (Except E Unit)
  /-- The bytes that are still to come. -/
  stream : I → Seq UInt8
  polled : ∀ io buf, Polled stream io buf (pollRead io buf)

namespace AsyncRead

/-- A reader that is polled with one buffer after the other. -/
def machine (reader : AsyncRead I E) : Machine I ReadBuf (ReadBuf × Poll (Except E Unit)) where
  step := reader.pollRead

/-- All bytes that were read in a run. -/
def received (run : List (Machine.Transition I ReadBuf (ReadBuf × Poll (Except E Unit)))) :
    List UInt8 :=
  run.flatMap fun t => t.input.added t.answer.1

/-- A reader that counts how often it is polled. -/
def counted (reader : AsyncRead I E) : AsyncRead (I × ℕ) E where
  pollRead s buf := (((reader.pollRead s.1 buf).1, s.2 + 1), (reader.pollRead s.1 buf).2)
  stream s := reader.stream s.1
  polled s buf := (reader.polled s.1 buf).congr rfl rfl

variable {reader : AsyncRead I E} {io : I} {bufs : List ReadBuf}
  {t : Machine.Transition I ReadBuf (ReadBuf × Poll (Except E Unit))}

lemma polled_of_mem_transitions (ht : t ∈ reader.machine.transitions io bufs) :
    Polled reader.stream t.before t.input (t.after, t.answer) := by
  have hpolled := reader.polled t.before t.input
  have hstep : reader.pollRead t.before t.input = (t.after, t.answer) :=
    reader.machine.step_of_mem_transitions ht
  rwa [hstep] at hpolled

/-- What was read in a run, and what is still to come after it, is the stream. -/
lemma stream_run (reader : AsyncRead I E) (io : I) (bufs : List ReadBuf) :
    reader.stream io = (Seq.ofList (received (reader.machine.transitions io bufs))).append
      (reader.stream (reader.machine.run io bufs)) := by
  induction bufs generalizing io with
  | nil => rw [Machine.transitions_nil, received, List.flatMap_nil, Seq.ofList_nil,
      Seq.nil_append, Machine.run_nil]
  | cons buf bufs ih =>
    rw [(reader.polled io buf).stream_eq, Machine.transitions_cons, received, List.flatMap_cons,
      Seq.ofList_append, Seq.append_assoc, Machine.run_cons]
    exact congrArg _ (ih _)

lemma eq_nil_of_append_eq_nil {bytes : List UInt8} {s : Seq UInt8}
    (h : (Seq.ofList bytes).append s = .nil) : s = .nil := by
  cases bytes with
  | nil => rwa [Seq.ofList_nil, Seq.nil_append] at h
  | cons b bytes =>
    rw [Seq.ofList_cons, Seq.cons_append] at h
    exact absurd h (Seq.cons_ne_nil)

lemma append_ofList_cancel {bytes : List UInt8} {s s' : Seq UInt8}
    (h : (Seq.ofList bytes).append s = (Seq.ofList bytes).append s') : s = s' := by
  induction bytes with
  | nil => rwa [Seq.ofList_nil, Seq.nil_append, Seq.nil_append] at h
  | cons b bytes ih =>
    rw [Seq.ofList_cons, Seq.cons_append, Seq.cons_append] at h
    exact ih (Seq.cons_eq_cons.mp h).2

/-- A run that has come to the end of the stream has read all of it. -/
lemma received_of_eof (ht : t ∈ reader.machine.transitions io bufs)
    (hready : t.answer.2 = .ready (.ok ())) (hroom : 0 < t.input.remaining)
    (hnone : t.input.added t.answer.1 = []) :
    reader.stream io = Seq.ofList (received (reader.machine.transitions io bufs)) := by
  have hbefore := (polled_of_mem_transitions ht).stream_eq_nil hready hroom hnone
  obtain ⟨first, rest, rfl, hrun⟩ := reader.machine.split_of_mem_transitions ht
  have hafter : reader.stream (reader.machine.run io (first ++ t.input :: rest)) = .nil := by
    rw [reader.stream_run t.before (t.input :: rest)] at hbefore
    rw [Machine.run_append, hrun]
    exact eq_nil_of_append_eq_nil hbefore
  have hall := reader.stream_run io (first ++ t.input :: rest)
  rwa [hafter, Seq.append_nil] at hall

end AsyncRead
