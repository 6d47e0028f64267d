import Dandelion.Core.Machine
import Dandelion.Core.Party
import Dandelion.Simplex.Io

/-!
# Two adapters joined by a WebSocket

Each party drives its own adapter by polls. Messages a party has put on the wire reach the peer
unmodified, once and in order. When they arrive, what a sink answers and how much of its write
buffer it puts on the wire are inputs of the run.
-/

namespace Dandelion.Simplex

variable {E : Type*}

/-- What a stream does when it is polled for a message. A message that has not arrived yet
cannot be delivered. -/
inductive Arrival (E : Type*) where
  | pending
  | message
  | error (e : E)
  | ended

/-- One party: its adapter and the history of its two directions. -/
structure Side where
  io : WebSocketStreamToAsyncWrite
  /-- The bytes of all writes that succeeded. -/
  written : List UInt8
  /-- The bytes of all reads that succeeded. -/
  read : List UInt8
  /-- The messages taken from the wire of the peer. -/
  taken : List Message
  /-- Whether the stream ended before the end marker of the peer was taken. -/
  cutOff : Bool

def Side.new : Side := ⟨.new .new, [], [], [], false⟩

abbrev System := Party → Side

def System.new : System := fun _ => .new

/-- The polls a party makes, with what its WebSocket answers. -/
inductive Call (E : Type*) where
  | pollWrite (buf : List UInt8) (answers : SinkAnswers E)
  | pollFlush (answers : SinkAnswers E)
  | pollShutdown (answers : SinkAnswers E)
  | pollRead (remaining : ℕ) (arrival : Arrival E)

/-- A call of a party, and how many buffered messages its sink puts on the wire meanwhile. -/
structure Event (E : Type*) where
  party : Party
  call : Call E
  pushed : ℕ

/-- What a call returns. -/
inductive Answer (E : Type*) where
  | write (result : Poll (Except (IoError E) ℕ))
  | flush (result : Poll (Except (IoError E) Unit))
  | shutdown (result : Poll (Except (IoError E) Unit))
  | read (result : ReadResult E)
deriving DecidableEq

/-- The answer of the stream, given the messages on the wire. -/
def offer (wire : List Message) : Arrival E → Poll (Option (Except E Message))
  | .pending => .pending
  | .error e => .ready (some (.error e))
  | .ended   => .ready none
  | .message =>
    match wire with
    | []     => .pending
    | m :: _ => .ready (some (.ok m))

/-- Whether a read polls the stream at all. -/
def Side.polls (side : Side) (remaining : ℕ) : Bool :=
  remaining ≠ 0 && side.io.chunk.isNone

/-- The bytes a read has returned. -/
def ReadResult.bytes : ReadResult E → List UInt8
  | .ok bytes => bytes
  | _         => []

/-- The bytes a write has accepted. -/
def acceptedBytes (buf : List UInt8) : Poll (Except (IoError E) ℕ) → List UInt8
  | .ready (.ok n) => buf.take n
  | _              => []

namespace Side

def pollWrite (side : Side) (buf : List UInt8) (a : SinkAnswers E) :
    Side × Poll (Except (IoError E) ℕ) :=
  let r := side.io.pollWrite buf a
  ({ side with io := r.1, written := side.written ++ acceptedBytes buf r.2 }, r.2)

/-- What a read takes off the wire. -/
def took (side : Side) (remaining : ℕ) (wire : List Message) : Arrival E → List Message
  | .message => if side.polls remaining then wire.take 1 else []
  | _        => []

/-- Whether a read finds the stream ended though the end marker was not taken. -/
def findsCut (side : Side) (remaining : ℕ) : Arrival E → Bool
  | .ended => side.polls remaining && !side.taken.contains .eofMessage
  | _      => false

/-- A read with the given answer of the stream, when `wire` is what the peer has on the wire. -/
def pollRead (side : Side) (remaining : ℕ) (wire : List Message) (arrival : Arrival E) :
    Side × ReadResult E :=
  let r := side.io.pollRead remaining (offer wire arrival)
  ({ io := r.1
     written := side.written
     read := side.read ++ r.2.bytes
     taken := side.taken ++ side.took remaining wire arrival
     cutOff := side.cutOff || side.findsCut remaining arrival }, r.2)

lemma took_of_not_polls {side : Side} {remaining : ℕ} (hpolls : side.polls remaining = false)
    (wire : List Message) (arrival : Arrival E) : side.took remaining wire arrival = [] := by
  cases arrival <;> simp [took, hpolls]

lemma findsCut_of_not_polls {side : Side} {remaining : ℕ} (hpolls : side.polls remaining = false)
    (arrival : Arrival E) : side.findsCut remaining arrival = false := by
  cases arrival <;> simp [findsCut, hpolls]

/-- The wire of the writing side after a read of its peer. -/
def afterRead (side reader : Side) (remaining : ℕ) : Arrival E → Side
  | .message =>
    if reader.polls remaining then
      { side with io.stream.wire := side.io.stream.wire.tail }
    else side
  | _ => side

lemma afterRead_of_not_polls {reader : Side} {remaining : ℕ}
    (hpolls : reader.polls remaining = false) (side : Side) (arrival : Arrival E) :
    side.afterRead reader remaining arrival = side := by
  cases arrival <;> simp [afterRead, hpolls]

/-- The sink puts buffered messages on the wire. -/
def push (side : Side) (n : ℕ) : Side :=
  { side with io.stream := side.io.stream.push n }

end Side

namespace System

/-- One call of a party, before its sink pushes anything on its own. -/
def call (sys : System) (p : Party) : Call E → System × Answer E
  | .pollWrite buf a =>
    let r := (sys p).pollWrite buf a
    (Function.update sys p r.1, .write r.2)
  | .pollFlush a =>
    let r := (sys p).io.pollFlush a
    (Function.update sys p { sys p with io := r.1 }, .flush r.2)
  | .pollShutdown a =>
    let r := (sys p).io.pollShutdown a
    (Function.update sys p { sys p with io := r.1 }, .shutdown r.2)
  | .pollRead remaining arrival =>
    let r := (sys p).pollRead remaining (sys p.peer).io.stream.wire arrival
    let peer := (sys p.peer).afterRead (sys p) remaining arrival
    (Function.update (Function.update sys p r.1) p.peer peer, .read r.2)

/-- The two parties as one machine. -/
def machine : Machine System (Event E) (Answer E) where
  step sys e :=
    let r := sys.call e.party e.call
    (Function.update r.1 e.party ((r.1 e.party).push e.pushed), r.2)

end System

end Dandelion.Simplex
