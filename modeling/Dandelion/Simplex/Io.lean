import Dandelion.Core.Bytes
import Dandelion.Core.Poll

/-!
# The simplex adapter

A shallow embedding of `WebSocketStreamToAsyncWrite`, which makes a byte stream out of a
WebSocket. A binary message carries data, and the text message `EOF` marks the end of the data.
What the WebSocket answers to each poll is an input of the adapter's methods.
-/

namespace Dandelion.Simplex

variable {E : Type*}

/-- A WebSocket message. -/
inductive Message where
  | text (data : String)
  | binary (data : List UInt8)
  | ping (data : List UInt8)
  | pong (data : List UInt8)
  | close (frame : Option (UInt16 × String))
deriving DecidableEq

namespace Message

/-- The payload of a message, whatever its kind. -/
def intoData : Message → List UInt8
  | .text data                  => data.utf8Bytes
  | .binary data                => data
  | .ping data                  => data
  | .pong data                  => data
  | .close none                 => []
  | .close (some (_, reason))   => reason.utf8Bytes

def eofMessage : Message := .text "EOF"

def isEof (m : Message) : Bool := m == eofMessage

@[simp] lemma isEof_eofMessage : isEof eofMessage = true := by
  simp [isEof]

@[simp] lemma isEof_binary (data : List UInt8) : isEof (.binary data) = false := by
  simp [isEof, eofMessage]

@[simp] lemma isEof_close (frame : Option (UInt16 × String)) : isEof (.close frame) = false := by
  simp [isEof, eofMessage]

lemma isEof_eq_true_iff {m : Message} : isEof m = true ↔ m = eofMessage := by
  simp [isEof]

end Message

/-- The sending half of a WebSocket. A message that was accepted may stay in the write buffer
before it is on the wire. -/
structure WebSocketStream where
  buffer : List Message
  wire : List Message
  /-- Every message accepted so far. -/
  sent : List Message
  closing : Bool

namespace WebSocketStream

def new : WebSocketStream := ⟨[], [], [], false⟩

def startSend (w : WebSocketStream) (m : Message) : WebSocketStream :=
  { w with buffer := w.buffer ++ [m], sent := w.sent ++ [m] }

/-- Put the first `n` messages of the write buffer on the wire. -/
def push (w : WebSocketStream) (n : ℕ) : WebSocketStream :=
  { w with wire := w.wire ++ w.buffer.take n, buffer := w.buffer.drop n }

/-- Put the whole write buffer on the wire. -/
def flush (w : WebSocketStream) : WebSocketStream :=
  w.push w.buffer.length

/-- Start the closing handshake, once. -/
def startClose (w : WebSocketStream) : WebSocketStream :=
  if w.closing then w else { w.startSend (.close none) with closing := true }

end WebSocketStream

/-- What the sink of a WebSocket answers during one call. -/
structure SinkAnswers (E : Type*) where
  ready : Poll (Except E Unit)
  send : Except E Unit
  flush : Poll (Except E Unit)
  close : Poll (Except E Unit)

/-- An I/O error that wraps an error of the WebSocket. -/
inductive IoError (E : Type*) where
  | other (error : E)
deriving DecidableEq

def wsToIoError (error : E) : IoError E := .other error

structure WebSocketStreamToAsyncWrite where
  stream : WebSocketStream
  readClosed : Bool
  writeClosed : Bool
  /-- Whether a waker is registered and was not woken since. -/
  waker : Bool
  chunk : Option (List UInt8)

/-- How a read into a buffer ends. -/
inductive ReadResult (E : Type*) where
  | pending
  | ok (bytes : List UInt8)
  | err (error : IoError E)
  | panic
deriving DecidableEq

namespace WebSocketStreamToAsyncWrite

def new (stream : WebSocketStream) : WebSocketStreamToAsyncWrite where
  stream := stream
  readClosed := false
  writeClosed := false
  waker := false
  chunk := none

def pollWrite (s : WebSocketStreamToAsyncWrite) (buf : List UInt8) (a : SinkAnswers E) :
    WebSocketStreamToAsyncWrite × Poll (Except (IoError E) ℕ) :=
  match a.ready with
  | .pending          => (s, .pending)
  | .ready (.error e) => (s, .ready (.error (wsToIoError e)))
  | .ready (.ok _)    =>
    match a.send with
    | .error e => (s, .ready (.error (wsToIoError e)))
    | .ok _    =>
      ({ s with stream := s.stream.startSend (.binary buf) }, .ready (.ok buf.length))

def pollFlush (s : WebSocketStreamToAsyncWrite) (a : SinkAnswers E) :
    WebSocketStreamToAsyncWrite × Poll (Except (IoError E) Unit) :=
  match a.flush with
  | .pending          => (s, .pending)
  | .ready (.error e) => (s, .ready (.error (wsToIoError e)))
  | .ready (.ok _)    => ({ s with stream := s.stream.flush }, .ready (.ok ()))

/-- The second half of a shutdown, once the end of the data is marked. -/
def finishShutdown (s : WebSocketStreamToAsyncWrite) (a : SinkAnswers E) :
    WebSocketStreamToAsyncWrite × Poll (Except (IoError E) Unit) :=
  if s.readClosed then
    let s := { s with stream := s.stream.startClose }
    match a.close with
    | .pending          => (s, .pending)
    | .ready (.error e) => (s, .ready (.error (wsToIoError e)))
    | .ready (.ok _)    => ({ s with stream := s.stream.flush }, .ready (.ok ()))
  else ({ s with waker := true }, .pending)

def pollShutdown (s : WebSocketStreamToAsyncWrite) (a : SinkAnswers E) :
    WebSocketStreamToAsyncWrite × Poll (Except (IoError E) Unit) :=
  if s.writeClosed then s.finishShutdown a
  else
    match a.ready with
    | .pending          => (s, .pending)
    | .ready (.error e) => (s, .ready (.error (wsToIoError e)))
    | .ready (.ok _)    =>
      match a.send with
      | .error e => (s, .ready (.error (wsToIoError e)))
      | .ok _    =>
        finishShutdown
          { s with stream := s.stream.startSend .eofMessage, writeClosed := true } a

/-- Note the end of the incoming data and wake a shutdown that waits for it. -/
def closeRead (s : WebSocketStreamToAsyncWrite) : WebSocketStreamToAsyncWrite :=
  { s with readClosed := true, waker := s.waker && !s.writeClosed }

def pollFillBuf (s : WebSocketStreamToAsyncWrite) (next : Poll (Option (Except E Message))) :
    WebSocketStreamToAsyncWrite × Poll (Except (IoError E) (List UInt8)) :=
  match s.chunk with
  | some chunk => (s, .ready (.ok chunk))
  | none =>
    match next with
    | .pending                  => (s, .pending)
    | .ready (some (.ok m))     =>
      if m.isEof then (s.closeRead, .ready (.ok []))
      else ({ s with chunk := some m.intoData }, .ready (.ok m.intoData))
    | .ready (some (.error e))  => (s, .ready (.error (wsToIoError e)))
    | .ready none               =>
      (if s.readClosed then s else s.closeRead, .ready (.ok []))

/-- Drop the first `amt` bytes of the chunk. The code panics when there are not that many. -/
def consume (s : WebSocketStreamToAsyncWrite) (amt : ℕ) : Option WebSocketStreamToAsyncWrite :=
  if 0 < amt then
    match s.chunk with
    | none       => none
    | some chunk =>
      if amt ≤ chunk.length then
        let rest := chunk.drop amt
        some { s with chunk := if rest.isEmpty then none else some rest }
      else none
  else some s

/-- Read into a buffer with room for `remaining` bytes. -/
def pollRead (s : WebSocketStreamToAsyncWrite) (remaining : ℕ)
    (next : Poll (Option (Except E Message))) : WebSocketStreamToAsyncWrite × ReadResult E :=
  if remaining = 0 then (s, .ok [])
  else
    match s.pollFillBuf next with
    | (s', .pending)           => (s', .pending)
    | (s', .ready (.error e))  => (s', .err e)
    | (s', .ready (.ok inner)) =>
      let len := min inner.length remaining
      match s'.consume len with
      | none     => (s', .panic)
      | some s'' => (s'', .ok (inner.take len))

end WebSocketStreamToAsyncWrite

end Dandelion.Simplex
