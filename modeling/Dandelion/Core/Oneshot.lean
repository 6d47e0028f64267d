import Dandelion.Core.Poll

/-!
# One-shot channels

A channel for one value. A value can be sent only while the receiver is there, and a receiver whose
sender was dropped learns so.
-/

variable {α : Type*}

inductive Oneshot.Sender (α : Type*) where
  | held
  | sent (a : α)
  | dropped

structure Oneshot (α : Type*) where
  sender : Oneshot.Sender α
  /-- Whether the receiver is there. -/
  receiver : Bool

namespace Oneshot

def new : Oneshot α := ⟨.held, true⟩

/-- The channel with a value in it. -/
def put (ch : Oneshot α) (a : α) : Oneshot α := { ch with sender := .sent a }

def send (ch : Oneshot α) (a : α) : Option (Oneshot α) :=
  if ch.receiver then some (ch.put a) else none

/-- One poll of the receiver; there is no value if the sender was dropped. -/
def poll (ch : Oneshot α) : Poll (Option α) :=
  match ch.sender with
  | .held    => .pending
  | .sent a  => .ready (some a)
  | .dropped => .ready none

/-- A sender that has sent its value is gone already. -/
def dropSender (ch : Oneshot α) : Oneshot α :=
  match ch.sender with
  | .held => { ch with sender := .dropped }
  | _     => ch

def dropReceiver (ch : Oneshot α) : Oneshot α := { ch with receiver := false }

end Oneshot
