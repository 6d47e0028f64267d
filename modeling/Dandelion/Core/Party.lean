import Mathlib.Tactic.Common

/-!
# The two ends of a connection
-/

inductive Party where
  | left
  | right
deriving DecidableEq

namespace Party

def peer : Party → Party
  | .left  => .right
  | .right => .left

@[simp] lemma peer_peer (p : Party) : p.peer.peer = p := by
  cases p <;> rfl

@[simp] lemma peer_ne (p : Party) : p.peer ≠ p := by
  cases p <;> simp [peer]

@[simp] lemma ne_peer (p : Party) : p ≠ p.peer := (peer_ne p).symm

lemma eq_or_eq_peer (p q : Party) : q = p ∨ q = p.peer := by
  cases p <;> cases q <;> simp [peer]

end Party
