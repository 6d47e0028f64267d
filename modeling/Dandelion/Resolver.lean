import Dandelion.Net.Addr

/-!
# The resolver that asks name servers

What the name servers answer is an argument. A resolver of this kind never gives an empty list.
-/

namespace Dandelion.Resolver.Hickory

open Net

/-- To find nothing is an error. -/
def lookupIp (name : String) (answer : Except String (List IpAddr)) :
    Except String (List IpAddr) := do
  let addrs ← answer
  match addrs with
  | [] => throw ("Failed to find result for domain " ++ name)
  | _  => return addrs

lemma ne_nil_of_lookupIp {name : String} {answer : Except String (List IpAddr)}
    {addrs : List IpAddr} (h : lookupIp name answer = .ok addrs) : addrs ≠ [] := by
  cases answer with
  | error e => cases h
  | ok found =>
    cases found with
    | nil => cases h
    | cons a as =>
      cases h
      exact List.cons_ne_nil a as

end Dandelion.Resolver.Hickory
