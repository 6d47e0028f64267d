import Dandelion.Net.RoundTrip
import Dandelion.Net.Suffix

/-!
# Endpoints

The target of a connection: a socket address, or a domain name and a port. Its textual form is
what a routing script sees and hands back.
-/

namespace Dandelion

open Net

inductive Endpoint where
  | addr (addr : SocketAddr)
  | domain (domain : String) (port : UInt16)
deriving DecidableEq

/-- Split a text at the last occurrence of a separator. -/
def rsplitOnce (sep : Char) : List Char → Option (List Char × List Char)
  | []      => none
  | c :: cs =>
    match rsplitOnce sep cs with
    | some (front, back) => some (c :: front, back)
    | none               => if c = sep then some ([], cs) else none

section

variable {sep : Char} {cs front back : List Char}

lemma rsplitOnce_of_not_mem (h : sep ∉ cs) : rsplitOnce sep cs = none := by
  induction cs with
  | nil => rfl
  | cons c cs ih =>
    rw [List.mem_cons, not_or] at h
    simp [rsplitOnce, ih h.2, Ne.symm h.1]

lemma rsplitOnce_append (h : sep ∉ back) :
    rsplitOnce sep (front ++ sep :: back) = some (front, back) := by
  induction front with
  | nil => simp [rsplitOnce, rsplitOnce_of_not_mem h]
  | cons c front ih => simp [rsplitOnce, ih]

lemma of_rsplitOnce (h : rsplitOnce sep cs = some (front, back)) : cs = front ++ sep :: back := by
  induction cs generalizing front with
  | nil => cases h
  | cons c cs ih =>
    rw [rsplitOnce] at h
    split at h
    case h_1 heq =>
      cases h
      rw [ih heq, List.cons_append]
    case h_2 =>
      rw [Option.ite_none_right_eq_some] at h
      obtain ⟨rfl, heq⟩ := h
      cases heq
      rfl

end

namespace Endpoint

def newFromDomain (domain : String) (port : UInt16) : Endpoint := .domain domain port

def newFromAddr (addr : SocketAddr) : Endpoint := .addr addr

def hostname : Endpoint → String
  | .addr a     => String.ofList a.ip.display
  | .domain d _ => d

def port : Endpoint → UInt16
  | .addr a     => a.port
  | .domain _ p => p

/-- The textual form. -/
def display : Endpoint → String
  | .addr a     => String.ofList a.display
  | .domain d p => d ++ ":" ++ String.ofList (dec p.toNat)

def fromStr (value : String) : Except String Endpoint :=
  match SocketAddr.parse value with
  | some a => .ok (newFromAddr a)
  | none   =>
    match rsplitOnce ':' value.toList with
    | none => .error "Endpoint string not valid, most likely port is missing"
    | some (host, port) =>
      match parseU16 port with
      | none      => .error "Failed to parse port for endpoint"
      | some port => .ok (newFromDomain (String.ofList host) port)

/-- An endpoint is parsed as a socket address, and else as a host and a port. -/
lemma fromStr_eq_ok_iff {value : String} {e : Endpoint} :
    fromStr value = .ok e ↔
      (∃ a, SocketAddr.parse value = some a ∧ e = .addr a) ∨
      (SocketAddr.parse value = none ∧ ∃ host back port,
        rsplitOnce ':' value.toList = some (host, back) ∧ parseU16 back = some port ∧
        e = .domain (String.ofList host) port) := by
  unfold fromStr
  cases SocketAddr.parse value with
  | some a => simp [newFromAddr, eq_comm]
  | none =>
    cases rsplitOnce ':' value.toList with
    | none => simp
    | some parts =>
      obtain ⟨host, back⟩ := parts
      cases hport : parseU16 back <;> simp [newFromDomain, hport, eq_comm]

end Endpoint

/-! ### What a routing script sees -/

structure ConnectRequest where
  endpoint : Endpoint

namespace ConnectRequest

def hostnameAsIp (request : ConnectRequest) : Option String :=
  match request.endpoint with
  | .addr a     => some (String.ofList a.ip.display)
  | .domain d _ => (IpAddr.parse d).map fun ip => String.ofList ip.display

def hostnameIsIp (request : ConnectRequest) : Bool := request.hostnameAsIp.isSome

/-- Whether the host is an IP address can be told from its text. -/
lemma hostnameIsIp_eq (request : ConnectRequest) :
    request.hostnameIsIp = (IpAddr.parse request.endpoint.hostname).isSome := by
  unfold hostnameIsIp hostnameAsIp
  split
  case h_1 addr heq => simp [heq, Endpoint.hostname, IpAddr.parse_display]
  case h_2 domain port heq => simp [heq, Endpoint.hostname]

end ConnectRequest

end Dandelion
