import Dandelion.Core.Bytes

/-!
# Network addresses

IPv4 and IPv6 addresses and socket addresses as values, before any textual form.
-/

namespace Net

/-- The four octets of an IPv4 address. -/
structure Ipv4Addr where
  a : UInt8
  b : UInt8
  c : UInt8
  d : UInt8
deriving DecidableEq

/-- The eight segments of an IPv6 address. -/
@[ext]
structure Ipv6Addr where
  segments : List UInt16
  length_segments : segments.length = 8
deriving DecidableEq

/-- The address with the given four bytes. -/
def Ipv4Addr.ofOctets (bytes : List UInt8) : Ipv4Addr :=
  ⟨bytes.getD 0 0, bytes.getD 1 0, bytes.getD 2 0, bytes.getD 3 0⟩

/-- The address with the given sixteen bytes. -/
def Ipv6Addr.ofOctets (bytes : List UInt8) : Ipv6Addr where
  segments := (List.range 8).map fun i =>
    UInt16.fromBeBytes (bytes.getD (2 * i) 0) (bytes.getD (2 * i + 1) 0)
  length_segments := by simp

inductive IpAddr where
  | v4 (ip : Ipv4Addr)
  | v6 (ip : Ipv6Addr)
deriving DecidableEq

/-- An address and a port; the IPv6 form also carries a flow label and a scope. -/
inductive SocketAddr where
  | v4 (ip : Ipv4Addr) (port : UInt16)
  | v6 (ip : Ipv6Addr) (port : UInt16) (flowinfo scopeId : UInt32)
deriving DecidableEq

namespace SocketAddr

/-- The socket address of an IP address and a port, with no flow label and no scope. -/
def new : IpAddr → UInt16 → SocketAddr
  | .v4 ip, port => .v4 ip port
  | .v6 ip, port => .v6 ip port 0 0

def ip : SocketAddr → IpAddr
  | .v4 ip _     => .v4 ip
  | .v6 ip _ _ _ => .v6 ip

def port : SocketAddr → UInt16
  | .v4 _ port     => port
  | .v6 _ port _ _ => port

end SocketAddr

end Net
