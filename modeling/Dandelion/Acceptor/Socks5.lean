import Dandelion.Core.Proc
import Dandelion.Endpoint

/-!
# The SOCKS5 acceptor

Read the request of a SOCKS5 client. The reply is left to a second program, which is run once the
endpoint is connected.
-/

namespace Dandelion.Acceptor.Socks5

open Net

/-- The requested host. -/
inductive IpOrDomain where
  | ip (ip : IpAddr)
  | domain (domain : String)

/-- Read the requested host, whose form depends on the address type. -/
def readIpOrDomain (requestType : UInt8) : Proc String IpOrDomain := do
  if requestType = 1 then
    let buf ← Proc.read 4
    return .ip (.v4 (.ofOctets buf))
  else if requestType = 3 then
    let len ← Proc.read 1
    let buf ← Proc.read (len.getD 0 0).toNat
    match String.fromUtf8Bytes buf with
    | some domain => return .domain domain
    | none        => Proc.fail "The socks5 client is not sending a valid domain"
  else if requestType = 4 then
    let buf ← Proc.read 16
    return .ip (.v6 (.ofOctets buf))
  else
    Proc.fail s!"Unsupported address type {requestType}"

/-- The reply, with an empty bound address of the type of the request. -/
def response (requestType : UInt8) : List UInt8 :=
  if requestType = 4 then
    [5, 0, 0, 4, 0, 0, 0, 0, 0, 0, 0, 0, 0, 0, 0, 0, 0, 0, 0, 0, 0, 0]
  else
    [5, 0, 0, 1, 0, 0, 0, 0, 0, 0]

/-- Read the greeting, which must offer to do without authentication. -/
def readGreeting : Proc String Unit := do
  let buf ← Proc.read 2
  let version := buf.getD 0 0
  let count := buf.getD 1 0
  Proc.ensure (version = 5) s!"Unsupported socks version: {version}"
  Proc.ensure (count ≠ 0) "Invalid socks5 auth method count, should not be 0"
  let methods ← Proc.read count.toNat
  Proc.ensure (methods.contains 0)
    "Only no auth is supported, but it's not requested in handshake"

/-- Read the request. -/
def readRequest : Proc String (Endpoint × Proc String Unit) := do
  let buf ← Proc.read 4
  let version := buf.getD 0 0
  let command := buf.getD 1 0
  let requestType := buf.getD 3 0
  Proc.ensure (version = 5) s!"Unsupported socks version: {version}"
  Proc.ensure (command = 1) s!"Invalid socks5 command: {command}, only 1 is supported"
  let ipOrDomain ← readIpOrDomain requestType
  let port ← Proc.read 2
  let port := UInt16.fromBeBytes (port.getD 0 0) (port.getD 1 0)
  let endpoint := match ipOrDomain with
    | .domain d => Endpoint.newFromDomain d port
    | .ip ip    => Endpoint.newFromAddr (.new ip port)
  return (endpoint, Proc.write (response requestType))

def handshake : Proc String (Endpoint × Proc String Unit) := do
  readGreeting
  Proc.write [5, 0]
  readRequest

/-! ### Conversations -/

open Proc

lemma readGreeting_talks : readGreeting.Talks [.got [5, 1], .got [0]] (ret ()) :=
  .got [5, 1] rfl (.got [0] rfl (.done _))

lemma readIpOrDomain_talks {domain : String} (hlen : domain.utf8Bytes.length ≤ 255) :
    (readIpOrDomain 3).Talks
      [.got [UInt8.ofNat domain.utf8Bytes.length], .got domain.utf8Bytes]
      (ret (.domain domain)) := by
  have hbyte : (UInt8.ofNat domain.utf8Bytes.length).toNat = domain.utf8Bytes.length := by
    rw [UInt8.toNat_ofNat']
    omega
  refine .got _ rfl (.got _ hbyte.symm ?_)
  show Talks (match String.fromUtf8Bytes domain.utf8Bytes with
    | some domain => ret (IpOrDomain.domain domain)
    | none        => fail "The socks5 client is not sending a valid domain") [] _
  rw [String.fromUtf8Bytes_utf8Bytes]
  exact .done _

/-- A request by name. -/
lemma readRequest_talks {domain : String} (port : UInt16)
    (hlen : domain.utf8Bytes.length ≤ 255) :
    readRequest.Talks
      [.got [5, 1, 0, 3], .got [UInt8.ofNat domain.utf8Bytes.length], .got domain.utf8Bytes,
        .got port.toBeBytes]
      (ret (.domain domain port, Proc.write [5, 0, 0, 1, 0, 0, 0, 0, 0, 0])) := by
  refine .got [5, 1, 0, 3] rfl ?_
  refine ((readIpOrDomain_talks hlen).bind _).trans (.got port.toBeBytes rfl ?_)
  have hport : UInt16.fromBeBytes (port.toBeBytes.getD 0 0) (port.toBeBytes.getD 1 0) = port :=
    UInt16.fromBeBytes_high_low port
  show Talks (ret (Endpoint.newFromDomain domain
    (UInt16.fromBeBytes (port.toBeBytes.getD 0 0) (port.toBeBytes.getD 1 0)), _)) [] _
  rw [hport]
  exact .done _

end Dandelion.Acceptor.Socks5
