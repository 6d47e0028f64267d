import Dandelion.Core.Proc
import Dandelion.Endpoint

/-!
# The SOCKS5 connector

Ask a SOCKS5 server for a connection to an endpoint. The endpoint is always sent by name.
-/

namespace Dandelion.Connector.Socks5

/-- Read the answer to the greeting. -/
def readMethod : Proc String Unit := do
  let buf ← Proc.read 2
  let version := buf.getD 0 0
  let method := buf.getD 1 0
  Proc.ensure (version = 5) s!"Unsupported socks version: {version}"
  Proc.ensure (method = 0) s!"Server asked for auth method {method} we don't support"

/-- Send the host and the port of the endpoint. -/
def sendRequest (endpoint : Endpoint) : Proc String Unit := do
  let hostname := endpoint.hostname.utf8Bytes
  Proc.ensure (hostname.length ≤ 255)
    "The socks5 protocol cannot support domain longer than 255 bytes."
  Proc.write [5, 1, 0, 3, UInt8.ofNat hostname.length]
  Proc.write hostname
  Proc.write endpoint.port.toBeBytes

/-- Skip the bound address and port of the reply. -/
def skipBoundAddr (addressType : UInt8) : Proc String Unit := do
  if addressType = 1 then
    let _ ← Proc.read 6
  else if addressType = 3 then
    let len ← Proc.read 1
    let _ ← Proc.read ((len.getD 0 0).toNat + 2)
  else if addressType = 4 then
    let _ ← Proc.read 18
  else
    Proc.fail s!"Not recognized address type {addressType}"

/-- Read the reply to the request. -/
def readReply : Proc String Unit := do
  let buf ← Proc.read 4
  let version := buf.getD 0 0
  let status := buf.getD 1 0
  Proc.ensure (version = 5) s!"Unsupported socks version: {version}"
  Proc.ensure (status = 0) s!"Socks5 connection failed with status {status}"
  Proc.ensure (buf.getD 2 0 = 0) "Not recognized reserved field"
  skipBoundAddr (buf.getD 3 0)

def connect (endpoint : Endpoint) : Proc String Unit := do
  Proc.write [5, 1, 0]
  readMethod
  sendRequest endpoint
  readReply

/-! ### Conversations -/

open Proc

lemma readMethod_talks : readMethod.Talks [.got [5, 0]] (ret ()) :=
  .got [5, 0] rfl (.done _)

lemma sendRequest_talks {e : Endpoint} (hlen : e.hostname.utf8Bytes.length ≤ 255) :
    (sendRequest e).Talks
      [.wrote [5, 1, 0, 3, UInt8.ofNat e.hostname.utf8Bytes.length],
        .wrote e.hostname.utf8Bytes, .wrote e.port.toBeBytes] (ret ()) := by
  simp only [sendRequest, hlen, decide_true, ensure_true]
  exact .wrote _ (.wrote _ (.wrote _ (.done _)))

/-- A host that is too long is noticed before any byte of the request is written. -/
lemma sendRequest_of_lt {e : Endpoint} (hlen : 255 < e.hostname.utf8Bytes.length) :
    sendRequest e = fail "The socks5 protocol cannot support domain longer than 255 bytes." := by
  simp [sendRequest, Nat.not_le.mpr hlen]

/-- For a host that is too long the connector writes nothing but its greeting, and fails. -/
lemma connect_failsWithin {e : Endpoint} (hlen : 255 < e.hostname.utf8Bytes.length) :
    FailsWithin [5, 1, 0] (connect e) := by
  simp only [connect, sendRequest_of_lt hlen, readMethod, bind_assoc, fail_bind]
  refine .writeAll [5, 1, 0] [] _ (.readExact [] 2 _ fun buf => ?_)
  apply FailsWithin.ensure _ _
  apply FailsWithin.ensure _ _
  exact .fail [] _

lemma readReply_talks :
    readReply.Talks [.got [5, 0, 0, 1], .got [0, 0, 0, 0, 0, 0]] (ret ()) :=
  .got [5, 0, 0, 1] rfl (.got [0, 0, 0, 0, 0, 0] rfl (.done _))

end Dandelion.Connector.Socks5
