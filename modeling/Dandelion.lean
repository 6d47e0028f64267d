import Dandelion.Core.Bytes
import Dandelion.Core.Duplex
import Dandelion.Core.Files
import Dandelion.Core.Interleave
import Dandelion.Core.LruCache
import Dandelion.Core.Machine
import Dandelion.Core.Oneshot
import Dandelion.Core.Party
import Dandelion.Core.Poll
import Dandelion.Core.Proc
import Dandelion.Core.Feed
import Dandelion.Core.AsyncRead
import Dandelion.Core.Race
import Dandelion.Core.Relay
import Dandelion.Core.Tasks
import Dandelion.Net.Addr
import Dandelion.Net.Digits
import Dandelion.Net.Text
import Dandelion.Net.RoundTrip
import Dandelion.Net.Suffix
import Dandelion.Net.Local
import Dandelion.Net.Literal
import Dandelion.Net.Http
import Dandelion.Net.HeaderMap
import Dandelion.Net.HeaderValue
import Dandelion.Net.Target
import Dandelion.Net.AbsoluteForm
import Dandelion.Net.Serve
import Dandelion.Endpoint
import Dandelion.Endpoint.Reparse
import Dandelion.Endpoint.Stable
import Dandelion.Resolver
import Dandelion.Tun.Resolver
import Dandelion.Tun.Invariant
import Dandelion.Tun.Refinement
import Dandelion.Tun.Retention
import Dandelion.Tun.FakeDns
import Dandelion.Tun.FakeResolver
import Dandelion.Connector.Tcp
import Dandelion.Connector.Tcp.Invariant
import Dandelion.Connector.Tcp.GiveUp
import Dandelion.Connector.Tcp.Conservation
import Dandelion.Connector.Tcp.Wakeup
import Dandelion.Connector.Tcp.Pacing
import Dandelion.Connector.Speed
import Dandelion.Connector.Socks5
import Dandelion.Connector.Socks5.Grammar
import Dandelion.Connector.Http
import Dandelion.Connector.Http.Response
import Dandelion.Acceptor.Socks5
import Dandelion.Acceptor.Socks5.Grammar
import Dandelion.Acceptor.Http
import Dandelion.Acceptor.Http.Authority
import Dandelion.Acceptor.Http.Rewrite
import Dandelion.Acceptor.Http.ProxyHeaders
import Dandelion.Acceptor.Http.Handshake
import Dandelion.Acceptor.Http.Session
import Dandelion.Acceptor.Http.Safety
import Dandelion.Socks5
import Dandelion.Socks5.Chain
import Dandelion.HttpProxy
import Dandelion.HttpProxy.Invariant
import Dandelion.HttpProxy.Rejection
import Dandelion.HttpProxy.Tunnel
import Dandelion.Quic.Client
import Dandelion.Simplex.Io
import Dandelion.Simplex.Link
import Dandelion.Simplex.Flow
import Dandelion.Simplex.Calls
import Dandelion.Simplex.Fidelity
import Dandelion.Simplex.Shutdown
import Dandelion.Simplex.Receiver
import Dandelion.Simplex.Release
import Dandelion.Simplex.Server
import Dandelion.Simplex.Server.Upgrade
import Dandelion.Simplex.Server.Decoy
import Dandelion.Simplex.Server.Chain
import Dandelion.Simplex.Client
import Dandelion.GeoIp
import Dandelion.GeoIp.Cache
import Dandelion.GeoIp.Live
import Dandelion.Engine
import Dandelion.Engine.Trace
import Dandelion.Engine.Socks5
import Dandelion.Engine.Progress
import Dandelion.Engine.Http
import Dandelion.Engine.IpList
