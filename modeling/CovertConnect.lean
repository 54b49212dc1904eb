import CovertConnect.Data.Bytes
import CovertConnect.Data.Exec
import CovertConnect.Data.AsyncIo
import CovertConnect.Crypto.Cipher
import CovertConnect.Crypto.Kdf
import CovertConnect.Crypto.Config
import CovertConnect.Crypto.Stream
import CovertConnect.Crypto.Stream.Frames
import CovertConnect.Crypto.Stream.Writer
import CovertConnect.Crypto.Stream.Reader
import CovertConnect.Crypto.Stream.Transport
import CovertConnect.Crypto.Stream.Nonces
import CovertConnect.Crypto.Stream.Integrity
import CovertConnect.Crypto.Stream.Sender
import CovertConnect.Crypto.Stream.Undisturbed
import CovertConnect.Client.Config
import CovertConnect.Client.SelectServer
import CovertConnect.Client.PacFileService
import CovertConnect.Client.Proxy
import CovertConnect.Client.Routing
import CovertConnect.Client.ProxyService
import CovertConnect.Client.Atomicity
import CovertConnect.Data.Json
import CovertConnect.Flutter.Serialization
import CovertConnect.Crypto.Stream.Truncation
import CovertConnect.Client.Listener
import CovertConnect.Client.SystemSettings
import CovertConnect.Client.Connect
import CovertConnect.Client.LazyInit
import CovertConnect.Client.UpgradeStream
import CovertConnect.Data.Wire
import CovertConnect.Server.Upgrade
import CovertConnect.Tunnel.Upgrade
import CovertConnect.Client.Protocol
import CovertConnect.Data.Panics
import CovertConnect.Crypto.Deserialize
import CovertConnect.Server.Config
import CovertConnect.Server.Tunnel
import CovertConnect.Server.Panics
import CovertConnect.Tunnel.Sampling
import CovertConnect.Client.Packets
import CovertConnect.Tunnel.RoundTrip
import CovertConnect.Tunnel.HeaderNonces
import CovertConnect.Server.Responses
import CovertConnect.Tunnel.ProtocolRoundTrip
import CovertConnect.Server.Sealing
import CovertConnect.Server.Reuse
import CovertConnect.Server.Rejections
import CovertConnect.Client.Removal
import CovertConnect.Client.DomainLists
import CovertConnect.Client.HostNames
import CovertConnect.Client.Linearizable
import CovertConnect.Client.NoServers
import CovertConnect.Client.Weights
import CovertConnect.Client.DomainRouting
import CovertConnect.Client.StartTunnel
import CovertConnect.Data.Segments
import CovertConnect.Tunnel.Segments
import CovertConnect.Tunnel.ResponseSegments
import CovertConnect.Tunnel.GenuineRequest
import CovertConnect.Tunnel.ReplayWindow
import CovertConnect.Data.Timed
import CovertConnect.Server.Cooldown
import CovertConnect.Client.TargetHosts
import CovertConnect.Crypto.Stream.EndOfStream
import CovertConnect.Client.Health
import CovertConnect.Data.JavaScript.Lexer
import CovertConnect.Data.JavaScript.Parser
import CovertConnect.Data.JavaScript.Interpreter
import CovertConnect.Client.PacScript
import CovertConnect.Data.JavaScript.Rules
import CovertConnect.Client.PacVerdict
import CovertConnect.Data.JavaScript.Texts
import CovertConnect.Client.PacLiterals
import CovertConnect.Client.PacRefresh
import CovertConnect.Data.Lines
import CovertConnect.Flutter.RevLines
import CovertConnect.Flutter.TraceLog
import CovertConnect.Flutter.LogPage
import CovertConnect.SysProxy.MacOs
import CovertConnect.SysProxy.MacOsRestore
import CovertConnect.SysProxy.MacOsUpdate
import CovertConnect.SysProxy.Linux
import CovertConnect.SysProxy.Backends
import CovertConnect.Flutter.WriterNotifier
import CovertConnect.Server.NewKey
import CovertConnect.Client.TtfbStream
import CovertConnect.Crypto.IncNonce
import CovertConnect.Data.Matches
import CovertConnect.Flutter.AnsiText
import CovertConnect.Flutter.ServerForm
import CovertConnect.Data.Percent
import CovertConnect.Flutter.DartUri
import CovertConnect.Flutter.ShareLink
import CovertConnect.Data.Pipe
import CovertConnect.Crypto.Stream.Duplex
import CovertConnect.Tunnel.Conversation
import CovertConnect.Crypto.KeySeparation
import CovertConnect.Tunnel.KeyReuse
import CovertConnect.Data.Progress
import CovertConnect.Crypto.Stream.Progress
import CovertConnect.Tunnel.Liveness
import CovertConnect.Client.SharedState
import CovertConnect.Server.Probing
import CovertConnect.Client.Browser
import CovertConnect.Tunnel.Https
import CovertConnect.Data.Serial
import CovertConnect.Data.Utf16
import CovertConnect.Flutter.SseCodec
import CovertConnect.Flutter.Restart
import CovertConnect.Crypto.Stream.Mismatch
import CovertConnect.Tunnel.Restarted
import CovertConnect.Flutter.Persistence
import CovertConnect.Client.ConnectingProcess
import CovertConnect.Client.CommandLine
