import CkbP2P.Lib.Alternation
import CkbP2P.Lib.Blocks
import CkbP2P.Lib.Bytes
import CkbP2P.Lib.ChaCha
import CkbP2P.Lib.Channel
import CkbP2P.Lib.Counter
import CkbP2P.Lib.Delimited
import CkbP2P.Lib.Entries
import CkbP2P.Lib.Fair
import CkbP2P.Lib.Grouping
import CkbP2P.Lib.Molecule
import CkbP2P.Lib.PackedWord
import CkbP2P.Lib.Pairs
import CkbP2P.Lib.Parser
import CkbP2P.Lib.Reader
import CkbP2P.Lib.Run
import CkbP2P.Lib.Lockstep
import CkbP2P.Lib.StagedQueue
import CkbP2P.Lib.Tally
import CkbP2P.Lib.Text
import CkbP2P.Lib.TextOrder
import CkbP2P.Lib.Total
import CkbP2P.Lib.Varint
import CkbP2P.Yamux.Frame
import CkbP2P.Yamux.FrameStream
import CkbP2P.Yamux.Stream
import CkbP2P.Yamux.StreamSpec
import CkbP2P.Yamux.Slot
import CkbP2P.Yamux.Checked
import CkbP2P.Yamux.HandleMoves
import CkbP2P.Yamux.Grammar
import CkbP2P.Yamux.Session
import CkbP2P.Yamux.Moves
import CkbP2P.Yamux.View
import CkbP2P.Yamux.Simulation
import CkbP2P.Yamux.Flow
import CkbP2P.Yamux.Network
import CkbP2P.Yamux.Delivery
import CkbP2P.Yamux.Release
import CkbP2P.Yamux.Micro
import CkbP2P.Yamux.Lives
import CkbP2P.Yamux.Distribute
import CkbP2P.Yamux.Demux
import CkbP2P.Yamux.Allocation
import CkbP2P.Yamux.KeepAlive
import CkbP2P.Multiaddr.Basic
import CkbP2P.Multiaddr.Ops
import CkbP2P.Multiaddr.Canonical
import CkbP2P.Multiaddr.Text
import CkbP2P.Multiaddr.Refinement
import CkbP2P.Multiaddr.SocketAddr
import CkbP2P.Secio.Identity
import CkbP2P.Secio.Canonical
import CkbP2P.Secio.Support
import CkbP2P.Secio.Handshake
import CkbP2P.Secio.Agreement
import CkbP2P.Secio.Transcript
import CkbP2P.Secio.Cipher
import CkbP2P.Secio.SecureStream
import CkbP2P.Secio.Procedure
import CkbP2P.Secio.SecureRead
import CkbP2P.Secio.KeyStretching
import CkbP2P.Secio.Interchange
import CkbP2P.Tentacle.Types
import CkbP2P.Tentacle.Service
import CkbP2P.Tentacle.ServiceSpec
import CkbP2P.Tentacle.Duplicates
import CkbP2P.Tentacle.SessionTable
import CkbP2P.Tentacle.SessionEvents
import CkbP2P.Tentacle.Requests
import CkbP2P.Tentacle.DialTracking
import CkbP2P.Tentacle.RequestCount
import CkbP2P.Tentacle.ListenAddresses
import CkbP2P.Tentacle.Buffer
import CkbP2P.Tentacle.PriorityMoves
import CkbP2P.Tentacle.BoundedChannel
import CkbP2P.Tentacle.ChannelRefinement
import CkbP2P.Tentacle.ChannelRuns
import CkbP2P.Tentacle.ChannelThreads
import CkbP2P.Tentacle.ChannelMessages
import CkbP2P.Tentacle.ChannelWaking
import CkbP2P.Tentacle.Substream
import CkbP2P.Tentacle.Session
import CkbP2P.Tentacle.Distribution
import CkbP2P.Tentacle.SubstreamMoves
import CkbP2P.Tentacle.Pending
import CkbP2P.Tentacle.OneSubstream
import CkbP2P.Tentacle.CloseNotify
import CkbP2P.Tentacle.ErrorReport
import CkbP2P.Tentacle.SessionMoves
import CkbP2P.Tentacle.WriteOrder
import CkbP2P.Tentacle.MessageOrder
import CkbP2P.Tentacle.ProtocolHandle
import CkbP2P.Tentacle.NotifyTimers
import CkbP2P.Tentacle.HandlerEvents
import CkbP2P.Tentacle.HandlerSystem
import CkbP2P.Tentacle.HandlerLink
import CkbP2P.Tentacle.HandlerView
import CkbP2P.Tentacle.ProtocolSelect
import CkbP2P.Tentacle.SelectVersion
import CkbP2P.Tentacle.SelectAgreement
import CkbP2P.Tentacle.SelectAnswer
import CkbP2P.Tentacle.WritePath
import CkbP2P.Tentacle.WsStream
import CkbP2P.Connector.Compress
import CkbP2P.Connector.Identify
import CkbP2P.Connector.SharedState
import CkbP2P.Connector.Tables
import CkbP2P.Connector.Lookup
import CkbP2P.Protocols.Identify
import CkbP2P.Protocols.Ping
import CkbP2P.Protocols.DiscoveryMessage
import CkbP2P.Protocols.Discovery
import CkbP2P.P2PNode.Node
import CkbP2P.P2PNode.Visibility
