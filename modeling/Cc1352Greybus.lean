import Cc1352Greybus.Lib.Crc
import Cc1352Greybus.Lib.Stuffing
import Cc1352Greybus.Lib.Memory
import Cc1352Greybus.Lib.Labels
import Cc1352Greybus.Config
import Cc1352Greybus.Hdlc.Driver
import Cc1352Greybus.Hdlc.Receiver
import Cc1352Greybus.Hdlc.RoundTrip
import Cc1352Greybus.Hdlc.RxBounds
import Cc1352Greybus.Hdlc.Fcs
import Cc1352Greybus.Greybus.Io
import Cc1352Greybus.Greybus.Socket
import Cc1352Greybus.Greybus.State
import Cc1352Greybus.Greybus.NodeCache
import Cc1352Greybus.Greybus.Apbridge
import Cc1352Greybus.Greybus.Node
import Cc1352Greybus.Greybus.Connection
import Cc1352Greybus.Lib.Run
import Cc1352Greybus.Routing.Replies
import Cc1352Greybus.Nodes.Ids
import Cc1352Greybus.Routing.Integrity
import Cc1352Greybus.Nodes.Removal
import Cc1352Greybus.Nodes.RemovedOnce
import Cc1352Greybus.Nodes.Isolation
import Cc1352Greybus.Greybus.Handlers
import Cc1352Greybus.Greybus.Main
import Cc1352Greybus.Greybus.NodeRx
import Cc1352Greybus.Greybus.System
import Cc1352Greybus.Nodes.RxLoop
import Cc1352Greybus.Bridge.ToNode
import Cc1352Greybus.Bridge.Transparency
import Cc1352Greybus.Nodes.Transport
import Cc1352Greybus.Routing.Dispatch
import Cc1352Greybus.Greybus.OperationIds
import Cc1352Greybus.Hdlc.RxRing
import Cc1352Greybus.Hdlc.Senders
import Cc1352Greybus.Heap.Tidy
import Cc1352Greybus.Heap.Handlers
import Cc1352Greybus.Heap.Receive
import Cc1352Greybus.Heap.Leaks
import Cc1352Greybus.Heap.LateReads
import Cc1352Greybus.Nodes.CacheInvariant
import Cc1352Greybus.Lib.Pool
import Cc1352Greybus.Nodes.SlabPools
import Cc1352Greybus.Nodes.Creation
import Cc1352Greybus.Nodes.DestroyAll
import Cc1352Greybus.Nodes.Discovery
import Cc1352Greybus.Routing.Connections
import Cc1352Greybus.Heap.Parsing
import Cc1352Greybus.Bridge.ToAp
import Cc1352Greybus.Routing.Requests
import Cc1352Greybus.Heap.Exhaustion
import Cc1352Greybus.Heap.Survival
import Cc1352Greybus.Mdns.Names
import Cc1352Greybus.Mdns.Walkers
import Cc1352Greybus.Mdns.RoundTrip
import Cc1352Greybus.Mdns.Query
import Cc1352Greybus.Mdns.Answer
import Cc1352Greybus.Mdns.Receive
import Cc1352Greybus.Hdlc.FailedReads
import Cc1352Greybus.Heap.StaleBytes
import Cc1352Greybus.Heap.PadBytes
import Cc1352Greybus.Routing.Correspondence
import Cc1352Greybus.Bridge.UartLink
import Cc1352Greybus.Acts.Act
import Cc1352Greybus.Acts.Step
import Cc1352Greybus.Acts.Modules
import Cc1352Greybus.Acts.Sockets
import Cc1352Greybus.Acts.Streams
import Cc1352Greybus.Acts.Blocks
import Cc1352Greybus.Acts.Book
import Cc1352Greybus.Acts.Routes
import Cc1352Greybus.Nodes.Wakeup
import Cc1352Greybus.Nodes.ConnectRace
import Cc1352Greybus.Mdns.QueryRecv
import Cc1352Greybus.Mdns.Messages
import Cc1352Greybus.Mdns.Questions
import Cc1352Greybus.Mdns.TcpDiscovery
import Cc1352Greybus.Nodes.OneNode
