import GoldenGate.Coap.BackOff
import GoldenGate.Coap.BlockwiseRuns
import GoldenGate.Coap.BlockRestarts
import GoldenGate.Coap.Download
import GoldenGate.Coap.ExtendedErrorCodec
import GoldenGate.Coap.Upload
import GoldenGate.Coap.ReentrancyRuns
import GoldenGate.Coap.RoundTrip
import GoldenGate.Coap.Splitter
import GoldenGate.Common.BitStreamRuns
import GoldenGate.Common.Base64Texts
import GoldenGate.Remote.FrameAcks
import GoldenGate.Common.LoggerReferences
import GoldenGate.Common.EventDispatch
import GoldenGate.Common.RingQueue
import GoldenGate.Diagnostics.HandleNumbers
import GoldenGate.Common.TimerRuns
import GoldenGate.Gattlink.GenericClient
import GoldenGate.Gattlink.Agreement
import GoldenGate.Protocols.Ipv4Header
import GoldenGate.Protocols.Ipv4Serializing
import GoldenGate.Protocols.Ipv4Safety
import GoldenGate.Utils.CoapEventEmitter
import GoldenGate.Loop.ProxyWakeups
import GoldenGate.Nip.Delivery
import GoldenGate.Nip.Reception
import GoldenGate.Utils.EmittedEvents
import GoldenGate.Gattlink.InboundBuffer
import GoldenGate.Gattlink.Stalls
import GoldenGate.Gattlink.SentPackets
import GoldenGate.Gattlink.SendLoop
import GoldenGate.Gattlink.Announced
import GoldenGate.Gattlink.Retransmissions
import GoldenGate.Gattlink.AckSoundness
import GoldenGate.Coap.UintEncoding
import GoldenGate.Coap.Reencoding
import GoldenGate.Protocols.Ipv4Remapping
import GoldenGate.Coap.HandlerSelection
import GoldenGate.Coap.ResponseQueue
import GoldenGate.Coap.LiveRequests
import GoldenGate.Coap.ContextLifetimes
import GoldenGate.Coap.PathSplitting
import GoldenGate.Coap.PayloadSource
import GoldenGate.Common.ConfigSources
import GoldenGate.Utils.AsyncPipe
import GoldenGate.Coap.HandlerNodes
import GoldenGate.Utils.DataProbe
import GoldenGate.Lib.Areas
import GoldenGate.Utils.ProbeSamples
import GoldenGate.Common.ProtobufCodec
import GoldenGate.Coap.BlockOptions
import GoldenGate.Utils.EventPayload
import GoldenGate.Sockets.IpAddress
import GoldenGate.Common.ReadLine
import GoldenGate.Common.LinkedLists
import GoldenGate.Common.StringOperations
import GoldenGate.Common.SharedQueue
import GoldenGate.Utils.Blasting
import GoldenGate.Services.MirrorUploads
import GoldenGate.Common.DynamicBuffer
import GoldenGate.Lib.BlockMap
import GoldenGate.Services.Shelf
import GoldenGate.Lib.Keyed
import GoldenGate.Services.ShelfMap
import GoldenGate.Services.ShelfItems
import GoldenGate.Services.ShelfRuns
import GoldenGate.Loop.Invocations
import GoldenGate.Loop.FileDescriptors
import GoldenGate.Loop.Wakeups
import GoldenGate.Gattlink.FrameDelivery
import GoldenGate.Tls.Datagrams
