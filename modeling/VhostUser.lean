import VhostUser.Lib.Trace
import VhostUser.Lib.Bytes
import VhostUser.Lib.Scatter
import VhostUser.Lib.EState
import VhostUser.Lib.Indices
import VhostUser.Lib.Segments
import VhostUser.Lib.Buffer
import VhostUser.Lib.Consume
import VhostUser.Lib.Progress
import VhostUser.Message
import VhostUser.Connection
import VhostUser.Transmission
import VhostUser.Request
import VhostUser.BackendReqHandler
import VhostUser.Dispatch
import VhostUser.Grammar
import VhostUser.FrontendReqHandler
import VhostUser.Bounds
import VhostUser.WellFormed
import VhostUser.Segmentation
import VhostUser.Stream
import VhostUser.RequestLoop
import VhostUser.Daemon
import VhostUser.Frontend
import VhostUser.Exchange
import VhostUser.Transparency
import VhostUser.BackendReq
import VhostUser.GpuBackendReq
import VhostUser.Framing
import VhostUser.Replies
import VhostUser.Lockstep
import VhostUser.Session
import VhostUser.Results
import VhostUser.BackChannel
import VhostUser.Gating
import VhostUser.ReplyFraming
import VhostUser.ConfigRead
import VhostUser.VringFd
import VhostUser.Bitmap
import VhostUser.Marks
import VhostUser.Vring
import VhostUser.Handler
import VhostUser.Memory
import VhostUser.MemTable
import VhostUser.DirtyLog
import VhostUser.LogBase
import VhostUser.Translation
import VhostUser.Registration
import VhostUser.RingStates
import VhostUser.RingConfig
import VhostUser.Reset
import VhostUser.Negotiation
import VhostUser.Device
import VhostUser.DeviceSpec
import VhostUser.EventLoop
import VhostUser.Interleaving
import VhostUser.Routing
import VhostUser.Shutdown
import VhostUser.Service
import VhostUser.Listeners
import VhostUser.QueueIndex
import VhostUser.VhostKern
import VhostUser.VhostMemory
import VhostUser.Iotlb
