import LiveMediaExt.Execution
import LiveMediaExt.MediaSample
import LiveMediaExt.SampleBuffer
import LiveMediaExt.NalUnits
import LiveMediaExt.DeviceSource
import LiveMediaExt.FrameRetrieval
import LiveMediaExt.FrameDelivery
import LiveMediaExt.MediaSubsession
import LiveMediaExt.SubsessionStreams
import LiveMediaExt.SubsessionRequests
import LiveMediaExt.IdrGate
import LiveMediaExt.NestedMap
import LiveMediaExt.SourceScheduler
import LiveMediaExt.RtspServer
import LiveMediaExt.SessionCreation
import LiveMediaExt.SessionRemoval
import LiveMediaExt.RtspService
import LiveMediaExt.ChannelRequests
import LiveMediaExt.ChannelSessions
import LiveMediaExt.SessionCorrespondence
import LiveMediaExt.ServiceLifecycle
import LiveMediaExt.ByteOrder
import LiveMediaExt.MultiplexedHeader
import LiveMediaExt.PayloadBytes
import LiveMediaExt.MultiSampleBuffer
import LiveMediaExt.AmrHeaders
import LiveMediaExt.RejectedSamples
import LiveMediaExt.BoundedQueue
import LiveMediaExt.PacketManager
import LiveMediaExt.SwitchController
import LiveMediaExt.ClientAdmission
import LiveMediaExt.LiveSourcePolling
import LiveMediaExt.Delimiters
import LiveMediaExt.ChannelCapacities
import LiveMediaExt.PayloadSplitting
import LiveMediaExt.MergedQueue
import LiveMediaExt.PresentationTimes
import LiveMediaExt.PollingFairness
import LiveMediaExt.BitrateLimits
import LiveMediaExt.DeliveryContract
import LiveMediaExt.MergedOrder
import LiveMediaExt.NormalisedTimes
import LiveMediaExt.AmrPackets
import LiveMediaExt.AmrRetrieval
import LiveMediaExt.RateAdaptation
import LiveMediaExt.Base64
import LiveMediaExt.H264SdpLine
import LiveMediaExt.ClientKicking
import LiveMediaExt.CachedBitrates
import LiveMediaExt.SingleChannelManager
import LiveMediaExt.ClientStreams
import LiveMediaExt.EventLoopTurn
import LiveMediaExt.TurnFaults
import LiveMediaExt.ServerPipeline
import LiveMediaExt.PacedDeliveries
import LiveMediaExt.SeparateQueues
import LiveMediaExt.DeadlineTimer
import LiveMediaExt.MergedStreams
import LiveMediaExt.VirtualMediaSource
import LiveMediaExt.VirtualStreams
import LiveMediaExt.BouncingCounter
import LiveMediaExt.ReceiverReports
import LiveMediaExt.ReportIsolation
import LiveMediaExt.AdviceBalance
import LiveMediaExt.Ladders
import LiveMediaExt.SwitchLadder
import LiveMediaExt.AmrTransport
import LiveMediaExt.CanonicalHeaders
import LiveMediaExt.ServerDestruction
import LiveMediaExt.Lockstep
import LiveMediaExt.SdpParameters
import LiveMediaExt.SwitchableStreams
