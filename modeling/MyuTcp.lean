import MyuTcp.Library.TransitionSystem
import MyuTcp.Library.OrderedMap
import MyuTcp.Library.Lookups
import MyuTcp.Library.SequenceSpace
import MyuTcp.Library.OnesComplement
import MyuTcp.Library.BoundedFifo
import MyuTcp.Core.RingBuffer
import MyuTcp.Properties.RingRefinement
import MyuTcp.Properties.PeekRange
import MyuTcp.Core.Segment
import MyuTcp.Network.TimerManager
import MyuTcp.Network.TimerHandles
import MyuTcp.Properties.TimerTracking
import MyuTcp.Core.Effects
import MyuTcp.Core.Run
import MyuTcp.Core.IdleSession
import MyuTcp.Core.Transmission
import MyuTcp.Core.Timers
import MyuTcp.Properties.SendLimits
import MyuTcp.Properties.FastRetransmit
import MyuTcp.Properties.Destinations
import MyuTcp.Properties.CongestionWindow
import MyuTcp.Properties.AckedTimers
import MyuTcp.Properties.OpenWindow
import MyuTcp.Core.StateMachine
import MyuTcp.Properties.ActiveClose
import MyuTcp.Properties.ClosedSession
import MyuTcp.Core.Stack
import MyuTcp.Properties.CorruptedDatagrams
import MyuTcp.Properties.ChecksumDetection
import MyuTcp.Properties.Demultiplexing
import MyuTcp.Core.Emissions
import MyuTcp.Properties.CloseNotification
import MyuTcp.Properties.EmittedChecksums
import MyuTcp.Core.Connection
import MyuTcp.Properties.Handshake
import MyuTcp.Properties.SimultaneousOpen
import MyuTcp.Core.Replies
import MyuTcp.Library.Termination
import MyuTcp.Properties.Quiescence
import MyuTcp.Properties.GuardedSegments
import MyuTcp.Core.Reassembly
import MyuTcp.Library.ReceivedPrefix
import MyuTcp.Properties.ReassemblyLoop
import MyuTcp.Properties.ReassemblyOrder
import MyuTcp.Properties.MultiplicativeDecrease
import MyuTcp.Core.Receiving
import MyuTcp.Properties.AcknowledgedBytes
import MyuTcp.Properties.AdvertisedWindow
import MyuTcp.Properties.ReceiveEdge
import MyuTcp.Core.OneConnection
import MyuTcp.Core.Deliveries
import MyuTcp.Properties.PassiveClose
import MyuTcp.Properties.FinAcknowledgment
import MyuTcp.Properties.Reacknowledgment
import MyuTcp.Core.ReadyQueue
import MyuTcp.Properties.QueuedSessions
import MyuTcp.Properties.ResetExchange
import MyuTcp.Properties.WakeUps
import MyuTcp.Core.Sender
import MyuTcp.Core.Receiver
import MyuTcp.Properties.SendAlignment
import MyuTcp.Properties.StreamSafety
import MyuTcp.Properties.EndOfStream
import MyuTcp.Properties.SequenceAccounting
import MyuTcp.Properties.RetransmissionLimit
import MyuTcp.Core.Attempts
import MyuTcp.Properties.InflightMirror
import MyuTcp.Core.FlightTimers
import MyuTcp.Properties.InitialNumbers
import MyuTcp.Core.Hosts
import MyuTcp.Properties.HostStreams
import MyuTcp.Core.Transfer
import MyuTcp.Properties.Phases
import MyuTcp.Properties.WholeConnection
import MyuTcp.Core.StackSessions
import MyuTcp.Properties.DebugBuild
import MyuTcp.Properties.EmittedDatagrams
import MyuTcp.Properties.SessionIsolation
import MyuTcp.Properties.Lifecycle
import MyuTcp.Core.RegisteredTimers
import MyuTcp.Library.Pieces
import MyuTcp.Core.Segmentation
import MyuTcp.Properties.LostSegments
import MyuTcp.Properties.Recovery
import MyuTcp.Core.Network
import MyuTcp.Properties.ServedPeers
import MyuTcp.Properties.ServerStreams
