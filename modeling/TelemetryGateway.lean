import TelemetryGateway.Foundation.Execution
import TelemetryGateway.Foundation.Unwinding
import TelemetryGateway.Foundation.Buffer
import TelemetryGateway.Foundation.Pieces
import TelemetryGateway.Foundation.Units
import TelemetryGateway.Foundation.LittleEndian
import TelemetryGateway.Foundation.NumberedStream
import TelemetryGateway.Foundation.Ranges
import TelemetryGateway.Foundation.Successive
import TelemetryGateway.Foundation.EveryOther
import TelemetryGateway.Foundation.CheckedDifference
import TelemetryGateway.Foundation.CheckedSum
import TelemetryGateway.Foundation.RecordFile
import TelemetryGateway.Foundation.DropOldest
import TelemetryGateway.Foundation.Expiry
import TelemetryGateway.Foundation.Window
import TelemetryGateway.Frame
import TelemetryGateway.Wire.Codec
import TelemetryGateway.Wire.RoundTrip
import TelemetryGateway.Wire.Language
import TelemetryGateway.Wire.Message
import TelemetryGateway.Ring.Cells
import TelemetryGateway.Ring.Capacity
import TelemetryGateway.Ring.BroadcastRing
import TelemetryGateway.Ring.CoreInvariant
import TelemetryGateway.Ring.CoreSteps
import TelemetryGateway.Ring.Reading
import TelemetryGateway.Ring.ReadSafety
import TelemetryGateway.Ring.Progress
import TelemetryGateway.Ring.IdlePath
import TelemetryGateway.Ring.QuietReading
import TelemetryGateway.Ring.Stall
import TelemetryGateway.Ring.LonePublish
import TelemetryGateway.Ring.Bystanders
import TelemetryGateway.Measure.Samples
import TelemetryGateway.Measure.Clock
import TelemetryGateway.Measure.Decimation
import TelemetryGateway.Measure.Percentiles
import TelemetryGateway.Egress.Egress
import TelemetryGateway.Egress.Run
import TelemetryGateway.Egress.Effects
import TelemetryGateway.Egress.Framing
import TelemetryGateway.Egress.Delivery
import TelemetryGateway.Egress.Continuity
import TelemetryGateway.Egress.Echo
import TelemetryGateway.Egress.Samples
import TelemetryGateway.Egress.Reports
import TelemetryGateway.Egress.Markers
import TelemetryGateway.Egress.ReplyBuffer
import TelemetryGateway.Egress.Replies
import TelemetryGateway.Egress.Willing
import TelemetryGateway.Consumer.FrameStream
import TelemetryGateway.Consumer.Reassembly
import TelemetryGateway.Consumer.GapTracker
import TelemetryGateway.Consumer.SendBack
import TelemetryGateway.Consumer.Coverage
import TelemetryGateway.Consumer.Cadence
import TelemetryGateway.Consumer.CadenceRule
import TelemetryGateway.Consumer.GapAwareness
import TelemetryGateway.Consumer.CadenceMain
import TelemetryGateway.Consumer.ParseCapture
import TelemetryGateway.Consumer.Recorder
import TelemetryGateway.Consumer.CaptureAgreement
import TelemetryGateway.Feed.BoundedQueue
import TelemetryGateway.Feed.CanSource
import TelemetryGateway.Feed.SyntheticSource
import TelemetryGateway.Feed.FanOut
import TelemetryGateway.Feed.FanOutThread
import TelemetryGateway.Feed.FanOutShutdown
import TelemetryGateway.Feed.Overwrites
import TelemetryGateway.Feed.QueueWindow
import TelemetryGateway.Feed.RingFeed
import TelemetryGateway.Feed.RingClosing
import TelemetryGateway.Feed.BusRecords
import TelemetryGateway.Gateway.QueueTopology
import TelemetryGateway.Gateway.RingTopology
import TelemetryGateway.Gateway.Holes
import TelemetryGateway.Gateway.Ledgers
import TelemetryGateway.Gateway.GapReasons
import TelemetryGateway.Gateway.RingConsumer
import TelemetryGateway.Gateway.RingIngest
import TelemetryGateway.Gateway.SourceOrder
import TelemetryGateway.Gateway.IngestShutdown
import TelemetryGateway.Gateway.LoneConsumer
import TelemetryGateway.Gateway.RingWindow
import TelemetryGateway.Gateway.Interchangeable
import TelemetryGateway.Gateway.FeedStatistics
import TelemetryGateway.Gateway.QueueGateway
import TelemetryGateway.Gateway.RingGateway
import TelemetryGateway.Gateway.Isolation
import TelemetryGateway.Gateway.QueueShutdown
import TelemetryGateway.Gateway.RingShutdown
import TelemetryGateway.Gateway.Shutdown
import TelemetryGateway.View.RollingLatency
import TelemetryGateway.View.Http
import TelemetryGateway.View.Requests
import TelemetryGateway.Foundation.Linearizability
import TelemetryGateway.Feed.QueueThreads
import TelemetryGateway.Feed.QueueLinearizability
import TelemetryGateway.Feed.QueueWakeups
import TelemetryGateway.Feed.QueueCounters
import TelemetryGateway.Foundation.Json
import TelemetryGateway.Foundation.SortedMap
import TelemetryGateway.View.Page
import TelemetryGateway.View.PageHistory
import TelemetryGateway.View.PageRate
import TelemetryGateway.View.Stats
import TelemetryGateway.View.StatsOfRun
import TelemetryGateway.Foundation.HttpMessage
import TelemetryGateway.View.Reply
import TelemetryGateway.View.Server
import TelemetryGateway.Foundation.Handles
import TelemetryGateway.Foundation.Processes
import TelemetryGateway.Main.SystemCalls
import TelemetryGateway.Main.Startup
import TelemetryGateway.Main.StartupSafety
import TelemetryGateway.Main.EgressThread
import TelemetryGateway.Main.Gateway
import TelemetryGateway.Main.GatewaySafety
import TelemetryGateway.Main.View
import TelemetryGateway.Main.ViewSafety
import TelemetryGateway.Measure.Generator
import TelemetryGateway.Consumer.Probe
import TelemetryGateway.Gateway.Decodable
import TelemetryGateway.Consumer.SendTimes
import TelemetryGateway.Gateway.ProbeVerdict
