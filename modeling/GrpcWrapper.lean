import GrpcWrapper.Client.CallbackDeadlock
import GrpcWrapper.Client.ClientThreads
import GrpcWrapper.Client.ConnectionTrace
import GrpcWrapper.Client.Disconnect
import GrpcWrapper.Client.GrpcClient
import GrpcWrapper.Client.GrpcClientStream
import GrpcWrapper.Client.KillReturns
import GrpcWrapper.Client.Sections
import GrpcWrapper.Client.Stage
import GrpcWrapper.Client.StreamCallbacks
import GrpcWrapper.Client.StreamLifecycle
import GrpcWrapper.Client.StreamStates
import GrpcWrapper.Client.StreamUpdates
import GrpcWrapper.Client.StubSafety
import GrpcWrapper.Client.ThreadSteps
import GrpcWrapper.Client.WatchDiscipline
import GrpcWrapper.Example.Clock
import GrpcWrapper.Example.ExampleClient
import GrpcWrapper.Example.ExampleReturns
import GrpcWrapper.Example.ExampleServer
import GrpcWrapper.Library.Broadcast
import GrpcWrapper.Library.Changes
import GrpcWrapper.Library.Channel
import GrpcWrapper.Library.Decimal
import GrpcWrapper.Library.Keyed
import GrpcWrapper.Library.Map
import GrpcWrapper.Library.Monitor
import GrpcWrapper.Library.Progress
import GrpcWrapper.Library.Registry
import GrpcWrapper.Library.SoleCaller
import GrpcWrapper.Library.Transition
import GrpcWrapper.NewArch.AsyncReturns
import GrpcWrapper.NewArch.AsyncServer
import GrpcWrapper.NewArch.AsyncTeardown
import GrpcWrapper.NewArch.Client
import GrpcWrapper.NewArch.ClientReturns
import GrpcWrapper.NewArch.ExampleClient
import GrpcWrapper.NewArch.HandlerOwnership
import GrpcWrapper.NewArch.Tagger
import GrpcWrapper.Server.AcceptDiscipline
import GrpcWrapper.Server.GrpcAsyncServer
import GrpcWrapper.Server.HostedServer
import GrpcWrapper.Server.NonStreamActivation
import GrpcWrapper.Server.NonStreamAsserts
import GrpcWrapper.Server.NonStreamReplies
import GrpcWrapper.Server.NonStreamRpcHandler
import GrpcWrapper.Server.ServerReturns
import GrpcWrapper.Server.SoleWriter
import GrpcWrapper.Server.StreamArrivals
import GrpcWrapper.Server.StreamBroadcast
import GrpcWrapper.Server.StreamCalls
import GrpcWrapper.Server.StreamConnect
import GrpcWrapper.Server.StreamDeletion
import GrpcWrapper.Server.StreamDone
import GrpcWrapper.Server.StreamDrain
import GrpcWrapper.Server.StreamFinish
import GrpcWrapper.Server.StreamHandles
import GrpcWrapper.Server.StreamInFlight
import GrpcWrapper.Server.StreamInvariant
import GrpcWrapper.Server.StreamRpcHandler
import GrpcWrapper.Server.StreamSend
import GrpcWrapper.Server.StreamWakeup
import GrpcWrapper.Server.Tag
import GrpcWrapper.Server.Teardown
import GrpcWrapper.System.Agreement
import GrpcWrapper.System.Delivery
import GrpcWrapper.System.Streaming
import GrpcWrapper.Util.BlockingQueue
import GrpcWrapper.Util.QueueHistory
import GrpcWrapper.Util.QueueReads
import GrpcWrapper.Util.QueueWakeup
