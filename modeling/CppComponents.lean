import CppComponents.Transition
import CppComponents.Executor.Model
import CppComponents.Executor.Wakeup
import CppComponents.Executor.Stopping
import CppComponents.Executor.Bounds
import CppComponents.Executor.Lifecycle
import CppComponents.Executor.Starting
import CppComponents.Executor.Callbacks
import CppComponents.Executor.Control
import CppComponents.Executor.Joining
import CppComponents.Executor.Ending
import CppComponents.Executor.Progress
import CppComponents.Executor.Refinement
import CppComponents.FixedRingBuffer
import CppComponents.FixedRingBuffer.Refinement
import CppComponents.FlatStaticBuffer
import CppComponents.ErrorCode
import CppComponents.SteadyTimer
import CppComponents.Timer
import CppComponents.IoContext
import CppComponents.TcpSocket
import CppComponents.Pending
import CppComponents.Tokens
import CppComponents.Uri
import CppComponents.KeyedList
import CppComponents.Allocations
import CppComponents.TimeLimit
import CppComponents.SignedInt
import CppComponents.Outbox
import CppComponents.SecureWebSocketClient.Model
import CppComponents.SecureWebSocketClient.Frame
import CppComponents.SecureWebSocketClient.Connecting
import CppComponents.SecureWebSocketClient.Writes
import CppComponents.SecureWebSocketClient.WriteQueue
import CppComponents.SecureWebSocketClient.Capacity
import CppComponents.SecureWebSocketClient.Attempts
import CppComponents.SecureWebSocketClient.Target
import CppComponents.SecureWebSocketClient.Streams
import CppComponents.SecureWebSocketClient.Disconnects
import CppComponents.SecureWebSocketClient.Timers
import CppComponents.SecureWebSocketClient.PingTimer
import CppComponents.SecureWebSocketClient.ReadTimeout
import CppComponents.SecureWebSocketClient.Reading
import CppComponents.SecureWebSocketClient.TimerRange
import CppComponents.SecureWebSocketClient.Draining
import CppComponents.ReconnectingSecureWebSocketClient.Model
import CppComponents.ReconnectingSecureWebSocketClient.Sessions
import CppComponents.ReconnectingSecureWebSocketClient.Separation
import CppComponents.ReconnectingSecureWebSocketClient.Lockstep
import CppComponents.ReconnectingSecureWebSocketClient.NeverStuck
import CppComponents.ReconnectingSecureWebSocketClient.ReadyOnce
import CppComponents.ReconnectingSecureWebSocketClient.Backoff
import CppComponents.ReconnectingSecureWebSocketClient.Doubling
import CppComponents.ReconnectingSecureWebSocketClient.Disconnects
import CppComponents.HttpsClientAsync.Model
import CppComponents.HttpsClientAsync.Requests
import CppComponents.HttpsClientAsync.Storage
import CppComponents.HttpsClientAsync.Deadlines
import CppComponents.HttpsClientAsync.Draining
import CppComponents.HttpsMultiplexClient.Model
import CppComponents.HttpsMultiplexClient.Frame
import CppComponents.HttpsMultiplexClient.Records
import CppComponents.HttpsMultiplexClient.Requests
import CppComponents.HttpsMultiplexClient.PendingCount
import CppComponents.HttpsMultiplexClient.Headers
import CppComponents.HttpsMultiplexClient.Url
import CppComponents.HttpsMultiplexClient.Options
import CppComponents.HttpsMultiplexClient.Io
import CppComponents.HttpsMultiplexClient.Pointers
import CppComponents.HttpsMultiplexClient.Sockets
import CppComponents.HttpsMultiplexClient.Watches
import CppComponents.HttpsMultiplexClient.Events
import CppComponents.HttpsClientAsync.Headers
