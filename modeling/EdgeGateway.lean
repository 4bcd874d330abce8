import EdgeGateway.Lib.Scanner
import EdgeGateway.Lib.ShiftRegister
import EdgeGateway.Model.FrameParser
import EdgeGateway.Model.ModbusRtu
import EdgeGateway.Model.CanParser
import EdgeGateway.Lib.CallTree
import EdgeGateway.Model.ReliablePublisher
import EdgeGateway.Proofs.FrameStream
import EdgeGateway.Proofs.Corruption
import EdgeGateway.Proofs.SqliteRows
import EdgeGateway.Proofs.Delivery
import EdgeGateway.Proofs.Replay
import EdgeGateway.Proofs.CacheMetrics
import EdgeGateway.Proofs.CacheBackends
import EdgeGateway.Model.Gateway
import EdgeGateway.Proofs.Ledger
import EdgeGateway.Proofs.UartWorker
import EdgeGateway.Proofs.ErrorAccounting
import EdgeGateway.Proofs.ModbusWorker
import EdgeGateway.Proofs.ModbusPoll
import EdgeGateway.Proofs.OneReading
import EdgeGateway.Proofs.InvalidReadings
import EdgeGateway.Model.GatewayConfig
import EdgeGateway.Proofs.AcceptedConfigs
import EdgeGateway.Proofs.Heartbeat
import EdgeGateway.Model.TcpClient
import EdgeGateway.Proofs.TcpLines
import EdgeGateway.Lib.Threads
import EdgeGateway.Model.MqttClient
import EdgeGateway.Proofs.Acknowledgements
import EdgeGateway.Model.DeviceWorkers
import EdgeGateway.Proofs.WorkerProtocol
import EdgeGateway.Proofs.ManagerThreads
import EdgeGateway.Model.Migration
import EdgeGateway.Proofs.LegacyReaders
import EdgeGateway.Proofs.LegacyFiles
import EdgeGateway.Proofs.Migration
import EdgeGateway.Proofs.ModbusGrammar
import EdgeGateway.Proofs.ModbusLoop
import EdgeGateway.Proofs.DeviceStatuses
import EdgeGateway.Proofs.FileRewrites
import EdgeGateway.Lib.Json
import EdgeGateway.Proofs.TornAppends
import EdgeGateway.Proofs.SensorJson
import EdgeGateway.Proofs.ConfigAcceptance
import EdgeGateway.Lib.Regex
import EdgeGateway.Model.SanitizeLogs
import EdgeGateway.Proofs.SanitizedLogs
import EdgeGateway.Proofs.SanitizerLeaks
import EdgeGateway.Lib.BoundedQueue
import EdgeGateway.Proofs.RingQueue
import EdgeGateway.Lib.ReflectedRemainder
import EdgeGateway.Proofs.CrcRemainder
import EdgeGateway.Lib.Implementation
import EdgeGateway.Lib.Handles
import EdgeGateway.Model.SerialPort
import EdgeGateway.Model.Transports
import EdgeGateway.Proofs.Descriptors
import EdgeGateway.Proofs.DeviceTransports
import EdgeGateway.Model.RuntimeStatus
import EdgeGateway.Model.HttpServer
import EdgeGateway.Model.GatewayMain
import EdgeGateway.Lib.Delimited
import EdgeGateway.Lib.Http
import EdgeGateway.Lib.Exposition
import EdgeGateway.Proofs.HttpRequests
import EdgeGateway.Proofs.StatusJson
import EdgeGateway.Proofs.MetricsText
import EdgeGateway.Proofs.HttpServing
import EdgeGateway.Lib.Protocol
import EdgeGateway.Proofs.GatewayLife
import EdgeGateway.Proofs.RetryPace
import EdgeGateway.Proofs.StatusStores
import EdgeGateway.Proofs.ShownStatus
import EdgeGateway.Model.MqttSetup
import EdgeGateway.Proofs.MqttSecurity
import EdgeGateway.Lib.Locked
import EdgeGateway.Model.Logger
import EdgeGateway.Proofs.LogFile
import EdgeGateway.Lib.Linearized
import EdgeGateway.Proofs.PublisherThreads
import EdgeGateway.Model.TcpPublisher
import EdgeGateway.Proofs.TcpThreads
import EdgeGateway.Model.HttpLifecycle
import EdgeGateway.Proofs.HttpLifecycle
