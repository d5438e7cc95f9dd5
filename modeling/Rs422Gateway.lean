import Rs422Gateway.Common.Crc16
import Rs422Gateway.Common.Protocol
import Rs422Gateway.Common.Frame
import Rs422Gateway.Common.Proofs.Codec
import Rs422Gateway.Common.StreamParser
import Rs422Gateway.Common.Scanner
import Rs422Gateway.Common.Proofs.ScannerRefinement
import Rs422Gateway.Common.Proofs.HeaderResync
import Rs422Gateway.Common.FeedBranch
import Rs422Gateway.Common.Proofs.ParserInvariant
import Rs422Gateway.Common.Proofs.Framing
import Rs422Gateway.Common.Proofs.Soundness
import Rs422Gateway.Common.Proofs.Resync
import Rs422Gateway.Common.Proofs.Alignment
import Rs422Gateway.Common.Proofs.CrcPolynomial
import Rs422Gateway.Common.Proofs.ErrorDetection
import Rs422Gateway.Misc.CyclicCode
import Rs422Gateway.Misc.Transition
import Rs422Gateway.Misc.Samples
import Rs422Gateway.Misc.Relay
import Rs422Gateway.Misc.Ring
import Rs422Gateway.Misc.PeriodicTimer
import Rs422Gateway.RemoteNode.Node
import Rs422Gateway.RemoteNode.Calls
import Rs422Gateway.RemoteNode.Reference
import Rs422Gateway.RemoteNode.Wired
import Rs422Gateway.RemoteNode.Proofs.Handling
import Rs422Gateway.RemoteNode.Proofs.Replies
import Rs422Gateway.RemoteNode.Proofs.Statistics
import Rs422Gateway.RemoteNode.Proofs.ReplyLaw
import Rs422Gateway.RemoteNode.Proofs.Interference
import Rs422Gateway.RemoteNode.Proofs.PeriodicLaw
import Rs422Gateway.RemoteNode.Port
import Rs422Gateway.RemoteNode.Proofs.Port
import Rs422Gateway.Gateway.Health
import Rs422Gateway.Gateway.Proofs.NoFalseTimeout
import Rs422Gateway.Gateway.Proofs.NoFalseRecovery
import Rs422Gateway.Gateway.HealthTrace
import Rs422Gateway.Gateway.Proofs.HealthStates
import Rs422Gateway.Gateway.State
import Rs422Gateway.Gateway.Rs422Task
import Rs422Gateway.Gateway.EthernetTask
import Rs422Gateway.Gateway.Proofs.Moves
import Rs422Gateway.Gateway.Proofs.Tracing
import Rs422Gateway.Gateway.Proofs.SessionIsolation
import Rs422Gateway.Gateway.Proofs.Pipelining
import Rs422Gateway.Gateway.Proofs.Parsing
import Rs422Gateway.Gateway.Proofs.Relaying
import Rs422Gateway.Gateway.Proofs.Conservation
import Rs422Gateway.Gateway.Proofs.Serving
import Rs422Gateway.Gateway.TcpReceive
import Rs422Gateway.Gateway.Proofs.ExactlyOnce
import Rs422Gateway.Gateway.Uart
import Rs422Gateway.Gateway.Proofs.TxOwnership
import Rs422Gateway.Gateway.Proofs.Wakeups
import Rs422Gateway.Gateway.Proofs.BusyRefusals
import Rs422Gateway.Gateway.SlotTrace
import Rs422Gateway.Gateway.Proofs.PongMatching
import Rs422Gateway.Gateway.RxRing
import Rs422Gateway.Gateway.Proofs.RxRing
import Rs422Gateway.Gateway.UdpSend
import Rs422Gateway.Gateway.Proofs.UdpSend
import Rs422Gateway.Gateway.TcpServer
import Rs422Gateway.Gateway.Proofs.ServerMoves
import Rs422Gateway.Gateway.Proofs.ConnectionIsolation
import Rs422Gateway.Gateway.Proofs.LinkRecovery
import Rs422Gateway.Gateway.Proofs.HealthyConnection
import Rs422Gateway.Gateway.Deadlines
import Rs422Gateway.Gateway.Proofs.Deadlines
import Rs422Gateway.Gateway.EthernetDiag
import Rs422Gateway.Gateway.Proofs.EthernetDiag
import Rs422Gateway.Host.UdpClient
import Rs422Gateway.Host.Proofs.UdpClient
import Rs422Gateway.System.LockStep
import Rs422Gateway.System.Proofs.Flight
import Rs422Gateway.System.Proofs.EndToEnd
import Rs422Gateway.System.Telemetry
import Rs422Gateway.System.Proofs.Telemetry
import Rs422Gateway.System.Proofs.TelemetryReport
import Rs422Gateway.Host.TcpClient
import Rs422Gateway.System.TcpClient
import Rs422Gateway.System.Proofs.TcpClient
import Rs422Gateway.Gateway.TcpSend
import Rs422Gateway.Gateway.Proofs.TcpSend
import Rs422Gateway.Gateway.W5500
import Rs422Gateway.Gateway.Proofs.W5500
import Rs422Gateway.Gateway.Proofs.W5500Bus
import Rs422Gateway.Gateway.Proofs.W5500Config
import Rs422Gateway.Host.RecoveryClient
import Rs422Gateway.Host.Proofs.FindPong
import Rs422Gateway.Host.Proofs.RecoveryClient
import Rs422Gateway.Host.TcpSession
import Rs422Gateway.Host.Proofs.TcpSession
import Rs422Gateway.Gateway.Bringup
import Rs422Gateway.Gateway.Proofs.Bringup
import Rs422Gateway.Gateway.Proofs.BringupReport
