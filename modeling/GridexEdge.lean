import GridexEdge.Core.ZeroFallback
import GridexEdge.RockPi.CommandMailbox
import GridexEdge.RockPi.NorthboundModbusTcpServer
import GridexEdge.RockPi.WriteSafety
import GridexEdge.RockPi.CommandFreshness
import GridexEdge.RockPi.ReplyMatching
import GridexEdge.RockPi.NodeExchange
import GridexEdge.Node.OutputReport
import GridexEdge.Node.CommandTtl
import GridexEdge.RockPi.JournalTransitions
import GridexEdge.RockPi.JournalWindow
import GridexEdge.RockPi.OperatorCommands
import GridexEdge.Node.OtaReplies
import GridexEdge.RockPi.OtaSecret
import GridexEdge.RockPi.TelemetryPassthrough
import GridexEdge.RockPi.NodePassthrough
import GridexEdge.Core.SafeProjection
import GridexEdge.Core.CapRounding
import GridexEdge.Core.TrueCause
import GridexEdge.Core.SocWindow
import GridexEdge.Node.CommandReplay
import GridexEdge.Node.Reassembly
import GridexEdge.Node.Provisioning
import GridexEdge.RockPi.PolledSlot
import GridexEdge.RockPi.QualityRead
import GridexEdge.Node.ProvisioningRuns
import GridexEdge.Node.BurstDetection
import GridexEdge.RockPi.OtaHash
import GridexEdge.RockPi.MqttHealthPublisher
import GridexEdge.RockPi.PublishedIdentity
import GridexEdge.RockPi.NodeCommandPath
import GridexEdge.Node.TypedIdentity
import GridexEdge.Node.LockedFirmware
import GridexEdge.Node.Supervision
import GridexEdge.RockPi.VendorHeartbeat
import GridexEdge.RockPi.OtaUpdate
import GridexEdge.RockPi.PublicationPace
import GridexEdge.RockPi.TelemetryPath
import GridexEdge.RockPi.JournalRecovery
import GridexEdge.RockPi.BrokerConnection
import GridexEdge.RockPi.SilentEms
import GridexEdge.RockPi.VendorWire
import GridexEdge.Node.OtaRestart
import GridexEdge.RockPi.NorthboundSessions
import GridexEdge.RockPi.ClientToCabinet
