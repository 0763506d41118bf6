import RbctlDsl.Lib.Program
import RbctlDsl.Lib.Method
import RbctlDsl.Lib.Bytes
import RbctlDsl.Lib.Crc
import RbctlDsl.Proto.Wire
import RbctlDsl.Proto.Checksum
import RbctlDsl.Proto.Frame
import RbctlDsl.Proto.Pack
import RbctlDsl.Proto.Firmware
import RbctlDsl.Proto.Validate
import RbctlDsl.Proto.FrameBounds
import RbctlDsl.Proto.Unpack
import RbctlDsl.Lib.Interp
import RbctlDsl.Dsl.Request
import RbctlDsl.Dsl.Board
import RbctlDsl.Dsl.Upgrade
import RbctlDsl.Dsl.StreamCoverage
import RbctlDsl.Dsl.FrameCapacity
import RbctlDsl.Dsl.StatusDecoding
import RbctlDsl.Dsl.UpgradeSuccess
import RbctlDsl.Dsl.Session
import RbctlDsl.Proto.Descriptor
import RbctlDsl.Dsl.WireLayout
import RbctlDsl.Dsl.UciCfg
import RbctlDsl.Dsl.BoardWorker
import RbctlDsl.Lib.Heads
import RbctlDsl.Dsl.LineCommands
import RbctlDsl.Dsl.ReloadConvergence
import RbctlDsl.Dsl.Daemon
import RbctlDsl.Dsl.TransportVlan
import RbctlDsl.Dsl.ValidatedConfigs
import RbctlDsl.Lib.Phases
import RbctlDsl.Lib.Threads
import RbctlDsl.Dsl.FirmwareIpc
import RbctlDsl.Dsl.UpgradeJobs
import RbctlDsl.Dsl.MainPhases
import RbctlDsl.Dsl.Process
import RbctlDsl.Dsl.UpgradeSlot
import RbctlDsl.Dsl.UpgradeExclusivity
import RbctlDsl.Proto.RoundTrip
import RbctlDsl.Lib.CrcErrors
import RbctlDsl.Proto.BoardChecksum
import RbctlDsl.Proto.Corruption
import RbctlDsl.Dsl.UpgradeDialogue
import RbctlDsl.Fwextract.Container
import RbctlDsl.Fwextract.Split
import RbctlDsl.Dsl.LineWatch
import RbctlDsl.Dsl.FinalDown
import RbctlDsl.Dsl.UpgradeWindow
import RbctlDsl.Dsl.TcLayer
import RbctlDsl.Dsl.LineProcess
import RbctlDsl.Dsl.UbusObj
import RbctlDsl.Dsl.LiveStatus
import RbctlDsl.Dsl.DataPlane
import RbctlDsl.Dsl.RequestTrace
import RbctlDsl.Dsl.RequestNoise
import RbctlDsl.Dsl.EchoTransparency
import RbctlDsl.Dsl.StreamTrace
import RbctlDsl.Dsl.StreamArithmetic
import RbctlDsl.Dsl.UpgradeTrace
import RbctlDsl.Dsl.UpgradeSettings
import RbctlDsl.Dsl.StreamTiling
import RbctlDsl.Dsl.LineEvents
import RbctlDsl.Dsl.EffectiveTimeout
import RbctlDsl.Dsl.UciResolution
import RbctlDsl.Dsl.StatusReaders
import RbctlDsl.Lib.Decimal
import RbctlDsl.Lib.KeyValue
import RbctlDsl.Dsl.StatusText
import RbctlDsl.Lib.Framing
import RbctlDsl.Dsl.UbusTransport
import RbctlDsl.Dsl.UbusReceive
import RbctlDsl.Dsl.UbusSend
import RbctlDsl.Fwextract.Chunks
import RbctlDsl.Lib.NatBytes
import RbctlDsl.Fwextract.KeyExtraction
import RbctlDsl.Fwextract.KeyTotality
import RbctlDsl.Fwextract.SaltRecovery
import RbctlDsl.Lib.BlockChain
import RbctlDsl.Fwextract.CbcDecrypt
import RbctlDsl.Lib.Layout
import RbctlDsl.Proto.ReplyLayout
import RbctlDsl.Proto.Reference
import RbctlDsl.Dsl.ToneGrammar
import RbctlDsl.Lib.Forest
import RbctlDsl.Netlink.Attr
import RbctlDsl.Netlink.Nesting
import RbctlDsl.Netlink.NestRoundTrip
import RbctlDsl.Netlink.TypedAttr
import RbctlDsl.Netlink.Lenient
import RbctlDsl.Netlink.Requests
import RbctlDsl.Lib.Channel
import RbctlDsl.Dsl.CommandDelivery
import RbctlDsl.Dsl.RelayPhases
import RbctlDsl.Dsl.ReportPhases
import RbctlDsl.Dsl.UpgradeDelivery
import RbctlDsl.Lib.Chronicle
import RbctlDsl.Dsl.BoardDialogue
import RbctlDsl.Lib.Spacing
import RbctlDsl.Dsl.PollClock
import RbctlDsl.Dsl.PollPace
import RbctlDsl.Lib.World
import RbctlDsl.Dsl.HostLinks
import RbctlDsl.Dsl.HostRun
import RbctlDsl.Lib.WorldInterp
import RbctlDsl.Dsl.WireLinks
import RbctlDsl.Dsl.Selftest
import RbctlDsl.Dsl.SelftestHost
import RbctlDsl.Dsl.ControlCommands
import RbctlDsl.Dsl.Pcap
import RbctlDsl.Lib.Bpf
import RbctlDsl.Dsl.RawSocket
import RbctlDsl.Lib.LastWins
import RbctlDsl.Fwextract.CommandLine
import RbctlDsl.Fwextract.Cli
import RbctlDsl.Fwextract.Release
import RbctlDsl.Fwextract.DecryptScript
