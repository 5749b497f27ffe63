import SilverwareTx.Blackbox.CleanShutdown
import SilverwareTx.Blackbox.Compression
import SilverwareTx.Blackbox.DamagedFiles
import SilverwareTx.Blackbox.Inspector
import SilverwareTx.Blackbox.Quota
import SilverwareTx.Blackbox.QuotaInvariant
import SilverwareTx.Blackbox.QuotaOrder
import SilverwareTx.Blackbox.RawLog
import SilverwareTx.Blackbox.Recorder
import SilverwareTx.Blackbox.Sbb
import SilverwareTx.Blackbox.SessionInvariant
import SilverwareTx.Blackbox.SessionLocks
import SilverwareTx.Blackbox.Sessions
import SilverwareTx.Blackbox.TornTail
import SilverwareTx.Blackbox.WriterFiles
import SilverwareTx.Blackbox.WriterLoop
import SilverwareTx.Blackbox.WrittenSession
import SilverwareTx.Config
import SilverwareTx.ControlLoop.Arming
import SilverwareTx.ControlLoop.AuxPersistence
import SilverwareTx.ControlLoop.Binding
import SilverwareTx.ControlLoop.Cycle
import SilverwareTx.ControlLoop.Feedback
import SilverwareTx.ControlLoop.GestureEdges
import SilverwareTx.ControlLoop.PacketSafety
import SilverwareTx.ControlLoop.RadioBus
import SilverwareTx.ControlLoop.RadioFault
import SilverwareTx.ControlLoop.Run
import SilverwareTx.Gamepad.ArduinoPlatform
import SilverwareTx.Gamepad.ControlMapping
import SilverwareTx.Gamepad.GamepadManager
import SilverwareTx.Gamepad.LiveReports
import SilverwareTx.Gamepad.ThrottleMapping
import SilverwareTx.GroundStation.BridgeFrame
import SilverwareTx.GroundStation.Canvas
import SilverwareTx.GroundStation.Dashboard
import SilverwareTx.GroundStation.DashboardHeader
import SilverwareTx.GroundStation.DashboardPanels
import SilverwareTx.GroundStation.DashboardRows
import SilverwareTx.GroundStation.FcTelemetry
import SilverwareTx.GroundStation.FlightEvents
import SilverwareTx.GroundStation.HealthEvents
import SilverwareTx.GroundStation.RebootIsolation
import SilverwareTx.GroundStation.SerialPorts
import SilverwareTx.GroundStation.TelemetryModel
import SilverwareTx.GroundStation.TerminalRenderer
import SilverwareTx.GroundStation.Viewer
import SilverwareTx.GroundStation.ViewerDecoding
import SilverwareTx.GroundStation.ViewerLoop
import SilverwareTx.GroundStation.ViewerPace
import SilverwareTx.GroundStation.ViewerReplay
import SilverwareTx.GroundStation.Visualizer
import SilverwareTx.Lib.Ansi
import SilverwareTx.Lib.BigEndian
import SilverwareTx.Lib.ChangeLog
import SilverwareTx.Lib.Cobs
import SilverwareTx.Lib.Crc
import SilverwareTx.Lib.CsvText
import SilverwareTx.Lib.CsvWriter
import SilverwareTx.Lib.DelimitedStream
import SilverwareTx.Lib.Double
import SilverwareTx.Lib.Edges
import SilverwareTx.Lib.GuardedReading
import SilverwareTx.Lib.InputRun
import SilverwareTx.Lib.LastWrite
import SilverwareTx.Lib.LineWalk
import SilverwareTx.Lib.LossyStream
import SilverwareTx.Lib.MsbBits
import SilverwareTx.Lib.NumberText
import SilverwareTx.Lib.PruneUntil
import SilverwareTx.Lib.Raising
import SilverwareTx.Lib.RateLimiter
import SilverwareTx.Lib.RecordLog
import SilverwareTx.Lib.ResponseCurve
import SilverwareTx.Lib.Sampling
import SilverwareTx.Lib.SequenceGaps
import SilverwareTx.Lib.SpiBus
import SilverwareTx.Lib.TerminalGrid
import SilverwareTx.Lib.TextLines
import SilverwareTx.Lib.TextWrap
import SilverwareTx.Lib.Transitions
import SilverwareTx.Link.BridgeFormat
import SilverwareTx.Link.BurstDetection
import SilverwareTx.Link.CanonicalFrames
import SilverwareTx.Link.CobsRoundTrip
import SilverwareTx.Link.DecoderAgreement
import SilverwareTx.Link.EndToEnd
import SilverwareTx.Link.FirmwareCodec
import SilverwareTx.Link.LossAccounting
import SilverwareTx.Link.RoundTrip
import SilverwareTx.Link.SavedConfigOverlay
import SilverwareTx.Link.SequenceLosses
import SilverwareTx.Link.TelemetryAgreement
import SilverwareTx.Radio.Bayang
import SilverwareTx.Radio.ControlPacket
import SilverwareTx.Radio.GestureWaveform
import SilverwareTx.Radio.NfeSilverwareProfile
import SilverwareTx.Radio.Nrf24
import SilverwareTx.Radio.Xn297
import SilverwareTx.Radio.Xn297Emulation
import SilverwareTx.Safety.Failsafe
import SilverwareTx.Safety.PrearmGuard
import SilverwareTx.Storage.Settings
import SilverwareTx.Telemetry.ExtendedPages
import SilverwareTx.Telemetry.FcView
import SilverwareTx.Telemetry.FreshnessFlag
import SilverwareTx.Telemetry.History
import SilverwareTx.Telemetry.PcTelemetryExport
import SilverwareTx.Telemetry.PcTelemetryProtocol
import SilverwareTx.Telemetry.PcTelemetryState
import SilverwareTx.Telemetry.ProtocolSwitch
import SilverwareTx.Telemetry.Telemetry
import SilverwareTx.Word
