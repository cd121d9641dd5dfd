import CtpCommon.Lib.Runs
import CtpCommon.Ril.DispatchSpec
import CtpCommon.Ril.FixedLayout
import CtpCommon.Ril.CountedLayout
import CtpCommon.Ril.Unsolicited
import CtpCommon.Ril.Isolation
import CtpCommon.Ril.ErrorAtomicity
import CtpCommon.Ril.RadioPower
import CtpCommon.Ril.StaleTokens
import CtpCommon.Ril.Framing
import CtpCommon.Ril.Connection
import CtpCommon.Ril.Nitz
import CtpCommon.Ril.DnsFailures
import CtpCommon.Ril.CdmaSms
import CtpCommon.Ril.CellInfo
import CtpCommon.Ril.HardwareConfig
import CtpCommon.Ril.EmbeddedArrays
import CtpCommon.Sap.Isolation
import CtpCommon.Mkbootimg.Termination
import CtpCommon.Event.Removal
import CtpCommon.Event.Wakeup
import CtpCommon.Mkbootimg.Sizes
import CtpCommon.Display.Types
import CtpCommon.Display.Devices
import CtpCommon.Display.Clients
import CtpCommon.Display.Transparency
import CtpCommon.Display.PreferredMode
import CtpCommon.Display.Timing
import CtpCommon.Display.ModeList
import CtpCommon.Display.Edid
import CtpCommon.Display.Calls
import CtpCommon.Display.Service
import CtpCommon.Display.Delivery
import CtpCommon.Display.Frame
import CtpCommon.Lib.Slot
import CtpCommon.Lib.Memory
import CtpCommon.Display.MipiSlot
import CtpCommon.Display.Scaling
import CtpCommon.Display.ScalingReset
import CtpCommon.Sap.Completion
import CtpCommon.Power.Boost
import CtpCommon.Mkbootimg.Checksum
import CtpCommon.Event.WatchTable
import CtpCommon.Sap.LogHex
import CtpCommon.Lights.Arbitration
import CtpCommon.Gestures.Proximity
import CtpCommon.Ril.OldRil
import CtpCommon.Lib.LogProg
import CtpCommon.Ril.PrintBuf
import CtpCommon.Ril.DebugArgs
import CtpCommon.Lib.Monitor
import CtpCommon.Lib.FieldReads
import CtpCommon.Ril.Records
import CtpCommon.Ril.TaggedRecords
import CtpCommon.Event.Startup
import CtpCommon.Lib.RetryJob
import CtpCommon.Gps.Navigation
import CtpCommon.Gps.AGps
import CtpCommon.Gps.Provider
import CtpCommon.Gps.Jobs
import CtpCommon.Gps.Sessions
import CtpCommon.Gps.Stepwise
import CtpCommon.Gps.SessionThreads
import CtpCommon.Gps.AGpsThreads
import CtpCommon.Gps.Demand
import CtpCommon.Ril.Payloads
import CtpCommon.Ril.Client
import CtpCommon.Display.Ied
import CtpCommon.Display.ListenerCall
import CtpCommon.Gestures.Service
import CtpCommon.Init.Properties
