import Mathlib.Data.List.Basic

/-!
# The GPS provider: its data

`GpsLocationProvider.java`: the requests, messages and broadcasts the provider works with, and what
it calls.

A `long` is an `Int64` and an `int` an `Int32`; a reference that may be null is an `Option`.
-/

namespace CtpCommon.Gps

/-! ### Requests -/

/-- `LocationRequest`, as far as `updateRequirements` reads it. -/
structure LocationRequest where
  numUpdates : Int32
  deriving DecidableEq, Repr

/-- `ProviderRequest`. -/
structure ProviderRequest where
  reportLocation : Bool
  interval : Int64
  locationRequests : Option (List LocationRequest)
  deriving DecidableEq, Repr

/-- One entry of a `WorkSource`: a uid and a package name. -/
structure Client where
  uid : Int32
  name : Option String
  deriving DecidableEq, Repr

/-- `WorkSource`, as `size`, `get` and `getName` show it. -/
abbrev WorkSource := List Client

/-- `NetworkInfo`. -/
structure NetworkInfo where
  type : Int32
  available : Bool
  connected : Bool
  roaming : Bool
  extraInfo : Option String
  deriving DecidableEq, Repr

/-- `ConnectivityManager.TYPE_MOBILE_SUPL`. -/
def typeMobileSupl : Int32 := 3

/-! ### Messages -/

/-- The messages of `ProviderHandler`, by `what`; `ENABLE` carries `arg1 == 1`. -/
inductive Message where
  | enable (on : Bool)
  | setRequest (request : Option ProviderRequest) (source : Option WorkSource)
  | updateNetworkState (state : Int32) (info : Option NetworkInfo)
  | injectNtpTime
  | downloadXtraData
  | injectNtpTimeFinished
  | downloadXtraDataFinished
  | gpsServiceStart
  deriving DecidableEq, Repr

/-- The broadcasts `mBroadcastReceiver` acts on. -/
inductive Broadcast where
  | alarmWakeup
  | alarmTimeout
  | connectivityChange (noConnectivity : Bool) (info : Option NetworkInfo)
  | lowPowerChange
  deriving DecidableEq, Repr

/-- What waits in the queue of the handler's thread: a message, with `arg2 == 1` if it was sent by
`sendMessage`, or a broadcast. -/
inductive Item where
  | message (what : Message) (arg2 : Bool)
  | broadcast (b : Broadcast)
  deriving DecidableEq, Repr

/-- The two jobs of the thread pool: `mInjectNtpTimePending` and `mDownloadXtraDataPending` say how
they stand. -/
inductive Job where
  | injectNtpTime
  | downloadXtraData
  deriving DecidableEq, Repr

/-- The message that asks for a job. -/
def Job.request : Job → Message
  | .injectNtpTime => .injectNtpTime
  | .downloadXtraData => .downloadXtraData

/-- The message that reports its end. -/
def Job.finished : Job → Message
  | .injectNtpTime => .injectNtpTimeFinished
  | .downloadXtraData => .downloadXtraDataFinished

/-- Where the task of a job is: at work; done, with the time or the data injected or without; after
its report; or after `sendEmptyMessageDelayed`, if it calls it. -/
inductive TaskPhase where
  | running
  | fetched (ok : Bool)
  | reported (ok : Bool)
  | asked
  deriving DecidableEq, Repr

structure Task where
  job : Job
  phase : TaskPhase
  deriving DecidableEq, Repr

/-- What `sendEmptyMessageDelayed` is called with. -/
inductive Delayed where
  | request (job : Job)
  | gpsServiceStart
  deriving DecidableEq, Repr

def Delayed.message : Delayed → Message
  | .request job => job.request
  | .gpsServiceStart => .gpsServiceStart

/-- `STATE_PENDING_NETWORK`, `STATE_DOWNLOADING` and `STATE_IDLE`. -/
inductive PendingState where
  | pendingNetwork
  | downloading
  | idle
  deriving DecidableEq, Repr

/-! ### The engine -/

/-- `GPS_CAPABILITY_SCHEDULING`. -/
def gpsCapabilityScheduling : Int32 := 1

/-- `GPS_CAPABILITY_MSB`. -/
def gpsCapabilityMsb : Int32 := 2

/-- `GPS_CAPABILITY_MSA`. -/
def gpsCapabilityMsa : Int32 := 4

/-- `GPS_CAPABILITY_ON_DEMAND_TIME`. -/
def gpsCapabilityOnDemandTime : Int32 := 16

/-- `NO_FIX_TIMEOUT`. -/
def noFixTimeout : Int32 := 60000

/-- `GPS_POLLING_THRESHOLD_INTERVAL`. -/
def gpsPollingThresholdInterval : Int32 := 10000

/-- `RECENT_FIX_TIMEOUT`. -/
def recentFixTimeout : Int64 := 10000

/-- `SystemService.PHASE_BOOT_COMPLETED`, which stands for one second. -/
def phaseBootCompleted : Int32 := 1000

/-- `GPS_POSITION_MODE_STANDALONE` and its two siblings. -/
inductive PositionMode where
  | standalone
  | msBased
  | msAssisted
  deriving DecidableEq, Repr

/-- `LocationProvider.TEMPORARILY_UNAVAILABLE`. -/
def temporarilyUnavailable : Int32 := 1

/-- `LocationProvider.AVAILABLE`. -/
def available : Int32 := 2

/-- What the navigation part does, call by call: to the engine, to the alarm manager, to the system
and to the battery and operation services.  A call of the engine that may fail is logged with its
result. -/
inductive NavCall where
  | nativeSetPositionMode (mode : PositionMode) (minInterval : Int32) (ok : Bool)
  | nativeStart (ok : Bool)
  | nativeStop
  | nativeCleanup
  | csmStartModem
  | csmStop
  | reportLocation
  | onFirstFix (ttff : Int32)
  | gpsFixChange (enabled : Bool)
  | gpsEnabledChange (enabled : Bool)
  | startOperation (client : Client)
  | finishOperation (client : Client)
  | noteStartGps (uid : Int32)
  | noteStopGps (uid : Int32)
  deriving DecidableEq, Repr

end CtpCommon.Gps
