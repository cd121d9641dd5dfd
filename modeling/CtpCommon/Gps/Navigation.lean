import CtpCommon.Gps.Types

/-!
# The GPS provider: navigation sessions

`GpsLocationProvider.java`: the engine is started and stopped as requests, alarms and reports ask
for it.  An engine that cannot schedule its fixes is stopped after a fix, and started again by an
alarm.

* `Navigation` — the fields of the provider that are about sessions, the alarms, and the log of
  calls;
* `startNavigating`, `stopNavigating`, `hibernate`, `updateRequirements`, `reportLocation`,
  `reportStatus`, `reportSvStatus`, `updateLowPowerMode`, `handleDisable` — the methods;
* `NavAnswers` — what the engine and the system answer to them.

The field `VERBOSE` takes the place of `false` in many of them; it is the parameter `verbose`.
-/

namespace CtpCommon.Gps

/-- Why the engine is at rest.  The source has no such field. -/
inductive Rest where
  | notDemanded
  | startFailed
  | answered
  | hibernating
  | disabled
  deriving DecidableEq, Repr

/-- The fields that are about sessions; an alarm that is set has its time. -/
structure Navigation where
  started : Bool
  singleShot : Bool
  positionMode : PositionMode
  fixInterval : Int32
  engineCapabilities : Int32
  status : Int32
  svCount : Int32
  timeToFirstFix : Int32
  lastFixTime : Int64
  fixRequestTime : Int64
  locationFlags : Int32
  navigating : Bool
  engineOn : Bool
  disableGps : Bool
  providerRequest : Option ProviderRequest
  workSource : Option WorkSource
  clientSource : WorkSource
  timeoutAlarm : Option Int64
  wakeupAlarm : Option Int64
  rest : Rest
  calls : List NavCall

/-- `Global.getInt("assisted_gps_enabled") != 0`, the results of `native_set_position_mode` and
`native_start`, `System.currentTimeMillis()` and `SystemClock.elapsedRealtime()`. -/
structure NavAnswers where
  assistedGps : Bool
  positionModeOk : Bool
  startOk : Bool
  currentTime : Int64
  elapsedRealtime : Int64

/-- `WorkSource.setReturningDiffs`: what is new and what is gone, unless nothing changes. -/
abbrev ReturningDiffs := WorkSource → WorkSource → Option (Option WorkSource × Option WorkSource)

namespace Navigation

section

variable (verbose : Bool) (diffs : ReturningDiffs)

def init : Navigation where
  started := false
  singleShot := false
  positionMode := .standalone
  fixInterval := phaseBootCompleted
  engineCapabilities := 0
  status := temporarilyUnavailable
  svCount := 0
  timeToFirstFix := 0
  lastFixTime := 0
  fixRequestTime := 0
  locationFlags := 0
  navigating := false
  engineOn := false
  disableGps := verbose
  providerRequest := none
  workSource := none
  clientSource := []
  timeoutAlarm := none
  wakeupAlarm := none
  rest := .notDemanded
  calls := []

variable (n : Navigation)

def call (c : NavCall) : Navigation := { n with calls := n.calls ++ [c] }

def hasCapability (capability : Int32) : Bool := n.engineCapabilities &&& capability ≠ 0

def updateStatus (status svCount : Int32) : Navigation :=
  if status ≠ n.status ∨ svCount ≠ n.svCount then { n with status := status, svCount := svCount }
  else n

def cancelAlarms : Navigation := { n with wakeupAlarm := none, timeoutAlarm := none }

/-! ### Starting and stopping -/

/-- `mPositionMode`, as `startNavigating` chooses it. -/
def choosePositionMode (singleShot assistedGps : Bool) : PositionMode :=
  if assistedGps then
    if singleShot ∧ n.hasCapability gpsCapabilityMsa then .msAssisted
    else if n.hasCapability gpsCapabilityMsb then .msBased
    else .standalone
  else .standalone

/-- The fields that a new session starts with. -/
def beginSession (singleShot assistedGps : Bool) : Navigation :=
  { n with
    timeToFirstFix := 0
    lastFixTime := 0
    started := true
    singleShot := singleShot
    positionMode := n.choosePositionMode singleShot assistedGps
    calls := n.calls ++ [.csmStartModem] }

/-- The interval a session asks the engine for. -/
def minInterval : Int32 :=
  if n.hasCapability gpsCapabilityScheduling then n.fixInterval else phaseBootCompleted

def startNavigating (ans : NavAnswers) (singleShot : Bool) : Navigation :=
  if n.started then n
  else
    let m := n.beginSession singleShot ans.assistedGps
    let m := m.call (.nativeSetPositionMode m.positionMode m.minInterval ans.positionModeOk)
    if ans.positionModeOk = false then { m with started := verbose, rest := .startFailed }
    else
      let m := m.call (.nativeStart ans.startOk)
      if ans.startOk then
        let m : Navigation :=
          { m.updateStatus temporarilyUnavailable 0 with fixRequestTime := ans.currentTime }
        if ¬ m.hasCapability gpsCapabilityScheduling ∧ noFixTimeout ≤ m.fixInterval then
          { m with timeoutAlarm := some (ans.elapsedRealtime + 60000) }
        else m
      else { m with started := verbose, rest := .startFailed }

/-- `why` is what the engine rests for afterwards. -/
def stopNavigating (why : Rest) : Navigation :=
  if n.started then
    updateStatus { n with
      started := verbose
      singleShot := verbose
      timeToFirstFix := 0
      lastFixTime := 0
      locationFlags := 0
      rest := why
      calls := n.calls ++ [.nativeStop, .csmStop] } temporarilyUnavailable 0
  else n

def hibernate (ans : NavAnswers) : Navigation :=
  let m := n.stopNavigating verbose .hibernating
  { m with
    timeoutAlarm := none
    wakeupAlarm := some (m.fixInterval.toInt64 + ans.elapsedRealtime)
    rest := .hibernating }

/-! ### Clients -/

/-- The loop of `updateClientUids`: an operation for each client, a note for each new uid. -/
def operations (operation : Client → NavCall) (note : Int32 → NavCall) (lastuid : Int32) :
    WorkSource → List NavCall
  | [] => []
  | c :: cs =>
      if c.uid ≠ lastuid then operation c :: note c.uid :: operations operation note c.uid cs
      else operation c :: operations operation note lastuid cs

def updateClientUids (source : WorkSource) : Navigation :=
  let m := { n with clientSource := source }
  match diffs n.clientSource source with
  | none => m
  | some (newWork, goneWork) =>
      { m with calls := m.calls ++
          operations .startOperation .noteStartGps (-1) (newWork.getD []) ++
          operations .finishOperation .noteStopGps (-1) (goneWork.getD []) }

/-! ### What is asked for -/

/-- `singleShot` in `updateRequirements`: there are requests, and each is for one update. -/
def wantsSingleShot (request : ProviderRequest) : Bool :=
  match request.locationRequests with
  | none => verbose
  | some [] => verbose
  | some lrs => if lrs.all fun lr => lr.numUpdates = 1 then true else verbose

/-- `mFixInterval`: the interval, if it is an `int`. -/
def fixIntervalOf (interval : Int64) : Int32 :=
  if interval.toInt32.toInt64 = interval then interval.toInt32 else Int32.maxValue

def updateRequirements (ans : NavAnswers) : Navigation :=
  match n.providerRequest, n.workSource with
  | some request, some source =>
      if request.reportLocation = false ∨ n.disableGps then
        { ((n.updateClientUids diffs []).stopNavigating verbose .notDemanded).cancelAlarms with
          rest := .notDemanded }
      else
        let m := n.updateClientUids diffs source
        let m : Navigation := { m with fixInterval := fixIntervalOf request.interval }
        if m.started ∧ m.hasCapability gpsCapabilityScheduling then
          m.call (.nativeSetPositionMode m.positionMode m.fixInterval ans.positionModeOk)
        else if m.started then m
        else m.startNavigating verbose ans (wantsSingleShot verbose request)
  | _, _ => n

def handleSetRequest (ans : NavAnswers) (request : Option ProviderRequest)
    (source : Option WorkSource) : Navigation :=
  updateRequirements verbose diffs { n with providerRequest := request, workSource := source } ans

/-- `Secure.getInt(BATTERY_SAVER_GPS_MODE)`, `isPowerSaveMode()` and `isInteractive()`. -/
structure PowerState where
  gpsMode : Int32
  powerSaveMode : Bool
  interactive : Bool

/-- `BATTERY_SAVER_MODE_DISABLED_WHEN_SCREEN_OFF` is `1`. -/
def disablesGps (power : PowerState) : Bool :=
  if power.gpsMode = 1 then
    if power.powerSaveMode = false ∨ power.interactive then verbose else true
  else verbose

def updateLowPowerMode (ans : NavAnswers) (power : PowerState) : Navigation :=
  if disablesGps verbose power ≠ n.disableGps then
    updateRequirements verbose diffs { n with disableGps := disablesGps verbose power } ans
  else n

def handleDisable : Navigation :=
  { (((n.updateClientUids diffs []).stopNavigating verbose .disabled).cancelAlarms.call
      .nativeCleanup) with rest := .disabled }

/-! ### What the engine reports -/

/-- `onFirstFix`, at the first fix with a position. -/
def noteFirstFix (flags : Int32) : Navigation :=
  if n.timeToFirstFix = 0 ∧ flags &&& 1 = 1 then
    let ttff := (n.lastFixTime - n.fixRequestTime).toInt32
    { n with timeToFirstFix := ttff, calls := n.calls ++ [.onFirstFix ttff] }
  else n

/-- The provider becomes available with a fix. -/
def noteFix : Navigation :=
  if n.started ∧ n.status ≠ available then
    let m : Navigation :=
      if ¬ n.hasCapability gpsCapabilityScheduling ∧ n.fixInterval < noFixTimeout then
        { n with timeoutAlarm := none }
      else n
    (m.call (.gpsFixChange true)).updateStatus available m.svCount
  else n

def reportLocation (ans : NavAnswers) (flags : Int32) : Navigation :=
  let m : Navigation := { n with locationFlags := flags, calls := n.calls ++ [.reportLocation] }
  let m := noteFirstFix { m with lastFixTime := ans.currentTime } flags
  let m := if m.singleShot then m.stopNavigating verbose .answered else m
  let m := m.noteFix
  if ¬ m.hasCapability gpsCapabilityScheduling ∧ m.started ∧
      gpsPollingThresholdInterval < m.fixInterval then
    m.hibernate verbose ans
  else m

/-- `GPS_STATUS_SESSION_BEGIN`, `GPS_STATUS_SESSION_END`, `GPS_STATUS_ENGINE_ON` and
`GPS_STATUS_ENGINE_OFF`. -/
def reportStatus (status : Int32) : Navigation :=
  let m : Navigation :=
    if status = 1 then { n with navigating := true, engineOn := true }
    else if status = 2 then { n with navigating := verbose }
    else if status = 3 then { n with engineOn := true }
    else if status = 4 then { n with engineOn := verbose, navigating := verbose }
    else n
  if n.navigating ≠ m.navigating then m.call (.gpsEnabledChange m.navigating) else m

/-- `usedInFix` is `Integer.bitCount(mSvMasks[USED_FOR_FIX_MASK])`. -/
def reportSvStatus (ans : NavAnswers) (usedInFix : Int32) : Navigation :=
  let m := n.updateStatus n.status usedInFix
  if m.navigating ∧ m.status = available ∧ 0 < m.lastFixTime ∧
      recentFixTimeout < ans.currentTime - m.lastFixTime then
    (m.call (.gpsFixChange false)).updateStatus temporarilyUnavailable m.svCount
  else m

end

end Navigation

end CtpCommon.Gps
