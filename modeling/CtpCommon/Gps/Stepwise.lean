import CtpCommon.Gps.Navigation
import CtpCommon.Lib.Threads

/-!
# The GPS provider: sessions step by step

The methods of `GpsLocationProvider.java` that are about sessions, field by field: some run on the
handler's thread, others on threads of the engine, and no lock is held.

* `startNavigating`, `stopNavigating`, `hibernate`, `updateRequirements`, `reportLocation`,
  `reportStatus`, `reportSvStatus`, `updateLowPowerMode`, `handleDisable` — the methods;
* `run_startNavigating` and the like — **PROVED**: a method that runs alone does what the method of
  `Navigation` does in one step.
-/

namespace CtpCommon.Gps.Stepwise

open Method

section

variable (verbose : Bool) (diffs : ReturningDiffs)

def call (c : NavCall) : Method Navigation Unit := write fun n => n.call c

def hasCapability (capability : Int32) : Method Navigation Bool :=
  read fun n => n.hasCapability capability

def updateStatus (status svCount : Int32) : Method Navigation Unit := do
  if status ≠ (← read (·.status)) ∨ svCount ≠ (← read (·.svCount)) then
    write fun n => { n with status := status }
    write fun n => { n with svCount := svCount }

def cancelAlarms : Method Navigation Unit := do
  write fun n => { n with wakeupAlarm := none }
  write fun n => { n with timeoutAlarm := none }

/-! ### Starting and stopping -/

/-- `mPositionMode`; it is read again where the engine is asked for it. -/
def choosePositionMode (singleShot assistedGps : Bool) : Method Navigation Unit := do
  write fun n => { n with positionMode := .standalone }
  call .csmStartModem
  if assistedGps then
    if singleShot ∧ (← hasCapability gpsCapabilityMsa) then
      write fun n => { n with positionMode := .msAssisted }
    else if ← hasCapability gpsCapabilityMsb then
      write fun n => { n with positionMode := .msBased }

/-- The fields that a new session starts with. -/
def beginSession (singleShot assistedGps : Bool) : Method Navigation Unit := do
  write fun n => { n with timeToFirstFix := 0 }
  write fun n => { n with lastFixTime := 0 }
  write fun n => { n with started := true }
  write fun n => { n with singleShot := singleShot }
  choosePositionMode singleShot assistedGps

/-- The engine has started. -/
def noteStart (ans : NavAnswers) : Method Navigation Unit := do
  updateStatus temporarilyUnavailable 0
  write fun n => { n with fixRequestTime := ans.currentTime }
  if ¬ (← hasCapability gpsCapabilityScheduling) ∧ noFixTimeout ≤ (← read (·.fixInterval)) then
    write fun n => { n with timeoutAlarm := some (ans.elapsedRealtime + 60000) }

/-- It has not. -/
def noteFailure : Method Navigation Unit :=
  write fun n => { n with started := verbose, rest := .startFailed }

/-- The interval a session asks the engine for. -/
def minInterval : Method Navigation Int32 := do
  if ← hasCapability gpsCapabilityScheduling then read (·.fixInterval)
  else pure phaseBootCompleted

def startNavigating (ans : NavAnswers) (singleShot : Bool) : Method Navigation Unit := do
  if ¬ (← read (·.started)) then
    beginSession singleShot ans.assistedGps
    let mode ← read (·.positionMode)
    let interval ← minInterval
    call (.nativeSetPositionMode mode interval ans.positionModeOk)
    if ans.positionModeOk = false then noteFailure verbose
    else
      call (.nativeStart ans.startOk)
      if ans.startOk then noteStart ans else noteFailure verbose

def stopNavigating (why : Rest) : Method Navigation Unit := do
  if ← read (·.started) then
    write fun n => { n with started := verbose, rest := why }
    write fun n => { n with singleShot := verbose }
    call .nativeStop
    write fun n => { n with timeToFirstFix := 0 }
    write fun n => { n with lastFixTime := 0 }
    write fun n => { n with locationFlags := 0 }
    call .csmStop
    updateStatus temporarilyUnavailable 0

def hibernate (ans : NavAnswers) : Method Navigation Unit := do
  stopNavigating verbose .hibernating
  write fun n => { n with timeoutAlarm := none }
  write fun n => { n with wakeupAlarm := none }
  let interval ← read (·.fixInterval)
  write fun n => { n with
    wakeupAlarm := some (interval.toInt64 + ans.elapsedRealtime), rest := .hibernating }

/-! ### What is asked for -/

def makeCalls : List NavCall → Method Navigation Unit
  | [] => pure ()
  | c :: cs => do
      call c
      makeCalls cs

def updateClientUids (source : WorkSource) : Method Navigation Unit := do
  let old ← read (·.clientSource)
  write fun n => { n with clientSource := source }
  match diffs old source with
  | none => pure ()
  | some (newWork, goneWork) =>
      makeCalls (Navigation.operations .startOperation .noteStartGps (-1) (newWork.getD []))
      makeCalls (Navigation.operations .finishOperation .noteStopGps (-1) (goneWork.getD []))

/-- The first of the two assignments overflows where the second is needed. -/
def setFixInterval (interval : Int64) : Method Navigation Unit := do
  write fun n => { n with fixInterval := interval.toInt32 }
  if (← read (·.fixInterval)).toInt64 ≠ interval then
    write fun n => { n with fixInterval := Int32.maxValue }

/-- Locations are asked for, and GPS is not disabled. -/
def serve (ans : NavAnswers) (request : ProviderRequest) (source : WorkSource) :
    Method Navigation Unit := do
  updateClientUids diffs source
  setFixInterval request.interval
  if (← read (·.started)) ∧ (← hasCapability gpsCapabilityScheduling) then
    let mode ← read (·.positionMode)
    let interval ← read (·.fixInterval)
    call (.nativeSetPositionMode mode interval ans.positionModeOk)
  else if ¬ (← read (·.started)) then
    startNavigating verbose ans (Navigation.wantsSingleShot verbose request)

def updateRequirements (ans : NavAnswers) : Method Navigation Unit := do
  match ← read (·.providerRequest), ← read (·.workSource) with
  | some request, some source =>
      if request.reportLocation = false ∨ (← read (·.disableGps)) then
        updateClientUids diffs []
        stopNavigating verbose .notDemanded
        cancelAlarms
        write fun n => { n with rest := .notDemanded }
      else serve verbose diffs ans request source
  | _, _ => pure ()

def handleSetRequest (ans : NavAnswers) (request : Option ProviderRequest)
    (source : Option WorkSource) : Method Navigation Unit := do
  write fun n => { n with providerRequest := request }
  write fun n => { n with workSource := source }
  updateRequirements verbose diffs ans

def updateLowPowerMode (ans : NavAnswers) (power : Navigation.PowerState) :
    Method Navigation Unit := do
  let disableGps := Navigation.disablesGps verbose power
  if disableGps ≠ (← read (·.disableGps)) then
    write fun n => { n with disableGps := disableGps }
    updateRequirements verbose diffs ans

def handleDisable : Method Navigation Unit := do
  updateClientUids diffs []
  stopNavigating verbose .disabled
  cancelAlarms
  write fun n => { n.call .nativeCleanup with rest := .disabled }

/-! ### What the engine reports -/

def noteFirstFix (flags : Int32) : Method Navigation Unit := do
  if (← read (·.timeToFirstFix)) = 0 ∧ flags &&& 1 = 1 then
    let lastFixTime ← read (·.lastFixTime)
    let fixRequestTime ← read (·.fixRequestTime)
    let ttff := (lastFixTime - fixRequestTime).toInt32
    write fun n => { n with timeToFirstFix := ttff }
    call (.onFirstFix ttff)

/-- A fix has come in time. -/
def cancelTimeout : Method Navigation Unit := do
  if ¬ (← hasCapability gpsCapabilityScheduling) ∧ (← read (·.fixInterval)) < noFixTimeout then
    write fun n => { n with timeoutAlarm := none }

def noteFix : Method Navigation Unit := do
  if (← read (·.started)) ∧ (← read (·.status)) ≠ available then
    cancelTimeout
    call (.gpsFixChange true)
    updateStatus available (← read (·.svCount))

def stopSingleShot : Method Navigation Unit := do
  if ← read (·.singleShot) then stopNavigating verbose .answered

def hibernateAfterFix (ans : NavAnswers) : Method Navigation Unit := do
  if ¬ (← hasCapability gpsCapabilityScheduling) ∧ (← read (·.started)) ∧
      gpsPollingThresholdInterval < (← read (·.fixInterval)) then
    hibernate verbose ans

def reportLocation (ans : NavAnswers) (flags : Int32) : Method Navigation Unit := do
  write fun n => { n with locationFlags := flags }
  call .reportLocation
  write fun n => { n with lastFixTime := ans.currentTime }
  noteFirstFix flags
  stopSingleShot verbose
  noteFix
  hibernateAfterFix verbose ans

/-- The `switch` of `reportStatus`. -/
def noteStatus (status : Int32) : Method Navigation Unit :=
  if status = 1 then do
    write fun n => { n with navigating := true }
    write fun n => { n with engineOn := true }
  else if status = 2 then write fun n => { n with navigating := verbose }
  else if status = 3 then write fun n => { n with engineOn := true }
  else if status = 4 then do
    write fun n => { n with engineOn := verbose }
    write fun n => { n with navigating := verbose }
  else pure ()

def reportStatus (status : Int32) : Method Navigation Unit := do
  let wasNavigating ← read (·.navigating)
  noteStatus verbose status
  if wasNavigating ≠ (← read (·.navigating)) then
    let navigating ← read (·.navigating)
    call (.gpsEnabledChange navigating)

def reportSvStatus (ans : NavAnswers) (usedInFix : Int32) : Method Navigation Unit := do
  let status ← read (·.status)
  updateStatus status usedInFix
  if (← read (·.navigating)) ∧ (← read (·.status)) = available ∧ 0 < (← read (·.lastFixTime)) ∧
      recentFixTimeout < ans.currentTime - (← read (·.lastFixTime)) then
    call (.gpsFixChange false)
    updateStatus temporarilyUnavailable (← read (·.svCount))

def setEngineCapabilities (capabilities : Int32) : Method Navigation Unit :=
  write fun n => { n with engineCapabilities := capabilities }

end

/-! ### Alone -/

section

variable (verbose : Bool) (diffs : ReturningDiffs) (n : Navigation)

@[simp] theorem run_updateStatus (status svCount : Int32) :
    (updateStatus status svCount).run n = ((), n.updateStatus status svCount) := by
  unfold updateStatus Navigation.updateStatus
  simp only [run_read_bind, run_ite, run_write_bind, run_write, run_pure]
  split <;> rfl

@[simp] theorem run_stopNavigating (why : Rest) :
    (stopNavigating verbose why).run n = ((), n.stopNavigating verbose why) := by
  unfold stopNavigating Navigation.stopNavigating
  simp only [run_read_bind, run_ite, run_write_bind, run_pure, call, run_updateStatus,
    Navigation.call, List.append_assoc]
  split <;> rfl

@[simp] theorem run_cancelAlarms : cancelAlarms.run n = ((), n.cancelAlarms) := rfl

@[simp] theorem run_hibernate (ans : NavAnswers) :
    (hibernate verbose ans).run n = ((), n.hibernate verbose ans) := by
  unfold hibernate
  rw [run_bind, run_stopNavigating]
  rfl

theorem run_choosePositionMode (singleShot assistedGps : Bool) :
    (choosePositionMode singleShot assistedGps).run n = ((), { n with
      positionMode := n.choosePositionMode singleShot assistedGps
      calls := n.calls ++ [.csmStartModem] }) := by
  unfold choosePositionMode Navigation.choosePositionMode
  simp only [call, hasCapability, run_write_bind, run_ite, run_read_bind, run_write, run_pure,
    Navigation.call, Navigation.hasCapability]
  split_ifs <;> simp_all

theorem run_noteStart (ans : NavAnswers) :
    (noteStart ans).run n = ((),
      let m : Navigation :=
        { n.updateStatus temporarilyUnavailable 0 with fixRequestTime := ans.currentTime }
      if ¬ m.hasCapability gpsCapabilityScheduling ∧ noFixTimeout ≤ m.fixInterval then
        { m with timeoutAlarm := some (ans.elapsedRealtime + 60000) }
      else m) := by
  unfold noteStart
  rw [run_bind, run_updateStatus]
  simp only [hasCapability, run_write_bind, run_read_bind, run_ite, run_write, run_pure]
  split <;> rfl

theorem run_minInterval : minInterval.run n = (n.minInterval, n) := by
  unfold minInterval Navigation.minInterval hasCapability
  rw [run_read_bind, run_ite]
  split <;> rfl

theorem run_beginSession (singleShot assistedGps : Bool) :
    (beginSession singleShot assistedGps).run n
      = ((), n.beginSession singleShot assistedGps) := by
  unfold beginSession
  rw [run_write_bind, run_write_bind, run_write_bind, run_write_bind, run_choosePositionMode]
  rfl

@[simp] theorem run_startNavigating (ans : NavAnswers) (singleShot : Bool) :
    (startNavigating verbose ans singleShot).run n
      = ((), n.startNavigating verbose ans singleShot) := by
  unfold startNavigating Navigation.startNavigating
  rw [run_read_bind, run_ite]
  by_cases hstarted : n.started = true
  · rw [if_neg (not_not.mpr hstarted), if_pos hstarted]
    rfl
  rw [if_pos hstarted, if_neg hstarted, run_bind, run_beginSession, run_read_bind, run_bind,
    run_minInterval]
  generalize n.beginSession singleShot ans.assistedGps = m
  unfold call
  rw [run_write_bind, run_ite]
  extract_lets m'
  by_cases hmode : ans.positionModeOk = false
  · rw [if_pos hmode, if_pos hmode]
    rfl
  rw [if_neg hmode, if_neg hmode, run_write_bind, run_ite]
  by_cases hstart : ans.startOk = true
  · rw [if_pos hstart, if_pos hstart, run_noteStart]
  · rw [if_neg hstart, if_neg hstart]
    rfl

@[simp] theorem run_makeCalls (l : List NavCall) :
    (makeCalls l).run n = ((), { n with calls := n.calls ++ l }) := by
  induction l generalizing n with
  | nil =>
    rw [List.append_nil]
    rfl
  | cons c l ih =>
    show (makeCalls l).run (n.call c) = _
    rw [ih]
    show ((), { n with calls := n.calls ++ [c] ++ l }) = _
    rw [List.append_assoc]
    rfl

@[simp] theorem run_updateClientUids (source : WorkSource) :
    (updateClientUids diffs source).run n = ((), n.updateClientUids diffs source) := by
  unfold updateClientUids Navigation.updateClientUids
  rw [run_read_bind, run_write_bind]
  cases diffs n.clientSource source with
  | none => rfl
  | some work =>
    obtain ⟨newWork, goneWork⟩ := work
    show (makeCalls _ >>= fun _ => makeCalls _).run _ = _
    rw [run_bind, run_makeCalls, run_makeCalls]

@[simp] theorem run_setFixInterval (interval : Int64) :
    (setFixInterval interval).run n
      = ((), { n with fixInterval := Navigation.fixIntervalOf interval }) := by
  unfold setFixInterval Navigation.fixIntervalOf
  rw [run_write_bind, run_read_bind, run_ite]
  by_cases hfits : interval.toInt32.toInt64 = interval
  · rw [if_neg (not_not.mpr hfits), if_pos hfits]
    rfl
  · rw [if_pos hfits, if_neg hfits]
    rfl

theorem run_serve (ans : NavAnswers) (request : ProviderRequest) (source : WorkSource) :
    (serve verbose diffs ans request source).run n = ((),
      let m := n.updateClientUids diffs source
      let m : Navigation := { m with fixInterval := Navigation.fixIntervalOf request.interval }
      if m.started ∧ m.hasCapability gpsCapabilityScheduling then
        m.call (.nativeSetPositionMode m.positionMode m.fixInterval ans.positionModeOk)
      else if m.started then m
      else m.startNavigating verbose ans (Navigation.wantsSingleShot verbose request)) := by
  unfold serve
  rw [run_bind, run_updateClientUids, run_bind, run_setFixInterval]
  unfold hasCapability call
  rw [run_read_bind, run_read_bind, run_ite]
  extract_lets m m'
  by_cases hscheduling : m'.started = true ∧ m'.hasCapability gpsCapabilityScheduling = true
  · rw [if_pos hscheduling, if_pos hscheduling]
    rfl
  rw [if_neg hscheduling, if_neg hscheduling, run_read_bind, run_ite]
  by_cases hstarted : m'.started = true
  · rw [if_pos hstarted]
    exact if_neg (not_not.mpr hstarted)
  · rw [if_neg hstarted]
    exact (if_pos hstarted).trans (run_startNavigating _ _ _ _)

/-- **Requirements change.** -/
@[simp] theorem run_updateRequirements (ans : NavAnswers) :
    (updateRequirements verbose diffs ans).run n
      = ((), n.updateRequirements verbose diffs ans) := by
  unfold updateRequirements Navigation.updateRequirements
  rw [run_read_bind, run_read_bind]
  cases n.providerRequest with
  | none => rfl
  | some request =>
    cases n.workSource with
    | none => rfl
    | some source =>
      rw [run_read_bind, run_ite]
      dsimp only
      by_cases hoff : request.reportLocation = false ∨ n.disableGps = true
      · rw [if_pos hoff, if_pos hoff, run_bind, run_updateClientUids, run_bind, run_stopNavigating]
        rfl
      · rw [if_neg hoff, if_neg hoff, run_serve]

@[simp] theorem run_handleSetRequest (ans : NavAnswers) (request : Option ProviderRequest)
    (source : Option WorkSource) : (handleSetRequest verbose diffs ans request source).run n
      = ((), n.handleSetRequest verbose diffs ans request source) := by
  unfold handleSetRequest
  rw [run_write_bind, run_write_bind, run_updateRequirements]
  rfl

@[simp] theorem run_updateLowPowerMode (ans : NavAnswers) (power : Navigation.PowerState) :
    (updateLowPowerMode verbose diffs ans power).run n
      = ((), n.updateLowPowerMode verbose diffs ans power) := by
  unfold updateLowPowerMode Navigation.updateLowPowerMode
  dsimp only
  rw [run_read_bind, run_ite]
  by_cases hchange : Navigation.disablesGps verbose power ≠ n.disableGps
  · rw [if_pos hchange, if_pos hchange, run_write_bind, run_updateRequirements]
  · rw [if_neg hchange, if_neg hchange]
    rfl

@[simp] theorem run_handleDisable :
    (handleDisable verbose diffs).run n = ((), n.handleDisable verbose diffs) := by
  unfold handleDisable
  rw [run_bind, run_updateClientUids, run_bind, run_stopNavigating]
  rfl

/-! ### The reports, alone -/

theorem run_noteFirstFix (flags : Int32) :
    (noteFirstFix flags).run n = ((), n.noteFirstFix flags) := by
  unfold noteFirstFix Navigation.noteFirstFix
  rw [run_read_bind, run_ite]
  by_cases hfirst : n.timeToFirstFix = 0 ∧ flags &&& 1 = 1
  · rw [if_pos hfirst, if_pos hfirst]
    rfl
  · rw [if_neg hfirst, if_neg hfirst]
    rfl

theorem run_noteFix : noteFix.run n = ((), n.noteFix) := by
  unfold noteFix Navigation.noteFix
  rw [run_read_bind, run_read_bind, run_ite]
  by_cases hfix : n.started = true ∧ n.status ≠ available
  · rw [if_pos hfix, if_pos hfix]
    unfold cancelTimeout hasCapability call
    rw [run_bind, run_read_bind, run_read_bind, run_ite]
    extract_lets m
    have htimeout : (if ¬n.hasCapability gpsCapabilityScheduling = true ∧
          n.fixInterval < noFixTimeout then
        (write fun n => { n with timeoutAlarm := none }).run n
        else (pure () : Method Navigation Unit).run n) = ((), m) := by
      unfold m
      split <;> rfl
    rw [htimeout, run_write_bind, run_read_bind, run_updateStatus]
    rfl
  · rw [if_neg hfix, if_neg hfix]
    rfl

theorem run_stopSingleShot : (stopSingleShot verbose).run n
    = ((), if n.singleShot then n.stopNavigating verbose .answered else n) := by
  unfold stopSingleShot
  rw [run_read_bind, run_ite]
  split
  · exact run_stopNavigating _ _ _
  · rfl

theorem run_hibernateAfterFix (ans : NavAnswers) : (hibernateAfterFix verbose ans).run n = ((),
    if ¬ n.hasCapability gpsCapabilityScheduling ∧ n.started ∧
        gpsPollingThresholdInterval < n.fixInterval then
      n.hibernate verbose ans
    else n) := by
  unfold hibernateAfterFix hasCapability
  rw [run_read_bind, run_read_bind, run_read_bind, run_ite]
  split
  · exact run_hibernate _ _ _
  · rfl

/-- **A fix is reported.** -/
@[simp] theorem run_reportLocation (ans : NavAnswers) (flags : Int32) :
    (reportLocation verbose ans flags).run n = ((), n.reportLocation verbose ans flags) := by
  unfold reportLocation call
  rw [run_write_bind, run_write_bind, run_write_bind, run_bind, run_noteFirstFix, run_bind,
    run_stopSingleShot, run_bind, run_noteFix, run_hibernateAfterFix]
  rfl

@[simp] theorem run_reportStatus (status : Int32) :
    (reportStatus verbose status).run n = ((), n.reportStatus verbose status) := by
  unfold reportStatus Navigation.reportStatus
  extract_lets m
  have hnote : (noteStatus verbose status).run n = ((), m) := by
    unfold noteStatus m
    split_ifs <;> rfl
  rw [run_read_bind, run_bind, hnote, run_read_bind, run_ite]
  split <;> rfl

@[simp] theorem run_reportSvStatus (ans : NavAnswers) (usedInFix : Int32) :
    (reportSvStatus ans usedInFix).run n = ((), n.reportSvStatus ans usedInFix) := by
  unfold reportSvStatus Navigation.reportSvStatus call
  rw [run_read_bind, run_bind, run_updateStatus]
  extract_lets m
  rw [run_read_bind, run_read_bind, run_read_bind, run_read_bind, run_ite]
  by_cases hlost : m.navigating = true ∧ m.status = available ∧ 0 < m.lastFixTime ∧
      recentFixTimeout < ans.currentTime - m.lastFixTime
  · rw [if_pos hlost, if_pos hlost, run_write_bind, run_read_bind, run_updateStatus]
    rfl
  · rw [if_neg hlost, if_neg hlost]
    rfl

end

end CtpCommon.Gps.Stepwise
