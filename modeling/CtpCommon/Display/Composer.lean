import CtpCommon.Display.Hdcp
import CtpCommon.Display.ModeInfo

/-!
# The composer

`MultiDisplayComposer.cpp`.  Every method runs under the lock, from one state to the next, with the
answers of the device as an argument; what it does outside is added to the log of the device.
`setHdmiMode_l` is cut at its exits: one function for the part that follows each test.

* `Composer` — the members of the class;
* `broadcastMessageL`, `setHdmiTimingL` — messages to the listeners;
* `setHdmiModeL` — the transition after a plug event, a policy or a video;
* `setMipiModeL`, `setModePolicyL`, `notifyWidi`, … — the other methods;
* `Operation`, `perform` — a call of a client;
* `construct` — the constructor, with `initialize_l`.
-/

namespace CtpCommon.Display

/-- `mMipiReq`. -/
inductive MipiReq where
  | noMipiReq
  | mipiOffReq
  | mipiOnReq
  deriving DecidableEq, Repr

structure Composer where
  mDrmInit : Bool
  mMode : Mode
  mDisplayCapability : BitVec 32
  mHdmiPolicy : Int
  mMipiPolicy : Int
  mMipiOn : Bool
  mMipiReq : MipiReq
  mWidiVideoExt : Bool
  mListener : KeyedVector Handle MultiDisplayListener
  mConnectStatus : Int
  mVideo : MdsVideoSourceInfo
  mVideoState : Int
  mSurfaceComposer : Bool
  mScaleMode : UInt32
  mScaleStepX : UInt32
  mScaleStepY : UInt32
  device : Device

namespace Composer

variable (b : Build) (r : DrmResults) (s : Composer)

def withDevice (d : Device) : Composer := { s with device := d }

def call (e : Effect) : Composer := s.withDevice (s.device.call e)

def setMode (bit : MdsMode) (on : Bool) : Composer := { s with mMode := setFlag s.mMode bit on }

def setMipiOn (on : Bool) : Composer := { s with mMipiOn := on }

def setMipiPolicy (policy : Int) : Composer := { s with mMipiPolicy := policy }

def setConnectStatus (connectStatus : Int) : Composer := { s with mConnectStatus := connectStatus }

/-! ### Messages -/

/-- The calls of `onMdsMessage` for a message: each listener that has subscribed to it. -/
def deliveries (listeners : List (Handle × MultiDisplayListener)) (message : MdsMessage) :
    List Effect :=
  listeners.filterMap fun x =>
    if x.2.checkMsg message.msg then
      x.2.mIEListener.map fun listener => Effect.onMdsMessage x.1 listener message
    else none

def broadcastMessageL (message : MdsMessage) : Composer :=
  s.withDevice { s.device with
    log := s.device.log ++ Effect.broadcast message :: deliveries s.mListener.entries message }

/-- `broadcastMessage_l(MDS_MODE_CHANGE, &mMode, sizeof(mMode))`. -/
def broadcastMode : Composer := s.broadcastMessageL (.modeChange s.mMode)

/-- The first listener of `HWComposer` that sets timings. -/
def timingListener : Option (Handle × MultiDisplayListener) :=
  s.mListener.entries.find? fun x => x.2.mName = hwComposer ∧ x.2.checkMsg mdsSetTiming

def hasHwc : Bool := s.mListener.entries.any fun x => x.2.mName = hwComposer

def setHdmiTimingL (timing : MdsHdmiTiming) : Int × Composer :=
  match s.timingListener.bind fun x => x.2.mIEListener.map fun listener => (x.1, listener) with
  | some (handle, listener) => (r.timingReply, s.call (.setTiming handle listener timing))
  | none => (if s.hasHwc then mdsError else mdsNoError, s)

/-! ### The transition -/

/-- Common case, update video status. -/
def updateVideoStatus : Composer := s.setMode .videoPlaying s.mVideo.isPlaying

/-- Common case, turn on MIPI if necessary. -/
def turnOnMipi (connectStatus : Int) : Composer :=
  if connectStatus = drmHdmiDisconnected ∨ s.mHdmiPolicy = mdsHdmiOnNotAllowed ∨
      s.mVideo.isPlaying = false then
    let s := s.setMipiPolicy mdsMipiOffNotAllowed
    if checkMode s.mMode .mipiOn = false then
      ((s.call (.mipiSetMode true)).setMode .mipiOn true).setMipiOn true
    else s
  else s

/-- HDMI has been connected until now. -/
def unplugHdmi : Composer :=
  let s := s.call (.notifyAudioHotplug false)
  let s := s.withDevice (drmHdcpDisableHdcp b false s.device)
  let s := ((s.setMode .hdmiConnected false).setMode .hdmiOn false).setMode .hdcpOn false
  let s := ((s.setMode .hdmiClone false).setMode .hdmiVideoExt false).setMode .overlayOff false
  s.broadcastMode.call .onHdmiDisconnected

/-- Common case, HDMI is disconnected. -/
def hdmiIsDisconnected (connectStatus : Int) : Composer :=
  if checkMode s.mMode .hdmiConnected = false then s.broadcastMode.setConnectStatus connectStatus
  else (s.unplugHdmi b).setConnectStatus connectStatus

/-- The plug event of an output that is not allowed. -/
def notifyPlug (connectStatus : Int) (notifyAudioHotplug : Bool) : Composer :=
  if s.mConnectStatus ≠ connectStatus ∧ notifyAudioHotplug ∧ s.mDrmInit then
    (s.call (.notifyAudioHotplug true)).setConnectStatus connectStatus
  else s

/-- HDMI has been on until now; it is not allowed. -/
def turnOffHdmi : Composer :=
  let s :=
    if checkMode s.mMode .hdcpOn then s.withDevice (drmHdcpDisableHdcp b true s.device) else s
  let s := (s.setMode .hdcpOn false).setMode .hdmiOn false
  let s := (s.setMode .hdmiClone false).setMode .hdmiVideoExt false
  s.broadcastMode.call .setHdmiVideoOff

/-- Common case, check HDMI policy. -/
def hdmiIsNotAllowed : Composer :=
  if checkMode s.mMode .hdmiOn = false then s.broadcastMode else s.turnOffHdmi b

/-- The mode that the listeners are told during the transition. -/
def transitionalMode : Mode :=
  setFlag (setFlag (setFlag s.mMode .hdmiClone false) .hdmiVideoExt false) .overlayOff true

/-- Before HDMI mode change, disable HDCP. -/
def turnOffHdcp : Composer :=
  if checkMode s.mMode .hdcpOn then
    (s.withDevice (drmHdcpDisableHdcp b true s.device)).setMode .hdcpOn false
  else s

/-- Common case, notify HWC to set HDMI timing if need; dynamic setting is always enabled. -/
def notifyTiming : Composer :=
  if s.mVideo.isPlaying then
    (s.setHdmiTimingL r (r.getTiming true
      ⟨s.mVideo.frameRate.toInt, s.mVideo.displayW.toInt, s.mVideo.displayH.toInt, 0, 0⟩)).2
  else (s.setHdmiTimingL r (r.getTiming false ⟨0, 0, 0, 0, 0⟩)).2

/-- Common case, turn on HDCP. -/
def turnOnHdcp : Composer :=
  if (drmHdcpEnableHdcp b r.hdcp s.device).1 = false then
    s.withDevice (drmHdcpEnableHdcp b r.hdcp s.device).2
  else (s.withDevice (drmHdcpEnableHdcp b r.hdcp s.device).2).setMode .hdcpOn true

/-- The new output. -/
def setOutput : Composer :=
  if s.mVideo.isPlaying then
    ((s.setMode .hdmiVideoExt true).setMode .hdmiClone false).setMipiPolicy mdsMipiOffAllowed
  else (s.setMode .hdmiVideoExt false).setMode .hdmiClone true

/-- Common case, turn on HDMI if need. -/
def turnOnHdmi : Composer :=
  if checkMode s.mMode .hdmiOn = false then
    ((s.call .setHdmiVideoOn).setMode .hdmiOn true).broadcastMode
  else s

/-- Common case, notify HWC to turn on Overlay if need. -/
def turnOnOverlay : Composer :=
  if checkMode s.mMode .hdmiVideoExt then s.setMode .overlayOff false else s

/-- Common case, notify audio driver if need. -/
def notifyAudio (notifyAudioHotplug : Bool) : Composer :=
  if notifyAudioHotplug ∧ s.mDrmInit then s.call (.notifyAudioHotplug true) else s

/-- From one output to another. -/
def switchHdmi : Composer :=
  let s := s.broadcastMessageL (.modeChange s.transitionalMode)
  let s := ((s.turnOffHdcp b).notifyTiming r).turnOnHdcp b r
  let s := (s.setMode .overlayOff true).setOutput.broadcastMode
  s.turnOnHdmi.turnOnOverlay.broadcastMode

/-- HDMI is connected and allowed. -/
def hdmiIsAllowed (notifyAudioHotplug : Bool) : Composer :=
  if s.mVideo.isPlaying ∧ checkMode s.mMode .hdmiVideoExt then s.broadcastMode
  else if s.mVideo.isPlaying = false ∧ checkMode s.mMode .hdmiClone then s.broadcastMode
  else (s.switchHdmi b r).notifyAudio notifyAudioHotplug

/-- From the state of the cable on. -/
def followCable (connectStatus : Int) : Composer :=
  if connectStatus = drmHdmiDisconnected then s.hdmiIsDisconnected b connectStatus
  else
    let notifyAudioHotplug := !checkMode s.mMode .hdmiConnected
    let s := s.setMode .hdmiConnected true
    if s.mHdmiPolicy = mdsHdmiOnNotAllowed then
      (s.notifyPlug connectStatus notifyAudioHotplug).hdmiIsNotAllowed b
    else (s.setConnectStatus connectStatus).hdmiIsAllowed b r notifyAudioHotplug

/-- DVI is connected but is not supported. -/
def isRejected : Bool := b.dviSupported = false ∧ r.connectionStatus = drmDviConnected

def setHdmiModeL : Int × Composer :=
  let s := s.updateVideoStatus
  let connectStatus := r.connectionStatus
  if isRejected b r then (mdsError, s.broadcastMode.setConnectStatus connectStatus)
  else (mdsNoError, (s.turnOnMipi connectStatus).followCable b r connectStatus)

/-! ### The other methods -/

def setMipiModeL (on : Bool) : Int × Composer :=
  if s.mMipiOn = on then (mdsNoError, s)
  else if on then
    (mdsNoError, ((s.call (.mipiSetMode true)).setMode .mipiOn true).setMipiOn on)
  else if s.mWidiVideoExt = false then
    if checkMode s.mMode .hdmiVideoExt = false then (mdsError, s.broadcastMode)
    else
      let s :=
        if s.mMipiPolicy = mdsMipiOffAllowed then
          (s.call (.mipiSetMode false)).setMode .mipiOn false
        else s
      (mdsNoError, s.setMipiOn on)
  else (mdsNoError, ((s.call (.mipiSetMode false)).setMode .mipiOn false).setMipiOn on)

/-- The policies for the panel. -/
def mipiOffNotAllowed : Composer :=
  let s := s.setMipiPolicy mdsMipiOffNotAllowed
  let s := if checkMode s.mMode .mipiOn = false then s.call (.mipiSetMode true) else s
  ((s.setMode .mipiOn true).setMipiOn true).broadcastMode

def mipiOffAllowed : Composer :=
  let s := s.setMipiPolicy mdsMipiOffAllowed
  let s := if checkMode s.mMode .mipiOn then s.call (.mipiSetMode false) else s
  ((s.setMode .mipiOn false).setMipiOn false).broadcastMode

def setModePolicyL (policy : Int) : Int × Composer :=
  if policy = mdsHdmiOnNotAllowed ∨ policy = mdsHdmiOnAllowed then
    { s with mHdmiPolicy := policy }.setHdmiModeL b r
  else if policy = mdsMipiOffNotAllowed then (mdsNoError, s.mipiOffNotAllowed)
  else if policy = mdsMipiOffAllowed then (mdsNoError, s.mipiOffAllowed)
  else (mdsError, s)

/-- `MDC_CHECK_INIT()` and the rest of a method. -/
def checkInit (rest : Composer → Int × Composer) : Int × Composer :=
  if s.mDrmInit = false then (mdsError, s) else rest s

/-- The lock is free between two operations. -/
def getMode : Int × Composer := s.checkInit fun s => (s.mMode.toInt, s)

def notifyWidi (on : Bool) : Int × Composer :=
  s.checkInit fun s => (mdsNoError, { s with mWidiVideoExt := on }.setMode .widiOn on)

def notifyMipi (on : Bool) : Int × Composer :=
  s.checkInit fun s =>
    (mdsNoError, { s with mMipiReq := if on then .mipiOnReq else .mipiOffReq })

def setHdmiPowerOff : Int × Composer :=
  s.checkInit fun s => (mdsNoError, s.call .setHdmiPowerOff)

def prepareForVideo (status : Int) : Int × Composer :=
  s.checkInit fun s =>
    if s.mVideoState = status then (mdsNoError, s)
    else
      let s := { s with mVideoState := status }.broadcastMessageL (.setVideoStatus status)
      if status = mdsVideoUnprepared then { s with mVideo := noVideo }.setHdmiModeL b r
      else (mdsNoError, s)

def getVideoState : Int × Composer := s.checkInit fun s => (s.mVideoState, s)

def updateVideoInfo (info : MdsVideoSourceInfo) : Int × Composer :=
  s.checkInit fun s => { s with mVideo := info }.setHdmiModeL b r

def setDisplayScalingLocked (mode stepx stepy : UInt32) : Int × Composer :=
  if s.mSurfaceComposer = false ∧ r.surfaceFlinger = false then (-1, s)
  else
    (r.scalingReply,
      { s with mSurfaceComposer := true }.call
        (.scalingSetting (mode ||| stepx <<< 16 ||| stepy <<< 24)))

def notifyHotPlug : Int × Composer :=
  s.checkInit fun s =>
    let result := s.setHdmiModeL b r
    let s := result.2
    if r.isDeviceChanged ∧ s.mConnectStatus = drmHdmiConnected then
      (result.1, (s.setDisplayScalingLocked r 0 0 0).2)
    else (result.1, s)

def setModePolicy (policy : Int) : Int × Composer :=
  s.checkInit fun s => s.setModePolicyL b r policy

/-- A null name is `none`. -/
def registerListener (listener : Option ListenerRef) (handle : Handle)
    (name : Option (List UInt8)) (msg : BitVec 32) : Int × Composer :=
  s.checkInit fun s =>
    match name with
    | none => (mdsError, s)
    | some name =>
        if msg = 0 then (mdsError, s)
        else if (s.mListener.lookup handle).isSome then (mdsError, s)
        else (mdsNoError,
          { s with mListener := s.mListener.add handle ⟨msg, name, listener⟩ })

def unregisterListener (handle : Handle) : Int × Composer :=
  s.checkInit fun s => (mdsNoError, { s with mListener := s.mListener.removeItem handle })

/-- With the arrays, when the client wants them. -/
def getHdmiModeInfo : Int × List MdsHdmiTiming :=
  if s.mDrmInit = false then (mdsError, [])
  else ((drmHdmiGetModeInfo r.connector).length, drmHdmiGetModeInfo r.connector)

/-- `timing` is not initialised; what `drm_hdmi_getTiming` leaves in it is up to the device. -/
def setHdmiModeInfo (timing : MdsHdmiTiming) : Int × Composer :=
  s.checkInit fun s =>
    let s := s.call (.setModeInfo timing)
    let s := (s.setHdmiTimingL r (r.getTiming false timing)).2
    (mdsNoError, s.broadcastMode)

def setHdmiScaleType (type : Int) : Int × Composer :=
  s.checkInit fun s =>
    let s := { s with mScaleMode := UInt32.ofInt type }
    s.setDisplayScalingLocked r s.mScaleMode s.mScaleStepX s.mScaleStepY

/-- `(value > 5) ? 0 : (5 - value)`. -/
def scaleStep (value : Int) : UInt32 := if value > 5 then 0 else UInt32.ofInt (5 - value)

def setHdmiScaleStep (hValue vValue : Int) : Int × Composer :=
  s.checkInit fun s =>
    let s := { s with mScaleStepX := scaleStep hValue, mScaleStepY := scaleStep vValue }
    s.setDisplayScalingLocked r s.mScaleMode s.mScaleStepX s.mScaleStepY

def getHdmiDeviceChange : Int × Composer :=
  s.checkInit fun s => (if r.isDeviceChanged then 1 else 0, s)

/-- The video's `dw`, `dh`, `fps` and `interlaced`, when it is playing. -/
def getVideoInfo : Int × Option MdsVideoSourceInfo :=
  if s.mDrmInit = false then (mdsError, none)
  else if s.mVideo.isPlaying = false then (mdsError, none)
  else (mdsNoError, some s.mVideo)

def getDisplayCapability : Int × Composer := (s.mDisplayCapability.toInt, s)

/-! ### The constructor -/

/-- What the constructor finds: `drm_init`, `drm_hdmi_isSupported`, and `mVideoState`, which it
does not assign. -/
structure Boot where
  drmInit : Bool
  hdmiSupported : Bool
  videoState : Int
  results : DrmResults

/-- The members before `initialize_l`. -/
def blank (boot : Boot) : Composer where
  mDrmInit := false
  mMode := 0
  mDisplayCapability := mdsHwSupportWidi
  mHdmiPolicy := mdsHdmiOnAllowed
  mMipiPolicy := mdsMipiOffNotAllowed
  mMipiOn := true
  mMipiReq := .noMipiReq
  mWidiVideoExt := false
  mListener := KeyedVector.empty
  mConnectStatus := 0
  mVideo := noVideo
  mVideoState := boot.videoState
  mSurfaceComposer := false
  mScaleMode := 0
  mScaleStepX := 0
  mScaleStepY := 0
  device := ⟨0, []⟩

/-- The constructor. -/
def construct (boot : Boot) : Composer :=
  let s := blank boot
  if boot.drmInit = false then s
  else
    let s := { s with mDrmInit := true }
    let s :=
      if boot.hdmiSupported then
        ({ s with mDisplayCapability := s.mDisplayCapability ||| mdsHwSupportHdmi }.setModePolicyL b
          boot.results mdsHdmiOnAllowed).2
      else s
    (s.setModePolicyL b boot.results mdsMipiOffNotAllowed).2

end Composer

/-! ### Calls of clients -/

inductive Operation where
  | getMode
  | setModePolicy (policy : Int)
  | notifyWidi (on : Bool)
  | notifyMipi (on : Bool)
  | notifyHotPlug
  | setHdmiPowerOff
  | prepareForVideo (status : Int)
  | getVideoState
  | updateVideoInfo (info : MdsVideoSourceInfo)
  | registerListener (listener : Option ListenerRef) (handle : Handle) (name : Option (List UInt8))
      (msg : BitVec 32)
  | unregisterListener (handle : Handle)
  | getHdmiModeInfo
  | setHdmiModeInfo (timing : MdsHdmiTiming)
  | setHdmiScaleType (type : Int)
  | setHdmiScaleStep (hValue vValue : Int)
  | getHdmiDeviceChange
  | getVideoInfo
  | getDisplayCapability

/-- A call, with its result. -/
def perform (b : Build) (r : DrmResults) (s : Composer) : Operation → Int × Composer
  | .getMode => s.getMode
  | .setModePolicy policy => s.setModePolicy b r policy
  | .notifyWidi on => s.notifyWidi on
  | .notifyMipi on => s.notifyMipi on
  | .notifyHotPlug => s.notifyHotPlug b r
  | .setHdmiPowerOff => s.setHdmiPowerOff
  | .prepareForVideo status => s.prepareForVideo b r status
  | .getVideoState => s.getVideoState
  | .updateVideoInfo info => s.updateVideoInfo b r info
  | .registerListener listener handle name msg => s.registerListener listener handle name msg
  | .unregisterListener handle => s.unregisterListener handle
  | .getHdmiModeInfo => ((s.getHdmiModeInfo r).1, s)
  | .setHdmiModeInfo timing => s.setHdmiModeInfo r timing
  | .setHdmiScaleType type => s.setHdmiScaleType r type
  | .setHdmiScaleStep hValue vValue => s.setHdmiScaleStep r hValue vValue
  | .getHdmiDeviceChange => s.getHdmiDeviceChange r
  | .getVideoInfo => (s.getVideoInfo.1, s)
  | .getDisplayCapability => s.getDisplayCapability

end CtpCommon.Display
