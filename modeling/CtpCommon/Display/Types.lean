import CtpCommon.Lib.Flags
import CtpCommon.Lib.KeyedVector

/-!
# The display service: words, messages and calls

`MultiDisplayType.h`, the listeners of `MultiDisplayComposer.h`, and what the service calls outside
of itself.  The mode is one word of flags; the device answers every call as it likes, so its
answers during one operation are an argument, and the calls are kept in order.

* `MdsMode`, `mdsMode` — the flags of the mode and their bits;
* `MultiDisplayListener`, `checkMsg` — a registered listener and its subscription;
* `Effect` — a call to the device, or a message to a listener;
* `DrmResults` — what the calls of one operation return.
-/

namespace CtpCommon.Display

def mdsNoError : Int := 0
def mdsError : Int := -1

/-! ### The mode -/

inductive MdsMode where
  | mipiOn
  | dviConnected
  | hdmiConnected
  | hdmiOn
  | hdmiClone
  | hdmiVideoExt
  | widiOn
  | videoPlaying
  | hdcpOn
  | overlayOff
  deriving DecidableEq, Repr

/-- `int mMode`. -/
abbrev Mode := BitVec 32

/-- The bits of `MDSMode`. -/
def mdsMode : FlagWord MdsMode 32 where
  shift
    | .mipiOn => 0
    | .dviConnected => 1
    | .hdmiConnected => 3
    | .hdmiOn => 4
    | .hdmiClone => 5
    | .hdmiVideoExt => 6
    | .widiOn => 7
    | .videoPlaying => 23
    | .hdcpOn => 24
    | .overlayOff => 25
  shift_lt f := by cases f <;> decide
  shift_inj f g h := by cases f <;> cases g <;> first | rfl | exact absurd h (by decide)

abbrev checkMode (value : Mode) (bit : MdsMode) : Bool := mdsMode.check value bit

/-- `mode |= MDS_X` or `mode &= ~MDS_X`. -/
def setFlag (mode : Mode) (bit : MdsMode) (on : Bool) : Mode :=
  if on then mdsMode.raise mode bit else mdsMode.lower mode bit

@[simp] theorem checkMode_setFlag (mode : Mode) (f g : MdsMode) (on : Bool) :
    checkMode (setFlag mode f on) g = if g = f then on else checkMode mode g := by
  unfold setFlag
  cases on
  · by_cases h : g = f <;> simp [h]
  · by_cases h : g = f <;> simp [h]

theorem setFlag_eq_self_iff (mode : Mode) (f : MdsMode) (on : Bool) :
    setFlag mode f on = mode ↔ checkMode mode f = on := by
  cases on with
  | false => exact mdsMode.lower_eq_self_iff mode f
  | true => exact mdsMode.raise_eq_self_iff mode f

def mdsHdmiOnNotAllowed : Int := 0
def mdsHdmiOnAllowed : Int := 1
def mdsMipiOffNotAllowed : Int := 2
def mdsMipiOffAllowed : Int := 3

def mdsHwSupportHdmi : BitVec 32 := 0x1
def mdsHwSupportWidi : BitVec 32 := 0x2

def mdsVideoUnprepared : Int := 4

/-- `drm_hdmi_getConnectionStatus`. -/
def drmHdmiDisconnected : Int := 0
def drmHdmiConnected : Int := 1
def drmDviConnected : Int := 2

/-! ### Video -/

structure MdsVideoSourceInfo where
  isPlaying : Bool
  isProtected : Bool
  frameRate : Int32
  displayW : Int32
  displayH : Int32
  isInterlaced : Bool
  deriving DecidableEq, Repr

/-- All zero. -/
def noVideo : MdsVideoSourceInfo := ⟨false, false, 0, 0, 0, false⟩

structure MdsHdmiTiming where
  refresh : Int
  width : Int
  height : Int
  interlace : Int
  ratio : Int
  deriving DecidableEq, Repr

/-- `drmModeModeInfo`. -/
structure DrmMode where
  hdisplay : UInt16
  vdisplay : UInt16
  vrefresh : BitVec 32
  flags : BitVec 32
  deriving DecidableEq, Repr

/-- `drmModeConnector`. -/
structure DrmModeConnector where
  countModes : Int
  modes : ℕ → DrmMode

/-! ### Listeners -/

/-- A `void *` of a client. -/
abbrev Handle := Fin 4294967296

/-- An `IExtendDisplayListener` object. -/
abbrev ListenerRef := ℕ

/-- A message for all listeners, with its value. -/
inductive MdsMessage where
  | modeChange (mode : Mode)
  | setVideoStatus (status : Int)
  deriving DecidableEq, Repr

/-- `MDSMessageType`. -/
def mdsModeChange : BitVec 32 := 0x1
def mdsSetTiming : BitVec 32 := 0x2
def mdsSetVideoStatus : BitVec 32 := 0x4

def MdsMessage.msg : MdsMessage → BitVec 32
  | .modeChange _ => mdsModeChange
  | .setVideoStatus _ => mdsSetVideoStatus

structure MultiDisplayListener where
  mMsg : BitVec 32
  mName : List UInt8
  mIEListener : Option ListenerRef
  deriving DecidableEq, Repr

def MultiDisplayListener.checkMsg (l : MultiDisplayListener) (msg : BitVec 32) : Bool :=
  msg &&& l.mMsg != 0

/-- The characters of `HWComposer`. -/
def hwComposer : List UInt8 := [72, 87, 67, 111, 109, 112, 111, 115, 101, 114]

/-! ### Calls -/

/-- What happens outside of the composer.  `broadcast` marks the start of `broadcastMessage_l`;
`onMdsMessage` is the delivery to the listener registered under a handle. -/
inductive Effect where
  | mipiSetMode (on : Bool)
  | setHdmiVideoOn
  | setHdmiVideoOff
  | setHdmiPowerOff
  | onHdmiDisconnected
  | setModeInfo (timing : MdsHdmiTiming)
  | notifyAudioHotplug (plugin : Bool)
  | displayIed (on : Bool)
  | hdcpEnable
  | hdcpDisable
  | broadcast (message : MdsMessage)
  | onMdsMessage (handle : Handle) (listener : ListenerRef) (message : MdsMessage)
  | setTiming (handle : Handle) (listener : ListenerRef) (timing : MdsHdmiTiming)
  | scalingSetting (scale : UInt32)
  deriving DecidableEq, Repr

/-- What the calls of `drm_hdcp.cpp` return during one operation. -/
structure HdcpResults where
  /-- `atoi` of `debug.mds.hdcp.enable`, unless the property is empty. -/
  property : Option Int
  /-- `drm_hdcp_enable` at each try. -/
  enable : ℕ → Bool
  /-- `drm_hdmi_getConnectionStatus` at each try. -/
  status : ℕ → Int
  /-- `drm_hdcp_isAuthenticated` at each try. -/
  authenticated : ℕ → Bool
  /-- The id `timer_create` gives, unless it fails. -/
  timerCreate : Option ℕ
  /-- An id is not `0`. -/
  timer_ne_zero : timerCreate ≠ some 0
  /-- `timer_settime` succeeds. -/
  timerSettime : Bool

/-- What the calls of one operation return. -/
structure DrmResults where
  connectionStatus : Int
  /-- `drm_hdmi_getTiming`, for `DRM_HDMI_VIDEO_EXT` and for `DRM_HDMI_CLONE`. -/
  getTiming : Bool → MdsHdmiTiming → MdsHdmiTiming
  /-- What the listener of `HWComposer` returns. -/
  timingReply : Int
  isDeviceChanged : Bool
  /-- `getHdmiConnector`, when HDMI is supported and connected. -/
  connector : Option DrmModeConnector
  /-- `getService("SurfaceFlinger")` finds it. -/
  surfaceFlinger : Bool
  scalingReply : Int
  hdcp : HdcpResults

/-- The macros of the build. -/
structure Build where
  dviSupported : Bool
  enableHdcp : Bool

end CtpCommon.Display
