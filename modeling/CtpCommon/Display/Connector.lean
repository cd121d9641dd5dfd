import CtpCommon.Display.ModeInfo

/-!
# The connector of the sink

The data of `drm_hdmi.cpp`: what the DRM device says of a connector, and the context that the file
keeps of the sink between two calls.

* `DrmModeModeInfo`, `DrmConnector` — a mode with its type, the connector with its properties;
* `DrmResources`, `getConnector` — what the device answers, and the search for a connector;
* `DrmContext`, `drmInit` — `gDrmCxt`, and its state after `drm_init`;
* `getHdmiConnector`, `drmHdmiSetTiming`, `drmHdmiIsDeviceChanged`, … — the short functions.
-/

namespace CtpCommon.Display

/-! ### What the device answers -/

/-- `DRM_MODE_TYPE_PREFERRED`. -/
def drmModeTypePreferred : BitVec 32 := BitVec.twoPow 32 3

/-- `drmModeModeInfo`, with its type. -/
structure DrmModeModeInfo extends DrmMode where
  type : BitVec 32
  deriving DecidableEq, Repr

/-- A blob of `drmModeGetPropertyBlob`, with the memory from `data` on unless that is null. -/
structure DrmBlob where
  length : ℕ
  data : Option (ℕ → UInt8)

/-- A property of a connector, with the blob that its value names. -/
structure DrmProperty where
  name : Option (List UInt8)
  blob : Option DrmBlob

/-- `drmModeConnector`.  `count_modes` is the length of `modes`, which is null if there are none;
a property that `drmModeGetProperty` does not find is `none`. -/
structure DrmConnector where
  connectorType : ℕ
  modes : List DrmModeModeInfo
  props : List (Option DrmProperty)

/-- The connectors of `drmModeGetResources`, unless it fails; one that `drmModeGetConnector` does
not find is `none`. -/
abbrev DrmResources := Option (List (Option DrmConnector))

/-- `DRM_MODE_CONNECTOR_DVID`. -/
def drmModeConnectorDvid : ℕ := 3

def getConnector (resources : DrmResources) (connectorType : ℕ) : Option DrmConnector :=
  resources.bind fun connectors =>
    connectors.findSome? fun connector => connector.filter fun c => c.connectorType = connectorType

/-! ### The context -/

/-- `EDID_PRODUCT_INFO_LEN`. -/
def edidProductInfoLen : ℕ := 8

/-- `gDrmCxt`, without the descriptor of the device. -/
structure DrmContext where
  hdmiSupported : Bool
  newDevice : Bool
  connected : Bool
  preferredModeIndex : ℕ
  modeValid : Bool
  modeSelected : MdsHdmiTiming
  productInfo : List UInt8
  hdmiConnector : Option DrmConnector

/-- After `drm_init`. -/
def drmInit (resources : DrmResources) : DrmContext where
  hdmiSupported := (getConnector resources drmModeConnectorDvid).isSome
  newDevice := false
  connected := false
  preferredModeIndex := 0
  modeValid := false
  modeSelected := ⟨0, 0, 0, 0, 0⟩
  productInfo := List.replicate edidProductInfoLen 0
  hdmiConnector := none

/-- The connector that is kept, or that the device has now; it must have modes. -/
def getHdmiConnector (resources : DrmResources) (c : DrmContext) :
    Option DrmConnector × DrmContext :=
  let hdmiConnector := c.hdmiConnector.or (getConnector resources drmModeConnectorDvid)
  (hdmiConnector.filter fun connector => connector.modes ≠ [],
    { c with hdmiConnector := hdmiConnector })

/-- `drm_hdmi_isDeviceChanged`. -/
def drmHdmiIsDeviceChanged (reset : Bool) (c : DrmContext) : Bool × DrmContext :=
  (c.newDevice, if reset then { c with newDevice := false } else c)

/-- `drm_hdmi_onHdmiDisconnected`. -/
def drmHdmiOnHdmiDisconnected (c : DrmContext) : DrmContext :=
  { c with connected := false, hdmiConnector := none }

/-- An `int` that is assigned to an `unsigned int`. -/
def toUnsigned (x : Int) : Int := x % 4294967296

/-- `drm_hdmi_setModeInfo`. -/
def drmHdmiSetModeInfo (timing : MdsHdmiTiming) (c : DrmContext) : Bool × DrmContext :=
  if c.hdmiSupported = false ∨ c.connected = false then (false, c)
  else
    (true, { c with
      modeSelected := { timing with refresh := toUnsigned timing.refresh }
      modeValid := true })

/-! ### Modes -/

/-- `drm_is_preferred_flags`: 16:9 over 4:3 and progressive over interlaced. -/
def drmIsPreferredFlags (flags : BitVec 32) : Bool :=
  flags &&& flagRatio14 ≠ 0 ∧ flags &&& drmModeFlagInterlace = 0

/-- What `drm_hdmi_setTiming` makes of a mode; `interlace` is the flag itself. -/
def DrmMode.setTiming (mode : DrmMode) : MdsHdmiTiming where
  refresh := mode.vrefresh.toNat
  width := mode.hdisplay.toNat
  height := mode.vdisplay.toNat
  interlace := (mode.flags &&& drmModeFlagInterlace).toInt
  ratio :=
    if mode.flags &&& flagRatio14 ≠ 0 then 2
    else if mode.flags &&& flagRatio15 ≠ 0 then 1 else 0

/-- `drm_hdmi_setTiming`; an index that is out of range gives zeros. -/
def drmHdmiSetTiming (modes : List DrmModeModeInfo) (index : ℕ) : MdsHdmiTiming :=
  match modes[index]? with
  | none => ⟨0, 0, 0, 0, 0⟩
  | some mode => mode.setTiming

theorem drmHdmiSetTiming_of_lt {modes : List DrmModeModeInfo} {index : ℕ}
    (h : index < modes.length) : drmHdmiSetTiming modes index = modes[index].setTiming := by
  unfold drmHdmiSetTiming
  rw [List.getElem?_eq_getElem h]

theorem getHdmiConnector_of_some {resources : DrmResources} {c : DrmContext}
    {connector : DrmConnector} (h : c.hdmiConnector = some connector)
    (hmodes : connector.modes ≠ []) :
    getHdmiConnector resources c = (some connector, c) := by
  have hsame : { c with hdmiConnector := some connector } = c := by rw [← h]
  unfold getHdmiConnector
  rw [h, Option.some_or]
  exact Prod.ext (by simp [hmodes]) hsame

/-- A mode of a list. -/
def DrmModeModeInfo.simple (hdisplay vdisplay : UInt16) (vrefresh flags type : BitVec 32) :
    DrmModeModeInfo := ⟨⟨hdisplay, vdisplay, vrefresh, flags⟩, type⟩

/-- A connector with these modes is connected. -/
def DrmContext.simple (modes : List DrmModeModeInfo) : DrmContext :=
  { drmInit none with
    hdmiSupported := true
    connected := true
    hdmiConnector := some ⟨drmModeConnectorDvid, modes, []⟩ }

end CtpCommon.Display
