import CtpCommon.Display.Calls
import CtpCommon.Display.Edid
import CtpCommon.Display.ModeList
import CtpCommon.Display.Timing

/-!
# The service over its display

The composer asks `drm_hdmi.cpp` for the sink, and `drm_hdmi.cpp` keeps a context from one call to
the next.  Here the two run together: the answers of one operation are computed from the context
and from what the device says then, and the calls of the operation move the context on.

* `Environment` — what the device, the client and the stack hold during one operation;
* `Tracked`, `Environment.follow` — the context, and what a call of the composer makes of it;
* `Environment.answers` — the answers that the composer gets;
* `Service`, `displayService` — the composer over its context, step by step;
* `displayService_mds` — **PROVED**: its composer is the one of the running service.
-/

namespace CtpCommon.Display

open Composer

/-! ### The context in motion -/

structure Environment where
  /-- The connectors, when the composer asks for the state of the cable. -/
  resources : DrmResources
  /-- The connectors at each try of `drm_hdcp_enable_and_check`. -/
  atTry : ℕ → DrmResources
  /-- The arrays of a client of `getHdmiModeInfo`. -/
  pointers : ModePointers
  /-- What is on the stack where `setHdmiModeInfo` has its `timing`. -/
  uninitialized : MdsHdmiTiming
  /-- The answers that the context has no part in. -/
  others : DrmResults

/-- A timing that was delivered, with the context at that time and the mode that was last chosen
for the sink of this context. -/
structure Delivery where
  timing : MdsHdmiTiming
  context : DrmContext
  chosen : Option MdsHdmiTiming

/-- The context, how often the operation has tried to enable HDCP, and a record of the past: the
mode last chosen while a sink with this product information was connected, and the timings. -/
structure Tracked where
  context : DrmContext
  tries : ℕ
  chosen : List UInt8 → Option MdsHdmiTiming
  delivered : List Delivery

/-- A mode as `gDrmCxt` stores it. -/
def MdsHdmiTiming.stored (timing : MdsHdmiTiming) : MdsHdmiTiming :=
  { timing with refresh := toUnsigned timing.refresh }

namespace Environment

variable (e : Environment)

/-- What a call makes of the context.  `drm_hdcp_enable_and_check` asks for the state of the cable
after a try that fails. -/
def follow (t : Tracked) : Effect → Tracked
  | .onHdmiDisconnected => { t with context := drmHdmiOnHdmiDisconnected t.context }
  | .hdcpEnable =>
      { t with
        context :=
          if e.others.hdcp.enable t.tries = false then
            (drmHdmiGetConnectionStatus (e.atTry t.tries) t.context).context
          else t.context
        tries := t.tries + 1 }
  | .setModeInfo timing =>
      { t with
        context := (drmHdmiSetModeInfo timing t.context).2
        chosen :=
          if t.context.connected then
            Function.update t.chosen t.context.productInfo (some timing.stored)
          else t.chosen }
  | .setTiming _ _ timing =>
      { t with delivered := t.delivered ++ [⟨timing, t.context, t.chosen t.context.productInfo⟩] }
  | _ => t

/-! ### The answers -/

/-- `drm_hdmi_getTiming`, called after the state of the cable was asked for, or with the mode that
a client has just chosen. -/
def getTiming (c : DrmContext) : Operation → Bool → MdsHdmiTiming → MdsHdmiTiming
  | .setHdmiModeInfo timing, _, _ =>
      (drmHdmiGetTiming e.resources drmHdmiClone e.uninitialized
        (drmHdmiSetModeInfo timing c).2).2.1
  | _, video, info =>
      (drmHdmiGetTiming e.resources (if video then drmHdmiVideoExt else drmHdmiClone) info
        (drmHdmiGetConnectionStatus e.resources c).context).2.1

/-- The status is the same for every context, as long as HDMI is supported. -/
def hdcp (c : DrmContext) : HdcpResults :=
  { e.others.hdcp with status := fun i => (drmHdmiGetConnectionStatus (e.atTry i) c).status }

def connector (c : DrmContext) : Option DrmModeConnector :=
  if c.hdmiSupported = false ∨ c.connected = false then none
  else (getHdmiConnector e.resources c).1.map fun x => ⟨x.modes.length, x.mode⟩

def answers (c : DrmContext) (isDeviceChanged : Bool) (op : Operation) : DrmResults :=
  { e.others with
    connectionStatus := (drmHdmiGetConnectionStatus e.resources c).status
    getTiming := e.getTiming c op
    isDeviceChanged := isDeviceChanged
    connector := e.connector c
    hdcp := e.hdcp c }

/-- What an operation makes of the context before the first of its calls that are logged. -/
def enter (s : Composer) (c : DrmContext) (op : Operation) : DrmContext :=
  if s.setsHdmiMode op then (drmHdmiGetConnectionStatus e.resources c).context
  else if s.mDrmInit = false then c
  else
    match op with
    | .getHdmiModeInfo => (drmHdmiGetModeInfoArrays e.resources e.pointers.checked c).2
    | .getHdmiDeviceChange => (drmHdmiIsDeviceChanged true c).2
    | _ => c

end Environment

/-! ### The service -/

/-- The calls from one device to the next. -/
def callsSince (d d' : Device) : List Effect := d'.log.drop d.log.length

theorem callsSince_eq {d d' : Device} {l : List Effect} (h : d'.log = d.log ++ l) :
    callsSince d d' = l := by
  unfold callsSince
  rw [h, List.drop_left]

structure Service where
  mds : MdsState
  tracked : Tracked

inductive ServiceAction where
  | call (op : Operation) (e : Environment)
  | mipiRequest
  | setMipiMode
  | checkLinkStatus (isAuthenticated : Bool) (e : Environment)

namespace Service

variable (b : Build) (s : Service)

def composer : Composer := s.mds.composer

def context : DrmContext := s.tracked.context

/-- The context after an operation, when the composer is now this one. -/
def after (op : Operation) (e : Environment) (t : Composer) : Tracked :=
  (callsSince s.composer.device t.device).foldl e.follow
    { s.tracked with context := e.enter s.composer s.context op, tries := 0 }

/-- `drm_hdmi_isDeviceChanged`: `notifyHotPlug` calls it after the transition. -/
def isDeviceChanged (e : Environment) : Operation → Bool
  | .notifyHotPlug =>
      (s.after .notifyHotPlug e
        (s.composer.setHdmiModeL b (e.answers s.context false .notifyHotPlug)).2).context.newDevice
  | _ => s.context.newDevice

def asMds : ServiceAction → MdsAction
  | .call op e => .call op (e.answers s.context (s.isDeviceChanged b e op) op)
  | .mipiRequest => .mipiRequest
  | .setMipiMode => .setMipiMode
  | .checkLinkStatus isAuthenticated e => .checkLinkStatus isAuthenticated (e.hdcp s.context)

/-- The context after a step; the MIPI thread leaves it alone. -/
def track (t : Composer) : ServiceAction → Tracked
  | .call op e => s.after op e t
  | .checkLinkStatus _ e =>
      (callsSince s.composer.device t.device).foldl e.follow { s.tracked with tries := 0 }
  | .mipiRequest => s.tracked
  | .setMipiMode => s.tracked

def next (a : ServiceAction) : Option Service :=
  (step b s.mds (s.asMds b a)).map fun t => ⟨t, s.track t.composer a⟩

end Service

/-- What the constructor finds: whether `drm_init` succeeds, the connectors then, `mVideoState`, and
what the device says during the first transition. -/
structure Startup where
  drmInit : Bool
  resources : DrmResources
  videoState : Int
  environment : Environment

namespace Startup

variable (u : Startup)

def context : DrmContext := CtpCommon.Display.drmInit (if u.drmInit then u.resources else none)

def boot : Boot where
  drmInit := u.drmInit
  hdmiSupported := u.context.hdmiSupported
  videoState := u.videoState
  results := u.environment.answers u.context false (.setModePolicy mdsHdmiOnAllowed)

/-- The context after the constructor. -/
def tracked (b : Build) : Tracked :=
  (construct b u.boot).device.log.foldl u.environment.follow
    { context :=
        if u.context.hdmiSupported then
          (drmHdmiGetConnectionStatus u.environment.resources u.context).context
        else u.context
      tries := 0
      chosen := fun _ => none
      delivered := [] }

end Startup

def displayService (b : Build) (u : Startup) : Runs.System Service ServiceAction :=
  ⟨⟨⟨construct b u.boot, none⟩, u.tracked b⟩, Service.next b⟩

theorem next_eq {b : Build} {s t : Service} {a : ServiceAction} (h : s.next b a = some t) :
    step b s.mds (s.asMds b a) = some t.mds ∧ t.tracked = s.track t.composer a := by
  obtain ⟨mds, hstep, rfl⟩ := Option.map_eq_some_iff.mp h
  exact ⟨hstep, rfl⟩

/-- **The composer** of this service is the one of the running service. -/
theorem displayService_mds {b : Build} {u : Startup} {ok : Service → ServiceAction → Prop}
    {s : Service} (h : Runs.Reaches (displayService b u) ok s) :
    Runs.Reachable (mds b u.boot) s.mds := by
  have hinit : Runs.Reachable (mds b u.boot) (displayService b u).init.mds :=
    Runs.Reaches.init (M := mds b u.boot)
  refine h.invariant (I := fun s => Runs.Reachable (mds b u.boot) s.mds) hinit ?_
  intro s t a hs _ hst
  exact Runs.Reachable.next (M := mds b u.boot) hs (next_eq hst).1

/-- A device with these connectors, the same at every call. -/
def Environment.simple (resources : DrmResources) (uninitialized : MdsHdmiTiming) :
    Environment where
  resources := resources
  atTry _ := resources
  pointers := .null
  uninitialized := uninitialized
  others := DrmResults.simple drmHdmiDisconnected true

/-- HDMI is supported, and there is no cable. -/
def Startup.simple : Startup where
  drmInit := true
  resources := some [some ⟨drmModeConnectorDvid, [], []⟩]
  videoState := 0
  environment := .simple none ⟨0, 0, 0, 0, 0⟩

end CtpCommon.Display
