import CtpCommon.Display.Calls
import CtpCommon.Lib.Monitor
import Mathlib.Data.List.GetD

/-!
# Inline encryption during authentication

Some receivers fail the authentication of HDCP while the display's inline encryption is on, so
`drm_hdcp_enable_hdcp_work` takes it off, tries up to four times, and puts it back.  The composer
does so under its lock; the timer that checks the link does so on a thread of its own, and
`drm_hdcp.cpp` has no lock between them.

* `Ied`, `Ied.step` — what one caller has told the driver; off, only an attempt may follow, or the
  end;
* `Bracketed` — the composer's calls can be read so;
* `drmHdcpEnableHdcp_bracketed` and the like — **PROVED**: the functions of the file keep it;
* `setHdmiModeL_bracketed`, `perform_bracketed` — **PROVED**: so does the composer;
* `Driver`, `DriverAction`, `driver` — the calls of the composer and of the timer's threads, one by
  one, in any order;
* `ied_bracketed` — **PROVED** of every run: each caller's own calls are bracketed, and the calls of
  all are, if they keep apart;
* `ied_overlapped` — **PROVED**: two checks of the link that do not keep apart.
-/

namespace CtpCommon.Display

open Composer

/-! ### What the driver is told -/

/-- Inline encryption is on, or it is off for a number of attempts. -/
inductive Ied where
  | on
  | off (tries : ℕ)
  deriving DecidableEq, Repr

def Ied.step : Ied → Effect → Option Ied
  | .on, .displayIed false => some (.off 0)
  | .on, .displayIed true => none
  | .on, .hdcpEnable => none
  | .on, _ => some .on
  | .off tries, .hdcpEnable => if tries < hdcpEnableNumOfTry then some (.off (tries + 1)) else none
  | .off tries, .displayIed true => if 0 < tries then some .on else none
  | .off _, _ => none

/-- The calls from one device to the next, read from the start, lead here. -/
def LeadsTo (d d' : Device) (ied : Ied) : Prop :=
  ∃ new, d'.log = d.log ++ new ∧ Monitor.run Ied.step .on new = some ied

/-- They can be read, and inline encryption is on again. -/
def Bracketed (d d' : Device) : Prop := LeadsTo d d' .on

theorem Ied.step_other {e : Effect} (h : e.isHdcp = false) : Ied.step .on e = some .on := by
  cases e <;> first | rfl | exact absurd h.symm Bool.false_ne_true

/-- Other calls are made while inline encryption is on, and leave it on. -/
theorem Ied.step_stays {s t : Ied} {e : Effect} (he : e.isHdcp = false)
    (h : Ied.step s e = some t) : t = s := by
  cases s with
  | on => exact Option.some.inj (h.symm.trans (Ied.step_other he))
  | off tries =>
    have hno : Ied.step (.off tries) e = none := by
      cases e <;> first | rfl | exact absurd he.symm Bool.false_ne_true
    exact absurd (h.symm.trans hno) (Option.some_ne_none t)

section

variable {d₀ d : Device} {ied ied' : Ied}

theorem LeadsTo.call (h : LeadsTo d₀ d ied) {e : Effect} (he : Ied.step ied e = some ied') :
    LeadsTo d₀ (d.call e) ied' := by
  obtain ⟨new, hlog, hrun⟩ := h
  refine ⟨new ++ [e], ?_, Monitor.run_snoc hrun he⟩
  show d.log ++ [e] = d₀.log ++ (new ++ [e])
  rw [hlog, List.append_assoc]

theorem Bracketed.refl (d : Device) : Bracketed d d := ⟨[], (List.append_nil _).symm, rfl⟩

theorem Bracketed.calls (h : Bracketed d₀ d) {new : List Effect}
    (hnew : ∀ e ∈ new, e.isHdcp = false) : Bracketed d₀ { d with log := d.log ++ new } := by
  obtain ⟨before, hlog, hrun⟩ := h
  refine ⟨before ++ new, ?_, Monitor.run_trans hrun ?_⟩
  · show d.log ++ new = d₀.log ++ (before ++ new)
    rw [hlog, List.append_assoc]
  · exact Monitor.run_quiet fun e he => Ied.step_other (hnew e he)

theorem Bracketed.call (h : Bracketed d₀ d) {e : Effect} (he : e.isHdcp = false) :
    Bracketed d₀ (d.call e) :=
  LeadsTo.call h (Ied.step_other he)

/-! ### The functions of `drm_hdcp.cpp` -/

/-- The loop of attempts. -/
theorem enableTries_leadsTo (r : HdcpResults) {left tries : ℕ} (i : ℕ)
    (hleft : left + tries = hdcpEnableNumOfTry) (h : LeadsTo d₀ d (.off tries)) :
    ∃ tries', tries + min left 1 ≤ tries' ∧
      LeadsTo d₀ (enableTries r left i d).2 (.off tries') := by
  induction left generalizing tries i d with
  | zero => exact ⟨tries, by omega, h⟩
  | succ left ih =>
    have hcall : LeadsTo d₀ (d.call .hdcpEnable) (.off (tries + 1)) := by
      refine h.call ?_
      simp only [Ied.step]
      rw [if_pos (by omega)]
    have hrest := ih (i + 1) (by omega) hcall
    unfold enableTries
    dsimp only
    split_ifs
    · exact ⟨tries + 1, by omega, hcall⟩
    · obtain ⟨tries', hmore, hled⟩ := hrest
      exact ⟨tries', by omega, hled⟩
    · exact ⟨tries + 1, by omega, hcall⟩
    · obtain ⟨tries', hmore, hled⟩ := hrest
      exact ⟨tries', by omega, hled⟩

/-- **An authentication** takes the encryption off and puts it back. -/
theorem drmHdcpEnableHdcpWork_bracketed (r : HdcpResults) (h : Bracketed d₀ d) :
    Bracketed d₀ (drmHdcpEnableHdcpWork r d).2 := by
  have hoff : LeadsTo d₀ (d.call (.displayIed false)) (.off 0) := LeadsTo.call h rfl
  obtain ⟨tries, htries, htried⟩ := enableTries_leadsTo r 0 rfl hoff
  refine htried.call ?_
  have hpos : 0 < tries := by omega
  simp only [Ied.step]
  rw [if_pos hpos]

theorem drmHdcpEnableHdcp_bracketed (b : Build) (r : HdcpResults) (h : Bracketed d₀ d) :
    Bracketed d₀ (drmHdcpEnableHdcp b r d).2 := by
  unfold drmHdcpEnableHdcp
  split
  · split
    · exact h
    · show LeadsTo d₀ (drmHdcpStartLinkChecking r _).2 .on
      unfold LeadsTo
      rw [drmHdcpStartLinkChecking_log]
      exact drmHdcpEnableHdcpWork_bracketed r h
  · exact h

theorem drmHdcpDisableHdcp_bracketed (b : Build) (connected : Bool) (h : Bracketed d₀ d) :
    Bracketed d₀ (drmHdcpDisableHdcp b connected d) := by
  have hstop : Bracketed d₀ (drmHdcpStopLinkChecking d) := by
    unfold Bracketed LeadsTo
    rw [drmHdcpStopLinkChecking_log]
    exact h
  unfold drmHdcpDisableHdcp
  split
  · dsimp only
    split
    · exact LeadsTo.call hstop rfl
    · exact hstop
  · exact h

/-- The timer's function. -/
theorem drmHdcpCheckLinkStatus_bracketed (isAuthenticated : Bool) (r : HdcpResults)
    (h : Bracketed d₀ d) : Bracketed d₀ (drmHdcpCheckLinkStatus isAuthenticated r d) := by
  unfold drmHdcpCheckLinkStatus
  split
  · exact drmHdcpEnableHdcpWork_bracketed r h
  · exact h

end

/-! ### The composer -/

section

variable (b : Build) (r : DrmResults) {d₀ : Device} {s : Composer}

theorem broadcastMessageL_bracketed (h : Bracketed d₀ s.device) (message : MdsMessage) :
    Bracketed d₀ (s.broadcastMessageL message).device := by
  refine h.calls (List.forall_mem_cons.mpr ⟨rfl, fun e he => ?_⟩)
  obtain ⟨x, -, hx⟩ := List.mem_filterMap.mp he
  split at hx
  · obtain ⟨listener, -, rfl⟩ := Option.map_eq_some_iff.mp hx
    rfl
  · exact absurd hx.symm (Option.some_ne_none e)

theorem broadcastMode_bracketed (h : Bracketed d₀ s.device) : Bracketed d₀ s.broadcastMode.device :=
  broadcastMessageL_bracketed h _

theorem setHdmiTimingL_bracketed (h : Bracketed d₀ s.device) (timing : MdsHdmiTiming) :
    Bracketed d₀ (s.setHdmiTimingL r timing).2.device := by
  rw [setHdmiTimingL_device]
  cases s.timingReceiver with
  | none => exact h
  | some x => exact h.call rfl

theorem turnOnMipi_bracketed (h : Bracketed d₀ s.device) (connectStatus : Int) :
    Bracketed d₀ (s.turnOnMipi connectStatus).device := by
  unfold turnOnMipi
  split
  · dsimp only
    split
    · exact h.call rfl
    · exact h
  · exact h

theorem hdmiIsDisconnected_bracketed (h : Bracketed d₀ s.device) (connectStatus : Int) :
    Bracketed d₀ (s.hdmiIsDisconnected b connectStatus).device := by
  unfold hdmiIsDisconnected
  split
  · exact broadcastMode_bracketed h
  · have haudio : Bracketed d₀ (s.device.call (.notifyAudioHotplug false)) := h.call rfl
    have hdisabled := drmHdcpDisableHdcp_bracketed b false haudio
    exact (broadcastMode_bracketed (s := (((((((s.call (.notifyAudioHotplug false)).withDevice
      (drmHdcpDisableHdcp b false (s.call (.notifyAudioHotplug false)).device)).setMode
      .hdmiConnected false).setMode .hdmiOn false).setMode .hdcpOn false).setMode .hdmiClone
      false).setMode .hdmiVideoExt false).setMode .overlayOff false) hdisabled).call rfl

theorem notifyPlug_bracketed (h : Bracketed d₀ s.device) (connectStatus : Int) (notify : Bool) :
    Bracketed d₀ (s.notifyPlug connectStatus notify).device := by
  unfold notifyPlug
  split
  · exact h.call rfl
  · exact h

theorem turnOffHdmi_bracketed (h : Bracketed d₀ s.device) :
    Bracketed d₀ (s.turnOffHdmi b).device := by
  unfold turnOffHdmi
  dsimp only
  refine (broadcastMode_bracketed ?_).call rfl
  show Bracketed d₀ (if _ then s.withDevice _ else s).device
  split
  · exact drmHdcpDisableHdcp_bracketed b true h
  · exact h

theorem hdmiIsNotAllowed_bracketed (h : Bracketed d₀ s.device) :
    Bracketed d₀ (s.hdmiIsNotAllowed b).device := by
  unfold hdmiIsNotAllowed
  split
  · exact broadcastMode_bracketed h
  · exact turnOffHdmi_bracketed b h

theorem turnOffHdcp_bracketed (h : Bracketed d₀ s.device) :
    Bracketed d₀ (s.turnOffHdcp b).device := by
  unfold turnOffHdcp
  split
  · exact drmHdcpDisableHdcp_bracketed b true h
  · exact h

theorem notifyTiming_bracketed (h : Bracketed d₀ s.device) :
    Bracketed d₀ (s.notifyTiming r).device := by
  unfold notifyTiming
  split
  · exact setHdmiTimingL_bracketed r h _
  · exact setHdmiTimingL_bracketed r h _

theorem turnOnHdcp_bracketed (h : Bracketed d₀ s.device) :
    Bracketed d₀ (s.turnOnHdcp b r).device := by
  have henable := drmHdcpEnableHdcp_bracketed b r.hdcp h
  unfold turnOnHdcp
  split
  · exact henable
  · exact henable

theorem turnOnHdmi_bracketed (h : Bracketed d₀ s.device) : Bracketed d₀ s.turnOnHdmi.device := by
  unfold turnOnHdmi
  split
  · exact broadcastMode_bracketed (h.call rfl)
  · exact h

theorem notifyAudio_bracketed (h : Bracketed d₀ s.device) (notify : Bool) :
    Bracketed d₀ (s.notifyAudio notify).device := by
  unfold notifyAudio
  split
  · exact h.call rfl
  · exact h

/-- **From one output to another**: HDCP is disabled, then authenticated again. -/
theorem switchHdmi_bracketed (h : Bracketed d₀ s.device) :
    Bracketed d₀ (s.switchHdmi b r).device := by
  have htold := broadcastMessageL_bracketed h (.modeChange s.transitionalMode)
  have htimed := notifyTiming_bracketed r (turnOffHdcp_bracketed b htold)
  have hon := turnOnHdcp_bracketed b r htimed
  unfold switchHdmi
  dsimp only
  refine broadcastMode_bracketed ?_
  rw [turnOnOverlay_device]
  refine turnOnHdmi_bracketed (broadcastMode_bracketed ?_)
  rw [setOutput_device]
  exact hon

theorem followCable_bracketed (h : Bracketed d₀ s.device) (connectStatus : Int) :
    Bracketed d₀ (s.followCable b r connectStatus).device := by
  unfold followCable
  split
  · exact hdmiIsDisconnected_bracketed b h connectStatus
  dsimp only
  split
  · exact hdmiIsNotAllowed_bracketed b
      (notifyPlug_bracketed (s := s.setMode .hdmiConnected true) h connectStatus _)
  · unfold hdmiIsAllowed
    split_ifs
    · exact broadcastMode_bracketed h
    · exact broadcastMode_bracketed h
    · exact notifyAudio_bracketed (switchHdmi_bracketed b r
        (s := (s.setMode .hdmiConnected true).setConnectStatus connectStatus) h) _

/-- **A transition.** -/
theorem setHdmiModeL_bracketed (h : Bracketed d₀ s.device) :
    Bracketed d₀ (s.setHdmiModeL b r).2.device := by
  unfold setHdmiModeL
  dsimp only
  split
  · exact broadcastMode_bracketed h
  · exact followCable_bracketed b r (turnOnMipi_bracketed (s := s.updateVideoStatus) h _) _

theorem setDisplayScalingLocked_bracketed (h : Bracketed d₀ s.device) (mode stepx stepy : UInt32) :
    Bracketed d₀ (s.setDisplayScalingLocked r mode stepx stepy).2.device := by
  unfold setDisplayScalingLocked
  split
  · exact h
  · exact h.call rfl

theorem mipiOffNotAllowed_bracketed (h : Bracketed d₀ s.device) :
    Bracketed d₀ s.mipiOffNotAllowed.device := by
  unfold mipiOffNotAllowed
  dsimp only
  refine broadcastMode_bracketed ?_
  show Bracketed d₀ (if _ then _ else _ : Composer).device
  split
  · exact h.call rfl
  · exact h

theorem mipiOffAllowed_bracketed (h : Bracketed d₀ s.device) :
    Bracketed d₀ s.mipiOffAllowed.device := by
  unfold mipiOffAllowed
  dsimp only
  refine broadcastMode_bracketed ?_
  show Bracketed d₀ (if _ then _ else _ : Composer).device
  split
  · exact h.call rfl
  · exact h

theorem setMipiModeL_bracketed (h : Bracketed d₀ s.device) (on : Bool) :
    Bracketed d₀ (s.setMipiModeL on).2.device := by
  unfold setMipiModeL
  split
  · exact h
  split
  · exact h.call rfl
  split
  · split
    · exact broadcastMode_bracketed h
    · dsimp only
      show Bracketed d₀ (if _ then _ else _ : Composer).device
      split
      · exact h.call rfl
      · exact h
  · exact h.call rfl

theorem setModePolicyL_bracketed (h : Bracketed d₀ s.device) (policy : Int) :
    Bracketed d₀ (s.setModePolicyL b r policy).2.device := by
  unfold setModePolicyL
  split_ifs
  · exact setHdmiModeL_bracketed b r (s := { s with mHdmiPolicy := policy }) h
  · exact mipiOffNotAllowed_bracketed h
  · exact mipiOffAllowed_bracketed h
  · exact h

theorem notifyHotPlug_bracketed (h : Bracketed d₀ s.device) (hinit : s.mDrmInit = true) :
    Bracketed d₀ (perform b r s .notifyHotPlug).2.device := by
  have hmode := setHdmiModeL_bracketed b r h
  rw [perform_notifyHotPlug b r s hinit]
  generalize (s.setHdmiModeL b r).2 = u at hmode ⊢
  split
  · exact setDisplayScalingLocked_bracketed r hmode 0 0 0
  · exact hmode

theorem prepareForVideo_bracketed (h : Bracketed d₀ s.device) (hinit : s.mDrmInit = true)
    (status : Int) : Bracketed d₀ (perform b r s (.prepareForVideo status)).2.device := by
  have htold := broadcastMessageL_bracketed (s := { s with mVideoState := status }) h
    (.setVideoStatus status)
  rw [perform, prepareForVideo, checkInit_of_init hinit]
  dsimp only
  generalize ({ s with mVideoState := status }.broadcastMessageL (.setVideoStatus status)) = u
    at htold ⊢
  split_ifs
  · exact h
  · exact setHdmiModeL_bracketed b r (s := { u with mVideo := noVideo }) htold
  · exact htold

/-- **A call of a client.** -/
theorem perform_bracketed (h : Bracketed d₀ s.device) (op : Operation) :
    Bracketed d₀ (perform b r s op).2.device := by
  cases hinit : s.mDrmInit with
  | false =>
    rw [perform_of_not_init b r hinit op]
    exact h
  | true =>
    cases op with
    | notifyHotPlug => exact notifyHotPlug_bracketed b r h hinit
    | prepareForVideo status => exact prepareForVideo_bracketed b r h hinit status
    | setModePolicy policy =>
      rw [perform, Composer.setModePolicy, checkInit_of_init hinit]
      exact setModePolicyL_bracketed b r h policy
    | updateVideoInfo info =>
      rw [perform, updateVideoInfo, checkInit_of_init hinit]
      exact setHdmiModeL_bracketed b r (s := { s with mVideo := info }) h
    | setHdmiModeInfo timing =>
      rw [perform, setHdmiModeInfo, checkInit_of_init hinit]
      exact broadcastMode_bracketed
        (setHdmiTimingL_bracketed r (s := s.call (.setModeInfo timing)) (h.call rfl) _)
    | setHdmiScaleType type =>
      rw [perform, setHdmiScaleType, checkInit_of_init hinit]
      exact setDisplayScalingLocked_bracketed r
        (s := { s with mScaleMode := UInt32.ofInt type }) h _ _ _
    | setHdmiScaleStep hValue vValue =>
      rw [perform, setHdmiScaleStep, checkInit_of_init hinit]
      exact setDisplayScalingLocked_bracketed r
        (s := { s with mScaleStepX := scaleStep hValue, mScaleStepY := scaleStep vValue }) h _ _ _
    | setHdmiPowerOff =>
      rw [perform, Composer.setHdmiPowerOff, checkInit_of_init hinit]
      exact h.call rfl
    | registerListener listener handle name msg =>
      rw [perform, registerListener, checkInit_of_init hinit]
      split
      · exact h
      · split_ifs <;> exact h
    | getMode =>
      rw [perform, getMode, checkInit_of_init hinit]
      exact h
    | notifyWidi on =>
      rw [perform, notifyWidi, checkInit_of_init hinit]
      exact h
    | notifyMipi on =>
      rw [perform, notifyMipi, checkInit_of_init hinit]
      exact h
    | getVideoState =>
      rw [perform, getVideoState, checkInit_of_init hinit]
      exact h
    | unregisterListener handle =>
      rw [perform, unregisterListener, checkInit_of_init hinit]
      exact h
    | getHdmiDeviceChange =>
      rw [perform, getHdmiDeviceChange, checkInit_of_init hinit]
      exact h
    | getHdmiModeInfo | getVideoInfo | getDisplayCapability => exact h

theorem construct_bracketed (boot : Boot) :
    Bracketed (blank boot).device (construct b boot).device := by
  have hblank := Bracketed.refl (blank boot).device
  unfold construct
  dsimp only
  split
  · exact hblank
  refine setModePolicyL_bracketed b boot.results ?_ _
  split
  · exact setModePolicyL_bracketed b boot.results
      (s := { ({ blank boot with mDrmInit := true } : Composer) with
        mDisplayCapability := (blank boot).mDisplayCapability ||| mdsHwSupportHdmi }) hblank _
  · exact hblank

end

/-! ### The driver -/

/-- Who calls the driver: the composer, under its lock, or one of the threads of the timer. -/
inductive DriverCaller where
  | composer
  | check (i : ℕ)
  deriving DecidableEq, Repr

instance : Inhabited DriverCaller := ⟨.composer⟩

/-- The composer, whose log is what it has to call, in order; what each thread of the timer has to
call, in order; and the calls that the driver has got, with their callers. -/
structure Driver where
  mds : MdsState
  checks : List (List Effect)
  got : List (DriverCaller × Effect)

inductive DriverAction where
  | operation (a : MdsAction)
  | expire (isAuthenticated : Bool) (r : HdcpResults)
  | call (who : DriverCaller)

/-- What `drm_hdcp_check_link_status` calls. -/
def checkLinkStatusCalls (isAuthenticated : Bool) (r : HdcpResults) : List Effect :=
  (drmHdcpCheckLinkStatus isAuthenticated r ⟨0, []⟩).log

/-- The steps of the composer and of its thread. -/
def MdsAction.ofComposer : MdsAction → Bool
  | .checkLinkStatus _ _ => false
  | _ => true

namespace Driver

variable (s : Driver)

/-- All that a caller calls. -/
def calls : DriverCaller → List Effect
  | .composer => s.mds.composer.device.log
  | .check i => s.checks.getD i []

/-- What a caller has called. -/
def called (who : DriverCaller) : List Effect := Monitor.own who s.got

/-- The calls of `drm_hdcp.cpp` that the driver has got. -/
def hdcp : List (DriverCaller × Effect) := s.got.filter fun x => x.2.isHdcp

/-- One step.  The composer does not begin an operation before it has made the calls of the one
before; each expiration of the timer is a thread of its own, which may begin late, when the timer is
deleted.  A caller makes its calls in order. -/
def step (b : Build) : DriverAction → Option Driver
  | .operation a =>
      if a.ofComposer ∧ s.called .composer = s.calls .composer then
        (Display.step b s.mds a).map fun mds => { s with mds := mds }
      else none
  | .expire isAuthenticated r =>
      some { s with checks := s.checks ++ [checkLinkStatusCalls isAuthenticated r] }
  | .call who =>
      (s.calls who)[(s.called who).length]?.map fun e => { s with got := s.got ++ [(who, e)] }

end Driver

/-- The service, with its calls to the driver. -/
def driver (b : Build) (boot : Boot) : Runs.System Driver DriverAction :=
  ⟨⟨(mds b boot).init, [], []⟩, fun s => s.step b⟩

/-- What a caller has called is the beginning of what it calls, and all of that is bracketed. -/
structure Driver.Ordered (s : Driver) (who : DriverCaller) : Prop where
  called : s.called who <+: s.calls who
  bracketed : Monitor.run Ied.step .on (s.calls who) = some .on

section

variable {b : Build} {s t : Driver} {who : DriverCaller}

/-- **A step of the composer.** -/
theorem step_bracketed {s t : MdsState} {a : MdsAction} (ha : a.ofComposer = true)
    (hstep : step b s a = some t) : Bracketed s.composer.device t.composer.device := by
  cases a with
  | call op r =>
    obtain rfl := Option.some.inj hstep
    exact perform_bracketed b r (Bracketed.refl _) op
  | mipiRequest =>
    obtain ⟨-, -, rfl⟩ := step_mipiRequest hstep
    exact Bracketed.refl _
  | setMipiMode =>
    obtain ⟨on, -, -, rfl⟩ := step_setMipiMode hstep
    exact setMipiModeL_bracketed (Bracketed.refl _) on
  | checkLinkStatus isAuthenticated r => exact absurd ha Bool.false_ne_true

/-- The calls of a thread of the timer. -/
theorem checkLinkStatusCalls_run (isAuthenticated : Bool) (r : HdcpResults) :
    Monitor.run Ied.step .on (checkLinkStatusCalls isAuthenticated r) = some .on := by
  obtain ⟨new, hlog, hrun⟩ :=
    drmHdcpCheckLinkStatus_bracketed isAuthenticated r (Bracketed.refl ⟨0, []⟩)
  have hcalls : checkLinkStatusCalls isAuthenticated r = new := hlog
  rw [hcalls]
  exact hrun

/-- A caller's next call. -/
theorem Driver.Ordered.call {e : Effect} (h : s.Ordered who)
    (he : (s.calls who)[(s.called who).length]? = some e) :
    s.called who ++ [e] <+: s.calls who := by
  obtain ⟨left, hleft⟩ := h.called
  rw [← hleft, List.getElem?_append_right le_rfl, Nat.sub_self] at he
  cases left with
  | nil => exact absurd he.symm (Option.some_ne_none e)
  | cons x left =>
    obtain rfl := Option.some.inj he
    exact ⟨left, by rw [← hleft, List.append_assoc, List.singleton_append]⟩

/-- **A thread begins**: the calls of the others stay what they are. -/
theorem Driver.expire_ordered (h : ∀ who, s.Ordered who) (isAuthenticated : Bool)
    (r : HdcpResults) (who : DriverCaller) :
    Driver.Ordered { s with checks := s.checks ++ [checkLinkStatusCalls isAuthenticated r] }
      who := by
  cases who with
  | composer => exact ⟨(h .composer).called, (h .composer).bracketed⟩
  | check i =>
    obtain ⟨hcalled, hbracketed⟩ := h (.check i)
    change Monitor.own (.check i) s.got <+: s.checks.getD i [] at hcalled
    change Monitor.run Ied.step .on (s.checks.getD i []) = some .on at hbracketed
    by_cases hi : i < s.checks.length
    · have hsame : (s.checks ++ [checkLinkStatusCalls isAuthenticated r]).getD i []
          = s.checks.getD i [] := List.getD_append _ _ _ _ hi
      refine ⟨?_, ?_⟩
      · show Monitor.own (.check i) s.got <+: List.getD _ i []
        rw [hsame]
        exact hcalled
      · show Monitor.run Ied.step .on (List.getD _ i []) = some .on
        rw [hsame]
        exact hbracketed
    · -- Nothing has been called yet under the new number.
      have hnone : Monitor.own (.check i) s.got = [] := by
        rw [List.getD_eq_default _ _ (by omega)] at hcalled
        exact List.prefix_nil.mp hcalled
      refine ⟨?_, ?_⟩
      · show Monitor.own (.check i) s.got <+: List.getD _ i []
        rw [hnone]
        exact List.nil_prefix
      · show Monitor.run Ied.step .on (List.getD _ i []) = some .on
        rw [List.getD_append_right _ _ _ _ (by omega)]
        cases i - s.checks.length with
        | zero => exact checkLinkStatusCalls_run isAuthenticated r
        | succ j => rfl

/-- **One step keeps every caller in order.** -/
theorem Driver.step_ordered (h : ∀ who, s.Ordered who) {a : DriverAction}
    (hstep : s.step b a = some t) (who : DriverCaller) : t.Ordered who := by
  cases a with
  | operation a =>
    simp only [Driver.step, Option.ite_none_right_eq_some, Option.map_eq_some_iff] at hstep
    obtain ⟨⟨ha, hidle⟩, mds, hmds, rfl⟩ := hstep
    cases who with
    | composer =>
      obtain ⟨new, hnew, hrun⟩ := step_bracketed ha hmds
      refine ⟨⟨new, ?_⟩, ?_⟩
      · exact (congrArg (· ++ new) hidle).trans hnew.symm
      · show Monitor.run Ied.step .on mds.composer.device.log = some .on
        rw [hnew]
        exact Monitor.run_trans (h .composer).bracketed hrun
    | check i => exact ⟨(h (.check i)).called, (h (.check i)).bracketed⟩
  | expire isAuthenticated r =>
    obtain rfl := Option.some.inj hstep
    exact Driver.expire_ordered h isAuthenticated r who
  | call caller =>
    obtain ⟨e, he, rfl⟩ := Option.map_eq_some_iff.mp hstep
    refine ⟨?_, (h who).bracketed⟩
    show Monitor.own who (s.got ++ [(caller, e)]) <+: s.calls who
    by_cases hwho : caller = who
    · subst hwho
      rw [Monitor.own_snoc_self (caller, e)]
      exact (h caller).call he
    · rw [Monitor.own_snoc_other hwho]
      exact (h who).called

end

section

variable {b : Build} {boot : Boot} {s : Driver}

/-- **The run lemma.** -/
theorem driver_ordered (h : Runs.Reachable (driver b boot) s) (who : DriverCaller) :
    s.Ordered who := by
  refine h.invariant (I := fun s => ∀ who, s.Ordered who) (fun who => ?_) ?_ who
  · cases who with
    | composer =>
      obtain ⟨new, hlog, hrun⟩ := construct_bracketed b boot
      refine ⟨List.nil_prefix, ?_⟩
      show Monitor.run Ied.step .on (construct b boot).device.log = some .on
      rw [hlog]
      exact hrun
    | check i => exact ⟨List.nil_prefix, rfl⟩
  · intro s a t hs _ hstep
    exact Driver.step_ordered hs hstep

/-- What the driver has got from a caller can be read. -/
theorem Driver.Ordered.read {who : DriverCaller} (h : s.Ordered who) :
    ∃ ied, Monitor.run Ied.step .on (s.called who) = some ied ∧
      Monitor.run Ied.step .on (Monitor.own who s.hdcp) = some ied := by
  obtain ⟨left, hleft⟩ := h.called
  have hrun := h.bracketed
  rw [← hleft] at hrun
  obtain ⟨ied, hied⟩ := Monitor.run_prefix hrun
  refine ⟨ied, hied, ?_⟩
  unfold Driver.hdcp
  rw [Monitor.own_filter]
  exact Monitor.run_filter (fun _ _ _ => Ied.step_stays) hied

end

/-! ### The boot with a cable -/

/-- The driver after the calls of this boot, and then after these steps. -/
def bootedThen (as : List DriverAction) : Option Driver :=
  Runs.exec (driver ⟨true, true⟩ (Boot.simple drmHdmiConnected)) (fun _ _ => True)
    (driver ⟨true, true⟩ (Boot.simple drmHdmiConnected)).init
    (List.replicate (construct ⟨true, true⟩ (Boot.simple drmHdmiConnected)).device.log.length
      (.call .composer) ++ as)

theorem bootedThen_reachable (as : List DriverAction) (calls : List (DriverCaller × Effect))
    (h : (bootedThen as).map Driver.hdcp = some calls) :
    ∃ s, Runs.Reachable (driver ⟨true, true⟩ (Boot.simple drmHdmiConnected)) s ∧
      s.hdcp = calls := by
  obtain ⟨s, hs, hcalls⟩ := Option.map_eq_some_iff.mp h
  exact ⟨s, Runs.reaches_of_exec hs, hcalls⟩

/-- **Two checks of the link that overlap**: the first attempt of one comes right after the other
has put inline encryption back. -/
theorem ied_overlapped : ∃ s,
    Runs.Reachable (driver ⟨true, true⟩ (Boot.simple drmHdmiConnected)) s ∧
    s.hdcp = [(.composer, .displayIed false), (.composer, .hdcpEnable),
      (.composer, .displayIed true), (.check 0, .displayIed false),
      (.check 1, .displayIed false), (.check 1, .hdcpEnable), (.check 1, .displayIed true),
      (.check 0, .hdcpEnable)] := by
  exact bootedThen_reachable [.expire false (DrmResults.simple drmHdmiConnected true).hdcp,
    .expire false (DrmResults.simple drmHdmiConnected true).hdcp, .call (.check 0),
    .call (.check 1), .call (.check 1), .call (.check 1), .call (.check 0)] _ (by decide)

end CtpCommon.Display
