import CtpCommon.Display.Messages

/-!
# The steps of a transition

What each part of `setHdmiMode_l` does to the mode, and what it leaves alone.

* `Output`, `Output.target` — the four states of the output, and the one that is asked for;
* `Output.Shown` — the bits of the mode are those of an output;
* `Composer.mipiCalls`, `Composer.audioCalls` — the calls for the panel and for the audio driver;
* `Silent` — a step nobody sees or hears; `switchHdmi_mMode` — **PROVED**: the mode after a switch;
* `panelKept_followCable` — **PROVED**: the cable does not touch the panel.
-/

namespace CtpCommon.Display

/-! ### Outputs -/

/-- What the HDMI output does. -/
inductive Output where
  | unplugged
  | off
  | clone
  | videoExt
  deriving DecidableEq, Repr

namespace Output

def plugged : Output → Bool
  | unplugged => false
  | _ => true

def on : Output → Bool
  | clone | videoExt => true
  | _ => false

/-- The output for a cable, a policy and a video. -/
def target (connected allowed playing : Bool) : Output :=
  if connected then if allowed then if playing then videoExt else clone else off
  else unplugged

/-- The mode shows this output. -/
structure Shown (o : Output) (mode : Mode) : Prop where
  connected : checkMode mode .hdmiConnected = o.plugged
  on : checkMode mode .hdmiOn = o.on
  clone : checkMode mode .hdmiClone = decide (o = .clone)
  videoExt : checkMode mode .hdmiVideoExt = decide (o = .videoExt)

/-- Other flags do not matter. -/
theorem Shown.setFlag {o : Output} {mode : Mode} (h : o.Shown mode) {f : MdsMode} (on : Bool)
    (hf : f ∉ [MdsMode.hdmiConnected, .hdmiOn, .hdmiClone, .hdmiVideoExt]) :
    o.Shown (setFlag mode f on) := by
  simp only [List.mem_cons, List.not_mem_nil, or_false, not_or] at hf
  obtain ⟨hconnected, hon, hclone, hext⟩ := hf
  refine ⟨?_, ?_, ?_, ?_⟩
  · rw [checkMode_setFlag, if_neg (Ne.symm hconnected), h.connected]
  · rw [checkMode_setFlag, if_neg (Ne.symm hon), h.on]
  · rw [checkMode_setFlag, if_neg (Ne.symm hclone), h.clone]
  · rw [checkMode_setFlag, if_neg (Ne.symm hext), h.videoExt]

theorem shown_zero : unplugged.Shown 0 := ⟨rfl, rfl, rfl, rfl⟩

end Output

/-! ### Calls for the panel and for the audio driver -/

/-- A call that somebody sees or hears. -/
inductive ScreenCall where
  | mipi (on : Bool)
  | audio (plugin : Bool)
  deriving DecidableEq, Repr

def Effect.screenCall : Effect → Option ScreenCall
  | .mipiSetMode on => some (.mipi on)
  | .notifyAudioHotplug plugin => some (.audio plugin)
  | _ => none

def ScreenCall.asMipi : ScreenCall → Option Bool
  | .mipi on => some on
  | .audio _ => none

def ScreenCall.asAudio : ScreenCall → Option Bool
  | .mipi _ => none
  | .audio plugin => some plugin

def Device.screenCalls (d : Device) : List ScreenCall := d.log.filterMap Effect.screenCall

theorem screenCall_hdcp (e : Effect) (h : e.isHdcp = true) : e.screenCall = none := by
  cases e <;> first | rfl | exact absurd h Bool.false_ne_true

theorem HdcpOnly.screenCalls {d d' : Device} (h : HdcpOnly d d') :
    d'.screenCalls = d.screenCalls := by
  obtain ⟨new, hlog, hnew⟩ := h
  unfold Device.screenCalls
  rw [hlog, List.filterMap_append,
    List.filterMap_eq_nil_iff.mpr fun e he => screenCall_hdcp e (hnew e he), List.append_nil]

namespace Composer

variable (b : Build) (r : DrmResults) (s : Composer)

/-- The calls of `drm_mipi_setMode`. -/
def mipiCalls : List Bool := s.device.screenCalls.filterMap ScreenCall.asMipi

/-- The calls of `drm_hdmi_notify_audio_hotplug`. -/
def audioCalls : List Bool := s.device.screenCalls.filterMap ScreenCall.asAudio

theorem screenCalls_call (e : Effect) :
    (s.call e).device.screenCalls = s.device.screenCalls ++ e.screenCall.toList := by
  show (s.device.log ++ [e]).filterMap _ = _
  rw [List.filterMap_append]
  cases h : e.screenCall with
  | none => rw [List.filterMap_cons_none h]; rfl
  | some x => rw [List.filterMap_cons_some h]; rfl

theorem screenCalls_deliveries (l : List (Handle × MultiDisplayListener)) (m : MdsMessage) :
    (deliveries l m).filterMap Effect.screenCall = [] := by
  rw [List.filterMap_eq_nil_iff]
  intro e he
  obtain ⟨x, -, hx⟩ := List.mem_filterMap.mp he
  split at hx
  · obtain ⟨listener, -, rfl⟩ := Option.map_eq_some_iff.mp hx
    rfl
  · exact absurd hx (by simp)

@[simp] theorem screenCalls_broadcast (m : MdsMessage) :
    (s.broadcastMessageL m).device.screenCalls = s.device.screenCalls := by
  show (s.device.log ++ Effect.broadcast m :: deliveries _ m).filterMap _ = _
  rw [List.filterMap_append, List.filterMap_cons_none rfl, screenCalls_deliveries, List.append_nil]
  rfl

/-! ### What the steps of the transition leave alone -/

/-- From one state to the next at most the mode, the panel's policy and calls nobody sees. -/
structure Silent (s t : Composer) : Prop where
  drmInit : t.mDrmInit = s.mDrmInit
  hdmiPolicy : t.mHdmiPolicy = s.mHdmiPolicy
  mipiOn : t.mMipiOn = s.mMipiOn
  widi : t.mWidiVideoExt = s.mWidiVideoExt
  connectStatus : t.mConnectStatus = s.mConnectStatus
  video : t.mVideo = s.mVideo
  calls : t.device.screenCalls = s.device.screenCalls
  speaks : Speaks s t

theorem Silent.refl : Silent s s := ⟨rfl, rfl, rfl, rfl, rfl, rfl, rfl, Speaks.refl s⟩

section

variable {s} {t : Composer}

theorem Silent.trans {u : Composer} (h : Silent s t) (h' : Silent t u) : Silent s u :=
  ⟨h'.drmInit.trans h.drmInit, h'.hdmiPolicy.trans h.hdmiPolicy, h'.mipiOn.trans h.mipiOn,
    h'.widi.trans h.widi, h'.connectStatus.trans h.connectStatus, h'.video.trans h.video,
    h'.calls.trans h.calls, h.speaks.trans h'.speaks⟩

theorem Silent.setMode (h : Silent s t) (f : MdsMode) (on : Bool) : Silent s (t.setMode f on) :=
  h.trans ⟨rfl, rfl, rfl, rfl, rfl, rfl, rfl, speaks_of_log rfl rfl⟩

theorem Silent.setMipiPolicy (h : Silent s t) (policy : Int) : Silent s (t.setMipiPolicy policy) :=
  h.trans ⟨rfl, rfl, rfl, rfl, rfl, rfl, rfl, speaks_of_log rfl rfl⟩

theorem Silent.broadcast (h : Silent s t) (m : MdsMessage) : Silent s (t.broadcastMessageL m) :=
  h.trans ⟨rfl, rfl, rfl, rfl, rfl, rfl, screenCalls_broadcast t m, speaks_broadcast t m⟩

theorem Silent.broadcastMode (h : Silent s t) : Silent s t.broadcastMode := h.broadcast _

theorem Silent.withDevice (h : Silent s t) {d : Device} (hd : HdcpOnly t.device d) :
    Silent s (t.withDevice d) :=
  h.trans ⟨rfl, rfl, rfl, rfl, rfl, rfl, hd.screenCalls, speaks_withDevice t hd⟩

theorem Silent.call (h : Silent s t) {e : Effect} (hscreen : e.screenCall = none)
    (hmessage : e.isMessage = false) : Silent s (t.call e) := by
  have hcalls := screenCalls_call t e
  rw [hscreen] at hcalls
  exact h.trans ⟨rfl, rfl, rfl, rfl, rfl, rfl, hcalls.trans (List.append_nil _),
    speaks_call t hmessage⟩

theorem Silent.disableHdcp (h : Silent s t) (connected : Bool) :
    Silent s (t.withDevice (drmHdcpDisableHdcp b connected t.device)) :=
  h.withDevice (drmHdcpDisableHdcp_calls b connected t.device)

end

/-- `setHdmiTiming_l` only talks to the listener of `HWComposer`. -/
theorem setHdmiTimingL_eq (timing : MdsHdmiTiming) : (s.setHdmiTimingL r timing).2 = s ∨
    ∃ handle listener, (s.setHdmiTimingL r timing).2
      = s.call (.setTiming handle listener timing) := by
  unfold setHdmiTimingL
  cases s.timingListener.bind _ with
  | none => exact Or.inl rfl
  | some x => exact Or.inr ⟨x.1, x.2, rfl⟩

theorem silent_setHdmiTimingL (timing : MdsHdmiTiming) :
    Silent s (s.setHdmiTimingL r timing).2 := by
  rcases setHdmiTimingL_eq r s timing with h | ⟨handle, listener, h⟩
  · rw [h]
    exact Silent.refl s
  · rw [h]
    exact (Silent.refl s).call rfl rfl

theorem silent_notifyTiming : Silent s (s.notifyTiming r) := by
  unfold notifyTiming
  split
  · exact silent_setHdmiTimingL r s _
  · exact silent_setHdmiTimingL r s _

theorem silent_turnOffHdcp : Silent s (s.turnOffHdcp b) := by
  unfold turnOffHdcp
  split
  · exact ((Silent.refl s).disableHdcp b true).setMode _ _
  · exact Silent.refl s

theorem silent_turnOnHdcp : Silent s (s.turnOnHdcp b r) := by
  have henable : Silent s (s.withDevice (drmHdcpEnableHdcp b r.hdcp s.device).2) :=
    (Silent.refl s).withDevice (drmHdcpEnableHdcp_calls b r.hdcp s.device)
  unfold turnOnHdcp
  split
  · exact henable
  · exact henable.setMode _ _

/-- The listeners are told, then HDMI is turned off. -/
theorem turnOffHdmi_eq :
    ∃ u, Silent s u ∧ s.turnOffHdmi b = u.broadcastMode.call .setHdmiVideoOff := by
  have hdisable : Silent s (if checkMode s.mMode .hdcpOn then
      s.withDevice (drmHdcpDisableHdcp b true s.device) else s) := by
    split
    · exact (Silent.refl s).disableHdcp b true
    · exact Silent.refl s
  exact ⟨_, (((hdisable.setMode .hdcpOn false).setMode .hdmiOn false).setMode .hdmiClone
    false).setMode .hdmiVideoExt false, rfl⟩

theorem silent_turnOffHdmi : Silent s (s.turnOffHdmi b) := by
  obtain ⟨u, hu, heq⟩ := turnOffHdmi_eq b s
  rw [heq]
  exact hu.broadcastMode.call rfl rfl

theorem silent_setOutput : Silent s s.setOutput := by
  unfold setOutput
  split
  · exact (((Silent.refl s).setMode _ _).setMode _ _).setMipiPolicy _
  · exact ((Silent.refl s).setMode _ _).setMode _ _

theorem silent_turnOnHdmi : Silent s s.turnOnHdmi := by
  have hcall : Silent s (s.call .setHdmiVideoOn) := (Silent.refl s).call rfl rfl
  unfold turnOnHdmi
  split
  · exact (hcall.setMode _ _).broadcastMode
  · exact Silent.refl s

theorem silent_turnOnOverlay : Silent s s.turnOnOverlay := by
  unfold turnOnOverlay
  split
  · exact (Silent.refl s).setMode _ _
  · exact Silent.refl s

theorem switchHdmi_eq : ∃ u, Silent s u ∧ s.switchHdmi b r = u.broadcastMode := by
  have hoff := ((Silent.refl s).broadcast (.modeChange s.transitionalMode)).trans
    (silent_turnOffHdcp b _)
  have hon := (hoff.trans (silent_notifyTiming r _)).trans (silent_turnOnHdcp b r _)
  have houtput := ((hon.setMode .overlayOff true).trans (silent_setOutput _)).broadcastMode
  exact ⟨_, (houtput.trans (silent_turnOnHdmi _)).trans (silent_turnOnOverlay _), rfl⟩

theorem silent_switchHdmi : Silent s (s.switchHdmi b r) := by
  obtain ⟨u, hu, heq⟩ := switchHdmi_eq b r s
  rw [heq]
  exact hu.broadcastMode

/-! ### The modes of the steps -/

theorem turnOffHdcp_mMode : (s.turnOffHdcp b).mMode = setFlag s.mMode .hdcpOn false := by
  unfold turnOffHdcp
  by_cases hhdcp : checkMode s.mMode .hdcpOn = true
  · rw [if_pos hhdcp]
    rfl
  · rw [if_neg hhdcp, (setFlag_eq_self_iff s.mMode .hdcpOn false).mpr (by simpa using hhdcp)]

theorem setHdmiTimingL_mMode (timing : MdsHdmiTiming) :
    (s.setHdmiTimingL r timing).2.mMode = s.mMode := by
  rcases setHdmiTimingL_eq r s timing with h | ⟨handle, listener, h⟩
  · rw [h]
  · rw [h]
    rfl

theorem notifyTiming_mMode : (s.notifyTiming r).mMode = s.mMode := by
  unfold notifyTiming
  split
  · exact setHdmiTimingL_mMode r s _
  · exact setHdmiTimingL_mMode r s _

/-- Authentication decides on `HDCP_ON`. -/
theorem turnOnHdcp_mMode (h : checkMode s.mMode .hdcpOn = false) :
    ∃ hdcp, (s.turnOnHdcp b r).mMode = setFlag s.mMode .hdcpOn hdcp := by
  unfold turnOnHdcp
  split
  · exact ⟨false, ((setFlag_eq_self_iff s.mMode .hdcpOn false).mpr h).symm⟩
  · exact ⟨true, rfl⟩

theorem turnOffHdmi_mMode : (s.turnOffHdmi b).mMode
    = setFlag (setFlag (setFlag (setFlag s.mMode .hdcpOn false) .hdmiOn false) .hdmiClone false)
        .hdmiVideoExt false := by
  unfold turnOffHdmi
  split <;> rfl

theorem setOutput_mMode : s.setOutput.mMode = setFlag
    (setFlag s.mMode .hdmiVideoExt s.mVideo.isPlaying) .hdmiClone (!s.mVideo.isPlaying) := by
  unfold setOutput
  cases s.mVideo.isPlaying <;> rfl

theorem turnOnHdmi_mMode : s.turnOnHdmi.mMode = setFlag s.mMode .hdmiOn true := by
  unfold turnOnHdmi
  by_cases hon : checkMode s.mMode .hdmiOn = false
  · rw [if_pos hon]
    rfl
  · rw [if_neg hon, (setFlag_eq_self_iff s.mMode .hdmiOn true).mpr (by simpa using hon)]

theorem turnOnOverlay_mMode : s.turnOnOverlay.mMode =
    if checkMode s.mMode .hdmiVideoExt then setFlag s.mMode .overlayOff false else s.mMode := by
  unfold turnOnOverlay
  split <;> rfl

/-- **The mode after a switch**: the new output, with the overlay turned off for a clone. -/
theorem switchHdmi_mMode : ∃ hdcp, ∀ f, checkMode (s.switchHdmi b r).mMode f =
    if f = .hdmiOn then true
    else if f = .hdmiVideoExt then s.mVideo.isPlaying
    else if f = .hdmiClone ∨ f = .overlayOff then !s.mVideo.isPlaying
    else if f = .hdcpOn then hdcp
    else checkMode s.mMode f := by
  generalize hu :
    ((s.broadcastMessageL (.modeChange s.transitionalMode)).turnOffHdcp b).notifyTiming r = u
  have hmode : u.mMode = setFlag s.mMode .hdcpOn false := by
    rw [← hu, notifyTiming_mMode, turnOffHdcp_mMode]
    rfl
  obtain ⟨hdcp, hhdcp⟩ := turnOnHdcp_mMode b r u (by rw [hmode, checkMode_setFlag, if_pos rfl])
  have hvideo : (u.turnOnHdcp b r).mVideo = s.mVideo := by
    have hoff := ((Silent.refl s).broadcast (.modeChange s.transitionalMode)).trans
      (silent_turnOffHdcp b _)
    have hon := (hoff.trans (silent_notifyTiming r _)).trans (silent_turnOnHdcp b r _)
    rw [← hu]
    exact hon.video
  generalize hv : (u.turnOnHdcp b r).setMode .overlayOff true = v
  have hvMode : v.mMode = setFlag (setFlag (setFlag s.mMode .hdcpOn false) .hdcpOn hdcp) .overlayOff
      true := by
    rw [← hv, ← hmode, ← hhdcp]
    rfl
  have hvVideo : v.mVideo = s.mVideo := by
    rw [← hv]
    exact hvideo
  refine ⟨hdcp, fun f => ?_⟩
  have hswitch : (s.switchHdmi b r).mMode
      = v.setOutput.broadcastMode.turnOnHdmi.turnOnOverlay.mMode := by
    rw [← hv, ← hu]
    rfl
  have hbroadcast : v.setOutput.broadcastMode.mMode = v.setOutput.mMode := rfl
  rw [hswitch, turnOnOverlay_mMode, turnOnHdmi_mMode, hbroadcast, setOutput_mMode, hvVideo, hvMode]
  cases s.mVideo.isPlaying <;> cases f <;> simp

/-! ### What the cable does not change -/

theorem Silent.mipiCalls {t : Composer} (h : Silent s t) : t.mipiCalls = s.mipiCalls :=
  congrArg (List.filterMap ScreenCall.asMipi) h.calls

theorem Silent.audioCalls {t : Composer} (h : Silent s t) : t.audioCalls = s.audioCalls :=
  congrArg (List.filterMap ScreenCall.asAudio) h.calls

theorem mipiCalls_call (e : Effect) :
    (s.call e).mipiCalls = s.mipiCalls ++ (e.screenCall.bind ScreenCall.asMipi).toList := by
  unfold Composer.mipiCalls
  rw [screenCalls_call, List.filterMap_append]
  cases e.screenCall with
  | none => rfl
  | some x => cases x <;> rfl

theorem audioCalls_call (e : Effect) :
    (s.call e).audioCalls = s.audioCalls ++ (e.screenCall.bind ScreenCall.asAudio).toList := by
  unfold Composer.audioCalls
  rw [screenCalls_call, List.filterMap_append]
  cases e.screenCall with
  | none => rfl
  | some x => cases x <;> rfl

/-- From one state to the next everything about the panel, the policy and the video is kept. -/
structure PanelKept (s t : Composer) : Prop where
  drmInit : t.mDrmInit = s.mDrmInit
  hdmiPolicy : t.mHdmiPolicy = s.mHdmiPolicy
  mipiOn : t.mMipiOn = s.mMipiOn
  widi : t.mWidiVideoExt = s.mWidiVideoExt
  video : t.mVideo = s.mVideo
  calls : t.mipiCalls = s.mipiCalls
  speaks : Speaks s t
  flags : ∀ f ∈ [MdsMode.mipiOn, .videoPlaying], checkMode t.mMode f = checkMode s.mMode f

section

variable {s} {t : Composer}

theorem PanelKept.trans {u : Composer} (h : PanelKept s t) (h' : PanelKept t u) : PanelKept s u :=
  ⟨h'.drmInit.trans h.drmInit, h'.hdmiPolicy.trans h.hdmiPolicy, h'.mipiOn.trans h.mipiOn,
    h'.widi.trans h.widi, h'.video.trans h.video, h'.calls.trans h.calls,
    h.speaks.trans h'.speaks, fun f hf => (h'.flags f hf).trans (h.flags f hf)⟩

theorem Silent.panelKept (h : Silent s t)
    (hflags : ∀ f ∈ [MdsMode.mipiOn, .videoPlaying], checkMode t.mMode f = checkMode s.mMode f) :
    PanelKept s t :=
  ⟨h.drmInit, h.hdmiPolicy, h.mipiOn, h.widi, h.video, h.mipiCalls, h.speaks, hflags⟩

end

theorem panelKept_broadcastMode : PanelKept s s.broadcastMode :=
  (Silent.refl s).broadcastMode.panelKept fun _ _ => rfl

theorem panelKept_setConnectStatus (connectStatus : Int) :
    PanelKept s (s.setConnectStatus connectStatus) :=
  ⟨rfl, rfl, rfl, rfl, rfl, rfl, speaks_of_log rfl rfl, fun _ _ => rfl⟩

theorem panelKept_notifyAudioHotplug (plugin : Bool) :
    PanelKept s (s.call (.notifyAudioHotplug plugin)) := by
  refine ⟨rfl, rfl, rfl, rfl, rfl, ?_, speaks_call s rfl, fun _ _ => rfl⟩
  rw [mipiCalls_call]
  exact List.append_nil _

theorem panelKept_setMode {f : MdsMode} (hf : f ∉ [MdsMode.mipiOn, .videoPlaying]) (on : Bool) :
    PanelKept s (s.setMode f on) := by
  refine ((Silent.refl s).setMode f on).panelKept fun g hg => ?_
  show checkMode (setFlag s.mMode f on) g = _
  rw [checkMode_setFlag, if_neg]
  rintro rfl
  exact hf hg

/-- The audio driver and the listeners are told, then the device. -/
theorem unplugHdmi_eq : ∃ u, Silent (s.call (.notifyAudioHotplug false)) u ∧
    s.unplugHdmi b = u.broadcastMode.call .onHdmiDisconnected := by
  have hdisable := (Silent.refl (s.call (.notifyAudioHotplug false))).disableHdcp b false
  exact ⟨_, (((((hdisable.setMode .hdmiConnected false).setMode .hdmiOn false).setMode .hdcpOn
    false).setMode .hdmiClone false).setMode .hdmiVideoExt false).setMode .overlayOff false, rfl⟩

theorem silent_unplugHdmi : Silent (s.call (.notifyAudioHotplug false)) (s.unplugHdmi b) := by
  obtain ⟨u, hu, heq⟩ := unplugHdmi_eq b s
  rw [heq]
  exact hu.broadcastMode.call rfl rfl

theorem unplugHdmi_mMode : (s.unplugHdmi b).mMode
    = setFlag (setFlag (setFlag (setFlag (setFlag (setFlag s.mMode .hdmiConnected false) .hdmiOn
        false) .hdcpOn false) .hdmiClone false) .hdmiVideoExt false) .overlayOff false := rfl

theorem panelKept_unplugHdmi : PanelKept s (s.unplugHdmi b) := by
  refine (panelKept_notifyAudioHotplug s false).trans
    ((silent_unplugHdmi b s).panelKept fun f hf => ?_)
  rw [unplugHdmi_mMode]
  simp only [List.mem_cons, List.not_mem_nil, or_false] at hf
  rcases hf with rfl | rfl
  · simp
    rfl
  · simp
    rfl

theorem panelKept_turnOffHdmi : PanelKept s (s.turnOffHdmi b) := by
  refine (silent_turnOffHdmi b s).panelKept fun f hf => ?_
  rw [turnOffHdmi_mMode]
  simp only [List.mem_cons, List.not_mem_nil, or_false] at hf
  rcases hf with rfl | rfl <;> simp

theorem panelKept_switchHdmi : PanelKept s (s.switchHdmi b r) := by
  obtain ⟨hdcp, hmode⟩ := switchHdmi_mMode b r s
  refine (silent_switchHdmi b r s).panelKept fun f hf => ?_
  rw [hmode]
  simp only [List.mem_cons, List.not_mem_nil, or_false] at hf
  rcases hf with rfl | rfl <;> simp

/-- **The cable** does not touch the panel. -/
theorem panelKept_followCable (connectStatus : Int) :
    PanelKept s (s.followCable b r connectStatus) := by
  have hconnected := panelKept_setMode s (f := .hdmiConnected) (by decide) true
  unfold followCable
  by_cases hplug : connectStatus = drmHdmiDisconnected
  · rw [if_pos hplug]
    unfold hdmiIsDisconnected
    split
    · exact (panelKept_broadcastMode s).trans (panelKept_setConnectStatus _ _)
    · exact (panelKept_unplugHdmi b s).trans (panelKept_setConnectStatus _ _)
  rw [if_neg hplug]
  by_cases hpolicy : (s.setMode .hdmiConnected true).mHdmiPolicy = mdsHdmiOnNotAllowed
  · simp only [hpolicy, if_true]
    generalize (!checkMode s.mMode .hdmiConnected) = notify
    have hnotify : PanelKept (s.setMode .hdmiConnected true)
        ((s.setMode .hdmiConnected true).notifyPlug connectStatus notify) := by
      unfold notifyPlug
      split
      · exact (panelKept_notifyAudioHotplug _ true).trans (panelKept_setConnectStatus _ _)
      · exact (Silent.refl _).panelKept fun _ _ => rfl
    refine (hconnected.trans hnotify).trans ?_
    unfold hdmiIsNotAllowed
    split
    · exact panelKept_broadcastMode _
    · exact panelKept_turnOffHdmi b _
  · simp only [hpolicy, if_false]
    generalize (!checkMode s.mMode .hdmiConnected) = notify
    refine (hconnected.trans (panelKept_setConnectStatus _ connectStatus)).trans ?_
    unfold hdmiIsAllowed
    split_ifs
    · exact panelKept_broadcastMode _
    · exact panelKept_broadcastMode _
    · refine (panelKept_switchHdmi b r _).trans ?_
      unfold notifyAudio
      split
      · exact panelKept_notifyAudioHotplug _ true
      · exact (Silent.refl _).panelKept fun _ _ => rfl

end Composer

end CtpCommon.Display
