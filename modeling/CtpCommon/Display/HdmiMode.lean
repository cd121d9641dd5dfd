import CtpCommon.Display.Transition

/-!
# The transition of the HDMI output

What `setHdmiMode_l` is for: after it, the output is what the cable, the policy and the video ask
for, whatever it was before.

* `Moved` — what comes with the change from one output to another: flags, timer, audio driver;
* `PanelTurned` — the panel is turned on if it is needed and off;
* `followCable_moved` — **PROVED**: from any output, the one that is asked for is reached;
* `announces_followCable` — **PROVED**: every exit tells the listeners the mode;
* `setHdmiModeL_set` — **PROVED**: all of it together, the contract of `setHdmiMode_l`.
-/

namespace CtpCommon.Display

open Composer

/-- The output that the answers of the device, the policy and the video ask for. -/
def Composer.asked (r : DrmResults) (s : Composer) : Output :=
  Output.target (decide (r.connectionStatus ≠ drmHdmiDisconnected))
    (decide (s.mHdmiPolicy ≠ mdsHdmiOnNotAllowed)) s.mVideo.isPlaying

/-! ### What comes with a change -/

/-- Flags, timer and audio driver, from one state to the next, for every change of the output.
Plugging in an output that is not allowed is announced unless the cable's status was known. -/
inductive Moved (b : Build) (r : DrmResults) (s t : Composer) : Output → Output → Prop
  | stay (o : Output)
      (flags : ∀ f ∈ [MdsMode.hdcpOn, .overlayOff], checkMode t.mMode f = checkMode s.mMode f)
      (timer : t.device.hdcpStatusCheckTimer = s.device.hdcpStatusCheckTimer)
      (audio : t.audioCalls = s.audioCalls) : Moved b r s t o o
  | plug
      (flags : ∀ f ∈ [MdsMode.hdcpOn, .overlayOff], checkMode t.mMode f = checkMode s.mMode f)
      (timer : t.device.hdcpStatusCheckTimer = s.device.hdcpStatusCheckTimer)
      (audio : t.audioCalls = s.audioCalls ++
        if s.mConnectStatus ≠ r.connectionStatus ∧ s.mDrmInit then [true] else []) :
      Moved b r s t .unplugged .off
  | unplug (o : Output) (plugged : o.plugged = true)
      (hdcp : checkMode t.mMode .hdcpOn = false) (overlay : checkMode t.mMode .overlayOff = false)
      (timer : t.device.hdcpStatusCheckTimer =
        if b.enableHdcp then 0 else s.device.hdcpStatusCheckTimer)
      (audio : t.audioCalls = s.audioCalls ++ [false]) : Moved b r s t o .unplugged
  | turnOff (o : Output) (on : o.on = true) (hdcp : checkMode t.mMode .hdcpOn = false)
      (overlay : checkMode t.mMode .overlayOff = checkMode s.mMode .overlayOff)
      (timer : t.device.hdcpStatusCheckTimer =
        if b.enableHdcp && checkMode s.mMode .hdcpOn then 0 else s.device.hdcpStatusCheckTimer)
      (audio : t.audioCalls = s.audioCalls) : Moved b r s t o .off
  | switch (o o' : Output) (ne : o ≠ o') (on : o'.on = true)
      (overlay : checkMode t.mMode .overlayOff = decide (o' = .clone))
      (timer : b.enableHdcp = false →
        t.device.hdcpStatusCheckTimer = s.device.hdcpStatusCheckTimer)
      (audio : t.audioCalls = s.audioCalls ++
        if o = .unplugged ∧ s.mDrmInit then [true] else []) : Moved b r s t o o'

/-- What `Moved` reads of the first state. -/
structure SameStart (s u : Composer) : Prop where
  flags : ∀ f ∈ [MdsMode.hdcpOn, .overlayOff], checkMode u.mMode f = checkMode s.mMode f
  timer : u.device.hdcpStatusCheckTimer = s.device.hdcpStatusCheckTimer
  audio : u.audioCalls = s.audioCalls
  connectStatus : u.mConnectStatus = s.mConnectStatus
  drmInit : u.mDrmInit = s.mDrmInit

section

variable {b : Build} {r : DrmResults} {s u t : Composer} {o o' : Output}

theorem Moved.of_sameStart (h : Moved b r u t o o') (hs : SameStart s u) : Moved b r s t o o' := by
  obtain ⟨hflags, htimer, haudio, hstatus, hinit⟩ := hs
  cases h with
  | stay _ flags timer audio =>
    exact Moved.stay o (fun f hf => (flags f hf).trans (hflags f hf)) (timer.trans htimer)
      (audio.trans haudio)
  | plug flags timer audio =>
    rw [haudio, hstatus, hinit] at audio
    exact Moved.plug (fun f hf => (flags f hf).trans (hflags f hf)) (timer.trans htimer) audio
  | unplug _ plugged hdcp overlay timer audio =>
    rw [htimer] at timer
    rw [haudio] at audio
    exact Moved.unplug o plugged hdcp overlay timer audio
  | turnOff _ on hdcp overlay timer audio =>
    rw [htimer, hflags _ (by simp)] at timer
    rw [hflags _ (by simp)] at overlay
    exact Moved.turnOff o on hdcp overlay timer (audio.trans haudio)
  | switch _ _ ne on overlay timer audio =>
    rw [haudio, hinit] at audio
    exact Moved.switch o o' ne on overlay (fun hb => (timer hb).trans htimer) audio

end

/-! ### The cable -/

section

variable (b : Build) (r : DrmResults) (s : Composer) {o : Output}

theorem Output.Shown.unplugged_of (h : o.Shown s.mMode)
    (hconnected : checkMode s.mMode .hdmiConnected = false) : o = .unplugged := by
  have hplugged := h.connected.symm.trans hconnected
  cases o with
  | unplugged => rfl
  | off | clone | videoExt => exact absurd hplugged.symm Bool.false_ne_true

theorem Output.plugged_of_on (h : o.on = true) : o.plugged = true := by
  cases o with
  | unplugged => exact absurd h Bool.false_ne_true
  | off | clone | videoExt => rfl

theorem setConnectStatus_audioCalls (connectStatus : Int) :
    (s.setConnectStatus connectStatus).audioCalls = s.audioCalls := rfl

theorem broadcastMode_audioCalls : s.broadcastMode.audioCalls = s.audioCalls :=
  (Silent.refl s).broadcastMode.audioCalls

theorem setConnectStatus_mMode (connectStatus : Int) :
    (s.setConnectStatus connectStatus).mMode = s.mMode := rfl

theorem unplugHdmi_audioCalls : (s.unplugHdmi b).audioCalls = s.audioCalls ++ [false] := by
  rw [(silent_unplugHdmi b s).audioCalls, audioCalls_call]
  rfl

theorem disableHdcp_timer (connected : Bool) (d : Device) :
    (drmHdcpDisableHdcp b connected d).hdcpStatusCheckTimer
      = if b.enableHdcp then 0 else d.hdcpStatusCheckTimer := by
  cases hb : b.enableHdcp with
  | false => rw [drmHdcpDisableHdcp_stub b d connected hb, if_neg Bool.false_ne_true]
  | true => rw [drmHdcpDisableHdcp_timer b d connected hb, if_pos rfl]

/-- HDMI is disconnected: nothing is left of the output. -/
theorem moved_hdmiIsDisconnected (h : o.Shown s.mMode) (connectStatus : Int) :
    Output.unplugged.Shown (s.hdmiIsDisconnected b connectStatus).mMode ∧
      Moved b r s (s.hdmiIsDisconnected b connectStatus) o .unplugged := by
  unfold hdmiIsDisconnected
  by_cases hconnected : checkMode s.mMode .hdmiConnected = false
  · rw [if_pos hconnected]
    obtain rfl := h.unplugged_of s hconnected
    refine ⟨h, Moved.stay _ (fun _ _ => rfl) rfl ?_⟩
    rw [setConnectStatus_audioCalls, broadcastMode_audioCalls]
  · rw [if_neg hconnected]
    have hplugged : o.plugged = true := h.connected.symm.trans (by simpa using hconnected)
    rw [setConnectStatus_mMode, unplugHdmi_mMode]
    refine ⟨⟨?_, ?_, ?_, ?_⟩, Moved.unplug o hplugged ?_ ?_ ?_ ?_⟩
    · simp [Output.plugged]
    · simp [Output.on]
    · simp
    · simp
    · rw [setConnectStatus_mMode, unplugHdmi_mMode]
      simp
    · rw [setConnectStatus_mMode, unplugHdmi_mMode]
      simp
    · exact disableHdcp_timer b false (s.call (.notifyAudioHotplug false)).device
    · rw [setConnectStatus_audioCalls, unplugHdmi_audioCalls]

theorem notifyPlug_mMode (connectStatus : Int) (notify : Bool) :
    (s.notifyPlug connectStatus notify).mMode = s.mMode := by
  unfold notifyPlug
  split <;> rfl

theorem notifyPlug_timer (connectStatus : Int) (notify : Bool) :
    (s.notifyPlug connectStatus notify).device.hdcpStatusCheckTimer
      = s.device.hdcpStatusCheckTimer := by
  unfold notifyPlug
  split <;> rfl

theorem notifyPlug_audioCalls (connectStatus : Int) (notify : Bool) :
    (s.notifyPlug connectStatus notify).audioCalls = s.audioCalls ++
      if s.mConnectStatus ≠ connectStatus ∧ notify ∧ s.mDrmInit then [true] else [] := by
  unfold notifyPlug
  split_ifs
  · rw [setConnectStatus_audioCalls, audioCalls_call]
    rfl
  · exact (List.append_nil _).symm

theorem turnOffHdmi_timer : (s.turnOffHdmi b).device.hdcpStatusCheckTimer
    = if b.enableHdcp && checkMode s.mMode .hdcpOn then 0
      else s.device.hdcpStatusCheckTimer := by
  unfold turnOffHdmi
  cases hhdcp : checkMode s.mMode .hdcpOn with
  | false =>
    rw [Bool.and_false, if_neg Bool.false_ne_true]
    rfl
  | true =>
    rw [Bool.and_true]
    exact disableHdcp_timer b true s.device

/-- The cable is plugged in; the audio driver may have been told. -/
structure PluggedIn (s u : Composer) : Prop where
  mode : u.mMode = setFlag s.mMode .hdmiConnected true
  video : u.mVideo = s.mVideo
  drmInit : u.mDrmInit = s.mDrmInit
  timer : u.device.hdcpStatusCheckTimer = s.device.hdcpStatusCheckTimer

variable {u : Composer} in
theorem PluggedIn.flag {s : Composer} (hu : PluggedIn s u) {f : MdsMode} (hf : f ≠ .hdmiConnected) :
    checkMode u.mMode f = checkMode s.mMode f := by
  rw [hu.mode, checkMode_setFlag, if_neg hf]

theorem pluggedIn_notifyPlug (connectStatus : Int) (notify : Bool) :
    PluggedIn s ((s.setMode .hdmiConnected true).notifyPlug connectStatus notify) := by
  refine ⟨notifyPlug_mMode _ _ _, ?_, ?_, notifyPlug_timer _ _ _⟩
  · unfold notifyPlug
    split <;> rfl
  · unfold notifyPlug
    split <;> rfl

/-- An output that is plugged in and not on is off. -/
theorem PluggedIn.shown_off {s u : Composer} (hu : PluggedIn s u) (h : o.Shown s.mMode)
    (hoff : o.on = false) : Output.off.Shown u.mMode := by
  have hclone : o ≠ .clone := by
    rintro rfl
    exact Bool.false_ne_true hoff.symm
  have hext : o ≠ .videoExt := by
    rintro rfl
    exact Bool.false_ne_true hoff.symm
  refine ⟨?_, ?_, ?_, ?_⟩
  · rw [hu.mode]
    simp [Output.plugged]
  · rw [hu.flag (by decide), h.on, hoff]
    rfl
  · rw [hu.flag (by decide), h.clone, decide_eq_false hclone]
    rfl
  · rw [hu.flag (by decide), h.videoExt, decide_eq_false hext]
    rfl

/-- An output that was not on is off now. -/
theorem PluggedIn.moved_off {s u : Composer} (hu : PluggedIn s u) (hoff : o.on = false)
    (haudio : u.audioCalls = s.audioCalls ++ if s.mConnectStatus ≠ r.connectionStatus ∧
      (!o.plugged) = true ∧ s.mDrmInit then [true] else []) :
    Moved b r s u.broadcastMode o .off := by
  have hkept : ∀ f ∈ [MdsMode.hdcpOn, .overlayOff],
      checkMode u.mMode f = checkMode s.mMode f := fun f hf => hu.flag (by
    rintro rfl
    exact absurd hf (by decide))
  cases o with
  | unplugged =>
    refine Moved.plug hkept hu.timer ?_
    rw [broadcastMode_audioCalls, haudio]
    simp [Output.plugged]
  | off =>
    refine Moved.stay _ hkept hu.timer ?_
    rw [broadcastMode_audioCalls, haudio]
    simp [Output.plugged]
  | clone | videoExt => exact absurd hoff.symm Bool.false_ne_true

/-- An output that was on is turned off. -/
theorem PluggedIn.moved_turnOff {s u : Composer} (hu : PluggedIn s u) (hon : o.on = true)
    (haudio : u.audioCalls = s.audioCalls ++ if s.mConnectStatus ≠ r.connectionStatus ∧
      (!o.plugged) = true ∧ s.mDrmInit then [true] else []) :
    Output.off.Shown (u.turnOffHdmi b).mMode ∧ Moved b r s (u.turnOffHdmi b) o .off := by
  refine ⟨?_, Moved.turnOff o hon ?_ ?_ ?_ ?_⟩
  · rw [turnOffHdmi_mMode, hu.mode]
    refine ⟨?_, ?_, ?_, ?_⟩
    · simp [Output.plugged]
    · simp [Output.on]
    · simp
    · simp
  · rw [turnOffHdmi_mMode]
    simp
  · rw [turnOffHdmi_mMode, ← hu.flag (by decide)]
    simp
  · rw [turnOffHdmi_timer, hu.timer, hu.flag (by decide)]
  · rw [(silent_turnOffHdmi b u).audioCalls, haudio, Output.plugged_of_on hon]
    simp

/-- The output is not allowed: it is turned off, the overlay stays. -/
theorem moved_hdmiIsNotAllowed (h : o.Shown s.mMode) :
    Output.off.Shown (((s.setMode .hdmiConnected true).notifyPlug r.connectionStatus
        (!checkMode s.mMode .hdmiConnected)).hdmiIsNotAllowed b).mMode ∧
      Moved b r s (((s.setMode .hdmiConnected true).notifyPlug r.connectionStatus
        (!checkMode s.mMode .hdmiConnected)).hdmiIsNotAllowed b) o .off := by
  have hu := pluggedIn_notifyPlug s r.connectionStatus (!checkMode s.mMode .hdmiConnected)
  have haudio := notifyPlug_audioCalls (s.setMode .hdmiConnected true) r.connectionStatus
    (!checkMode s.mMode .hdmiConnected)
  rw [h.connected] at hu haudio ⊢
  generalize (s.setMode .hdmiConnected true).notifyPlug r.connectionStatus (!o.plugged) = u
    at hu haudio ⊢
  have hon : checkMode u.mMode .hdmiOn = o.on := (hu.flag (by decide)).trans h.on
  unfold hdmiIsNotAllowed
  rw [hon]
  cases hlit : o.on with
  | false => exact ⟨hu.shown_off h hlit, hu.moved_off b r hlit haudio⟩
  | true => exact hu.moved_turnOff b r hlit haudio

theorem notifyAudio_mMode (notify : Bool) : (s.notifyAudio notify).mMode = s.mMode := by
  unfold notifyAudio
  split <;> rfl

theorem notifyAudio_audioCalls (notify : Bool) : (s.notifyAudio notify).audioCalls
    = s.audioCalls ++ if notify ∧ s.mDrmInit then [true] else [] := by
  unfold notifyAudio
  split_ifs
  · exact audioCalls_call s _
  · exact (List.append_nil _).symm

theorem notifyAudio_timer (notify : Bool) :
    (s.notifyAudio notify).device.hdcpStatusCheckTimer = s.device.hdcpStatusCheckTimer := by
  unfold notifyAudio
  split <;> rfl

theorem turnOffHdcp_timer (hb : b.enableHdcp = false) :
    (s.turnOffHdcp b).device.hdcpStatusCheckTimer = s.device.hdcpStatusCheckTimer := by
  unfold turnOffHdcp
  rw [drmHdcpDisableHdcp_stub b s.device true hb]
  split <;> rfl

theorem notifyTiming_timer :
    (s.notifyTiming r).device.hdcpStatusCheckTimer = s.device.hdcpStatusCheckTimer := by
  have hset : ∀ timing, (s.setHdmiTimingL r timing).2.device.hdcpStatusCheckTimer
      = s.device.hdcpStatusCheckTimer := by
    intro timing
    rcases setHdmiTimingL_eq r s timing with h | ⟨handle, listener, h⟩
    · rw [h]
    · rw [h]
      rfl
  unfold notifyTiming
  split
  · exact hset _
  · exact hset _

theorem turnOnHdcp_timer (hb : b.enableHdcp = false) :
    (s.turnOnHdcp b r).device.hdcpStatusCheckTimer = s.device.hdcpStatusCheckTimer := by
  unfold turnOnHdcp
  rw [drmHdcpEnableHdcp_stub b r.hdcp s.device hb]
  split <;> rfl

theorem setOutput_timer :
    s.setOutput.device.hdcpStatusCheckTimer = s.device.hdcpStatusCheckTimer := by
  unfold setOutput
  split <;> rfl

theorem turnOnHdmi_timer :
    s.turnOnHdmi.device.hdcpStatusCheckTimer = s.device.hdcpStatusCheckTimer := by
  unfold turnOnHdmi
  split <;> rfl

theorem turnOnOverlay_timer :
    s.turnOnOverlay.device.hdcpStatusCheckTimer = s.device.hdcpStatusCheckTimer := by
  unfold turnOnOverlay
  split <;> rfl

/-- Without `ENABLE_HDCP` there is no timer to start. -/
theorem switchHdmi_timer (hb : b.enableHdcp = false) :
    (s.switchHdmi b r).device.hdcpStatusCheckTimer = s.device.hdcpStatusCheckTimer := by
  generalize hu : (s.broadcastMessageL (.modeChange s.transitionalMode)).turnOffHdcp b = u
  have hswitch : (s.switchHdmi b r).device.hdcpStatusCheckTimer
      = ((((u.notifyTiming r).turnOnHdcp b r).setMode .overlayOff
          true).setOutput.broadcastMode.turnOnHdmi.turnOnOverlay).device.hdcpStatusCheckTimer := by
    rw [← hu]
    rfl
  have hbroadcast : ∀ v : Composer,
      v.broadcastMode.device.hdcpStatusCheckTimer = v.device.hdcpStatusCheckTimer := fun _ => rfl
  have hmode : ∀ (v : Composer) f on,
      (v.setMode f on).device.hdcpStatusCheckTimer = v.device.hdcpStatusCheckTimer :=
    fun _ _ _ => rfl
  rw [hswitch, turnOnOverlay_timer, turnOnHdmi_timer, hbroadcast, setOutput_timer, hmode,
    turnOnHdcp_timer b r _ hb, notifyTiming_timer, ← hu, turnOffHdcp_timer b _ hb]
  rfl

theorem pluggedIn_setConnectStatus (connectStatus : Int) :
    PluggedIn s ((s.setMode .hdmiConnected true).setConnectStatus connectStatus) :=
  ⟨rfl, rfl, rfl, rfl⟩

/-- An output that was on, and stays. -/
theorem PluggedIn.moved_stay {s u : Composer} (hu : PluggedIn s u)
    (haudio : u.audioCalls = s.audioCalls) (h : o.Shown s.mMode) (hon : o.on = true) :
    o.Shown u.broadcastMode.mMode ∧ Moved b r s u.broadcastMode o o := by
  have hconnected : checkMode s.mMode .hdmiConnected = true :=
    h.connected.trans (Output.plugged_of_on hon)
  have hsame : u.mMode = s.mMode := hu.mode.trans ((setFlag_eq_self_iff _ _ _).mpr hconnected)
  refine ⟨?_, Moved.stay o (fun f _ => congrArg (checkMode · f) hsame) hu.timer ?_⟩
  · show o.Shown u.mMode
    rw [hsame]
    exact h
  · rw [broadcastMode_audioCalls, haudio]

/-- From another output, to a clone or to the video. -/
theorem PluggedIn.moved_switch {s u : Composer} (hu : PluggedIn s u)
    (haudio : u.audioCalls = s.audioCalls) (h : o.Shown s.mMode)
    (hne : o ≠ Output.target true true s.mVideo.isPlaying) :
    (Output.target true true s.mVideo.isPlaying).Shown
        ((u.switchHdmi b r).notifyAudio (!o.plugged)).mMode ∧
      Moved b r s ((u.switchHdmi b r).notifyAudio (!o.plugged)) o
        (Output.target true true s.mVideo.isPlaying) := by
  obtain ⟨hdcp, hbits⟩ := switchHdmi_mMode b r u
  have hconnected : checkMode u.mMode .hdmiConnected = true := by
    rw [hu.mode, checkMode_setFlag, if_pos rfl]
  rw [hu.video] at hbits
  refine ⟨?_, Moved.switch o _ hne ?_ ?_ ?_ ?_⟩
  · rw [notifyAudio_mMode]
    refine ⟨?_, ?_, ?_, ?_⟩
    · rw [hbits, hconnected]
      cases s.mVideo.isPlaying <;> rfl
    · rw [hbits]
      cases s.mVideo.isPlaying <;> rfl
    · rw [hbits]
      cases s.mVideo.isPlaying <;> rfl
    · rw [hbits]
      cases s.mVideo.isPlaying <;> rfl
  · cases s.mVideo.isPlaying <;> rfl
  · rw [notifyAudio_mMode, hbits]
    cases s.mVideo.isPlaying <;> rfl
  · exact fun hb => by rw [notifyAudio_timer, switchHdmi_timer b r u hb, hu.timer]
  · rw [notifyAudio_audioCalls, (silent_switchHdmi b r u).audioCalls, haudio,
      (silent_switchHdmi b r u).drmInit, hu.drmInit]
    cases o <;> simp [Output.plugged]

/-- The output is allowed: it is a clone of the panel, or it shows the video. -/
theorem moved_hdmiIsAllowed (h : o.Shown s.mMode) (connectStatus : Int) :
    (Output.target true true s.mVideo.isPlaying).Shown
        (((s.setMode .hdmiConnected true).setConnectStatus connectStatus).hdmiIsAllowed b r
          (!checkMode s.mMode .hdmiConnected)).mMode ∧
      Moved b r s (((s.setMode .hdmiConnected true).setConnectStatus connectStatus).hdmiIsAllowed b
        r (!checkMode s.mMode .hdmiConnected)) o (Output.target true true s.mVideo.isPlaying) := by
  have hu := pluggedIn_setConnectStatus s connectStatus
  have haudio : ((s.setMode .hdmiConnected true).setConnectStatus connectStatus).audioCalls
      = s.audioCalls := rfl
  rw [h.connected]
  generalize (s.setMode .hdmiConnected true).setConnectStatus connectStatus = u at hu haudio ⊢
  have hswitch := hu.moved_switch b r haudio h
  unfold hdmiIsAllowed
  rw [hu.video, hu.flag (by decide), hu.flag (by decide), h.videoExt, h.clone]
  cases hplaying : s.mVideo.isPlaying with
  | true =>
    rw [hplaying] at hswitch
    by_cases ho : o = .videoExt
    · subst ho
      exact hu.moved_stay b r haudio h rfl
    · rw [if_neg (by simp [ho]), if_neg (by simp)]
      exact hswitch ho
  | false =>
    rw [hplaying] at hswitch
    by_cases ho : o = .clone
    · subst ho
      exact hu.moved_stay b r haudio h rfl
    · rw [if_neg (by simp), if_neg (by simp [ho])]
      exact hswitch ho

/-- **The cable**: the output follows it. -/
theorem followCable_moved (h : o.Shown s.mMode) :
    (s.asked r).Shown (s.followCable b r r.connectionStatus).mMode ∧
      Moved b r s (s.followCable b r r.connectionStatus) o (s.asked r) := by
  unfold followCable Composer.asked
  by_cases hplug : r.connectionStatus = drmHdmiDisconnected
  · rw [if_pos hplug, decide_eq_false (not_not.mpr hplug)]
    exact moved_hdmiIsDisconnected b r s h r.connectionStatus
  rw [if_neg hplug, decide_eq_true hplug]
  by_cases hpolicy : s.mHdmiPolicy = mdsHdmiOnNotAllowed
  · rw [decide_eq_false (not_not.mpr hpolicy)]
    exact (if_pos hpolicy).symm ▸ moved_hdmiIsNotAllowed b r s h
  · rw [decide_eq_true hpolicy]
    exact (if_neg hpolicy).symm ▸ moved_hdmiIsAllowed b r s h r.connectionStatus

end

/-! ### The panel -/

/-- The video is not shown on HDMI. -/
def Composer.needsPanel (r : DrmResults) (s : Composer) : Bool :=
  decide (r.connectionStatus = drmHdmiDisconnected) ||
    decide (s.mHdmiPolicy = mdsHdmiOnNotAllowed) || !s.mVideo.isPlaying

/-- The panel is turned on if it is needed and off. -/
structure PanelTurned (needed : Bool) (s t : Composer) : Prop where
  flag : checkMode t.mMode .mipiOn = (checkMode s.mMode .mipiOn || needed)
  mipiOn : t.mMipiOn = (s.mMipiOn || (needed && !checkMode s.mMode .mipiOn))
  calls : t.mipiCalls =
    s.mipiCalls ++ if needed && !checkMode s.mMode .mipiOn then [true] else []

section

variable (r : DrmResults) (s : Composer)

theorem needsPanel_iff : s.needsPanel r = true ↔ r.connectionStatus = drmHdmiDisconnected ∨
    s.mHdmiPolicy = mdsHdmiOnNotAllowed ∨ s.mVideo.isPlaying = false := by
  unfold needsPanel
  simp [or_assoc]

theorem turnOnMipi_eq : s.turnOnMipi r.connectionStatus =
    if s.needsPanel r then
      if checkMode s.mMode .mipiOn = false then
        (((s.setMipiPolicy mdsMipiOffNotAllowed).call (.mipiSetMode true)).setMode .mipiOn
          true).setMipiOn true
      else s.setMipiPolicy mdsMipiOffNotAllowed
    else s := by
  unfold turnOnMipi
  by_cases hneeded : s.needsPanel r = true
  · rw [if_pos ((needsPanel_iff r s).mp hneeded), if_pos hneeded]
    rfl
  · rw [if_neg (fun h => hneeded ((needsPanel_iff r s).mpr h)), if_neg hneeded]

theorem turnOnMipi_panelTurned :
    PanelTurned (s.needsPanel r) s (s.turnOnMipi r.connectionStatus) := by
  rw [turnOnMipi_eq]
  cases hneeded : s.needsPanel r with
  | false =>
    rw [if_neg Bool.false_ne_true]
    exact ⟨by simp, by simp, by simp⟩
  | true =>
    rw [if_pos rfl]
    by_cases hmipi : checkMode s.mMode .mipiOn = false
    · rw [if_pos hmipi]
      refine ⟨?_, ?_, ?_⟩
      · simp [setMipiOn, Composer.setMode]
      · simp [setMipiOn, hmipi]
      · rw [hmipi]
        exact mipiCalls_call (s.setMipiPolicy mdsMipiOffNotAllowed) _
    · rw [if_neg hmipi]
      rw [Bool.not_eq_false] at hmipi
      refine ⟨?_, ?_, ?_⟩
      · rw [Bool.or_true]
        exact hmipi
      · rw [hmipi]
        exact (Bool.or_false _).symm
      · rw [hmipi]
        exact (List.append_nil _).symm

/-- Turning on the panel changes nothing else. -/
structure PanelOnly (s t : Composer) : Prop where
  drmInit : t.mDrmInit = s.mDrmInit
  hdmiPolicy : t.mHdmiPolicy = s.mHdmiPolicy
  widi : t.mWidiVideoExt = s.mWidiVideoExt
  connectStatus : t.mConnectStatus = s.mConnectStatus
  video : t.mVideo = s.mVideo
  speaks : Speaks s t
  timer : t.device.hdcpStatusCheckTimer = s.device.hdcpStatusCheckTimer
  audio : t.audioCalls = s.audioCalls
  flags : ∀ f, f ≠ .mipiOn → checkMode t.mMode f = checkMode s.mMode f

theorem turnOnMipi_panelOnly : PanelOnly s (s.turnOnMipi r.connectionStatus) := by
  rw [turnOnMipi_eq]
  split_ifs
  · refine ⟨rfl, rfl, rfl, rfl, rfl, ?_, rfl, ?_, fun f hf => ?_⟩
    · exact ((speaks_of_log rfl rfl).trans (speaks_call (s.setMipiPolicy _) rfl)).trans
        (speaks_of_log rfl rfl)
    · exact (audioCalls_call (s.setMipiPolicy mdsMipiOffNotAllowed) _).trans (List.append_nil _)
    · exact (checkMode_setFlag _ _ _ _).trans (if_neg hf)
  · exact ⟨rfl, rfl, rfl, rfl, rfl, speaks_of_log rfl rfl, rfl, rfl, fun _ _ => rfl⟩
  · exact ⟨rfl, rfl, rfl, rfl, rfl, speaks_of_log rfl rfl, rfl, rfl, fun _ _ => rfl⟩

end

/-! ### The last broadcast -/

section

variable (b : Build) (r : DrmResults) (s : Composer)

theorem announces_hdmiIsDisconnected (connectStatus : Int) :
    Announces s (s.hdmiIsDisconnected b connectStatus) := by
  unfold hdmiIsDisconnected
  split
  · exact (announces_broadcastMode s).setConnectStatus connectStatus
  · obtain ⟨u, hu, heq⟩ := unplugHdmi_eq b s
    have hspeaks := (speaks_call s (e := .notifyAudioHotplug false) rfl).trans hu.speaks
    rw [heq]
    exact ((hspeaks.announces (announces_broadcastMode u)).call rfl).setConnectStatus connectStatus

theorem announces_hdmiIsNotAllowed : Announces s (s.hdmiIsNotAllowed b) := by
  unfold hdmiIsNotAllowed
  split
  · exact announces_broadcastMode s
  · obtain ⟨u, hu, heq⟩ := turnOffHdmi_eq b s
    rw [heq]
    exact (hu.speaks.announces (announces_broadcastMode u)).call rfl

theorem announces_hdmiIsAllowed (notify : Bool) : Announces s (s.hdmiIsAllowed b r notify) := by
  unfold hdmiIsAllowed
  split_ifs
  · exact announces_broadcastMode s
  · exact announces_broadcastMode s
  · obtain ⟨u, hu, heq⟩ := switchHdmi_eq b r s
    have hswitch := hu.speaks.announces (announces_broadcastMode u)
    rw [heq]
    unfold notifyAudio
    split
    · exact hswitch.call rfl
    · exact hswitch

/-- **Every exit** tells the listeners the mode. -/
theorem announces_followCable (connectStatus : Int) :
    Announces s (s.followCable b r connectStatus) := by
  have hconnected : Speaks s (s.setMode .hdmiConnected true) := speaks_of_log rfl rfl
  unfold followCable
  by_cases hplug : connectStatus = drmHdmiDisconnected
  · rw [if_pos hplug]
    exact announces_hdmiIsDisconnected b s connectStatus
  rw [if_neg hplug]
  by_cases hpolicy : s.mHdmiPolicy = mdsHdmiOnNotAllowed
  · have hnotify : Speaks s ((s.setMode .hdmiConnected true).notifyPlug connectStatus
        (!checkMode s.mMode .hdmiConnected)) := by
      refine hconnected.trans ?_
      unfold notifyPlug
      split
      · exact (speaks_call _ rfl).trans (speaks_of_log rfl rfl)
      · exact Speaks.refl _
    exact (if_pos hpolicy).symm ▸ hnotify.announces (announces_hdmiIsNotAllowed b _)
  · have hstatus : Speaks s ((s.setMode .hdmiConnected true).setConnectStatus connectStatus) :=
      hconnected.trans (speaks_of_log rfl rfl)
    exact (if_neg hpolicy).symm ▸ hstatus.announces (announces_hdmiIsAllowed b r _ _)

/-! ### The transition -/

/-- The output after `setHdmiMode_l`. -/
def Composer.reached (o : Output) : Output := if isRejected b r then o else s.asked r

/-- **What `setHdmiMode_l` does**, from an output on. -/
structure HdmiModeSet (t : Composer) (o : Output) : Prop where
  shown : (s.reached b r o).Shown t.mMode
  moved : Moved b r s t o (s.reached b r o)
  panel : PanelTurned (!isRejected b r && s.needsPanel r) s t
  playing : checkMode t.mMode .videoPlaying = s.mVideo.isPlaying
  drmInit : t.mDrmInit = s.mDrmInit
  hdmiPolicy : t.mHdmiPolicy = s.mHdmiPolicy
  widi : t.mWidiVideoExt = s.mWidiVideoExt
  video : t.mVideo = s.mVideo
  unplugged : isRejected b r = false → r.connectionStatus = drmHdmiDisconnected →
    t.mConnectStatus = drmHdmiDisconnected
  announces : Announces s t

theorem followCable_connectStatus (h : r.connectionStatus = drmHdmiDisconnected) :
    (s.followCable b r r.connectionStatus).mConnectStatus = drmHdmiDisconnected := by
  unfold followCable hdmiIsDisconnected
  rw [if_pos h]
  split
  · exact h
  · exact h

theorem setHdmiModeL_rejected (h : isRejected b r = true) : (s.setHdmiModeL b r).2
    = s.updateVideoStatus.broadcastMode.setConnectStatus r.connectionStatus := by
  unfold setHdmiModeL
  rw [if_pos h]

theorem setHdmiModeL_accepted (h : isRejected b r = false) : (s.setHdmiModeL b r).2
    = (s.updateVideoStatus.turnOnMipi r.connectionStatus).followCable b r r.connectionStatus := by
  unfold setHdmiModeL
  rw [if_neg (Bool.eq_false_iff.mp h)]

theorem updateVideoStatus_flags {f : MdsMode} (hf : f ≠ .videoPlaying) :
    checkMode s.updateVideoStatus.mMode f = checkMode s.mMode f :=
  (checkMode_setFlag _ _ _ _).trans (if_neg hf)

theorem updateVideoStatus_shown {o : Output} (h : o.Shown s.mMode) :
    o.Shown s.updateVideoStatus.mMode := h.setFlag _ (by decide)

theorem updateVideoStatus_playing :
    checkMode s.updateVideoStatus.mMode .videoPlaying = s.mVideo.isPlaying :=
  (checkMode_setFlag _ _ _ _).trans (if_pos rfl)

theorem updateVideoStatus_flags_of_mem {f : MdsMode} (hf : f ∈ [MdsMode.hdcpOn, .overlayOff]) :
    checkMode s.updateVideoStatus.mMode f = checkMode s.mMode f :=
  updateVideoStatus_flags s (by
    rintro rfl
    exact absurd hf (by decide))

theorem speaks_updateVideoStatus : Speaks s s.updateVideoStatus := speaks_of_log rfl rfl

theorem setHdmiModeL_set_rejected (hr : isRejected b r = true) {o : Output} (h : o.Shown s.mMode) :
    HdmiModeSet b r s (s.setHdmiModeL b r).2 o := by
  have hreached : s.reached b r o = o := if_pos hr
  rw [setHdmiModeL_rejected b r s hr]
  refine ⟨?_, ?_, ?_, updateVideoStatus_playing s, rfl, rfl, rfl, rfl, fun hno => ?_, ?_⟩
  · rw [hreached]
    exact updateVideoStatus_shown s h
  · rw [hreached]
    refine Moved.stay o (fun f hf => updateVideoStatus_flags_of_mem s hf) rfl ?_
    rw [setConnectStatus_audioCalls, broadcastMode_audioCalls]
    rfl
  · rw [hr]
    refine ⟨?_, (Bool.or_false _).symm, ?_⟩
    · rw [Bool.not_true, Bool.false_and, Bool.or_false]
      exact updateVideoStatus_flags s (by decide)
    · rw [Bool.not_true, Bool.false_and, Bool.false_and, if_neg Bool.false_ne_true, List.append_nil]
      exact ((Silent.refl s.updateVideoStatus).broadcastMode.mipiCalls)
  · exact absurd (hr.symm.trans hno).symm Bool.false_ne_true
  · exact ((speaks_updateVideoStatus s).announces
      (announces_broadcastMode _)).setConnectStatus r.connectionStatus

theorem setHdmiModeL_set_accepted (hr : isRejected b r = false) {o : Output} (h : o.Shown s.mMode) :
    HdmiModeSet b r s (s.setHdmiModeL b r).2 o := by
  have hreached : s.reached b r o = s.asked r := if_neg (Bool.eq_false_iff.mp hr)
  rw [setHdmiModeL_accepted b r s hr]
  have hpanel := turnOnMipi_panelTurned r s.updateVideoStatus
  have honly := turnOnMipi_panelOnly r s.updateVideoStatus
  generalize s.updateVideoStatus.turnOnMipi r.connectionStatus = u at hpanel honly
  have hasked : u.asked r = s.asked r := by
    unfold Composer.asked
    rw [honly.hdmiPolicy, honly.video]
    rfl
  have hshown : o.Shown u.mMode := by
    have hstart := updateVideoStatus_shown s h
    refine ⟨?_, ?_, ?_, ?_⟩
    · rw [honly.flags _ (by decide), hstart.connected]
    · rw [honly.flags _ (by decide), hstart.on]
    · rw [honly.flags _ (by decide), hstart.clone]
    · rw [honly.flags _ (by decide), hstart.videoExt]
  have hstart : SameStart s u := by
    refine ⟨fun f hf => ?_, honly.timer, honly.audio, honly.connectStatus, honly.drmInit⟩
    rw [honly.flags f (by
      rintro rfl
      exact absurd hf (by decide)), updateVideoStatus_flags_of_mem s hf]
  obtain ⟨hreach, hmoved⟩ := followCable_moved b r u hshown
  have hkept := panelKept_followCable b r u r.connectionStatus
  have hspeaks : Speaks s u := (speaks_updateVideoStatus s).trans honly.speaks
  rw [hasked] at hreach hmoved
  refine ⟨?_, ?_, ?_, ?_, ?_, ?_, ?_, ?_, ?_, ?_⟩
  · rw [hreached]
    exact hreach
  · rw [hreached]
    exact hmoved.of_sameStart hstart
  · have hneeds : s.updateVideoStatus.needsPanel r = s.needsPanel r := rfl
    have hmipi := updateVideoStatus_flags s (f := .mipiOn) (by decide)
    rw [hneeds] at hpanel
    rw [hr, Bool.not_false, Bool.true_and]
    refine ⟨?_, ?_, ?_⟩
    · rw [hkept.flags _ (by simp), hpanel.flag, hmipi]
    · rw [hkept.mipiOn, hpanel.mipiOn, hmipi]
      rfl
    · rw [hkept.calls, hpanel.calls, hmipi]
      rfl
  · rw [hkept.flags _ (by simp), honly.flags _ (by decide), updateVideoStatus_playing]
  · rw [hkept.drmInit, honly.drmInit]
    rfl
  · rw [hkept.hdmiPolicy, honly.hdmiPolicy]
    rfl
  · rw [hkept.widi, honly.widi]
    rfl
  · rw [hkept.video, honly.video]
    rfl
  · exact fun _ => followCable_connectStatus b r u
  · exact hspeaks.announces (announces_followCable b r u r.connectionStatus)

/-- **The contract of `setHdmiMode_l`.** -/
theorem setHdmiModeL_set {o : Output} (h : o.Shown s.mMode) :
    HdmiModeSet b r s (s.setHdmiModeL b r).2 o := by
  cases hr : isRejected b r with
  | false => exact setHdmiModeL_set_accepted b r s hr h
  | true => exact setHdmiModeL_set_rejected b r s hr h

end

end CtpCommon.Display
