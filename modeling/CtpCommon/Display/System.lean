import CtpCommon.Display.HdmiMode
import CtpCommon.Lib.Runs

/-!
# The running service

Clients call the composer, the MIPI thread takes their requests for the panel and carries them out,
and the timer checks the link: one step each, in any order, with any answers of the device.

* `MdsState`, `MdsAction`, `mds` — the composer with its thread, the steps, the service;
* `Request`, `MdsState.request` — what a step asks of the composer, most often nothing;
* `Quiet s t` — nothing that the display shows has changed;
* `Performs` — what a step does for a request;
* `step_mipiRequest`, `step_setMipiMode`, `step_checkLinkStatus` — **PROVED**: what a step can be;
* `step_performs` — **PROVED**: every step does what it asks for;
* `construct_performs` — **PROVED**: and so does the constructor.
-/

namespace CtpCommon.Display

open Composer

/-- The composer, with the request that the MIPI thread has taken. -/
structure MdsState where
  composer : Composer
  mipiThread : Option Bool

inductive MdsAction where
  | call (op : Operation) (r : DrmResults)
  | mipiRequest
  | setMipiMode
  | checkLinkStatus (isAuthenticated : Bool) (r : HdcpResults)

/-- One step.  The thread runs after `drm_init`; its wait may end without a request.  The timer's
function runs while there is a timer; it is on a thread of its own, but reads and writes no member
of the composer, so it is one step here (its calls to the driver, one by one among those of the
others, are in `Display.Ied`). -/
def step (b : Build) (s : MdsState) : MdsAction → Option MdsState
  | .call op r => some { s with composer := (perform b r s.composer op).2 }
  | .mipiRequest =>
      if s.composer.mDrmInit ∧ s.mipiThread = none then
        some ⟨{ s.composer with mMipiReq := .noMipiReq }, some (s.composer.mMipiReq == .mipiOnReq)⟩
      else none
  | .setMipiMode =>
      if s.composer.mDrmInit then s.mipiThread.map fun on => ⟨(s.composer.setMipiModeL on).2, none⟩
      else none
  | .checkLinkStatus isAuthenticated r =>
      if s.composer.device.hdcpStatusCheckTimer = 0 then none
      else some ⟨s.composer.withDevice
        (drmHdcpCheckLinkStatus isAuthenticated r s.composer.device), s.mipiThread⟩

/-- A device with this cable, the same at every call; authentication succeeds or fails. -/
def DrmResults.simple (connectionStatus : Int) (authenticated : Bool) : DrmResults where
  connectionStatus := connectionStatus
  getTiming _ timing := timing
  timingReply := mdsNoError
  isDeviceChanged := false
  connector := none
  surfaceFlinger := false
  scalingReply := mdsNoError
  hdcp :=
    { property := none
      enable := fun _ => true
      status := fun _ => connectionStatus
      authenticated := fun _ => authenticated
      timerCreate := some 1
      timer_ne_zero := by decide
      timerSettime := true }

/-- A boot with this cable. -/
def Composer.Boot.simple (connectionStatus : Int) : Boot :=
  ⟨true, true, 0, DrmResults.simple connectionStatus true⟩

def mds (b : Build) (boot : Boot) : Runs.System MdsState MdsAction :=
  ⟨⟨construct b boot, none⟩, step b⟩

/-! ### Requests -/

/-- What a step asks of the composer. -/
inductive Request where
  | nothing
  | listeners
  | hdmi (r : DrmResults) (policy : Int) (video : MdsVideoSourceInfo)
  | mipiPolicy (allowed : Bool)
  | widi (on : Bool)
  | mipiMode (on : Bool)

def Composer.policyRequest (r : DrmResults) (s : Composer) (policy : Int) : Request :=
  if policy = mdsHdmiOnNotAllowed ∨ policy = mdsHdmiOnAllowed then .hdmi r policy s.mVideo
  else if policy = mdsMipiOffNotAllowed then .mipiPolicy false
  else if policy = mdsMipiOffAllowed then .mipiPolicy true
  else .nothing

def Composer.request (r : DrmResults) (s : Composer) : Operation → Request
  | .setModePolicy policy => s.policyRequest r policy
  | .notifyWidi on => .widi on
  | .notifyHotPlug => .hdmi r s.mHdmiPolicy s.mVideo
  | .prepareForVideo status =>
      if s.mVideoState ≠ status ∧ status = mdsVideoUnprepared then .hdmi r s.mHdmiPolicy noVideo
      else .nothing
  | .updateVideoInfo info => .hdmi r s.mHdmiPolicy info
  | .registerListener _ _ _ _ => .listeners
  | .unregisterListener _ => .listeners
  | _ => .nothing

def MdsState.request (s : MdsState) : MdsAction → Request
  | .call op r => if s.composer.mDrmInit then s.composer.request r op else .nothing
  | .setMipiMode => if s.composer.mDrmInit then s.mipiThread.elim .nothing .mipiMode else .nothing
  | _ => .nothing

/-- Nothing that the display shows has changed. -/
structure Quiet (s t : Composer) : Prop where
  drmInit : t.mDrmInit = s.mDrmInit
  mode : t.mMode = s.mMode
  hdmiPolicy : t.mHdmiPolicy = s.mHdmiPolicy
  mipiPolicy : t.mMipiPolicy = s.mMipiPolicy
  mipiOn : t.mMipiOn = s.mMipiOn
  widi : t.mWidiVideoExt = s.mWidiVideoExt
  connectStatus : t.mConnectStatus = s.mConnectStatus
  video : t.mVideo = s.mVideo
  timer : t.device.hdcpStatusCheckTimer = s.device.hdcpStatusCheckTimer
  mipiCalls : t.mipiCalls = s.mipiCalls
  audioCalls : t.audioCalls = s.audioCalls
  repeats : Repeats s t

/-- What a step does for a request. -/
inductive Performs (b : Build) (s t : Composer) : Request → Prop
  | nothing (quiet : Quiet s t) : Performs b s t .nothing
  | listeners (m : Listeners) (eq : t = { s with mListener := m })
      (registered : ∀ handle, m.lookup handle = s.mListener.lookup handle ∨
        m.lookup handle = none ∨ s.mListener.lookup handle = none) : Performs b s t .listeners
  | hdmi (r : DrmResults) (policy : Int) (video : MdsVideoSourceInfo) (u : Composer)
      (known : policy ∈ [mdsHdmiOnNotAllowed, mdsHdmiOnAllowed, s.mHdmiPolicy])
      (quiet : Quiet { s with mHdmiPolicy := policy, mVideo := video } u)
      (set : ∀ o, o.Shown u.mMode → HdmiModeSet b r u t o) : Performs b s t (.hdmi r policy video)
  | mipiPolicy (allowed : Bool)
      (eq : t = if allowed then s.mipiOffAllowed else s.mipiOffNotAllowed) :
      Performs b s t (.mipiPolicy allowed)
  | widi (on : Bool) (eq : t = { s with mWidiVideoExt := on }.setMode .widiOn on) :
      Performs b s t (.widi on)
  | mipiMode (on : Bool) (eq : t = (s.setMipiModeL on).2) : Performs b s t (.mipiMode on)

/-! ### Steps that ask for nothing -/

section

variable {s t u : Composer}

theorem Quiet.of_eq (hlistener : t.mListener = s.mListener) (hdevice : t.device = s.device)
    (drmInit : t.mDrmInit = s.mDrmInit) (mode : t.mMode = s.mMode)
    (hdmiPolicy : t.mHdmiPolicy = s.mHdmiPolicy) (mipiPolicy : t.mMipiPolicy = s.mMipiPolicy)
    (mipiOn : t.mMipiOn = s.mMipiOn) (widi : t.mWidiVideoExt = s.mWidiVideoExt)
    (connectStatus : t.mConnectStatus = s.mConnectStatus) (video : t.mVideo = s.mVideo) :
    Quiet s t := by
  refine ⟨drmInit, mode, hdmiPolicy, mipiPolicy, mipiOn, widi, connectStatus, video, ?_, ?_, ?_,
    repeats_of_log hlistener ?_⟩
  · rw [hdevice]
  · unfold Composer.mipiCalls
    rw [hdevice]
  · unfold Composer.audioCalls
    rw [hdevice]
  · rw [hdevice]

theorem Quiet.refl (s : Composer) : Quiet s s :=
  Quiet.of_eq rfl rfl rfl rfl rfl rfl rfl rfl rfl rfl

theorem Quiet.trans (h : Quiet s t) (h' : Quiet t u) : Quiet s u where
  drmInit := h'.drmInit.trans h.drmInit
  mode := h'.mode.trans h.mode
  hdmiPolicy := h'.hdmiPolicy.trans h.hdmiPolicy
  mipiPolicy := h'.mipiPolicy.trans h.mipiPolicy
  mipiOn := h'.mipiOn.trans h.mipiOn
  widi := h'.widi.trans h.widi
  connectStatus := h'.connectStatus.trans h.connectStatus
  video := h'.video.trans h.video
  timer := h'.timer.trans h.timer
  mipiCalls := h'.mipiCalls.trans h.mipiCalls
  audioCalls := h'.audioCalls.trans h.audioCalls
  repeats := h.repeats.trans h.mode h'.repeats

/-- The device and what it was asked for, when nobody sees or hears it. -/
theorem quiet_withDevice (s : Composer) {d : Device} (h : HdcpOnly s.device d)
    (htimer : d.hdcpStatusCheckTimer = s.device.hdcpStatusCheckTimer) :
    Quiet s (s.withDevice d) := by
  refine ⟨rfl, rfl, rfl, rfl, rfl, rfl, rfl, rfl, htimer, ?_, ?_, ?_⟩
  · exact congrArg (List.filterMap ScreenCall.asMipi) h.screenCalls
  · exact congrArg (List.filterMap ScreenCall.asAudio) h.screenCalls
  · obtain ⟨new, hlog, hnew⟩ := h
    exact repeats_of_plain rfl hlog fun e he => isMessage_hdcp e (hnew e he)

theorem quiet_call (s : Composer) {e : Effect} (hscreen : e.screenCall = none)
    (hmessage : e.isMessage = false) : Quiet s (s.call e) := by
  refine ⟨rfl, rfl, rfl, rfl, rfl, rfl, rfl, rfl, rfl, ?_, ?_, repeats_call s hmessage⟩
  · rw [mipiCalls_call, hscreen]
    exact List.append_nil _
  · rw [audioCalls_call, hscreen]
    exact List.append_nil _

theorem quiet_broadcast (s : Composer) {message : MdsMessage}
    (h : Repeats s (s.broadcastMessageL message)) : Quiet s (s.broadcastMessageL message) :=
  ⟨rfl, rfl, rfl, rfl, rfl, rfl, rfl, rfl, rfl, ((Silent.refl s).broadcast message).mipiCalls,
    ((Silent.refl s).broadcast message).audioCalls, h⟩

theorem quiet_setHdmiTimingL (r : DrmResults) (s : Composer) (timing : MdsHdmiTiming) :
    Quiet s (s.setHdmiTimingL r timing).2 := by
  rcases setHdmiTimingL_eq r s timing with h | ⟨handle, listener, h⟩
  · rw [h]
    exact Quiet.refl s
  · rw [h]
    exact quiet_call s rfl rfl

theorem quiet_setDisplayScalingLocked (r : DrmResults) (s : Composer) (mode stepx stepy : UInt32) :
    Quiet s (s.setDisplayScalingLocked r mode stepx stepy).2 := by
  unfold setDisplayScalingLocked
  split
  · exact Quiet.refl s
  · have hfound : Quiet s { s with mSurfaceComposer := true } :=
      Quiet.of_eq rfl rfl rfl rfl rfl rfl rfl rfl rfl rfl
    exact hfound.trans (quiet_call _ rfl rfl)

/-! ### After the transition -/

theorem Moved.quiet {b : Build} {r : DrmResults} {o o' : Output} (h : Moved b r s t o o')
    (hq : Quiet t u) : Moved b r s u o o' := by
  cases h with
  | stay _ flags timer audio =>
    exact Moved.stay o (fun f hf => (congrArg (checkMode · f) hq.mode).trans (flags f hf))
      (hq.timer.trans timer) (hq.audioCalls.trans audio)
  | plug flags timer audio =>
    exact Moved.plug (fun f hf => (congrArg (checkMode · f) hq.mode).trans (flags f hf))
      (hq.timer.trans timer) (hq.audioCalls.trans audio)
  | unplug _ plugged hdcp overlay timer audio =>
    exact Moved.unplug o plugged (hq.mode.symm ▸ hdcp) (hq.mode.symm ▸ overlay)
      (hq.timer.trans timer) (hq.audioCalls.trans audio)
  | turnOff _ on hdcp overlay timer audio =>
    exact Moved.turnOff o on (hq.mode.symm ▸ hdcp) (hq.mode.symm ▸ overlay)
      (hq.timer.trans timer) (hq.audioCalls.trans audio)
  | switch _ _ ne on overlay timer audio =>
    exact Moved.switch o o' ne on (hq.mode.symm ▸ overlay)
      (fun hb => hq.timer.trans (timer hb)) (hq.audioCalls.trans audio)

theorem HdmiModeSet.quiet {b : Build} {r : DrmResults} {o : Output} (h : HdmiModeSet b r s t o)
    (hq : Quiet t u) (ha : Announces s u) : HdmiModeSet b r s u o where
  shown := hq.mode.symm ▸ h.shown
  moved := h.moved.quiet hq
  panel := ⟨hq.mode.symm ▸ h.panel.flag, hq.mipiOn.trans h.panel.mipiOn,
    hq.mipiCalls.trans h.panel.calls⟩
  playing := hq.mode.symm ▸ h.playing
  drmInit := hq.drmInit.trans h.drmInit
  hdmiPolicy := hq.hdmiPolicy.trans h.hdmiPolicy
  widi := hq.widi.trans h.widi
  video := hq.video.trans h.video
  unplugged hr hst := hq.connectStatus.trans (h.unplugged hr hst)
  announces := ha

theorem Announces.setDisplayScalingLocked (h : Announces s t) (r : DrmResults)
    (mode stepx stepy : UInt32) :
    Announces s (t.setDisplayScalingLocked r mode stepx stepy).2 := by
  unfold Composer.setDisplayScalingLocked
  split
  · exact h
  · have hfound : Announces s { t with mSurfaceComposer := true } := ⟨h.listener, h.told⟩
    exact hfound.call rfl

end

/-! ### Calls of clients -/

section

variable (b : Build) (r : DrmResults) {s : Composer}

theorem checkInit_of_init (h : s.mDrmInit = true) (rest : Composer → Int × Composer) :
    s.checkInit rest = rest s := by
  unfold checkInit
  rw [if_neg (by rw [h]; exact Bool.true_eq_false_eq_False)]

theorem checkInit_of_not_init (h : s.mDrmInit = false) (rest : Composer → Int × Composer) :
    s.checkInit rest = (mdsError, s) := by
  unfold checkInit
  rw [if_pos h]

/-- Before `drm_init` no call does anything. -/
theorem perform_of_not_init (h : s.mDrmInit = false) (op : Operation) :
    (perform b r s op).2 = s := by
  cases op <;>
    simp only [perform, getMode, Composer.setModePolicy, notifyWidi, notifyMipi, notifyHotPlug,
      Composer.setHdmiPowerOff, prepareForVideo, getVideoState, updateVideoInfo, registerListener,
      unregisterListener, setHdmiModeInfo, setHdmiScaleType, setHdmiScaleStep, getHdmiDeviceChange,
      getDisplayCapability, checkInit_of_not_init h]

theorem performs_setModePolicyL (policy : Int) :
    Performs b s (s.setModePolicyL b r policy).2 (s.policyRequest r policy) := by
  unfold setModePolicyL policyRequest
  by_cases hhdmi : policy = mdsHdmiOnNotAllowed ∨ policy = mdsHdmiOnAllowed
  · rw [if_pos hhdmi, if_pos hhdmi]
    refine Performs.hdmi r policy s.mVideo { s with mHdmiPolicy := policy } ?_ (Quiet.refl _)
      fun o ho => setHdmiModeL_set b r _ ho
    rcases hhdmi with rfl | rfl
    · simp
    · simp
  rw [if_neg hhdmi, if_neg hhdmi]
  by_cases hnot : policy = mdsMipiOffNotAllowed
  · rw [if_pos hnot, if_pos hnot]
    exact Performs.mipiPolicy false rfl
  rw [if_neg hnot, if_neg hnot]
  by_cases hoff : policy = mdsMipiOffAllowed
  · rw [if_pos hoff, if_pos hoff]
    exact Performs.mipiPolicy true rfl
  · rw [if_neg hoff, if_neg hoff]
    exact Performs.nothing (Quiet.refl s)

theorem performs_notifyHotPlug (h : s.mDrmInit = true) :
    Performs b s (s.notifyHotPlug b r).2 (.hdmi r s.mHdmiPolicy s.mVideo) := by
  unfold notifyHotPlug
  rw [checkInit_of_init h]
  refine Performs.hdmi r _ _ s (by simp) (Quiet.refl s) fun o ho => ?_
  have hset := setHdmiModeL_set b r s ho
  by_cases hscaling : r.isDeviceChanged ∧ (s.setHdmiModeL b r).2.mConnectStatus = drmHdmiConnected
  · simp only [if_pos hscaling]
    exact hset.quiet (quiet_setDisplayScalingLocked r _ 0 0 0)
      (hset.announces.setDisplayScalingLocked r 0 0 0)
  · simp only [if_neg hscaling]
    exact hset

theorem performs_prepareForVideo (h : s.mDrmInit = true) (status : Int) :
    Performs b s (s.prepareForVideo b r status).2 (s.request r (.prepareForVideo status)) := by
  unfold prepareForVideo Composer.request
  rw [checkInit_of_init h]
  by_cases hsame : s.mVideoState = status
  · simp only [hsame, ne_eq, not_true_eq_false, false_and, if_false]
    exact Performs.nothing (Quiet.refl s)
  have hstate : Quiet s { s with mVideoState := status } :=
    Quiet.of_eq rfl rfl rfl rfl rfl rfl rfl rfl rfl rfl
  by_cases hunprepared : status = mdsVideoUnprepared
  · simp only [if_pos hunprepared, ne_eq, hsame, not_false_eq_true, true_and]
    refine Performs.hdmi r _ _ _ (by simp) ?_ fun o ho => setHdmiModeL_set b r _ ho
    have hvideo : Quiet { s with mVideo := noVideo }
        { s with mVideo := noVideo, mVideoState := status } :=
      Quiet.of_eq rfl rfl rfl rfl rfl rfl rfl rfl rfl rfl
    exact hvideo.trans (quiet_broadcast { s with mVideo := noVideo, mVideoState := status }
      (repeats_broadcastVideoStatus _ status))
  · simp only [if_neg hsame, hunprepared, and_false, if_false]
    exact Performs.nothing
      (hstate.trans (quiet_broadcast _ (repeats_broadcastVideoStatus _ status)))

theorem performs_registerListener (h : s.mDrmInit = true) (listener : Option ListenerRef)
    (handle : Handle) (name : Option (List UInt8)) (msg : BitVec 32) :
    Performs b s (s.registerListener listener handle name msg).2 .listeners := by
  have hsame : Performs b s s .listeners :=
    Performs.listeners s.mListener rfl fun _ => Or.inl rfl
  unfold registerListener
  rw [checkInit_of_init h]
  cases name with
  | none => exact hsame
  | some name =>
    by_cases hmsg : msg = 0
    · simp only [if_pos hmsg]
      exact hsame
    by_cases hthere : (s.mListener.lookup handle).isSome = true
    · simp only [if_neg hmsg, if_pos hthere]
      exact hsame
    simp only [if_neg hmsg, if_neg hthere]
    refine Performs.listeners _ rfl fun handle' => ?_
    rw [KeyedVector.lookup_add]
    by_cases hhandle : handle = handle'
    · refine Or.inr (Or.inr ?_)
      rw [← hhandle]
      simpa using hthere
    · exact Or.inl (if_neg hhandle)

theorem performs_unregisterListener (h : s.mDrmInit = true) (handle : Handle) :
    Performs b s (s.unregisterListener handle).2 .listeners := by
  unfold unregisterListener
  rw [checkInit_of_init h]
  refine Performs.listeners _ rfl fun handle' => ?_
  rw [KeyedVector.lookup_removeItem]
  by_cases hhandle : handle = handle'
  · exact Or.inr (Or.inl (if_pos hhandle))
  · exact Or.inl (if_neg hhandle)

theorem quiet_setHdmiModeInfo (h : s.mDrmInit = true) (timing : MdsHdmiTiming) :
    Quiet s (s.setHdmiModeInfo r timing).2 := by
  unfold setHdmiModeInfo
  rw [checkInit_of_init h]
  have hcall : Quiet s (s.call (.setModeInfo timing)) := quiet_call s rfl rfl
  exact (hcall.trans (quiet_setHdmiTimingL r _ _)).trans
    (quiet_broadcast _ (repeats_broadcastMode _))

theorem quiet_setHdmiScaleType (h : s.mDrmInit = true) (type : Int) :
    Quiet s (s.setHdmiScaleType r type).2 := by
  unfold setHdmiScaleType
  rw [checkInit_of_init h]
  have hmode : Quiet s { s with mScaleMode := UInt32.ofInt type } :=
    Quiet.of_eq rfl rfl rfl rfl rfl rfl rfl rfl rfl rfl
  exact hmode.trans (quiet_setDisplayScalingLocked r _ _ _ _)

theorem quiet_setHdmiScaleStep (h : s.mDrmInit = true) (hValue vValue : Int) :
    Quiet s (s.setHdmiScaleStep r hValue vValue).2 := by
  unfold setHdmiScaleStep
  rw [checkInit_of_init h]
  have hstep : Quiet s
      { s with mScaleStepX := scaleStep hValue, mScaleStepY := scaleStep vValue } :=
    Quiet.of_eq rfl rfl rfl rfl rfl rfl rfl rfl rfl rfl
  exact hstep.trans (quiet_setDisplayScalingLocked r _ _ _ _)

/-- **A call does what it asks for.** -/
theorem perform_performs (h : s.mDrmInit = true) (op : Operation) :
    Performs b s (perform b r s op).2 (s.request r op) := by
  cases op with
  | getMode =>
    rw [perform, getMode, checkInit_of_init h]
    exact Performs.nothing (Quiet.refl s)
  | setModePolicy policy =>
    rw [perform, Composer.setModePolicy, checkInit_of_init h]
    exact performs_setModePolicyL b r policy
  | notifyWidi on =>
    rw [perform, notifyWidi, checkInit_of_init h]
    exact Performs.widi on rfl
  | notifyMipi on =>
    rw [perform, notifyMipi, checkInit_of_init h]
    exact Performs.nothing (Quiet.of_eq rfl rfl rfl rfl rfl rfl rfl rfl rfl rfl)
  | notifyHotPlug => exact performs_notifyHotPlug b r h
  | setHdmiPowerOff =>
    rw [perform, Composer.setHdmiPowerOff, checkInit_of_init h]
    exact Performs.nothing (quiet_call s rfl rfl)
  | prepareForVideo status => exact performs_prepareForVideo b r h status
  | getVideoState =>
    rw [perform, getVideoState, checkInit_of_init h]
    exact Performs.nothing (Quiet.refl s)
  | updateVideoInfo info =>
    rw [perform, updateVideoInfo, checkInit_of_init h]
    exact Performs.hdmi r _ _ { s with mVideo := info } (by simp) (Quiet.refl _)
      fun o ho => setHdmiModeL_set b r _ ho
  | registerListener listener handle name msg =>
    exact performs_registerListener b h listener handle name msg
  | unregisterListener handle => exact performs_unregisterListener b h handle
  | getHdmiModeInfo => exact Performs.nothing (Quiet.refl s)
  | setHdmiModeInfo timing => exact Performs.nothing (quiet_setHdmiModeInfo r h timing)
  | setHdmiScaleType type => exact Performs.nothing (quiet_setHdmiScaleType r h type)
  | setHdmiScaleStep hValue vValue =>
    exact Performs.nothing (quiet_setHdmiScaleStep r h hValue vValue)
  | getHdmiDeviceChange =>
    rw [perform, getHdmiDeviceChange, checkInit_of_init h]
    exact Performs.nothing (Quiet.refl s)
  | getVideoInfo => exact Performs.nothing (Quiet.refl s)
  | getDisplayCapability => exact Performs.nothing (Quiet.refl s)

end

/-! ### Steps -/

section

variable {b : Build} {s t : MdsState} {a : MdsAction}

/-- **The thread takes the request.** -/
theorem step_mipiRequest (h : step b s .mipiRequest = some t) :
    s.composer.mDrmInit = true ∧ s.mipiThread = none ∧
      t = ⟨{ s.composer with mMipiReq := .noMipiReq },
        some (s.composer.mMipiReq == .mipiOnReq)⟩ := by
  simp only [step] at h
  split at h
  · rename_i hfree
    exact ⟨hfree.1, hfree.2, (Option.some.inj h).symm⟩
  · exact absurd h.symm (Option.some_ne_none t)

/-- **The thread sets the mode** that it has taken. -/
theorem step_setMipiMode (h : step b s .setMipiMode = some t) :
    ∃ on, s.composer.mDrmInit = true ∧ s.mipiThread = some on ∧
      t = ⟨(s.composer.setMipiModeL on).2, none⟩ := by
  simp only [step] at h
  split at h
  · rename_i hinit
    obtain ⟨on, hon, heq⟩ := Option.map_eq_some_iff.mp h
    exact ⟨on, hinit, hon, heq.symm⟩
  · exact absurd h.symm (Option.some_ne_none t)

/-- **The timer's function** runs while there is a timer. -/
theorem step_checkLinkStatus {isAuthenticated : Bool} {r : HdcpResults}
    (h : step b s (.checkLinkStatus isAuthenticated r) = some t) :
    s.composer.device.hdcpStatusCheckTimer ≠ 0 ∧
      t = ⟨s.composer.withDevice
        (drmHdcpCheckLinkStatus isAuthenticated r s.composer.device), s.mipiThread⟩ := by
  simp only [step] at h
  split at h
  · exact absurd h.symm (Option.some_ne_none t)
  · rename_i htimer
    exact ⟨htimer, (Option.some.inj h).symm⟩

/-- **Every step does what it asks for.** -/
theorem step_performs (h : step b s a = some t) :
    Performs b s.composer t.composer (s.request a) := by
  cases a with
  | call op r =>
    obtain rfl := Option.some.inj h
    cases hinit : s.composer.mDrmInit with
    | false =>
      rw [MdsState.request, hinit, if_neg Bool.false_ne_true]
      refine Performs.nothing ?_
      show Quiet s.composer (perform b r s.composer op).2
      rw [perform_of_not_init b r hinit op]
      exact Quiet.refl s.composer
    | true =>
      rw [MdsState.request, hinit, if_pos rfl]
      exact perform_performs b r hinit op
  | mipiRequest =>
    obtain ⟨-, -, rfl⟩ := step_mipiRequest h
    exact Performs.nothing (Quiet.of_eq rfl rfl rfl rfl rfl rfl rfl rfl rfl rfl)
  | setMipiMode =>
    obtain ⟨on, hinit, hon, rfl⟩ := step_setMipiMode h
    rw [MdsState.request, if_pos hinit, hon]
    exact Performs.mipiMode on rfl
  | checkLinkStatus isAuthenticated r =>
    obtain ⟨-, rfl⟩ := step_checkLinkStatus h
    exact Performs.nothing (quiet_withDevice s.composer
      (drmHdcpCheckLinkStatus_calls isAuthenticated r _)
      (drmHdcpCheckLinkStatus_timer r _ isAuthenticated))

end

/-- The members after `drm_init`. -/
def Composer.initialized (boot : Boot) : Composer := { blank boot with mDrmInit := true }

theorem performs_mipiOffNotAllowed (b : Build) (r : DrmResults) (s : Composer) :
    Performs b s (s.setModePolicyL b r mdsMipiOffNotAllowed).2 (.mipiPolicy false) :=
  performs_setModePolicyL b r mdsMipiOffNotAllowed

theorem construct_of_not_init (b : Build) {boot : Boot} (h : boot.drmInit = false) :
    construct b boot = blank boot := by
  unfold construct
  exact if_pos h

theorem construct_of_init (b : Build) {boot : Boot} (h : boot.drmInit = true) :
    construct b boot = ((if boot.hdmiSupported then
      ({ initialized boot with
        mDisplayCapability := mdsHwSupportWidi ||| mdsHwSupportHdmi }.setModePolicyL b
          boot.results mdsHdmiOnAllowed).2
      else initialized boot).setModePolicyL b boot.results mdsMipiOffNotAllowed).2 := by
  unfold construct
  exact if_neg (by simp [h])

/-- **The constructor** is two requests; without HDMI, the first asks for nothing. -/
theorem construct_performs (b : Build) {boot : Boot} (h : boot.drmInit = true) :
    ∃ u, Performs b (initialized boot) u
        (if boot.hdmiSupported then .hdmi boot.results mdsHdmiOnAllowed noVideo else .nothing) ∧
      Performs b u (construct b boot) (.mipiPolicy false) := by
  rw [construct_of_init b h]
  refine ⟨_, ?_, performs_mipiOffNotAllowed b boot.results _⟩
  cases boot.hdmiSupported with
  | false => exact Performs.nothing (Quiet.refl _)
  | true =>
    exact Performs.hdmi boot.results _ _
      { initialized boot with
        mDisplayCapability := mdsHwSupportWidi ||| mdsHwSupportHdmi,
        mHdmiPolicy := mdsHdmiOnAllowed }
      (by simp) (Quiet.of_eq rfl rfl rfl rfl rfl rfl rfl rfl rfl rfl)
      fun o ho => setHdmiModeL_set b _ _ ho

/-! ### The invariant rule -/

/-- A condition on the requests of a run. -/
abbrev Admits (ok : Composer → Request → Prop) (s : MdsState) (a : MdsAction) : Prop :=
  ok s.composer (s.request a)

/-- What is true of the members before `initialize_l`, and is kept by every admitted request, is
true after the constructor. -/
theorem construct_invariant (b : Build) (boot : Boot) (ok : Composer → Request → Prop)
    {I : Composer → Prop} (hstart : I { blank boot with mDrmInit := boot.drmInit })
    (hnothing : ∀ u, ok u .nothing) (hpolicy : ∀ u, ok u (.mipiPolicy false))
    (hhdmi : ∀ u r video, ok u (.hdmi r mdsHdmiOnAllowed video))
    (hstep : ∀ {s t q}, I s → ok s q → Performs b s t q → I t) : I (construct b boot) := by
  cases hinit : boot.drmInit with
  | false =>
    rw [construct_of_not_init b hinit]
    rw [hinit] at hstart
    exact hstart
  | true =>
    rw [hinit] at hstart
    obtain ⟨u, hu, hconstruct⟩ := construct_performs b hinit
    refine hstep (hstep hstart ?_ hu) (hpolicy u) hconstruct
    split
    · exact hhdmi _ _ _
    · exact hnothing _

/-- **The invariant rule of the service.**  The same is true of the composer after every run. -/
theorem mds_invariant {b : Build} {boot : Boot} {ok : Composer → Request → Prop}
    {I : Composer → Prop} (hstart : I { blank boot with mDrmInit := boot.drmInit })
    (hnothing : ∀ u, ok u .nothing) (hpolicy : ∀ u, ok u (.mipiPolicy false))
    (hhdmi : ∀ u r video, ok u (.hdmi r mdsHdmiOnAllowed video))
    (hstep : ∀ {s t q}, I s → ok s q → Performs b s t q → I t)
    {s : MdsState} (h : Runs.Reaches (mds b boot) (Admits ok) s) : I s.composer :=
  h.invariant (I := fun s => I s.composer)
    (construct_invariant b boot ok hstart hnothing hpolicy hhdmi hstep)
    fun hI hok hst => hstep hI hok (step_performs hst)

/-! ### Without `drm_init` -/

theorem request_of_not_init {s : MdsState} (h : s.composer.mDrmInit = false) (a : MdsAction) :
    s.request a = .nothing := by
  cases a with
  | call op r =>
    rw [MdsState.request, h]
    rfl
  | setMipiMode =>
    rw [MdsState.request, h]
    rfl
  | mipiRequest | checkLinkStatus => rfl

theorem quiet_step_of_not_init {b : Build} {boot : Boot} {s t : MdsState} {a : MdsAction}
    (hs : Quiet (blank boot) s.composer) (hst : step b s a = some t) :
    Quiet (blank boot) t.composer := by
  have hperforms := step_performs hst
  rw [request_of_not_init hs.drmInit] at hperforms
  cases hperforms with
  | nothing quiet => exact hs.trans quiet

/-- **A service without `drm_init`** never does anything. -/
theorem quiet_of_not_init {b : Build} {boot : Boot} {ok : MdsState → MdsAction → Prop}
    (hinit : boot.drmInit = false) {s : MdsState} (h : Runs.Reaches (mds b boot) ok s) :
    Quiet (blank boot) s.composer := by
  refine h.invariant (I := fun s => Quiet (blank boot) s.composer) ?_
    fun hs _ hst => quiet_step_of_not_init hs hst
  show Quiet (blank boot) (construct b boot)
  rw [construct_of_not_init b hinit]
  exact Quiet.refl _

end CtpCommon.Display
