import CtpCommon.Display.System

/-!
# The calls of an operation

Which calls a method of the composer adds to the log.  A transition delivers at most one timing;
before that it calls nothing that `drm_hdmi.cpp` would remember.

* `Adds p d d'` — from `d` to `d'` there are only calls that pass `p`;
* `isQuiet`, `isLater` — the calls before a timing, and after it;
* `Transits` — what a transition adds;
* `setHdmiModeL_transits` — **PROVED**: so it does;
* `setsHdmiMode` — the operations with a transition;
* `perform_transits`, `perform_scaling`, `perform_setHdmiModeInfo`, `perform_quiet` — **PROVED**:
  what these add, what a call for the scaling and the choice of a mode add, and what all others add;
* `construct_transits` — **PROVED**: what the constructor adds.
-/

namespace CtpCommon.Display

open Composer

/-- From one device to the next there are only calls that pass a test. -/
def Adds (p : Effect → Bool) (d d' : Device) : Prop :=
  ∃ new, d'.log = d.log ++ new ∧ ∀ e ∈ new, p e = true

namespace Effect

/-- Not a call that changes the context of `drm_hdmi.cpp`, and neither a timing nor a scaling. -/
def isQuiet : Effect → Bool
  | onHdmiDisconnected | setModeInfo _ | hdcpEnable | setTiming _ _ _ | scalingSetting _ => false
  | _ => true

/-- What a transition may call after it has delivered a timing. -/
def isLater : Effect → Bool
  | setModeInfo _ | setTiming _ _ _ | scalingSetting _ => false
  | _ => true

def isScaling : Effect → Bool
  | scalingSetting _ => true
  | _ => false

theorem isLater_of_isQuiet (e : Effect) (h : e.isQuiet = true) : e.isLater = true := by
  cases e <;> first | rfl | exact absurd h Bool.false_ne_true

theorem isLater_of_isHdcp (e : Effect) (h : e.isHdcp = true) : e.isLater = true := by
  cases e <;> first | rfl | exact absurd h Bool.false_ne_true

end Effect

/-! ### Additions -/

section

variable {p q : Effect → Bool} {d d' d'' : Device}

theorem Adds.refl (p : Effect → Bool) (d : Device) : Adds p d d :=
  ⟨[], (List.append_nil _).symm, fun _ he => absurd he List.not_mem_nil⟩

theorem Adds.trans (h : Adds p d d') (h' : Adds p d' d'') : Adds p d d'' := by
  obtain ⟨new, hlog, hnew⟩ := h
  obtain ⟨new', hlog', hnew'⟩ := h'
  refine ⟨new ++ new', ?_, List.forall_mem_append.mpr ⟨hnew, hnew'⟩⟩
  rw [hlog', hlog, List.append_assoc]

theorem Adds.mono (h : Adds p d d') (hpq : ∀ e, p e = true → q e = true) : Adds q d d' := by
  obtain ⟨new, hlog, hnew⟩ := h
  exact ⟨new, hlog, fun e he => hpq e (hnew e he)⟩

theorem Adds.call (d : Device) {e : Effect} (h : p e = true) : Adds p d (d.call e) :=
  ⟨[e], rfl, fun e' he' => by rw [List.mem_singleton.mp he', h]⟩

theorem Adds.of_log (h : d'.log = d.log) : Adds p d d' :=
  ⟨[], h.trans (List.append_nil _).symm, fun _ he => absurd he List.not_mem_nil⟩

theorem Adds.later (h : Adds Effect.isQuiet d d') : Adds Effect.isLater d d' :=
  h.mono Effect.isLater_of_isQuiet

theorem HdcpOnly.later (h : HdcpOnly d d') : Adds Effect.isLater d d' :=
  Adds.mono (p := Effect.isHdcp) h Effect.isLater_of_isHdcp

end

/-! ### The steps of a transition -/

section

variable (b : Build) (r : DrmResults) (s : Composer)

theorem quiet_deliveries (l : List (Handle × MultiDisplayListener)) (message : MdsMessage) :
    ∀ e ∈ deliveries l message, e.isQuiet = true := by
  intro e he
  obtain ⟨x, -, hx⟩ := List.mem_filterMap.mp he
  split at hx
  · obtain ⟨listener, -, rfl⟩ := Option.map_eq_some_iff.mp hx
    rfl
  · exact absurd hx.symm (Option.some_ne_none e)

theorem adds_broadcast (message : MdsMessage) :
    Adds Effect.isQuiet s.device (s.broadcastMessageL message).device :=
  ⟨_, rfl, List.forall_mem_cons.mpr ⟨rfl, quiet_deliveries s.mListener.entries message⟩⟩

theorem adds_broadcastMode : Adds Effect.isQuiet s.device s.broadcastMode.device :=
  adds_broadcast s _

theorem adds_call {e : Effect} (h : e.isQuiet = true) :
    Adds Effect.isQuiet s.device (s.call e).device := Adds.call s.device h

theorem adds_disableHdcp (connected : Bool) (d : Device) :
    Adds Effect.isQuiet d (drmHdcpDisableHdcp b connected d) := by
  have hstop : Adds Effect.isQuiet d (drmHdcpStopLinkChecking d) := by
    unfold drmHdcpStopLinkChecking
    split
    · exact Adds.refl _ d
    · exact Adds.of_log rfl
  unfold drmHdcpDisableHdcp
  split_ifs
  · exact hstop.trans (Adds.call _ rfl)
  · exact hstop
  · exact Adds.refl _ d

theorem adds_turnOnMipi (connectStatus : Int) :
    Adds Effect.isQuiet s.device (s.turnOnMipi connectStatus).device := by
  unfold turnOnMipi
  split
  · dsimp only
    split
    · exact Adds.call s.device rfl
    · exact Adds.refl _ s.device
  · exact Adds.refl _ s.device

theorem adds_unplugHdmi : Adds Effect.isLater s.device (s.unplugHdmi b).device := by
  have hnotify : Adds Effect.isQuiet s.device (s.call (.notifyAudioHotplug false)).device :=
    adds_call s rfl
  have hdisable := adds_disableHdcp b false (s.call (.notifyAudioHotplug false)).device
  unfold unplugHdmi
  dsimp only
  refine Adds.trans ?_ (Adds.call _ rfl)
  refine Adds.later (Adds.trans ?_ (adds_broadcastMode _))
  exact hnotify.trans hdisable

theorem adds_hdmiIsDisconnected (connectStatus : Int) :
    Adds Effect.isLater s.device (s.hdmiIsDisconnected b connectStatus).device := by
  unfold hdmiIsDisconnected
  split
  · exact (adds_broadcastMode s).later
  · exact adds_unplugHdmi b s

theorem adds_notifyPlug (connectStatus : Int) (notify : Bool) :
    Adds Effect.isQuiet s.device (s.notifyPlug connectStatus notify).device := by
  unfold notifyPlug
  split
  · exact adds_call s rfl
  · exact Adds.refl _ s.device

theorem adds_turnOffHdmi : Adds Effect.isQuiet s.device (s.turnOffHdmi b).device := by
  unfold turnOffHdmi
  dsimp only
  refine Adds.trans ?_ (Adds.call _ rfl)
  refine Adds.trans ?_ (adds_broadcastMode _)
  show Adds Effect.isQuiet s.device (if _ then s.withDevice _ else s).device
  split
  · exact adds_disableHdcp b true s.device
  · exact Adds.refl _ s.device

theorem adds_hdmiIsNotAllowed : Adds Effect.isQuiet s.device (s.hdmiIsNotAllowed b).device := by
  unfold hdmiIsNotAllowed
  split
  · exact adds_broadcastMode s
  · exact adds_turnOffHdmi b s

theorem adds_turnOffHdcp : Adds Effect.isQuiet s.device (s.turnOffHdcp b).device := by
  unfold turnOffHdcp
  split
  · exact adds_disableHdcp b true s.device
  · exact Adds.refl _ s.device

theorem adds_turnOnHdcp : Adds Effect.isLater s.device (s.turnOnHdcp b r).device := by
  have henable := (drmHdcpEnableHdcp_calls b r.hdcp s.device).later
  unfold turnOnHdcp
  split
  · exact henable
  · exact henable

theorem adds_turnOnHdmi : Adds Effect.isQuiet s.device s.turnOnHdmi.device := by
  unfold turnOnHdmi
  split
  · exact (adds_call s rfl).trans (adds_broadcastMode _)
  · exact Adds.refl _ s.device

theorem turnOnOverlay_device : s.turnOnOverlay.device = s.device := by
  unfold turnOnOverlay
  split
  · rfl
  · rfl

theorem setOutput_device : s.setOutput.device = s.device := by
  unfold setOutput
  split
  · rfl
  · rfl

theorem adds_notifyAudio (notify : Bool) :
    Adds Effect.isQuiet s.device (s.notifyAudio notify).device := by
  unfold notifyAudio
  split
  · exact adds_call s rfl
  · exact Adds.refl _ s.device

end

/-! ### The timing -/

/-- What a transition adds: later calls only, or a timing of a connected output between quiet
calls and later ones. -/
inductive Transits (r : DrmResults) (d d' : Device) : Prop
  | quiet (adds : Adds Effect.isLater d d')
  | timing (u : Device) (handle : Handle) (listener : ListenerRef) (video : Bool)
      (info : MdsHdmiTiming) (connected : r.connectionStatus ≠ drmHdmiDisconnected)
      (before : Adds Effect.isQuiet d u)
      (after : Adds Effect.isLater
        (u.call (.setTiming handle listener (r.getTiming video info))) d')

section

variable (b : Build) (r : DrmResults) (s : Composer) {d d' d'' : Device}

theorem Transits.trans (h : Transits r d d') (h' : Adds Effect.isLater d' d'') :
    Transits r d d'' := by
  cases h with
  | quiet adds => exact Transits.quiet (adds.trans h')
  | timing u handle listener video info connected before after =>
    exact Transits.timing u handle listener video info connected before (after.trans h')

theorem Transits.of_quiet (h' : Transits r d' d'') (h : Adds Effect.isQuiet d d') :
    Transits r d d'' := by
  cases h' with
  | quiet adds => exact Transits.quiet (h.later.trans adds)
  | timing u handle listener video info connected before after =>
    exact Transits.timing u handle listener video info connected (h.trans before) after

/-- Who gets the timing. -/
def Composer.timingReceiver : Option (Handle × ListenerRef) :=
  s.timingListener.bind fun x => x.2.mIEListener.map fun listener => (x.1, listener)

theorem setHdmiTimingL_device (timing : MdsHdmiTiming) :
    (s.setHdmiTimingL r timing).2.device = s.timingReceiver.elim s.device
      fun x => s.device.call (.setTiming x.1 x.2 timing) := by
  unfold setHdmiTimingL timingReceiver
  cases s.timingListener.bind _ with
  | none => rfl
  | some x => rfl

theorem transits_notifyTiming (hconnected : r.connectionStatus ≠ drmHdmiDisconnected) :
    Transits r s.device (s.notifyTiming r).device := by
  have hset : ∀ video info, Transits r s.device
      (s.setHdmiTimingL r (r.getTiming video info)).2.device := by
    intro video info
    rw [setHdmiTimingL_device]
    cases s.timingReceiver with
    | none => exact Transits.quiet (Adds.refl _ _)
    | some x =>
      exact Transits.timing s.device x.1 x.2 video info hconnected (Adds.refl _ _) (Adds.refl _ _)
  unfold notifyTiming
  split
  · exact hset _ _
  · exact hset _ _

theorem transits_switchHdmi (hconnected : r.connectionStatus ≠ drmHdmiDisconnected) :
    Transits r s.device (s.switchHdmi b r).device := by
  unfold switchHdmi
  dsimp only
  refine Transits.of_quiet r ?_ (adds_broadcast s (.modeChange s.transitionalMode))
  generalize s.broadcastMessageL (.modeChange s.transitionalMode) = u
  refine Transits.of_quiet r ?_ (adds_turnOffHdcp b u)
  refine (transits_notifyTiming r (u.turnOffHdcp b) hconnected).trans r ?_
  generalize (u.turnOffHdcp b).notifyTiming r = v
  refine (adds_turnOnHdcp b r v).trans ?_
  generalize v.turnOnHdcp b r = w
  refine Adds.later (Adds.trans ?_ (adds_broadcastMode _))
  rw [turnOnOverlay_device]
  refine Adds.trans ?_ (adds_turnOnHdmi _)
  refine Adds.trans ?_ (adds_broadcastMode _)
  rw [setOutput_device]
  exact Adds.refl _ w.device

theorem transits_hdmiIsAllowed (hconnected : r.connectionStatus ≠ drmHdmiDisconnected)
    (notify : Bool) : Transits r s.device (s.hdmiIsAllowed b r notify).device := by
  unfold hdmiIsAllowed
  split
  · exact Transits.quiet (adds_broadcastMode s).later
  split
  · exact Transits.quiet (adds_broadcastMode s).later
  · exact (transits_switchHdmi b r s hconnected).trans r (adds_notifyAudio _ notify).later

theorem transits_followCable :
    Transits r s.device (s.followCable b r r.connectionStatus).device := by
  unfold followCable
  by_cases hconnected : r.connectionStatus = drmHdmiDisconnected
  · rw [if_pos hconnected]
    exact Transits.quiet (adds_hdmiIsDisconnected b s _)
  rw [if_neg hconnected]
  dsimp only
  split
  · exact Transits.quiet ((adds_notifyPlug _ _ _).trans (adds_hdmiIsNotAllowed b _)).later
  · exact transits_hdmiIsAllowed b r
      ((s.setMode .hdmiConnected true).setConnectStatus r.connectionStatus) hconnected _

/-- **A transition** delivers at most one timing, and that to a connected output. -/
theorem setHdmiModeL_transits : Transits r s.device (s.setHdmiModeL b r).2.device := by
  unfold setHdmiModeL
  dsimp only
  split
  · exact Transits.quiet (adds_broadcastMode _).later
  · have hpanel := adds_turnOnMipi s.updateVideoStatus r.connectionStatus
    exact (transits_followCable b r
      (s.updateVideoStatus.turnOnMipi r.connectionStatus)).of_quiet r hpanel

/-- A policy for HDMI is a transition. -/
theorem setModePolicyL_transits {policy : Int}
    (h : policy = mdsHdmiOnNotAllowed ∨ policy = mdsHdmiOnAllowed) :
    Transits r s.device (s.setModePolicyL b r policy).2.device := by
  unfold setModePolicyL
  rw [if_pos h]
  exact setHdmiModeL_transits b r { s with mHdmiPolicy := policy }

end

/-! ### Operations -/

/-- The operations that call `setHdmiMode_l`. -/
def Composer.setsHdmiMode (s : Composer) : Operation → Bool
  | .setModePolicy policy =>
      s.mDrmInit ∧ (policy = mdsHdmiOnNotAllowed ∨ policy = mdsHdmiOnAllowed)
  | .notifyHotPlug => s.mDrmInit
  | .prepareForVideo status => s.mDrmInit ∧ s.mVideoState ≠ status ∧ status = mdsVideoUnprepared
  | .updateVideoInfo _ => s.mDrmInit
  | _ => false

section

variable (b : Build) (r : DrmResults) (s : Composer)

theorem adds_setDisplayScalingLocked (mode stepx stepy : UInt32) :
    Adds Effect.isScaling s.device (s.setDisplayScalingLocked r mode stepx stepy).2.device := by
  unfold setDisplayScalingLocked
  split
  · exact Adds.refl _ s.device
  · exact Adds.call s.device rfl

/-- **An operation with a transition**; `notifyHotPlug` may set the scaling after it. -/
theorem perform_transits {op : Operation} (h : s.setsHdmiMode op = true)
    (hplug : op ≠ .notifyHotPlug) : Transits r s.device (perform b r s op).2.device := by
  cases op with
  | notifyHotPlug => exact absurd rfl hplug
  | setModePolicy policy =>
    obtain ⟨hinit, hpolicy⟩ := of_decide_eq_true h
    rw [perform, Composer.setModePolicy, checkInit_of_init hinit]
    exact setModePolicyL_transits b r s hpolicy
  | prepareForVideo status =>
    obtain ⟨hinit, hstate, hunprepared⟩ := of_decide_eq_true h
    rw [perform, prepareForVideo, checkInit_of_init hinit, if_neg hstate]
    dsimp only
    rw [if_pos hunprepared]
    have htold := adds_broadcast { s with mVideoState := status } (.setVideoStatus status)
    have htransits := setHdmiModeL_transits b r
      { ({ s with mVideoState := status }.broadcastMessageL (.setVideoStatus status)) with
        mVideo := noVideo }
    exact htransits.of_quiet r htold
  | updateVideoInfo info =>
    rw [perform, updateVideoInfo, checkInit_of_init h]
    exact setHdmiModeL_transits b r { s with mVideo := info }
  | getMode | notifyWidi | notifyMipi | setHdmiPowerOff | getVideoState | registerListener
  | unregisterListener | getHdmiModeInfo | setHdmiModeInfo | setHdmiScaleType | setHdmiScaleStep
  | getHdmiDeviceChange | getVideoInfo | getDisplayCapability =>
    exact absurd h Bool.false_ne_true

/-- **A hot plug** is a transition, and sets the scaling to zero for a new device. -/
theorem perform_notifyHotPlug (hinit : s.mDrmInit = true) :
    (perform b r s .notifyHotPlug).2 =
      if r.isDeviceChanged ∧ (s.setHdmiModeL b r).2.mConnectStatus = drmHdmiConnected then
        ((s.setHdmiModeL b r).2.setDisplayScalingLocked r 0 0 0).2
      else (s.setHdmiModeL b r).2 := by
  rw [perform, notifyHotPlug, checkInit_of_init hinit]
  dsimp only
  split
  · rfl
  · rfl

theorem perform_transits_scaling {op : Operation} (h : s.setsHdmiMode op = true) :
    ∃ d, Transits r s.device d ∧ Adds Effect.isScaling d (perform b r s op).2.device := by
  by_cases hplug : op = .notifyHotPlug
  · subst hplug
    rw [perform_notifyHotPlug b r s h]
    refine ⟨_, setHdmiModeL_transits b r s, ?_⟩
    split
    · exact adds_setDisplayScalingLocked r (s.setHdmiModeL b r).2 0 0 0
    · exact Adds.refl _ _
  · exact ⟨_, perform_transits b r s h hplug, Adds.refl _ _⟩

theorem adds_mipiOffNotAllowed : Adds Effect.isQuiet s.device s.mipiOffNotAllowed.device := by
  unfold mipiOffNotAllowed
  dsimp only
  refine Adds.trans ?_ (adds_broadcastMode _)
  show Adds Effect.isQuiet s.device (if _ then _ else _ : Composer).device
  split
  · exact Adds.call s.device rfl
  · exact Adds.refl _ s.device

theorem adds_mipiOffAllowed : Adds Effect.isQuiet s.device s.mipiOffAllowed.device := by
  unfold mipiOffAllowed
  dsimp only
  refine Adds.trans ?_ (adds_broadcastMode _)
  show Adds Effect.isQuiet s.device (if _ then _ else _ : Composer).device
  split
  · exact Adds.call s.device rfl
  · exact Adds.refl _ s.device

theorem adds_setMipiModeL (on : Bool) :
    Adds Effect.isQuiet s.device (s.setMipiModeL on).2.device := by
  unfold setMipiModeL
  split
  · exact Adds.refl _ s.device
  split
  · exact Adds.call s.device rfl
  split
  · split
    · exact adds_broadcastMode s
    · dsimp only
      show Adds Effect.isQuiet s.device (if _ then _ else _ : Composer).device
      split
      · exact Adds.call s.device rfl
      · exact Adds.refl _ s.device
  · exact Adds.call s.device rfl

/-- The calls for the scaling. -/
def Operation.isScale : Operation → Bool
  | .setHdmiScaleType _ | .setHdmiScaleStep _ _ => true
  | _ => false

theorem perform_scaling {op : Operation} (h : op.isScale = true) :
    Adds Effect.isScaling s.device (perform b r s op).2.device := by
  cases hinit : s.mDrmInit with
  | false =>
    rw [perform_of_not_init b r hinit op]
    exact Adds.refl _ _
  | true =>
    cases op with
    | setHdmiScaleType type =>
      rw [perform, setHdmiScaleType, checkInit_of_init hinit]
      exact adds_setDisplayScalingLocked r { s with mScaleMode := UInt32.ofInt type } _ _ _
    | setHdmiScaleStep hValue vValue =>
      rw [perform, setHdmiScaleStep, checkInit_of_init hinit]
      exact adds_setDisplayScalingLocked r
        { s with mScaleStepX := scaleStep hValue, mScaleStepY := scaleStep vValue } _ _ _
    | getMode | setModePolicy | notifyWidi | notifyMipi | notifyHotPlug | setHdmiPowerOff
    | prepareForVideo | getVideoState | updateVideoInfo | registerListener | unregisterListener
    | getHdmiModeInfo | setHdmiModeInfo | getHdmiDeviceChange | getVideoInfo
    | getDisplayCapability => exact absurd h Bool.false_ne_true

/-- **The other operations** add nothing that `drm_hdmi.cpp` remembers, and no scaling. -/
theorem perform_quiet {op : Operation} (h : s.setsHdmiMode op = false)
    (hmode : ∀ timing, op ≠ .setHdmiModeInfo timing) (hscale : op.isScale = false) :
    Adds Effect.isQuiet s.device (perform b r s op).2.device := by
  cases hinit : s.mDrmInit with
  | false =>
    rw [perform_of_not_init b r hinit op]
    exact Adds.refl _ _
  | true =>
    cases op with
    | setModePolicy policy =>
      have hpolicy : ¬(policy = mdsHdmiOnNotAllowed ∨ policy = mdsHdmiOnAllowed) := fun h' =>
        of_decide_eq_false h ⟨hinit, h'⟩
      rw [perform, Composer.setModePolicy, checkInit_of_init hinit, setModePolicyL, if_neg hpolicy]
      split
      · exact adds_mipiOffNotAllowed s
      split
      · exact adds_mipiOffAllowed s
      · exact Adds.refl _ _
    | prepareForVideo status =>
      rw [perform, prepareForVideo, checkInit_of_init hinit]
      split
      · exact Adds.refl _ _
      · rename_i hstate
        have hprepared : status ≠ mdsVideoUnprepared := fun h' =>
          of_decide_eq_false h ⟨hinit, hstate, h'⟩
        dsimp only
        rw [if_neg hprepared]
        exact adds_broadcast { s with mVideoState := status } _
    | setHdmiModeInfo timing => exact absurd rfl (hmode timing)
    | setHdmiScaleType | setHdmiScaleStep => exact absurd hscale.symm Bool.false_ne_true
    | setHdmiPowerOff =>
      rw [perform, Composer.setHdmiPowerOff, checkInit_of_init hinit]
      exact adds_call s rfl
    | registerListener listener handle name msg =>
      rw [perform, registerListener, checkInit_of_init hinit]
      split
      · exact Adds.refl _ _
      · split_ifs
        · exact Adds.refl _ _
        · exact Adds.refl _ _
        · exact Adds.refl _ _
    | notifyHotPlug => exact absurd (hinit.symm.trans h) Bool.false_ne_true.symm
    | updateVideoInfo info => exact absurd (hinit.symm.trans h) Bool.false_ne_true.symm
    | getHdmiModeInfo | getVideoInfo | getDisplayCapability => exact Adds.refl _ _
    | getMode =>
      rw [perform, getMode, checkInit_of_init hinit]
      exact Adds.refl _ _
    | notifyWidi on =>
      rw [perform, notifyWidi, checkInit_of_init hinit]
      exact Adds.refl _ _
    | notifyMipi on =>
      rw [perform, notifyMipi, checkInit_of_init hinit]
      exact Adds.refl _ _
    | getVideoState =>
      rw [perform, getVideoState, checkInit_of_init hinit]
      exact Adds.refl _ _
    | unregisterListener handle =>
      rw [perform, unregisterListener, checkInit_of_init hinit]
      exact Adds.refl _ _
    | getHdmiDeviceChange =>
      rw [perform, getHdmiDeviceChange, checkInit_of_init hinit]
      exact Adds.refl _ _

/-- What an operation without a transition adds, when it chooses no mode. -/
def Effect.isPlain (e : Effect) : Bool := e.isQuiet || e.isScaling

theorem Adds.plain {d d' : Device} (h : Adds Effect.isQuiet d d') : Adds Effect.isPlain d d' :=
  h.mono fun e he => by rw [Effect.isPlain, he, Bool.true_or]

theorem perform_plain {op : Operation} (h : s.setsHdmiMode op = false)
    (hmode : ∀ timing, op ≠ .setHdmiModeInfo timing) :
    Adds Effect.isPlain s.device (perform b r s op).2.device := by
  cases hscale : op.isScale with
  | false => exact (perform_quiet b r s h hmode hscale).plain
  | true =>
    exact (perform_scaling b r s hscale).mono fun e he => by rw [Effect.isPlain, he, Bool.or_true]

/-- **The choice of a mode**: the call to the device, the timing for a receiver, the broadcast. -/
theorem perform_setHdmiModeInfo (hinit : s.mDrmInit = true) (timing : MdsHdmiTiming) :
    Adds Effect.isQuiet (s.timingReceiver.elim (s.device.call (.setModeInfo timing))
      fun x => (s.device.call (.setModeInfo timing)).call
        (.setTiming x.1 x.2 (r.getTiming false timing)))
      (perform b r s (.setHdmiModeInfo timing)).2.device := by
  rw [perform, setHdmiModeInfo, checkInit_of_init hinit]
  dsimp only
  have hreceiver : (s.call (.setModeInfo timing)).timingReceiver = s.timingReceiver := rfl
  rw [show s.device.call (.setModeInfo timing) = (s.call (.setModeInfo timing)).device from rfl,
    ← hreceiver, ← setHdmiTimingL_device r]
  exact adds_broadcastMode _

/-- **The constructor** makes a transition if HDMI is supported, and turns on the panel. -/
theorem construct_transits (b : Build) (boot : Boot) :
    (boot.hdmiSupported = true ∧
        Transits boot.results (blank boot).device (construct b boot).device) ∨
      Adds Effect.isQuiet (blank boot).device (construct b boot).device := by
  have hmipi : ∀ s : Composer, Adds Effect.isQuiet s.device
      (s.setModePolicyL b boot.results mdsMipiOffNotAllowed).2.device := by
    intro s
    unfold setModePolicyL
    rw [if_neg (by decide), if_pos rfl]
    exact adds_mipiOffNotAllowed s
  cases hinit : boot.drmInit with
  | false =>
    rw [construct_of_not_init b hinit]
    exact Or.inr (Adds.refl _ _)
  | true =>
    rw [construct_of_init b hinit]
    cases hsupported : boot.hdmiSupported with
    | false => exact Or.inr (hmipi _)
    | true =>
      refine Or.inl ⟨rfl, Transits.trans _ ?_ (hmipi _).later⟩
      rw [if_pos rfl]
      exact setModePolicyL_transits b boot.results
        { initialized boot with mDisplayCapability := mdsHwSupportWidi ||| mdsHwSupportHdmi }
        (Or.inr rfl)

end

end CtpCommon.Display
