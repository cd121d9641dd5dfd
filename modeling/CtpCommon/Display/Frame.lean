import CtpCommon.Display.System

/-!
# What a transition leaves alone

The request for the panel, the parameters of the scaling and the connection to SurfaceFlinger belong
to operations of their own.

* `Still`, `Composer.still` — these members;
* `setHdmiModeL_still`, `setMipiModeL_still` — **PROVED**: no transition changes them;
* `construct_still`, `perform_still` — **PROVED**: nor does the constructor, or any other operation
  than theirs.
-/

namespace CtpCommon.Display

/-- The members that only their own operations change. -/
structure Still where
  mipiReq : MipiReq
  surfaceComposer : Bool
  scaleMode : UInt32
  scaleStepX : UInt32
  scaleStepY : UInt32
  deriving DecidableEq

namespace Composer

def still (s : Composer) : Still :=
  ⟨s.mMipiReq, s.mSurfaceComposer, s.mScaleMode, s.mScaleStepX, s.mScaleStepY⟩

section

variable (b : Build) (r : DrmResults) (s : Composer)

@[simp] theorem still_withDevice (d : Device) : (s.withDevice d).still = s.still := rfl

@[simp] theorem still_call (e : Effect) : (s.call e).still = s.still := rfl

@[simp] theorem still_setMode (f : MdsMode) (on : Bool) : (s.setMode f on).still = s.still := rfl

@[simp] theorem still_setMipiOn (on : Bool) : (s.setMipiOn on).still = s.still := rfl

@[simp] theorem still_setMipiPolicy (policy : Int) :
    (s.setMipiPolicy policy).still = s.still := rfl

@[simp] theorem still_setConnectStatus (connectStatus : Int) :
    (s.setConnectStatus connectStatus).still = s.still := rfl

@[simp] theorem still_broadcastMessageL (message : MdsMessage) :
    (s.broadcastMessageL message).still = s.still := rfl

@[simp] theorem still_broadcastMode : s.broadcastMode.still = s.still := rfl

@[simp] theorem still_updateVideoStatus : s.updateVideoStatus.still = s.still := rfl

@[simp] theorem still_setHdmiTimingL (timing : MdsHdmiTiming) :
    (s.setHdmiTimingL r timing).2.still = s.still := by
  rcases setHdmiTimingL_eq r s timing with h | ⟨handle, listener, h⟩
  · rw [h]
  · rw [h, still_call]

/-! ### The steps of a transition -/

@[simp] theorem still_turnOnMipi (connectStatus : Int) :
    (s.turnOnMipi connectStatus).still = s.still := by
  unfold turnOnMipi
  split
  · dsimp only
    split
    · rfl
    · rfl
  · rfl

@[simp] theorem still_unplugHdmi : (s.unplugHdmi b).still = s.still := by
  simp [unplugHdmi]

@[simp] theorem still_hdmiIsDisconnected (connectStatus : Int) :
    (s.hdmiIsDisconnected b connectStatus).still = s.still := by
  unfold hdmiIsDisconnected
  split
  · rfl
  · rw [still_setConnectStatus, still_unplugHdmi]

@[simp] theorem still_notifyPlug (connectStatus : Int) (notify : Bool) :
    (s.notifyPlug connectStatus notify).still = s.still := by
  unfold notifyPlug
  split
  · rfl
  · rfl

@[simp] theorem still_turnOffHdmi : (s.turnOffHdmi b).still = s.still := by
  unfold turnOffHdmi
  split
  · rfl
  · rfl

@[simp] theorem still_hdmiIsNotAllowed : (s.hdmiIsNotAllowed b).still = s.still := by
  unfold hdmiIsNotAllowed
  split
  · rfl
  · exact still_turnOffHdmi b s

@[simp] theorem still_turnOffHdcp : (s.turnOffHdcp b).still = s.still := by
  unfold turnOffHdcp
  split
  · rfl
  · rfl

@[simp] theorem still_notifyTiming : (s.notifyTiming r).still = s.still := by
  unfold notifyTiming
  split
  · exact still_setHdmiTimingL r s _
  · exact still_setHdmiTimingL r s _

@[simp] theorem still_turnOnHdcp : (s.turnOnHdcp b r).still = s.still := by
  unfold turnOnHdcp
  split
  · rfl
  · rfl

@[simp] theorem still_setOutput : s.setOutput.still = s.still := by
  unfold setOutput
  split
  · rfl
  · rfl

@[simp] theorem still_turnOnHdmi : s.turnOnHdmi.still = s.still := by
  unfold turnOnHdmi
  split
  · rfl
  · rfl

@[simp] theorem still_turnOnOverlay : s.turnOnOverlay.still = s.still := by
  unfold turnOnOverlay
  split
  · rfl
  · rfl

@[simp] theorem still_notifyAudio (notify : Bool) : (s.notifyAudio notify).still = s.still := by
  unfold notifyAudio
  split
  · rfl
  · rfl

@[simp] theorem still_switchHdmi : (s.switchHdmi b r).still = s.still := by
  simp [switchHdmi]

@[simp] theorem still_hdmiIsAllowed (notify : Bool) :
    (s.hdmiIsAllowed b r notify).still = s.still := by
  unfold hdmiIsAllowed
  split
  · rfl
  split
  · rfl
  · rw [still_notifyAudio, still_switchHdmi]

@[simp] theorem still_followCable (connectStatus : Int) :
    (s.followCable b r connectStatus).still = s.still := by
  unfold followCable
  split
  · exact still_hdmiIsDisconnected b s connectStatus
  · dsimp only
    split
    · simp
    · simp

/-- **A transition** leaves them alone. -/
@[simp] theorem setHdmiModeL_still : (s.setHdmiModeL b r).2.still = s.still := by
  unfold setHdmiModeL
  dsimp only
  split
  · rfl
  · simp

/-! ### The other operations -/

@[simp] theorem setMipiModeL_still (on : Bool) : (s.setMipiModeL on).2.still = s.still := by
  unfold setMipiModeL
  split
  · rfl
  split
  · rfl
  split
  · split
    · rfl
    · dsimp only
      split
      · rfl
      · rfl
  · rfl

theorem still_mipiOffNotAllowed : s.mipiOffNotAllowed.still = s.still := by
  unfold mipiOffNotAllowed
  dsimp only
  split
  · rfl
  · rfl

theorem still_mipiOffAllowed : s.mipiOffAllowed.still = s.still := by
  unfold mipiOffAllowed
  dsimp only
  split
  · rfl
  · rfl

@[simp] theorem setModePolicyL_still (policy : Int) :
    (s.setModePolicyL b r policy).2.still = s.still := by
  unfold setModePolicyL
  split
  · exact setHdmiModeL_still b r { s with mHdmiPolicy := policy }
  split
  · exact still_mipiOffNotAllowed s
  split
  · exact still_mipiOffAllowed s
  · rfl

theorem still_checkInit {rest : Composer → Int × Composer}
    (h : (rest s).2.still = s.still) : (s.checkInit rest).2.still = s.still := by
  unfold checkInit
  split
  · rfl
  · exact h

theorem still_prepareForVideo (status : Int) :
    (s.prepareForVideo b r status).2.still = s.still := by
  refine still_checkInit s ?_
  dsimp only
  split
  · rfl
  split
  · exact setHdmiModeL_still b r _
  · rfl

theorem still_registerListener (listener : Option ListenerRef) (handle : Handle)
    (name : Option (List UInt8)) (msg : BitVec 32) :
    (s.registerListener listener handle name msg).2.still = s.still := by
  refine still_checkInit s ?_
  cases name with
  | none => rfl
  | some name =>
    dsimp only
    split_ifs
    · rfl
    · rfl
    · rfl

theorem still_setHdmiModeInfo (timing : MdsHdmiTiming) :
    (s.setHdmiModeInfo r timing).2.still = s.still :=
  still_checkInit s (still_setHdmiTimingL r (s.call (.setModeInfo timing)) _)

theorem still_updateVideoInfo (info : MdsVideoSourceInfo) :
    (s.updateVideoInfo b r info).2.still = s.still :=
  still_checkInit s (setHdmiModeL_still b r { s with mVideo := info })

theorem mMipiReq_checkInit {rest : Composer → Int × Composer}
    (h : (rest s).2.mMipiReq = s.mMipiReq) : (s.checkInit rest).2.mMipiReq = s.mMipiReq := by
  unfold checkInit
  split
  · rfl
  · exact h

theorem setDisplayScalingLocked_mMipiReq (mode stepx stepy : UInt32) :
    (s.setDisplayScalingLocked r mode stepx stepy).2.mMipiReq = s.mMipiReq := by
  unfold setDisplayScalingLocked
  split
  · rfl
  · rfl

theorem notifyHotPlug_mMipiReq : (s.notifyHotPlug b r).2.mMipiReq = s.mMipiReq := by
  have hset := congrArg Still.mipiReq (setHdmiModeL_still b r s)
  refine mMipiReq_checkInit s ?_
  dsimp only
  split
  · exact (setDisplayScalingLocked_mMipiReq r _ 0 0 0).trans hset
  · exact hset

theorem construct_still (b : Build) (boot : Boot) :
    (construct b boot).still = ⟨.noMipiReq, false, 0, 0, 0⟩ := by
  unfold construct
  split
  · rfl
  · dsimp only
    rw [setModePolicyL_still]
    split
    · rw [setModePolicyL_still]
      rfl
    · rfl

end

end Composer

open Composer

/-- The operations on the request for the panel and on the scaling. -/
def Operation.hasOwn : Operation → Bool
  | .notifyMipi _ | .notifyHotPlug | .setHdmiScaleType _ | .setHdmiScaleStep _ _ => true
  | _ => false

/-- **The other operations** leave them alone. -/
theorem perform_still (b : Build) (r : DrmResults) (s : Composer) {op : Operation}
    (h : op.hasOwn = false) : (perform b r s op).2.still = s.still := by
  cases op with
  | getMode =>
    rw [perform, getMode]
    exact still_checkInit s rfl
  | setModePolicy policy =>
    rw [perform]
    exact still_checkInit s (setModePolicyL_still b r s policy)
  | notifyWidi on => exact still_checkInit s rfl
  | setHdmiPowerOff => exact still_checkInit s rfl
  | prepareForVideo status =>
    rw [perform]
    exact still_prepareForVideo b r s status
  | getVideoState => exact still_checkInit s rfl
  | updateVideoInfo info =>
    rw [perform]
    exact still_updateVideoInfo b r s info
  | registerListener listener handle name msg =>
    rw [perform]
    exact still_registerListener s listener handle name msg
  | unregisterListener handle => exact still_checkInit s rfl
  | setHdmiModeInfo timing =>
    rw [perform]
    exact still_setHdmiModeInfo r s timing
  | getHdmiDeviceChange => exact still_checkInit s rfl
  | getHdmiModeInfo | getVideoInfo | getDisplayCapability => rfl
  | notifyMipi | notifyHotPlug | setHdmiScaleType | setHdmiScaleStep =>
    exact absurd h.symm Bool.false_ne_true

/-- Only `notifyMipi` asks the MIPI thread for something. -/
theorem perform_mMipiReq (b : Build) (r : DrmResults) (s : Composer) {op : Operation}
    (h : ∀ on, op ≠ .notifyMipi on) : (perform b r s op).2.mMipiReq = s.mMipiReq := by
  cases hown : op.hasOwn with
  | false => exact congrArg Still.mipiReq (perform_still b r s hown)
  | true =>
    cases op with
    | notifyMipi on => exact absurd rfl (h on)
    | notifyHotPlug =>
      rw [perform]
      exact notifyHotPlug_mMipiReq b r s
    | setHdmiScaleType type =>
      rw [perform, setHdmiScaleType]
      exact mMipiReq_checkInit s (setDisplayScalingLocked_mMipiReq r _ _ _ _)
    | setHdmiScaleStep hValue vValue =>
      rw [perform, setHdmiScaleStep]
      exact mMipiReq_checkInit s (setDisplayScalingLocked_mMipiReq r _ _ _ _)
    | getMode | setModePolicy | notifyWidi | setHdmiPowerOff | prepareForVideo | getVideoState
    | updateVideoInfo | registerListener | unregisterListener | getHdmiModeInfo | setHdmiModeInfo
    | getHdmiDeviceChange | getVideoInfo | getDisplayCapability =>
      exact absurd hown Bool.false_ne_true

end CtpCommon.Display
