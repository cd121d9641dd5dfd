import CtpCommon.Display.System

/-!
# The output over whole runs

Only a transition changes the output; the panel, WiDi and the registrations do not touch its flags.
So what a transition brings with a change of the output decides what holds after every run.

* `OutputKept` — a request that is no transition leaves the output alone;
* `ModeConsistent` — the flags of the mode fit each other, the policy and the video;
* `modeConsistent_of_run` — **PROVED**: they do after every run;
* `TurnsOff` — the policy turns off an output that is on;
* `OverlayRestored` — the overlay is off only for a clone;
* `overlayRestored_of_run` — **PROVED**: so it is unless the policy turns off a clone.
-/

namespace CtpCommon.Display

open Composer

/-! ### Requests that are no transition -/

/-- From one state to the next the output is the same. -/
structure OutputKept (s t : Composer) : Prop where
  drmInit : t.mDrmInit = s.mDrmInit
  hdmiPolicy : t.mHdmiPolicy = s.mHdmiPolicy
  connectStatus : t.mConnectStatus = s.mConnectStatus
  timer : t.device.hdcpStatusCheckTimer = s.device.hdcpStatusCheckTimer
  audioCalls : t.audioCalls = s.audioCalls
  flags : ∀ f ∉ [MdsMode.mipiOn, .widiOn], checkMode t.mMode f = checkMode s.mMode f

section

variable {b : Build} {s t u : Composer} {q : Request}

theorem OutputKept.refl (s : Composer) : OutputKept s s :=
  ⟨rfl, rfl, rfl, rfl, rfl, fun _ _ => rfl⟩

theorem OutputKept.trans (h : OutputKept s t) (h' : OutputKept t u) : OutputKept s u :=
  ⟨h'.drmInit.trans h.drmInit, h'.hdmiPolicy.trans h.hdmiPolicy,
    h'.connectStatus.trans h.connectStatus, h'.timer.trans h.timer,
    h'.audioCalls.trans h.audioCalls, fun f hf => (h'.flags f hf).trans (h.flags f hf)⟩

theorem Quiet.outputKept (h : Quiet s t) : OutputKept s t :=
  ⟨h.drmInit, h.hdmiPolicy, h.connectStatus, h.timer, h.audioCalls,
    fun f _ => congrArg (checkMode · f) h.mode⟩

theorem outputKept_setMode (s : Composer) {f : MdsMode} (hf : f ∈ [MdsMode.mipiOn, .widiOn])
    (on : Bool) : OutputKept s (s.setMode f on) :=
  ⟨rfl, rfl, rfl, rfl, rfl, fun g hg => (checkMode_setFlag _ _ _ _).trans (if_neg (by
    rintro rfl
    exact hg hf))⟩

theorem outputKept_mipiSetMode (s : Composer) (on : Bool) :
    OutputKept s (s.call (.mipiSetMode on)) := by
  refine ⟨rfl, rfl, rfl, rfl, ?_, fun _ _ => rfl⟩
  rw [audioCalls_call]
  exact List.append_nil _

theorem outputKept_setMipiPolicy (s : Composer) (policy : Int) :
    OutputKept s (s.setMipiPolicy policy) :=
  ⟨rfl, rfl, rfl, rfl, rfl, fun _ _ => rfl⟩

theorem outputKept_setMipiOn (s : Composer) (on : Bool) : OutputKept s (s.setMipiOn on) :=
  ⟨rfl, rfl, rfl, rfl, rfl, fun _ _ => rfl⟩

theorem outputKept_broadcastMode (s : Composer) : OutputKept s s.broadcastMode :=
  (quiet_broadcast s (repeats_broadcastMode s)).outputKept

theorem outputKept_mipiOffNotAllowed (s : Composer) : OutputKept s s.mipiOffNotAllowed := by
  have hcall : OutputKept s
      (if checkMode (s.setMipiPolicy mdsMipiOffNotAllowed).mMode .mipiOn = false then
        (s.setMipiPolicy mdsMipiOffNotAllowed).call (.mipiSetMode true)
      else s.setMipiPolicy mdsMipiOffNotAllowed) := by
    split
    · exact (outputKept_setMipiPolicy s _).trans (outputKept_mipiSetMode _ true)
    · exact outputKept_setMipiPolicy s _
  exact ((hcall.trans (outputKept_setMode _ (by simp) true)).trans
    (outputKept_setMipiOn _ true)).trans (outputKept_broadcastMode _)

theorem outputKept_mipiOffAllowed (s : Composer) : OutputKept s s.mipiOffAllowed := by
  have hcall : OutputKept s
      (if checkMode (s.setMipiPolicy mdsMipiOffAllowed).mMode .mipiOn then
        (s.setMipiPolicy mdsMipiOffAllowed).call (.mipiSetMode false)
      else s.setMipiPolicy mdsMipiOffAllowed) := by
    split
    · exact (outputKept_setMipiPolicy s _).trans (outputKept_mipiSetMode _ false)
    · exact outputKept_setMipiPolicy s _
  exact ((hcall.trans (outputKept_setMode _ (by simp) false)).trans
    (outputKept_setMipiOn _ false)).trans (outputKept_broadcastMode _)

theorem outputKept_setMipiModeL (s : Composer) (on : Bool) :
    OutputKept s (s.setMipiModeL on).2 := by
  have hset : ∀ on', OutputKept s ((s.call (.mipiSetMode on')).setMode .mipiOn on') := fun on' =>
    (outputKept_mipiSetMode s on').trans (outputKept_setMode _ (by simp) on')
  unfold setMipiModeL
  split_ifs
  · exact OutputKept.refl s
  · exact (hset true).trans (outputKept_setMipiOn _ on)
  · exact outputKept_broadcastMode s
  · exact (hset false).trans (outputKept_setMipiOn _ on)
  · exact outputKept_setMipiOn s on
  · exact (hset false).trans (outputKept_setMipiOn _ on)

/-- **A request is a transition, or it keeps the output.** -/
theorem Performs.output (h : Performs b s t q) :
    (OutputKept s t ∧ ∀ r policy video, q ≠ .hdmi r policy video) ∨
      ∃ r policy video u, q = .hdmi r policy video ∧
        policy ∈ [mdsHdmiOnNotAllowed, mdsHdmiOnAllowed, s.mHdmiPolicy] ∧
        Quiet { s with mHdmiPolicy := policy, mVideo := video } u ∧
        ∀ o, o.Shown u.mMode → HdmiModeSet b r u t o := by
  cases h with
  | nothing quiet => exact Or.inl ⟨quiet.outputKept, fun _ _ _ => Request.noConfusion⟩
  | listeners m eq _ =>
    rw [eq]
    exact Or.inl ⟨⟨rfl, rfl, rfl, rfl, rfl, fun _ _ => rfl⟩, fun _ _ _ => Request.noConfusion⟩
  | hdmi r policy video u known quiet set =>
    exact Or.inr ⟨r, policy, video, u, rfl, known, quiet, set⟩
  | mipiPolicy allowed eq =>
    refine Or.inl ⟨?_, fun _ _ _ => Request.noConfusion⟩
    rw [eq]
    split
    · exact outputKept_mipiOffAllowed s
    · exact outputKept_mipiOffNotAllowed s
  | widi on eq =>
    have hwidi : OutputKept s { s with mWidiVideoExt := on } :=
      ⟨rfl, rfl, rfl, rfl, rfl, fun _ _ => rfl⟩
    rw [eq]
    exact Or.inl ⟨hwidi.trans (outputKept_setMode _ (by simp) on),
      fun _ _ _ => Request.noConfusion⟩
  | mipiMode on eq =>
    rw [eq]
    exact Or.inl ⟨outputKept_setMipiModeL s on, fun _ _ _ => Request.noConfusion⟩

theorem OutputKept.shown (h : OutputKept s t) {o : Output} (ho : o.Shown s.mMode) :
    o.Shown t.mMode := by
  refine ⟨?_, ?_, ?_, ?_⟩
  · rw [h.flags _ (by decide), ho.connected]
  · rw [h.flags _ (by decide), ho.on]
  · rw [h.flags _ (by decide), ho.clone]
  · rw [h.flags _ (by decide), ho.videoExt]

end

/-! ### Consistency -/

/-- The flags of the mode fit each other, the policy and the video. -/
structure ModeConsistent (s : Composer) : Prop where
  allowed : checkMode s.mMode .hdmiOn = true →
    checkMode s.mMode .hdmiConnected = true ∧ s.mHdmiPolicy = mdsHdmiOnAllowed
  one : checkMode s.mMode .hdmiOn
    = (checkMode s.mMode .hdmiClone ^^ checkMode s.mMode .hdmiVideoExt)
  none : checkMode s.mMode .hdmiOn = false →
    checkMode s.mMode .hdmiClone = false ∧ checkMode s.mMode .hdmiVideoExt = false
  videoExt : checkMode s.mMode .hdmiVideoExt = true → checkMode s.mMode .videoPlaying = true
  clone : checkMode s.mMode .hdmiClone = true → checkMode s.mMode .videoPlaying = false
  hdcp : checkMode s.mMode .hdcpOn = true → checkMode s.mMode .hdmiOn = true

/-- The output that the mode shows, and what it says about the rest. -/
structure Shows (s : Composer) (o : Output) : Prop where
  shown : o.Shown s.mMode
  policy : s.mHdmiPolicy ∈ [mdsHdmiOnNotAllowed, mdsHdmiOnAllowed]
  allowed : o.on = true → s.mHdmiPolicy = mdsHdmiOnAllowed
  playing : o.on = true → checkMode s.mMode .videoPlaying = decide (o = .videoExt)
  hdcp : checkMode s.mMode .hdcpOn = true → o.on = true

section

variable {b : Build} {s t u : Composer} {q : Request} {o : Output}

theorem Shows.modeConsistent (h : Shows s o) : ModeConsistent s := by
  obtain ⟨⟨hconnected, hon, hclone, hext⟩, -, hallowed, hplaying, hhdcp⟩ := h
  refine ⟨fun h => ⟨?_, ?_⟩, ?_, fun h => ?_, fun h => ?_, fun h => ?_, fun h => ?_⟩
  · rw [hon] at h
    rw [hconnected]
    cases o with
    | unplugged | off => exact absurd h Bool.false_ne_true
    | clone | videoExt => rfl
  · exact hallowed (hon.symm.trans h)
  · rw [hon, hclone, hext]
    cases o <;> rfl
  · rw [hon] at h
    rw [hclone, hext]
    cases o with
    | unplugged | off => exact ⟨rfl, rfl⟩
    | clone | videoExt => exact absurd h.symm Bool.false_ne_true
  · rw [hext, decide_eq_true_iff] at h
    subst h
    exact hplaying rfl
  · rw [hclone, decide_eq_true_iff] at h
    subst h
    exact hplaying rfl
  · rw [hon]
    exact hhdcp h

theorem OutputKept.shows (h : OutputKept s t) (hs : Shows s o) : Shows t o where
  shown := h.shown hs.shown
  policy := h.hdmiPolicy.symm ▸ hs.policy
  allowed ho := h.hdmiPolicy.trans (hs.allowed ho)
  playing ho := (h.flags _ (by decide)).trans (hs.playing ho)
  hdcp hh := hs.hdcp ((h.flags _ (by decide)).symm.trans hh)

theorem reached_of_dviSupported (hdvi : b.dviSupported = true) (r : DrmResults) (u : Composer)
    (o : Output) : u.reached b r o = u.asked r := by
  have haccepted : isRejected b r = false := by
    unfold isRejected
    simp [hdvi]
  unfold Composer.reached
  rw [haccepted, if_neg Bool.false_ne_true]

/-- Authentication is only done for an output that is on. -/
theorem Moved.hdcp {r : DrmResults} {o' : Output} (h : Moved b r s t o o')
    (hs : checkMode s.mMode .hdcpOn = true → o.on = true)
    (ht : checkMode t.mMode .hdcpOn = true) : o'.on = true := by
  cases h with
  | stay _ flags _ _ => exact hs ((flags _ (by simp)).symm.trans ht)
  | plug flags _ _ => exact hs ((flags _ (by simp)).symm.trans ht)
  | unplug _ _ hdcp _ _ _ => exact absurd (hdcp.symm.trans ht) Bool.false_ne_true
  | turnOff _ _ hdcp _ _ _ => exact absurd (hdcp.symm.trans ht) Bool.false_ne_true
  | switch _ _ _ on _ _ _ => exact on

/-- **A request keeps the flags consistent.** -/
theorem Performs.shows (h : Performs b s t q) (hdvi : b.dviSupported = true) (hs : Shows s o) :
    ∃ o', Shows t o' := by
  rcases h.output with ⟨hkept, -⟩ | ⟨r, policy, video, u, -, hknown, hquiet, hset⟩
  · exact ⟨o, hkept.shows hs⟩
  have hpolicy : u.mHdmiPolicy = policy := hquiet.hdmiPolicy
  have hset := hset o (hquiet.mode.symm ▸ hs.shown)
  have hreached := reached_of_dviSupported hdvi r u o
  have hvalid : u.mHdmiPolicy ∈ [mdsHdmiOnNotAllowed, mdsHdmiOnAllowed] := by
    have hold := hs.policy
    simp only [List.mem_cons, List.not_mem_nil, or_false] at hknown hold ⊢
    rw [hpolicy]
    rcases hknown with h | h | h
    · exact Or.inl h
    · exact Or.inr h
    · exact h ▸ hold
  have hshown := hset.shown
  have hmoved := hset.moved
  rw [hreached] at hshown hmoved
  refine ⟨u.asked r, hshown, ?_, fun hon => ?_, fun hon => ?_, ?_⟩
  · exact hset.hdmiPolicy.symm ▸ hvalid
  · rw [hset.hdmiPolicy]
    simp only [List.mem_cons, List.not_mem_nil, or_false] at hvalid
    refine hvalid.resolve_left fun hnot => ?_
    unfold Composer.asked Output.target at hon
    rw [decide_eq_false (not_not.mpr hnot)] at hon
    split at hon <;> exact absurd hon Bool.false_ne_true
  · rw [hset.playing]
    unfold Composer.asked Output.target at hon ⊢
    split_ifs at hon ⊢ with hconnected hallowed hplaying
    · exact hplaying
    · simpa using hplaying
    · exact absurd hon Bool.false_ne_true
    · exact absurd hon Bool.false_ne_true
  · refine hmoved.hdcp fun hh => hs.hdcp ?_
    rw [hquiet.mode] at hh
    exact hh

theorem shows_start (boot : Boot) (init : Bool) :
    Shows { blank boot with mDrmInit := init } .unplugged where
  shown := Output.shown_zero
  policy := by simp [blank]
  allowed h := absurd h Bool.false_ne_true
  playing h := absurd h Bool.false_ne_true
  hdcp h := absurd ((mdsMode.check_zero .hdcpOn).symm.trans h) Bool.false_ne_true

end

/-- **The flags of the mode are consistent after every run.** -/
theorem modeConsistent_of_run {b : Build} (hdvi : b.dviSupported = true) {boot : Boot}
    {s : MdsState} (h : Runs.Reachable (mds b boot) s) : ModeConsistent s.composer := by
  have hrun : Runs.Reaches (mds b boot) (Admits fun _ _ => True) s := h
  obtain ⟨o, ho⟩ := mds_invariant (I := fun s => ∃ o, Shows s o) ⟨_, shows_start boot _⟩
    (fun _ => trivial) (fun _ => trivial) (fun _ _ _ => trivial)
    (fun ⟨_, hs⟩ _ hp => hp.shows hdvi hs) hrun
  exact ho.modeConsistent

/-- A cable that is plugged in. -/
theorem modeConsistent_of_run_hotPlug : ModeConsistent
    (perform ⟨true, true⟩ (DrmResults.simple drmHdmiConnected true)
      (construct ⟨true, true⟩ (Boot.simple drmHdmiDisconnected)) .notifyHotPlug).2 := by
  have h : Runs.Reachable (mds ⟨true, true⟩ (Boot.simple drmHdmiDisconnected))
      ⟨(perform ⟨true, true⟩ (DrmResults.simple drmHdmiConnected true)
        (construct ⟨true, true⟩ (Boot.simple drmHdmiDisconnected)) .notifyHotPlug).2, none⟩ :=
    .step (a := .call .notifyHotPlug (DrmResults.simple drmHdmiConnected true)) .init trivial rfl
  exact modeConsistent_of_run rfl h

/-! ### The overlay -/

/-- The policy turns off an output that is on. -/
def TurnsOff (b : Build) (s : Composer) : Request → Prop
  | .hdmi r policy _ => isRejected b r = false ∧ r.connectionStatus ≠ drmHdmiDisconnected ∧
      policy = mdsHdmiOnNotAllowed ∧ checkMode s.mMode .hdmiOn = true
  | _ => False

/-- `MDS_OVERLAY_OFF` is set only for a clone. -/
def OverlayRestored (s : Composer) : Prop :=
  checkMode s.mMode .overlayOff = true → checkMode s.mMode .hdmiClone = true

/-- If the clone ended, the last mode that was broadcast has the overlay on. -/
def RestoredBeforeLast (s t : Composer) : Prop :=
  checkMode s.mMode .hdmiClone = true → checkMode t.mMode .hdmiClone = false →
    ∃ new mode, t.device.log = s.device.log ++ new ∧
      (new.filterMap Effect.broadcastMode).getLast? = some mode ∧
      checkMode mode .overlayOff = false

/-- The policy does not turn off a clone. -/
def SparesClone (b : Build) (s : Composer) (q : Request) : Prop :=
  TurnsOff b s q → checkMode s.mMode .hdmiClone = false

/-- The output that the mode shows; the overlay is off exactly for a clone. -/
def ClonesWithoutOverlay (s : Composer) (o : Output) : Prop :=
  o.Shown s.mMode ∧ checkMode s.mMode .overlayOff = decide (o = .clone)

section

variable {b : Build} {s t u : Composer} {q : Request} {o : Output}

theorem turnsOff_hdmi (ho : o.Shown s.mMode) {r : DrmResults} {policy : Int}
    {video : MdsVideoSourceInfo} (hu : u.mHdmiPolicy = policy) :
    TurnsOff b s (.hdmi r policy video) ↔ o.on = true ∧ u.reached b r o = .off := by
  unfold TurnsOff Composer.reached Composer.asked Output.target
  rw [ho.on, hu]
  constructor
  · rintro ⟨haccepted, hconnected, hnot, hon⟩
    rw [haccepted, if_neg Bool.false_ne_true, decide_eq_true hconnected, if_pos rfl,
      decide_eq_false (not_not.mpr hnot), if_neg Bool.false_ne_true]
    exact ⟨hon, rfl⟩
  · rintro ⟨hon, hoff⟩
    split_ifs at hoff with hrejected hconnected hallowed
    · rw [hoff] at hon
      exact absurd hon Bool.false_ne_true
    · exact ⟨by simpa using hrejected, by simpa using hconnected, by simpa using hallowed, hon⟩

/-- Only turning off a clone leaves the overlay off. -/
theorem Moved.overlay {r : DrmResults} {o' : Output} (h : Moved b r s t o o')
    (hs : checkMode s.mMode .overlayOff = decide (o = .clone)) :
    checkMode t.mMode .overlayOff = decide (o' = .clone ∨ (o = .clone ∧ o' = .off)) := by
  cases h with
  | stay _ flags _ _ =>
    rw [flags _ (by simp), hs]
    cases o <;> rfl
  | plug flags _ _ =>
    rw [flags _ (by simp), hs]
    rfl
  | unplug _ _ _ overlay _ _ =>
    rw [overlay]
    simp
  | turnOff _ _ _ overlay _ _ =>
    rw [overlay, hs]
    simp
  | switch _ _ _ on overlay _ _ =>
    rw [overlay]
    cases o' with
    | unplugged | off => exact absurd on Bool.false_ne_true
    | clone | videoExt => simp

/-- **A request restores the overlay** unless it turns off a clone. -/
theorem Performs.overlay (h : Performs b s t q) (hs : ClonesWithoutOverlay s o) :
    (SparesClone b s q → ∃ o', ClonesWithoutOverlay t o') ∧
      (OverlayRestored t ∧ RestoredBeforeLast s t ↔ SparesClone b s q) := by
  obtain ⟨hshown, hoverlay⟩ := hs
  have hclone := hshown.clone
  rcases h.output with ⟨hkept, hno⟩ | ⟨r, policy, video, u, rfl, -, hquiet, hset⟩
  · have hspares : SparesClone b s q := by
      intro hoff
      cases q with
      | hdmi r policy video => exact absurd rfl (hno r policy video)
      | nothing | listeners | mipiPolicy | widi | mipiMode => exact hoff.elim
    have hoverlay' := (hkept.flags .overlayOff (by decide)).trans hoverlay
    have hclone' := (hkept.flags .hdmiClone (by decide)).trans hclone
    refine ⟨fun _ => ⟨o, hkept.shown hshown, hoverlay'⟩, fun _ => hspares, fun _ => ⟨?_, ?_⟩⟩
    · intro hset
      rw [hclone', ← hoverlay', hset]
    · intro hwas hgone
      rw [hclone', ← hclone, hwas] at hgone
      exact absurd hgone.symm Bool.false_ne_true
  have hset := hset o (hquiet.mode.symm ▸ hshown)
  have hmoved := hset.moved.overlay
    ((congrArg (checkMode · .overlayOff) hquiet.mode).trans hoverlay)
  have hclone' := hset.shown.clone
  have hpolicy : u.mHdmiPolicy = policy := hquiet.hdmiPolicy
  have hannounces := hquiet.repeats.speaks.announces hset.announces
  have hspares : SparesClone b s (.hdmi r policy video) ↔
      ¬(o = .clone ∧ u.reached b r o = .off) := by
    unfold SparesClone
    rw [turnsOff_hdmi hshown hpolicy, hclone, decide_eq_false_iff_not]
    constructor
    · rintro hspares ⟨rfl, hoff⟩
      exact hspares ⟨rfl, hoff⟩ rfl
    · rintro hspares ⟨-, hoff⟩ hclone
      exact hspares ⟨hclone, hoff⟩
  rw [hspares]
  refine ⟨fun h => ⟨_, hset.shown, ?_⟩, ?_, fun h => ⟨?_, ?_⟩⟩
  · rw [hmoved, decide_eq_decide, or_iff_left h]
  · rintro ⟨hrestored, -⟩ ⟨hwas, hoff⟩
    have hset := hrestored (hmoved.trans (decide_eq_true (Or.inr ⟨hwas, hoff⟩)))
    rw [hclone', hoff] at hset
    exact absurd hset (by decide)
  · intro hset
    rw [hmoved, decide_eq_true_iff, or_iff_left h] at hset
    rw [hclone', decide_eq_true hset]
  · intro _ hgone
    obtain ⟨new, hlog, -, hlast⟩ := hannounces.told
    refine ⟨new, t.mMode, hlog, hlast, ?_⟩
    rw [hclone', decide_eq_false_iff_not] at hgone
    rw [hmoved, decide_eq_false_iff_not, or_iff_left h]
    exact hgone

theorem clonesWithoutOverlay_start (boot : Boot) (init : Bool) :
    ClonesWithoutOverlay { blank boot with mDrmInit := init } .unplugged :=
  ⟨Output.shown_zero, mdsMode.check_zero .overlayOff⟩

end

/-- **The overlay is restored** in every run in which the policy turns off no clone; a step that
turns one off leaves the overlay off. -/
theorem overlayRestored_of_run {b : Build} {boot : Boot} {s : MdsState}
    (h : Runs.Reaches (mds b boot) (Admits (SparesClone b)) s) :
    OverlayRestored s.composer ∧ ∀ a t, step b s a = some t →
      (OverlayRestored t.composer ∧ RestoredBeforeLast s.composer t.composer ↔
        SparesClone b s.composer (s.request a)) := by
  obtain ⟨o, ho⟩ := mds_invariant (I := fun s => ∃ o, ClonesWithoutOverlay s o)
    ⟨_, clonesWithoutOverlay_start boot _⟩ (fun _ hoff => hoff.elim) (fun _ hoff => hoff.elim)
    (fun _ _ _ hoff => absurd hoff.2.2.1 (by decide))
    (fun ⟨_, hs⟩ hok hp => (hp.overlay hs).1 hok) h
  refine ⟨fun hset => ?_, fun a t hst => ((step_performs hst).overlay ho).2⟩
  rw [ho.1.clone, ← ho.2, hset]

/-- A video that starts while the output is a clone. -/
theorem overlayRestored_of_run_video : OverlayRestored
    (perform ⟨true, true⟩ (DrmResults.simple drmHdmiConnected true)
      (construct ⟨true, true⟩ (Boot.simple drmHdmiConnected))
      (.updateVideoInfo ⟨true, false, 60, 1920, 1080, false⟩)).2 := by
  have h : Runs.Reaches (mds ⟨true, true⟩ (Boot.simple drmHdmiConnected))
      (Admits (SparesClone ⟨true, true⟩))
      ⟨(perform ⟨true, true⟩ (DrmResults.simple drmHdmiConnected true)
        (construct ⟨true, true⟩ (Boot.simple drmHdmiConnected))
        (.updateVideoInfo ⟨true, false, 60, 1920, 1080, false⟩)).2, none⟩ :=
    .step (a := .call (.updateVideoInfo ⟨true, false, 60, 1920, 1080, false⟩)
      (DrmResults.simple drmHdmiConnected true)) .init
      (fun hoff => absurd hoff.2.2.1 (by decide)) rfl
  exact (overlayRestored_of_run h).1

/-- The policy turns off a clone. -/
theorem overlay_stays_off : ¬∀ (b : Build) (boot : Boot) (s : MdsState),
    Runs.Reachable (mds b boot) s → OverlayRestored s.composer := by
  intro h
  have hrun : Runs.Reachable (mds ⟨true, true⟩ (Boot.simple drmHdmiConnected))
      ⟨(perform ⟨true, true⟩ (DrmResults.simple drmHdmiConnected true)
        (construct ⟨true, true⟩ (Boot.simple drmHdmiConnected))
        (.setModePolicy mdsHdmiOnNotAllowed)).2, none⟩ :=
    .step (a := .call (.setModePolicy mdsHdmiOnNotAllowed)
      (DrmResults.simple drmHdmiConnected true)) .init trivial rfl
  exact absurd (h _ _ _ hrun) (by unfold OverlayRestored; decide)

end CtpCommon.Display
