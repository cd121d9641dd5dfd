import CtpCommon.Display.Modes

/-!
# The panel over whole runs

There are three copies of the panel's state: the flag `MDS_MIPI_ON`, the member `mMipiOn`, and the
panel itself, in the state of the last `drm_mipi_setMode`.

* `PanelStep` — a request sets the panel and the flag, or neither of them;
* `PanelTold` — **PROVED**: so the flag is the state of the panel, after every run;
* `HasPicture` — the panel is off only while the video is shown elsewhere;
* `hasPicture_of_run` — **PROVED**: so it is unless a policy allows the panel to be off, or WiDi
  ends, with nothing shown elsewhere;
* `PanelAgrees` — the three copies are the same;
* `panelAgrees_of_run` — **PROVED**: so they are unless the policy keeps the panel on while a
  request to turn it off is carried out.
-/

namespace CtpCommon.Display

open Composer

/-! ### The flag and the panel -/

/-- From one state to the next: the panel and its flag are set, or neither of them. -/
inductive PanelStep (s t : Composer) : Prop
  | kept (flag : checkMode t.mMode .mipiOn = checkMode s.mMode .mipiOn)
      (calls : t.mipiCalls = s.mipiCalls)
  | set (on : Bool) (flag : checkMode t.mMode .mipiOn = on)
      (calls : t.mipiCalls = s.mipiCalls ++ [on])

/-- The panel is in the state of the flag. -/
def PanelTold (s : Composer) : Prop :=
  s.mipiCalls.getLast? = some (checkMode s.mMode .mipiOn)

section

variable {b : Build} {s t : Composer} {q : Request}

theorem PanelStep.told (h : PanelStep s t) (hs : PanelTold s) : PanelTold t := by
  unfold PanelTold at hs ⊢
  cases h with
  | kept flag calls => rw [flag, calls, hs]
  | set on flag calls => rw [flag, calls, List.getLast?_concat]

/-! ### The requests for the panel -/

theorem mipiCalls_broadcastMode (s : Composer) : s.broadcastMode.mipiCalls = s.mipiCalls :=
  (Silent.refl s).broadcastMode.mipiCalls

theorem mipiCalls_mipiSetMode (s : Composer) (on : Bool) :
    (s.call (.mipiSetMode on)).mipiCalls = s.mipiCalls ++ [on] := mipiCalls_call s _

theorem mipiOffNotAllowed_eq (s : Composer) : s.mipiOffNotAllowed
    = (((if checkMode s.mMode .mipiOn = false then
        (s.setMipiPolicy mdsMipiOffNotAllowed).call (.mipiSetMode true)
      else s.setMipiPolicy mdsMipiOffNotAllowed).setMode .mipiOn true).setMipiOn
        true).broadcastMode := rfl

theorem mipiOffAllowed_eq (s : Composer) : s.mipiOffAllowed
    = (((if checkMode s.mMode .mipiOn = true then
        (s.setMipiPolicy mdsMipiOffAllowed).call (.mipiSetMode false)
      else s.setMipiPolicy mdsMipiOffAllowed).setMode .mipiOn false).setMipiOn
        false).broadcastMode := rfl

theorem mipiOffNotAllowed_flag (s : Composer) :
    checkMode s.mipiOffNotAllowed.mMode .mipiOn = true :=
  (checkMode_setFlag _ _ _ _).trans (if_pos rfl)

theorem mipiOffAllowed_flag (s : Composer) : checkMode s.mipiOffAllowed.mMode .mipiOn = false :=
  (checkMode_setFlag _ _ _ _).trans (if_pos rfl)

theorem mipiOffAllowed_widi (s : Composer) :
    s.mipiOffAllowed.mWidiVideoExt = s.mWidiVideoExt := by
  rw [mipiOffAllowed_eq]
  split <;> rfl

theorem panelStep_mipiOffNotAllowed (s : Composer) : PanelStep s s.mipiOffNotAllowed := by
  by_cases hflag : checkMode s.mMode .mipiOn = false
  · refine PanelStep.set true (mipiOffNotAllowed_flag s) ?_
    rw [mipiOffNotAllowed_eq, if_pos hflag, mipiCalls_broadcastMode]
    exact mipiCalls_mipiSetMode (s.setMipiPolicy mdsMipiOffNotAllowed) true
  · refine PanelStep.kept ((mipiOffNotAllowed_flag s).trans (by simpa using hflag)) ?_
    rw [mipiOffNotAllowed_eq, if_neg hflag, mipiCalls_broadcastMode]
    rfl

theorem panelStep_mipiOffAllowed (s : Composer) : PanelStep s s.mipiOffAllowed := by
  by_cases hflag : checkMode s.mMode .mipiOn = true
  · refine PanelStep.set false (mipiOffAllowed_flag s) ?_
    rw [mipiOffAllowed_eq, if_pos hflag, mipiCalls_broadcastMode]
    exact mipiCalls_mipiSetMode (s.setMipiPolicy mdsMipiOffAllowed) false
  · refine PanelStep.kept ((mipiOffAllowed_flag s).trans (by simpa using hflag)) ?_
    rw [mipiOffAllowed_eq, if_neg hflag, mipiCalls_broadcastMode]
    rfl

theorem panelStep_mipiSetMode (s : Composer) (on on' : Bool) :
    PanelStep s (((s.call (.mipiSetMode on)).setMode .mipiOn on).setMipiOn on') :=
  PanelStep.set on ((checkMode_setFlag _ _ _ _).trans (if_pos rfl)) (mipiCalls_mipiSetMode s on)

theorem panelStep_setMipiModeL (s : Composer) (on : Bool) : PanelStep s (s.setMipiModeL on).2 := by
  unfold setMipiModeL
  split_ifs
  · exact PanelStep.kept rfl rfl
  · exact panelStep_mipiSetMode s true on
  · exact PanelStep.kept rfl (mipiCalls_broadcastMode s)
  · exact panelStep_mipiSetMode s false on
  · exact PanelStep.kept rfl rfl
  · exact panelStep_mipiSetMode s false on

theorem PanelTurned.step {needed : Bool} (h : PanelTurned needed s t) : PanelStep s t := by
  obtain ⟨hflag, -, hcalls⟩ := h
  cases hturn : needed && !checkMode s.mMode .mipiOn with
  | true =>
    rw [hturn, if_pos rfl] at hcalls
    refine PanelStep.set true ?_ hcalls
    rw [hflag, (Bool.and_eq_true_iff.mp hturn).1, Bool.or_true]
  | false =>
    rw [hturn, if_neg Bool.false_ne_true, List.append_nil] at hcalls
    refine PanelStep.kept ?_ hcalls
    rw [hflag]
    cases needed with
    | false => exact Bool.or_false _
    | true =>
      rw [Bool.true_and, Bool.not_eq_false'] at hturn
      rw [hturn]
      rfl

/-- **Every request** sets both the panel and its flag, or neither. -/
theorem Performs.panelStep (h : Performs b s t q) (ho : ∃ o : Output, o.Shown s.mMode) :
    PanelStep s t := by
  cases h with
  | nothing quiet =>
    exact PanelStep.kept (congrArg (checkMode · .mipiOn) quiet.mode) quiet.mipiCalls
  | listeners m eq _ =>
    rw [eq]
    exact PanelStep.kept rfl rfl
  | hdmi r policy video u _ quiet set =>
    obtain ⟨o, ho⟩ := ho
    have hmode : u.mMode = s.mMode := quiet.mode
    have hcalls : u.mipiCalls = s.mipiCalls := quiet.mipiCalls
    have hstep := (set o (hmode.symm ▸ ho)).panel.step
    cases hstep with
    | kept flag calls =>
      exact PanelStep.kept (hmode ▸ flag) (calls.trans hcalls)
    | set on flag calls => exact PanelStep.set on flag (hcalls ▸ calls)
  | mipiPolicy allowed eq =>
    rw [eq]
    cases allowed with
    | true => exact panelStep_mipiOffAllowed s
    | false => exact panelStep_mipiOffNotAllowed s
  | widi on eq =>
    rw [eq]
    exact PanelStep.kept ((checkMode_setFlag _ _ _ _).trans (if_neg (by decide))) rfl
  | mipiMode on eq =>
    rw [eq]
    exact panelStep_setMipiModeL s on

theorem Performs.shown (h : Performs b s t q) (ho : ∃ o : Output, o.Shown s.mMode) :
    ∃ o : Output, o.Shown t.mMode := by
  obtain ⟨o, ho⟩ := ho
  rcases h.output with ⟨hkept, -⟩ | ⟨r, policy, video, u, -, -, hquiet, hset⟩
  · exact ⟨o, hkept.shown ho⟩
  · exact ⟨_, (hset o (hquiet.mode.symm ▸ ho)).shown⟩

/-! ### After the constructor -/

/-- The panel is on if the flag says so. -/
def PanelOnTold (s : Composer) : Prop :=
  (∃ o : Output, o.Shown s.mMode) ∧
    (checkMode s.mMode .mipiOn = true → s.mipiCalls.getLast? = some true)

theorem Performs.panelOnTold (h : Performs b s t q) (hs : PanelOnTold s) : PanelOnTold t := by
  refine ⟨h.shown hs.1, fun hon => ?_⟩
  cases h.panelStep hs.1 with
  | kept flag calls =>
    rw [calls]
    exact hs.2 (flag.symm.trans hon)
  | set on flag calls =>
    rw [calls, List.getLast?_concat, ← flag, hon]

theorem panelOnTold_start (boot : Boot) (init : Bool) :
    PanelOnTold { blank boot with mDrmInit := init } :=
  ⟨⟨.unplugged, Output.shown_zero⟩,
    fun h => absurd ((mdsMode.check_zero .mipiOn).symm.trans h) Bool.false_ne_true⟩

theorem construct_panelOnTold (b : Build) (boot : Boot) : PanelOnTold (construct b boot) :=
  construct_invariant b boot (fun _ _ => True) (panelOnTold_start boot _) (fun _ => trivial)
    (fun _ => trivial) (fun _ _ _ => trivial) fun hs _ hp => hp.panelOnTold hs

/-- The last thing that the constructor does. -/
theorem construct_eq_mipiOffNotAllowed (b : Build) {boot : Boot} (hinit : boot.drmInit = true) :
    ∃ u, construct b boot = Composer.mipiOffNotAllowed u := by
  obtain ⟨u, -, hconstruct⟩ := construct_performs b hinit
  cases hconstruct with
  | mipiPolicy _ eq => exact ⟨u, eq⟩

theorem construct_flag (b : Build) {boot : Boot} (hinit : boot.drmInit = true) :
    checkMode (construct b boot).mMode .mipiOn = true := by
  obtain ⟨u, hu⟩ := construct_eq_mipiOffNotAllowed b hinit
  rw [hu]
  exact mipiOffNotAllowed_flag u

theorem construct_panelTold (b : Build) {boot : Boot} (hinit : boot.drmInit = true) :
    PanelTold (construct b boot) := by
  have hflag := construct_flag b hinit
  unfold PanelTold
  rw [hflag]
  exact (construct_panelOnTold b boot).2 hflag

/-! ### The picture -/

end

/-- If the panel is off, the video is shown on HDMI, or on WiDi. -/
def HasPicture (s : Composer) : Prop :=
  checkMode s.mMode .mipiOn = false → s.mipiCalls.getLast? = some false →
    checkMode s.mMode .hdmiVideoExt = true ∨ s.mWidiVideoExt = true

/-- The panel may be off only with the video elsewhere, and WiDi ends only with the panel on, or
with the video on HDMI. -/
def KeepsPicture (s : Composer) : Request → Prop
  | .mipiPolicy true => checkMode s.mMode .hdmiVideoExt = true ∨ s.mWidiVideoExt = true
  | .widi false => checkMode s.mMode .mipiOn = true ∨ checkMode s.mMode .hdmiVideoExt = true
  | _ => True

section

variable {b : Build} {s t : Composer} {q : Request}

theorem hasPicture_iff (h : PanelTold s) : HasPicture s ↔ checkMode s.mMode .mipiOn = true ∨
    checkMode s.mMode .hdmiVideoExt = true ∨ s.mWidiVideoExt = true := by
  unfold HasPicture
  rw [h]
  cases checkMode s.mMode .mipiOn <;> simp

/-- A video that is not needed on the panel is shown on HDMI. -/
theorem asked_of_not_needsPanel {r : DrmResults} (h : s.needsPanel r = false) :
    s.asked r = .videoExt := by
  have hno := mt (needsPanel_iff r s).mpr (Bool.eq_false_iff.mp h)
  obtain ⟨hconnected, hno⟩ := not_or.mp hno
  obtain ⟨hallowed, hplaying⟩ := not_or.mp hno
  unfold Composer.asked Output.target
  rw [decide_eq_true hconnected, if_pos rfl, decide_eq_true hallowed, if_pos rfl,
    if_pos (by simpa using hplaying)]

theorem HdmiModeSet.hasPicture {r : DrmResults} {o : Output} (h : HdmiModeSet b r s t o)
    (ho : o.Shown s.mMode) (hs : checkMode s.mMode .mipiOn = true ∨
      checkMode s.mMode .hdmiVideoExt = true ∨ s.mWidiVideoExt = true) :
    checkMode t.mMode .mipiOn = true ∨ checkMode t.mMode .hdmiVideoExt = true ∨
      t.mWidiVideoExt = true := by
  cases hrejected : isRejected b r with
  | true =>
    have hreached : s.reached b r o = o := if_pos hrejected
    have hflag := h.panel.flag
    rw [hrejected, Bool.not_true, Bool.false_and, Bool.or_false] at hflag
    have hext := h.shown.videoExt
    rw [hreached, ← ho.videoExt] at hext
    rw [hflag, hext, h.widi]
    exact hs
  | false =>
    cases hneeds : s.needsPanel r with
    | true =>
      have hflag := h.panel.flag
      rw [hrejected, hneeds, Bool.not_false, Bool.true_and, Bool.or_true] at hflag
      exact Or.inl hflag
    | false =>
      have hreached : s.reached b r o = .videoExt :=
        (if_neg (by simp [hrejected])).trans (asked_of_not_needsPanel hneeds)
      have hext := h.shown.videoExt
      rw [hreached] at hext
      exact Or.inr (Or.inl hext)

/-- The MIPI thread turns off the panel only when the video is elsewhere. -/
theorem setMipiModeL_hasPicture (on : Bool) (hs : checkMode s.mMode .mipiOn = true ∨
      checkMode s.mMode .hdmiVideoExt = true ∨ s.mWidiVideoExt = true) :
    checkMode (s.setMipiModeL on).2.mMode .mipiOn = true ∨
      checkMode (s.setMipiModeL on).2.mMode .hdmiVideoExt = true ∨
      (s.setMipiModeL on).2.mWidiVideoExt = true := by
  have hext := (outputKept_setMipiModeL s on).flags .hdmiVideoExt (by decide)
  unfold setMipiModeL at hext ⊢
  split_ifs at hext ⊢ with hsame hon hwidi hnoext hpolicy
  · exact hs
  · exact Or.inl ((checkMode_setFlag _ _ _ _).trans (if_pos rfl))
  · exact hs
  · exact Or.inr (Or.inl (hext.trans (by simpa using hnoext)))
  · exact Or.inr (Or.inl (hext.trans (by simpa using hnoext)))
  · rw [Bool.not_eq_false] at hwidi
    exact Or.inr (Or.inr hwidi)

/-- **A request keeps the picture** exactly under its condition. -/
theorem Performs.hasPicture (h : Performs b s t q) (ho : ∃ o : Output, o.Shown s.mMode)
    (htold : PanelTold s) (hs : HasPicture s) : HasPicture t ↔ KeepsPicture s q := by
  rw [hasPicture_iff htold] at hs
  rw [hasPicture_iff ((h.panelStep ho).told htold)]
  cases h with
  | nothing quiet =>
    rw [quiet.mode, quiet.widi]
    exact ⟨fun _ => trivial, fun _ => hs⟩
  | listeners m eq _ =>
    rw [eq]
    exact ⟨fun _ => trivial, fun _ => hs⟩
  | hdmi r policy video u _ quiet set =>
    obtain ⟨o, ho⟩ := ho
    have hmode : u.mMode = s.mMode := quiet.mode
    have hwidi : u.mWidiVideoExt = s.mWidiVideoExt := quiet.widi
    have hu := (set o (hmode.symm ▸ ho)).hasPicture (hmode.symm ▸ ho)
    rw [hmode, hwidi] at hu
    exact ⟨fun _ => trivial, fun _ => hu hs⟩
  | mipiPolicy allowed eq =>
    cases allowed with
    | true =>
      have hext := (outputKept_mipiOffAllowed s).flags .hdmiVideoExt (by decide)
      rw [eq, if_pos rfl, mipiOffAllowed_flag, hext, mipiOffAllowed_widi]
      exact ⟨fun h => h.resolve_left Bool.false_ne_true, Or.inr⟩
    | false =>
      rw [eq, if_neg Bool.false_ne_true, mipiOffNotAllowed_flag]
      exact ⟨fun _ => trivial, fun _ => Or.inl rfl⟩
  | widi on eq =>
    have hflag : checkMode t.mMode .mipiOn = checkMode s.mMode .mipiOn := by
      rw [eq]
      exact (checkMode_setFlag _ _ _ _).trans (if_neg (by decide))
    have hext : checkMode t.mMode .hdmiVideoExt = checkMode s.mMode .hdmiVideoExt := by
      rw [eq]
      exact (checkMode_setFlag _ _ _ _).trans (if_neg (by decide))
    have hwidi : t.mWidiVideoExt = on := by
      rw [eq]
      rfl
    rw [hflag, hext, hwidi]
    cases on with
    | true => exact ⟨fun _ => trivial, fun _ => Or.inr (Or.inr rfl)⟩
    | false =>
      rw [or_iff_left (b := false = true) Bool.false_ne_true]
      exact Iff.rfl
  | mipiMode on eq =>
    rw [eq]
    exact ⟨fun _ => trivial, fun _ => setMipiModeL_hasPicture on hs⟩

end

/-- What is known about the panel of a running service. -/
structure PanelKnown (s : Composer) : Prop where
  shown : ∃ o : Output, o.Shown s.mMode
  told : PanelTold s

theorem Performs.panelKnown {b : Build} {s t : Composer} {q : Request} (h : Performs b s t q)
    (hs : PanelKnown s) : PanelKnown t :=
  ⟨h.shown hs.shown, (h.panelStep hs.shown).told hs.told⟩

theorem construct_panelKnown (b : Build) {boot : Boot} (hinit : boot.drmInit = true) :
    PanelKnown (construct b boot) :=
  ⟨(construct_panelOnTold b boot).1, construct_panelTold b hinit⟩

/-- **The user has a picture** in every run whose requests keep it; any other request takes it
away. -/
theorem hasPicture_of_run {b : Build} {boot : Boot} {s : MdsState}
    (h : Runs.Reaches (mds b boot) (Admits KeepsPicture) s) :
    HasPicture s.composer ∧ ∀ a t, step b s a = some t →
      (HasPicture t.composer ↔ KeepsPicture s.composer (s.request a)) := by
  cases hinit : boot.drmInit with
  | false =>
    have hquiet := quiet_of_not_init hinit h
    have hpicture : ∀ t, Quiet (blank boot) t → HasPicture t := fun t ht _ hoff => by
      rw [ht.mipiCalls] at hoff
      exact absurd hoff.symm (Option.some_ne_none false)
    refine ⟨hpicture _ hquiet, fun a t hst => ?_⟩
    rw [request_of_not_init hquiet.drmInit]
    exact ⟨fun _ => trivial, fun _ => hpicture _ (quiet_step_of_not_init hquiet hst)⟩
  | true =>
    have hinv : PanelKnown s.composer ∧ HasPicture s.composer := by
      refine h.invariant (I := fun s => PanelKnown s.composer ∧ HasPicture s.composer)
        ⟨construct_panelKnown b hinit, fun hoff => ?_⟩ fun ⟨hknown, hs⟩ hok hst => ?_
      · exact absurd ((construct_flag b hinit).symm.trans hoff).symm Bool.false_ne_true
      · have hperforms := step_performs hst
        exact ⟨hperforms.panelKnown hknown,
          (hperforms.hasPicture hknown.shown hknown.told hs).mpr hok⟩
    exact ⟨hinv.2, fun a t hst =>
      (step_performs hst).hasPicture hinv.1.shown hinv.1.told hinv.2⟩

/-- WiDi shows the video, then the policy allows the panel to be off. -/
theorem hasPicture_of_run_widi : HasPicture
    (perform ⟨true, true⟩ (DrmResults.simple drmHdmiDisconnected true)
      (perform ⟨true, true⟩ (DrmResults.simple drmHdmiDisconnected true)
        (construct ⟨true, true⟩ (Boot.simple drmHdmiDisconnected)) (.notifyWidi true)).2
      (.setModePolicy mdsMipiOffAllowed)).2 := by
  have hwidi : Runs.Reaches (mds ⟨true, true⟩ (Boot.simple drmHdmiDisconnected))
      (Admits KeepsPicture)
      ⟨(perform ⟨true, true⟩ (DrmResults.simple drmHdmiDisconnected true)
        (construct ⟨true, true⟩ (Boot.simple drmHdmiDisconnected)) (.notifyWidi true)).2, none⟩ :=
    .step (a := .call (.notifyWidi true) (DrmResults.simple drmHdmiDisconnected true)) .init
      trivial rfl
  have h := hwidi.step (a := .call (.setModePolicy mdsMipiOffAllowed)
    (DrmResults.simple drmHdmiDisconnected true))
    (show KeepsPicture _ (.mipiPolicy true) from Or.inr rfl) rfl
  exact (hasPicture_of_run h).1

/-- The policy allows the panel to be off while nothing is shown elsewhere. -/
theorem picture_is_lost : ¬∀ (b : Build) (boot : Boot) (s : MdsState),
    Runs.Reachable (mds b boot) s → HasPicture s.composer := by
  intro h
  have hrun : Runs.Reachable (mds ⟨true, true⟩ (Boot.simple drmHdmiDisconnected))
      ⟨(perform ⟨true, true⟩ (DrmResults.simple drmHdmiDisconnected true)
        (construct ⟨true, true⟩ (Boot.simple drmHdmiDisconnected))
        (.setModePolicy mdsMipiOffAllowed)).2, none⟩ :=
    .step (a := .call (.setModePolicy mdsMipiOffAllowed)
      (DrmResults.simple drmHdmiDisconnected true)) .init trivial rfl
  exact absurd (h _ _ _ hrun) (by unfold HasPicture; decide)

/-! ### The three copies -/

/-- The member, the flag and the panel are in the same state. -/
def PanelAgrees (s : Composer) : Prop :=
  (s.mMipiOn = true ↔ checkMode s.mMode .mipiOn = true) ∧
    (checkMode s.mMode .mipiOn = true ↔ s.mipiCalls.getLast? = some true)

/-- A request to turn off the panel, which is on, is carried out while WiDi shows the video, or
the output does not, or the policy allows the panel to be off. -/
def FollowsPolicy (s : Composer) : Request → Prop
  | .mipiMode false => s.mMipiOn = true → s.mWidiVideoExt = false →
      checkMode s.mMode .hdmiVideoExt = true → s.mMipiPolicy = mdsMipiOffAllowed
  | _ => True

section

variable {b : Build} {s t : Composer} {q : Request}

theorem panelAgrees_iff (h : PanelTold s) :
    PanelAgrees s ↔ s.mMipiOn = checkMode s.mMode .mipiOn := by
  unfold PanelAgrees
  rw [h, Option.some.injEq, and_iff_left Iff.rfl]
  exact Bool.eq_iff_iff.symm

/-- Turning on the panel sets the member with the flag. -/
theorem PanelTurned.mipiOn_eq {needed : Bool} (h : PanelTurned needed s t)
    (hs : s.mMipiOn = checkMode s.mMode .mipiOn) : t.mMipiOn = checkMode t.mMode .mipiOn := by
  rw [h.mipiOn, h.flag, hs]
  cases needed <;> cases checkMode s.mMode .mipiOn <;> rfl

/-- **A request of the MIPI thread** keeps the member with the flag exactly under its condition. -/
theorem setMipiModeL_agrees (on : Bool) (hs : s.mMipiOn = checkMode s.mMode .mipiOn) :
    (s.setMipiModeL on).2.mMipiOn = checkMode (s.setMipiModeL on).2.mMode .mipiOn ↔
      FollowsPolicy s (.mipiMode on) := by
  have hset : ∀ on', checkMode (setFlag s.mMode .mipiOn on') .mipiOn = on' := fun on' =>
    (checkMode_setFlag _ _ _ _).trans (if_pos rfl)
  unfold setMipiModeL
  cases on with
  | true =>
    refine ⟨fun _ => trivial, fun _ => ?_⟩
    by_cases hsame : s.mMipiOn = true
    · rw [if_pos hsame]
      exact hs
    · rw [if_neg hsame, if_pos rfl]
      exact (hset true).symm
  | false =>
    show _ ↔ (s.mMipiOn = true → s.mWidiVideoExt = false →
      checkMode s.mMode .hdmiVideoExt = true → s.mMipiPolicy = mdsMipiOffAllowed)
    by_cases hsame : s.mMipiOn = false
    · rw [if_pos hsame]
      exact ⟨fun _ hon => absurd (hsame.symm.trans hon) Bool.false_ne_true, fun _ => hs⟩
    rw [if_neg hsame, if_neg Bool.false_ne_true]
    rw [Bool.not_eq_false] at hsame
    by_cases hwidi : s.mWidiVideoExt = false
    · rw [if_pos hwidi]
      by_cases hnoext : checkMode s.mMode .hdmiVideoExt = false
      · rw [if_pos hnoext]
        exact ⟨fun _ _ _ hext => absurd (hnoext.symm.trans hext) Bool.false_ne_true, fun _ => hs⟩
      rw [if_neg hnoext]
      rw [Bool.not_eq_false] at hnoext
      by_cases hpolicy : s.mMipiPolicy = mdsMipiOffAllowed
      · simp only [if_pos hpolicy]
        exact ⟨fun _ _ _ _ => hpolicy, fun _ => (hset false).symm⟩
      · simp only [if_neg hpolicy]
        -- The panel and its flag stay on.
        refine ⟨fun h => ?_, fun h => absurd (h hsame hwidi hnoext) hpolicy⟩
        exact absurd (h.trans (hs.symm.trans hsame)) Bool.false_ne_true
    · rw [if_neg hwidi]
      rw [Bool.not_eq_false] at hwidi
      exact ⟨fun _ _ hno => absurd (hno.symm.trans hwidi) Bool.false_ne_true,
        fun _ => (hset false).symm⟩

/-- **A request keeps the copies the same** exactly under its condition. -/
theorem Performs.panelAgrees (h : Performs b s t q) (hknown : PanelKnown s) (hs : PanelAgrees s) :
    PanelAgrees t ↔ FollowsPolicy s q := by
  rw [panelAgrees_iff hknown.told] at hs
  rw [panelAgrees_iff (h.panelKnown hknown).told]
  cases h with
  | nothing quiet =>
    rw [quiet.mode, quiet.mipiOn]
    exact ⟨fun _ => trivial, fun _ => hs⟩
  | listeners m eq _ =>
    rw [eq]
    exact ⟨fun _ => trivial, fun _ => hs⟩
  | hdmi r policy video u _ quiet set =>
    obtain ⟨o, ho⟩ := hknown.shown
    have hmode : u.mMode = s.mMode := quiet.mode
    have hmipiOn : u.mMipiOn = s.mMipiOn := quiet.mipiOn
    have hu := (set o (hmode.symm ▸ ho)).panel.mipiOn_eq
    rw [hmode, hmipiOn] at hu
    exact ⟨fun _ => trivial, fun _ => hu hs⟩
  | mipiPolicy allowed eq =>
    cases allowed with
    | true =>
      rw [eq, if_pos rfl, mipiOffAllowed_flag]
      exact ⟨fun _ => trivial, fun _ => rfl⟩
    | false =>
      rw [eq, if_neg Bool.false_ne_true, mipiOffNotAllowed_flag]
      exact ⟨fun _ => trivial, fun _ => rfl⟩
  | widi on eq =>
    have hflag : checkMode t.mMode .mipiOn = checkMode s.mMode .mipiOn := by
      rw [eq]
      exact (checkMode_setFlag _ _ _ _).trans (if_neg (by decide))
    have hmipiOn : t.mMipiOn = s.mMipiOn := by
      rw [eq]
      rfl
    rw [hflag, hmipiOn]
    exact ⟨fun _ => trivial, fun _ => hs⟩
  | mipiMode on eq =>
    rw [eq]
    exact setMipiModeL_agrees on hs

theorem construct_panelAgrees (b : Build) {boot : Boot} (hinit : boot.drmInit = true) :
    PanelAgrees (construct b boot) := by
  rw [panelAgrees_iff (construct_panelTold b hinit), construct_flag b hinit]
  obtain ⟨u, hu⟩ := construct_eq_mipiOffNotAllowed b hinit
  rw [hu]
  rfl

/-- Without `drm_init` the member says on, and the flag off. -/
theorem not_panelAgrees_of_not_init {boot : Boot} (h : Quiet (blank boot) t) : ¬PanelAgrees t := by
  intro hagrees
  have hflag : checkMode t.mMode .mipiOn = false :=
    (congrArg (checkMode · .mipiOn) h.mode).trans (mdsMode.check_zero .mipiOn)
  exact absurd (hflag.symm.trans (hagrees.1.mp h.mipiOn)) Bool.false_ne_true

end

/-- **The copies of the panel's state are the same** after `drm_init`, in every run whose requests
follow the policy, and a request is skipped only if the panel is in that state; any other request
makes the copies differ. -/
theorem panelAgrees_of_run {b : Build} {boot : Boot} {s : MdsState}
    (h : Runs.Reaches (mds b boot) (Admits FollowsPolicy) s) :
    (PanelAgrees s.composer ↔ boot.drmInit = true) ∧
      (∀ on, boot.drmInit = true → s.mipiThread = some on → s.composer.mMipiOn = on →
        s.composer.mipiCalls.getLast? = some on) ∧
      ∀ a t, step b s a = some t → (PanelAgrees t.composer ↔
        boot.drmInit = true ∧ FollowsPolicy s.composer (s.request a)) := by
  cases hinit : boot.drmInit with
  | false =>
    have hquiet := quiet_of_not_init hinit h
    refine ⟨⟨fun hs => (not_panelAgrees_of_not_init hquiet hs).elim, fun h => absurd h
      Bool.false_ne_true⟩, fun _ h => absurd h Bool.false_ne_true, fun a t hst => ?_⟩
    have hnext := not_panelAgrees_of_not_init (quiet_step_of_not_init hquiet hst)
    exact ⟨fun ht => (hnext ht).elim, fun h => absurd h.1 Bool.false_ne_true⟩
  | true =>
    have hinv : PanelKnown s.composer ∧ PanelAgrees s.composer := by
      refine h.invariant (I := fun s => PanelKnown s.composer ∧ PanelAgrees s.composer)
        ⟨construct_panelKnown b hinit, construct_panelAgrees b hinit⟩
        fun ⟨hknown, hs⟩ hok hst => ?_
      have hperforms := step_performs hst
      exact ⟨hperforms.panelKnown hknown, (hperforms.panelAgrees hknown hs).mpr hok⟩
    obtain ⟨hknown, hagrees⟩ := hinv
    refine ⟨⟨fun _ => rfl, fun _ => hagrees⟩, fun on _ _ hon => ?_, fun a t hst => ?_⟩
    · rw [hknown.told, ← (panelAgrees_iff hknown.told).mp hagrees, hon]
    · rw [(step_performs hst).panelAgrees hknown hagrees]
      exact ⟨fun hok => ⟨rfl, hok⟩, fun h => h.2⟩

instance (s : Composer) : DecidablePred (FollowsPolicy s) := fun q =>
  match q with
  | .mipiMode false => inferInstanceAs (Decidable (s.mMipiOn = true → s.mWidiVideoExt = false →
      checkMode s.mMode .hdmiVideoExt = true → s.mMipiPolicy = mdsMipiOffAllowed))
  | .mipiMode true | .nothing | .listeners | .hdmi .. | .mipiPolicy _ | .widi _ => .isTrue trivial

/-- A video starts on HDMI, and the panel is turned off. -/
def turnedOffRun : List MdsAction :=
  [.call (.updateVideoInfo ⟨true, false, 60, 1920, 1080, false⟩)
      (DrmResults.simple drmHdmiConnected true),
    .call (.notifyMipi false) (DrmResults.simple drmHdmiConnected true), .mipiRequest, .setMipiMode]

theorem panelAgrees_of_run_video : ∃ s : MdsState,
    s.composer.mMipiOn = false ∧ PanelAgrees s.composer := by
  have hrun : (Runs.exec (mds ⟨true, true⟩ (Boot.simple drmHdmiConnected)) (Admits FollowsPolicy)
      (mds ⟨true, true⟩ (Boot.simple drmHdmiConnected)).init turnedOffRun).map
        (fun s => s.composer.mMipiOn) = some false := by
    decide
  obtain ⟨s, hs, hoff⟩ := Option.map_eq_some_iff.mp hrun
  exact ⟨s, hoff, (panelAgrees_of_run (Runs.reaches_of_exec hs)).1.mpr rfl⟩

/-- A video on HDMI, a policy that keeps the panel on, and then a request to turn it off. -/
def keptOnRun : List MdsAction :=
  [.call (.updateVideoInfo ⟨true, false, 60, 1920, 1080, false⟩)
      (DrmResults.simple drmHdmiConnected true),
    .call (.setModePolicy mdsMipiOffNotAllowed) (DrmResults.simple drmHdmiConnected true),
    .call (.notifyMipi false) (DrmResults.simple drmHdmiConnected true), .mipiRequest, .setMipiMode]

/-- Only the member is set. -/
theorem member_says_off : ¬∀ (b : Build) (boot : Boot) (s : MdsState), boot.drmInit = true →
    Runs.Reachable (mds b boot) s → PanelAgrees s.composer := by
  intro h
  have hsome : (Runs.exec (mds ⟨true, true⟩ (Boot.simple drmHdmiConnected)) (fun _ _ => True)
      (mds ⟨true, true⟩ (Boot.simple drmHdmiConnected)).init keptOnRun).isSome = true := by
    decide
  obtain ⟨s, hs⟩ := Option.isSome_iff_exists.mp hsome
  have hoff : (Runs.exec (mds ⟨true, true⟩ (Boot.simple drmHdmiConnected)) (fun _ _ => True)
      (mds ⟨true, true⟩ (Boot.simple drmHdmiConnected)).init keptOnRun).map
        (fun s => (s.composer.mMipiOn, checkMode s.composer.mMode .mipiOn))
      = some (false, true) := by
    decide
  rw [hs] at hoff
  have hagrees := h _ _ _ rfl (Runs.reaches_of_exec hs)
  have hpair := Prod.mk.inj (Option.some.inj hoff)
  exact absurd (hpair.1.symm.trans (hagrees.1.mpr hpair.2)) Bool.false_ne_true

end CtpCommon.Display
