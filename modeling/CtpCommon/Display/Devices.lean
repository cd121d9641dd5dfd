import CtpCommon.Display.Modes

/-!
# The timer and the audio driver over whole runs

Two things outside of the mode that have to follow the output: the timer that checks the link, and
the audio driver, which is told each time that the cable is plugged in or out.

* `LinkChecked` — the timer exists only while the output is on;
* `linkChecked_of_run` — **PROVED**: so it is unless the policy turns off an output that is not
  authenticated, with a timer;
* `alternates` — `true` and `false` in turn;
* `audioFollows_of_run` — **PROVED**: the audio driver is told so, and the last is the cable.
-/

namespace CtpCommon.Display

open Composer

/-! ### The timer -/

/-- The link is checked only for an output that is connected and on. -/
def LinkChecked (s : Composer) : Prop :=
  s.device.hdcpStatusCheckTimer ≠ 0 →
    checkMode s.mMode .hdmiConnected = true ∧ checkMode s.mMode .hdmiOn = true

/-- When the policy turns off the output, the output is authenticated, or there is no timer. -/
def StopsChecking (b : Build) (s : Composer) (q : Request) : Prop :=
  TurnsOff b s q → checkMode s.mMode .hdcpOn = true ∨ s.device.hdcpStatusCheckTimer = 0

/-- The output that the mode shows; only an output that is on has a timer. -/
structure Checks (b : Build) (s : Composer) (o : Output) : Prop where
  shown : o.Shown s.mMode
  on : s.device.hdcpStatusCheckTimer ≠ 0 → o.on = true
  enabled : b.enableHdcp = false → s.device.hdcpStatusCheckTimer = 0

section

variable {b : Build} {s t u : Composer} {q : Request} {o : Output}

theorem linkChecked_iff (ho : o.Shown s.mMode) :
    LinkChecked s ↔ (s.device.hdcpStatusCheckTimer ≠ 0 → o.on = true) := by
  unfold LinkChecked
  rw [ho.connected, ho.on]
  exact ⟨fun h htimer => (h htimer).2, fun h htimer => ⟨Output.plugged_of_on (h htimer), h htimer⟩⟩

/-- Only turning off an output can leave its timer behind. -/
theorem Moved.timer {r : DrmResults} {o' : Output} (h : Moved b r s t o o') (hs : Checks b s o) :
    (b.enableHdcp = false → t.device.hdcpStatusCheckTimer = 0) ∧
      ((t.device.hdcpStatusCheckTimer ≠ 0 → o'.on = true) ↔
        (o.on = true ∧ o' = .off →
          checkMode s.mMode .hdcpOn = true ∨ s.device.hdcpStatusCheckTimer = 0)) := by
  obtain ⟨-, hon, henabled⟩ := hs
  cases h with
  | stay _ _ timer _ =>
    rw [timer]
    refine ⟨henabled, fun _ => ?_, fun _ => hon⟩
    rintro ⟨ho, rfl⟩
    exact absurd ho Bool.false_ne_true
  | plug _ timer _ =>
    rw [timer]
    have hzero : s.device.hdcpStatusCheckTimer = 0 :=
      not_not.mp fun h => absurd (hon h) Bool.false_ne_true
    exact ⟨henabled, fun _ _ => Or.inr hzero, fun _ h => absurd hzero h⟩
  | unplug _ _ _ _ timer _ =>
    have hzero : t.device.hdcpStatusCheckTimer = 0 := by
      rw [timer]
      split
      · rfl
      · rename_i hb
        exact henabled (Bool.eq_false_iff.mpr hb)
    exact ⟨fun _ => hzero, fun _ h => absurd h.2 (by decide), fun _ h => absurd hzero h⟩
  | turnOff _ on _ _ timer _ =>
    rw [timer]
    refine ⟨fun hb => ?_, fun h _ => ?_, fun h => ?_⟩
    · rw [hb, Bool.false_and, if_neg Bool.false_ne_true]
      exact henabled hb
    · by_contra hneither
      obtain ⟨hhdcp, htimer⟩ := not_or.mp hneither
      rw [if_neg (by simp [hhdcp])] at h
      exact absurd (h htimer) Bool.false_ne_true
    · intro htimer
      exfalso
      rcases h ⟨on, rfl⟩ with hhdcp | hzero
      · cases hb : b.enableHdcp with
        | false =>
          rw [hb, Bool.false_and, if_neg Bool.false_ne_true] at htimer
          exact htimer (henabled hb)
        | true =>
          rw [hb, hhdcp, Bool.true_and, if_pos rfl] at htimer
          exact htimer rfl
      · split at htimer
        · exact htimer rfl
        · exact htimer hzero
  | switch _ _ ne on _ timer _ =>
    refine ⟨fun hb => (timer hb).trans (henabled hb), fun _ h => ?_, fun _ _ => on⟩
    rw [h.2] at on
    exact absurd on Bool.false_ne_true

/-- **A request stops the checks** unless it turns off an output that is not authenticated. -/
theorem Performs.checks (h : Performs b s t q) (hs : Checks b s o) :
    (StopsChecking b s q → ∃ o', Checks b t o') ∧ (LinkChecked t ↔ StopsChecking b s q) := by
  rcases h.output with ⟨hkept, hno⟩ | ⟨r, policy, video, u, rfl, -, hquiet, hset⟩
  · have hstops : StopsChecking b s q := by
      intro hoff
      cases q with
      | hdmi r policy video => exact absurd rfl (hno r policy video)
      | nothing | listeners | mipiPolicy | widi | mipiMode => exact hoff.elim
    have hshown := hkept.shown hs.shown
    have hon : t.device.hdcpStatusCheckTimer ≠ 0 → o.on = true := by
      rw [hkept.timer]
      exact hs.on
    exact ⟨fun _ => ⟨o, hshown, hon, fun hb => hkept.timer.trans (hs.enabled hb)⟩,
      fun _ => hstops, fun _ => (linkChecked_iff hshown).mpr hon⟩
  have hset := hset o (hquiet.mode.symm ▸ hs.shown)
  have hu : Checks b u o := by
    refine ⟨hquiet.mode.symm ▸ hs.shown, fun htimer => hs.on ?_, fun hb => ?_⟩
    · rw [hquiet.timer] at htimer
      exact htimer
    · exact hquiet.timer.trans (hs.enabled hb)
  obtain ⟨henabled, htimer⟩ := hset.moved.timer hu
  have hpolicy : u.mHdmiPolicy = policy := hquiet.hdmiPolicy
  have hmode : u.mMode = s.mMode := hquiet.mode
  have hsame : u.device.hdcpStatusCheckTimer = s.device.hdcpStatusCheckTimer := hquiet.timer
  rw [hmode, hsame, ← turnsOff_hdmi hs.shown hpolicy] at htimer
  refine ⟨fun hstops => ⟨_, hset.shown, htimer.mpr hstops, henabled⟩, ?_⟩
  exact (linkChecked_iff hset.shown).trans htimer

theorem checks_start (b : Build) (boot : Boot) (init : Bool) :
    Checks b { blank boot with mDrmInit := init } .unplugged :=
  ⟨Output.shown_zero, fun h => absurd rfl h, fun _ => rfl⟩

end

/-- **The link is checked only for an output that is on** in every run in which the policy turns
off no output that is not authenticated but has a timer; turning off one leaves the timer. -/
theorem linkChecked_of_run {b : Build} {boot : Boot} {s : MdsState}
    (h : Runs.Reaches (mds b boot) (Admits (StopsChecking b)) s) :
    LinkChecked s.composer ∧
      (∀ isAuthenticated r t, step b s (.checkLinkStatus isAuthenticated r) = some t →
        checkMode s.composer.mMode .hdmiConnected = true ∧
          checkMode s.composer.mMode .hdmiOn = true) ∧
      ∀ a t, step b s a = some t →
        (LinkChecked t.composer ↔ StopsChecking b s.composer (s.request a)) := by
  obtain ⟨o, ho⟩ := mds_invariant (I := fun s => ∃ o, Checks b s o)
    ⟨_, checks_start b boot _⟩ (fun _ hoff => hoff.elim) (fun _ hoff => hoff.elim)
    (fun _ _ _ hoff => absurd hoff.2.2.1 (by decide))
    (fun ⟨_, hs⟩ hok hp => (hp.checks hs).1 hok) h
  have hchecked : LinkChecked s.composer := (linkChecked_iff ho.shown).mpr ho.on
  refine ⟨hchecked, fun isAuthenticated r t hst => hchecked fun hzero => ?_,
    fun a t hst => ((step_performs hst).checks ho).2⟩
  exact (step_checkLinkStatus hst).1 hzero

/-- The link of an output that is authenticated. -/
theorem linkChecked_of_run_policy : LinkChecked
    (perform ⟨true, true⟩ (DrmResults.simple drmHdmiConnected true)
      (construct ⟨true, true⟩ (Boot.simple drmHdmiConnected))
      (.setModePolicy mdsHdmiOnNotAllowed)).2 := by
  have h : Runs.Reaches (mds ⟨true, true⟩ (Boot.simple drmHdmiConnected))
      (Admits (StopsChecking ⟨true, true⟩))
      ⟨(perform ⟨true, true⟩ (DrmResults.simple drmHdmiConnected true)
        (construct ⟨true, true⟩ (Boot.simple drmHdmiConnected))
        (.setModePolicy mdsHdmiOnNotAllowed)).2, none⟩ :=
    .step (a := .call (.setModePolicy mdsHdmiOnNotAllowed)
      (DrmResults.simple drmHdmiConnected true)) .init (fun _ => Or.inl (by decide)) rfl
  exact (linkChecked_of_run h).1

/-- Authentication fails, then the policy turns off the output. -/
theorem timer_is_left : ¬∀ (b : Build) (boot : Boot) (s : MdsState),
    Runs.Reachable (mds b boot) s → LinkChecked s.composer := by
  intro h
  have hplug : Runs.Reachable (mds ⟨true, true⟩ (Boot.simple drmHdmiDisconnected))
      ⟨(perform ⟨true, true⟩ (DrmResults.simple drmHdmiConnected false)
        (construct ⟨true, true⟩ (Boot.simple drmHdmiDisconnected)) .notifyHotPlug).2, none⟩ :=
    .step (a := .call .notifyHotPlug (DrmResults.simple drmHdmiConnected false)) .init trivial rfl
  have hpolicy := hplug.next (a := .call (.setModePolicy mdsHdmiOnNotAllowed)
    (DrmResults.simple drmHdmiConnected false)) rfl
  exact absurd (h _ _ _ hpolicy) (by unfold LinkChecked; decide)

/-! ### The audio driver -/

/-- `x`, then the other, in turn. -/
def alternates : Bool → List Bool → Prop
  | _, [] => True
  | x, y :: rest => y = x ∧ alternates (!x) rest

theorem alternates_append_singleton (x : Bool) (l : List Bool) (y : Bool) :
    alternates x (l ++ [y]) ↔ alternates x l ∧ y = l.getLast?.elim x (!·) := by
  induction l generalizing x with
  | nil => simp [alternates]
  | cons z rest ih =>
    have hlast : (z :: rest).getLast?.elim x (!·) = rest.getLast?.elim (!z) (!·) := by
      rw [List.getLast?_cons]
      cases rest.getLast? <;> rfl
    rw [List.cons_append, alternates, alternates, ih, hlast, and_assoc]
    constructor
    · rintro ⟨rfl, hrest, hy⟩
      exact ⟨rfl, hrest, hy⟩
    · rintro ⟨rfl, hrest, hy⟩
      exact ⟨rfl, hrest, hy⟩

/-- The audio driver has heard of each plugging in and out, and of the last one. -/
def AudioFollows (s : Composer) : Prop :=
  alternates true s.audioCalls ∧
    (s.audioCalls.getLast? = some true ↔ checkMode s.mMode .hdmiConnected = true)

/-- The output that the mode shows, as the audio driver knows it. -/
structure Hears (s : Composer) (o : Output) : Prop where
  shown : o.Shown s.mMode
  init : s.mDrmInit = true
  alternates : alternates true s.audioCalls
  last : s.audioCalls.getLast?.getD false = o.plugged
  unplugged : o = .unplugged → s.mConnectStatus = drmHdmiDisconnected

section

variable {b : Build} {s t u : Composer} {q : Request} {o : Output}

theorem Hears.audioFollows (h : Hears s o) : AudioFollows s := by
  refine ⟨h.alternates, ?_⟩
  rw [h.shown.connected, ← h.last]
  cases s.audioCalls.getLast? <;> simp

/-- One more call, if it is not the last again. -/
theorem hears_append {l : List Bool} {x y : Bool} (h : alternates true l)
    (hlast : l.getLast?.getD false = x) (hne : y = !x) :
    alternates true (l ++ [y]) ∧ (l ++ [y]).getLast?.getD false = y := by
  refine ⟨(alternates_append_singleton true l y).mpr ⟨h, ?_⟩, by simp⟩
  rw [hne, ← hlast]
  cases l.getLast? <;> rfl

/-- **A change of the output** is heard if the cable is plugged in or out. -/
theorem Moved.hears {r : DrmResults} {o' : Output} (h : Moved b r s t o o') (hs : Hears s o)
    (hoff : o' = .off → r.connectionStatus ≠ drmHdmiDisconnected) :
    alternates true t.audioCalls ∧ t.audioCalls.getLast?.getD false = o'.plugged := by
  cases h with
  | stay _ _ _ audio =>
    rw [audio]
    exact ⟨hs.alternates, hs.last⟩
  | plug _ _ audio =>
    have hstatus : s.mConnectStatus ≠ r.connectionStatus := by
      rw [hs.unplugged rfl]
      exact (hoff rfl).symm
    rw [audio, if_pos ⟨hstatus, hs.init⟩]
    exact hears_append hs.alternates hs.last rfl
  | unplug _ plugged _ _ _ audio =>
    rw [audio]
    exact hears_append hs.alternates hs.last (by rw [plugged]; rfl)
  | turnOff _ on _ _ _ audio =>
    rw [audio]
    exact ⟨hs.alternates, hs.last.trans (Output.plugged_of_on on)⟩
  | switch _ _ ne on _ _ audio =>
    have hplugged := Output.plugged_of_on on
    rw [audio]
    by_cases ho : o = .unplugged
    · rw [if_pos ⟨ho, hs.init⟩, hplugged]
      exact hears_append hs.alternates hs.last (by rw [ho]; rfl)
    · rw [if_neg (fun h => ho h.1), List.append_nil, hplugged]
      refine ⟨hs.alternates, hs.last.trans ?_⟩
      cases o with
      | unplugged => exact absurd rfl ho
      | off | clone | videoExt => rfl

theorem Performs.hears (h : Performs b s t q) (hdvi : b.dviSupported = true) (hs : Hears s o) :
    ∃ o', Hears t o' := by
  rcases h.output with ⟨hkept, -⟩ | ⟨r, policy, video, u, -, -, hquiet, hset⟩
  · refine ⟨o, hkept.shown hs.shown, hkept.drmInit.trans hs.init, ?_, ?_, fun ho => ?_⟩
    · rw [hkept.audioCalls]
      exact hs.alternates
    · rw [hkept.audioCalls]
      exact hs.last
    · exact hkept.connectStatus.trans (hs.unplugged ho)
  have haccepted : isRejected b r = false := by
    unfold isRejected
    simp [hdvi]
  have hu : Hears u o := by
    refine ⟨hquiet.mode.symm ▸ hs.shown, hquiet.drmInit.trans hs.init, ?_, ?_, fun ho => ?_⟩
    · rw [hquiet.audioCalls]
      exact hs.alternates
    · rw [hquiet.audioCalls]
      exact hs.last
    · exact hquiet.connectStatus.trans (hs.unplugged ho)
  have hset := hset o hu.shown
  have hreached := reached_of_dviSupported hdvi r u o
  have hconnected : u.asked r = .unplugged ↔ r.connectionStatus = drmHdmiDisconnected := by
    unfold Composer.asked Output.target
    split_ifs with hplug <;> simp_all
  obtain ⟨halternates, hlast⟩ := hset.moved.hears hu fun hoff hplug => by
    rw [hreached, hconnected.mpr hplug] at hoff
    exact absurd hoff (by decide)
  refine ⟨_, hset.shown, hset.drmInit.trans hu.init, halternates, hlast, fun hunplugged => ?_⟩
  rw [hreached] at hunplugged
  exact hset.unplugged haccepted (hconnected.mp hunplugged)

theorem hears_start (boot : Boot) : Hears { blank boot with mDrmInit := true } .unplugged :=
  ⟨Output.shown_zero, rfl, trivial, rfl, fun _ => rfl⟩

end

/-- **The audio driver follows the cable** in every run. -/
theorem audioFollows_of_run {b : Build} (hdvi : b.dviSupported = true) {boot : Boot}
    (hinit : boot.drmInit = true) {s : MdsState} (h : Runs.Reachable (mds b boot) s) :
    AudioFollows s.composer := by
  have hrun : Runs.Reaches (mds b boot) (Admits fun _ _ => True) s := h
  obtain ⟨o, ho⟩ := mds_invariant (I := fun s => ∃ o, Hears s o)
    ⟨_, hinit.symm ▸ hears_start boot⟩
    (fun _ => trivial) (fun _ => trivial) (fun _ _ _ => trivial)
    (fun ⟨_, hs⟩ _ hp => hp.hears hdvi hs) hrun
  exact ho.audioFollows

/-- A cable that is pulled out. -/
theorem audioFollows_of_run_unplug : AudioFollows
    (perform ⟨true, true⟩ (DrmResults.simple drmHdmiDisconnected true)
      (construct ⟨true, true⟩ (Boot.simple drmHdmiConnected)) .notifyHotPlug).2 := by
  have h : Runs.Reachable (mds ⟨true, true⟩ (Boot.simple drmHdmiConnected))
      ⟨(perform ⟨true, true⟩ (DrmResults.simple drmHdmiDisconnected true)
        (construct ⟨true, true⟩ (Boot.simple drmHdmiConnected)) .notifyHotPlug).2, none⟩ :=
    .step (a := .call .notifyHotPlug (DrmResults.simple drmHdmiDisconnected true)) .init trivial rfl
  exact audioFollows_of_run rfl rfl h

end CtpCommon.Display
