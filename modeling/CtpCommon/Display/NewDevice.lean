import CtpCommon.Display.Service

/-!
# The flag of a new device

`drm_hdmi.cpp` sets `newDevice` when it asks for the state of the cable and finds a sink whose
product information is not the one it has stored.  A transition asks once, and again after each
attempt to enable HDCP that fails.

* `sinkInfo` — the product information that a question finds;
* `Saw c c' infos` — what has become of the flag after sinks with these;
* `attempts` — how often a transition tries to enable HDCP, from the state before it;
* `setHdmiModeL_tries` — **PROVED**: so often it does;
* `Service.asked`, `SeesNewDevice` — the connectors that a hot plug asks for, and a new device among
  them;
* `isDeviceChanged_iff` — **PROVED**: then, and only then, it finds the flag set.
-/

namespace CtpCommon.Display

open Composer

/-! ### What a question finds -/

def sinkInfo (resources : DrmResources) : Option (List UInt8) :=
  (((getConnector resources drmModeConnectorDvid).filter fun connector =>
    connector.modes ≠ []).bind validEdid).map productInfo

/-- The sinks that were asked for, as far as HDMI is supported. -/
def DrmContext.infos (c : DrmContext) (asked : List DrmResources) : List (List UInt8) :=
  if c.hdmiSupported then asked.filterMap sinkInfo else []

/-- From one context to the next, sinks with this product information were seen. -/
structure Saw (c c' : DrmContext) (infos : List (List UInt8)) : Prop where
  supported : c'.hdmiSupported = c.hdmiSupported
  flag : c'.newDevice = true ↔ c.newDevice = true ∨ ∃ info ∈ infos, info ≠ c.productInfo
  same : (∀ info ∈ infos, info = c.productInfo) → c'.productInfo = c.productInfo

section

variable {c c' c'' : DrmContext} {l l' : List (List UInt8)}

/-- Nothing was asked. -/
theorem Saw.of_eq (supported : c'.hdmiSupported = c.hdmiSupported)
    (flag : c'.newDevice = c.newDevice) (product : c'.productInfo = c.productInfo) :
    Saw c c' [] where
  supported := supported
  flag := by simp [flag]
  same _ := product

theorem Saw.trans (h : Saw c c' l) (h' : Saw c' c'' l') : Saw c c'' (l ++ l') where
  supported := h'.supported.trans h.supported
  flag := by
    rw [h'.flag, h.flag]
    by_cases hall : ∀ info ∈ l, info = c.productInfo
    · rw [h.same hall]
      constructor
      · rintro ((hflag | ⟨info, hmem, hne⟩) | ⟨info, hmem, hne⟩)
        · exact Or.inl hflag
        · exact Or.inr ⟨info, List.mem_append_left _ hmem, hne⟩
        · exact Or.inr ⟨info, List.mem_append_right _ hmem, hne⟩
      · rintro (hflag | ⟨info, hmem, hne⟩)
        · exact Or.inl (Or.inl hflag)
        · rcases List.mem_append.mp hmem with hl | hl'
          · exact absurd (hall info hl) hne
          · exact Or.inr ⟨info, hl', hne⟩
    · obtain ⟨info, hmem, hne⟩ : ∃ info ∈ l, info ≠ c.productInfo := by
        simpa using hall
      exact iff_of_true (Or.inl (Or.inr ⟨info, hmem, hne⟩))
        (Or.inr ⟨info, List.mem_append_left _ hmem, hne⟩)
  same hall := by
    have hl := h.same fun info hmem => hall info (List.mem_append_left _ hmem)
    refine (h'.same fun info hmem => ?_).trans hl
    rw [hl]
    exact hall info (List.mem_append_right _ hmem)

theorem Saw.infos (h : Saw c c' l) (asked : List DrmResources) : c'.infos asked = c.infos asked := by
  unfold DrmContext.infos
  rw [h.supported]

theorem saw_noteSink (info : List UInt8) (c : DrmContext) : Saw c (c.noteSink info) [info] := by
  unfold DrmContext.noteSink
  by_cases hsame : c.productInfo = info
  · rw [if_neg (not_not.mpr hsame)]
    exact ⟨rfl, by simp [hsame], fun _ => rfl⟩
  · rw [if_pos hsame]
    exact ⟨rfl, by simp [Ne.symm hsame], fun hall => hall info List.mem_cons_self⟩

/-- **A question** for the state of the cable. -/
theorem saw_getConnectionStatus (resources : DrmResources) (c : DrmContext) :
    Saw c (drmHdmiGetConnectionStatus resources c).context (c.infos [resources]) := by
  unfold DrmContext.infos drmHdmiGetConnectionStatus
  by_cases hsupported : c.hdmiSupported = true
  · rw [if_neg (by rw [hsupported]; exact Bool.true_eq_false.mp), if_pos hsupported,
      List.filterMap_cons, List.filterMap_nil]
    unfold sinkInfo getHdmiConnector
    dsimp only
    rw [Option.none_or]
    cases Option.filter _ (getConnector resources drmModeConnectorDvid) with
    | none => exact Saw.of_eq rfl rfl rfl
    | some connector =>
      dsimp only [Option.bind_some]
      cases validEdid connector with
      | none => exact Saw.of_eq rfl rfl rfl
      | some data =>
        have hempty : Saw c { c with
            hdmiConnector := getConnector resources drmModeConnectorDvid
            connected := false } [] := Saw.of_eq rfl rfl rfl
        exact (hempty.trans (saw_noteSink (productInfo data) _)).trans (Saw.of_eq rfl rfl rfl)
  · rw [if_pos (Bool.eq_false_iff.mpr hsupported), if_neg hsupported]
    exact Saw.of_eq rfl rfl rfl

/-! ### The calls of an operation -/

/-- The connectors at the tries that fail, from try `first` on. -/
def Environment.askedFrom (e : Environment) (first tries : ℕ) : List DrmResources :=
  ((List.range' first tries).filter fun i => e.others.hdcp.enable i = false).map e.atTry

/-- The attempts to enable HDCP among these calls. -/
def tries (l : List Effect) : ℕ := l.count .hdcpEnable

theorem askedFrom_one (e : Environment) (i : ℕ) :
    e.askedFrom i 1 = if e.others.hdcp.enable i = false then [e.atTry i] else [] := by
  unfold Environment.askedFrom
  by_cases hfails : e.others.hdcp.enable i = false
  · simp [hfails]
  · simp [hfails]

theorem askedFrom_add (e : Environment) (first m n : ℕ) :
    e.askedFrom first (m + n) = e.askedFrom first m ++ e.askedFrom (first + m) n := by
  unfold Environment.askedFrom
  rw [← List.map_append, ← List.filter_append, List.range'_append_1]

theorem infos_nil (c : DrmContext) : c.infos [] = [] := by
  unfold DrmContext.infos
  split <;> rfl

theorem infos_append (c : DrmContext) (l l' : List DrmResources) :
    c.infos (l ++ l') = c.infos l ++ c.infos l' := by
  unfold DrmContext.infos
  split
  · exact List.filterMap_append
  · rfl

/-- **One call**: the state of the cable is asked for after an attempt that fails. -/
theorem saw_follow (e : Environment) (t : Tracked) (x : Effect) :
    Saw t.context (e.follow t x).context (t.context.infos (e.askedFrom t.tries (tries [x]))) := by
  cases x with
  | hdcpEnable =>
    show Saw t.context (if _ then _ else _) (t.context.infos (e.askedFrom t.tries 1))
    rw [askedFrom_one]
    split
    · exact saw_getConnectionStatus (e.atTry t.tries) t.context
    · rw [infos_nil]
      exact Saw.of_eq rfl rfl rfl
  | setModeInfo timing =>
    show Saw t.context (drmHdmiSetModeInfo timing t.context).2 (t.context.infos [])
    rw [infos_nil]
    unfold drmHdmiSetModeInfo
    split
    · exact Saw.of_eq rfl rfl rfl
    · exact Saw.of_eq rfl rfl rfl
  | mipiSetMode | setHdmiVideoOn | setHdmiVideoOff | setHdmiPowerOff | onHdmiDisconnected
  | notifyAudioHotplug | displayIed | hdcpDisable | broadcast | onMdsMessage | setTiming
  | scalingSetting =>
    show Saw t.context _ (t.context.infos [])
    rw [infos_nil]
    exact Saw.of_eq rfl rfl rfl

theorem follow_tries (e : Environment) (t : Tracked) (x : Effect) :
    (e.follow t x).tries = t.tries + tries [x] := by
  cases x <;> rfl

/-- **The calls of an operation.** -/
theorem saw_foldl (e : Environment) (calls : List Effect) (t : Tracked) :
    Saw t.context (calls.foldl e.follow t).context
      (t.context.infos (e.askedFrom t.tries (tries calls))) := by
  induction calls generalizing t with
  | nil =>
    show Saw t.context t.context (t.context.infos [])
    rw [infos_nil]
    exact Saw.of_eq rfl rfl rfl
  | cons x calls ih =>
    have hfirst := saw_follow e t x
    have hrest := ih (e.follow t x)
    rw [hfirst.infos, follow_tries] at hrest
    have hcount : tries (x :: calls) = tries [x] + tries calls := by
      show List.count _ ([x] ++ calls) = _
      rw [List.count_append]
      rfl
    rw [hcount, askedFrom_add, infos_append]
    exact hfirst.trans hrest

end

/-! ### The attempts of a transition -/

/-- From one device to the next, HDCP was tried so often. -/
def Tries (n : ℕ) (d d' : Device) : Prop := ∃ new, d'.log = d.log ++ new ∧ tries new = n

def Effect.isUntried : Effect → Bool
  | hdcpEnable => false
  | _ => true

/-- The rounds of the loop of `drm_hdcp_enable_and_check`. -/
def triesMade (r : HdcpResults) : ℕ → ℕ → ℕ
  | 0, _ => 0
  | left + 1, i =>
      if (r.enable i = false ∧ r.status i = 0) ∨ (r.enable i = true ∧ r.authenticated i = true) then
        1
      else triesMade r left (i + 1) + 1

/-- The attempts of `drm_hdcp_enable_hdcp`. -/
def hdcpTries (b : Build) (r : HdcpResults) : ℕ :=
  if b.enableHdcp = false ∨ r.property = some 0 then 0 else triesMade r hdcpEnableNumOfTry 0

/-- The attempts of a transition: none for an output that is rejected, disconnected or not allowed,
nor for one that shows what it should. -/
def Composer.attempts (b : Build) (r : DrmResults) (s : Composer) : ℕ :=
  if isRejected b r = true ∨ r.connectionStatus = drmHdmiDisconnected ∨
      s.mHdmiPolicy = mdsHdmiOnNotAllowed ∨
      checkMode s.mMode (if s.mVideo.isPlaying then .hdmiVideoExt else .hdmiClone) = true then 0
  else hdcpTries b r.hdcp

section

variable {m n : ℕ} {d d' d'' : Device}

theorem Tries.trans (h : Tries m d d') (h' : Tries n d' d'') : Tries (m + n) d d'' := by
  obtain ⟨new, hlog, rfl⟩ := h
  obtain ⟨new', hlog', rfl⟩ := h'
  refine ⟨new ++ new', ?_, List.count_append⟩
  rw [hlog', hlog, List.append_assoc]

theorem Adds.untried (h : Adds Effect.isUntried d d') : Tries 0 d d' := by
  obtain ⟨new, hlog, hnew⟩ := h
  refine ⟨new, hlog, List.count_eq_zero.mpr fun hmem => ?_⟩
  exact absurd (hnew _ hmem) Bool.false_ne_true

theorem untried_of_isQuiet (e : Effect) (h : e.isQuiet = true) : e.isUntried = true := by
  cases e <;> first | rfl | exact absurd h Bool.false_ne_true

theorem Adds.quiet_untried (h : Adds Effect.isQuiet d d') : Tries 0 d d' :=
  (h.mono untried_of_isQuiet).untried

theorem Tries.before (h' : Tries n d' d'') (h : Tries 0 d d') : Tries n d d'' :=
  Nat.zero_add n ▸ h.trans h'

/-! ### The steps of a transition -/

theorem enableTries_tries (r : HdcpResults) (left i : ℕ) (d : Device) :
    Tries (triesMade r left i) d (enableTries r left i d).2 := by
  induction left generalizing i d with
  | zero => exact ⟨[], (List.append_nil _).symm, rfl⟩
  | succ left ih =>
    have hone : Tries 1 d (d.call .hdcpEnable) := ⟨[.hdcpEnable], rfl, rfl⟩
    have hmore : Tries (triesMade r left (i + 1) + 1) d
        (enableTries r left (i + 1) (d.call .hdcpEnable)).2 :=
      Nat.add_comm 1 _ ▸ hone.trans (ih (i + 1) _)
    unfold enableTries triesMade
    cases r.enable i with
    | false =>
      by_cases hstatus : r.status i = 0
      · simpa [hstatus] using hone
      · simpa [hstatus] using hmore
    | true =>
      cases r.authenticated i with
      | true => simpa using hone
      | false => simpa using hmore

variable (b : Build) (r : DrmResults) (s : Composer)

theorem turnOnHdcp_tries : Tries (hdcpTries b r.hdcp) s.device (s.turnOnHdcp b r).device := by
  have hoff : Tries 0 s.device (s.device.call (.displayIed false)) := (Adds.call _ rfl).untried
  have hwork : Tries (triesMade r.hdcp hdcpEnableNumOfTry 0) s.device
      (drmHdcpEnableHdcpWork r.hdcp s.device).2 :=
    (Tries.before (enableTries_tries r.hdcp _ 0 _) hoff).trans (n := 0) (Adds.call _ rfl).untried
  have henable : Tries (hdcpTries b r.hdcp) s.device
      (drmHdcpEnableHdcp b r.hdcp s.device).2 := by
    unfold hdcpTries drmHdcpEnableHdcp
    by_cases hb : b.enableHdcp = true
    · rw [if_pos hb]
      by_cases hproperty : r.hdcp.property = some 0
      · rw [if_pos (Or.inr hproperty), if_pos hproperty]
        exact (Adds.refl _ _).untried
      · rw [if_neg (not_or.mpr ⟨by rw [hb]; exact Bool.true_eq_false.mp, hproperty⟩),
          if_neg hproperty]
        exact hwork.trans (n := 0)
          (Adds.of_log (drmHdcpStartLinkChecking_log r.hdcp _)).untried
    · rw [if_neg hb, if_pos (Or.inl (Bool.eq_false_iff.mpr hb))]
      exact (Adds.refl _ _).untried
  unfold turnOnHdcp
  split
  · exact henable
  · exact henable

theorem notifyTiming_tries : Tries 0 s.device (s.notifyTiming r).device := by
  have hset : ∀ timing, Tries 0 s.device (s.setHdmiTimingL r timing).2.device := by
    intro timing
    rw [setHdmiTimingL_device]
    cases s.timingReceiver with
    | none => exact (Adds.refl _ _).untried
    | some x => exact (Adds.call _ rfl).untried
  unfold notifyTiming
  split
  · exact hset _
  · exact hset _

/-- **From one output to another**, HDCP is enabled anew. -/
theorem switchHdmi_tries : Tries (hdcpTries b r.hdcp) s.device (s.switchHdmi b r).device := by
  unfold switchHdmi
  dsimp only
  refine Tries.before ?_ (adds_broadcast s (.modeChange s.transitionalMode)).quiet_untried
  generalize s.broadcastMessageL (.modeChange s.transitionalMode) = u
  refine Tries.before ?_ (adds_turnOffHdcp b u).quiet_untried
  refine Tries.before ?_ (notifyTiming_tries r (u.turnOffHdcp b))
  generalize (u.turnOffHdcp b).notifyTiming r = v
  refine (turnOnHdcp_tries b r v).trans (n := 0) ?_
  generalize v.turnOnHdcp b r = w
  refine Adds.quiet_untried (Adds.trans ?_ (adds_broadcastMode _))
  rw [turnOnOverlay_device]
  refine Adds.trans ?_ (adds_turnOnHdmi _)
  refine Adds.trans ?_ (adds_broadcastMode _)
  rw [setOutput_device]
  exact Adds.refl _ w.device

theorem hdmiIsDisconnected_tries (connectStatus : Int) :
    Tries 0 s.device (s.hdmiIsDisconnected b connectStatus).device := by
  unfold hdmiIsDisconnected
  split
  · exact (adds_broadcastMode s).quiet_untried
  · unfold unplugHdmi
    dsimp only
    refine Tries.trans (m := 0) (n := 0) (Adds.quiet_untried ?_) (Adds.call _ rfl).untried
    refine Adds.trans ?_ (adds_broadcastMode _)
    exact (adds_call s rfl).trans
      (adds_disableHdcp b false (s.call (.notifyAudioHotplug false)).device)

theorem hdmiIsAllowed_tries (notify : Bool) :
    Tries (if checkMode s.mMode (if s.mVideo.isPlaying then .hdmiVideoExt else .hdmiClone) = true
      then 0 else hdcpTries b r.hdcp) s.device (s.hdmiIsAllowed b r notify).device := by
  have hsame : Tries 0 s.device s.broadcastMode.device := (adds_broadcastMode s).quiet_untried
  have hswitch : Tries (hdcpTries b r.hdcp) s.device
      ((s.switchHdmi b r).notifyAudio notify).device :=
    (switchHdmi_tries b r s).trans (n := 0) (adds_notifyAudio _ notify).quiet_untried
  unfold hdmiIsAllowed
  cases s.mVideo.isPlaying with
  | true =>
    cases hshown : checkMode s.mMode .hdmiVideoExt with
    | true => simpa [hshown] using hsame
    | false => simpa [hshown] using hswitch
  | false =>
    cases hshown : checkMode s.mMode .hdmiClone with
    | true => simpa [hshown] using hsame
    | false => simpa [hshown] using hswitch

/-- **A transition** tries so often. -/
theorem setHdmiModeL_tries : Tries (s.attempts b r) s.device (s.setHdmiModeL b r).2.device := by
  unfold Composer.attempts
  cases hr : isRejected b r with
  | true =>
    rw [setHdmiModeL_rejected b r s hr, if_pos (Or.inl rfl)]
    exact (adds_broadcastMode s.updateVideoStatus).quiet_untried
  | false =>
    rw [setHdmiModeL_accepted b r s hr]
    refine Tries.before ?_ (adds_turnOnMipi s.updateVideoStatus r.connectionStatus).quiet_untried
    have honly := turnOnMipi_panelOnly r s.updateVideoStatus
    generalize s.updateVideoStatus.turnOnMipi r.connectionStatus = u at honly
    unfold followCable
    by_cases hplug : r.connectionStatus = drmHdmiDisconnected
    · rw [if_pos hplug, if_pos (Or.inr (Or.inl hplug))]
      exact hdmiIsDisconnected_tries b u r.connectionStatus
    rw [if_neg hplug]
    dsimp only
    have hpolicy : (u.setMode .hdmiConnected true).mHdmiPolicy = s.mHdmiPolicy := honly.hdmiPolicy
    rw [hpolicy]
    by_cases hnot : s.mHdmiPolicy = mdsHdmiOnNotAllowed
    · rw [if_pos hnot, if_pos (Or.inr (Or.inr (Or.inl hnot)))]
      exact ((adds_notifyPlug (u.setMode .hdmiConnected true) _ _).trans
        (adds_hdmiIsNotAllowed b _)).quiet_untried
    rw [if_neg hnot]
    have hflag : ∀ f, f ≠ .mipiOn → f ≠ .videoPlaying → f ≠ .hdmiConnected →
        checkMode (u.setMode .hdmiConnected true).mMode f = checkMode s.mMode f := by
      intro f hmipi hvideo hconnected
      have hset : checkMode (u.setMode .hdmiConnected true).mMode f = checkMode u.mMode f :=
        (checkMode_setFlag _ _ _ _).trans (if_neg hconnected)
      exact (hset.trans (honly.flags f hmipi)).trans (updateVideoStatus_flags s hvideo)
    have hshows := hdmiIsAllowed_tries b r
      ((u.setMode .hdmiConnected true).setConnectStatus r.connectionStatus)
      (!checkMode u.mMode .hdmiConnected)
    have hplaying : ((u.setMode .hdmiConnected true).setConnectStatus
        r.connectionStatus).mVideo.isPlaying = s.mVideo.isPlaying :=
      congrArg MdsVideoSourceInfo.isPlaying honly.video
    have hmode : ((u.setMode .hdmiConnected true).setConnectStatus r.connectionStatus).mMode
        = (u.setMode .hdmiConnected true).mMode := rfl
    rw [hplaying, hmode, hflag _ (by split <;> decide) (by split <;> decide)
      (by split <;> decide)] at hshows
    simp only [hplug, hnot, Bool.false_eq_true, false_or]
    exact hshows

end

/-! ### A hot plug -/

namespace Service

variable (b : Build) (s : Service) (e : Environment)

/-- The connectors that a hot plug asks for: once, and after each attempt that fails. -/
def asked : List DrmResources :=
  e.resources :: e.askedFrom 0 (s.composer.attempts b (e.answers s.context false .notifyHotPlug))

/-- A new device was flagged before, or the sink that is found is not the one that is stored. -/
def SeesNewDevice : Prop :=
  s.context.newDevice = true ∨ ∃ info ∈ s.context.infos (s.asked b e), info ≠ s.context.productInfo

end Service

/-- **A hot plug finds the flag set** exactly then. -/
theorem isDeviceChanged_iff (b : Build) {s : Service} (e : Environment)
    (hinit : s.composer.mDrmInit = true) :
    s.isDeviceChanged b e .notifyHotPlug = true ↔ s.SeesNewDevice b e := by
  obtain ⟨new, hlog, htries⟩ :=
    setHdmiModeL_tries b (e.answers s.context false .notifyHotPlug) s.composer
  have henter : e.enter s.composer s.context .notifyHotPlug
      = (drmHdmiGetConnectionStatus e.resources s.context).context := by
    unfold Environment.enter
    rw [if_pos (show s.composer.setsHdmiMode .notifyHotPlug = true from hinit)]
  have hfirst := saw_getConnectionStatus e.resources s.context
  have hrest := saw_foldl e new { s.tracked with
    context := (drmHdmiGetConnectionStatus e.resources s.context).context, tries := 0 }
  rw [hfirst.infos, htries] at hrest
  have hall := hfirst.trans hrest
  rw [← infos_append] at hall
  unfold Service.isDeviceChanged Service.after
  rw [callsSince_eq hlog, henter]
  exact hall.flag

end CtpCommon.Display
