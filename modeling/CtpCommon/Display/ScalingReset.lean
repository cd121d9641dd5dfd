import CtpCommon.Display.NewDevice
import CtpCommon.Display.Scaling

/-!
# The scaling of a new device

`notifyHotPlug` sends SurfaceFlinger the word for no scaling when the device is a new one.  The
parameters that clients have set stay stored.

* `Coherent` — the last word that was sent is the one of what is stored;
* `connectStatusAfter`, `setHdmiModeL_mConnectStatus` — **PROVED**: the status that a hot plug
  leaves;
* `ResetsScaling`, `KeepsScaling` — a hot plug that sends the word, and what it must find stored;
* `next_coherent_iff` — **PROVED**: a step stays coherent exactly if nothing is stored when the word
  is sent;
* `scaling_coherent` — **PROVED**: and so does a run.
-/

namespace CtpCommon.Display

open Composer

/-! ### The words that were sent -/

/-- All the words so far. -/
def Device.scalingWords (d : Device) : List UInt32 := d.log.filterMap Effect.scalingWord

/-- The word of what is stored. -/
def Composer.word (s : Composer) : UInt32 := scalingWord s.mScaleMode s.mScaleStepX s.mScaleStepY

/-- The last word that was sent says what is stored. -/
def Coherent (s : Composer) : Prop :=
  ∀ word, s.device.scalingWords.getLast? = some word → word = s.word

/-- Not a word for the scaling. -/
def Effect.isUnscaled (e : Effect) : Bool := !e.isScaling

section

variable {b : Build} {r : DrmResults} {s t u : Composer} {d d' : Device}

theorem Adds.scalingWords (h : Adds Effect.isUnscaled d d') : d'.scalingWords = d.scalingWords := by
  obtain ⟨new, hlog, hnew⟩ := h
  have hnone : new.filterMap Effect.scalingWord = [] := by
    rw [List.filterMap_eq_nil_iff]
    intro e he
    have hscaling := hnew e he
    cases e <;> first | rfl | exact absurd hscaling Bool.false_ne_true
  unfold Device.scalingWords
  rw [hlog, List.filterMap_append, hnone, List.append_nil]

theorem scalingWords_since {p : Effect → Bool} (h : Adds p d d') :
    d'.scalingWords = d.scalingWords ++ wordsSince d d' := by
  obtain ⟨new, hlog, -⟩ := h
  unfold wordsSince Device.scalingWords
  rw [callsSince_eq hlog, hlog, List.filterMap_append]

theorem unscaled_of_isQuiet (e : Effect) (h : e.isQuiet = true) : e.isUnscaled = true := by
  cases e <;> first | rfl | exact absurd h Bool.false_ne_true

theorem unscaled_of_isLater (e : Effect) (h : e.isLater = true) : e.isUnscaled = true := by
  cases e <;> first | rfl | exact absurd h Bool.false_ne_true

/-- **A transition** sends no word. -/
theorem Transits.unscaled (h : Transits r d d') : Adds Effect.isUnscaled d d' := by
  cases h with
  | quiet adds => exact adds.mono unscaled_of_isLater
  | timing v handle listener video info connected before after =>
    have htiming : Adds Effect.isUnscaled v
        (v.call (.setTiming handle listener (r.getTiming video info))) := Adds.call v rfl
    exact ((before.mono unscaled_of_isQuiet).trans htiming).trans (after.mono unscaled_of_isLater)

theorem word_of_scale (h : t.scale = s.scale) : t.word = s.word := by
  obtain ⟨hmode, hrest⟩ := Prod.mk.inj h
  obtain ⟨hx, hy⟩ := Prod.mk.inj hrest
  unfold Composer.word
  rw [hmode, hx, hy]

theorem coherent_of_same (hs : Coherent s)
    (hwords : t.device.scalingWords = s.device.scalingWords) (hscale : t.scale = s.scale) :
    Coherent t := by
  intro word hlast
  rw [hwords] at hlast
  rw [word_of_scale hscale]
  exact hs word hlast

/-- A word is sent. -/
theorem coherent_snoc_iff {words : List UInt32} {word : UInt32}
    (hwords : t.device.scalingWords = words ++ [word]) : Coherent t ↔ word = t.word := by
  unfold Coherent
  rw [hwords, List.getLast?_concat]
  constructor
  · intro h
    exact h word rfl
  · rintro h word' hword'
    rw [← Option.some.inj hword', h]

end

/-! ### The status of the connection -/

/-- `mConnectStatus` after a transition.  An output that is not allowed keeps the old one if it was
connected before. -/
def Composer.connectStatusAfter (b : Build) (r : DrmResults) (s : Composer) : Int :=
  if isRejected b r = false ∧ r.connectionStatus ≠ drmHdmiDisconnected ∧
      s.mHdmiPolicy = mdsHdmiOnNotAllowed ∧ checkMode s.mMode .hdmiConnected then
    s.mConnectStatus
  else r.connectionStatus

section

variable (b : Build) (r : DrmResults) (s : Composer)

theorem notifyPlug_mConnectStatus (connectStatus : Int) (notify : Bool) :
    (s.notifyPlug connectStatus notify).mConnectStatus =
      if notify ∧ s.mDrmInit then connectStatus else s.mConnectStatus := by
  unfold notifyPlug
  by_cases hnotify : notify = true ∧ s.mDrmInit = true
  · rw [if_pos hnotify]
    by_cases hsame : s.mConnectStatus = connectStatus
    · rw [if_neg (fun h => h.1 hsame), hsame]
    · rw [if_pos ⟨hsame, hnotify⟩]
      rfl
  · rw [if_neg (fun h => hnotify h.2), if_neg hnotify]

theorem hdmiIsNotAllowed_mConnectStatus :
    (s.hdmiIsNotAllowed b).mConnectStatus = s.mConnectStatus := by
  unfold hdmiIsNotAllowed
  split
  · rfl
  · exact (silent_turnOffHdmi b s).connectStatus

theorem hdmiIsAllowed_mConnectStatus (notify : Bool) :
    (s.hdmiIsAllowed b r notify).mConnectStatus = s.mConnectStatus := by
  have hswitch := (silent_switchHdmi b r s).connectStatus
  unfold hdmiIsAllowed notifyAudio
  split
  · rfl
  split
  · rfl
  split
  · exact hswitch
  · exact hswitch

/-- **A transition** takes the status of the cable, but for an output that is not allowed. -/
theorem setHdmiModeL_mConnectStatus (hinit : s.mDrmInit = true) :
    (s.setHdmiModeL b r).2.mConnectStatus = s.connectStatusAfter b r := by
  unfold Composer.connectStatusAfter
  cases hr : isRejected b r with
  | true =>
    rw [setHdmiModeL_rejected b r s hr, if_neg (fun h => Bool.false_ne_true h.1.symm)]
    rfl
  | false =>
    rw [setHdmiModeL_accepted b r s hr]
    have honly := turnOnMipi_panelOnly r s.updateVideoStatus
    generalize s.updateVideoStatus.turnOnMipi r.connectionStatus = u at honly
    have hplugged : checkMode u.mMode .hdmiConnected = checkMode s.mMode .hdmiConnected :=
      (honly.flags _ (by decide)).trans (updateVideoStatus_flags s (by decide))
    by_cases hplug : r.connectionStatus = drmHdmiDisconnected
    · rw [followCable_connectStatus b r u hplug, if_neg (fun h => h.2.1 hplug), hplug]
    unfold followCable
    rw [if_neg hplug]
    dsimp only
    by_cases hpolicy : s.mHdmiPolicy = mdsHdmiOnNotAllowed
    · have hnot : (u.setMode .hdmiConnected true).mHdmiPolicy = mdsHdmiOnNotAllowed :=
        honly.hdmiPolicy.trans hpolicy
      have hdrm : (u.setMode .hdmiConnected true).mDrmInit = true := honly.drmInit.trans hinit
      have hstatus : (u.setMode .hdmiConnected true).mConnectStatus = s.mConnectStatus :=
        honly.connectStatus
      rw [if_pos hnot, hdmiIsNotAllowed_mConnectStatus, notifyPlug_mConnectStatus, hdrm, hplugged,
        hstatus]
      cases checkMode s.mMode .hdmiConnected with
      | true => simp [hplug, hpolicy]
      | false => simp
    · have hallowed : (u.setMode .hdmiConnected true).mHdmiPolicy ≠ mdsHdmiOnNotAllowed :=
        fun h => hpolicy (honly.hdmiPolicy.symm.trans h)
      rw [if_neg hallowed, hdmiIsAllowed_mConnectStatus, if_neg (fun h => hpolicy h.2.2.1)]
      rfl

/-! ### Operations -/

/-- **The operations without a word**: all but a hot plug and the calls for the scaling. -/
theorem perform_unscaled {op : Operation} (hplug : op ≠ .notifyHotPlug)
    (hscale : op.isScale = false) :
    Adds Effect.isUnscaled s.device (perform b r s op).2.device := by
  cases hsets : s.setsHdmiMode op with
  | true => exact (perform_transits b r s hsets hplug).unscaled
  | false =>
    by_cases hmode : ∃ timing, op = .setHdmiModeInfo timing
    · obtain ⟨timing, rfl⟩ := hmode
      cases hinit : s.mDrmInit with
      | false =>
        rw [perform_of_not_init b r hinit]
        exact Adds.refl _ _
      | true =>
        have hchoice : Adds Effect.isUnscaled s.device (s.device.call (.setModeInfo timing)) :=
          Adds.call s.device rfl
        refine Adds.trans ?_ ((perform_setHdmiModeInfo b r s hinit timing).mono
          unscaled_of_isQuiet)
        cases s.timingReceiver with
        | none => exact hchoice
        | some x => exact hchoice.trans (Adds.call _ rfl)
    · exact (perform_quiet b r s hsets (fun timing h => hmode ⟨timing, h⟩) hscale).mono
        unscaled_of_isQuiet

end

/-! ### One step -/

namespace ServiceAction

/-- SurfaceFlinger is reachable. -/
def FindsSurfaceFlinger : ServiceAction → Prop
  | .call _ e => e.others.surfaceFlinger = true
  | _ => True

end ServiceAction

namespace Service

/-- A hot plug that finds a new device connected. -/
def ResetsScaling (b : Build) (s : Service) (e : Environment) : Prop :=
  s.composer.mDrmInit = true ∧ s.SeesNewDevice b e ∧
    s.composer.connectStatusAfter b (e.answers s.context false .notifyHotPlug) = drmHdmiConnected

/-- It finds no scaling stored. -/
def KeepsScaling (b : Build) (s : Service) : ServiceAction → Prop
  | .call .notifyHotPlug e => s.ResetsScaling b e → s.composer.word = 0
  | _ => True

end Service

section

variable {b : Build} {r : DrmResults} {s t : Composer}

/-- A call that sends what it stores. -/
theorem coherent_of_sent {mode stepX stepY : UInt32} (hscale : t.scale = (mode, stepX, stepY))
    (hwords : t.device.scalingWords = s.device.scalingWords ++ [scalingWord mode stepX stepY]) :
    Coherent t := by
  obtain ⟨hmode, hrest⟩ := Prod.mk.inj hscale
  obtain ⟨hx, hy⟩ := Prod.mk.inj hrest
  refine (coherent_snoc_iff hwords).mpr ?_
  unfold Composer.word
  rw [hmode, hx, hy]

/-- **A call for the scaling** stores what it sends. -/
theorem perform_isScale_coherent {op : Operation} (h : op.isScale = true) (hs : Coherent s)
    (hfound : r.surfaceFlinger = true) : Coherent (perform b r s op).2 := by
  have hsent : ¬(s.mSurfaceComposer = false ∧ r.surfaceFlinger = false) := fun h' =>
    Bool.false_ne_true (h'.2.symm.trans hfound)
  have hall := scalingWords_since (perform_scaling b r s h)
  cases hinit : s.mDrmInit with
  | false =>
    rw [perform_of_not_init b r hinit]
    exact hs
  | true =>
    cases op with
    | setHdmiScaleType type =>
      obtain ⟨hstored, hwords⟩ := perform_setHdmiScaleType b r hinit type
      rw [hwords, if_neg hsent] at hall
      exact coherent_of_sent hstored hall
    | setHdmiScaleStep hValue vValue =>
      obtain ⟨hstored, hwords⟩ := perform_setHdmiScaleStep b r hinit hValue vValue
      rw [hwords, if_neg hsent] at hall
      exact coherent_of_sent hstored hall
    | getMode | setModePolicy | notifyWidi | notifyMipi | notifyHotPlug | setHdmiPowerOff
    | prepareForVideo | getVideoState | updateVideoInfo | registerListener | unregisterListener
    | getHdmiModeInfo | setHdmiModeInfo | getHdmiDeviceChange | getVideoInfo
    | getDisplayCapability => exact absurd h Bool.false_ne_true

/-- **A hot plug** sends the word for no scaling to a new device, and stores nothing. -/
theorem perform_notifyHotPlug_coherent (hinit : s.mDrmInit = true) (hs : Coherent s)
    (hfound : r.surfaceFlinger = true) : Coherent (perform b r s .notifyHotPlug).2 ↔
      (r.isDeviceChanged = true ∧ s.connectStatusAfter b r = drmHdmiConnected → s.word = 0) := by
  have hscale := scale_of_still (setHdmiModeL_still b r s)
  have hwords := (setHdmiModeL_transits b r s).unscaled.scalingWords
  rw [perform_notifyHotPlug b r s hinit, ← setHdmiModeL_mConnectStatus b r s hinit]
  generalize (s.setHdmiModeL b r).2 = v at hscale hwords
  by_cases hreset : r.isDeviceChanged = true ∧ v.mConnectStatus = drmHdmiConnected
  · rw [if_pos hreset]
    have hall := scalingWords_since (adds_setDisplayScalingLocked r v 0 0 0)
    rw [wordsSince_setDisplayScalingLocked,
      if_neg fun h => Bool.false_ne_true (h.2.symm.trans hfound)] at hall
    have hstored := (scale_setDisplayScalingLocked (s := v) (r := r) 0 0 0).trans hscale
    refine (coherent_snoc_iff hall).trans ?_
    rw [word_of_scale hstored]
    exact ⟨fun h _ => h.symm, fun h => (h hreset).symm⟩
  · rw [if_neg hreset]
    exact iff_of_true (coherent_of_same hs hwords hscale) fun h => absurd h hreset

end

section

variable {b : Build} {s t : Service} {a : ServiceAction}

theorem keepsScaling_of_ne {op : Operation} {e : Environment} (h : op ≠ .notifyHotPlug) :
    s.KeepsScaling b (.call op e) := by
  cases op with
  | notifyHotPlug => exact absurd rfl h
  | _ => trivial

theorem scaleOverflows_of_isScale {op : Operation} (h : op.isScale = false) :
    op.scaleOverflows = none := by
  cases op <;> first | rfl | exact absurd h.symm Bool.false_ne_true

/-- **A step** stays coherent exactly if it does not find a scaling stored when it sends the word
for none. -/
theorem next_coherent_iff (hs : Coherent s.composer) (hst : s.next b a = some t)
    (hfound : a.FindsSurfaceFlinger) : Coherent t.composer ↔ s.KeepsScaling b a := by
  obtain ⟨hstep, -⟩ := next_eq hst
  cases a with
  | mipiRequest =>
    refine iff_of_true ?_ trivial
    obtain ⟨-, -, heq⟩ := step_mipiRequest hstep
    have hcomposer : t.composer = _ := congrArg MdsState.composer heq
    exact (congrArg Coherent hcomposer).mpr hs
  | setMipiMode =>
    refine iff_of_true ?_ trivial
    obtain ⟨on, -, -, heq⟩ := step_setMipiMode hstep
    have hcomposer : t.composer = _ := congrArg MdsState.composer heq
    refine coherent_of_same hs ?_ (step_scale hstep rfl)
    rw [hcomposer]
    exact ((adds_setMipiModeL s.composer on).mono unscaled_of_isQuiet).scalingWords
  | checkLinkStatus isAuthenticated e =>
    refine iff_of_true ?_ trivial
    obtain ⟨-, heq⟩ := step_checkLinkStatus hstep
    have hcomposer : t.composer = _ := congrArg MdsState.composer heq
    refine coherent_of_same hs ?_ (step_scale hstep rfl)
    rw [hcomposer]
    exact ((drmHdcpCheckLinkStatus_calls isAuthenticated _ _).later.mono
      unscaled_of_isLater).scalingWords
  | call op e =>
    have hcomposer : t.composer = (perform b
        (e.answers s.context (s.isDeviceChanged b e op) op) s.composer op).2 :=
      congrArg MdsState.composer (Option.some.inj hstep).symm
    rw [hcomposer]
    by_cases hplug : op = .notifyHotPlug
    · subst hplug
      cases hinit : s.composer.mDrmInit with
      | false =>
        rw [perform_of_not_init b _ hinit]
        refine iff_of_true hs fun hreset => ?_
        exact absurd (hinit.symm.trans hreset.1) Bool.false_ne_true
      | true =>
        refine (perform_notifyHotPlug_coherent (b := b) (r := e.answers s.context
          (s.isDeviceChanged b e .notifyHotPlug) .notifyHotPlug) hinit hs hfound).trans ?_
        have hflag := isDeviceChanged_iff b e hinit
        exact ⟨fun h hreset => h ⟨hflag.mpr hreset.2.1, hreset.2.2⟩,
          fun h hreset => h ⟨hinit, hflag.mp hreset.1, hreset.2⟩⟩
    refine iff_of_true ?_ (keepsScaling_of_ne hplug)
    cases hscale : op.isScale with
    | true => exact perform_isScale_coherent hscale hs hfound
    | false =>
      exact coherent_of_same hs (perform_unscaled b _ s.composer hplug hscale).scalingWords
        (perform_scale (scaleOverflows_of_isScale hscale))

end

/-! ### Runs -/

/-- **The constructor** sends no word. -/
theorem construct_coherent (b : Build) (boot : Boot) : Coherent (construct b boot) := by
  have hadds : Adds Effect.isUnscaled (blank boot).device (construct b boot).device := by
    rcases construct_transits b boot with ⟨-, htransits⟩ | hquiet
    · exact htransits.unscaled
    · exact hquiet.mono unscaled_of_isQuiet
  intro word hlast
  rw [hadds.scalingWords] at hlast
  exact absurd hlast.symm (Option.some_ne_none word)

/-- **The word says what is stored** in every run in which a new device finds no scaling; after such
a run, a step keeps it so exactly if it does not send the word for none to a new device while a
scaling is stored. -/
theorem scaling_coherent (b : Build) (u : Startup) (s : Service)
    (h : Runs.Reaches (displayService b u)
      (fun s a => a.FindsSurfaceFlinger ∧ s.KeepsScaling b a) s) :
    Coherent s.composer ∧ ∀ a t, s.next b a = some t → a.FindsSurfaceFlinger →
      (Coherent t.composer ↔ s.KeepsScaling b a) := by
  have hs : Coherent s.composer := by
    refine h.invariant (I := fun s => Coherent s.composer) (construct_coherent b u.boot) ?_
    rintro s t a hs ⟨hfound, hkeeps⟩ hst
    exact (next_coherent_iff hs hst hfound).mpr hkeeps
  exact ⟨hs, fun a t hst hfound => next_coherent_iff hs hst hfound⟩

/-! ### Two runs -/

/-- SurfaceFlinger runs, and these connectors are there. -/
def Environment.withSurfaceFlinger (resources : DrmResources) : Environment :=
  { Environment.simple resources ⟨0, 0, 0, 0, 0⟩ with others := DrmResults.withSurfaceFlinger }

/-- An HDMI sink with a product of its own is plugged in. -/
def plugSink : ServiceAction :=
  .call .notifyHotPlug
    (.withSurfaceFlinger (some [some (.simple 256 fun i => if i = 8 then 1 else hdmiEdid i)]))

/-- A client asks for a kind of scaling. -/
def scaleType3 : ServiceAction := .call (.setHdmiScaleType 3) (.withSurfaceFlinger none)

/-- The sink is plugged in first, and is no new device when it is seen again. -/
theorem scaling_coherent_of_known : ∃ s : Service,
    s.composer.device.scalingWords = [0, 3] ∧ Coherent s.composer := by
  have hplug : Runs.Reaches (displayService ⟨true, true⟩ Startup.simple)
      (fun s a => a.FindsSurfaceFlinger ∧ s.KeepsScaling ⟨true, true⟩ a) _ :=
    .step (a := plugSink) .init ⟨rfl, fun _ => rfl⟩ rfl
  have hscale := hplug.step (a := scaleType3) ⟨rfl, trivial⟩ rfl
  exact ⟨_, by decide, (scaling_coherent _ _ _ hscale).1⟩

/-- A kind of scaling is stored when the sink is plugged in. -/
theorem stored_scaling_is_stale : ¬∀ (b : Build) (u : Startup) (s : Service),
    Runs.Reaches (displayService b u) (fun _ a => a.FindsSurfaceFlinger) s →
      Coherent s.composer := by
  intro h
  have hscale : Runs.Reaches (displayService ⟨true, true⟩ Startup.simple)
      (fun _ a => a.FindsSurfaceFlinger) _ :=
    .step (a := scaleType3) .init rfl rfl
  have hplug := hscale.step (a := plugSink) rfl rfl
  exact absurd (h _ _ _ hplug 0 (by decide)) (by decide)

end CtpCommon.Display
