import CtpCommon.Display.Panel

/-!
# The listeners over whole runs

A listener is told the mode by broadcasts.  Two requests change the mode without one: WiDi, and the
MIPI thread.

* `Performs.speech` — **PROVED**: a request announces the new mode, or it tells no other than the
  old one, or it changes the registrations;
* `Watched` — the service, with what has happened to each listener since it was registered;
* `ListenersAgree` — a listener that has seen the mode change was last told the mode;
* `listenersAgree_of_run` — **PROVED**: so it is unless a request changes the mode of a listener
  without a broadcast.
-/

namespace CtpCommon.Display

open Composer

/-! ### What a request says -/

section

variable {b : Build} {s t : Composer} {q : Request}

theorem speaks_setPanel (s : Composer) (on : Bool) :
    Speaks s ((s.setMode .mipiOn on).setMipiOn on) := speaks_of_log rfl rfl

theorem announces_mipiOffNotAllowed (s : Composer) : Announces s s.mipiOffNotAllowed := by
  have hcall : Speaks s (if checkMode s.mMode .mipiOn = false then
      (s.setMipiPolicy mdsMipiOffNotAllowed).call (.mipiSetMode true)
      else s.setMipiPolicy mdsMipiOffNotAllowed) := by
    have hpolicy : Speaks s (s.setMipiPolicy mdsMipiOffNotAllowed) := speaks_of_log rfl rfl
    split
    · exact hpolicy.trans (speaks_call _ rfl)
    · exact hpolicy
  rw [mipiOffNotAllowed_eq]
  exact (hcall.trans (speaks_setPanel _ true)).announces (announces_broadcastMode _)

theorem announces_mipiOffAllowed (s : Composer) : Announces s s.mipiOffAllowed := by
  have hcall : Speaks s (if checkMode s.mMode .mipiOn = true then
      (s.setMipiPolicy mdsMipiOffAllowed).call (.mipiSetMode false)
      else s.setMipiPolicy mdsMipiOffAllowed) := by
    have hpolicy : Speaks s (s.setMipiPolicy mdsMipiOffAllowed) := speaks_of_log rfl rfl
    split
    · exact hpolicy.trans (speaks_call _ rfl)
    · exact hpolicy
  rw [mipiOffAllowed_eq]
  exact (hcall.trans (speaks_setPanel _ false)).announces (announces_broadcastMode _)

theorem repeats_mipiSetMode (s : Composer) (on on' : Bool) :
    Repeats s (((s.call (.mipiSetMode on)).setMode .mipiOn on).setMipiOn on') := by
  have hlog : (((s.call (.mipiSetMode on)).setMode .mipiOn on).setMipiOn on').device.log
      = s.device.log ++ [.mipiSetMode on] := rfl
  refine repeats_of_plain rfl hlog fun e he => ?_
  rw [List.mem_singleton.mp he]
  rfl

theorem repeats_setMipiModeL (s : Composer) (on : Bool) : Repeats s (s.setMipiModeL on).2 := by
  unfold setMipiModeL
  split_ifs
  · exact repeats_of_log rfl rfl
  · exact repeats_mipiSetMode s true on
  · exact repeats_broadcastMode s
  · exact repeats_mipiSetMode s false on
  · exact repeats_of_log rfl rfl
  · exact repeats_mipiSetMode s false on

/-- The mode stays, or there is a request that changes it and is told to nobody. -/
def Unannounced (s : Composer) : Request → Prop
  | .widi on => checkMode s.mMode .widiOn ≠ on
  | .mipiMode true => s.mMipiOn = false ∧ checkMode s.mMode .mipiOn = false
  | .mipiMode false => s.mMipiOn = true ∧ checkMode s.mMode .mipiOn = true ∧
      (s.mWidiVideoExt = false →
        checkMode s.mMode .hdmiVideoExt = true ∧ s.mMipiPolicy = mdsMipiOffAllowed)
  | _ => False

theorem setMipiModeL_mode_ne_iff (s : Composer) (on : Bool) :
    (s.setMipiModeL on).2.mMode ≠ s.mMode ↔ Unannounced s (.mipiMode on) := by
  have hset : ∀ on', setFlag s.mMode .mipiOn on' ≠ s.mMode ↔ checkMode s.mMode .mipiOn ≠ on' :=
    fun on' => not_congr (setFlag_eq_self_iff s.mMode .mipiOn on')
  unfold setMipiModeL
  cases on with
  | true =>
    show _ ↔ (s.mMipiOn = false ∧ checkMode s.mMode .mipiOn = false)
    by_cases hsame : s.mMipiOn = true
    · rw [if_pos hsame, hsame]
      exact ⟨fun h => absurd rfl h, fun h => absurd h.1.symm Bool.false_ne_true⟩
    · rw [if_neg hsame, if_pos rfl]
      rw [Bool.not_eq_true] at hsame
      rw [and_iff_right hsame, ← Bool.not_eq_true]
      exact hset true
  | false =>
    show _ ↔ (s.mMipiOn = true ∧ checkMode s.mMode .mipiOn = true ∧ (s.mWidiVideoExt = false →
      checkMode s.mMode .hdmiVideoExt = true ∧ s.mMipiPolicy = mdsMipiOffAllowed))
    by_cases hsame : s.mMipiOn = false
    · rw [if_pos hsame, hsame]
      exact ⟨fun h => absurd rfl h, fun h => absurd h.1 Bool.false_ne_true⟩
    rw [if_neg hsame, if_neg Bool.false_ne_true]
    rw [Bool.not_eq_false] at hsame
    rw [and_iff_right hsame, ← Bool.not_eq_false (checkMode s.mMode .mipiOn)]
    by_cases hwidi : s.mWidiVideoExt = false
    · rw [if_pos hwidi]
      by_cases hext : checkMode s.mMode .hdmiVideoExt = false
      · rw [if_pos hext, hext]
        exact ⟨fun h => absurd rfl h, fun h => absurd (h.2 hwidi).1 Bool.false_ne_true⟩
      rw [if_neg hext]
      rw [Bool.not_eq_false] at hext
      by_cases hpolicy : s.mMipiPolicy = mdsMipiOffAllowed
      · simp only [if_pos hpolicy]
        exact (hset false).trans ⟨fun h => ⟨h, fun _ => ⟨hext, hpolicy⟩⟩, fun h => h.1⟩
      · simp only [if_neg hpolicy]
        exact ⟨fun h => absurd rfl h, fun h => absurd (h.2 hwidi).2 hpolicy⟩
    · rw [if_neg hwidi]
      exact (hset false).trans ⟨fun h => ⟨h, fun h' => absurd h' hwidi⟩, fun h => h.1⟩

/-- **What a request says.** -/
theorem Performs.speech (h : Performs b s t q) (ho : ∃ o : Output, o.Shown s.mMode) :
    (Announces s t ∧ ¬Unannounced s q) ∨
      (Repeats s t ∧ (t.mMode ≠ s.mMode ↔ Unannounced s q)) ∨
      (q = .listeners ∧ t.mMode = s.mMode ∧ t.device.log = s.device.log ∧
        ∀ handle, t.mListener.lookup handle = s.mListener.lookup handle ∨
          t.mListener.lookup handle = none ∨ s.mListener.lookup handle = none) := by
  cases h with
  | nothing quiet =>
    exact Or.inr (Or.inl ⟨quiet.repeats, fun h => absurd quiet.mode h, fun h => h.elim⟩)
  | listeners m eq registered =>
    rw [eq]
    exact Or.inr (Or.inr ⟨rfl, rfl, rfl, registered⟩)
  | hdmi r policy video u _ quiet set =>
    obtain ⟨o, ho⟩ := ho
    have hset := set o (quiet.mode.symm ▸ ho)
    have hannounces := quiet.repeats.speaks.announces hset.announces
    exact Or.inl ⟨⟨hannounces.listener, hannounces.told⟩, fun h => h.elim⟩
  | mipiPolicy allowed eq =>
    rw [eq]
    cases allowed with
    | true => exact Or.inl ⟨announces_mipiOffAllowed s, fun h => h.elim⟩
    | false => exact Or.inl ⟨announces_mipiOffNotAllowed s, fun h => h.elim⟩
  | widi on eq =>
    rw [eq]
    exact Or.inr (Or.inl ⟨repeats_of_log rfl rfl,
      not_congr (setFlag_eq_self_iff s.mMode .widiOn on)⟩)
  | mipiMode on eq =>
    rw [eq]
    exact Or.inr (Or.inl ⟨repeats_setMipiModeL s on, setMipiModeL_mode_ne_iff s on⟩)

end

/-! ### Since its registration -/

/-- The service, with what has happened to the listener under each handle: whether the mode has
changed since it was registered, and how many calls there were before. -/
structure Watched where
  state : MdsState
  changed : Handle → Bool
  since : Handle → ℕ

/-- The listener under this handle has just been registered. -/
def isNew (s t : Composer) (handle : Handle) : Bool :=
  (s.mListener.lookup handle).isNone && (t.mListener.lookup handle).isSome

def watchedStep (b : Build) (w : Watched) (a : MdsAction) : Option Watched :=
  (step b w.state a).map fun t =>
    { state := t
      changed := fun handle =>
        if isNew w.state.composer t.composer handle then false
        else w.changed handle || decide (t.composer.mMode ≠ w.state.composer.mMode)
      since := fun handle =>
        if isNew w.state.composer t.composer handle then w.state.composer.device.log.length
        else w.since handle }

def watched (b : Build) (boot : Boot) : Runs.System Watched MdsAction :=
  ⟨⟨(mds b boot).init, fun _ => false, fun _ => 0⟩, watchedStep b⟩

def MdsMessage.mode : MdsMessage → Option Mode
  | .modeChange mode => some mode
  | .setVideoStatus _ => none

/-- The modes that a listener has been told since it was registered. -/
def Watched.told (w : Watched) (handle : Handle) (listener : ListenerRef) : List Mode :=
  ((w.state.composer.device.log.drop (w.since handle)).filterMap
    (Effect.deliveredTo handle listener)).filterMap MdsMessage.mode

/-- A registered listener that has subscribed to `MDS_MODE_CHANGE`. -/
structure Listens (s : Composer) (handle : Handle) (l : MultiDisplayListener)
    (listener : ListenerRef) : Prop where
  registered : s.mListener.lookup handle = some l
  subscribed : l.checkMsg mdsModeChange = true
  ref : l.mIEListener = some listener

/-- A listener that has seen the mode change was last told the mode. -/
def ListenersAgree (w : Watched) : Prop :=
  ∀ handle l listener, Listens w.state.composer handle l listener → w.changed handle = true →
    (w.told handle listener).getLast? = some w.state.composer.mMode

/-- The mode is changed without a broadcast only if nobody listens. -/
def TellsChanges (s : Composer) (q : Request) : Prop :=
  Unannounced s q → ∀ handle l listener, ¬Listens s handle l listener

/-- No more than the mode has been told, and since a change at least that. -/
structure UpToDate (mode : Mode) (changed : Bool) (told : List Mode) : Prop where
  last : told = [] ∨ told.getLast? = some mode
  changed : changed = true → told.getLast? = some mode

/-- What is known about the listeners of a running service. -/
structure Watches (w : Watched) : Prop where
  shown : ∃ o : Output, o.Shown w.state.composer.mMode
  since : ∀ handle l listener, Listens w.state.composer handle l listener →
    w.since handle ≤ w.state.composer.device.log.length
  upToDate : ∀ handle l listener, Listens w.state.composer handle l listener →
    UpToDate w.state.composer.mMode (w.changed handle) (w.told handle listener)

section

variable {mode : Mode} {changed : Bool} {told new : List Mode}

theorem UpToDate.append (h : UpToDate mode changed told) (hnew : ∀ m ∈ new, m = mode) :
    UpToDate mode changed (told ++ new) := by
  rcases List.eq_nil_or_concat new with rfl | ⟨rest, m, rfl⟩
  · rw [List.append_nil]
    exact h
  · have hlast : (told ++ (rest ++ [m])).getLast? = some mode := by
      rw [← List.append_assoc, List.getLast?_concat, hnew m (by simp)]
    rw [List.concat_eq_append]
    exact ⟨Or.inr hlast, fun _ => hlast⟩

/-- A list that tells of one mode does not tell of another. -/
theorem UpToDate.not_last (h : UpToDate mode changed told) {mode' : Mode} (hne : mode' ≠ mode) :
    told.getLast? ≠ some mode' := by
  rcases h.last with rfl | hlast
  · exact (Option.some_ne_none mode').symm
  · rw [hlast]
    exact fun h => hne (Option.some.inj h).symm

end

section

variable {b : Build} {w v : Watched} {a : MdsAction}

/-- **A subscriber** gets the modes of all broadcasts. -/
theorem Told.modes {listeners : Listeners} {new : List Effect} (h : Told listeners new)
    {handle : Handle} {l : MultiDisplayListener} {listener : ListenerRef}
    (hlookup : listeners.lookup handle = some l) (hsub : l.checkMsg mdsModeChange = true)
    (href : l.mIEListener = some listener) :
    (new.filterMap (Effect.deliveredTo handle listener)).filterMap MdsMessage.mode
      = new.filterMap Effect.broadcastMode := by
  rw [h.delivered hlookup href, List.filterMap_filterMap]
  congr 1
  funext e
  cases e with
  | broadcast message =>
    cases message with
    | modeChange mode => exact (congrArg (Option.bind · MdsMessage.mode) (if_pos hsub))
    | setVideoStatus status =>
      show (if _ then _ else _ : Option MdsMessage).bind MdsMessage.mode = none
      split <;> rfl
  | _ => rfl

theorem watchedStep_eq (hst : watchedStep b w a = some v) : step b w.state a = some v.state ∧
    (∀ handle, isNew w.state.composer v.state.composer handle = false →
      v.changed handle = (w.changed handle ||
        decide (v.state.composer.mMode ≠ w.state.composer.mMode)) ∧
      v.since handle = w.since handle) ∧
    ∀ handle, isNew w.state.composer v.state.composer handle = true →
      v.changed handle = false ∧ v.since handle = w.state.composer.device.log.length := by
  obtain ⟨t, ht, rfl⟩ := Option.map_eq_some_iff.mp hst
  refine ⟨ht, fun handle hold => ⟨?_, ?_⟩, fun handle hnew => ⟨?_, ?_⟩⟩
  · exact if_neg (Bool.eq_false_iff.mp hold)
  · exact if_neg (Bool.eq_false_iff.mp hold)
  · exact if_pos hnew
  · exact if_pos hnew

/-- The same listener has been told some more modes. -/
theorem told_append (hw : Watches w) {new : List Effect} {handle : Handle}
    {l : MultiDisplayListener} {listener : ListenerRef}
    (hl : Listens w.state.composer handle l listener)
    (hlog : v.state.composer.device.log = w.state.composer.device.log ++ new)
    (htold : Told w.state.composer.mListener new) (hsince : v.since handle = w.since handle) :
    v.told handle listener = w.told handle listener ++ new.filterMap Effect.broadcastMode := by
  unfold Watched.told
  rw [hlog, hsince, List.drop_append_of_le_length (hw.since handle l listener hl),
    List.filterMap_append, List.filterMap_append, htold.modes hl.registered hl.subscribed hl.ref]

theorem isNew_of_registered {s t : Composer} {handle : Handle} {l : MultiDisplayListener}
    (h : s.mListener.lookup handle = some l) : isNew s t handle = false := by
  unfold isNew
  rw [h]
  rfl

theorem Watches.agree (h : Watches w) : ListenersAgree w := fun handle l listener hl =>
  (h.upToDate handle l listener hl).changed

/-- The registrations are the same, and the listeners were told something. -/
theorem watches_of_told (hw : Watches w) (hst : watchedStep b w a = some v)
    (hlistener : v.state.composer.mListener = w.state.composer.mListener) {new : List Effect}
    (hlog : v.state.composer.device.log = w.state.composer.device.log ++ new)
    (htold : Told w.state.composer.mListener new)
    (h : ∀ handle l listener, Listens w.state.composer handle l listener →
      UpToDate v.state.composer.mMode (v.changed handle)
        (w.told handle listener ++ new.filterMap Effect.broadcastMode)) : Watches v := by
  obtain ⟨hstep, hold, -⟩ := watchedStep_eq hst
  have hlistens : ∀ {handle l listener}, Listens v.state.composer handle l listener →
      Listens w.state.composer handle l listener := fun hl =>
    ⟨hlistener ▸ hl.registered, hl.subscribed, hl.ref⟩
  refine ⟨(step_performs hstep).shown hw.shown, fun handle l listener hl => ?_,
    fun handle l listener hl => ?_⟩
  · have hl := hlistens hl
    rw [(hold handle (isNew_of_registered hl.registered)).2, hlog, List.length_append]
    exact Nat.le_add_right_of_le (hw.since handle l listener hl)
  · have hl := hlistens hl
    rw [told_append hw hl hlog htold (hold handle (isNew_of_registered hl.registered)).2]
    exact h handle l listener hl

/-- Only the registrations have changed. -/
theorem watches_of_listeners (hw : Watches w) (hst : watchedStep b w a = some v)
    (hmode : v.state.composer.mMode = w.state.composer.mMode)
    (hlog : v.state.composer.device.log = w.state.composer.device.log)
    (hregistered : ∀ handle, v.state.composer.mListener.lookup handle
        = w.state.composer.mListener.lookup handle ∨
      v.state.composer.mListener.lookup handle = none ∨
      w.state.composer.mListener.lookup handle = none) : Watches v := by
  obtain ⟨hstep, hold, hnew⟩ := watchedStep_eq hst
  have hcases : ∀ {handle l listener}, Listens v.state.composer handle l listener →
      Listens w.state.composer handle l listener ∨
        isNew w.state.composer v.state.composer handle = true := by
    intro handle l listener hl
    rcases hregistered handle with hsame | hnone | hnone
    · exact Or.inl ⟨hsame.symm.trans hl.registered, hl.subscribed, hl.ref⟩
    · exact absurd (hnone.symm.trans hl.registered) (Option.some_ne_none l).symm
    · refine Or.inr ?_
      unfold isNew
      rw [hnone, hl.registered]
      rfl
  refine ⟨(step_performs hstep).shown hw.shown, fun handle l listener hl => ?_,
    fun handle l listener hl => ?_⟩
  · rcases hcases hl with hl | hn
    · rw [(hold handle (isNew_of_registered hl.registered)).2, hlog]
      exact hw.since handle l listener hl
    · rw [(hnew handle hn).2, hlog]
  · rcases hcases hl with hl | hn
    · obtain ⟨hchanged, hsince⟩ := hold handle (isNew_of_registered hl.registered)
      have htold : v.told handle listener = w.told handle listener := by
        unfold Watched.told
        rw [hlog, hsince]
      rw [hchanged, htold, hmode, decide_eq_false (not_not.mpr rfl), Bool.or_false]
      exact hw.upToDate handle l listener hl
    · have htold : v.told handle listener = [] := by
        unfold Watched.told
        rw [(hnew handle hn).2, hlog, List.drop_length]
        rfl
      rw [(hnew handle hn).1, htold]
      exact ⟨Or.inl rfl, fun h => absurd h Bool.false_ne_true⟩

/-- **A step keeps the listeners up to date** exactly under its condition. -/
theorem watchedStep_agree (hw : Watches w) (hst : watchedStep b w a = some v) :
    (TellsChanges w.state.composer (w.state.request a) → Watches v) ∧
      (ListenersAgree v ↔ TellsChanges w.state.composer (w.state.request a)) := by
  obtain ⟨hstep, hold, -⟩ := watchedStep_eq hst
  rcases (step_performs hstep).speech hw.shown with
    ⟨⟨hlistener, new, hlog, htold, hlast⟩, hannounced⟩ |
    ⟨⟨hlistener, new, hlog, htold, hsame⟩, hchanges⟩ | ⟨hq, hmode, hlog, hregistered⟩
  · have hv : Watches v := by
      refine watches_of_told hw hst hlistener hlog htold fun handle l listener hl => ?_
      have htold : (w.told handle listener ++ new.filterMap Effect.broadcastMode).getLast?
          = some v.state.composer.mMode := by
        rw [List.getLast?_append, hlast]
        rfl
      exact ⟨Or.inr htold, fun _ => htold⟩
    exact ⟨fun _ => hv, fun _ h => absurd h hannounced, fun _ => hv.agree⟩
  · have hlistens : ∀ {handle l listener}, Listens w.state.composer handle l listener →
        Listens v.state.composer handle l listener := fun hl =>
      ⟨hlistener.symm ▸ hl.registered, hl.subscribed, hl.ref⟩
    have hv : TellsChanges w.state.composer (w.state.request a) → Watches v := by
      intro htells
      refine watches_of_told hw hst hlistener hlog htold fun handle l listener hl => ?_
      have hmode : v.state.composer.mMode = w.state.composer.mMode := by
        by_contra hne
        exact htells (hchanges.mp hne) handle l listener hl
      rw [(hold handle (isNew_of_registered hl.registered)).1, hmode,
        decide_eq_false (not_not.mpr rfl), Bool.or_false]
      exact (hw.upToDate handle l listener hl).append hsame
    refine ⟨hv, fun hagree hunannounced handle l listener hl => ?_, fun h => (hv h).agree⟩
    -- A listener that was not told the new mode.
    have hne := hchanges.mpr hunannounced
    obtain ⟨hchanged, hsince⟩ := hold handle (isNew_of_registered hl.registered)
    have htrue : v.changed handle = true := by
      rw [hchanged, decide_eq_true hne, Bool.or_true]
    have hlast := hagree handle l listener (hlistens hl) htrue
    rw [told_append hw hl hlog htold hsince] at hlast
    exact ((hw.upToDate handle l listener hl).append hsame).not_last hne hlast
  · have hv := watches_of_listeners hw hst hmode hlog hregistered
    have htells : TellsChanges w.state.composer (w.state.request a) := by
      rw [hq]
      exact fun h => h.elim
    exact ⟨fun _ => hv, fun _ => htells, fun _ => hv.agree⟩

end

/-- **Only registrations** change the listeners. -/
theorem Performs.listener {b : Build} {s t : Composer} {q : Request} (h : Performs b s t q)
    (ho : ∃ o : Output, o.Shown s.mMode) (hq : q ≠ .listeners) : Speaks s t := by
  rcases h.speech ho with ⟨hannounces, -⟩ | ⟨hrepeats, -⟩ | ⟨hlisteners, -⟩
  · exact hannounces.speaks
  · exact hrepeats.speaks
  · exact absurd hlisteners hq

/-- Nobody is registered at first. -/
theorem construct_mListener (b : Build) (boot : Boot) (handle : Handle) :
    (construct b boot).mListener.lookup handle = none := by
  have hinv := construct_invariant b boot (fun _ q => q ≠ .listeners)
    (I := fun s => (∃ o : Output, o.Shown s.mMode) ∧ s.mListener = KeyedVector.empty)
    ⟨⟨.unplugged, Output.shown_zero⟩, rfl⟩ (fun _ => Request.noConfusion)
    (fun _ => Request.noConfusion) (fun _ _ _ => Request.noConfusion)
    fun ⟨ho, hs⟩ hq hp => ⟨hp.shown ho, (hp.listener ho hq).listener.trans hs⟩
  rw [hinv.2]
  exact KeyedVector.lookup_empty handle

theorem watches_init (b : Build) (boot : Boot) : Watches (watched b boot).init := by
  have hnone : ∀ {handle l listener}, ¬Listens (construct b boot) handle l listener :=
    fun hl => absurd ((construct_mListener b boot _).symm.trans hl.registered)
      (Option.some_ne_none _).symm
  exact ⟨(construct_panelOnTold b boot).1, fun _ _ _ hl => (hnone hl).elim,
    fun _ _ _ hl => (hnone hl).elim⟩

/-- **The listeners agree with the service** in every run that changes the mode of no listener
without a broadcast; any other step makes one disagree. -/
theorem listenersAgree_of_run {b : Build} {boot : Boot} {w : Watched}
    (h : Runs.Reaches (watched b boot)
      (fun w a => TellsChanges w.state.composer (w.state.request a)) w) :
    ListenersAgree w ∧ ∀ a v, watchedStep b w a = some v →
      (ListenersAgree v ↔ TellsChanges w.state.composer (w.state.request a)) := by
  have hw : Watches w := h.invariant (watches_init b boot)
    fun hw hok hst => (watchedStep_agree hw hst).1 hok
  exact ⟨hw.agree, fun a v hst => (watchedStep_agree hw hst).2⟩

theorem tellsChanges_of_not {s : Composer} {q : Request} (h : ¬Unannounced s q) :
    TellsChanges s q := fun hq => absurd hq h

/-- A listener is registered, then the cable is plugged in. -/
theorem listenersAgree_of_run_hotPlug : ∃ w : Watched, w.changed 1 = true ∧
    (w.told 1 7).getLast? = some w.state.composer.mMode := by
  have hregister : Runs.Reaches (watched ⟨true, true⟩ (Boot.simple drmHdmiDisconnected))
      (fun w a => TellsChanges w.state.composer (w.state.request a)) _ :=
    .step (a := .call (.registerListener (some 7) 1 (some []) mdsModeChange)
      (DrmResults.simple drmHdmiDisconnected true)) .init
      (tellsChanges_of_not (q := .listeners) False.elim) rfl
  have hplug := hregister.step (a := .call .notifyHotPlug (DrmResults.simple drmHdmiConnected true))
    (tellsChanges_of_not (q := .hdmi _ _ _) False.elim) rfl
  exact ⟨_, rfl,
    (listenersAgree_of_run hplug).1 1 ⟨mdsModeChange, [], some 7⟩ 7 ⟨rfl, rfl, rfl⟩ rfl⟩

/-- A listener is registered, then WiDi starts. -/
theorem listener_is_not_told : ¬∀ (b : Build) (boot : Boot) (w : Watched),
    Runs.Reachable (watched b boot) w → ListenersAgree w := by
  intro h
  have hregister : Runs.Reachable (watched ⟨true, true⟩ (Boot.simple drmHdmiDisconnected)) _ :=
    .step (a := .call (.registerListener (some 7) 1 (some []) mdsModeChange)
      (DrmResults.simple drmHdmiDisconnected true)) .init trivial rfl
  have hwidi := hregister.next
    (a := .call (.notifyWidi true) (DrmResults.simple drmHdmiDisconnected true)) rfl
  have htold := h _ _ _ hwidi 1 ⟨mdsModeChange, [], some 7⟩ 7 ⟨rfl, rfl, rfl⟩ rfl
  exact absurd htold (by decide)

end CtpCommon.Display
