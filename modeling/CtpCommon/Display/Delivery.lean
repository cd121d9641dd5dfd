import CtpCommon.Display.Service

/-!
# The timings that are delivered

A timing for HWC comes from `drm_hdmi_getTiming`, whose result the composer does not look at.

* `Delivery.Meaningful` — a mode of the connected connector, or the mode last chosen for the sink;
* `Kept` — what holds of the context at any time;
* `Plugged`, `getTiming_meaningful` — **PROVED**: once a sink was found, every timing is meaningful;
* `ChoosesConnected` — a mode is chosen while a sink is connected, or nobody gets the timing;
* `next_delivers` — **PROVED**: what one step delivers;
* `timings_meaningful` — **PROVED**: all that a run delivers is meaningful as long as modes are
  chosen while a sink is connected, and the first timing after any other choice is not.
-/

namespace CtpCommon.Display

open Composer

/-! ### Meaningful timings -/

/-- A timing for the connected output: of one of its modes, or the one last chosen for the sink. -/
inductive Delivery.Meaningful (d : Delivery) : Prop
  | mode (connected : d.context.connected = true) (connector : DrmConnector)
      (kept : d.context.hdmiConnector = some connector) (mode : DrmModeModeInfo)
      (mem : mode ∈ connector.modes) (eq : d.timing = mode.setTiming)
  | chosen (connected : d.context.connected = true) (eq : d.chosen = some d.timing)

theorem Delivery.Meaningful.connected {d : Delivery} (h : d.Meaningful) :
    d.context.connected = true := by
  cases h with
  | mode connected => exact connected
  | chosen connected => exact connected

/-- HDMI is supported while a sink is connected, and a valid mode is the one last chosen for it. -/
structure Kept (c : DrmContext) (chosen : List UInt8 → Option MdsHdmiTiming) : Prop where
  supported : c.connected = true → c.hdmiSupported = true
  remembers : c.modeValid = true → chosen c.productInfo = some c.modeSelected

/-- A sink was found. -/
structure Plugged (c : DrmContext) : Prop where
  supported : c.hdmiSupported = true
  connected : c.connected = true
  connector : ∃ connector, c.hdmiConnector = some connector ∧ connector.modes ≠ [] ∧
    c.preferredModeIndex = preferredIndex connector.modes

section

variable {resources : DrmResources} {c : DrmContext} {connector : DrmConnector}
  {chosen : List UInt8 → Option MdsHdmiTiming}

/-! ### The context from call to call -/

theorem getHdmiConnector_eq_some (h : (getHdmiConnector resources c).1 = some connector) :
    (getHdmiConnector resources c).2.hdmiConnector = some connector ∧ connector.modes ≠ [] := by
  obtain ⟨hconnector, hmodes⟩ := Option.filter_eq_some_iff.mp h
  exact ⟨hconnector, of_decide_eq_true hmodes⟩

theorem noteSink_hdmiConnector (info : List UInt8) (c : DrmContext) :
    (c.noteSink info).hdmiConnector = c.hdmiConnector ∧
      (c.noteSink info).hdmiSupported = c.hdmiSupported ∧ (c.noteSink info).connected = true := by
  unfold DrmContext.noteSink
  split
  · exact ⟨rfl, rfl, rfl⟩
  · exact ⟨rfl, rfl, rfl⟩

/-- A new sink forgets the mode; the old one has it still. -/
theorem Kept.noteSink (h : Kept c chosen) (hsupported : c.hdmiSupported = true)
    (info : List UInt8) : Kept (c.noteSink info) chosen := by
  unfold DrmContext.noteSink
  split
  · exact ⟨fun _ => hsupported, fun h' => absurd h' Bool.false_ne_true⟩
  · exact ⟨fun _ => hsupported, h.remembers⟩

/-- **The state of the cable** as it is found. -/
theorem drmHdmiGetConnectionStatus_cases (resources : DrmResources) (c : DrmContext) :
    (c.hdmiSupported = false ∧
      drmHdmiGetConnectionStatus resources c = ⟨drmHdmiDisconnected, [], c⟩) ∨
    (c.hdmiSupported = true ∧
      drmHdmiGetConnectionStatus resources c = ⟨drmHdmiDisconnected, [],
        (getHdmiConnector resources { c with hdmiConnector := none, connected := false }).2⟩) ∨
    (c.hdmiSupported = true ∧ ∃ connector data, validEdid connector = some data ∧
      (getHdmiConnector resources { c with hdmiConnector := none, connected := false }).1
        = some connector ∧
      drmHdmiGetConnectionStatus resources c = ⟨(sinkStatus data).1,
        List.range' productInfoOffset edidProductInfoLen ++ (sinkStatus data).2,
        drmSelectPreferredmode connector
          ((getHdmiConnector resources
            { c with hdmiConnector := none, connected := false }).2.noteSink
              (productInfo data))⟩) := by
  unfold drmHdmiGetConnectionStatus
  by_cases hsupported : c.hdmiSupported = false
  · exact Or.inl ⟨hsupported, if_pos hsupported⟩
  refine Or.inr ?_
  rw [if_neg hsupported]
  generalize getHdmiConnector resources { c with hdmiConnector := none, connected := false } = found
  obtain ⟨connector, c'⟩ := found
  have htrue := Bool.eq_true_of_not_eq_false hsupported
  cases connector with
  | none => exact Or.inl ⟨htrue, rfl⟩
  | some connector =>
    cases hvalid : validEdid connector with
    | none =>
      refine Or.inl ⟨htrue, ?_⟩
      simp only [hvalid]
    | some data =>
      refine Or.inr ⟨htrue, connector, data, hvalid, rfl, ?_⟩
      simp only [hvalid]

theorem Kept.getConnectionStatus (h : Kept c chosen) (resources : DrmResources) :
    Kept (drmHdmiGetConnectionStatus resources c).context chosen := by
  rcases drmHdmiGetConnectionStatus_cases resources c with
    ⟨-, heq⟩ | ⟨hsupported, heq⟩ | ⟨hsupported, connector, data, -, -, heq⟩
  · rw [heq]
    exact h
  · rw [heq]
    exact ⟨fun _ => hsupported, h.remembers⟩
  · rw [heq]
    have hreset : Kept (getHdmiConnector resources
        { c with hdmiConnector := none, connected := false }).2 chosen :=
      ⟨fun _ => hsupported, h.remembers⟩
    have hnoted := hreset.noteSink hsupported (productInfo data)
    exact ⟨hnoted.supported, hnoted.remembers⟩

/-- **A sink that was found** is the one of the context. -/
theorem plugged_of_status
    (h : (drmHdmiGetConnectionStatus resources c).status ≠ drmHdmiDisconnected) :
    Plugged (drmHdmiGetConnectionStatus resources c).context := by
  rcases drmHdmiGetConnectionStatus_cases resources c with
    ⟨-, heq⟩ | ⟨-, heq⟩ | ⟨hsupported, connector, data, -, hconnector, heq⟩
  · rw [heq] at h
    exact absurd rfl h
  · rw [heq] at h
    exact absurd rfl h
  · rw [heq]
    obtain ⟨hkept, hmodes⟩ := getHdmiConnector_eq_some hconnector
    have hnoted := noteSink_hdmiConnector (productInfo data)
      (getHdmiConnector resources { c with hdmiConnector := none, connected := false }).2
    exact ⟨hnoted.2.1.trans hsupported, hnoted.2.2, connector, hnoted.1.trans hkept, hmodes, rfl⟩

/-- The mode that a client chooses, for the sink that is connected. -/
theorem Kept.setModeInfo (h : Kept c chosen) (timing : MdsHdmiTiming) :
    Kept (drmHdmiSetModeInfo timing c).2
      (if c.connected then Function.update chosen c.productInfo (some timing.stored)
        else chosen) := by
  unfold drmHdmiSetModeInfo
  by_cases hconnected : c.connected = true
  · have hsupported := h.supported hconnected
    rw [if_pos hconnected, if_neg (by simp [hsupported, hconnected])]
    exact ⟨fun _ => hsupported, fun _ => Function.update_self _ _ _⟩
  · rw [if_neg hconnected, if_pos (Or.inr (Bool.eq_false_iff.mpr hconnected))]
    exact h

theorem Kept.getModeInfo (h : Kept c chosen) (p : ModePointers) :
    Kept (drmHdmiGetModeInfoArrays resources p c).2 chosen := by
  unfold drmHdmiGetModeInfoArrays
  split
  · exact h
  · have hsame : Kept (getHdmiConnector resources c).2 chosen := ⟨h.supported, h.remembers⟩
    split
    · rename_i c' heq
      rw [heq] at hsame
      exact hsame
    · rename_i connector c' heq
      rw [heq] at hsame
      split
      · exact ⟨hsame.supported, hsame.remembers⟩
      · exact hsame

theorem Kept.isDeviceChanged (h : Kept c chosen) (reset : Bool) :
    Kept (drmHdmiIsDeviceChanged reset c).2 chosen := by
  cases reset with
  | false => exact h
  | true => exact ⟨h.supported, h.remembers⟩

/-! ### A timing of the context -/

/-- The matched modes are modes of the list. -/
theorem matchModes_sublist (resolution : Int × Int) (modes : List DrmModeModeInfo)
    (i numMatched : ℕ) :
    List.Sublist (matchModes resolution modes i numMatched) (modes.zipIdx i) := by
  induction modes generalizing i numMatched with
  | nil => exact List.Sublist.refl _
  | cons mode rest ih =>
    rw [matchModes, List.zipIdx_cons]
    by_cases hmode : mode.hasResolution resolution = true
    · rw [if_pos hmode]
      split
      · exact List.Sublist.cons_cons _ (List.nil_sublist _)
      · exact List.Sublist.cons_cons _ (ih _ _)
    · rw [if_neg hmode]
      split
      · exact List.nil_sublist _
      · exact List.Sublist.cons _ (ih _ _)

theorem drmHdmiSetTiming_mem {modes : List DrmModeModeInfo} {index : ℕ}
    (h : index < modes.length) :
    ∃ mode ∈ modes, drmHdmiSetTiming modes index = mode.setTiming :=
  ⟨modes[index], List.getElem_mem h, drmHdmiSetTiming_of_lt h⟩

/-- **The timing for a video** is one of the connector's. -/
theorem videoTiming_mem {modes : List DrmModeModeInfo} {index : ℕ} (h : index < modes.length)
    (info : MdsHdmiTiming) : ∃ mode ∈ modes, videoTiming modes index info = mode.setTiming := by
  unfold videoTiming
  cases hmatched : matchModes (selectedResolution info) modes 0 0 with
  | nil => exact drmHdmiSetTiming_mem h
  | cons first rest =>
    have htaken := (chooseModes_taken (BitVec.ofInt 32 info.refresh) first rest).mem
    have hsublist := matchModes_sublist (selectedResolution info) modes 0 0
    rw [hmatched] at hsublist
    have hget := List.mem_zipIdx_iff_getElem?.mp (hsublist.subset htaken)
    exact drmHdmiSetTiming_mem (List.getElem?_eq_some_iff.mp hget).1

theorem drmHdmiGetTiming_of_modeValid (hsupported : c.hdmiSupported = true)
    (hconnected : c.connected = true) (hvalid : c.modeValid = true) (mode : Int)
    (info : MdsHdmiTiming) :
    drmHdmiGetTiming resources mode info c = (true, c.modeSelected, c) := by
  unfold drmHdmiGetTiming
  rw [if_neg (by simp [hsupported, hconnected]), if_pos hvalid]

/-- **Once a sink was found** every timing is meaningful. -/
theorem getTiming_meaningful (hkept : Kept c chosen) (hplugged : Plugged c)
    (resources : DrmResources) (mode : Int) (info : MdsHdmiTiming) :
    (⟨(drmHdmiGetTiming resources mode info c).2.1, c, chosen c.productInfo⟩ :
      Delivery).Meaningful := by
  obtain ⟨hsupported, hconnected, connector, hconnector, hmodes, hindex⟩ := hplugged
  cases hvalid : c.modeValid with
  | true =>
    rw [drmHdmiGetTiming_of_modeValid hsupported hconnected hvalid]
    exact .chosen hconnected (hkept.remembers hvalid)
  | false =>
    have hget : getHdmiConnector resources c = (some connector, c) :=
      getHdmiConnector_of_some hconnector hmodes
    have hlt : c.preferredModeIndex < connector.modes.length :=
      hindex ▸ preferredIndex_lt hmodes
    rw [drmHdmiGetTiming_of_connected hsupported hconnected hvalid (congrArg Prod.fst hget)]
    dsimp only
    split
    · obtain ⟨m, hm, heq⟩ := drmHdmiSetTiming_mem hlt
      exact .mode hconnected connector hconnector m hm heq
    · obtain ⟨m, hm, heq⟩ := videoTiming_mem hlt info
      exact .mode hconnected connector hconnector m hm heq

end

/-! ### The calls of a step -/

section

variable {e : Environment} {t : Tracked} {call : Effect} {calls : List Effect}

theorem Kept.follow (h : Kept t.context t.chosen) (e : Environment) (call : Effect) :
    Kept (e.follow t call).context (e.follow t call).chosen := by
  cases call with
  | onHdmiDisconnected => exact ⟨fun h' => absurd h' Bool.false_ne_true, h.remembers⟩
  | hdcpEnable =>
    show Kept (if _ then _ else _) t.chosen
    split
    · exact h.getConnectionStatus _
    · exact h
  | setModeInfo timing => exact h.setModeInfo timing
  | mipiSetMode | setHdmiVideoOn | setHdmiVideoOff | setHdmiPowerOff | notifyAudioHotplug
  | displayIed | hdcpDisable | broadcast | onMdsMessage | setTiming | scalingSetting => exact h

theorem Kept.foldl (h : Kept t.context t.chosen) (e : Environment) (calls : List Effect) :
    Kept (calls.foldl e.follow t).context (calls.foldl e.follow t).chosen := by
  induction calls generalizing t with
  | nil => exact h
  | cons call calls ih => exact ih (h.follow e call)

theorem follow_of_isPlain (h : call.isPlain = true) : e.follow t call = t := by
  cases call <;> first | rfl | exact absurd h Bool.false_ne_true

theorem foldl_of_isPlain (h : ∀ call ∈ calls, call.isPlain = true) :
    calls.foldl e.follow t = t := by
  induction calls with
  | nil => rfl
  | cons call calls ih =>
    obtain ⟨hcall, hcalls⟩ := List.forall_mem_cons.mp h
    rw [List.foldl_cons, follow_of_isPlain hcall]
    exact ih hcalls

/-- Neither a timing nor a choice. -/
def Effect.isAfter (e : Effect) : Bool := e.isLater || e.isScaling

theorem Adds.after_of_later {d d' : Device} (h : Adds Effect.isLater d d') :
    Adds Effect.isAfter d d' := h.mono fun e he => by rw [Effect.isAfter, he, Bool.true_or]

theorem Adds.after_of_scaling {d d' : Device} (h : Adds Effect.isScaling d d') :
    Adds Effect.isAfter d d' := h.mono fun e he => by rw [Effect.isAfter, he, Bool.or_true]

theorem after_of_isPlain (e : Effect) (h : e.isPlain = true) : e.isAfter = true := by
  cases e <;> first | rfl | exact absurd h Bool.false_ne_true

theorem delivered_follow (h : call.isAfter = true) :
    (e.follow t call).delivered = t.delivered := by
  cases call <;> first | rfl | exact absurd h Bool.false_ne_true

theorem delivered_foldl (h : ∀ call ∈ calls, call.isAfter = true) :
    (calls.foldl e.follow t).delivered = t.delivered := by
  induction calls generalizing t with
  | nil => rfl
  | cons call calls ih =>
    obtain ⟨hcall, hcalls⟩ := List.forall_mem_cons.mp h
    rw [List.foldl_cons, ih hcalls, delivered_follow hcall]

/-- The timing of a call, with the context when it is delivered. -/
def Tracked.delivery (t : Tracked) (timing : MdsHdmiTiming) : Delivery :=
  ⟨timing, t.context, t.chosen t.context.productInfo⟩

/-- **What a transition delivers** is meaningful, if the timings of a connected sink are. -/
theorem Transits.delivers {r : DrmResults} {d d' d'' : Device} (h : Transits r d d')
    (hscaling : Adds Effect.isScaling d' d'') (e : Environment) (t : Tracked)
    (htiming : r.connectionStatus ≠ drmHdmiDisconnected → ∀ video info,
      (t.delivery (r.getTiming video info)).Meaningful) :
    ∃ new, ((callsSince d d'').foldl e.follow t).delivered = t.delivered ++ new ∧
      ∀ x ∈ new, x.Meaningful := by
  cases h with
  | quiet adds =>
    obtain ⟨calls, hlog, hcalls⟩ := adds.after_of_later.trans hscaling.after_of_scaling
    rw [callsSince_eq hlog, delivered_foldl hcalls]
    exact ⟨[], (List.append_nil _).symm, fun x hx => absurd hx List.not_mem_nil⟩
  | timing u handle listener video info connected before after =>
    obtain ⟨pre, hpre, hplain⟩ := before.plain
    obtain ⟨post, hpost, hafter⟩ := after.after_of_later.trans hscaling.after_of_scaling
    have hlog : d''.log
        = d.log ++ (pre ++ .setTiming handle listener (r.getTiming video info) :: post) := by
      rw [hpost]
      show (u.log ++ [_]) ++ post = _
      rw [hpre, List.append_assoc, List.append_assoc, List.singleton_append]
    rw [callsSince_eq hlog, List.foldl_append, foldl_of_isPlain hplain, List.foldl_cons,
      delivered_foldl hafter]
    exact ⟨_, rfl, List.forall_mem_singleton.mpr (htiming connected video info)⟩

end

/-! ### One step -/

def ServiceAction.choosesMode : ServiceAction → Bool
  | .call (.setHdmiModeInfo _) _ => true
  | _ => false

/-- A mode is chosen while a sink is connected, or nobody gets the timing. -/
def Service.ChoosesConnected (s : Service) (a : ServiceAction) : Prop :=
  a.choosesMode = true → s.composer.mDrmInit = true → s.composer.timingReceiver.isSome = true →
    s.context.connected = true

instance (s : Service) (a : ServiceAction) : Decidable (s.ChoosesConnected a) :=
  inferInstanceAs (Decidable (_ → _ → _ → _))

section

variable {b : Build} {s t : Service} {a : ServiceAction} {op : Operation} {e : Environment}

theorem getTiming_of_setsHdmiMode {m : Composer} (h : m.setsHdmiMode op = true) (c : DrmContext)
    (video : Bool) (info : MdsHdmiTiming) : e.getTiming c op video info =
      (drmHdmiGetTiming e.resources (if video then drmHdmiVideoExt else drmHdmiClone) info
        (drmHdmiGetConnectionStatus e.resources c).context).2.1 := by
  cases op <;> first | rfl | exact absurd h Bool.false_ne_true

theorem choosesConnected_of_not (h : a.choosesMode = false) : s.ChoosesConnected a :=
  fun h' => absurd (h.symm.trans h') Bool.false_ne_true

theorem choosesMode_of_ne (h : ∀ timing, op ≠ .setHdmiModeInfo timing) :
    (ServiceAction.call op e).choosesMode = false := by
  cases op <;> first | rfl | exact absurd rfl (h _)

theorem Kept.enter (h : Kept s.context s.tracked.chosen) (e : Environment) (op : Operation) :
    Kept (e.enter s.composer s.context op) s.tracked.chosen := by
  unfold Environment.enter
  split
  · exact h.getConnectionStatus e.resources
  split
  · exact h
  · split
    · exact h.getModeInfo _
    · exact h.isDeviceChanged true
    · exact h

/-- **Every step keeps the context.** -/
theorem next_kept (h : Kept s.context s.tracked.chosen) (hst : s.next b a = some t) :
    Kept t.context t.tracked.chosen := by
  unfold Service.context
  rw [(next_eq hst).2]
  cases a with
  | call op e => exact Kept.foldl (t := { s.tracked with
      context := e.enter s.composer s.context op, tries := 0 }) (h.enter e op) e _
  | checkLinkStatus isAuthenticated e =>
    exact Kept.foldl (t := { s.tracked with tries := 0 }) h e _
  | mipiRequest => exact h
  | setMipiMode => exact h

/-- What a step delivers, when it adds no timing. -/
theorem delivers_nothing {u : Tracked} {d d' : Device} (h : Adds Effect.isAfter d d')
    (hu : u.delivered = s.tracked.delivered) :
    ((callsSince d d').foldl e.follow u).delivered = s.tracked.delivered ++ [] := by
  obtain ⟨calls, hlog, hcalls⟩ := h
  rw [callsSince_eq hlog, delivered_foldl hcalls, hu, List.append_nil]

/-- What an operation with a transition delivers. -/
theorem transition_delivers (h : Kept s.context s.tracked.chosen) (r : DrmResults)
    (hsets : s.composer.setsHdmiMode op = true)
    (hr : r.connectionStatus = (drmHdmiGetConnectionStatus e.resources s.context).status)
    (hgetTiming : r.getTiming = e.getTiming s.context op) :
    ∃ new, (s.after op e (perform b r s.composer op).2).delivered = s.tracked.delivered ++ new ∧
      ∀ x ∈ new, x.Meaningful := by
  obtain ⟨d, htransits, hscaling⟩ := perform_transits_scaling b r s.composer hsets
  have henter : e.enter s.composer s.context op
      = (drmHdmiGetConnectionStatus e.resources s.context).context := if_pos hsets
  refine htransits.delivers hscaling e
    { s.tracked with context := e.enter s.composer s.context op, tries := 0 } ?_
  intro hconnected video info
  rw [hr] at hconnected
  rw [hgetTiming, getTiming_of_setsHdmiMode hsets, henter]
  exact getTiming_meaningful (h.getConnectionStatus e.resources)
    (plugged_of_status hconnected) _ _ _

/-- The timing after a choice is the one chosen, if a sink is connected. -/
theorem choice_meaningful_iff (h : Kept s.context s.tracked.chosen) (timing : MdsHdmiTiming)
    (e : Environment) (u : Tracked) (hcontext : u.context = s.context)
    (hchosen : u.chosen = s.tracked.chosen) :
    ((e.follow u (.setModeInfo timing)).delivery
      (e.getTiming s.context (.setHdmiModeInfo timing) false timing)).Meaningful ↔
        s.context.connected = true := by
  have hkept : Kept (e.follow u (.setModeInfo timing)).context
      (e.follow u (.setModeInfo timing)).chosen :=
    Kept.follow (t := u) (by rw [hcontext, hchosen]; exact h) e _
  have hcontext' : (e.follow u (.setModeInfo timing)).context
      = (drmHdmiSetModeInfo timing s.context).2 :=
    congrArg (fun c => (drmHdmiSetModeInfo timing c).2) hcontext
  by_cases hconnected : s.context.connected = true
  · have hsupported := h.supported hconnected
    have hset : (drmHdmiSetModeInfo timing s.context).2.hdmiSupported = true ∧
        (drmHdmiSetModeInfo timing s.context).2.connected = true ∧
        (drmHdmiSetModeInfo timing s.context).2.modeValid = true := by
      unfold drmHdmiSetModeInfo
      rw [if_neg (by simp [hsupported, hconnected])]
      exact ⟨hsupported, hconnected, rfl⟩
    obtain ⟨hsupported', hconnected', hvalid⟩ := hset
    refine iff_of_true (.chosen ?_ ?_) hconnected
    · exact (congrArg DrmContext.connected hcontext').trans hconnected'
    · refine (hkept.remembers ((congrArg DrmContext.modeValid hcontext').trans hvalid)).trans ?_
      show some _ = some (drmHdmiGetTiming _ _ _ (drmHdmiSetModeInfo timing s.context).2).2.1
      rw [drmHdmiGetTiming_of_modeValid hsupported' hconnected' hvalid, hcontext']
  · refine iff_of_false (fun hmeaningful => hconnected ?_) hconnected
    have hset : (drmHdmiSetModeInfo timing s.context).2 = s.context := by
      unfold drmHdmiSetModeInfo
      rw [if_pos (Or.inr (Bool.eq_false_iff.mpr hconnected))]
    have hthen : (e.follow u (.setModeInfo timing)).context.connected = true :=
      hmeaningful.connected
    rw [hcontext', hset] at hthen
    exact hthen

/-- What the choice of a mode delivers. -/
theorem choice_delivers (h : Kept s.context s.tracked.chosen) (r : DrmResults)
    (timing : MdsHdmiTiming)
    (hgetTiming : r.getTiming = e.getTiming s.context (.setHdmiModeInfo timing)) :
    ∃ new, (s.after (.setHdmiModeInfo timing) e
        (perform b r s.composer (.setHdmiModeInfo timing)).2).delivered
          = s.tracked.delivered ++ new ∧
      ((∀ x ∈ new, x.Meaningful) ↔ s.ChoosesConnected (.call (.setHdmiModeInfo timing) e)) := by
  unfold Service.ChoosesConnected
  cases hinit : s.composer.mDrmInit with
  | false =>
    refine ⟨[], ?_, iff_of_true (fun x hx => absurd hx List.not_mem_nil)
      fun _ h' => absurd h' Bool.false_ne_true⟩
    rw [perform_of_not_init b r hinit]
    exact delivers_nothing (Adds.refl _ _) rfl
  | true =>
    have henter : e.enter s.composer s.context (.setHdmiModeInfo timing) = s.context := by
      unfold Environment.enter
      rw [if_neg (show ¬s.composer.setsHdmiMode (.setHdmiModeInfo timing) = true from
        Bool.false_ne_true), if_neg (by simp [hinit])]
    have hadds := perform_setHdmiModeInfo b r s.composer hinit timing
    cases hreceiver : s.composer.timingReceiver with
    | none =>
      rw [hreceiver] at hadds
      obtain ⟨calls, hlog, hcalls⟩ := hadds.plain
      have hall : (perform b r s.composer (.setHdmiModeInfo timing)).2.device.log
          = s.composer.device.log ++ (.setModeInfo timing :: calls) := by
        rw [hlog]
        exact List.append_assoc _ _ _
      refine ⟨[], ?_, iff_of_true (fun x hx => absurd hx List.not_mem_nil)
        fun _ _ h' => absurd h' Bool.false_ne_true⟩
      unfold Service.after
      rw [callsSince_eq hall, List.foldl_cons, foldl_of_isPlain hcalls, List.append_nil]
      rfl
    | some x =>
      rw [hreceiver] at hadds
      obtain ⟨calls, hlog, hcalls⟩ := hadds.plain
      have hall : (perform b r s.composer (.setHdmiModeInfo timing)).2.device.log
          = s.composer.device.log ++ (.setModeInfo timing ::
            .setTiming x.1 x.2 (r.getTiming false timing) :: calls) := by
        rw [hlog]
        show ((s.composer.device.log ++ [_]) ++ [_]) ++ calls = _
        rw [List.append_assoc, List.append_assoc]
        rfl
      unfold Service.after
      rw [callsSince_eq hall, List.foldl_cons, List.foldl_cons, foldl_of_isPlain hcalls, hgetTiming]
      refine ⟨_, rfl, List.forall_mem_singleton.trans ?_⟩
      refine (choice_meaningful_iff h timing e
        { s.tracked with
          context := e.enter s.composer s.context (.setHdmiModeInfo timing)
          tries := 0 }
          henter rfl).trans ?_
      exact ⟨fun h' _ _ _ => h', fun h' => h' rfl rfl rfl⟩

/-- **What a step delivers** is meaningful exactly if a mode is chosen while a sink is connected. -/
theorem next_delivers (h : Kept s.context s.tracked.chosen) (hst : s.next b a = some t) :
    ∃ new, t.tracked.delivered = s.tracked.delivered ++ new ∧
      ((∀ x ∈ new, x.Meaningful) ↔ s.ChoosesConnected a) := by
  have hnothing : ∀ x : Delivery, x ∈ [] → x.Meaningful := fun x hx => absurd hx List.not_mem_nil
  obtain ⟨hstep, htracked⟩ := next_eq hst
  rw [htracked]
  cases a with
  | mipiRequest | setMipiMode =>
    exact ⟨[], (List.append_nil _).symm, iff_of_true hnothing (choosesConnected_of_not rfl)⟩
  | checkLinkStatus isAuthenticated e =>
    refine ⟨[], delivers_nothing ?_ rfl, iff_of_true hnothing (choosesConnected_of_not rfl)⟩
    obtain ⟨-, heq⟩ := step_checkLinkStatus hstep
    have hcomposer : t.composer = _ := congrArg MdsState.composer heq
    rw [hcomposer]
    exact (drmHdcpCheckLinkStatus_calls isAuthenticated _ _).later.after_of_later
  | call op e =>
    have hcomposer : t.composer = (perform b
        (e.answers s.context (s.isDeviceChanged b e op) op) s.composer op).2 :=
      congrArg MdsState.composer (Option.some.inj hstep).symm
    rw [Service.track, hcomposer]
    cases hsets : s.composer.setsHdmiMode op with
    | true =>
      obtain ⟨new, hnew, hmeaningful⟩ := transition_delivers (b := b) (e := e) h
        (e.answers s.context (s.isDeviceChanged b e op) op) hsets rfl rfl
      refine ⟨new, hnew, iff_of_true hmeaningful ?_⟩
      refine choosesConnected_of_not (choosesMode_of_ne ?_)
      rintro timing rfl
      exact absurd hsets Bool.false_ne_true
    | false =>
      by_cases hmode : ∃ timing, op = .setHdmiModeInfo timing
      · obtain ⟨timing, rfl⟩ := hmode
        exact choice_delivers h _ timing rfl
      · have hne : ∀ timing, op ≠ .setHdmiModeInfo timing := fun timing heq => hmode ⟨timing, heq⟩
        refine ⟨[], delivers_nothing ?_ rfl, iff_of_true hnothing ?_⟩
        swap
        · exact choosesConnected_of_not (choosesMode_of_ne hne)
        exact (perform_plain b _ s.composer hsets hne).mono after_of_isPlain

end

/-! ### Runs -/

section

variable {b : Build} {u : Startup} {s : Service}

/-- **The constructor** delivers nothing else than meaningful timings. -/
theorem startup_delivers (b : Build) (u : Startup) :
    Kept (u.tracked b).context (u.tracked b).chosen ∧
      ∀ d ∈ (u.tracked b).delivered, d.Meaningful := by
  have hkept : Kept u.context fun _ => none :=
    ⟨fun h => absurd h Bool.false_ne_true, fun h => absurd h Bool.false_ne_true⟩
  have hstatus := hkept.getConnectionStatus u.environment.resources
  have hstart : ∀ c, c = u.context ∨
      c = (drmHdmiGetConnectionStatus u.environment.resources u.context).context →
      Kept c fun _ => none := by
    rintro c (rfl | rfl)
    · exact hkept
    · exact hstatus
  refine ⟨Kept.foldl (hstart _ ?_) u.environment _, ?_⟩
  · split
    · exact Or.inr rfl
    · exact Or.inl rfl
  have hblank : callsSince (blank u.boot).device (construct b u.boot).device
      = (construct b u.boot).device.log := callsSince_eq rfl
  unfold Startup.tracked
  rw [← hblank]
  rcases construct_transits b u.boot with ⟨hsupported, htransits⟩ | hquiet
  · obtain ⟨new, hnew, hmeaningful⟩ := htransits.delivers (Adds.refl _ _) u.environment
      { context := if u.context.hdmiSupported then
          (drmHdmiGetConnectionStatus u.environment.resources u.context).context else u.context
        tries := 0
        chosen := fun _ => none
        delivered := [] } (by
          intro hconnected video info
          rw [if_pos (show u.context.hdmiSupported = true from hsupported)]
          exact getTiming_meaningful hstatus (plugged_of_status hconnected) _ _ _)
    rw [hnew]
    exact hmeaningful
  · obtain ⟨calls, hlog, hcalls⟩ := hquiet.plain
    rw [callsSince_eq hlog, foldl_of_isPlain hcalls]
    exact fun d hd => absurd hd List.not_mem_nil

/-- The context is kept, and what was delivered is meaningful. -/
theorem service_delivers (h : Runs.Reaches (displayService b u) Service.ChoosesConnected s) :
    Kept s.context s.tracked.chosen ∧ ∀ d ∈ s.tracked.delivered, d.Meaningful := by
  refine h.invariant (I := fun s => Kept s.context s.tracked.chosen ∧
    ∀ d ∈ s.tracked.delivered, d.Meaningful) (startup_delivers b u) ?_
  rintro s t a ⟨hkept, hmeaningful⟩ hok hst
  obtain ⟨new, hnew, hiff⟩ := next_delivers hkept hst
  refine ⟨next_kept hkept hst, ?_⟩
  rw [hnew]
  exact List.forall_mem_append.mpr ⟨hmeaningful, hiff.mpr hok⟩

end

/-- **Every timing is meaningful** in every run in which modes are chosen while a sink is connected;
after such a run, a step keeps it so exactly if it does not choose one while there is no sink. -/
theorem timings_meaningful (b : Build) (u : Startup) (s : Service)
    (h : Runs.Reaches (displayService b u) Service.ChoosesConnected s) :
    (∀ d ∈ s.tracked.delivered, d.Meaningful) ∧
      ∀ a t, s.next b a = some t →
        ((∀ d ∈ t.tracked.delivered, d.Meaningful) ↔ s.ChoosesConnected a) := by
  obtain ⟨hkept, hmeaningful⟩ := service_delivers h
  refine ⟨hmeaningful, fun a t hst => ?_⟩
  obtain ⟨new, hnew, hiff⟩ := next_delivers hkept hst
  rw [hnew, List.forall_mem_append]
  exact (and_iff_right hmeaningful).trans hiff

/-! ### Two runs -/

/-- HWC is registered for the timing. -/
def registerHwc : ServiceAction :=
  .call (.registerListener (some 7) 1 (some hwComposer) mdsSetTiming) (.simple none ⟨0, 0, 0, 0, 0⟩)

/-- A client chooses 720p. -/
def choose720p : ServiceAction :=
  .call (.setHdmiModeInfo ⟨60, 1280, 720, 0, 0⟩) (.simple none ⟨9, 9, 9, 9, 9⟩)

/-- HWC is registered, a sink is plugged in, and a client chooses a mode. -/
theorem timings_meaningful_of_choice : ∃ s : Service,
    s.tracked.delivered.map Delivery.timing = [⟨60, 1920, 1080, 0, 0⟩, ⟨60, 1280, 720, 0, 0⟩] ∧
      ∀ d ∈ s.tracked.delivered, d.Meaningful := by
  have hregister : Runs.Reaches (displayService ⟨true, true⟩ Startup.simple)
      Service.ChoosesConnected _ :=
    .step (a := registerHwc) .init (choosesConnected_of_not rfl) rfl
  have hplug := hregister.step (a := .call .notifyHotPlug
    (.simple (some [some (.simple 256 hdmiEdid)]) ⟨0, 0, 0, 0, 0⟩))
    (choosesConnected_of_not rfl) rfl
  have hchoose := hplug.step (a := choose720p) (by decide) rfl
  exact ⟨_, by decide, (timings_meaningful _ _ _ hchoose).1⟩

/-- HWC is registered, and a client chooses a mode without a sink. -/
theorem uninitialized_is_delivered : ¬∀ (b : Build) (u : Startup) (s : Service),
    Runs.Reachable (displayService b u) s → ∀ d ∈ s.tracked.delivered, d.Meaningful := by
  intro h
  have hregister : Runs.Reachable (displayService ⟨true, true⟩ Startup.simple) _ :=
    .step (a := registerHwc) .init trivial rfl
  have hchoose := hregister.next (a := choose720p) rfl
  have hmeaningful := h _ _ _ hchoose ⟨⟨9, 9, 9, 9, 9⟩, _, none⟩ (List.mem_singleton.mpr rfl)
  exact absurd hmeaningful.connected (by decide)

end CtpCommon.Display
