import CtpCommon.Display.Composer

/-!
# What the listeners are told

Every message goes to all listeners at once.  Between two changes of the registrations, a listener
has got each message that it has subscribed to, in the order of the broadcasts, and no other.

* `Told listeners new` — the calls `new` are broadcasts to these listeners, and other calls;
* `Told.delivered` — **PROVED**: each listener has got what it has subscribed to;
* `Speaks s t` — from `s` to `t` the registrations are the same and the listeners were told;
* `Repeats s t` — and the modes that they were told are the mode of `s`;
* `Announces s t` — and the mode of `t` is the last that they were told.
-/

namespace CtpCommon.Display

abbrev Listeners := KeyedVector Handle MultiDisplayListener

/-! ### Deliveries -/

/-- A message to a listener, or the broadcast of one. -/
def Effect.isMessage : Effect → Bool
  | .broadcast _ | .onMdsMessage _ _ _ => true
  | _ => false

theorem isMessage_hdcp (e : Effect) (h : e.isHdcp = true) : e.isMessage = false := by
  cases e <;> first | rfl | exact absurd h Bool.false_ne_true

/-- The message that a listener, registered under a handle, gets by this call. -/
def Effect.deliveredTo (handle : Handle) (listener : ListenerRef) : Effect → Option MdsMessage
  | .onMdsMessage handle' listener' message =>
      if handle' = handle ∧ listener' = listener then some message else none
  | _ => none

/-- The message of a broadcast, for a listener that has subscribed to it. -/
def Effect.broadcastFor (l : MultiDisplayListener) : Effect → Option MdsMessage
  | .broadcast message => if l.checkMsg message.msg then some message else none
  | _ => none

theorem deliveredTo_eq_none {e : Effect} (h : e.isMessage = false) (handle : Handle)
    (listener : ListenerRef) : e.deliveredTo handle listener = none := by
  cases e <;> first | rfl | exact absurd h.symm Bool.false_ne_true

theorem broadcastFor_eq_none {e : Effect} (h : e.isMessage = false) (l : MultiDisplayListener) :
    e.broadcastFor l = none := by
  cases e <;> first | rfl | exact absurd h.symm Bool.false_ne_true

/-- The listener under another handle gets another call. -/
theorem deliveries_of_ne {listeners : List (Handle × MultiDisplayListener)} {handle : Handle}
    (hne : ∀ x ∈ listeners, x.1 ≠ handle) (listener : ListenerRef) (message : MdsMessage) :
    (Composer.deliveries listeners message).filterMap (Effect.deliveredTo handle listener)
      = [] := by
  rw [List.filterMap_eq_nil_iff]
  intro e he
  obtain ⟨x, hx, hcall⟩ := List.mem_filterMap.mp he
  split at hcall
  · obtain ⟨listener', -, rfl⟩ := Option.map_eq_some_iff.mp hcall
    exact if_neg fun h => hne x hx h.1
  · exact absurd hcall.symm (Option.some_ne_none e)

/-- **The loop** calls a listener once, if it has subscribed. -/
theorem deliveries_deliveredTo {listeners : List (Handle × MultiDisplayListener)}
    (hsorted : listeners.Pairwise fun x y => x.1 < y.1) {handle : Handle} {l : MultiDisplayListener}
    {listener : ListenerRef} (hmem : (handle, l) ∈ listeners) (hl : l.mIEListener = some listener)
    (message : MdsMessage) :
    (Composer.deliveries listeners message).filterMap (Effect.deliveredTo handle listener)
      = if l.checkMsg message.msg then [message] else [] := by
  induction listeners with
  | nil => exact absurd hmem List.not_mem_nil
  | cons x rest ih =>
    obtain ⟨hfirst, hrest⟩ := List.pairwise_cons.mp hsorted
    have hhead : Composer.deliveries (x :: rest) message
        = Composer.deliveries [x] message ++ Composer.deliveries rest message := by
      unfold Composer.deliveries
      rw [← List.filterMap_append, List.singleton_append]
    rw [hhead, List.filterMap_append]
    rcases List.mem_cons.mp hmem with rfl | hmem
    · rw [deliveries_of_ne (fun y hy => (hfirst y hy).ne'), List.append_nil]
      cases hcheck : l.checkMsg message.msg <;>
        simp [Composer.deliveries, Effect.deliveredTo, hl, hcheck]
    · have hne : x.1 ≠ handle := (hfirst _ hmem).ne
      rw [ih hrest hmem, deliveries_of_ne (by simpa using hne), List.nil_append]

/-! ### Broadcasts -/

/-- Broadcasts to some listeners, between other calls. -/
inductive Told (listeners : Listeners) : List Effect → Prop
  | nil : Told listeners []
  | call {new : List Effect} (e : Effect) (plain : e.isMessage = false) :
      Told listeners new → Told listeners (new ++ [e])
  | broadcast {new : List Effect} (message : MdsMessage) : Told listeners new →
      Told listeners
        (new ++ Effect.broadcast message :: Composer.deliveries listeners.entries message)

section

variable {listeners : Listeners} {new new' : List Effect}

theorem Told.append (h : Told listeners new) (h' : Told listeners new') :
    Told listeners (new ++ new') := by
  induction h' with
  | nil =>
    rw [List.append_nil]
    exact h
  | call e plain _ ih =>
    rw [← List.append_assoc]
    exact ih.call e plain
  | broadcast message _ ih =>
    rw [← List.append_assoc]
    exact ih.broadcast message

theorem Told.of_plain (h : ∀ e ∈ new, e.isMessage = false) : Told listeners new := by
  induction new using List.reverseRecOn with
  | nil => exact Told.nil
  | append_singleton new e ih =>
    exact (ih fun e' he' => h e' (List.mem_append_left _ he')).call e (h e (by simp))

theorem filterMap_broadcastFor_deliveries (entries : List (Handle × MultiDisplayListener))
    (message : MdsMessage) (l : MultiDisplayListener) :
    (Composer.deliveries entries message).filterMap (Effect.broadcastFor l) = [] := by
  rw [List.filterMap_eq_nil_iff]
  intro e he
  obtain ⟨x, -, hcall⟩ := List.mem_filterMap.mp he
  split at hcall
  · obtain ⟨listener', -, rfl⟩ := Option.map_eq_some_iff.mp hcall
    rfl
  · exact absurd hcall.symm (Option.some_ne_none e)

/-- **A listener gets what it has subscribed to.** -/
theorem Told.delivered (h : Told listeners new) {handle : Handle} {l : MultiDisplayListener}
    {listener : ListenerRef} (hlookup : listeners.lookup handle = some l)
    (hl : l.mIEListener = some listener) :
    new.filterMap (Effect.deliveredTo handle listener) = new.filterMap (Effect.broadcastFor l) := by
  induction h with
  | nil => rfl
  | call e plain _ ih =>
    rw [List.filterMap_append, List.filterMap_append, ih,
      List.filterMap_cons_none (deliveredTo_eq_none plain handle listener),
      List.filterMap_cons_none (broadcastFor_eq_none plain l)]
    rfl
  | broadcast message _ ih =>
    have hself : (Effect.broadcast message :: Composer.deliveries listeners.entries
        message).filterMap (Effect.broadcastFor l)
        = if l.checkMsg message.msg then [message] else [] := by
      cases hcheck : l.checkMsg message.msg <;>
        simp [Effect.broadcastFor, hcheck, filterMap_broadcastFor_deliveries]
    rw [List.filterMap_append, List.filterMap_append, ih, hself, List.filterMap_cons_none rfl,
      deliveries_deliveredTo listeners.sorted (listeners.mem_entries_iff.mpr hlookup) hl]

end

/-- The mode that a broadcast is about. -/
def Effect.broadcastMode : Effect → Option Mode
  | .broadcast (.modeChange mode) => some mode
  | _ => none

theorem broadcastMode_eq_none {e : Effect} (h : e.isMessage = false) : e.broadcastMode = none := by
  cases e <;> first | rfl | exact absurd h.symm Bool.false_ne_true

theorem filterMap_broadcastMode_deliveries (entries : List (Handle × MultiDisplayListener))
    (message : MdsMessage) :
    (Composer.deliveries entries message).filterMap Effect.broadcastMode = [] := by
  rw [List.filterMap_eq_nil_iff]
  intro e he
  obtain ⟨x, -, hcall⟩ := List.mem_filterMap.mp he
  split at hcall
  · obtain ⟨listener', -, rfl⟩ := Option.map_eq_some_iff.mp hcall
    rfl
  · exact absurd hcall.symm (Option.some_ne_none e)

/-! ### From one state of the composer to another -/

/-- The registrations are the same, and their listeners were told. -/
structure Speaks (s t : Composer) : Prop where
  listener : t.mListener = s.mListener
  told : ∃ new, t.device.log = s.device.log ++ new ∧ Told s.mListener new

/-- No mode that they were told is new. -/
structure Repeats (s t : Composer) : Prop where
  listener : t.mListener = s.mListener
  told : ∃ new, t.device.log = s.device.log ++ new ∧ Told s.mListener new ∧
    ∀ mode ∈ new.filterMap Effect.broadcastMode, mode = s.mMode

/-- The mode at the end is the last that the listeners were told. -/
structure Announces (s t : Composer) : Prop where
  listener : t.mListener = s.mListener
  told : ∃ new, t.device.log = s.device.log ++ new ∧ Told s.mListener new ∧
    (new.filterMap Effect.broadcastMode).getLast? = some t.mMode

section

variable {s t u : Composer}

theorem Announces.speaks (h : Announces s t) : Speaks s t := by
  obtain ⟨new, hlog, htold, -⟩ := h.told
  exact ⟨h.listener, new, hlog, htold⟩

theorem Speaks.refl (s : Composer) : Speaks s s :=
  ⟨rfl, [], (List.append_nil _).symm, Told.nil⟩

theorem Speaks.trans (h : Speaks s t) (h' : Speaks t u) : Speaks s u := by
  obtain ⟨new, hlog, htold⟩ := h.told
  obtain ⟨new', hlog', htold'⟩ := h'.told
  rw [h.listener] at htold'
  refine ⟨h'.listener.trans h.listener, new ++ new', ?_, htold.append htold'⟩
  rw [hlog', hlog, List.append_assoc]

theorem Speaks.announces (h : Speaks s t) (h' : Announces t u) : Announces s u := by
  obtain ⟨new, hlog, htold⟩ := h.told
  obtain ⟨new', hlog', htold', hlast⟩ := h'.told
  rw [h.listener] at htold'
  refine ⟨h'.listener.trans h.listener, new ++ new', ?_, htold.append htold', ?_⟩
  · rw [hlog', hlog, List.append_assoc]
  · rw [List.filterMap_append, List.getLast?_append, hlast]
    rfl

/-- Nothing is said. -/
theorem speaks_of_log (hlistener : t.mListener = s.mListener)
    (hlog : t.device.log = s.device.log) : Speaks s t :=
  ⟨hlistener, [], hlog.trans (List.append_nil _).symm, Told.nil⟩

theorem speaks_call (s : Composer) {e : Effect} (h : e.isMessage = false) :
    Speaks s (s.call e) :=
  ⟨rfl, [e], rfl, Told.of_plain fun e' he' => by rw [List.mem_singleton.mp he', h]⟩

theorem speaks_withDevice (s : Composer) {d : Device} (h : HdcpOnly s.device d) :
    Speaks s (s.withDevice d) := by
  obtain ⟨new, hlog, hnew⟩ := h
  exact ⟨rfl, new, hlog, Told.of_plain fun e he => isMessage_hdcp e (hnew e he)⟩

theorem speaks_broadcast (s : Composer) (message : MdsMessage) :
    Speaks s (s.broadcastMessageL message) :=
  ⟨rfl, _, rfl, Told.nil.broadcast message⟩

/-- **A broadcast of the mode** announces it. -/
theorem announces_broadcastMode (s : Composer) : Announces s s.broadcastMode := by
  refine ⟨rfl, _, rfl, Told.nil.broadcast (.modeChange s.mMode), ?_⟩
  have hself : Effect.broadcastMode (.broadcast (.modeChange s.mMode)) = some s.mMode := rfl
  rw [List.filterMap_cons_some hself, filterMap_broadcastMode_deliveries]
  rfl

/-- A call afterwards changes nothing about that. -/
theorem Announces.call (h : Announces s t) {e : Effect} (he : e.isMessage = false) :
    Announces s (t.call e) := by
  obtain ⟨new, hlog, htold, hlast⟩ := h.told
  refine ⟨h.listener, new ++ [e], ?_, htold.call e he, ?_⟩
  · show t.device.log ++ [e] = _
    rw [hlog, List.append_assoc]
  · rw [List.filterMap_append, List.filterMap_cons_none (broadcastMode_eq_none he),
      List.filterMap_nil, List.append_nil]
    exact hlast

theorem Announces.setConnectStatus (h : Announces s t) (connectStatus : Int) :
    Announces s (t.setConnectStatus connectStatus) := ⟨h.listener, h.told⟩

/-! ### Repetitions -/

theorem Repeats.speaks (h : Repeats s t) : Speaks s t := by
  obtain ⟨new, hlog, htold, -⟩ := h.told
  exact ⟨h.listener, new, hlog, htold⟩

theorem repeats_of_log (hlistener : t.mListener = s.mListener)
    (hlog : t.device.log = s.device.log) : Repeats s t :=
  ⟨hlistener, [], hlog.trans (List.append_nil _).symm, Told.nil,
    fun _ hm => absurd hm List.not_mem_nil⟩

theorem Repeats.trans (h : Repeats s t) (hmode : t.mMode = s.mMode) (h' : Repeats t u) :
    Repeats s u := by
  obtain ⟨new, hlog, htold, hold⟩ := h.told
  obtain ⟨new', hlog', htold', hold'⟩ := h'.told
  rw [h.listener] at htold'
  refine ⟨h'.listener.trans h.listener, new ++ new', ?_, htold.append htold', fun mode hm => ?_⟩
  · rw [hlog', hlog, List.append_assoc]
  · rw [List.filterMap_append] at hm
    exact (List.mem_append.mp hm).elim (hold mode) fun h => (hold' mode h).trans hmode

/-- Calls that are no messages. -/
theorem repeats_of_plain (hlistener : t.mListener = s.mListener) {new : List Effect}
    (hlog : t.device.log = s.device.log ++ new) (hplain : ∀ e ∈ new, e.isMessage = false) :
    Repeats s t := by
  refine ⟨hlistener, new, hlog, Told.of_plain hplain, fun mode hm => ?_⟩
  obtain ⟨e, he, hmode⟩ := List.mem_filterMap.mp hm
  rw [broadcastMode_eq_none (hplain e he)] at hmode
  exact absurd hmode.symm (Option.some_ne_none mode)

theorem repeats_call (s : Composer) {e : Effect} (h : e.isMessage = false) :
    Repeats s (s.call e) :=
  repeats_of_plain rfl rfl fun e' he' => by rw [List.mem_singleton.mp he', h]

theorem repeats_broadcastMode (s : Composer) : Repeats s s.broadcastMode := by
  refine ⟨rfl, _, rfl, Told.nil.broadcast (.modeChange s.mMode), fun mode hm => ?_⟩
  have hself : Effect.broadcastMode (.broadcast (.modeChange s.mMode)) = some s.mMode := rfl
  rw [List.filterMap_cons_some hself, filterMap_broadcastMode_deliveries] at hm
  exact List.mem_singleton.mp hm

theorem repeats_broadcastVideoStatus (s : Composer) (status : Int) :
    Repeats s (s.broadcastMessageL (.setVideoStatus status)) := by
  refine ⟨rfl, _, rfl, Told.nil.broadcast (.setVideoStatus status), fun mode hm => ?_⟩
  have hself : Effect.broadcastMode (.broadcast (.setVideoStatus status)) = none := rfl
  rw [List.filterMap_cons_none hself, filterMap_broadcastMode_deliveries] at hm
  exact absurd hm List.not_mem_nil

end

end CtpCommon.Display
