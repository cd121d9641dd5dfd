import CtpCommon.Lib.Runs
import CtpCommon.Ril.Isolation

/-!
# Network selection after a change of the radio's power

`dispatchRadioPower` stores the on/off value of a request in the static `radio_is_on`, and
`responseRadioPower` reads it when the request completes.  Several such requests may be under way.

* `RadioPowerState` — the requests and completions of `isolationSystem`, with the first int of
  every request, that of the last `RIL_REQUEST_RADIO_POWER` received, and a log of the completions
  of these requests;
* `dispatch_radioIsOn` — **PROVED**: a record stores its first int if it is such a request, and
  no other record writes the variable;
* `PowerInv` — a request completes once, and a completion issues what the last value received
  says;
* `completion_follows_iff` — **PROVED**: in every run, the completion of a request issues the
  local `RIL_REQUEST_SET_NETWORK_SELECTION_AUTOMATIC` its own first int asks for if and only if
  the last request received before it asks for the same;
* `radio_on_then_off` — a run with two requests under way in which it does not.
-/

namespace CtpCommon.Ril

/-! ### The state -/

/-- The completion of a request: the first int of the last `RIL_REQUEST_RADIO_POWER` received
before its response is encoded, and the local requests the encoding issues. -/
structure PowerCompletion where
  request : RequestInfo
  latest : Option Int
  issued : ℕ
  deriving DecidableEq, Repr

structure RadioPowerState where
  base : IsolationState
  firstInt : ℕ → Option Int
  latest : Option Int
  completed : List PowerCompletion

/-- A `RIL_REQUEST_RADIO_POWER` of a client that is not cancelled. -/
def RadioPower (r : RequestInfo) : Prop := Awaited r ∧ r.pCI.number = rilRequestRadioPower

instance : DecidablePred RadioPower := fun _ => inferInstanceAs (Decidable (_ ∧ _))

/-- The first of the counted integers of a payload. -/
def firstIntOf (p : Parcel) : Option Int :=
  match p.readInt32 with
  | (none, _) => none
  | (some count, q) => if count = 0 then none else q.readInt32.1

/-- The first int of a request, where it is a `RIL_REQUEST_RADIO_POWER`. -/
def requestFirstInt (request : RequestCode) (p : Parcel) : Option Int :=
  if request.number = rilRequestRadioPower then firstIntOf p else none

def recordFirstInt (buffer : List UInt8) : Option Int :=
  match readRecord buffer with
  | .invalid => none
  | .unsupported _ => none
  | .accepted _ request p => requestFirstInt request p

/-- The local `RIL_REQUEST_SET_NETWORK_SELECTION_AUTOMATIC` calls between two states. -/
def automaticCalls (s t : RilState) : ℕ :=
  (t.vendor.drop s.vendor.length).countP fun call =>
    call.request = rilRequestSetNetworkSelectionAutomatic ∧
      t.pending.nodes.any fun r => r.addr = call.token ∧ r.isLocal

variable (P : Platform) (version : Int)

/-- What a step adds to the log and to the values received. -/
def RadioPowerState.observe (s : RadioPowerState) (base : IsolationState) :
    IsolationAction → RadioPowerState
  | .record _ _ _ _ buffer =>
      { s with
        base := base
        firstInt := Function.update s.firstInt s.base.ril.pending.fresh (recordFirstInt buffer)
        latest := (recordFirstInt buffer).or s.latest }
  | .testCancelled i =>
      { s with
        base := base
        completed := s.completed ++
          ((s.base.dequeued[i]?.map Completion.request).toList.filter RadioPower).map fun r =>
            ⟨r, s.latest, automaticCalls s.base.ril base.ril⟩ }
  | _ => { s with base := base }

def radioPowerStep (s : RadioPowerState) (a : IsolationAction) : Option RadioPowerState :=
  (isolationStep P version s.base a).map fun base => s.observe base a

def radioPowerSystem : Runs.System RadioPowerState IsolationAction :=
  ⟨⟨isolationInit, fun _ => none, none, []⟩, radioPowerStep P version⟩

/-- The completion issued one local request if the first int of its own request is not zero, and
none if it is. -/
def FollowsRequest (s : RadioPowerState) (m : PowerCompletion) : Prop :=
  ∀ v, s.firstInt m.request.addr = some v → m.issued = if v = 0 then 0 else 1

/-- The last `RIL_REQUEST_RADIO_POWER` received before the completion asked for the same as the
request that completed. -/
def LatestAgrees (s : RadioPowerState) (m : PowerCompletion) : Prop :=
  ∀ v, s.firstInt m.request.addr = some v → ∃ w, m.latest = some w ∧ (w = 0 ↔ v = 0)

/-! ### What a record does to `radio_is_on` -/

/-- `radio_is_on` after an effect. -/
def DispatchEffect.radioIsOn : DispatchEffect → Bool → Bool
  | .setRadioIsOn isOn, _ => isOn
  | .setVoiceRadioTech _, b | .setCdmaSubscriptionSource _, b | .onRequest _ _, b
  | .onRequestComplete _ _, b => b

def radioIsOnAfter (effects : List DispatchEffect) (b : Bool) : Bool :=
  effects.foldl (fun b effect => effect.radioIsOn b) b

/-- `radio_is_on` after the value `v`, if there is one. -/
def storedOnOff (v : Option Int) (b : Bool) : Bool := (v.map fun v => decide (v ≠ 0)).getD b

variable (env : DispatchEnv)

theorem radioIsOnAfter_append (es es' : List DispatchEffect) (b : Bool) :
    radioIsOnAfter (es ++ es') b = radioIsOnAfter es' (radioIsOnAfter es b) :=
  List.foldl_append

theorem radioIsOnAfter_cons (e : DispatchEffect) (es : List DispatchEffect) (b : Bool) :
    radioIsOnAfter (e :: es) b = radioIsOnAfter es (e.radioIsOn b) := rfl

theorem callOnRequest_radioIsOn (x : ReadProg Payload) (p : Parcel) (b : Bool) :
    radioIsOnAfter (callOnRequest env x p) b = b := by
  unfold callOnRequest
  split <;> rfl

theorem dispatchDataCall_radioIsOn (p : Parcel) (b : Bool) :
    radioIsOnAfter (dispatchDataCall env p) b = b := by
  simp only [dispatchDataCall]
  split
  · exact callOnRequest_radioIsOn env _ _ b
  · exact callOnRequest_radioIsOn env _ _ b

theorem dispatchFromRadioState_radioIsOn (decode : RadioState → Int)
    {store : Int → DispatchEffect} (hstore : ∀ v b, (store v).radioIsOn b = b) (p : Parcel)
    (b : Bool) : radioIsOnAfter (dispatchFromRadioState env decode store p) b = b := by
  have hcomplete : ∀ e response, radioIsOnAfter [.onRequestComplete e response] b = b :=
    fun _ _ => rfl
  have hearly : radioIsOnAfter (if env.radioState = .unavailable ∨ env.radioState = .off then
      [.onRequestComplete rilERadioNotAvailable none] else []) b = b := by
    split <;> rfl
  simp only [dispatchFromRadioState]
  split
  · rw [radioIsOnAfter_append, hearly]
    exact callOnRequest_radioIsOn env dispatchVoid p b
  · rw [radioIsOnAfter_append, hearly, radioIsOnAfter_cons, hstore]
    split <;> exact hcomplete _ _

theorem dispatchRadioPower_radioIsOn (p : Parcel) (b : Bool) :
    radioIsOnAfter (dispatchRadioPower env p) b = storedOnOff (firstIntOf p) b := by
  unfold dispatchRadioPower firstIntOf
  rcases p.readInt32 with ⟨_ | count, q⟩
  · rfl
  · by_cases hcount : count = 0
    · simp only [if_pos hcount]
      rfl
    · simp only [if_neg hcount]
      rcases q.readInt32 with ⟨_ | isOn, r⟩
      · rfl
      · exact callOnRequest_radioIsOn env dispatchInts _ _

/-- Only the entry of `RIL_REQUEST_RADIO_POWER` names `dispatchRadioPower`. -/
theorem dispatchFunction_eq_radioPower (request : RequestCode) :
    request.dispatchFunction = .dispatchRadioPower ↔ request.number = rilRequestRadioPower := by
  have hall : ∀ i : Fin 129, (commandFunctions.get (i.cast length_commandFunctions.symm)).1
      = .dispatchRadioPower ↔ (i : ℕ) = 22 := by decide
  have hindex := hall ⟨request.number - 1, length_commandFunctions ▸ request.index_lt⟩
  have hpos := request.pos
  refine hindex.trans ?_
  show request.number - 1 = 22 ↔ request.number = 23
  omega

/-- **A record stores its first int**, if it is a `RIL_REQUEST_RADIO_POWER` that has one; every
other record leaves `radio_is_on` alone. -/
theorem dispatch_radioIsOn (request : RequestCode) (p : Parcel) (b : Bool) :
    radioIsOnAfter (dispatch env request.dispatchFunction p) b
      = storedOnOff (requestFirstInt request p) b := by
  have hiff := dispatchFunction_eq_radioPower request
  unfold requestFirstInt
  by_cases hpower : request.number = rilRequestRadioPower
  · rw [if_pos hpower, hiff.mpr hpower]
    exact dispatchRadioPower_radioIsOn env p b
  · rw [if_neg hpower]
    have hne : request.dispatchFunction ≠ .dispatchRadioPower := mt hiff.mp hpower
    show radioIsOnAfter _ b = b
    cases hfun : request.dispatchFunction with
    | dispatchRadioPower => exact absurd hfun hne
    | dispatchDataCall => exact dispatchDataCall_radioIsOn env p b
    | dispatchVoiceRadioTech =>
      exact dispatchFromRadioState_radioIsOn env _ (fun _ _ => rfl) p b
    | dispatchCdmaSubscriptionSource =>
      exact dispatchFromRadioState_radioIsOn env _ (fun _ _ => rfl) p b
    | _ => simp only [dispatch, callOnRequest_radioIsOn]

/-! ### What the steps do to the list and to `radio_is_on` -/

/-- The list has gained new nodes only. -/
structure Newer (s t : RilState) : Prop where
  fresh : s.pending.fresh ≤ t.pending.fresh
  nodes : ∀ r ∈ t.pending.nodes,
    (∃ q ∈ s.pending.nodes, q.addr = r.addr) ∨ s.pending.fresh ≤ r.addr

theorem Newer.of_mem {s t : RilState} (hfresh : s.pending.fresh ≤ t.pending.fresh)
    (hnodes : ∀ r ∈ t.pending.nodes, r ∈ s.pending.nodes) : Newer s t :=
  ⟨hfresh, fun r hr => .inl ⟨r, hnodes r hr, rfl⟩⟩

theorem Newer.of_eq {s t : RilState} (h : t.pending = s.pending) : Newer s t :=
  .of_mem (Nat.le_of_eq (congrArg PendingRequests.fresh h.symm)) fun _ hr => h ▸ hr

theorem Newer.trans {s t u : RilState} (h₁ : Newer s t) (h₂ : Newer t u) : Newer s u := by
  refine ⟨h₁.fresh.trans h₂.fresh, fun r hr => ?_⟩
  rcases h₂.nodes r hr with ⟨q, hq, hqr⟩ | hnew
  · rcases h₁.nodes q hq with ⟨o, ho, hoq⟩ | hnew
    · exact .inl ⟨o, ho, hoq.trans hqr⟩
    · exact .inr (hqr ▸ hnew)
  · exact .inr (h₁.fresh.trans hnew)

/-- A `push` onto the list. -/
theorem Newer.push {s t : RilState} {token : Int} {request : RequestCode} {isLocal : Bool}
    (h : t.pending = s.pending.push token request isLocal) : Newer s t := by
  refine ⟨?_, fun r hr => ?_⟩
  · rw [h]
    exact Nat.le_succ _
  · rw [h] at hr
    rcases List.mem_cons.mp hr with rfl | hr
    · exact .inr (Nat.le_refl _)
    · exact .inl ⟨r, hr, rfl⟩

theorem cancelAll_newer (s : IsolationState) : Newer s.ril (onCommandsSocketClosed s).ril := by
  refine ⟨Nat.le_refl _, fun r hr => ?_⟩
  obtain ⟨q, hq, rfl⟩ := List.mem_map.mp hr
  exact .inl ⟨q, hq, rfl⟩

theorem effects_newer (x : Encoded) (s : RilState) :
    Newer s (x.effects s) ∧ (x.effects s).radioIsOn = s.radioIsOn := by
  have hon : (x.effects s).radioIsOn = s.radioIsOn := by
    unfold Encoded.effects
    split <;> rfl
  rcases effects_pending x s with heq | heq
  · exact ⟨.of_eq heq, hon⟩
  · exact ⟨.push heq, hon⟩

theorem completionMessage_newer {ril : RilState} {c : Completion}
    {x : RilState × Option (List UInt8)} (h : completionMessage P version ril c = some x) :
    Newer ril x.1 ∧ x.1.radioIsOn = ril.radioIsOn := by
  obtain ⟨y, hy⟩ := completionMessage_effects P version h
  rw [hy]
  exact effects_newer y ril

theorem completeNow_newer {s s' : IsolationState} {t : ℕ} {e : Int}
    {response : Option ResponseMemory} {responselen : ℕ} {faults : WriteFaults}
    (h : completeNow P version s t e response responselen faults = some s') :
    Newer s.ril s'.ril ∧ s'.ril.radioIsOn = s.ril.radioIsOn ∧ s'.dequeued = s.dequeued := by
  unfold completeNow at h
  rcases hdeq : checkAndDequeueRequestInfo s.ril.pending t with _ | ⟨r, pending⟩
  · rw [hdeq] at h
    obtain rfl := Option.some.inj h
    exact ⟨.of_eq rfl, rfl, rfl⟩
  · rw [hdeq] at h
    obtain ⟨-, hfresh, hnodes⟩ := checkAndDequeueRequestInfo_some hdeq
    obtain ⟨⟨ril, m⟩, hx, rfl⟩ := Option.map_eq_some_iff.mp h
    obtain ⟨hnewer, hon⟩ := completionMessage_newer P version hx
    have hunlink : Newer s.ril { s.ril with pending := pending } :=
      .of_mem (Nat.le_of_eq hfresh.symm) hnodes
    cases m with
    | none => exact ⟨hunlink.trans hnewer, hon, rfl⟩
    | some data => exact ⟨hunlink.trans ⟨hnewer.fresh, hnewer.nodes⟩, hon, rfl⟩

theorem performNow_newer {faults : WriteFaults} {r : RequestInfo} {s t : IsolationState}
    {effect : DispatchEffect} (h : performNow env faults r s effect = some t) :
    Newer s.ril t.ril ∧ t.ril.radioIsOn = effect.radioIsOn s.ril.radioIsOn ∧
      t.dequeued = s.dequeued := by
  cases effect with
  | onRequestComplete e response => exact completeNow_newer _ _ h
  | setRadioIsOn _ | setVoiceRadioTech _ | setCdmaSubscriptionSource _ | onRequest _ _ =>
    obtain rfl := Option.some.inj h
    exact ⟨.of_eq rfl, rfl, rfl⟩

/-- **What a record does**, effect by effect. -/
theorem receive_newer {faults : WriteFaults} {s t : IsolationState} {buffer : List UInt8}
    (h : receive env faults s buffer = some t) :
    Newer s.ril t.ril ∧
      t.ril.radioIsOn = storedOnOff (recordFirstInt buffer) s.ril.radioIsOn ∧
      t.dequeued = s.dequeued := by
  have hfold : ∀ (r : RequestInfo) (effects : List DispatchEffect) (s t : IsolationState),
      effects.foldlM (performNow env faults r) s = some t →
      Newer s.ril t.ril ∧ t.ril.radioIsOn = radioIsOnAfter effects s.ril.radioIsOn ∧
        t.dequeued = s.dequeued := by
    intro r effects
    induction effects with
    | nil =>
      intro s t hs
      obtain rfl := Option.some.inj hs
      exact ⟨.of_eq rfl, rfl, rfl⟩
    | cons effect effects ih =>
      intro s t hs
      rw [List.foldlM_cons] at hs
      obtain ⟨u, hu, hrest⟩ := Option.bind_eq_some_iff.mp hs
      obtain ⟨hsu, hon, hdeq⟩ := performNow_newer env hu
      obtain ⟨hut, hon', hdeq'⟩ := ih u t hrest
      refine ⟨hsu.trans hut, ?_, hdeq'.trans hdeq⟩
      rw [hon', hon]
      rfl
  unfold receive at h
  unfold recordFirstInt
  rcases hrec : readRecord buffer with _ | token | ⟨token, request, p⟩
  · rw [hrec] at h
    obtain rfl := Option.some.inj h
    exact ⟨.of_eq rfl, rfl, rfl⟩
  · rw [hrec] at h
    obtain rfl := Option.some.inj h
    exact ⟨.of_eq rfl, rfl, rfl⟩
  · rw [hrec] at h
    obtain ⟨hnewer, hon, hdeq⟩ := hfold _ _ _ _ h
    have hpush : Newer s.ril (pushRequest token request s).ril := .push rfl
    exact ⟨hpush.trans hnewer, hon.trans (dispatch_radioIsOn env request p _), hdeq⟩

/-! ### What a completion issues -/

/-- The completion of a `RIL_REQUEST_RADIO_POWER` calls `enableNetworkSelectionAutomatic` if
`radio_is_on`, whatever the response is. -/
theorem completionMessage_radioPower {ril : RilState} {c : Completion}
    {x : RilState × Option (List UInt8)} (hpower : RadioPower c.request)
    (h : completionMessage P version ril c = some x) :
    x.1 = if ril.radioIsOn then enableNetworkSelectionAutomatic ril else ril := by
  obtain ⟨⟨hlocal, hcancelled⟩, hnumber⟩ := hpower
  have hfun : c.request.pCI.responseFunction = .responseRadioPower := by
    simp [RequestCode.responseFunction, hnumber, rilRequestRadioPower, commandFunctions]
  have hcall : shouldCallResponseFunction c.request c.response = true := if_pos hnumber
  simp only [completionMessage, hlocal, hcancelled, Bool.false_eq_true, if_false] at h
  obtain ⟨y, hy, rfl⟩ := Option.map_eq_some_iff.mp h
  simp only [encodeCompletion, hcall, if_true, hfun] at hy
  obtain ⟨z, hz, rfl⟩ := Option.map_eq_some_iff.mp hy
  obtain rfl := Option.some.inj hz
  show (if ril.radioIsOn then enableNetworkSelectionAutomatic ril else ril) = _
  rfl

theorem automaticCalls_self (s : RilState) : automaticCalls s s = 0 := by
  unfold automaticCalls
  rw [List.drop_length]
  rfl

/-- `enableNetworkSelectionAutomatic` issues one call, for a request on the list. -/
theorem automaticCalls_enable (s : RilState) :
    automaticCalls s (enableNetworkSelectionAutomatic s) = 1 := by
  unfold automaticCalls
  show List.countP _ (List.drop _ (s.vendor ++ [_])) = 1
  rw [List.drop_left, List.countP_singleton, if_pos]
  simp [enableNetworkSelectionAutomatic, issueLocalRequest, RilState.onRequest,
    setNetworkSelectionAutomatic, PendingRequests.push, PendingRequests.node]

/-- **What the completion of a `RIL_REQUEST_RADIO_POWER` issues**: one local request if
`radio_is_on`, and none if not. -/
theorem completionMessage_automaticCalls {ril : RilState} {c : Completion}
    {x : RilState × Option (List UInt8)} (hpower : RadioPower c.request)
    (h : completionMessage P version ril c = some x) :
    automaticCalls ril x.1 = if ril.radioIsOn then 1 else 0 := by
  rw [completionMessage_radioPower P version hpower h]
  split
  · exact automaticCalls_enable ril
  · exact automaticCalls_self ril

/-! ### The invariant of all runs -/

/-- The addresses of the requests that are off the list and whose completion has been seen. -/
def gone (dequeued : List Completion) (completed : List PowerCompletion) : List ℕ :=
  dequeued.map (fun c => c.request.addr) ++ completed.map fun m => m.request.addr

/-- A request is dequeued once, and the variable and the log hold what the values received say. -/
structure PowerInv (s : RadioPowerState) : Prop where
  nodup : (gone s.base.dequeued s.completed).Nodup
  old : ∀ a ∈ gone s.base.dequeued s.completed, a < s.base.ril.pending.fresh
  dequeued : ∀ a ∈ gone s.base.dequeued s.completed, ∀ r ∈ s.base.ril.pending.nodes, r.addr ≠ a
  radioIsOn : s.base.ril.radioIsOn = storedOnOff s.latest false
  received : ∀ a, s.firstInt a ≠ none → s.latest ≠ none
  issued : ∀ m ∈ s.completed, m.issued = if storedOnOff m.latest false then 1 else 0
  latest : ∀ m ∈ s.completed, s.firstInt m.request.addr ≠ none → m.latest ≠ none

/-- What a request sent, and the last value received, when the log stays as it is. -/
theorem PowerInv.keep {s : RadioPowerState} {base : IsolationState} (h : PowerInv s)
    (hnewer : Newer s.base.ril base.ril) (hdequeued : base.dequeued = s.base.dequeued)
    (hon : base.ril.radioIsOn = s.base.ril.radioIsOn) : PowerInv { s with base := base } := by
  refine ⟨hdequeued ▸ h.nodup, ?_, ?_, hon.trans h.radioIsOn, h.received, h.issued, h.latest⟩
  · intro a ha
    exact Nat.lt_of_lt_of_le (h.old a (hdequeued ▸ ha)) hnewer.fresh
  · intro a ha r hr
    have hgone : a ∈ gone s.base.dequeued s.completed := hdequeued ▸ ha
    rcases hnewer.nodes r hr with ⟨q, hq, hqr⟩ | hnew
    · exact hqr ▸ h.dequeued a hgone q hq
    · have := h.old a hgone
      omega

/-- **A record** adds a request, whose first int it notes. -/
theorem PowerInv.record {s : RadioPowerState} {base : IsolationState} {faults : WriteFaults}
    {buffer : List UInt8} (h : PowerInv s)
    (hrec : receive env faults s.base buffer = some base) (radioState : RadioState) (t : Int)
    (ut : UInt8) : PowerInv (s.observe base (.record radioState t ut faults buffer)) := by
  obtain ⟨hnewer, hon, hdequeued⟩ := receive_newer env hrec
  have hkeep : PowerInv { s with base := { base with ril := { base.ril with
      radioIsOn := s.base.ril.radioIsOn } } } :=
    h.keep ⟨hnewer.fresh, hnewer.nodes⟩ hdequeued rfl
  refine ⟨hkeep.nodup, hkeep.old, hkeep.dequeued, ?_, ?_, h.issued, ?_⟩
  · show base.ril.radioIsOn = storedOnOff ((recordFirstInt buffer).or s.latest) false
    rw [hon, h.radioIsOn]
    cases recordFirstInt buffer <;> rfl
  · intro a ha
    have ha' : Function.update s.firstInt s.base.ril.pending.fresh (recordFirstInt buffer) a
      ≠ none := ha
    show (recordFirstInt buffer).or s.latest ≠ none
    cases hfirst : recordFirstInt buffer with
    | some v => simp
    | none =>
      rw [hfirst] at ha'
      by_cases hfresh : a = s.base.ril.pending.fresh
      · rw [hfresh, Function.update_self] at ha'
        exact absurd rfl ha'
      · rw [Function.update_of_ne hfresh] at ha'
        exact h.received a ha'
  · intro m hm hfirst
    have hold : m.request.addr < s.base.ril.pending.fresh :=
      h.old _ (List.mem_append_right _ (List.mem_map_of_mem hm))
    refine h.latest m hm ?_
    rw [← Function.update_of_ne (Nat.ne_of_lt hold) (recordFirstInt buffer) s.firstInt]
    exact hfirst

/-- **The dequeue** takes a request off the list, once. -/
theorem PowerInv.dequeue {s : RadioPowerState} {t : ℕ} {r : RequestInfo}
    {pending : PendingRequests} (h : PowerInv s)
    (hdeq : checkAndDequeueRequestInfo s.base.ril.pending t = some (r, pending)) (e : Int)
    (response : Option ResponseMemory) (responselen : ℕ) :
    PowerInv { s with base := { s.base with
      ril := { s.base.ril with pending := pending }
      dequeued := s.base.dequeued ++ [⟨r, e, response, responselen⟩] } } := by
  obtain ⟨hr, hfresh, hnodes⟩ := checkAndDequeueRequestInfo_some hdeq
  have hunlink := checkAndDequeueRequestInfo_mem s.base.ril.pending hr
  have ht : r.addr = t := by
    unfold checkAndDequeueRequestInfo at hdeq
    split at hdeq
    · exact absurd hdeq (by simp)
    · obtain ⟨q, hq, hqr⟩ := Option.map_eq_some_iff.mp hdeq
      obtain ⟨rfl, -⟩ := Prod.mk.inj hqr
      simpa using List.find?_some hq
  rw [ht, hdeq] at hunlink
  obtain rfl := (Prod.mk.inj (Option.some.inj hunlink)).2
  have hperm : gone (s.base.dequeued ++ [⟨r, e, response, responselen⟩]) s.completed
      |>.Perm (r.addr :: gone s.base.dequeued s.completed) := by
    unfold gone
    rw [List.map_append, List.append_assoc]
    exact List.perm_middle
  refine ⟨?_, ?_, ?_, h.radioIsOn, h.received, h.issued, h.latest⟩
  · rw [hperm.nodup_iff, List.nodup_cons]
    exact ⟨fun hmem => h.dequeued _ hmem r hr rfl, h.nodup⟩
  · intro a ha
    rcases List.mem_cons.mp (hperm.mem_iff.mp ha) with rfl | hold
    · exact s.base.ril.pending.addr_lt r hr
    · exact h.old a hold
  · intro a ha q hq
    rcases List.mem_cons.mp (hperm.mem_iff.mp ha) with rfl | hold
    · exact ht ▸ s.base.ril.pending.addr_ne_of_mem_unlink hq
    · exact h.dequeued a hold q (hnodes q hq)

/-- **The encoding** logs what the completion of a `RIL_REQUEST_RADIO_POWER` issues. -/
theorem PowerInv.testCancelled {s : RadioPowerState} {i : ℕ} {c : Completion}
    {x : RilState × Option (List UInt8)} (h : PowerInv s) (hc : s.base.dequeued[i]? = some c)
    (hx : completionMessage P version s.base.ril c = some x) (encoded : List (ℕ × List UInt8)) :
    PowerInv (s.observe { s.base with
      ril := x.1
      dequeued := s.base.dequeued.eraseIdx i
      encoded := encoded } (.testCancelled i)) := by
  obtain ⟨hnewer, hon⟩ := completionMessage_newer P version hx
  obtain ⟨hi, hget⟩ := List.getElem?_eq_some_iff.mp hc
  have hperm : (c.request.addr :: gone (s.base.dequeued.eraseIdx i) s.completed).Perm
      (gone s.base.dequeued s.completed) := by
    have hmap := (List.getElem_cons_eraseIdx_perm hi).map fun c : Completion => c.request.addr
    rw [hget] at hmap
    exact hmap.append_right _
  -- the request that leaves is logged, or dropped
  have hlog : ∃ log, (s.observe { s.base with
        ril := x.1
        dequeued := s.base.dequeued.eraseIdx i
        encoded := encoded } (.testCancelled i)).completed = s.completed ++ log ∧
      (log = [] ∨ log = [⟨c.request, s.latest, if s.base.ril.radioIsOn then 1 else 0⟩]) := by
    refine ⟨_, rfl, ?_⟩
    rw [hc]
    by_cases hpower : RadioPower c.request
    · right
      rw [← completionMessage_automaticCalls P version hpower hx]
      simp [hpower]
    · left
      simp [hpower]
  obtain ⟨log, hcompleted, hlog⟩ := hlog
  have hsub : (gone (s.base.dequeued.eraseIdx i) (s.completed ++ log)).Subperm
      (gone s.base.dequeued s.completed) := by
    unfold gone at hperm ⊢
    rw [List.map_append, ← List.append_assoc]
    rcases hlog with rfl | rfl
    · rw [List.map_nil, List.append_nil]
      exact (List.sublist_cons_self _ _).subperm.trans hperm.subperm
    · exact ((List.perm_append_singleton _ _).trans hperm).subperm
  have hnodup : (gone (s.base.dequeued.eraseIdx i) (s.completed ++ log)).Nodup := by
    obtain ⟨l, hl, hls⟩ := hsub
    exact hl.nodup_iff.mp (hls.nodup h.nodup)
  refine ⟨?_, ?_, ?_, hon.trans h.radioIsOn, h.received, ?_, ?_⟩
  · rw [hcompleted]
    exact hnodup
  · intro a ha
    rw [hcompleted] at ha
    exact Nat.lt_of_lt_of_le (h.old a (hsub.subset ha)) hnewer.fresh
  · intro a ha r hr
    rw [hcompleted] at ha
    rcases hnewer.nodes r hr with ⟨q, hq, hqr⟩ | hnew
    · exact hqr ▸ h.dequeued a (hsub.subset ha) q hq
    · have := h.old a (hsub.subset ha)
      omega
  · intro m hm
    rw [hcompleted] at hm
    rcases List.mem_append.mp hm with hm | hm
    · exact h.issued m hm
    · rcases hlog with rfl | rfl
      · exact absurd hm List.not_mem_nil
      · obtain rfl := List.mem_singleton.mp hm
        rw [h.radioIsOn]
  · intro m hm hfirst
    rw [hcompleted] at hm
    rcases List.mem_append.mp hm with hm | hm
    · exact h.latest m hm hfirst
    · rcases hlog with rfl | rfl
      · exact absurd hm List.not_mem_nil
      · obtain rfl := List.mem_singleton.mp hm
        exact h.received _ hfirst

/-- **Every step** keeps the invariant. -/
theorem PowerInv.step {s t : RadioPowerState} {a : IsolationAction} (h : PowerInv s)
    (hst : radioPowerStep P version s a = some t) : PowerInv t := by
  obtain ⟨base, hbase, rfl⟩ := Option.map_eq_some_iff.mp hst
  cases isolationStepTo_of_step P version hbase with
  | accept | closeCommands | sendResponse => exact h.keep (.of_eq rfl) rfl rfl
  | rejectPeer | socketClosed => exact h.keep (cancelAll_newer s.base) rfl rfl
  | record radioState t ut _ _ _ hreceive => exact h.record _ hreceive radioState t ut
  | dequeueNone => exact h
  | dequeue _ e response responselen hdeq => exact h.dequeue hdeq e response responselen
  | testCancelled _ hc hx => exact h.testCancelled P version hc hx _

/-- **Network selection follows the last value received.**  In every run a request completes at
most once, and its completion issues what its own first int asks for exactly if the last
`RIL_REQUEST_RADIO_POWER` received before asks for the same. -/
theorem completion_follows_iff {s : RadioPowerState}
    (h : Runs.Reachable (radioPowerSystem P version) s) :
    (s.completed.map fun m => m.request.addr).Nodup ∧
      ∀ m ∈ s.completed, FollowsRequest s m ↔ LatestAgrees s m := by
  have hinv : PowerInv s := by
    refine Runs.Reaches.invariant h ?_ fun hs _ hst => hs.step P version hst
    exact ⟨List.nodup_nil, fun a ha => absurd ha List.not_mem_nil,
      fun a ha => absurd ha List.not_mem_nil, rfl, fun a ha => absurd rfl ha,
      fun m hm => absurd hm List.not_mem_nil, fun m hm => absurd hm List.not_mem_nil⟩
  refine ⟨(List.nodup_append.mp hinv.nodup).2.1, fun m hm => forall₂_congr fun v hv => ?_⟩
  obtain ⟨w, hw⟩ := Option.ne_none_iff_exists'.mp (hinv.latest m hm (by rw [hv]; simp))
  rw [hinv.issued m hm, hw]
  by_cases hwz : w = 0
  · by_cases hvz : v = 0 <;> simp [storedOnOff, hwz, hvz]
  · by_cases hvz : v = 0 <;> simp [storedOnOff, hwz, hvz]

/-! ### Two runs -/

/-- The record of a `RIL_REQUEST_RADIO_POWER` with one integer. -/
def radioPowerRecord (token isOn : UInt8) : IsolationAction :=
  .record .on 0 0 noFaults [23, 0, 0, 0, token, 0, 0, 0, 1, 0, 0, 0, isOn, 0, 0, 0]

/-- What the log says of requests, last values and local requests. -/
def powerLog (s : RadioPowerState) : List (ℕ × Option Int × ℕ) × Option Int × Option Int :=
  (s.completed.map fun m => (m.request.addr, m.latest, m.issued), s.firstInt 1, s.firstInt 2)

/-- Switched on, with nothing else under way: one local request. -/
theorem radio_on_follows : ∃ s : RadioPowerState, powerLog s = ([(1, some 1, 1)], some 1, none) ∧
    (s.completed.map fun m => m.request.addr).Nodup ∧
      ∀ m ∈ s.completed, FollowsRequest s m ↔ LatestAgrees s m := by
  have hrun : (Runs.exec (radioPowerSystem x86 11) (fun _ _ => True)
      (radioPowerSystem x86 11).init [.accept 5, radioPowerRecord 7 1, .dequeue 1 0 none 0,
        .testCancelled 0]).map powerLog = some ([(1, some 1, 1)], some 1, none) := by
    decide +kernel
  obtain ⟨s, hs, hlog⟩ := Option.map_eq_some_iff.mp hrun
  exact ⟨s, hlog, completion_follows_iff x86 11 (Runs.reaches_of_exec hs)⟩

/-- Switched on, off and on again, while the earlier requests are under way: the completion of the
first request, which asked for on, issues nothing, and that of the second, which asked for off,
issues a local request. -/
theorem radio_on_then_off : ∃ s, Runs.Reachable (radioPowerSystem x86 11) s ∧
    powerLog s = ([(1, some 0, 0), (2, some 1, 1)], some 1, some 0) ∧
    ¬ ∀ m ∈ s.completed, FollowsRequest s m := by
  have hrun : (Runs.exec (radioPowerSystem x86 11) (fun _ _ => True)
      (radioPowerSystem x86 11).init [.accept 5, radioPowerRecord 7 1, radioPowerRecord 8 0,
        .dequeue 1 0 none 0, .testCancelled 0, radioPowerRecord 9 1, .dequeue 2 0 none 0,
        .testCancelled 0]).map powerLog
      = some ([(1, some 0, 0), (2, some 1, 1)], some 1, some 0) := by decide +kernel
  obtain ⟨s, hs, hlog⟩ := Option.map_eq_some_iff.mp hrun
  refine ⟨s, Runs.reaches_of_exec hs, hlog, fun hall => ?_⟩
  have hmap : (1, some (0 : Int), 0) ∈
      s.completed.map fun m => (m.request.addr, m.latest, m.issued) := by
    rw [show (s.completed.map fun m => (m.request.addr, m.latest, m.issued)) = _ from
      congrArg Prod.fst hlog]
    exact List.mem_cons_self ..
  obtain ⟨m, hm, hmlog⟩ := List.mem_map.mp hmap
  obtain ⟨haddr, hrest⟩ := Prod.mk.inj hmlog
  have hfirst : s.firstInt 1 = some 1 := congrArg (fun x => x.2.1) hlog
  have hissued := hall m hm 1 (haddr.symm ▸ hfirst)
  rw [(Prod.mk.inj hrest).2] at hissued
  exact absurd hissued (by decide)

end CtpCommon.Ril
