import CtpCommon.Lib.Runs
import CtpCommon.Ril.Dispatch

/-!
# Unsolicited responses and the wake lock

`RIL_onUnsolicitedResponse` takes the wake lock for a message that wakes the phone, and leaves
its release to a timer.  An earlier timer is not removed: its `userParam` is set, and
`wakeTimeoutCallback` ignores a timer so marked.

* `onUnsolicited` — one message: the wake lock, the encoding, the extra payload of two messages,
  the frame, the timer; an encoding error exits early and releases the lock itself;
* `processRadioState` — the messages an old vendor's radio state gives rise to, sent from inside
  the message that reported it;
* `userTimerCallback` — a timer expires;
* `wakeSystem` — any order of messages, expiries, vendor timers and connections;
* `WakeInv` — the lock is held iff a last timer is recorded, and then it is the only live one;
* `wake_window` — **PROVED**: the invariant holds in every run in which no waking message fails to
  encode while a timer is running;
* `failed_message_releases` — a run of two messages that breaks it: the lock is not counted, so
  the error exit releases what the earlier message holds.
-/

namespace CtpCommon.Ril

open Parcel (Write)

/-! ### The state -/

/-- `malloc`, given the addresses in use. -/
structure Allocator where
  malloc : List ℕ → ℕ
  malloc_fresh : ∀ used, malloc used ∉ used

/-- An allocator whose addresses grow with those in use. -/
def bumpAllocator : Allocator where
  malloc used := used.sum + 1
  malloc_fresh := by
    intro used hmem
    have hle := List.le_sum_of_mem hmem
    omega

/-- The callbacks timers are started with: libril's own, or one of the vendor's. -/
inductive TimedCallback where
  | wakeTimeoutCallback
  | vendor
  deriving DecidableEq, Repr

/-- `UserCallbackInfo`; `userParam` says whether the parameter is not `NULL`. -/
structure UserCallbackInfo where
  addr : ℕ
  callback : TimedCallback
  userParam : Bool
  deriving DecidableEq, Repr

/-- The state of the requests, the static variables of the unsolicited responses, the wake lock,
and the timers that have been started and have not expired. -/
structure UnsolState where
  ril : RilState
  registerCalled : Bool
  simRuimStatus : Int
  lastNITZTimeData : Option (List UInt8)
  wakeLock : Bool
  lastWakeTimeoutInfo : Option ℕ
  timers : List UserCallbackInfo

/-- What stays the same during a run. -/
structure UnsolEnv where
  platform : Platform
  version : Int
  allocator : Allocator

/-- What one call finds outside: the radio state the vendor reports, the clock, and the write
errors of its frames. -/
structure UnsolInput where
  radioState : RadioState
  timeReceived : Int
  faults : WriteFaults

/-- The arguments of `RIL_onUnsolicitedResponse`. -/
structure UnsolCall where
  unsolResponse : Int
  data : Option ResponseMemory
  datalen : ℕ

variable (E : UnsolEnv)

def UnsolState.encodeEnv (s : UnsolState) : EncodeEnv := s.ril.encodeEnv E.platform E.version

/-- `s_unsolResponses[unsolResponse - RIL_UNSOL_RESPONSE_BASE]`, if that is inside the table. -/
def unsolResponseInfo (unsolResponse : Int) : Option UnsolResponseInfo :=
  if unsolResponse - rilUnsolResponseBase < 0 then none
  else sUnsolResponses[(unsolResponse - rilUnsolResponseBase).toNat]?

/-! ### Timers and the lock -/

def grabPartialWakeLock (s : UnsolState) : UnsolState := { s with wakeLock := true }

def releaseWakeLock (s : UnsolState) : UnsolState := { s with wakeLock := false }

/-- A new timer, and its address. -/
def internalRequestTimedCallback (s : UnsolState) (callback : TimedCallback) : UnsolState × ℕ :=
  let addr := E.allocator.malloc (s.timers.map UserCallbackInfo.addr)
  ({ s with timers := s.timers ++ [⟨addr, callback, false⟩] }, addr)

/-- `s_last_wake_timeout_info->userParam = (void *)1`. -/
def cancelTimer (addr : ℕ) (s : UnsolState) : UnsolState :=
  { s with timers := s.timers.map fun t =>
      if t.addr = addr then { t with userParam := true } else t }

/-- Cancel the previous timer and start the next. -/
def scheduleWakeTimeout (s : UnsolState) : UnsolState :=
  let s := match s.lastWakeTimeoutInfo with
    | some addr => cancelTimer addr s
    | none => s
  let r := internalRequestTimedCallback E s .wakeTimeoutCallback
  { r.1 with lastWakeTimeoutInfo := some r.2 }

/-- `userTimerCallback`: run the callback, forget the last timer if it is this one, free it. -/
def userTimerCallback (t : UserCallbackInfo) (s : UnsolState) : UnsolState :=
  let s := if t.callback = .wakeTimeoutCallback ∧ t.userParam = false then releaseWakeLock s else s
  let s := if s.lastWakeTimeoutInfo = some t.addr then { s with lastWakeTimeoutInfo := none } else s
  { s with timers := s.timers.filter fun u => u.addr ≠ t.addr }

/-! ### One message -/

/-- The end of a message that was encoded: the frame, the copy kept of an NITZ time that could
not be sent, and the timer. -/
def finishUnsolicited (input : UnsolInput) (unsolResponse : Int) (shouldScheduleTimeout : Bool)
    (payload : List Write) (s : UnsolState) : UnsolState :=
  let p := ((Parcel.ofBytes []).writeInt32 responseUnsolicited).writeInt32 unsolResponse
  let p := p.writeAll payload
  let sent := sendResponseRaw s.ril.fdCommand p.data input.faults
  let ril := { s.ril with channel := s.ril.channel ++ sent.2 }
  let s := { s with ril := ril }
  let s := if sent.1 ≠ 0 ∧ unsolResponse = rilUnsolNitzTimeReceived then
    { s with lastNITZTimeData := some p.data } else s
  if shouldScheduleTimeout then scheduleWakeTimeout E s else s

/-- From the encoding on, once the wake lock is grabbed: an encoding error exits early; `more` is
the switch on the messages that get more payload, and `none` is a read through a null pointer. -/
def sendUnsolicited (more : Int → UnsolState → Option (UnsolState × List Write))
    (input : UnsolInput) (c : UnsolCall) (responseFunction : ResponseFunction) (wake : Bool)
    (s : UnsolState) : Option UnsolState :=
  match encode (s.encodeEnv E) responseFunction c.data c.datalen with
  | none => none
  | some x =>
      let s := { s with ril := x.effects s.ril }
      if x.ret ≠ 0 then some (if wake then releaseWakeLock s else s)
      else
        (more c.unsolResponse s).map fun r =>
          finishUnsolicited E input c.unsolResponse wake (x.writes ++ r.2) r.1

/-- The body of `RIL_onUnsolicitedResponse`. -/
def onUnsolicited (more : Int → UnsolState → Option (UnsolState × List Write))
    (input : UnsolInput) (s : UnsolState) (c : UnsolCall) : Option UnsolState :=
  if s.registerCalled = false then some s
  else
    match unsolResponseInfo c.unsolResponse with
    | none => some s
    | some info =>
        let wake : Bool := info.wakeType = .wakePartial
        sendUnsolicited E more input c info.responseFunction wake
          (if wake then grabPartialWakeLock s else s)

/-- The three messages below get no more payload. -/
def onNestedUnsolicited : UnsolInput → UnsolState → UnsolCall → Option UnsolState :=
  onUnsolicited E fun _ s => some (s, [])

/-! ### The radio state -/

def decodeSimStatus : RadioState → Int
  | .simLockedOrAbsent => RadioState.simLockedOrAbsent.toInt
  | .simReady => RadioState.simReady.toInt
  | .ruimReady => RadioState.ruimReady.toInt
  | .ruimLockedOrAbsent => RadioState.ruimLockedOrAbsent.toInt
  | _ => -1

/-- IS95A, IS95B, 1xRTT, EVDO_0, EVDO_A, EVDO_B and EHRPD. -/
def is3gpp2 (radioTech : Int) : Bool := radioTech ∈ [4, 5, 6, 7, 8, 12, 13]

/-- A message that carries a static `int`, or nothing. -/
def intCall (unsolResponse : ℕ) (v : Int) : UnsolCall :=
  ⟨unsolResponse, some (intMemory v), wordSize⟩

def notifyVoiceRadioTech (input : UnsolInput) (new : Int) (s : UnsolState) : Option UnsolState :=
  if new ≠ s.ril.voiceRadioTech then
    onNestedUnsolicited E input { s with ril := { s.ril with voiceRadioTech := new } }
      (intCall rilUnsolVoiceRadioTechChanged new)
  else some s

/-- Only a 3GPP2 technology has a subscription source. -/
def notifyCdmaSubscriptionSource (input : UnsolInput) (tech new : Int) (s : UnsolState) :
    Option UnsolState :=
  if is3gpp2 tech ∧ new ≠ s.ril.cdmaSubscriptionSource then
    onNestedUnsolicited E input { s with ril := { s.ril with cdmaSubscriptionSource := new } }
      (intCall rilUnsolCdmaSubscriptionSourceChanged new)
  else some s

def notifySimStatus (input : UnsolInput) (new : Int) (s : UnsolState) : Option UnsolState :=
  if new ≠ s.simRuimStatus then
    onNestedUnsolicited E input { s with simRuimStatus := new }
      ⟨rilUnsolResponseSimStatusChanged, none, 0⟩
  else some s

/-- The state written into the message: the states of an old vendor are decoded into
notifications, and reported as `RADIO_STATE_ON`. -/
def processRadioState (input : UnsolInput) (s : UnsolState) : Option (UnsolState × RadioState) :=
  let state := input.radioState
  if state ≠ .off ∧ state ≠ .unavailable ∧ state ≠ .on then do
    let tech := decodeVoiceRadioTechnology state
    let s ← notifyVoiceRadioTech E input tech s
    let s ← notifyCdmaSubscriptionSource E input tech (decodeCdmaSubscriptionSource state) s
    let s ← notifySimStatus E input (decodeSimStatus state) s
    return (s, .on)
  else some (s, state)

/-- `switch(unsolResponse)`: two messages get more payload. -/
def morePayload (input : UnsolInput) (unsolResponse : Int) (s : UnsolState) :
    Option (UnsolState × List Write) :=
  if unsolResponse = rilUnsolResponseRadioStateChanged then
    (processRadioState E input s).map fun r => (r.1, [.int32 r.2.toInt])
  else if unsolResponse = rilUnsolNitzTimeReceived then
    some (s, [.int64 input.timeReceived])
  else some (s, [])

def rilOnUnsolicitedResponse (input : UnsolInput) : UnsolState → UnsolCall → Option UnsolState :=
  onUnsolicited E (morePayload E input) input

/-! ### Runs -/

inductive UnsolAction where
  | register
  | connection (fdCommand : Int)
  | unsolicited (input : UnsolInput) (call : UnsolCall)
  | requestTimedCallback
  | timer (t : UserCallbackInfo)

/-- One step; a timer expires once it is pending, in any order. -/
def unsolStep (s : UnsolState) : UnsolAction → Option UnsolState
  | .register => some { s with registerCalled := true }
  | .connection fdCommand => some { s with ril := { s.ril with fdCommand := fdCommand } }
  | .unsolicited input call => rilOnUnsolicitedResponse E input s call
  | .requestTimedCallback => some (internalRequestTimedCallback E s .vendor).1
  | .timer t => if t ∈ s.timers then some (userTimerCallback t s) else none

def unsolInit : UnsolState where
  ril := ⟨PendingRequests.empty, -1, [], [], false, 0, -1, -1⟩
  registerCalled := false
  simRuimStatus := -1
  lastNITZTimeData := none
  wakeLock := false
  lastWakeTimeoutInfo := none
  timers := []

def wakeSystem : Runs.System UnsolState UnsolAction := ⟨unsolInit, unsolStep E⟩

/-- Does a message take the wake lock and then fail to encode? -/
def wakeFails (s : UnsolState) (c : UnsolCall) : Bool :=
  s.registerCalled &&
  match unsolResponseInfo c.unsolResponse with
  | none => false
  | some info =>
      info.wakeType = .wakePartial &&
      match encode (s.encodeEnv E) info.responseFunction c.data c.datalen with
      | none => false
      | some x => x.ret ≠ 0

/-- No waking message fails to encode while a timer is running. -/
def KeepsWindow (s : UnsolState) : UnsolAction → Prop
  | .unsolicited _ call => wakeFails E s call = true → s.lastWakeTimeoutInfo = none
  | _ => True

/-! ### The invariant -/

/-- The pending `wakeTimeoutCallback` timers whose `userParam` is `NULL`. -/
def liveTimers (s : UnsolState) : List ℕ :=
  (s.timers.filter fun t => t.callback = .wakeTimeoutCallback ∧ t.userParam = false).map
    UserCallbackInfo.addr

/-- The recorded timer is the only live one, and addresses are not shared. -/
structure TimersOk (s : UnsolState) : Prop where
  live : liveTimers s = s.lastWakeTimeoutInfo.toList
  nodup : (s.timers.map UserCallbackInfo.addr).Nodup

/-- **The wake window**: the lock is held iff a timer is recorded, and it is the only live one. -/
structure WakeInv (s : UnsolState) : Prop extends TimersOk s where
  held : s.wakeLock = s.lastWakeTimeoutInfo.isSome

/-- Only the timers and the recorded one matter. -/
theorem TimersOk.congr {s s' : UnsolState} (h : TimersOk s) (ht : s'.timers = s.timers)
    (hl : s'.lastWakeTimeoutInfo = s.lastWakeTimeoutInfo) : TimersOk s' := by
  obtain ⟨hlive, hnodup⟩ := h
  refine ⟨?_, by rw [ht]; exact hnodup⟩
  rw [hl, ← hlive]
  unfold liveTimers
  rw [ht]

theorem cancelTimer_addrs (addr : ℕ) (s : UnsolState) :
    (cancelTimer addr s).timers.map UserCallbackInfo.addr
      = s.timers.map UserCallbackInfo.addr := by
  unfold cancelTimer
  rw [List.map_map]
  refine List.map_congr_left fun t _ => ?_
  show (if t.addr = addr then _ else t).addr = t.addr
  split <;> rfl

/-- Cancelling a timer takes it off the live ones. -/
theorem liveTimers_cancelTimer (addr : ℕ) (s : UnsolState) :
    liveTimers (cancelTimer addr s) = (liveTimers s).filter fun a => a ≠ addr := by
  unfold liveTimers cancelTimer
  generalize s.timers = ts
  induction ts with
  | nil => rfl
  | cons t ts ih =>
    by_cases ha : t.addr = addr
    · by_cases hl : t.callback = .wakeTimeoutCallback ∧ t.userParam = false <;> simp_all
    · by_cases hl : t.callback = .wakeTimeoutCallback ∧ t.userParam = false <;> simp_all

/-- A new timer of libril's own is live, one of the vendor's is not. -/
theorem liveTimers_internalRequest (s : UnsolState) (callback : TimedCallback) :
    liveTimers (internalRequestTimedCallback E s callback).1
      = liveTimers s ++ if callback = .wakeTimeoutCallback then
          [(internalRequestTimedCallback E s callback).2] else [] := by
  unfold liveTimers internalRequestTimedCallback
  rw [List.filter_append, List.map_append]
  split <;> simp_all

theorem nodup_internalRequest {s : UnsolState} (h : (s.timers.map UserCallbackInfo.addr).Nodup)
    (callback : TimedCallback) :
    ((internalRequestTimedCallback E s callback).1.timers.map UserCallbackInfo.addr).Nodup := by
  unfold internalRequestTimedCallback
  rw [List.map_append]
  refine List.nodup_append.mpr ⟨h, List.nodup_singleton _, ?_⟩
  intro a ha b hb hab
  obtain rfl : b = E.allocator.malloc (s.timers.map UserCallbackInfo.addr) := by simpa using hb
  exact E.allocator.malloc_fresh _ (hab ▸ ha)

/-- **Rescheduling** leaves the new timer as the only live one, and does not touch the lock. -/
theorem scheduleWakeTimeout_ok {s : UnsolState} (h : TimersOk s) :
    TimersOk (scheduleWakeTimeout E s) ∧
      (scheduleWakeTimeout E s).lastWakeTimeoutInfo.isSome = true ∧
      (scheduleWakeTimeout E s).wakeLock = s.wakeLock := by
  obtain ⟨hlive, hnodup⟩ := h
  obtain ⟨t, ht, hnone, hnodup', hlock⟩ : ∃ t : UnsolState,
      (match s.lastWakeTimeoutInfo with
        | some addr => cancelTimer addr s
        | none => s) = t ∧
      liveTimers t = [] ∧ (t.timers.map UserCallbackInfo.addr).Nodup ∧
        t.wakeLock = s.wakeLock := by
    rcases hl : s.lastWakeTimeoutInfo with _ | addr
    · rw [hl] at hlive
      exact ⟨s, rfl, hlive, hnodup, rfl⟩
    · rw [hl] at hlive
      refine ⟨cancelTimer addr s, rfl, ?_, ?_, rfl⟩
      · rw [liveTimers_cancelTimer, hlive]
        simp
      · rw [cancelTimer_addrs]
        exact hnodup
  have hlive' := liveTimers_internalRequest E t .wakeTimeoutCallback
  rw [hnone, if_pos rfl, List.nil_append] at hlive'
  have hnodup'' := nodup_internalRequest E hnodup' .wakeTimeoutCallback
  unfold scheduleWakeTimeout
  rw [ht]
  exact ⟨⟨hlive', hnodup''⟩, rfl, hlock⟩

/-! ### What one message can do -/

/-- From the encoding on: given up after an encoding error, or finished. -/
theorem sendUnsolicited_cases {more : Int → UnsolState → Option (UnsolState × List Write)}
    {input : UnsolInput} {c : UnsolCall} {responseFunction : ResponseFunction} {wake : Bool}
    {s s' : UnsolState} (h : sendUnsolicited E more input c responseFunction wake s = some s') :
    ∃ x, encode (s.encodeEnv E) responseFunction c.data c.datalen = some x ∧
      ((x.ret ≠ 0 ∧ s' = if wake then releaseWakeLock { s with ril := x.effects s.ril }
          else { s with ril := x.effects s.ril }) ∨
        (x.ret = 0 ∧ ∃ t payload,
          more c.unsolResponse { s with ril := x.effects s.ril } = some (t, payload) ∧
          s' = finishUnsolicited E input c.unsolResponse wake (x.writes ++ payload) t)) := by
  unfold sendUnsolicited at h
  rcases hx : encode (s.encodeEnv E) responseFunction c.data c.datalen with _ | x
  · rw [hx] at h
    exact absurd h (by simp)
  rw [hx] at h
  refine ⟨x, rfl, ?_⟩
  by_cases hret : x.ret = 0
  · simp only [hret, ne_eq, not_true_eq_false, if_false] at h
    obtain ⟨⟨t, payload⟩, hmore, hs'⟩ := Option.map_eq_some_iff.mp h
    exact .inr ⟨hret, t, payload, hmore, hs'.symm⟩
  · simp only [ne_eq, hret, not_false_eq_true, if_true] at h
    exact .inl ⟨hret, (Option.some.inj h).symm⟩

/-- **One message**: ignored, given up after an encoding error, or finished. -/
theorem onUnsolicited_cases {more : Int → UnsolState → Option (UnsolState × List Write)}
    {input : UnsolInput} {s s' : UnsolState} {c : UnsolCall}
    (h : onUnsolicited E more input s c = some s') :
    s' = s ∨ ∃ info x s₁, ∃ wake : Bool, s.registerCalled = true ∧
      unsolResponseInfo c.unsolResponse = some info ∧
      wake = decide (info.wakeType = .wakePartial) ∧
      encode (s.encodeEnv E) info.responseFunction c.data c.datalen = some x ∧
      s₁.timers = s.timers ∧ s₁.lastWakeTimeoutInfo = s.lastWakeTimeoutInfo ∧
      s₁.wakeLock = (s.wakeLock || wake) ∧
      ((x.ret ≠ 0 ∧ s' = if wake then releaseWakeLock s₁ else s₁) ∨
        (x.ret = 0 ∧ ∃ t payload, more c.unsolResponse s₁ = some (t, payload) ∧
          s' = finishUnsolicited E input c.unsolResponse wake (x.writes ++ payload) t)) := by
  unfold onUnsolicited at h
  by_cases hreg : s.registerCalled = false
  · rw [if_pos hreg] at h
    exact .inl (Option.some.inj h).symm
  rw [if_neg hreg] at h
  rcases hinfo : unsolResponseInfo c.unsolResponse with _ | info
  · rw [hinfo] at h
    exact .inl (Option.some.inj h).symm
  rw [hinfo] at h
  have hsend := sendUnsolicited_cases E h
  generalize hwake : decide (info.wakeType = .wakePartial) = wake at hsend
  have hgrab : ∃ s₀ : UnsolState, (if wake then grabPartialWakeLock s else s) = s₀ ∧
      s₀.timers = s.timers ∧ s₀.lastWakeTimeoutInfo = s.lastWakeTimeoutInfo ∧
      s₀.wakeLock = (s.wakeLock || wake) ∧ s₀.encodeEnv E = s.encodeEnv E := by
    refine ⟨_, rfl, ?_⟩
    cases wake
    · exact ⟨rfl, rfl, (Bool.or_false _).symm, rfl⟩
    · exact ⟨rfl, rfl, (Bool.or_true _).symm, rfl⟩
  obtain ⟨s₀, hs₀, htimers, hlast, hlock, henc⟩ := hgrab
  rw [hs₀, henc] at hsend
  obtain ⟨x, hx, hcase⟩ := hsend
  exact .inr ⟨info, x, { s₀ with ril := x.effects s₀.ril }, wake, by simpa using hreg, rfl,
    hwake.symm, hx, htimers, hlast, hlock, hcase⟩

/-- The frame, and the copy of an NITZ time, leave timers and lock alone. -/
theorem finishUnsolicited_ok (input : UnsolInput) (unsolResponse : Int) (wake : Bool)
    (payload : List Write) {s : UnsolState} (h : TimersOk s) :
    TimersOk (finishUnsolicited E input unsolResponse wake payload s) ∧
      (finishUnsolicited E input unsolResponse wake payload s).wakeLock = s.wakeLock ∧
      (finishUnsolicited E input unsolResponse wake payload s).lastWakeTimeoutInfo.isSome
        = (s.lastWakeTimeoutInfo.isSome || wake) := by
  unfold finishUnsolicited
  extract_lets p q sent r ril s₁ s₂
  have h₂ : s₂.timers = s.timers ∧ s₂.lastWakeTimeoutInfo = s.lastWakeTimeoutInfo ∧
      s₂.wakeLock = s.wakeLock := by
    simp only [s₂]
    split <;> exact ⟨rfl, rfl, rfl⟩
  obtain ⟨htimers, hlast, hlock⟩ := h₂
  have hok : TimersOk s₂ := h.congr htimers hlast
  cases wake with
  | true =>
    obtain ⟨hok', hsome, hlock'⟩ := scheduleWakeTimeout_ok E hok
    refine ⟨hok', hlock'.trans hlock, ?_⟩
    rw [Bool.or_true]
    exact hsome
  | false =>
    refine ⟨hok, hlock, ?_⟩
    rw [Bool.or_false, ← hlast]
    rfl

/-- While a message is being handled the lock is held, whatever the recorded timer is. -/
structure Held (s : UnsolState) : Prop extends TimersOk s where
  held : s.wakeLock = true

/-- A nested message that always encodes keeps the lock. -/
theorem onNestedUnsolicited_held {input : UnsolInput} {s s' : UnsolState} {c : UnsolCall}
    (hret : ∀ info, unsolResponseInfo c.unsolResponse = some info → ∀ env x,
      encode env info.responseFunction c.data c.datalen = some x → x.ret = 0)
    (hs : Held s) (h : onNestedUnsolicited E input s c = some s') : Held s' := by
  obtain rfl | ⟨info, x, s₁, wake, -, hinfo, -, hx, htimers, hlast, hlock, hcase⟩ :=
    onUnsolicited_cases E h
  · exact hs
  have h₁ : TimersOk s₁ := hs.toTimersOk.congr htimers hlast
  rcases hcase with ⟨hbad, -⟩ | ⟨-, t, payload, hmore, rfl⟩
  · exact absurd (hret info hinfo _ x hx) hbad
  · obtain ⟨rfl, -⟩ := Prod.mk.inj (Option.some.inj hmore)
    obtain ⟨hok, hlock', -⟩ := finishUnsolicited_ok E input c.unsolResponse wake
      (x.writes ++ payload) h₁
    refine ⟨hok, ?_⟩
    rw [hlock', hlock, hs.held, Bool.true_or]

/-- A message with one static `int` for `responseInts`, or any message for `responseVoid`,
encodes. -/
theorem encode_ret_zero {env : EncodeEnv} {f : ResponseFunction} {c : UnsolCall} {x : Encoded}
    (hf : f = .responseVoid ∨ f = .responseInts ∧ c.data.isSome ∧ c.datalen = wordSize)
    (h : encode env f c.data c.datalen = some x) : x.ret = 0 := by
  rcases hf with rfl | ⟨rfl, hsome, hlen⟩
  · obtain rfl := Option.some.inj h
    rfl
  · obtain ⟨r, hr⟩ := Option.isSome_iff_exists.mp hsome
    rw [hr, hlen] at h
    obtain rfl := Option.some.inj h
    rfl

/-- The table's functions for the three notifications of a radio state. -/
theorem notification_functions :
    (unsolResponseInfo rilUnsolVoiceRadioTechChanged).map UnsolResponseInfo.responseFunction
        = some .responseInts ∧
    (unsolResponseInfo rilUnsolCdmaSubscriptionSourceChanged).map
        UnsolResponseInfo.responseFunction = some .responseInts ∧
    (unsolResponseInfo rilUnsolResponseSimStatusChanged).map UnsolResponseInfo.responseFunction
        = some .responseVoid := by
  decide +kernel

/-- A notification of a static `int` keeps the lock. -/
theorem intCall_held {input : UnsolInput} {s s' : UnsolState} {unsolResponse : ℕ} {v : Int}
    (hf : (unsolResponseInfo unsolResponse).map UnsolResponseInfo.responseFunction
      = some .responseInts)
    (hs : Held s) (h : onNestedUnsolicited E input s (intCall unsolResponse v) = some s') :
    Held s' := by
  refine onNestedUnsolicited_held E (fun info hinfo env x hx => ?_) hs h
  have hinfo' : unsolResponseInfo unsolResponse = some info := hinfo
  rw [hinfo'] at hf
  exact encode_ret_zero (.inr ⟨Option.some.inj hf, rfl, rfl⟩) hx

theorem Held.setRil {s : UnsolState} (hs : Held s) (ril : RilState) :
    Held { s with ril := ril } :=
  ⟨hs.toTimersOk.congr rfl rfl, hs.held⟩

theorem notifyVoiceRadioTech_held {input : UnsolInput} {new : Int} {s s' : UnsolState}
    (hs : Held s) (h : notifyVoiceRadioTech E input new s = some s') : Held s' := by
  unfold notifyVoiceRadioTech at h
  by_cases hnew : new ≠ s.ril.voiceRadioTech
  · rw [if_pos hnew] at h
    exact intCall_held E notification_functions.1 (hs.setRil _) h
  · rw [if_neg hnew] at h
    exact Option.some.inj h ▸ hs

theorem notifyCdmaSubscriptionSource_held {input : UnsolInput} {tech new : Int}
    {s s' : UnsolState} (hs : Held s)
    (h : notifyCdmaSubscriptionSource E input tech new s = some s') : Held s' := by
  unfold notifyCdmaSubscriptionSource at h
  by_cases hnew : is3gpp2 tech ∧ new ≠ s.ril.cdmaSubscriptionSource
  · rw [if_pos hnew] at h
    exact intCall_held E notification_functions.2.1 (hs.setRil _) h
  · rw [if_neg hnew] at h
    exact Option.some.inj h ▸ hs

theorem notifySimStatus_held {input : UnsolInput} {new : Int} {s s' : UnsolState}
    (hs : Held s) (h : notifySimStatus E input new s = some s') : Held s' := by
  unfold notifySimStatus at h
  by_cases hnew : new ≠ s.simRuimStatus
  · rw [if_pos hnew] at h
    have hs' : Held { s with simRuimStatus := new } := ⟨hs.toTimersOk.congr rfl rfl, hs.held⟩
    refine onNestedUnsolicited_held E (fun info hinfo env x hx => ?_) hs' h
    have hf := notification_functions.2.2
    rw [show unsolResponseInfo rilUnsolResponseSimStatusChanged = some info from hinfo] at hf
    exact encode_ret_zero (.inl (Option.some.inj hf)) hx
  · rw [if_neg hnew] at h
    exact Option.some.inj h ▸ hs

/-- **The notifications of a radio state** keep the lock, however many of them are sent. -/
theorem processRadioState_held {input : UnsolInput} {s : UnsolState} {r : UnsolState × RadioState}
    (hs : Held s) (h : processRadioState E input s = some r) : Held r.1 := by
  unfold processRadioState at h
  by_cases hold : input.radioState ≠ .off ∧ input.radioState ≠ .unavailable ∧
      input.radioState ≠ .on
  · simp only [if_pos hold] at h
    obtain ⟨s₁, h₁, h⟩ := Option.bind_eq_some_iff.mp h
    obtain ⟨s₂, h₂, h⟩ := Option.bind_eq_some_iff.mp h
    obtain ⟨s₃, h₃, h⟩ := Option.bind_eq_some_iff.mp h
    obtain rfl := Option.some.inj h
    have hs₁ : Held s₁ := notifyVoiceRadioTech_held E hs h₁
    have hs₂ : Held s₂ := notifyCdmaSubscriptionSource_held E hs₁ h₂
    exact notifySimStatus_held E hs₂ h₃
  · simp only [if_neg hold] at h
    obtain rfl := Option.some.inj h
    exact hs

/-- More payload keeps the lock; only a radio state does anything to the state. -/
theorem morePayload_held {input : UnsolInput} {unsolResponse : Int} {s t : UnsolState}
    {payload : List Write} (h : morePayload E input unsolResponse s = some (t, payload)) :
    (Held s → Held t) ∧ (unsolResponse ≠ rilUnsolResponseRadioStateChanged → t = s) := by
  unfold morePayload at h
  by_cases hstate : unsolResponse = rilUnsolResponseRadioStateChanged
  · rw [if_pos hstate] at h
    obtain ⟨r, hr, hrt⟩ := Option.map_eq_some_iff.mp h
    obtain ⟨rfl, -⟩ := Prod.mk.inj hrt
    exact ⟨fun hs => processRadioState_held E hs hr, fun hne => absurd hstate hne⟩
  · rw [if_neg hstate] at h
    have hts : t = s := by
      split at h <;> exact (Prod.mk.inj (Option.some.inj h)).1.symm
    exact ⟨fun hs => hts ▸ hs, fun _ => hts⟩

/-! ### The steps -/

/-- The radio state wakes the phone, so a message that does not is not one. -/
theorem radioState_wakes {unsolResponse : Int} {info : UnsolResponseInfo}
    (hinfo : unsolResponseInfo unsolResponse = some info) (hwake : info.wakeType ≠ .wakePartial) :
    unsolResponse ≠ rilUnsolResponseRadioStateChanged := by
  rintro rfl
  have htable : (unsolResponseInfo rilUnsolResponseRadioStateChanged).map
      UnsolResponseInfo.wakeType = some .wakePartial := by decide +kernel
  rw [hinfo] at htable
  exact hwake (Option.some.inj htable)

/-- **A message** keeps the invariant, unless it fails while a timer is running. -/
theorem rilOnUnsolicitedResponse_wakeInv {input : UnsolInput} {s s' : UnsolState} {c : UnsolCall}
    (hs : WakeInv s) (hok : wakeFails E s c = true → s.lastWakeTimeoutInfo = none)
    (h : rilOnUnsolicitedResponse E input s c = some s') : WakeInv s' := by
  obtain rfl | ⟨info, x, s₁, wake, hreg, hinfo, hwake, hx, htimers, hlast, hlock, hcase⟩ :=
    onUnsolicited_cases E h
  · exact hs
  have h₁ : TimersOk s₁ := hs.toTimersOk.congr htimers hlast
  rcases hcase with ⟨hret, rfl⟩ | ⟨-, t, payload, hmore, rfl⟩
  · cases wake with
    | true =>
      have hfails : wakeFails E s c = true := by
        unfold wakeFails
        rw [hreg, hinfo]
        simp only [hx, ← hwake, Bool.true_and, ne_eq, decide_eq_true_eq]
        exact hret
      have hnone : s₁.lastWakeTimeoutInfo = none := hlast.trans (hok hfails)
      refine ⟨h₁.congr rfl rfl, ?_⟩
      show false = s₁.lastWakeTimeoutInfo.isSome
      rw [hnone]
      rfl
    | false =>
      refine ⟨h₁, ?_⟩
      show s₁.wakeLock = s₁.lastWakeTimeoutInfo.isSome
      rw [hlock, Bool.or_false, hlast, hs.held]
  · obtain ⟨hkeep, hsame⟩ := morePayload_held E hmore
    cases wake with
    | true =>
      have ht : Held t := hkeep ⟨h₁, by rw [hlock, Bool.or_true]⟩
      obtain ⟨hok', hlock', hsome⟩ := finishUnsolicited_ok E input c.unsolResponse true
        (x.writes ++ payload) ht.toTimersOk
      exact ⟨hok', by rw [hlock', hsome, ht.held, Bool.or_true]⟩
    | false =>
      have ht : t = s₁ := hsame (radioState_wakes hinfo (of_decide_eq_false hwake.symm))
      obtain ⟨hok', hlock', hsome⟩ := finishUnsolicited_ok E input c.unsolResponse false
        (x.writes ++ payload) (ht ▸ h₁ : TimersOk t)
      exact ⟨hok', by rw [hlock', hsome, ht, hlock, hlast, hs.held]⟩

/-- Freeing a timer takes it off the live ones. -/
theorem liveTimers_filter (addr : ℕ) (s : UnsolState) :
    liveTimers { s with timers := s.timers.filter fun u => u.addr ≠ addr }
      = (liveTimers s).filter fun a => a ≠ addr := by
  unfold liveTimers
  generalize s.timers = ts
  induction ts with
  | nil => rfl
  | cons t ts ih =>
    by_cases ha : t.addr = addr
    · by_cases hl : t.callback = .wakeTimeoutCallback ∧ t.userParam = false <;> simp_all
    · by_cases hl : t.callback = .wakeTimeoutCallback ∧ t.userParam = false <;> simp_all

/-- **A timer** keeps the invariant: a live one is the recorded one and releases the lock, any
other leaves lock and recorded timer as they are. -/
theorem userTimerCallback_wakeInv {s : UnsolState} {t : UserCallbackInfo} (hs : WakeInv s)
    (ht : t ∈ s.timers) : WakeInv (userTimerCallback t s) := by
  obtain ⟨⟨hlive, hnodup⟩, hheld⟩ := hs
  have hfree : ∀ u : UnsolState, u.timers = s.timers →
      ((u.timers.filter fun v => v.addr ≠ t.addr).map UserCallbackInfo.addr).Nodup := by
    intro u hu
    rw [hu]
    exact hnodup.sublist (List.filter_sublist.map _)
  by_cases hl : t.callback = .wakeTimeoutCallback ∧ t.userParam = false
  · have hmem : t.addr ∈ liveTimers s :=
      List.mem_map_of_mem (List.mem_filter.mpr ⟨ht, by simpa using hl⟩)
    have hrec : s.lastWakeTimeoutInfo = some t.addr := by
      rw [hlive] at hmem
      simpa using hmem
    have hrun : userTimerCallback t s = { s with
        wakeLock := false, lastWakeTimeoutInfo := none,
        timers := s.timers.filter fun u => u.addr ≠ t.addr } := by
      simp only [userTimerCallback, if_pos hl, releaseWakeLock, hrec, if_true]
    rw [hrun]
    refine ⟨⟨?_, hfree s rfl⟩, rfl⟩
    refine (liveTimers_filter t.addr s).trans ?_
    rw [hlive, hrec]
    simp
  · have hne : t.addr ∉ liveTimers s := by
      intro hmem
      obtain ⟨u, hu, hut⟩ := List.mem_map.mp hmem
      obtain ⟨hus, hul⟩ := List.mem_filter.mp hu
      obtain rfl := List.inj_on_of_nodup_map hnodup hus ht hut
      exact hl (by simpa using hul)
    have hrec : s.lastWakeTimeoutInfo ≠ some t.addr := by
      intro hrec
      rw [hlive, hrec] at hne
      exact hne (List.mem_singleton.mpr rfl)
    have hrun : userTimerCallback t s = { s with
        timers := s.timers.filter fun u => u.addr ≠ t.addr } := by
      simp only [userTimerCallback, if_neg hl, if_neg hrec]
    rw [hrun]
    refine ⟨⟨(liveTimers_filter t.addr s).trans ?_, hfree s rfl⟩, hheld⟩
    have hall : (liveTimers s).filter (fun a => a ≠ t.addr) = liveTimers s :=
      List.filter_eq_self.mpr fun a ha =>
        decide_eq_true fun hat : a = t.addr => hne (hat ▸ ha)
    exact hall.trans hlive

/-- Every step keeps the invariant, unless a waking message fails while a timer is running. -/
theorem unsolStep_wakeInv {s s' : UnsolState} {a : UnsolAction} (hs : WakeInv s)
    (hok : KeepsWindow E s a) (h : unsolStep E s a = some s') : WakeInv s' := by
  cases a with
  | register =>
    obtain rfl := Option.some.inj h
    exact ⟨hs.toTimersOk.congr rfl rfl, hs.held⟩
  | connection fdCommand =>
    obtain rfl := Option.some.inj h
    exact ⟨hs.toTimersOk.congr rfl rfl, hs.held⟩
  | unsolicited input c => exact rilOnUnsolicitedResponse_wakeInv E hs hok h
  | requestTimedCallback =>
    obtain rfl := Option.some.inj h
    refine ⟨⟨?_, nodup_internalRequest E hs.nodup .vendor⟩, hs.held⟩
    rw [liveTimers_internalRequest, if_neg (by decide), List.append_nil]
    exact hs.live
  | timer t =>
    by_cases ht : t ∈ s.timers
    · obtain rfl := Option.some.inj ((if_pos ht).symm.trans h)
      exact userTimerCallback_wakeInv hs ht
    · exact absurd ((if_neg ht).symm.trans h) (by simp)

/-- **The wake-lock protocol.**  In every run in which no waking message fails to encode while a
timer is running, the lock is held iff a last timer is recorded, and that timer is then the only
live one. -/
theorem wake_window {s : UnsolState}
    (h : Runs.Reaches (wakeSystem E) (KeepsWindow E) s) : WakeInv s :=
  h.invariant ⟨⟨rfl, List.nodup_nil⟩, rfl⟩ fun hs hok hstep => unsolStep_wakeInv E hs hok hstep

/-! ### Two runs -/

instance (s : UnsolState) : DecidablePred (KeepsWindow E s) := fun a =>
  match a with
  | .unsolicited _ call =>
      inferInstanceAs (Decidable (wakeFails E s call = true → s.lastWakeTimeoutInfo = none))
  | .register | .connection _ | .requestTimedCallback | .timer _ => .isTrue trivial

/-- An x86 device. -/
def x86Env : UnsolEnv := ⟨x86, 11, bumpAllocator⟩

def quietInput : UnsolInput := ⟨.on, 0, noFaults⟩

/-- `RIL_UNSOL_RESPONSE_CALL_STATE_CHANGED` after `RIL_register`. -/
def callStateChanged : List UnsolAction :=
  [.register, .unsolicited quietInput ⟨1001, none, 0⟩]

/-- After one message the lock is held, by the only live timer. -/
theorem callStateChanged_window : ∃ s, s.wakeLock = true ∧ WakeInv s := by
  have hrun : ((Runs.exec (wakeSystem x86Env) (KeepsWindow x86Env) unsolInit
      callStateChanged).map UnsolState.wakeLock) = some true := by decide +kernel
  obtain ⟨s, hs, hlock⟩ := Option.map_eq_some_iff.mp hrun
  exact ⟨s, hlock, wake_window x86Env (Runs.reaches_of_exec hs)⟩

/-- A `RIL_UNSOL_RESPONSE_NEW_SMS_ON_SIM` whose data is `NULL` releases the lock the message
before it holds: the recorded timer is still pending. -/
theorem failed_message_releases : ∃ s, Runs.Reachable (wakeSystem x86Env) s ∧
    s.wakeLock = false ∧ s.lastWakeTimeoutInfo.isSome = true ∧ ¬ WakeInv s := by
  have hrun : ((Runs.exec (wakeSystem x86Env) (fun _ _ => True) unsolInit
      (callStateChanged ++ [.unsolicited quietInput ⟨1005, none, 4⟩])).map
      fun s => (s.wakeLock, s.lastWakeTimeoutInfo.isSome)) = some (false, true) := by
    decide +kernel
  obtain ⟨s, hs, hst⟩ := Option.map_eq_some_iff.mp hrun
  obtain ⟨hlock, hsome⟩ := Prod.mk.inj hst
  refine ⟨s, Runs.reaches_of_exec hs, hlock, hsome, fun hinv => ?_⟩
  rw [hinv.held, hsome] at hlock
  exact absurd hlock (by decide)

end CtpCommon.Ril
