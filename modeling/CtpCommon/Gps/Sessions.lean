import CtpCommon.Gps.Provider
import CtpCommon.Lib.Monitor

/-!
# The GPS provider: sessions over whole runs

What the provider's runs do to the engine.

* `Provider.NavStep`, `Provider.step_navStep` — all that a step of the provider may do to its
  sessions;
* `Session`, `Session.step`, `enabledStep` — how the engine is to be used, and what the system is to
  be told;
* `Navigation.Disciplined` — the log is so, and the fields say where it stands;
* `Disciplined.navStep` — **PROVED**: every method keeps it, when it runs alone.
-/

namespace CtpCommon.Gps

/-- The alarms that have gone off and wait to be handled. -/
structure Waiting where
  wakeups : ℕ
  timeouts : ℕ
  deriving DecidableEq, Repr

/-- The alarms that wait in a queue. -/
def Waiting.of (queue : List Item) : Waiting :=
  ⟨queue.count (.broadcast .alarmWakeup), queue.count (.broadcast .alarmTimeout)⟩

namespace Provider

/-! ### What a step does -/

def waiting (σ : Provider) : Waiting := .of σ.queue

/-- A condition on the requests that are handled, and on the sessions before it. -/
abbrev RequestsFit := Navigation → Option ProviderRequest → Option WorkSource → Prop

/-- Any request. -/
def anyRequest : RequestsFit := fun _ _ _ => True

/-- What a step may do to the sessions and to the alarms that wait, if the requests fit. -/
inductive NavStep (verbose : Bool) (diffs : ReturningDiffs) (fits : RequestsFit) :
    Navigation → Waiting → Navigation → Waiting → Prop
  | same (n w) : NavStep verbose diffs fits n w n w
  | setRequest (n w ans request source) : fits n request source →
      NavStep verbose diffs fits n w (n.handleSetRequest verbose diffs ans request source) w
  | updateLowPowerMode (n w ans power) :
      NavStep verbose diffs fits n w (n.updateLowPowerMode verbose diffs ans power) w
  | disable (n w) : NavStep verbose diffs fits n w (n.handleDisable verbose diffs) w
  | wakeup (n w ans) : NavStep verbose diffs fits n { w with wakeups := w.wakeups + 1 }
      (n.startNavigating verbose ans verbose) w
  | timeout (n w ans) : NavStep verbose diffs fits n { w with timeouts := w.timeouts + 1 }
      (n.hibernate verbose ans) w
  | reportLocation (n w ans flags) :
      NavStep verbose diffs fits n w (n.reportLocation verbose ans flags) w
  | reportStatus (n w status) : NavStep verbose diffs fits n w (n.reportStatus verbose status) w
  | reportSvStatus (n w ans usedInFix) :
      NavStep verbose diffs fits n w (n.reportSvStatus ans usedInFix) w
  | setEngineCapabilities (n w capabilities) :
      NavStep verbose diffs fits n w { n with engineCapabilities := capabilities } w
  | alarmWakeup (n w) : n.wakeupAlarm.isSome = true →
      NavStep verbose diffs fits n w { n with wakeupAlarm := none }
        { w with wakeups := w.wakeups + 1 }
  | alarmTimeout (n w) : n.timeoutAlarm.isSome = true →
      NavStep verbose diffs fits n w { n with timeoutAlarm := none }
        { w with timeouts := w.timeouts + 1 }

variable {verbose : Bool} {diffs : ReturningDiffs} {σ τ : Provider}

@[simp] theorem sendMessage_nav (m : Message) : (σ.sendMessage m).nav = σ.nav := rfl

@[simp] theorem release_nav : σ.release.nav = σ.nav := by
  unfold release
  split <;> rfl

@[simp] theorem release_queue : σ.release.queue = σ.queue := by
  unfold release
  split <;> rfl

/-- What is put into the queue. -/
theorem waiting_snoc (queue : List Item) (x : Item) : Waiting.of (queue ++ [x]) =
    ⟨(Waiting.of queue).wakeups + [x].count (.broadcast .alarmWakeup),
      (Waiting.of queue).timeouts + [x].count (.broadcast .alarmTimeout)⟩ := by
  unfold Waiting.of
  rw [List.count_append, List.count_append]

/-- What is taken from it. -/
theorem waiting_cons (x : Item) (queue : List Item) : Waiting.of (x :: queue) =
    ⟨(Waiting.of queue).wakeups + [x].count (.broadcast .alarmWakeup),
      (Waiting.of queue).timeouts + [x].count (.broadcast .alarmTimeout)⟩ := by
  unfold Waiting.of
  rw [← List.singleton_append, List.count_append, List.count_append, Nat.add_comm,
    Nat.add_comm (List.count _ [x])]

@[simp] theorem sendMessage_waiting (m : Message) : (σ.sendMessage m).waiting = σ.waiting :=
  waiting_snoc σ.queue (.message m true)

/-- Jobs are no concern of the sessions. -/
theorem handleJob_nav (job : Job) :
    (σ.handleJob job).nav = σ.nav ∧ (σ.handleJob job).queue = σ.queue := by
  unfold handleJob
  split
  · exact ⟨rfl, rfl⟩
  split <;> cases job <;> exact ⟨rfl, rfl⟩

theorem askPending_nav (job : Job) :
    (σ.askPending job).nav = σ.nav ∧ (σ.askPending job).waiting = σ.waiting := by
  unfold askPending
  split
  · exact ⟨rfl, sendMessage_waiting _⟩
  · exact ⟨rfl, rfl⟩

theorem handleUpdateNetworkState_nav (verbose : Bool) (ans : Answers) (state : Int32)
    (info : Option NetworkInfo) :
    (σ.handleUpdateNetworkState verbose ans state info).nav = σ.nav ∧
      (σ.handleUpdateNetworkState verbose ans state info).waiting = σ.waiting := by
  unfold handleUpdateNetworkState
  generalize (if state = 2 then true else verbose) = b
  extract_lets ν
  have hν : ν.nav = σ.nav ∧ ν.waiting = σ.waiting := ⟨rfl, rfl⟩
  split
  · obtain ⟨hnav, hwaiting⟩ := askPending_nav (σ := ν) .injectNtpTime
    obtain ⟨hnav', hwaiting'⟩ := askPending_nav (σ := ν.askPending .injectNtpTime) .downloadXtraData
    exact ⟨hnav'.trans (hnav.trans hν.1), hwaiting'.trans (hwaiting.trans hν.2)⟩
  · exact hν

/-- **A message is handled.** -/
theorem handleMessage_navStep (verbose : Bool) (diffs : ReturningDiffs) (ans : Answers)
    (m : Message) :
    NavStep verbose diffs anyRequest σ.nav σ.waiting (σ.handleMessage verbose diffs ans m).nav
      (σ.handleMessage verbose diffs ans m).waiting := by
  have hjob : ∀ job, NavStep verbose diffs anyRequest σ.nav σ.waiting (σ.handleJob job).nav
      (σ.handleJob job).waiting := by
    intro job
    obtain ⟨hnav, hqueue⟩ := handleJob_nav (σ := σ) job
    unfold waiting
    rw [hnav, hqueue]
    exact .same _ _
  cases m with
  | enable on =>
    cases on with
    | true =>
      show NavStep _ _ _ _ _ (σ.handleEnable verbose ans).nav (σ.handleEnable verbose ans).waiting
      unfold handleEnable
      split <;> exact .same _ _
    | false => exact .disable _ _
  | setRequest request source => exact .setRequest _ _ _ _ _ trivial
  | updateNetworkState state info =>
    show NavStep _ _ _ _ _ (if _ then _ else _ : Provider).nav
      (if _ then _ else _ : Provider).waiting
    split
    · exact hjob _
    · obtain ⟨hnav, hwaiting⟩ := handleUpdateNetworkState_nav (σ := σ) verbose ans state info
      rw [hnav, hwaiting]
      exact .same _ _
  | injectNtpTime => exact hjob _
  | downloadXtraData =>
    show NavStep _ _ _ _ _ (if _ then _ else _ : Provider).nav
      (if _ then _ else _ : Provider).waiting
    split
    · exact hjob _
    · exact .same _ _
  | injectNtpTimeFinished | downloadXtraDataFinished | gpsServiceStart => exact .same _ _

/-- What is first in the queue is no alarm. -/
theorem waiting_tail {x : Item} {rest : List Item} (hqueue : σ.queue = x :: rest)
    (hwakeup : [x].count (.broadcast .alarmWakeup) = 0)
    (htimeout : [x].count (.broadcast .alarmTimeout) = 0) :
    σ.waiting = waiting { σ with queue := rest } := by
  unfold waiting
  rw [hqueue, waiting_cons, hwakeup, htimeout]
  rfl

theorem handle_navStep {ans : Answers} (hstep : σ.handle verbose diffs ans = some τ) :
    NavStep verbose diffs anyRequest σ.nav σ.waiting τ.nav τ.waiting := by
  unfold handle at hstep
  split at hstep
  · exact absurd hstep (by simp)
  · rename_i message arg2 rest hqueue
    have hmessage := handleMessage_navStep (σ := { σ with queue := rest }) verbose diffs ans message
    obtain rfl := Option.some.inj hstep
    rw [waiting_tail hqueue rfl rfl]
    cases arg2 with
    | true =>
      show NavStep _ _ _ _ _ (release _).nav (release _).waiting
      unfold waiting
      rw [release_nav, release_queue]
      exact hmessage
    | false => exact hmessage
  · rename_i b rest hqueue
    obtain rfl := Option.some.inj hstep
    cases b with
    | alarmWakeup =>
      have hwaiting : σ.waiting = Waiting.of (.broadcast .alarmWakeup :: rest) :=
        congrArg Waiting.of hqueue
      rw [hwaiting, waiting_cons]
      exact .wakeup _ (.of rest) _
    | alarmTimeout =>
      have hwaiting : σ.waiting = Waiting.of (.broadcast .alarmTimeout :: rest) :=
        congrArg Waiting.of hqueue
      rw [hwaiting, waiting_cons]
      exact .timeout _ (.of rest) _
    | connectivityChange noConnectivity info =>
      rw [waiting_tail hqueue rfl rfl]
      show NavStep _ _ _ _ _ _ (waiting (sendMessage _ _))
      rw [sendMessage_waiting]
      exact .same _ _
    | lowPowerChange =>
      rw [waiting_tail hqueue rfl rfl]
      exact .updateLowPowerMode _ _ _ _

theorem taskStep_nav {i : ℕ} {ok : Bool} (hstep : σ.taskStep i ok = some τ) :
    τ.nav = σ.nav ∧ τ.waiting = σ.waiting := by
  unfold taskStep at hstep
  split at hstep
  · exact absurd hstep (by simp)
  · obtain rfl := Option.some.inj hstep
    exact ⟨rfl, rfl⟩
  · obtain rfl := Option.some.inj hstep
    exact ⟨rfl, sendMessage_waiting _⟩
  · obtain rfl := Option.some.inj hstep
    exact ⟨rfl, rfl⟩
  · obtain rfl := Option.some.inj hstep
    unfold waiting
    rw [release_nav, release_queue]
    exact ⟨rfl, rfl⟩

/-- A broadcast waits in the queue. -/
theorem receive_waiting {b : Broadcast}
    (hwakeup : [Item.broadcast b].count (.broadcast .alarmWakeup) = 0)
    (htimeout : [Item.broadcast b].count (.broadcast .alarmTimeout) = 0) :
    (σ.receive b).waiting = σ.waiting := by
  show Waiting.of (σ.queue ++ [Item.broadcast b]) = _
  rw [waiting_snoc, hwakeup, htimeout]
  rfl

/-- **All that a step may do** to the sessions. -/
theorem step_navStep {a : Action} (hstep : σ.step verbose diffs a = some τ) :
    NavStep verbose diffs anyRequest σ.nav σ.waiting τ.nav τ.waiting := by
  have hsent : ∀ {ν : Provider} (m : Message), ν.nav = σ.nav → ν.waiting = σ.waiting →
      NavStep verbose diffs anyRequest σ.nav σ.waiting (ν.sendMessage m).nav
        (ν.sendMessage m).waiting := by
    intro ν m hnav hwaiting
    rw [sendMessage_nav, sendMessage_waiting, hnav, hwaiting]
    exact .same _ _
  cases a with
  | enable =>
    obtain rfl := Option.some.inj hstep
    unfold enable
    split
    · exact .same _ _
    · exact hsent _ rfl rfl
  | disable =>
    obtain rfl := Option.some.inj hstep
    unfold disable
    split
    · exact hsent _ rfl rfl
    · exact .same _ _
  | setRequest | updateNetworkState | forceTimeInjection | requestUtcTime | xtraDownloadRequest =>
    obtain rfl := Option.some.inj hstep
    exact hsent _ rfl rfl
  | forceXtraInjection =>
    obtain rfl := Option.some.inj hstep
    unfold forceXtraInjection
    split
    · exact hsent _ rfl rfl
    · exact .same _ _
  | setEngineCapabilities capabilities =>
    obtain rfl := Option.some.inj hstep
    unfold setEngineCapabilities
    extract_lets ν
    split
    · show NavStep _ _ _ _ _ (sendMessage _ _).nav (sendMessage _ _).waiting
      rw [sendMessage_waiting]
      exact .setEngineCapabilities _ _ _
    · exact .setEngineCapabilities _ _ _
  | reportLocation ans flags =>
    obtain rfl := Option.some.inj hstep
    exact .reportLocation _ _ _ _
  | reportStatus status =>
    obtain rfl := Option.some.inj hstep
    exact .reportStatus _ _ _
  | reportSvStatus ans usedInFix =>
    obtain rfl := Option.some.inj hstep
    exact .reportSvStatus _ _ _ _
  | reportAGpsStatus | serviceDisconnected =>
    obtain rfl := Option.some.inj hstep
    exact .same _ _
  | connectivityChange | lowPowerChange =>
    obtain rfl := Option.some.inj hstep
    rw [receive_waiting rfl rfl]
    exact .same _ _
  | alarmWakeup =>
    simp only [Provider.step, Option.ite_none_right_eq_some] at hstep
    obtain ⟨hset, hτ⟩ := hstep
    obtain rfl := Option.some.inj hτ
    show NavStep _ _ _ _ _ _ (Waiting.of (σ.queue ++ [Item.broadcast .alarmWakeup]))
    rw [waiting_snoc]
    exact .alarmWakeup _ (.of σ.queue) hset
  | alarmTimeout =>
    simp only [Provider.step, Option.ite_none_right_eq_some] at hstep
    obtain ⟨hset, hτ⟩ := hstep
    obtain rfl := Option.some.inj hτ
    show NavStep _ _ _ _ _ _ (Waiting.of (σ.queue ++ [Item.broadcast .alarmTimeout]))
    rw [waiting_snoc]
    exact .alarmTimeout _ (.of σ.queue) hset
  | due i =>
    obtain ⟨d, -, rfl⟩ := Option.map_eq_some_iff.mp hstep
    show NavStep _ _ _ _ _ _ (Waiting.of (σ.queue ++ [.message d.message false]))
    rw [waiting_snoc]
    exact .same _ _
  | handle ans => exact handle_navStep hstep
  | task i ok =>
    obtain ⟨hnav, hwaiting⟩ := taskStep_nav hstep
    rw [hnav, hwaiting]
    exact .same _ _

end Provider

/-! ### The engine and the system -/

/-- The engine is at rest, has a position mode, or runs, with what the system was told of fixes. -/
inductive Session where
  | closed
  | ready
  | running (fixed : Bool)
  deriving DecidableEq, Repr

/-- The engine is started only at rest, right after it has accepted a position mode, and an accepted
mode is followed by nothing else; it is stopped only while it runs, and cleaned up only while it does
not.  `GPS_FIX_CHANGE_ACTION` is broadcast only during a session, and each time with the other
value. -/
def Session.step : Session → NavCall → Option Session
  | .ready, .nativeStart ok => some (if ok then .running false else .closed)
  | .ready, _ => none
  | .running fixed, .nativeSetPositionMode _ _ _ => some (.running fixed)
  | .closed, .nativeSetPositionMode _ _ ok => some (if ok then .ready else .closed)
  | _, .nativeStart _ => none
  | .running _, .nativeStop => some .closed
  | .closed, .nativeStop => none
  | .running _, .nativeCleanup => none
  | .closed, .nativeCleanup => some .closed
  | .running fixed, .gpsFixChange b => if b = fixed then none else some (.running b)
  | .closed, .gpsFixChange _ => none
  | s, _ => some s

/-- `GPS_ENABLED_CHANGE_ACTION` is broadcast with the other value each time. -/
def enabledStep : Bool → NavCall → Option Bool
  | navigating, .gpsEnabledChange b => if b = navigating then none else some b
  | navigating, _ => some navigating

/-- A call that both monitors pass over; after an accepted mode there is none. -/
def NavCall.Unminded (c : NavCall) : Prop :=
  (∀ s, s ≠ .ready → Session.step s c = some s) ∧ ∀ b, enabledStep b c = some b

theorem unminded_of {c : NavCall} (hclosed : Session.step .closed c = some .closed)
    (hrunning : ∀ fixed, Session.step (.running fixed) c = some (.running fixed))
    (henabled : ∀ b, enabledStep b c = some b) : c.Unminded := by
  refine ⟨fun s hs => ?_, henabled⟩
  cases s with
  | closed => exact hclosed
  | ready => exact absurd rfl hs
  | running fixed => exact hrunning fixed

namespace Navigation

/-- Where the session stands, by the fields. -/
def session (n : Navigation) : Session :=
  if n.started then .running (n.status = available) else .closed

/-- The log is such a use of the engine, and the fields say where it stands. -/
structure Disciplined (n : Navigation) : Prop where
  session : Monitor.run Session.step .closed n.calls = some n.session
  enabled : Monitor.run enabledStep false n.calls = some n.navigating
  status : n.started = false → n.status = temporarilyUnavailable
  engineOn : n.navigating = true → n.engineOn = true

variable {n m : Navigation} {diffs : ReturningDiffs}

theorem session_closed (h : n.started = false) : n.session = .closed := by
  unfold Navigation.session
  rw [h]
  rfl

theorem session_running (h : n.started = true) : n.session = .running (n.status = available) :=
  if_pos h

theorem session_ne_ready (n : Navigation) : n.session ≠ .ready := by
  unfold Navigation.session
  split <;> exact Session.noConfusion

theorem disciplined_init : (init false).Disciplined := ⟨rfl, rfl, fun _ => rfl, fun h => h⟩

/-- What is appended to the log leads on from the fields. -/
theorem Disciplined.append (h : n.Disciplined) {l : List NavCall} (hcalls : m.calls = n.calls ++ l)
    (hsession : Monitor.run Session.step n.session l = some m.session)
    (henabled : Monitor.run enabledStep n.navigating l = some m.navigating)
    (hstatus : m.started = false → m.status = temporarilyUnavailable)
    (hengine : m.navigating = true → m.engineOn = true) : m.Disciplined := by
  refine ⟨?_, ?_, hstatus, hengine⟩
  · rw [hcalls]
    exact Monitor.run_trans h.session hsession
  · rw [hcalls]
    exact Monitor.run_trans h.enabled henabled

/-- Only these fields matter. -/
theorem Disciplined.congr (h : n.Disciplined) (hcalls : m.calls = n.calls)
    (hstarted : m.started = n.started) (hstatus : m.status = n.status)
    (hnavigating : m.navigating = n.navigating) (hengine : m.engineOn = n.engineOn) :
    m.Disciplined := by
  refine ⟨?_, ?_, ?_, ?_⟩
  · rw [hcalls, h.session]
    unfold Navigation.session
    rw [hstarted, hstatus]
  · rw [hcalls, hnavigating, h.enabled]
  · rw [hstarted, hstatus]
    exact h.status
  · rw [hnavigating, hengine]
    exact h.engineOn

/-- Calls that the monitors do not mind. -/
theorem Disciplined.quiet (h : n.Disciplined) {l : List NavCall} (hcalls : m.calls = n.calls ++ l)
    (hquiet : ∀ c ∈ l, c.Unminded)
    (hstarted : m.started = n.started) (hstatus : m.status = n.status)
    (hnavigating : m.navigating = n.navigating) (hengine : m.engineOn = n.engineOn) :
    m.Disciplined := by
  have hsame : m.session = n.session := by
    unfold Navigation.session
    rw [hstarted, hstatus]
  refine h.append hcalls ?_ ?_ ?_ ?_
  · rw [hsame]
    exact Monitor.run_quiet fun c hc => (hquiet c hc).1 _ (session_ne_ready n)
  · rw [hnavigating]
    exact Monitor.run_quiet fun c hc => (hquiet c hc).2 _
  · rw [hstarted, hstatus]
    exact h.status
  · rw [hnavigating, hengine]
    exact h.engineOn

/-! ### The methods -/

/-- The operations are no concern of the engine. -/
theorem operations_forall {p : NavCall → Prop} {operation : Client → NavCall}
    {note : Int32 → NavCall} (hoperation : ∀ c, p (operation c)) (hnote : ∀ uid, p (note uid))
    (cs : WorkSource) : ∀ lastuid, ∀ c ∈ operations operation note lastuid cs, p c := by
  induction cs with
  | nil =>
    intro lastuid c hc
    exact absurd hc List.not_mem_nil
  | cons d cs ih =>
    intro lastuid
    unfold operations
    split
    · exact List.forall_mem_cons.mpr ⟨hoperation d, List.forall_mem_cons.mpr ⟨hnote _, ih _⟩⟩
    · exact List.forall_mem_cons.mpr ⟨hoperation d, ih _⟩

theorem Disciplined.updateClientUids (h : n.Disciplined) (diffs : ReturningDiffs)
    (source : WorkSource) :
    (n.updateClientUids diffs source).Disciplined := by
  unfold Navigation.updateClientUids
  extract_lets m
  split
  · exact h.congr rfl rfl rfl rfl rfl
  · refine h.quiet (List.append_assoc _ _ _) ?_ rfl rfl rfl rfl
    refine List.forall_mem_append.mpr ⟨?_, ?_⟩
    · exact operations_forall (fun c => unminded_of rfl (fun _ => rfl) fun _ => rfl)
        (fun uid => unminded_of rfl (fun _ => rfl) fun _ => rfl) _ _
    · exact operations_forall (fun c => unminded_of rfl (fun _ => rfl) fun _ => rfl)
        (fun uid => unminded_of rfl (fun _ => rfl) fun _ => rfl) _ _

theorem updateStatus_calls (status svCount : Int32) :
    (n.updateStatus status svCount).calls = n.calls ∧
    (n.updateStatus status svCount).started = n.started ∧
    (n.updateStatus status svCount).navigating = n.navigating ∧
    (n.updateStatus status svCount).engineOn = n.engineOn := by
  unfold updateStatus
  split <;> exact ⟨rfl, rfl, rfl, rfl⟩

@[simp] theorem updateStatus_status (status svCount : Int32) :
    (n.updateStatus status svCount).status = status := by
  unfold updateStatus
  split
  · rfl
  · rename_i hsame
    by_contra hne
    exact hsame (.inl fun h => hne h.symm)

/-- A session that runs is stopped. -/
theorem stopNavigating_fields (why : Rest) (hstarted : n.started = true) :
    (n.stopNavigating false why).calls = n.calls ++ [.nativeStop, .csmStop] ∧
      (n.stopNavigating false why).started = false ∧
      (n.stopNavigating false why).status = temporarilyUnavailable ∧
      (n.stopNavigating false why).navigating = n.navigating ∧
      (n.stopNavigating false why).engineOn = n.engineOn := by
  unfold stopNavigating
  rw [if_pos hstarted]
  obtain ⟨hcalls, hstarted', hnavigating, hengine⟩ := updateStatus_calls (n := { n with
      started := false
      singleShot := false
      timeToFirstFix := 0
      lastFixTime := 0
      locationFlags := 0
      rest := why
      calls := n.calls ++ [.nativeStop, .csmStop] }) temporarilyUnavailable 0
  exact ⟨hcalls, hstarted', updateStatus_status _ _, hnavigating, hengine⟩

theorem Disciplined.stopNavigating (h : n.Disciplined) (why : Rest) :
    (n.stopNavigating false why).Disciplined ∧ (n.stopNavigating false why).started = false := by
  by_cases hstarted : n.started = true
  · obtain ⟨hcalls, hstopped, hstatus, hnavigating, hengine⟩ := stopNavigating_fields why hstarted
    refine ⟨h.append hcalls ?_ ?_ (fun _ => hstatus) ?_, hstopped⟩
    · rw [session_running hstarted, session_closed hstopped]
      rfl
    · rw [hnavigating]
      rfl
    · rw [hnavigating, hengine]
      exact h.engineOn
  · have hsame : n.stopNavigating false why = n := if_neg hstarted
    rw [hsame]
    exact ⟨h, Bool.eq_false_iff.mpr hstarted⟩

theorem Disciplined.hibernate (h : n.Disciplined) (ans : NavAnswers) :
    (n.hibernate false ans).Disciplined :=
  (h.stopNavigating .hibernating).1.congr rfl rfl rfl rfl rfl

/-- A session that has just been started: `mode` and `interval` were accepted. -/
theorem Disciplined.begin (h : n.Disciplined) (hstarted : n.started = false) {mode : PositionMode}
    {interval : Int32} (hcalls : m.calls = n.calls ++ [.csmStartModem,
      .nativeSetPositionMode mode interval true, .nativeStart true]) (hbegun : m.started = true)
    (hstatus : m.status = temporarilyUnavailable) (hnavigating : m.navigating = n.navigating)
    (hengine : m.engineOn = n.engineOn) : m.Disciplined := by
  refine h.append hcalls ?_ ?_ ?_ ?_
  · rw [session_closed hstarted, session_running hbegun, hstatus]
    rfl
  · rw [hnavigating]
    rfl
  · rw [hbegun]
    exact fun hstopped => absurd hstopped (by decide)
  · rw [hnavigating, hengine]
    exact h.engineOn

/-- A position mode that is refused, or an engine that does not start, leaves the engine at rest. -/
theorem Disciplined.failed (h : n.Disciplined) (hstarted : n.started = false) {l : List NavCall}
    (hcalls : m.calls = n.calls ++ l) (hclosed : Monitor.run Session.step .closed l = some .closed)
    (henabled : Monitor.run enabledStep n.navigating l = some n.navigating)
    (hstopped : m.started = false) (hstatus : m.status = n.status)
    (hnavigating : m.navigating = n.navigating) (hengine : m.engineOn = n.engineOn) :
    m.Disciplined := by
  refine h.append hcalls ?_ ?_ ?_ ?_
  · rw [session_closed hstarted, session_closed hstopped]
    exact hclosed
  · rw [hnavigating]
    exact henabled
  · rw [hstatus]
    exact fun _ => h.status hstarted
  · rw [hnavigating, hengine]
    exact h.engineOn

theorem Disciplined.startNavigating (h : n.Disciplined) (ans : NavAnswers) (singleShot : Bool) :
    (n.startNavigating false ans singleShot).Disciplined := by
  unfold Navigation.startNavigating
  by_cases hstarted : n.started = true
  · rw [if_pos hstarted]
    exact h
  rw [if_neg hstarted]
  have hrest : n.started = false := Bool.eq_false_iff.mpr hstarted
  extract_lets k k' l l'
  cases hmode : ans.positionModeOk with
  | false =>
    rw [if_pos rfl]
    refine h.failed hrest (l := [.csmStartModem, .nativeSetPositionMode k.positionMode
      k.minInterval false]) ?_ rfl rfl rfl rfl rfl rfl
    show n.calls ++ [.csmStartModem] ++ [.nativeSetPositionMode k.positionMode k.minInterval
      ans.positionModeOk] = _
    rw [hmode, List.append_assoc]
    rfl
  | true =>
    rw [if_neg (by decide)]
    have hcalls : l.calls = n.calls ++ [.csmStartModem, .nativeSetPositionMode k.positionMode
        k.minInterval true, .nativeStart ans.startOk] := by
      show n.calls ++ [.csmStartModem] ++ [.nativeSetPositionMode k.positionMode k.minInterval
        ans.positionModeOk] ++ [.nativeStart ans.startOk] = _
      rw [hmode, List.append_assoc, List.append_assoc]
      rfl
    cases hstart : ans.startOk with
    | false =>
      rw [hstart] at hcalls
      exact h.failed hrest hcalls rfl rfl rfl rfl rfl rfl
    | true =>
      rw [if_pos rfl]
      rw [hstart] at hcalls
      obtain ⟨hsame, hbegun, hnavigating, hengine⟩ :=
        updateStatus_calls (n := l) temporarilyUnavailable 0
      have hl' : l'.Disciplined := h.begin hrest (hsame.trans hcalls) hbegun
        (updateStatus_status _ _) hnavigating hengine
      split
      · exact hl'.congr rfl rfl rfl rfl rfl
      · exact hl'.congr rfl rfl rfl rfl rfl

theorem Disciplined.updateRequirements (h : n.Disciplined) (ans : NavAnswers) :
    (n.updateRequirements false diffs ans).Disciplined := by
  unfold Navigation.updateRequirements
  split
  · rename_i request source _ _
    split
    · have hstopped := ((h.updateClientUids diffs []).stopNavigating .notDemanded).1
      exact hstopped.congr rfl rfl rfl rfl rfl
    · extract_lets k k'
      have hk : k'.Disciplined := (h.updateClientUids diffs source).congr rfl rfl rfl rfl rfl
      split
      · rename_i hrunning
        refine hk.append (l := [.nativeSetPositionMode _ _ _]) rfl ?_ rfl hk.status hk.engineOn
        rw [session_running hrunning.1, session_running (n := k'.call _) hrunning.1]
        rfl
      split
      · exact hk
      · exact hk.startNavigating _ _
  · exact h

theorem Disciplined.handleDisable (h : n.Disciplined) :
    (n.handleDisable false diffs).Disciplined := by
  obtain ⟨hstop, hstopped⟩ := (h.updateClientUids diffs []).stopNavigating .disabled
  refine hstop.append (l := [.nativeCleanup]) rfl ?_ rfl hstop.status hstop.engineOn
  rw [session_closed hstopped, session_closed (n := n.handleDisable false diffs) hstopped]
  rfl

theorem Disciplined.updateLowPowerMode (h : n.Disciplined) (ans : NavAnswers) (power : PowerState) :
    (n.updateLowPowerMode false diffs ans power).Disciplined := by
  unfold Navigation.updateLowPowerMode
  split
  · exact Disciplined.updateRequirements (n := { n with disableGps := disablesGps false power })
      (h.congr rfl rfl rfl rfl rfl) ans
  · exact h

/-! ### The reports -/

theorem Disciplined.noteFirstFix (h : n.Disciplined) (flags : Int32) :
    (n.noteFirstFix flags).Disciplined := by
  unfold Navigation.noteFirstFix
  split
  · refine h.quiet rfl ?_ rfl rfl rfl rfl
    rw [List.forall_mem_singleton]
    exact unminded_of rfl (fun _ => rfl) fun _ => rfl
  · exact h

/-- **The provider becomes available**: the system has not been told in this session, or has been
told otherwise since. -/
theorem Disciplined.noteFix (h : n.Disciplined) : n.noteFix.Disciplined := by
  unfold Navigation.noteFix
  split
  · rename_i hfix
    obtain ⟨hstarted, hstatus⟩ := hfix
    extract_lets k
    have hk : k.calls = n.calls ∧ k.started = n.started ∧ k.navigating = n.navigating ∧
        k.engineOn = n.engineOn := by
      unfold k
      split <;> exact ⟨rfl, rfl, rfl, rfl⟩
    obtain ⟨hcalls, hsame, hnavigating, hengine⟩ :=
      updateStatus_calls (n := k.call (.gpsFixChange true)) available k.svCount
    refine h.append (l := [.gpsFixChange true]) ?_ ?_ ?_ ?_ ?_
    · rw [hcalls]
      exact congrArg (· ++ _) hk.1
    · rw [session_running hstarted, session_running (hsame.trans (hk.2.1.trans hstarted)),
        updateStatus_status, decide_eq_false hstatus]
      rfl
    · rw [hnavigating]
      exact congrArg some hk.2.2.1.symm
    · rw [hsame]
      exact fun hstopped => absurd (hstopped.symm.trans (hk.2.1.trans hstarted)) (by decide)
    · rw [hnavigating, hengine]
      intro hon
      exact hk.2.2.2.trans (h.engineOn (hk.2.2.1.symm.trans hon))
  · exact h

theorem Disciplined.reportLocation (h : n.Disciplined) (ans : NavAnswers) (flags : Int32) :
    (n.reportLocation false ans flags).Disciplined := by
  unfold Navigation.reportLocation
  extract_lets k l l' k'
  have hk : k.Disciplined := by
    refine h.quiet (l := [.reportLocation]) rfl ?_ rfl rfl rfl rfl
    rw [List.forall_mem_singleton]
    exact unminded_of rfl (fun _ => rfl) fun _ => rfl
  have hl : l.Disciplined :=
    Disciplined.noteFirstFix (n := { k with lastFixTime := ans.currentTime })
      (hk.congr rfl rfl rfl rfl rfl) flags
  have hl' : l'.Disciplined := by
    unfold l'
    split
    · exact (hl.stopNavigating .answered).1
    · exact hl
  split
  · exact hl'.noteFix.hibernate ans
  · exact hl'.noteFix

theorem Disciplined.reportStatus (h : n.Disciplined) (status : Int32) :
    (n.reportStatus false status).Disciplined := by
  unfold Navigation.reportStatus
  extract_lets k
  have hk : k.calls = n.calls ∧ k.started = n.started ∧ k.status = n.status ∧
      (k.navigating = true → k.engineOn = true) := by
    have hoff : false = true → false = true := id
    unfold k
    split
    · exact ⟨rfl, rfl, rfl, fun _ => rfl⟩
    split
    · exact ⟨rfl, rfl, rfl, fun hon => absurd hon Bool.false_ne_true⟩
    split
    · exact ⟨rfl, rfl, rfl, fun _ => rfl⟩
    split
    · exact ⟨rfl, rfl, rfl, hoff⟩
    · exact ⟨rfl, rfl, rfl, h.engineOn⟩
  obtain ⟨hcalls, hstarted, hstatus, hengine⟩ := hk
  have hsession : k.session = n.session := by
    unfold Navigation.session
    rw [hstarted, hstatus]
  have hrest : k.started = false → k.status = temporarilyUnavailable := by
    rw [hstarted, hstatus]
    exact h.status
  split
  · rename_i hchange
    refine h.append (l := [.gpsEnabledChange k.navigating]) ?_ ?_ ?_ hrest hengine
    · exact congrArg (· ++ _) hcalls
    · show _ = some k.session
      rw [hsession]
      unfold Navigation.session
      split <;> rfl
    · show (if k.navigating = n.navigating then none else some k.navigating).bind _ = _
      rw [if_neg fun hsame => hchange hsame.symm]
      rfl
  · rename_i hsame
    refine h.append (l := []) (hcalls.trans (List.append_nil _).symm) ?_ ?_ hrest hengine
    · rw [hsession]
      rfl
    · exact congrArg some (not_not.mp hsame)

/-- **The fixes have stopped**: the system is told, in this session. -/
theorem Disciplined.reportSvStatus (h : n.Disciplined) (ans : NavAnswers) (usedInFix : Int32) :
    (n.reportSvStatus ans usedInFix).Disciplined := by
  unfold Navigation.reportSvStatus
  extract_lets k
  obtain ⟨hcalls, hstarted, hnavigating, hengine⟩ := updateStatus_calls (n := n) n.status usedInFix
  have hk : k.Disciplined :=
    h.congr hcalls hstarted (updateStatus_status _ _) hnavigating hengine
  split
  · rename_i hlost
    have hrunning : k.started = true := by
      by_contra hstopped
      have hstatus := hk.status (Bool.eq_false_iff.mpr hstopped)
      rw [hlost.2.1] at hstatus
      exact absurd hstatus (by decide)
    obtain ⟨hcalls', hstarted', hnavigating', hengine'⟩ :=
      updateStatus_calls (n := k.call (.gpsFixChange false)) temporarilyUnavailable k.svCount
    refine hk.append (l := [.gpsFixChange false]) hcalls' ?_ ?_ ?_ ?_
    · have hfixed : k.session = .running true := by
        rw [session_running hrunning]
        exact congrArg Session.running (decide_eq_true hlost.2.1)
      rw [hfixed, session_running (hstarted'.trans hrunning), updateStatus_status]
      rfl
    · rw [hnavigating']
      rfl
    · exact fun _ => updateStatus_status _ _
    · rw [hnavigating', hengine']
      exact hk.engineOn
  · exact hk

/-- **Every step.** -/
theorem Disciplined.navStep (h : n.Disciplined) {fits : Provider.RequestsFit} {v w : Waiting}
    (hstep : Provider.NavStep false diffs fits n v m w) : m.Disciplined := by
  cases hstep with
  | same => exact h
  | setRequest _ ans request source =>
    exact Disciplined.updateRequirements
      (n := { n with providerRequest := request, workSource := source })
      (h.congr rfl rfl rfl rfl rfl) ans
  | updateLowPowerMode _ ans power => exact h.updateLowPowerMode ans power
  | disable => exact h.handleDisable
  | wakeup _ ans => exact h.startNavigating ans false
  | timeout _ ans => exact h.hibernate ans
  | reportLocation _ ans flags => exact h.reportLocation ans flags
  | reportStatus _ status => exact h.reportStatus status
  | reportSvStatus _ ans usedInFix => exact h.reportSvStatus ans usedInFix
  | setEngineCapabilities => exact h.congr rfl rfl rfl rfl rfl
  | alarmWakeup => exact h.congr rfl rfl rfl rfl rfl
  | alarmTimeout => exact h.congr rfl rfl rfl rfl rfl

end Navigation

end CtpCommon.Gps
