import CtpCommon.Gps.Navigation
import CtpCommon.Gps.AGps
import CtpCommon.Lib.RetryJob

/-!
# The GPS provider: messages, jobs and the wake lock

`GpsLocationProvider.java`: other threads send messages to the handler's thread and acquire the wake
lock for each; the handler releases it when it has handled the message.  Two jobs run on threads of
a pool, each with an acquisition of its own.  A message that is sent with a delay has none.

* `Provider` — the fields of the provider, the queue, the delayed messages, and the tasks;
* `sendMessage`, `handleMessage`, `handleInjectNtpTime`, `handleDownloadXtraData`,
  `handleUpdateNetworkState`, `onReceive` — the methods;
* `Action`, `provider` — any thread's next step;
* `wakeLock_exact` — **PROVED**: in every run the lock is held once for every message that was sent
  and is not handled, and for every task, and is never released too often.

One method is one step, except that a task ends its work, sends its report, sends the delayed
request, and releases the lock, in four.  The fields of the sessions and of the data connection,
which the handler's thread shares with the engine's, are read and written one by one in `Stepwise`
and in `AGps.Stepwise`.
-/

namespace CtpCommon.Gps

open Runs (Reachable)

/-- The lock is reference counted; `underLocked` is the exception `release` throws when it is not
held.  `xtraOwed` is not a field of the source: XTRA data have been asked for and have not been
injected since; a request that is refused, as the engine has no use for them, ends the debt. -/
structure Provider where
  enabled : Bool
  networkAvailable : Bool
  injectNtpTimePending : PendingState
  downloadXtraDataPending : PendingState
  periodicTimeInjection : Bool
  supportsXtra : Bool
  queue : List Item
  delayed : List Delayed
  tasks : List Task
  wakeLock : ℕ
  underLocked : Bool
  nav : Navigation
  agps : AGps
  xtraOwed : Bool

/-- What the engine and the system answer while a message or a broadcast is handled. -/
structure Answers where
  nav : NavAnswers
  network : NetworkAnswers
  power : Navigation.PowerState
  initOk : Bool
  supportsXtra : Bool

/-- What any thread may do next.  `due`, `alarm` and `broadcast` put something into the queue,
`handle` is the handler's thread, `task` one of the pool; the `report` methods and those around them
are called by the engine. -/
inductive Action where
  | enable
  | disable
  | setRequest (request : Option ProviderRequest) (source : Option WorkSource)
  | updateNetworkState (state : Int32) (info : Option NetworkInfo)
  | forceTimeInjection
  | forceXtraInjection
  | xtraDownloadRequest
  | requestUtcTime
  | setEngineCapabilities (capabilities : Int32)
  | reportLocation (ans : NavAnswers) (flags : Int32)
  | reportStatus (status : Int32)
  | reportSvStatus (ans : NavAnswers) (usedInFix : Int32)
  | reportAGpsStatus (status : Int32) (ipaddr : Option (List UInt8)) (result : Int32)
  | connectivityChange (noConnectivity : Bool) (info : Option NetworkInfo)
  | lowPowerChange
  | alarmWakeup
  | alarmTimeout
  | serviceDisconnected
  | due (i : ℕ)
  | handle (ans : Answers)
  | task (i : ℕ) (ok : Bool)

namespace Provider

section

variable (verbose : Bool) (diffs : ReturningDiffs)

def init : Provider where
  enabled := false
  networkAvailable := false
  injectNtpTimePending := .pendingNetwork
  downloadXtraDataPending := .pendingNetwork
  periodicTimeInjection := false
  supportsXtra := false
  queue := []
  delayed := []
  tasks := []
  wakeLock := 0
  underLocked := false
  nav := .init verbose
  agps := .init
  xtraOwed := false

variable (σ : Provider)

/-! ### The lock and the queue -/

def acquire : Provider := { σ with wakeLock := σ.wakeLock + 1 }

def release : Provider :=
  if σ.wakeLock = 0 then { σ with underLocked := true }
  else { σ with wakeLock := σ.wakeLock - 1 }

def sendMessage (message : Message) : Provider :=
  { σ.acquire with queue := σ.queue ++ [.message message true] }

/-! ### The jobs -/

def pending : Job → PendingState
  | .injectNtpTime => σ.injectNtpTimePending
  | .downloadXtraData => σ.downloadXtraDataPending

def setPending : Job → PendingState → Provider
  | .injectNtpTime, state => { σ with injectNtpTimePending := state }
  | .downloadXtraData, state => { σ with downloadXtraDataPending := state }

/-- What `handleInjectNtpTime` and `handleDownloadXtraData` share. -/
def handleJob (job : Job) : Provider :=
  if σ.pending job = .downloading then σ
  else if σ.networkAvailable then
    { (σ.setPending job .downloading).acquire with tasks := σ.tasks ++ [⟨job, .running⟩] }
  else σ.setPending job .pendingNetwork

def handleInjectNtpTime : Provider := σ.handleJob .injectNtpTime

def handleDownloadXtraData : Provider := σ.handleJob .downloadXtraData

/-- Does a task ask for its job again?  The time is asked for again if it is injected periodically,
the data if there were none. -/
def asksAgain : Job → Bool → Bool
  | .injectNtpTime, _ => σ.periodicTimeInjection
  | .downloadXtraData, ok => !ok

/-- The next step of a task; `ok` is the outcome of its work. -/
def taskStep (i : ℕ) (ok : Bool) : Option Provider :=
  match σ.tasks[i]? with
  | none => none
  | some ⟨job, .running⟩ =>
      some { σ with
        tasks := σ.tasks.set i ⟨job, .fetched ok⟩
        xtraOwed := σ.xtraOwed && !(job = .downloadXtraData && ok) }
  | some ⟨job, .fetched ok⟩ =>
      some { σ.sendMessage job.finished with tasks := σ.tasks.set i ⟨job, .reported ok⟩ }
  | some ⟨job, .reported ok⟩ =>
      some { σ with
        tasks := σ.tasks.set i ⟨job, .asked⟩
        delayed := if σ.asksAgain job ok then σ.delayed ++ [.request job] else σ.delayed }
  | some ⟨_, .asked⟩ => some (release { σ with tasks := σ.tasks.eraseIdx i })

/-! ### The messages -/

/-- A job that waits for the network is asked for. -/
def askPending (job : Job) : Provider :=
  if σ.pending job = .pendingNetwork then σ.sendMessage job.request else σ

/-- The first part of `handleUpdateNetworkState`: the new state, for the provider and the engine. -/
def noteNetwork (networkAvailable : Bool) (ans : Answers) (info : Option NetworkInfo) : Provider :=
  { σ with
    networkAvailable := networkAvailable
    agps := σ.agps.updateNetwork networkAvailable ans.network info }

def handleUpdateNetworkState (ans : Answers) (state : Int32) (info : Option NetworkInfo) :
    Provider :=
  let τ := σ.noteNetwork (if state = 2 then true else verbose) ans info
  if τ.networkAvailable then (τ.askPending .injectNtpTime).askPending .downloadXtraData else τ

/-- The servers of assisted GPS are set here too. -/
def handleEnable (ans : Answers) : Provider :=
  if ans.initOk then { σ with supportsXtra := ans.supportsXtra } else { σ with enabled := verbose }

def handleDisable : Provider := { σ with nav := σ.nav.handleDisable verbose diffs }

def handleSetRequest (ans : Answers) (request : Option ProviderRequest)
    (source : Option WorkSource) : Provider :=
  { σ with nav := σ.nav.handleSetRequest verbose diffs ans.nav request source }

/-- `ProviderHandler.handleMessage`, up to the release.  `isShutdown` has the value of `VERBOSE`,
and a network update then falls through to the time injection. -/
def handleMessage (ans : Answers) : Message → Provider
  | .enable on => if on then σ.handleEnable verbose ans else σ.handleDisable verbose diffs
  | .setRequest request source => σ.handleSetRequest verbose diffs ans request source
  | .updateNetworkState state info =>
      if verbose then σ.handleInjectNtpTime
      else σ.handleUpdateNetworkState verbose ans state info
  | .injectNtpTime => σ.handleInjectNtpTime
  | .downloadXtraData =>
      if σ.supportsXtra then σ.handleDownloadXtraData else { σ with xtraOwed := false }
  | .injectNtpTimeFinished => { σ with injectNtpTimePending := .idle }
  | .downloadXtraDataFinished => { σ with downloadXtraDataPending := .idle }
  | .gpsServiceStart => σ

/-- `mBroadcastReceiver`. -/
def onReceive (ans : Answers) : Broadcast → Provider
  | .alarmWakeup => { σ with nav := σ.nav.startNavigating verbose ans.nav verbose }
  | .alarmTimeout => { σ with nav := σ.nav.hibernate verbose ans.nav }
  | .connectivityChange noConnectivity info =>
      σ.sendMessage (.updateNetworkState (if noConnectivity then 1 else 2) info)
  | .lowPowerChange => { σ with nav := σ.nav.updateLowPowerMode verbose diffs ans.nav ans.power }

/-- The handler's thread takes what is first in its queue. -/
def handle (ans : Answers) : Option Provider :=
  match σ.queue with
  | [] => none
  | .message message arg2 :: rest =>
      let τ := handleMessage verbose diffs { σ with queue := rest } ans message
      some (if arg2 then τ.release else τ)
  | .broadcast b :: rest => some (onReceive verbose diffs { σ with queue := rest } ans b)

/-- The broadcast receiver is registered with the handler, so its calls wait in the queue. -/
def receive (b : Broadcast) : Provider := { σ with queue := σ.queue ++ [.broadcast b] }

/-! ### The other threads -/

def enable : Provider :=
  if σ.enabled then σ else { σ with enabled := true }.sendMessage (.enable true)

def disable : Provider :=
  if σ.enabled then { σ with enabled := false }.sendMessage (.enable false) else σ

def requestUtcTime : Provider := σ.sendMessage .injectNtpTime

def xtraDownloadRequest : Provider := { σ.sendMessage .downloadXtraData with xtraOwed := true }

/-- `sendExtraCommand("force_xtra_injection")`. -/
def forceXtraInjection : Provider := if σ.supportsXtra then σ.xtraDownloadRequest else σ

def setEngineCapabilities (capabilities : Int32) : Provider :=
  let τ : Provider := { σ with nav := { σ.nav with engineCapabilities := capabilities } }
  if ¬ τ.nav.hasCapability gpsCapabilityOnDemandTime ∧ ¬ τ.periodicTimeInjection then
    { τ with periodicTimeInjection := true }.requestUtcTime
  else τ

/-- A delayed message comes due. -/
def due (i : ℕ) : Option Provider :=
  (σ.delayed[i]?).map fun d =>
    { σ with delayed := σ.delayed.eraseIdx i, queue := σ.queue ++ [.message d.message false] }

def step : Action → Option Provider
  | .enable => some σ.enable
  | .disable => some σ.disable
  | .setRequest request source => some (σ.sendMessage (.setRequest request source))
  | .updateNetworkState state info => some (σ.sendMessage (.updateNetworkState state info))
  | .forceTimeInjection => some (σ.sendMessage .injectNtpTime)
  | .forceXtraInjection => some σ.forceXtraInjection
  | .xtraDownloadRequest => some σ.xtraDownloadRequest
  | .requestUtcTime => some σ.requestUtcTime
  | .setEngineCapabilities capabilities => some (σ.setEngineCapabilities capabilities)
  | .reportLocation ans flags =>
      some { σ with nav := σ.nav.reportLocation verbose ans flags }
  | .reportStatus status => some { σ with nav := σ.nav.reportStatus verbose status }
  | .reportSvStatus ans usedInFix => some { σ with nav := σ.nav.reportSvStatus ans usedInFix }
  | .reportAGpsStatus status ipaddr result =>
      some { σ with agps := σ.agps.reportAGpsStatus status ipaddr result }
  | .connectivityChange noConnectivity info =>
      some (σ.receive (.connectivityChange noConnectivity info))
  | .lowPowerChange => some (σ.receive .lowPowerChange)
  | .alarmWakeup =>
      if σ.nav.wakeupAlarm.isSome then
        some (receive { σ with nav := { σ.nav with wakeupAlarm := none } } .alarmWakeup)
      else none
  | .alarmTimeout =>
      if σ.nav.timeoutAlarm.isSome then
        some (receive { σ with nav := { σ.nav with timeoutAlarm := none } } .alarmTimeout)
      else none
  | .serviceDisconnected => some { σ with delayed := σ.delayed ++ [.gpsServiceStart] }
  | .due i => σ.due i
  | .handle ans => σ.handle verbose diffs ans
  | .task i ok => σ.taskStep i ok

end

end Provider

/-- The provider under the steps of any threads. -/
def provider (verbose : Bool) (diffs : ReturningDiffs) : Runs.System Provider Action :=
  ⟨.init verbose, Provider.step verbose diffs⟩

/-! ### The wake lock -/

/-- A message with an acquisition of the lock. -/
def Item.counted : Item → Bool
  | .message _ arg2 => arg2
  | .broadcast _ => false

namespace Provider

/-- The lock is held for the messages in the queue, for the tasks, and `extra` times more. -/
structure Balanced (extra : ℕ) (σ : Provider) : Prop where
  held : σ.wakeLock = σ.queue.countP Item.counted + σ.tasks.length + extra
  exact : σ.underLocked = false

variable {verbose : Bool} {diffs : ReturningDiffs} {σ τ : Provider} {k : ℕ}

theorem Balanced.sendMessage (h : σ.Balanced k) (m : Message) : (σ.sendMessage m).Balanced k := by
  refine ⟨?_, h.exact⟩
  have hone : [Item.message m true].countP Item.counted = 1 := rfl
  show σ.wakeLock + 1 = (σ.queue ++ [Item.message m true]).countP Item.counted + σ.tasks.length + k
  rw [List.countP_append, hone, h.held]
  omega

theorem Balanced.receive (h : σ.Balanced k) (b : Broadcast) : (σ.receive b).Balanced k := by
  refine ⟨?_, h.exact⟩
  show σ.wakeLock = (σ.queue ++ [Item.broadcast b]).countP Item.counted + σ.tasks.length + k
  rw [List.countP_append]
  exact h.held

theorem Balanced.release (h : σ.Balanced (k + 1)) : σ.release.Balanced k := by
  have hheld := h.held
  unfold Provider.release
  rw [if_neg (by omega)]
  refine ⟨?_, h.exact⟩
  show σ.wakeLock - 1 = σ.queue.countP Item.counted + σ.tasks.length + k
  omega

/-- Only the lock, the queue and the tasks matter. -/
theorem Balanced.congr (h : σ.Balanced k) (hlock : τ.wakeLock = σ.wakeLock)
    (hqueue : τ.queue = σ.queue) (htasks : τ.tasks.length = σ.tasks.length)
    (hunder : τ.underLocked = σ.underLocked) : τ.Balanced k :=
  ⟨by rw [hlock, hqueue, htasks, h.held], hunder.trans h.exact⟩

theorem Balanced.setPending (h : σ.Balanced k) (job : Job) (state : PendingState) :
    (σ.setPending job state).Balanced k := by
  cases job <;> exact h.congr rfl rfl rfl rfl

theorem Balanced.handleJob (h : σ.Balanced k) (job : Job) : (σ.handleJob job).Balanced k := by
  unfold Provider.handleJob
  split
  · exact h
  split
  · have hpending := h.setPending job .downloading
    have htasks : (σ.setPending job .downloading).tasks = σ.tasks := by cases job <;> rfl
    refine ⟨?_, hpending.exact⟩
    have hheld := hpending.held
    rw [htasks] at hheld
    show (σ.setPending job .downloading).wakeLock + 1
      = (σ.setPending job .downloading).queue.countP Item.counted
        + (σ.tasks ++ [(⟨job, .running⟩ : Task)]).length + k
    rw [List.length_append, List.length_singleton]
    omega
  · exact h.setPending job _

theorem Balanced.askPending (h : σ.Balanced k) (job : Job) : (σ.askPending job).Balanced k := by
  unfold Provider.askPending
  split
  · exact h.sendMessage _
  · exact h

theorem Balanced.handleUpdateNetworkState (h : σ.Balanced k) (ans : Answers) (state : Int32)
    (info : Option NetworkInfo) :
    (σ.handleUpdateNetworkState verbose ans state info).Balanced k := by
  have hnote : ∀ b, (σ.noteNetwork b ans info).Balanced k := fun b => h.congr rfl rfl rfl rfl
  unfold Provider.handleUpdateNetworkState
  generalize (if state = 2 then true else verbose) = b
  extract_lets τ
  split
  · exact ((hnote _).askPending _).askPending _
  · exact hnote _

/-- **Handling a message** leaves its own acquisition to be released. -/
theorem Balanced.handleMessage (h : σ.Balanced k) (ans : Answers) (m : Message) :
    (σ.handleMessage verbose diffs ans m).Balanced k := by
  cases m with
  | enable on =>
    cases on with
    | true =>
      show (σ.handleEnable verbose ans).Balanced k
      unfold handleEnable
      split <;> exact h.congr rfl rfl rfl rfl
    | false => exact h.congr rfl rfl rfl rfl
  | updateNetworkState state info =>
    show Balanced k (if _ then _ else _)
    split
    · exact h.handleJob _
    · exact h.handleUpdateNetworkState ans state info
  | injectNtpTime => exact h.handleJob _
  | downloadXtraData =>
    show Balanced k (if _ then _ else _)
    split
    · exact h.handleJob _
    · exact h.congr rfl rfl rfl rfl
  | setRequest request source => exact h.congr rfl rfl rfl rfl
  | injectNtpTimeFinished => exact h.congr rfl rfl rfl rfl
  | downloadXtraDataFinished => exact h.congr rfl rfl rfl rfl
  | gpsServiceStart => exact h

theorem Balanced.onReceive (h : σ.Balanced k) (ans : Answers) (b : Broadcast) :
    (σ.onReceive verbose diffs ans b).Balanced k := by
  cases b with
  | connectivityChange noConnectivity info => exact h.sendMessage _
  | _ => exact h.congr rfl rfl rfl rfl

theorem Balanced.handle (h : σ.Balanced 0) {ans : Answers}
    (hstep : σ.handle verbose diffs ans = some τ) : τ.Balanced 0 := by
  have hheld := h.held
  unfold Provider.handle at hstep
  split at hstep
  · exact absurd hstep (by simp)
  · rename_i message arg2 rest hqueue
    rw [hqueue] at hheld
    obtain rfl := Option.some.inj hstep
    cases arg2 with
    | true =>
      refine Balanced.release (Balanced.handleMessage (σ := { σ with queue := rest })
        ⟨?_, h.exact⟩ ans message)
      show σ.wakeLock = rest.countP Item.counted + σ.tasks.length + 1
      rw [hheld, List.countP_cons_of_pos rfl]
      omega
    | false =>
      refine Balanced.handleMessage (σ := { σ with queue := rest }) ⟨?_, h.exact⟩ ans message
      show σ.wakeLock = rest.countP Item.counted + σ.tasks.length + 0
      rw [hheld, List.countP_cons_of_neg Bool.false_ne_true]
  · rename_i b rest hqueue
    rw [hqueue] at hheld
    obtain rfl := Option.some.inj hstep
    refine Balanced.onReceive (σ := { σ with queue := rest }) ⟨?_, h.exact⟩ ans b
    show σ.wakeLock = rest.countP Item.counted + σ.tasks.length + 0
    rw [hheld, List.countP_cons_of_neg Bool.false_ne_true]

theorem Balanced.taskStep (h : σ.Balanced 0) {i : ℕ} {ok : Bool}
    (hstep : σ.taskStep i ok = some τ) : τ.Balanced 0 := by
  unfold Provider.taskStep at hstep
  split at hstep
  · exact absurd hstep (by simp)
  · obtain rfl := Option.some.inj hstep
    exact h.congr rfl rfl (List.length_set ..) rfl
  · rename_i job ok' _
    obtain rfl := Option.some.inj hstep
    exact (h.sendMessage job.finished).congr rfl rfl (List.length_set ..) rfl
  · obtain rfl := Option.some.inj hstep
    exact h.congr rfl rfl (List.length_set ..) rfl
  · rename_i job htask
    obtain rfl := Option.some.inj hstep
    obtain ⟨hi, -⟩ := List.getElem?_eq_some_iff.mp htask
    refine Balanced.release ⟨?_, h.exact⟩
    have hheld := h.held
    show σ.wakeLock = σ.queue.countP Item.counted + (σ.tasks.eraseIdx i).length + (0 + 1)
    rw [List.length_eraseIdx_of_lt hi]
    omega

/-- **One step** of any thread. -/
theorem Balanced.step (h : σ.Balanced 0) {a : Action}
    (hstep : σ.step verbose diffs a = some τ) : τ.Balanced 0 := by
  cases a with
  | enable =>
    obtain rfl := Option.some.inj hstep
    unfold enable
    split
    · exact h
    · exact Balanced.sendMessage (σ := { σ with enabled := true }) (h.congr rfl rfl rfl rfl) _
  | disable =>
    obtain rfl := Option.some.inj hstep
    unfold disable
    split
    · exact Balanced.sendMessage (σ := { σ with enabled := false }) (h.congr rfl rfl rfl rfl) _
    · exact h
  | setRequest | updateNetworkState | forceTimeInjection | requestUtcTime =>
    obtain rfl := Option.some.inj hstep
    exact h.sendMessage _
  | xtraDownloadRequest =>
    obtain rfl := Option.some.inj hstep
    exact (h.sendMessage .downloadXtraData).congr rfl rfl rfl rfl
  | forceXtraInjection =>
    obtain rfl := Option.some.inj hstep
    unfold forceXtraInjection
    split
    · exact (h.sendMessage .downloadXtraData).congr rfl rfl rfl rfl
    · exact h
  | setEngineCapabilities capabilities =>
    obtain rfl := Option.some.inj hstep
    show Balanced 0 (if _ then _ else _)
    split
    · exact Balanced.sendMessage (σ := { σ with
        nav := { σ.nav with engineCapabilities := capabilities }
        periodicTimeInjection := true }) (h.congr rfl rfl rfl rfl) _
    · exact h.congr rfl rfl rfl rfl
  | reportLocation | reportStatus | reportSvStatus | reportAGpsStatus | serviceDisconnected =>
    obtain rfl := Option.some.inj hstep
    exact h.congr rfl rfl rfl rfl
  | connectivityChange | lowPowerChange =>
    obtain rfl := Option.some.inj hstep
    exact h.receive _
  | alarmWakeup =>
    simp only [Provider.step, Option.ite_none_right_eq_some] at hstep
    obtain ⟨-, hτ⟩ := hstep
    obtain rfl := Option.some.inj hτ
    exact Balanced.receive (σ := { σ with nav := { σ.nav with wakeupAlarm := none } })
      (h.congr rfl rfl rfl rfl) _
  | alarmTimeout =>
    simp only [Provider.step, Option.ite_none_right_eq_some] at hstep
    obtain ⟨-, hτ⟩ := hstep
    obtain rfl := Option.some.inj hτ
    exact Balanced.receive (σ := { σ with nav := { σ.nav with timeoutAlarm := none } })
      (h.congr rfl rfl rfl rfl) _
  | due i =>
    obtain ⟨d, -, rfl⟩ := Option.map_eq_some_iff.mp hstep
    refine ⟨?_, h.exact⟩
    show σ.wakeLock = (σ.queue ++ [Item.message d.message false]).countP Item.counted
      + σ.tasks.length + 0
    rw [List.countP_append]
    exact h.held
  | handle ans => exact h.handle hstep
  | task i ok => exact h.taskStep hstep

end Provider

/-- **The wake lock is exact.**  In every run of the provider, whatever the other threads, the
engine, the alarms and the tasks do and in whatever order, the lock is held once for every message
in the queue that `sendMessage` has put there and once for every task of the pool, and `release`
never throws. -/
theorem wakeLock_exact {verbose : Bool} {diffs : ReturningDiffs} {σ : Provider}
    (h : Reachable (provider verbose diffs) σ) :
    σ.underLocked = false ∧
      σ.wakeLock = σ.queue.countP Item.counted + σ.tasks.length := by
  have hbalanced : σ.Balanced 0 := h.invariant ⟨rfl, rfl⟩ fun hs _ hstep => hs.step hstep
  exact ⟨hbalanced.exact, hbalanced.held⟩

/-- Two requests wait to be handled. -/
theorem wakeLock_twoRequests :
    (Provider.init false).xtraDownloadRequest.requestUtcTime.wakeLock = 2 :=
  (wakeLock_exact (Reachable.next (Reachable.next (M := provider false fun _ _ => none) .init
    (a := .xtraDownloadRequest) rfl) (a := .requestUtcTime) rfl)).2

end CtpCommon.Gps
