import CtpCommon.Gps.Provider
import Mathlib.Data.List.Perm.Basic

/-!
# The GPS provider: the time and the XTRA data

The injection of the time and the download of XTRA data are the same job to the handler: each step
of the provider, seen from one of them, is at most a step of a job that asks for itself again.

* `Provider.view` — what the provider's state says about one job;
* `Provider.step_simulated` — **PROVED**: every step of the provider is at most a step of the job;
* `Provider.reaches_view` — **PROVED**: every run of the provider is a run of the job;
* `job_single` — **PROVED** of every run: one task at most is at work;
* `jobs_kept` — **PROVED** of every run in which the data are not asked for between their injection
  and its report: what is to be done is never forgotten;
* `data_forgotten` — **PROVED**: data that are asked for just then are.
-/

namespace CtpCommon.Gps

open Runs (Reachable)

/-! ### One job -/

def PendingState.stage : PendingState → RetryJob.Stage
  | .pendingNetwork => .waiting
  | .downloading => .busy
  | .idle => .idle

theorem PendingState.stage_inj {s t : PendingState} : s.stage = t.stage ↔ s = t := by
  cases s <;> cases t <;> decide

/-- What an entry of the queue says about a job. -/
def Job.mail (job : Job) : Item → Option RetryJob.Mail
  | .message m _ =>
      if m = job.request then some .request
      else if m = job.finished then some .finished
      else none
  | .broadcast _ => none

/-- The job is done for good. -/
def Job.got (job : Job) (ok : Bool) : Bool := job = .downloadXtraData && ok

/-- A task of the job that is at work, or has failed, and has not reported. -/
def Job.seeks (job : Job) (t : Task) : Bool :=
  t.job = job && match t.phase with
    | .running => true
    | .fetched ok => !job.got ok
    | _ => false

/-- A task of the job that has done what is owed, and has not reported. -/
def Job.serves (job : Job) (t : Task) : Bool :=
  t.job = job && match t.phase with
    | .fetched ok => job.got ok
    | _ => false

/-- A task of the job that has not reported. -/
def Job.works (job : Job) (t : Task) : Bool := job.seeks t || job.serves t

/-- A task of the job that has reported, and may ask again. -/
def Job.decides (job : Job) (t : Task) : Bool :=
  t.job = job && match t.phase with
    | .reported ok => !job.got ok
    | _ => false

theorem serves_time (t : Task) : ¬ Job.serves .injectNtpTime t = true := by
  unfold Job.serves Job.got
  split <;> simp

/-- Only one task serves the data. -/
theorem serves_data {t : Task} (h : Job.serves .downloadXtraData t = true) :
    t = ⟨.downloadXtraData, .fetched true⟩ := by
  obtain ⟨job, phase⟩ := t
  unfold Job.serves at h
  obtain ⟨hjob, hphase⟩ := Bool.and_eq_true_iff.mp h
  obtain rfl := of_decide_eq_true hjob
  cases phase with
  | fetched ok =>
    obtain rfl : ok = true := (Bool.and_eq_true_iff.mp hphase).2
    rfl
  | _ => exact absurd hphase Bool.false_ne_true

/-- No task does both. -/
theorem seeks_serves (job : Job) (t : Task) : (job.seeks t && job.serves t) = false := by
  unfold Job.seeks Job.serves
  cases t.phase with
  | fetched ok =>
    dsimp only
    cases decide (t.job = job) <;> cases job.got ok <;> rfl
  | _ => cases decide (t.job = job) <;> rfl

theorem Job.countP_works (job : Job) (l : List Task) :
    l.countP job.works = l.countP job.seeks + l.countP job.serves := by
  induction l with
  | nil => rfl
  | cons t l ih =>
    have hbool : ∀ b c : Bool, (b && c) = false → (if (b || c) = true then 1 else 0)
        = (if b = true then 1 else 0) + if c = true then 1 else 0 := by decide
    have hone : (if job.works t = true then 1 else 0)
        = (if job.seeks t = true then 1 else 0) + if job.serves t = true then 1 else 0 :=
      hbool _ _ (seeks_serves job t)
    rw [List.countP_cons, List.countP_cons, List.countP_cons, hone, ih]
    omega

namespace Provider

/-- The time is owed if it is injected periodically, the data if they have been asked for. -/
def owed (σ : Provider) : Job → Bool
  | .injectNtpTime => σ.periodicTimeInjection
  | .downloadXtraData => σ.xtraOwed

def view (job : Job) (σ : Provider) : RetryJob where
  stage := (σ.pending job).stage
  network := σ.networkAvailable
  mail := σ.queue.filterMap job.mail
  delayed := σ.delayed.count (.request job)
  working := σ.tasks.countP job.seeks
  served := σ.tasks.countP job.serves
  deciding := σ.tasks.countP job.decides
  owed := σ.owed job

variable {verbose timely : Bool} {diffs : ReturningDiffs} {σ τ : Provider} {job : Job}

/-- A message that is sent, seen from a job. -/
theorem view_sendMessage (m : Message) :
    (σ.sendMessage m).view job = match job.mail (.message m true) with
      | some x => (σ.view job).post x
      | none => σ.view job := by
  have hmail : (σ.sendMessage m).view job
      = { σ.view job with
          mail := (σ.view job).mail ++ [Item.message m true].filterMap job.mail } := by
    unfold view
    rw [show (σ.sendMessage m).queue = σ.queue ++ [.message m true] from rfl,
      List.filterMap_append]
    cases job <;> rfl
  rw [hmail, List.filterMap_cons]
  cases job.mail (.message m true) with
  | none => simp
  | some x => rfl

/-- A message that is about no job. -/
theorem view_sendMessage_other {m : Message} (h : job.mail (.message m true) = none) :
    (σ.sendMessage m).view job = σ.view job := by
  rw [view_sendMessage, h]

theorem view_release : σ.release.view job = σ.view job := by
  unfold release
  split <;> cases job <;> rfl

/-- The pending state of a job is seen by that job alone. -/
theorem view_setPending (state : PendingState) :
    (σ.setPending job state).view job = { σ.view job with stage := state.stage } := by
  cases job <;> rfl

theorem view_setPending_other {other : Job} (h : other ≠ job) (state : PendingState) :
    (σ.setPending other state).view job = σ.view job := by
  cases job <;> cases other <;> first | rfl | exact absurd rfl h

/-- A new task. -/
theorem view_launch {other : Job} :
    view job { σ.acquire with tasks := σ.tasks ++ [⟨other, .running⟩] }
      = { σ.view job with working := (σ.view job).working + if other = job then 1 else 0 } := by
  unfold view
  simp only [acquire, List.countP_append, List.countP_singleton]
  cases job <;> cases other <;> rfl

/-- **A request is handled** as the job has it. -/
theorem view_handleJob (other : Job) : (σ.handleJob other).view job
    = if other = job then (σ.view job).attempt else σ.view job := by
  have htasks : ∀ state, (σ.setPending other state).tasks = σ.tasks := by
    cases other <;> exact fun _ => rfl
  unfold handleJob
  by_cases hsame : other = job
  · subst hsame
    rw [if_pos rfl]
    unfold RetryJob.attempt
    have hbusy : (σ.view other).stage = .busy ↔ σ.pending other = .downloading :=
      PendingState.stage_inj (t := .downloading)
    by_cases hdown : σ.pending other = .downloading
    · rw [if_pos hdown, if_pos (hbusy.mpr hdown)]
    rw [if_neg hdown, if_neg fun h => hdown (hbusy.mp h)]
    have hnetwork : (σ.view other).network = σ.networkAvailable := rfl
    rw [hnetwork]
    split
    · rw [← htasks .downloading, view_launch, view_setPending, if_pos rfl]
      rfl
    · exact view_setPending _
  · rw [if_neg hsame]
    split
    · rfl
    split
    · rw [← htasks .downloading, view_launch, view_setPending_other hsame, if_neg hsame]
      rfl
    · exact view_setPending_other hsame _

/-- A job that waits for the network is asked for. -/
theorem view_askPending (other : Job) : (σ.askPending other).view job
    = if other = job ∧ (σ.view job).stage = .waiting then (σ.view job).post .request
      else σ.view job := by
  have hstage : (σ.view job).stage = .waiting ↔ σ.pending job = .pendingNetwork :=
    PendingState.stage_inj (t := .pendingNetwork)
  unfold askPending
  by_cases hsame : other = job
  · subst hsame
    by_cases hwait : σ.pending other = .pendingNetwork
    · rw [if_pos hwait, if_pos ⟨rfl, hstage.mpr hwait⟩, view_sendMessage]
      cases other <;> rfl
    · have hrest : ¬ (other = other ∧ (σ.view other).stage = .waiting) :=
        fun h => hwait (hstage.mp h.2)
      rw [if_neg hwait, if_neg hrest]
  · have hother : ¬ (other = job ∧ (σ.view job).stage = .waiting) := fun h => hsame h.1
    rw [if_neg hother]
    split
    · refine view_sendMessage_other ?_
      cases job <;> cases other <;> first | rfl | exact absurd rfl hsame
    · rfl

/-- **The network changes**, and the jobs that wait for it are asked for. -/
theorem view_handleUpdateNetworkState (verbose : Bool) (job : Job) (ans : Answers) (state : Int32)
    (info : Option NetworkInfo) : ∃ b,
      (σ.view job).step (.setNetwork b)
        = some ((σ.handleUpdateNetworkState verbose ans state info).view job) := by
  refine ⟨if state = 2 then true else verbose, congrArg some ?_⟩
  unfold handleUpdateNetworkState
  generalize (if state = 2 then true else verbose) = b
  have hnote : (σ.noteNetwork b ans info).view job = { σ.view job with network := b } := by
    cases job <;> rfl
  cases b with
  | false => exact hnote.symm
  | true =>
    show _ = ((σ.noteNetwork true ans info).askPending _ |>.askPending _).view job
    rw [view_askPending, view_askPending, hnote]
    cases job with
    | injectNtpTime => simp
    | downloadXtraData => simp

/-! ### The handler's thread -/

/-- The head of the queue, seen from a job. -/
theorem view_head {item : Item} {rest : List Item} (h : σ.queue = item :: rest) :
    σ.view job = { view job { σ with queue := rest } with
      mail := (job.mail item).toList ++ (view job { σ with queue := rest }).mail } := by
  unfold view
  rw [h, List.filterMap_cons]
  cases job.mail item <;> cases job <;> rfl

/-- **A message is handled** as the job has it; `m` is the job with the message in front. -/
theorem handleMessage_simulated (verbose timely : Bool) (diffs : ReturningDiffs) (job : Job)
    (ans : Answers) (message : Message) {arg2 : Bool} {m : RetryJob}
    (hm : m = { σ.view job with
      mail := (job.mail (.message message arg2)).toList ++ (σ.view job).mail }) :
    m.Goes timely ((σ.handleMessage verbose diffs ans message).view job) := by
  subst hm
  cases message with
  | enable on =>
    refine .inl ?_
    cases on with
    | true =>
      show (σ.handleEnable verbose ans).view job = _
      unfold handleEnable
      split <;> cases job <;> rfl
    | false => cases job <;> rfl
  | setRequest request source => exact .inl (by cases job <;> rfl)
  | gpsServiceStart => exact .inl (by cases job <;> rfl)
  | updateNetworkState state info =>
    have hmail : (job.mail (.message (.updateNetworkState state info) arg2)).toList
        ++ (σ.view job).mail = (σ.view job).mail := by cases job <;> rfl
    rw [hmail]
    cases verbose with
    | true =>
      show RetryJob.Goes _ _ ((σ.handleJob .injectNtpTime).view job)
      rw [view_handleJob]
      cases job with
      | injectNtpTime => exact .inr ⟨.begin, trivial, rfl⟩
      | downloadXtraData => exact .inl rfl
    | false =>
      obtain ⟨b, hb⟩ := view_handleUpdateNetworkState (σ := σ) false job ans state info
      exact .inr ⟨.setNetwork b, trivial, hb⟩
  | injectNtpTime =>
    show RetryJob.Goes _ _ ((σ.handleJob .injectNtpTime).view job)
    rw [view_handleJob]
    cases job with
    | injectNtpTime => exact .inr ⟨.take, trivial, rfl⟩
    | downloadXtraData => exact .inl rfl
  | downloadXtraData =>
    show RetryJob.Goes _ _ ((if σ.supportsXtra then σ.handleDownloadXtraData
      else { σ with xtraOwed := false }).view job)
    split
    · rw [handleDownloadXtraData, view_handleJob]
      cases job with
      | injectNtpTime => exact .inl rfl
      | downloadXtraData => exact .inr ⟨.take, trivial, rfl⟩
    · cases job with
      | injectNtpTime => exact .inl rfl
      | downloadXtraData => exact .inr ⟨.refuse, trivial, rfl⟩
  | injectNtpTimeFinished =>
    cases job with
    | injectNtpTime => exact .inr ⟨.learn, trivial, rfl⟩
    | downloadXtraData => exact .inl rfl
  | downloadXtraDataFinished =>
    cases job with
    | injectNtpTime => exact .inl rfl
    | downloadXtraData => exact .inr ⟨.learn, trivial, rfl⟩

theorem handle_simulated {ans : Answers} (hstep : σ.handle verbose diffs ans = some τ) :
    (σ.view job).Goes timely (τ.view job) := by
  unfold handle at hstep
  split at hstep
  · exact absurd hstep (by simp)
  · rename_i message arg2 rest hqueue
    have hgoes := handleMessage_simulated (σ := { σ with queue := rest }) verbose timely diffs job
      ans message (view_head hqueue)
    obtain rfl := Option.some.inj hstep
    split
    · rw [view_release]
      exact hgoes
    · exact hgoes
  · rename_i b rest hqueue
    obtain rfl := Option.some.inj hstep
    refine .inl ?_
    rw [view_head hqueue]
    cases b with
    | connectivityChange noConnectivity info =>
      exact view_sendMessage_other (by cases job <;> rfl)
    | _ => cases job <;> rfl

/-! ### The tasks -/

/-- What counts after an entry of a list is gone. -/
theorem countP_eraseIdx_add {α : Type} (p : α → Bool) {l : List α} {i : ℕ} {x : α}
    (h : l[i]? = some x) : (l.eraseIdx i).countP p + (if p x then 1 else 0) = l.countP p := by
  obtain ⟨hi, rfl⟩ := List.getElem?_eq_some_iff.mp h
  rw [← (List.getElem_cons_eraseIdx_perm hi).countP_eq p, List.countP_cons]

/-- What counts after an entry of a list is replaced. -/
theorem countP_set_add {α : Type} (p : α → Bool) {l : List α} {i : ℕ} {x : α} (h : l[i]? = some x)
    (y : α) : (l.set i y).countP p + (if p x then 1 else 0)
      = l.countP p + if p y then 1 else 0 := by
  have herase := countP_eraseIdx_add p h
  obtain ⟨hi, -⟩ := List.getElem?_eq_some_iff.mp h
  rw [(List.set_perm_cons_eraseIdx hi y).countP_eq p, List.countP_cons]
  omega

/-- A task that counts for the same in its new phase. -/
theorem countP_set_same {l : List Task} {i : ℕ} {x y : Task} (h : l[i]? = some x)
    {p : Task → Bool} (hsame : p y = p x) : (l.set i y).countP p = l.countP p := by
  have hcount := countP_set_add p h y
  rw [hsame] at hcount
  exact Nat.add_right_cancel hcount

/-- A task of another job changes its phase. -/
theorem counts_other {other : Job} (hother : other ≠ job) {l : List Task} {i : ℕ}
    {phase : TaskPhase} (h : l[i]? = some ⟨other, phase⟩) (phase' : TaskPhase) :
    (l.set i ⟨other, phase'⟩).countP job.seeks = l.countP job.seeks ∧
      (l.set i ⟨other, phase'⟩).countP job.serves = l.countP job.serves ∧
      (l.set i ⟨other, phase'⟩).countP job.decides = l.countP job.decides := by
  refine ⟨countP_set_same h ?_, countP_set_same h ?_, countP_set_same h ?_⟩
  · simp [Job.seeks, hother]
  · simp [Job.serves, hother]
  · simp [Job.decides, hother]

theorem got_iff {ok : Bool} : job.got ok = true ↔ job = .downloadXtraData ∧ ok = true := by
  unfold Job.got
  rw [Bool.and_eq_true, decide_eq_true_iff]

/-- The tasks and the debt, seen from a job. -/
theorem view_fetch (σ : Provider) (job : Job) (l : List Task) (b : Bool) :
    view job { σ with tasks := l, xtraOwed := b } = { σ.view job with
      working := l.countP job.seeks
      served := l.countP job.serves
      deciding := l.countP job.decides
      owed := if job = .downloadXtraData then b else σ.periodicTimeInjection } := by
  cases job <;> rfl

/-- **The work of a task ends.** -/
theorem fetch_simulated {i : ℕ} {other : Job} (h : σ.tasks[i]? = some ⟨other, .running⟩)
    (ok : Bool) : (σ.view job).Goes timely (view job { σ with
      tasks := σ.tasks.set i ⟨other, .fetched ok⟩
      xtraOwed := σ.xtraOwed && !(other = .downloadXtraData && ok) }) := by
  rw [view_fetch σ job (σ.tasks.set i ⟨other, .fetched ok⟩)]
  by_cases hother : other = job
  · subst hother
    have hdecides : (σ.tasks.set i ⟨other, .fetched ok⟩).countP other.decides
        = σ.tasks.countP other.decides := countP_set_same h (by simp [Job.decides])
    rw [hdecides]
    cases hgot : other.got ok with
    | true =>
      obtain ⟨rfl, rfl⟩ := got_iff.mp hgot
      have hseeks : (σ.tasks.set i ⟨.downloadXtraData, .fetched true⟩).countP
          (Job.seeks .downloadXtraData) + 1 = σ.tasks.countP (Job.seeks .downloadXtraData) :=
        countP_set_add _ h _
      have hserves : (σ.tasks.set i ⟨.downloadXtraData, .fetched true⟩).countP
          (Job.serves .downloadXtraData) = σ.tasks.countP (Job.serves .downloadXtraData) + 1 :=
        countP_set_add (Job.serves .downloadXtraData) h ⟨.downloadXtraData, .fetched true⟩
      have hworking : (σ.view .downloadXtraData).working
          = (σ.tasks.set i ⟨.downloadXtraData, .fetched true⟩).countP
            (Job.seeks .downloadXtraData) + 1 := hseeks.symm
      refine .inr ⟨.serve, trivial, ?_⟩
      show (if 0 < (σ.view .downloadXtraData).working then _ else none : Option RetryJob) = _
      rw [if_pos (by omega), hworking, Nat.add_sub_cancel, hserves]
      refine congrArg some ?_
      have hpaid : (σ.xtraOwed && !(decide (Job.downloadXtraData = .downloadXtraData) && true))
          = false := Bool.and_false _
      rw [hpaid]
      rfl
    | false =>
      have hseeks : (σ.tasks.set i ⟨other, .fetched ok⟩).countP other.seeks
          = σ.tasks.countP other.seeks := countP_set_same h (by simp [Job.seeks, hgot])
      have hserves : (σ.tasks.set i ⟨other, .fetched ok⟩).countP other.serves
          = σ.tasks.countP other.serves := countP_set_same h (by simp [Job.serves, hgot])
      have howed : (σ.xtraOwed && !(decide (other = .downloadXtraData) && ok)) = σ.xtraOwed := by
        have hnot : (decide (other = .downloadXtraData) && ok) = false := hgot
        rw [hnot]
        exact Bool.and_true _
      refine .inl ?_
      rw [hseeks, hserves, howed]
      cases other <;> rfl
  · obtain ⟨hseeks, hserves, hdecides⟩ := counts_other hother h (.fetched ok)
    refine .inl ?_
    rw [hseeks, hserves, hdecides]
    cases job with
    | injectNtpTime => rfl
    | downloadXtraData =>
      have howed : (σ.xtraOwed && !(decide (other = .downloadXtraData) && ok)) = σ.xtraOwed := by
        rw [decide_eq_false hother]
        exact Bool.and_true _
      rw [howed]
      rfl

/-- A report and the tasks, seen from a job. -/
theorem view_report (σ : Provider) (job other : Job) (l : List Task) :
    view job { σ.sendMessage other.finished with tasks := l } = {
      (if other = job then (σ.view job).post .finished else σ.view job) with
      working := l.countP job.seeks
      served := l.countP job.serves
      deciding := l.countP job.decides } := by
  have hview := view_fetch (σ.sendMessage other.finished) job l σ.xtraOwed
  rw [view_sendMessage other.finished] at hview
  refine hview.trans ?_
  cases job <;> cases other <;> rfl

/-- **A task reports.** -/
theorem report_simulated {i : ℕ} {other : Job} {ok : Bool}
    (h : σ.tasks[i]? = some ⟨other, .fetched ok⟩) :
    (σ.view job).Goes timely (view job { σ.sendMessage other.finished with
      tasks := σ.tasks.set i ⟨other, .reported ok⟩ }) := by
  rw [view_report σ job other (σ.tasks.set i ⟨other, .reported ok⟩)]
  by_cases hother : other = job
  · subst hother
    rw [if_pos rfl]
    cases hgot : other.got ok with
    | true =>
      have hseeks : (σ.tasks.set i ⟨other, .reported ok⟩).countP other.seeks
          = σ.tasks.countP other.seeks := countP_set_same h (by simp [Job.seeks, hgot])
      have hdecides : (σ.tasks.set i ⟨other, .reported ok⟩).countP other.decides
          = σ.tasks.countP other.decides := countP_set_same h (by simp [Job.decides, hgot])
      have hserves := countP_set_add other.serves h ⟨other, .reported ok⟩
      have hdone : other.serves ⟨other, .fetched ok⟩ = true := by simp [Job.serves, hgot]
      have hgone : other.serves ⟨other, .reported ok⟩ = false := by simp [Job.serves]
      rw [hdone, hgone, if_pos rfl, if_neg Bool.false_ne_true, Nat.add_zero] at hserves
      have hserved : (σ.view other).served
          = (σ.tasks.set i ⟨other, .reported ok⟩).countP other.serves + 1 := hserves.symm
      refine .inr ⟨.finish, trivial, ?_⟩
      show (if 0 < (σ.view other).served then _ else none : Option RetryJob) = _
      rw [if_pos (by omega), hserved, Nat.add_sub_cancel, hseeks, hdecides]
      rfl
    | false =>
      have hserves : (σ.tasks.set i ⟨other, .reported ok⟩).countP other.serves
          = σ.tasks.countP other.serves := countP_set_same h (by simp [Job.serves, hgot])
      have hseeks := countP_set_add other.seeks h ⟨other, .reported ok⟩
      have hbusy : other.seeks ⟨other, .fetched ok⟩ = true := by simp [Job.seeks, hgot]
      have hgone : other.seeks ⟨other, .reported ok⟩ = false := by simp [Job.seeks]
      rw [hbusy, hgone, if_pos rfl, if_neg Bool.false_ne_true, Nat.add_zero] at hseeks
      have hdecides := countP_set_add other.decides h ⟨other, .reported ok⟩
      have hrest : other.decides ⟨other, .fetched ok⟩ = false := by simp [Job.decides]
      have hmay : other.decides ⟨other, .reported ok⟩ = true := by simp [Job.decides, hgot]
      rw [hrest, hmay, if_pos rfl, if_neg Bool.false_ne_true, Nat.add_zero] at hdecides
      have hworking : (σ.view other).working
          = (σ.tasks.set i ⟨other, .reported ok⟩).countP other.seeks + 1 := hseeks.symm
      refine .inr ⟨.report, trivial, ?_⟩
      show (if 0 < (σ.view other).working then _ else none : Option RetryJob) = _
      rw [if_pos (by omega), hworking, Nat.add_sub_cancel, hserves, hdecides]
      rfl
  · obtain ⟨hseeks, hserves, hdecides⟩ := counts_other hother h (.reported ok)
    refine .inl ?_
    rw [if_neg hother, hseeks, hserves, hdecides]
    rfl

/-- The tasks and the delayed messages, seen from a job. -/
theorem view_delayed (σ : Provider) (job : Job) (l : List Task) (ds : List Delayed) :
    view job { σ with tasks := l, delayed := ds } = { σ.view job with
      working := l.countP job.seeks
      served := l.countP job.serves
      deciding := l.countP job.decides
      delayed := ds.count (.request job) } := by
  cases job <;> rfl

/-- **A task asks again**, or does not. -/
theorem ask_simulated {i : ℕ} {other : Job} {ok : Bool}
    (h : σ.tasks[i]? = some ⟨other, .reported ok⟩) :
    (σ.view job).Goes timely (view job { σ with
      tasks := σ.tasks.set i ⟨other, .asked⟩
      delayed := if σ.asksAgain other ok then σ.delayed ++ [.request other] else σ.delayed }) := by
  rw [view_delayed σ job (σ.tasks.set i ⟨other, .asked⟩)]
  by_cases hother : other = job
  · subst hother
    have hseeks : (σ.tasks.set i ⟨other, .asked⟩).countP other.seeks
        = σ.tasks.countP other.seeks := countP_set_same h (by simp [Job.seeks])
    have hserves : (σ.tasks.set i ⟨other, .asked⟩).countP other.serves
        = σ.tasks.countP other.serves := countP_set_same h (by simp [Job.serves])
    rw [hseeks, hserves]
    cases hgot : other.got ok with
    | true =>
      obtain ⟨rfl, rfl⟩ := got_iff.mp hgot
      have hdecides : (σ.tasks.set i ⟨.downloadXtraData, .asked⟩).countP
          (Job.decides .downloadXtraData) = σ.tasks.countP (Job.decides .downloadXtraData) :=
        countP_set_same h rfl
      refine .inl ?_
      rw [hdecides]
      rfl
    | false =>
      have hdecides := countP_set_add other.decides h ⟨other, .asked⟩
      have hmay : other.decides ⟨other, .reported ok⟩ = true := by simp [Job.decides, hgot]
      have hgone : other.decides ⟨other, .asked⟩ = false := by simp [Job.decides]
      rw [hmay, hgone, if_pos rfl, if_neg Bool.false_ne_true, Nat.add_zero] at hdecides
      have howed : σ.asksAgain other ok = false → (σ.view other).owed = false := by
        cases other with
        | injectNtpTime => exact id
        | downloadXtraData =>
          intro hasks
          have hok : ok = false := hgot
          rw [hok] at hasks
          exact absurd hasks (by simp [asksAgain])
      have hdeciding : (σ.view other).deciding
          = (σ.tasks.set i ⟨other, .asked⟩).countP other.decides + 1 := hdecides.symm
      refine .inr ⟨.decide (σ.asksAgain other ok), trivial, ?_⟩
      show (if 0 < (σ.view other).deciding ∧ _ then _ else none : Option RetryJob) = _
      rw [if_pos ⟨by omega, howed⟩, hdeciding, Nat.add_sub_cancel]
      refine congrArg some ?_
      cases σ.asksAgain other ok with
      | true =>
        rw [if_pos rfl, if_pos rfl, List.count_append, List.count_singleton_self]
        rfl
      | false => rfl
  · obtain ⟨hseeks, hserves, hdecides⟩ := counts_other hother h .asked
    refine .inl ?_
    have hcount : (if σ.asksAgain other ok then σ.delayed ++ [.request other]
        else σ.delayed).count (.request job) = σ.delayed.count (.request job) := by
      split
      · rw [List.count_append, List.count_singleton, if_neg (by simpa using hother), Nat.add_zero]
      · rfl
    rw [hseeks, hserves, hdecides, hcount]
    cases job <;> rfl

/-- A task that has asked is not seen any more. -/
theorem view_erase {i : ℕ} {other : Job} (h : σ.tasks[i]? = some ⟨other, .asked⟩) :
    view job { σ with tasks := σ.tasks.eraseIdx i } = σ.view job := by
  have hseeks := countP_eraseIdx_add job.seeks h
  have hserves := countP_eraseIdx_add job.serves h
  have hdecides := countP_eraseIdx_add job.decides h
  have hdone : job.seeks ⟨other, .asked⟩ = false := Bool.and_false _
  have hnone : job.serves ⟨other, .asked⟩ = false := Bool.and_false _
  have hrest : job.decides ⟨other, .asked⟩ = false := Bool.and_false _
  rw [hdone, if_neg Bool.false_ne_true, Nat.add_zero] at hseeks
  rw [hnone, if_neg Bool.false_ne_true, Nat.add_zero] at hserves
  rw [hrest, if_neg Bool.false_ne_true, Nat.add_zero] at hdecides
  unfold view
  rw [hseeks, hserves, hdecides]
  cases job <;> rfl

theorem taskStep_simulated {i : ℕ} {ok : Bool} (hstep : σ.taskStep i ok = some τ) :
    (σ.view job).Goes timely (τ.view job) := by
  unfold taskStep at hstep
  split at hstep
  · exact absurd hstep (by simp)
  · rename_i other htask
    obtain rfl := Option.some.inj hstep
    exact fetch_simulated htask ok
  · rename_i other ok htask
    obtain rfl := Option.some.inj hstep
    exact report_simulated htask
  · rename_i other ok htask
    obtain rfl := Option.some.inj hstep
    exact ask_simulated htask
  · rename_i other htask
    obtain rfl := Option.some.inj hstep
    refine .inl ?_
    rw [view_release, view_erase htask]

/-! ### Every step -/

/-- **A delayed message comes due.** -/
theorem due_simulated {i : ℕ} (hstep : σ.due i = some τ) :
    (σ.view job).Goes timely (τ.view job) := by
  obtain ⟨d, hd, rfl⟩ := Option.map_eq_some_iff.mp hstep
  have hcount := countP_eraseIdx_add (· == Delayed.request job) hd
  by_cases hsame : d = .request job
  · subst hsame
    rw [beq_self_eq_true, if_pos rfl] at hcount
    refine .inr ⟨.due, trivial, ?_⟩
    show (if 0 < σ.delayed.count (.request job) then _ else none : Option RetryJob) = _
    have hdelayed : σ.delayed.count (.request job)
        = (σ.delayed.eraseIdx i).count (.request job) + 1 := hcount.symm
    rw [if_pos (by omega)]
    refine congrArg some ?_
    unfold view
    rw [hdelayed, Nat.add_sub_cancel, List.filterMap_append]
    cases job <;> rfl
  · rw [beq_eq_false_iff_ne.mpr hsame, if_neg Bool.false_ne_true, Nat.add_zero] at hcount
    have hdelayed : (σ.delayed.eraseIdx i).count (.request job)
        = σ.delayed.count (.request job) := hcount
    have hmail : job.mail (.message d.message false) = none := by
      cases d with
      | gpsServiceStart => cases job <;> rfl
      | request other => cases job <;> cases other <;> first | rfl | exact absurd rfl hsame
    refine .inl ?_
    unfold view
    rw [hdelayed, List.filterMap_append, List.filterMap_cons, hmail, List.filterMap_nil,
      List.append_nil]
    cases job <;> rfl

/-- A request for the time, which may be owed from now on. -/
theorem time_simulated (job : Job) (owes : Bool) : (σ.view job).Goes timely (view job
    { σ.sendMessage .injectNtpTime with
      periodicTimeInjection := σ.periodicTimeInjection || owes }) := by
  cases job with
  | injectNtpTime =>
    refine .inr ⟨.ask owes, ?_, congrArg some ?_⟩
    · cases owes with
      | true => exact fun _ => List.countP_eq_zero.mpr fun t _ => serves_time t
      | false => trivial
    · show _ = { view .injectNtpTime (σ.sendMessage .injectNtpTime) with
        owed := σ.periodicTimeInjection || owes }
      rw [view_sendMessage]
      rfl
  | downloadXtraData =>
    refine .inl ?_
    show view .downloadXtraData (σ.sendMessage .injectNtpTime) = _
    rw [view_sendMessage_other rfl]

/-- A request for XTRA data; no task has yet to report that it has injected them. -/
theorem xtra_simulated (htimely : timely = true → job = .downloadXtraData →
      ⟨job, .fetched true⟩ ∉ σ.tasks) :
    (σ.view job).Goes timely (σ.xtraDownloadRequest.view job) := by
  cases job with
  | injectNtpTime =>
    refine .inl ?_
    show view .injectNtpTime (σ.sendMessage .downloadXtraData) = _
    rw [view_sendMessage_other rfl]
  | downloadXtraData =>
    refine .inr ⟨.ask true, ?_, congrArg some ?_⟩
    · intro hverbose
      refine List.countP_eq_zero.mpr fun t ht hserves => htimely hverbose rfl ?_
      rw [← serves_data hserves]
      exact ht
    · show _ = { view .downloadXtraData (σ.sendMessage .downloadXtraData) with owed := true }
      rw [view_sendMessage]
      exact congrArg (fun b => { RetryJob.post (view .downloadXtraData σ) .request with owed := b })
        (Bool.or_true _)

/-- A message about no job. -/
theorem other_simulated {m : Message} (hm : job.mail (.message m true) = none)
    (hτ : τ.view job = σ.view job) : (σ.view job).Goes timely ((τ.sendMessage m).view job) := by
  refine .inl ?_
  rw [view_sendMessage_other hm, hτ]

/-- A broadcast waits in the queue. -/
theorem view_receive (b : Broadcast) : (σ.receive b).view job = σ.view job := by
  have hmail : (σ.receive b).queue.filterMap job.mail = σ.queue.filterMap job.mail := by
    show (σ.queue ++ [Item.broadcast b]).filterMap job.mail = _
    rw [List.filterMap_append]
    exact List.append_nil _
  unfold view
  rw [hmail]
  cases job <;> rfl

end Provider

/-- XTRA data are asked for. -/
def Action.asksForData : Action → Bool
  | .forceXtraInjection => true
  | .xtraDownloadRequest => true
  | _ => false

namespace Provider

variable {verbose timely : Bool} {diffs : ReturningDiffs} {σ τ : Provider} {job : Job}

/-- The data are not asked for while a task that has injected them has yet to report. -/
def Timely (job : Job) (σ : Provider) (a : Action) : Prop :=
  job = .downloadXtraData → a.asksForData = true → ⟨job, .fetched true⟩ ∉ σ.tasks

/-- **The provider is two jobs**: every step of it, seen from one of them, is at most a step of that
job. -/
theorem step_simulated {a : Action} (hok : timely = true → σ.Timely job a)
    (hstep : σ.step verbose diffs a = some τ) : (σ.view job).Goes timely (τ.view job) := by
  cases a with
  | enable =>
    obtain rfl := Option.some.inj hstep
    unfold enable
    split
    · exact .inl rfl
    · exact other_simulated (by cases job <;> rfl) (by cases job <;> rfl)
  | disable =>
    obtain rfl := Option.some.inj hstep
    unfold disable
    split
    · exact other_simulated (by cases job <;> rfl) (by cases job <;> rfl)
    · exact .inl rfl
  | setRequest | updateNetworkState =>
    obtain rfl := Option.some.inj hstep
    exact other_simulated (by cases job <;> rfl) rfl
  | forceTimeInjection | requestUtcTime =>
    obtain rfl := Option.some.inj hstep
    have hgoes : (σ.view job).Goes timely _ := time_simulated job false
    rw [Bool.or_false] at hgoes
    exact hgoes
  | xtraDownloadRequest =>
    obtain rfl := Option.some.inj hstep
    exact xtra_simulated fun htimely hjob => hok htimely hjob rfl
  | forceXtraInjection =>
    obtain rfl := Option.some.inj hstep
    unfold forceXtraInjection
    split
    · exact xtra_simulated fun htimely hjob => hok htimely hjob rfl
    · exact .inl rfl
  | setEngineCapabilities capabilities =>
    obtain rfl := Option.some.inj hstep
    unfold setEngineCapabilities
    extract_lets
    split
    · have hview : view job { σ with nav := { σ.nav with engineCapabilities := capabilities } }
          = σ.view job := by cases job <;> rfl
      have hgoes : (view job { σ with nav := { σ.nav with
          engineCapabilities := capabilities } }).Goes timely _ := time_simulated job true
      rw [Bool.or_true, hview] at hgoes
      exact hgoes
    · exact .inl (by cases job <;> rfl)
  | reportLocation | reportStatus | reportSvStatus | reportAGpsStatus =>
    obtain rfl := Option.some.inj hstep
    exact .inl (by cases job <;> rfl)
  | serviceDisconnected =>
    obtain rfl := Option.some.inj hstep
    refine .inl ?_
    have hdelayed : (σ.delayed ++ [Delayed.gpsServiceStart]).count (.request job)
        = σ.delayed.count (.request job) := by
      rw [List.count_append]
      exact Nat.add_zero _
    show { σ.view job with
      delayed := (σ.delayed ++ [Delayed.gpsServiceStart]).count (Delayed.request job) } = _
    rw [hdelayed]
    rfl
  | connectivityChange | lowPowerChange =>
    obtain rfl := Option.some.inj hstep
    exact .inl (view_receive _)
  | alarmWakeup =>
    simp only [Provider.step, Option.ite_none_right_eq_some] at hstep
    obtain ⟨-, hτ⟩ := hstep
    obtain rfl := Option.some.inj hτ
    refine .inl ?_
    rw [view_receive]
    cases job <;> rfl
  | alarmTimeout =>
    simp only [Provider.step, Option.ite_none_right_eq_some] at hstep
    obtain ⟨-, hτ⟩ := hstep
    obtain rfl := Option.some.inj hτ
    refine .inl ?_
    rw [view_receive]
    cases job <;> rfl
  | due i => exact due_simulated hstep
  | handle ans => exact handle_simulated hstep
  | task i ok => exact taskStep_simulated hstep

/-- Every run of the provider is a run of the job, and a timely one of a timely one. -/
theorem reaches_view (job : Job) {ok : Provider → Action → Prop}
    (hok : ∀ σ a, ok σ a → timely = true → Timely job σ a)
    (h : Runs.Reaches (provider verbose diffs) ok σ) :
    Runs.Reaches RetryJob.system (RetryJob.Admits timely) (σ.view job) := by
  refine h.invariant (I := fun σ => Runs.Reaches RetryJob.system (RetryJob.Admits timely)
    (view job σ)) ?_ ?_
  · cases job <;> exact .init
  · intro σ a τ hσ hstepOk hstep
    exact (step_simulated (hok _ _ hstepOk) hstep).reaches hσ

/-- One task at most is at work or has reported unread, while the state of the job is
`STATE_DOWNLOADING`, and none otherwise. -/
def JobSingle (job : Job) (σ : Provider) : Prop :=
  σ.tasks.countP job.works + (σ.queue.filterMap job.mail).count .finished
    = if σ.pending job = .downloading then 1 else 0

/-- While the job is owed it waits for a network that is not there, a request has yet to come due, a
task seeks to do it or has yet to ask again, or the last message of the job in the queue is a
request. -/
def JobKept (job : Job) (σ : Provider) : Prop :=
  σ.owed job = true →
    (σ.pending job = .pendingNetwork ∧ σ.networkAvailable = false) ∨
      Delayed.request job ∈ σ.delayed ∨ (∃ t ∈ σ.tasks, job.seeks t = true ∨ job.decides t = true) ∨
      (σ.queue.filterMap job.mail).getLast? = some .request

end Provider

/-- **The time and the XTRA data are never fetched twice at once**: in every run of the provider,
whatever the network, the engine, the other threads and the pool do and in whatever order. -/
theorem job_single {verbose : Bool} {diffs : ReturningDiffs} {σ : Provider}
    (h : Reachable (provider verbose diffs) σ) (job : Job) : σ.JobSingle job := by
  have hrun : Runs.Reaches RetryJob.system (RetryJob.Admits false) (σ.view job) :=
    Provider.reaches_view job (fun _ _ _ hnot => absurd hnot Bool.false_ne_true) h
  have hsingle := RetryJob.single hrun
  unfold RetryJob.Single at hsingle
  unfold Provider.JobSingle
  rw [Job.countP_works]
  have hbusy : (σ.view job).stage = .busy ↔ σ.pending job = .downloading :=
    PendingState.stage_inj (t := .downloading)
  by_cases hdown : σ.pending job = .downloading
  · rw [if_pos (hbusy.mpr hdown)] at hsingle
    rw [if_pos hdown]
    exact hsingle
  · rw [if_neg fun hb => hdown (hbusy.mp hb)] at hsingle
    rw [if_neg hdown]
    exact hsingle

/-- **The time and the XTRA data are never forgotten, and never fetched twice at once.**  In every
run of the provider, whatever the network, the engine, the other threads and the pool do and in
whatever order, and if it is about the data, in which they are not asked for between their injection
and its report. -/
theorem jobs_kept {verbose : Bool} {diffs : ReturningDiffs} {job : Job} {σ : Provider}
    (h : Runs.Reaches (provider verbose diffs) (Provider.Timely job) σ) :
    σ.JobSingle job ∧ σ.JobKept job := by
  refine ⟨job_single (h.mono fun _ _ _ => trivial) job, fun howed => ?_⟩
  have hsound := RetryJob.sound (Provider.reaches_view job (fun _ _ hok _ => hok) h)
  rcases hsound.kept howed with ⟨hwait, hnetwork⟩ | hdelayed | hworking | hdeciding | hlast
  · exact .inl ⟨(PendingState.stage_inj (t := .pendingNetwork)).mp hwait, hnetwork⟩
  · exact .inr (.inl (List.count_pos_iff.mp hdelayed))
  · obtain ⟨t, ht, hseeks⟩ := List.countP_pos_iff.mp hworking
    exact .inr (.inr (.inl ⟨t, ht, .inl hseeks⟩))
  · obtain ⟨t, ht, hdecides⟩ := List.countP_pos_iff.mp hdeciding
    exact .inr (.inr (.inl ⟨t, ht, .inr hdecides⟩))
  · exact .inr (.inr (.inr hlast))

/-- An engine that cannot ask for the time has it injected periodically. -/
theorem jobs_kept_periodic :
    ((Provider.init false).setEngineCapabilities 0).JobSingle .injectNtpTime ∧
      ((Provider.init false).setEngineCapabilities 0).JobKept .injectNtpTime :=
  jobs_kept (Runs.Reaches.step (M := provider false fun _ _ => none) .init
    (a := .setEngineCapabilities 0) (fun hdata => absurd hdata (by decide)) rfl)

/-- **Where the data are asked for again too soon**: a task has injected some, and has yet to report;
the request is read before the report, and dropped. -/
theorem data_forgotten : ∃ σ : Provider, Reachable (provider false fun _ _ => none) σ ∧
    σ.owed .downloadXtraData = true ∧ ¬ σ.JobKept .downloadXtraData := by
  let handle : Action := .handle ⟨⟨false, true, true, 0, 0⟩, ⟨false, none, fun _ => 0⟩,
    ⟨0, false, true⟩, true, true⟩
  have hrun := Runs.reaches_of_exec (show Runs.exec (provider false fun _ _ => none)
    (fun _ _ => True) _ [.enable, handle, .updateNetworkState 2 none, handle, handle, handle,
      .task 1 true, .xtraDownloadRequest, .task 1 true, handle, handle, .task 1 true,
      .task 1 true] = some _ from rfl)
  refine ⟨_, hrun, rfl, fun hkept => ?_⟩
  rcases hkept rfl with ⟨-, hnetwork⟩ | hdelayed | ⟨t, ht, htask⟩ | hlast
  · exact absurd hnetwork (by decide)
  · exact absurd hdelayed List.not_mem_nil
  · obtain rfl := List.mem_singleton.mp ht
    exact absurd htask (by decide)
  · exact absurd hlast (by decide)

end CtpCommon.Gps
