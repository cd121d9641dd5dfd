import CtpCommon.Lib.Runs

/-!
# A job that asks for itself again

A handler thread takes messages from its queue, one after the other.  A request for a job starts a
task on a thread of its own, or is remembered until there is a network; a request that finds the
job busy is dropped.  The task does what is owed, or does not; it then reports to the queue, and only
after that decides whether a request is to come due later.

* `RetryJob`, `RetryJob.step` — the handler, the tasks, and the messages on their way;
  `RetryJob.StepTo` says what a step can do;
* `RetryJob.Single` — one task at most is at work, and the handler knows of it until it has read the
  report;
* `RetryJob.Kept` — a job that is owed waits for the network, is on its way, is being done, or is
  the last that the handler will read of;
* `RetryJob.Admits` — nothing is owed anew between what a task has done and its report;
* `RetryJob.Goes` — at most a step;
* `RetryJob.single`, `RetryJob.sound` — **PROVED** of every run: the first; and of every run whose
  steps are so: both.

Nothing here is specific to a program.
-/

namespace CtpCommon

/-- What the handler knows of the job. -/
inductive RetryJob.Stage where
  | waiting
  | busy
  | idle
  deriving DecidableEq, Repr

inductive RetryJob.Mail where
  | request
  | finished
  deriving DecidableEq, Repr

/-- `mail` is the part of the handler's queue that is about the job; `delayed` counts the requests
that have yet to come due, `working` the tasks that are at work or have failed, `served` those that
have done what is owed, until they report, and `deciding` those that have reported, and may ask
again. -/
structure RetryJob where
  stage : RetryJob.Stage
  network : Bool
  mail : List RetryJob.Mail
  delayed : ℕ
  working : ℕ
  served : ℕ
  deciding : ℕ
  owed : Bool
  deriving DecidableEq, Repr

namespace RetryJob

/-- `refuse` drops a request for good; `begin` acts as on a request without one; `serve` does what is
owed, and `finish` reports it. -/
inductive Action where
  | ask (owes : Bool)
  | due
  | setNetwork (available : Bool)
  | begin
  | take
  | refuse
  | learn
  | serve
  | finish
  | report
  | decide (again : Bool)
  deriving DecidableEq, Repr

def start : RetryJob := ⟨.waiting, false, [], 0, 0, 0, 0, false⟩

variable (m : RetryJob)

/-- A task is started, unless the job is busy or there is no network. -/
def attempt : RetryJob :=
  if m.stage = .busy then m
  else if m.network then { m with stage := .busy, working := m.working + 1 }
  else { m with stage := .waiting }

def post (x : Mail) : RetryJob := { m with mail := m.mail ++ [x] }

def step : Action → Option RetryJob
  | .ask owes => some { m.post .request with owed := m.owed || owes }
  | .due =>
      if 0 < m.delayed then some { m.post .request with delayed := m.delayed - 1 } else none
  | .setNetwork available =>
      let n := { m with network := available }
      some (if available ∧ m.stage = .waiting then n.post .request else n)
  | .begin => some m.attempt
  | .take =>
      match m.mail with
      | .request :: rest => some (attempt { m with mail := rest })
      | _ => none
  | .refuse =>
      match m.mail with
      | .request :: rest => some { m with mail := rest, owed := false }
      | _ => none
  | .learn =>
      match m.mail with
      | .finished :: rest => some { m with mail := rest, stage := .idle }
      | _ => none
  | .serve =>
      if 0 < m.working then
        some { m with working := m.working - 1, served := m.served + 1, owed := false }
      else none
  | .finish =>
      if 0 < m.served then some { m.post .finished with served := m.served - 1 } else none
  | .report =>
      if 0 < m.working then
        some { m.post .finished with working := m.working - 1, deciding := m.deciding + 1 }
      else none
  | .decide again =>
      if 0 < m.deciding ∧ (again = false → m.owed = false) then
        some { m with
          deciding := m.deciding - 1
          delayed := if again then m.delayed + 1 else m.delayed }
      else none

/-- All that one step does. -/
inductive StepTo : Action → RetryJob → Prop
  | ask (owes : Bool) : StepTo (.ask owes) { m.post .request with owed := m.owed || owes }
  | due : 0 < m.delayed → StepTo .due { m.post .request with delayed := m.delayed - 1 }
  | setNetwork (available : Bool) :
      StepTo (.setNetwork available) (if available ∧ m.stage = .waiting
        then post { m with network := available } .request else { m with network := available })
  | begin : StepTo .begin m.attempt
  | take (rest : List Mail) : m.mail = .request :: rest →
      StepTo .take (attempt { m with mail := rest })
  | refuse (rest : List Mail) : m.mail = .request :: rest →
      StepTo .refuse { m with mail := rest, owed := false }
  | learn (rest : List Mail) : m.mail = .finished :: rest →
      StepTo .learn { m with mail := rest, stage := .idle }
  | serve : 0 < m.working →
      StepTo .serve { m with working := m.working - 1, served := m.served + 1, owed := false }
  | finish : 0 < m.served →
      StepTo .finish { m.post .finished with served := m.served - 1 }
  | report : 0 < m.working →
      StepTo .report
        { m.post .finished with working := m.working - 1, deciding := m.deciding + 1 }
  | decide (again : Bool) : 0 < m.deciding → (again = false → m.owed = false) →
      StepTo (.decide again) { m with
        deciding := m.deciding - 1
        delayed := if again then m.delayed + 1 else m.delayed }

theorem stepTo_of_step {m n : RetryJob} {a : Action} (hstep : m.step a = some n) :
    m.StepTo a n := by
  cases a with
  | ask owes =>
    obtain rfl := Option.some.inj hstep
    exact .ask owes
  | due =>
    obtain ⟨hdelayed, heq⟩ := Option.ite_none_right_eq_some.mp hstep
    obtain rfl := Option.some.inj heq
    exact .due hdelayed
  | setNetwork available =>
    obtain rfl := Option.some.inj hstep
    exact .setNetwork available
  | begin =>
    obtain rfl := Option.some.inj hstep
    exact .begin
  | take =>
    simp only [step] at hstep
    split at hstep
    · rename_i rest hmail
      obtain rfl := Option.some.inj hstep
      exact .take rest hmail
    · exact absurd hstep (by simp)
  | refuse =>
    simp only [step] at hstep
    split at hstep
    · rename_i rest hmail
      obtain rfl := Option.some.inj hstep
      exact .refuse rest hmail
    · exact absurd hstep (by simp)
  | learn =>
    simp only [step] at hstep
    split at hstep
    · rename_i rest hmail
      obtain rfl := Option.some.inj hstep
      exact .learn rest hmail
    · exact absurd hstep (by simp)
  | serve =>
    obtain ⟨hworking, heq⟩ := Option.ite_none_right_eq_some.mp hstep
    obtain rfl := Option.some.inj heq
    exact .serve hworking
  | finish =>
    obtain ⟨hserved, heq⟩ := Option.ite_none_right_eq_some.mp hstep
    obtain rfl := Option.some.inj heq
    exact .finish hserved
  | report =>
    obtain ⟨hworking, heq⟩ := Option.ite_none_right_eq_some.mp hstep
    obtain rfl := Option.some.inj heq
    exact .report hworking
  | decide again =>
    obtain ⟨⟨hdeciding, howes⟩, heq⟩ := Option.ite_none_right_eq_some.mp hstep
    obtain rfl := Option.some.inj heq
    exact .decide again hdeciding howes

def system : Runs.System RetryJob Action := ⟨start, step⟩

/-- If it is to be timely, nothing is owed anew while a task has yet to report what it has done. -/
def Admits (timely : Bool) : RetryJob → Action → Prop
  | m, .ask true => timely = true → m.served = 0
  | _, _ => True

/-- Nothing happens to the job, or one step. -/
def Goes (timely : Bool) (n : RetryJob) : Prop :=
  n = m ∨ ∃ a, Admits timely m a ∧ m.step a = some n

/-! ### One task at most -/

/-- One task is at work, or has reported unread, while the job is busy, and none otherwise. -/
def Single : Prop :=
  m.working + m.served + m.mail.count .finished = if m.stage = .busy then 1 else 0

variable {m} {n : RetryJob} {a : Action} {rest : List Mail}

/-- **Trying** keeps the job single.  A job that was at rest is then being done, or waits for the
network. -/
theorem Single.attempt (h : m.Single) : m.attempt.Single ∧
    (m.stage = .busy ∧ m.attempt = m ∨ 0 < m.attempt.working ∨
      (m.attempt.stage = .waiting ∧ m.attempt.network = false)) := by
  unfold RetryJob.attempt
  by_cases hbusy : m.stage = .busy
  · rw [if_pos hbusy]
    exact ⟨h, .inl ⟨hbusy, rfl⟩⟩
  unfold Single at h
  rw [if_neg hbusy] at h
  rw [if_neg hbusy]
  by_cases hnetwork : m.network = true
  · rw [if_pos hnetwork]
    refine ⟨?_, .inr (.inl (Nat.succ_pos _))⟩
    show m.working + 1 + m.served + m.mail.count .finished = 1
    omega
  · rw [if_neg hnetwork]
    exact ⟨h, .inr (.inr ⟨rfl, Bool.eq_false_iff.mpr hnetwork⟩)⟩

theorem Single.post_request (h : m.Single) : (m.post .request).Single := by
  unfold Single post at *
  rw [List.count_append]
  exact h

/-- A request leaves the queue. -/
theorem Single.tail_request (h : m.Single) (hmail : m.mail = .request :: rest) :
    Single { m with mail := rest } := by
  unfold Single at h
  rw [hmail, List.count_cons_of_ne (by decide)] at h
  exact h

/-- **A report is read**: the job was busy, and no task is at work. -/
theorem Single.learn (h : m.Single) (hmail : m.mail = .finished :: rest) :
    m.stage = .busy ∧ Single { m with mail := rest, stage := .idle } := by
  unfold Single at h
  rw [hmail, List.count_cons_self] at h
  have hbusy : m.stage = .busy := by
    by_contra hnot
    rw [if_neg hnot] at h
    omega
  rw [if_pos hbusy] at h
  refine ⟨hbusy, ?_⟩
  show m.working + m.served + rest.count .finished = 0
  omega

/-- **A task reports.** -/
theorem Single.post_finished {w s d : ℕ} (h : m.Single) (hone : w + s + 1 = m.working + m.served) :
    Single { m.post .finished with working := w, served := s, deciding := d } := by
  unfold Single at h ⊢
  show w + s + (m.mail ++ [Mail.finished]).count .finished = if m.stage = .busy then 1 else 0
  have hlast : [Mail.finished].count Mail.finished = 1 := rfl
  rw [List.count_append, ← h]
  omega

theorem Single.setNetwork {available : Bool} (h : m.Single) :
    Single (if available = true ∧ m.stage = .waiting
      then post { m with network := available } .request else { m with network := available }) := by
  split
  · exact Single.post_request (m := { m with network := available }) h
  · exact h

theorem Single.step (h : m.Single) (hstep : m.step a = some n) : n.Single := by
  cases stepTo_of_step hstep with
  | ask | due => exact h.post_request
  | setNetwork => exact h.setNetwork
  | begin => exact h.attempt.1
  | take rest hmail => exact (h.tail_request hmail).attempt.1
  | refuse rest hmail => exact h.tail_request hmail
  | learn rest hmail => exact (h.learn hmail).2
  | serve hworking =>
    unfold Single at h ⊢
    rw [← h]
    show m.working - 1 + (m.served + 1) + m.mail.count .finished = _
    omega
  | finish hserved => exact h.post_finished (w := m.working) (d := m.deciding) (by omega)
  | report hworking => exact h.post_finished (s := m.served) (by omega)
  | decide => exact h

/-- **Every run.** -/
theorem single {ok : RetryJob → Action → Prop} (h : Runs.Reaches system ok m) : m.Single :=
  h.invariant rfl fun hs _ hstep => hs.step hstep

/-! ### What is owed -/

/-- What is owed is not forgotten. -/
def Kept (m : RetryJob) : Prop :=
  m.owed = true → (m.stage = .waiting ∧ m.network = false) ∨ 0 < m.delayed ∨ 0 < m.working ∨
    0 < m.deciding ∨ m.mail.getLast? = some .request

/-- Nothing is owed while a task has yet to report what it has done. -/
structure Sound (m : RetryJob) : Prop where
  single : m.Single
  kept : m.Kept
  paid : 0 < m.served → m.owed = false

theorem sound_start : Sound start :=
  ⟨rfl, fun h => absurd h Bool.false_ne_true, fun _ => rfl⟩

/-- With the head gone, the last message is what it was, or there is none left. -/
theorem getLast_tail {x : Mail} (h : (x :: rest).getLast? = some .request) (hrest : rest ≠ []) :
    rest.getLast? = some .request := by
  obtain ⟨y, ys, rfl⟩ := List.exists_cons_of_ne_nil hrest
  rw [List.getLast?_cons_cons] at h
  exact h

theorem post_last : (m.post .request).mail.getLast? = some .request := List.getLast?_concat

/-- A job whose last message is a request is kept. -/
theorem kept_of_last (h : m.mail.getLast? = some .request) : m.Kept :=
  fun _ => .inr (.inr (.inr (.inr h)))

theorem attempt_paid (h : 0 < m.served → m.owed = false) :
    0 < m.attempt.served → m.attempt.owed = false := by
  unfold RetryJob.attempt
  split
  · exact h
  split <;> exact h

theorem Sound.attempt (h : m.Sound) : m.attempt.Sound := by
  obtain ⟨hsingle, ⟨-, heq⟩ | hpos | hwait⟩ := h.single.attempt
  · rw [heq]
    exact h
  · exact ⟨hsingle, fun _ => .inr (.inr (.inl hpos)), attempt_paid h.paid⟩
  · exact ⟨hsingle, fun _ => .inl hwait, attempt_paid h.paid⟩

/-- **A request is read.**  If it is the last message and the job is busy, there is no report left
to read, and a task is at work: one that has done what is owed leaves nothing owed. -/
theorem Sound.take (h : m.Sound) (hmail : m.mail = .request :: rest) :
    (RetryJob.attempt { m with mail := rest }).Sound := by
  have hrest := h.single.tail_request hmail
  by_cases hempty : rest = []
  · obtain ⟨hsingle', ⟨hbusy, heq⟩ | hpos | hwait⟩ := hrest.attempt
    · have hone : m.working + m.served + rest.count .finished = 1 := by
        unfold Single at hrest
        rw [if_pos hbusy] at hrest
        exact hrest
      rw [heq]
      refine ⟨hrest, fun howed => ?_, h.paid⟩
      have hserved : m.served = 0 := by
        by_contra hne
        have hnone : m.owed = false := h.paid (Nat.pos_of_ne_zero hne)
        exact absurd (hnone.symm.trans howed) Bool.false_ne_true
      rw [hempty, hserved] at hone
      exact .inr (.inr (.inl (Nat.lt_of_lt_of_eq Nat.one_pos hone.symm)))
    · exact ⟨hsingle', fun _ => .inr (.inr (.inl hpos)), attempt_paid h.paid⟩
    · exact ⟨hsingle', fun _ => .inl hwait, attempt_paid h.paid⟩
  · refine Sound.attempt ⟨hrest, fun howed => ?_, h.paid⟩
    have hkept := h.kept howed
    rw [hmail] at hkept
    exact hkept.imp id (.imp id (.imp id (.imp id fun hlast => getLast_tail hlast hempty)))

/-- **A report is read.** -/
theorem Sound.learn (h : m.Sound) (hmail : m.mail = .finished :: rest) :
    Sound { m with mail := rest, stage := .idle } := by
  obtain ⟨hbusy, hsingle⟩ := h.single.learn hmail
  refine ⟨hsingle, fun howed => ?_, h.paid⟩
  have hkept := h.kept howed
  rw [hmail, hbusy] at hkept
  rcases hkept with ⟨hwait, -⟩ | hdelayed | hworking | hdeciding | hlast
  · exact absurd hwait (by decide)
  · exact .inr (.inl hdelayed)
  · exact .inr (.inr (.inl hworking))
  · exact .inr (.inr (.inr (.inl hdeciding)))
  · refine .inr (.inr (.inr (.inr (getLast_tail hlast ?_))))
    rintro rfl
    exact absurd hlast (by decide)

/-- **The network changes**: a job that waits for it is asked for. -/
theorem Sound.setNetwork {available : Bool} (h : m.Sound) :
    Sound (if available = true ∧ m.stage = .waiting
      then post { m with network := available } .request else { m with network := available }) := by
  refine ⟨h.single.setNetwork, ?_, ?_⟩
  · split
    · exact kept_of_last post_last
    · rename_i hnot
      refine fun howed => (h.kept howed).imp ?_ id
      rintro ⟨hwait, -⟩
      exact ⟨hwait, Bool.eq_false_iff.mpr fun havailable => hnot ⟨havailable, hwait⟩⟩
  · split <;> exact h.paid

/-- **One step.** -/
theorem Sound.step (h : m.Sound) (hok : Admits true m a) (hstep : m.step a = some n) :
    n.Sound := by
  have hsingle := h.single.step hstep
  cases stepTo_of_step hstep with
  | ask owes =>
    refine ⟨hsingle, kept_of_last post_last, fun hserved => ?_⟩
    cases owes with
    | true =>
      have hnone : m.served = 0 := hok rfl
      exact absurd hnone (Nat.pos_iff_ne_zero.mp hserved)
    | false => exact (Bool.or_false _).trans (h.paid hserved)
  | due => exact ⟨hsingle, kept_of_last post_last, h.paid⟩
  | setNetwork => exact h.setNetwork
  | begin => exact h.attempt
  | take rest hmail => exact h.take hmail
  | refuse | serve =>
    exact ⟨hsingle, fun howed => absurd howed Bool.false_ne_true, fun _ => rfl⟩
  | learn rest hmail => exact h.learn hmail
  | finish hserved =>
    have hnone := h.paid hserved
    exact ⟨hsingle, fun howed => absurd (hnone.symm.trans howed) Bool.false_ne_true,
      fun _ => hnone⟩
  | report => exact ⟨hsingle, fun _ => .inr (.inr (.inr (.inl (Nat.succ_pos _)))), h.paid⟩
  | decide again hdeciding howes =>
    refine ⟨hsingle, fun howed => ?_, h.paid⟩
    cases again with
    | true => exact .inr (.inl (Nat.succ_pos _))
    | false => exact absurd howed (Bool.eq_false_iff.mp (howes rfl))

/-- What is seen to be at most a step of the job goes on with its run. -/
theorem Goes.reaches {timely : Bool} (h : m.Goes timely n)
    (hm : Runs.Reaches system (Admits timely) m) : Runs.Reaches system (Admits timely) n := by
  rcases h with rfl | ⟨a, hok, hstep⟩
  · exact hm
  · exact .step hm hok hstep

/-- **Every timely run.** -/
theorem sound (h : Runs.Reaches system (Admits true) m) : m.Sound :=
  h.invariant sound_start fun hs hok hstep => hs.step hok hstep

end RetryJob

end CtpCommon
