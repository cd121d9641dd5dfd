import CtpCommon.Lib.Runs
import Mathlib.Data.Finset.Card

/-!
# Starting the event loop

`RIL_startEventLoop` creates the thread of `eventLoop` and waits for `s_started`; `RIL_register`
then adds the events it listens for, and writes a byte for each.  By then the thread may not have
made the pipe, and the byte goes to descriptor `0`.

* `Startup` — both threads, the mutex, and what they share;
* `startup_returns` — **PROVED** of every run: until `RIL_startEventLoop` has returned a step of it
  or of the new thread can be taken that brings the return nearer, and no step but a spurious wakeup
  puts it off;
* `startup_misses_nothing` — **PROVED** of every run: a loop that is blocked, with no byte in the
  pipe and none still to be written, waits for every event that has been added, wherever its byte
  went.

What `processReadReadies` and the callbacks do with the table is any number of additions and
removals by the loop's thread.  The table has room for seven descriptors besides the pipe's; two
SIMs need five, `RIL`'s and `SAP`'s of each and the debugger's.
-/

namespace CtpCommon.Event

open Runs (Reachable System)

/-! ### The two threads -/

/-- Where the thread is that calls `RIL_startEventLoop` and adds events afterwards. -/
inductive Caller where
  | begin
  | lock
  | create
  | test
  | waiting
  | relock
  | unlock
  | returned
  | adding
  deriving DecidableEq, Repr

/-- Where the thread of `eventLoop` is; `copied` and `blocked` have the descriptors it copied. -/
inductive LoopThread where
  | absent
  | eventInit
  | lock
  | start
  | broadcast
  | unlock
  | pipe
  | storeRead
  | storeWrite
  | addWakeup
  | top
  | copied (rfds : Finset ℕ)
  | blocked (rfds : Finset ℕ)
  | woken (byPipe : Bool)
  | dead
  deriving DecidableEq

/-- The thread is between `select` and the next copy. -/
def LoopThread.wakes : LoopThread → Bool
  | .woken _ => true
  | _ => false

/-- `stored`: `s_fdWakeupWrite` is the pipe's, and no longer `0`.  `events` are the descriptors in
the table, less the pipe's own; `added` are those that were added and have not been taken out since,
and `astray` the bytes that went to descriptor `0`. -/
structure Startup where
  caller : Caller
  loop : LoopThread
  started : Bool
  mutex : Bool
  stored : Bool
  watched : Bool
  events : Finset ℕ
  pipe : ℕ
  added : Finset ℕ
  astray : ℕ
  deriving DecidableEq

inductive StartupAction where
  | caller
  | createFails
  | spurious
  | add (fd : ℕ)
  | loop
  | loopAdd (fd : ℕ)
  | loopRemove (fd : ℕ)
  | pipeFails
  | select (byPipe : Bool)
  deriving DecidableEq

namespace Startup

def init : Startup where
  caller := .begin
  loop := .absent
  started := false
  mutex := false
  stored := false
  watched := false
  events := ∅
  pipe := 0
  added := ∅
  astray := 0

variable (s : Startup)

/-- `RIL_startEventLoop`, line by line, and then the write of `triggerEvLoop`. -/
def callerStep : Option Startup :=
  match s.caller with
  | .begin => some { s with started := false, caller := .lock }
  | .lock => if s.mutex then none else some { s with mutex := true, caller := .create }
  | .create => some { s with loop := .eventInit, caller := .test }
  | .test =>
      if s.started then some { s with caller := .unlock }
      else some { s with mutex := false, caller := .waiting }
  | .waiting => none
  | .relock => if s.mutex then none else some { s with mutex := true, caller := .test }
  | .unlock => some { s with mutex := false, caller := .returned }
  | .returned => none
  | .adding =>
      if s.stored then some { s with pipe := s.pipe + 1, caller := .returned }
      else some { s with astray := s.astray + 1, caller := .returned }

/-- `eventLoop`, line by line, and `ril_event_loop`. -/
def loopStep : Option Startup :=
  match s.loop with
  | .absent => none
  | .eventInit => some { s with events := ∅, watched := false, loop := .lock }
  | .lock => if s.mutex then none else some { s with mutex := true, loop := .start }
  | .start => some { s with started := true, loop := .broadcast }
  | .broadcast =>
      some { s with loop := .unlock, caller := if s.caller = .waiting then .relock else s.caller }
  | .unlock => some { s with mutex := false, loop := .pipe }
  | .pipe => some { s with loop := .storeRead }
  | .storeRead => some { s with loop := .storeWrite }
  | .storeWrite => some { s with stored := true, loop := .addWakeup }
  | .addWakeup => some { s with watched := true, loop := .top }
  | .top => some { s with loop := .copied s.events }
  | .copied rfds => some { s with loop := .blocked rfds }
  | .blocked _ => none
  | .woken byPipe => some { s with pipe := if byPipe then 0 else s.pipe, loop := .top }
  | .dead => none

/-- `select` may return for any reason but an error; for the pipe only if there is a byte. -/
def step : StartupAction → Option Startup
  | .caller => s.callerStep
  | .createFails => if s.caller = .create then some { s with caller := .unlock } else none
  | .spurious => if s.caller = .waiting then some { s with caller := .relock } else none
  | .add fd =>
      if s.caller = .returned ∧ fd ∉ s.events ∧ s.events.card < 7 then
        some { s with events := insert fd s.events, added := insert fd s.added, caller := .adding }
      else none
  | .loop => s.loopStep
  | .loopAdd fd =>
      if s.loop.wakes ∧ fd ∉ s.events ∧ s.events.card < 7 then
        some { s with events := insert fd s.events, added := insert fd s.added }
      else none
  | .loopRemove fd =>
      if s.loop.wakes then some { s with events := s.events.erase fd, added := s.added.erase fd }
      else none
  | .pipeFails => if s.loop = .pipe then some { s with loop := .dead } else none
  | .select byPipe =>
      match s.loop with
      | .blocked _ =>
          if byPipe → s.watched ∧ 0 < s.pipe then some { s with loop := .woken byPipe } else none
      | _ => none

end Startup

def startup : System Startup StartupAction := ⟨.init, Startup.step⟩

/-! ### Where the two threads are together -/

/-- The caller adds events. -/
def Caller.listens : Caller → Bool
  | .returned => true
  | .adding => true
  | _ => false

/-- The thread waits for the mutex, or is about to. -/
def LoopThread.early : LoopThread → Bool
  | .eventInit => true
  | .lock => true
  | _ => false

/-- The thread has given the mutex back. -/
def LoopThread.late : LoopThread → Bool
  | .absent => false
  | .eventInit => false
  | .lock => false
  | .start => false
  | .broadcast => false
  | .unlock => false
  | _ => true

theorem Caller.listens_iff {c : Caller} : c.listens = true ↔ c = .returned ∨ c = .adding := by
  cases c <;> simp [listens]

theorem LoopThread.early_iff {l : LoopThread} : l.early = true ↔ l = .eventInit ∨ l = .lock := by
  cases l <;> simp [early]

@[simp] theorem LoopThread.late_not_early {l : LoopThread} (h : l.early = true) :
    l.late = false := by
  cases l <;> simp_all [early, late]

/-- Where both are, with `s_started` and the mutex. -/
inductive Together : Caller → LoopThread → Bool → Bool → Prop
  | alone {c : Caller} : c = .begin ∨ c = .lock → Together c .absent false false
  | creating : Together .create .absent false true
  | failed : Together .unlock .absent false true
  | without {c : Caller} : c.listens = true → Together c .absent false false
  | testing {l : LoopThread} : l.early = true → Together .test l false true
  | waiting {c : Caller} {l : LoopThread} : c = .waiting ∨ c = .relock → l.early = true →
      Together c l false false
  | starting {c : Caller} : c = .waiting ∨ c = .relock → Together c .start false true
  | broadcasting {c : Caller} : c = .waiting ∨ c = .relock → Together c .broadcast true true
  | unlocking : Together .relock .unlock true true
  | woken {l : LoopThread} : l.late = true → Together .relock l true false
  | retesting {l : LoopThread} : l.late = true → Together .test l true true
  | returning {l : LoopThread} : l.late = true → Together .unlock l true true
  | running {c : Caller} {l : LoopThread} : c.listens = true → l.late = true →
      Together c l true false

/-- A thread that has given the mutex back may go anywhere that it does not need it. -/
theorem Together.still {c : Caller} {l l' : LoopThread} {started mutex : Bool}
    (h : Together c l started mutex) (hl : l.late = true) (hl' : l'.late = true) :
    Together c l' started mutex := by
  cases h with
  | alone | creating | failed | without => exact absurd hl Bool.false_ne_true
  | testing he => exact absurd hl (by simp [LoopThread.late_not_early he])
  | waiting _ he => exact absurd hl (by simp [LoopThread.late_not_early he])
  | starting | broadcasting | unlocking => exact absurd hl Bool.false_ne_true
  | woken => exact .woken hl'
  | retesting => exact .retesting hl'
  | returning => exact .returning hl'
  | running hc => exact .running hc hl'

namespace Startup

/-- Where the two threads of a state are. -/
def Together (s : Startup) : Prop := Event.Together s.caller s.loop s.started s.mutex

variable {s t : Startup}

theorem together_init : init.Together := .alone (.inl rfl)

/-- The write of a byte. -/
theorem write_same (hcaller : s.caller = .adding) (hstep : s.callerStep = some t) :
    t.caller = .returned ∧ t.loop = s.loop ∧ t.started = s.started ∧ t.mutex = s.mutex := by
  unfold callerStep at hstep
  rw [hcaller] at hstep
  simp only [] at hstep
  split at hstep <;> obtain rfl := Option.some.inj hstep <;> exact ⟨rfl, rfl, rfl, rfl⟩

/-- Once the thread has given the mutex back it leaves the caller alone. -/
theorem late_same (hlate : s.loop.late = true) (hstep : s.loopStep = some t) :
    t.caller = s.caller ∧ t.loop.late = true ∧ t.started = s.started ∧ t.mutex = s.mutex := by
  unfold loopStep at hstep
  cases hloop : s.loop <;> rw [hloop] at hstep hlate
  case absent | blocked | dead => exact absurd hstep (by simp)
  case eventInit | lock | start | broadcast | unlock => exact absurd hlate Bool.false_ne_true
  all_goals
    obtain rfl := Option.some.inj hstep
    exact ⟨rfl, rfl, rfl, rfl⟩

theorem late_together (h : s.Together) (hlate : s.loop.late = true) (hstep : s.loopStep = some t) :
    t.Together := by
  obtain ⟨hcaller, hlate', hstarted, hmutex⟩ := late_same hlate hstep
  unfold Startup.Together at *
  rw [hcaller, hstarted, hmutex]
  exact h.still hlate hlate'

/-- **A step of the caller.** -/
theorem Together.caller (h : s.Together) (hstep : s.callerStep = some t) : t.Together := by
  obtain ⟨caller, loop, started, mutex⟩ := s
  unfold Startup.Together at *
  cases h with
  | alone hc =>
    rcases hc with rfl | rfl
    · obtain rfl := Option.some.inj hstep
      exact .alone (.inr rfl)
    · obtain rfl := Option.some.inj hstep
      exact .creating
  | creating =>
    obtain rfl := Option.some.inj hstep
    exact .testing rfl
  | failed =>
    obtain rfl := Option.some.inj hstep
    exact .without rfl
  | without hc =>
    obtain rfl | rfl := Caller.listens_iff.mp hc
    · exact absurd hstep (by simp [callerStep])
    · obtain ⟨hcaller, hloop, hstarted, hmutex⟩ := write_same rfl hstep
      rw [hcaller, hloop, hstarted, hmutex]
      exact .without rfl
  | testing hl =>
    obtain rfl := Option.some.inj hstep
    exact .waiting (.inl rfl) hl
  | waiting hc hl =>
    rcases hc with rfl | rfl
    · exact absurd hstep (by simp [callerStep])
    · obtain rfl := Option.some.inj hstep
      exact .testing hl
  | starting hc => rcases hc with rfl | rfl <;> exact absurd hstep (by simp [callerStep])
  | broadcasting hc => rcases hc with rfl | rfl <;> exact absurd hstep (by simp [callerStep])
  | unlocking => exact absurd hstep (by simp [callerStep])
  | woken hl =>
    obtain rfl := Option.some.inj hstep
    exact .retesting hl
  | retesting hl =>
    obtain rfl := Option.some.inj hstep
    exact .returning hl
  | returning hl =>
    obtain rfl := Option.some.inj hstep
    exact .running rfl hl
  | running hc hl =>
    obtain rfl | rfl := Caller.listens_iff.mp hc
    · exact absurd hstep (by simp [callerStep])
    · obtain ⟨hcaller, hloop, hstarted, hmutex⟩ := write_same rfl hstep
      rw [hcaller, hloop, hstarted, hmutex]
      exact .running rfl hl

/-- **A step of the loop's thread.** -/
theorem Together.loop (h : s.Together) (hstep : s.loopStep = some t) : t.Together := by
  by_cases hlate : s.loop.late = true
  · exact late_together h hlate hstep
  obtain ⟨caller, loop, started, mutex⟩ := s
  unfold Startup.Together at *
  cases h with
  | alone | creating | failed | without => exact absurd hstep (by simp [loopStep])
  | testing hl =>
    obtain rfl | rfl := LoopThread.early_iff.mp hl
    · obtain rfl := Option.some.inj hstep
      exact .testing rfl
    · exact absurd hstep (by simp [loopStep])
  | waiting hc hl =>
    obtain rfl | rfl := LoopThread.early_iff.mp hl
    · obtain rfl := Option.some.inj hstep
      exact .waiting hc rfl
    · obtain rfl := Option.some.inj hstep
      exact .starting hc
  | starting hc =>
    obtain rfl := Option.some.inj hstep
    exact .broadcasting hc
  | broadcasting hc =>
    obtain rfl := Option.some.inj hstep
    rcases hc with rfl | rfl <;> exact .unlocking
  | unlocking =>
    obtain rfl := Option.some.inj hstep
    exact .woken rfl
  | woken hl | retesting hl | returning hl | running _ hl => exact absurd hl hlate

/-- **Every step.** -/
theorem Together.step (h : s.Together) {a : StartupAction} (hstep : s.step a = some t) :
    t.Together := by
  cases a with
  | caller => exact h.caller hstep
  | loop => exact h.loop hstep
  | createFails =>
    simp only [Startup.step, Option.ite_none_right_eq_some] at hstep
    obtain ⟨hcaller, ht⟩ := hstep
    obtain rfl := Option.some.inj ht
    unfold Startup.Together at *
    rw [hcaller] at h
    generalize s.loop = loop, s.started = started, s.mutex = mutex at h ⊢
    cases h with
    | alone hc => exact absurd hc (by decide)
    | creating => exact .failed
    | waiting hc => exact absurd hc (by decide)
    | starting hc => exact absurd hc (by decide)
    | broadcasting hc => exact absurd hc (by decide)
    | without hc => exact absurd hc Bool.false_ne_true
    | running hc => exact absurd hc Bool.false_ne_true
  | spurious =>
    simp only [Startup.step, Option.ite_none_right_eq_some] at hstep
    obtain ⟨hcaller, ht⟩ := hstep
    obtain rfl := Option.some.inj ht
    unfold Startup.Together at *
    rw [hcaller] at h
    generalize s.loop = loop, s.started = started, s.mutex = mutex at h ⊢
    cases h with
    | alone hc => exact absurd hc (by decide)
    | waiting _ hl => exact .waiting (.inr rfl) hl
    | starting => exact .starting (.inr rfl)
    | broadcasting => exact .broadcasting (.inr rfl)
    | without hc => exact absurd hc Bool.false_ne_true
    | running hc => exact absurd hc Bool.false_ne_true
  | add fd =>
    simp only [Startup.step, Option.ite_none_right_eq_some] at hstep
    obtain ⟨⟨hcaller, _⟩, ht⟩ := hstep
    obtain rfl := Option.some.inj ht
    unfold Startup.Together at *
    rw [hcaller] at h
    generalize s.loop = loop, s.started = started, s.mutex = mutex at h ⊢
    cases h with
    | alone hc => exact absurd hc (by decide)
    | waiting hc => exact absurd hc (by decide)
    | starting hc => exact absurd hc (by decide)
    | broadcasting hc => exact absurd hc (by decide)
    | without => exact .without rfl
    | running _ hl => exact .running rfl hl
  | loopAdd fd | loopRemove fd =>
    simp only [Startup.step, Option.ite_none_right_eq_some] at hstep
    obtain rfl := Option.some.inj hstep.2
    exact h
  | pipeFails =>
    simp only [Startup.step, Option.ite_none_right_eq_some] at hstep
    obtain ⟨hloop, ht⟩ := hstep
    obtain rfl := Option.some.inj ht
    exact Event.Together.still h (by rw [hloop]; rfl) rfl
  | select byPipe =>
    simp only [Startup.step] at hstep
    split at hstep
    next hloop =>
      simp only [Option.ite_none_right_eq_some] at hstep
      obtain rfl := Option.some.inj hstep.2
      exact Event.Together.still h (by rw [hloop]; rfl) rfl
    next => exact absurd hstep (by simp)

/-- Whoever adds events has the thread past its use of the mutex, or has none. -/
theorem Together.listening (h : s.Together) (hlistens : s.caller.listens = true) :
    s.loop = .absent ∨ s.started = true ∧ s.loop.late = true ∧ s.mutex = false := by
  unfold Startup.Together at h
  generalize s.caller = caller, s.loop = loop, s.started = started, s.mutex = mutex at *
  cases h with
  | alone | creating | failed | without => exact .inl rfl
  | running _ hl => exact .inr ⟨rfl, hl, rfl⟩
  | testing | unlocking | woken | retesting | returning => exact absurd hlistens Bool.false_ne_true
  | waiting hc | starting hc | broadcasting hc =>
    rcases hc with rfl | rfl <;> exact absurd hlistens Bool.false_ne_true

theorem together (h : Reachable startup s) : s.Together := by
  apply h.invariant (I := Together) together_init
  intro s a t hs _ hstep
  exact hs.step hstep

end Startup

/-! ### How far the return is -/

/-- How far the caller is from its return, as long as the other thread stands still. -/
def Caller.rank : Caller → ℕ
  | .begin => 6
  | .lock => 5
  | .create => 4
  | .relock => 3
  | .test => 2
  | .waiting => 1
  | .unlock => 1
  | .returned => 0
  | .adding => 0

/-- How far the thread is from giving the mutex back. -/
def LoopThread.rank : LoopThread → ℕ
  | .absent => 6
  | .eventInit => 5
  | .lock => 4
  | .start => 3
  | .broadcast => 2
  | .unlock => 1
  | _ => 0

@[simp] theorem LoopThread.rank_late {l : LoopThread} (h : l.late = true) : l.rank = 0 := by
  cases l <;> simp_all [late, rank]

@[simp] theorem Caller.rank_listens {c : Caller} (h : c.listens = true) : c.rank = 0 := by
  cases c <;> simp_all [listens, rank]

namespace Startup

/-- A broadcast sends the caller back to the mutex, and counts for more than that. -/
def rank (s : Startup) : ℕ := 4 * s.loop.rank + s.caller.rank

variable {s t : Startup}

/-- The thread does not exist before it is created. -/
theorem Together.absent (h : s.Together) (hcaller : s.caller = .create) : s.loop = .absent := by
  unfold Startup.Together at h
  rw [hcaller] at h
  generalize s.loop = loop, s.started = started, s.mutex = mutex at h ⊢
  cases h with
  | alone | creating | without => rfl
  | waiting hc => exact absurd hc (by decide)
  | starting hc => exact absurd hc (by decide)
  | broadcasting hc => exact absurd hc (by decide)
  | running hc => exact absurd hc Bool.false_ne_true

theorem caller_rank (h : s.Together) (hstep : s.callerStep = some t) : t.rank ≤ s.rank := by
  cases hcaller : s.caller <;> simp only [callerStep, hcaller] at hstep
  case create =>
    obtain rfl := Option.some.inj hstep
    simp only [rank, Caller.rank, LoopThread.rank, hcaller, h.absent hcaller]
    omega
  all_goals
    try split at hstep
    all_goals
      cases hstep <;> simp only [rank, Caller.rank, hcaller] <;> omega

/-- The broadcast may send the caller back; every other step of the thread leaves it alone. -/
theorem loop_rank (hstep : s.loopStep = some t) : t.rank ≤ s.rank := by
  cases hloop : s.loop <;> simp only [loopStep, hloop] at hstep
  case broadcast =>
    obtain rfl := Option.some.inj hstep
    simp only [rank, LoopThread.rank, hloop]
    split <;> simp only [Caller.rank, *] <;> omega
  all_goals
    try split at hstep
    all_goals
      cases hstep <;> simp only [rank, LoopThread.rank, hloop] <;> omega

/-- **No step but a spurious wakeup puts the return off.** -/
theorem step_rank (h : s.Together) {a : StartupAction} (ha : a ≠ .spurious)
    (hstep : s.step a = some t) : t.rank ≤ s.rank := by
  cases a with
  | caller => exact caller_rank h hstep
  | loop => exact loop_rank hstep
  | spurious => exact absurd rfl ha
  | createFails =>
    simp only [step, Option.ite_none_right_eq_some] at hstep
    obtain ⟨hcaller, ht⟩ := hstep
    obtain rfl := Option.some.inj ht
    simp only [rank, Caller.rank, hcaller]
    omega
  | add fd =>
    simp only [step, Option.ite_none_right_eq_some] at hstep
    obtain rfl := Option.some.inj hstep.2
    simp only [rank, Caller.rank]
    omega
  | loopAdd fd | loopRemove fd =>
    simp only [step, Option.ite_none_right_eq_some] at hstep
    obtain rfl := Option.some.inj hstep.2
    exact Nat.le_refl _
  | pipeFails =>
    simp only [step, Option.ite_none_right_eq_some] at hstep
    obtain ⟨hloop, ht⟩ := hstep
    obtain rfl := Option.some.inj ht
    simp only [rank, LoopThread.rank]
    omega
  | select byPipe =>
    simp only [step] at hstep
    split at hstep
    next =>
      simp only [Option.ite_none_right_eq_some] at hstep
      obtain rfl := Option.some.inj hstep.2
      simp only [rank, LoopThread.rank]
      omega
    next => exact absurd hstep (by simp)

/-- **Until the caller has returned, one of the two can take a step towards it.** -/
theorem progress (h : s.Together) (hcaller : s.caller.listens = false) :
    ∃ a t, (a = .caller ∨ a = .loop) ∧ s.step a = some t ∧ t.rank < s.rank := by
  obtain ⟨caller, loop, started, mutex⟩ := s
  unfold Startup.Together at h
  cases h with
  | alone hc =>
    rcases hc with rfl | rfl
    · exact ⟨.caller, _, .inl rfl, rfl, by simp [rank, Caller.rank]⟩
    · exact ⟨.caller, _, .inl rfl, rfl, by simp [rank, Caller.rank]⟩
  | creating => exact ⟨.caller, _, .inl rfl, rfl, by simp [rank, Caller.rank, LoopThread.rank]⟩
  | failed => exact ⟨.caller, _, .inl rfl, rfl, by simp [rank, Caller.rank]⟩
  | without hc => exact absurd hc (by simp [hcaller])
  | testing => exact ⟨.caller, _, .inl rfl, rfl, by simp [rank, Caller.rank]⟩
  | waiting hc hl =>
    obtain rfl | rfl := LoopThread.early_iff.mp hl
    · exact ⟨.loop, _, .inr rfl, rfl, by simp [rank, LoopThread.rank]⟩
    · exact ⟨.loop, _, .inr rfl, rfl, by simp [rank, LoopThread.rank]⟩
  | starting => exact ⟨.loop, _, .inr rfl, rfl, by simp [rank, LoopThread.rank]⟩
  | broadcasting hc =>
    rcases hc with rfl | rfl
    · exact ⟨.loop, _, .inr rfl, rfl, by simp [rank, LoopThread.rank, Caller.rank]⟩
    · exact ⟨.loop, _, .inr rfl, rfl, by simp [rank, LoopThread.rank, Caller.rank]⟩
  | unlocking => exact ⟨.loop, _, .inr rfl, rfl, by simp [rank, LoopThread.rank]⟩
  | woken => exact ⟨.caller, _, .inl rfl, rfl, by simp [rank, Caller.rank]⟩
  | retesting => exact ⟨.caller, _, .inl rfl, rfl, by simp [rank, Caller.rank]⟩
  | returning => exact ⟨.caller, _, .inl rfl, rfl, by simp [rank, Caller.rank]⟩
  | running hc => exact absurd hc (by simp [hcaller])

end Startup

/-! ### What the loop waits for -/

/-- The thread has put its pipe in the table. -/
def LoopThread.loops : LoopThread → Bool
  | .top => true
  | .copied _ => true
  | .blocked _ => true
  | .woken _ => true
  | _ => false

/-- The descriptors that the thread waits for, or is about to. -/
def LoopThread.copy : LoopThread → Option (Finset ℕ)
  | .copied rfds => some rfds
  | .blocked rfds => some rfds
  | _ => none

/-- **What was added is in the table, and the loop waits for it or will be told.** -/
structure Listening (s : Startup) : Prop where
  together : s.Together
  none : s.caller.listens = false → s.loop.late = false → s.added = ∅
  kept : s.added ⊆ s.events
  stored : s.loop.loops = true ∨ s.loop = .addWakeup → s.stored = true
  watched : s.loop.loops = true → s.watched = true
  covered : ∀ rfds, s.loop.copy = some rfds → s.added ⊆ rfds ∨ 0 < s.pipe ∨ s.caller = .adding

theorem LoopThread.copy_wakes {l : LoopThread} (h : l.wakes = true) : l.copy = none := by
  cases l <;> simp_all [wakes, copy]

theorem LoopThread.late_wakes {l : LoopThread} (h : l.wakes = true) : l.late = true := by
  cases l <;> simp_all [wakes, late]

namespace Listening

variable {s t : Startup}

theorem init : Listening .init where
  together := Startup.together_init
  none := fun _ _ => rfl
  kept := Finset.Subset.refl ∅
  stored := fun h => absurd h (by decide)
  watched := fun h => absurd h Bool.false_ne_true
  covered := fun _ h => absurd h (by simp [Startup.init, LoopThread.copy])

/-- Before `ril_event_init` nothing is added. -/
theorem eventInit (h : Listening s) (hloop : s.loop = .eventInit) : s.added = ∅ := by
  refine h.none ?_ (by rw [hloop]; rfl)
  have htogether := h.together
  unfold Startup.Together at htogether
  rw [hloop] at htogether
  generalize s.caller = caller, s.started = started, s.mutex = mutex at htogether ⊢
  cases htogether with
  | testing => rfl
  | waiting hc => rcases hc with rfl | rfl <;> rfl
  | woken hl | retesting hl | returning hl | running _ hl => exact absurd hl Bool.false_ne_true

/-- Everything but the write of the byte leaves the pipe alone. -/
theorem byte (h : Listening s) (hstep : s.callerStep = some t) {rfds : Finset ℕ}
    (hcopy : s.loop.copy = some rfds) : s.added ⊆ rfds ∨ 0 < t.pipe := by
  have hloops : s.loop.loops = true := by
    cases hloop : s.loop <;> simp_all [LoopThread.copy, LoopThread.loops]
  cases hcaller : s.caller <;> simp only [Startup.callerStep, hcaller] at hstep
  case adding =>
    rw [if_pos (h.stored (.inl hloops))] at hstep
    obtain rfl := Option.some.inj hstep
    exact .inr (Nat.succ_pos _)
  all_goals
    try split at hstep
    all_goals
      cases hstep <;> simpa [hcaller] using h.covered rfds hcopy

/-- The caller's steps add nothing. -/
theorem caller_same (hstep : s.callerStep = some t) :
    t.added = s.added ∧ t.events = s.events ∧ t.stored = s.stored ∧ t.watched = s.watched ∧
      (t.loop = s.loop ∨ s.caller = .create ∧ t.loop = .eventInit) ∧
      (t.caller.listens = false → s.caller.listens = false) := by
  cases hcaller : s.caller <;> simp only [Startup.callerStep, hcaller] at hstep
  all_goals
    try split at hstep
    all_goals
      cases hstep <;> simp [Caller.listens]

theorem caller (h : Listening s) (hstep : s.callerStep = some t) : Listening t := by
  obtain ⟨hadded, hevents, hstored, hwatched, hloop, hlistens⟩ := caller_same hstep
  have together := h.together.caller hstep
  rcases hloop with hloop | ⟨hcreate, hloop⟩
  · refine ⟨together, ?_, ?_, ?_, ?_, ?_⟩
    · exact fun hcaller hlate => hadded ▸ h.none (hlistens hcaller) (hloop ▸ hlate)
    · rw [hadded, hevents]
      exact h.kept
    · rw [hloop, hstored]
      exact h.stored
    · rw [hloop, hwatched]
      exact h.watched
    · intro rfds hcopy
      rw [hadded]
      exact (h.byte hstep (hloop ▸ hcopy)).imp_right .inl
  · refine ⟨together, ?_, ?_, ?_, ?_, ?_⟩
    · intro hcaller _
      rw [hadded]
      exact h.none (hlistens hcaller) (by rw [h.together.absent hcreate]; rfl)
    · rw [hadded, hevents]
      exact h.kept
    all_goals
      rw [hloop]
      simp [LoopThread.loops, LoopThread.copy]

/-- The thread's own steps add nothing either. -/
theorem loop_same (hstep : s.loopStep = some t) :
    t.added = s.added ∧ (t.caller.listens = false → s.caller.listens = false) := by
  cases hloop : s.loop <;> simp only [Startup.loopStep, hloop] at hstep
  case broadcast =>
    obtain rfl := Option.some.inj hstep
    by_cases hwaiting : s.caller = .waiting <;> simp [hwaiting, Caller.listens]
  all_goals
    try split at hstep
    all_goals
      cases hstep <;> simp

theorem loop_none (h : Listening s) (hstep : s.loopStep = some t)
    (hcaller : t.caller.listens = false)
    (hlate : t.loop.late = false) : t.added = ∅ := by
  obtain ⟨hadded, hlistens⟩ := loop_same hstep
  rw [hadded]
  apply h.none (hlistens hcaller)
  by_contra hbefore
  have hafter := (Startup.late_same (by simpa using hbefore) hstep).2.1
  exact absurd hlate (by simp [hafter])

theorem loop (h : Listening s) (hstep : s.loopStep = some t) : Listening t := by
  have together := h.together.loop hstep
  have hnone := h.loop_none hstep
  cases hloop : s.loop <;> simp only [Startup.loopStep, hloop] at hstep
  case eventInit =>
    obtain rfl := Option.some.inj hstep
    have hadded := h.eventInit hloop
    exact ⟨together, fun _ _ => hadded, by simp [hadded], by simp [LoopThread.loops],
      by simp [LoopThread.loops], by simp [LoopThread.copy]⟩
  case storeWrite =>
    obtain rfl := Option.some.inj hstep
    exact ⟨together, hnone, h.kept, fun _ => rfl, by simp [LoopThread.loops],
      by simp [LoopThread.copy]⟩
  case addWakeup =>
    obtain rfl := Option.some.inj hstep
    exact ⟨together, hnone, h.kept, fun _ => h.stored (.inr hloop), fun _ => rfl,
      by simp [LoopThread.copy]⟩
  case top =>
    obtain rfl := Option.some.inj hstep
    have hloops : s.loop.loops = true := by rw [hloop]; rfl
    refine ⟨together, hnone, h.kept, fun _ => h.stored (.inl hloops), fun _ => h.watched hloops,
      fun rfds hcopy => .inl ?_⟩
    obtain rfl := Option.some.inj hcopy
    exact h.kept
  case copied rfds =>
    obtain rfl := Option.some.inj hstep
    have hloops : s.loop.loops = true := by rw [hloop]; rfl
    refine ⟨together, hnone, h.kept, fun _ => h.stored (.inl hloops), fun _ => h.watched hloops,
      fun rfds' hcopy => h.covered rfds' (hloop ▸ hcopy)⟩
  case woken byPipe =>
    obtain rfl := Option.some.inj hstep
    have hloops : s.loop.loops = true := by rw [hloop]; rfl
    exact ⟨together, hnone, h.kept, fun _ => h.stored (.inl hloops), fun _ => h.watched hloops,
      by simp [LoopThread.copy]⟩
  all_goals
    try split at hstep
    all_goals
      cases hstep <;> exact ⟨together, hnone, h.kept, by simp [LoopThread.loops],
        by simp [LoopThread.loops], by simp [LoopThread.copy]⟩

/-- **Every step.** -/
theorem step (h : Listening s) {a : StartupAction} (hstep : s.step a = some t) : Listening t := by
  have together := h.together.step hstep
  cases a with
  | caller => exact h.caller hstep
  | loop => exact h.loop hstep
  | createFails =>
    simp only [Startup.step, Option.ite_none_right_eq_some] at hstep
    obtain ⟨hcaller, ht⟩ := hstep
    obtain rfl := Option.some.inj ht
    exact ⟨together, fun _ => h.none (by rw [hcaller]; rfl), h.kept, h.stored, h.watched,
      fun rfds hcopy => by simpa [hcaller] using h.covered rfds hcopy⟩
  | spurious =>
    simp only [Startup.step, Option.ite_none_right_eq_some] at hstep
    obtain ⟨hcaller, ht⟩ := hstep
    obtain rfl := Option.some.inj ht
    exact ⟨together, fun _ => h.none (by rw [hcaller]; rfl), h.kept, h.stored, h.watched,
      fun rfds hcopy => by simpa [hcaller] using h.covered rfds hcopy⟩
  | add fd =>
    simp only [Startup.step, Option.ite_none_right_eq_some] at hstep
    obtain rfl := Option.some.inj hstep.2
    exact ⟨together, fun hcaller _ => absurd hcaller (by simp [Caller.listens]),
      Finset.insert_subset_insert fd h.kept, h.stored, h.watched, fun _ _ => .inr (.inr rfl)⟩
  | loopAdd fd =>
    simp only [Startup.step, Option.ite_none_right_eq_some] at hstep
    obtain ⟨⟨hwakes, _⟩, ht⟩ := hstep
    obtain rfl := Option.some.inj ht
    have hcopy := LoopThread.copy_wakes hwakes
    exact ⟨together, fun _ hlate => absurd hlate (by simp [LoopThread.late_wakes hwakes]),
      Finset.insert_subset_insert fd h.kept, h.stored, h.watched, by simp [hcopy]⟩
  | loopRemove fd =>
    simp only [Startup.step, Option.ite_none_right_eq_some] at hstep
    obtain ⟨hwakes, ht⟩ := hstep
    obtain rfl := Option.some.inj ht
    have hcopy := LoopThread.copy_wakes hwakes
    exact ⟨together, fun hcaller hlate => by simp [h.none hcaller hlate],
      Finset.erase_subset_erase fd h.kept, h.stored, h.watched, by simp [hcopy]⟩
  | pipeFails =>
    simp only [Startup.step, Option.ite_none_right_eq_some] at hstep
    obtain rfl := Option.some.inj hstep.2
    exact ⟨together, by simp [LoopThread.late], h.kept, by simp [LoopThread.loops],
      by simp [LoopThread.loops], by simp [LoopThread.copy]⟩
  | select byPipe =>
    simp only [Startup.step] at hstep
    split at hstep
    next hloop =>
      simp only [Option.ite_none_right_eq_some] at hstep
      obtain rfl := Option.some.inj hstep.2
      have hloops : s.loop.loops = true := by rw [hloop]; rfl
      exact ⟨together, by simp [LoopThread.late], h.kept, fun _ => h.stored (.inl hloops),
        fun _ => h.watched hloops,
        by simp [LoopThread.copy]⟩
    next => exact absurd hstep (by simp)

end Listening

theorem Startup.listening {s : Startup} (h : Reachable startup s) : Listening s := by
  apply h.invariant (I := Listening) .init
  intro s a t hs _ hstep
  exact hs.step hstep

/-! ### The results -/

/-- **`RIL_startEventLoop` returns, and not before `ril_event_init`.**  Once it has returned, the
thread was not created or is past its use of the mutex, so that nothing added is cleared again.
Until then one of the two threads can take a step that brings the return nearer, and of all the
steps only a spurious wakeup puts it off. -/
theorem startup_returns {s : Startup} (h : Reachable startup s) :
    (s.caller.listens = true →
      s.loop = .absent ∨ s.started = true ∧ s.loop.late = true ∧ s.mutex = false) ∧
    (s.caller.listens = false →
      ∃ a t, (a = .caller ∨ a = .loop) ∧ s.step a = some t ∧ t.rank < s.rank) ∧
    ∀ a t, a ≠ .spurious → s.step a = some t → t.rank ≤ s.rank := by
  have htogether := Startup.together h
  refine ⟨Startup.Together.listening htogether, Startup.progress htogether, ?_⟩
  intro a t ha hstep
  exact Startup.step_rank htogether ha hstep

/-- The caller waits, and the thread is about to broadcast. -/
def startupWaits : List StartupAction :=
  [.caller, .caller, .caller, .loop, .caller, .loop, .loop]

theorem startup_returns_waits : ∃ s,
    Runs.exec startup (fun _ _ => True) .init startupWaits = some s ∧
    s.caller = .waiting ∧ s.loop = .broadcast ∧
    ∃ a t, (a = .caller ∨ a = .loop) ∧ s.step a = some t ∧ t.rank < s.rank := by
  obtain ⟨s, hs⟩ : ∃ s, Runs.exec startup (fun _ _ => True) .init startupWaits = some s := ⟨_, rfl⟩
  have hreach : Reachable startup s := Runs.reaches_of_exec hs
  obtain rfl := Option.some.inj hs
  exact ⟨_, rfl, rfl, rfl, (startup_returns hreach).2.1 rfl⟩

/-- **No event is missed.**  A loop that is blocked waits for everything that has been added, or
there is a byte in its pipe and it can wake up, or the byte is about to be written and it can wake
up then. -/
theorem startup_misses_nothing {s : Startup} (h : Reachable startup s) {rfds : Finset ℕ}
    (hblocked : s.loop = .blocked rfds) :
    s.added ⊆ rfds ∨ (∃ t, s.step (.select true) = some t) ∨
      ∃ t u, s.step .caller = some t ∧ t.step (.select true) = some u := by
  have hlistening := Startup.listening h
  have hloops : s.loop.loops = true := by rw [hblocked]; rfl
  have hwatched := hlistening.watched hloops
  rcases hlistening.covered rfds (by rw [hblocked]; rfl) with hadded | hpipe | hcaller
  · exact .inl hadded
  · refine .inr (.inl ?_)
    simp [Startup.step, hblocked, hwatched, hpipe]
  · refine .inr (.inr ?_)
    simp [Startup.step, Startup.callerStep, hcaller, hlistening.stored (.inl hloops), hblocked,
      hwatched]

/-- The byte of descriptor `7` is written before the pipe is made, and goes to descriptor `0`. -/
def byteAstray : List StartupAction :=
  startupWaits ++ [.loop, .loop, .caller, .caller, .caller, .add 7, .caller] ++
    List.replicate 6 .loop

theorem startup_misses_nothing_astray : ∃ s,
    Runs.exec startup (fun _ _ => True) .init byteAstray = some s ∧
    s.astray = 1 ∧ s.loop = .blocked {7} ∧
    (s.added ⊆ {7} ∨ (∃ t, s.step (.select true) = some t) ∨
      ∃ t u, s.step .caller = some t ∧ t.step (.select true) = some u) := by
  obtain ⟨s, hs⟩ : ∃ s, Runs.exec startup (fun _ _ => True) .init byteAstray = some s := ⟨_, rfl⟩
  have hreach : Reachable startup s := Runs.reaches_of_exec hs
  obtain rfl := Option.some.inj hs
  exact ⟨_, rfl, rfl, rfl, startup_misses_nothing hreach rfl⟩

end CtpCommon.Event
