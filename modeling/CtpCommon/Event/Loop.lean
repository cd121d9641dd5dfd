import CtpCommon.Event.Table
import CtpCommon.Lib.Runs
import Mathlib.Data.Finset.Card

/-!
# The event loop

`ril_event_loop` and the threads that add events to it.  One step of the loop is one of its calls:
the copy of `readFds`, `calcNextTimeout`, entering `select` and leaving it, `processTimeouts`,
`processReadReadies`, and each round of `firePending`; the other threads may take their steps
between any two of them.

* `LoopState` — the events, the monotonic clock, where the loop is, and the bytes in the wakeup
  pipe;
* `step` — what each step does, or `none` when it cannot be taken;
* `stepTo_of_step` — every step that is taken, by cases.

A thread other than the loop adds an event and then writes the byte (`rilEventAddWakeup`,
`RIL_requestTimedCallback`); the loop itself only adds, from `eventLoop` before it starts or from a
callback.
-/

namespace CtpCommon.Event

open Runs (System)

/-! ### The state -/

/-- Where `ril_event_loop` is, with its local variables. -/
inductive Phase where
  | starting
  | top
  | copied (rfds : Finset ℤ)
  | timed (rfds : Finset ℤ) (ptv : Option Timeval) (reading : Timeval)
  | blocked (rfds : Finset ℤ) (nfds : ℤ) (ptv : Option Timeval) (reading entered : Timeval)
  | woken (rfds : Finset ℤ)
  | expired (rfds : Finset ℤ)
  | firing (ev : ℕ)
  | dead
  deriving DecidableEq

/-- May code on the loop's own thread call the interface here? -/
def Phase.onLoop : Phase → Bool
  | .starting => true
  | .firing _ => true
  | _ => false

/-- A timer whose callback was called: which one in the order of adding, its timeout, the time of
the call, and the round of the loop. -/
structure Firing where
  serial : ℕ
  timeout : Timeval
  clock : Timeval
  batch : ℕ
  deriving DecidableEq, Repr

/-- `adders` are the threads between an add and its write.  The last four are not in the source:
the timeouts given out so far, the place of each event's among them, the rounds, and the timers
fired. -/
structure LoopState where
  ev : EventState
  clock : Timeval
  phase : Phase
  pipe : ℕ
  adders : ℕ
  issued : List Timeval
  serial : ℕ → ℕ
  batch : ℕ
  fired : List Firing

/-- What `select` returns: a set of ready descriptors, or an error. -/
inductive SelectResult where
  | ready (fds : Finset ℤ)
  | eintr
  | error
  deriving DecidableEq

inductive LoopAction where
  | tick (now : Timeval)
  | enterLoop
  | copyFds
  | calcNextTimeout
  | enterSelect
  | leaveSelect (result : SelectResult)
  | processTimeouts
  | processReadReadies
  | fire
  | timerAdd (ev : ℕ) (tv : Timeval) (byLoop : Bool)
  | eventAdd (ev : ℕ) (byLoop : Bool)
  | eventSet (ev : ℕ) (fd : ℤ) (persist : Bool) (func : EventFunc)
  | eventDel (ev : ℕ)
  | trigger

/-! ### The steps -/

/-- Any thread but the loop has its write still before it. -/
def callers (byLoop : Bool) (adders : ℕ) : ℕ := if byLoop then adders else adders + 1

/-- An event on no list and not in the table. -/
def Fresh (s : EventState) (ev : ℕ) : Prop := s.Unlinked ev ∧ ¬ s.Watched ev

instance (s : EventState) (ev : ℕ) : Decidable (Fresh s ev) :=
  inferInstanceAs (Decidable (_ ∧ _))

/-- One round of `firePending`. -/
def firePending (ev : ℕ) (s : LoopState) : Option LoopState := do
  let next ← s.ev.links.next ev
  let state ← removeFromList ev s.ev
  return { s with
    ev := state
    phase := .firing next
    pipe := if (s.ev.event ev).func = .processWakeupCallback then 0 else s.pipe
    fired := if (s.ev.event ev).fd = -1 then
        s.fired ++ [⟨s.serial ev, (s.ev.event ev).timeout, s.clock, s.batch⟩]
      else s.fired }

def step (s : LoopState) : LoopAction → Option LoopState
  | .tick now =>
      if now.Normal ∧ s.clock.micros ≤ now.micros then some { s with clock := now } else none
  | .enterLoop => if s.phase = .starting then some { s with phase := .top } else none
  | .copyFds => if s.phase = .top then some { s with phase := .copied s.ev.readFds } else none
  | .calcNextTimeout =>
      match s.phase with
      | .copied rfds =>
          (calcNextTimeout s.clock s.ev).map fun ptv =>
            { s with phase := .timed rfds ptv s.clock }
      | _ => none
  | .enterSelect =>
      match s.phase with
      | .timed rfds ptv reading =>
          some { s with phase := .blocked rfds s.ev.nfds ptv reading s.clock }
      | _ => none
  | .leaveSelect result =>
      match s.phase with
      | .blocked rfds nfds _ _ _ =>
          match result with
          | .ready fds =>
              if fds ⊆ rfds ∧ ∀ fd ∈ fds, fd < nfds then some { s with phase := .woken fds }
              else none
          | .eintr => some { s with phase := .top }
          | .error => some { s with phase := .dead }
      | _ => none
  | .processTimeouts =>
      match s.phase with
      | .woken rfds =>
          -- the list cannot be longer than the number of timers ever added
          (processTimeouts (s.issued.length + 1) s.clock s.ev).map fun ev =>
            { s with ev := ev, batch := s.batch + 1, phase := .expired rfds }
      | _ => none
  | .processReadReadies =>
      match s.phase with
      | .expired rfds => do
          let ev ← processReadReadies rfds rfds.card s.ev
          let first ← ev.links.next pendingList
          return { s with ev := ev, phase := .firing first }
      | _ => none
  | .fire =>
      match s.phase with
      | .firing ev =>
          if ev = pendingList then some { s with phase := .top } else firePending ev s
      | _ => none
  | .timerAdd ev tv byLoop =>
      if (byLoop → s.phase.onLoop) ∧ Fresh s.ev ev ∧ tv.Normal then
        (timerAdd (s.issued.length + 1) ev (some tv) s.clock s.ev).map fun state =>
          { s with
            ev := state
            adders := callers byLoop s.adders
            issued := s.issued ++ [timeradd s.clock tv]
            serial := Function.update s.serial ev s.issued.length }
      else none
  | .eventAdd ev byLoop =>
      if (byLoop → s.phase.onLoop) ∧ Addable s.ev ev then
        some { s with ev := eventAdd ev s.ev, adders := callers byLoop s.adders }
      else none
  | .eventSet ev fd persist func =>
      if Fresh s.ev ev then some { s with ev := eventSet ev fd persist func s.ev } else none
  | .eventDel ev =>
      if s.phase.onLoop ∧ Deletable s.ev ev then some { s with ev := eventDel ev s.ev } else none
  | .trigger =>
      if 0 < s.adders then some { s with adders := s.adders - 1, pipe := s.pipe + 1 } else none

/-- The loop's thread after `ril_event_init`. -/
def loopInit : LoopState where
  ev := eventInit
  clock := ⟨0, 0⟩
  phase := .starting
  pipe := 0
  adders := 0
  issued := []
  serial := fun _ => 0
  batch := 0
  fired := []

def eventLoop : System LoopState LoopAction := ⟨loopInit, step⟩

/-! ### Inversion -/

/-- The steps that are taken. -/
inductive StepTo (s : LoopState) : LoopState → Prop
  | tick (now : Timeval) : now.Normal → s.clock.micros ≤ now.micros →
      StepTo s { s with clock := now }
  | enterLoop : s.phase = .starting → StepTo s { s with phase := .top }
  | copyFds : s.phase = .top → StepTo s { s with phase := .copied s.ev.readFds }
  | calcNextTimeout {rfds : Finset ℤ} (ptv : Option Timeval) : s.phase = .copied rfds →
      calcNextTimeout s.clock s.ev = some ptv →
      StepTo s { s with phase := .timed rfds ptv s.clock }
  | enterSelect {rfds : Finset ℤ} {ptv : Option Timeval} {reading : Timeval} :
      s.phase = .timed rfds ptv reading →
      StepTo s { s with phase := .blocked rfds s.ev.nfds ptv reading s.clock }
  | ready {rfds : Finset ℤ} {nfds : ℤ} {ptv : Option Timeval} {reading entered : Timeval}
      (fds : Finset ℤ) : s.phase = .blocked rfds nfds ptv reading entered →
      StepTo s { s with phase := .woken fds }
  | eintr {rfds : Finset ℤ} {nfds : ℤ} {ptv : Option Timeval} {reading entered : Timeval} :
      s.phase = .blocked rfds nfds ptv reading entered → StepTo s { s with phase := .top }
  | error {rfds : Finset ℤ} {nfds : ℤ} {ptv : Option Timeval} {reading entered : Timeval} :
      s.phase = .blocked rfds nfds ptv reading entered → StepTo s { s with phase := .dead }
  | processTimeouts {rfds : Finset ℤ} (ev : EventState) : s.phase = .woken rfds →
      processTimeouts (s.issued.length + 1) s.clock s.ev = some ev →
      StepTo s { s with ev := ev, batch := s.batch + 1, phase := .expired rfds }
  | processReadReadies {rfds : Finset ℤ} (ev : EventState) (first : ℕ) :
      s.phase = .expired rfds → processReadReadies rfds rfds.card s.ev = some ev →
      ev.links.next pendingList = some first → StepTo s { s with ev := ev, phase := .firing first }
  | fired : s.phase = .firing pendingList → StepTo s { s with phase := .top }
  | fire {ev : ℕ} (t : LoopState) : s.phase = .firing ev → ev ≠ pendingList →
      firePending ev s = some t → StepTo s t
  | timerAdd {ev : ℕ} {tv : Timeval} {byLoop : Bool} (state : EventState) :
      (byLoop → s.phase.onLoop) → Fresh s.ev ev → tv.Normal →
      timerAdd (s.issued.length + 1) ev (some tv) s.clock s.ev = some state →
      StepTo s { s with
        ev := state
        adders := callers byLoop s.adders
        issued := s.issued ++ [timeradd s.clock tv]
        serial := Function.update s.serial ev s.issued.length }
  | eventAdd {ev : ℕ} {byLoop : Bool} : (byLoop → s.phase.onLoop) → Addable s.ev ev →
      StepTo s { s with ev := eventAdd ev s.ev, adders := callers byLoop s.adders }
  | eventSet {ev : ℕ} {fd : ℤ} {persist : Bool} {func : EventFunc} : Fresh s.ev ev →
      StepTo s { s with ev := eventSet ev fd persist func s.ev }
  | eventDel {ev : ℕ} : s.phase.onLoop → Deletable s.ev ev →
      StepTo s { s with ev := eventDel ev s.ev }
  | trigger : 0 < s.adders → StepTo s { s with adders := s.adders - 1, pipe := s.pipe + 1 }

/-- **Inversion**: a step of the system is one of these. -/
theorem stepTo_of_step {s t : LoopState} {a : LoopAction} (h : eventLoop.step s a = some t) :
    StepTo s t := by
  change step s a = some t at h
  cases a with
  | tick now =>
    simp only [step] at h
    split at h
    case isTrue hnow =>
      obtain rfl := Option.some.inj h
      exact .tick now hnow.1 hnow.2
    case isFalse => exact absurd h (by simp)
  | enterLoop =>
    simp only [step] at h
    split at h
    case isTrue hphase =>
      obtain rfl := Option.some.inj h
      exact .enterLoop hphase
    case isFalse => exact absurd h (by simp)
  | copyFds =>
    simp only [step] at h
    split at h
    case isTrue hphase =>
      obtain rfl := Option.some.inj h
      exact .copyFds hphase
    case isFalse => exact absurd h (by simp)
  | calcNextTimeout =>
    simp only [step] at h
    split at h
    · rename_i rfds hphase
      obtain ⟨ptv, hptv, rfl⟩ := Option.map_eq_some_iff.mp h
      exact .calcNextTimeout ptv hphase hptv
    · exact absurd h (by simp)
  | enterSelect =>
    simp only [step] at h
    split at h
    · rename_i rfds ptv reading hphase
      obtain rfl := Option.some.inj h
      exact .enterSelect hphase
    · exact absurd h (by simp)
  | leaveSelect result =>
    simp only [step] at h
    split at h
    · rename_i rfds nfds ptv reading entered hphase
      cases result with
      | ready fds =>
        simp only at h
        split at h
        case isTrue =>
          obtain rfl := Option.some.inj h
          exact .ready fds hphase
        case isFalse => exact absurd h (by simp)
      | eintr =>
        obtain rfl := Option.some.inj h
        exact .eintr hphase
      | error =>
        obtain rfl := Option.some.inj h
        exact .error hphase
    · exact absurd h (by simp)
  | processTimeouts =>
    simp only [step] at h
    split at h
    · rename_i rfds hphase
      obtain ⟨ev, hev, rfl⟩ := Option.map_eq_some_iff.mp h
      exact .processTimeouts ev hphase hev
    · exact absurd h (by simp)
  | processReadReadies =>
    simp only [step] at h
    split at h
    · rename_i rfds hphase
      obtain ⟨ev, hev, h⟩ := Option.bind_eq_some_iff.mp h
      obtain ⟨first, hfirst, h⟩ := Option.bind_eq_some_iff.mp h
      obtain rfl := Option.some.inj h
      exact .processReadReadies ev first hphase hev hfirst
    · exact absurd h (by simp)
  | fire =>
    simp only [step] at h
    split at h
    · rename_i ev hphase
      split at h
      case isTrue hev =>
        obtain rfl := Option.some.inj h
        exact .fired (hev ▸ hphase)
      case isFalse hev => exact .fire t hphase hev h
    · exact absurd h (by simp)
  | timerAdd ev tv byLoop =>
    simp only [step] at h
    split at h
    case isTrue hcond =>
      obtain ⟨state, hstate, rfl⟩ := Option.map_eq_some_iff.mp h
      exact .timerAdd state hcond.1 hcond.2.1 hcond.2.2 hstate
    case isFalse => exact absurd h (by simp)
  | eventAdd ev byLoop =>
    simp only [step] at h
    split at h
    case isTrue hcond =>
      obtain rfl := Option.some.inj h
      exact .eventAdd hcond.1 hcond.2
    case isFalse => exact absurd h (by simp)
  | eventSet ev fd persist func =>
    simp only [step] at h
    split at h
    case isTrue hfresh =>
      obtain rfl := Option.some.inj h
      exact .eventSet hfresh
    case isFalse => exact absurd h (by simp)
  | eventDel ev =>
    simp only [step] at h
    split at h
    case isTrue hcond =>
      obtain rfl := Option.some.inj h
      exact .eventDel hcond.1 hcond.2
    case isFalse => exact absurd h (by simp)
  | trigger =>
    simp only [step] at h
    split at h
    case isTrue hpos =>
      obtain rfl := Option.some.inj h
      exact .trigger hpos
    case isFalse => exact absurd h (by simp)

end CtpCommon.Event
