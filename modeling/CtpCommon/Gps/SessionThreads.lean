import CtpCommon.Gps.Sessions
import CtpCommon.Gps.Stepwise

/-!
# The GPS provider: sessions and their threads

The handler's thread runs one method after the other, the engine's threads report when they like,
and the alarm manager lets the alarms go off; all of them share the fields of the sessions.

* `Waiting`, `HandlerCall`, `EngineCall`, `Alarm` — what waits in the queue, and what happens;
* `sessionThreads` — the threads, step by step;
* `provider_sessions` — **PROVED**: the provider's runs are those whose methods do not overlap;
* `sessions_disciplined` — **PROVED** of every run whose methods do not overlap: the engine is used
  as it is to be used;
* `sessions_overlapped` — **PROVED**: a fix that is reported while a request is handled stops the
  engine twice.
-/

namespace CtpCommon.Gps

open Threads

/-- What the handler's thread does to the sessions. -/
inductive HandlerCall where
  | setRequest (ans : NavAnswers) (request : Option ProviderRequest) (source : Option WorkSource)
  | updateLowPowerMode (ans : NavAnswers) (power : Navigation.PowerState)
  | disable
  | alarmWakeup (ans : NavAnswers)
  | alarmTimeout (ans : NavAnswers)

/-- What the engine reports. -/
inductive EngineCall where
  | reportLocation (ans : NavAnswers) (flags : Int32)
  | reportStatus (status : Int32)
  | reportSvStatus (ans : NavAnswers) (usedInFix : Int32)
  | setEngineCapabilities (capabilities : Int32)

inductive Alarm where
  | wakeup
  | timeout

section

variable (verbose : Bool) (diffs : ReturningDiffs)

/-- An alarm is taken from the queue before it is handled. -/
def HandlerCall.take : HandlerCall → Navigation × Waiting → Option (Navigation × Waiting)
  | .alarmWakeup _, (n, w) =>
      if 0 < w.wakeups then some (n, { w with wakeups := w.wakeups - 1 }) else none
  | .alarmTimeout _, (n, w) =>
      if 0 < w.timeouts then some (n, { w with timeouts := w.timeouts - 1 }) else none
  | _, s => some s

def HandlerCall.method : HandlerCall → Method Navigation Unit
  | .setRequest ans request source => Stepwise.handleSetRequest verbose diffs ans request source
  | .updateLowPowerMode ans power => Stepwise.updateLowPowerMode verbose diffs ans power
  | .disable => Stepwise.handleDisable verbose diffs
  | .alarmWakeup ans => Stepwise.startNavigating verbose ans verbose
  | .alarmTimeout ans => Stepwise.hibernate verbose ans

def EngineCall.method : EngineCall → Method Navigation Unit
  | .reportLocation ans flags => Stepwise.reportLocation verbose ans flags
  | .reportStatus status => Stepwise.reportStatus verbose status
  | .reportSvStatus ans usedInFix => Stepwise.reportSvStatus ans usedInFix
  | .setEngineCapabilities capabilities => Stepwise.setEngineCapabilities capabilities

/-- An alarm that is set goes off. -/
def Alarm.goOff : Alarm → Navigation × Waiting → Option (Navigation × Waiting)
  | .wakeup, (n, w) =>
      if n.wakeupAlarm.isSome then
        some ({ n with wakeupAlarm := none }, { w with wakeups := w.wakeups + 1 })
      else none
  | .timeout, (n, w) =>
      if n.timeoutAlarm.isSome then
        some ({ n with timeoutAlarm := none }, { w with timeouts := w.timeouts + 1 })
      else none

/-- The handler's thread, the engine's threads, and the alarms. -/
def sessionThreads : Threads (Navigation × Waiting) HandlerCall EngineCall Alarm where
  init := (.init verbose, ⟨0, 0⟩)
  take := HandlerCall.take
  handler h := (h.method verbose diffs).onFst
  other e := (e.method verbose).onFst
  outside := Alarm.goOff

end

/-! ### Methods alone -/

open Provider (NavStep RequestsFit)

section

variable {verbose : Bool} {diffs : ReturningDiffs} {fits : RequestsFit} {s t : Navigation × Waiting}

/-- A request that is handled fits. -/
def HandlerCall.Fits (fits : RequestsFit) : HandlerCall → Navigation × Waiting → Prop
  | .setRequest _ request source, (n, _) => fits n request source
  | _, _ => True

/-- **What the handler begins** is one step of the sessions, if it runs alone. -/
theorem handler_navStep {h : HandlerCall} (hfits : h.Fits fits s) (htake : h.take s = some t) :
    NavStep verbose diffs fits s.1 s.2
      (((sessionThreads verbose diffs).handler h).run t).2.1
      (((sessionThreads verbose diffs).handler h).run t).2.2 := by
  obtain ⟨m, w⟩ := t
  show NavStep _ _ _ _ _ ((h.method verbose diffs).onFst.run (m, w)).2.1
    ((h.method verbose diffs).onFst.run (m, w)).2.2
  rw [Method.run_onFst]
  cases h with
  | setRequest ans request source =>
    obtain rfl := Option.some.inj htake
    show NavStep _ _ _ _ _ ((Stepwise.handleSetRequest verbose diffs ans request source).run m).2 _
    rw [Stepwise.run_handleSetRequest]
    exact .setRequest _ _ _ _ _ hfits
  | updateLowPowerMode ans power =>
    obtain rfl := Option.some.inj htake
    show NavStep _ _ _ _ _ ((Stepwise.updateLowPowerMode verbose diffs ans power).run m).2 _
    rw [Stepwise.run_updateLowPowerMode]
    exact .updateLowPowerMode _ _ _ _
  | disable =>
    obtain rfl := Option.some.inj htake
    show NavStep _ _ _ _ _ ((Stepwise.handleDisable verbose diffs).run m).2 _
    rw [Stepwise.run_handleDisable]
    exact .disable _ _
  | alarmWakeup ans =>
    simp only [HandlerCall.take, Option.ite_none_right_eq_some] at htake
    obtain ⟨hwaits, htake⟩ := htake
    obtain ⟨rfl, rfl⟩ := Prod.mk.inj (Option.some.inj htake)
    show NavStep _ _ _ _ _ ((Stepwise.startNavigating verbose ans verbose).run _).2 _
    rw [Stepwise.run_startNavigating]
    have hstep : NavStep verbose diffs fits s.1 ⟨s.2.wakeups - 1 + 1, s.2.timeouts⟩
        (s.1.startNavigating verbose ans verbose) ⟨s.2.wakeups - 1, s.2.timeouts⟩ :=
      .wakeup s.1 ⟨s.2.wakeups - 1, s.2.timeouts⟩ ans
    rw [Nat.sub_add_cancel hwaits] at hstep
    exact hstep
  | alarmTimeout ans =>
    simp only [HandlerCall.take, Option.ite_none_right_eq_some] at htake
    obtain ⟨hwaits, htake⟩ := htake
    obtain ⟨rfl, rfl⟩ := Prod.mk.inj (Option.some.inj htake)
    show NavStep _ _ _ _ _ ((Stepwise.hibernate verbose ans).run _).2 _
    rw [Stepwise.run_hibernate]
    have hstep : NavStep verbose diffs fits s.1 ⟨s.2.wakeups, s.2.timeouts - 1 + 1⟩
        (s.1.hibernate verbose ans) ⟨s.2.wakeups, s.2.timeouts - 1⟩ :=
      .timeout s.1 ⟨s.2.wakeups, s.2.timeouts - 1⟩ ans
    rw [Nat.sub_add_cancel hwaits] at hstep
    exact hstep

/-- **What the engine reports**, too. -/
theorem engine_navStep (e : EngineCall) (s : Navigation × Waiting) :
    NavStep verbose diffs fits s.1 s.2
      (((sessionThreads verbose diffs).other e).run s).2.1
      (((sessionThreads verbose diffs).other e).run s).2.2 := by
  obtain ⟨n, w⟩ := s
  show NavStep _ _ _ _ _ ((e.method verbose).onFst.run (n, w)).2.1
    ((e.method verbose).onFst.run (n, w)).2.2
  rw [Method.run_onFst]
  cases e with
  | reportLocation ans flags =>
    show NavStep _ _ _ _ _ ((Stepwise.reportLocation verbose ans flags).run n).2 _
    rw [Stepwise.run_reportLocation]
    exact .reportLocation _ _ _ _
  | reportStatus status =>
    show NavStep _ _ _ _ _ ((Stepwise.reportStatus verbose status).run n).2 _
    rw [Stepwise.run_reportStatus]
    exact .reportStatus _ _ _
  | reportSvStatus ans usedInFix =>
    show NavStep _ _ _ _ _ ((Stepwise.reportSvStatus ans usedInFix).run n).2 _
    rw [Stepwise.run_reportSvStatus]
    exact .reportSvStatus _ _ _ _
  | setEngineCapabilities capabilities => exact .setEngineCapabilities _ _ _

theorem alarm_navStep {o : Alarm} (h : o.goOff s = some t) :
    NavStep verbose diffs fits s.1 s.2 t.1 t.2 := by
  cases o with
  | wakeup =>
    simp only [Alarm.goOff, Option.ite_none_right_eq_some] at h
    obtain rfl := Option.some.inj h.2
    exact .alarmWakeup _ _ h.1
  | timeout =>
    simp only [Alarm.goOff, Option.ite_none_right_eq_some] at h
    obtain rfl := Option.some.inj h.2
    exact .alarmTimeout _ _ h.1

/-- No method begins while another is under way, and every request that is handled fits. -/
def InTurn (fits : RequestsFit) (σ : Pool (Navigation × Waiting))
    (a : Act HandlerCall EngineCall Alarm) : Prop :=
  σ.Alone a ∧ σ.Admits (fun s h => h.Fits fits s) a

/-- **The invariant rule of the sessions**: what every method keeps is true in every run whose
methods do not overlap, once the one under way has run to its end. -/
theorem sessions_invariant {σ : Pool (Navigation × Waiting)}
    (h : Runs.Reaches (sessionThreads verbose diffs).system (InTurn fits) σ)
    {I : Navigation → Waiting → Prop} (h0 : I (.init verbose) ⟨0, 0⟩)
    (hstep : ∀ {n v m w}, I n v → NavStep verbose diffs fits n v m w → I m w) :
    I σ.settled.1 σ.settled.2 := by
  refine settled_invariant (I := fun s : Navigation × Waiting => I s.1 s.2) h h0 ?_ ?_ ?_
  · intro call s t hI hfits htake
    exact hstep hI (handler_navStep hfits htake)
  · intro e s hI
    exact hstep hI (engine_navStep e s)
  · intro o s t hI hout
    exact hstep hI (alarm_navStep hout)

end

/-! ### The provider's runs -/

section

variable {verbose : Bool} {diffs : ReturningDiffs} {n m : Navigation} {v w : Waiting}
  {σ : Pool (Navigation × Waiting)}

theorem handler_run {c : HandlerCall} (h : ((c.method verbose diffs).run n).2 = m) :
    (((sessionThreads verbose diffs).handler c).run (n, w)).2 = (m, w) := by
  show ((c.method verbose diffs).onFst.run (n, w)).2 = _
  rw [Method.run_onFst, h]

theorem engine_run {e : EngineCall} (h : ((e.method verbose).run n).2 = m) :
    (((sessionThreads verbose diffs).other e).run (n, w)).2 = (m, w) := by
  show ((e.method verbose).onFst.run (n, w)).2 = _
  rw [Method.run_onFst, h]

/-- **What a step of the provider does** is what one method does alone. -/
theorem navStep_run (h : σ.Stands (n, v))
    (hrun : Runs.Reaches (sessionThreads verbose diffs).system (fun σ a => σ.Alone a) σ)
    (hstep : NavStep verbose diffs Provider.anyRequest n v m w) :
    ∃ τ, Runs.Reaches (sessionThreads verbose diffs).system (fun σ a => σ.Alone a) τ ∧
      τ.Stands (m, w) := by
  cases hstep with
  | same => exact ⟨σ, hrun, h⟩
  | setRequest _ ans request source =>
    refine h.handles hrun (c := .setRequest ans request source) rfl (handler_run ?_)
    exact congrArg Prod.snd (Stepwise.run_handleSetRequest verbose diffs n _ _ _)
  | updateLowPowerMode _ ans power =>
    refine h.handles hrun (c := .updateLowPowerMode ans power) rfl (handler_run ?_)
    exact congrArg Prod.snd (Stepwise.run_updateLowPowerMode verbose diffs n _ _)
  | disable =>
    refine h.handles hrun (c := .disable) rfl (handler_run ?_)
    exact congrArg Prod.snd (Stepwise.run_handleDisable verbose diffs n)
  | wakeup _ ans =>
    have htake : (HandlerCall.alarmWakeup ans).take (n, { w with wakeups := w.wakeups + 1 })
        = some (n, w) := by simp [HandlerCall.take]
    refine h.handles hrun (c := .alarmWakeup ans) htake (handler_run ?_)
    exact congrArg Prod.snd (Stepwise.run_startNavigating verbose n _ _)
  | timeout _ ans =>
    have htake : (HandlerCall.alarmTimeout ans).take (n, { w with timeouts := w.timeouts + 1 })
        = some (n, w) := by simp [HandlerCall.take]
    refine h.handles hrun (c := .alarmTimeout ans) htake (handler_run ?_)
    exact congrArg Prod.snd (Stepwise.run_hibernate verbose n _)
  | reportLocation _ ans flags =>
    exact h.reports hrun (e := .reportLocation ans flags)
      (engine_run (congrArg Prod.snd (Stepwise.run_reportLocation verbose n _ _)))
  | reportStatus _ status =>
    exact h.reports hrun (e := .reportStatus status)
      (engine_run (congrArg Prod.snd (Stepwise.run_reportStatus verbose n _)))
  | reportSvStatus _ ans usedInFix =>
    exact h.reports hrun (e := .reportSvStatus ans usedInFix)
      (engine_run (congrArg Prod.snd (Stepwise.run_reportSvStatus n _ _)))
  | setEngineCapabilities _ capabilities =>
    exact h.reports hrun (e := .setEngineCapabilities capabilities) (engine_run rfl)
  | alarmWakeup _ hset => exact h.happens hrun (o := .wakeup) (if_pos hset)
  | alarmTimeout _ hset => exact h.happens hrun (o := .timeout) (if_pos hset)

/-- **The provider's sessions are those of the threads**: every run of the provider, whose methods
are one step each, is a run of the threads whose methods do not overlap. -/
theorem provider_sessions {σ : Provider} (h : Runs.Reachable (provider verbose diffs) σ) :
    ∃ τ, Runs.Reaches (sessionThreads verbose diffs).system (fun σ a => σ.Alone a) τ ∧
      τ.Stands (σ.nav, σ.waiting) := by
  refine h.invariant (I := fun σ => ∃ τ, Runs.Reaches (sessionThreads verbose diffs).system
    (fun σ a => σ.Alone a) τ ∧ τ.Stands (σ.nav, σ.waiting)) ⟨_, .init, stands_init⟩ ?_
  rintro σ τ a ⟨π, hrun, hstands⟩ _ hstep
  exact navStep_run hstands hrun (Provider.step_navStep hstep)

end

/-! ### How the engine is used -/

/-- A request for one fix. -/
def oneFix : ProviderRequest := ⟨true, 1000, some [⟨1⟩]⟩

/-- **Where methods overlap**: the fix a session was for is reported, and nothing is asked for any
more; both threads find the engine running, and both stop it. -/
theorem sessions_overlapped : ∃ σ : Pool (Navigation × Waiting),
    Runs.Reachable (sessionThreads false fun _ _ => none).system σ ∧
      σ.state.1.calls = [.csmStartModem, .nativeSetPositionMode .standalone 1000 true,
        .nativeStart true, .reportLocation, .nativeStop, .csmStop, .nativeStop, .csmStop] ∧
      Monitor.run Session.step .closed σ.state.1.calls = none := by
  have hbegun : Runs.Reachable (sessionThreads false fun _ _ => none).system _ :=
    handled (h := .setRequest ⟨false, true, true, 0, 0⟩ (some oneFix) (some [])) .init rfl trivial
      (fun _ => trivial) rfl
  have hfix := Runs.Reaches.step (a := .begin (.reportLocation ⟨false, true, true, 0, 0⟩ 0)) hbegun
    trivial rfl
  -- The engine's thread has read that the session is for one fix, and that it runs.
  have hread := hfix.exec (show Runs.exec _ _ _ (List.replicate 6 (.other 0)) = some _ from rfl)
  have hoff := handled (h := .setRequest ⟨false, true, true, 0, 0⟩
    (some { oneFix with reportLocation := false }) (some [])) hread rfl trivial
    (fun _ => trivial) rfl
  have hend := other_ends hoff (fun _ _ => trivial) (i := 0) rfl
  exact ⟨_, hend, rfl, rfl⟩

end CtpCommon.Gps
