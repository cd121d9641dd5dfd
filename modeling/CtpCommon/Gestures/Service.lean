import CtpCommon.Gestures.Proximity
import CtpCommon.Lib.Runs

/-!
# The service of the gestures

`CMActionsService.java`: the proximity sensor is listened to while the display is off, and a wake
lock is held while it is on.  Both follow the broadcasts of the display, and the settings only as
far as a broadcast or a changed preference makes the service look at them.

* `GestureService`, `GestureAction`, `gestureService` — the service, its callbacks, and its runs;
  the broadcasts of the display wait in a queue;
* `Since begins ends past` — an entry that begins, and none since that ends;
* `Listened`, `Held`, `pulseDue` — what the past of the service says;
* `Accounts` — the invariant;
* `gestures_exact` — **PROVED** of every run: the sensor, the wake lock and every pulse are what the
  past says.

The service lives on one thread; its process is not restarted.
-/

namespace CtpCommon.Gestures

open Runs (Reachable System)

/-! ### The service -/

/-- The keys of the preferences. -/
inductive PreferenceKey where
  | gestureHandWave
  | gesturePocket
  | other
  deriving DecidableEq, Repr

/-- What has happened, and whether the gestures were enabled then; for a reading of the sensor, the
switches, and whether it launched a pulse. -/
inductive Happening (ρ : Type) where
  | displayOff (enabled : Bool)
  | displayOn (enabled : Bool)
  | preference (enabled : Bool)
  | reading (e : SensorEvent ρ) (sw : Switches) (pulse : Bool)

/-- `interactive` is the display, `broadcasts` what the receiver has yet to see of it, `true` for
`ACTION_SCREEN_ON`; `doze` is the setting `DOZE_ENABLED`; `wakeLock` counts the acquisitions, and
`underLocked` says that one was released too often.  `past` has the last happening first. -/
structure GestureService (ρ : Type) where
  created : Bool
  interactive : Bool
  receiver : Bool
  broadcasts : List Bool
  doze : Bool
  switches : Switches
  sensorEnabled : Bool
  sensor : SensorState
  wakeLock : ℕ
  underLocked : Bool
  past : List (Happening ρ)

inductive GestureAction (ρ : Type) where
  | onCreate (prefs : Switches)
  | onStartCommand
  | onReceive
  | onSharedPreferenceChanged (key : PreferenceKey) (value : Bool)
  | onSensorChanged (e : SensorEvent ρ)
  | screen (on : Bool)
  | dozeEnabled (on : Bool)

section

variable {ρ : Type}

namespace GestureService

def init (interactive doze : Bool) : GestureService ρ where
  created := false
  interactive := interactive
  receiver := false
  broadcasts := []
  doze := doze
  switches := ⟨false, false⟩
  sensorEnabled := false
  sensor := sensorInit
  wakeLock := 0
  underLocked := false
  past := []

variable (s : GestureService ρ)

def areGesturesEnabled : Bool := (s.switches.handwave || s.switches.pocket) && s.doze

def record (h : Happening ρ) : GestureService ρ := { s with past := h :: s.past }

/-- `mSensor.enable()`; to register again changes nothing. -/
def enableSensor : GestureService ρ := { s with sensorEnabled := true }

def disableSensor : GestureService ρ := { s with sensorEnabled := false }

/-- `mWakeLock.isHeld()`. -/
def isHeld : Bool := 0 < s.wakeLock

def acquire : GestureService ρ := { s with wakeLock := s.wakeLock + 1 }

/-- A wake lock that is not held must not be released. -/
def release : GestureService ρ :=
  { s with wakeLock := s.wakeLock - 1, underLocked := s.underLocked || s.wakeLock == 0 }

def acquireIfEnabled : GestureService ρ :=
  if s.areGesturesEnabled ∧ ¬ s.isHeld then s.acquire else s

def onDisplayOn : GestureService ρ :=
  s.disableSensor.acquireIfEnabled.record (.displayOn s.areGesturesEnabled)

def onDisplayOff : GestureService ρ :=
  let t := if s.areGesturesEnabled then s.enableSensor else s
  let t := if t.isHeld then t.release else t
  t.record (.displayOff s.areGesturesEnabled)

/-- A display that is off now is one that went off, for a service without a wake lock. -/
def onCreate (prefs : Switches) : GestureService ρ :=
  let s := { s with created := true, switches := prefs }
  if ¬ s.interactive then
    let t := if s.areGesturesEnabled then s.enableSensor else s
    t.record (.displayOff s.areGesturesEnabled)
  else s

def onSharedPreferenceChanged (key : PreferenceKey) (value : Bool) : GestureService ρ :=
  let s :=
    match key with
    | .gestureHandWave => { s with switches := { s.switches with handwave := value } }
    | .gesturePocket => { s with switches := { s.switches with pocket := value } }
    | .other => s
  s.acquireIfEnabled.record (.preference s.areGesturesEnabled)

variable [LT ρ] [DecidableLT ρ] (maximumRange : ρ)

def onSensorEvent (e : SensorEvent ρ) : GestureService ρ :=
  let r := onSensorChanged maximumRange s.switches s.sensor e
  { s with sensor := r.1 }.record (.reading e s.switches r.2)

/-- One callback, or a change of the display or the setting.  A listener that is not registered is
not called. -/
def step : GestureAction ρ → Option (GestureService ρ)
  | .onCreate prefs => if s.created then none else some (s.onCreate prefs)
  | .onStartCommand => if s.created then some { s with receiver := true } else none
  | .onReceive =>
      match s.created, s.broadcasts with
      | true, on :: rest =>
          let s := { s with broadcasts := rest }
          some (if on then s.onDisplayOn else s.onDisplayOff)
      | _, _ => none
  | .onSharedPreferenceChanged key value =>
      if s.created then some (s.onSharedPreferenceChanged key value) else none
  | .onSensorChanged e => if s.sensorEnabled then some (s.onSensorEvent maximumRange e) else none
  | .screen on =>
      some { s with
        interactive := on
        broadcasts := if s.receiver then s.broadcasts ++ [on] else s.broadcasts }
  | .dozeEnabled on => some { s with doze := on }

end GestureService

/-- The service, from a display and a setting on. -/
def gestureService [LT ρ] [DecidableLT ρ] (maximumRange : ρ) (interactive doze : Bool) :
    System (GestureService ρ) (GestureAction ρ) :=
  ⟨.init interactive doze, fun s => s.step maximumRange⟩

namespace GestureService

/-- The wake lock after it was asked for; it is not taken twice. -/
theorem acquired {s : GestureService ρ} (honce : s.wakeLock ≤ 1) :
    (0 < s.acquireIfEnabled.wakeLock ↔ s.areGesturesEnabled = true ∨ 0 < s.wakeLock) ∧
      s.acquireIfEnabled.wakeLock ≤ 1 := by
  unfold GestureService.acquireIfEnabled GestureService.isHeld GestureService.acquire
  split
  next hcase =>
    simp only [decide_eq_true_eq] at hcase
    refine ⟨iff_of_true (Nat.succ_pos _) (.inl hcase.1), ?_⟩
    dsimp only
    omega
  next hcase =>
    refine ⟨⟨.inr, fun hor => ?_⟩, honce⟩
    by_contra hfree
    rcases hor with henabled | hheld
    · exact hcase ⟨henabled, by simpa using hfree⟩
    · exact hfree hheld

/-- Nothing else changes. -/
theorem acquired_same (s : GestureService ρ) : s.acquireIfEnabled.sensorEnabled = s.sensorEnabled ∧
    s.acquireIfEnabled.sensor = s.sensor ∧ s.acquireIfEnabled.underLocked = s.underLocked ∧
    s.acquireIfEnabled.created = s.created ∧ s.acquireIfEnabled.past = s.past := by
  unfold GestureService.acquireIfEnabled
  split
  · exact ⟨rfl, rfl, rfl, rfl, rfl⟩
  · exact ⟨rfl, rfl, rfl, rfl, rfl⟩

end GestureService

/-! ### What the past says -/

/-- An entry that begins, and none since that ends; the last entry is first. -/
def Since {C : Type} (begins ends : C → Prop) : List C → Prop
  | [] => False
  | e :: past => begins e ∨ ¬ ends e ∧ Since begins ends past

section Since

variable {C : Type} {begins ends : C → Prop} {e : C} {past : List C}

theorem since_ends (h : ends e) : Since begins ends (e :: past) ↔ begins e := by
  simp [Since, h]

theorem since_cons (hbegins : ¬ begins e) (hends : ¬ ends e) :
    Since begins ends (e :: past) ↔ Since begins ends past := by
  simp [Since, hbegins, hends]

end Since

namespace Happening

def IsOn : Happening ρ → Prop
  | displayOn _ => True
  | _ => False

def IsOff : Happening ρ → Prop
  | displayOff _ => True
  | _ => False

/-- A display that went off while the gestures were enabled. -/
def StartsSensor : Happening ρ → Prop
  | displayOff enabled => enabled = true
  | _ => False

/-- The service looked, but not because the display went off, and the gestures were enabled. -/
def TakesLock : Happening ρ → Prop
  | displayOn enabled => enabled = true
  | preference enabled => enabled = true
  | _ => False

end Happening

/-- Since the display last went on it has gone off with the gestures enabled. -/
def Listened (past : List (Happening ρ)) : Prop :=
  Since Happening.StartsSensor Happening.IsOn past

/-- Since the display last went off it has gone on, or a preference has changed, with the gestures
enabled. -/
def Held (past : List (Happening ρ)) : Prop :=
  Since Happening.TakesLock Happening.IsOff past

/-- The last reading of the sensor. -/
def lastReading : List (Happening ρ) → Option (SensorEvent ρ)
  | [] => none
  | .reading e _ _ :: _ => some e
  | _ :: past => lastReading past

variable [LT ρ] [DecidableLT ρ]

/-- A pulse is launched by a reading that is far, right after a near one, however long ago and
whatever the display did in between, if the switches allow it for the time between the two. -/
def pulseDue (maximumRange : ρ) (e : SensorEvent ρ) (sw : Switches) (past : List (Happening ρ)) :
    Bool :=
  !isNear maximumRange e && (lastReading past).any fun near =>
    isNear maximumRange near && shouldPulse sw near.timestamp e.timestamp

/-! ### The invariant -/

/-- What the service holds, and what it did, against its past. -/
structure Accounts (maximumRange : ρ) (s : GestureService ρ) : Prop where
  listened : s.sensorEnabled = true ↔ Listened s.past
  held : 0 < s.wakeLock ↔ Held s.past
  once : s.wakeLock ≤ 1
  released : s.underLocked = false
  fresh : s.created = false → s.wakeLock = 0
  near : s.sensor.sawNear = true ↔ ∃ e ∈ lastReading s.past, isNear maximumRange e = true
  time : ∀ e ∈ lastReading s.past, isNear maximumRange e = true →
    s.sensor.inPocketTime = e.timestamp
  pulses : ∀ e sw pulse older, Happening.reading e sw pulse :: older <:+ s.past →
    pulse = pulseDue maximumRange e sw older ∧ Listened older

namespace Accounts

variable {maximumRange : ρ} {s t : GestureService ρ}

theorem init (interactive doze : Bool) :
    Accounts maximumRange (.init interactive doze : GestureService ρ) where
  listened := iff_of_false Bool.false_ne_true not_false
  held := iff_of_false (Nat.lt_irrefl 0) not_false
  once := Nat.zero_le 1
  released := rfl
  fresh := fun _ => rfl
  near := iff_of_false Bool.false_ne_true fun ⟨_, he, _⟩ => Option.not_mem_none _ he
  time := fun _ he => absurd he (Option.not_mem_none _)
  pulses := fun _ _ _ _ h => absurd (List.suffix_nil.mp h) (List.cons_ne_nil _ _)

/-- What the display and the setting do is not seen. -/
theorem of_eq (h : Accounts maximumRange s) (hsensor : t.sensorEnabled = s.sensorEnabled)
    (hlistener : t.sensor = s.sensor) (hlock : t.wakeLock = s.wakeLock)
    (hunder : t.underLocked = s.underLocked) (hcreated : t.created = s.created)
    (hpast : t.past = s.past) : Accounts maximumRange t where
  listened := by rw [hsensor, hpast, h.listened]
  held := by rw [hlock, hpast, h.held]
  once := by rw [hlock]; exact h.once
  released := by rw [hunder, h.released]
  fresh := by rw [hcreated, hlock]; exact h.fresh
  near := by rw [hlistener, hpast, h.near]
  time := by rw [hlistener, hpast]; exact h.time
  pulses := by rw [hpast]; exact h.pulses

/-- A happening that is no reading. -/
theorem recorded (h : Accounts maximumRange s) {x : Happening ρ}
    (hreading : ∀ e sw pulse, x ≠ .reading e sw pulse)
    (hlistened : t.sensorEnabled = true ↔ Listened (x :: s.past))
    (hheld : 0 < t.wakeLock ↔ Held (x :: s.past)) (honce : t.wakeLock ≤ 1)
    (hreleased : t.underLocked = false) (hcreated : t.created = true)
    (hlistener : t.sensor = s.sensor) (hpast : t.past = x :: s.past) : Accounts maximumRange t := by
  have hlast : lastReading (x :: s.past) = lastReading s.past := by
    cases x with
    | reading e sw pulse => exact absurd rfl (hreading e sw pulse)
    | displayOff | displayOn | preference => rfl
  refine ⟨?_, ?_, honce, hreleased, ?_, ?_, ?_, ?_⟩
  · rw [hpast, hlistened]
  · rw [hpast, hheld]
  · exact fun hnew => absurd (hcreated.symm.trans hnew) Bool.true_eq_false.mp
  · rw [hlistener, hpast, hlast, h.near]
  · rw [hlistener, hpast, hlast]
    exact h.time
  · intro e sw pulse older holder
    rw [hpast] at holder
    rcases List.suffix_cons_iff.mp holder with heq | hsuffix
    · exact absurd (List.cons.inj heq).1.symm (hreading e sw pulse)
    · exact h.pulses e sw pulse older hsuffix

theorem displayOn (h : Accounts maximumRange s) (hcreated : s.created = true) :
    Accounts maximumRange s.onDisplayOn := by
  obtain ⟨hheld, honce⟩ := GestureService.acquired (s := s.disableSensor) h.once
  obtain ⟨hsensor, hlistener, hunder, hsame, hpast⟩ := s.disableSensor.acquired_same
  refine h.recorded (x := .displayOn s.areGesturesEnabled) (fun e sw pulse h => nomatch h) ?_ ?_
    honce
    (hunder.trans h.released) (hsame.trans hcreated) hlistener (congrArg _ hpast)
  · refine iff_of_false (fun hon => absurd (hsensor.symm.trans hon) Bool.false_ne_true) ?_
    unfold Listened
    rw [since_ends trivial]
    exact not_false
  · refine hheld.trans ?_
    have hlock := h.held
    unfold Held at hlock ⊢
    rw [Since, ← hlock]
    simp [Happening.TakesLock, Happening.IsOff, GestureService.disableSensor,
      GestureService.areGesturesEnabled]

theorem preferenceChanged (h : Accounts maximumRange s) (hcreated : s.created = true) :
    Accounts maximumRange (s.acquireIfEnabled.record (.preference s.areGesturesEnabled)) := by
  obtain ⟨hheld, honce⟩ := GestureService.acquired h.once
  obtain ⟨hsensor, hlistener, hunder, hsame, hpast⟩ := s.acquired_same
  refine h.recorded (x := .preference s.areGesturesEnabled) (fun e sw pulse h => nomatch h) ?_ ?_
    honce
    (hunder.trans h.released) (hsame.trans hcreated) hlistener (congrArg _ hpast)
  · have hlistened := h.listened
    show s.acquireIfEnabled.sensorEnabled = true ↔ _
    unfold Listened at hlistened ⊢
    rw [since_cons not_false not_false, hsensor, hlistened]
  · refine hheld.trans ?_
    have hlock := h.held
    unfold Held at hlock ⊢
    rw [Since, ← hlock]
    simp [Happening.TakesLock, Happening.IsOff]

/-- The sensor after the display went off; the lock is not held any more. -/
theorem displayOff_recorded (h : Accounts maximumRange s) (hcreated : t.created = true)
    (hsensor : t.sensorEnabled = (s.areGesturesEnabled || s.sensorEnabled))
    (hlock : t.wakeLock = 0) (hunder : t.underLocked = false) (hlistener : t.sensor = s.sensor)
    (hpast : t.past = .displayOff s.areGesturesEnabled :: s.past) : Accounts maximumRange t := by
  refine h.recorded (x := .displayOff s.areGesturesEnabled) (fun e sw pulse h => nomatch h) ?_ ?_
    (by rw [hlock]; exact Nat.zero_le 1) hunder
    hcreated hlistener hpast
  · have hlistened := h.listened
    unfold Listened at hlistened ⊢
    rw [hsensor, Since, ← hlistened]
    simp [Happening.StartsSensor, Happening.IsOn]
  · unfold Held
    rw [hlock, since_ends trivial]
    exact iff_of_false (Nat.lt_irrefl 0) not_false

theorem displayOff (h : Accounts maximumRange s) (hcreated : s.created = true) :
    Accounts maximumRange s.onDisplayOff := by
  have honce := h.once
  have hreleased := h.released
  unfold GestureService.onDisplayOff GestureService.isHeld GestureService.release
    GestureService.enableSensor
  dsimp only
  refine h.displayOff_recorded ?_ ?_ ?_ ?_ ?_ ?_
  all_goals
    unfold GestureService.record
    cases s.areGesturesEnabled <;> by_cases hheld : 0 < s.wakeLock <;>
      simp [hheld, hcreated, hreleased] <;> omega

theorem create (h : Accounts maximumRange s) (hnew : s.created = false) (prefs : Switches) :
    Accounts maximumRange (s.onCreate prefs) := by
  have hlock := h.fresh hnew
  have hloaded : Accounts maximumRange { s with created := true, switches := prefs } :=
    ⟨h.listened, h.held, h.once, h.released, fun _ => hlock, h.near, h.time, h.pulses⟩
  have hreleased := h.released
  unfold GestureService.onCreate GestureService.enableSensor
  dsimp only
  split
  · refine hloaded.displayOff_recorded ?_ ?_ ?_ ?_ ?_ ?_
    all_goals
      unfold GestureService.record
      cases GestureService.areGesturesEnabled _ <;> simp [hlock, hreleased]
  · exact hloaded

/-- Whether a reading launches a pulse: the stored time is that of the last near reading. -/
theorem pulse_eq (h : Accounts maximumRange s) (e : SensorEvent ρ) :
    (onSensorChanged maximumRange s.switches s.sensor e).2
      = pulseDue maximumRange e s.switches s.past := by
  have hnear := h.near
  have htime := h.time
  unfold onSensorChanged pulseDue
  cases hlast : lastReading s.past with
  | none =>
    have hsaw : ¬ s.sensor.sawNear = true := by
      rw [hnear, hlast]
      exact fun ⟨_, he, _⟩ => Option.not_mem_none _ he
    simp [hsaw]
  | some near =>
    rw [hlast] at hnear htime
    cases hfar : isNear maximumRange e with
    | true => simp
    | false =>
      cases hwas : isNear maximumRange near with
      | false =>
        have hsaw : ¬ s.sensor.sawNear = true := by simp [hnear, hwas]
        simp [hsaw, hwas]
      | true =>
        have hsaw : s.sensor.sawNear = true := by simp [hnear, hwas]
        simp [hsaw, hwas, htime near rfl hwas]

theorem reading (h : Accounts maximumRange s) (hsensor : s.sensorEnabled = true)
    (e : SensorEvent ρ) : Accounts maximumRange (s.onSensorEvent maximumRange e) := by
  have hpulse := h.pulse_eq e
  have hlistened := h.listened
  have hheld := h.held
  refine ⟨?_, ?_, h.once, h.released, h.fresh, ?_, ?_, ?_⟩
  · unfold Listened at hlistened ⊢
    exact hlistened.trans (since_cons not_false not_false).symm
  · unfold Held at hheld ⊢
    exact hheld.trans (since_cons not_false not_false).symm
  · show (onSensorChanged maximumRange s.switches s.sensor e).1.sawNear = true ↔
      ∃ last ∈ some e, isNear maximumRange last = true
    unfold onSensorChanged
    split <;> simp
  · rintro last hlast hnear
    obtain rfl := Option.some.inj hlast
    show (onSensorChanged maximumRange s.switches s.sensor e).1.inPocketTime = e.timestamp
    unfold onSensorChanged
    rw [if_neg fun hend => hend.2 hnear]
  · intro e' sw pulse older holder
    rcases List.suffix_cons_iff.mp holder with heq | hsuffix
    · obtain ⟨hreading, rfl⟩ := List.cons.inj heq
      obtain ⟨rfl, rfl, rfl⟩ := Happening.reading.inj hreading
      exact ⟨hpulse, hlistened.mp hsensor⟩
    · exact h.pulses e' sw pulse older hsuffix

/-- **Every step.** -/
theorem step (h : Accounts maximumRange s) {a : GestureAction ρ}
    (hstep : s.step maximumRange a = some t) : Accounts maximumRange t := by
  cases a with
  | onCreate prefs =>
    simp only [GestureService.step, Option.ite_none_left_eq_some] at hstep
    obtain ⟨hnew, ht⟩ := hstep
    obtain rfl := Option.some.inj ht
    exact h.create (Bool.eq_false_iff.mpr hnew) prefs
  | onStartCommand =>
    simp only [GestureService.step, Option.ite_none_right_eq_some] at hstep
    obtain rfl := Option.some.inj hstep.2
    exact h.of_eq rfl rfl rfl rfl rfl rfl
  | onReceive =>
    simp only [GestureService.step] at hstep
    split at hstep
    next on rest hcreated hbroadcasts =>
      have hrest : Accounts maximumRange { s with broadcasts := rest } :=
        h.of_eq rfl rfl rfl rfl rfl rfl
      obtain rfl := Option.some.inj hstep
      cases on with
      | true => exact hrest.displayOn hcreated
      | false => exact hrest.displayOff hcreated
    next => exact absurd hstep (by simp)
  | onSharedPreferenceChanged key value =>
    simp only [GestureService.step, Option.ite_none_right_eq_some] at hstep
    obtain ⟨hcreated, ht⟩ := hstep
    obtain rfl := Option.some.inj ht
    have hloaded : ∀ sw, Accounts maximumRange { s with switches := sw } := fun _ =>
      h.of_eq rfl rfl rfl rfl rfl rfl
    cases key with
    | gestureHandWave => exact (hloaded _).preferenceChanged hcreated
    | gesturePocket => exact (hloaded _).preferenceChanged hcreated
    | other => exact h.preferenceChanged hcreated
  | onSensorChanged e =>
    simp only [GestureService.step, Option.ite_none_right_eq_some] at hstep
    obtain ⟨hsensor, ht⟩ := hstep
    obtain rfl := Option.some.inj ht
    exact h.reading hsensor e
  | screen on =>
    obtain rfl := Option.some.inj hstep
    exact h.of_eq rfl rfl rfl rfl rfl rfl
  | dozeEnabled on =>
    obtain rfl := Option.some.inj hstep
    exact h.of_eq rfl rfl rfl rfl rfl rfl

end Accounts

/-- **The service in every run**, whatever the display, the settings and the sensor do.  The sensor
is listened to exactly while, since the last broadcast that the display is on, one that it is off
has found the gestures enabled.  The wake lock is held once, and exactly while, since the last
broadcast that the display is off, one that it is on or a changed preference has found them enabled;
and no release finds it unheld.  A reading launches a pulse exactly when it is due, and comes only
while the sensor is listened to. -/
theorem gestures_exact {maximumRange : ρ} {interactive doze : Bool} {s : GestureService ρ}
    (h : Reachable (gestureService maximumRange interactive doze) s) :
    (s.sensorEnabled = true ↔ Listened s.past) ∧
    (0 < s.wakeLock ↔ Held s.past) ∧ s.wakeLock ≤ 1 ∧ s.underLocked = false ∧
    ∀ e sw pulse older, Happening.reading e sw pulse :: older <:+ s.past →
      pulse = pulseDue maximumRange e sw older ∧ Listened older := by
  have haccounts : Accounts maximumRange s := by
    apply h.invariant (I := Accounts maximumRange) (.init interactive doze)
    intro s a t hs _ hstep
    exact hs.step hstep
  exact ⟨haccounts.listened, haccounts.held, haccounts.once, haccounts.released, haccounts.pulses⟩

end

/-- A hand waves before the sensor, while the display is off. -/
def handWaves : List (GestureAction ℕ) :=
  [.onCreate ⟨true, false⟩, .onStartCommand, .onSensorChanged ⟨0, 0⟩,
    .onSensorChanged ⟨5, 500000000⟩]

theorem gestures_exact_handWaves : ∃ s : GestureService ℕ,
    Runs.exec (gestureService 5 false true) (fun _ _ => True) (.init false true) handWaves
      = some s ∧
    (s.sensorEnabled = true ↔ Listened s.past) ∧
    (0 < s.wakeLock ↔ Held s.past) ∧ s.wakeLock ≤ 1 ∧ s.underLocked = false ∧
    ∀ e sw pulse older, Happening.reading e sw pulse :: older <:+ s.past →
      pulse = pulseDue 5 e sw older ∧ Listened older := by
  obtain ⟨s, hs⟩ : ∃ s, Runs.exec (gestureService 5 false true) (fun _ _ => True)
      (.init false true) handWaves = some s := ⟨_, rfl⟩
  have hreach : Reachable (gestureService 5 false true) s := Runs.reaches_of_exec hs
  exact ⟨s, hs, gestures_exact hreach⟩

end CtpCommon.Gestures
