import Mathlib.Data.Int.Notation
import Mathlib.Data.List.Induction

/-!
# The proximity gestures

`CMActionsService.java`: when the proximity sensor is uncovered, a pulse is launched, depending on
two switches and on how long the sensor was covered.  The sensor may report a reading again.

* `onSensorChanged`, `shouldPulse` — the listener; the readings are of any type with `<`, and a
  timestamp is a `long`;
* `nearPeriod` — the near events since the last far event, the last one first;
* `Wanted` — when a pulse is to be launched: the time is that from the first of them;
* `sensorState_eq` — **PROVED**: the time that is stored is that of the last of them;
* `pulses_iff` — **PROVED**: what follows, for every sequence of events.
-/

namespace CtpCommon.Gestures

/-! ### The listener -/

/-- `POCKET_DELTA_NS`. -/
def pocketDeltaNs : Int64 := 1000 * 1000 * 1000

/-- `SensorEvent`, with the first of its values. -/
structure SensorEvent (ρ : Type) where
  value : ρ
  timestamp : Int64

/-- `mHandwaveGestureEnabled` and `mPocketGestureEnabled`. -/
structure Switches where
  handwave : Bool
  pocket : Bool
  deriving DecidableEq, Repr

/-- `mSawNear` and `mInPocketTime`. -/
structure SensorState where
  sawNear : Bool
  inPocketTime : Int64
  deriving DecidableEq, Repr

def sensorInit : SensorState := ⟨false, 0⟩

def shouldPulse (sw : Switches) (inPocketTime timestamp : Int64) : Bool :=
  let delta := timestamp - inPocketTime
  if sw.handwave ∧ sw.pocket then true
  else if sw.handwave ∧ ¬ sw.pocket then delta < pocketDeltaNs
  else if ¬ sw.handwave ∧ sw.pocket then pocketDeltaNs ≤ delta
  else false

section

variable {ρ : Type} [LT ρ] [DecidableLT ρ] (maximumRange : ρ) (sw : Switches)

def isNear (e : SensorEvent ρ) : Bool := e.value < maximumRange

/-- The state after an event, and whether a pulse is launched. -/
def onSensorChanged (s : SensorState) (e : SensorEvent ρ) : SensorState × Bool :=
  if s.sawNear ∧ ¬ isNear maximumRange e then
    ({ s with sawNear := isNear maximumRange e }, shouldPulse sw s.inPocketTime e.timestamp)
  else ({ s with inPocketTime := e.timestamp, sawNear := isNear maximumRange e }, false)

/-- The state after some events. -/
def sensorState (events : List (SensorEvent ρ)) : SensorState :=
  events.foldl (fun s e => (onSensorChanged maximumRange sw s e).1) sensorInit

/-- Is a pulse launched at an event, after those before it? -/
def pulseAt (past : List (SensorEvent ρ)) (e : SensorEvent ρ) : Bool :=
  (onSensorChanged maximumRange sw (sensorState maximumRange sw past) e).2

/-! ### The gestures -/

/-- The near events since the last far event, the last one first. -/
def nearPeriod (past : List (SensorEvent ρ)) : List (SensorEvent ρ) :=
  past.reverse.takeWhile (isNear maximumRange)

/-- The switches allow a pulse after this time. -/
def Switches.Allow (duration : ℤ) : Prop :=
  match sw.handwave, sw.pocket with
  | true, true => True
  | true, false => duration < pocketDeltaNs.toInt
  | false, true => pocketDeltaNs.toInt ≤ duration
  | false, false => False

/-- A far event ends a period that the switches allow, from its first near event on. -/
def Wanted (past : List (SensorEvent ρ)) (e : SensorEvent ρ) : Prop :=
  isNear maximumRange e = false ∧ ∃ first ∈ (nearPeriod maximumRange past).getLast?,
    sw.Allow (e.timestamp.toInt - first.timestamp.toInt)

/-- At the end of a period, one switch alone is on only if the time since its first near event is
short, or the time since its last one is long too, and is a `long`. -/
def Measured (past : List (SensorEvent ρ)) (e : SensorEvent ρ) : Prop :=
  isNear maximumRange e = false → ∀ first ∈ (nearPeriod maximumRange past).getLast?,
    ∀ last ∈ (nearPeriod maximumRange past).head?, sw.handwave = sw.pocket ∨
      e.timestamp.toInt - first.timestamp.toInt < pocketDeltaNs.toInt ∨
      (pocketDeltaNs.toInt ≤ e.timestamp.toInt - last.timestamp.toInt ∧
        e.timestamp.toInt - last.timestamp.toInt < 9223372036854775808)

/-! ### What is stored -/

variable {maximumRange sw} {past : List (SensorEvent ρ)} {e : SensorEvent ρ}

theorem nearPeriod_near (h : isNear maximumRange e = true) :
    nearPeriod maximumRange (past ++ [e]) = e :: nearPeriod maximumRange past := by
  unfold nearPeriod
  rw [List.reverse_concat, List.takeWhile_cons_of_pos h]

theorem nearPeriod_far (h : ¬ isNear maximumRange e = true) :
    nearPeriod maximumRange (past ++ [e]) = [] := by
  unfold nearPeriod
  rw [List.reverse_concat, List.takeWhile_cons_of_neg h]

/-- **The stored time** is that of the last near event, while the sensor is covered. -/
theorem sensorState_eq (past : List (SensorEvent ρ)) :
    ((sensorState maximumRange sw past).sawNear = true ↔ nearPeriod maximumRange past ≠ []) ∧
    ∀ last ∈ (nearPeriod maximumRange past).head?,
      (sensorState maximumRange sw past).inPocketTime = last.timestamp := by
  induction past using List.reverseRecOn with
  | nil =>
    exact ⟨iff_of_false Bool.false_ne_true (not_not.mpr rfl), fun last h => by cases h⟩
  | append_singleton past e _ =>
    have hstep : sensorState maximumRange sw (past ++ [e])
        = (onSensorChanged maximumRange sw (sensorState maximumRange sw past) e).1 := by
      unfold sensorState
      rw [List.foldl_append]
      rfl
    rw [hstep]
    unfold onSensorChanged
    by_cases hnear : isNear maximumRange e = true
    · rw [if_neg fun h => h.2 hnear, nearPeriod_near hnear]
      refine ⟨iff_of_true hnear (List.cons_ne_nil _ _), fun last hlast => ?_⟩
      rw [← Option.some.inj hlast]
    · rw [nearPeriod_far hnear]
      refine ⟨iff_of_false ?_ (not_not.mpr rfl), fun last h => by cases h⟩
      split <;> exact hnear

/-- **A pulse is launched** at a far event right after a near one, by the time since that one. -/
theorem pulseAt_iff : pulseAt maximumRange sw past e = true ↔ isNear maximumRange e = false ∧
    ∃ last ∈ (nearPeriod maximumRange past).head?,
      shouldPulse sw last.timestamp e.timestamp = true := by
  obtain ⟨hsaw, htime⟩ := @sensorState_eq ρ _ _ maximumRange sw past
  unfold pulseAt onSensorChanged
  by_cases hend : (sensorState maximumRange sw past).sawNear = true ∧
      ¬ isNear maximumRange e = true
  · rw [if_pos hend]
    obtain ⟨last, rest, hperiod⟩ := List.exists_cons_of_ne_nil (hsaw.mp hend.1)
    rw [hperiod] at htime ⊢
    rw [htime last rfl]
    constructor
    · exact fun h => ⟨Bool.eq_false_iff.mpr hend.2, last, rfl, h⟩
    · rintro ⟨-, other, hother, h⟩
      rw [Option.some.inj hother]
      exact h
  · rw [if_neg hend]
    refine iff_of_false Bool.false_ne_true ?_
    rintro ⟨hfar, last, hlast, -⟩
    refine hend ⟨hsaw.mpr ?_, Bool.eq_false_iff.mp hfar⟩
    intro hnil
    rw [hnil] at hlast
    cases hlast

/-! ### What is measured -/

/-- The difference of two times in order, in a `long`. -/
theorem toInt_delta {last t : Int64} (h : last.toInt ≤ t.toInt) :
    (t - last).toInt = if t.toInt - last.toInt < 9223372036854775808
      then t.toInt - last.toInt else t.toInt - last.toInt - 18446744073709551616 := by
  have hlow := last.le_toInt
  have hhigh := t.toInt_lt
  rw [Int64.toInt_sub, Int.bmod_def]
  omega

/-- **One decision**: it is by the time since the last near event, and is to be by that since the
first. -/
theorem shouldPulse_iff {first last t : Int64} (hfirst : first.toInt ≤ last.toInt)
    (hlast : last.toInt ≤ t.toInt) :
    (shouldPulse sw last t = true ↔ sw.Allow (t.toInt - first.toInt)) ↔
      sw.handwave = sw.pocket ∨ t.toInt - first.toInt < pocketDeltaNs.toInt ∨
        (pocketDeltaNs.toInt ≤ t.toInt - last.toInt ∧
          t.toInt - last.toInt < 9223372036854775808) := by
  have hdelta := toInt_delta hlast
  have hpocket : pocketDeltaNs.toInt = 1000000000 := by decide
  have hlow := last.le_toInt
  have hhigh := t.toInt_lt
  obtain ⟨handwave, pocket⟩ := sw
  cases handwave with
  | true =>
    cases pocket with
    | true => simp [shouldPulse, Switches.Allow]
    | false =>
      have hless : shouldPulse ⟨true, false⟩ last t = true ↔
          (t - last).toInt < pocketDeltaNs.toInt := by
        simp [shouldPulse, Int64.lt_iff_toInt_lt]
      rw [hless]
      show (_ ↔ t.toInt - first.toInt < pocketDeltaNs.toInt) ↔ true = false ∨ _
      rw [hdelta, hpocket]
      simp only [Bool.true_eq_false, false_or]
      by_cases hlong : t.toInt - last.toInt < 9223372036854775808
      · rw [if_pos hlong]
        omega
      · rw [if_neg hlong]
        omega
  | false =>
    cases pocket with
    | true =>
      have hmore : shouldPulse ⟨false, true⟩ last t = true ↔
          pocketDeltaNs.toInt ≤ (t - last).toInt := by
        simp [shouldPulse, Int64.le_iff_toInt_le]
      rw [hmore]
      show (_ ↔ pocketDeltaNs.toInt ≤ t.toInt - first.toInt) ↔ false = true ∨ _
      rw [hdelta, hpocket]
      simp only [Bool.false_eq_true, false_or]
      by_cases hlong : t.toInt - last.toInt < 9223372036854775808
      · rw [if_pos hlong]
        omega
      · rw [if_neg hlong]
        omega
    | false => simp [shouldPulse, Switches.Allow]

/-- The events of a period are in order of time, the first one last. -/
theorem period_sorted (h : past.Pairwise fun a b => a.timestamp.toInt ≤ b.timestamp.toInt)
    {first last : SensorEvent ρ} (hfirst : first ∈ (nearPeriod maximumRange past).getLast?)
    (hlast : last ∈ (nearPeriod maximumRange past).head?) :
    first.timestamp.toInt ≤ last.timestamp.toInt := by
  have hperiod : (nearPeriod maximumRange past).Pairwise
      fun a b => b.timestamp.toInt ≤ a.timestamp.toInt :=
    (List.pairwise_reverse.mpr h).sublist (List.takeWhile_sublist _)
  have hmem := List.mem_of_getLast? hfirst
  cases hcase : nearPeriod maximumRange past with
  | nil =>
    rw [hcase] at hlast
    cases hlast
  | cons head rest =>
    rw [hcase] at hlast hmem hperiod
    obtain rfl : head = last := Option.some.inj hlast
    rcases List.mem_cons.mp hmem with rfl | hrest
    · exact Int.le_refl _
    · exact (List.pairwise_cons.mp hperiod).1 first hrest

theorem mem_of_period (h : e ∈ nearPeriod maximumRange past) : e ∈ past :=
  List.mem_reverse.mp ((List.takeWhile_sublist _).subset h)

/-- **One event**: a pulse is launched exactly when it is wanted, if and only if the time is
measured right. -/
theorem pulseAt_right_iff
    (h : (past ++ [e]).Pairwise fun a b => a.timestamp.toInt ≤ b.timestamp.toInt) :
    (pulseAt maximumRange sw past e = true ↔ Wanted maximumRange sw past e) ↔
      Measured maximumRange sw past e := by
  obtain ⟨hpast, -, hbefore⟩ := List.pairwise_append.mp h
  rw [pulseAt_iff]
  unfold Wanted Measured
  by_cases hfar : isNear maximumRange e = false
  · rcases hcase : nearPeriod maximumRange past with _ | ⟨last, rest⟩
    · simp
    obtain ⟨first, hfirst⟩ : ∃ first, (last :: rest).getLast? = some first :=
      ⟨_, List.getLast?_eq_some_getLast (List.cons_ne_nil _ _)⟩
    have hmem : last ∈ past := mem_of_period (hcase ▸ List.mem_cons_self)
    have hone := @shouldPulse_iff sw _ _ _
      (period_sorted hpast (hcase ▸ hfirst) (show last ∈ _ by rw [hcase]; rfl))
      (hbefore last hmem e (List.mem_singleton.mpr rfl))
    rw [hfirst]
    simpa [hfar] using hone
  · simp [hfar]

/-- **The proximity gestures.**  For every sequence of events in order of time, pulses are launched
at the far events right after a near one that end a period the switches allow, and at no others, if
and only if every time is measured right. -/
theorem pulses_iff (events : List (SensorEvent ρ))
    (h : events.Pairwise fun a b => a.timestamp.toInt ≤ b.timestamp.toInt) :
    (∀ i e, events[i]? = some e → (pulseAt maximumRange sw (events.take i) e = true ↔
      Wanted maximumRange sw (events.take i) e)) ↔
    ∀ i e, events[i]? = some e → Measured maximumRange sw (events.take i) e := by
  refine forall_congr' fun i => forall_congr' fun e => imp_congr_right fun he => ?_
  refine pulseAt_right_iff ?_
  have hseen : events.take i ++ [e] = events.take (i + 1) := by
    rw [List.take_add_one, he]
    rfl
  rw [hseen]
  exact h.sublist (List.take_sublist _ _)

end

/-- A hand before the sensor for half a second: a pulse by hand wave. -/
theorem handwave_pulses :
    pulseAt 5 ⟨true, false⟩ [(⟨0, 0⟩ : SensorEvent ℕ)] ⟨5, 500000000⟩ = true ∧
      Wanted 5 ⟨true, false⟩ [(⟨0, 0⟩ : SensorEvent ℕ)] ⟨5, 500000000⟩ := by
  have hpulse : pulseAt 5 ⟨true, false⟩ [(⟨0, 0⟩ : SensorEvent ℕ)] ⟨5, 500000000⟩ = true := by
    decide
  have hright := (@pulses_iff ℕ _ _ 5 ⟨true, false⟩
    [⟨0, 0⟩, ⟨5, 500000000⟩] (by decide)).mpr fun i e he => by
      match i with
      | 0 =>
        obtain rfl := Option.some.inj he
        exact fun hfar => absurd hfar (by decide)
      | 1 =>
        obtain rfl := Option.some.inj he
        intro _ first hfirst _ _
        obtain rfl : (⟨0, 0⟩ : SensorEvent ℕ) = first := Option.some.inj hfirst
        exact .inr (.inl (by decide))
      | i + 2 => cases he
  exact ⟨hpulse, (hright 1 ⟨5, 500000000⟩ rfl).mp hpulse⟩

/-- Covered at `0 s`, which is reported again at `2 s`, and uncovered at `2.5 s`. -/
def repeatedReading : List (SensorEvent ℕ) := [⟨0, 0⟩, ⟨0, 2000000000⟩, ⟨5, 2500000000⟩]

/-- A hand wave, by the half second since the last report. -/
theorem repeated_reading_pulses :
    (repeatedReading.Pairwise fun a b => a.timestamp.toInt ≤ b.timestamp.toInt) ∧
    pulseAt 5 ⟨true, false⟩ (repeatedReading.take 2) ⟨5, 2500000000⟩ = true ∧
    ¬ ∀ i e, repeatedReading[i]? = some e →
      (pulseAt 5 ⟨true, false⟩ (repeatedReading.take i) e = true ↔
        Wanted 5 ⟨true, false⟩ (repeatedReading.take i) e) := by
  have hpulse : pulseAt 5 ⟨true, false⟩ (repeatedReading.take 2) ⟨5, 2500000000⟩ = true := by
    decide
  refine ⟨by decide, hpulse, fun hright => ?_⟩
  obtain ⟨-, first, hfirst, hallow⟩ := (hright 2 ⟨5, 2500000000⟩ rfl).mp hpulse
  obtain rfl : (⟨0, 0⟩ : SensorEvent ℕ) = first := Option.some.inj hfirst
  exact absurd hallow (show ¬ (2500000000 : Int64).toInt - (0 : Int64).toInt < _ by decide)

end CtpCommon.Gestures
