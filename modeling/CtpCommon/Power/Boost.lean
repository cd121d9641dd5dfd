import CtpCommon.Lib.Decimal
import CtpCommon.Lib.Runs
import Mathlib.Tactic.Common

/-!
# The boost for an interaction

The power module writes to the boost file at most once in a pulse: a hint for an interaction takes
the time since the last boost, in microseconds, and compares it to the pulse.  On x86 the seconds
and the nanoseconds have 32 bits, and so has the product of the seconds; the comparison has 64 bits.

* `Timespec`, `timespecSub`, `timespecToUs` — times, and the functions of `power.c` on them;
* `fuguPowerInit`, `fuguPowerHint` — the module;
* `timespecToUs_timespecSub` — **PROVED**: what the microseconds are, from any time to a later one;
* `powerSystem` — hints at times that do not decrease, with a record of what they write;
* `Decision.Right` — a hint boosts exactly if the last boost is more than a pulse ago, to within a
  microsecond;
* `inRange_of_short` — **PROVED**: the 32 bits get every pause of less than 35 minutes right;
* `boosts_limited` — **PROVED**: a hint is right in every run without a pause that they get wrong.
-/

namespace CtpCommon.Power

open Decimal (atoi)

/-! ### Times -/

/-- `struct timespec`, where `time_t` and `long` have 32 bits. -/
structure Timespec where
  tvSec : Int32
  tvNsec : Int32
  deriving DecidableEq, Repr

namespace Timespec

/-- The time in nanoseconds. -/
def ns (t : Timespec) : Int := t.tvSec.toInt * 1000000000 + t.tvNsec.toInt

/-- What `clock_gettime` gives. -/
def Valid (t : Timespec) : Prop :=
  0 ≤ t.tvSec.toInt ∧ 0 ≤ t.tvNsec.toInt ∧ t.tvNsec.toInt < 1000000000

/-- The microseconds since a time; the part of the nanoseconds is truncated. -/
def usSince (t last : Timespec) : Int :=
  (t.tvSec.toInt - last.tvSec.toInt) * 1000000 + (t.tvNsec.toInt - last.tvNsec.toInt).tdiv 1000

instance : DecidablePred Valid := fun t =>
  inferInstanceAs (Decidable (0 ≤ t.tvSec.toInt ∧ 0 ≤ t.tvNsec.toInt ∧ t.tvNsec.toInt < 1000000000))

end Timespec

/-- `timespec_sub`. -/
def timespecSub (a b : Timespec) : Timespec :=
  if b.tvSec ≤ a.tvSec then ⟨a.tvSec - b.tvSec, a.tvNsec - b.tvNsec⟩
  else ⟨a.tvSec - b.tvSec - 1, 1000000000 - b.tvNsec + a.tvNsec⟩

/-- `timespec_to_us`. -/
def timespecToUs (t : Timespec) : UInt64 :=
  (t.tvSec * 1000000 + t.tvNsec / 1000).toInt64.toUInt64

/-! ### The module -/

structure SysfsWrite where
  path : String
  s : String
  deriving DecidableEq, Repr

/-- `struct intel_power_module`. -/
structure IntelPowerModule where
  pulseDuration : UInt32
  lastBoostTime : Timespec
  deriving DecidableEq, Repr

/-- `sysfs_read`, into `numBytes` bytes: nothing if the file cannot be read. -/
def sysfsRead (file : Option (List UInt8)) (numBytes : ℕ) : Option (List UInt8) :=
  file.map fun bytes =>
    let s := bytes.take (numBytes - 1)
    if s.getLast? = some 10 then s.dropLast else s

/-- `fugu_power_init`: the pulse from `BOOST_DURATION_SYSFS`, or 20 ms. -/
def fuguPowerInit (boostpulseDuration : Option (List UInt8)) (now : Timespec) :
    IntelPowerModule where
  pulseDuration := UInt32.ofInt
    (atoi ((sysfsRead boostpulseDuration 32).getD [50, 48, 48, 48, 48]))
  lastBoostTime := now

inductive PowerHint where
  | vsync
  | interaction
  | other
  deriving DecidableEq, Repr

/-- `1` to `BOOST_PULSE_SYSFS`. -/
def boostPulse : SysfsWrite := ⟨"/sys/devices/system/cpu/cpufreq/interactive/boostpulse", "1"⟩

/-- `fugu_power_hint`; only a hint for an interaction reads the clock. -/
def fuguPowerHint (hint : PowerHint) (currTime : Timespec) (m : IntelPowerModule) :
    IntelPowerModule × List SysfsWrite :=
  match hint with
  | .interaction =>
      let diffTime := timespecSub currTime m.lastBoostTime
      let diff := timespecToUs diffTime
      if m.pulseDuration.toUInt64 < diff then ({ m with lastBoostTime := currTime }, [boostPulse])
      else (m, [])
  | .vsync => (m, [])
  | .other => (m, [])

/-! ### The microseconds -/

section

variable {n : Int} {a b : Timespec}

theorem toInt_of_bounds (hlow : -2147483648 ≤ n) (hhigh : n < 2147483648) :
    n.bmod 4294967296 = n := Int.bmod_eq_of_le (by omega) (by omega)

/-- A truncated division by 1000. -/
theorem tdiv_bounds (n : Int) : (0 ≤ n → 1000 * n.tdiv 1000 ≤ n ∧ n < 1000 * n.tdiv 1000 + 1000) ∧
    (n ≤ 0 → 1000 * n.tdiv 1000 - 1000 < n ∧ n ≤ 1000 * n.tdiv 1000) := by
  have hsum := Int.mul_tdiv_add_tmod n 1000
  constructor
  · intro h
    have hlow := Int.tmod_nonneg 1000 h
    have hhigh := Int.tmod_lt_of_pos n (show (0 : Int) < 1000 by decide)
    omega
  · intro h
    have hlow := Int.lt_tmod_of_pos n (show (0 : Int) < 1000 by decide)
    have hhigh := Int.tmod_nonneg 1000 (show 0 ≤ -n by omega)
    rw [Int.neg_tmod] at hhigh
    omega

/-- The sign is extended to 64 bits. -/
theorem toUInt64_toNat (x : Int32) : (x.toInt64.toUInt64.toNat : Int) =
    if 0 ≤ x.toInt then x.toInt else x.toInt + 18446744073709551616 := by
  have hvalue := BitVec.toInt_eq_toNat_cond x.toInt64.toBitVec
  have hint : x.toInt64.toBitVec.toInt = x.toInt := Int32.toInt_toInt64 x
  have hnat : x.toInt64.toUInt64.toNat = x.toInt64.toBitVec.toNat := rfl
  have hlt := x.toInt64.toBitVec.isLt
  have hlow := x.le_toInt
  rw [hnat]
  rw [hint] at hvalue
  split at hvalue <;> split <;> omega

/-- **The difference** of two times in order; `timespec_sub` does not borrow from the seconds. -/
theorem timespecSub_toInt (ha : a.Valid) (hb : b.Valid) (h : b.ns ≤ a.ns) :
    (timespecSub a b).tvSec.toInt = a.tvSec.toInt - b.tvSec.toInt ∧
      (timespecSub a b).tvNsec.toInt = a.tvNsec.toInt - b.tvNsec.toInt := by
  obtain ⟨hasec, hansec, hanlt⟩ := ha
  obtain ⟨hbsec, hbnsec, hbnlt⟩ := hb
  have hlt := a.tvSec.toInt_lt
  unfold Timespec.ns at h
  have hle : b.tvSec.toInt ≤ a.tvSec.toInt := by omega
  unfold timespecSub
  rw [if_pos (Int32.le_iff_toInt_le.mpr hle)]
  dsimp only
  rw [Int32.toInt_sub, Int32.toInt_sub]
  exact ⟨toInt_of_bounds (by omega) (by omega), toInt_of_bounds (by omega) (by omega)⟩

/-- **The microseconds** are taken modulo `2 ^ 32`, and get the sign of a `long`. -/
theorem timespecToUs_timespecSub (ha : a.Valid) (hb : b.Valid) (h : b.ns ≤ a.ns) :
    ((timespecToUs (timespecSub a b)).toNat : Int) =
      if 0 ≤ (a.usSince b).bmod 4294967296 then (a.usSince b).bmod 4294967296
      else (a.usSince b).bmod 4294967296 + 18446744073709551616 := by
  obtain ⟨hsec, hnsec⟩ := timespecSub_toInt ha hb h
  have hmillion : (1000000 : Int32).toInt = 1000000 := rfl
  have hthousand : (1000 : Int32).toInt = 1000 := rfl
  unfold timespecToUs
  rw [toUInt64_toNat, Int32.toInt_add, Int32.toInt_mul, Int32.toInt_div, hsec, hnsec, hmillion,
    hthousand, Int.bmod_add_bmod, Int.add_bmod_bmod]
  rfl

/-- The microseconds of two times in order, to within one of them. -/
theorem usSince_bounds (ha : a.Valid) (hb : b.Valid) (h : b.ns ≤ a.ns) :
    0 ≤ a.usSince b ∧ 1000 * a.usSince b < a.ns - b.ns + 1000 ∧
      a.ns - b.ns < 1000 * a.usSince b + 1000 := by
  obtain ⟨hasec, hansec, hanlt⟩ := ha
  obtain ⟨hbsec, hbnsec, hbnlt⟩ := hb
  obtain ⟨hpos, hneg⟩ := tdiv_bounds (a.tvNsec.toInt - b.tvNsec.toInt)
  unfold Timespec.ns at h ⊢
  unfold Timespec.usSince
  rcases Int.le_total 0 (a.tvNsec.toInt - b.tvNsec.toInt) with hsign | hsign
  · obtain ⟨hlow, hhigh⟩ := hpos hsign
    omega
  · obtain ⟨hlow, hhigh⟩ := hneg hsign
    omega

end

/-! ### One hint -/

/-- A hint for an interaction: the pulse in microseconds, the exact time since the last boost in
nanoseconds, and what the hint writes. -/
structure Decision where
  pulse : ℕ
  elapsed : Int
  writes : List SysfsWrite

/-- The hint boosts exactly if the pulse is over, to within a microsecond. -/
def Decision.Right (d : Decision) : Prop :=
  (boostPulse ∈ d.writes → 1000 * d.pulse < d.elapsed) ∧
    (1000 * (d.pulse + 1) ≤ d.elapsed → boostPulse ∈ d.writes)

theorem right_mk_iff {pulse : ℕ} {elapsed : Int} {writes : List SysfsWrite} :
    (Decision.mk pulse elapsed writes).Right ↔
      (boostPulse ∈ writes → 1000 * pulse < elapsed) ∧
        (1000 * (pulse + 1) ≤ elapsed → boostPulse ∈ writes) := Iff.rfl

/-- The 32 bits get the pause right: it is not a pause of `2 ^ 31` microseconds or more within a
longer pulse, nor one after the pulse whose microseconds, modulo `2 ^ 32`, are within the pulse and
below `2 ^ 31`. -/
def IntelPowerModule.InRange (m : IntelPowerModule) (now : Timespec) : Prop :=
  ¬(2147483648 ≤ now.usSince m.lastBoostTime ∧
      now.ns - m.lastBoostTime.ns ≤ 1000 * m.pulseDuration.toNat) ∧
    ¬(now.usSince m.lastBoostTime % 4294967296 < 2147483648 ∧
      now.usSince m.lastBoostTime % 4294967296 ≤ m.pulseDuration.toNat ∧
      1000 * (m.pulseDuration.toNat + 1) ≤ now.ns - m.lastBoostTime.ns)

section

variable {m : IntelPowerModule} {now : Timespec}

/-- **When a hint boosts.** -/
theorem pulse_lt_iff (hnow : now.Valid) (hlast : m.lastBoostTime.Valid)
    (h : m.lastBoostTime.ns ≤ now.ns) :
    m.pulseDuration.toUInt64 < timespecToUs (timespecSub now m.lastBoostTime) ↔
      2147483648 ≤ now.usSince m.lastBoostTime % 4294967296 ∨
        (m.pulseDuration.toNat : Int) < now.usSince m.lastBoostTime % 4294967296 := by
  have hus := timespecToUs_timespecSub hnow hlast h
  have hpulse := m.pulseDuration.toNat_lt
  have hlow := Int.emod_nonneg (now.usSince m.lastBoostTime) (show (4294967296 : Int) ≠ 0 by decide)
  have hhigh := Int.emod_lt_of_pos (now.usSince m.lastBoostTime)
    (show (0 : Int) < 4294967296 by decide)
  have hmod : (now.usSince m.lastBoostTime).bmod 4294967296 =
      if now.usSince m.lastBoostTime % 4294967296 < 2147483648 then
        now.usSince m.lastBoostTime % 4294967296
      else now.usSince m.lastBoostTime % 4294967296 - 4294967296 := Int.bmod_def _ _
  rw [hmod] at hus
  rw [UInt64.lt_iff_toNat_lt, UInt32.toNat_toUInt64, ← Int.ofNat_lt, hus]
  generalize now.usSince m.lastBoostTime % 4294967296 = w at hlow hhigh ⊢
  by_cases hw : w < 2147483648
  · rw [if_pos hw, if_pos hlow]
    omega
  · rw [if_neg hw, if_neg (by omega)]
    omega

theorem boosts_iff (hnow : now.Valid) (hlast : m.lastBoostTime.Valid)
    (h : m.lastBoostTime.ns ≤ now.ns) :
    boostPulse ∈ (fuguPowerHint .interaction now m).2 ↔
      2147483648 ≤ now.usSince m.lastBoostTime % 4294967296 ∨
        (m.pulseDuration.toNat : Int) < now.usSince m.lastBoostTime % 4294967296 := by
  rw [← pulse_lt_iff hnow hlast h]
  unfold fuguPowerHint
  dsimp only
  split
  · rename_i hlt
    exact iff_of_true (List.mem_singleton_self boostPulse) hlt
  · rename_i hlt
    exact iff_of_false List.not_mem_nil hlt

/-- **A hint is right** exactly if the 32 bits get the pause right. -/
theorem right_iff (hnow : now.Valid) (hlast : m.lastBoostTime.Valid)
    (h : m.lastBoostTime.ns ≤ now.ns) :
    (Decision.mk m.pulseDuration.toNat (now.ns - m.lastBoostTime.ns)
      (fuguPowerHint .interaction now m).2).Right ↔ m.InRange now := by
  obtain ⟨hnonneg, hlow, hhigh⟩ := usSince_bounds hnow hlast h
  have hpulse := m.pulseDuration.toNat_lt
  unfold IntelPowerModule.InRange
  rw [right_mk_iff, boosts_iff hnow hlast h]
  generalize now.usSince m.lastBoostTime = us at hnonneg hlow hhigh ⊢
  generalize now.ns - m.lastBoostTime.ns = elapsed at hlow hhigh ⊢
  constructor
  · rintro ⟨hboost, hover⟩
    refine ⟨fun ⟨hlong, hwithin⟩ => ?_, fun ⟨hsign, hle, hafter⟩ => ?_⟩
    · have hsame : us % 4294967296 = us := Int.emod_eq_of_lt hnonneg (by omega)
      have habove := hboost (Or.inl (by omega))
      omega
    · rcases hover hafter with hboosts | hboosts
      · omega
      · omega
  · rintro ⟨hlong, hlate⟩
    refine ⟨fun hboost => ?_, fun hafter => ?_⟩
    · by_contra hwithin
      have hsame : us % 4294967296 = us := Int.emod_eq_of_lt hnonneg (by omega)
      rw [hsame] at hboost
      rcases hboost with hsign | hpast
      · exact hlong ⟨hsign, by omega⟩
      · omega
    · by_contra hno
      exact hlate ⟨by omega, by omega, hafter⟩

/-- **A pause of less than `2 ^ 31` microseconds**, some 35 minutes, is always right. -/
theorem inRange_of_short (hnow : now.Valid) (hlast : m.lastBoostTime.Valid)
    (h : m.lastBoostTime.ns ≤ now.ns) (hshort : now.usSince m.lastBoostTime < 2147483648) :
    m.InRange now := by
  obtain ⟨hnonneg, -, hhigh⟩ := usSince_bounds hnow hlast h
  have hsame : now.usSince m.lastBoostTime % 4294967296 = now.usSince m.lastBoostTime :=
    Int.emod_eq_of_lt hnonneg (by omega)
  unfold IntelPowerModule.InRange
  rw [hsame]
  refine ⟨fun hlong => ?_, fun hlate => ?_⟩
  · omega
  · omega

end

/-! ### Runs -/

/-- The module; the last time that was taken; when it was initialized and has boosted, in
nanoseconds and the latest first; and the hints for an interaction so far. -/
structure PowerState where
  module : IntelPowerModule
  clock : Timespec
  boosts : List Int
  decisions : List Decision

structure PowerAction where
  hint : PowerHint
  now : Timespec

namespace PowerState

/-- The clock does not run backwards. -/
def step (s : PowerState) (a : PowerAction) : Option PowerState :=
  if a.now.Valid ∧ s.clock.ns ≤ a.now.ns then
    let r := fuguPowerHint a.hint a.now s.module
    some {
      module := r.1
      clock := a.now
      boosts := if boostPulse ∈ r.2 then a.now.ns :: s.boosts else s.boosts
      decisions :=
        if a.hint = .interaction then
          s.decisions ++ [⟨s.module.pulseDuration.toNat, a.now.ns - s.boosts.headD 0, r.2⟩]
        else s.decisions }
  else none

/-- The 32 bits get the pause before a hint for an interaction right. -/
def InRange (s : PowerState) (a : PowerAction) : Prop :=
  a.hint = .interaction → s.module.InRange a.now

end PowerState

/-- The module after `fugu_power_init`. -/
def powerSystem (m : IntelPowerModule) : Runs.System PowerState PowerAction :=
  ⟨⟨m, m.lastBoostTime, [m.lastBoostTime.ns], []⟩, PowerState.step⟩

/-- What every run keeps. -/
structure Tracks (pulse : UInt32) (s : PowerState) : Prop where
  pulse : s.module.pulseDuration = pulse
  valid : s.module.lastBoostTime.Valid
  last : s.boosts.head? = some s.module.lastBoostTime.ns
  clock : s.module.lastBoostTime.ns ≤ s.clock.ns

section

variable {pulse : UInt32} {s t : PowerState} {a : PowerAction}

/-- A hint boosts, and remembers when, or does nothing. -/
theorem fuguPowerHint_cases (hint : PowerHint) (now : Timespec) (m : IntelPowerModule) :
    fuguPowerHint hint now m = ({ m with lastBoostTime := now }, [boostPulse]) ∧
        hint = .interaction ∨
      fuguPowerHint hint now m = (m, []) := by
  cases hint with
  | vsync => exact Or.inr rfl
  | other => exact Or.inr rfl
  | interaction =>
    unfold fuguPowerHint
    dsimp only
    split
    · exact Or.inl ⟨rfl, rfl⟩
    · exact Or.inr rfl

/-- **A step** of the record. -/
theorem tracks_step (h : Tracks pulse s) (hst : s.step a = some t) : Tracks pulse t := by
  unfold PowerState.step at hst
  split at hst
  · rename_i hclock
    obtain rfl := Option.some.inj hst
    rcases fuguPowerHint_cases a.hint a.now s.module with ⟨hboost, -⟩ | hnothing
    · rw [hboost]
      refine ⟨h.pulse, hclock.1, ?_, Int.le_refl _⟩
      rw [if_pos (List.mem_singleton_self boostPulse)]
      rfl
    · rw [hnothing]
      refine ⟨h.pulse, h.valid, ?_, Int.le_trans h.clock hclock.2⟩
      rw [if_neg List.not_mem_nil]
      exact h.last
  · exact absurd hst.symm (Option.some_ne_none t)

/-- **What a step decides** is right exactly if the 32 bits get the pause right. -/
theorem step_right_iff (h : Tracks pulse s) (hst : s.step a = some t) :
    ∃ new, t.decisions = s.decisions ++ new ∧ ((∀ d ∈ new, d.Right) ↔ s.InRange a) := by
  unfold PowerState.step at hst
  split at hst
  · rename_i hclock
    obtain rfl := Option.some.inj hst
    dsimp only
    by_cases hhint : a.hint = .interaction
    · have helapsed : s.boosts.headD 0 = s.module.lastBoostTime.ns := by
        rw [List.headD_eq_head?_getD, h.last, Option.getD_some]
      rw [if_pos hhint, helapsed, hhint]
      refine ⟨_, rfl, ?_⟩
      rw [List.forall_mem_singleton, right_iff hclock.1 h.valid (Int.le_trans h.clock hclock.2)]
      exact ⟨fun hrange _ => hrange, fun hrange => hrange hhint⟩
    · rw [if_neg hhint]
      refine ⟨[], (List.append_nil _).symm, ?_⟩
      exact iff_of_true (fun d hd => absurd hd List.not_mem_nil) fun heq => absurd heq hhint
  · exact absurd hst.symm (Option.some_ne_none t)

/-- Two boosts are more than a pulse apart. -/
def Apart (pulse : UInt32) (boosts : List Int) : Prop :=
  boosts.Pairwise fun (later earlier : Int) => 1000 * pulse.toNat < later - earlier

/-- **A boost** that is right is more than a pulse after all others. -/
theorem apart_step (h : Tracks pulse s) (happart : Apart pulse s.boosts) (hrange : s.InRange a)
    (hst : s.step a = some t) : Apart pulse t.boosts := by
  unfold PowerState.step at hst
  split at hst
  · rename_i hclock
    obtain rfl := Option.some.inj hst
    rcases fuguPowerHint_cases a.hint a.now s.module with ⟨hboost, hhint⟩ | hnothing
    · have hright := (right_iff hclock.1 h.valid (Int.le_trans h.clock hclock.2)).mpr (hrange hhint)
      have hmem : boostPulse ∈ (fuguPowerHint a.hint a.now s.module).2 := by
        rw [hboost]
        exact List.mem_singleton_self boostPulse
      have hpulse := (right_mk_iff.mp hright).1 (hhint ▸ hmem)
      rw [h.pulse] at hpulse
      dsimp only
      rw [if_pos hmem]
      refine List.pairwise_cons.mpr ⟨fun earlier hearlier => ?_, happart⟩
      obtain ⟨older, hboosts⟩ := List.head?_eq_some_iff.mp h.last
      rw [hboosts] at hearlier
      rcases List.mem_cons.mp hearlier with rfl | holder
      · exact hpulse
      · unfold Apart at happart
        rw [hboosts] at happart
        have hbefore := (List.pairwise_cons.mp happart).1 earlier holder
        omega
    · dsimp only
      rw [hnothing, if_neg List.not_mem_nil]
      exact happart
  · exact absurd hst.symm (Option.some_ne_none t)

end

/-- **The boosts are limited** in every run whose pauses the 32 bits get right: every hint boosts
exactly if the pulse is over, and boosts are more than a pulse apart; after such a run, one more
hint is right exactly if they get its pause right. -/
theorem boosts_limited {m : IntelPowerModule} (hstart : m.lastBoostTime.Valid) {s : PowerState}
    (h : Runs.Reaches (powerSystem m) PowerState.InRange s) :
    (∀ d ∈ s.decisions, d.Right) ∧ Apart m.pulseDuration s.boosts ∧ ∀ a t, s.step a = some t →
      ((∀ d ∈ t.decisions, d.Right) ↔ s.InRange a) := by
  have hinv : Tracks m.pulseDuration s ∧ (∀ d ∈ s.decisions, d.Right) ∧
      Apart m.pulseDuration s.boosts := by
    refine h.invariant (I := fun s => Tracks m.pulseDuration s ∧ (∀ d ∈ s.decisions, d.Right) ∧
      Apart m.pulseDuration s.boosts) ⟨?_, ?_, ?_⟩ ?_
    · exact ⟨rfl, hstart, rfl, Int.le_refl _⟩
    · exact fun d hd => absurd hd List.not_mem_nil
    · exact List.pairwise_singleton _ _
    · rintro s t a ⟨htracks, hright, happart⟩ hrange hst
      obtain ⟨new, hnew, hiff⟩ := step_right_iff htracks hst
      refine ⟨tracks_step htracks hst, ?_, apart_step htracks happart hrange hst⟩
      rw [hnew]
      exact List.forall_mem_append.mpr ⟨hright, hiff.mpr hrange⟩
  obtain ⟨htracks, hright, happart⟩ := hinv
  refine ⟨hright, happart, fun a t hst => ?_⟩
  obtain ⟨new, hnew, hiff⟩ := step_right_iff htracks hst
  rw [hnew, List.forall_mem_append]
  exact (and_iff_right hright).trans hiff

/-! ### Two runs -/

instance (m : IntelPowerModule) : DecidablePred m.InRange := fun _ =>
  inferInstanceAs (Decidable (¬(_ ∧ _) ∧ ¬(_ ∧ _ ∧ _)))

instance (s : PowerState) : DecidablePred s.InRange := fun a =>
  inferInstanceAs (Decidable (a.hint = .interaction → s.module.InRange a.now))

/-- Ten seconds after the start of the clock, with a pulse of 20 ms. -/
def startedModule : IntelPowerModule := fuguPowerInit none ⟨10, 0⟩

/-- Hints after 15 ms and after 30 ms. -/
theorem boosts_limited_of_two : ∃ s : PowerState,
    s.boosts = [10030000000, 10000000000] ∧ s.decisions.map Decision.writes = [[], [boostPulse]] ∧
      ∀ d ∈ s.decisions, d.Right := by
  have hrun : (Runs.exec (powerSystem startedModule) PowerState.InRange
      (powerSystem startedModule).init [⟨.interaction, ⟨10, 15000000⟩⟩,
        ⟨.interaction, ⟨10, 30000000⟩⟩]).map (fun s => (s.boosts, s.decisions.map Decision.writes))
      = some ([10030000000, 10000000000], [[], [boostPulse]]) := by decide +kernel
  obtain ⟨s, hs, hvalue⟩ := Option.map_eq_some_iff.mp hrun
  obtain ⟨hboosts, hwrites⟩ := Prod.mk.inj hvalue
  exact ⟨s, hboosts, hwrites,
    (boosts_limited (m := startedModule) (by decide) (Runs.reaches_of_exec hs)).1⟩

/-- A hint after `2 ^ 32` microseconds does not boost. -/
theorem long_pause_is_missed : ¬∀ (m : IntelPowerModule) (s : PowerState),
    m.lastBoostTime.Valid → Runs.Reachable (powerSystem m) s → ∀ d ∈ s.decisions, d.Right := by
  intro h
  have hrun : (Runs.exec (powerSystem startedModule) (fun _ _ => True)
      (powerSystem startedModule).init [⟨.interaction, ⟨4304, 967296000⟩⟩]).map
        (fun s => s.decisions.map fun d => (d.pulse, d.elapsed, d.writes))
      = some [(20000, 4294967296000, [])] := by decide +kernel
  obtain ⟨s, hs, hvalue⟩ := Option.map_eq_some_iff.mp hrun
  obtain ⟨d, hd, hdecision⟩ := List.map_eq_singleton_iff.mp hvalue
  obtain ⟨hpulse, hrest⟩ := Prod.mk.inj hdecision
  obtain ⟨helapsed, hwrites⟩ := Prod.mk.inj hrest
  have hright := h startedModule s (by decide) (Runs.reaches_of_exec hs) d
    (hd ▸ List.mem_singleton_self d)
  have hover := hright.2
  rw [hpulse, helapsed, hwrites] at hover
  exact absurd (hover (by decide)) List.not_mem_nil

end CtpCommon.Power
