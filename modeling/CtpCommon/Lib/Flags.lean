import Mathlib.Tactic

/-!
# Named flags in a word

A C program keeps a set of named flags in one integer and names each bit by a constant.  This file
gives the three things it does with them — test, raise and lower a flag — and how they compose.

* `FlagWord F w` — a word of `w` bits with a position for every name in `F`, no two alike;
* `bit`, `check`, `raise`, `lower` — the constant, `(v & bit) == bit`, `v | bit`, `v & ~bit`;
* `check_raise`, `check_lower` — **PROVED**: a flag that was just changed has its new value, and
  every other flag keeps its own;
* `raise_eq_self_iff`, `lower_eq_self_iff` — **PROVED**: when a change leaves the word as it is.

Nothing here is specific to a program.
-/

namespace CtpCommon

/-- Where each flag lives in a word. -/
structure FlagWord (F : Type) (w : ℕ) where
  shift : F → ℕ
  shift_lt : ∀ f, shift f < w
  shift_inj : Function.Injective shift

namespace FlagWord

variable {F : Type} {w : ℕ} (L : FlagWord F w)

/-- The constant of a flag. -/
def bit (f : F) : BitVec w := BitVec.twoPow w (L.shift f)

/-- `(v & bit) == bit`. -/
def check (v : BitVec w) (f : F) : Bool := v &&& L.bit f == L.bit f

/-- `v | bit`. -/
def raise (v : BitVec w) (f : F) : BitVec w := v ||| L.bit f

/-- `v & ~bit`. -/
def lower (v : BitVec w) (f : F) : BitVec w := v &&& ~~~L.bit f

theorem getLsbD_bit (f : F) (i : ℕ) : (L.bit f).getLsbD i = decide (L.shift f = i) := by
  unfold bit
  rw [BitVec.getLsbD_twoPow]
  simp [L.shift_lt f]

/-- A flag is one bit. -/
theorem check_eq (v : BitVec w) (f : F) : L.check v f = v.getLsbD (L.shift f) := by
  unfold check
  rw [Bool.eq_iff_iff, beq_iff_eq]
  constructor
  · intro h
    have hbit := congrArg (fun x => x.getLsbD (L.shift f)) h
    simpa [L.getLsbD_bit] using hbit
  · intro h
    apply BitVec.eq_of_getLsbD_eq
    intro i _
    rw [BitVec.getLsbD_and, L.getLsbD_bit]
    by_cases hi : L.shift f = i
    · rw [← hi, h]
      simp
    · simp [hi]

@[simp] theorem check_zero (f : F) : L.check 0 f = false := by
  rw [check_eq]
  exact BitVec.getLsbD_zero

variable [DecidableEq F]

theorem decide_shift (f g : F) : decide (L.shift f = L.shift g) = decide (g = f) := by
  rw [decide_eq_decide, L.shift_inj.eq_iff, eq_comm]

@[simp] theorem check_raise (v : BitVec w) (f g : F) :
    L.check (L.raise v f) g = (L.check v g || decide (g = f)) := by
  rw [check_eq, check_eq]
  unfold raise
  rw [BitVec.getLsbD_or, getLsbD_bit, decide_shift]

@[simp] theorem check_lower (v : BitVec w) (f g : F) :
    L.check (L.lower v f) g = (L.check v g && !decide (g = f)) := by
  rw [check_eq, check_eq]
  unfold lower
  rw [BitVec.getLsbD_and, BitVec.getLsbD_not, getLsbD_bit, decide_shift,
    decide_eq_true (L.shift_lt g), Bool.true_and]

/-- A word without a change. -/
theorem raise_eq_self_iff (v : BitVec w) (f : F) : L.raise v f = v ↔ L.check v f = true := by
  constructor
  · intro h
    rw [← h, check_raise]
    simp
  · intro h
    apply BitVec.eq_of_getLsbD_eq
    intro i _
    unfold raise
    rw [BitVec.getLsbD_or, L.getLsbD_bit]
    by_cases hi : L.shift f = i
    · rw [← hi, ← L.check_eq, h]
      simp
    · simp [hi]

theorem lower_eq_self_iff (v : BitVec w) (f : F) : L.lower v f = v ↔ L.check v f = false := by
  constructor
  · intro h
    rw [← h, check_lower]
    simp
  · intro h
    apply BitVec.eq_of_getLsbD_eq
    intro i hi
    unfold lower
    rw [BitVec.getLsbD_and, BitVec.getLsbD_not, L.getLsbD_bit]
    by_cases hf : L.shift f = i
    · rw [← hf, ← L.check_eq, h]
      simp
    · simp [hf, hi]

end FlagWord

end CtpCommon
