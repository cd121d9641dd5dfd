import Mathlib.Data.Nat.Digits.Lemmas
import Mathlib.Tactic.IntervalCases

/-!
# Numbers as decimal text

* `decimal` — a natural number as `%lu` prints it;
* `atoi` — the C function, which reads an `int`;
* `atoi_decimal` — **PROVED**: a number that is printed is read, after blanks and before anything
  but a digit.

Nothing here is specific to a program.
-/

namespace CtpCommon.Decimal

/-- `atoi`: blanks, a sign and digits; `strtol` stops at the bounds of a `long`. -/
def atoi (s : List UInt8) : Int :=
  let s := s.dropWhile fun c => c = 32 ∨ 9 ≤ c ∧ c ≤ 13
  let digits := if s.head? = some 45 ∨ s.head? = some 43 then s.tail else s
  let value : ℕ := (digits.takeWhile fun c => 48 ≤ c ∧ c ≤ 57).foldl
    (fun n c => 10 * n + (c.toNat - 48)) 0
  if s.head? = some 45 then max (-2147483648) (-value) else min 2147483647 value

/-- A number as it is printed. -/
def decimal (n : ℕ) : List UInt8 :=
  if n = 0 then [48] else ((Nat.digits 10 n).map fun d => UInt8.ofNat (48 + d)).reverse

def isDigit (c : UInt8) : Bool := 48 ≤ c ∧ c ≤ 57

def digitValue (c : UInt8) : ℕ := c.toNat - 48

theorem isDigit_ofNat {d : ℕ} (h : d < 10) : isDigit (UInt8.ofNat (48 + d)) = true := by
  interval_cases d <;> rfl

theorem digitValue_ofNat {d : ℕ} (h : d < 10) : digitValue (UInt8.ofNat (48 + d)) = d := by
  interval_cases d <;> rfl

theorem decimal_digits {n : ℕ} {c : UInt8} (h : c ∈ decimal n) : isDigit c = true := by
  unfold decimal at h
  split at h
  · obtain rfl := List.mem_singleton.mp h
    rfl
  · obtain ⟨d, hd, rfl⟩ := List.mem_map.mp (List.mem_reverse.mp h)
    exact isDigit_ofNat (Nat.digits_lt_base (by decide) hd)

theorem decimal_ne_nil (n : ℕ) : decimal n ≠ [] := by
  unfold decimal
  split
  · exact List.cons_ne_nil _ _
  · next hn =>
    intro hnil
    exact Nat.digits_ne_nil_iff_ne_zero.mpr hn
      (List.map_eq_nil_iff.mp (List.reverse_eq_nil_iff.mp hnil))

/-- The digits, read from the first one on. -/
theorem foldl_decimal (n : ℕ) : (decimal n).foldl (fun m c => 10 * m + digitValue c) 0 = n := by
  unfold decimal
  split
  · next hn => simp [hn, digitValue]
  · rw [List.foldl_reverse, List.foldr_map]
    have hdigits : ∀ d ∈ Nat.digits 10 n, d < 10 := fun d hd => Nat.digits_lt_base (by decide) hd
    calc (Nat.digits 10 n).foldr (fun d m => 10 * m + digitValue (UInt8.ofNat (48 + d))) 0
        = Nat.ofDigits 10 (Nat.digits 10 n) := by
          generalize Nat.digits 10 n = digits at hdigits
          induction digits with
          | nil => rfl
          | cons d digits ih =>
            rw [List.foldr_cons, ih fun d' hd' => hdigits d' (List.mem_cons_of_mem _ hd'),
              Nat.ofDigits_cons, digitValue_ofNat (hdigits d List.mem_cons_self)]
            omega
      _ = n := Nat.ofDigits_digits 10 n

/-- **A number that is printed is read**, as far as an `int` goes, after blanks and before anything
but a digit. -/
theorem atoi_decimal (blanks n : ℕ) {tail : List UInt8}
    (htail : ∀ c ∈ tail.head?, isDigit c = false) :
    atoi (List.replicate blanks 32 ++ (decimal n ++ tail)) = min 2147483647 (n : Int) := by
  obtain ⟨c, digits, hcons⟩ := List.exists_cons_of_ne_nil (decimal_ne_nil n)
  have hc : isDigit c = true := decimal_digits (n := n) (hcons ▸ List.mem_cons_self)
  have hdrop : (List.replicate blanks 32 ++ (decimal n ++ tail)).dropWhile
      (fun c : UInt8 => c = 32 ∨ 9 ≤ c ∧ c ≤ 13) = decimal n ++ tail := by
    rw [List.dropWhile_append_of_pos (by simp), hcons, List.cons_append,
      List.dropWhile_cons_of_neg]
    simp only [isDigit, decide_eq_true_eq, UInt8.le_iff_toNat_le] at hc ⊢
    rw [← UInt8.toNat_inj]
    have h32 : (32 : UInt8).toNat = 32 := rfl
    have h13 : (13 : UInt8).toNat = 13 := rfl
    have h48 : (48 : UInt8).toNat = 48 := rfl
    omega
  have hhead : ∀ sign : UInt8, isDigit sign = false → (decimal n ++ tail).head? ≠ some sign := by
    intro sign hsign heq
    rw [hcons, List.cons_append, List.head?_cons] at heq
    obtain rfl := Option.some.inj heq
    exact absurd (hc.symm.trans hsign) (by decide)
  have htake : (decimal n ++ tail).takeWhile (fun c : UInt8 => 48 ≤ c ∧ c ≤ 57) = decimal n := by
    show (decimal n ++ tail).takeWhile isDigit = decimal n
    rw [List.takeWhile_append_of_pos fun c hmem => decimal_digits hmem]
    cases tail with
    | nil => simp
    | cons c tail =>
      rw [List.takeWhile_cons_of_neg, List.append_nil]
      exact Bool.eq_false_iff.mp (htail c rfl)
  unfold atoi
  simp only [hdrop]
  rw [if_neg (hhead 45 rfl), if_neg fun hsign => hsign.elim (hhead 45 rfl) (hhead 43 rfl), htake]
  exact congrArg _ (congrArg _ (foldl_decimal n))

end CtpCommon.Decimal
