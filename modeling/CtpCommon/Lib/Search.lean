import Mathlib.Data.List.Basic

/-!
# One pass for the best element

A loop over a list keeps one element and lets the next one take its place when a test says so.

* `best` — the element that is kept, from a first one on; `bestOf` — from none on;
* `best_mem` — **PROVED**: it is one of the elements seen;
* `best_not_beaten` — **PROVED**: no element beats it, if one that takes its place is at least as
  hard to beat, and one that does not take its place does not beat it;
* `records` — the elements that beat every record before them;
* `records_append`, `records_eq_nil_iff` — **PROVED**: a list goes on where the best of its first
  part stands.

Nothing here is specific to a program.
-/

namespace CtpCommon.Search

variable {α : Type}

/-- The kept element, or the next one. -/
def pick (replaces : α → α → Bool) (kept next : α) : α := if replaces next kept then next else kept

/-- The element that is kept after a list. -/
def best (replaces : α → α → Bool) (kept : α) (l : List α) : α := l.foldl (pick replaces) kept

/-- At first nothing is kept. -/
def consider (replaces : α → α → Bool) : Option α → α → Option α
  | none, next => some next
  | some kept, next => some (pick replaces kept next)

def bestOf (replaces : α → α → Bool) (l : List α) : Option α := l.foldl (consider replaces) none

variable {replaces : α → α → Bool} {kept x : α} {l l' : List α}

@[simp] theorem best_nil : best replaces kept [] = kept := rfl

@[simp] theorem best_cons :
    best replaces kept (x :: l) = best replaces (pick replaces kept x) l := rfl

theorem foldl_consider (kept : α) (l : List α) :
    l.foldl (consider replaces) (some kept) = some (best replaces kept l) := by
  induction l generalizing kept with
  | nil => rfl
  | cons x l ih => exact ih (pick replaces kept x)

@[simp] theorem bestOf_nil : bestOf replaces [] = none := rfl

@[simp] theorem bestOf_cons : bestOf replaces (x :: l) = some (best replaces x l) :=
  foldl_consider x l

theorem bestOf_eq_none_iff : bestOf replaces l = none ↔ l = [] := by
  cases l with
  | nil => simp
  | cons x l => simp

/-! ### The element that is kept -/

/-- **It is one of the elements.** -/
theorem best_mem (replaces : α → α → Bool) (kept : α) (l : List α) :
    best replaces kept l ∈ kept :: l := by
  induction l generalizing kept with
  | nil => exact List.mem_singleton_self kept
  | cons x l ih =>
    rw [best_cons]
    rcases List.mem_cons.mp (ih (pick replaces kept x)) with hkept | hrest
    · rw [hkept]
      unfold pick
      split
      · exact List.mem_cons_of_mem _ List.mem_cons_self
      · exact List.mem_cons_self
    · exact List.mem_cons_of_mem _ (List.mem_cons_of_mem _ hrest)

theorem bestOf_mem (h : bestOf replaces l = some x) : x ∈ l := by
  cases l with
  | nil => exact absurd h.symm (Option.some_ne_none x)
  | cons y l =>
    rw [bestOf_cons] at h
    exact Option.some.inj h ▸ best_mem _ y l

section

variable {Beats : α → α → Prop}
  (htake : ∀ y z w, replaces y z = true → Beats w y → Beats w z)
include htake

theorem beats_of_beats_pick {w : α} (h : Beats w (pick replaces kept x)) : Beats w kept := by
  unfold pick at h
  by_cases htakes : replaces x kept = true
  · rw [if_pos htakes] at h
    exact htake _ _ _ htakes h
  · rw [if_neg htakes] at h
    exact h

/-- What beats the best has beaten all that was kept before. -/
theorem beats_of_beats_best {w : α} (h : Beats w (best replaces kept l)) : Beats w kept := by
  induction l generalizing kept with
  | nil => exact h
  | cons x l ih =>
    rw [best_cons] at h
    exact beats_of_beats_pick htake (ih h)

variable (Beats) in
/-- **Nothing beats it.** -/
theorem best_not_beaten (hirrefl : ∀ y, ¬Beats y y)
    (hstay : ∀ y z, replaces y z = false → ¬Beats y z) (kept : α) (l : List α) :
    ∀ y ∈ kept :: l, ¬Beats y (best replaces kept l) := by
  induction l generalizing kept with
  | nil =>
    intro y hy
    rw [List.mem_singleton.mp hy]
    exact hirrefl kept
  | cons x l ih =>
    intro y hy hbeats
    rcases List.mem_cons.mp hy with rfl | hy
    · exact hirrefl y (beats_of_beats_best htake hbeats)
    rcases List.mem_cons.mp hy with rfl | hy
    · rw [best_cons] at hbeats
      have hpick := beats_of_beats_best htake hbeats
      unfold pick at hpick
      by_cases htakes : replaces y kept = true
      · rw [if_pos htakes] at hpick
        exact hirrefl y hpick
      · rw [if_neg htakes] at hpick
        exact hstay _ _ (Bool.eq_false_iff.mpr htakes) hpick
    · exact ih _ y (List.mem_cons_of_mem _ hy) hbeats

variable (Beats) in
theorem bestOf_not_beaten (hirrefl : ∀ y, ¬Beats y y)
    (hstay : ∀ y z, replaces y z = false → ¬Beats y z) (h : bestOf replaces l = some x) :
    ∀ y ∈ l, ¬Beats y x := by
  cases l with
  | nil => exact absurd h.symm (Option.some_ne_none x)
  | cons y l =>
    rw [bestOf_cons] at h
    exact Option.some.inj h ▸ best_not_beaten Beats htake hirrefl hstay y l

end

/-! ### Records -/

/-- The elements that beat the best before them. -/
def records (beats : α → α → Bool) : α → List α → List α
  | _, [] => []
  | top, x :: l => if beats x top then x :: records beats x l else records beats top l

variable {beats : α → α → Bool} {top : α}

theorem records_append (top : α) (l l' : List α) : records beats top (l ++ l')
    = records beats top l ++ records beats (best beats top l) l' := by
  induction l generalizing top with
  | nil => rfl
  | cons x l ih =>
    rw [List.cons_append, records, records, best_cons]
    unfold pick
    by_cases hx : beats x top = true
    · rw [if_pos hx, if_pos hx, if_pos hx, List.cons_append, ih]
    · rw [if_neg hx, if_neg hx, if_neg hx, ih]

/-- **There is no record** exactly if nothing beats the top. -/
theorem records_eq_nil_iff : records beats top l = [] ↔ ∀ x ∈ l, beats x top = false := by
  induction l with
  | nil => simp [records]
  | cons x l ih =>
    rw [records, List.forall_mem_cons]
    by_cases hx : beats x top = true
    · rw [if_pos hx]
      simp [hx]
    · rw [if_neg hx, ih, Bool.eq_false_iff]
      exact (and_iff_right hx).symm

/-- Without a record the top stays. -/
theorem best_of_records_eq_nil (h : records beats top l = []) : best beats top l = top := by
  rw [records_eq_nil_iff] at h
  induction l with
  | nil => rfl
  | cons x l ih =>
    obtain ⟨hx, hl⟩ := List.forall_mem_cons.mp h
    rw [best_cons, pick, hx]
    exact ih hl

/-- A record is above the top, in any order that the test is about. -/
theorem best_above (Above : α → Prop) (habove : ∀ y z, beats y z = true → Above y)
    (h : records beats top l ≠ []) : Above (best beats top l) := by
  induction l generalizing top with
  | nil => exact absurd rfl h
  | cons x l ih =>
    rw [records] at h
    rw [best_cons]
    unfold pick
    by_cases hx : beats x top = true
    · rw [if_pos hx]
      by_cases hrest : records beats x l = []
      · rw [best_of_records_eq_nil hrest]
        exact habove _ _ hx
      · exact ih hrest
    · rw [if_neg hx] at h ⊢
      exact ih h

end CtpCommon.Search
