import Mathlib.Data.Option.Basic
import Mathlib.Data.List.Induction

/-!
# Logs that a monitor reads

A program logs what it does, entry by entry.  A monitor is a partial step function that reads the
log and stops at an entry that must not follow what it has read.

* `Monitor.run` — where the monitor stands after a log;
* `run_append`, `run_trans`, `run_snoc`, `run_quiet`, `run_filter` — **PROVED**: how readings
  compose, and which entries can be left out;
* `own who trace` — what one caller has added to a log that several callers share;
* `Apart` — each entry is made while every other caller is at rest;
* `Apart.read` — **PROVED**: then the shared log can be read too, if each caller's own can.

Nothing here is specific to a program.
-/

namespace CtpCommon.Monitor

variable {S C : Type}

/-- Where a log leads, if it is read to its end. -/
def run (step : S → C → Option S) (s : S) : List C → Option S
  | [] => some s
  | c :: cs => (step s c).bind fun t => run step t cs

variable {step : S → C → Option S} {s t u : S} {c : C} {cs ds : List C}

@[simp] theorem run_nil : run step s [] = some s := rfl

theorem run_cons : run step s (c :: cs) = (step s c).bind fun t => run step t cs := rfl

theorem run_append : run step s (cs ++ ds) = (run step s cs).bind fun t => run step t ds := by
  induction cs generalizing s with
  | nil => rfl
  | cons c cs ih =>
    rw [List.cons_append, run_cons, run_cons, Option.bind_assoc]
    refine congrArg _ (funext fun t => ?_)
    exact ih

/-- **What is appended leads on** from where the log stands. -/
theorem run_trans (h : run step s cs = some t) (h' : run step t ds = some u) :
    run step s (cs ++ ds) = some u := by
  rw [run_append, h]
  exact h'

theorem run_snoc (h : run step s cs = some t) (h' : step t c = some u) :
    run step s (cs ++ [c]) = some u := by
  refine run_trans h ?_
  rw [run_cons, h']
  rfl

/-- Entries that the monitor does not mind. -/
theorem run_quiet (h : ∀ c ∈ cs, step s c = some s) : run step s cs = some s := by
  induction cs with
  | nil => rfl
  | cons c cs ih =>
    rw [run_cons, h c List.mem_cons_self]
    exact ih fun d hd => h d (List.mem_cons_of_mem _ hd)

/-- **Entries left out**, each of which leaves the monitor where it was. -/
theorem run_filter {p : C → Bool} (h : ∀ s t c, p c = false → step s c = some t → t = s)
    (hrun : run step s cs = some t) : run step s (cs.filter p) = some t := by
  induction cs generalizing s with
  | nil => exact hrun
  | cons c cs ih =>
    rw [run_cons] at hrun
    obtain ⟨u, hu, hrest⟩ := Option.bind_eq_some_iff.mp hrun
    cases hp : p c with
    | true =>
      rw [List.filter_cons_of_pos hp, run_cons, hu]
      exact ih hrest
    | false =>
      rw [List.filter_cons_of_neg (by rw [hp]; exact Bool.false_ne_true)]
      obtain rfl := h s u c hp hu
      exact ih hrest

theorem run_prefix (h : run step s (cs ++ ds) = some u) : ∃ t, run step s cs = some t := by
  rw [run_append] at h
  obtain ⟨t, ht, -⟩ := Option.bind_eq_some_iff.mp h
  exact ⟨t, ht⟩

/-! ### Several callers -/

section

variable {T : Type} [DecidableEq T] {rest : S} {trace : List (T × C)} {who : T}

/-- What one caller has added to a shared log. -/
def own (who : T) (trace : List (T × C)) : List C :=
  trace.filterMap fun x => if x.1 = who then some x.2 else none

@[simp] theorem own_nil : own who ([] : List (T × C)) = [] := rfl

theorem own_snoc_self (x : T × C) : own x.1 (trace ++ [x]) = own x.1 trace ++ [x.2] := by
  unfold own
  rw [List.filterMap_append]
  simp

theorem own_snoc_other {x : T × C} (h : x.1 ≠ who) :
    own who (trace ++ [x]) = own who trace := by
  unfold own
  rw [List.filterMap_append]
  simp [h]

theorem own_filter (p : C → Bool) :
    own who (trace.filter fun x => p x.2) = (own who trace).filter p := by
  induction trace with
  | nil => rfl
  | cons x trace ih =>
    unfold own at ih ⊢
    by_cases hp : p x.2 = true
    · by_cases hwho : x.1 = who
      · simp [hp, hwho, ih]
      · simp [hp, hwho, ih]
    · by_cases hwho : x.1 = who
      · simp [hp, hwho, ih]
      · simp [hp, hwho, ih]

/-- Each entry is made while every other caller is at rest. -/
inductive Apart (step : S → C → Option S) (rest : S) : List (T × C) → Prop
  | nil : Apart step rest []
  | snoc {trace : List (T × C)} {x : T × C} : Apart step rest trace →
      (∀ who, x.1 ≠ who → run step rest (own who trace) = some rest) →
      Apart step rest (trace ++ [x])

/-- One caller alone. -/
theorem Apart.alone (who : T) (h : ∀ x ∈ trace, x.1 = who) : Apart step rest trace := by
  induction trace using List.reverseRec with
  | nil => exact .nil
  | append_singleton trace x ih =>
    refine .snoc (ih fun y hy => h y (List.mem_append_left _ hy)) fun other hother => ?_
    have hnone : own other trace = [] := by
      refine List.filterMap_eq_nil_iff.mpr fun y hy => if_neg ?_
      rw [h y (List.mem_append_left _ hy), ← h x (List.mem_append_right _ List.mem_cons_self)]
      exact hother
    rw [hnone]
    rfl

/-- **Callers that keep apart**: the shared log leads where one of them stands, and every other is
at rest. -/
theorem Apart.read [Inhabited T] (h : Apart step rest trace)
    (hown : ∀ who, ∃ t, run step rest (own who trace) = some t) :
    ∃ who t, run step rest (trace.map Prod.snd) = some t ∧
      run step rest (own who trace) = some t ∧
      ∀ other, who ≠ other → run step rest (own other trace) = some rest := by
  induction h with
  | nil => exact ⟨default, rest, rfl, rfl, fun _ _ => rfl⟩
  | @snoc trace x _ hrest ih =>
    have hown' : ∀ who, ∃ t, run step rest (own who trace) = some t := by
      intro who
      obtain ⟨t, ht⟩ := hown who
      by_cases hwho : x.1 = who
      · subst hwho
        rw [own_snoc_self] at ht
        exact run_prefix ht
      · rw [own_snoc_other hwho] at ht
        exact ⟨t, ht⟩
    obtain ⟨who, t, hshared, hwho, hothers⟩ := ih hown'
    -- The one who makes the entry stands where the shared log does.
    have hturn : run step rest (own x.1 trace) = some t := by
      by_cases hx : x.1 = who
      · rw [hx]
        exact hwho
      · have ht : t = rest := Option.some.inj (hwho.symm.trans (hrest who hx))
        rw [ht]
        exact hothers x.1 (Ne.symm hx)
    obtain ⟨u, hu⟩ := hown x.1
    have hstep : step t x.2 = some u := by
      rw [own_snoc_self, run_append, hturn] at hu
      simpa [run_cons] using hu
    refine ⟨x.1, u, ?_, hu, fun other hother => ?_⟩
    · rw [List.map_append]
      exact run_snoc hshared hstep
    · rw [own_snoc_other hother]
      exact hrest other hother

end

end CtpCommon.Monitor
