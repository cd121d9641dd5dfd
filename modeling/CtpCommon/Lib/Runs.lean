import Mathlib.Data.List.Basic

/-!
# Runs of labelled step functions, and the invariant rule

A system is one initial state and a partial step function on labelled actions; the label
carries every choice the environment makes, so a run is a list of actions.  This file packages
the one induction every safety proof needs:

* `Reaches M ok s` — `s` is reached by a run each of whose steps satisfies the side condition
  `ok` in the state it is taken; `Reachable M` is the case without side condition;
* `Reaches.invariant` — a predicate true at the start and kept by every admissible step is
  true of every reached state;
* `exec` — the executable form of a run, which stops at the first step that is not enabled or
  not admissible; `reaches_of_exec` turns an evaluated run into reachability.

Nothing here is specific to a program.
-/

namespace CtpCommon.Runs

/-- An initial state and a partial step function; `none` means the action is not enabled. -/
structure System (σ α : Type) where
  init : σ
  step : σ → α → Option σ

variable {σ α : Type} {M : System σ α} {ok : σ → α → Prop} {s t : σ}

/-- The states reached by runs every step of which satisfies `ok`. -/
inductive Reaches (M : System σ α) (ok : σ → α → Prop) : σ → Prop
  | init : Reaches M ok M.init
  | step {s t : σ} {a : α} : Reaches M ok s → ok s a → M.step s a = some t → Reaches M ok t

/-- The states reached by any run. -/
def Reachable (M : System σ α) : σ → Prop := Reaches M fun _ _ => True

/-- **The invariant rule.**  What holds initially and is kept by every admissible step holds in
every reached state. -/
theorem Reaches.invariant {I : σ → Prop} (h : Reaches M ok s) (h0 : I M.init)
    (hstep : ∀ {s t a}, I s → ok s a → M.step s a = some t → I t) : I s := by
  induction h with
  | init => exact h0
  | step _ hok hst ih => exact hstep ih hok hst

/-- A run under one side condition is one under a weaker. -/
theorem Reaches.mono {ok' : σ → α → Prop} (h : Reaches M ok s)
    (hok : ∀ s a, ok s a → ok' s a) : Reaches M ok' s := by
  induction h with
  | init => exact .init
  | step _ hstep hst ih => exact .step ih (hok _ _ hstep) hst

/-- One more unrestricted step. -/
theorem Reachable.next {a : α} (h : Reachable M s) (hst : M.step s a = some t) : Reachable M t :=
  Reaches.step h trivial hst

/-! ### Runs from a state -/

/-- The same steps, started from a state. -/
def System.from (M : System σ α) (s : σ) : System σ α := { M with init := s }

/-- **A run from the state after a step** is one from the state before it. -/
theorem Reaches.head {u : σ} {a : α} (hok : ok s a) (hst : M.step s a = some t)
    (h : Reaches (M.from t) ok u) : Reaches (M.from s) ok u := by
  induction h with
  | init => exact .step (.init (M := M.from s)) hok hst
  | step _ hok' hst' ih => exact .step ih hok' hst'

/-! ### Executable runs -/

/-- Run a list of actions, stopping at the first that is not enabled or violates `ok`. -/
def exec (M : System σ α) (ok : σ → α → Prop) [∀ s a, Decidable (ok s a)] :
    σ → List α → Option σ
  | s, [] => some s
  | s, a :: as => if ok s a then (M.step s a).bind fun t => exec M ok t as else none

/-- A run that evaluates continues a reached state. -/
theorem Reaches.exec [∀ s a, Decidable (ok s a)] {as : List α} (h : Reaches M ok s)
    (hrun : exec M ok s as = some t) : Reaches M ok t := by
  induction as generalizing s with
  | nil =>
    simp only [Runs.exec, Option.some.injEq] at hrun
    exact hrun ▸ h
  | cons a as ih =>
    simp only [Runs.exec] at hrun
    split at hrun
    · rename_i hok
      obtain ⟨u, hu, hrest⟩ := Option.bind_eq_some_iff.mp hrun
      exact ih (.step h hok hu) hrest
    · exact absurd hrun (by simp)

/-- **An evaluated run from the initial state is a run.** -/
theorem reaches_of_exec [∀ s a, Decidable (ok s a)] {as : List α}
    (hrun : exec M ok M.init as = some t) : Reaches M ok t :=
  Reaches.init.exec hrun

end CtpCommon.Runs
