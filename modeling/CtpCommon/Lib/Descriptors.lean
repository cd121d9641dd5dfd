import Mathlib.Data.Finset.Basic
import Mathlib.Tactic.Tauto

/-!
# Descriptors: open, use, close

The kernel hands out small numbers, and hands a number out again once it is closed.  A log of what
a program does to its descriptors is disciplined when every number is closed and used only while
it is open:

* `table` — the numbers open after a log; `Disciplined` — the discipline;
* `Disciplined.reopened` — **PROVED**: between a close of a number and any later close or use of
  it the number was opened again, so each descriptor is closed at most once and never used after
  it is closed.

Nothing here is specific to a program; `α` says what a use was.
-/

namespace CtpCommon.Descriptors

/-- What a program does to a descriptor. -/
inductive Event (α : Type) where
  | opened (fd : ℤ)
  | used (fd : ℤ) (what : α)
  | closed (fd : ℤ)
  deriving DecidableEq, Repr

variable {α : Type} {log : List (Event α)} {fd : ℤ}

/-- The kernel's table after an event; closing a number that is not open changes nothing. -/
def step (openFds : Finset ℤ) : Event α → Finset ℤ
  | .opened fd => insert fd openFds
  | .used _ _ => openFds
  | .closed fd => openFds.erase fd

/-- The numbers open after a log. -/
def table (log : List (Event α)) : Finset ℤ := log.foldl step ∅

theorem table_concat (log : List (Event α)) (e : Event α) :
    table (log ++ [e]) = step (table log) e := by
  unfold table
  rw [List.foldl_append]
  rfl

@[simp] theorem table_opened : table (log ++ [.opened fd]) = insert fd (table log) :=
  table_concat _ _

@[simp] theorem table_used {what : α} : table (log ++ [.used fd what]) = table log :=
  table_concat _ _

@[simp] theorem table_closed : table (log ++ [.closed fd]) = (table log).erase fd :=
  table_concat _ _

/-- Is an event allowed with these numbers open? -/
def Allowed (openFds : Finset ℤ) : Event α → Prop
  | .opened fd => fd ∉ openFds
  | .used fd _ => fd ∈ openFds
  | .closed fd => fd ∈ openFds

/-- A log all of whose events were allowed. -/
inductive Disciplined : List (Event α) → Prop
  | nil : Disciplined []
  | concat {log : List (Event α)} {e : Event α} :
      Disciplined log → Allowed (table log) e → Disciplined (log ++ [e])

/-- Uses of open numbers are allowed, and leave the table alone. -/
theorem Disciplined.uses (h : Disciplined log) (events : List (Event α))
    (huse : ∀ e ∈ events, ∃ fd what, e = .used fd what ∧ fd ∈ table log) :
    Disciplined (log ++ events) ∧ table (log ++ events) = table log := by
  induction events using List.reverseRecOn with
  | nil =>
    rw [List.append_nil]
    exact ⟨h, rfl⟩
  | append_singleton events e ih =>
    obtain ⟨hdis, htable⟩ := ih fun e he => huse e (List.mem_append_left _ he)
    obtain ⟨fd, what, rfl, hfd⟩ := huse e (List.mem_append_right _ (List.mem_singleton.mpr rfl))
    rw [← List.append_assoc]
    refine ⟨.concat hdis ?_, ?_⟩
    · show fd ∈ table (log ++ events)
      rw [htable]
      exact hfd
    · rw [table_used, htable]

/-- Closed, and not opened since: not in the table. -/
theorem notMem_table_of_closed (l₁ l₂ : List (Event α)) (h : .opened fd ∉ l₂) :
    fd ∉ table (l₁ ++ .closed fd :: l₂) := by
  induction l₂ using List.reverseRecOn with
  | nil =>
    rw [table_closed]
    exact Finset.notMem_erase _ _
  | append_singleton l₂ e ih =>
    have ih' := ih fun hmem => h (List.mem_append_left _ hmem)
    rw [show l₁ ++ .closed fd :: (l₂ ++ [e]) = (l₁ ++ .closed fd :: l₂) ++ [e] by simp,
      table_concat]
    cases e with
    | opened n =>
      have hne : fd ≠ n := by
        rintro rfl
        exact h (List.mem_append_right _ (List.mem_singleton.mpr rfl))
      show fd ∉ insert n _
      rw [Finset.mem_insert]
      tauto
    | used n what => exact ih'
    | closed n => exact fun hmem => ih' (Finset.mem_of_mem_erase hmem)

/-- Every event of a disciplined log was allowed when it happened. -/
theorem Disciplined.allowed (h : Disciplined log) {l₁ l₂ : List (Event α)} {e : Event α}
    (hlog : log = l₁ ++ e :: l₂) : Allowed (table l₁) e := by
  induction h generalizing l₂ with
  | nil => exact absurd hlog (by simp)
  | @concat log e' _ hallowed ih =>
    rcases List.eq_nil_or_concat l₂ with rfl | ⟨l, b, rfl⟩
    · obtain ⟨rfl, he⟩ := List.append_inj' hlog rfl
      obtain rfl : e' = e := by simpa using he
      exact hallowed
    · rw [List.concat_eq_append, show l₁ ++ e :: (l ++ [b]) = (l₁ ++ e :: l) ++ [b] by simp]
        at hlog
      exact ih (List.append_inj' hlog rfl).1

/-- **Closed at most once, and not used afterwards**: a later close or use of the number is one of
a descriptor opened in between. -/
theorem Disciplined.reopened (h : Disciplined log) {l₁ l₂ l₃ : List (Event α)} {e : Event α}
    (hlog : log = l₁ ++ .closed fd :: l₂ ++ e :: l₃)
    (he : e = .closed fd ∨ ∃ what, e = .used fd what) : .opened fd ∈ l₂ := by
  by_contra hnot
  have hallowed := h.allowed hlog
  apply notMem_table_of_closed l₁ l₂ hnot
  rcases he with rfl | ⟨what, rfl⟩
  · exact hallowed
  · exact hallowed

end CtpCommon.Descriptors
