import CtpCommon.Lib.Runs

/-!
# A slot of one request, and a thread that waits for it

Clients put requests into a slot, each in the place of an older one, and signal a condition
variable.  A thread locks the slot, waits on the condition variable if there is no request, takes
what is there, and serves it; it does not look again after the wait.  A wait may also return without
a signal.

* `Slot`, `Slot.step` — the slot, the phase of the thread, and the history of requests and services;
* `putsSince` — the requests since the last service;
* `Slot.Tracks` — **PROVED** of every run: the slot holds the last request since the last service,
  and is empty while the thread waits;
* `Slot.Serves` — every service is that of the last request since the one before;
* `step_serves_iff` — **PROVED**: a step keeps it so unless a wait returns to an empty slot.

Nothing here is specific to a program.
-/

namespace CtpCommon

/-- Where the thread is: before the lock, in the wait, after a wait and before the lock is its own
again, or serving. -/
inductive Slot.Phase (β : Type) where
  | entering
  | waiting
  | returning
  | serving (y : β)
  deriving DecidableEq

inductive Slot.Event (α β : Type) where
  | put (x : α)
  | serve (y : β)
  deriving DecidableEq

structure Slot (α β : Type) where
  request : Option α
  phase : Slot.Phase β
  history : List (Slot.Event α β)

namespace Slot

inductive Action (α : Type) where
  | put (x : α)
  | lock
  | wakeUp
  | finish

variable {α β : Type} (f : Option α → β) (m : Slot α β)

def start : Slot α β := ⟨none, .entering, []⟩

/-- The condition variable is signalled. -/
def Phase.signal : Phase β → Phase β
  | .waiting => .returning
  | phase => phase

theorem Phase.signal_ne_waiting (phase : Phase β) : phase.signal ≠ .waiting := by
  cases phase <;> simp [Phase.signal]

/-- A request, and the signal. -/
def put (x : α) : Slot α β := ⟨some x, m.phase.signal, m.history ++ [.put x]⟩

/-- The thread takes what is in the slot; `f` is what it makes of it. -/
def take : Slot α β := ⟨none, .serving (f m.request), m.history ++ [.serve (f m.request)]⟩

def step : Action α → Option (Slot α β)
  | .put x => some (m.put x)
  | .lock =>
      match m.phase with
      | .entering => some (if m.request.isNone then { m with phase := .waiting } else m.take f)
      | .returning => some (m.take f)
      | .waiting => none
      | .serving _ => none
  | .wakeUp =>
      match m.phase with
      | .waiting => some { m with phase := .returning }
      | _ => none
  | .finish =>
      match m.phase with
      | .serving _ => some { m with phase := .entering }
      | _ => none

/-! ### What the history says -/

def Event.next (requests : List α) : Event α β → List α
  | .put x => requests ++ [x]
  | .serve _ => []

/-- The requests since the last service. -/
def putsSince (history : List (Event α β)) : List α := history.foldl Event.next []

@[simp] theorem putsSince_put (history : List (Event α β)) (x : α) :
    putsSince (history ++ [.put x]) = putsSince history ++ [x] := by
  unfold putsSince
  rw [List.foldl_append]
  rfl

@[simp] theorem putsSince_serve (history : List (Event α β)) (y : β) :
    putsSince (history ++ [.serve y]) = [] := by
  unfold putsSince
  rw [List.foldl_append]
  rfl

/-- The slot holds the last request since the last service. -/
structure Tracks : Prop where
  request : (putsSince m.history).getLast? = m.request
  waiting : m.phase = .waiting → m.request = none

/-- Every service is that of the last request since the one before. -/
def Serves : Prop :=
  ∀ before y, before ++ [.serve y] <+: m.history →
    ∃ x, (putsSince before).getLast? = some x ∧ y = f (some x)

/-- A wait returns to a request. -/
def ReturnsToRequest (m : Slot α β) (a : Action α) : Prop :=
  match a, m.phase with
  | .lock, .returning => m.request ≠ none
  | _, _ => True

section

variable {f m} {m' : Slot α β} {a : Action α}

theorem tracks_start : Tracks (start : Slot α β) := ⟨rfl, fun _ => rfl⟩

theorem tracks_put (m : Slot α β) (x : α) : Tracks (m.put x) := by
  refine ⟨?_, fun hphase => absurd hphase (Phase.signal_ne_waiting m.phase)⟩
  unfold Slot.put
  rw [putsSince_put, List.getLast?_concat]

theorem tracks_take (f : Option α → β) (m : Slot α β) : Tracks (m.take f) :=
  ⟨by unfold take; rw [putsSince_serve]; rfl, fun _ => rfl⟩

/-- **A service is added** to the history. -/
theorem serves_serve_iff {m' : Slot α β} {y : β} (h : Serves f m)
    (hhistory : m'.history = m.history ++ [.serve y]) :
    Serves f m' ↔ ∃ x, (putsSince m.history).getLast? = some x ∧ y = f (some x) := by
  constructor
  · intro hserves
    exact hserves m.history y (hhistory ▸ List.prefix_refl _)
  · intro hlast before z hprefix
    rw [hhistory, List.prefix_concat_iff] at hprefix
    rcases hprefix with heq | hold
    · obtain ⟨rfl, hz⟩ := List.append_inj' heq rfl
      obtain rfl : z = y := by simpa using hz
      exact hlast
    · exact h before z hold

/-- What is no service adds nothing to be said. -/
theorem serves_put (h : Serves f m) {x : α} (hhistory : m'.history = m.history ++ [.put x]) :
    Serves f m' := by
  intro before y hprefix
  rw [hhistory, List.prefix_concat_iff] at hprefix
  rcases hprefix with heq | hold
  · have hlast := (List.append_inj' heq rfl).2
    exact absurd hlast (by simp)
  · exact h before y hold

theorem serves_of_history (h : Serves f m) (hhistory : m'.history = m.history) : Serves f m' := by
  intro before y hprefix
  rw [hhistory] at hprefix
  exact h before y hprefix

theorem take_serves_iff (ht : Tracks m) (h : Serves f m) :
    Serves f (m.take f) ↔ m.request ≠ none := by
  rw [serves_serve_iff h rfl, ht.request]
  cases m.request with
  | none => simp
  | some x => exact iff_of_true ⟨x, rfl, rfl⟩ (Option.some_ne_none x)

/-- **One step.** -/
theorem step_serves_iff (ht : Tracks m) (h : Serves f m) (hst : m.step f a = some m') :
    Tracks m' ∧ (Serves f m' ↔ ReturnsToRequest m a) := by
  cases a with
  | put x =>
    obtain rfl := Option.some.inj hst
    exact ⟨tracks_put m x, iff_of_true (serves_put h rfl) trivial⟩
  | lock =>
    cases hphase : m.phase with
    | entering =>
      simp only [step, hphase, Option.some.injEq] at hst
      subst hst
      have htrivial : ReturnsToRequest m .lock := by
        unfold ReturnsToRequest
        rw [hphase]
        trivial
      cases hrequest : m.request with
      | none =>
        rw [if_pos Option.isNone_none]
        exact ⟨⟨ht.request.trans hrequest, fun _ => rfl⟩, iff_of_true h htrivial⟩
      | some x =>
        rw [if_neg (by simp)]
        refine ⟨tracks_take f m, iff_of_true ((take_serves_iff ht h).mpr ?_) htrivial⟩
        rw [hrequest]
        exact Option.some_ne_none x
    | returning =>
      simp only [step, hphase, Option.some.injEq] at hst
      subst hst
      refine ⟨tracks_take f m, (take_serves_iff ht h).trans ?_⟩
      unfold ReturnsToRequest
      rw [hphase]
    | waiting => simp [step, hphase] at hst
    | serving y => simp [step, hphase] at hst
  | wakeUp =>
    cases hphase : m.phase with
    | waiting =>
      simp only [step, hphase, Option.some.injEq] at hst
      subst hst
      exact ⟨⟨ht.request, fun h' => absurd h' (by simp)⟩,
        iff_of_true (serves_of_history h rfl) trivial⟩
    | entering | returning | serving => simp [step, hphase] at hst
  | finish =>
    cases hphase : m.phase with
    | serving y =>
      simp only [step, hphase, Option.some.injEq] at hst
      subst hst
      exact ⟨⟨ht.request, fun h' => absurd h' (by simp)⟩,
        iff_of_true (serves_of_history h rfl) trivial⟩
    | entering | returning | waiting => simp [step, hphase] at hst

end

end Slot

end CtpCommon
