import Mathlib.Data.List.Basic

/-!
# What an encoder does with arrays

A trace lists what an encoder writes, in order, and between the writes the entries of arrays it uses
and the elements it begins; where it writes the number of elements that are to follow, that is a
step of its own.

* `Step`, `written` — the steps, and the writes among them;
* `Respects` — every entry used is one of its array's, and every count is the number of elements
  before the next count;
* `writes`, `loop` — writes alone, and a loop over elements;
* `respects_append` — **PROVED**: steps without counts and elements may stand in front;
* `respects_counted` — **PROVED**: a counted loop respects its arrays exactly when the count is that
  of its rounds and every round uses the entries it may.
-/

namespace CtpCommon.AccessTrace

variable {ω ι : Type}

inductive Step (ω : Type) where
  | write (w : ω)
  /-- The number of the elements that are to follow. -/
  | count (w : ω) (n : Int)
  | element
  /-- An entry of an array of some length is used. -/
  | index (length i : Int)

/-- What a step writes. -/
def Step.written : Step ω → Option ω
  | .write w => some w
  | .count w _ => some w
  | _ => none

def written (steps : List (Step ω)) : List ω := steps.filterMap Step.written

/-- The entry is one of the array's. -/
def Step.InBounds : Step ω → Prop
  | .index length i => 0 ≤ i ∧ i < length
  | _ => True

/-- Neither a count nor the beginning of an element. -/
def Step.Plain : Step ω → Prop
  | .write _ => True
  | .index _ _ => True
  | _ => False

/-- The elements before the next count. -/
def elements : List (Step ω) → ℕ
  | [] => 0
  | .element :: steps => elements steps + 1
  | .count _ _ :: _ => 0
  | _ :: steps => elements steps

/-- Every count is the number of elements up to the next one. -/
def CountsRight : List (Step ω) → Prop
  | [] => True
  | .count _ n :: steps => n = elements steps ∧ CountsRight steps
  | _ :: steps => CountsRight steps

structure Respects (steps : List (Step ω)) : Prop where
  inBounds : ∀ s ∈ steps, s.InBounds
  counts : CountsRight steps

/-- Writes alone. -/
def writes (ws : List ω) : List (Step ω) := ws.map .write

/-- A loop with an element in each round. -/
def loop (l : List ι) (body : ι → List (Step ω)) : List (Step ω) :=
  l.flatMap fun i => .element :: body i

variable {steps rest : List (Step ω)} {l : List ι} {body : ι → List (Step ω)}

/-! ### Writes -/

@[simp] theorem written_nil : written ([] : List (Step ω)) = [] := rfl

@[simp] theorem written_write (w : ω) : written (.write w :: rest) = w :: written rest := rfl

@[simp] theorem written_count (w : ω) (n : Int) :
    written (.count w n :: rest) = w :: written rest := rfl

@[simp] theorem written_element : written (.element :: rest) = written rest := rfl

@[simp] theorem written_index (length i : Int) :
    written (.index length i :: rest) = written rest := rfl

@[simp] theorem written_append : written (steps ++ rest) = written steps ++ written rest :=
  List.filterMap_append

@[simp] theorem written_writes (ws : List ω) : written (writes ws) = ws := by
  induction ws with
  | nil => rfl
  | cons w ws ih => exact congrArg (w :: ·) ih

theorem written_loop : written (loop l body) = l.flatMap fun i => written (body i) := by
  induction l with
  | nil => rfl
  | cons i l ih =>
    rw [loop, List.flatMap_cons, List.cons_append, written_element, written_append,
      List.flatMap_cons]
    exact congrArg _ ih

/-! ### Steps in front -/

theorem plain_writes (ws : List ω) : ∀ s ∈ writes ws, s.Plain ∧ s.InBounds := by
  intro s hs
  obtain ⟨w, -, rfl⟩ := List.mem_map.mp hs
  exact ⟨trivial, trivial⟩

theorem elements_append (h : ∀ s ∈ steps, s.Plain) : elements (steps ++ rest) = elements rest := by
  induction steps with
  | nil => rfl
  | cons s steps ih =>
    obtain ⟨hs, hsteps⟩ := List.forall_mem_cons.mp h
    cases s with
    | write w => exact ih hsteps
    | index length i => exact ih hsteps
    | count w n => exact hs.elim
    | element => exact hs.elim

theorem countsRight_append (h : ∀ s ∈ steps, s.Plain) :
    CountsRight (steps ++ rest) ↔ CountsRight rest := by
  induction steps with
  | nil => rfl
  | cons s steps ih =>
    obtain ⟨hs, hsteps⟩ := List.forall_mem_cons.mp h
    cases s with
    | write w => exact ih hsteps
    | index length i => exact ih hsteps
    | count w n => exact hs.elim
    | element => exact hs.elim

/-- **Steps without counts and elements** may stand in front. -/
theorem respects_append (h : ∀ s ∈ steps, s.Plain) :
    Respects (steps ++ rest) ↔ (∀ s ∈ steps, s.InBounds) ∧ Respects rest := by
  constructor
  · rintro ⟨hbounds, hcounts⟩
    rw [List.forall_mem_append] at hbounds
    exact ⟨hbounds.1, hbounds.2, (countsRight_append h).mp hcounts⟩
  · rintro ⟨hsteps, hbounds, hcounts⟩
    exact ⟨List.forall_mem_append.mpr ⟨hsteps, hbounds⟩, (countsRight_append h).mpr hcounts⟩

theorem elements_writes (ws : List ω) : elements (writes ws ++ rest) = elements rest :=
  elements_append fun s hs => (plain_writes ws s hs).1

theorem respects_writes (ws : List ω) : Respects (writes ws ++ rest) ↔ Respects rest := by
  rw [respects_append fun s hs => (plain_writes ws s hs).1]
  exact and_iff_right fun s hs => (plain_writes ws s hs).2

/-! ### Loops -/

/-- A loop begins an element in each round. -/
theorem elements_loop_append (hbody : ∀ i ∈ l, ∀ s ∈ body i, s.Plain) :
    elements (loop l body ++ rest) = l.length + elements rest := by
  induction l with
  | nil => exact (Nat.zero_add _).symm
  | cons i l ih =>
    obtain ⟨hi, hl⟩ := List.forall_mem_cons.mp hbody
    rw [loop, List.flatMap_cons, List.cons_append, List.cons_append, List.append_assoc, elements,
      elements_append hi, List.length_cons]
    have hrest : elements (List.flatMap (fun i => .element :: body i) l ++ rest) = _ := ih hl
    rw [hrest]
    omega

theorem countsRight_loop_append (hbody : ∀ i ∈ l, ∀ s ∈ body i, s.Plain) :
    CountsRight (loop l body ++ rest) ↔ CountsRight rest := by
  induction l with
  | nil => rfl
  | cons i l ih =>
    obtain ⟨hi, hl⟩ := List.forall_mem_cons.mp hbody
    rw [loop, List.flatMap_cons, List.cons_append, List.cons_append, List.append_assoc]
    exact (countsRight_append hi).trans (ih hl)

theorem inBounds_loop : (∀ s ∈ loop l body, s.InBounds) ↔ ∀ i ∈ l, ∀ s ∈ body i, s.InBounds := by
  constructor
  · intro h i hi s hs
    exact h s (List.mem_flatMap.mpr ⟨i, hi, List.mem_cons_of_mem _ hs⟩)
  · intro h s hs
    obtain ⟨i, hi, hs⟩ := List.mem_flatMap.mp hs
    rcases List.mem_cons.mp hs with rfl | hs
    · trivial
    · exact h i hi s hs

/-- **A counted loop**: the count is that of its rounds, if no elements follow that are not its own,
and every round uses the entries it may. -/
theorem respects_counted (hbody : ∀ i ∈ l, ∀ s ∈ body i, s.Plain) (w : ω) (n : Int) :
    Respects (.count w n :: (loop l body ++ rest)) ↔
      n = l.length + elements rest ∧ (∀ i ∈ l, ∀ s ∈ body i, s.InBounds) ∧ Respects rest := by
  constructor
  · rintro ⟨hbounds, hn, hcounts⟩
    rw [List.forall_mem_cons, List.forall_mem_append, inBounds_loop] at hbounds
    rw [elements_loop_append hbody] at hn
    exact ⟨by exact_mod_cast hn, hbounds.2.1, hbounds.2.2,
      (countsRight_loop_append hbody).mp hcounts⟩
  · rintro ⟨hn, hloop, hbounds, hcounts⟩
    refine ⟨?_, ?_, (countsRight_loop_append hbody).mpr hcounts⟩
    · rw [List.forall_mem_cons, List.forall_mem_append, inBounds_loop]
      exact ⟨trivial, hloop, hbounds⟩
    · rw [elements_loop_append hbody]
      exact_mod_cast hn

/-- A counted loop at the end. -/
theorem respects_counted_last (hbody : ∀ i ∈ l, ∀ s ∈ body i, s.Plain) (w : ω) (n : Int) :
    Respects (.count w n :: loop l body) ↔
      n = l.length ∧ ∀ i ∈ l, ∀ s ∈ body i, s.InBounds := by
  have hcounted : Respects (.count w n :: (loop l body ++ [])) ↔ _ := respects_counted hbody w n
  have hnil : Respects ([] : List (Step ω)) := ⟨fun _ hs => absurd hs List.not_mem_nil, trivial⟩
  have hzero : ((elements ([] : List (Step ω)) : ℕ) : Int) = 0 := rfl
  rw [List.append_nil, hzero, Int.add_zero] at hcounted
  rw [hcounted]
  exact ⟨fun h => ⟨h.1, h.2.1⟩, fun h => ⟨h.1, h.2, hnil⟩⟩

/-- Every round uses its own entry of an array. -/
theorem inBounds_indexed {k length : ℕ} {ws : ℕ → List ω} :
    (∀ i ∈ List.range k, ∀ s ∈ Step.index length i :: writes (ws i), s.InBounds) ↔ k ≤ length := by
  constructor
  · intro h
    by_contra hlt
    have hentry : (Step.index (ω := ω) length length).InBounds :=
      h length (List.mem_range.mpr (by omega)) _ List.mem_cons_self
    have hbound : (length : Int) < length := hentry.2
    omega
  · intro hle i hi
    have hlt := List.mem_range.mp hi
    rw [List.forall_mem_cons]
    refine ⟨⟨?_, ?_⟩, fun s hs => (plain_writes _ s hs).2⟩
    · exact Int.natCast_nonneg i
    · show (i : Int) < length
      omega

theorem plain_indexed {k length : ℕ} {ws : ℕ → List ω} :
    ∀ i ∈ List.range k, ∀ s ∈ Step.index length i :: writes (ws i), s.Plain := by
  intro i _
  rw [List.forall_mem_cons]
  exact ⟨trivial, fun s hs => (plain_writes _ s hs).1⟩

/-- **A counted loop over the entries of an array.** -/
theorem respects_indexed {k length : ℕ} {ws : ℕ → List ω} (w : ω) (n : Int) :
    Respects (.count w n ::
        (loop (List.range k) (fun (i : ℕ) => .index length i :: writes (ws i)) ++ rest)) ↔
      n = k + elements rest ∧ k ≤ length ∧ Respects rest := by
  rw [respects_counted plain_indexed, List.length_range, inBounds_indexed]

theorem respects_indexed_last {k length : ℕ} {ws : ℕ → List ω} (w : ω) (n : Int) :
    Respects (.count w n ::
        loop (List.range k) (fun (i : ℕ) => .index length i :: writes (ws i))) ↔
      n = k ∧ k ≤ length := by
  rw [respects_counted_last plain_indexed, List.length_range, inBounds_indexed]

end CtpCommon.AccessTrace
