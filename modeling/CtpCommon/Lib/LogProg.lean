import CtpCommon.Lib.ReadProg

/-!
# Programs that print what they read into one array

C code that logs a message piece by piece prints it with `sprintf(buf, "%s..", buf, ..)`: every
call appends to the text the array holds, and none of them knows the size of the array.

* `LogProg` — reads of a parcel, changes of the text, and what the code cannot go on without: room
  on the stack for an array, or an address that can be read;
* `LogStep`, `exec` — what is done to the array, up to where the code stops;
* `erase`, `exec_erase` — **PROVED**: without the changes of the text the program is a `ReadProg`
  with the same result, unless it stops;
* `stops` — whether it stops, which does not depend on the texts (`needed_mem_exec`);
* `Fits` — every text written fits, no empty text loses a character, and the code never stops;
  `TextsFit` asks it of the texts alone;
* `Appends` — code that appends some lines, with one rule for each construct;
  `fits_growing_iff` — **PROVED**: its texts fit iff the last one does;
* `ReadProg.Total` — reads that never jump away.
-/

namespace CtpCommon

namespace ReadProg

variable {α β : Type}

/-- The code always comes to its end. -/
def Total (x : ReadProg α) : Prop := ∀ s, ∃ r, x.exec s = some r

namespace Total

theorem done (a : α) : Total (.done a) := fun s => ⟨(a, s), rfl⟩

theorem int {k : Int → ReadProg α} (h : ∀ v, Total (k v)) : Total (.int k) := by
  intro s
  simp only [exec]
  rcases s.parcel.readInt32 with ⟨_ | v, q⟩
  · exact h s.t _
  · exact h v _

theorem fresh {k : Int → ReadProg α} (h : ∀ v, Total (k v)) : Total (.fresh k) := by
  intro s
  simp only [exec]
  rcases s.parcel.readInt32 with ⟨_ | v, q⟩
  · exact h s.t _
  · exact h v _

theorem string {k : Option (List UInt16) → ReadProg α} (h : ∀ v, Total (k v)) :
    Total (.string k) := fun _ => h _ _

theorem readMany {x : ReadProg α} (h : Total x) : ∀ n, Total (readMany n x)
  | 0 => done []
  | n + 1 => by
    intro s
    obtain ⟨⟨a, s₁⟩, hx⟩ := h s
    obtain ⟨⟨as, s₂⟩, hmany⟩ := readMany h n s₁
    refine ⟨(a :: as, s₂), ?_⟩
    show exec (x.bind fun a => (ReadProg.readMany n x).bind fun as => .done (a :: as)) s = _
    rw [exec_bind, hx, Option.bind_some, exec_bind, hmany]
    rfl

end Total

end ReadProg

/-- Code that reads a parcel and changes the text of an array. -/
inductive LogProg (α : Type) : Type 1
  | done : α → LogProg α
  | read {β : Type} : ReadProg β → (β → LogProg α) → LogProg α
  | sprintf : (List UInt8 → List UInt8) → LogProg α → LogProg α
  | removeLastChar : LogProg α → LogProg α
  | need : Bool → LogProg α → LogProg α

namespace LogProg

variable {α β : Type}

def bind : LogProg α → (α → LogProg β) → LogProg β
  | .done a, f => f a
  | .read x k, f => .read x fun b => (k b).bind f
  | .sprintf g k, f => .sprintf g (k.bind f)
  | .removeLastChar k, f => .removeLastChar (k.bind f)
  | .need b k, f => .need b (k.bind f)

instance : Monad LogProg where
  pure := .done
  bind := bind

instance : MonadLift ReadProg LogProg := ⟨fun x => .read x .done⟩

/-- `for (i = start; i < start + n; i++)`. -/
def loop (start : ℕ) : ℕ → (ℕ → LogProg α) → LogProg (List α)
  | 0, _ => .done []
  | n + 1, f => (f start).bind fun a => (loop (start + 1) n f).bind fun as => .done (a :: as)

/-! ### Without the text -/

def erase : LogProg α → ReadProg α
  | .done a => .done a
  | .read x k => x.bind fun b => (k b).erase
  | .sprintf _ k => k.erase
  | .removeLastChar k => k.erase
  | .need _ k => k.erase

theorem erase_bind (x : LogProg α) (f : α → LogProg β) :
    (x.bind f).erase = x.erase.bind fun a => (f a).erase := by
  induction x with
  | done a => rfl
  | read x k ih =>
    show x.bind (fun b => ((k b).bind f).erase) = (x.bind fun b => (k b).erase).bind _
    rw [ReadProg.bind_assoc]
    exact congrArg x.bind (funext ih)
  | sprintf g k ih => exact ih
  | removeLastChar k ih => exact ih
  | need b k ih => exact ih

/-- A loop each turn of which reads the same. -/
theorem erase_loop {f : ℕ → LogProg α} {x : ReadProg α} (h : ∀ i, (f i).erase = x) (n : ℕ) :
    ∀ start, (loop start n f).erase = ReadProg.readMany n x := by
  induction n with
  | zero => exact fun _ => rfl
  | succ n ih =>
    intro start
    show ((f start).bind _).erase = x.bind _
    rw [erase_bind, h]
    refine congrArg x.bind (funext fun a => ?_)
    rw [erase_bind, ih]
    rfl

/-! ### What is done to the array -/

inductive LogStep where
  /-- The text the array holds after a `sprintf`. -/
  | wrote (text : List UInt8)
  /-- The text whose last character is removed. -/
  | removed (text : List UInt8)
  /-- Whether what the code cannot go on without is there. -/
  | needed (there : Bool)
  deriving DecidableEq, Repr

/-- The steps, and unless the code has jumped away or stopped its value, its variables and the
text. -/
structure Logged (α : Type) where
  steps : List LogStep
  result : Option (α × ReadProg.ReadState × List UInt8)

/-- Run the code with a text in an array that is large enough. -/
def exec : LogProg α → ReadProg.ReadState → List UInt8 → Logged α
  | .done a, s, text => ⟨[], some (a, s, text)⟩
  | .read x k, s, text =>
      match x.exec s with
      | some (b, s') => exec (k b) s' text
      | none => ⟨[], none⟩
  | .sprintf f k, s, text =>
      ⟨.wrote (f text) :: (exec k s (f text)).steps, (exec k s (f text)).result⟩
  | .removeLastChar k, s, text =>
      ⟨.removed text :: (exec k s text.dropLast).steps, (exec k s text.dropLast).result⟩
  | .need true k, s, text => ⟨.needed true :: (exec k s text).steps, (exec k s text).result⟩
  | .need false _, _, _ => ⟨[.needed false], none⟩

/-- The code after some code, if that has not jumped away. -/
def Logged.andThen (r : Logged α)
    (f : α → ReadProg.ReadState → List UInt8 → Logged β) : Logged β :=
  match r.result with
  | some (a, s, text) => ⟨r.steps ++ (f a s text).steps, (f a s text).result⟩
  | none => ⟨r.steps, none⟩

theorem exec_bind (x : LogProg α) (f : α → LogProg β) (s : ReadProg.ReadState)
    (text : List UInt8) :
    (x.bind f).exec s text = (x.exec s text).andThen fun a s' text' => (f a).exec s' text' := by
  induction x generalizing s text with
  | done a => rfl
  | read x k ih =>
    simp only [bind, exec]
    rcases x.exec s with _ | ⟨b, s'⟩
    · rfl
    · exact ih b s' text
  | sprintf g k ih =>
    simp only [bind, exec, ih]
    unfold Logged.andThen
    rcases (k.exec s (g text)).result with _ | ⟨a, s', text'⟩ <;> rfl
  | removeLastChar k ih =>
    simp only [bind, exec, ih]
    unfold Logged.andThen
    rcases (k.exec s text.dropLast).result with _ | ⟨a, s', text'⟩ <;> rfl
  | need b k ih =>
    cases b with
    | false => rfl
    | true =>
      simp only [bind, exec, ih]
      unfold Logged.andThen
      rcases (k.exec s text).result with _ | ⟨a, s', text'⟩ <;> rfl

/-- **The text does not matter** for what is read, unless the code stops. -/
theorem exec_erase (x : LogProg α) (s : ReadProg.ReadState) (text : List UInt8)
    (h : .needed false ∉ (x.exec s text).steps) :
    (x.exec s text).result.map (fun r => (r.1, r.2.1)) = x.erase.exec s := by
  induction x generalizing s text with
  | done a => rfl
  | read x k ih =>
    simp only [exec, erase, ReadProg.exec_bind] at h ⊢
    rcases hx : x.exec s with _ | ⟨b, s'⟩
    · rfl
    · rw [hx] at h
      exact ih b s' text h
  | sprintf g k ih => exact ih s (g text) (List.not_mem_of_not_mem_cons h)
  | removeLastChar k ih => exact ih s text.dropLast (List.not_mem_of_not_mem_cons h)
  | need b k ih =>
    cases b with
    | false => exact absurd (List.mem_singleton.mpr rfl) h
    | true => exact ih s text (List.not_mem_of_not_mem_cons h)

/-! ### Does it stop? -/

/-- Whether the code meets something it cannot go on without. -/
def stops : LogProg α → ReadProg.ReadState → Bool
  | .done _, _ => false
  | .read x k, s =>
      match x.exec s with
      | some (b, s') => (k b).stops s'
      | none => false
  | .sprintf _ k, s => k.stops s
  | .removeLastChar k, s => k.stops s
  | .need b k, s => !b || k.stops s

theorem stops_read {x : ReadProg β} {k : β → LogProg α} {s s' : ReadProg.ReadState} {b : β}
    (hx : x.exec s = some (b, s')) : (LogProg.read x k).stops s = (k b).stops s' := by
  simp only [stops, hx]

/-- **The texts do not matter** for that. -/
theorem needed_mem_exec (x : LogProg α) (s : ReadProg.ReadState) (text : List UInt8) :
    .needed false ∈ (x.exec s text).steps ↔ x.stops s = true := by
  induction x generalizing s text with
  | done a => exact iff_of_false List.not_mem_nil (by simp [stops])
  | read x k ih =>
    simp only [exec, stops]
    rcases x.exec s with _ | ⟨b, s'⟩
    · exact iff_of_false List.not_mem_nil (by simp)
    · exact ih b s' text
  | sprintf f k ih => exact (List.mem_cons.trans (or_iff_right (by simp))).trans (ih ..)
  | removeLastChar k ih => exact (List.mem_cons.trans (or_iff_right (by simp))).trans (ih ..)
  | need b k ih =>
    cases b with
    | false => exact iff_of_true (List.mem_singleton.mpr rfl) rfl
    | true => exact (List.mem_cons.trans (or_iff_right (by simp))).trans (ih ..)

/-- Code that needs nothing. -/
def NeedsNothing : LogProg α → Prop
  | .done _ => True
  | .read _ k => ∀ b, (k b).NeedsNothing
  | .sprintf _ k => k.NeedsNothing
  | .removeLastChar k => k.NeedsNothing
  | .need _ _ => False

theorem NeedsNothing.stops {x : LogProg α} (h : x.NeedsNothing) (s : ReadProg.ReadState) :
    x.stops s = false := by
  induction x generalizing s with
  | done a => rfl
  | read x k ih =>
    simp only [LogProg.stops]
    rcases x.exec s with _ | ⟨b, s'⟩
    · rfl
    · exact ih b (h b) s'
  | sprintf f k ih => exact ih h s
  | removeLastChar k ih => exact ih h s
  | need b k ih => exact h.elim

/-! ### Does it fit? -/

/-- A text and its NUL fit an array of `size` bytes; a text that loses a character has one. -/
def LogStep.TextFits (size : ℕ) : LogStep → Prop
  | .wrote text => text.length + 1 ≤ size
  | .removed text => text ≠ []
  | .needed _ => True

instance (size : ℕ) : DecidablePred (LogStep.TextFits size)
  | .wrote text => inferInstanceAs (Decidable (text.length + 1 ≤ size))
  | .removed text => inferInstanceAs (Decidable (text ≠ []))
  | .needed _ => inferInstanceAs (Decidable True)

def TextsFit (size : ℕ) (steps : List LogStep) : Prop := ∀ step ∈ steps, step.TextFits size

instance (size : ℕ) (steps : List LogStep) : Decidable (TextsFit size steps) :=
  inferInstanceAs (Decidable (∀ step ∈ steps, step.TextFits size))

/-- The code stays inside the array, and comes to its end or jumps away. -/
def Fits (size : ℕ) (steps : List LogStep) : Prop :=
  TextsFit size steps ∧ .needed false ∉ steps

instance (size : ℕ) (steps : List LogStep) : Decidable (Fits size steps) :=
  inferInstanceAs (Decidable (_ ∧ _))

theorem textsFit_nil {size : ℕ} : TextsFit size [] := fun _ h => absurd h List.not_mem_nil

theorem textsFit_cons {size : ℕ} {step : LogStep} {steps : List LogStep} :
    TextsFit size (step :: steps) ↔ step.TextFits size ∧ TextsFit size steps :=
  List.forall_mem_cons

theorem textsFit_append {size : ℕ} {steps steps' : List LogStep} :
    TextsFit size (steps ++ steps') ↔ TextsFit size steps ∧ TextsFit size steps' :=
  List.forall_mem_append

/-- The steps that append some lines to a text, one after the other. -/
def growing (text : List UInt8) : List (List UInt8) → List LogStep
  | [] => []
  | line :: lines => .wrote (text ++ line) :: growing (text ++ line) lines

theorem growing_append (lines lines' : List (List UInt8)) : ∀ text : List UInt8,
    growing text (lines ++ lines') =
      growing text lines ++ growing (text ++ lines.flatten) lines' := by
  induction lines with
  | nil =>
    intro text
    rw [List.flatten_nil, List.append_nil]
    rfl
  | cons line lines ih =>
    intro text
    rw [List.flatten_cons, ← List.append_assoc]
    exact congrArg (List.cons _) (ih (text ++ line))

theorem needed_not_mem_growing {b : Bool} (lines : List (List UInt8)) :
    ∀ text : List UInt8, .needed b ∉ growing text lines := by
  induction lines with
  | nil => exact fun text h => absurd h List.not_mem_nil
  | cons line lines ih =>
    intro text h
    rcases List.mem_cons.mp h with h | h
    · exact LogStep.noConfusion h
    · exact ih _ h

/-- **The last text is the longest.** -/
theorem fits_growing {size : ℕ} {lines : List (List UInt8)} {text : List UInt8}
    (h : (text ++ lines.flatten).length + 1 ≤ size) : TextsFit size (growing text lines) := by
  induction lines generalizing text with
  | nil => exact textsFit_nil
  | cons line lines ih =>
    rw [List.flatten_cons, ← List.append_assoc] at h
    refine textsFit_cons.mpr ⟨?_, ih h⟩
    show (text ++ line).length + 1 ≤ size
    rw [List.length_append] at h
    omega

/-- Lines behind a text that fits fit iff the whole text does. -/
theorem fits_growing_iff {size : ℕ} {lines : List (List UInt8)} {text : List UInt8}
    (htext : text.length + 1 ≤ size) :
    TextsFit size (growing text lines) ↔ (text ++ lines.flatten).length + 1 ≤ size := by
  refine ⟨fun h => ?_, fits_growing⟩
  induction lines generalizing text with
  | nil =>
    rw [List.flatten_nil, List.append_nil]
    exact htext
  | cons line lines ih =>
    rw [List.flatten_cons, ← List.append_assoc]
    obtain ⟨hline, hlines⟩ := textsFit_cons.mp h
    exact ih hline hlines

/-! ### Code that appends lines -/

/-- Started with these variables, the code appends the lines and ends with a value. -/
def Appends (x : LogProg α) (s : ReadProg.ReadState) (lines : List (List UInt8)) (a : α)
    (s' : ReadProg.ReadState) : Prop :=
  ∀ text, x.exec s text = ⟨growing text lines, some (a, s', text ++ lines.flatten)⟩

namespace Appends

variable {s s₁ s' : ReadProg.ReadState} {lines lines' : List (List UInt8)} {a : α} {b : β}

theorem done (a : α) (s : ReadProg.ReadState) : Appends (.done a) s [] a s := by
  intro text
  rw [List.flatten_nil, List.append_nil]
  rfl

theorem line {k : LogProg α} {line : List UInt8} (h : Appends k s lines a s') :
    Appends (.sprintf (· ++ line) k) s (line :: lines) a s' := by
  intro text
  show (⟨_ :: (k.exec s (text ++ line)).steps, (k.exec s (text ++ line)).result⟩ : Logged α) = _
  rw [h (text ++ line), List.flatten_cons, ← List.append_assoc]
  rfl

theorem read {x : ReadProg β} {k : β → LogProg α} (hx : x.exec s = some (b, s₁))
    (h : Appends (k b) s₁ lines a s') : Appends (.read x k) s lines a s' := by
  intro text
  simp only [exec, hx]
  exact h text

theorem bind {x : LogProg α} {f : α → LogProg β} (hx : Appends x s lines a s₁)
    (hf : Appends (f a) s₁ lines' b s') : Appends (x.bind f) s (lines ++ lines') b s' := by
  intro text
  rw [exec_bind, hx text]
  show (⟨_ ++ ((f a).exec s₁ (text ++ lines.flatten)).steps,
    ((f a).exec s₁ (text ++ lines.flatten)).result⟩ : Logged β) = _
  rw [hf, growing_append, List.flatten_append, List.append_assoc]

/-- A loop that reads nothing. -/
theorem loop {f : ℕ → LogProg α} {lines : ℕ → List (List UInt8)} {v : ℕ → α} (n : ℕ) :
    ∀ start, (∀ i ∈ List.range' start n, Appends (f i) s (lines i) (v i) s) →
      Appends (LogProg.loop start n f) s ((List.range' start n).flatMap lines)
        ((List.range' start n).map v) s := by
  induction n with
  | zero => exact fun start _ => .done [] s
  | succ n ih =>
    intro start h
    rw [List.range'_succ, List.forall_mem_cons] at h
    have hrest := (ih (start + 1) h.2).bind
      (f := fun as => .done (v start :: as)) (.done (v start :: (List.range' (start + 1) n).map v) s)
    rw [List.append_nil] at hrest
    exact h.1.bind hrest

end Appends

/-- How long the lines of a loop that reads nothing are together. -/
theorem length_lines (lines : ℕ → List (List UInt8)) (is : List ℕ) :
    (is.flatMap lines).flatten.length = (is.map fun i => (lines i).flatten.length).sum := by
  induction is with
  | nil => rfl
  | cons i is ih =>
    rw [List.flatMap_cons, List.flatten_append, List.length_append, ih, List.map_cons,
      List.sum_cons]

/-- The lines of the values a loop has read. -/
def linesOf (line : ℕ → α → List UInt8) : ℕ → List α → List (List UInt8)
  | _, [] => []
  | start, a :: as => line start a :: linesOf line (start + 1) as

/-- How long they are together. -/
theorem length_linesOf {line : ℕ → α → List UInt8} {size : ℕ → α → ℕ}
    (h : ∀ i a, (line i a).length = size i a) (as : List α) :
    ∀ start, (linesOf line start as).flatten.length
      = ((as.zipIdx start).map fun d => size d.2 d.1).sum := by
  induction as with
  | nil => exact fun _ => rfl
  | cons a as ih =>
    intro start
    rw [linesOf, List.flatten_cons, List.length_append, h, ih, List.zipIdx_cons, List.map_cons,
      List.sum_cons]

/-- **A loop that appends a line** for everything it reads. -/
theorem appends_loop {x : ReadProg α} (line : ℕ → α → List UInt8) {n : ℕ} :
    ∀ (start : ℕ) {s s' : ReadProg.ReadState} {as : List α},
      (ReadProg.readMany n x).exec s = some (as, s') →
      Appends (loop start n fun i => .read x fun a => .sprintf (· ++ line i a) (.done a)) s
        (linesOf line start as) as s' := by
  induction n with
  | zero =>
    intro start s s' as h
    obtain ⟨rfl, rfl⟩ := Prod.mk.inj (Option.some.inj h)
    exact .done [] s
  | succ n ih =>
    intro start s s' as h
    have hread : (x.bind fun a => (ReadProg.readMany n x).bind fun as => .done (a :: as)).exec s
        = some (as, s') := h
    rw [ReadProg.exec_bind] at hread
    obtain ⟨⟨a, s₁⟩, hx, hrest⟩ := Option.bind_eq_some_iff.mp hread
    rw [ReadProg.exec_bind] at hrest
    obtain ⟨⟨as', s₂⟩, hmany, hdone⟩ := Option.bind_eq_some_iff.mp hrest
    obtain ⟨rfl, rfl⟩ := Prod.mk.inj (Option.some.inj hdone)
    have hturn : Appends (.read x fun a => .sprintf (· ++ line start a) (.done a)) s
        [line start a] a s₁ := .read hx (.line (.done a s₁))
    have hloop := (ih (start + 1) hmany).bind
      (f := fun as => .done (a :: as)) (.done (a :: as') s₂)
    rw [List.append_nil] at hloop
    exact hturn.bind hloop

end LogProg

end CtpCommon
