import CtpCommon.Lib.Runs

/-!
# Methods that threads run step by step

Threads that share a state run methods on it without a lock.  A method is a program whose steps read
the state and change it; between two of its steps any other thread may take one of its own.

* `Method`, `read`, `write` — what is left of a method, and its steps;
* `Method.run` — a method alone, from where it is to its end;
* `Pool`, `Act`, `Threads` — one thread that handles what it is given, one method after the other,
  and any number of others;
* `handled`, `reported` — **PROVED**: a method can go on from its beginning to its end;
* `Alone`, `Admits` — nothing begins while a method is under way, and the handler begins as it may;
* `settled` — the state when the methods under way have run to their end;
* `settled_invariant` — **PROVED**: in runs whose methods do not overlap, what every method keeps
  when it runs alone is true of the settled state;
* `Stands.handles`, `Stands.reports` — **PROVED**: a run of whole methods, one after the other, is
  such a run.

Nothing here is specific to a program.
-/

namespace CtpCommon

/-- What is left of a method: a step changes the state, and the rest depends on what the state was
before it. -/
inductive Method (S α : Type) : Type
  | done (a : α)
  | step (write : S → S) (next : S → Method S α)

namespace Method

variable {S T K α β : Type}

def bind : Method S α → (α → Method S β) → Method S β
  | .done a, k => k a
  | .step write next, k => .step write fun s => (next s).bind k

instance : Monad (Method S) where
  pure := .done
  bind := bind

def read (f : S → α) : Method S α := .step id fun s => .done (f s)

def write (f : S → S) : Method S Unit := .step f fun _ => .done ()

/-- A method alone. -/
def run : Method S α → S → α × S
  | .done a, s => (a, s)
  | .step write next, s => (next s).run (write s)

def isDone : Method S α → Bool
  | .done _ => true
  | .step _ _ => false

/-- A method on one part of the state. -/
def onFst : Method S α → Method (S × K) α
  | .done a => .done a
  | .step write next => .step (fun s => (write s.1, s.2)) fun s => (next s.1).onFst

@[simp] theorem run_pure (a : α) (s : S) : (pure a : Method S α).run s = (a, s) := rfl

@[simp] theorem run_read (f : S → α) (s : S) : (read f).run s = (f s, s) := rfl

@[simp] theorem run_write (f : S → S) (s : S) : (write f).run s = ((), f s) := rfl

@[simp] theorem run_ite (c : Prop) [Decidable c] (p q : Method S α) (s : S) :
    (if c then p else q).run s = if c then p.run s else q.run s := by
  split <;> rfl

@[simp] theorem run_read_bind (f : S → α) (k : α → Method S β) (s : S) :
    (read f >>= k).run s = (k (f s)).run s := rfl

@[simp] theorem run_write_bind (f : S → S) (k : Unit → Method S β) (s : S) :
    (write f >>= k).run s = (k ()).run (f s) := rfl

/-- **One method after the other.** -/
theorem run_bind (p : Method S α) (k : α → Method S β) (s : S) :
    (p >>= k).run s = (k (p.run s).1).run (p.run s).2 := by
  induction p generalizing s with
  | done a => rfl
  | step write next ih => exact ih s (write s)

theorem run_onFst (p : Method S α) (s : S) (x : K) :
    (p.onFst (K := K)).run (s, x) = ((p.run s).1, ((p.run s).2, x)) := by
  induction p generalizing s with
  | done a => rfl
  | step write next ih => exact ih s (write s)

end Method

/-! ### Threads -/

/-- The state, what the handler's thread is doing, and what the others are. -/
structure Pool (S : Type) where
  state : S
  handler : Method S Unit
  others : List (Method S Unit)

/-- The handler begins with what it takes, or goes on; another method begins, or goes on; or
something else happens to the state, at once. -/
inductive Act (H E O : Type) where
  | handle (h : H)
  | handler
  | begin (e : E)
  | other (i : ℕ)
  | outside (o : O)

/-- What the threads run; `take` is how the handler takes what it is to handle. -/
structure Threads (S H E O : Type) where
  init : S
  take : H → S → Option S
  handler : H → Method S Unit
  other : E → Method S Unit
  outside : O → S → Option S

variable {S H E O : Type}

namespace Pool

/-- No method is under way. -/
def Quiet (σ : Pool S) : Prop := σ.handler.isDone = true ∧ ∀ p ∈ σ.others, p.isDone = true

/-- The state when the methods under way have run to their end, one after the other. -/
def settled (σ : Pool S) : S :=
  σ.others.foldl (fun s p => (p.run s).2) (σ.handler.run σ.state).2

/-- Nothing begins while a method is under way. -/
def Alone (σ : Pool S) : Act H E O → Prop
  | .handle _ | .begin _ | .outside _ => σ.Quiet
  | .handler | .other _ => True

/-- A condition on what the handler begins with. -/
def Admits (permits : S → H → Prop) (σ : Pool S) : Act H E O → Prop
  | .handle h => permits σ.state h
  | _ => True

/-- All of these are done, but for the one with this number. -/
def OnlyAt (l : List (Method S Unit)) (i : ℕ) : Prop :=
  ∀ j p, l[j]? = some p → j ≠ i → p.isDone = true

/-- At most one method is under way. -/
def AtMostOne (σ : Pool S) : Prop :=
  (∀ p ∈ σ.others, p.isDone = true) ∨ σ.handler.isDone = true ∧ ∃ i, OnlyAt σ.others i

end Pool

namespace Threads

def step (M : Threads S H E O) (σ : Pool S) : Act H E O → Option (Pool S)
  | .handle h =>
      if σ.handler.isDone then
        (M.take h σ.state).map fun s => { σ with state := s, handler := M.handler h }
      else none
  | .handler =>
      match σ.handler with
      | .done _ => none
      | .step write next =>
          some { σ with state := write σ.state, handler := next σ.state }
  | .begin e => some { σ with others := σ.others ++ [M.other e] }
  | .other i =>
      match σ.others[i]? with
      | some (.step write next) =>
          some { σ with state := write σ.state, others := σ.others.set i (next σ.state) }
      | _ => none
  | .outside o => (M.outside o σ.state).map fun s => { σ with state := s }

def system (M : Threads S H E O) : Runs.System (Pool S) (Act H E O) :=
  ⟨⟨M.init, .done (), []⟩, M.step⟩

end Threads

/-! ### Methods to their end -/

section

variable {M : Threads S H E O} {σ : Pool S} {ok : Pool S → Act H E O → Prop}

open Runs (Reaches)

/-- **The handler goes on** to the end of its method. -/
theorem handler_ends (h : Reaches M.system ok σ) (hok : ∀ τ : Pool S, ok τ .handler) :
    Reaches M.system ok { σ with state := (σ.handler.run σ.state).2, handler := .done () } := by
  obtain ⟨s, handler, others⟩ := σ
  induction handler generalizing s with
  | done a => exact h
  | step write next ih => exact ih s (write s) (.step h (hok _) rfl)

/-- **Another method goes on** to its end. -/
theorem other_ends (h : Reaches M.system ok σ) (hok : ∀ (τ : Pool S) i, ok τ (.other i)) {i : ℕ}
    {p : Method S Unit} (hp : σ.others[i]? = some p) :
    Reaches M.system ok
      { σ with state := (p.run σ.state).2, others := σ.others.set i (.done ()) } := by
  induction p generalizing σ with
  | done a =>
    have hsame : σ.others.set i (.done ()) = σ.others := by
      obtain ⟨hi, hget⟩ := List.getElem?_eq_some_iff.mp hp
      rw [← hget, List.set_getElem_self]
    rw [hsame]
    exact h
  | step write next ih =>
    have hi := (List.getElem?_eq_some_iff.mp hp).1
    have hstep : M.system.step σ (.other i) = some
        { σ with state := write σ.state, others := σ.others.set i (next σ.state) } := by
      show (match σ.others[i]? with
        | some (.step write next) => some _
        | _ => none) = _
      rw [hp]
    have hnext := ih σ.state (σ := { σ with
      state := write σ.state, others := σ.others.set i (next σ.state) })
      (.step h (hok _ _) hstep) (List.getElem?_set_self hi)
    rw [List.set_set] at hnext
    exact hnext

/-- **One method of the handler**, from its beginning to its end. -/
theorem handled {h : H} {s : S} (hσ : Reaches M.system ok σ) (hdone : σ.handler = .done ())
    (hok : ok σ (.handle h)) (hgo : ∀ τ : Pool S, ok τ .handler)
    (htake : M.take h σ.state = some s) :
    Reaches M.system ok { σ with state := ((M.handler h).run s).2, handler := .done () } := by
  have hstep : M.system.step σ (.handle h) = some
      { σ with state := s, handler := M.handler h } := by
    show (if σ.handler.isDone then _ else none : Option (Pool S)) = _
    rw [hdone, htake]
    rfl
  exact handler_ends (.step hσ hok hstep) hgo

/-- **One of the others**, from its beginning to its end. -/
theorem reported {e : E} (hσ : Reaches M.system ok σ) (hok : ok σ (.begin e))
    (hgo : ∀ (τ : Pool S) i, ok τ (.other i)) :
    Reaches M.system ok
      { σ with state := ((M.other e).run σ.state).2, others := σ.others ++ [.done ()] } := by
  have hbegun := Reaches.step (t := { σ with others := σ.others ++ [M.other e] }) hσ hok rfl
  have hended := other_ends hbegun hgo List.getElem?_concat_length
  rw [List.set_append_right _ _ (Nat.le_refl _), Nat.sub_self] at hended
  exact hended

end

/-! ### Runs whose methods do not overlap -/

section

variable {M : Threads S H E O} {σ τ : Pool S} {I : S → Prop} {permits : S → H → Prop}

theorem run_of_isDone {p : Method S Unit} (h : p.isDone = true) (s : S) : (p.run s).2 = s := by
  cases p with
  | done a => rfl
  | step write next => exact absurd h Bool.false_ne_true

theorem foldl_done {l : List (Method S Unit)} (h : ∀ p ∈ l, p.isDone = true) (s : S) :
    l.foldl (fun s p => (p.run s).2) s = s := by
  induction l generalizing s with
  | nil => rfl
  | cons p l ih =>
    rw [List.foldl_cons, run_of_isDone (h p List.mem_cons_self)]
    exact ih (fun q hq => h q (List.mem_cons_of_mem p hq)) s

theorem foldl_onlyAt {l : List (Method S Unit)} {i : ℕ} (h : Pool.OnlyAt l i) {p : Method S Unit}
    (hp : l[i]? = some p) (s : S) : l.foldl (fun s p => (p.run s).2) s = (p.run s).2 := by
  induction l generalizing i s with
  | nil => exact absurd hp.symm (Option.some_ne_none p)
  | cons q l ih =>
    rw [List.foldl_cons]
    cases i with
    | zero =>
      obtain rfl := Option.some.inj hp
      refine foldl_done (fun p' hp' => ?_) _
      obtain ⟨j, hj⟩ := List.mem_iff_getElem?.mp hp'
      exact h (j + 1) p' hj (Nat.succ_ne_zero j)
    | succ i =>
      rw [run_of_isDone (h 0 q rfl (Nat.succ_ne_zero i).symm)]
      exact ih (fun j p' hj hne => h (j + 1) p' hj fun heq => hne (Nat.succ.inj heq)) hp s

/-- Where only the handler has been at work. -/
theorem quiet_of_none (s : S) : (⟨s, .done (), []⟩ : Pool S).Quiet :=
  ⟨rfl, fun _ hp => absurd hp List.not_mem_nil⟩

theorem settled_of_quiet (h : σ.Quiet) : σ.settled = σ.state := by
  unfold Pool.settled
  rw [foldl_done h.2, run_of_isDone h.1]

theorem not_done_of_step {l : List (Method S Unit)} {i : ℕ} {write : S → S}
    {next : S → Method S Unit} (h : l[i]? = some (.step write next)) :
    ¬∀ p ∈ l, p.isDone = true :=
  fun hall => absurd (hall _ (List.mem_of_getElem? h)) Bool.false_ne_true

/-- **The handler goes on.** -/
theorem settled_handlerStep (hI : I σ.settled) (hone : σ.AtMostOne)
    (hstep : M.step σ .handler = some τ) : I τ.settled ∧ τ.AtMostOne := by
  obtain ⟨s, handler, others⟩ := σ
  cases handler with
  | done a => exact absurd hstep.symm (Option.some_ne_none τ)
  | step write next =>
    obtain rfl := Option.some.inj hstep
    rcases hone with hothers | ⟨hdone, -⟩
    · exact ⟨hI, Or.inl hothers⟩
    · exact absurd hdone Bool.false_ne_true

/-- **Another method goes on.** -/
theorem settled_otherStep (hI : I σ.settled) (hone : σ.AtMostOne) {i : ℕ}
    (hstep : M.step σ (.other i) = some τ) : I τ.settled ∧ τ.AtMostOne := by
  simp only [Threads.step] at hstep
  split at hstep
  · rename_i write next hmethod
    obtain rfl := Option.some.inj hstep
    rcases hone with hothers | ⟨hdone, j, honly⟩
    · exact absurd hothers (not_done_of_step hmethod)
    obtain rfl : i = j := by
      by_contra hne
      exact absurd (honly i _ hmethod hne) Bool.false_ne_true
    have honly' : Pool.OnlyAt (σ.others.set i (next σ.state)) i := by
      intro j p hj hne
      rw [List.getElem?_set_ne hne.symm] at hj
      exact honly j p hj hne
    have hset : (σ.others.set i (next σ.state))[i]? = some (next σ.state) :=
      List.getElem?_set_self (List.getElem?_eq_some_iff.mp hmethod).1
    refine ⟨?_, Or.inr ⟨hdone, i, honly'⟩⟩
    unfold Pool.settled at hI ⊢
    rw [run_of_isDone hdone, foldl_onlyAt honly hmethod] at hI
    rw [run_of_isDone hdone, foldl_onlyAt honly' hset]
    exact hI
  · exact absurd hstep.symm (Option.some_ne_none τ)

/-- No method is under way, and this is the state. -/
structure Pool.Stands (σ : Pool S) (s : S) : Prop where
  handler : σ.handler = .done ()
  others : ∀ p ∈ σ.others, p.isDone = true
  state : σ.state = s

/-- **Every step**: a method under way leaves the settled state alone, and what begins runs alone. -/
theorem settled_step
    (hhandler : ∀ h s t, I s → permits s h → M.take h s = some t → I ((M.handler h).run t).2)
    (hother : ∀ e s, I s → I ((M.other e).run s).2)
    (houtside : ∀ o s t, I s → M.outside o s = some t → I t) (hI : I σ.settled)
    (hone : σ.AtMostOne) {a : Act H E O} (halone : σ.Alone a) (hadmits : σ.Admits permits a)
    (hstep : M.step σ a = some τ) : I τ.settled ∧ τ.AtMostOne := by
  cases a with
  | handle h =>
    rw [settled_of_quiet halone] at hI
    simp only [Threads.step, Option.ite_none_right_eq_some, Option.map_eq_some_iff] at hstep
    obtain ⟨-, s, hs, rfl⟩ := hstep
    refine ⟨?_, Or.inl halone.2⟩
    show I (σ.others.foldl (fun s p => (p.run s).2) ((M.handler h).run s).2)
    rw [foldl_done halone.2]
    exact hhandler h _ _ hI hadmits hs
  | handler => exact settled_handlerStep hI hone hstep
  | begin e =>
    rw [settled_of_quiet halone] at hI
    obtain rfl := Option.some.inj hstep
    have honly : Pool.OnlyAt (σ.others ++ [M.other e]) σ.others.length := by
      intro j p hj hne
      have hlt : j < σ.others.length := by
        have hle := (List.getElem?_eq_some_iff.mp hj).1
        rw [List.length_append, List.length_singleton] at hle
        omega
      rw [List.getElem?_append_left hlt] at hj
      exact halone.2 p (List.mem_of_getElem? hj)
    refine ⟨?_, Or.inr ⟨halone.1, _, honly⟩⟩
    show I ((σ.others ++ [M.other e]).foldl (fun s p => (p.run s).2) (σ.handler.run σ.state).2)
    rw [foldl_onlyAt honly List.getElem?_concat_length, run_of_isDone halone.1]
    exact hother e _ hI
  | other i => exact settled_otherStep hI hone hstep
  | outside o =>
    rw [settled_of_quiet halone] at hI
    obtain ⟨s, hs, rfl⟩ := Option.map_eq_some_iff.mp hstep
    refine ⟨?_, Or.inl halone.2⟩
    rw [settled_of_quiet (σ := { σ with state := s }) halone]
    exact houtside o _ _ hI hs

/-- **The invariant rule** for runs whose methods do not overlap, and whose handler begins as it
may. -/
theorem settled_invariant (h : Runs.Reaches M.system (fun σ a => σ.Alone a ∧ σ.Admits permits a) σ)
    (h0 : I M.init)
    (hhandler : ∀ h s t, I s → permits s h → M.take h s = some t → I ((M.handler h).run t).2)
    (hother : ∀ e s, I s → I ((M.other e).run s).2)
    (houtside : ∀ o s t, I s → M.outside o s = some t → I t) : I σ.settled := by
  have hboth : I σ.settled ∧ σ.AtMostOne := by
    refine h.invariant (I := fun σ => I σ.settled ∧ σ.AtMostOne) ⟨h0, ?_⟩ ?_
    · exact Or.inl fun p hp => absurd hp List.not_mem_nil
    · intro σ τ a hσ hok hstep
      exact settled_step hhandler hother houtside hσ.1 hσ.2 hok.1 hok.2 hstep
  exact hboth.1

/-! ### One method after the other -/

variable {s t : S}

theorem stands_init : M.system.init.Stands M.init :=
  ⟨rfl, fun _ hp => absurd hp List.not_mem_nil, rfl⟩

theorem Pool.Stands.quiet (h : σ.Stands s) : σ.Quiet := by
  refine ⟨?_, h.others⟩
  rw [h.handler]
  rfl

/-- **The handler runs** a method alone. -/
theorem Pool.Stands.handles (h : σ.Stands s)
    (hrun : Runs.Reaches M.system (fun σ a => σ.Alone a) σ) {c : H} {u : S}
    (htake : M.take c s = some u) (hmethod : ((M.handler c).run u).2 = t) :
    ∃ τ, Runs.Reaches M.system (fun σ a => σ.Alone a) τ ∧ τ.Stands t := by
  rw [← h.state] at htake
  exact ⟨_, handled hrun h.handler h.quiet (fun _ => trivial) htake, rfl, h.others, hmethod⟩

/-- **Another method runs** alone. -/
theorem Pool.Stands.reports (h : σ.Stands s)
    (hrun : Runs.Reaches M.system (fun σ a => σ.Alone a) σ) {e : E}
    (hmethod : ((M.other e).run s).2 = t) :
    ∃ τ, Runs.Reaches M.system (fun σ a => σ.Alone a) τ ∧ τ.Stands t := by
  rw [← h.state] at hmethod
  refine ⟨_, reported hrun h.quiet fun _ _ => trivial, h.handler, fun p hp => ?_, hmethod⟩
  rcases List.mem_append.mp hp with hp | hp
  · exact h.others p hp
  · obtain rfl := List.mem_singleton.mp hp
    rfl

/-- **Something else happens.** -/
theorem Pool.Stands.happens (h : σ.Stands s)
    (hrun : Runs.Reaches M.system (fun σ a => σ.Alone a) σ) {o : O}
    (hout : M.outside o s = some t) :
    ∃ τ, Runs.Reaches M.system (fun σ a => σ.Alone a) τ ∧ τ.Stands t := by
  refine ⟨{ σ with state := t }, .step (a := .outside o) hrun h.quiet ?_, h.handler, h.others, rfl⟩
  show (M.outside o σ.state).map _ = _
  rw [h.state, hout]
  rfl

end

end CtpCommon
