import Mathlib.Logic.Function.Basic
import Mathlib.Data.List.Basic

/-!
# Accesses to allocated blocks

A program allocates blocks, reads them and frees them.  A block that is freed is not used again:
where an allocator gives its address out once more, that is another block.

* `Access`, `after`, `freed` — an access, what is allocated after some, and what they free;
* `Sound` — every access is to a block that is allocated then;
* `sound_append` — **PROVED**: accesses one after another are sound if both parts are;
* `after_eq` — **PROVED**: without an allocation, what is not freed stays as it was.

Nothing here is specific to a program.
-/

namespace CtpCommon.Memory

variable {β : Type}

inductive Access (β : Type) where
  | alloc (x : β)
  | read (x : β)
  | free (x : β)
  deriving DecidableEq, Repr

namespace Access

/-- The block that is freed. -/
def freed : Access β → Option β
  | free x => some x
  | _ => none

def isAlloc : Access β → Bool
  | alloc _ => true
  | _ => false

/-- The block is allocated. -/
def Sound (allocated : β → Bool) : Access β → Prop
  | alloc _ => True
  | read x => allocated x = true
  | free x => allocated x = true

end Access

def freed (l : List (Access β)) : List β := l.filterMap Access.freed

theorem freed_append {l l' : List (Access β)} : freed (l ++ l') = freed l ++ freed l' :=
  List.filterMap_append

section

variable [DecidableEq β]

/-- What is allocated after an access. -/
def Access.after (allocated : β → Bool) : Access β → β → Bool
  | alloc x => Function.update allocated x true
  | read _ => allocated
  | free x => Function.update allocated x false

/-- What is allocated after some accesses. -/
def after (allocated : β → Bool) (l : List (Access β)) : β → Bool := l.foldl Access.after allocated

/-- Nothing is read or freed that is not allocated. -/
def Sound (allocated : β → Bool) : List (Access β) → Prop
  | [] => True
  | a :: l => a.Sound allocated ∧ Sound (a.after allocated) l

variable {allocated : β → Bool} {l l' : List (Access β)}

/-- An allocation keeps what is allocated. -/
theorem alloc_of_allocated {x : β} (y : β) (h : allocated x = true) :
    (Access.alloc y).after allocated x = true := by
  show Function.update allocated y true x = true
  by_cases hx : x = y
  · rw [hx, Function.update_self]
  · rw [Function.update_of_ne hx, h]

/-- **One after another.** -/
theorem sound_append : Sound allocated (l ++ l') ↔
    Sound allocated l ∧ Sound (after allocated l) l' := by
  induction l generalizing allocated with
  | nil => exact ⟨fun h => ⟨trivial, h⟩, fun h => h.2⟩
  | cons a l ih => exact (and_congr_right fun _ => ih).trans and_assoc.symm

theorem after_append : after allocated (l ++ l') = after (after allocated l) l' :=
  List.foldl_append

/-- **Without an allocation**, what is not freed stays as it was. -/
theorem after_eq (h : ∀ a ∈ l, a.isAlloc = false) (x : β) :
    after allocated l x = (allocated x && decide (x ∉ freed l)) := by
  induction l generalizing allocated with
  | nil => simp [after, freed]
  | cons a l ih =>
    obtain ⟨ha, hl⟩ := List.forall_mem_cons.mp h
    have hrest : after (a.after allocated) l x
        = (a.after allocated x && decide (x ∉ freed l)) := ih hl
    show after (a.after allocated) l x = _
    rw [hrest]
    cases a with
    | alloc y => exact absurd ha.symm Bool.false_ne_true
    | read y => rfl
    | free y =>
      by_cases hx : x = y
      · subst hx
        simp [Access.after, freed, Access.freed]
      · simp [Access.after, freed, Access.freed, hx]

end

end CtpCommon.Memory
