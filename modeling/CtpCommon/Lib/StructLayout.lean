import Mathlib.Data.List.Basic
import Mathlib.Data.List.Nodup

/-!
# Structs as bytes in memory

A C struct without gaps is its fields one after another.  A program that knows the struct reads a
field by its name; a program that knows only the offsets cuts it out of the bytes.  Both see the
same.

* `StructLayout` — the fields of a struct in order, with their widths;
* `Memory` — the contents of such a struct: bytes of the right width for every field;
* `offset`, `sizeof`, `Memory.bytes`, `load` — where a field begins, the whole struct as bytes,
  and the struct at the front of some bytes;
* `field_bytes` — **PROVED**: what lies at the offset of a field is the field;
* `load_bytes`, `bytes_load` — **PROVED**: reading a struct and writing it are inverse.

Nothing here is specific to a program.
-/

namespace CtpCommon

/-- The fields of a struct in order, and how many bytes each takes. -/
structure StructLayout (F : Type) where
  fields : List F
  width : F → ℕ
  nodup : fields.Nodup
  mem_fields : ∀ f, f ∈ fields

namespace StructLayout

variable {F : Type} (L : StructLayout F)

/-- The bytes some fields take. -/
def extent : List F → ℕ
  | [] => 0
  | f :: fs => L.width f + extent fs

def sizeof : ℕ := L.extent L.fields

/-- The contents of a struct. -/
@[ext] structure Memory where
  field : F → List UInt8
  length_field : ∀ f, (field f).length = L.width f

variable {L}

/-- The struct as its bytes. -/
def Memory.bytes (m : L.Memory) : List UInt8 := L.fields.flatMap m.field

theorem extent_cons (f : F) (fs : List F) : L.extent (f :: fs) = L.width f + L.extent fs := rfl

theorem extent_append (fs gs : List F) : L.extent (fs ++ gs) = L.extent fs + L.extent gs := by
  induction fs with
  | nil => exact (Nat.zero_add _).symm
  | cons f fs ih =>
    rw [List.cons_append, extent_cons, extent_cons, ih, Nat.add_assoc]

/-- A field splits the struct. -/
theorem fields_split (f : F) : ∃ before after, L.fields = before ++ f :: after :=
  List.append_of_mem (L.mem_fields f)

theorem Memory.length_flatMap (m : L.Memory) (fs : List F) :
    (fs.flatMap m.field).length = L.extent fs := by
  induction fs with
  | nil => rfl
  | cons f fs ih =>
    rw [List.flatMap_cons, List.length_append, m.length_field, ih, extent_cons]

theorem Memory.length_bytes (m : L.Memory) : m.bytes.length = L.sizeof := m.length_flatMap _

/-- The bytes before a field are the fields before it. -/
theorem Memory.take_bytes (m : L.Memory) {before after : List F}
    (h : L.fields = before ++ after) : m.bytes.take (L.extent before) = before.flatMap m.field := by
  unfold Memory.bytes
  rw [h, List.flatMap_append, ← m.length_flatMap before, List.take_left]

variable [DecidableEq F]

/-- An assignment to a field. -/
def Memory.store (m : L.Memory) (f : F) (bs : List UInt8) (h : bs.length = L.width f) :
    L.Memory where
  field g := if g = f then bs else m.field g
  length_field g := by
    by_cases hg : g = f
    · rw [if_pos hg, hg]
      exact h
    · rw [if_neg hg]
      exact m.length_field g

@[simp] theorem Memory.store_self (m : L.Memory) (f : F) (bs : List UInt8)
    (h : bs.length = L.width f) : (m.store f bs h).field f = bs := if_pos rfl

@[simp] theorem Memory.store_ne (m : L.Memory) {f g : F} (bs : List UInt8)
    (h : bs.length = L.width f) (hne : g ≠ f) : (m.store f bs h).field g = m.field g :=
  if_neg hne

/-- An assignment of what the field holds. -/
theorem Memory.store_same (m : L.Memory) {f : F} {bs : List UInt8} (h : bs.length = L.width f)
    (hsame : m.field f = bs) : m.store f bs h = m := by
  ext1
  funext g
  by_cases hg : g = f
  · subst hg
    rw [Memory.store_self, hsame]
  · exact m.store_ne bs h hg

/-! ### Offsets -/

variable (L) in
/-- `offsetof`. -/
def offset (f : F) : ℕ := L.extent (L.fields.takeWhile fun g => g ≠ f)

/-- The fields before a field are its offset. -/
theorem offset_eq {before after : List F} {f : F} (h : L.fields = before ++ f :: after) :
    L.offset f = L.extent before := by
  have hnotin : f ∉ before := by
    have hnodup := L.nodup
    rw [h] at hnodup
    intro hf
    exact (List.nodup_middle.mp hnodup).notMem (List.mem_append_left _ hf)
  unfold offset
  rw [h, List.takeWhile_append_of_pos, List.takeWhile_cons_of_neg, List.append_nil]
  · simp
  · intro g hg
    have hne : g ≠ f := fun heq => hnotin (heq ▸ hg)
    exact decide_eq_true hne

theorem offset_add_width_le (f : F) : L.offset f + L.width f ≤ L.sizeof := by
  obtain ⟨before, after, hsplit⟩ := L.fields_split f
  rw [offset_eq hsplit, sizeof, hsplit, extent_append, extent_cons]
  omega

/-! ### Reading -/

/-- **What lies at the offset of a field is the field**, whatever follows the struct. -/
theorem Memory.field_bytes (m : L.Memory) (f : F) (rest : List UInt8) :
    ((m.bytes ++ rest).drop (L.offset f)).take (L.width f) = m.field f := by
  obtain ⟨before, after, hsplit⟩ := L.fields_split f
  have hbytes : m.bytes ++ rest
      = before.flatMap m.field ++ (m.field f ++ (after.flatMap m.field ++ rest)) := by
    unfold Memory.bytes
    rw [hsplit, List.flatMap_append, List.flatMap_cons, List.append_assoc, List.append_assoc]
  rw [hbytes, offset_eq hsplit, ← m.length_flatMap before, List.drop_left, ← m.length_field f,
    List.take_left]

variable (L) in
/-- The struct at the front of some bytes. -/
def load (bs : List UInt8) (h : L.sizeof ≤ bs.length) : L.Memory where
  field f := (bs.drop (L.offset f)).take (L.width f)
  length_field f := by
    have hle := L.offset_add_width_le f
    rw [List.length_take, List.length_drop]
    omega

/-- The fields of a part of a struct, read at their offsets, are the bytes there. -/
theorem flatMap_read (bs : List UInt8) {before fs after : List F}
    (h : L.fields = before ++ fs ++ after) :
    (fs.flatMap fun f => (bs.drop (L.offset f)).take (L.width f))
      = (bs.drop (L.extent before)).take (L.extent fs) := by
  induction fs generalizing before with
  | nil => rfl
  | cons f fs ih =>
    have hsplit : L.fields = before ++ f :: (fs ++ after) := by
      rw [h, List.append_assoc, List.cons_append]
    have hnext : L.fields = before ++ [f] ++ fs ++ after := by
      rw [h]
      simp
    have hoffset := offset_eq hsplit
    have hrest := ih hnext
    rw [extent_append, extent_cons, show L.extent [] = 0 from rfl, Nat.add_zero] at hrest
    rw [List.flatMap_cons, hrest, hoffset, extent_cons, List.take_add, List.drop_drop]

/-- **Reading a struct and writing it** gives the bytes it was read from. -/
theorem bytes_load (bs : List UInt8) (h : L.sizeof ≤ bs.length) :
    (L.load bs h).bytes = bs.take L.sizeof := by
  have hall : L.fields = [] ++ L.fields ++ [] := (List.append_nil _).symm
  exact L.flatMap_read bs hall

/-- **Writing a struct and reading it** gives the struct. -/
theorem load_bytes (m : L.Memory) (rest : List UInt8) (h : L.sizeof ≤ (m.bytes ++ rest).length) :
    L.load (m.bytes ++ rest) h = m := by
  ext1
  funext f
  exact m.field_bytes f rest

end StructLayout

end CtpCommon
