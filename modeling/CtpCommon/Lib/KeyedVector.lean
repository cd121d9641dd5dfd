import Mathlib.Order.Basic
import Mathlib.Data.List.Pairwise
import Mathlib.Tactic

/-!
# A vector of values sorted by key

A small map kept as a vector: the pairs stand in the order of their keys, no key twice, and a
program that walks the vector by index sees every pair once.

* `KeyedVector K V` — the pairs, with the proof that they are sorted;
* `lookup`, `add`, `removeItem` — `add` replaces the value of a key that is there;
* `lookup_add`, `lookup_removeItem` — **PROVED**: what a change does to the other keys;
* `mem_entries_iff` — **PROVED**: the pairs are the key's values.

Nothing here is specific to a program.
-/

namespace CtpCommon

/-- Pairs in strictly ascending order of their keys. -/
structure KeyedVector (K V : Type) [LinearOrder K] where
  entries : List (K × V)
  sorted : entries.Pairwise fun a b => a.1 < b.1

namespace KeyedVector

variable {K V : Type} [LinearOrder K]

def empty : KeyedVector K V := ⟨[], List.Pairwise.nil⟩

/-- The value of a key in some pairs. -/
def lookupIn (key : K) : List (K × V) → Option V
  | [] => none
  | (k, v) :: rest => if k = key then some v else lookupIn key rest

def lookup (m : KeyedVector K V) (key : K) : Option V := lookupIn key m.entries

/-- A pair put in its place. -/
def insertIn (key : K) (value : V) : List (K × V) → List (K × V)
  | [] => [(key, value)]
  | (k, v) :: rest =>
      if key < k then (key, value) :: (k, v) :: rest
      else if k = key then (key, value) :: rest
      else (k, v) :: insertIn key value rest

theorem mem_insertIn {key : K} {value : V} {x : K × V} {l : List (K × V)}
    (h : x ∈ insertIn key value l) : x = (key, value) ∨ x ∈ l := by
  induction l with
  | nil => exact Or.inl (List.mem_singleton.mp h)
  | cons y rest ih =>
    unfold insertIn at h
    split_ifs at h with hlt heq
    · exact List.mem_cons.mp h
    · rcases List.mem_cons.mp h with rfl | hrest
      · exact Or.inl rfl
      · exact Or.inr (List.mem_cons_of_mem _ hrest)
    · rcases List.mem_cons.mp h with rfl | hrest
      · exact Or.inr List.mem_cons_self
      · exact (ih hrest).imp_right (List.mem_cons_of_mem _)

theorem sorted_insertIn (key : K) (value : V) {l : List (K × V)}
    (h : l.Pairwise fun a b => a.1 < b.1) :
    (insertIn key value l).Pairwise fun a b => a.1 < b.1 := by
  induction l with
  | nil => exact List.pairwise_singleton _ _
  | cons y rest ih =>
    obtain ⟨hfirst, hrest⟩ := List.pairwise_cons.mp h
    unfold insertIn
    split_ifs with hlt heq
    · refine List.pairwise_cons.mpr ⟨fun z hz => ?_, h⟩
      rcases List.mem_cons.mp hz with rfl | hz
      · exact hlt
      · exact hlt.trans (hfirst z hz)
    · exact List.pairwise_cons.mpr ⟨fun z hz => heq ▸ hfirst z hz, hrest⟩
    · refine List.pairwise_cons.mpr ⟨fun z hz => ?_, ih hrest⟩
      rcases mem_insertIn hz with rfl | hz
      · exact lt_of_le_of_ne (not_lt.mp hlt) heq
      · exact hfirst z hz

/-- `add`. -/
def add (m : KeyedVector K V) (key : K) (value : V) : KeyedVector K V :=
  ⟨insertIn key value m.entries, sorted_insertIn key value m.sorted⟩

/-- `removeItem`. -/
def removeItem (m : KeyedVector K V) (key : K) : KeyedVector K V :=
  ⟨m.entries.filter fun x => x.1 ≠ key, m.sorted.filter _⟩

/-! ### Lookups -/

theorem lookupIn_insertIn (key key' : K) (value : V) (l : List (K × V)) :
    lookupIn key' (insertIn key value l) = if key = key' then some value else lookupIn key' l := by
  induction l with
  | nil => rfl
  | cons y rest ih =>
    unfold insertIn
    by_cases hlt : key < y.1
    · rw [if_pos hlt, lookupIn]
    by_cases heq : y.1 = key
    · rw [if_neg hlt, if_pos heq, lookupIn, lookupIn, heq]
      by_cases hkey : key = key'
      · rw [if_pos hkey, if_pos hkey]
      · rw [if_neg hkey, if_neg hkey, if_neg hkey]
    rw [if_neg hlt, if_neg heq, lookupIn, lookupIn, ih]
    by_cases hkey : key = key'
    · rw [if_neg (fun h => heq (h.trans hkey.symm)), if_pos hkey, if_pos hkey]
    · rw [if_neg hkey, if_neg hkey]

theorem lookupIn_filter (key key' : K) (l : List (K × V)) :
    lookupIn key' (l.filter fun x => x.1 ≠ key) = if key = key' then none else lookupIn key' l := by
  induction l with
  | nil => split_ifs <;> rfl
  | cons y rest ih =>
    by_cases hy : y.1 = key
    · rw [List.filter_cons_of_neg (by simp [hy]), ih]
      by_cases hkey : key = key'
      · rw [if_pos hkey, if_pos hkey]
      · rw [if_neg hkey, if_neg hkey, lookupIn, if_neg (hy ▸ hkey)]
    · rw [List.filter_cons_of_pos (by simp [hy]), lookupIn, ih]
      by_cases hkey : key = key'
      · rw [if_neg (hkey ▸ hy), if_pos hkey, if_pos hkey]
      · rw [if_neg hkey, if_neg hkey, lookupIn]

/-- **After an `add`** the key has the value, and no other key has changed. -/
theorem lookup_add (m : KeyedVector K V) (key key' : K) (value : V) :
    (m.add key value).lookup key' = if key = key' then some value else m.lookup key' :=
  lookupIn_insertIn key key' value m.entries

/-- **After a `removeItem`** the key is gone, and no other key has changed. -/
theorem lookup_removeItem (m : KeyedVector K V) (key key' : K) :
    (m.removeItem key).lookup key' = if key = key' then none else m.lookup key' :=
  lookupIn_filter key key' m.entries

@[simp] theorem lookup_empty (key : K) : (empty : KeyedVector K V).lookup key = none := rfl

theorem lookupIn_eq_some {key : K} {value : V} {l : List (K × V)}
    (h : l.Pairwise fun a b => a.1 < b.1) :
    lookupIn key l = some value ↔ (key, value) ∈ l := by
  induction l with
  | nil => simp [lookupIn]
  | cons y rest ih =>
    obtain ⟨k, v⟩ := y
    obtain ⟨hfirst, hrest⟩ := List.pairwise_cons.mp h
    rw [lookupIn, List.mem_cons]
    by_cases hk : k = key
    · subst hk
      rw [if_pos rfl, Option.some.injEq]
      constructor
      · rintro rfl
        exact Or.inl rfl
      · rintro (heq | hmem)
        · exact (Prod.mk.inj heq).2.symm
        · exact absurd (hfirst _ hmem) (lt_irrefl _)
    · rw [if_neg hk, ih hrest]
      constructor
      · exact Or.inr
      · rintro (heq | hmem)
        · exact absurd (Prod.mk.inj heq).1.symm hk
        · exact hmem

/-- **The pairs are the keys with their values.** -/
theorem mem_entries_iff (m : KeyedVector K V) {key : K} {value : V} :
    (key, value) ∈ m.entries ↔ m.lookup key = some value :=
  (lookupIn_eq_some m.sorted).symm

end KeyedVector

end CtpCommon
