import Mathlib.Data.List.Basic

/-!
# Records at reused addresses

An allocator gives out any address no live record has, so one address names several records over
time.  Here records are numbered in the order of their allocation, `place` is the address of each,
and `live` says which have not been freed.

* `WellPlaced` — the addresses of live records are not null, and once an address is given out
  again its earlier records are no longer live;
* `WellPlaced.alloc`, `WellPlaced.shrink` — **PROVED**: kept by an allocation at any free address,
  and by freeing;
* `WellPlaced.unique` — **PROVED**: the address of a live record names no other live record;
* `WellPlaced.later` — **PROVED**: a live record found at the address of a freed one was allocated
  after it.

Nothing here is specific to a program.
-/

namespace CtpCommon.Handles

/-- The records below `next` have been allocated. -/
structure WellPlaced (next : ℕ) (place : ℕ → ℕ) (live : ℕ → Prop) : Prop where
  lt : ∀ k, live k → k < next
  ne_null : ∀ k, live k → place k ≠ 0
  older : ∀ j k, j < k → k < next → place j = place k → ¬ live j

namespace WellPlaced

variable {next next' : ℕ} {place : ℕ → ℕ} {live live' : ℕ → Prop}

/-- Freeing. -/
theorem shrink (h : WellPlaced next place live) (hlive : ∀ k, live' k → live k) :
    WellPlaced next place live' :=
  ⟨fun k hk => h.lt k (hlive k hk), fun k hk => h.ne_null k (hlive k hk),
    fun j k hjk hk heq hj => h.older j k hjk hk heq (hlive j hj)⟩

/-- At most one allocation, at a free address. -/
theorem alloc {a : ℕ} (h : WellPlaced next place live) (hnull : a ≠ 0)
    (hfree : ∀ k, live k → place k ≠ a) (hnext : next' ≤ next + 1)
    (hlt : ∀ k, live' k → k < next') (hlive : ∀ k, live' k → live k ∨ k = next) :
    WellPlaced next' (Function.update place next a) live' := by
  have hold : ∀ k, k < next → Function.update place next a k = place k :=
    fun k hk => Function.update_of_ne (Nat.ne_of_lt hk) _ _
  refine ⟨hlt, ?_, ?_⟩
  · intro k hk
    rcases hlive k hk with hk | rfl
    · rw [hold k (h.lt k hk)]
      exact h.ne_null k hk
    · rw [Function.update_self]
      exact hnull
  · intro j k hjk hk heq hj
    have hjn : j < next := by omega
    have hj' : live j := (hlive j hj).resolve_right (by omega)
    rw [hold j hjn] at heq
    by_cases hkn : k < next
    · rw [hold k hkn] at heq
      exact h.older j k hjk hkn heq hj'
    · -- the record just allocated: its address was free
      obtain rfl : k = next := by omega
      rw [Function.update_self] at heq
      exact hfree j hj' heq

/-- A live record found at the address of an allocated one is not older. -/
theorem later (h : WellPlaced next place live) {j k : ℕ} (hj : live j) (hk : k < next)
    (heq : place j = place k) : k ≤ j := by
  by_contra hlt
  exact h.older j k (by omega) hk heq hj

/-- **Live records have different addresses.** -/
theorem unique (h : WellPlaced next place live) {j k : ℕ} (hj : live j) (hk : live k)
    (heq : place j = place k) : j = k :=
  Nat.le_antisymm (h.later hk (h.lt j hj) heq.symm) (h.later hj (h.lt k hk) heq)

end WellPlaced

end CtpCommon.Handles
