import Mathlib.Logic.Function.Basic
import Mathlib.Data.List.Nodup
import Mathlib.Tactic.Tauto

/-!
# Circular doubly linked lists

Intrusive lists: every node has a `next` and a `prev` link, a list is a ring through a sentinel
node, and `none` is the null link.

* `insertBefore`, `unlink` — the two edits, by pointer assignments; a null link that is followed
  makes them fail;
* `Seg L a xs b` — from `a` the links lead through `xs` to `b` and back;
* `Ring L h xs` — the ring of the sentinel `h` has the nodes `xs`, in order;
* `Ring.insertBefore`, `Ring.unlink` — **PROVED**: on a ring the edits do not fail, insert before
  the given place and remove the given node, and touch no link of any other node;
* `Ring.frame` — **PROVED**: a ring keeps its nodes when the links of its nodes are kept;
* `Rings` — two rings in one memory; `Rings.insertBefore`, `Rings.unlink` — **PROVED**: an edit of
  one leaves the other as it is.

Nothing here is specific to a program; `P` is any type of addresses.
-/

namespace CtpCommon.LinkedRing

/-- The links of all nodes. -/
structure Links (P : Type) where
  next : P → Option P
  prev : P → Option P

variable {P : Type}

variable {L L' : Links P} {a b e h n p : P} {xs ys : List P}

/-! ### Segments -/

/-- From `a` the links lead through `xs` to `b`, and back. -/
def Seg (L : Links P) : P → List P → P → Prop
  | a, [], b => L.next a = some b ∧ L.prev b = some a
  | a, x :: xs, b => L.next a = some x ∧ L.prev x = some a ∧ Seg L x xs b

/-- The links from the first of `ys` through the others to `b`. -/
def Rest (L : Links P) : List P → P → Prop
  | [], _ => True
  | y :: ys, b => Seg L y ys b

/-- A segment splits at any place. -/
theorem seg_append (xs ys : List P) :
    Seg L a (xs ++ ys) b ↔ Seg L a xs (ys.headD b) ∧ Rest L ys b := by
  induction xs generalizing a with
  | nil =>
    cases ys with
    | nil => exact ⟨fun hs => ⟨hs, trivial⟩, fun hs => hs.1⟩
    | cons y ys =>
      show (L.next a = some y ∧ L.prev y = some a ∧ Seg L y ys b) ↔
        (L.next a = some y ∧ L.prev y = some a) ∧ Seg L y ys b
      exact and_assoc.symm
  | cons x xs ih =>
    show (L.next a = some x ∧ L.prev x = some a ∧ Seg L x (xs ++ ys) b) ↔
      (L.next a = some x ∧ L.prev x = some a ∧ Seg L x xs (ys.headD b)) ∧ Rest L ys b
    rw [ih]
    tauto

/-- A segment depends on the links of its nodes only. -/
theorem Seg.congr (hs : Seg L a xs b) (hnext : ∀ q ∈ a :: xs, L'.next q = L.next q)
    (hprev : ∀ q ∈ xs ++ [b], L'.prev q = L.prev q) : Seg L' a xs b := by
  induction xs generalizing a with
  | nil =>
    obtain ⟨h₁, h₂⟩ := hs
    exact ⟨(hnext a (List.mem_cons_self ..)).trans h₁,
      (hprev b (List.mem_singleton.mpr rfl)).trans h₂⟩
  | cons x xs ih =>
    obtain ⟨h₁, h₂, h₃⟩ := hs
    refine ⟨(hnext a (List.mem_cons_self ..)).trans h₁, (hprev x (List.mem_cons_self ..)).trans h₂,
      ih h₃ (fun q hq => hnext q (List.mem_cons_of_mem _ hq)) fun q hq => ?_⟩
    exact hprev q (List.mem_cons_of_mem _ hq)

theorem Rest.congr (hs : Rest L ys b) (hnext : ∀ q ∈ ys, L'.next q = L.next q)
    (hprev : ys ≠ [] → ∀ q ∈ ys.tail ++ [b], L'.prev q = L.prev q) : Rest L' ys b := by
  cases ys with
  | nil => trivial
  | cons y ys => exact Seg.congr hs hnext (hprev (List.cons_ne_nil _ _))

/-- The node before the end of a segment; pointing it at `n` instead moves the end to `n`. -/
theorem Seg.redirect (hs : Seg L a xs b) (hnodup : (a :: xs).Nodup) :
    ∃ p ∈ a :: xs, L.prev b = some p ∧ ∀ (L' : Links P) (n : P),
      L'.next p = some n → L'.prev n = some p →
      (∀ q ∈ a :: xs, q ≠ p → L'.next q = L.next q) → (∀ q ∈ xs, L'.prev q = L.prev q) →
      Seg L' a xs n := by
  induction xs generalizing a with
  | nil =>
    refine ⟨a, List.mem_cons_self .., hs.2, ?_⟩
    intro L' n hnext hprev _ _
    exact ⟨hnext, hprev⟩
  | cons x xs ih =>
    obtain ⟨h₁, h₂, h₃⟩ := hs
    obtain ⟨hnot, hnodup'⟩ := List.nodup_cons.mp hnodup
    obtain ⟨p, hp, hprev, hmove⟩ := ih h₃ hnodup'
    refine ⟨p, List.mem_cons_of_mem _ hp, hprev, ?_⟩
    intro L' n hpn hnp hnexts hprevs
    have hap : a ≠ p := fun hap => hnot (hap ▸ hp)
    refine ⟨(hnexts a (List.mem_cons_self ..) hap).trans h₁,
      (hprevs x (List.mem_cons_self ..)).trans h₂, hmove L' n hpn hnp ?_ ?_⟩
    · exact fun q hq hqp => hnexts q (List.mem_cons_of_mem _ hq) hqp
    · exact fun q hq => hprevs q (List.mem_cons_of_mem _ hq)

/-- Every node of a segment but its end has a `next`. -/
theorem Seg.next_isSome (hs : Seg L a xs b) : ∀ q ∈ a :: xs, L.next q ≠ none := by
  induction xs generalizing a with
  | nil =>
    intro q hq
    obtain rfl := List.mem_singleton.mp hq
    rw [hs.1]
    exact Option.some_ne_none _
  | cons x xs ih =>
    intro q hq
    rcases List.mem_cons.mp hq with rfl | hq
    · rw [hs.1]
      exact Option.some_ne_none _
    · exact ih hs.2.2 q hq

/-! ### Rings -/

/-- The ring of the sentinel `h` has the nodes `xs`, in order. -/
structure Ring (L : Links P) (h : P) (xs : List P) : Prop where
  seg : Seg L h xs h
  nodup : (h :: xs).Nodup

/-- A sentinel linked to itself. -/
theorem ring_nil (hnext : L.next h = some h) (hprev : L.prev h = some h) : Ring L h [] :=
  ⟨⟨hnext, hprev⟩, List.nodup_singleton h⟩

/-- The first node, or the sentinel. -/
theorem Ring.next_head (hr : Ring L h xs) : L.next h = some (xs.headD h) := by
  cases xs with
  | nil => exact hr.seg.1
  | cons x xs => exact hr.seg.1

/-- The node after a node, or the sentinel. -/
theorem Ring.next_of_append (hr : Ring L h (xs ++ e :: ys)) : L.next e = some (ys.headD h) := by
  have hrest : Seg L e ys h := ((seg_append xs (e :: ys)).mp hr.seg).2
  cases ys with
  | nil => exact hrest.1
  | cons y ys => exact hrest.1

/-- The node after the first. -/
theorem Ring.next_of_cons (hr : Ring L h (e :: ys)) : L.next e = some (ys.headD h) :=
  Ring.next_of_append (show Ring L h ([] ++ e :: ys) from hr)

theorem Ring.next_ne_none (hr : Ring L h xs) {q : P} (hq : q ∈ h :: xs) : L.next q ≠ none :=
  hr.seg.next_isSome q hq

/-- **Frame**: a ring depends on the links of its nodes only. -/
theorem Ring.frame (hr : Ring L h xs)
    (hsame : ∀ q ∈ h :: xs, L'.next q = L.next q ∧ L'.prev q = L.prev q) : Ring L' h xs := by
  refine ⟨hr.seg.congr (fun q hq => (hsame q hq).1) fun q hq => ?_, hr.nodup⟩
  rcases List.mem_append.mp hq with hq | hq
  · exact (hsame q (List.mem_cons_of_mem _ hq)).2
  · obtain rfl := List.mem_singleton.mp hq
    exact (hsame q (List.mem_cons_self ..)).2

/-! ### The place of an edit -/

/-- A ring cut between `xs` and `ys`: the first of `ys`, or the sentinel, is a node of the ring,
and appears nowhere else. -/
structure Cut (h : P) (xs ys : List P) : Prop where
  nodup : (h :: xs).Nodup
  mem : ys.headD h ∈ h :: (xs ++ ys)
  before : ∀ q ∈ xs, q ≠ ys.headD h
  after : ys ≠ [] → ∀ q ∈ ys.tail ++ [h], q ≠ ys.headD h
  disjoint : ∀ p ∈ h :: xs, ∀ q ∈ ys, q ≠ p

theorem cut (hnodup : (h :: (xs ++ ys)).Nodup) : Cut h xs ys := by
  obtain ⟨hh, happ⟩ := List.nodup_cons.mp hnodup
  obtain ⟨hxs, hys, hdisj⟩ := List.nodup_append.mp happ
  have hhxs : h ∉ xs := fun hmem => hh (List.mem_append_left _ hmem)
  refine ⟨List.nodup_cons.mpr ⟨hhxs, hxs⟩, ?_, ?_, ?_, ?_⟩
  · cases ys with
    | nil => exact List.mem_cons_self ..
    | cons y ys =>
      exact List.mem_cons_of_mem _ (List.mem_append_right _ (List.mem_cons_self ..))
  · cases ys with
    | nil => exact fun q hq hqh => hhxs ((show q = h from hqh) ▸ hq)
    | cons y ys => exact fun q hq hqy => hdisj q hq y (List.mem_cons_self ..) hqy
  · intro hne q hq
    cases ys with
    | nil => exact absurd rfl hne
    | cons y ys =>
      rcases List.mem_append.mp hq with hq | hq
      · exact fun (hqy : q = y) => (List.nodup_cons.mp hys).1 (hqy ▸ hq)
      · rintro hqy
        have hhy : h = y := (List.mem_singleton.mp hq).symm.trans hqy
        exact hh (List.mem_append_right _ (hhy ▸ List.mem_cons_self ..))
  · intro p hp q hq hqp
    rcases List.mem_cons.mp hp with rfl | hp
    · exact hh (List.mem_append_right _ (hqp ▸ hq))
    · exact hdisj p hp q hq hqp.symm

theorem mem_cycle_left {q : P} (hq : q ∈ h :: xs) : q ∈ h :: (xs ++ ys) := by
  rcases List.mem_cons.mp hq with rfl | hq
  · exact List.mem_cons_self ..
  · exact List.mem_cons_of_mem _ (List.mem_append_left _ hq)

theorem mem_cycle_tail {q : P} (hq : q ∈ ys.tail ++ [h]) : q ∈ h :: (xs ++ ys) := by
  rcases List.mem_append.mp hq with hq | hq
  · exact List.mem_cons_of_mem _ (List.mem_append_right _ (List.mem_of_mem_tail hq))
  · exact List.mem_singleton.mp hq ▸ List.mem_cons_self ..

/-- The links of nodes outside a ring that is edited, the inserted or removed node apart. -/
def Untouched (L L' : Links P) (e h : P) (xs : List P) : Prop :=
  ∀ q, q ≠ e → q ∉ h :: xs → L'.next q = L.next q ∧ L'.prev q = L.prev q

/-! ### The edits -/

variable [DecidableEq P]

namespace Links

def setNext (a : P) (v : Option P) (L : Links P) : Links P :=
  { L with next := Function.update L.next a v }

def setPrev (a : P) (v : Option P) (L : Links P) : Links P :=
  { L with prev := Function.update L.prev a v }

@[simp] theorem setNext_prev (a : P) (v : Option P) (L : Links P) :
    (L.setNext a v).prev = L.prev := rfl

@[simp] theorem setPrev_next (a : P) (v : Option P) (L : Links P) :
    (L.setPrev a v).next = L.next := rfl

theorem setNext_next (a q : P) (v : Option P) (L : Links P) :
    (L.setNext a v).next q = if q = a then v else L.next q :=
  Function.update_apply ..

theorem setPrev_prev (a q : P) (v : Option P) (L : Links P) :
    (L.setPrev a v).prev q = if q = a then v else L.prev q :=
  Function.update_apply ..

end Links

/-- Link `e` in before `y`. -/
def insertBefore (e y : P) (L : Links P) : Option (Links P) := do
  let L := L.setNext e (some y)
  let L := L.setPrev e (L.prev y)
  let p ← L.prev e
  let L := L.setNext p (some e)
  return L.setPrev y (some e)

/-- Take `e` out, and clear its links. -/
def unlink (e : P) (L : Links P) : Option (Links P) := do
  let n ← L.next e
  let L := L.setPrev n (L.prev e)
  let p ← L.prev e
  let L := L.setNext p (L.next e)
  return (L.setNext e none).setPrev e none

/-- Whatever the links are, an insertion fails only where no node is before the place. -/
theorem insertBefore_of_prev (e : P) {y p : P} (h : L.prev y = some p) :
    ∃ L', insertBefore e y L = some L' ∧ L'.prev y = some e := by
  unfold LinkedRing.insertBefore
  simp only [Links.setNext_prev, h, Links.setPrev_prev, if_true]
  exact ⟨_, rfl, if_pos rfl⟩

/-- **Insertion** before the first of `ys`, or before the sentinel. -/
theorem Ring.insertBefore (hr : Ring L h (xs ++ ys)) (he : e ∉ h :: (xs ++ ys)) :
    ∃ L', insertBefore e (ys.headD h) L = some L' ∧ Ring L' h (xs ++ e :: ys) ∧
      Untouched L L' e h (xs ++ ys) := by
  obtain ⟨hseg, hrest⟩ := (seg_append xs ys).mp hr.seg
  obtain ⟨hnodup, hyin, hbefore, hafter, hdisj⟩ := cut hr.nodup
  obtain ⟨p, hp, hprev, hmove⟩ := hseg.redirect hnodup
  have hsub : ∀ q ∈ h :: (xs ++ ys), q ≠ e := fun q hq (hqe : q = e) => he (hqe ▸ hq)
  generalize hy : ys.headD h = y at *
  let L' : Links P := (((L.setNext e (some y)).setPrev e (some p)).setNext p (some e)).setPrev y
    (some e)
  have hnext : ∀ q, L'.next q = if q = p then some e else if q = e then some y else L.next q := by
    intro q
    simp only [L', Links.setPrev_next, Links.setNext_next]
  have hprevs : ∀ q, L'.prev q = if q = y then some e else if q = e then some p else L.prev q := by
    intro q
    simp only [L', Links.setNext_prev, Links.setPrev_prev]
  have hrun : LinkedRing.insertBefore e y L = some L' := by
    unfold LinkedRing.insertBefore
    simp only [Links.setNext_prev, hprev, Links.setPrev_prev, if_true]
    rfl
  have hep : e ≠ p := (hsub p (mem_cycle_left hp)).symm
  have hey : e ≠ y := (hsub y hyin).symm
  refine ⟨L', hrun, ⟨?_, ?_⟩, ?_⟩
  · rw [seg_append xs (e :: ys)]
    refine ⟨hmove L' e ?_ ?_ ?_ ?_, ?_⟩
    · rw [hnext, if_pos rfl]
    · rw [hprevs, if_neg hey, if_pos rfl]
    · intro q hq hqp
      rw [hnext, if_neg hqp, if_neg (hsub q (mem_cycle_left hq))]
    · intro q hq
      rw [hprevs, if_neg (hbefore q hq),
        if_neg (hsub q (mem_cycle_left (List.mem_cons_of_mem _ hq)))]
    · show Seg L' e ([] ++ ys) h
      rw [seg_append [] ys, hy]
      refine ⟨⟨?_, ?_⟩, hrest.congr ?_ ?_⟩
      · rw [hnext, if_neg hep, if_pos rfl]
      · rw [hprevs, if_pos rfl]
      · intro q hq
        rw [hnext, if_neg (hdisj p hp q hq),
          if_neg (hsub q (List.mem_cons_of_mem _ (List.mem_append_right _ hq)))]
      · intro hne q hq
        rw [hprevs, if_neg (hafter hne q hq), if_neg (hsub q (mem_cycle_tail hq))]
  · have hperm : (h :: (xs ++ e :: ys)).Perm (e :: h :: (xs ++ ys)) :=
      (List.Perm.cons h List.perm_middle).trans (List.Perm.swap e h _)
    rw [hperm.nodup_iff]
    exact List.nodup_cons.mpr ⟨he, hr.nodup⟩
  · intro q hqe hq
    have hqp : q ≠ p := fun hqp => hq (hqp ▸ mem_cycle_left hp)
    have hqy : q ≠ y := fun hqy => hq (hqy ▸ hyin)
    exact ⟨by rw [hnext, if_neg hqp, if_neg hqe], by rw [hprevs, if_neg hqy, if_neg hqe]⟩

/-- **Removal.** -/
theorem Ring.unlink (hr : Ring L h (xs ++ e :: ys)) :
    ∃ L', unlink e L = some L' ∧ Ring L' h (xs ++ ys) ∧ L'.next e = none ∧
      Untouched L L' e h (xs ++ ys) := by
  have hperm : (h :: (xs ++ e :: ys)).Perm (e :: h :: (xs ++ ys)) :=
    (List.Perm.cons h List.perm_middle).trans (List.Perm.swap e h _)
  obtain ⟨he, hnodup'⟩ := List.nodup_cons.mp (hperm.nodup_iff.mp hr.nodup)
  obtain ⟨hseg, hrest'⟩ := (seg_append xs (e :: ys)).mp hr.seg
  obtain ⟨hlink, hrest⟩ := (seg_append [] ys).mp (show Seg L e ([] ++ ys) h from hrest')
  obtain ⟨hnodup, hyin, hbefore, hafter, hdisj⟩ := cut hnodup'
  obtain ⟨p, hp, hprev, hmove⟩ := hseg.redirect hnodup
  have hprev' : L.prev e = some p := hprev
  have hsub : ∀ q ∈ h :: (xs ++ ys), q ≠ e := fun q hq (hqe : q = e) => he (hqe ▸ hq)
  obtain ⟨hnext_e, hprev_y⟩ := hlink
  generalize hy : ys.headD h = y at *
  let L' : Links P := ((((L.setPrev y (some p)).setNext p (some y)).setNext e none).setPrev e none)
  have hep : e ≠ p := (hsub p (mem_cycle_left hp)).symm
  have hey : e ≠ y := (hsub y hyin).symm
  have hnext : ∀ q, L'.next q = if q = e then none else if q = p then some y else L.next q := by
    intro q
    simp only [L', Links.setPrev_next, Links.setNext_next]
  have hprevs : ∀ q, L'.prev q = if q = e then none else if q = y then some p else L.prev q := by
    intro q
    simp only [L', Links.setNext_prev, Links.setPrev_prev]
  have hrun : LinkedRing.unlink e L = some L' := by
    unfold LinkedRing.unlink
    simp only [hnext_e, hprev', Links.setPrev_prev, Links.setPrev_next, Option.bind_eq_bind,
      Option.bind_some, ite_self]
    rfl
  refine ⟨L', hrun, ⟨?_, hnodup'⟩, ?_, ?_⟩
  · rw [seg_append xs ys, hy]
    refine ⟨hmove L' y ?_ ?_ ?_ ?_, hrest.congr ?_ ?_⟩
    · rw [hnext, if_neg hep.symm, if_pos rfl]
    · rw [hprevs, if_neg hey.symm, if_pos rfl]
    · intro q hq hqp
      rw [hnext, if_neg (hsub q (mem_cycle_left hq)), if_neg hqp]
    · intro q hq
      rw [hprevs, if_neg (hsub q (mem_cycle_left (List.mem_cons_of_mem _ hq))),
        if_neg (hbefore q hq)]
    · intro q hq
      rw [hnext, if_neg (hsub q (List.mem_cons_of_mem _ (List.mem_append_right _ hq))),
        if_neg (hdisj p hp q hq)]
    · intro hne q hq
      rw [hprevs, if_neg (hsub q (mem_cycle_tail hq)), if_neg (hafter hne q hq)]
  · rw [hnext, if_pos rfl]
  · intro q hqe hq
    have hqp : q ≠ p := fun hqp => hq (hqp ▸ mem_cycle_left hp)
    have hqy : q ≠ y := fun hqy => hq (hqy ▸ hyin)
    exact ⟨by rw [hnext, if_neg hqe, if_neg hqp], by rw [hprevs, if_neg hqe, if_neg hqy]⟩

/-! ### Two rings in one memory -/

/-- Two rings without a common node, and no other node linked. -/
structure Rings (L : Links P) (h : P) (xs : List P) (k : P) (zs : List P) : Prop where
  left : Ring L h xs
  right : Ring L k zs
  disjoint : ∀ q ∈ h :: xs, q ∉ k :: zs
  unlinked : ∀ q, q ∉ h :: xs → q ∉ k :: zs → L.next q = none

variable {k : P} {zs : List P}

omit [DecidableEq P] in
theorem Rings.swap (hr : Rings L h xs k zs) : Rings L k zs h xs :=
  ⟨hr.right, hr.left, fun q hq hmem => hr.disjoint q hmem hq, fun q hq hq' => hr.unlinked q hq' hq⟩

omit [DecidableEq P] in
/-- A node without links is on neither ring. -/
theorem Rings.notMem (hr : Rings L h xs k zs) (he : L.next e = none) :
    e ∉ h :: xs ∧ e ∉ k :: zs :=
  ⟨fun hmem => hr.left.next_ne_none hmem he, fun hmem => hr.right.next_ne_none hmem he⟩

/-- **Insertion** into the first ring. -/
theorem Rings.insertBefore (hr : Rings L h (xs ++ ys) k zs) (he : L.next e = none) :
    ∃ L', LinkedRing.insertBefore e (ys.headD h) L = some L' ∧
      Rings L' h (xs ++ e :: ys) k zs := by
  obtain ⟨heh, hek⟩ := hr.notMem he
  obtain ⟨L', hrun, hring, hsame⟩ := hr.left.insertBefore heh
  have hmem : ∀ q, q ∈ h :: (xs ++ e :: ys) ↔ q = e ∨ q ∈ h :: (xs ++ ys) := by
    intro q
    simp only [List.mem_cons, List.mem_append]
    tauto
  refine ⟨L', hrun, hring, ?_, ?_, ?_⟩
  · refine hr.right.frame fun q hq => hsame q ?_ fun hmem => hr.disjoint q hmem hq
    rintro rfl
    exact hek hq
  · intro q hq
    rcases (hmem q).mp hq with rfl | hq
    · exact hek
    · exact hr.disjoint q hq
  · intro q hq hq'
    have hnot := fun h => hq ((hmem q).mpr h)
    rw [(hsame q (fun h => hnot (.inl h)) fun h => hnot (.inr h)).1]
    exact hr.unlinked q (fun h => hnot (.inr h)) hq'

/-- **Removal** from the first ring. -/
theorem Rings.unlink (hr : Rings L h (xs ++ e :: ys) k zs) :
    ∃ L', LinkedRing.unlink e L = some L' ∧ Rings L' h (xs ++ ys) k zs ∧ L'.next e = none := by
  obtain ⟨L', hrun, hring, hnone, hsame⟩ := hr.left.unlink
  have hmem : ∀ q, q ∈ h :: (xs ++ e :: ys) ↔ q = e ∨ q ∈ h :: (xs ++ ys) := by
    intro q
    simp only [List.mem_cons, List.mem_append]
    tauto
  refine ⟨L', hrun, ⟨hring, ?_, ?_, ?_⟩, hnone⟩
  · refine hr.right.frame fun q hq => hsame q ?_ ?_
    · rintro rfl
      exact hr.disjoint q ((hmem q).mpr (.inl rfl)) hq
    · exact fun h => hr.disjoint q ((hmem q).mpr (.inr h)) hq
  · exact fun q hq => hr.disjoint q ((hmem q).mpr (.inr hq))
  · intro q hq hq'
    by_cases hqe : q = e
    · rw [hqe]
      exact hnone
    · rw [(hsame q hqe hq).1]
      refine hr.unlinked q (fun h => ?_) hq'
      rcases (hmem q).mp h with h | h
      · exact hqe h
      · exact hq h

end CtpCommon.LinkedRing
