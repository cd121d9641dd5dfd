import CtpCommon.Event.Table
import CtpCommon.Lib.Runs
import Mathlib.Order.Bounds.Basic

/-!
# One set, three representations

`watch_table`, `readFds` and `nfds`, and the index in every event, over whole runs of
`ril_event_set`, `ril_event_add`, `ril_event_del` and `processReadReadies`.

* `tableSystem` — the runs, with the events `ril_event_set` has been called on;
* `Allowed` — what the callers owe: a descriptor of its own when an event is added, and no second
  initialisation of an event that is in the table;
* `Exact` — the table is exact: the indices are the slots, `readFds` is the descriptors watched, and
  `nfds` is one more than the largest;
* `exact_of_reaches` — **PROVED**: it is, in every run;
* `watchTable_exact` — **PROVED**: the same from the outside, and that no step gets stuck and no
  event is dropped while a slot is free.
-/

namespace CtpCommon.Event

open LinkedRing Runs

/-- `FD_SETSIZE`. -/
def fdSetsize : ℤ := 1024

/-! ### Runs -/

/-- The state, and the events `ril_event_set` has been called on. -/
structure TableState where
  ev : EventState
  known : Finset ℕ

inductive TableAction where
  | set (ev : ℕ) (fd : ℤ) (persist : Bool) (func : EventFunc)
  | add (ev : ℕ)
  | del (ev : ℕ)
  | processReadReadies (rfds : Finset ℤ) (n : ℕ)
  deriving DecidableEq

namespace TableState

def step (t : TableState) : TableAction → Option TableState
  | .set ev fd persist func => some ⟨eventSet ev fd persist func t.ev, insert ev t.known⟩
  | .add ev => some { t with ev := eventAdd ev t.ev }
  | .del ev => some { t with ev := eventDel ev t.ev }
  | .processReadReadies rfds n =>
      (Event.processReadReadies rfds n t.ev).map fun s => { t with ev := s }

/-- An event that is added has been initialised and is not in the table; its descriptor fits a
descriptor set, and no event in the table has it.  No event in the table is initialised again. -/
def Allowed (t : TableState) : TableAction → Prop
  | .set ev _ _ _ => ev ≠ timerList ∧ ev ≠ pendingList ∧ ¬ t.ev.Watched ev
  | .add ev => ev ∈ t.known ∧ (t.ev.event ev).fd < fdSetsize ∧ Addable t.ev ev
  | .del ev => ev ∈ t.known
  | .processReadReadies _ _ => True

instance (t : TableState) : (a : TableAction) → Decidable (t.Allowed a)
  | .set .. => inferInstanceAs (Decidable (_ ∧ _ ∧ ¬ _))
  | .add .. => inferInstanceAs (Decidable (_ ∧ _ ∧ _))
  | .del .. => inferInstanceAs (Decidable (_ ∈ _))
  | .processReadReadies .. => inferInstanceAs (Decidable True)

end TableState

def tableSystem : System TableState TableAction where
  init := ⟨eventInit, ∅⟩
  step := TableState.step

/-! ### The invariant -/

/-- The table is exact.  Of the pending list only this much matters, that something is linked
before its end. -/
structure Exact (s : EventState) (known : Finset ℕ) : Prop extends Table s where
  watched : ∀ ev, s.Watched ev → ev ∈ known
  free : ∀ ev ∈ known, ¬ s.Watched ev → (s.event ev).index = -1
  fits : ∀ ev, s.Watched ev → (s.event ev).fd < fdSetsize
  mem_fd : ∀ fd ∈ s.readFds, ∃ ev, s.Watched ev ∧ (s.event ev).fd = fd
  top : ∀ ev, s.Watched ev → ∃ last, s.Watched last ∧ s.nfds = (s.event last).fd + 1
  empty : (∀ ev, ¬ s.Watched ev) → s.nfds ≤ 1
  linked : ∃ p, s.links.prev pendingList = some p

variable {s s' : EventState} {known : Finset ℕ} {ev : ℕ} {i : Fin maxFdEvents}

theorem eventInit_unwatched (ev : ℕ) : ¬ eventInit.Watched ev := by
  rintro ⟨i, hi⟩
  exact absurd hi (by simp [eventInit, initList])

theorem exact_eventInit : Exact eventInit ∅ where
  index i ev hi := absurd ⟨i, hi⟩ (eventInit_unwatched ev)
  fd_nonneg ev h := absurd h (eventInit_unwatched ev)
  fd_mem ev h := absurd h (eventInit_unwatched ev)
  fd_lt ev h := absurd h (eventInit_unwatched ev)
  fd_inj a _ h := absurd h (eventInit_unwatched a)
  watched ev h := absurd h (eventInit_unwatched ev)
  free ev h := absurd h (Finset.notMem_empty ev)
  fits ev h := absurd h (eventInit_unwatched ev)
  mem_fd fd h := absurd h (Finset.notMem_empty fd)
  top ev h := absurd h (eventInit_unwatched ev)
  empty _ := by decide
  linked := ⟨pendingList, rfl⟩

/-- Only the table, its events and the end of the pending list matter. -/
theorem Exact.congr {known' : Finset ℕ} (h : Exact s known)
    (htable : s'.watchTable = s.watchTable) (hfds : s'.readFds = s.readFds)
    (hnfds : s'.nfds = s.nfds) (hevent : ∀ e, s.Watched e → s'.event e = s.event e)
    (hsub : known ⊆ known')
    (hfree : ∀ e ∈ known', ¬ s.Watched e → (s'.event e).index = -1)
    (hlinked : ∃ p, s'.links.prev pendingList = some p) : Exact s' known' := by
  have hw : ∀ e, s'.Watched e ↔ s.Watched e := by
    intro e
    unfold EventState.Watched
    rw [htable]
  refine ⟨h.toTable.congr htable hfds hnfds hevent, ?_, ?_, ?_, ?_, ?_, ?_, hlinked⟩
  · exact fun e he => hsub (h.watched e ((hw e).mp he))
  · exact fun e he hnot => hfree e he fun hwatched => hnot ((hw e).mpr hwatched)
  · intro e he
    rw [hevent e ((hw e).mp he)]
    exact h.fits e ((hw e).mp he)
  · intro fd hfd
    rw [hfds] at hfd
    obtain ⟨e, he, rfl⟩ := h.mem_fd fd hfd
    exact ⟨e, (hw e).mpr he, by rw [hevent e he]⟩
  · intro e he
    obtain ⟨last, hlast, hmax⟩ := h.top e ((hw e).mp he)
    exact ⟨last, (hw last).mpr hlast, by rw [hnfds, hmax, hevent last hlast]⟩
  · intro hnone
    rw [hnfds]
    exact h.empty fun e he => hnone e ((hw e).mpr he)

/-! ### One step -/

/-- **`ril_event_set`**, on an event outside the table. -/
theorem Exact.eventSet (h : Exact s known) (hpending : ev ≠ pendingList) (hev : ¬ s.Watched ev)
    (fd : ℤ) (persist : Bool) (func : EventFunc) :
    Exact (Event.eventSet ev fd persist func s) (insert ev known) := by
  refine h.congr rfl rfl rfl ?_ (Finset.subset_insert ev known) ?_ ?_
  · intro e he
    have hne : e ≠ ev := by
      rintro rfl
      exact hev he
    exact Function.update_of_ne hne _ _
  · intro e he hnot
    by_cases hee : e = ev
    · subst hee
      simp [Event.eventSet]
    · have hold := h.free e (Finset.mem_of_mem_insert_of_ne he hee) hnot
      simpa [Event.eventSet, hee] using hold
  · obtain ⟨p, hp⟩ := h.linked
    refine ⟨p, ?_⟩
    show (((s.links.setNext ev none).setPrev ev none).prev pendingList) = some p
    rw [Links.setPrev_prev, if_neg (Ne.symm hpending)]
    exact hp

/-- The search for the largest descriptor ends at one that is watched, or at `0`. -/
theorem largestFd_cases (s : EventState) :
    largestFd s = 0 ∨ ∃ e, s.Watched e ∧ (s.event e).fd = largestFd s := by
  have hfold : ∀ (slots : List (Fin maxFdEvents)) (n : ℤ),
      slots.foldl (largerFd s) n = n ∨
        ∃ e, s.Watched e ∧ (s.event e).fd = slots.foldl (largerFd s) n := by
    intro slots
    induction slots with
    | nil => exact fun n => .inl rfl
    | cons j slots ih =>
      intro n
      rcases ih (largerFd s n j) with hsame | hfound
      · rw [List.foldl_cons, hsame]
        rcases hrev : s.watchTable j with _ | rev
        · exact .inl (by simp only [largerFd, hrev])
        · by_cases hlt : n < (s.event rev).fd
          · exact .inr ⟨rev, ⟨j, hrev⟩, by simp only [largerFd, hrev, if_pos hlt]⟩
          · exact .inl (by simp only [largerFd, hrev, if_neg hlt])
      · exact .inr hfound
  exact hfold _ 0

/-- **`removeWatch`** keeps the table exact. -/
theorem Exact.removeWatch (h : Exact s known) (hi : s.watchTable i = some ev) :
    Exact (Event.removeWatch ev i s) known := by
  have hw := fun e => h.toTable.watched_removeWatch hi (e := e)
  have hevent : ∀ e, e ≠ ev → (Event.removeWatch ev i s).event e = s.event e := by
    intro e he
    rw [removeWatch_event, Function.update_of_ne he]
  refine ⟨h.toTable.removeWatch hi, ?_, ?_, ?_, ?_, ?_, ?_, ?_⟩
  · exact fun e he => h.watched e ((hw e).mp he).1
  · intro e he hnot
    by_cases hee : e = ev
    · rw [hee, removeWatch_event, Function.update_self]
    · rw [hevent e hee]
      exact h.free e he fun hwatched => hnot ((hw e).mpr ⟨hwatched, hee⟩)
  · intro e he
    obtain ⟨hwatched, hne⟩ := (hw e).mp he
    rw [hevent e hne]
    exact h.fits e hwatched
  · intro fd hfd
    rw [removeWatch_readFds] at hfd
    obtain ⟨hne, hmem⟩ := Finset.mem_erase.mp hfd
    obtain ⟨e, he, rfl⟩ := h.mem_fd fd hmem
    have hee : e ≠ ev := by
      rintro rfl
      exact hne rfl
    exact ⟨e, (hw e).mpr ⟨he, hee⟩, by rw [hevent e hee]⟩
  · intro e he
    by_cases hlast : (s.event ev).fd + 1 = s.nfds
    · -- the bound is computed anew, and `e` is watched
      rw [removeWatch_nfds, if_pos hlast]
      rcases largestFd_cases (Event.removeWatch ev i s) with hzero | ⟨last, hmem, hfd⟩
      · have hle := le_largestFd he
        have hpos := (h.toTable.removeWatch hi).fd_nonneg e he
        exact ⟨e, he, by omega⟩
      · exact ⟨last, hmem, by rw [hfd]⟩
    · rw [removeWatch_nfds, if_neg hlast]
      obtain ⟨last, hmem, hmax⟩ := h.top e ((hw e).mp he).1
      have hne : last ≠ ev := by
        rintro rfl
        exact hlast hmax.symm
      exact ⟨last, (hw last).mpr ⟨hmem, hne⟩, by rw [hevent last hne, hmax]⟩
  · intro hnone
    -- `ev` was the last event, so its descriptor was the largest
    obtain ⟨last, hmem, hmax⟩ := h.top ev ⟨i, hi⟩
    have hlast : last = ev := by
      by_contra hne
      exact hnone last ((hw last).mpr ⟨hmem, hne⟩)
    rw [removeWatch_nfds, if_pos (by rw [hmax, hlast])]
    rcases largestFd_cases (Event.removeWatch ev i s) with hzero | ⟨e, he, -⟩
    · rw [hzero]
      decide
    · exact absurd he (hnone e)
  · rw [removeWatch_links]
    exact h.linked

/-- **`ril_event_del`**, on any event that has been initialised. -/
theorem Exact.eventDel (h : Exact s known) (hev : ev ∈ known) :
    Exact (Event.eventDel ev s) known := by
  have hdel : Deletable s ev := by
    by_cases hwatched : s.Watched ev
    · exact .inl hwatched
    · exact .inr (h.free ev hev hwatched)
  rcases h.toTable.eventDel_cases hdel with hsame | ⟨i, hi, heq⟩
  · rw [hsame]
    exact h
  · rw [heq]
    exact h.removeWatch hi

/-- With a free slot an event is not dropped. -/
theorem eventAdd_of_free {j : Fin maxFdEvents} (hj : s.watchTable j = none) (ev : ℕ) :
    ∃ i, s.watchTable i = none ∧ (eventAdd ev s).watchTable
      = Function.update s.watchTable i (some ev) := by
  unfold eventAdd
  rcases hslot : freeSlot s with _ | i
  · have hnone := List.find?_eq_none.mp hslot j (List.mem_finRange j)
    exact absurd hj (by simpa using hnone)
  · exact ⟨i, by simpa using List.find?_some hslot, rfl⟩

/-- What is watched after an addition to a free slot. -/
theorem watched_update (htable : s'.watchTable = Function.update s.watchTable i (some ev))
    (hi : s.watchTable i = none) (e : ℕ) : s'.Watched e ↔ s.Watched e ∨ e = ev := by
  unfold EventState.Watched
  rw [htable]
  constructor
  · rintro ⟨j, hj⟩
    by_cases hji : j = i
    · rw [hji, Function.update_self] at hj
      exact .inr (Option.some.inj hj).symm
    · rw [Function.update_of_ne hji] at hj
      exact .inl ⟨j, hj⟩
  · rintro (⟨j, hj⟩ | rfl)
    · have hji : j ≠ i := by
        rintro rfl
        exact absurd (hj.symm.trans hi) (by simp)
      exact ⟨j, by rw [Function.update_of_ne hji]; exact hj⟩
    · exact ⟨i, Function.update_self ..⟩

/-- **`ril_event_add`** keeps the table exact. -/
theorem Exact.eventAdd (h : Exact s known) (hknown : ev ∈ known)
    (hfits : (s.event ev).fd < fdSetsize) (hev : Addable s ev) :
    Exact (Event.eventAdd ev s) known := by
  obtain ⟨hTable, -⟩ := h.toTable.eventAdd hev
  rcases eventAdd_cases ev s with hsame | ⟨i, hi, heq⟩
  · rw [hsame]
    exact h
  have htable : (Event.eventAdd ev s).watchTable = Function.update s.watchTable i (some ev) := by
    rw [heq]
  have hnfds : (Event.eventAdd ev s).nfds
      = if s.nfds ≤ (s.event ev).fd then (s.event ev).fd + 1 else s.nfds := by rw [heq]
  have hreadFds : (Event.eventAdd ev s).readFds = insert (s.event ev).fd s.readFds := by rw [heq]
  have hlinks : (Event.eventAdd ev s).links = s.links := by rw [heq]
  have hother : ∀ e, e ≠ ev → (Event.eventAdd ev s).event e = s.event e := by
    intro e he
    rw [heq]
    exact Function.update_of_ne he _ _
  have hfd : ∀ e, ((Event.eventAdd ev s).event e).fd = (s.event e).fd := by
    intro e
    by_cases hee : e = ev
    · rw [heq, hee]
      simp
    · rw [hother e hee]
  have hw := watched_update htable hi
  refine ⟨hTable, ?_, ?_, ?_, ?_, ?_, ?_, ?_⟩
  · intro e he
    rcases (hw e).mp he with hold | rfl
    · exact h.watched e hold
    · exact hknown
  · intro e he hnot
    have hee : e ≠ ev := fun hee => hnot ((hw e).mpr (.inr hee))
    rw [hother e hee]
    exact h.free e he fun hwatched => hnot ((hw e).mpr (.inl hwatched))
  · intro e he
    rw [hfd]
    rcases (hw e).mp he with hold | rfl
    · exact h.fits e hold
    · exact hfits
  · intro fd hmem
    rw [hreadFds] at hmem
    rcases Finset.mem_insert.mp hmem with rfl | hmem
    · exact ⟨ev, (hw ev).mpr (.inr rfl), hfd ev⟩
    · obtain ⟨e, he, rfl⟩ := h.mem_fd fd hmem
      exact ⟨e, (hw e).mpr (.inl he), hfd e⟩
  · intro _ _
    rw [hnfds]
    by_cases hle : s.nfds ≤ (s.event ev).fd
    · exact ⟨ev, (hw ev).mpr (.inr rfl), by rw [if_pos hle, hfd]⟩
    rw [if_neg hle]
    by_cases hsome : ∃ e, s.Watched e
    · obtain ⟨e, he⟩ := hsome
      obtain ⟨last, hmem, hmax⟩ := h.top e he
      exact ⟨last, (hw last).mpr (.inl hmem), by rw [hfd, hmax]⟩
    · -- into an empty table, whose bound is `1` when it was used before
      have hone := h.empty fun e he => hsome ⟨e, he⟩
      obtain ⟨hpos, -, -⟩ := hev
      exact ⟨ev, (hw ev).mpr (.inr rfl), by rw [hfd]; omega⟩
  · exact fun hnone => absurd ((hw ev).mpr (.inr rfl)) (hnone ev)
  · rw [hlinks]
    exact h.linked

/-- The slots from some slot on. -/
theorem Exact.addReadies (h : Exact s known) (rfds : Finset ℤ) (slots : List (Fin maxFdEvents))
    (n : ℕ) : ∃ s', Event.addReadies rfds slots n s = some s' ∧ Exact s' known := by
  induction slots generalizing s n with
  | nil => exact ⟨s, rfl, h⟩
  | cons i slots ih =>
    unfold Event.addReadies
    by_cases hn : n = 0
    · exact ⟨s, if_pos hn, h⟩
    rw [if_neg hn]
    rcases hrev : s.watchTable i with _ | rev
    · exact ih h n
    by_cases hready : (s.event rev).fd ∈ rfds
    · simp only [if_pos hready]
      obtain ⟨p, hp⟩ := h.linked
      obtain ⟨links, hadd, hprev⟩ := insertBefore_of_prev rev hp
      have hpend : addToList rev pendingList s = some { s with links := links } := by
        unfold addToList
        rw [hadd]
        rfl
      have hexact : Exact { s with links := links } known :=
        h.congr rfl rfl rfl (fun _ _ => rfl) (Finset.Subset.refl known) h.free ⟨rev, hprev⟩
      rw [hpend]
      show ∃ s', Event.addReadies rfds slots (n - 1)
        (if (s.event rev).persist then { s with links := links }
          else Event.removeWatch rev i { s with links := links }) = some s' ∧ _
      by_cases hpersist : (s.event rev).persist = true
      · rw [if_pos hpersist]
        exact ih hexact (n - 1)
      · rw [if_neg hpersist]
        exact ih (hexact.removeWatch hrev) (n - 1)
    · simp only [if_neg hready]
      exact ih h n

/-- **`processReadReadies`** does not fail and keeps the table exact. -/
theorem Exact.processReadReadies (h : Exact s known) (rfds : Finset ℤ) (n : ℕ) :
    ∃ s', Event.processReadReadies rfds n s = some s' ∧ Exact s' known :=
  h.addReadies rfds _ n

/-! ### All runs -/

/-- **One step** is taken, and keeps the table exact. -/
theorem Exact.step {t : TableState} (h : Exact t.ev t.known) {a : TableAction}
    (ha : t.Allowed a) : ∃ t', t.step a = some t' ∧ Exact t'.ev t'.known := by
  cases a with
  | set ev fd persist func =>
    obtain ⟨-, hpending, hev⟩ := ha
    exact ⟨_, rfl, h.eventSet hpending hev fd persist func⟩
  | add ev =>
    obtain ⟨hknown, hfits, hev⟩ := ha
    exact ⟨_, rfl, h.eventAdd hknown hfits hev⟩
  | del ev => exact ⟨_, rfl, h.eventDel ha⟩
  | processReadReadies rfds n =>
    obtain ⟨s', hrun, hexact⟩ := h.processReadReadies rfds n
    refine ⟨{ t with ev := s' }, ?_, hexact⟩
    show (Event.processReadReadies rfds n t.ev).map _ = _
    rw [hrun]
    rfl

theorem exact_of_reaches {t : TableState} (h : Reaches tableSystem TableState.Allowed t) :
    Exact t.ev t.known := by
  refine h.invariant (I := fun t => Exact t.ev t.known) exact_eventInit ?_
  intro t t' a hexact ha hst
  obtain ⟨u, hu, hnext⟩ := hexact.step ha
  obtain rfl := Option.some.inj (hu.symm.trans hst)
  exact hnext

/-- The largest descriptor watched. -/
theorem Exact.isGreatest (h : Exact s known) (hev : s.Watched ev) :
    IsGreatest {fd | ∃ e, s.Watched e ∧ (s.event e).fd = fd} (s.nfds - 1) := by
  constructor
  · obtain ⟨last, hmem, hmax⟩ := h.top ev hev
    exact ⟨last, hmem, by omega⟩
  · rintro fd ⟨e, he, rfl⟩
    have hlt := h.fd_lt e he
    omega

/-- The index of an event is its slot, or `-1`. -/
theorem Exact.index_iff (h : Exact s known) (hev : ev ∈ known) (k : ℤ) :
    (∃ i : Fin maxFdEvents, (i : ℤ) = k ∧ s.watchTable i = some ev) ↔
      (s.event ev).index = k ∧ 0 ≤ k := by
  constructor
  · rintro ⟨i, rfl, hi⟩
    exact ⟨h.index i ev hi, Int.natCast_nonneg _⟩
  · rintro ⟨rfl, hpos⟩
    by_cases hwatched : s.Watched ev
    · obtain ⟨i, hi⟩ := hwatched
      exact ⟨i, (h.index i ev hi).symm, hi⟩
    · rw [h.free ev hev hwatched] at hpos
      exact absurd hpos (by decide)

/-- `select` is never asked about a descriptor that does not fit. -/
theorem Exact.nfds_le (h : Exact s known) : s.nfds ≤ fdSetsize := by
  by_cases hsome : ∃ e, s.Watched e
  · obtain ⟨e, he⟩ := hsome
    obtain ⟨last, hmem, hmax⟩ := h.top e he
    have hfits := h.fits last hmem
    omega
  · have hone := h.empty fun e he => hsome ⟨e, he⟩
    unfold fdSetsize
    omega

/-- **The event table is exact** in every run: an event's index is its slot; `readFds` is the set of
the descriptors watched; `nfds` is above them all, and one more than the largest.  Every step the
callers may take is taken, and an event that is added is watched while a slot is free. -/
theorem watchTable_exact {t : TableState} (h : Reaches tableSystem TableState.Allowed t) :
    (∀ ev ∈ t.known, ∀ k : ℤ, (∃ i : Fin maxFdEvents, (i : ℤ) = k ∧
      t.ev.watchTable i = some ev) ↔ (t.ev.event ev).index = k ∧ 0 ≤ k) ∧
    (∀ ev, t.ev.Watched ev → ev ∈ t.known) ∧
    (∀ fd, fd ∈ t.ev.readFds ↔ ∃ ev, t.ev.Watched ev ∧ (t.ev.event ev).fd = fd) ∧
    (∀ ev, t.ev.Watched ev → (t.ev.event ev).fd < t.ev.nfds) ∧
    ((∃ ev, t.ev.Watched ev) →
      IsGreatest {fd | ∃ ev, t.ev.Watched ev ∧ (t.ev.event ev).fd = fd} (t.ev.nfds - 1)) ∧
    t.ev.nfds ≤ fdSetsize ∧
    (∀ a, t.Allowed a → t.step a ≠ none) ∧
    ∀ ev, (∃ j, t.ev.watchTable j = none) →
      ∃ t', t.step (.add ev) = some t' ∧ ∀ e, t'.ev.Watched e ↔ t.ev.Watched e ∨ e = ev := by
  have hexact := exact_of_reaches h
  refine ⟨fun ev hev k => hexact.index_iff hev k, hexact.watched, ?_, hexact.fd_lt, ?_,
    hexact.nfds_le, ?_, ?_⟩
  · intro fd
    constructor
    · exact hexact.mem_fd fd
    · rintro ⟨ev, hev, rfl⟩
      exact hexact.fd_mem ev hev
  · rintro ⟨ev, hev⟩
    exact hexact.isGreatest hev
  · intro a ha
    obtain ⟨t', hst, -⟩ := hexact.step ha
    rw [hst]
    exact Option.some_ne_none t'
  · rintro ev ⟨j, hj⟩
    obtain ⟨i, hi, htable⟩ := eventAdd_of_free hj ev
    exact ⟨_, rfl, watched_update htable hi⟩

/-- The larger of two descriptors is ready and leaves the table, and its event is added again. -/
theorem readded_exact : ∃ t, Reaches tableSystem TableState.Allowed t ∧ t.ev.Watched 10 ∧
    t.ev.nfds = 6 ∧ IsGreatest {fd | ∃ ev, t.ev.Watched ev ∧ (t.ev.event ev).fd = fd} 5 := by
  have hrun : (exec tableSystem TableState.Allowed tableSystem.init
      [.set 10 5 false .other, .add 10, .set 11 3 true .other, .add 11,
        .processReadReadies {3, 5} 2, .add 10]).any
      (fun t => t.ev.Watched 10 ∧ t.ev.nfds = 6) = true := by decide +kernel
  obtain ⟨t, ht, hstate⟩ := (Option.any_eq_true _ _).mp hrun
  obtain ⟨hwatched, hnfds⟩ := of_decide_eq_true hstate
  have hreach := reaches_of_exec ht
  obtain ⟨-, -, -, -, hgreatest, -⟩ := watchTable_exact hreach
  have htop := hgreatest ⟨10, hwatched⟩
  rw [hnfds] at htop
  exact ⟨t, hreach, hwatched, hnfds, htop⟩

end CtpCommon.Event
