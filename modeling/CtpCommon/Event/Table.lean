import CtpCommon.Event.Lists

/-!
# The watched descriptors

`watch_table`, `readFds` and `nfds` are changed together, and `select` is called with the last
two.

* `Table s` — the three agree: every watched event knows its slot, and its descriptor is in
  `readFds` and below `nfds`;
* `Table.removeWatch`, `Table.eventAdd`, `Table.eventDel` — **PROVED**: the functions keep this,
  for events whose descriptors are distinct;
* `Table.processReadReadies` — **PROVED**: ready events are appended to the pending list, and
  those that are not persistent leave the table.
-/

namespace CtpCommon.Event

open LinkedRing

/-- The table, the descriptor set and its bound agree. -/
structure Table (s : EventState) : Prop where
  index : ∀ i ev, s.watchTable i = some ev → (s.event ev).index = i
  fd_nonneg : ∀ ev, s.Watched ev → 0 ≤ (s.event ev).fd
  fd_mem : ∀ ev, s.Watched ev → (s.event ev).fd ∈ s.readFds
  fd_lt : ∀ ev, s.Watched ev → (s.event ev).fd < s.nfds
  fd_inj : ∀ a b, s.Watched a → s.Watched b → (s.event a).fd = (s.event b).fd → a = b

variable {s s' : EventState} {ts ps : List ℕ} {ev : ℕ} {i : Fin maxFdEvents}

/-- An event has one slot. -/
theorem Table.slot_inj (h : Table s) {j : Fin maxFdEvents} (hi : s.watchTable i = some ev)
    (hj : s.watchTable j = some ev) : i = j := by
  have hij : (i : ℤ) = (j : ℤ) := (h.index i ev hi).symm.trans (h.index j ev hj)
  exact Fin.ext (by exact_mod_cast hij)

/-- Only the table, the descriptors and the watched events matter. -/
theorem Table.congr (h : Table s) (htable : s'.watchTable = s.watchTable)
    (hfds : s'.readFds = s.readFds) (hnfds : s'.nfds = s.nfds)
    (hevent : ∀ e, s.Watched e → s'.event e = s.event e) : Table s' := by
  have hw : ∀ e, s'.Watched e → s.Watched e := by
    rintro e ⟨i, hi⟩
    exact ⟨i, htable ▸ hi⟩
  refine ⟨?_, ?_, ?_, ?_, ?_⟩
  · intro i e hi
    rw [htable] at hi
    rw [hevent e ⟨i, hi⟩]
    exact h.index i e hi
  · intro e he
    rw [hevent e (hw e he)]
    exact h.fd_nonneg e (hw e he)
  · intro e he
    rw [hevent e (hw e he), hfds]
    exact h.fd_mem e (hw e he)
  · intro e he
    rw [hevent e (hw e he), hnfds]
    exact h.fd_lt e (hw e he)
  · intro a b ha hb hab
    rw [hevent a (hw a ha), hevent b (hw b hb)] at hab
    exact h.fd_inj a b (hw a ha) (hw b hb) hab

/-! ### Removal -/

/-- No watched descriptor is larger than the largest. -/
theorem le_largestFd (h : s.Watched ev) : (s.event ev).fd ≤ largestFd s := by
  obtain ⟨i, hi⟩ := h
  have hstep : ∀ n j, n ≤ largerFd s n j := by
    intro n j
    unfold largerFd
    split
    · split <;> omega
    · exact le_refl _
  have hmono : ∀ (l : List (Fin maxFdEvents)) (n : ℤ), n ≤ l.foldl (largerFd s) n := by
    intro l
    induction l with
    | nil => intro n; exact le_refl _
    | cons j l ih => intro n; exact le_trans (hstep n j) (ih (largerFd s n j))
  have hbound : ∀ (l : List (Fin maxFdEvents)) (n : ℤ), i ∈ l →
      (s.event ev).fd ≤ l.foldl (largerFd s) n := by
    intro l
    induction l with
    | nil => intro n hmem; exact absurd hmem List.not_mem_nil
    | cons j l ih =>
      intro n hmem
      rcases List.mem_cons.mp hmem with rfl | hmem
      · have hfi : (s.event ev).fd ≤ largerFd s n i := by
          simp only [largerFd, hi]
          split <;> omega
        exact le_trans hfi (hmono l _)
      · exact ih (largerFd s n j) hmem
  exact hbound _ 0 (List.mem_finRange i)

theorem removeWatch_watchTable (ev : ℕ) (i : Fin maxFdEvents) (s : EventState) :
    (removeWatch ev i s).watchTable = Function.update s.watchTable i none := by
  unfold removeWatch
  extract_lets fd s₁
  split <;> rfl

theorem removeWatch_event (ev : ℕ) (i : Fin maxFdEvents) (s : EventState) :
    (removeWatch ev i s).event = Function.update s.event ev { s.event ev with index := -1 } := by
  unfold removeWatch
  extract_lets fd s₁
  split <;> rfl

theorem removeWatch_links (ev : ℕ) (i : Fin maxFdEvents) (s : EventState) :
    (removeWatch ev i s).links = s.links := by
  unfold removeWatch
  extract_lets fd s₁
  split <;> rfl

theorem removeWatch_readFds (ev : ℕ) (i : Fin maxFdEvents) (s : EventState) :
    (removeWatch ev i s).readFds = s.readFds.erase (s.event ev).fd := by
  unfold removeWatch
  extract_lets fd s₁
  split <;> rfl

/-- The bound is computed anew when it was that of the descriptor removed. -/
theorem removeWatch_nfds (ev : ℕ) (i : Fin maxFdEvents) (s : EventState) :
    (removeWatch ev i s).nfds = if (s.event ev).fd + 1 = s.nfds
      then largestFd (removeWatch ev i s) + 1 else s.nfds := by
  unfold removeWatch
  by_cases hlast : (s.event ev).fd + 1 = s.nfds
  · simp only [if_pos hlast]
    rfl
  · simp only [if_neg hlast]

/-- What is watched without the event of a slot. -/
theorem Table.watched_removeWatch (h : Table s) (hi : s.watchTable i = some ev) {e : ℕ} :
    (removeWatch ev i s).Watched e ↔ s.Watched e ∧ e ≠ ev := by
  unfold EventState.Watched
  rw [removeWatch_watchTable]
  constructor
  · rintro ⟨j, hj⟩
    by_cases hji : j = i
    · rw [hji, Function.update_self] at hj
      exact absurd hj (by simp)
    · rw [Function.update_of_ne hji] at hj
      refine ⟨⟨j, hj⟩, ?_⟩
      rintro rfl
      exact hji (h.slot_inj hj hi)
  · rintro ⟨⟨j, hj⟩, hne⟩
    have hji : j ≠ i := by
      rintro rfl
      exact hne (Option.some.inj (hj.symm.trans hi))
    exact ⟨j, by rw [Function.update_of_ne hji]; exact hj⟩

/-- **Removing a watched event** keeps the table. -/
theorem Table.removeWatch (h : Table s) (hi : s.watchTable i = some ev) :
    Table (removeWatch ev i s) := by
  have hw := fun e => h.watched_removeWatch hi (e := e)
  have hevent : ∀ e, e ≠ ev → (Event.removeWatch ev i s).event e = s.event e := by
    intro e he
    rw [removeWatch_event, Function.update_of_ne he]
  refine ⟨?_, ?_, ?_, ?_, ?_⟩
  · intro j e hj
    obtain ⟨-, hne⟩ := (hw e).mp ⟨j, hj⟩
    rw [removeWatch_watchTable] at hj
    rw [hevent e hne]
    by_cases hji : j = i
    · rw [hji, Function.update_self] at hj
      exact absurd hj (by simp)
    · rw [Function.update_of_ne hji] at hj
      exact h.index j e hj
  · intro e he
    obtain ⟨hwatched, hne⟩ := (hw e).mp he
    rw [hevent e hne]
    exact h.fd_nonneg e hwatched
  · intro e he
    obtain ⟨hwatched, hne⟩ := (hw e).mp he
    rw [hevent e hne, removeWatch_readFds]
    refine Finset.mem_erase.mpr ⟨fun hfd => hne ?_, h.fd_mem e hwatched⟩
    exact h.fd_inj e ev hwatched ⟨i, hi⟩ hfd
  · intro e he
    have hbound := le_largestFd he
    obtain ⟨hwatched, hne⟩ := (hw e).mp he
    have hlt := h.fd_lt e hwatched
    rw [hevent e hne] at hbound ⊢
    rw [removeWatch_nfds]
    by_cases hlast : (s.event ev).fd + 1 = s.nfds
    · rw [if_pos hlast]
      exact Int.lt_add_one_of_le hbound
    · rw [if_neg hlast]
      exact hlt
  · intro a b ha hb hab
    obtain ⟨hwa, hnea⟩ := (hw a).mp ha
    obtain ⟨hwb, hneb⟩ := (hw b).mp hb
    rw [hevent a hnea, hevent b hneb] at hab
    exact h.fd_inj a b hwa hwb hab

/-- An event may be deleted when it is watched, or knows that it is not. -/
def Deletable (s : EventState) (ev : ℕ) : Prop := s.Watched ev ∨ (s.event ev).index = -1

instance (s : EventState) (ev : ℕ) : Decidable (Deletable s ev) :=
  inferInstanceAs (Decidable (_ ∨ _))

/-- A watched event is removed from its slot. -/
theorem Table.eventDel_watched (h : Table s) (hi : s.watchTable i = some ev) :
    eventDel ev s = Event.removeWatch ev i s := by
  have hindex := h.index i ev hi
  unfold eventDel
  rw [dif_pos ⟨by omega, by have := i.isLt; omega⟩]
  congr 1
  exact Fin.ext (by simp [hindex])

/-- An event without a slot is left as it is. -/
theorem eventDel_of_index (hnone : (s.event ev).index = -1) : eventDel ev s = s := by
  unfold eventDel
  rw [dif_neg]
  rintro ⟨hpos, -⟩
  omega

/-- **`ril_event_del`** does nothing, or removes the event from its slot. -/
theorem Table.eventDel_cases (h : Table s) (hev : Deletable s ev) :
    eventDel ev s = s ∨
      ∃ i, s.watchTable i = some ev ∧ eventDel ev s = Event.removeWatch ev i s := by
  rcases hev with ⟨i, hi⟩ | hnone
  · exact .inr ⟨i, hi, h.eventDel_watched hi⟩
  · exact .inl (eventDel_of_index hnone)

/-! ### Adding -/

/-- An event may be added when it is not watched, and its descriptor is none of those watched. -/
def Addable (s : EventState) (ev : ℕ) : Prop :=
  0 ≤ (s.event ev).fd ∧ ¬ s.Watched ev ∧
    ∀ i rev, s.watchTable i = some rev → (s.event rev).fd ≠ (s.event ev).fd

instance (s : EventState) (ev : ℕ) : Decidable (Addable s ev) :=
  decidable_of_iff (0 ≤ (s.event ev).fd ∧ ¬ s.Watched ev ∧
      ∀ i, ∀ rev ∈ s.watchTable i, (s.event rev).fd ≠ (s.event ev).fd) Iff.rfl

/-- **`ril_event_add`** does nothing when the table is full, else the event is watched too. -/
theorem eventAdd_cases (ev : ℕ) (s : EventState) :
    eventAdd ev s = s ∨ ∃ i, s.watchTable i = none ∧ eventAdd ev s =
      { s with
        watchTable := Function.update s.watchTable i (some ev)
        event := Function.update s.event ev { s.event ev with index := i }
        readFds := insert (s.event ev).fd s.readFds
        nfds := if s.nfds ≤ (s.event ev).fd then (s.event ev).fd + 1 else s.nfds } := by
  unfold eventAdd
  rcases hslot : freeSlot s with _ | i
  · exact .inl rfl
  · exact .inr ⟨i, by simpa using List.find?_some hslot, rfl⟩

theorem Table.eventAdd (h : Table s) (hev : Addable s ev) :
    Table (eventAdd ev s) ∧ ∀ e, (Event.eventAdd ev s).Watched e → s.Watched e ∨ e = ev := by
  obtain ⟨hpos, hnew, hfds⟩ := hev
  rcases eventAdd_cases ev s with hsame | ⟨i, hi, heq⟩
  · rw [hsame]
    exact ⟨h, fun e he => .inl he⟩
  rw [heq]
  generalize hs' : ({ s with
    watchTable := Function.update s.watchTable i (some ev)
    event := Function.update s.event ev { s.event ev with index := i }
    readFds := insert (s.event ev).fd s.readFds
    nfds := if s.nfds ≤ (s.event ev).fd then (s.event ev).fd + 1 else s.nfds } : EventState) = s'
  have htable : s'.watchTable = Function.update s.watchTable i (some ev) := by rw [← hs']
  have hreadFds : s'.readFds = insert (s.event ev).fd s.readFds := by rw [← hs']
  have hfd : ∀ e, (s'.event e).fd = (s.event e).fd := by
    intro e
    rw [← hs']
    by_cases hee : e = ev
    · simp [hee]
    · simp [hee]
  have hnfds : s.nfds ≤ s'.nfds ∧ (s.event ev).fd < s'.nfds := by
    rw [← hs']
    by_cases hle : s.nfds ≤ (s.event ev).fd
    · simp only [if_pos hle]
      omega
    · simp only [if_neg hle]
      omega
  have hw : ∀ e, s'.Watched e → s.Watched e ∨ e = ev := by
    rintro e ⟨j, hj⟩
    rw [htable] at hj
    by_cases hji : j = i
    · rw [hji, Function.update_self] at hj
      exact .inr (Option.some.inj hj).symm
    · rw [Function.update_of_ne hji] at hj
      exact .inl ⟨j, hj⟩
  refine ⟨⟨?_, ?_, ?_, ?_, ?_⟩, hw⟩
  · intro j e hj
    rw [htable] at hj
    by_cases hji : j = i
    · rw [hji, Function.update_self] at hj
      obtain rfl := Option.some.inj hj
      rw [← hs', hji]
      simp
    · rw [Function.update_of_ne hji] at hj
      have hne : e ≠ ev := by
        rintro rfl
        exact hnew ⟨j, hj⟩
      rw [← hs']
      simpa [hne] using h.index j e hj
  · intro e he
    rw [hfd]
    rcases hw e he with hold | rfl
    · exact h.fd_nonneg e hold
    · exact hpos
  · intro e he
    rw [hfd, hreadFds]
    rcases hw e he with hold | rfl
    · exact Finset.mem_insert_of_mem (h.fd_mem e hold)
    · exact Finset.mem_insert_self _ _
  · intro e he
    rw [hfd]
    rcases hw e he with hold | rfl
    · exact lt_of_lt_of_le (h.fd_lt e hold) hnfds.1
    · exact hnfds.2
  · intro a b ha hb hab
    rw [hfd, hfd] at hab
    rcases hw a ha with ⟨j, hj⟩ | rfl
    · rcases hw b hb with hb | rfl
      · exact h.fd_inj a b ⟨j, hj⟩ hb hab
      · exact absurd hab (hfds j a hj)
    · rcases hw b hb with ⟨j, hj⟩ | rfl
      · exact absurd hab.symm (hfds j b hj)
      · rfl

/-! ### Ready descriptors -/

/-- Two states differ in the slots their events know, and not in the rest of the events. -/
def SameEvents (s s' : EventState) : Prop :=
  ∀ e, (s'.event e).fd = (s.event e).fd ∧ (s'.event e).timeout = (s.event e).timeout ∧
    (s'.event e).func = (s.event e).func

theorem SameEvents.refl (s : EventState) : SameEvents s s := fun _ => ⟨rfl, rfl, rfl⟩

theorem SameEvents.trans {u : EventState} (h₁ : SameEvents s s') (h₂ : SameEvents s' u) :
    SameEvents s u := by
  intro e
  obtain ⟨a₁, a₂, a₃⟩ := h₁ e
  obtain ⟨b₁, b₂, b₃⟩ := h₂ e
  exact ⟨b₁.trans a₁, b₂.trans a₂, b₃.trans a₃⟩

theorem sameEvents_removeWatch (ev : ℕ) (i : Fin maxFdEvents) (s : EventState) :
    SameEvents s (removeWatch ev i s) := by
  intro e
  rw [removeWatch_event]
  by_cases he : e = ev
  · subst he
    rw [Function.update_self]
    exact ⟨rfl, rfl, rfl⟩
  · rw [Function.update_of_ne he]
    exact ⟨rfl, rfl, rfl⟩

/-- The walk over the slots. -/
theorem Table.addReadies (h : Table s) (hlists : Lists s ts ps) {slots : List (Fin maxFdEvents)}
    (hslots : slots.Nodup)
    (hun : ∀ i ∈ slots, ∀ e, s.watchTable i = some e → s.Unlinked e) (rfds : Finset ℤ) (n : ℕ) :
    ∃ s' l, addReadies rfds slots n s = some s' ∧ Lists s' ts (ps ++ l) ∧ Table s' ∧
      SameEvents s s' ∧ (∀ e ∈ l, s.Watched e) ∧ ∀ e, s'.Watched e → s.Watched e := by
  have hnone : ∃ s' l, some s = some s' ∧ Lists s' ts (ps ++ l) ∧ Table s' ∧ SameEvents s s' ∧
      (∀ e ∈ l, s.Watched e) ∧ ∀ e, s'.Watched e → s.Watched e := by
    refine ⟨s, [], rfl, ?_, h, SameEvents.refl s, ?_, fun _ he => he⟩
    · rw [List.append_nil]
      exact hlists
    · intro e he
      exact absurd he List.not_mem_nil
  induction slots generalizing s ps n with
  | nil => exact hnone
  | cons i slots ih =>
    obtain ⟨hi, hslots'⟩ := List.nodup_cons.mp hslots
    have hun' : ∀ j ∈ slots, ∀ e, s.watchTable j = some e → s.Unlinked e :=
      fun j hj => hun j (List.mem_cons_of_mem _ hj)
    unfold Event.addReadies
    by_cases hn : n = 0
    · rw [if_pos hn]
      exact hnone
    rw [if_neg hn]
    rcases hrev : s.watchTable i with _ | rev
    · exact ih h hlists hslots' hun' n hnone
    by_cases hready : (s.event rev).fd ∈ rfds
    · simp only [if_pos hready]
      obtain ⟨links, hadd, hlists₁⟩ := hlists.enqueue (hun i (List.mem_cons_self ..) rev hrev)
      rw [hadd]
      -- the state after the table has been updated, if it is
      obtain ⟨u, hu, hlinks, htable, hsame, hwatched, hslot⟩ : ∃ u : EventState,
          (if (s.event rev).persist then { s with links := links }
            else Event.removeWatch rev i { s with links := links }) = u ∧
          u.links = links ∧ Table u ∧ SameEvents s u ∧ (∀ e, u.Watched e → s.Watched e) ∧
          ∀ j, j ≠ i → u.watchTable j = s.watchTable j := by
        have h₁ : Table { s with links := links } := h.congr rfl rfl rfl fun _ _ => rfl
        by_cases hpersist : (s.event rev).persist = true
        · refine ⟨_, if_pos hpersist, rfl, h₁, SameEvents.refl _, fun _ he => he, fun _ _ => rfl⟩
        · refine ⟨_, if_neg hpersist, removeWatch_links .., h₁.removeWatch hrev,
            sameEvents_removeWatch rev i { s with links := links },
            fun e he => ((h₁.watched_removeWatch hrev).mp he).1, ?_⟩
          intro j hj
          rw [removeWatch_watchTable, Function.update_of_ne hj]
      show ∃ s' l, Event.addReadies rfds slots (n - 1)
        (if (s.event rev).persist then { s with links := links }
          else Event.removeWatch rev i { s with links := links }) = some s' ∧ _
      rw [hu]
      have hlists₂ : Lists u ts (ps ++ [rev]) := hlists₁.congr hlinks
      have hun₂ : ∀ j ∈ slots, ∀ e, u.watchTable j = some e → u.Unlinked e := by
        intro j hj e he
        have hji : j ≠ i := fun hji => hi (hji ▸ hj)
        rw [hslot j hji] at he
        have hne : e ≠ rev := by
          rintro rfl
          exact hji (h.slot_inj he hrev)
        have hold := hun' j hj e he
        refine hlists₂.unlinked e ?_ ?_
        · exact (hlists.notMem hold).1
        · intro hmem
          rcases List.mem_cons.mp hmem with rfl | hmem
          · exact (hlists.notMem hold).2 (List.mem_cons_self ..)
          · rcases List.mem_append.mp hmem with hmem | hmem
            · exact hlists.notMem_pending hold hmem
            · exact hne (List.mem_singleton.mp hmem)
      obtain ⟨s', l, hrun, hlists', htable', hsame', hl, hw⟩ := ih htable hlists₂ hslots' hun₂
        (n - 1) ⟨u, [], rfl, by rw [List.append_nil]; exact hlists₂, htable, SameEvents.refl u,
          by simp, fun _ he => he⟩
      refine ⟨s', rev :: l, hrun, ?_, htable', hsame.trans hsame', ?_,
        fun e he => hwatched e (hw e he)⟩
      · rw [show ps ++ rev :: l = (ps ++ [rev]) ++ l by simp]
        exact hlists'
      · intro e he
        rcases List.mem_cons.mp he with rfl | he
        · exact ⟨i, hrev⟩
        · exact hwatched e (hl e he)
    · simp only [if_neg hready]
      exact ih h hlists hslots' hun' n hnone

/-- **`processReadReadies`** appends watched events to the pending list. -/
theorem Table.processReadReadies (h : Table s) (hlists : Lists s ts ps)
    (hun : ∀ e, s.Watched e → s.Unlinked e) (rfds : Finset ℤ) (n : ℕ) :
    ∃ s' l, processReadReadies rfds n s = some s' ∧ Lists s' ts (ps ++ l) ∧ Table s' ∧
      SameEvents s s' ∧ (∀ e ∈ l, s.Watched e) ∧ ∀ e, s'.Watched e → s.Watched e :=
  h.addReadies hlists (List.nodup_finRange _) (fun i _ e he => hun e ⟨i, he⟩) rfds n

end CtpCommon.Event
