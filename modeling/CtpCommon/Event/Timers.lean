import CtpCommon.Event.Loop

/-!
# The timer service

What holds of the two lists and of the timers fired in every run of the loop.

* `Queued s ts pts pfd` — the timers `ts`, and on the pending list the expired timers `pts` before
  the ready events `pfd`; each function keeps this, for lists of its own;
* `Logged s ts pts` — every timer added is on a list or was fired, once and after its timeout;
* `timer_service` — **PROVED**: the timers are sorted, none is skipped when it has expired, each is
  fired at most once and late enough, and those of one round in the order of their timeouts.
-/

namespace CtpCommon.Event

open Runs (Reachable)

/-! ### The lists and the table -/

/-- The timers `ts`; pending, the expired timers `pts` and after them the ready events `pfd`. -/
structure Queued (s : EventState) (ts pts pfd : List ℕ) : Prop where
  lists : Lists s ts (pts ++ pfd)
  table : Table s
  times : NormalTimes s
  timer_fd : ∀ e ∈ timerList :: pendingList :: (ts ++ pts), (s.event e).fd = -1
  ready_fd : ∀ e ∈ pfd, 0 ≤ (s.event e).fd
  sorted : ts.Pairwise (NotAfter s)
  batch_sorted : pts.Pairwise (NotAfter s)

variable {s s' : EventState} {ts pts pfd : List ℕ} {ev : ℕ}

theorem Lists.linked {ps : List ℕ} (h : Lists s ts ps) {e : ℕ}
    (he : e ∈ timerList :: pendingList :: (ts ++ ps)) : ¬ s.Unlinked e := by
  intro hun
  obtain ⟨ht, hp⟩ := h.notMem hun
  simp only [List.mem_cons, List.mem_append] at he ht hp
  tauto

/-- Only the linked events and the table matter. -/
theorem Queued.congr (h : Queued s ts pts pfd) (hlists : Lists s' ts (pts ++ pfd))
    (htable : Table s') (htimes : NormalTimes s')
    (hsame : ∀ e, ¬ s.Unlinked e →
      (s'.event e).fd = (s.event e).fd ∧ (s'.event e).timeout = (s.event e).timeout) :
    Queued s' ts pts pfd := by
  have hlinked := fun e he => hsame e (h.lists.linked (e := e) he)
  have hdue : ∀ e ∈ ts ++ pts, s'.due e = s.due e := by
    intro e he
    have hmem : e ∈ timerList :: pendingList :: (ts ++ (pts ++ pfd)) := by
      simp only [List.mem_cons, List.mem_append] at he ⊢
      tauto
    unfold EventState.due
    rw [(hlinked e hmem).2]
  refine ⟨hlists, htable, htimes, ?_, ?_, ?_, ?_⟩
  · intro e he
    rw [(hlinked e _).1]
    · exact h.timer_fd e he
    · simp only [List.mem_cons, List.mem_append] at he ⊢
      tauto
  · intro e he
    rw [(hlinked e _).1]
    · exact h.ready_fd e he
    · simp only [List.mem_cons, List.mem_append]
      tauto
  · refine h.sorted.imp_of_mem ?_
    intro a b ha hb hab
    show s'.due a ≤ s'.due b
    rw [hdue a (List.mem_append_left _ ha), hdue b (List.mem_append_left _ hb)]
    exact hab
  · refine h.batch_sorted.imp_of_mem ?_
    intro a b ha hb hab
    show s'.due a ≤ s'.due b
    rw [hdue a (List.mem_append_right _ ha), hdue b (List.mem_append_right _ hb)]
    exact hab

/-- A watched event is no timer and no sentinel. -/
theorem Queued.watched_unlinked (h : Queued s ts pts []) (hw : s.Watched ev) :
    s.Unlinked ev := by
  have hpos := h.table.fd_nonneg ev hw
  have hnot : ev ∉ timerList :: pendingList :: (ts ++ pts) := by
    intro hmem
    have hfd := h.timer_fd ev hmem
    omega
  simp only [List.mem_cons, List.mem_append] at hnot
  refine h.lists.unlinked ev ?_ ?_
  · simp only [List.mem_cons]
    tauto
  · simp only [List.mem_cons, List.append_nil]
    tauto

theorem queued_eventInit : Queued eventInit [] [] [] := by
  refine ⟨lists_eventInit, ⟨?_, ?_, ?_, ?_, ?_⟩, ?_, ?_, ?_, List.Pairwise.nil,
    List.Pairwise.nil⟩
  · intro i e he
    exact absurd he (by simp [eventInit, initList])
  · rintro e ⟨i, hi⟩
    exact absurd hi (by simp [eventInit, initList])
  · rintro e ⟨i, hi⟩
    exact absurd hi (by simp [eventInit, initList])
  · rintro e ⟨i, hi⟩
    exact absurd hi (by simp [eventInit, initList])
  · rintro a b ⟨i, hi⟩ _ _
    exact absurd hi (by simp [eventInit, initList])
  · intro e
    simp only [eventInit, initList, Function.update_apply]
    split_ifs <;> decide
  · intro e he
    simp only [List.append_nil, List.mem_cons, List.not_mem_nil, or_false] at he
    rcases he with rfl | rfl <;> rfl
  · intro e he
    exact absurd he List.not_mem_nil

/-! ### The functions -/

/-- Changes of the table leave the lists alone. -/
theorem Queued.sameEvents (h : Queued s ts pts pfd) (hlinks : s'.links = s.links)
    (hsame : SameEvents s s') (htable : Table s') : Queued s' ts pts pfd := by
  refine h.congr (h.lists.congr hlinks) htable ?_ fun e _ => ⟨(hsame e).1, (hsame e).2.1⟩
  intro e
  rw [(hsame e).2.1]
  exact h.times e

theorem sameEvents_eventAdd (ev : ℕ) (s : EventState) :
    SameEvents s (eventAdd ev s) ∧ (eventAdd ev s).links = s.links := by
  rcases eventAdd_cases ev s with hsame | ⟨i, -, heq⟩
  · rw [hsame]
    exact ⟨SameEvents.refl s, rfl⟩
  · rw [heq]
    refine ⟨?_, rfl⟩
    intro e
    by_cases he : e = ev
    · subst he
      simp
    · simp [he]

theorem Queued.eventAdd (h : Queued s ts pts pfd) (hev : Addable s ev) :
    Queued (eventAdd ev s) ts pts pfd :=
  h.sameEvents (sameEvents_eventAdd ev s).2 (sameEvents_eventAdd ev s).1 (h.table.eventAdd hev).1

theorem Queued.eventDel (h : Queued s ts pts pfd) (hev : Deletable s ev) :
    Queued (eventDel ev s) ts pts pfd ∧ SameEvents s (Event.eventDel ev s) := by
  rcases h.table.eventDel_cases hev with hsame | ⟨i, hi, heq⟩
  · rw [hsame]
    exact ⟨h, SameEvents.refl s⟩
  · rw [heq]
    exact ⟨h.sameEvents (removeWatch_links ev i s) (sameEvents_removeWatch ev i s)
      (h.table.removeWatch hi), sameEvents_removeWatch ev i s⟩

theorem eventSet_event {fd : ℤ} {persist : Bool} {func : EventFunc} {e : ℕ} (he : e ≠ ev) :
    (eventSet ev fd persist func s).event e = s.event e :=
  Function.update_of_ne he _ _

theorem Queued.eventSet (h : Queued s ts pts pfd) (hfresh : Fresh s ev) {fd : ℤ} {persist : Bool}
    {func : EventFunc} : Queued (eventSet ev fd persist func s) ts pts pfd := by
  obtain ⟨hun, hwatch⟩ := hfresh
  have hne : ∀ e, ¬ s.Unlinked e → e ≠ ev := by
    rintro e he rfl
    exact he hun
  refine h.congr ?_ ?_ ?_ fun e he => by rw [eventSet_event (hne e he)]; exact ⟨rfl, rfl⟩
  · have hnext : ∀ q, (Event.eventSet ev fd persist func s).links.next q = s.links.next q := by
      intro q
      show ((s.links.setNext ev none).setPrev ev none).next q = _
      rw [LinkedRing.Links.setPrev_next, LinkedRing.Links.setNext_next]
      by_cases hq : q = ev
      · rw [if_pos hq, hq]
        exact hun.symm
      · rw [if_neg hq]
    have hprev : ∀ q, q ≠ ev →
        (Event.eventSet ev fd persist func s).links.prev q = s.links.prev q := by
      intro q hq
      show ((s.links.setNext ev none).setPrev ev none).prev q = _
      rw [LinkedRing.Links.setPrev_prev, if_neg hq]
      rfl
    obtain ⟨hleft, hright⟩ := h.lists.notMem hun
    refine ⟨h.lists.left.frame ?_, h.lists.right.frame ?_, h.lists.disjoint, ?_⟩
    · intro q hq
      exact ⟨hnext q, hprev q fun hqe => hleft (hqe ▸ hq)⟩
    · intro q hq
      exact ⟨hnext q, hprev q fun hqe => hright (hqe ▸ hq)⟩
    · intro q hq hq'
      rw [hnext]
      exact h.lists.unlinked q hq hq'
  · refine h.table.congr rfl rfl rfl fun e he => eventSet_event ?_
    rintro rfl
    exact hwatch he
  · intro e
    by_cases he : e = ev
    · subst he
      show (Function.update s.event e _ e).timeout.Normal
      rw [Function.update_self]
      show Timeval.Normal ⟨0, 0⟩
      decide
    · rw [eventSet_event he]
      exact h.times e

/-- What a new timer changes. -/
structure TimerAdded (s s' : EventState) (ev : ℕ) (timeout : Timeval) : Prop where
  timeout_eq : (s'.event ev).timeout = timeout
  event : ∀ e, e ≠ ev → s'.event e = s.event e
  watchTable : s'.watchTable = s.watchTable
  readFds : s'.readFds = s.readFds
  nfds : s'.nfds = s.nfds

theorem Queued.timerAdd (h : Queued s ts pts pfd) (hfresh : Fresh s ev) {tv now : Timeval}
    (hnow : now.Normal) (htv : tv.Normal) {fuel : ℕ} (hfuel : ts.length < fuel) :
    ∃ s' ts', timerAdd fuel ev (some tv) now s = some s' ∧ Queued s' ts' pts pfd ∧
      ts'.Perm (ev :: ts) ∧ TimerAdded s s' ev (timeradd now tv) := by
  obtain ⟨hun, hwatch⟩ := hfresh
  obtain ⟨links, hrun, hlists, htimes⟩ := h.lists.timerAdd hun h.times hnow htv hfuel
  generalize hu : ({ setTimeout ev (timeradd now tv) s with links := links } : EventState) = u
    at hrun hlists
  have hevent : ∀ e, e ≠ ev → u.event e = s.event e := by
    intro e he
    rw [← hu]
    exact Function.update_of_ne he _ _
  have hself : u.event ev = { s.event ev with fd := -1, timeout := timeradd now tv } := by
    rw [← hu]
    exact Function.update_self ..
  have hdue : ∀ e, e ≠ ev → u.due e = s.due e := by
    intro e he
    unfold EventState.due
    rw [hevent e he]
  have hnots := h.lists.notMem hun
  simp only [List.mem_cons, List.mem_append, not_or] at hnots
  obtain ⟨⟨hne₀, hts⟩, hne₁, hpts, hpfd⟩ := hnots
  have hsorted : ts.Pairwise (NotAfter (setTimeout ev (timeradd now tv) s)) := by
    refine h.sorted.imp_of_mem ?_
    intro a b ha hb hab
    show (setTimeout ev (timeradd now tv) s).due a ≤ (setTimeout ev (timeradd now tv) s).due b
    have hu' : ∀ e, (setTimeout ev (timeradd now tv) s).due e = u.due e := by
      intro e
      rw [← hu]
      rfl
    rw [hu', hu', hdue a fun hae => hts (hae ▸ ha), hdue b fun hbe => hts (hbe ▸ hb)]
    exact hab
  refine ⟨u, _, hrun, ⟨hlists, ?_, ?_, ?_, ?_, ?_, ?_⟩, List.perm_orderedInsert _ ev ts, ?_⟩
  · refine h.table.congr ?_ ?_ ?_ fun e he => hevent e ?_
    · rw [← hu]; rfl
    · rw [← hu]; rfl
    · rw [← hu]; rfl
    · rintro rfl
      exact hwatch he
  · intro e
    have hnormal := htimes e
    rw [← hu]
    exact hnormal
  · intro e he
    by_cases hee : e = ev
    · rw [hee, hself]
    · rw [hevent e hee]
      refine h.timer_fd e ?_
      simp only [List.mem_cons, List.mem_append, List.mem_orderedInsert] at he ⊢
      tauto
  · intro e he
    rw [hevent e fun hee => hpfd (hee ▸ he)]
    exact h.ready_fd e he
  · have hins := hsorted.orderedInsert ev
    refine hins.imp ?_
    intro a b hab
    rw [← hu]
    exact hab
  · refine h.batch_sorted.imp_of_mem ?_
    intro a b ha hb hab
    show u.due a ≤ u.due b
    rw [hdue a fun hae => hpts (hae ▸ ha), hdue b fun hbe => hpts (hbe ▸ hb)]
    exact hab
  · refine ⟨by rw [hself], hevent, ?_, ?_, ?_⟩
    · rw [← hu]; rfl
    · rw [← hu]; rfl
    · rw [← hu]; rfl

/-- The expired timers become the batch. -/
theorem Queued.processTimeouts (h : Queued s ts [] []) {now : Timeval} (hnow : now.Normal)
    {fuel : ℕ} (hfuel : ts.length < fuel) :
    ∃ s', processTimeouts fuel now s = some s' ∧
      Queued s' (ts.dropWhile (Expired s now)) (ts.takeWhile (Expired s now)) [] ∧
      s'.event = s.event ∧ s'.watchTable = s.watchTable := by
  obtain ⟨links, hrun, hlists⟩ := h.lists.processTimeouts h.times hnow hfuel
  refine ⟨_, hrun, ⟨?_, ?_, h.times, ?_, ?_, ?_, ?_⟩, rfl, rfl⟩
  · rw [List.append_nil]
    exact hlists
  · exact h.table.congr rfl rfl rfl fun _ _ => rfl
  · intro e he
    refine h.timer_fd e ?_
    simp only [List.mem_cons, List.mem_append, List.append_nil] at he ⊢
    rcases he with he | he | he | he
    · exact .inl he
    · exact .inr (.inl he)
    · exact .inr (.inr ((List.dropWhile_sublist _).subset he))
    · exact .inr (.inr ((List.takeWhile_sublist _).subset he))
  · intro e he
    exact absurd he List.not_mem_nil
  · exact h.sorted.sublist (List.dropWhile_sublist _)
  · exact h.sorted.sublist (List.takeWhile_sublist _)

/-- The ready events go after the batch. -/
theorem Queued.processReadReadies (h : Queued s ts pts []) (rfds : Finset ℤ) (n : ℕ) :
    ∃ s' l, processReadReadies rfds n s = some s' ∧ Queued s' ts pts l ∧ SameEvents s s' := by
  obtain ⟨s', l, hrun, hlists, htable, hsame, hl, -⟩ :=
    h.table.processReadReadies h.lists (fun e he => h.watched_unlinked he) rfds n
  have htimeout : ∀ e, s'.due e = s.due e := by
    intro e
    unfold EventState.due
    rw [(hsame e).2.1]
  refine ⟨s', l, hrun, ⟨?_, htable, ?_, ?_, ?_, ?_, ?_⟩, hsame⟩
  · rw [List.append_nil] at hlists
    exact hlists
  · intro e
    rw [(hsame e).2.1]
    exact h.times e
  · intro e he
    rw [(hsame e).1]
    exact h.timer_fd e he
  · intro e he
    rw [(hsame e).1]
    exact h.table.fd_nonneg e (hl e he)
  · refine h.sorted.imp ?_
    intro a b hab
    show s'.due a ≤ s'.due b
    rw [htimeout, htimeout]
    exact hab
  · refine h.batch_sorted.imp ?_
    intro a b hab
    show s'.due a ≤ s'.due b
    rw [htimeout, htimeout]
    exact hab

/-- The first pending event is taken off, a timer as long as there is one. -/
theorem Queued.removePending {e : ℕ} {rest : List ℕ} (h : Queued s ts pts pfd)
    (hhead : pts ++ pfd = e :: rest) :
    ∃ s' pts' pfd', removeFromList e s = some s' ∧ Queued s' ts pts' pfd' ∧ s'.event = s.event ∧
      pts' ++ pfd' = rest ∧
      ((pts = e :: pts' ∧ (s.event e).fd = -1) ∨ (pts = [] ∧ pts' = [] ∧ 0 ≤ (s.event e).fd)) := by
  have hlists := h.lists
  rw [hhead] at hlists
  obtain ⟨links, hrun, hlists', -⟩ := hlists.removePending
  have htable : Table { s with links := links } := h.table.congr rfl rfl rfl fun _ _ => rfl
  cases pts with
  | nil =>
    obtain rfl : pfd = e :: rest := hhead
    refine ⟨_, [], rest, hrun, ⟨hlists', htable, h.times, h.timer_fd, ?_, h.sorted,
      h.batch_sorted⟩, rfl, rfl, .inr ⟨rfl, rfl, h.ready_fd e (List.mem_cons_self ..)⟩⟩
    intro x hx
    exact h.ready_fd x (List.mem_cons_of_mem _ hx)
  | cons p pts =>
    obtain ⟨rfl, rfl⟩ := List.cons.inj hhead
    refine ⟨_, pts, pfd, hrun, ⟨hlists', htable, h.times, ?_, h.ready_fd, h.sorted,
      (List.pairwise_cons.mp h.batch_sorted).2⟩, rfl, rfl, .inl ⟨rfl, h.timer_fd p ?_⟩⟩
    · intro x hx
      refine h.timer_fd x ?_
      simp only [List.mem_cons, List.mem_append] at hx ⊢
      tauto
    · simp

/-! ### The log -/

/-- Every timer ever added is in `ts`, in `pts` or fired, and no one twice. -/
structure Logged (s : LoopState) (ts pts : List ℕ) : Prop where
  serials : (s.fired.map Firing.serial ++ (ts ++ pts).map s.serial).Perm
    (List.range s.issued.length)
  timeouts : ∀ e ∈ ts ++ pts, s.issued[s.serial e]? = some (s.ev.event e).timeout
  expired : ∀ e ∈ pts, s.ev.due e < s.clock.micros
  fired_timeout : ∀ f ∈ s.fired, s.issued[f.serial]? = some f.timeout
  fired_late : ∀ f ∈ s.fired, f.timeout.micros < f.clock.micros
  fired_sorted : s.fired.Pairwise fun f g =>
    f.batch = g.batch → f.timeout.micros ≤ g.timeout.micros
  fired_batch : ∀ f ∈ s.fired, f.batch ≤ s.batch
  current : ∀ f ∈ s.fired, f.batch = s.batch → ∀ e ∈ pts, f.timeout.micros ≤ s.ev.due e

variable {σ τ : LoopState}

/-- There are no more timers than were added, so that no walk runs out of fuel. -/
theorem Logged.length_lt (h : Logged σ ts pts) : ts.length < σ.issued.length + 1 := by
  have hlen := h.serials.length_eq
  simp only [List.length_append, List.length_map, List.length_range] at hlen
  omega

/-- Only the ghosts, the clock and the timeouts matter. -/
theorem Logged.congr (h : Logged σ ts pts) (hfired : τ.fired = σ.fired)
    (hissued : τ.issued = σ.issued) (hserial : τ.serial = σ.serial) (hbatch : τ.batch = σ.batch)
    (hclock : σ.clock.micros ≤ τ.clock.micros)
    (hsame : ∀ e ∈ ts ++ pts, (τ.ev.event e).timeout = (σ.ev.event e).timeout) :
    Logged τ ts pts := by
  have hdue : ∀ e ∈ pts, τ.ev.due e = σ.ev.due e := by
    intro e he
    unfold EventState.due
    rw [hsame e (List.mem_append_right _ he)]
  refine ⟨?_, ?_, ?_, ?_, ?_, ?_, ?_, ?_⟩
  · rw [hfired, hissued, hserial]
    exact h.serials
  · intro e he
    rw [hissued, hserial, hsame e he]
    exact h.timeouts e he
  · intro e he
    rw [hdue e he]
    exact lt_of_lt_of_le (h.expired e he) hclock
  · rw [hfired, hissued]
    exact h.fired_timeout
  · rw [hfired]
    exact h.fired_late
  · rw [hfired]
    exact h.fired_sorted
  · rw [hfired, hbatch]
    exact h.fired_batch
  · intro f hf hb e he
    rw [hfired] at hf
    rw [hbatch] at hb
    rw [hdue e he]
    exact h.current f hf hb e he

/-- A new timer has the next serial number. -/
theorem Logged.timerAdd (h : Logged σ ts pts) {state : EventState} {timeout : Timeval}
    {ts' : List ℕ} (hperm : ts'.Perm (ev :: ts)) (hadded : TimerAdded σ.ev state ev timeout)
    (hts : ev ∉ ts) (hpts : ev ∉ pts) {adders : ℕ} :
    Logged { σ with
      ev := state
      adders := adders
      issued := σ.issued ++ [timeout]
      serial := Function.update σ.serial ev σ.issued.length } ts' pts := by
  have hold : ∀ {n : ℕ} {tv : Timeval}, σ.issued[n]? = some tv →
      (σ.issued ++ [timeout])[n]? = some tv := by
    intro n tv hn
    rw [List.getElem?_append_left (List.getElem?_eq_some_iff.mp hn).1]
    exact hn
  have hdue : ∀ e ∈ pts, state.due e = σ.ev.due e := by
    intro e he
    unfold EventState.due
    rw [hadded.event e fun hee => hpts (hee ▸ he)]
  refine ⟨?_, ?_, ?_, ?_, h.fired_late, h.fired_sorted, h.fired_batch, ?_⟩
  · have hmap : (ts ++ pts).map (Function.update σ.serial ev σ.issued.length)
        = (ts ++ pts).map σ.serial := by
      refine List.map_congr_left fun e he => Function.update_of_ne ?_ _ _
      rintro rfl
      rcases List.mem_append.mp he with he | he
      · exact hts he
      · exact hpts he
    have hnew : ((ts' ++ pts).map (Function.update σ.serial ev σ.issued.length)).Perm
        (σ.issued.length :: (ts ++ pts).map σ.serial) := by
      rw [← hmap]
      refine ((hperm.append_right pts).map _).trans ?_
      rw [List.cons_append, List.map_cons, Function.update_self]
    show (σ.fired.map Firing.serial ++ (ts' ++ pts).map _).Perm
      (List.range (σ.issued ++ [timeout]).length)
    rw [List.length_append, List.length_singleton, List.range_succ]
    refine (hnew.append_left _).trans ?_
    refine List.perm_middle.trans ?_
    exact (List.perm_append_singleton _ _).symm.trans (h.serials.append_right _)
  · intro e he
    show (σ.issued ++ [timeout])[Function.update σ.serial ev σ.issued.length e]? = _
    by_cases hee : e = ev
    · rw [hee, Function.update_self, List.getElem?_concat_length, hadded.timeout_eq]
    · rw [Function.update_of_ne hee, hadded.event e hee]
      refine hold (h.timeouts e ?_)
      rcases List.mem_append.mp he with he | he
      · exact List.mem_append_left _ ((List.mem_cons.mp (hperm.subset he)).resolve_left hee)
      · exact List.mem_append_right _ he
  · intro e he
    show state.due e < _
    rw [hdue e he]
    exact h.expired e he
  · intro f hf
    exact hold (h.fired_timeout f hf)
  · intro f hf hb e he
    show _ ≤ state.due e
    rw [hdue e he]
    exact h.current f hf hb e he

/-- A new round. -/
theorem Logged.processTimeouts (h : Logged σ ts []) {state : EventState}
    (hevent : state.event = σ.ev.event) {phase : Phase} :
    Logged { σ with ev := state, batch := σ.batch + 1, phase := phase }
      (ts.dropWhile (Expired σ.ev σ.clock)) (ts.takeWhile (Expired σ.ev σ.clock)) := by
  have hperm : (ts.dropWhile (Expired σ.ev σ.clock)
      ++ ts.takeWhile (Expired σ.ev σ.clock)).Perm ts := by
    refine List.perm_append_comm.trans ?_
    rw [List.takeWhile_append_dropWhile]
  refine ⟨?_, ?_, ?_, h.fired_timeout, h.fired_late, h.fired_sorted, ?_, ?_⟩
  · refine ((hperm.map _).append_left _).trans ?_
    have hserials := h.serials
    rw [List.append_nil] at hserials
    exact hserials
  · intro e he
    show _ = some (state.event e).timeout
    rw [hevent]
    exact h.timeouts e (List.mem_append_left _ (hperm.subset he))
  · intro e he
    have hall := List.all_takeWhile (p := fun b => decide (Expired σ.ev σ.clock b)) (l := ts)
    have hexp : Expired σ.ev σ.clock e := by simpa using List.all_eq_true.mp hall e he
    show (state.event e).timeout.micros < _
    rw [hevent]
    exact hexp
  · intro f hf
    exact Nat.le_succ_of_le (h.fired_batch f hf)
  · intro f hf hb
    have hle := h.fired_batch f hf
    have heq : f.batch = σ.batch + 1 := hb
    omega

/-- The first timer of the batch fires. -/
theorem Logged.fire {pts' : List ℕ} (h : Logged σ ts (ev :: pts'))
    (hsorted : (ev :: pts').Pairwise (NotAfter σ.ev)) {state : EventState}
    (hevent : state.event = σ.ev.event) {phase : Phase} {pipe : ℕ} :
    Logged { σ with
      ev := state
      phase := phase
      pipe := pipe
      fired := σ.fired ++ [⟨σ.serial ev, (σ.ev.event ev).timeout, σ.clock, σ.batch⟩] } ts pts' := by
  have hmem : ev ∈ ts ++ ev :: pts' := List.mem_append_right _ (List.mem_cons_self ..)
  have hcases : ∀ {P : Firing → Prop}, (∀ f ∈ σ.fired, P f) →
      P ⟨σ.serial ev, (σ.ev.event ev).timeout, σ.clock, σ.batch⟩ →
      ∀ f ∈ σ.fired ++ [⟨σ.serial ev, (σ.ev.event ev).timeout, σ.clock, σ.batch⟩], P f := by
    intro P hold hnew f hf
    rcases List.mem_append.mp hf with hf | hf
    · exact hold f hf
    · exact List.mem_singleton.mp hf ▸ hnew
  have hdue : ∀ e, state.due e = σ.ev.due e := by
    intro e
    unfold EventState.due
    rw [hevent]
  refine ⟨?_, ?_, ?_, ?_, ?_, ?_, ?_, ?_⟩
  · show ((σ.fired ++ [_]).map Firing.serial ++ (ts ++ pts').map σ.serial).Perm _
    rw [List.map_append, List.append_assoc]
    refine List.Perm.trans (List.Perm.append_left _ ?_) h.serials
    rw [List.map_append, List.map_append]
    show (σ.serial ev :: (ts.map σ.serial ++ pts'.map σ.serial)).Perm
      (ts.map σ.serial ++ σ.serial ev :: pts'.map σ.serial)
    exact List.perm_middle.symm
  · intro e he
    show _ = some (state.event e).timeout
    rw [hevent]
    refine h.timeouts e ?_
    simp only [List.mem_append, List.mem_cons] at he ⊢
    tauto
  · intro e he
    show state.due e < _
    rw [hdue]
    exact h.expired e (List.mem_cons_of_mem _ he)
  · exact hcases h.fired_timeout (h.timeouts ev hmem)
  · exact hcases h.fired_late (h.expired ev (List.mem_cons_self ..))
  · refine List.pairwise_append.mpr ⟨h.fired_sorted, List.pairwise_singleton _ _, ?_⟩
    intro f hf g hg hb
    obtain rfl := List.mem_singleton.mp hg
    exact h.current f hf hb ev (List.mem_cons_self ..)
  · exact hcases h.fired_batch (le_refl _)
  · refine hcases ?_ ?_
    · intro f hf hb e he
      show _ ≤ state.due e
      rw [hdue]
      exact h.current f hf hb e (List.mem_cons_of_mem _ he)
    · intro _ e he
      show _ ≤ state.due e
      rw [hdue]
      exact (List.pairwise_cons.mp hsorted).1 e he

/-! ### The invariant -/

/-- What is pending in a phase. -/
def Phase.Holds (pts pfd : List ℕ) : Phase → Prop
  | .expired _ => pfd = []
  | .firing ev => ev = (pts ++ pfd).headD pendingList
  | _ => pts = [] ∧ pfd = []

structure LoopInv (σ : LoopState) (ts pts pfd : List ℕ) : Prop where
  queued : Queued σ.ev ts pts pfd
  logged : Logged σ ts pts
  clock : σ.clock.Normal
  phase : σ.phase.Holds pts pfd

theorem loopInv_init : LoopInv loopInit [] [] [] := by
  refine ⟨queued_eventInit, ⟨List.Perm.refl _, ?_, ?_, ?_, ?_, List.Pairwise.nil, ?_, ?_⟩,
    by decide, ⟨rfl, rfl⟩⟩
  all_goals
    intro x hx
    exact absurd hx List.not_mem_nil

/-- Another phase with the same events. -/
theorem LoopInv.setPhase (h : LoopInv σ ts pts pfd) {phase : Phase} (hp : phase.Holds pts pfd) :
    LoopInv { σ with phase := phase } ts pts pfd :=
  ⟨h.queued, h.logged.congr rfl rfl rfl rfl (le_refl _) fun _ _ => rfl, h.clock, hp⟩

theorem LoopInv.tick (h : LoopInv σ ts pts pfd) {now : Timeval} (hnow : now.Normal)
    (hmono : σ.clock.micros ≤ now.micros) : LoopInv { σ with clock := now } ts pts pfd :=
  ⟨h.queued, h.logged.congr rfl rfl rfl rfl hmono fun _ _ => rfl, hnow, h.phase⟩

/-- **An event fires**: the first of the pending list, which is taken off it. -/
theorem LoopInv.firePending (h : LoopInv σ ts pts pfd) {x : ℕ} {rest : List ℕ}
    (happ : pts ++ pfd = x :: rest) :
    ∃ τ pts' pfd', firePending x σ = some τ ∧ τ.phase = .firing (rest.headD pendingList) ∧
      pts' ++ pfd' = rest ∧ LoopInv τ ts pts' pfd' := by
  obtain ⟨hqueued, hlogged, hclock, -⟩ := h
  obtain ⟨s', pts', pfd', hremove, hqueued', hevent, hrest, hkind⟩ := hqueued.removePending happ
  have hring := hqueued.lists.right
  rw [happ] at hring
  have hnext : σ.ev.links.next x = some (rest.headD pendingList) :=
    LinkedRing.Ring.next_of_cons hring
  unfold Event.firePending
  rw [hnext, hremove]
  refine ⟨_, pts', pfd', rfl, rfl, hrest, hqueued', ?_, hclock, ?_⟩
  · rcases hkind with ⟨rfl, hfd⟩ | ⟨rfl, rfl, hfd⟩
    · simp only [if_pos hfd]
      exact hlogged.fire hqueued.batch_sorted hevent
    · have hno : (σ.ev.event x).fd ≠ -1 := by omega
      simp only [if_neg hno]
      refine hlogged.congr rfl rfl rfl rfl (le_refl _) fun e _ => ?_
      show (s'.event e).timeout = _
      rw [hevent]
  · show rest.headD pendingList = (pts' ++ pfd').headD pendingList
    rw [hrest]

/-- Where the loop fires an event, that is the first of the pending list. -/
theorem LoopInv.pending_of_firing (h : LoopInv σ ts pts pfd) {ev : ℕ} (hp : σ.phase = .firing ev)
    (hne : ev ≠ pendingList) : ∃ rest, pts ++ pfd = ev :: rest := by
  have hphase := h.phase
  rw [hp] at hphase
  have hhead : ev = (pts ++ pfd).headD pendingList := hphase
  rcases happ : pts ++ pfd with _ | ⟨x, rest⟩
  · rw [happ] at hhead
    exact absurd hhead hne
  · rw [happ] at hhead
    exact ⟨rest, by rw [show ev = x from hhead]⟩

/-- The sentinel is not on its own list. -/
theorem LoopInv.ne_pendingList (h : LoopInv σ ts pts pfd) {x : ℕ} {rest : List ℕ}
    (happ : pts ++ pfd = x :: rest) : x ≠ pendingList := by
  rintro rfl
  have hnodup := h.queued.lists.right.nodup
  rw [happ] at hnodup
  exact (List.nodup_cons.mp hnodup).1 List.mem_cons_self

/-- Where it has come to the sentinel, nothing is pending. -/
theorem LoopInv.pending_nil (h : LoopInv σ ts pts pfd) (hp : σ.phase = .firing pendingList) :
    pts = [] ∧ pfd = [] := by
  have hphase := h.phase
  rw [hp] at hphase
  have hhead : pendingList = (pts ++ pfd).headD pendingList := hphase
  rcases happ : pts ++ pfd with _ | ⟨x, xs⟩
  · exact List.append_eq_nil_iff.mp happ
  · rw [happ] at hhead
    exact absurd hhead.symm (h.ne_pendingList happ)

/-- The expired timers become pending. -/
theorem LoopInv.expire (h : LoopInv σ ts pts pfd) {rfds : Finset ℤ} (hp : σ.phase = .woken rfds) :
    ∃ s', Event.processTimeouts (σ.issued.length + 1) σ.clock σ.ev = some s' ∧
      LoopInv { σ with ev := s', batch := σ.batch + 1, phase := .expired rfds }
        (ts.dropWhile (Expired σ.ev σ.clock)) (ts.takeWhile (Expired σ.ev σ.clock)) [] := by
  obtain ⟨hqueued, hlogged, hclock, hphase⟩ := h
  rw [hp] at hphase
  obtain ⟨rfl, rfl⟩ := hphase
  obtain ⟨s', hrun, hqueued', hevent, -⟩ := hqueued.processTimeouts hclock hlogged.length_lt
  exact ⟨s', hrun, hqueued', hlogged.processTimeouts hevent, hclock, rfl⟩

/-- The ready events become pending. -/
theorem LoopInv.readies (h : LoopInv σ ts pts pfd) {rfds : Finset ℤ}
    (hp : σ.phase = .expired rfds) :
    ∃ s' l, Event.processReadReadies rfds rfds.card σ.ev = some s' ∧
      s'.links.next pendingList = some ((pts ++ l).headD pendingList) ∧
      LoopInv { σ with ev := s', phase := .firing ((pts ++ l).headD pendingList) } ts pts l := by
  obtain ⟨hqueued, hlogged, hclock, hphase⟩ := h
  rw [hp] at hphase
  obtain rfl : pfd = [] := hphase
  obtain ⟨s', l, hrun, hqueued', hevents⟩ := hqueued.processReadReadies rfds rfds.card
  exact ⟨s', l, hrun, hqueued'.lists.right.next_head, hqueued',
    hlogged.congr rfl rfl rfl rfl (le_refl _) fun e _ => (hevents e).2.1, hclock, rfl⟩

/-- Nothing is lost where an event is removed from the table. -/
theorem LoopInv.eventDel (h : LoopInv σ ts pts pfd) (hev : Deletable σ.ev ev) :
    LoopInv { σ with ev := Event.eventDel ev σ.ev } ts pts pfd := by
  obtain ⟨hqueued, hlogged, hclock, hphase⟩ := h
  obtain ⟨hqueued', hevents⟩ := hqueued.eventDel hev
  exact ⟨hqueued', hlogged.congr rfl rfl rfl rfl (le_refl _) fun e _ => (hevents e).2.1, hclock,
    hphase⟩

/-- **Every step keeps the invariant.** -/
theorem LoopInv.step (h : LoopInv σ ts pts pfd) (hst : StepTo σ τ) :
    ∃ ts' pts' pfd', LoopInv τ ts' pts' pfd' := by
  have hphase := h.phase
  cases hst with
  | tick now hnow hmono => exact ⟨ts, pts, pfd, h.tick hnow hmono⟩
  | enterLoop hp =>
    rw [hp] at hphase
    exact ⟨ts, pts, pfd, h.setPhase hphase⟩
  | copyFds hp =>
    rw [hp] at hphase
    exact ⟨ts, pts, pfd, h.setPhase hphase⟩
  | calcNextTimeout ptv hp hcalc =>
    rw [hp] at hphase
    exact ⟨ts, pts, pfd, h.setPhase hphase⟩
  | enterSelect hp =>
    rw [hp] at hphase
    exact ⟨ts, pts, pfd, h.setPhase hphase⟩
  | ready fds hp =>
    rw [hp] at hphase
    exact ⟨ts, pts, pfd, h.setPhase hphase⟩
  | eintr hp =>
    rw [hp] at hphase
    exact ⟨ts, pts, pfd, h.setPhase hphase⟩
  | error hp =>
    rw [hp] at hphase
    exact ⟨ts, pts, pfd, h.setPhase hphase⟩
  | processTimeouts state hp hrun =>
    obtain ⟨s', hrun', hinv⟩ := h.expire hp
    obtain rfl := Option.some.inj (hrun.symm.trans hrun')
    exact ⟨_, _, [], hinv⟩
  | processReadReadies state first hp hrun hfirst =>
    obtain ⟨s', l, hrun', hfirst', hinv⟩ := h.readies hp
    obtain rfl := Option.some.inj (hrun.symm.trans hrun')
    obtain rfl := Option.some.inj (hfirst.symm.trans hfirst')
    exact ⟨ts, pts, l, hinv⟩
  | fired hp => exact ⟨ts, pts, pfd, h.setPhase (h.pending_nil hp)⟩
  | @fire ev _ hp hne hrun =>
    obtain ⟨rest, happ⟩ := h.pending_of_firing hp hne
    obtain ⟨t, pts', pfd', hrun', -, -, hinv⟩ := h.firePending happ
    obtain rfl := Option.some.inj (hrun.symm.trans hrun')
    exact ⟨ts, pts', pfd', hinv⟩
  | @timerAdd ev tv byLoop state _ hfresh htv hrun =>
    obtain ⟨s', ts', hrun', hqueued', hperm, hadded⟩ :=
      h.queued.timerAdd hfresh h.clock htv h.logged.length_lt
    obtain rfl := Option.some.inj (hrun.symm.trans hrun')
    have hts := h.queued.lists.notMem_timers hfresh.1
    have hps := h.queued.lists.notMem_pending hfresh.1
    exact ⟨ts', pts, pfd, hqueued',
      h.logged.timerAdd hperm hadded hts fun hmem => hps (List.mem_append_left _ hmem), h.clock,
      hphase⟩
  | @eventAdd ev _ _ hev =>
    refine ⟨ts, pts, pfd, h.queued.eventAdd hev, ?_, h.clock, hphase⟩
    exact h.logged.congr rfl rfl rfl rfl (le_refl _)
      fun e _ => ((sameEvents_eventAdd ev σ.ev).1 e).2.1
  | @eventSet ev _ _ _ hfresh =>
    refine ⟨ts, pts, pfd, h.queued.eventSet hfresh, ?_, h.clock, hphase⟩
    refine h.logged.congr rfl rfl rfl rfl (le_refl _) fun e he => ?_
    refine congrArg RilEvent.timeout (eventSet_event ?_)
    rintro rfl
    rcases List.mem_append.mp he with he | he
    · exact h.queued.lists.notMem_timers hfresh.1 he
    · exact h.queued.lists.notMem_pending hfresh.1 (List.mem_append_left _ he)
  | eventDel _ hev => exact ⟨ts, pts, pfd, h.eventDel hev⟩
  | trigger _ =>
    exact ⟨ts, pts, pfd, h.queued, h.logged.congr rfl rfl rfl rfl (le_refl _) fun _ _ => rfl,
      h.clock, hphase⟩

/-- **The invariant holds in every run.** -/
theorem loopInv_reachable (h : Reachable eventLoop σ) : ∃ ts pts pfd, LoopInv σ ts pts pfd := by
  refine Runs.Reaches.invariant (I := fun σ => ∃ ts pts pfd, LoopInv σ ts pts pfd) h
    ⟨[], [], [], loopInv_init⟩ ?_
  intro s t a hinv _ hst
  obtain ⟨ts, pts, pfd, hinv⟩ := hinv
  exact hinv.step (stepTo_of_step hst)

/-! ### The service -/

/-- `processTimeouts` moves exactly the expired timers. -/
theorem LoopInv.processTimeouts (h : LoopInv σ ts pts pfd) {rfds : Finset ℤ}
    (hp : σ.phase = .woken rfds) :
    ∃ τ ts' ps', eventLoop.step σ .processTimeouts = some τ ∧ Lists τ.ev ts' ps' ∧
      ∀ x ∈ ts, (x ∈ ps' ↔ Expired σ.ev σ.clock x) ∧ (x ∈ ts' ↔ ¬ Expired σ.ev σ.clock x) := by
  obtain ⟨hqueued, hlogged, hclock, hphase⟩ := h
  rw [hp] at hphase
  obtain ⟨rfl, rfl⟩ := hphase
  obtain ⟨s', hrun, hqueued', -⟩ := hqueued.processTimeouts hclock hlogged.length_lt
  refine ⟨{ σ with ev := s', batch := σ.batch + 1, phase := .expired rfds },
    ts.dropWhile (Expired σ.ev σ.clock), ts.takeWhile (Expired σ.ev σ.clock), ?_, ?_, ?_⟩
  · show Event.step σ .processTimeouts = _
    simp only [Event.step, hp, hrun, Option.map_some]
  · have hlists := hqueued'.lists
    rw [List.append_nil] at hlists
    exact hlists
  · intro x hx
    have hmoved : Expired σ.ev σ.clock x ↔ _ := expired_iff_mem_takeWhile hqueued.sorted hx
    have hnodup := (List.nodup_cons.mp hqueued.lists.left.nodup).2
    rw [← List.takeWhile_append_dropWhile (p := fun b => decide (Expired σ.ev σ.clock b)) (l := ts)]
      at hnodup hx
    have hdisj := (List.nodup_append.mp hnodup).2.2
    refine ⟨hmoved.symm, ?_⟩
    rw [hmoved]
    constructor
    · intro hdrop htake
      exact hdisj x htake x hdrop rfl
    · intro hnot
      exact (List.mem_append.mp hx).resolve_left hnot

/-- **The timer service**, in every run of the loop and the other threads: `timer_list` is sorted
by timeout; `processTimeouts` moves every timer that has expired to the pending list, and no other;
a timer is fired at most once, and not before the clock has passed the timeout it was given; and
the timers of one round are fired in the order of their timeouts. -/
theorem timer_service (h : Reachable eventLoop σ) :
    (∃ ts ps, Lists σ.ev ts ps ∧ ts.Pairwise (NotAfter σ.ev) ∧
      ∀ rfds, σ.phase = .woken rfds →
        ∃ τ ts' ps', eventLoop.step σ .processTimeouts = some τ ∧ Lists τ.ev ts' ps' ∧
          ∀ x ∈ ts, (x ∈ ps' ↔ Expired σ.ev σ.clock x) ∧
            (x ∈ ts' ↔ ¬ Expired σ.ev σ.clock x)) ∧
      (σ.fired.map Firing.serial).Nodup ∧
      (∀ f ∈ σ.fired, σ.issued[f.serial]? = some f.timeout ∧ f.timeout.micros < f.clock.micros) ∧
      σ.fired.Pairwise fun f g => f.batch = g.batch → f.timeout.micros ≤ g.timeout.micros := by
  obtain ⟨ts, pts, pfd, hinv⟩ := loopInv_reachable h
  have hlogged := hinv.logged
  refine ⟨⟨ts, pts ++ pfd, hinv.queued.lists, hinv.queued.sorted, fun rfds hp =>
    hinv.processTimeouts hp⟩, ?_, ?_, hlogged.fired_sorted⟩
  · have hnodup := hlogged.serials.nodup_iff.mpr List.nodup_range
    exact (List.nodup_append.mp hnodup).1
  · intro f hf
    exact ⟨hlogged.fired_timeout f hf, hlogged.fired_late f hf⟩

/-- Two timers added by another thread, the later first; both fire in one round. -/
theorem two_timers_fire : ∃ σ : LoopState, σ.fired.map Firing.serial = [1, 0] ∧
    σ.fired.Pairwise fun f g => f.batch = g.batch → f.timeout.micros ≤ g.timeout.micros := by
  have hrun : (Runs.exec eventLoop (fun _ _ => True) loopInit
      [.enterLoop, .timerAdd 10 ⟨0, 5⟩ false, .trigger, .timerAdd 11 ⟨0, 3⟩ false, .trigger,
        .copyFds, .calcNextTimeout, .enterSelect, .tick ⟨0, 10⟩, .leaveSelect (.ready ∅),
        .processTimeouts, .processReadReadies, .fire, .fire, .fire]).map
      (fun σ => σ.fired.map Firing.serial) = some [1, 0] := by decide +kernel
  obtain ⟨σ, hσ, hfired⟩ := Option.map_eq_some_iff.mp hrun
  exact ⟨σ, hfired, (timer_service (Runs.reaches_of_exec hσ)).2.2.2⟩

end CtpCommon.Event
