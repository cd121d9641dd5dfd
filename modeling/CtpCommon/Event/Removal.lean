import CtpCommon.Event.Timers

/-!
# Removing an event

`ril_event_del` is to remove an event from the watch list or the timer list.  It knows an event by
its slot alone, and neither a timer nor an event that is to be fired has one.

* `anyThread` — the loop, which takes an event off the pending list and then calls it, with calls
  of `ril_event_del` by any thread at any time;
* `Idle` — the event is on no list and in no slot;
* `Idle.silent` — **PROVED**: an idle event is not called until it is added again;
* `LoopInv.canCall` — **PROVED**: an event on a list is called in some run, wherever the loop is;
* `eventDel_silent_iff` — **PROVED**: the callback of a removed event is not called until the event
  is added again exactly when it was on no list, and not about to be called.
-/

namespace CtpCommon.Event

open Runs (System Reachable Reaches)

/-! ### Calls by any thread -/

/-- The loop, and the event that `firePending` has taken off the list and is about to call. -/
structure AnyState where
  loop : LoopState
  calling : Option ℕ

/-- A step of the loop or of a thread that adds, the call of a callback, or `ril_event_del`. -/
inductive AnyCall where
  | loop (a : LoopAction)
  | call
  | del (ev : ℕ)

/-- What can happen while the loop is between taking an event and calling it. -/
def LoopAction.byOthers : LoopAction → Bool
  | .tick _ => true
  | .timerAdd _ _ byLoop => !byLoop
  | .eventAdd _ byLoop => !byLoop
  | .eventSet .. => true
  | .trigger => true
  | _ => false

/-- The event that the next round of `firePending` takes. -/
def LoopState.taken (s : LoopState) : Option ℕ :=
  match s.phase with
  | .firing ev => if ev = pendingList then none else some ev
  | _ => none

def AnyState.callingAfter (s : AnyState) : LoopAction → Option ℕ
  | .fire => s.loop.taken
  | _ => s.calling

def anyStep (s : AnyState) : AnyCall → Option AnyState
  | .loop a =>
      if s.calling = none ∨ a.byOthers then
        (step s.loop a).map fun loop => ⟨loop, s.callingAfter a⟩
      else none
  | .call => s.calling.map fun _ => { s with calling := none }
  | .del ev =>
      -- the sentinels are static, so that no caller has their addresses
      if Deletable s.loop.ev ev ∧ ev ≠ timerList ∧ ev ≠ pendingList then
        some { s with loop := { s.loop with ev := eventDel ev s.loop.ev } }
      else none

def anyThread : System AnyState AnyCall := ⟨⟨loopInit, none⟩, anyStep⟩

/-- Is the event added by this call? -/
def AnyCall.Adds (ev : ℕ) : AnyCall → Prop
  | .loop (.timerAdd e _ _) => e = ev
  | .loop (.eventAdd e _) => e = ev
  | _ => False

/-- The callback of the event is called. -/
def Invokes (s : AnyState) (c : AnyCall) (ev : ℕ) : Prop := c = .call ∧ s.calling = some ev

/-- No run that does not add the event calls its callback. -/
def Silent (σ : AnyState) (ev : ℕ) : Prop :=
  ∀ υ c ω, Reaches (anyThread.from σ) (fun _ c => ¬ c.Adds ev) υ → anyThread.step υ c = some ω →
    ¬ Invokes υ c ev

variable {σ τ : LoopState} {υ ω : AnyState} {s s' : EventState} {ts pts pfd : List ℕ} {ev : ℕ}

/-- A step of the loop is one of `step`. -/
theorem anyThread_loop {a : LoopAction} (h : anyThread.step υ (.loop a) = some ω) :
    step υ.loop a = some ω.loop ∧ ω.calling = υ.callingAfter a := by
  change (if υ.calling = none ∨ a.byOthers then _ else none) = _ at h
  split at h
  case isTrue =>
    obtain ⟨loop, hst, rfl⟩ := Option.map_eq_some_iff.mp h
    exact ⟨hst, rfl⟩
  case isFalse => exact absurd h (by simp)

theorem anyThread_of_step {a : LoopAction} (h : step σ a = some τ) :
    anyThread.step ⟨σ, none⟩ (.loop a) = some ⟨τ, AnyState.callingAfter ⟨σ, none⟩ a⟩ := by
  show anyStep ⟨σ, none⟩ (.loop a) = _
  simp only [anyStep, true_or, if_true, h, Option.map_some]

theorem anyThread_call (h : anyThread.step υ .call = some ω) : ω = { υ with calling := none } := by
  obtain ⟨x, -, rfl⟩ := Option.map_eq_some_iff.mp h
  rfl

theorem anyThread_del (h : anyThread.step υ (.del ev) = some ω) :
    (Deletable υ.loop.ev ev ∧ ev ≠ timerList ∧ ev ≠ pendingList) ∧
      ω = { υ with loop := { υ.loop with ev := eventDel ev υ.loop.ev } } := by
  change (if Deletable υ.loop.ev ev ∧ ev ≠ timerList ∧ ev ≠ pendingList then _ else none) = _ at h
  split at h
  case isTrue hdel => exact ⟨hdel, (Option.some.inj h).symm⟩
  case isFalse => exact absurd h (by simp)

theorem LoopInv.anyStep (h : LoopInv υ.loop ts pts pfd) {c : AnyCall}
    (hst : anyThread.step υ c = some ω) : ∃ ts' pts' pfd', LoopInv ω.loop ts' pts' pfd' := by
  cases c with
  | loop a => exact h.step (stepTo_of_step (anyThread_loop hst).1)
  | call =>
    obtain rfl := anyThread_call hst
    exact ⟨ts, pts, pfd, h⟩
  | del e =>
    obtain ⟨hdel, rfl⟩ := anyThread_del hst
    exact ⟨ts, pts, pfd, h.eventDel hdel.1⟩

theorem loopInv_anyThread (h : Reachable anyThread υ) :
    ∃ ts pts pfd, LoopInv υ.loop ts pts pfd := by
  refine Reaches.invariant (I := fun υ => ∃ ts pts pfd, LoopInv υ.loop ts pts pfd) h
    ⟨[], [], [], loopInv_init⟩ ?_
  rintro s t c ⟨ts, pts, pfd, hinv⟩ - hst
  exact hinv.anyStep hst

/-! ### Events that are nowhere -/

/-- On no list and in no slot. -/
def Idle (s : EventState) (ev : ℕ) : Prop := s.Unlinked ev ∧ ¬ s.Watched ev

/-- What is on the lists afterwards but was not before is not `ev`. -/
theorem Lists.unlinked_of {ps ts' ps' : List ℕ} (h : Lists s ts ps) (h' : Lists s' ts' ps')
    (hev : s.Unlinked ev) (hsub : ev ∈ ts' ++ ps' → ev ∈ ts ++ ps) : s'.Unlinked ev := by
  obtain ⟨hts, hps⟩ := h.notMem hev
  rw [List.mem_cons, not_or] at hts hps
  have hnot : ev ∉ ts' ++ ps' := fun hmem =>
    (List.mem_append.mp (hsub hmem)).elim hts.2 hps.2
  rw [List.mem_append, not_or] at hnot
  refine h'.unlinked ev ?_ ?_
  · rw [List.mem_cons, not_or]
    exact ⟨hts.1, hnot.1⟩
  · rw [List.mem_cons, not_or]
    exact ⟨hps.1, hnot.2⟩

/-- Neither lists nor table are changed. -/
theorem Idle.congr (h : Idle s ev) (hnext : s'.links = s.links)
    (htable : s'.watchTable = s.watchTable) : Idle s' ev := by
  unfold Idle EventState.Unlinked EventState.Watched
  rw [hnext, htable]
  exact h

theorem Idle.processTimeouts (h : Idle s ev) (hq : Queued s ts [] []) {now : Timeval}
    (hnow : now.Normal) {fuel : ℕ} (hfuel : ts.length < fuel)
    (hrun : processTimeouts fuel now s = some s') : Idle s' ev := by
  obtain ⟨u, hrun', hq', -, htable⟩ := hq.processTimeouts hnow hfuel
  obtain rfl := Option.some.inj (hrun.symm.trans hrun')
  refine ⟨hq.lists.unlinked_of hq'.lists h.1 fun hmem => ?_, ?_⟩
  · rw [List.append_nil]
    rw [List.append_nil] at hmem
    rcases List.mem_append.mp hmem with hmem | hmem
    · exact List.mem_append_left _ ((List.dropWhile_sublist _).subset hmem)
    · exact List.mem_append_left _ ((List.takeWhile_sublist _).subset hmem)
  · unfold EventState.Watched
    rw [htable]
    exact h.2

theorem Idle.processReadReadies (h : Idle s ev) (hq : Queued s ts pts []) {rfds : Finset ℤ} {n : ℕ}
    (hrun : processReadReadies rfds n s = some s') : Idle s' ev := by
  obtain ⟨u, l, hrun', hlists, -, -, hl, hwatched⟩ :=
    hq.table.processReadReadies hq.lists (fun e he => hq.watched_unlinked he) rfds n
  obtain rfl := Option.some.inj (hrun.symm.trans hrun')
  refine ⟨hq.lists.unlinked_of hlists h.1 fun hmem => ?_, fun hw => h.2 (hwatched ev hw)⟩
  rw [← List.append_assoc] at hmem
  exact (List.mem_append.mp hmem).resolve_right fun hmem => h.2 (hl ev hmem)

theorem Idle.removePending (h : Idle s ev) {e : ℕ} {rest : List ℕ}
    (hlists : Lists s ts (e :: rest)) (hrun : removeFromList e s = some s') : Idle s' ev := by
  obtain ⟨links, hrun', hlists', -⟩ := hlists.removePending
  obtain rfl := Option.some.inj (hrun.symm.trans hrun')
  refine ⟨hlists.unlinked_of hlists' h.1 fun hmem => ?_, h.2⟩
  rcases List.mem_append.mp hmem with hmem | hmem
  · exact List.mem_append_left _ hmem
  · exact List.mem_append_right _ (List.mem_cons_of_mem _ hmem)

theorem Idle.timerAdd (h : Idle s ev) (hq : Queued s ts pts pfd) {e : ℕ} (he : e ≠ ev)
    (hfresh : Fresh s e) {tv now : Timeval} (hnow : now.Normal) (htv : tv.Normal) {fuel : ℕ}
    (hfuel : ts.length < fuel) (hrun : timerAdd fuel e (some tv) now s = some s') : Idle s' ev := by
  obtain ⟨u, ts', hrun', hq', hperm, hadded⟩ := hq.timerAdd hfresh hnow htv hfuel
  obtain rfl := Option.some.inj (hrun.symm.trans hrun')
  refine ⟨hq.lists.unlinked_of hq'.lists h.1 fun hmem => ?_, ?_⟩
  · rcases List.mem_append.mp hmem with hmem | hmem
    · exact List.mem_append_left _ ((List.mem_cons.mp (hperm.subset hmem)).resolve_left he.symm)
    · exact List.mem_append_right _ hmem
  · unfold EventState.Watched
    rw [hadded.watchTable]
    exact h.2

theorem Idle.eventAdd (h : Idle s ev) (hq : Queued s ts pts pfd) {e : ℕ} (he : e ≠ ev)
    (hadd : Addable s e) : Idle (eventAdd e s) ev := by
  refine ⟨?_, fun hw => ?_⟩
  · unfold EventState.Unlinked
    rw [(sameEvents_eventAdd e s).2]
    exact h.1
  · exact ((hq.table.eventAdd hadd).2 ev hw).elim h.2 fun heq => he heq.symm

theorem Idle.eventSet (h : Idle s ev) {e : ℕ} {fd : ℤ} {persist : Bool} {func : EventFunc} :
    Idle (eventSet e fd persist func s) ev := by
  refine ⟨?_, h.2⟩
  show ((s.links.setNext e none).setPrev e none).next ev = none
  rw [LinkedRing.Links.setPrev_next, LinkedRing.Links.setNext_next]
  split
  · rfl
  · exact h.1

theorem Idle.eventDel (h : Idle s ev) (hq : Queued s ts pts pfd) {e : ℕ} (hdel : Deletable s e) :
    Idle (eventDel e s) ev := by
  rcases hq.table.eventDel_cases hdel with hsame | ⟨i, hi, heq⟩
  · rw [hsame]
    exact h
  · rw [heq]
    refine ⟨?_, fun hw => h.2 ((hq.table.watched_removeWatch hi).mp hw).1⟩
    unfold EventState.Unlinked
    rw [removeWatch_links]
    exact h.1

/-- **Every step keeps an event idle**, unless it adds the event. -/
theorem Idle.step (h : Idle σ.ev ev) (hinv : LoopInv σ ts pts pfd) {a : LoopAction}
    (hadds : ¬ AnyCall.Adds ev (.loop a)) (hst : step σ a = some τ) : Idle τ.ev ev := by
  have hphase := hinv.phase
  cases a with
  | tick _ | enterLoop | copyFds | enterSelect | trigger =>
    simp only [Event.step] at hst
    split at hst
    · obtain rfl := Option.some.inj hst
      exact h
    · exact absurd hst (by simp)
  | calcNextTimeout =>
    simp only [Event.step] at hst
    split at hst
    · obtain ⟨ptv, -, rfl⟩ := Option.map_eq_some_iff.mp hst
      exact h
    · exact absurd hst (by simp)
  | leaveSelect result =>
    simp only [Event.step] at hst
    split at hst
    · split at hst
      · split at hst
        · obtain rfl := Option.some.inj hst
          exact h
        · exact absurd hst (by simp)
      · obtain rfl := Option.some.inj hst
        exact h
      · obtain rfl := Option.some.inj hst
        exact h
    · exact absurd hst (by simp)
  | processTimeouts =>
    simp only [Event.step] at hst
    split at hst
    · rename_i rfds hp
      rw [hp] at hphase
      obtain ⟨rfl, rfl⟩ := hphase
      obtain ⟨state, hrun, rfl⟩ := Option.map_eq_some_iff.mp hst
      exact h.processTimeouts hinv.queued hinv.clock hinv.logged.length_lt hrun
    · exact absurd hst (by simp)
  | processReadReadies =>
    simp only [Event.step] at hst
    split at hst
    · rename_i rfds hp
      rw [hp] at hphase
      obtain rfl : pfd = [] := hphase
      obtain ⟨state, hrun, hst⟩ := Option.bind_eq_some_iff.mp hst
      obtain ⟨first, -, hst⟩ := Option.bind_eq_some_iff.mp hst
      obtain rfl := Option.some.inj hst
      exact h.processReadReadies hinv.queued hrun
    · exact absurd hst (by simp)
  | fire =>
    simp only [Event.step] at hst
    split at hst
    · rename_i x hp
      split at hst
      · obtain rfl := Option.some.inj hst
        exact h
      · rename_i hne
        obtain ⟨rest, happ⟩ := hinv.pending_of_firing hp hne
        obtain ⟨next, -, hst⟩ := Option.bind_eq_some_iff.mp hst
        obtain ⟨state, hrun, hst⟩ := Option.bind_eq_some_iff.mp hst
        obtain rfl := Option.some.inj hst
        exact h.removePending (happ ▸ hinv.queued.lists) hrun
    · exact absurd hst (by simp)
  | timerAdd e tv byLoop =>
    simp only [Event.step] at hst
    split at hst
    · rename_i hcond
      obtain ⟨state, hrun, rfl⟩ := Option.map_eq_some_iff.mp hst
      exact h.timerAdd hinv.queued hadds hcond.2.1 hinv.clock hcond.2.2 hinv.logged.length_lt hrun
    · exact absurd hst (by simp)
  | eventAdd e byLoop =>
    simp only [Event.step] at hst
    split at hst
    · rename_i hcond
      obtain rfl := Option.some.inj hst
      exact h.eventAdd hinv.queued hadds hcond.2
    · exact absurd hst (by simp)
  | eventSet e fd persist func =>
    simp only [Event.step] at hst
    split at hst
    · obtain rfl := Option.some.inj hst
      exact h.eventSet
    · exact absurd hst (by simp)
  | eventDel e =>
    simp only [Event.step] at hst
    split at hst
    · rename_i hcond
      obtain rfl := Option.some.inj hst
      exact h.eventDel hinv.queued hcond.2
    · exact absurd hst (by simp)

/-- The event is idle, and not about to be called. -/
def AnyState.IdleAt (υ : AnyState) (ev : ℕ) : Prop := Idle υ.loop.ev ev ∧ υ.calling ≠ some ev

/-- What is taken off the pending list was on it. -/
theorem LoopInv.taken_ne (h : LoopInv σ ts pts pfd) (hun : σ.ev.Unlinked ev) :
    σ.taken ≠ some ev := by
  intro htaken
  unfold LoopState.taken at htaken
  split at htaken
  · rename_i x hp
    split at htaken
    · exact absurd htaken (by simp)
    · rename_i hne
      obtain rfl := Option.some.inj htaken
      obtain ⟨rest, happ⟩ := h.pending_of_firing hp hne
      have hnot := h.queued.lists.notMem_pending hun
      rw [happ] at hnot
      exact hnot List.mem_cons_self
  · exact absurd htaken (by simp)

theorem AnyState.callingAfter_ne (htaken : υ.loop.taken ≠ some ev) (hcalling : υ.calling ≠ some ev)
    (a : LoopAction) : υ.callingAfter a ≠ some ev := by
  cases a with
  | fire => exact htaken
  | _ => exact hcalling

theorem AnyState.IdleAt.step (h : υ.IdleAt ev) (hinv : LoopInv υ.loop ts pts pfd) {c : AnyCall}
    (hadds : ¬ c.Adds ev) (hst : anyThread.step υ c = some ω) : ω.IdleAt ev := by
  obtain ⟨hidle, hcalling⟩ := h
  cases c with
  | loop a =>
    obtain ⟨hst, hafter⟩ := anyThread_loop hst
    refine ⟨hidle.step hinv hadds hst, ?_⟩
    rw [hafter]
    exact AnyState.callingAfter_ne (hinv.taken_ne hidle.1) hcalling a
  | call =>
    obtain rfl := anyThread_call hst
    exact ⟨hidle, Option.some_ne_none ev ∘ Eq.symm⟩
  | del e =>
    obtain ⟨hdel, rfl⟩ := anyThread_del hst
    exact ⟨hidle.eventDel hinv.queued hdel.1, hcalling⟩

/-- What is kept by every step that does not add the event, and rules out that it is called. -/
theorem silent_of_invariant {I : AnyState → Prop} (h : I υ)
    (hcalling : ∀ {s}, I s → s.calling ≠ some ev)
    (hstep : ∀ {s t c}, I s → ¬ AnyCall.Adds ev c → anyThread.step s c = some t → I t) :
    Silent υ ev := by
  rintro t c ω hrun - ⟨-, hcall⟩
  exact hcalling (hrun.invariant (I := I) h hstep) hcall

/-- **An idle event is not called** until it is added again. -/
theorem Idle.silent (h : υ.IdleAt ev) (hinv : LoopInv υ.loop ts pts pfd) : Silent υ ev := by
  refine silent_of_invariant
    (I := fun υ => (∃ ts pts pfd, LoopInv υ.loop ts pts pfd) ∧ υ.IdleAt ev)
    ⟨⟨ts, pts, pfd, hinv⟩, h⟩ (fun hboth => hboth.2.2) ?_
  rintro s t c ⟨⟨ts', pts', pfd', hinv'⟩, hidle⟩ hadds hst
  exact ⟨hinv'.anyStep hst, hidle.step hinv' hadds hst⟩

/-- Nothing brings a loop back that has ended. -/
theorem dead_of_step {a : LoopAction} (h : σ.phase = .dead) (hst : step σ a = some τ) :
    τ.phase = .dead := by
  cases stepTo_of_step hst with
  | tick | timerAdd | eventAdd | eventSet | eventDel | trigger => exact h
  | enterLoop hp | copyFds hp | calcNextTimeout _ hp | enterSelect hp | ready _ hp | eintr hp
  | error hp | processTimeouts _ hp | processReadReadies _ _ hp | fired hp | fire _ hp =>
    exact absurd (h.symm.trans hp) (by simp)

/-- A loop that has ended calls nothing more. -/
theorem silent_of_dead (hdead : υ.loop.phase = .dead) (hcalling : υ.calling ≠ some ev) :
    Silent υ ev := by
  refine silent_of_invariant (I := fun υ => υ.loop.phase = .dead ∧ υ.calling ≠ some ev)
    ⟨hdead, hcalling⟩ (fun hboth => hboth.2) ?_
  rintro s t c ⟨hdead', hcalling'⟩ - hst
  cases c with
  | loop a =>
    obtain ⟨hst, hafter⟩ := anyThread_loop hst
    refine ⟨dead_of_step hdead' hst, ?_⟩
    rw [hafter]
    refine AnyState.callingAfter_ne ?_ hcalling' a
    simp [LoopState.taken, hdead']
  | call =>
    obtain rfl := anyThread_call hst
    exact ⟨hdead', Option.some_ne_none ev ∘ Eq.symm⟩
  | del e =>
    obtain ⟨-, rfl⟩ := anyThread_del hst
    exact ⟨hdead', hcalling'⟩

/-! ### Events on a list -/

/-- Some run that does not add the event calls its callback. -/
def CanCall (υ : AnyState) (ev : ℕ) : Prop :=
  ∃ t c ω, Reaches (anyThread.from υ) (fun _ c => ¬ c.Adds ev) t ∧ anyThread.step t c = some ω ∧
    Invokes t c ev

theorem CanCall.not_silent (h : CanCall υ ev) : ¬ Silent υ ev := by
  intro hsilent
  obtain ⟨t, c, ω, hrun, hst, hcall⟩ := h
  exact hsilent t c ω hrun hst hcall

theorem CanCall.head (h : CanCall ω ev) {c : AnyCall} (hst : anyThread.step υ c = some ω)
    (hadds : ¬ c.Adds ev) : CanCall υ ev := by
  obtain ⟨t, c, u, hrun, hcall⟩ := h
  exact ⟨t, c, u, hrun.head (M := anyThread) hadds hst, hcall⟩

/-- The callback that is about to be called. -/
theorem canCall_calling (hcalling : υ.calling = some ev) : CanCall υ ev := by
  refine ⟨υ, .call, { υ with calling := none }, .init, ?_, rfl, hcalling⟩
  show υ.calling.map _ = _
  rw [hcalling]
  rfl

/-- The callback of another event first. -/
theorem CanCall.afterCall (h : CanCall ⟨σ, none⟩ ev) (calling : Option ℕ) :
    CanCall ⟨σ, calling⟩ ev := by
  cases calling with
  | none => exact h
  | some x => exact h.head (c := .call) rfl id

/-- One step of the loop, and the callback it takes, first. -/
theorem CanCall.step (h : CanCall ⟨τ, none⟩ ev) {a : LoopAction} (hst : step σ a = some τ)
    (hadds : ¬ AnyCall.Adds ev (.loop a)) : CanCall ⟨σ, none⟩ ev :=
  (h.afterCall (AnyState.callingAfter ⟨σ, none⟩ a)).head (anyThread_of_step hst) hadds

/-- The loop at an event of the pending list. -/
theorem LoopInv.fire_step (h : LoopInv σ ts pts pfd) {x : ℕ} {rest : List ℕ}
    (hp : σ.phase = .firing x) (happ : pts ++ pfd = x :: rest) :
    ∃ τ pts' pfd', Event.step σ .fire = some τ ∧ τ.phase = .firing (rest.headD pendingList) ∧
      pts' ++ pfd' = rest ∧ LoopInv τ ts pts' pfd' := by
  have hne := h.ne_pendingList happ
  obtain ⟨τ, pts', pfd', hrun, hphase, hrest, hinv⟩ := h.firePending happ
  refine ⟨τ, pts', pfd', ?_, hphase, hrest, hinv⟩
  simp only [Event.step, hp]
  rw [if_neg hne]
  exact hrun

/-- A pending event is called in the same round. -/
theorem LoopInv.canCall_pending {ps : List ℕ} (h : LoopInv σ ts pts pfd) (happ : pts ++ pfd = ps)
    (hp : σ.phase = .firing (ps.headD pendingList)) (hev : ev ∈ ps) : CanCall ⟨σ, none⟩ ev := by
  induction ps generalizing σ pts pfd with
  | nil => exact absurd hev List.not_mem_nil
  | cons x rest ih =>
    obtain ⟨τ, pts', pfd', hst, hphase, hrest, hinv⟩ := h.fire_step hp happ
    rcases List.mem_cons.mp hev with rfl | hev
    · have hne := h.ne_pendingList happ
      have htaken : σ.taken = some ev := by
        simp [LoopState.taken, hp, hne]
      exact (canCall_calling (υ := ⟨τ, σ.taken⟩) htaken).head (anyThread_of_step hst) id
    · exact (ih hinv hrest hphase hev).step hst id

/-- The loop fires what is pending and comes to its top. -/
theorem LoopInv.canCall_of_top {ps : List ℕ} (h : LoopInv σ ts pts pfd) (happ : pts ++ pfd = ps)
    (hp : σ.phase = .firing (ps.headD pendingList))
    (htop : ∀ τ, LoopInv τ ts [] [] → τ.phase = .top → CanCall ⟨τ, none⟩ ev) :
    CanCall ⟨σ, none⟩ ev := by
  induction ps generalizing σ pts pfd with
  | nil =>
    obtain ⟨rfl, rfl⟩ := List.append_eq_nil_iff.mp happ
    have hinv : LoopInv { σ with phase := .top } ts [] [] := h.setPhase ⟨rfl, rfl⟩
    refine (htop _ hinv rfl).step (a := .fire) ?_ id
    simp only [Event.step, hp]
    rfl
  | cons x rest ih =>
    obtain ⟨τ, pts', pfd', hst, hphase, hrest, hinv⟩ := h.fire_step hp happ
    exact (ih hinv hrest hphase).step hst id

/-- A time after any two. -/
theorem exists_later (t u : Timeval) :
    ∃ now : Timeval, now.Normal ∧ t.micros ≤ now.micros ∧ u.micros < now.micros := by
  have hzero : (0 : ℤ) < 1000000 := by decide
  refine ⟨⟨max (max t.micros u.micros) 0 + 1, 0⟩, ⟨le_refl 0, hzero⟩, ?_, ?_⟩
  · show _ ≤ (max (max t.micros u.micros) 0 + 1) * 1000000 + 0
    omega
  · show _ < (max (max t.micros u.micros) 0 + 1) * 1000000 + 0
    omega

/-- A timer that has expired is called in this round. -/
theorem LoopInv.canCall_expired (h : LoopInv σ ts pts pfd) {rfds : Finset ℤ}
    (hp : σ.phase = .expired rfds) (hev : ev ∈ pts) : CanCall ⟨σ, none⟩ ev := by
  obtain ⟨s', l, hrun, hfirst, hinv⟩ := h.readies hp
  refine (hinv.canCall_pending rfl rfl (List.mem_append_left _ hev)).step
    (a := .processReadReadies) ?_ id
  simp only [Event.step, hp, hrun, Option.bind_eq_bind, Option.bind_some, hfirst]
  rfl

/-- A timer expires if time passes before the loop looks. -/
theorem LoopInv.canCall_woken (h : LoopInv σ ts pts pfd) {rfds : Finset ℤ}
    (hp : σ.phase = .woken rfds) (hev : ev ∈ ts) : CanCall ⟨σ, none⟩ ev := by
  obtain ⟨now, hnow, hmono, hlate⟩ := exists_later σ.clock (σ.ev.event ev).timeout
  have htick := h.tick hnow hmono
  obtain ⟨s', hrun, hinv⟩ := htick.expire hp
  have hexpired : ev ∈ ts.takeWhile (Expired σ.ev now) :=
    (expired_iff_mem_takeWhile h.queued.sorted hev).mp hlate
  refine CanCall.step (a := .tick now) ?_ (if_pos ⟨hnow, hmono⟩) id
  refine (hinv.canCall_expired rfl hexpired).step (a := .processTimeouts) ?_ id
  simp only [Event.step, hp, hrun, Option.map_some]

/-- From its top the loop comes to where it looks for timers. -/
theorem LoopInv.canCall_blocked (h : LoopInv σ ts pts pfd) {rfds : Finset ℤ} {nfds : ℤ}
    {ptv : Option Timeval} {reading entered : Timeval}
    (hp : σ.phase = .blocked rfds nfds ptv reading entered) (hev : ev ∈ ts) :
    CanCall ⟨σ, none⟩ ev := by
  have hnil := h.phase
  rw [hp] at hnil
  have hinv : LoopInv { σ with phase := .woken ∅ } ts pts pfd := h.setPhase hnil
  refine (hinv.canCall_woken rfl hev).step (a := .leaveSelect (.ready ∅)) ?_ id
  simp only [Event.step, hp]
  exact if_pos ⟨Finset.empty_subset _, fun fd hfd => absurd hfd (Finset.notMem_empty fd)⟩

theorem LoopInv.canCall_timed (h : LoopInv σ ts pts pfd) {rfds : Finset ℤ}
    {ptv : Option Timeval} {reading : Timeval} (hp : σ.phase = .timed rfds ptv reading)
    (hev : ev ∈ ts) : CanCall ⟨σ, none⟩ ev := by
  have hnil := h.phase
  rw [hp] at hnil
  have hinv : LoopInv { σ with phase := .blocked rfds σ.ev.nfds ptv reading σ.clock } ts pts pfd :=
    h.setPhase hnil
  refine (hinv.canCall_blocked rfl hev).step (a := .enterSelect) ?_ id
  simp only [Event.step, hp]

theorem LoopInv.canCall_copied (h : LoopInv σ ts pts pfd) {rfds : Finset ℤ}
    (hp : σ.phase = .copied rfds) (hev : ev ∈ ts) : CanCall ⟨σ, none⟩ ev := by
  have hnil := h.phase
  rw [hp] at hnil
  obtain ⟨ptv, hptv, -⟩ := h.queued.lists.calcNextTimeout h.queued.times h.clock
  have hinv : LoopInv { σ with phase := .timed rfds ptv σ.clock } ts pts pfd := h.setPhase hnil
  refine (hinv.canCall_timed rfl hev).step (a := .calcNextTimeout) ?_ id
  simp only [Event.step, hp, hptv, Option.map_some]

theorem LoopInv.canCall_top (h : LoopInv σ ts pts pfd) (hp : σ.phase = .top) (hev : ev ∈ ts) :
    CanCall ⟨σ, none⟩ ev := by
  have hnil := h.phase
  rw [hp] at hnil
  have hinv : LoopInv { σ with phase := .copied σ.ev.readFds } ts pts pfd := h.setPhase hnil
  exact (hinv.canCall_copied rfl hev).step (a := .copyFds) (if_pos hp) id

/-- **An event on a list is called** in some run, wherever the loop is, unless it has ended. -/
theorem LoopInv.canCall (h : LoopInv σ ts pts pfd) (hdead : σ.phase ≠ .dead)
    (hev : ev ∈ ts ∨ ev ∈ pts ++ pfd) : CanCall ⟨σ, none⟩ ev := by
  have htop : ∀ τ, LoopInv τ ts [] [] → τ.phase = .top → ev ∈ ts → CanCall ⟨τ, none⟩ ev :=
    fun τ hτ hp hts => hτ.canCall_top hp hts
  have hnone : pts = [] ∧ pfd = [] → ev ∈ ts := by
    rintro ⟨rfl, rfl⟩
    exact hev.resolve_right List.not_mem_nil
  have hphase := h.phase
  cases hp : σ.phase with
  | starting =>
    rw [hp] at hphase
    have hinv : LoopInv { σ with phase := .top } ts pts pfd := h.setPhase hphase
    exact (hinv.canCall_top rfl (hnone hphase)).step (a := .enterLoop) (if_pos hp) id
  | top =>
    rw [hp] at hphase
    exact h.canCall_top hp (hnone hphase)
  | copied rfds =>
    rw [hp] at hphase
    exact h.canCall_copied hp (hnone hphase)
  | timed rfds ptv reading =>
    rw [hp] at hphase
    exact h.canCall_timed hp (hnone hphase)
  | blocked rfds nfds ptv reading entered =>
    rw [hp] at hphase
    exact h.canCall_blocked hp (hnone hphase)
  | woken rfds =>
    rw [hp] at hphase
    exact h.canCall_woken hp (hnone hphase)
  | expired rfds =>
    rw [hp] at hphase
    obtain rfl : pfd = [] := hphase
    rw [List.append_nil] at hev
    rcases hev with hts | hpts
    · obtain ⟨s', l, hrun, hfirst, hinv⟩ := h.readies hp
      refine (hinv.canCall_of_top rfl rfl fun τ hτ ht => htop τ hτ ht hts).step
        (a := .processReadReadies) ?_ id
      simp only [Event.step, hp, hrun, Option.bind_eq_bind, Option.bind_some, hfirst]
      rfl
    · exact h.canCall_expired hp hpts
  | firing x =>
    rw [hp] at hphase
    obtain rfl : x = (pts ++ pfd).headD pendingList := hphase
    rcases hev with hts | hpending
    · exact h.canCall_of_top rfl hp fun τ hτ ht => htop τ hτ ht hts
    · exact h.canCall_pending rfl hp hpending
  | dead => exact absurd hp hdead

/-! ### Removal -/

/-- The events on a list, in every state. -/
theorem canCall_of_linked (h : Reachable anyThread υ) (hlinked : ¬ υ.loop.ev.Unlinked ev)
    (htimer : ev ≠ timerList) (hpending : ev ≠ pendingList) (hdead : υ.loop.phase ≠ .dead) :
    CanCall υ ev := by
  obtain ⟨ts, pts, pfd, hinv⟩ := loopInv_anyThread h
  refine (hinv.canCall hdead ?_).afterCall υ.calling
  by_contra hnone
  rw [not_or] at hnone
  refine hlinked (hinv.queued.lists.unlinked ev ?_ ?_)
  · exact List.not_mem_cons_of_ne_of_not_mem htimer hnone.1
  · exact List.not_mem_cons_of_ne_of_not_mem hpending hnone.2

/-- An event that was removed is in no slot, and on the lists it was on. -/
theorem LoopInv.removed (h : LoopInv σ ts pts pfd) (hdel : Deletable σ.ev ev) :
    ¬ (Event.eventDel ev σ.ev).Watched ev ∧ (Event.eventDel ev σ.ev).links = σ.ev.links := by
  have htable := h.queued.table
  rcases hdel with ⟨i, hi⟩ | hnone
  · rw [htable.eventDel_watched hi]
    exact ⟨fun hw => ((htable.watched_removeWatch hi).mp hw).2 rfl, removeWatch_links ev i σ.ev⟩
  · rw [eventDel_of_index hnone]
    refine ⟨?_, rfl⟩
    rintro ⟨i, hi⟩
    have hindex := htable.index i ev hi
    omega

/-- **When a removed event is silent**: `ril_event_del`, called by any thread wherever the loop is,
keeps the callback of the event from being called until the event is added again exactly when
`firePending` is not about to call it and it is neither on the timer list nor on the pending list,
or the loop has ended. -/
theorem eventDel_silent_iff (h : Reachable anyThread υ)
    (hdel : anyThread.step υ (.del ev) = some ω) :
    Silent ω ev ↔ υ.calling ≠ some ev ∧ (υ.loop.ev.Unlinked ev ∨ υ.loop.phase = .dead) := by
  have hreach := h.next hdel
  obtain ⟨ts, pts, pfd, hinv⟩ := loopInv_anyThread h
  obtain ⟨⟨hdeletable, htimer, hpending⟩, rfl⟩ := anyThread_del hdel
  obtain ⟨hunwatched, hlinks⟩ := hinv.removed hdeletable
  have hun : (eventDel ev υ.loop.ev).Unlinked ev ↔ υ.loop.ev.Unlinked ev := by
    unfold EventState.Unlinked
    rw [hlinks]
  constructor
  · intro hsilent
    refine ⟨fun hcalling => ?_, ?_⟩
    · refine CanCall.not_silent ?_ hsilent
      exact canCall_calling hcalling
    by_contra hnone
    rw [not_or] at hnone
    refine (canCall_of_linked hreach ?_ htimer hpending hnone.2).not_silent hsilent
    exact fun hlinked => hnone.1 (hun.mp hlinked)
  · rintro ⟨hcalling, hlinked | hdead⟩
    · exact Idle.silent ⟨⟨hun.mpr hlinked, hunwatched⟩, hcalling⟩ (hinv.eventDel hdeletable)
    · exact silent_of_dead hdead hcalling

/-- An event of the table that is removed after `select` has found its descriptor ready. -/
theorem removed_watch_silent : ∃ υ ω, υ.loop.phase = .woken {3} ∧ υ.loop.ev.Watched 10 ∧
    anyThread.step υ (.del 10) = some ω ∧ Silent ω 10 := by
  have hrun : (Runs.exec anyThread (fun _ _ => True) anyThread.init
      [.loop (.eventSet 10 3 true .other), .loop (.eventAdd 10 true), .loop .enterLoop,
        .loop .copyFds, .loop .calcNextTimeout, .loop .enterSelect,
        .loop (.leaveSelect (.ready {3}))]).any
      (fun υ => υ.loop.phase = .woken {3} ∧ υ.loop.ev.Watched 10 ∧ υ.calling = none ∧
        υ.loop.ev.Unlinked 10 ∧ (anyThread.step υ (.del 10)).isSome) = true := by decide +kernel
  obtain ⟨υ, hυ, hstate⟩ := (Option.any_eq_true _ _).mp hrun
  obtain ⟨hphase, hwatched, hcalling, hunlinked, hdel⟩ := of_decide_eq_true hstate
  obtain ⟨ω, hω⟩ := Option.isSome_iff_exists.mp hdel
  refine ⟨υ, ω, hphase, hwatched, hω, ?_⟩
  refine (eventDel_silent_iff (Runs.reaches_of_exec hυ) hω).mpr ⟨?_, .inl hunlinked⟩
  rw [hcalling]
  exact (Option.some_ne_none 10).symm

/-- Two timers expire; the callback of the first removes the second, which is called next. -/
theorem removed_timer_called : ∃ υ ω, Reachable anyThread υ ∧ υ.loop.phase = .firing 11 ∧
    υ.calling = none ∧ anyThread.step υ (.del 11) = some ω ∧ ¬ Silent ω 11 := by
  have hrun : (Runs.exec anyThread (fun _ _ => True) anyThread.init
      [.loop (.eventSet 10 (-1) false .other), .loop (.eventSet 11 (-1) false .other),
        .loop (.timerAdd 10 ⟨0, 3⟩ true), .loop (.timerAdd 11 ⟨0, 5⟩ true), .loop .enterLoop,
        .loop .copyFds, .loop .calcNextTimeout, .loop .enterSelect, .loop (.tick ⟨0, 10⟩),
        .loop (.leaveSelect (.ready ∅)), .loop .processTimeouts, .loop .processReadReadies,
        .loop .fire, .call]).any
      (fun υ => υ.loop.phase = .firing 11 ∧ υ.calling = none ∧
        (anyThread.step υ (.del 11)).any fun ω =>
          ω.loop.phase ≠ .dead ∧ ¬ ω.loop.ev.Unlinked 11) = true := by
    decide +kernel
  obtain ⟨υ, hυ, hstate⟩ := (Option.any_eq_true _ _).mp hrun
  obtain ⟨hphase, hcalling, hdel⟩ := of_decide_eq_true hstate
  obtain ⟨ω, hω, hremoved⟩ := (Option.any_eq_true _ _).mp hdel
  obtain ⟨hdead, hlinked⟩ := of_decide_eq_true hremoved
  have hreach : Reachable anyThread υ := Runs.reaches_of_exec hυ
  refine ⟨υ, ω, hreach, hphase, hcalling, hω, CanCall.not_silent ?_⟩
  exact canCall_of_linked (hreach.next hω) hlinked (by decide) (by decide) hdead

end CtpCommon.Event
