import CtpCommon.Event.Timers

/-!
# Lost wakeups

The loop copies `readFds`, computes the timeout and enters `select` without the lock, so that an
event may be added after it was looked for.  The byte that its thread writes afterwards ends the
`select` that missed it.

* `Phase.Prepared` — the descriptors and the timeout the loop goes to `select` with miss nothing;
* `Answered` — they do, or a byte is in the pipe or still to be written;
* `no_lost_wakeup` — **PROVED**: a loop blocked with no byte to come waits for every watched
  descriptor, and no longer than until the first timer, counted from when it read the clock;
* `select_ends_late` — what passes between reading the clock and entering `select` comes on top.
-/

namespace CtpCommon.Event

open Runs (Reachable)

/-! ### The local variables of the loop -/

def FdsCovered (s : EventState) (rfds : Finset ℤ) : Prop :=
  ∀ e, s.Watched e → (s.event e).fd ∈ rfds

/-- The timeout reaches to no timer's own, and is there if there is a timer. -/
def TimersCovered (s : EventState) (ptv : Option Timeval) (reading : Timeval) : Prop :=
  ∀ e, ¬ s.Unlinked e → e ≠ timerList → e ≠ pendingList →
    ∃ tv, ptv = some tv ∧ tv.micros ≤ max 0 (s.due e - reading.micros)

def Phase.Prepared (s : EventState) (clock : Timeval) : Phase → Prop
  | .copied rfds => FdsCovered s rfds
  | .timed rfds ptv reading =>
      FdsCovered s rfds ∧ TimersCovered s ptv reading ∧ reading.micros ≤ clock.micros
  | .blocked rfds nfds ptv reading entered =>
      FdsCovered s rfds ∧ TimersCovered s ptv reading ∧ reading.micros ≤ entered.micros ∧
        ∀ e, s.Watched e → (s.event e).fd < nfds
  | _ => True

/-- Nothing is missed, or a byte will end the `select` that misses it. -/
def Answered (σ : LoopState) : Prop :=
  0 < σ.adders + σ.pipe ∨ σ.phase.Prepared σ.ev σ.clock

variable {σ τ : LoopState} {s s' : EventState} {ts : List ℕ}

/-! ### The steps -/

/-- Where the loop's own thread may call the interface nothing is prepared yet. -/
theorem prepared_of_onLoop {phase : Phase} {clock : Timeval} (h : phase.onLoop) :
    phase.Prepared s clock := by
  cases phase with
  | starting => trivial
  | firing _ => trivial
  | _ => exact absurd h Bool.false_ne_true

/-- Adding by another thread leaves a byte to be written. -/
theorem answered_of_add {byLoop : Bool} (h : byLoop → σ.phase.onLoop)
    (hadders : τ.adders = callers byLoop σ.adders) (hphase : τ.phase = σ.phase) : Answered τ := by
  cases byLoop with
  | true =>
    right
    rw [hphase]
    exact prepared_of_onLoop (h rfl)
  | false =>
    left
    rw [hadders]
    show 0 < σ.adders + 1 + τ.pipe
    omega

/-- What is prepared depends on the table and the timers alone. -/
theorem Phase.Prepared.congr {phase : Phase} {clock clock' : Timeval}
    (h : phase.Prepared s clock) (hclock : clock.micros ≤ clock'.micros)
    (htable : ∀ e, s'.Watched e → s.Watched e ∧ s'.event e = s.event e)
    (htimers : ∀ e, ¬ s'.Unlinked e → ¬ s.Unlinked e ∧ s'.event e = s.event e) :
    phase.Prepared s' clock' := by
  have hfds : ∀ {rfds}, FdsCovered s rfds → FdsCovered s' rfds := by
    intro rfds hcov e he
    obtain ⟨hw, heq⟩ := htable e he
    rw [heq]
    exact hcov e hw
  have hcovered : ∀ {ptv reading}, TimersCovered s ptv reading → TimersCovered s' ptv reading := by
    intro ptv reading hcov e he h₀ h₁
    obtain ⟨hlinked, heq⟩ := htimers e he
    unfold EventState.due
    rw [heq]
    exact hcov e hlinked h₀ h₁
  cases phase with
  | copied rfds => exact hfds h
  | timed rfds ptv reading =>
    obtain ⟨h₁, h₂, h₃⟩ := h
    exact ⟨hfds h₁, hcovered h₂, le_trans h₃ hclock⟩
  | blocked rfds nfds ptv reading entered =>
    obtain ⟨h₁, h₂, h₃, h₄⟩ := h
    refine ⟨hfds h₁, hcovered h₂, h₃, ?_⟩
    intro e he
    obtain ⟨hw, heq⟩ := htable e he
    rw [heq]
    exact h₄ e hw
  | _ => trivial

/-- With nothing pending, what is linked and no sentinel is a timer. -/
theorem Lists.mem_timers (h : Lists s ts []) {e : ℕ} (he : ¬ s.Unlinked e)
    (h₀ : e ≠ timerList) (h₁ : e ≠ pendingList) : e ∈ ts := by
  by_contra hnot
  refine he (h.unlinked e ?_ ?_)
  · intro hmem
    exact (List.mem_cons.mp hmem).elim h₀ hnot
  · intro hmem
    exact h₁ (List.mem_singleton.mp hmem)

/-- **`calcNextTimeout` covers every timer.** -/
theorem Queued.timersCovered (h : Queued s ts [] []) {now : Timeval} (hnow : now.Normal)
    {ptv : Option Timeval} (hcalc : calcNextTimeout now s = some ptv) :
    TimersCovered s ptv now := by
  obtain ⟨ptv', hrun, hnone, hsome⟩ := h.lists.calcNextTimeout h.times hnow
  obtain rfl := Option.some.inj (hcalc.symm.trans hrun)
  intro e he h₀ h₁
  have hmem : e ∈ ts := h.lists.mem_timers he h₀ h₁
  cases ts with
  | nil => exact absurd hmem List.not_mem_nil
  | cons t ts =>
    rcases ptv with _ | tv
    · exact absurd (hnone.mp rfl) (List.cons_ne_nil _ _)
    refine ⟨tv, rfl, ?_⟩
    have hle : s.due t ≤ s.due e := by
      rcases List.mem_cons.mp hmem with rfl | hmem
      · exact le_refl _
      · exact (List.pairwise_cons.mp h.sorted).1 e hmem
    rw [hsome tv rfl t rfl]
    exact max_le_max (le_refl 0) (by omega)

theorem firePending_phase {ev : ℕ} (h : firePending ev σ = some τ) :
    ∃ next, τ.phase = .firing next := by
  obtain ⟨next, -, h⟩ := Option.bind_eq_some_iff.mp h
  obtain ⟨state, -, h⟩ := Option.bind_eq_some_iff.mp h
  obtain rfl := Option.some.inj h
  exact ⟨next, rfl⟩

/-- **Every step keeps it**: in each interleaving the add comes before its write and the drain
before the copy. -/
theorem Answered.step (h : Answered σ) (hinv : ∃ ts pts pfd, LoopInv σ ts pts pfd)
    (hst : StepTo σ τ) : Answered τ := by
  obtain ⟨ts, pts, pfd, hqueued, hlogged, hclock, hphase⟩ := hinv
  cases hst with
  | tick now hnow hmono =>
    exact h.imp_right fun hprep => hprep.congr hmono (fun _ he => ⟨he, rfl⟩) fun _ he => ⟨he, rfl⟩
  | enterLoop _ => exact .inr trivial
  | copyFds _ => exact .inr fun e he => hqueued.table.fd_mem e he
  | calcNextTimeout ptv hp hcalc =>
    unfold Answered at h
    rw [hp] at h hphase
    obtain ⟨rfl, rfl⟩ := hphase
    exact h.imp_right fun hprep => ⟨hprep, hqueued.timersCovered hclock hcalc, le_refl _⟩
  | enterSelect hp =>
    unfold Answered at h
    rw [hp] at h
    refine h.imp_right fun hprep => ?_
    obtain ⟨hfds, htimers, hreading⟩ := hprep
    exact ⟨hfds, htimers, hreading, fun e he => hqueued.table.fd_lt e he⟩
  | ready fds _ => exact .inr trivial
  | eintr _ => exact .inr trivial
  | error _ => exact .inr trivial
  | processTimeouts _ _ _ => exact .inr trivial
  | processReadReadies _ _ _ _ _ => exact .inr trivial
  | fired _ => exact .inr trivial
  | fire _ _ _ hrun =>
    obtain ⟨next, hnext⟩ := firePending_phase hrun
    right
    rw [hnext]
    trivial
  | timerAdd _ hby _ _ _ => exact answered_of_add hby rfl rfl
  | eventAdd hby _ => exact answered_of_add hby rfl rfl
  | @eventSet ev fd persist func hfresh =>
    refine h.imp_right fun hprep => hprep.congr (le_refl _) ?_ ?_
    · intro e he
      have hw : σ.ev.Watched e := he
      refine ⟨hw, eventSet_event ?_⟩
      rintro rfl
      exact hfresh.2 hw
    · intro e he
      have hne : e ≠ ev := by
        rintro rfl
        refine he ?_
        show ((σ.ev.links.setNext e none).setPrev e none).next e = none
        rw [LinkedRing.Links.setPrev_next, LinkedRing.Links.setNext_next, if_pos rfl]
      refine ⟨fun hun => he ?_, eventSet_event hne⟩
      show ((σ.ev.links.setNext ev none).setPrev ev none).next e = none
      rw [LinkedRing.Links.setPrev_next, LinkedRing.Links.setNext_next, if_neg hne]
      exact hun
  | eventDel hon _ => exact .inr (prepared_of_onLoop hon)
  | trigger hpos =>
    left
    show 0 < σ.adders - 1 + (σ.pipe + 1)
    omega

theorem answered_reachable (h : Reachable eventLoop σ) : Answered σ := by
  have hboth := Runs.Reaches.invariant
    (I := fun σ => (∃ ts pts pfd, LoopInv σ ts pts pfd) ∧ Answered σ) h
    ⟨⟨[], [], [], loopInv_init⟩, .inr trivial⟩ ?_
  · exact hboth.2
  · intro s t a hinv _ hst
    obtain ⟨⟨ts, pts, pfd, hloop⟩, hans⟩ := hinv
    exact ⟨hloop.step (stepTo_of_step hst),
      hans.step ⟨ts, pts, pfd, hloop⟩ (stepTo_of_step hst)⟩

/-! ### Blocked -/

/-- **No lost wakeup**: a loop that is blocked, with no byte in the pipe and no thread between its
add and its write, waits for every watched descriptor; it waits for ever only if there is no
timer, and otherwise at most for the time that was left to each when the loop read the clock, so
that `select` ends at once or no later than the timeout and what passed between that reading and
the call. -/
theorem no_lost_wakeup (h : Reachable eventLoop σ) {rfds : Finset ℤ} {nfds : ℤ}
    {ptv : Option Timeval} {reading entered : Timeval}
    (hblocked : σ.phase = .blocked rfds nfds ptv reading entered) (hadders : σ.adders = 0)
    (hpipe : σ.pipe = 0) :
    (∀ e, σ.ev.Watched e → (σ.ev.event e).fd ∈ rfds ∧ (σ.ev.event e).fd < nfds) ∧
      reading.micros ≤ entered.micros ∧
      ∃ ts, Lists σ.ev ts [] ∧ (ptv = none → ts = []) ∧ ∀ tv, ptv = some tv → ∀ e ∈ ts,
        entered.micros + tv.micros
          ≤ max entered.micros (σ.ev.due e + (entered.micros - reading.micros)) := by
  obtain ⟨ts, pts, pfd, hqueued, -, -, hphase⟩ := loopInv_reachable h
  rw [hblocked] at hphase
  obtain ⟨rfl, rfl⟩ := hphase
  have hanswered := answered_reachable h
  unfold Answered at hanswered
  rw [hblocked, hadders, hpipe] at hanswered
  obtain ⟨hfds, htimers, hreading, hnfds⟩ := hanswered.resolve_left (Nat.lt_irrefl 0)
  have hlinked : ∀ e ∈ ts, ∃ tv, ptv = some tv ∧
      tv.micros ≤ max 0 (σ.ev.due e - reading.micros) := by
    intro e he
    have hne₀ : e ≠ timerList := by
      rintro rfl
      exact (List.nodup_cons.mp hqueued.lists.left.nodup).1 he
    have hne₁ : e ≠ pendingList := by
      rintro rfl
      exact hqueued.lists.disjoint _ (List.mem_cons_of_mem _ he) (List.mem_cons_self ..)
    refine htimers e (hqueued.lists.linked ?_) hne₀ hne₁
    simp only [List.mem_cons, List.mem_append]
    tauto
  refine ⟨fun e he => ⟨hfds e he, hnfds e he⟩, hreading, ts, hqueued.lists, ?_, ?_⟩
  · rintro rfl
    refine List.eq_nil_iff_forall_not_mem.mpr fun e he => ?_
    obtain ⟨tv, htv, -⟩ := hlinked e he
    exact absurd htv (by simp)
  · intro tv htv e he
    obtain ⟨tv', htv', hle⟩ := hlinked e he
    obtain rfl := Option.some.inj (htv.symm.trans htv')
    rcases le_total (σ.ev.due e - reading.micros) 0 with hneg | hpos
    · rw [max_eq_left hneg] at hle
      exact le_trans (by omega) (le_max_left _ _)
    · rw [max_eq_right hpos] at hle
      exact le_trans (by omega) (le_max_right _ _)

/-- Another thread adds a timer of one second and wakes the loop through the pipe, event 9 on
descriptor 3; a microsecond passes before the loop enters `select` again. -/
def secondTimer : List LoopAction :=
  [.eventSet 9 3 true .processWakeupCallback, .eventAdd 9 true, .enterLoop, .copyFds,
    .calcNextTimeout, .enterSelect, .timerAdd 10 ⟨1, 0⟩ false, .trigger,
    .leaveSelect (.ready {3}), .processTimeouts, .processReadReadies, .fire, .fire, .copyFds,
    .calcNextTimeout, .tick ⟨0, 1⟩, .enterSelect]

/-- Is the loop blocked on descriptor 3 for a second from the microsecond on, with nothing to wake
it? -/
def blockedForSecond (σ : LoopState) : Bool :=
  σ.phase = .blocked {3} 4 (some ⟨1, 0⟩) ⟨0, 0⟩ ⟨0, 1⟩ ∧ σ.adders = 0 ∧ σ.pipe = 0 ∧
    σ.ev.due 10 = 1000000 ∧ ¬ σ.ev.Unlinked 10

theorem secondTimer_blocked :
    ∃ σ, Reachable eventLoop σ ∧ blockedForSecond σ = true := by
  have hrun : (Runs.exec eventLoop (fun _ _ => True) loopInit secondTimer).map blockedForSecond
      = some true := by decide +kernel
  obtain ⟨σ, hσ, hblocked⟩ := Option.map_eq_some_iff.mp hrun
  exact ⟨σ, Runs.reaches_of_exec hσ, hblocked⟩

/-- The second timer is covered up to that microsecond. -/
theorem secondTimer_covered : ∃ σ, blockedForSecond σ = true ∧
    ∃ ts, Lists σ.ev ts [] ∧ ∀ e ∈ ts, 1000001 ≤ max 1 (σ.ev.due e + 1) := by
  obtain ⟨σ, hσ, hblocked⟩ := secondTimer_blocked
  obtain ⟨hphase, hadders, hpipe, -⟩ := of_decide_eq_true hblocked
  obtain ⟨-, -, ts, hlists, -, hcovered⟩ := no_lost_wakeup hσ hphase hadders hpipe
  exact ⟨σ, hblocked, ts, hlists, hcovered ⟨1, 0⟩ rfl⟩

/-- **`select` may end after the first timer**: its timeout is counted from the call, and the
clock was read before. -/
theorem select_ends_late :
    ¬ ∀ σ, Reachable eventLoop σ → ∀ rfds nfds tv reading entered,
      σ.phase = .blocked rfds nfds (some tv) reading entered → σ.adders = 0 → σ.pipe = 0 →
      ∀ ts, Lists σ.ev ts [] → ∀ e ∈ ts, entered.micros + tv.micros ≤ σ.ev.due e := by
  intro hall
  obtain ⟨σ, hσ, hblocked⟩ := secondTimer_blocked
  obtain ⟨hphase, hadders, hpipe, hdue, hlinked⟩ := of_decide_eq_true hblocked
  obtain ⟨ts, pts, pfd, hqueued, -, -, hholds⟩ := loopInv_reachable hσ
  rw [hphase] at hholds
  obtain ⟨rfl, rfl⟩ := hholds
  have hmem : 10 ∈ ts := hqueued.lists.mem_timers hlinked (by decide) (by decide)
  have hle := hall σ hσ _ _ _ _ _ hphase hadders hpipe ts hqueued.lists 10 hmem
  rw [hdue] at hle
  exact absurd hle (by decide)

end CtpCommon.Event
