import CtpCommon.Gps.SessionThreads
import Mathlib.Data.List.Count

/-!
# The GPS provider: what is asked for, and by whom

* `Navigation.demanded` — locations are asked for, and GPS may be used;
* `demand_kept` — **PROVED** of every run whose methods do not overlap and whose requests fit: what
  is asked for is served, or an alarm will see to it, or the engine has failed, given the one answer
  that is asked for, or been disabled;
* `demand_lost` — **PROVED**: a request that does not fit may be forgotten;
* `operations_balanced` — **PROVED** of every run: an operation that has been started is finished,
  once, when its client is gone.
-/

namespace CtpCommon.Gps

open Runs (Reachable)
open Threads

namespace Navigation

/-! ### What is asked for -/

/-- Someone asks for locations. -/
def asked (n : Navigation) : Bool :=
  match n.providerRequest, n.workSource with
  | some request, some _ => request.reportLocation
  | _, _ => false

/-- Someone does, and the battery saver does not forbid them. -/
def demanded (n : Navigation) : Bool := n.asked && !n.disableGps

section

variable (verbose : Bool)

/-- What is asked for now is one fix. -/
def asksOnce (n : Navigation) : Bool :=
  match n.providerRequest with
  | some request => wantsSingleShot verbose request
  | none => verbose

/-- The engine runs, a wakeup is set or on its way, or there is a reason for its rest: it has not
started, it has answered and one answer is all that is asked for now, or it is disabled. -/
def Served (n : Navigation) (wakeups : ℕ) : Prop :=
  n.started = true ∨ n.wakeupAlarm.isSome = true ∨ 0 < wakeups ∨ n.rest = .startFailed ∨
    (n.rest = .answered ∧ n.asksOnce verbose = true) ∨ n.rest = .disabled

/-- A session for one fix runs only while one fix is asked for. -/
def Once (n : Navigation) : Prop :=
  n.started = true → n.singleShot = true → n.asked = true → n.asksOnce verbose = true

/-- What is asked for is served. -/
structure Kept (n : Navigation) (wakeups : ℕ) : Prop where
  served : n.demanded = true → n.Served verbose wakeups
  once : n.Once verbose

/-- While a session for one fix runs, one fix is all that a request may demand. -/
def FitsSession : Provider.RequestsFit := fun n request source =>
  let m := { n with providerRequest := request, workSource := source }
  n.started = true → n.singleShot = true → m.demanded = true → m.asksOnce verbose = true

end

/-- The fields that matter. -/
def stance (n : Navigation) :=
  (n.providerRequest, n.workSource, n.disableGps, n.started, n.singleShot, n.wakeupAlarm, n.rest)

variable {verbose : Bool} {diffs : ReturningDiffs} {n m : Navigation} {k l : ℕ}

theorem demanded_asked (h : n.demanded = true) : n.asked = true := (Bool.and_eq_true_iff.mp h).1

theorem asked_congr (hrequest : m.providerRequest = n.providerRequest)
    (hsource : m.workSource = n.workSource) : m.asked = n.asked := by
  unfold asked
  rw [hrequest, hsource]

theorem asksOnce_congr (hrequest : m.providerRequest = n.providerRequest) :
    m.asksOnce verbose = n.asksOnce verbose := by
  unfold asksOnce
  rw [hrequest]

theorem demanded_congr (hm : m.stance = n.stance) : m.demanded = n.demanded := by
  simp only [stance, Prod.mk.injEq] at hm
  obtain ⟨hrequest, hsource, hdisable, -⟩ := hm
  unfold demanded
  rw [asked_congr hrequest hsource, hdisable]

theorem Kept.congr (h : n.Kept verbose k) (hm : m.stance = n.stance) : m.Kept verbose k := by
  simp only [stance, Prod.mk.injEq] at hm
  obtain ⟨hrequest, hsource, hdisable, hstarted, hsingle, hwakeup, hrest⟩ := hm
  have hasked := asked_congr hrequest hsource
  have honce : m.asksOnce verbose = n.asksOnce verbose := asksOnce_congr hrequest
  refine ⟨?_, ?_⟩
  · unfold demanded Served
    rw [hasked, honce, hdisable, hstarted, hwakeup, hrest]
    exact h.served
  · unfold Once
    rw [hasked, honce, hstarted, hsingle]
    exact h.once

theorem updateClientUids_stance (source : WorkSource) :
    (n.updateClientUids diffs source).stance = n.stance := by
  unfold updateClientUids
  extract_lets m
  split <;> rfl

theorem updateStatus_stance (status svCount : Int32) :
    (n.updateStatus status svCount).stance = n.stance := by
  unfold updateStatus
  split <;> rfl

/-! ### Sessions for one fix -/

/-- With `VERBOSE` every request asks for one fix. -/
theorem asksOnce_verbose (n : Navigation) : n.asksOnce true = true := by
  unfold asksOnce
  cases n.providerRequest with
  | none => rfl
  | some request =>
    show wantsSingleShot true request = true
    unfold wantsSingleShot
    split
    · rfl
    · rfl
    · exact ite_self true

/-- A session that is stopped does not run, unless `VERBOSE`. -/
theorem once_of_started (h : m.started = true → verbose = true) : m.Once verbose := by
  intro hstarted _ _
  rw [h hstarted]
  exact asksOnce_verbose m

theorem stopNavigating_started (why : Rest) :
    (n.stopNavigating verbose why).started = true → verbose = true := by
  unfold stopNavigating
  split
  · intro hstarted
    exact ((updateStatus_calls _ _).2.1.symm.trans hstarted)
  · rename_i hrest
    exact fun hstarted => absurd hstarted hrest

theorem stopNavigating_demanded (why : Rest) :
    (n.stopNavigating verbose why).demanded = n.demanded := by
  unfold stopNavigating
  split
  · unfold updateStatus
    split <;> rfl
  · rfl

/-- What an attempt to start leaves as it was. -/
theorem startNavigating_request (verbose : Bool) (ans : NavAnswers) (singleShot : Bool) :
    (n.startNavigating verbose ans singleShot).providerRequest = n.providerRequest ∧
      (n.startNavigating verbose ans singleShot).workSource = n.workSource ∧
      (n.started = false → (n.startNavigating verbose ans singleShot).singleShot = singleShot) := by
  unfold startNavigating
  split
  · rename_i hstarted
    exact ⟨rfl, rfl, fun hrest => absurd (hstarted.symm.trans hrest) (by decide)⟩
  extract_lets a b c d
  have hsame : (c.updateStatus temporarilyUnavailable 0).stance = c.stance :=
    updateStatus_stance _ _
  simp only [stance, Prod.mk.injEq] at hsame
  split
  · exact ⟨rfl, rfl, fun _ => rfl⟩
  split
  · split <;> exact ⟨hsame.1, hsame.2.1, fun _ => hsame.2.2.2.2.1⟩
  · exact ⟨rfl, rfl, fun _ => rfl⟩

theorem once_startNavigating (ans : NavAnswers) {singleShot : Bool} (h : n.Once verbose)
    (honce : singleShot = true → n.asked = true → n.asksOnce verbose = true) :
    (n.startNavigating verbose ans singleShot).Once verbose := by
  by_cases hstarted : n.started = true
  · have hsame : n.startNavigating verbose ans singleShot = n := if_pos hstarted
    rw [hsame]
    exact h
  obtain ⟨hrequest, hsource, hsingle⟩ :=
    startNavigating_request (n := n) verbose ans singleShot
  intro _ hshot hasked
  rw [asksOnce_congr hrequest]
  rw [hsingle (Bool.eq_false_iff.mpr hstarted)] at hshot
  rw [asked_congr hrequest hsource] at hasked
  exact honce hshot hasked

/-! ### The methods -/

/-- **An attempt to start**: the engine runs afterwards, or it has failed. -/
theorem startNavigating_settles (verbose : Bool) (ans : NavAnswers) (singleShot : Bool) :
    (n.startNavigating verbose ans singleShot).started = true ∨
      (n.startNavigating verbose ans singleShot).rest = .startFailed := by
  unfold startNavigating
  split
  · exact .inl ‹_›
  extract_lets a b c d
  split
  · exact .inr rfl
  split
  · refine .inl ?_
    have hstarted : (c.updateStatus temporarilyUnavailable 0).started = c.started :=
      (updateStatus_calls _ _).2.1
    split <;> exact hstarted
  · exact .inr rfl

theorem served_startNavigating (ans : NavAnswers) (singleShot : Bool) :
    (n.startNavigating verbose ans singleShot).Served verbose k := by
  rcases startNavigating_settles (n := n) verbose ans singleShot with hrun | hfail
  · exact .inl hrun
  · exact .inr (.inr (.inr (.inl hfail)))

/-- A wakeup is handled: the session is not for one fix. -/
theorem Kept.wakeup (h : n.Kept verbose l) (ans : NavAnswers) :
    (n.startNavigating verbose ans verbose).Kept verbose k := by
  refine ⟨fun _ => served_startNavigating _ _, once_startNavigating _ h.once fun hverbose _ => ?_⟩
  rw [hverbose]
  exact asksOnce_verbose n

theorem kept_hibernate (ans : NavAnswers) : (n.hibernate verbose ans).Kept verbose k :=
  ⟨fun _ => .inr (.inl rfl), once_of_started (stopNavigating_started .hibernating)⟩

/-- **A session for one fix ends** because it is answered: one fix is all that is asked for. -/
theorem Kept.answered (h : n.Kept verbose k) (hsingle : n.singleShot = true) :
    (n.stopNavigating verbose .answered).Kept verbose k := by
  refine ⟨fun hdemanded => ?_, once_of_started (stopNavigating_started _)⟩
  rw [stopNavigating_demanded] at hdemanded
  unfold stopNavigating
  split
  · rename_i hstarted
    have honce := h.once hstarted hsingle (demanded_asked hdemanded)
    have hsame := updateStatus_stance (n := { n with
      started := verbose
      singleShot := verbose
      timeToFirstFix := 0
      lastFixTime := 0
      locationFlags := 0
      rest := .answered
      calls := n.calls ++ [.nativeStop, .csmStop] }) temporarilyUnavailable 0
    simp only [stance, Prod.mk.injEq] at hsame
    obtain ⟨hrequest, -, -, -, -, -, hrest⟩ := hsame
    refine .inr (.inr (.inr (.inr (.inl ⟨hrest, ?_⟩))))
    exact (asksOnce_congr hrequest).trans honce
  · exact h.served hdemanded

theorem demanded_of_none (h : n.providerRequest = none ∨ n.workSource = none) :
    n.asked = false := by
  unfold asked
  split
  · rename_i hrequest hsource
    rcases h with hnone | hnone
    · exact absurd (hrequest.symm.trans hnone) (by simp)
    · exact absurd (hsource.symm.trans hnone) (by simp)
  · rfl

theorem demanded_of_present {request : ProviderRequest} {source : WorkSource}
    (hrequest : n.providerRequest = some request) (hsource : n.workSource = some source) :
    n.demanded = (request.reportLocation && !n.disableGps) := by
  unfold demanded asked
  rw [hrequest, hsource]

/-- **Nothing is demanded**: the engine is stopped. -/
theorem kept_notDemanded (hnone : n.demanded = false) :
    Navigation.Kept verbose { ((n.updateClientUids diffs []).stopNavigating verbose
      .notDemanded).cancelAlarms with rest := .notDemanded } k := by
  refine ⟨fun hdemanded => ?_, once_of_started (stopNavigating_started .notDemanded)⟩
  have hstopped : ((n.updateClientUids diffs []).stopNavigating verbose .notDemanded).demanded
      = n.demanded :=
    (stopNavigating_demanded .notDemanded).trans (demanded_congr (updateClientUids_stance []))
  exact absurd (hdemanded.symm.trans (hstopped.trans hnone)) (by decide)

/-- **Requirements change**: the engine is stopped only if nothing is asked for, and a session for
one fix begins only if one fix is. -/
theorem kept_updateRequirements (ans : NavAnswers)
    (hfits : n.started = true → n.singleShot = true → n.demanded = true →
      n.asksOnce verbose = true) :
    (n.updateRequirements verbose diffs ans).Kept verbose k := by
  unfold Navigation.updateRequirements
  split
  · rename_i request source hrequest hsource
    have hpresent := demanded_of_present hrequest hsource
    split
    · rename_i hoff
      refine kept_notDemanded ?_
      rw [hpresent]
      rcases hoff with hreport | hdisable
      · rw [hreport]
        rfl
      · rw [hdisable]
        exact Bool.and_false _
    · rename_i hon
      have hdemanded : n.demanded = true := by
        rw [hpresent]
        simpa using hon
      extract_lets a b
      have hstance : b.stance = n.stance := updateClientUids_stance source
      simp only [stance, Prod.mk.injEq] at hstance
      obtain ⟨hrequest', hsource', -, hstarted', hsingle', -, -⟩ := hstance
      have honce : b.Once verbose := by
        intro hstarted hsingle _
        rw [asksOnce_congr hrequest']
        exact hfits (hstarted'.symm.trans hstarted) (hsingle'.symm.trans hsingle) hdemanded
      split
      · rename_i hrunning
        exact ⟨fun _ => .inl hrunning.1, honce⟩
      split
      · rename_i hstarted
        exact ⟨fun _ => .inl hstarted, honce⟩
      · refine ⟨fun _ => served_startNavigating _ _, once_startNavigating _ honce fun hshot _ => ?_⟩
        unfold asksOnce
        rw [hrequest', hrequest]
        exact hshot
  · rename_i hnone
    have hmissing : n.providerRequest = none ∨ n.workSource = none := by
      cases hrequest : n.providerRequest with
      | none => exact .inl rfl
      | some request =>
        cases hsource : n.workSource with
        | none => exact .inr rfl
        | some source => exact (hnone request source hrequest hsource).elim
    have hasked := demanded_of_none hmissing
    refine ⟨fun hdemanded => ?_, fun _ _ hasked' => ?_⟩
    · exact absurd ((demanded_asked hdemanded).symm.trans hasked) (by decide)
    · exact absurd (hasked'.symm.trans hasked) (by decide)

theorem Kept.updateLowPowerMode (h : n.Kept verbose k) (ans : NavAnswers) (power : PowerState) :
    (n.updateLowPowerMode verbose diffs ans power).Kept verbose k := by
  unfold Navigation.updateLowPowerMode
  split
  · refine kept_updateRequirements _ fun hstarted hsingle hdemanded => ?_
    exact h.once hstarted hsingle (Bool.and_eq_true_iff.mp hdemanded).1
  · exact h

theorem noteFirstFix_stance (flags : Int32) : (n.noteFirstFix flags).stance = n.stance := by
  unfold noteFirstFix
  split <;> rfl

theorem noteFix_stance : n.noteFix.stance = n.stance := by
  unfold Navigation.noteFix
  split
  · extract_lets a
    rw [updateStatus_stance]
    show a.stance = n.stance
    unfold a
    split <;> rfl
  · rfl

theorem Kept.reportLocation (h : n.Kept verbose k) (ans : NavAnswers) (flags : Int32) :
    (n.reportLocation verbose ans flags).Kept verbose k := by
  unfold Navigation.reportLocation
  extract_lets a b c d
  have hb : b.Kept verbose k := h.congr (noteFirstFix_stance flags)
  have hc : c.Kept verbose k := by
    unfold c
    split
    · rename_i hsingle
      exact hb.answered hsingle
    · exact hb
  split
  · exact kept_hibernate ans
  · exact hc.congr noteFix_stance

theorem reportStatus_stance (status : Int32) :
    (n.reportStatus verbose status).stance = n.stance := by
  unfold Navigation.reportStatus
  extract_lets a
  have ha : a.stance = n.stance := by
    unfold a
    split_ifs <;> rfl
  split <;> exact ha

theorem reportSvStatus_stance (ans : NavAnswers) (usedInFix : Int32) :
    (n.reportSvStatus ans usedInFix).stance = n.stance := by
  unfold Navigation.reportSvStatus
  extract_lets a
  have ha : a.stance = n.stance := updateStatus_stance _ _
  split
  · exact (updateStatus_stance _ _).trans ha
  · exact ha

/-- **Every step.** -/
theorem Kept.navStep {v w : Waiting} (h : n.Kept verbose v.wakeups)
    (hstep : Provider.NavStep verbose diffs (FitsSession verbose) n v m w) :
    m.Kept verbose w.wakeups := by
  cases hstep with
  | same => exact h
  | setRequest _ ans request source hfits => exact kept_updateRequirements _ hfits
  | updateLowPowerMode _ ans power => exact h.updateLowPowerMode ans power
  | disable =>
    exact ⟨fun _ => .inr (.inr (.inr (.inr (.inr rfl)))),
      once_of_started (stopNavigating_started .disabled)⟩
  | wakeup _ ans => exact h.wakeup ans
  | timeout _ ans => exact kept_hibernate ans
  | reportLocation _ ans flags => exact h.reportLocation ans flags
  | reportStatus _ status => exact h.congr (reportStatus_stance status)
  | reportSvStatus _ ans usedInFix => exact h.congr (reportSvStatus_stance ans usedInFix)
  | setEngineCapabilities => exact h.congr rfl
  | alarmWakeup => exact ⟨fun _ => .inr (.inr (.inl (Nat.succ_pos _))), h.once⟩
  | alarmTimeout => exact h.congr rfl

end Navigation

/-- **Where requests do not fit**: a session for one fix runs, more fixes are asked for, and the
first of them stops the engine. -/
theorem demand_lost : ∃ σ : Pool (Navigation × Waiting),
    Runs.Reaches (sessionThreads false fun _ _ => none).system (fun σ a => σ.Alone a) σ ∧
      σ.settled.1.demanded = true ∧ ¬ σ.settled.1.Served false σ.settled.2.wakeups := by
  have honce : Runs.Reaches (sessionThreads false fun _ _ => none).system
      (fun σ a => σ.Alone a) _ :=
    handled (h := .setRequest ⟨false, true, true, 0, 0⟩ (some oneFix) (some [])) .init rfl
      (quiet_of_none _) (fun _ => trivial) rfl
  have hmore := handled (h := .setRequest ⟨false, true, true, 0, 0⟩
    (some { oneFix with locationRequests := none }) (some [])) honce rfl (quiet_of_none _)
    (fun _ => trivial) rfl
  have hfix := reported (e := .reportLocation ⟨false, true, true, 0, 0⟩ 0) hmore
    (quiet_of_none _) fun _ _ => trivial
  refine ⟨_, hfix, rfl, ?_⟩
  rintro (hrun | hwakeup | hwaits | hfailed | ⟨-, honce⟩ | hdisabled)
  · exact absurd hrun Bool.false_ne_true
  · exact absurd hwakeup Bool.false_ne_true
  · exact absurd hwaits (Nat.lt_irrefl 0)
  · exact absurd hfailed (by decide)
  · exact absurd honce Bool.false_ne_true
  · exact absurd hdisabled (by decide)

namespace Navigation

/-! ### The operations -/

/-- `setReturningDiffs` returns exactly what is new and what is gone. -/
def ReturningDiffs.Exact (diffs : ReturningDiffs) : Prop := ∀ old new c, match diffs old new with
  | none => old.count c = new.count c
  | some (newWork, goneWork) =>
      old.count c + (newWork.getD []).count c = new.count c + (goneWork.getD []).count c

/-- The operations of a client that have not finished are those it is a client for. -/
def Balanced (c : Client) (n : Navigation) : Prop :=
  n.calls.count (.startOperation c) = n.calls.count (.finishOperation c) + n.clientSource.count c

/-- What starts or stops the engine, and no operation. -/
structure Untouched (n m : Navigation) : Prop where
  calls : ∃ cs, m.calls = n.calls ++ cs ∧
    ∀ c, NavCall.startOperation c ∉ cs ∧ NavCall.finishOperation c ∉ cs
  clientSource : m.clientSource = n.clientSource

variable {verbose : Bool} {diffs : ReturningDiffs} {n m p : Navigation} {c : Client}

theorem Balanced.untouched (h : n.Balanced c) (hm : Untouched n m) : m.Balanced c := by
  obtain ⟨⟨cs, hcalls, hnone⟩, hsource⟩ := hm
  unfold Balanced
  rw [hcalls, hsource, List.count_append, List.count_append, List.count_eq_zero.mpr (hnone c).1,
    List.count_eq_zero.mpr (hnone c).2]
  exact h

theorem Untouched.same (hcalls : m.calls = n.calls) (hsource : m.clientSource = n.clientSource) :
    Untouched n m :=
  ⟨⟨[], by rw [hcalls, List.append_nil], fun c => ⟨List.not_mem_nil, List.not_mem_nil⟩⟩, hsource⟩

theorem Untouched.trans (h : Untouched n m) (h' : Untouched m p) : Untouched n p := by
  obtain ⟨⟨cs, hcalls, hnone⟩, hsource⟩ := h
  obtain ⟨⟨ds, hcalls', hnone'⟩, hsource'⟩ := h'
  refine ⟨⟨cs ++ ds, by rw [hcalls', hcalls, List.append_assoc], fun c => ⟨?_, ?_⟩⟩,
    hsource'.trans hsource⟩
  · rw [List.mem_append, not_or]
    exact ⟨(hnone c).1, (hnone' c).1⟩
  · rw [List.mem_append, not_or]
    exact ⟨(hnone c).2, (hnone' c).2⟩

theorem Untouched.call {x : NavCall} (hx : ∀ c, NavCall.startOperation c ≠ x ∧
    NavCall.finishOperation c ≠ x) : Untouched n (n.call x) :=
  ⟨⟨[x], rfl, fun c => by simpa using hx c⟩, rfl⟩

theorem untouched_updateStatus (status svCount : Int32) :
    Untouched n (n.updateStatus status svCount) := by
  unfold updateStatus
  split <;> exact .same rfl rfl

theorem untouched_stopNavigating (verbose : Bool) (why : Rest) :
    Untouched n (n.stopNavigating verbose why) := by
  unfold stopNavigating
  split
  · refine Untouched.trans ?_ (untouched_updateStatus _ _)
    exact ⟨⟨[.nativeStop, .csmStop], rfl, fun c => by simp⟩, rfl⟩
  · exact .same rfl rfl

theorem untouched_startNavigating (ans : NavAnswers) (singleShot : Bool) :
    Untouched n (n.startNavigating verbose ans singleShot) := by
  unfold startNavigating
  split
  · exact .same rfl rfl
  extract_lets a b d e
  have ha : Untouched n a :=
    Untouched.trans (m := n.call .csmStartModem) (Untouched.call (by simp)) (.same rfl rfl)
  have hb : Untouched n b := ha.trans (Untouched.call (by simp))
  split
  · exact hb.trans (.same rfl rfl)
  have hd : Untouched n d := hb.trans (Untouched.call (by simp))
  split
  · have he : Untouched n (d.updateStatus temporarilyUnavailable 0) :=
      hd.trans (untouched_updateStatus _ _)
    split <;> exact he.trans (.same rfl rfl)
  · exact hd.trans (.same rfl rfl)

theorem untouched_hibernate (ans : NavAnswers) : Untouched n (n.hibernate verbose ans) :=
  (untouched_stopNavigating _ _).trans (.same rfl rfl)

theorem untouched_noteFirstFix (flags : Int32) : Untouched n (n.noteFirstFix flags) := by
  unfold noteFirstFix
  split
  · extract_lets ttff
    exact (Untouched.call (x := .onFirstFix ttff) (by simp)).trans (.same rfl rfl)
  · exact .same rfl rfl

theorem untouched_noteFix : Untouched n n.noteFix := by
  unfold noteFix
  split
  · extract_lets a
    have ha : Untouched n a := by
      unfold a
      split <;> exact .same rfl rfl
    exact (ha.trans (Untouched.call (by simp))).trans (untouched_updateStatus _ _)
  · exact .same rfl rfl

theorem untouched_reportLocation (ans : NavAnswers) (flags : Int32) :
    Untouched n (n.reportLocation verbose ans flags) := by
  unfold reportLocation
  extract_lets a b d e
  have ha : Untouched n a :=
    (Untouched.call (x := .reportLocation) (by simp)).trans (.same rfl rfl)
  have hb : Untouched n b :=
    (ha.trans (m := a) (p := { a with lastFixTime := ans.currentTime }) (.same rfl rfl)).trans
      (untouched_noteFirstFix _)
  have hd : Untouched n d := by
    unfold d
    split
    · exact hb.trans (untouched_stopNavigating _ _)
    · exact hb
  have he : Untouched n e := hd.trans untouched_noteFix
  split
  · exact he.trans (untouched_hibernate _)
  · exact he

theorem untouched_reportStatus (status : Int32) :
    Untouched n (n.reportStatus verbose status) := by
  unfold reportStatus
  extract_lets a
  have ha : Untouched n a := by
    unfold a
    split_ifs <;> exact .same rfl rfl
  split
  · exact ha.trans (Untouched.call (by simp))
  · exact ha

theorem untouched_reportSvStatus (ans : NavAnswers) (usedInFix : Int32) :
    Untouched n (n.reportSvStatus ans usedInFix) := by
  unfold reportSvStatus
  extract_lets a
  have ha : Untouched n a := untouched_updateStatus _ _
  split
  · exact (ha.trans (Untouched.call (by simp))).trans (untouched_updateStatus _ _)
  · exact ha

/-- The operations of the loop are those of the clients. -/
theorem count_operations {operation : Client → NavCall} {note : Int32 → NavCall} {x : NavCall}
    (hoperation : operation c = x) (hinj : ∀ d, operation d = x → d = c)
    (hnote : ∀ uid, note uid ≠ x) (cs : WorkSource) :
    ∀ lastuid, (operations operation note lastuid cs).count x = cs.count c := by
  induction cs with
  | nil => exact fun _ => rfl
  | cons d cs ih =>
    intro lastuid
    have hhead : (if operation d == x then 1 else 0) = if d == c then 1 else 0 := by
      by_cases hd : d = c
      · rw [hd, hoperation, beq_self_eq_true, beq_self_eq_true]
      · rw [beq_eq_false_iff_ne.mpr hd, beq_eq_false_iff_ne.mpr fun h => hd (hinj d h)]
    unfold operations
    split
    · rw [List.count_cons, List.count_cons_of_ne (hnote _), ih, hhead, List.count_cons]
    · rw [List.count_cons, ih, hhead, List.count_cons]

/-- The operations of the other loop. -/
theorem count_operations_other {operation : Client → NavCall} {note : Int32 → NavCall}
    {x : NavCall} (hoperation : ∀ d, operation d ≠ x) (hnote : ∀ uid, note uid ≠ x)
    (cs : WorkSource) (lastuid : Int32) : (operations operation note lastuid cs).count x = 0 :=
  List.count_eq_zero.mpr fun hmem => operations_forall (p := (· ≠ x)) hoperation hnote cs lastuid x
    hmem rfl

theorem Balanced.updateClientUids (hdiffs : ReturningDiffs.Exact diffs) (h : n.Balanced c)
    (source : WorkSource) : (n.updateClientUids diffs source).Balanced c := by
  have hexact := hdiffs n.clientSource source c
  unfold Balanced at h
  unfold Navigation.updateClientUids
  extract_lets a
  split
  · rename_i hnone
    rw [hnone] at hexact
    show n.calls.count _ = n.calls.count _ + source.count c
    exact h.trans (congrArg _ hexact)
  · rename_i newWork goneWork hsome
    rw [hsome] at hexact
    show (n.calls ++ _ ++ _).count (.startOperation c)
      = (n.calls ++ _ ++ _).count (.finishOperation c) + source.count c
    rw [List.count_append, List.count_append, List.count_append, List.count_append,
      count_operations (c := c) rfl (fun d hd => NavCall.startOperation.inj hd) (by simp),
      count_operations_other (by simp) (by simp), count_operations_other (by simp) (by simp),
      count_operations (c := c) rfl (fun d hd => NavCall.finishOperation.inj hd) (by simp)]
    have hexact' : n.clientSource.count c + (newWork.getD []).count c
      = source.count c + (goneWork.getD []).count c := hexact
    omega

/-- **Requirements change**: the clients are replaced once. -/
theorem Balanced.updateRequirements (hdiffs : ReturningDiffs.Exact diffs) (h : n.Balanced c)
    (ans : NavAnswers) : (n.updateRequirements verbose diffs ans).Balanced c := by
  unfold Navigation.updateRequirements
  split
  · rename_i request source _ _
    split
    · exact ((h.updateClientUids hdiffs []).untouched (untouched_stopNavigating _ _)).untouched
        (.same rfl rfl)
    · extract_lets a b
      have hb : b.Balanced c := (h.updateClientUids hdiffs source).untouched (.same rfl rfl)
      split
      · exact hb.untouched (Untouched.call (by simp))
      split
      · exact hb
      · exact hb.untouched (untouched_startNavigating _ _)
  · exact h

/-- **Every step.** -/
theorem Balanced.navStep (hdiffs : ReturningDiffs.Exact diffs) (h : n.Balanced c)
    {fits : Provider.RequestsFit} {v w : Waiting}
    (hstep : Provider.NavStep verbose diffs fits n v m w) : m.Balanced c := by
  cases hstep with
  | same => exact h
  | setRequest _ ans request source =>
    exact Balanced.updateRequirements
      (n := { n with providerRequest := request, workSource := source }) hdiffs h ans
  | updateLowPowerMode _ ans power =>
    unfold Navigation.updateLowPowerMode
    split
    · exact Balanced.updateRequirements
        (n := { n with disableGps := disablesGps verbose power }) hdiffs h ans
    · exact h
  | disable =>
    have hstop := (h.updateClientUids hdiffs []).untouched
      (untouched_stopNavigating verbose .disabled)
    exact hstop.untouched ((Untouched.call (x := .nativeCleanup) (by simp)).trans (.same rfl rfl))
  | wakeup _ ans => exact h.untouched (untouched_startNavigating _ _)
  | timeout _ ans => exact h.untouched (untouched_hibernate _)
  | reportLocation _ ans flags => exact h.untouched (untouched_reportLocation _ _)
  | reportStatus _ status => exact h.untouched (untouched_reportStatus _)
  | reportSvStatus _ ans usedInFix => exact h.untouched (untouched_reportSvStatus _ _)
  | setEngineCapabilities => exact h
  | alarmWakeup => exact h
  | alarmTimeout => exact h

end Navigation

/-- **Every operation is finished.**  `setReturningDiffs` returning exactly what is new and what is
gone, in every run of the provider each client has as many operations started and not finished as it
stands in the present source: none when it is gone, and none of anybody once the source is empty. -/
theorem operations_balanced {verbose : Bool} {diffs : ReturningDiffs}
    (hdiffs : Navigation.ReturningDiffs.Exact diffs) {σ : Provider}
    (h : Reachable (provider verbose diffs) σ) (c : Client) :
    σ.nav.calls.count (.startOperation c)
      = σ.nav.calls.count (.finishOperation c) + σ.nav.clientSource.count c :=
  h.invariant (I := fun σ => σ.nav.Balanced c) rfl
    fun hs _ hstep => hs.navStep hdiffs (Provider.step_navStep hstep)

/-- What is new and what is gone, entry by entry. -/
def diffsByEntry : ReturningDiffs := fun old new => some (some (new.diff old), some (old.diff new))

theorem diffsByEntry_exact : Navigation.ReturningDiffs.Exact diffsByEntry := by
  intro old new c
  show old.count c + (new.diff old).count c = new.count c + (old.diff new).count c
  rw [List.count_diff, List.count_diff]
  omega

/-- A client asks for locations. -/
theorem operations_balanced_client : ∃ σ : Provider,
    σ.nav.calls.count (.startOperation ⟨10001, none⟩) = 1 ∧
      σ.nav.calls.count (.startOperation ⟨10001, none⟩)
        = σ.nav.calls.count (.finishOperation ⟨10001, none⟩)
          + σ.nav.clientSource.count ⟨10001, none⟩ := by
  refine ⟨_, ?_, operations_balanced diffsByEntry_exact (Reachable.next (Reachable.next
    (M := provider false diffsByEntry) .init
    (a := .setRequest (some ⟨true, 1000, none⟩) (some [⟨10001, none⟩])) rfl)
    (a := .handle ⟨⟨false, true, true, 0, 0⟩, ⟨false, none, fun _ => 0⟩, ⟨0, false, true⟩, true,
      true⟩) rfl) ⟨10001, none⟩⟩
  rfl

end CtpCommon.Gps
