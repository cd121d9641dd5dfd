import CtpCommon.Display.Frame
import CtpCommon.Lib.Slot

/-!
# The requests for the panel

`notifyMipi` leaves a request in `mMipiReq` and signals `mMipiCon`; `threadLoop` waits for it, takes
it and calls `setMipiMode_l`.  It does not look again after the wait.

* `MipiState`, `mipiSystem` — the composer with its thread, from lock to lock;
* `stepTo_of_step` — **PROVED**: what a step can be;
* `slot`, `step_slot` — **PROVED**: the two are a slot of one request and its thread;
* `mipiSystem_mds` — **PROVED**: and they are the running service, with the wait in view;
* `ServesRequests` — each call of `setMipiMode_l` is for the last request since the one before;
* `requests_served` — **PROVED**: so it is in every run in which a wait returns to a request, and
  not after a wait that returns to an empty slot.
-/

namespace CtpCommon.Display

open Composer

/-! ### The thread -/

/-- What `mMipiReq` asks for. -/
def MipiReq.request : MipiReq → Option Bool
  | .noMipiReq => none
  | .mipiOffReq => some false
  | .mipiOnReq => some true

/-- The composer, the thread, and the history of the calls of `notifyMipi` and `setMipiMode_l`.  The
thread is serving from the moment when it calls `setMipiMode_l`, right after it has let go of
`mMipiLock`, until it has run under `mLock`. -/
structure MipiState where
  composer : Composer
  phase : Slot.Phase Bool
  history : List (Slot.Event Bool Bool)

/-- `lock` is the thread's, on `mMipiLock`; `wakeUp` is the return of a wait without a signal. -/
inductive MipiAction where
  | call (op : Operation) (r : DrmResults)
  | lock
  | wakeUp
  | setMipiMode
  | checkLinkStatus (isAuthenticated : Bool) (r : HdcpResults)

def MipiAction.isLock : MipiAction → Bool
  | lock => true
  | _ => false

namespace MipiState

variable (b : Build) (s : MipiState)

/-- `notifyMipi`, with the signal. -/
def notifyMipi (on : Bool) : MipiState where
  composer := (s.composer.notifyMipi on).2
  phase := if s.composer.mDrmInit then s.phase.signal else s.phase
  history := if s.composer.mDrmInit then s.history ++ [.put on] else s.history

/-- `mipiOn = (mMipiReq == MIPI_ON_REQ)`, `mMipiReq = NO_MIPI_REQ`, and the call. -/
def take : MipiState where
  composer := { s.composer with mMipiReq := .noMipiReq }
  phase := .serving (s.composer.mMipiReq == .mipiOnReq)
  history := s.history ++ [.serve (s.composer.mMipiReq == .mipiOnReq)]

/-- One step; the thread runs after `drm_init`. -/
def step : MipiAction → Option MipiState
  | .call op r =>
      match op with
      | .notifyMipi on => some (s.notifyMipi on)
      | op => some { s with composer := (perform b r s.composer op).2 }
  | .lock =>
      if s.composer.mDrmInit = false then none
      else
        match s.phase with
        | .entering =>
            some (if s.composer.mMipiReq = .noMipiReq then { s with phase := .waiting } else s.take)
        | .returning => some s.take
        | .waiting => none
        | .serving _ => none
  | .wakeUp =>
      match s.phase with
      | .waiting => some { s with phase := .returning }
      | _ => none
  | .setMipiMode =>
      if s.composer.mDrmInit = false then none
      else
        match s.phase with
        | .serving on =>
            some { s with composer := (s.composer.setMipiModeL on).2, phase := .entering }
        | _ => none
  | .checkLinkStatus isAuthenticated r =>
      if s.composer.device.hdcpStatusCheckTimer = 0 then none
      else some ⟨s.composer.withDevice
        (drmHdcpCheckLinkStatus isAuthenticated r s.composer.device), s.phase, s.history⟩

end MipiState

def mipiSystem (b : Build) (boot : Boot) : Runs.System MipiState MipiAction :=
  ⟨⟨construct b boot, .entering, []⟩, MipiState.step b⟩

/-! ### What a step does -/

namespace MipiState

variable {b : Build} {s t : MipiState} {a : MipiAction}

/-- The steps of the service and its thread. -/
inductive StepTo (b : Build) (s : MipiState) : MipiAction → MipiState → Prop
  | notifyMipi (on : Bool) (r : DrmResults) :
      StepTo b s (.call (.notifyMipi on) r) (s.notifyMipi on)
  | call (op : Operation) (r : DrmResults) : (∀ on, op ≠ .notifyMipi on) →
      StepTo b s (.call op r) { s with composer := (perform b r s.composer op).2 }
  | wait : s.composer.mDrmInit = true → s.phase = .entering → s.composer.mMipiReq = .noMipiReq →
      StepTo b s .lock { s with phase := .waiting }
  | take : s.composer.mDrmInit = true →
      (s.phase = .entering ∧ s.composer.mMipiReq ≠ .noMipiReq ∨ s.phase = .returning) →
      StepTo b s .lock s.take
  | wakeUp : s.phase = .waiting → StepTo b s .wakeUp { s with phase := .returning }
  | setMipiMode (on : Bool) : s.composer.mDrmInit = true → s.phase = .serving on →
      StepTo b s .setMipiMode
        { s with composer := (s.composer.setMipiModeL on).2, phase := .entering }
  | checkLinkStatus (isAuthenticated : Bool) (r : HdcpResults) :
      s.composer.device.hdcpStatusCheckTimer ≠ 0 →
      StepTo b s (.checkLinkStatus isAuthenticated r) ⟨s.composer.withDevice
        (drmHdcpCheckLinkStatus isAuthenticated r s.composer.device), s.phase, s.history⟩

/-- **Inversion**: a step is one of these. -/
theorem stepTo_of_step (hst : s.step b a = some t) : StepTo b s a t := by
  cases a with
  | call op r =>
    by_cases hmipi : ∃ on, op = .notifyMipi on
    · obtain ⟨on, rfl⟩ := hmipi
      obtain rfl := Option.some.inj hst
      exact .notifyMipi on r
    · have hne : ∀ on, op ≠ .notifyMipi on := fun on heq => hmipi ⟨on, heq⟩
      have ht : { s with composer := (perform b r s.composer op).2 } = t := by
        cases op <;> first | exact Option.some.inj hst | exact absurd rfl (hne _)
      exact ht ▸ .call op r hne
  | lock =>
    simp only [step] at hst
    split at hst
    · exact absurd hst.symm (Option.some_ne_none t)
    rename_i hinit
    have htrue := Bool.eq_true_of_not_eq_false hinit
    split at hst
    · rename_i hphase
      obtain rfl := Option.some.inj hst
      split
      · rename_i hempty
        exact .wait htrue hphase hempty
      · rename_i hrequest
        exact .take htrue (Or.inl ⟨hphase, hrequest⟩)
    · rename_i hphase
      obtain rfl := Option.some.inj hst
      exact .take htrue (Or.inr hphase)
    · exact absurd hst.symm (Option.some_ne_none t)
    · exact absurd hst.symm (Option.some_ne_none t)
  | wakeUp =>
    simp only [step] at hst
    split at hst
    · rename_i hphase
      obtain rfl := Option.some.inj hst
      exact .wakeUp hphase
    · exact absurd hst.symm (Option.some_ne_none t)
  | setMipiMode =>
    simp only [step] at hst
    split at hst
    · exact absurd hst.symm (Option.some_ne_none t)
    rename_i hinit
    split at hst
    · rename_i on hphase
      obtain rfl := Option.some.inj hst
      exact .setMipiMode on (Bool.eq_true_of_not_eq_false hinit) hphase
    · exact absurd hst.symm (Option.some_ne_none t)
  | checkLinkStatus isAuthenticated r =>
    simp only [step] at hst
    split at hst
    · exact absurd hst.symm (Option.some_ne_none t)
    · rename_i htimer
      obtain rfl := Option.some.inj hst
      exact .checkLinkStatus isAuthenticated r htimer

end MipiState

/-! ### The slot of the thread -/

namespace MipiState

variable (s : MipiState)

/-- What `threadLoop` makes of what it reads. -/
def mipiOn (request : Option Bool) : Bool := request == some true

theorem mipiOn_request (req : MipiReq) : mipiOn req.request = (req == .mipiOnReq) := by
  cases req <;> rfl

theorem request_isNone (req : MipiReq) : req.request.isNone = decide (req = .noMipiReq) := by
  cases req <;> rfl

def slot : Slot Bool Bool := ⟨s.composer.mMipiReq.request, s.phase, s.history⟩

/-- What a step is for the slot. -/
def slotAction : MipiAction → Option (Slot.Action Bool)
  | .call (.notifyMipi on) _ => if s.composer.mDrmInit then some (.put on) else none
  | .lock => some .lock
  | .wakeUp => some .wakeUp
  | .setMipiMode => some .finish
  | _ => none

theorem slot_notifyMipi (on : Bool) : (s.notifyMipi on).slot
    = if s.composer.mDrmInit then s.slot.put on else s.slot := by
  unfold notifyMipi Composer.notifyMipi checkInit
  cases hinit : s.composer.mDrmInit with
  | false => rfl
  | true => cases on <;> rfl

theorem slot_take : s.take.slot = s.slot.take mipiOn := by
  unfold take slot Slot.take
  rw [mipiOn_request]
  rfl

variable {s} {b : Build} {t : MipiState} {a : MipiAction}

/-- **Every step** is one of the slot, or leaves it alone. -/
theorem step_slot (hst : s.step b a = some t) :
    (s.slotAction a).elim (t.slot = s.slot) fun x => s.slot.step mipiOn x = some t.slot := by
  cases stepTo_of_step hst with
  | notifyMipi on r =>
    unfold slotAction
    rw [slot_notifyMipi]
    cases s.composer.mDrmInit with
    | false => rfl
    | true => rfl
  | call op r hne =>
    have haction : s.slotAction (.call op r) = none := by
      cases op <;> first | rfl | exact absurd rfl (hne _)
    rw [haction]
    show (⟨_, _, _⟩ : Slot Bool Bool) = _
    rw [perform_mMipiReq b r s.composer hne]
    rfl
  | wait _ hphase hempty =>
    have hslot : s.slot.phase = .entering := hphase
    have hnone : s.slot.request.isNone = true :=
      (request_isNone _).trans (decide_eq_true hempty)
    show s.slot.step mipiOn .lock = _
    simp only [Slot.step, hslot, hnone, if_true]
    rfl
  | take _ hphase =>
    show s.slot.step mipiOn .lock = _
    rw [slot_take]
    rcases hphase with ⟨hphase, hrequest⟩ | hphase
    · have hslot : s.slot.phase = .entering := hphase
      have hsome : s.slot.request.isNone = false :=
        (request_isNone _).trans (decide_eq_false hrequest)
      simp only [Slot.step, hslot, hsome, if_false, Bool.false_eq_true]
    · have hslot : s.slot.phase = .returning := hphase
      simp only [Slot.step, hslot]
  | wakeUp hphase =>
    have hslot : s.slot.phase = .waiting := hphase
    show s.slot.step mipiOn .wakeUp = _
    simp only [Slot.step, hslot]
    rfl
  | setMipiMode on _ hphase =>
    have hslot : s.slot.phase = .serving on := hphase
    have hstill := congrArg Still.mipiReq (setMipiModeL_still s.composer on)
    show s.slot.step mipiOn .finish = _
    simp only [Slot.step, hslot]
    show some (⟨_, _, _⟩ : Slot Bool Bool) = some ⟨MipiReq.request (_ : Composer).mMipiReq, _, _⟩
    rw [show (s.composer.setMipiModeL on).2.mMipiReq = s.composer.mMipiReq from hstill]
    rfl
  | checkLinkStatus => rfl

/-! ### The running service -/

/-- The request that the thread has taken. -/
def served : Slot.Phase Bool → Option Bool
  | .serving on => some on
  | _ => none

def asMds (s : MipiState) : MdsState := ⟨s.composer, served s.phase⟩

theorem served_signal (phase : Slot.Phase Bool) : served phase.signal = served phase := by
  cases phase <;> rfl

/-- **Every step** is one of the running service, or changes nothing of it. -/
theorem step_mds (hst : s.step b a = some t) :
    t.asMds = s.asMds ∨ ∃ x, CtpCommon.Display.step b s.asMds x = some t.asMds := by
  cases stepTo_of_step hst with
  | notifyMipi on r =>
    have hphase : served (s.notifyMipi on).phase = served s.phase := by
      unfold notifyMipi
      split
      · exact served_signal s.phase
      · rfl
    refine Or.inr ⟨.call (.notifyMipi on) r, ?_⟩
    unfold asMds
    rw [hphase]
    rfl
  | call op r => exact Or.inr ⟨.call op r, rfl⟩
  | wait _ hphase =>
    refine Or.inl ?_
    unfold asMds
    rw [hphase]
    rfl
  | take hinit hphase =>
    have hfree : served s.phase = none := by
      rcases hphase with ⟨hphase, -⟩ | hphase
      · rw [hphase]
        rfl
      · rw [hphase]
        rfl
    exact Or.inr ⟨.mipiRequest, if_pos ⟨hinit, hfree⟩⟩
  | wakeUp hphase =>
    refine Or.inl ?_
    unfold asMds
    rw [hphase]
    rfl
  | setMipiMode on hinit hphase =>
    have htaken : s.asMds.mipiThread = some on := by
      unfold asMds
      rw [hphase]
      rfl
    refine Or.inr ⟨.setMipiMode, ?_⟩
    simp only [CtpCommon.Display.step, htaken]
    exact if_pos hinit
  | checkLinkStatus isAuthenticated r htimer =>
    exact Or.inr ⟨.checkLinkStatus isAuthenticated r, if_neg htimer⟩

end MipiState

/-- **The system** is the running service, with the wait in view. -/
theorem mipiSystem_mds {b : Build} {boot : Boot} {ok : MipiState → MipiAction → Prop}
    {s : MipiState} (h : Runs.Reaches (mipiSystem b boot) ok s) :
    Runs.Reachable (mds b boot) s.asMds := by
  have hinit : Runs.Reachable (mds b boot) (mipiSystem b boot).init.asMds :=
    Runs.Reaches.init (M := mds b boot)
  refine h.invariant (I := fun s => Runs.Reachable (mds b boot) s.asMds) hinit ?_
  intro s t a hs _ hst
  rcases MipiState.step_mds hst with heq | ⟨x, hx⟩
  · rw [heq]
    exact hs
  · exact Runs.Reachable.next (M := mds b boot) hs hx

/-! ### The requests are served -/

/-- Each call of `setMipiMode_l` has the argument of the last `notifyMipi` since the one before, and
there was one; the thread waits only while there is no request. -/
structure ServesRequests (s : MipiState) : Prop where
  latest : ∀ before on, before ++ [.serve on] <+: s.history →
    (Slot.putsSince before).getLast? = some on
  empty : s.phase = .waiting → s.composer.mMipiReq = .noMipiReq

/-- When the thread has `mMipiLock` again after a wait, there is a request. -/
def ReturnsToRequest (s : MipiState) (a : MipiAction) : Prop :=
  a.isLock = true → s.phase = .returning → s.composer.mMipiReq ≠ .noMipiReq

instance (s : MipiState) (a : MipiAction) : Decidable (ReturnsToRequest s a) :=
  inferInstanceAs (Decidable (_ → _ → _))

section

variable {s t : MipiState} {b : Build} {boot : Boot} {a : MipiAction}

theorem request_eq_none_iff (req : MipiReq) : req.request = none ↔ req = .noMipiReq := by
  cases req <;> simp [MipiReq.request]

/-- The slot of the thread, in the words of `threadLoop`. -/
theorem servesRequests_iff (h : Slot.Tracks s.slot) :
    ServesRequests s ↔ Slot.Serves MipiState.mipiOn s.slot := by
  have hon : ∀ on, MipiState.mipiOn (some on) = on := by decide
  constructor
  · intro hs before on hprefix
    exact ⟨on, hs.latest before on hprefix, (hon on).symm⟩
  · refine fun hs => ⟨fun before on hprefix => ?_, fun hphase => ?_⟩
    · obtain ⟨x, hx, heq⟩ := hs before on hprefix
      rw [hx, heq, hon]
    · exact (request_eq_none_iff _).mp (h.waiting hphase)

theorem returnsToRequest_iff : ReturnsToRequest s a ↔
    ∀ x, s.slotAction a = some x → Slot.ReturnsToRequest s.slot x := by
  have htrivial : ∀ x, x ≠ .lock → Slot.ReturnsToRequest s.slot x := by
    intro x hx
    cases x with
    | lock => exact absurd rfl hx
    | put | wakeUp | finish => trivial
  cases hlock : a.isLock with
  | false =>
    refine iff_of_true (fun h => absurd (hlock.symm.trans h) Bool.false_ne_true) fun x hx => ?_
    refine htrivial x ?_
    rintro rfl
    cases a with
    | lock => exact absurd hlock.symm Bool.false_ne_true
    | call op r => cases op <;> simp [MipiState.slotAction] at hx
    | wakeUp | setMipiMode | checkLinkStatus => simp [MipiState.slotAction] at hx
  | true =>
    obtain rfl : a = .lock := by
      cases a <;> first | rfl | exact absurd hlock Bool.false_ne_true
    unfold ReturnsToRequest
    constructor
    · rintro h x hx
      obtain rfl := Option.some.inj hx
      unfold Slot.ReturnsToRequest
      rw [show s.slot.phase = s.phase from rfl]
      cases hphase : s.phase with
      | returning =>
        exact fun hnone => h rfl hphase ((request_eq_none_iff _).mp hnone)
      | entering | waiting | serving => trivial
    · intro h _ hphase hnone
      have hslot := h .lock rfl
      unfold Slot.ReturnsToRequest at hslot
      rw [show s.slot.phase = .returning from hphase] at hslot
      exact hslot ((request_eq_none_iff _).mpr hnone)

/-- What one step keeps, and when it serves a request. -/
theorem step_serves (ht : Slot.Tracks s.slot) (hs : ServesRequests s)
    (hst : s.step b a = some t) :
    Slot.Tracks t.slot ∧ (ServesRequests t ↔ ReturnsToRequest s a) := by
  have hslot := MipiState.step_slot hst
  rw [returnsToRequest_iff]
  cases haction : s.slotAction a with
  | none =>
    rw [haction] at hslot
    have heq : t.slot = s.slot := hslot
    have htracks : Slot.Tracks t.slot := heq ▸ ht
    refine ⟨htracks, iff_of_true ?_ fun x hx => absurd hx.symm (Option.some_ne_none x)⟩
    rw [servesRequests_iff htracks, heq]
    exact (servesRequests_iff ht).mp hs
  | some x =>
    rw [haction] at hslot
    obtain ⟨htracks, hiff⟩ := Slot.step_serves_iff ht ((servesRequests_iff ht).mp hs) hslot
    refine ⟨htracks, (servesRequests_iff htracks).trans (hiff.trans ?_)⟩
    exact ⟨fun h x' hx' => Option.some.inj hx' ▸ h, fun h => h x rfl⟩

/-- **The requests are served** in every run in which every wait returns to a request; after such a
run, a step keeps it so exactly if it is not the return of a wait to an empty slot. -/
theorem requests_served (h : Runs.Reaches (mipiSystem b boot) ReturnsToRequest s) :
    ServesRequests s ∧ ∀ a t, s.step b a = some t → (ServesRequests t ↔ ReturnsToRequest s a) := by
  have hinit : Slot.Tracks (mipiSystem b boot).init.slot ∧
      ServesRequests (mipiSystem b boot).init := by
    have hempty : (construct b boot).mMipiReq = .noMipiReq :=
      congrArg Still.mipiReq (construct_still b boot)
    have hstart : (mipiSystem b boot).init.slot = Slot.start := by
      unfold MipiState.slot mipiSystem
      rw [hempty]
      rfl
    refine ⟨hstart ▸ Slot.tracks_start, fun before on hprefix => ?_, fun _ => hempty⟩
    exact absurd (List.prefix_nil.mp hprefix) (by simp)
  have hinv : Slot.Tracks s.slot ∧ ServesRequests s := by
    refine h.invariant (I := fun s => Slot.Tracks s.slot ∧ ServesRequests s) hinit ?_
    rintro s t a ⟨ht, hs⟩ hok hst
    obtain ⟨ht', hiff⟩ := step_serves ht hs hst
    exact ⟨ht', hiff.mpr hok⟩
  exact ⟨hinv.2, fun a t hst => (step_serves hinv.1 hinv.2 hst).2⟩

end

/-- The thread waits; two requests come, and the wait returns to the second. -/
theorem requests_served_of_two : ∃ s : MipiState,
    s.history = [.put true, .put false, .serve false] ∧ ServesRequests s := by
  have hwait : Runs.Reaches (mipiSystem ⟨true, true⟩ (Boot.simple drmHdmiDisconnected))
      ReturnsToRequest _ := .step (a := .lock) .init (by decide) rfl
  have hfirst := hwait.step (a := .call (.notifyMipi true)
    (DrmResults.simple drmHdmiDisconnected true)) (by decide) rfl
  have hsecond := hfirst.step (a := .call (.notifyMipi false)
    (DrmResults.simple drmHdmiDisconnected true)) (by decide) rfl
  have hserve := hsecond.step (a := .lock) (by decide) rfl
  exact ⟨_, rfl, (requests_served hserve).1⟩

/-- The thread waits, and the wait returns without a signal: the panel is to be turned off. -/
theorem wakeup_turns_off : ¬∀ (b : Build) (boot : Boot) (s : MipiState),
    Runs.Reachable (mipiSystem b boot) s → ServesRequests s := by
  intro h
  have hwait : Runs.Reachable (mipiSystem ⟨true, true⟩ (Boot.simple drmHdmiDisconnected)) _ :=
    .step (a := .lock) .init trivial rfl
  have hwoken := hwait.next (a := .wakeUp) rfl
  have hserve := hwoken.next (a := .lock) rfl
  have hlatest := (h _ _ _ hserve).latest [] false (List.prefix_refl _)
  exact absurd hlatest (by decide)

end CtpCommon.Display
