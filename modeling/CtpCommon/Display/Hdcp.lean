import CtpCommon.Display.Types

/-!
# Content protection

`drm_hdcp.cpp`: authentication of the sink, and the timer that checks the link every two seconds.
A build without `ENABLE_HDCP` has two stubs in its place.

* `Device` — `g_hdcpStatusCheckTimer`, `0` when there is no timer, and the calls made so far;
* `drmHdcpEnableHdcp`, `drmHdcpDisableHdcp`, `drmHdcpCheckLinkStatus` — the functions of the file;
* `HdcpOnly d d'` — from `d` to `d'` there are calls of this file only;
* `drmHdcpEnableHdcp_calls` and the like — **PROVED**: so it is for its functions;
* `drmHdcpDisableHdcp_timer`, `drmHdcpEnableHdcpWork_timer` — **PROVED**: disabling deletes the
  timer, authentication leaves it alone.
-/

namespace CtpCommon.Display

/-- The device behind the service, with the static of `drm_hdcp.cpp`. -/
structure Device where
  hdcpStatusCheckTimer : ℕ
  log : List Effect
  deriving DecidableEq, Repr

namespace Device

def call (d : Device) (e : Effect) : Device := { d with log := d.log ++ [e] }

end Device

/-! ### The functions -/

def hdcpEnableNumOfTry : ℕ := 4

/-- `drm_hdcp_start_link_checking`. -/
def drmHdcpStartLinkChecking (r : HdcpResults) (d : Device) : Bool × Device :=
  if d.hdcpStatusCheckTimer ≠ 0 then (false, d)
  else
    match r.timerCreate with
    | none => (false, d)
    | some timer =>
        if r.timerSettime then (true, { d with hdcpStatusCheckTimer := timer })
        else (false, { d with hdcpStatusCheckTimer := 0 })

/-- `drm_hdcp_stop_link_checking`. -/
def drmHdcpStopLinkChecking (d : Device) : Device :=
  if d.hdcpStatusCheckTimer = 0 then d else { d with hdcpStatusCheckTimer := 0 }

/-- The loop of `drm_hdcp_enable_and_check`, from try `i` on with `left` tries left;
`HDCP_CHECK_NUM_OF_TRY` is `1`. -/
def enableTries (r : HdcpResults) : ℕ → ℕ → Device → Bool × Device
  | 0, _, d => (false, d)
  | left + 1, i, d =>
      let d := d.call .hdcpEnable
      if r.enable i = false then
        if r.status i = 0 then (true, d) else enableTries r left (i + 1) d
      else if r.authenticated i then (true, d)
      else enableTries r left (i + 1) d

/-- `drm_hdcp_enable_and_check`. -/
def drmHdcpEnableAndCheck (r : HdcpResults) (d : Device) : Bool × Device :=
  enableTries r hdcpEnableNumOfTry 0 d

/-- `drm_hdcp_enable_hdcp_work`. -/
def drmHdcpEnableHdcpWork (r : HdcpResults) (d : Device) : Bool × Device :=
  let d := d.call (.displayIed false)
  let result := drmHdcpEnableAndCheck r d
  (result.1, result.2.call (.displayIed true))

/-- `drm_hdcp_check_link_status`, the timer's function. -/
def drmHdcpCheckLinkStatus (isAuthenticated : Bool) (r : HdcpResults) (d : Device) : Device :=
  if isAuthenticated = false then (drmHdcpEnableHdcpWork r d).2 else d

/-- `drm_hdcp_disable_hdcp`. -/
def drmHdcpDisableHdcp (b : Build) (connected : Bool) (d : Device) : Device :=
  if b.enableHdcp then
    let d := drmHdcpStopLinkChecking d
    if connected then d.call .hdcpDisable else d
  else d

/-- `drm_hdcp_enable_hdcp`. -/
def drmHdcpEnableHdcp (b : Build) (r : HdcpResults) (d : Device) : Bool × Device :=
  if b.enableHdcp then
    if r.property = some 0 then (false, d)
    else
      let result := drmHdcpEnableHdcpWork r d
      (result.1, (drmHdcpStartLinkChecking r result.2).2)
  else (true, d)

/-! ### The timer -/

section

variable (b : Build) (r : HdcpResults) (d : Device)

@[simp] theorem drmHdcpStopLinkChecking_timer :
    (drmHdcpStopLinkChecking d).hdcpStatusCheckTimer = 0 := by
  unfold drmHdcpStopLinkChecking
  split
  · assumption
  · rfl

theorem enableTries_timer (left i : ℕ) :
    (enableTries r left i d).2.hdcpStatusCheckTimer = d.hdcpStatusCheckTimer := by
  induction left generalizing i d with
  | zero => rfl
  | succ left ih =>
    unfold enableTries
    split_ifs
    · rfl
    · exact ih _ _
    · rfl
    · exact ih _ _

/-- **Authentication** does not touch the timer. -/
@[simp] theorem drmHdcpEnableHdcpWork_timer :
    (drmHdcpEnableHdcpWork r d).2.hdcpStatusCheckTimer = d.hdcpStatusCheckTimer :=
  enableTries_timer r _ _ _

@[simp] theorem drmHdcpCheckLinkStatus_timer (isAuthenticated : Bool) :
    (drmHdcpCheckLinkStatus isAuthenticated r d).hdcpStatusCheckTimer
      = d.hdcpStatusCheckTimer := by
  unfold drmHdcpCheckLinkStatus
  split
  · exact drmHdcpEnableHdcpWork_timer r d
  · rfl

/-- **Disabling deletes the timer.** -/
theorem drmHdcpDisableHdcp_timer (connected : Bool) (h : b.enableHdcp = true) :
    (drmHdcpDisableHdcp b connected d).hdcpStatusCheckTimer = 0 := by
  unfold drmHdcpDisableHdcp
  rw [if_pos h]
  split
  · exact drmHdcpStopLinkChecking_timer d
  · exact drmHdcpStopLinkChecking_timer d

/-- Without `ENABLE_HDCP` the stubs do nothing. -/
theorem drmHdcpDisableHdcp_stub (connected : Bool) (h : b.enableHdcp = false) :
    drmHdcpDisableHdcp b connected d = d := by
  unfold drmHdcpDisableHdcp
  rw [if_neg (by simp [h])]

theorem drmHdcpEnableHdcp_stub (h : b.enableHdcp = false) :
    drmHdcpEnableHdcp b r d = (true, d) := by
  unfold drmHdcpEnableHdcp
  rw [if_neg (by simp [h])]

end

/-! ### The calls -/

theorem drmHdcpStartLinkChecking_log (r : HdcpResults) (d : Device) :
    (drmHdcpStartLinkChecking r d).2.log = d.log := by
  unfold drmHdcpStartLinkChecking
  split
  · rfl
  · split
    · rfl
    · split <;> rfl

theorem drmHdcpStopLinkChecking_log (d : Device) : (drmHdcpStopLinkChecking d).log = d.log := by
  unfold drmHdcpStopLinkChecking
  split <;> rfl

/-- The calls of `drm_hdcp.cpp`. -/
def Effect.isHdcp : Effect → Bool
  | .displayIed _ | .hdcpEnable | .hdcpDisable => true
  | _ => false

/-- From one device to the next there are calls of `drm_hdcp.cpp` only. -/
def HdcpOnly (d d' : Device) : Prop :=
  ∃ new, d'.log = d.log ++ new ∧ ∀ e ∈ new, Effect.isHdcp e = true

section

variable {d d' d'' : Device}

theorem HdcpOnly.refl (d : Device) : HdcpOnly d d :=
  ⟨[], (List.append_nil _).symm, fun _ he => absurd he List.not_mem_nil⟩

theorem HdcpOnly.trans (h : HdcpOnly d d') (h' : HdcpOnly d' d'') : HdcpOnly d d'' := by
  obtain ⟨new, hlog, hnew⟩ := h
  obtain ⟨new', hlog', hnew'⟩ := h'
  refine ⟨new ++ new', ?_, fun e he => ?_⟩
  · rw [hlog', hlog, List.append_assoc]
  · exact (List.mem_append.mp he).elim (hnew e) (hnew' e)

theorem HdcpOnly.call (d : Device) {e : Effect} (h : e.isHdcp = true) : HdcpOnly d (d.call e) := by
  refine ⟨[e], rfl, fun e' he' => ?_⟩
  rw [List.mem_singleton.mp he']
  exact h

theorem drmHdcpStartLinkChecking_calls (r : HdcpResults) (d : Device) :
    HdcpOnly d (drmHdcpStartLinkChecking r d).2 := by
  unfold drmHdcpStartLinkChecking
  by_cases htimer : d.hdcpStatusCheckTimer ≠ 0
  · rw [if_pos htimer]
    exact HdcpOnly.refl d
  rw [if_neg htimer]
  cases r.timerCreate with
  | none => exact HdcpOnly.refl d
  | some timer =>
    cases r.timerSettime with
    | false => exact HdcpOnly.refl d
    | true => exact HdcpOnly.refl d

theorem enableTries_calls (r : HdcpResults) (left i : ℕ) (d : Device) :
    HdcpOnly d (enableTries r left i d).2 := by
  induction left generalizing i d with
  | zero => exact HdcpOnly.refl d
  | succ left ih =>
    have hcall : HdcpOnly d (d.call .hdcpEnable) := HdcpOnly.call d rfl
    unfold enableTries
    split_ifs
    · exact hcall
    · exact hcall.trans (ih _ _)
    · exact hcall
    · exact hcall.trans (ih _ _)

theorem drmHdcpEnableHdcpWork_calls (r : HdcpResults) (d : Device) :
    HdcpOnly d (drmHdcpEnableHdcpWork r d).2 := by
  have hoff : HdcpOnly d (d.call (.displayIed false)) := HdcpOnly.call d rfl
  have htries := enableTries_calls r hdcpEnableNumOfTry 0 (d.call (.displayIed false))
  exact (hoff.trans htries).trans (HdcpOnly.call _ rfl)

theorem drmHdcpCheckLinkStatus_calls (isAuthenticated : Bool) (r : HdcpResults) (d : Device) :
    HdcpOnly d (drmHdcpCheckLinkStatus isAuthenticated r d) := by
  unfold drmHdcpCheckLinkStatus
  split
  · exact drmHdcpEnableHdcpWork_calls r d
  · exact HdcpOnly.refl d

theorem drmHdcpDisableHdcp_calls (b : Build) (connected : Bool) (d : Device) :
    HdcpOnly d (drmHdcpDisableHdcp b connected d) := by
  have hstop : HdcpOnly d (drmHdcpStopLinkChecking d) := by
    unfold drmHdcpStopLinkChecking
    split
    · exact HdcpOnly.refl d
    · exact HdcpOnly.refl d
  unfold drmHdcpDisableHdcp
  split_ifs
  · exact hstop.trans (HdcpOnly.call _ rfl)
  · exact hstop
  · exact HdcpOnly.refl d

theorem drmHdcpEnableHdcp_calls (b : Build) (r : HdcpResults) (d : Device) :
    HdcpOnly d (drmHdcpEnableHdcp b r d).2 := by
  have hwork := drmHdcpEnableHdcpWork_calls r d
  unfold drmHdcpEnableHdcp
  split_ifs
  · exact HdcpOnly.refl d
  · exact hwork.trans (drmHdcpStartLinkChecking_calls r _)
  · exact HdcpOnly.refl d

end

end CtpCommon.Display
