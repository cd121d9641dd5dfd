import CtpCommon.Display.Types

/-!
# The modes of the sink

`drm_hdmi_getModeInfo` of `drm_hdmi.cpp`: the list of the connector's modes, each mode once.

* `drmHdmiGetModeInfo` — the modes that are recorded, in the order of the connector;
* `drmHdmiGetModeInfo_length` — **PROVED**: there are at most `HDMI_TIMING_MAX` of them, so they fit
  into the arrays of a client.
-/

namespace CtpCommon.Display

def hdmiTimingMax : ℕ := 128

/-- `DRM_MODE_FLAG_INTERLACE` and the two flags of the ratio. -/
def drmModeFlagInterlace : BitVec 32 := BitVec.twoPow 32 4
def flagRatio14 : BitVec 32 := BitVec.twoPow 32 14
def flagRatio15 : BitVec 32 := BitVec.twoPow 32 15

namespace DrmMode

/-- `temp_flags`, the flags that are compared. -/
def tempFlags (m : DrmMode) : BitVec 32 :=
  m.flags &&& (drmModeFlagInterlace ||| flagRatio14 ||| flagRatio15)

def isSame (m m' : DrmMode) : Bool :=
  m.hdisplay = m'.hdisplay ∧ m.vdisplay = m'.vdisplay ∧ m.vrefresh = m'.vrefresh ∧
    m.tempFlags = m'.tempFlags

/-- What is recorded of a mode; an `unsigned int` becomes an `int`. -/
def timing (m : DrmMode) : MdsHdmiTiming where
  refresh := m.vrefresh.toInt
  width := m.hdisplay.toNat
  height := m.vdisplay.toNat
  interlace := if m.tempFlags &&& drmModeFlagInterlace ≠ 0 then 1 else 0
  ratio :=
    if m.tempFlags &&& flagRatio14 ≠ 0 then 2
    else if m.tempFlags &&& flagRatio15 ≠ 0 then 1 else 0

end DrmMode

/-- `while ((--j) >= 0)`: one of the modes before `j` is the same as mode `i`. -/
def isDuplicated (modes : ℕ → DrmMode) (i : ℕ) : ℕ → Bool
  | 0 => false
  | j + 1 => (modes i).isSame (modes j) || isDuplicated modes i j

/-- The modes that are recorded, from mode `i` on with `left` modes left. -/
def recordModes (modes : ℕ → DrmMode) : ℕ → ℕ → List MdsHdmiTiming
  | 0, _ => []
  | left + 1, i =>
      if isDuplicated modes i i then recordModes modes left (i + 1)
      else (modes i).timing :: recordModes modes left (i + 1)

/-- The length of the list is `valid_mode_count`. -/
def drmHdmiGetModeInfo : Option DrmModeConnector → List MdsHdmiTiming
  | none => []
  | some connector =>
      if connector.countModes < 0 ∨ connector.countModes > hdmiTimingMax then []
      else recordModes connector.modes connector.countModes.toNat 0

theorem recordModes_length (modes : ℕ → DrmMode) (left i : ℕ) :
    (recordModes modes left i).length ≤ left := by
  induction left generalizing i with
  | zero => exact Nat.le_refl 0
  | succ left ih =>
    unfold recordModes
    split
    · exact (ih (i + 1)).trans (Nat.le_succ left)
    · exact Nat.succ_le_succ (ih (i + 1))

/-- **The modes fit.** -/
theorem drmHdmiGetModeInfo_length (connector : Option DrmModeConnector) :
    (drmHdmiGetModeInfo connector).length ≤ hdmiTimingMax := by
  cases connector with
  | none => exact Nat.zero_le _
  | some connector =>
    simp only [drmHdmiGetModeInfo]
    by_cases hcount : connector.countModes < 0 ∨ connector.countModes > hdmiTimingMax
    · rw [if_pos hcount]
      exact Nat.zero_le _
    · rw [if_neg hcount]
      have hlength := recordModes_length connector.modes connector.countModes.toNat 0
      omega

end CtpCommon.Display
