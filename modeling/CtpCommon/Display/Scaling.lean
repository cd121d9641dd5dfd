import CtpCommon.Display.Frame
import CtpCommon.Display.Service

/-!
# The word for the scaling

`setDisplayScalingLocked` packs the kind of the scaling and two steps into one word for
SurfaceFlinger.  The three come from clients as `int`.

* `scalingWord`, `decodeScaling` — the word, and its three fields;
* `decodeScaling_iff` — **PROVED**: they are read back exactly if they fit;
* `scaleStep_iff` — **PROVED**: when a step is one, and is computed without overflow;
* `ScaledMds`, `scaledMds` — the running service with a record of the calls for the scaling;
* `ScaleCall.Fits` — the word of a call says what is stored;
* `scaling_fits` — **PROVED**: so it does in every run whose arguments are in range, and at no other
  call whose word is sent.
-/

namespace CtpCommon.Display

open Composer

/-! ### The word -/

/-- `mode | stepx << 16 | stepy << 24`. -/
def scalingWord (mode stepx stepy : UInt32) : UInt32 := mode ||| stepx <<< 16 ||| stepy <<< 24

/-- Bits 0 to 15, 16 to 23 and 24 to 31. -/
def decodeScaling (word : UInt32) : UInt32 × UInt32 × UInt32 :=
  (word &&& 0xffff, (word >>> 16) &&& 0xff, word >>> 24)

section

variable {mode stepx stepy : UInt32}

/-- Three fields that fit are added. -/
theorem scalingWord_toNat (hmode : mode.toNat < 65536) (hx : stepx.toNat < 256)
    (hy : stepy.toNat < 256) : (scalingWord mode stepx stepy).toNat
      = mode.toNat + stepx.toNat * 65536 + stepy.toNat * 16777216 := by
  have hshift : (stepx <<< 16).toNat = stepx.toNat <<< 16 := by
    rw [UInt32.toNat_shiftLeft]
    show stepx.toNat <<< 16 % 4294967296 = _
    rw [Nat.shiftLeft_eq]
    omega
  have hshift' : (stepy <<< 24).toNat = stepy.toNat <<< 24 := by
    rw [UInt32.toNat_shiftLeft]
    show stepy.toNat <<< 24 % 4294967296 = _
    rw [Nat.shiftLeft_eq]
    omega
  have hlow : mode.toNat ||| stepx.toNat <<< 16 = mode.toNat + stepx.toNat * 65536 := by
    rw [Nat.or_comm, ← Nat.shiftLeft_add_eq_or_of_lt hmode, Nat.shiftLeft_eq]
    omega
  unfold scalingWord
  rw [UInt32.toNat_or, UInt32.toNat_or, hshift, hshift', hlow, Nat.or_comm,
    ← Nat.shiftLeft_add_eq_or_of_lt (by omega), Nat.shiftLeft_eq]
  omega

theorem decodeScaling_toNat (word : UInt32) :
    ((decodeScaling word).1.toNat, (decodeScaling word).2.1.toNat, (decodeScaling word).2.2.toNat)
      = (word.toNat % 65536, word.toNat / 65536 % 256, word.toNat / 16777216) := by
  have hand : ∀ (x : ℕ) k, x &&& (2 ^ k - 1) = x % 2 ^ k := fun x k =>
    Nat.and_two_pow_sub_one_eq_mod x k
  refine Prod.ext ?_ (Prod.ext ?_ ?_)
  · exact (UInt32.toNat_and word 0xffff).trans (hand _ 16)
  · refine (UInt32.toNat_and (word >>> 16) 0xff).trans ((hand _ 8).trans ?_)
    rw [UInt32.toNat_shiftRight, Nat.shiftRight_eq_div_pow]
    rfl
  · show (word >>> 24).toNat = _
    rw [UInt32.toNat_shiftRight, Nat.shiftRight_eq_div_pow]
    rfl

/-- **The fields are read back** exactly if they fit. -/
theorem decodeScaling_iff : decodeScaling (scalingWord mode stepx stepy) = (mode, stepx, stepy) ↔
    mode.toNat < 65536 ∧ stepx.toNat < 256 ∧ stepy.toNat < 256 := by
  have hdecode := decodeScaling_toNat (scalingWord mode stepx stepy)
  simp only [Prod.mk.injEq] at hdecode
  obtain ⟨hfirst, hsecond, hthird⟩ := hdecode
  constructor
  · intro h
    rw [h] at hfirst hsecond hthird
    dsimp only at hfirst hsecond hthird
    have hlt := (scalingWord mode stepx stepy).toNat_lt
    exact ⟨by omega, by omega, by omega⟩
  · rintro ⟨hmode, hx, hy⟩
    rw [scalingWord_toNat hmode hx hy] at hfirst hsecond hthird
    refine Prod.ext (UInt32.toNat_inj.mp ?_) (Prod.ext (UInt32.toNat_inj.mp ?_)
      (UInt32.toNat_inj.mp ?_))
    · rw [hfirst]
      dsimp only
      omega
    · rw [hsecond]
      dsimp only
      omega
    · rw [hthird]
      dsimp only
      omega

end

/-! ### The arguments -/

def IsInt32 (value : Int) : Prop := -2147483648 ≤ value ∧ value < 2147483648

/-- `5 - value` is computed, and is no `int`. -/
def scaleStepOverflows (value : Int) : Bool := value ≤ 5 ∧ ¬5 - value < 2147483648

theorem toNat_ofInt (value : Int) : (UInt32.ofInt value).toNat = (value % 4294967296).toNat := by
  unfold UInt32.ofInt
  rw [UInt32.toNat_ofNat']
  omega

/-- **A step** between 0 and 5, computed without overflow. -/
theorem scaleStep_iff {value : Int} (h : IsInt32 value) :
    scaleStepOverflows value = false ∧ (scaleStep value).toNat ≤ 5 ↔ 0 ≤ value := by
  obtain ⟨hlow, hhigh⟩ := h
  unfold scaleStepOverflows scaleStep
  by_cases hlarge : value > 5
  · rw [if_pos hlarge]
    refine iff_of_true ⟨?_, by decide⟩ (by omega)
    exact decide_eq_false (fun h => by omega)
  · rw [if_neg hlarge, toNat_ofInt, decide_eq_false_iff_not]
    omega

theorem scaleStep_of_nonneg {value : Int} (h : 0 ≤ value) :
    scaleStepOverflows value = false ∧ (scaleStep value).toNat ≤ 5 := by
  unfold scaleStepOverflows scaleStep
  refine ⟨decide_eq_false (fun h' => by omega), ?_⟩
  by_cases hlarge : value > 5
  · rw [if_pos hlarge]
    decide
  · rw [if_neg hlarge, toNat_ofInt]
    omega

theorem ofInt_lt_iff {value : Int} (h : IsInt32 value) :
    (UInt32.ofInt value).toNat < 65536 ↔ 0 ≤ value ∧ value < 65536 := by
  obtain ⟨hlow, hhigh⟩ := h
  rw [toNat_ofInt]
  omega

/-! ### The calls for the scaling -/

def Effect.scalingWord : Effect → Option UInt32
  | .scalingSetting word => some word
  | _ => none

/-- The words that are sent from one device to the next. -/
def wordsSince (d d' : Device) : List UInt32 := (callsSince d d').filterMap Effect.scalingWord

/-- A call for the scaling: the words that it sends, what is stored after it, and whether an `int`
overflows in it. -/
structure ScaleCall where
  words : List UInt32
  mode : UInt32
  stepX : UInt32
  stepY : UInt32
  overflows : Bool

/-- The word says what is stored, with steps between 0 and 5. -/
def ScaleCall.Fits (c : ScaleCall) : Prop :=
  c.overflows = false ∧ ∀ word ∈ c.words,
    decodeScaling word = (c.mode, c.stepX, c.stepY) ∧ c.stepX.toNat ≤ 5 ∧ c.stepY.toNat ≤ 5

/-- Whether an `int` overflows in a call, when it is one for the scaling. -/
def Operation.scaleOverflows : Operation → Option Bool
  | .setHdmiScaleType _ => some false
  | .setHdmiScaleStep hValue vValue => some (scaleStepOverflows hValue || scaleStepOverflows vValue)
  | _ => none

namespace MdsAction

def scaleOverflows : MdsAction → Option Bool
  | .call op _ => op.scaleOverflows
  | _ => none

/-- The arguments are of type `int`. -/
def HasInt32 : MdsAction → Prop
  | .call (.setHdmiScaleType type) _ => IsInt32 type
  | .call (.setHdmiScaleStep hValue vValue) _ => IsInt32 hValue ∧ IsInt32 vValue
  | _ => True

/-- They fit into the word. -/
def InRange : MdsAction → Prop
  | .call (.setHdmiScaleType type) _ => 0 ≤ type ∧ type < 65536
  | .call (.setHdmiScaleStep hValue vValue) _ => 0 ≤ hValue ∧ 0 ≤ vValue
  | _ => True

/-- SurfaceFlinger is known, or is found. -/
def FindsSurfaceFlinger (s : Composer) : MdsAction → Prop
  | .call _ r => s.mSurfaceComposer = true ∨ r.surfaceFlinger = true
  | _ => True

end MdsAction

/-- The running service, with the calls for the scaling so far. -/
structure ScaledMds where
  mds : MdsState
  calls : List ScaleCall

/-- The record of a step. -/
def scaleCalls (s t : Composer) (a : MdsAction) : List ScaleCall :=
  if s.mDrmInit then
    a.scaleOverflows.toList.map fun overflows =>
      ⟨wordsSince s.device t.device, t.mScaleMode, t.mScaleStepX, t.mScaleStepY, overflows⟩
  else []

def ScaledMds.step (b : Build) (s : ScaledMds) (a : MdsAction) : Option ScaledMds :=
  (CtpCommon.Display.step b s.mds a).map fun t =>
    ⟨t, s.calls ++ scaleCalls s.mds.composer t.composer a⟩

def scaledMds (b : Build) (boot : Boot) : Runs.System ScaledMds MdsAction :=
  ⟨⟨(mds b boot).init, []⟩, ScaledMds.step b⟩

/-! ### What is stored -/

def Composer.scale (s : Composer) : UInt32 × UInt32 × UInt32 :=
  (s.mScaleMode, s.mScaleStepX, s.mScaleStepY)

/-- What is stored fits into the word. -/
structure StoredFits (s : Composer) : Prop where
  mode : s.mScaleMode.toNat < 65536
  stepX : s.mScaleStepX.toNat ≤ 5
  stepY : s.mScaleStepY.toNat ≤ 5

section

variable {b : Build} {r : DrmResults} {s t : Composer} {op : Operation}

theorem scale_of_still (h : t.still = s.still) : t.scale = s.scale := by
  obtain ⟨hmode, hx, hy⟩ := (⟨congrArg Still.scaleMode h, congrArg Still.scaleStepX h,
    congrArg Still.scaleStepY h⟩ : t.mScaleMode = s.mScaleMode ∧ t.mScaleStepX = s.mScaleStepX ∧
      t.mScaleStepY = s.mScaleStepY)
  exact Prod.ext hmode (Prod.ext hx hy)

theorem StoredFits.of_scale (hs : StoredFits s) (h : t.scale = s.scale) : StoredFits t := by
  obtain ⟨hmode, hrest⟩ := Prod.mk.inj h
  obtain ⟨hx, hy⟩ := Prod.mk.inj hrest
  exact ⟨hmode ▸ hs.mode, hx ▸ hs.stepX, hy ▸ hs.stepY⟩

theorem scale_setDisplayScalingLocked (mode stepx stepy : UInt32) :
    (s.setDisplayScalingLocked r mode stepx stepy).2.scale = s.scale := by
  unfold setDisplayScalingLocked
  split
  · rfl
  · rfl

/-- **The word** is sent if SurfaceFlinger is there. -/
theorem wordsSince_setDisplayScalingLocked (mode stepx stepy : UInt32) :
    wordsSince s.device (s.setDisplayScalingLocked r mode stepx stepy).2.device =
      if s.mSurfaceComposer = false ∧ r.surfaceFlinger = false then []
      else [scalingWord mode stepx stepy] := by
  unfold wordsSince setDisplayScalingLocked
  split
  · rw [callsSince_eq (List.append_nil _).symm]
    rfl
  · rw [callsSince_eq (l := [.scalingSetting (scalingWord mode stepx stepy)]) rfl]
    rfl

theorem scale_notifyHotPlug : (s.notifyHotPlug b r).2.scale = s.scale := by
  have hset := scale_of_still (setHdmiModeL_still b r s)
  unfold notifyHotPlug checkInit
  split
  · rfl
  · dsimp only
    split
    · exact scale_setDisplayScalingLocked 0 0 0 |>.trans hset
    · exact hset

/-- **The other operations** leave what is stored alone. -/
theorem perform_scale (h : op.scaleOverflows = none) : (perform b r s op).2.scale = s.scale := by
  cases hown : op.hasOwn with
  | false => exact scale_of_still (perform_still b r s hown)
  | true =>
    cases op with
    | notifyHotPlug =>
      rw [perform]
      exact scale_notifyHotPlug
    | notifyMipi on =>
      rw [perform, notifyMipi, checkInit]
      split
      · rfl
      · rfl
    | setHdmiScaleType | setHdmiScaleStep => exact absurd h (Option.some_ne_none _)
    | getMode | setModePolicy | notifyWidi | setHdmiPowerOff | prepareForVideo | getVideoState
    | updateVideoInfo | registerListener | unregisterListener | getHdmiModeInfo | setHdmiModeInfo
    | getHdmiDeviceChange | getVideoInfo | getDisplayCapability =>
      exact absurd hown Bool.false_ne_true

theorem step_scale {s t : MdsState} {a : MdsAction} (hst : step b s a = some t)
    (h : a.scaleOverflows = none) : t.composer.scale = s.composer.scale := by
  cases a with
  | call op r =>
    obtain rfl := Option.some.inj hst
    exact perform_scale h
  | mipiRequest =>
    obtain ⟨-, -, rfl⟩ := step_mipiRequest hst
    rfl
  | setMipiMode =>
    obtain ⟨on, -, -, rfl⟩ := step_setMipiMode hst
    exact scale_of_still (setMipiModeL_still s.composer on)
  | checkLinkStatus isAuthenticated r =>
    obtain ⟨-, rfl⟩ := step_checkLinkStatus hst
    rfl

/-- What a call for the scaling stores and sends. -/
theorem perform_setHdmiScaleType (b : Build) (r : DrmResults) (hinit : s.mDrmInit = true)
    (type : Int) : (perform b r s (.setHdmiScaleType type)).2.scale
        = (UInt32.ofInt type, s.mScaleStepX, s.mScaleStepY) ∧
      wordsSince s.device (perform b r s (.setHdmiScaleType type)).2.device =
        if s.mSurfaceComposer = false ∧ r.surfaceFlinger = false then []
        else [scalingWord (UInt32.ofInt type) s.mScaleStepX s.mScaleStepY] := by
  rw [perform, setHdmiScaleType, checkInit_of_init hinit]
  exact ⟨scale_setDisplayScalingLocked (s := { s with mScaleMode := UInt32.ofInt type }) _ _ _,
    wordsSince_setDisplayScalingLocked (s := { s with mScaleMode := UInt32.ofInt type }) _ _ _⟩

theorem perform_setHdmiScaleStep (b : Build) (r : DrmResults) (hinit : s.mDrmInit = true)
    (hValue vValue : Int) : (perform b r s (.setHdmiScaleStep hValue vValue)).2.scale
        = (s.mScaleMode, scaleStep hValue, scaleStep vValue) ∧
      wordsSince s.device (perform b r s (.setHdmiScaleStep hValue vValue)).2.device =
        if s.mSurfaceComposer = false ∧ r.surfaceFlinger = false then []
        else [scalingWord s.mScaleMode (scaleStep hValue) (scaleStep vValue)] := by
  rw [perform, setHdmiScaleStep, checkInit_of_init hinit]
  exact ⟨scale_setDisplayScalingLocked
      (s := { s with mScaleStepX := scaleStep hValue, mScaleStepY := scaleStep vValue }) _ _ _,
    wordsSince_setDisplayScalingLocked
      (s := { s with mScaleStepX := scaleStep hValue, mScaleStepY := scaleStep vValue }) _ _ _⟩

/-- The record of a call with what it stores. -/
theorem fits_iff {mode stepX stepY : UInt32} {overflows : Bool}
    (hscale : t.scale = (mode, stepX, stepY))
    (hwords : wordsSince s.device t.device =
      if s.mSurfaceComposer = false ∧ r.surfaceFlinger = false then []
      else [scalingWord mode stepX stepY]) :
    (ScaleCall.mk (wordsSince s.device t.device) t.mScaleMode t.mScaleStepX t.mScaleStepY
      overflows).Fits ↔ overflows = false ∧ (s.mSurfaceComposer = true ∨ r.surfaceFlinger = true →
        mode.toNat < 65536 ∧ stepX.toNat ≤ 5 ∧ stepY.toNat ≤ 5) := by
  obtain ⟨hmode, hrest⟩ := Prod.mk.inj hscale
  obtain ⟨hx, hy⟩ := Prod.mk.inj hrest
  unfold ScaleCall.Fits
  simp only [hwords, hmode, hx, hy]
  refine and_congr_right fun _ => ?_
  by_cases hsent : s.mSurfaceComposer = false ∧ r.surfaceFlinger = false
  · rw [if_pos hsent]
    refine iff_of_true (fun word hword => absurd hword List.not_mem_nil) ?_
    rintro (h | h)
    · exact absurd (hsent.1.symm.trans h) Bool.false_ne_true
    · exact absurd (hsent.2.symm.trans h) Bool.false_ne_true
  · rw [if_neg hsent, List.forall_mem_singleton, decodeScaling_iff]
    have hfound : s.mSurfaceComposer = true ∨ r.surfaceFlinger = true := by
      by_cases hknown : s.mSurfaceComposer = true
      · exact Or.inl hknown
      · refine Or.inr (Bool.eq_true_of_not_eq_false fun h => hsent ⟨?_, h⟩)
        exact Bool.eq_false_iff.mpr hknown
    constructor
    · rintro ⟨⟨hmode', -, -⟩, hx', hy'⟩ -
      exact ⟨hmode', hx', hy'⟩
    · intro h
      obtain ⟨hmode', hx', hy'⟩ := h hfound
      exact ⟨⟨hmode', by omega, by omega⟩, hx', hy'⟩

end

/-! ### One step -/

section

variable {b : Build} {s t : MdsState} {a : MdsAction}

theorem inRange_of_none (h : a.scaleOverflows = none) : a.InRange := by
  cases a with
  | call op r => cases op <;> trivial
  | mipiRequest | setMipiMode | checkLinkStatus => trivial

theorem scaleCalls_of_none {s t : Composer} (h : a.scaleOverflows = none) :
    scaleCalls s t a = [] := by
  unfold scaleCalls
  rw [h]
  split
  · rfl
  · rfl

/-- **A call in range** stores what fits, and its word says so. -/
theorem step_fits (hs : StoredFits s.composer) (hst : step b s a = some t)
    (hrange : s.composer.mDrmInit = true → a.InRange) :
    StoredFits t.composer ∧ ∀ c ∈ scaleCalls s.composer t.composer a, c.Fits := by
  cases hscale : a.scaleOverflows with
  | none =>
    rw [scaleCalls_of_none hscale]
    exact ⟨hs.of_scale (step_scale hst hscale), fun c hc => absurd hc List.not_mem_nil⟩
  | some overflows =>
    obtain ⟨op, r, rfl⟩ : ∃ op r, a = .call op r := by
      cases a with
      | call op r => exact ⟨op, r, rfl⟩
      | mipiRequest | setMipiMode | checkLinkStatus =>
        exact absurd hscale.symm (Option.some_ne_none _)
    have ht : t.composer = (perform b r s.composer op).2 :=
      congrArg MdsState.composer (Option.some.inj hst).symm
    unfold scaleCalls
    rw [hscale, ht]
    cases hinit : s.composer.mDrmInit with
    | false =>
      rw [perform_of_not_init b r hinit, if_neg Bool.false_ne_true]
      exact ⟨hs, fun c hc => absurd hc List.not_mem_nil⟩
    | true =>
      rw [if_pos rfl, Option.toList_some, List.map_singleton, List.forall_mem_singleton]
      have hin := hrange hinit
      cases op with
      | setHdmiScaleType type =>
        obtain ⟨hstored, hwords⟩ := perform_setHdmiScaleType b r hinit type
        have hmode : (UInt32.ofInt type).toNat < 65536 := by
          rw [toNat_ofInt]
          obtain ⟨hlow, hhigh⟩ : 0 ≤ type ∧ type < 65536 := hin
          omega
        have hstep := (⟨hmode, hs.stepX, hs.stepY⟩ : StoredFits
          { s.composer with mScaleMode := UInt32.ofInt type })
        refine ⟨hstep.of_scale hstored, (fits_iff hstored hwords).mpr ⟨?_, fun _ => ?_⟩⟩
        · exact (Option.some.inj hscale).symm
        · exact ⟨hmode, hs.stepX, hs.stepY⟩
      | setHdmiScaleStep hValue vValue =>
        obtain ⟨hstored, hwords⟩ := perform_setHdmiScaleStep b r hinit hValue vValue
        obtain ⟨hh, hv⟩ : 0 ≤ hValue ∧ 0 ≤ vValue := hin
        have hx := scaleStep_of_nonneg hh
        have hy := scaleStep_of_nonneg hv
        have hstep := (⟨hs.mode, hx.2, hy.2⟩ : StoredFits { s.composer with
          mScaleStepX := scaleStep hValue
          mScaleStepY := scaleStep vValue })
        refine ⟨hstep.of_scale hstored, (fits_iff hstored hwords).mpr ⟨?_, fun _ => ?_⟩⟩
        · rw [← Option.some.inj hscale, hx.1, hy.1]
          rfl
        · exact ⟨hs.mode, hx.2, hy.2⟩
      | getMode | setModePolicy | notifyWidi | notifyMipi | notifyHotPlug | setHdmiPowerOff
      | prepareForVideo | getVideoState | updateVideoInfo | registerListener | unregisterListener
      | getHdmiModeInfo | setHdmiModeInfo | getHdmiDeviceChange | getVideoInfo
      | getDisplayCapability => exact absurd hscale.symm (Option.some_ne_none _)

/-- **A call whose word is sent** fits only in range. -/
theorem inRange_of_fits (hst : step b s a = some t) (hint : a.HasInt32)
    (hfound : a.FindsSurfaceFlinger s.composer)
    (h : ∀ c ∈ scaleCalls s.composer t.composer a, c.Fits) (hinit : s.composer.mDrmInit = true) :
    a.InRange := by
  cases hscale : a.scaleOverflows with
  | none => exact inRange_of_none hscale
  | some overflows =>
    obtain ⟨op, r, rfl⟩ : ∃ op r, a = .call op r := by
      cases a with
      | call op r => exact ⟨op, r, rfl⟩
      | mipiRequest | setMipiMode | checkLinkStatus =>
        exact absurd hscale.symm (Option.some_ne_none _)
    have ht : t.composer = (perform b r s.composer op).2 :=
      congrArg MdsState.composer (Option.some.inj hst).symm
    unfold scaleCalls at h
    rw [hscale, ht, if_pos hinit, Option.toList_some, List.map_singleton,
      List.forall_mem_singleton] at h
    cases op with
    | setHdmiScaleType type =>
      obtain ⟨hstored, hwords⟩ := perform_setHdmiScaleType b r hinit type
      obtain ⟨-, hfits⟩ := (fits_iff hstored hwords).mp h
      exact (ofInt_lt_iff hint).mp (hfits hfound).1
    | setHdmiScaleStep hValue vValue =>
      obtain ⟨hstored, hwords⟩ := perform_setHdmiScaleStep b r hinit hValue vValue
      obtain ⟨hoverflows, hfits⟩ := (fits_iff hstored hwords).mp h
      obtain ⟨-, hx, hy⟩ := hfits hfound
      rw [← Option.some.inj hscale, Bool.or_eq_false_iff] at hoverflows
      exact ⟨(scaleStep_iff hint.1).mp ⟨hoverflows.1, hx⟩,
        (scaleStep_iff hint.2).mp ⟨hoverflows.2, hy⟩⟩
    | getMode | setModePolicy | notifyWidi | notifyMipi | notifyHotPlug | setHdmiPowerOff
    | prepareForVideo | getVideoState | updateVideoInfo | registerListener | unregisterListener
    | getHdmiModeInfo | setHdmiModeInfo | getHdmiDeviceChange | getVideoInfo
    | getDisplayCapability => exact absurd hscale.symm (Option.some_ne_none _)

end

/-! ### Runs -/

/-- After `drm_init`, the arguments of a call for the scaling fit into the word. -/
def ScaledMds.InRange (s : ScaledMds) (a : MdsAction) : Prop :=
  s.mds.composer.mDrmInit = true → a.InRange

/-- **The words fit** in every run whose arguments are in range; after such a run, the word of one
more call, if it is sent, fits exactly if its arguments are. -/
theorem scaling_fits {b : Build} {boot : Boot} {s : ScaledMds}
    (h : Runs.Reaches (scaledMds b boot) ScaledMds.InRange s) :
    (∀ c ∈ s.calls, c.Fits) ∧ ∀ a t, s.step b a = some t → a.HasInt32 →
      a.FindsSurfaceFlinger s.mds.composer → ((∀ c ∈ t.calls, c.Fits) ↔ s.InRange a) := by
  have hinit : StoredFits (construct b boot) := by
    have hstored : (construct b boot).scale = (0, 0, 0) :=
      scale_of_still (s := { blank boot with mSurfaceComposer := false }) (construct_still b boot)
    have hzero : (0 : UInt32).toNat = 0 := rfl
    have hblank : StoredFits (blank boot) := by
      refine ⟨?_, ?_, ?_⟩
      · exact hzero.trans_lt (by decide)
      · exact hzero.trans_le (by decide)
      · exact hzero.trans_le (by decide)
    exact hblank.of_scale hstored
  have hinv : StoredFits s.mds.composer ∧ ∀ c ∈ s.calls, c.Fits := by
    refine h.invariant (I := fun s => StoredFits s.mds.composer ∧ ∀ c ∈ s.calls, c.Fits)
      ⟨hinit, fun c hc => absurd hc List.not_mem_nil⟩ ?_
    rintro s t a ⟨hs, hcalls⟩ hok hst
    obtain ⟨u, hstep, rfl⟩ := Option.map_eq_some_iff.mp hst
    obtain ⟨hu, hnew⟩ := step_fits hs hstep hok
    exact ⟨hu, List.forall_mem_append.mpr ⟨hcalls, hnew⟩⟩
  refine ⟨hinv.2, fun a t hst hint hfound => ?_⟩
  obtain ⟨u, hstep, rfl⟩ := Option.map_eq_some_iff.mp hst
  constructor
  · intro hcalls hdrm
    exact inRange_of_fits hstep hint hfound (List.forall_mem_append.mp hcalls).2 hdrm
  · intro hrange
    exact List.forall_mem_append.mpr ⟨hinv.2, (step_fits hinv.1 hstep hrange).2⟩

/-- SurfaceFlinger is there, and the device answers the same at every call. -/
def DrmResults.withSurfaceFlinger : DrmResults :=
  { DrmResults.simple drmHdmiDisconnected true with surfaceFlinger := true }

/-- A client asks for a kind of scaling, then for steps. -/
theorem scaling_fits_of_two : ∃ s : ScaledMds,
    s.calls.map ScaleCall.words = [[3], [0x04010003]] ∧ ∀ c ∈ s.calls, c.Fits := by
  have htype : Runs.Reaches (scaledMds ⟨true, true⟩ (Boot.simple drmHdmiDisconnected))
      ScaledMds.InRange _ :=
    .step (a := .call (.setHdmiScaleType 3) .withSurfaceFlinger) .init
      (fun _ => show (0 : Int) ≤ 3 ∧ (3 : Int) < 65536 by decide) rfl
  have hstep := htype.step (a := MdsAction.call (.setHdmiScaleStep 4 1) .withSurfaceFlinger)
    (fun _ => show (0 : Int) ≤ 4 ∧ (0 : Int) ≤ 1 by decide) rfl
  exact ⟨_, by decide, (scaling_fits hstep).1⟩

/-- A step of `-1` is stored as 6. -/
theorem negative_step_is_sent : ¬∀ (b : Build) (boot : Boot) (s : ScaledMds),
    Runs.Reaches (scaledMds b boot) (fun _ a => a.HasInt32) s → ∀ c ∈ s.calls, c.Fits := by
  intro h
  have hstep : Runs.Reaches (scaledMds ⟨true, true⟩ (Boot.simple drmHdmiDisconnected))
      (fun _ a => a.HasInt32) _ :=
    .step (a := .call (.setHdmiScaleStep (-1) 0) .withSurfaceFlinger) .init
      (show IsInt32 (-1) ∧ IsInt32 0 by unfold IsInt32; decide) rfl
  have hfits := h _ _ _ hstep ⟨[0x05060000], 0, 6, 5, false⟩ (List.mem_singleton.mpr rfl)
  exact absurd (hfits.2 _ (List.mem_singleton.mpr rfl)).2.1 (by decide)

end CtpCommon.Display
