import CtpCommon.Display.Connector
import Mathlib.Data.List.Nodup

/-!
# The list of modes for a client

`drm_hdmi_getModeInfo` once more, with what it writes into the arrays of a client.  It compares the
flags of two modes, but writes only what they say of interlacing and of the ratio.

* `ModePointers`, `modeInfoLoop`, `drmHdmiGetModeInfoArrays` — the function with its arrays;
* `modeInfoLoop_eq` — **PROVED**: the entries are those of `drmHdmiGetModeInfo`, one after another;
* `timing_eq_iff` — **PROVED**: when two modes are the same for a client;
* `FaithfulList` — the list says of each mode what there is to say, once and in order;
* `getModeInfo_faithful_iff` — **PROVED**: so it does unless two modes differ in bit 15 only, next
  to bit 14.
-/

namespace CtpCommon.Display

/-! ### The function -/

/-- Which pointers of a client are not null. -/
structure ModePointers where
  width : Bool
  height : Bool
  refresh : Bool
  interlace : Bool
  ratio : Bool

namespace ModePointers

def null : ModePointers := ⟨false, false, false, false, false⟩

/-- `pWidth && pHeight && pRefresh && pInterlace && pRatio`. -/
def all (p : ModePointers) : Bool := p.width && p.height && p.refresh && p.interlace && p.ratio

/-- What `MultiDisplayComposer::getHdmiModeInfo` hands on. -/
def checked (p : ModePointers) : ModePointers :=
  if p.width = false ∨ p.height = false ∨ p.refresh = false ∨ p.interlace = false then null else p

end ModePointers

/-- The loop from mode `i` on, with `left` modes left and the next entry: the entries that are
written into all five arrays, and `valid_mode_count`. -/
def modeInfoLoop (modes : ℕ → DrmMode) (p : ModePointers) :
    ℕ → ℕ → ℕ → List (ℕ × MdsHdmiTiming) × ℕ
  | 0, _, validModeCount => ([], validModeCount)
  | left + 1, i, validModeCount =>
      if isDuplicated modes i i then modeInfoLoop modes p left (i + 1) validModeCount
      else
        let rest := modeInfoLoop modes p left (i + 1) (validModeCount + 1)
        (if p.all then (validModeCount, (modes i).timing) :: rest.1 else rest.1, rest.2)

/-- A mode by its index. -/
def DrmConnector.mode (connector : DrmConnector) (i : ℕ) : DrmMode :=
  (connector.modes[i]?.getD (.simple 0 0 0 0 0)).toDrmMode

/-- `drm_hdmi_getModeInfo`: the entries that are written, its result, and the context. -/
def drmHdmiGetModeInfoArrays (resources : DrmResources) (p : ModePointers) (c : DrmContext) :
    (List (ℕ × MdsHdmiTiming) × ℕ) × DrmContext :=
  if c.hdmiSupported = false ∨ c.connected = false then (([], 0), c)
  else
    match getHdmiConnector resources c with
    | (none, c) => (([], 0), c)
    | (some connector, c) =>
        if connector.modes.length > hdmiTimingMax then (([], 0), { c with hdmiConnector := none })
        else (modeInfoLoop connector.mode p connector.modes.length 0 0, c)

/-! ### The entries -/

section

variable (modes : ℕ → DrmMode)

/-- The indices of the modes that are recorded. -/
def recordedIndices (i left : ℕ) : List ℕ :=
  (List.range' i left).filter fun j => !isDuplicated modes j j

theorem recordModes_eq (left i : ℕ) :
    recordModes modes left i = (recordedIndices modes i left).map fun j => (modes j).timing := by
  induction left generalizing i with
  | zero => rfl
  | succ left ih =>
    unfold recordedIndices
    rw [recordModes, List.range'_succ, List.filter_cons, ih]
    by_cases hduplicated : isDuplicated modes i i = true
    · simp only [hduplicated, if_true, Bool.not_true, Bool.false_eq_true, if_false]
      rfl
    · simp only [hduplicated, Bool.false_eq_true, if_false, Bool.not_false, if_true]
      rfl

/-- **The entries** are the recorded modes, one after another; without arrays only their number is
returned. -/
theorem modeInfoLoop_eq (p : ModePointers) (left i validModeCount : ℕ) :
    modeInfoLoop modes p left i validModeCount =
      (if p.all then ((recordModes modes left i).zipIdx validModeCount).map Prod.swap else [],
        validModeCount + (recordModes modes left i).length) := by
  induction left generalizing i validModeCount with
  | zero => simp [modeInfoLoop, recordModes]
  | succ left ih =>
    rw [modeInfoLoop, recordModes]
    by_cases hduplicated : isDuplicated modes i i = true
    · rw [if_pos hduplicated, if_pos hduplicated, ih]
    · rw [if_neg hduplicated, if_neg hduplicated, ih]
      have hlength : validModeCount + 1 + (recordModes modes left (i + 1)).length
          = validModeCount + ((modes i).timing :: recordModes modes left (i + 1)).length := by
        rw [List.length_cons]
        omega
      refine Prod.ext ?_ hlength
      cases p.all with
      | true => rfl
      | false => rfl

theorem isDuplicated_iff (i j : ℕ) :
    isDuplicated modes i j = true ↔ ∃ k < j, (modes i).isSame (modes k) = true := by
  induction j with
  | zero => simp [isDuplicated]
  | succ j ih =>
    rw [isDuplicated, Bool.or_eq_true, ih]
    constructor
    · rintro (h | ⟨k, hk, h⟩)
      · exact ⟨j, Nat.lt_succ_self j, h⟩
      · exact ⟨k, Nat.lt_succ_of_lt hk, h⟩
    · rintro ⟨k, hk, h⟩
      rcases Nat.lt_succ_iff_lt_or_eq.mp hk with hlt | rfl
      · exact Or.inr ⟨k, hlt, h⟩
      · exact Or.inl h

theorem mem_recordedIndices {n i : ℕ} : i ∈ recordedIndices modes 0 n ↔
    i < n ∧ ∀ k < i, (modes i).isSame (modes k) = false := by
  unfold recordedIndices
  rw [List.mem_filter, ← List.range_eq_range', List.mem_range, Bool.not_eq_true', Bool.eq_false_iff,
    ne_eq, isDuplicated_iff]
  simp

end

/-! ### Two modes for a client -/

namespace DrmMode

theorem getLsbD_tempFlags (m : DrmMode) (i : ℕ) : m.tempFlags.getLsbD i
    = (m.flags.getLsbD i && (decide (4 = i) || decide (14 = i) || decide (15 = i))) := by
  simp [tempFlags, drmModeFlagInterlace, flagRatio14, flagRatio15, BitVec.getLsbD_twoPow]

/-- The flags that are compared, bit by bit. -/
theorem tempFlags_eq_iff (m m' : DrmMode) : m.tempFlags = m'.tempFlags ↔
    m.flags.getLsbD 4 = m'.flags.getLsbD 4 ∧ m.flags.getLsbD 14 = m'.flags.getLsbD 14 ∧
      m.flags.getLsbD 15 = m'.flags.getLsbD 15 := by
  constructor
  · intro h
    have hsame : ∀ i, decide (4 = i) || decide (14 = i) || decide (15 = i) →
        m.flags.getLsbD i = m'.flags.getLsbD i := by
      intro i hi
      have hi' := congrArg (BitVec.getLsbD · i) h
      simp only [getLsbD_tempFlags, hi, Bool.and_true] at hi'
      exact hi'
    exact ⟨hsame 4 rfl, hsame 14 rfl, hsame 15 rfl⟩
  · rintro ⟨h4, h14, h15⟩
    apply BitVec.eq_of_getLsbD_eq
    intro i _
    rw [getLsbD_tempFlags, getLsbD_tempFlags]
    by_cases hi4 : 4 = i
    · rw [← hi4, h4]
    by_cases hi14 : 14 = i
    · rw [← hi14, h14]
    by_cases hi15 : 15 = i
    · rw [← hi15, h15]
    · simp [hi4, hi14, hi15]

/-- A flag that is one bit. -/
theorem and_twoPow_ne_zero_iff (flags : BitVec 32) {k : ℕ} (hk : k < 32) :
    flags &&& BitVec.twoPow 32 k ≠ 0 ↔ flags.getLsbD k = true := by
  rw [BitVec.and_twoPow]
  cases flags.getLsbD k with
  | false => simp
  | true =>
    refine iff_of_true (fun hzero => ?_) rfl
    have hbit := congrArg (BitVec.getLsbD · k) hzero
    simp [hk] at hbit

/-- What is recorded of a mode, bit by bit. -/
theorem timing_eq (m : DrmMode) : m.timing = ⟨m.vrefresh.toInt, m.hdisplay.toNat, m.vdisplay.toNat,
    if m.flags.getLsbD 4 then 1 else 0,
    if m.flags.getLsbD 14 then 2 else if m.flags.getLsbD 15 then 1 else 0⟩ := by
  have hflag : ∀ {k}, k < 32 → (decide (4 = k) || decide (14 = k) || decide (15 = k)) = true →
      (m.tempFlags &&& BitVec.twoPow 32 k ≠ 0 ↔ m.flags.getLsbD k = true) := by
    intro k hk hmask
    rw [and_twoPow_ne_zero_iff _ hk, getLsbD_tempFlags, hmask, Bool.and_true]
  simp only [timing, drmModeFlagInterlace, flagRatio14, flagRatio15,
    hflag (by decide : 4 < 32) rfl, hflag (by decide : 14 < 32) rfl,
    hflag (by decide : 15 < 32) rfl]

theorem interlace_eq_iff (flag flag' : Bool) :
    ((if flag then 1 else 0 : Int) = if flag' then 1 else 0) ↔ flag = flag' := by
  revert flag flag'
  decide

/-- The ratio tells bit 15 only without bit 14. -/
theorem ratio_eq_iff (wide narrow wide' narrow' : Bool) :
    ((if wide then 2 else if narrow then 1 else 0 : Int) =
      if wide' then 2 else if narrow' then 1 else 0) ↔
      wide = wide' ∧ narrow = narrow' ∨ wide = true ∧ wide' = true ∧ narrow ≠ narrow' := by
  revert wide narrow wide' narrow'
  decide

/-- Two modes that differ in bit 15 only, next to bit 14. -/
def Ambiguous (m m' : DrmMode) : Prop :=
  m.hdisplay = m'.hdisplay ∧ m.vdisplay = m'.vdisplay ∧ m.vrefresh = m'.vrefresh ∧
    m.flags.getLsbD 4 = m'.flags.getLsbD 4 ∧ m.flags.getLsbD 14 = true ∧
    m'.flags.getLsbD 14 = true ∧ m.flags.getLsbD 15 ≠ m'.flags.getLsbD 15

/-- **When two modes are the same for a client**: their flags agree, or do not tell the ratio. -/
theorem timing_eq_iff (m m' : DrmMode) :
    m.timing = m'.timing ↔ m.isSame m' = true ∨ Ambiguous m m' := by
  have hsame : m.isSame m' = true ↔ m.hdisplay = m'.hdisplay ∧ m.vdisplay = m'.vdisplay ∧
      m.vrefresh = m'.vrefresh ∧ m.flags.getLsbD 4 = m'.flags.getLsbD 4 ∧
      m.flags.getLsbD 14 = m'.flags.getLsbD 14 ∧ m.flags.getLsbD 15 = m'.flags.getLsbD 15 := by
    rw [← tempFlags_eq_iff]
    exact decide_eq_true_iff
  rw [hsame, timing_eq, timing_eq, MdsHdmiTiming.mk.injEq, BitVec.toInt_inj, Nat.cast_inj,
    Nat.cast_inj, UInt16.toNat_inj, UInt16.toNat_inj, interlace_eq_iff, ratio_eq_iff]
  unfold Ambiguous
  tauto

end DrmMode

/-! ### The list -/

section

variable {modes : ℕ → DrmMode} {n i j : ℕ}

theorem isSame_iff {m m' : DrmMode} : m.isSame m' = true ↔ m.hdisplay = m'.hdisplay ∧
    m.vdisplay = m'.vdisplay ∧ m.vrefresh = m'.vrefresh ∧ m.tempFlags = m'.tempFlags :=
  decide_eq_true_iff

theorem isSame_trans {m m' m'' : DrmMode} (h : m.isSame m' = true) (h' : m'.isSame m'' = true) :
    m.isSame m'' = true := by
  obtain ⟨hh, hv, hr, hf⟩ := isSame_iff.mp h
  obtain ⟨hh', hv', hr', hf'⟩ := isSame_iff.mp h'
  exact isSame_iff.mpr ⟨hh.trans hh', hv.trans hv', hr.trans hr', hf.trans hf'⟩

theorem isSame_symm {m m' : DrmMode} (h : m.isSame m' = true) : m'.isSame m = true := by
  obtain ⟨hh, hv, hr, hf⟩ := isSame_iff.mp h
  exact isSame_iff.mpr ⟨hh.symm, hv.symm, hr.symm, hf.symm⟩

theorem isSame_refl (m : DrmMode) : m.isSame m = true := isSame_iff.mpr ⟨rfl, rfl, rfl, rfl⟩

/-- **Every mode** is recorded, or the same as one that is. -/
theorem exists_recorded (modes : ℕ → DrmMode) (h : i < n) :
    ∃ k ∈ recordedIndices modes 0 n, (modes i).isSame (modes k) = true := by
  induction i using Nat.strong_induction_on with
  | _ i ih =>
    by_cases hduplicated : isDuplicated modes i i = true
    · obtain ⟨j, hj, hsame⟩ := (isDuplicated_iff modes i i).mp hduplicated
      obtain ⟨k, hk, hsame'⟩ := ih j hj (hj.trans h)
      exact ⟨k, hk, isSame_trans hsame hsame'⟩
    · refine ⟨i, (mem_recordedIndices modes).mpr ⟨h, fun k hk => ?_⟩, isSame_refl _⟩
      exact Bool.eq_false_iff.mpr fun hsame =>
        hduplicated ((isDuplicated_iff modes i i).mpr ⟨k, hk, hsame⟩)

/-- No two modes differ in bit 15 only, next to bit 14. -/
def RatiosClear (modes : ℕ → DrmMode) (n : ℕ) : Prop :=
  ∀ i < n, ∀ j < n, ¬(modes i).Ambiguous (modes j)

/-- The first mode with what is recorded of a mode is this mode. -/
theorem ne_timing_of_lt (hclear : RatiosClear modes n) (h : j ∈ recordedIndices modes 0 n)
    (hlt : i < j) : (modes i).timing ≠ (modes j).timing := by
  intro heq
  obtain ⟨hj, hfirst⟩ := (mem_recordedIndices modes).mp h
  rcases (DrmMode.timing_eq_iff _ _).mp heq with hsame | hambiguous
  · exact absurd ((hfirst i hlt).symm.trans (isSame_symm hsame)) Bool.false_ne_true
  · exact hclear i (hlt.trans hj) j hj hambiguous

theorem idxOf_timing (hclear : RatiosClear modes n) (h : j ∈ recordedIndices modes 0 n) :
    ((List.range n).map fun i => (modes i).timing).idxOf (modes j).timing = j := by
  have hj := ((mem_recordedIndices modes).mp h).1
  refine (List.findIdx_eq (by simpa using hj)).mpr ⟨by simp, fun i hi => ?_⟩
  simpa using ne_timing_of_lt hclear h hi

theorem pairwise_recordedIndices (modes : ℕ → DrmMode) (n : ℕ) :
    (recordedIndices modes 0 n).Pairwise (· < ·) :=
  List.Pairwise.filter _ List.pairwise_lt_range'

end

/-- **The list for a client**: the entries from the first on, each tuple once, one for each mode, in
the order in which they first occur; and their number is also returned without arrays. -/
structure FaithfulList (modes : List DrmModeModeInfo) (entries : List (ℕ × MdsHdmiTiming))
    (count countOnly : ℕ) : Prop where
  indices : entries.map Prod.fst = List.range count
  distinct : (entries.map Prod.snd).Nodup
  complete : ∀ mode ∈ modes, mode.timing ∈ entries.map Prod.snd
  order : (entries.map Prod.snd).Pairwise fun t u =>
    (modes.map fun mode => mode.timing).idxOf t < (modes.map fun mode => mode.timing).idxOf u
  countOnly : countOnly = count

section

variable {connector : DrmConnector}

theorem mode_of_lt {i : ℕ} (h : i < connector.modes.length) :
    connector.mode i = connector.modes[i].toDrmMode := by
  unfold DrmConnector.mode
  rw [List.getElem?_eq_getElem h]
  rfl

theorem map_timing_eq (connector : DrmConnector) :
    connector.modes.map (fun mode => mode.timing)
      = (List.range connector.modes.length).map fun i => (connector.mode i).timing := by
  refine List.ext_getElem (by simp) fun i hi hi' => ?_
  rw [List.length_map] at hi
  rw [List.getElem_map, List.getElem_map, List.getElem_range, mode_of_lt hi]

theorem ratiosClear_iff (connector : DrmConnector) :
    RatiosClear connector.mode connector.modes.length ↔
      ∀ m ∈ connector.modes, ∀ m' ∈ connector.modes, ¬m.Ambiguous m'.toDrmMode := by
  constructor
  · intro h m hm m' hm'
    obtain ⟨i, hi, rfl⟩ := List.mem_iff_getElem.mp hm
    obtain ⟨j, hj, rfl⟩ := List.mem_iff_getElem.mp hm'
    have hclear := h i hi j hj
    rw [mode_of_lt hi, mode_of_lt hj] at hclear
    exact hclear
  · intro h i hi j hj
    rw [mode_of_lt hi, mode_of_lt hj]
    exact h _ (List.getElem_mem hi) _ (List.getElem_mem hj)

/-- **The recorded modes** are a faithful list exactly if the ratios are clear. -/
theorem faithfulList_iff (connector : DrmConnector) (p : ModePointers) (hp : p.all = true) :
    FaithfulList connector.modes
        (modeInfoLoop connector.mode p connector.modes.length 0 0).1
        (modeInfoLoop connector.mode p connector.modes.length 0 0).2
        (modeInfoLoop connector.mode ModePointers.null connector.modes.length 0 0).2 ↔
      RatiosClear connector.mode connector.modes.length := by
  rw [modeInfoLoop_eq, modeInfoLoop_eq, if_pos hp]
  generalize hR : recordModes connector.mode connector.modes.length 0 = R
  rw [recordModes_eq] at hR
  have hfst : ((R.zipIdx 0).map Prod.swap).map Prod.fst = List.range R.length := by
    rw [List.map_map, List.range_eq_range', ← List.zipIdx_map_snd 0 R]
    rfl
  have hsnd : ((R.zipIdx 0).map Prod.swap).map Prod.snd = R := by
    rw [List.map_map]
    exact List.zipIdx_map_fst 0 R
  have hrecorded := pairwise_recordedIndices connector.mode connector.modes.length
  constructor
  · intro h i hi j hj hambiguous
    have hnodup := h.distinct
    rw [hsnd, ← hR] at hnodup
    obtain ⟨k, hk, hsame⟩ := exists_recorded connector.mode hi
    obtain ⟨l, hl, hsame'⟩ := exists_recorded connector.mode hj
    have htiming : (connector.mode k).timing = (connector.mode l).timing := by
      rw [← (DrmMode.timing_eq_iff _ _).mpr (Or.inl hsame),
        ← (DrmMode.timing_eq_iff _ _).mpr (Or.inl hsame')]
      exact (DrmMode.timing_eq_iff _ _).mpr (Or.inr hambiguous)
    obtain rfl := List.inj_on_of_nodup_map hnodup hk hl htiming
    -- Both modes are the same as one, so their flags agree.
    have hflags := (isSame_iff.mp (isSame_trans hsame (isSame_symm hsame'))).2.2.2
    exact hambiguous.2.2.2.2.2.2 ((DrmMode.tempFlags_eq_iff _ _).mp hflags).2.2
  · intro hclear
    have hpairwise : R.Pairwise fun t u =>
        (connector.modes.map fun mode => mode.timing).idxOf t
          < (connector.modes.map fun mode => mode.timing).idxOf u := by
      rw [← hR, List.pairwise_map, map_timing_eq]
      refine hrecorded.imp_of_mem fun hi hj hlt => ?_
      rw [idxOf_timing hclear hi, idxOf_timing hclear hj]
      exact hlt
    refine ⟨?_, ?_, fun mode hmode => ?_, ?_, ?_⟩
    · rw [hfst, Nat.zero_add]
    · rw [hsnd]
      exact hpairwise.imp fun hlt heq => absurd (heq ▸ hlt) (Nat.lt_irrefl _)
    · obtain ⟨i, hi, rfl⟩ := List.mem_iff_getElem.mp hmode
      obtain ⟨k, hk, hsame⟩ := exists_recorded connector.mode hi
      rw [hsnd, ← hR, ← mode_of_lt hi, (DrmMode.timing_eq_iff _ _).mpr (Or.inl hsame)]
      exact List.mem_map_of_mem hk
    · rw [hsnd]
      exact hpairwise
    · rfl

/-- **The list for a client** is faithful, for every connected connector with at most
`HDMI_TIMING_MAX` modes, exactly if no two of its modes differ in bit 15 only, next to bit 14. -/
theorem getModeInfo_faithful_iff (resources : DrmResources) (p : ModePointers) (c : DrmContext)
    (connector : DrmConnector) (hp : p.all = true) (hsupported : c.hdmiSupported = true)
    (hconnected : c.connected = true)
    (hconnector : (getHdmiConnector resources c).1 = some connector)
    (hmax : connector.modes.length ≤ hdmiTimingMax) :
    FaithfulList connector.modes (drmHdmiGetModeInfoArrays resources p c).1.1
        (drmHdmiGetModeInfoArrays resources p c).1.2
        (drmHdmiGetModeInfoArrays resources ModePointers.null c).1.2 ↔
      ∀ m ∈ connector.modes, ∀ m' ∈ connector.modes, ¬m.Ambiguous m'.toDrmMode := by
  have hloop : ∀ q, (drmHdmiGetModeInfoArrays resources q c).1
      = modeInfoLoop connector.mode q connector.modes.length 0 0 := by
    intro q
    unfold drmHdmiGetModeInfoArrays
    rw [if_neg (by simp [hsupported, hconnected]),
      ← Prod.mk.eta (p := getHdmiConnector resources c)]
    simp only [hconnector]
    rw [if_neg (Nat.not_lt.mpr hmax)]
  rw [hloop, hloop, ← ratiosClear_iff]
  exact faithfulList_iff connector p hp

end

/-- Three modes: 4:3, interlaced 16:9, and the first again. -/
theorem getModeInfo_faithful_of_three : FaithfulList
    [.simple 640 480 60 flagRatio15 0,
      .simple 1920 1080 60 (flagRatio14 ||| drmModeFlagInterlace) 0,
      .simple 640 480 60 flagRatio15 0]
    [(0, ⟨60, 640, 480, 0, 1⟩), (1, ⟨60, 1920, 1080, 1, 2⟩)] 2 2 := by
  have h := (getModeInfo_faithful_iff none ⟨true, true, true, true, true⟩
    (.simple [.simple 640 480 60 flagRatio15 0,
      .simple 1920 1080 60 (flagRatio14 ||| drmModeFlagInterlace) 0,
      .simple 640 480 60 flagRatio15 0]) ⟨drmModeConnectorDvid, [.simple 640 480 60 flagRatio15 0,
      .simple 1920 1080 60 (flagRatio14 ||| drmModeFlagInterlace) 0,
      .simple 640 480 60 flagRatio15 0], []⟩ rfl rfl rfl rfl (by decide)).mpr
    (by unfold DrmMode.Ambiguous; decide)
  exact h

/-- 16:9 with and without bit 15: the client is told the same twice. -/
theorem wide_mode_is_repeated : ¬∀ (resources : DrmResources) (p : ModePointers) (c : DrmContext)
    (connector : DrmConnector), p.all = true → c.hdmiSupported = true → c.connected = true →
      (getHdmiConnector resources c).1 = some connector →
      connector.modes.length ≤ hdmiTimingMax →
      FaithfulList connector.modes (drmHdmiGetModeInfoArrays resources p c).1.1
        (drmHdmiGetModeInfoArrays resources p c).1.2
        (drmHdmiGetModeInfoArrays resources ModePointers.null c).1.2 := by
  intro h
  have hlist := h none ⟨true, true, true, true, true⟩
    (.simple [.simple 640 480 60 flagRatio14 0, .simple 640 480 60 (flagRatio14 ||| flagRatio15) 0])
    ⟨drmModeConnectorDvid, [.simple 640 480 60 flagRatio14 0,
      .simple 640 480 60 (flagRatio14 ||| flagRatio15) 0], []⟩ rfl rfl rfl rfl (by decide)
  exact absurd hlist.distinct (by decide)

end CtpCommon.Display
