import CtpCommon.Display.Connector
import CtpCommon.Lib.Search
import Mathlib.Order.Bounds.Basic

/-!
# The timing for a video

`drm_hdmi_getTiming` of `drm_hdmi.cpp`.  For a video it takes, among the modes of 720p or 1080p, one
with the refresh rate that is asked for, or with a multiple of it, or else the highest.

* `matchModes`, `chooseModes` — the two loops, `drmHdmiGetTiming` — the function;
* `matchModes_eq` — **PROVED**: the first loop finds every mode of the resolution;
* `chooseModes_of_isExact`, `chooseModes_of_not_isExact` — **PROVED**: what the second loop takes;
* `BestTiming` — the timing that suits a video best;
* `getTiming_best_iff` — **PROVED**: it is taken exactly if a mode with just the rate that is asked
  for counts.
-/

namespace CtpCommon.Display

/-! ### The function -/

def drmHdmiClone : Int := 1
def drmHdmiVideoExt : Int := 2

/-- Select 720P or 1080P as output. -/
def selectedResolution (info : MdsHdmiTiming) : Int × Int :=
  if info.width ≤ 1280 ∧ info.height ≤ 720 then (1280, 720) else (1920, 1080)

def DrmMode.hasResolution (resolution : Int × Int) (mode : DrmMode) : Bool :=
  resolution.1 = mode.hdisplay.toNat ∧ resolution.2 = mode.vdisplay.toNat

/-- A mode of the connector, with its index. -/
abbrev IndexedMode := DrmModeModeInfo × ℕ

/-- Find the modes of a resolution; the loop stops after `HDMI_TIMING_MAX` of them. -/
def matchModes (resolution : Int × Int) : List DrmModeModeInfo → ℕ → ℕ → List IndexedMode
  | [], _, _ => []
  | mode :: rest, i, numMatched =>
      let matched := if mode.hasResolution resolution then [(mode, i)] else []
      if numMatched + matched.length ≥ hdmiTimingMax then matched
      else matched ++ matchModes resolution rest (i + 1) (numMatched + matched.length)

/-- `max_vrefresh_index` and `best_vrefresh_index`; an index of `-1` is `none`. -/
structure BestModes where
  maxVrefresh : IndexedMode
  bestVrefresh : Option IndexedMode

/-- A higher refresh rate, or the same with preferred flags. -/
def isHigher (x y : IndexedMode) : Bool :=
  y.1.vrefresh < x.1.vrefresh ∨ x.1.vrefresh = y.1.vrefresh ∧ drmIsPreferredFlags x.1.flags

def isFaster (x y : IndexedMode) : Bool := y.1.vrefresh < x.1.vrefresh

/-- Select the best one from the matched modes. -/
def chooseModes (refresh : BitVec 32) : List IndexedMode → BestModes → BestModes
  | [], b => b
  | x :: rest, b =>
      let b := { b with maxVrefresh := Search.pick isHigher b.maxVrefresh x }
      if refresh = 0 then chooseModes refresh rest b
      else if x.1.vrefresh % refresh = 0 then
        if x.1.vrefresh = refresh then
          if drmIsPreferredFlags x.1.flags then { b with bestVrefresh := some x }
          else chooseModes refresh rest b
        else
          chooseModes refresh rest
            { b with bestVrefresh := Search.consider isFaster b.bestVrefresh x }
      else chooseModes refresh rest b

/-- The mode that is taken. -/
def BestModes.taken (b : BestModes) : IndexedMode := b.bestVrefresh.getD b.maxVrefresh

/-- The timing in video extended mode. -/
def videoTiming (modes : List DrmModeModeInfo) (preferredModeIndex : ℕ) (info : MdsHdmiTiming) :
    MdsHdmiTiming :=
  match matchModes (selectedResolution info) modes 0 0 with
  | [] => drmHdmiSetTiming modes preferredModeIndex
  | first :: rest =>
      drmHdmiSetTiming modes
        (chooseModes (BitVec.ofInt 32 info.refresh) (first :: rest) ⟨first, none⟩).taken.2

/-- `drm_hdmi_getTiming`: its result, the timing, and the context. -/
def drmHdmiGetTiming (resources : DrmResources) (mode : Int) (info : MdsHdmiTiming)
    (c : DrmContext) : Bool × MdsHdmiTiming × DrmContext :=
  if c.hdmiSupported = false ∨ c.connected = false then (false, info, c)
  else if c.modeValid then (true, c.modeSelected, c)
  else
    match getHdmiConnector resources c with
    | (none, c) => (false, info, c)
    | (some connector, c) =>
        if mode ≠ drmHdmiVideoExt then
          (true, drmHdmiSetTiming connector.modes c.preferredModeIndex, c)
        else (true, videoTiming connector.modes c.preferredModeIndex info, c)

/-! ### The first loop -/

section

variable {resolution : Int × Int} {modes : List DrmModeModeInfo} {x : IndexedMode}

/-- **The first loop** finds every mode of the resolution. -/
theorem matchModes_eq (resolution : Int × Int) (modes : List DrmModeModeInfo) (i numMatched : ℕ)
    (h : numMatched + modes.length ≤ hdmiTimingMax) :
    matchModes resolution modes i numMatched
      = (modes.zipIdx i).filter fun x => x.1.hasResolution resolution := by
  induction modes generalizing i numMatched with
  | nil => rfl
  | cons mode rest ih =>
    rw [List.length_cons] at h
    rw [matchModes, List.zipIdx_cons, List.filter_cons]
    by_cases hmode : mode.hasResolution resolution = true
    · simp only [hmode, if_true, List.length_singleton]
      split
      · have hrest : rest = [] := List.length_eq_zero_iff.mp (by omega)
        rw [hrest]
        rfl
      · rw [ih (i + 1) (numMatched + 1) (by omega)]
        rfl
    · simp only [hmode, Bool.false_eq_true, if_false, List.length_nil, Nat.add_zero]
      split
      · have hrest : rest = [] := List.length_eq_zero_iff.mp (by omega)
        rw [hrest]
        rfl
      · exact ih (i + 1) numMatched (by omega)

theorem mem_matchModes (h : modes.length ≤ hdmiTimingMax) :
    x ∈ matchModes resolution modes 0 0 ↔
      modes[x.2]? = some x.1 ∧ x.1.hasResolution resolution = true := by
  rw [matchModes_eq _ _ _ _ (by omega), List.mem_filter]
  exact and_congr_left fun _ => List.mem_zipIdx_iff_getElem?

variable (resolution) in
/-- The matched modes are those of the resolution. -/
theorem exists_mem_matchModes (h : modes.length ≤ hdmiTimingMax) {P : DrmModeModeInfo → Prop} :
    (∃ mode ∈ modes.filter fun mode => mode.hasResolution resolution, P mode) ↔
      ∃ x ∈ matchModes resolution modes 0 0, P x.1 := by
  constructor
  · rintro ⟨mode, hmode, hP⟩
    obtain ⟨hin, hres⟩ := List.mem_filter.mp hmode
    obtain ⟨i, hi⟩ := List.mem_iff_getElem?.mp hin
    exact ⟨(mode, i), (mem_matchModes h).mpr ⟨hi, hres⟩, hP⟩
  · rintro ⟨x, hx, hP⟩
    obtain ⟨hi, hres⟩ := (mem_matchModes h).mp hx
    exact ⟨x.1, List.mem_filter.mpr ⟨List.mem_of_getElem? hi, hres⟩, hP⟩

variable (resolution) in
theorem forall_mem_matchModes (h : modes.length ≤ hdmiTimingMax) {P : DrmModeModeInfo → Prop} :
    (∀ mode ∈ modes.filter fun mode => mode.hasResolution resolution, P mode) ↔
      ∀ x ∈ matchModes resolution modes 0 0, P x.1 := by
  have hexists := exists_mem_matchModes resolution h (P := fun mode => ¬P mode)
  constructor
  · intro hall x hx
    by_contra hno
    obtain ⟨mode, hmode, hP⟩ := hexists.mpr ⟨x, hx, hno⟩
    exact hP (hall mode hmode)
  · intro hall mode hmode
    by_contra hno
    obtain ⟨x, hx, hP⟩ := hexists.mp ⟨mode, hmode, hno⟩
    exact hP (hall x hx)

end

/-! ### The second loop -/

/-- A mode that ends the loop. -/
def isExact (refresh : BitVec 32) (x : IndexedMode) : Bool :=
  refresh ≠ 0 ∧ x.1.vrefresh = refresh ∧ drmIsPreferredFlags x.1.flags

/-- A mode with another multiple of the rate. -/
def isMultiple (refresh : BitVec 32) (x : IndexedMode) : Bool :=
  refresh ≠ 0 ∧ x.1.vrefresh % refresh = 0 ∧ x.1.vrefresh ≠ refresh

section

variable {refresh : BitVec 32} {l : List IndexedMode} {x : IndexedMode} {b : BestModes}

theorem isMultiple_def : isMultiple refresh x = true ↔
    refresh ≠ 0 ∧ x.1.vrefresh % refresh = 0 ∧ x.1.vrefresh ≠ refresh := decide_eq_true_iff

theorem isExact_def : isExact refresh x = true ↔ refresh ≠ 0 ∧ x.1.vrefresh = refresh ∧
    drmIsPreferredFlags x.1.flags = true := decide_eq_true_iff

theorem umod_self (refresh : BitVec 32) : refresh % refresh = 0 := by
  apply BitVec.eq_of_toNat_eq
  rw [BitVec.toNat_umod, Nat.mod_self]
  rfl

/-- **A mode with just the rate** and with preferred flags is taken. -/
theorem chooseModes_of_isExact (b : BestModes) (h : ∃ x ∈ l, isExact refresh x = true) :
    ∃ x ∈ l, isExact refresh x = true ∧ (chooseModes refresh l b).taken = x := by
  induction l generalizing b with
  | nil =>
    obtain ⟨x, hx, -⟩ := h
    exact absurd hx List.not_mem_nil
  | cons y rest ih =>
    by_cases hy : isExact refresh y = true
    · obtain ⟨hzero, hsame, hflags⟩ := isExact_def.mp hy
      refine ⟨y, List.mem_cons_self, hy, ?_⟩
      simp only [chooseModes, if_neg hzero, hsame, umod_self, if_true, hflags]
      rfl
    · have hrest : ∃ x ∈ rest, isExact refresh x = true := by
        obtain ⟨x, hx, hexact⟩ := h
        rcases List.mem_cons.mp hx with rfl | hx
        · exact absurd hexact hy
        · exact ⟨x, hx, hexact⟩
      have hnext : ∃ b', chooseModes refresh (y :: rest) b = chooseModes refresh rest b' := by
        rw [isExact_def, not_and, not_and] at hy
        rw [chooseModes]
        split_ifs with hzero hmod hsame hflags
        · exact ⟨_, rfl⟩
        · exact absurd hflags (hy hzero hsame)
        · exact ⟨_, rfl⟩
        · exact ⟨_, rfl⟩
        · exact ⟨_, rfl⟩
      obtain ⟨b', hb'⟩ := hnext
      obtain ⟨x, hx, hexact, htaken⟩ := ih b' hrest
      exact ⟨x, List.mem_cons_of_mem _ hx, hexact, hb' ▸ htaken⟩

/-- **Without one**, the modes with another multiple of the rate are compared, and all are. -/
theorem chooseModes_of_not_isExact (b : BestModes) (h : ∀ x ∈ l, isExact refresh x = false) :
    chooseModes refresh l b = ⟨Search.best isHigher b.maxVrefresh l,
      (l.filter (isMultiple refresh)).foldl (Search.consider isFaster) b.bestVrefresh⟩ := by
  induction l generalizing b with
  | nil => rfl
  | cons y rest ih =>
    obtain ⟨hy, hrest⟩ := List.forall_mem_cons.mp h
    rw [Bool.eq_false_iff, ne_eq, isExact_def, not_and, not_and] at hy
    rw [List.filter_cons, Search.best_cons]
    unfold chooseModes
    by_cases hzero : refresh = 0
    · rw [if_pos hzero, if_neg (fun h => (isMultiple_def.mp h).1 hzero)]
      exact ih _ hrest
    rw [if_neg hzero]
    by_cases hmod : y.1.vrefresh % refresh = 0
    · rw [if_pos hmod]
      by_cases hsame : y.1.vrefresh = refresh
      · rw [if_pos hsame, if_neg (hy hzero hsame),
          if_neg (fun h => (isMultiple_def.mp h).2.2 hsame)]
        exact ih _ hrest
      · rw [if_neg hsame, if_pos (isMultiple_def.mpr ⟨hzero, hmod, hsame⟩), List.foldl_cons]
        exact ih _ hrest
    · rw [if_neg hmod, if_neg (fun h => hmod (isMultiple_def.mp h).2.1)]
      exact ih _ hrest

/-! ### The mode that is taken -/

/-- Its refresh rate. -/
abbrev IndexedMode.rate (x : IndexedMode) : ℕ := x.1.vrefresh.toNat

theorem best_rate_le (first : IndexedMode) (l : List IndexedMode) :
    ∀ y ∈ first :: l, y.rate ≤ (Search.best isHigher first l).rate := by
  intro y hy
  refine Nat.le_of_not_lt (Search.best_not_beaten (fun y z => z.rate < y.rate) ?_ ?_ ?_
    first l y hy)
  · intro y z w hyz hwy
    simp only [isHigher, decide_eq_true_eq, BitVec.lt_def] at hyz
    rcases hyz with hlt | ⟨heq, -⟩
    · exact Nat.lt_trans hlt hwy
    · have hrate : y.rate = z.rate := congrArg BitVec.toNat heq
      exact hrate ▸ hwy
  · exact fun y => Nat.lt_irrefl _
  · intro y z hyz
    simp only [isHigher, decide_eq_false_iff_not, not_or, BitVec.lt_def] at hyz
    exact hyz.1

theorem bestOf_rate_le (h : Search.bestOf isFaster l = some x) : ∀ y ∈ l, y.rate ≤ x.rate := by
  intro y hy
  refine Nat.le_of_not_lt (Search.bestOf_not_beaten (fun y z => z.rate < y.rate) ?_ ?_ ?_
    h y hy)
  · intro y z w hyz hwy
    simp only [isFaster, decide_eq_true_eq, BitVec.lt_def] at hyz
    exact Nat.lt_trans hyz hwy
  · exact fun y => Nat.lt_irrefl _
  · intro y z hyz
    simp only [isFaster, decide_eq_false_iff_not, BitVec.lt_def] at hyz
    exact hyz

theorem refresh_eq_zero_iff : refresh = 0 ↔ refresh.toNat = 0 := by
  rw [← BitVec.toNat_inj]
  rfl

theorem vrefresh_eq_iff : x.1.vrefresh = refresh ↔ x.rate = refresh.toNat := BitVec.toNat_inj.symm

theorem isMultiple_iff : isMultiple refresh x = true ↔
    refresh.toNat ≠ 0 ∧ refresh.toNat ∣ x.rate ∧ x.rate ≠ refresh.toNat := by
  have hmod : x.1.vrefresh % refresh = 0 ↔ refresh.toNat ∣ x.rate := by
    rw [Nat.dvd_iff_mod_eq_zero, ← BitVec.toNat_inj, BitVec.toNat_umod]
    rfl
  rw [isMultiple_def, ne_eq, refresh_eq_zero_iff, hmod, ne_eq, vrefresh_eq_iff]

theorem isExact_iff : isExact refresh x = true ↔
    refresh.toNat ≠ 0 ∧ x.rate = refresh.toNat ∧ drmIsPreferredFlags x.1.flags = true := by
  rw [isExact_def, ne_eq, refresh_eq_zero_iff, vrefresh_eq_iff]

/-- The mode that the second loop takes. -/
inductive Taken (refresh : BitVec 32) (l : List IndexedMode) (x : IndexedMode) : Prop
  | exact (mem : x ∈ l) (is : isExact refresh x = true)
  | multiple (mem : x ∈ l) (none : ∀ y ∈ l, isExact refresh y = false)
      (is : isMultiple refresh x = true)
      (largest : ∀ y ∈ l, isMultiple refresh y = true → y.rate ≤ x.rate)
  | highest (mem : x ∈ l) (none : ∀ y ∈ l, isExact refresh y = false)
      (noMultiple : ∀ y ∈ l, isMultiple refresh y = false)
      (largest : ∀ y ∈ l, y.rate ≤ x.rate)

theorem Taken.mem (h : Taken refresh l x) : x ∈ l := by
  cases h with
  | exact mem _ => exact mem
  | multiple mem _ _ _ => exact mem
  | highest mem _ _ _ => exact mem

/-- **What the second loop takes.** -/
theorem chooseModes_taken (refresh : BitVec 32) (first : IndexedMode) (rest : List IndexedMode) :
    Taken refresh (first :: rest) (chooseModes refresh (first :: rest) ⟨first, none⟩).taken := by
  by_cases hexact : ∃ x ∈ first :: rest, isExact refresh x = true
  · obtain ⟨x, hx, his, htaken⟩ := chooseModes_of_isExact ⟨first, none⟩ hexact
    rw [htaken]
    exact Taken.exact hx his
  have hnone : ∀ x ∈ first :: rest, isExact refresh x = false := fun x hx =>
    Bool.eq_false_iff.mpr fun h => hexact ⟨x, hx, h⟩
  rw [chooseModes_of_not_isExact _ hnone]
  unfold BestModes.taken
  have hmultiples : ((first :: rest).filter (isMultiple refresh)).foldl
      (Search.consider isFaster) none
      = Search.bestOf isFaster ((first :: rest).filter (isMultiple refresh)) := rfl
  simp only [hmultiples]
  cases hbest : Search.bestOf isFaster ((first :: rest).filter (isMultiple refresh)) with
  | some x =>
    obtain ⟨hx, his⟩ := List.mem_filter.mp (Search.bestOf_mem hbest)
    exact Taken.multiple hx hnone his fun y hy hmultiple =>
      bestOf_rate_le hbest y (List.mem_filter.mpr ⟨hy, hmultiple⟩)
  | none =>
    have hempty := List.filter_eq_nil_iff.mp (Search.bestOf_eq_none_iff.mp hbest)
    have hmem := Search.best_mem isHigher first (first :: rest)
    have hlargest := best_rate_le first (first :: rest)
    refine Taken.highest ?_ hnone (fun y hy => Bool.eq_false_iff.mpr (hempty y hy)) fun y hy =>
      hlargest y (List.mem_cons_of_mem _ hy)
    rcases List.mem_cons.mp hmem with heq | hin
    · rw [Option.getD_none, heq]
      exact List.mem_cons_self
    · exact hin

end

/-! ### The best timing -/

/-- The best refresh rate for a request: the same, else the largest multiple, else the highest. -/
def BestRate (rates : Set ℕ) (request rate : ℕ) : Prop :=
  (request ≠ 0 ∧ request ∈ rates → rate = request) ∧
    (request ≠ 0 ∧ request ∉ rates ∧ (∃ r ∈ rates, request ∣ r) →
      IsGreatest {r ∈ rates | request ∣ r} rate) ∧
    (request = 0 ∨ (∀ r ∈ rates, ¬request ∣ r) → IsGreatest rates rate)

/-- The modes of the resolution that a video gets. -/
def candidates (modes : List DrmModeModeInfo) (info : MdsHdmiTiming) : List DrmModeModeInfo :=
  modes.filter fun mode => mode.hasResolution (selectedResolution info)

/-- The timing of a mode, if possible with the resolution and the best refresh rate. -/
structure BestTiming (modes : List DrmModeModeInfo) (info timing : MdsHdmiTiming) : Prop where
  existing : ∃ i < modes.length, timing = drmHdmiSetTiming modes i
  resolution : candidates modes info ≠ [] →
    (timing.width, timing.height) = selectedResolution info
  rate : candidates modes info ≠ [] → ∃ rate : ℕ, timing.refresh = rate ∧
    BestRate {r | ∃ mode ∈ candidates modes info, mode.vrefresh.toNat = r} info.refresh.toNat rate

/-- If a mode has just the rate that is asked for, one with this rate has preferred flags, or the
rate is the highest of all and no mode has the rate 0. -/
def ExactCounts (modes : List DrmModeModeInfo) (info : MdsHdmiTiming) : Prop :=
  info.refresh ≠ 0 →
    (∃ mode ∈ candidates modes info, mode.vrefresh.toNat = info.refresh.toNat) →
    (∃ mode ∈ candidates modes info, mode.vrefresh.toNat = info.refresh.toNat ∧
      drmIsPreferredFlags mode.flags = true) ∨
    ∀ mode ∈ candidates modes info,
      mode.vrefresh.toNat ≠ 0 ∧ mode.vrefresh.toNat ≤ info.refresh.toNat

section

variable {refresh : BitVec 32} {l : List IndexedMode} {x : IndexedMode}

/-- The rates of the matched modes. -/
def rates (l : List IndexedMode) : Set ℕ := {r | ∃ x ∈ l, x.rate = r}

/-- **The rate that is taken** is the best exactly if a mode with just this rate counts. -/
theorem Taken.bestRate_iff (h : Taken refresh l x) : BestRate (rates l) refresh.toNat x.rate ↔
    (refresh.toNat ≠ 0 → refresh.toNat ∈ rates l →
      (∃ y ∈ l, y.rate = refresh.toNat ∧ drmIsPreferredFlags y.1.flags = true) ∨
      ∀ y ∈ l, y.rate ≠ 0 ∧ y.rate ≤ refresh.toNat) := by
  have hno : (∀ y ∈ l, isExact refresh y = false) → refresh.toNat ≠ 0 →
      ¬∃ y ∈ l, y.rate = refresh.toNat ∧ drmIsPreferredFlags y.1.flags = true := by
    rintro hnone hzero ⟨y, hy, hrate, hflags⟩
    exact absurd ((hnone y hy).symm.trans (isExact_iff.mpr ⟨hzero, hrate, hflags⟩))
      Bool.false_ne_true
  cases h with
  | exact mem is =>
    obtain ⟨hzero, hrate, hflags⟩ := isExact_iff.mp is
    refine iff_of_true ⟨fun _ => hrate, fun h => absurd ⟨x, mem, hrate⟩ h.2.1, fun h => ?_⟩
      fun _ _ => Or.inl ⟨x, mem, hrate, hflags⟩
    rcases h with h | h
    · exact absurd h hzero
    · exact absurd (dvd_of_eq hrate.symm) (h x.rate ⟨x, mem, rfl⟩)
  | multiple mem none is largest =>
    obtain ⟨hzero, hdvd, hne⟩ := isMultiple_iff.mp is
    by_cases hin : refresh.toNat ∈ rates l
    · refine iff_of_false (fun h => hne (h.1 ⟨hzero, hin⟩)) fun h => ?_
      rcases h hzero hin with hexact | hall
      · exact hno none hzero hexact
      · obtain ⟨hpos, hle⟩ := hall x mem
        exact hne (Nat.le_antisymm hle (Nat.le_of_dvd (Nat.pos_of_ne_zero hpos) hdvd))
    · refine iff_of_true
        ⟨fun h => absurd h.2 hin, fun _ => ⟨⟨⟨x, mem, rfl⟩, hdvd⟩, ?_⟩, fun h => ?_⟩
        fun _ h => absurd h hin
      · rintro r ⟨⟨y, hy, rfl⟩, hmultiple⟩
        exact largest y hy (isMultiple_iff.mpr ⟨hzero, hmultiple, fun h => hin ⟨y, hy, h⟩⟩)
      · rcases h with h | h
        · exact absurd h hzero
        · exact absurd hdvd (h x.rate ⟨x, mem, rfl⟩)
  | highest mem none noMultiple largest =>
    have hgreatest : IsGreatest (rates l) x.rate := by
      refine ⟨⟨x, mem, rfl⟩, ?_⟩
      rintro r ⟨y, hy, rfl⟩
      exact largest y hy
    have hmultiple : ∀ y ∈ l, refresh.toNat ≠ 0 → refresh.toNat ∣ y.rate →
        y.rate = refresh.toNat := by
      intro y hy hzero hdvd
      by_contra hne
      exact absurd ((noMultiple y hy).symm.trans (isMultiple_iff.mpr ⟨hzero, hdvd, hne⟩))
        Bool.false_ne_true
    by_cases hzero : refresh.toNat = 0
    · exact iff_of_true ⟨fun h => absurd hzero h.1, fun h => absurd hzero h.1, fun _ => hgreatest⟩
        fun h => absurd hzero h
    by_cases hin : refresh.toNat ∈ rates l
    · obtain ⟨z, hz, hrate⟩ := hin
      have hbest : BestRate (rates l) refresh.toNat x.rate ↔ x.rate = refresh.toNat := by
        refine ⟨fun h => h.1 ⟨hzero, z, hz, hrate⟩, fun h => ⟨fun _ => h, ?_, ?_⟩⟩
        · exact fun h => absurd ⟨z, hz, hrate⟩ h.2.1
        · exact fun _ => hgreatest
      rw [hbest]
      constructor
      · intro hx _ _
        refine Or.inr fun y hy => ⟨fun hy0 => ?_, hx ▸ largest y hy⟩
        have h0 := hmultiple y hy hzero (hy0 ▸ dvd_zero _)
        exact hzero (h0.symm.trans hy0)
      · intro h
        rcases h hzero ⟨z, hz, hrate⟩ with hexact | hall
        · exact absurd hexact (hno none hzero)
        · exact Nat.le_antisymm (hall x mem).2 (hrate ▸ largest z hz)
    · refine iff_of_true ⟨fun h => absurd h.2 hin, ?_, fun _ => hgreatest⟩ fun _ h => absurd h hin
      rintro ⟨-, -, r, ⟨y, hy, rfl⟩, hdvd⟩
      exact absurd ⟨y, hy, hmultiple y hy hzero hdvd⟩ hin

end

section

variable {modes : List DrmModeModeInfo} {info : MdsHdmiTiming}

theorem candidates_eq_nil_iff (h : modes.length ≤ hdmiTimingMax) :
    candidates modes info = [] ↔ matchModes (selectedResolution info) modes 0 0 = [] := by
  rw [List.eq_nil_iff_forall_not_mem, List.eq_nil_iff_forall_not_mem]
  exact forall_mem_matchModes _ h (P := fun _ => False)

theorem rates_matchModes (h : modes.length ≤ hdmiTimingMax) :
    {r | ∃ mode ∈ candidates modes info, mode.vrefresh.toNat = r}
      = rates (matchModes (selectedResolution info) modes 0 0) := by
  ext r
  exact exists_mem_matchModes _ h (P := fun mode => mode.vrefresh.toNat = r)

/-- An `unsigned int`, as bits. -/
theorem toNat_ofInt_refresh (h : 0 ≤ info.refresh) (hlt : info.refresh < 4294967296) :
    (BitVec.ofInt 32 info.refresh).toNat = info.refresh.toNat := by
  rw [BitVec.toNat_ofInt]
  exact congrArg Int.toNat (Int.emod_eq_of_lt h hlt)

theorem drmHdmiSetTiming_of_mem {resolution : Int × Int} {x : IndexedMode}
    (h : modes.length ≤ hdmiTimingMax) (hx : x ∈ matchModes resolution modes 0 0) :
    x.2 < modes.length ∧ drmHdmiSetTiming modes x.2 = x.1.setTiming := by
  obtain ⟨hi, -⟩ := (mem_matchModes h).mp hx
  obtain ⟨hlt, -⟩ := List.getElem?_eq_some_iff.mp hi
  refine ⟨hlt, ?_⟩
  unfold drmHdmiSetTiming
  rw [hi]

theorem hasResolution_setTiming {resolution : Int × Int} {mode : DrmMode}
    (h : mode.hasResolution resolution = true) :
    (mode.setTiming.width, mode.setTiming.height) = resolution := by
  simp only [DrmMode.hasResolution, decide_eq_true_eq] at h
  exact Prod.ext h.1.symm h.2.symm

/-- The timing of a matched mode is the best if its rate is. -/
theorem bestTiming_iff {x : IndexedMode} (hmax : modes.length ≤ hdmiTimingMax)
    (hx : x ∈ matchModes (selectedResolution info) modes 0 0) :
    BestTiming modes info (drmHdmiSetTiming modes x.2) ↔
      BestRate (rates (matchModes (selectedResolution info) modes 0 0)) info.refresh.toNat
        x.rate := by
  obtain ⟨hlt, htiming⟩ := drmHdmiSetTiming_of_mem hmax hx
  have hsome : candidates modes info ≠ [] := by
    rw [ne_eq, candidates_eq_nil_iff hmax]
    exact List.ne_nil_of_mem hx
  rw [← rates_matchModes hmax]
  constructor
  · intro h
    obtain ⟨rate, heq, hbest⟩ := h.rate hsome
    rw [htiming] at heq
    have hrate : x.rate = rate := Int.ofNat_inj.mp heq
    exact hrate ▸ hbest
  · intro h
    refine ⟨⟨x.2, hlt, rfl⟩, fun _ => ?_, fun _ => ⟨x.rate, ?_, h⟩⟩
    · rw [htiming]
      exact hasResolution_setTiming ((mem_matchModes hmax).mp hx).2
    · rw [htiming]
      rfl

theorem exactCounts_iff (hmax : modes.length ≤ hdmiTimingMax) (hrefresh : 0 ≤ info.refresh) :
    ExactCounts modes info ↔ (info.refresh.toNat ≠ 0 →
      info.refresh.toNat ∈ rates (matchModes (selectedResolution info) modes 0 0) →
      (∃ y ∈ matchModes (selectedResolution info) modes 0 0, y.rate = info.refresh.toNat ∧
        drmIsPreferredFlags y.1.flags = true) ∨
      ∀ y ∈ matchModes (selectedResolution info) modes 0 0,
        y.rate ≠ 0 ∧ y.rate ≤ info.refresh.toNat) := by
  have hzero : info.refresh ≠ 0 ↔ info.refresh.toNat ≠ 0 := by omega
  have hexact := exists_mem_matchModes (selectedResolution info) hmax
    (P := fun mode => mode.vrefresh.toNat = info.refresh.toNat ∧
      drmIsPreferredFlags mode.flags = true)
  have hall := forall_mem_matchModes (selectedResolution info) hmax
    (P := fun mode => mode.vrefresh.toNat ≠ 0 ∧ mode.vrefresh.toNat ≤ info.refresh.toNat)
  unfold ExactCounts candidates
  rw [hzero, hexact, hall, ← rates_matchModes hmax]
  rfl

/-- **The timing for a video** is the best exactly if a mode with just the rate counts. -/
theorem videoTiming_best_iff (hmax : modes.length ≤ hdmiTimingMax) {preferredModeIndex : ℕ}
    (hindex : preferredModeIndex < modes.length) (hrefresh : 0 ≤ info.refresh)
    (hlt : info.refresh < 4294967296) :
    BestTiming modes info (videoTiming modes preferredModeIndex info) ↔ ExactCounts modes info := by
  rw [exactCounts_iff hmax hrefresh]
  unfold videoTiming
  cases hmatched : matchModes (selectedResolution info) modes 0 0 with
  | nil =>
    have hnone := (candidates_eq_nil_iff hmax).mpr hmatched
    refine iff_of_true ⟨⟨_, hindex, rfl⟩, fun h => absurd hnone h, fun h => absurd hnone h⟩ ?_
    rintro - ⟨x, hx, -⟩
    exact absurd hx List.not_mem_nil
  | cons first rest =>
    have htaken := chooseModes_taken (BitVec.ofInt 32 info.refresh) first rest
    have hrate := htaken.bestRate_iff
    have hmem : (chooseModes (BitVec.ofInt 32 info.refresh) (first :: rest) ⟨first, none⟩).taken ∈
        matchModes (selectedResolution info) modes 0 0 := by
      rw [hmatched]
      exact htaken.mem
    rw [toNat_ofInt_refresh hrefresh hlt] at hrate
    exact (bestTiming_iff hmax hmem).trans (hmatched ▸ hrate)

end

theorem drmHdmiGetTiming_of_connected {resources : DrmResources} {c : DrmContext}
    {connector : DrmConnector} (hsupported : c.hdmiSupported = true)
    (hconnected : c.connected = true) (hvalid : c.modeValid = false)
    (hconnector : (getHdmiConnector resources c).1 = some connector) (mode : Int)
    (info : MdsHdmiTiming) : drmHdmiGetTiming resources mode info c =
      (true, if mode ≠ drmHdmiVideoExt then
          drmHdmiSetTiming connector.modes c.preferredModeIndex
        else videoTiming connector.modes c.preferredModeIndex info,
        (getHdmiConnector resources c).2) := by
  have hindex : (getHdmiConnector resources c).2.preferredModeIndex = c.preferredModeIndex := rfl
  unfold drmHdmiGetTiming
  rw [if_neg (by simp [hsupported, hconnected]), if_neg (by simp [hvalid])]
  rw [← Prod.mk.eta (p := getHdmiConnector resources c)]
  simp only [hconnector]
  split
  · rfl
  · rfl

/-- **The timing for a video**, for every connected connector with at most `HDMI_TIMING_MAX` modes,
is the best one exactly if a mode with just the rate that is asked for counts. -/
theorem getTiming_best_iff (resources : DrmResources) (c : DrmContext) (connector : DrmConnector)
    (info : MdsHdmiTiming) (hsupported : c.hdmiSupported = true) (hconnected : c.connected = true)
    (hvalid : c.modeValid = false)
    (hconnector : (getHdmiConnector resources c).1 = some connector)
    (hmax : connector.modes.length ≤ hdmiTimingMax)
    (hindex : c.preferredModeIndex < connector.modes.length)
    (hrefresh : 0 ≤ info.refresh) (hlt : info.refresh < 4294967296) :
    (drmHdmiGetTiming resources drmHdmiVideoExt info c).1 = true ∧
      (BestTiming connector.modes info (drmHdmiGetTiming resources drmHdmiVideoExt info c).2.1 ↔
        ExactCounts connector.modes info) := by
  rw [drmHdmiGetTiming_of_connected hsupported hconnected hvalid hconnector]
  exact ⟨rfl, videoTiming_best_iff hmax hindex hrefresh hlt⟩

/-- 720p at 60 Hz and at 50 Hz, the latter with these flags. -/
def twoRates (flags : BitVec 32) : List DrmModeModeInfo :=
  [.simple 1280 720 60 0 0, .simple 1280 720 50 flags 0]

/-- The mode at 50 Hz is 16:9. -/
theorem getTiming_best_of_wide : BestTiming (twoRates flagRatio14) ⟨50, 1280, 720, 0, 0⟩
    (drmHdmiGetTiming none drmHdmiVideoExt ⟨50, 1280, 720, 0, 0⟩
      (.simple (twoRates flagRatio14))).2.1 :=
  (getTiming_best_iff none (.simple (twoRates flagRatio14))
    ⟨drmModeConnectorDvid, twoRates flagRatio14, []⟩ ⟨50, 1280, 720, 0, 0⟩ rfl rfl rfl rfl
    (by decide) (by decide) (by decide) (by decide)).2.mpr fun _ _ =>
      Or.inl ⟨.simple 1280 720 50 flagRatio14 0, by decide, rfl, by decide⟩

/-- A video with 50 frames, and a mode at 50 Hz without flags: the mode at 60 Hz is taken. -/
theorem exact_rate_is_missed : ¬∀ (resources : DrmResources) (c : DrmContext)
    (connector : DrmConnector) (info : MdsHdmiTiming), c.hdmiSupported = true →
      c.connected = true → c.modeValid = false →
      (getHdmiConnector resources c).1 = some connector →
      connector.modes.length ≤ hdmiTimingMax →
      c.preferredModeIndex < connector.modes.length → 0 ≤ info.width → 0 ≤ info.height →
      0 ≤ info.refresh → info.refresh < 4294967296 →
      BestTiming connector.modes info
        (drmHdmiGetTiming resources drmHdmiVideoExt info c).2.1 := by
  intro h
  have hbest := h none (.simple (twoRates 0)) ⟨drmModeConnectorDvid, twoRates 0, []⟩
    ⟨50, 1280, 720, 0, 0⟩ rfl rfl rfl rfl (by decide) (by decide) (by decide) (by decide)
    (by decide) (by decide)
  obtain ⟨rate, heq, hrate⟩ := hbest.rate (by decide)
  have hsixty : (drmHdmiGetTiming none drmHdmiVideoExt ⟨50, 1280, 720, 0, 0⟩
      (.simple (twoRates 0))).2.1.refresh = 60 := by decide
  have hfifty := hrate.1 ⟨by decide, .simple 1280 720 50 0 0, by decide, rfl⟩
  rw [hfifty] at heq
  exact absurd (hsixty.symm.trans heq) (by decide)

end CtpCommon.Display
