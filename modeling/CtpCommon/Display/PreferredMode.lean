import CtpCommon.Display.Connector
import CtpCommon.Lib.Search

/-!
# The preferred mode

`drm_select_preferredmode` of `drm_hdmi.cpp`: one loop notes four candidates, and stops at the first
mode typed PREFERRED.

* `PreferredScan`, `selectLoop`, `drmSelectPreferredmode` — the locals, the loop, the function;
* `Noted`, `Seen` — what the locals say of the modes that the loop has seen;
* `selectLoop_eq`, `seen_scan` — **PROVED**: so they do, for the modes before the first PREFERRED
  one;
* `PreferredRule` — the order in which a mode is preferred;
* `preferredRule_iff` — **PROVED**: it is followed exactly if no mode that the loop has not seen
  would have been taken.
-/

namespace CtpCommon.Display

/-! ### The function -/

/-- `PREFERRED_VREFRESH`. -/
def preferredVrefresh : BitVec 32 := 60

namespace DrmMode

def isAt60 (mode : DrmMode) : Bool := mode.vrefresh = preferredVrefresh

def size (mode : DrmMode) : ℕ × ℕ := (mode.hdisplay.toNat, mode.vdisplay.toNat)

def is720P60 (mode : DrmMode) : Bool := mode.size = (1280, 720) ∧ mode.isAt60

def is1080P60 (mode : DrmMode) : Bool := mode.size = (1920, 1080) ∧ mode.isAt60

end DrmMode

def DrmModeModeInfo.isPreferred (mode : DrmModeModeInfo) : Bool :=
  mode.type &&& drmModeTypePreferred ≠ 0

/-- Larger in both dimensions. -/
def exceeds (x y : ℕ × ℕ) : Bool := y.1 < x.1 ∧ y.2 < x.2

/-- The locals of `drm_select_preferredmode`; `display` is `hdisplay` and `vdisplay`, and an index
of `-1` is `none`. -/
structure PreferredScan where
  indexPreferred : Option ℕ
  display : ℕ × ℕ
  index720P : Option ℕ
  index1080P : Option ℕ
  indexMax : Option ℕ

namespace PreferredScan

def start : PreferredScan := ⟨none, (0, 0), none, none, none⟩

/-- The first index, or a later one with preferred flags. -/
def noteIndex (index : Option ℕ) (flags : BitVec 32) (i : ℕ) : Option ℕ :=
  if index = none then some i else if drmIsPreferredFlags flags then some i else index

/-- A round of the loop, for a mode that is not typed PREFERRED. -/
def see (s : PreferredScan) (mode : DrmMode) (i : ℕ) : PreferredScan where
  indexPreferred := s.indexPreferred
  index720P := if mode.is720P60 then noteIndex s.index720P mode.flags i else s.index720P
  index1080P := if mode.is1080P60 then noteIndex s.index1080P mode.flags i else s.index1080P
  display := if exceeds mode.size s.display ∧ mode.isAt60 then mode.size else s.display
  indexMax :=
    if exceeds mode.size s.display ∧ mode.isAt60 then some i
    else if mode.size = s.display ∧ mode.isAt60 then
      if drmIsPreferredFlags mode.flags then some i else s.indexMax
    else s.indexMax

/-- The loop stops at the first mode typed PREFERRED. -/
def selectLoop : List DrmModeModeInfo → ℕ → PreferredScan → PreferredScan
  | [], _, s => s
  | mode :: rest, i, s =>
      if mode.isPreferred then { s with indexPreferred := some i }
      else selectLoop rest (i + 1) (s.see mode.toDrmMode i)

/-- After the loop. -/
def choose (modes : List DrmModeModeInfo) (s : PreferredScan) : ℕ :=
  let index :=
    if s.indexPreferred.any fun i => modes[i]?.any fun mode => mode.isAt60 then s.indexPreferred
    else if s.index1080P ≠ none then s.index1080P
    else if s.index720P ≠ none then s.index720P
    else s.indexMax
  index.getD 0

end PreferredScan

open PreferredScan

def preferredIndex (modes : List DrmModeModeInfo) : ℕ := (selectLoop modes 0 start).choose modes

/-- `drm_select_preferredmode`. -/
def drmSelectPreferredmode (connector : DrmConnector) (c : DrmContext) : DrmContext :=
  { c with preferredModeIndex := preferredIndex connector.modes }

/-! ### The modes that the loop sees -/

/-- The modes before the first one typed PREFERRED. -/
def beforePreferred (modes : List DrmModeModeInfo) : List DrmModeModeInfo :=
  modes.takeWhile fun mode => !mode.isPreferred

/-- The sizes of the modes at 60 Hz. -/
def sizes (modes : List DrmModeModeInfo) : List (ℕ × ℕ) :=
  (modes.filter fun mode => mode.isAt60).map fun mode => mode.size

/-- The sizes that exceed every such size before them. -/
def sizeRecords (modes : List DrmModeModeInfo) : List (ℕ × ℕ) :=
  Search.records exceeds (0, 0) (sizes modes)

/-- A mode at 60 Hz without a picture, with preferred flags. -/
def DrmMode.isEmpty60 (mode : DrmMode) : Bool :=
  mode.size = (0, 0) ∧ mode.isAt60 ∧ drmIsPreferredFlags mode.flags

/-- An index of the modes that pass a test, if there is one. -/
def Noted (test : DrmMode → Bool) (modes : List DrmModeModeInfo) : Option ℕ → Prop
  | none => ∀ mode ∈ modes, test mode.toDrmMode = false
  | some i => ∃ mode, modes[i]? = some mode ∧ test mode.toDrmMode = true

/-- An index of the largest mode. -/
def MaxNoted (modes : List DrmModeModeInfo) (display : ℕ × ℕ) : Option ℕ → Prop
  | none => display = (0, 0) ∧ ∀ mode ∈ modes, mode.isEmpty60 = false
  | some i => ∃ mode, modes[i]? = some mode ∧ mode.isAt60 = true ∧ mode.size = display ∧
      (display = (0, 0) → mode.isEmpty60 = true)

/-- The locals after a list of modes. -/
structure Seen (modes : List DrmModeModeInfo) (s : PreferredScan) : Prop where
  preferred : s.indexPreferred = none
  noted720P : Noted DrmMode.is720P60 modes s.index720P
  noted1080P : Noted DrmMode.is1080P60 modes s.index1080P
  display : s.display = Search.best exceeds (0, 0) (sizes modes)
  max : MaxNoted modes s.display s.indexMax

def scan (modes : List DrmModeModeInfo) : PreferredScan :=
  modes.zipIdx.foldl (fun s x => s.see x.1.toDrmMode x.2) start

section

variable {modes : List DrmModeModeInfo} {mode : DrmModeModeInfo} {s : PreferredScan} {i : ℕ}

theorem selectLoop_eq (modes : List DrmModeModeInfo) (i : ℕ) (s : PreferredScan) :
    selectLoop modes i s =
      let t := ((beforePreferred modes).zipIdx i).foldl (fun s x => s.see x.1.toDrmMode x.2) s
      { t with indexPreferred :=
          if (modes.find? fun mode => mode.isPreferred).isSome
          then some (i + (beforePreferred modes).length) else t.indexPreferred } := by
  induction modes generalizing i s with
  | nil => rfl
  | cons mode rest ih =>
    unfold selectLoop beforePreferred
    by_cases hpreferred : mode.isPreferred = true
    · rw [if_pos hpreferred, List.takeWhile_cons_of_neg (by simp [hpreferred]),
        List.find?_cons_of_pos hpreferred]
      rfl
    · rw [if_neg hpreferred, List.takeWhile_cons_of_pos (by simp [hpreferred]),
        List.find?_cons_of_neg hpreferred, ih]
      simp only [beforePreferred, List.zipIdx_cons, List.foldl_cons, List.length_cons,
        Nat.add_assoc, Nat.add_comm 1]

theorem getElem?_beforePreferred (h : (beforePreferred modes)[i]? = some mode) :
    modes[i]? = some mode := by
  have hprefix : beforePreferred modes <+: modes := List.takeWhile_prefix _
  obtain ⟨rest, hrest⟩ := hprefix
  obtain ⟨hi, -⟩ := List.getElem?_eq_some_iff.mp h
  rw [← hrest, List.getElem?_append_left hi]
  exact h

/-- A mode that is seen, or the first one typed PREFERRED. -/
theorem getElem?_zero_cases (h : modes[0]? = some mode) :
    mode ∈ beforePreferred modes ∨ modes.find? (fun mode => mode.isPreferred) = some mode := by
  cases modes with
  | nil => exact absurd h.symm (Option.some_ne_none mode)
  | cons first rest =>
    obtain rfl := Option.some.inj h
    unfold beforePreferred
    by_cases hpreferred : first.isPreferred = true
    · exact Or.inr (List.find?_cons_of_pos hpreferred)
    · rw [List.takeWhile_cons_of_pos (by simp [hpreferred])]
      exact Or.inl List.mem_cons_self

/-! ### What the locals say -/

theorem getElem?_concat (h : modes[i]? = some mode) (x : DrmModeModeInfo) :
    (modes ++ [x])[i]? = some mode := by
  obtain ⟨hi, -⟩ := List.getElem?_eq_some_iff.mp h
  rw [List.getElem?_append_left hi]
  exact h

theorem Noted.concat {test : DrmMode → Bool} {index : Option ℕ} (h : Noted test modes index)
    (mode : DrmModeModeInfo) : Noted test (modes ++ [mode])
      (if test mode.toDrmMode then noteIndex index mode.flags modes.length else index) := by
  by_cases htest : test mode.toDrmMode = true
  · have hnew : Noted test (modes ++ [mode]) (some modes.length) := ⟨mode, by simp, htest⟩
    rw [if_pos htest]
    unfold noteIndex
    cases index with
    | none => exact hnew
    | some i =>
      rw [if_neg (Option.some_ne_none i)]
      by_cases hflags : drmIsPreferredFlags mode.flags = true
      · rw [if_pos hflags]
        exact hnew
      · rw [if_neg hflags]
        obtain ⟨m, hm, hpasses⟩ := h
        exact ⟨m, getElem?_concat hm mode, hpasses⟩
  · rw [if_neg htest]
    cases index with
    | none =>
      intro m hm
      rcases List.mem_append.mp hm with hm | hm
      · exact h m hm
      · rw [List.mem_singleton.mp hm]
        exact Bool.eq_false_iff.mpr htest
    | some i =>
      obtain ⟨m, hm, hpasses⟩ := h
      exact ⟨m, getElem?_concat hm mode, hpasses⟩

theorem sizes_append (modes rest : List DrmModeModeInfo) :
    sizes (modes ++ rest) = sizes modes ++ sizes rest := by
  unfold sizes
  rw [List.filter_append, List.map_append]

theorem best_concat (modes : List DrmModeModeInfo) (mode : DrmModeModeInfo) :
    Search.best exceeds (0, 0) (sizes (modes ++ [mode]))
      = if exceeds mode.size (Search.best exceeds (0, 0) (sizes modes)) ∧ mode.isAt60 then mode.size
        else Search.best exceeds (0, 0) (sizes modes) := by
  rw [sizes_append, Search.best, List.foldl_append]
  by_cases hat : mode.isAt60 = true
  · simp only [sizes, List.filter_cons, hat, if_true, List.filter_nil, List.map_cons, List.map_nil,
      List.foldl_cons, List.foldl_nil, and_true, Search.pick, Search.best]
  · simp only [sizes, List.filter_cons, hat, Bool.false_eq_true, if_false, List.filter_nil,
      List.map_nil, List.foldl_nil, and_false, Search.best]

theorem not_isEmpty60_of_exceeds {y : ℕ × ℕ} (h : exceeds mode.size y = true) :
    mode.size ≠ (0, 0) := by
  intro hzero
  rw [hzero] at h
  simp [exceeds] at h

theorem MaxNoted.concat {display : ℕ × ℕ} {index : Option ℕ} (h : MaxNoted modes display index)
    (mode : DrmModeModeInfo) : MaxNoted (modes ++ [mode])
      (if exceeds mode.size display ∧ mode.isAt60 then mode.size else display)
      (if exceeds mode.size display ∧ mode.isAt60 then some modes.length
        else if mode.size = display ∧ mode.isAt60 then
          if drmIsPreferredFlags mode.flags then some modes.length else index
        else index) := by
  have hold : ∀ {i}, MaxNoted modes display (some i) →
      MaxNoted (modes ++ [mode]) display (some i) := by
    rintro i ⟨m, hm, hrest⟩
    exact ⟨m, getElem?_concat hm mode, hrest⟩
  have hkeep : (mode.isEmpty60 = true → display ≠ (0, 0)) →
      MaxNoted (modes ++ [mode]) display index := by
    intro hempty
    cases index with
    | some i => exact hold h
    | none =>
      refine ⟨h.1, fun m hm => ?_⟩
      rcases List.mem_append.mp hm with hm | hm
      · exact h.2 m hm
      · rw [List.mem_singleton.mp hm]
        exact Bool.eq_false_iff.mpr fun he => hempty he h.1
  by_cases hlarger : exceeds mode.size display = true ∧ mode.isAt60 = true
  · rw [if_pos hlarger, if_pos hlarger]
    exact ⟨mode, by simp, hlarger.2, rfl,
      fun hzero => absurd hzero (not_isEmpty60_of_exceeds hlarger.1)⟩
  rw [if_neg hlarger, if_neg hlarger]
  by_cases hsame : mode.size = display ∧ mode.isAt60 = true
  · rw [if_pos hsame]
    by_cases hflags : drmIsPreferredFlags mode.flags = true
    · rw [if_pos hflags]
      exact ⟨mode, by simp, hsame.2, hsame.1,
        fun hzero => by simp [DrmMode.isEmpty60, hsame, hzero, hflags]⟩
    · rw [if_neg hflags]
      exact hkeep fun he => by simp [DrmMode.isEmpty60, hflags] at he
  · rw [if_neg hsame]
    refine hkeep fun he hzero => hsame ?_
    simp only [DrmMode.isEmpty60, decide_eq_true_eq] at he
    exact ⟨he.1.trans hzero.symm, he.2.1⟩

theorem scan_concat (modes : List DrmModeModeInfo) (mode : DrmModeModeInfo) :
    scan (modes ++ [mode]) = (scan modes).see mode.toDrmMode modes.length := by
  unfold scan
  rw [List.zipIdx_append, List.foldl_append]
  simp

/-- **The locals after the loop**, for the modes that it has seen. -/
theorem seen_scan (modes : List DrmModeModeInfo) : Seen modes (scan modes) := by
  induction modes using List.reverseRecOn with
  | nil =>
    refine ⟨rfl, fun _ hm => ?_, fun _ hm => ?_, rfl, rfl, fun _ hm => ?_⟩
    · exact absurd hm List.not_mem_nil
    · exact absurd hm List.not_mem_nil
    · exact absurd hm List.not_mem_nil
  | append_singleton modes mode ih =>
    rw [scan_concat]
    refine ⟨ih.preferred, ih.noted720P.concat mode, ih.noted1080P.concat mode, ?_,
      ih.max.concat mode⟩
    rw [best_concat, ← ih.display]
    rfl

theorem selectLoop_start (modes : List DrmModeModeInfo) : selectLoop modes 0 start
    = { scan (beforePreferred modes) with
        indexPreferred :=
          if (modes.find? fun mode => mode.isPreferred).isSome
          then some (beforePreferred modes).length else none } := by
  rw [selectLoop_eq, Nat.zero_add]
  have hnone := (seen_scan (beforePreferred modes)).preferred
  unfold scan at hnone
  simp only [scan, hnone]

theorem getElem?_length_beforePreferred (modes : List DrmModeModeInfo) :
    modes[(beforePreferred modes).length]? = modes.find? fun mode => mode.isPreferred := by
  induction modes with
  | nil => rfl
  | cons mode rest ih =>
    unfold beforePreferred
    by_cases hpreferred : mode.isPreferred = true
    · rw [List.takeWhile_cons_of_neg (by simp [hpreferred]), List.find?_cons_of_pos hpreferred]
      rfl
    · rw [List.takeWhile_cons_of_pos (by simp [hpreferred]), List.find?_cons_of_neg hpreferred]
      exact ih

theorem findIdx?_isPreferred (h : modes.find? (fun mode => mode.isPreferred) = some mode) :
    modes.findIdx? (fun mode => mode.isPreferred) = some (beforePreferred modes).length := by
  induction modes with
  | nil => exact absurd h.symm (Option.some_ne_none mode)
  | cons first rest ih =>
    unfold beforePreferred
    rw [List.findIdx?_cons]
    by_cases hpreferred : first.isPreferred = true
    · rw [if_pos hpreferred, List.takeWhile_cons_of_neg (by simp [hpreferred])]
      rfl
    · rw [List.find?_cons_of_neg hpreferred] at h
      rw [if_neg hpreferred, ih h, List.takeWhile_cons_of_pos (by simp [hpreferred])]
      rfl

/-! ### The order of preference -/

/-- The first mode typed PREFERRED is at 60 Hz. -/
def prefersFirst (modes : List DrmModeModeInfo) : Bool :=
  (modes.find? fun mode => mode.isPreferred).any fun mode => mode.isAt60

/-- The mode that is taken, if it is not the one typed PREFERRED. -/
inductive Chosen (modes : List DrmModeModeInfo) : ℕ → Prop
  | full (i : ℕ) (mode : DrmModeModeInfo) (seen : (beforePreferred modes)[i]? = some mode)
      (is : mode.is1080P60 = true) : Chosen modes i
  | half (i : ℕ) (mode : DrmModeModeInfo) (seen : (beforePreferred modes)[i]? = some mode)
      (is : mode.is720P60 = true) (no1080P : ∀ m ∈ beforePreferred modes, m.is1080P60 = false) :
      Chosen modes i
  | largest (i : ℕ) (mode : DrmModeModeInfo) (seen : (beforePreferred modes)[i]? = some mode)
      (at60 : mode.isAt60 = true)
      (size : mode.size = Search.best exceeds (0, 0) (sizes (beforePreferred modes)))
      (no1080P : ∀ m ∈ beforePreferred modes, m.is1080P60 = false)
      (no720P : ∀ m ∈ beforePreferred modes, m.is720P60 = false)
      (noted : sizeRecords (beforePreferred modes) ≠ [] ∨
        ∃ m ∈ beforePreferred modes, m.isEmpty60 = true) : Chosen modes i
  | first (no1080P : ∀ m ∈ beforePreferred modes, m.is1080P60 = false)
      (no720P : ∀ m ∈ beforePreferred modes, m.is720P60 = false)
      (unnoted : ¬(sizeRecords (beforePreferred modes) ≠ [] ∨
        ∃ m ∈ beforePreferred modes, m.isEmpty60 = true)) : Chosen modes 0

theorem preferredIndex_of_prefersFirst (h : prefersFirst modes = true) :
    modes.findIdx? (fun mode => mode.isPreferred) = some (preferredIndex modes) := by
  unfold prefersFirst at h
  obtain ⟨mode, hfind, hat⟩ := Option.any_eq_true _ _ |>.mp h
  unfold preferredIndex choose
  rw [findIdx?_isPreferred hfind, selectLoop_start, hfind]
  simp [getElem?_length_beforePreferred, hfind, hat]

theorem preferredIndex_of_not_prefersFirst (h : prefersFirst modes = false) :
    preferredIndex modes = (if (scan (beforePreferred modes)).index1080P ≠ none
      then (scan (beforePreferred modes)).index1080P
      else if (scan (beforePreferred modes)).index720P ≠ none
      then (scan (beforePreferred modes)).index720P
      else (scan (beforePreferred modes)).indexMax).getD 0 := by
  unfold prefersFirst at h
  unfold preferredIndex choose
  rw [selectLoop_start]
  cases hfind : modes.find? fun mode => mode.isPreferred with
  | none => simp
  | some mode =>
    rw [hfind] at h
    simp only [Option.isSome_some, if_true, Option.any_some, getElem?_length_beforePreferred, hfind]
    rw [Option.any_some] at h
    simp [h]

/-- The best size that is seen is none, exactly if no size is a record. -/
theorem best_eq_zero_iff (modes : List DrmModeModeInfo) :
    Search.best exceeds (0, 0) (sizes modes) = (0, 0) ↔ sizeRecords modes = [] := by
  constructor
  · intro hzero
    by_contra hrecords
    have hpositive : Search.best exceeds (0, 0) (sizes modes) ≠ (0, 0) := by
      refine Search.best_above (fun x => x ≠ (0, 0)) ?_ hrecords
      rintro y z hy rfl
      simp [exceeds] at hy
    exact hpositive hzero
  · exact Search.best_of_records_eq_nil

/-- **What is taken**, if it is not the mode typed PREFERRED. -/
theorem chosen (h : prefersFirst modes = false) : Chosen modes (preferredIndex modes) := by
  rw [preferredIndex_of_not_prefersFirst h]
  obtain ⟨-, h720P, h1080P, hdisplay, hmax⟩ := seen_scan (beforePreferred modes)
  generalize (scan (beforePreferred modes)).display = display at hdisplay hmax
  subst hdisplay
  cases hfull : (scan (beforePreferred modes)).index1080P with
  | some i =>
    rw [hfull] at h1080P
    obtain ⟨mode, hseen, his⟩ := h1080P
    rw [if_pos (Option.some_ne_none i)]
    exact Chosen.full i mode hseen his
  | none =>
    rw [hfull] at h1080P
    rw [if_neg (not_not.mpr rfl)]
    cases hhalf : (scan (beforePreferred modes)).index720P with
    | some i =>
      rw [hhalf] at h720P
      obtain ⟨mode, hseen, his⟩ := h720P
      rw [if_pos (Option.some_ne_none i)]
      exact Chosen.half i mode hseen his h1080P
    | none =>
      rw [hhalf] at h720P
      rw [if_neg (not_not.mpr rfl)]
      cases hlargest : (scan (beforePreferred modes)).indexMax with
      | some i =>
        rw [hlargest] at hmax
        obtain ⟨mode, hseen, hat, hsize, hempty⟩ := hmax
        refine Chosen.largest i mode hseen hat hsize h1080P h720P ?_
        by_cases hrecords : sizeRecords (beforePreferred modes) = []
        · exact Or.inr ⟨mode, List.mem_of_getElem? hseen,
            hempty ((best_eq_zero_iff _).mpr hrecords)⟩
        · exact Or.inl hrecords
      | none =>
        rw [hlargest] at hmax
        refine Chosen.first h1080P h720P ?_
        rintro (hrecords | ⟨m, hm, hempty⟩)
        · exact hrecords ((best_eq_zero_iff _).mp hmax.1)
        · exact absurd ((hmax.2 m hm).symm.trans hempty) Bool.false_ne_true

theorem is1080P60_at60 {mode : DrmMode} (h : mode.is1080P60 = true) : mode.isAt60 = true := by
  simp only [DrmMode.is1080P60, decide_eq_true_eq] at h
  exact h.2

theorem is720P60_at60 {mode : DrmMode} (h : mode.is720P60 = true) : mode.isAt60 = true := by
  simp only [DrmMode.is720P60, decide_eq_true_eq] at h
  exact h.2

/-- A mode that is taken at 60 Hz has been seen. -/
theorem Chosen.mem_beforePreferred (h : Chosen modes i) (hfirst : prefersFirst modes = false)
    (hmode : modes[i]? = some mode) (hat : mode.isAt60 = true) : mode ∈ beforePreferred modes := by
  have hseen : ∀ {m}, (beforePreferred modes)[i]? = some m → mode ∈ beforePreferred modes := by
    intro m hm
    rw [getElem?_beforePreferred hm] at hmode
    exact Option.some.inj hmode ▸ List.mem_of_getElem? hm
  cases h with
  | full _ _ seen _ => exact hseen seen
  | half _ _ seen _ _ => exact hseen seen
  | largest _ _ seen _ _ _ _ _ => exact hseen seen
  | first _ _ _ =>
    rcases getElem?_zero_cases hmode with hmem | hfind
    · exact hmem
    · unfold prefersFirst at hfirst
      rw [hfind, Option.any_some] at hfirst
      exact absurd (hfirst.symm.trans hat) Bool.false_ne_true

theorem Chosen.lt_length (h : Chosen modes i) (hne : modes ≠ []) : i < modes.length := by
  have hseen : ∀ {m}, (beforePreferred modes)[i]? = some m → i < modes.length := fun hm =>
    (List.getElem?_eq_some_iff.mp (getElem?_beforePreferred hm)).1
  cases h with
  | full _ _ seen _ => exact hseen seen
  | half _ _ seen _ _ => exact hseen seen
  | largest _ _ seen _ _ _ _ _ => exact hseen seen
  | first _ _ _ => exact List.length_pos_of_ne_nil hne

/-- **The index is one of the list.** -/
theorem preferredIndex_lt (hne : modes ≠ []) : preferredIndex modes < modes.length := by
  cases hfirst : prefersFirst modes with
  | true =>
    have hindex := preferredIndex_of_prefersFirst hfirst
    exact (List.findIdx?_eq_some_iff_getElem.mp hindex).1
  | false => exact (chosen hfirst).lt_length hne

/-- The largest size that is seen is the largest of all exactly if no later size is a record. -/
theorem largest_iff (modes : List DrmModeModeInfo) :
    (∀ m ∈ modes, m.isAt60 = true → exceeds m.size
        (Search.best exceeds (0, 0) (sizes (beforePreferred modes))) = false) ↔
      sizeRecords modes = sizeRecords (beforePreferred modes) := by
  have hsplit : beforePreferred modes ++ modes.dropWhile (fun mode => !mode.isPreferred) = modes :=
    List.takeWhile_append_dropWhile
  have hseen : ∀ x ∈ sizes (beforePreferred modes),
      exceeds x (Search.best exceeds (0, 0) (sizes (beforePreferred modes))) = false := by
    intro x hx
    refine Bool.eq_false_iff.mpr (Search.best_not_beaten (fun x y => exceeds x y = true)
      ?_ ?_ ?_ (0, 0) (sizes (beforePreferred modes)) x (List.mem_cons_of_mem _ hx))
    · intro y z w hyz hwy
      simp only [exceeds, decide_eq_true_eq] at hyz hwy ⊢
      omega
    · intro y
      simp [exceeds]
    · intro y z hyz
      exact Bool.eq_false_iff.mp hyz
  have hall : (∀ m ∈ modes, m.isAt60 = true → exceeds m.size
        (Search.best exceeds (0, 0) (sizes (beforePreferred modes))) = false) ↔
      ∀ x ∈ sizes modes,
        exceeds x (Search.best exceeds (0, 0) (sizes (beforePreferred modes))) = false := by
    unfold sizes
    simp only [List.mem_map, List.mem_filter, forall_exists_index, and_imp]
    constructor
    · rintro h x m hm hat rfl
      exact h m hm hat
    · exact fun h m hm hat => h _ m hm hat rfl
  have hsizes := sizes_append (beforePreferred modes) (modes.dropWhile fun m => !m.isPreferred)
  rw [hsplit] at hsizes
  unfold sizeRecords
  rw [hall, hsizes, Search.records_append, List.append_right_eq_self, Search.records_eq_nil_iff,
    List.forall_mem_append]
  exact and_iff_right hseen

end

/-- The order of preference, for an index: the first mode typed PREFERRED, if it is at 60 Hz; else
1080p, else 720p, else the largest size, all at 60 Hz; else index 0. -/
def PreferredRule (modes : List DrmModeModeInfo) (i : ℕ) : Prop :=
  i < modes.length ∧
    if prefersFirst modes then modes.findIdx? (fun mode => mode.isPreferred) = some i
    else ∃ mode, modes[i]? = some mode ∧
      if ∃ m ∈ modes, m.is1080P60 = true then mode.is1080P60 = true
      else if ∃ m ∈ modes, m.is720P60 = true then mode.is720P60 = true
      else if ∃ m ∈ modes, m.isAt60 = true then
        mode.isAt60 = true ∧ ∀ m ∈ modes, m.isAt60 = true → exceeds m.size mode.size = false
      else i = 0

/-- The modes before the first one typed PREFERRED are enough to follow the order. -/
def SeesEnough (modes : List DrmModeModeInfo) : Prop :=
  prefersFirst modes = true ∨
    if ∃ m ∈ modes, m.is1080P60 = true then ∃ m ∈ beforePreferred modes, m.is1080P60 = true
    else if ∃ m ∈ modes, m.is720P60 = true then ∃ m ∈ beforePreferred modes, m.is720P60 = true
    else if ∃ m ∈ modes, m.isAt60 = true then
      if sizeRecords (beforePreferred modes) ≠ [] ∨
          ∃ m ∈ beforePreferred modes, m.isEmpty60 = true then
        -- No later mode at 60 Hz is larger than all the records before it.
        sizeRecords modes = sizeRecords (beforePreferred modes)
      else ∃ mode, modes[0]? = some mode ∧ mode.isAt60 = true ∧
        ∀ m ∈ modes, m.isAt60 = true → exceeds m.size mode.size = false
    else True

theorem Chosen.rule_iff {modes : List DrmModeModeInfo} {i : ℕ} (hchosen : Chosen modes i)
    (hne : modes ≠ []) (hfirst : prefersFirst modes = false) :
    PreferredRule modes i ↔ SeesEnough modes := by
  have hmem : ∀ mode, modes[i]? = some mode → mode.isAt60 = true → mode ∈ beforePreferred modes :=
    fun _ => hchosen.mem_beforePreferred hfirst
  have hlt := hchosen.lt_length hne
  have hone : ∀ {P : DrmModeModeInfo → Prop} {mode},
      modes[i]? = some mode →
      ((∃ m, modes[i]? = some m ∧ P m) ↔ P mode) := by
    intro P mode hmode
    constructor
    · rintro ⟨m, hm, hP⟩
      exact Option.some.inj (hmode.symm.trans hm) ▸ hP
    · exact fun hP => ⟨mode, hmode, hP⟩
  obtain ⟨mode, hmode⟩ : ∃ mode, modes[i]? = some mode :=
    ⟨_, List.getElem?_eq_getElem hlt⟩
  have hnone : ∀ {test : DrmMode → Bool} {P : Prop},
      (∀ m ∈ beforePreferred modes, test m.toDrmMode = false) →
      (∃ m ∈ beforePreferred modes, test m.toDrmMode = true) → P := by
    rintro test P hno ⟨m, hm, htest⟩
    exact absurd ((hno m hm).symm.trans htest) Bool.false_ne_true
  have hsame : ∀ {m}, (beforePreferred modes)[i]? = some m → m = mode := by
    intro m hm
    exact Option.some.inj ((getElem?_beforePreferred hm).symm.trans hmode)
  unfold PreferredRule SeesEnough
  rw [hfirst, if_neg Bool.false_ne_true, and_iff_right hlt, hone hmode,
    or_iff_right Bool.false_ne_true]
  have hin := List.mem_of_getElem? hmode
  by_cases hfull : ∃ m ∈ modes, m.is1080P60 = true
  · rw [if_pos hfull, if_pos hfull]
    refine ⟨fun h => ⟨mode, hmem mode hmode (is1080P60_at60 h), h⟩, fun h => ?_⟩
    cases hchosen with
    | full _ m seen is => exact hsame seen ▸ is
    | half _ _ _ _ no1080P => exact hnone no1080P h
    | largest _ _ _ _ _ no1080P _ _ => exact hnone no1080P h
    | first no1080P _ _ => exact hnone no1080P h
  rw [if_neg hfull, if_neg hfull]
  by_cases hhalf : ∃ m ∈ modes, m.is720P60 = true
  · rw [if_pos hhalf, if_pos hhalf]
    refine ⟨fun h => ⟨mode, hmem mode hmode (is720P60_at60 h), h⟩, fun h => ?_⟩
    cases hchosen with
    | full _ m seen is => exact absurd ⟨mode, hin, hsame seen ▸ is⟩ hfull
    | half _ m seen is _ => exact hsame seen ▸ is
    | largest _ _ _ _ _ _ no720P _ => exact hnone no720P h
    | first _ no720P _ => exact hnone no720P h
  rw [if_neg hhalf, if_neg hhalf]
  by_cases hat60 : ∃ m ∈ modes, m.isAt60 = true
  · rw [if_pos hat60, if_pos hat60]
    cases hchosen with
    | full _ m seen is => exact absurd ⟨mode, hin, hsame seen ▸ is⟩ hfull
    | half _ m seen is _ => exact absurd ⟨mode, hin, hsame seen ▸ is⟩ hhalf
    | largest _ m seen at60 size _ _ noted =>
      obtain rfl := hsame seen
      rw [if_pos noted, and_iff_right at60, size]
      exact largest_iff modes
    | first _ _ unnoted =>
      rw [if_neg unnoted]
      exact (hone (P := fun mode => mode.isAt60 = true ∧
        ∀ m ∈ modes, m.isAt60 = true → exceeds m.size mode.size = false) hmode).symm
  · rw [if_neg hat60, if_neg hat60]
    refine iff_of_true ?_ trivial
    cases hchosen with
    | full _ m seen is => exact absurd ⟨mode, hin, is1080P60_at60 (hsame seen ▸ is)⟩ hat60
    | half _ m seen is _ => exact absurd ⟨mode, hin, is720P60_at60 (hsame seen ▸ is)⟩ hat60
    | largest _ m seen at60 _ _ _ _ => exact absurd ⟨mode, hin, hsame seen ▸ at60⟩ hat60
    | first _ _ _ => rfl

/-- **The order is followed** exactly if the modes that the loop has seen are enough. -/
theorem preferredRule_iff (connector : DrmConnector) (hne : connector.modes ≠ [])
    (c : DrmContext) :
    PreferredRule connector.modes (drmSelectPreferredmode connector c).preferredModeIndex ↔
      SeesEnough connector.modes := by
  show PreferredRule connector.modes (preferredIndex connector.modes) ↔ _
  cases hfirst : prefersFirst connector.modes with
  | false => exact (chosen hfirst).rule_iff hne hfirst
  | true =>
    refine iff_of_true ⟨preferredIndex_lt hne, ?_⟩ (Or.inl hfirst)
    rw [if_pos hfirst]
    exact preferredIndex_of_prefersFirst hfirst

/-- The mode typed PREFERRED is the second of three. -/
theorem preferredRule_of_second : PreferredRule
    [.simple 640 480 60 0 0, .simple 1920 1080 60 0 drmModeTypePreferred, .simple 1280 720 60 0 0]
    (drmSelectPreferredmode ⟨drmModeConnectorDvid,
      [.simple 640 480 60 0 0, .simple 1920 1080 60 0 drmModeTypePreferred,
        .simple 1280 720 60 0 0], []⟩ (drmInit none)).preferredModeIndex :=
  (preferredRule_iff ⟨drmModeConnectorDvid, [.simple 640 480 60 0 0,
    .simple 1920 1080 60 0 drmModeTypePreferred, .simple 1280 720 60 0 0], []⟩ (by simp)
    (drmInit none)).mpr (Or.inl (by decide))

/-- The mode typed PREFERRED is at 50 Hz, and hides the 1080p mode after it. -/
theorem full_mode_is_hidden : ¬∀ (connector : DrmConnector) (c : DrmContext),
    connector.modes ≠ [] →
      PreferredRule connector.modes (drmSelectPreferredmode connector c).preferredModeIndex := by
  intro h
  have hrule := h ⟨drmModeConnectorDvid, [.simple 1280 720 50 0 drmModeTypePreferred,
    .simple 1920 1080 60 0 0], []⟩ (drmInit none) (by simp)
  unfold PreferredRule at hrule
  rw [if_neg (by decide)] at hrule
  obtain ⟨-, mode, hmode, his⟩ := hrule
  rw [if_pos (by decide)] at his
  obtain rfl := Option.some.inj (hmode.symm.trans
    (show _ = some (DrmModeModeInfo.simple 1280 720 50 0 drmModeTypePreferred) from by decide))
  exact absurd his (by decide)

end CtpCommon.Display
