import CtpCommon.Display.PreferredMode

/-!
# The sink behind the cable

`drm_hdmi_getConnectionStatus` of `drm_hdmi.cpp`: it looks for the EDID of the connector, takes from
it which sink this is, and searches the extension for the block of an HDMI sink.

* `vsdbRound`, `searchVsdb` — a round and the whole of the search, with the bytes that are read;
* `drmHdmiGetConnectionStatus` — the function: status, bytes read and context;
* `forall_mem_searchVsdb`, `searchVsdb_iff` — **PROVED**: what the search reads and finds;
* `EdidScanned` — the bytes read are in the blob, and the status is what the blob says;
* `edidScanned_iff` — **PROVED**: so it is unless the extension ends before the search does, or goes
  on after it.
-/

namespace CtpCommon.Display

/-! ### The function -/

/-- The characters of `EDID`. -/
def edidName : List UInt8 := [69, 68, 73, 68]

/-- The first property with this name. -/
def edidProperty (props : List (Option DrmProperty)) : Option DrmProperty :=
  props.findSome? fun property => property.filter fun x => x.name = some edidName

/-- One round of the search: whether the three bytes are there, and the bytes that are read. -/
def vsdbRound (data : ℕ → UInt8) (n : ℕ) : Bool × List ℕ :=
  if data n = 0x03 then
    if data (n + 1) = 0x0c then (data (n + 2) = 0x00, [n, n + 1, n + 2]) else (false, [n, n + 1])
  else (false, [n])

/-- The search from byte `n` on, with `left` rounds left. -/
def searchVsdb (data : ℕ → UInt8) : ℕ → ℕ → Bool × List ℕ
  | 0, _ => (false, [])
  | left + 1, n =>
      let round := vsdbRound data n
      if round.1 then (true, round.2)
      else
        let rest := searchVsdb data left (n + 1)
        (rest.1, round.2 ++ rest.2)

/-- The offset of the product information. -/
def productInfoOffset : ℕ := 8

/-- The number of the extension blocks. -/
def extensionFlag : ℕ := 126

def productInfo (data : ℕ → UInt8) : List UInt8 :=
  (List.range' productInfoOffset edidProductInfoLen).map data

/-- A sink with this product information is connected. -/
def DrmContext.noteSink (productInfo : List UInt8) (c : DrmContext) : DrmContext :=
  if c.productInfo ≠ productInfo then
    { c with connected := true, newDevice := true, modeValid := false, productInfo := productInfo }
  else { c with connected := true }

/-- DVI or HDMI, with the bytes that are read. -/
def sinkStatus (data : ℕ → UInt8) : Int × List ℕ :=
  if data extensionFlag = 0 then (drmDviConnected, [extensionFlag])
  else
    let search := searchVsdb data (hdmiTimingMax - 3 + 1) hdmiTimingMax
    (if search.1 then drmHdmiConnected else drmDviConnected, extensionFlag :: search.2)

/-- The blob of the EDID, unless it is invalid. -/
def validEdid (connector : DrmConnector) : Option (ℕ → UInt8) :=
  (edidProperty connector.props).bind fun property =>
    property.blob.bind fun blob => if blob.length < hdmiTimingMax then none else blob.data

/-- What `drm_hdmi_getConnectionStatus` does: the status, the bytes of the EDID that are read, and
the context. -/
structure ConnectionStatus where
  status : Int
  reads : List ℕ
  context : DrmContext

/-- `drm_hdmi_getConnectionStatus`. -/
def drmHdmiGetConnectionStatus (resources : DrmResources) (c : DrmContext) : ConnectionStatus :=
  if c.hdmiSupported = false then ⟨drmHdmiDisconnected, [], c⟩
  else
    match getHdmiConnector resources { c with hdmiConnector := none, connected := false } with
    | (none, c) => ⟨drmHdmiDisconnected, [], c⟩
    | (some connector, c) =>
        match validEdid connector with
        | none => ⟨drmHdmiDisconnected, [], c⟩
        | some data =>
            ⟨(sinkStatus data).1,
              List.range' productInfoOffset edidProductInfoLen ++ (sinkStatus data).2,
              drmSelectPreferredmode connector (c.noteSink (productInfo data))⟩

/-! ### The search -/

/-- The three bytes of an HDMI sink. -/
def VsdbAt (data : ℕ → UInt8) (n : ℕ) : Prop :=
  data n = 0x03 ∧ data (n + 1) = 0x0c ∧ data (n + 2) = 0x00

/-- The bytes that a round reads are in the blob. -/
def RoundInside (data : ℕ → UInt8) (length n : ℕ) : Prop := ∀ i ∈ (vsdbRound data n).2, i < length

section

variable {data : ℕ → UInt8} {length n left : ℕ}

theorem vsdbRound_iff : (vsdbRound data n).1 = true ↔ VsdbAt data n := by
  unfold vsdbRound VsdbAt
  split_ifs with h h'
  · exact decide_eq_true_iff.trans ⟨fun h'' => ⟨h, h', h''⟩, fun h'' => h''.2.2⟩
  · exact iff_of_false (by simp) fun h'' => h' h''.2.1
  · exact iff_of_false (by simp) fun h'' => h h''.1

theorem roundInside_iff : RoundInside data length n ↔ n < length ∧
    (data n = 0x03 → n + 1 < length ∧ (data (n + 1) = 0x0c → n + 2 < length)) := by
  unfold RoundInside vsdbRound
  split_ifs with h h'
  · simp [h, h']
  · simp [h, h']
  · simp [h]

theorem roundInside_of_lt (h : n + 2 < length) : RoundInside data length n :=
  roundInside_iff.mpr ⟨by omega, fun _ => ⟨by omega, fun _ => h⟩⟩

theorem RoundInside.lt_of_vsdbAt (h : RoundInside data length n) (hvsdb : VsdbAt data n) :
    n + 2 < length := ((roundInside_iff.mp h).2 hvsdb.1).2 hvsdb.2.1

/-- **What the search finds.** -/
theorem searchVsdb_iff (data : ℕ → UInt8) (left n : ℕ) :
    (searchVsdb data left n).1 = true ↔ ∃ k, n ≤ k ∧ k < n + left ∧ VsdbAt data k := by
  induction left generalizing n with
  | zero =>
    refine iff_of_false Bool.false_ne_true ?_
    rintro ⟨k, hle, hlt, -⟩
    omega
  | succ left ih =>
    unfold searchVsdb
    by_cases hround : (vsdbRound data n).1 = true
    · rw [if_pos hround]
      exact iff_of_true rfl ⟨n, Nat.le_refl n, by omega, vsdbRound_iff.mp hround⟩
    · rw [if_neg hround]
      refine (ih (n + 1)).trans ⟨?_, ?_⟩
      · rintro ⟨k, hle, hlt, hvsdb⟩
        exact ⟨k, by omega, by omega, hvsdb⟩
      · rintro ⟨k, hle, hlt, hvsdb⟩
        have hne : k ≠ n := fun heq => hround (vsdbRound_iff.mpr (heq ▸ hvsdb))
        exact ⟨k, by omega, by omega, hvsdb⟩

/-- **What the search reads**: round after round, up to the first that finds the bytes. -/
theorem forall_mem_searchVsdb (data : ℕ → UInt8) (length left n : ℕ) :
    (∀ i ∈ (searchVsdb data left n).2, i < length) ↔
      ∀ k, n ≤ k → k < n + left → (∀ m, n ≤ m → m < k → ¬VsdbAt data m) →
        RoundInside data length k := by
  induction left generalizing n with
  | zero =>
    refine iff_of_true (fun i hi => absurd hi List.not_mem_nil) fun k hle hlt _ => ?_
    omega
  | succ left ih =>
    unfold searchVsdb
    by_cases hround : (vsdbRound data n).1 = true
    · rw [if_pos hround]
      refine ⟨fun h k hle _ hfirst => ?_, fun h => h n (Nat.le_refl n) (by omega) ?_⟩
      · rcases Nat.eq_or_lt_of_le hle with rfl | hlt
        · exact h
        · exact absurd (vsdbRound_iff.mp hround) (hfirst n (Nat.le_refl n) hlt)
      · intro m hle hlt
        omega
    · rw [if_neg hround]
      have hno : ¬VsdbAt data n := fun h => hround (vsdbRound_iff.mpr h)
      refine (List.forall_mem_append.trans (and_congr_right fun _ => ih (n + 1))).trans ⟨?_, ?_⟩
      · rintro ⟨hn, hrest⟩ k hle hlt hfirst
        rcases Nat.eq_or_lt_of_le hle with rfl | hgt
        · exact hn
        · exact hrest k hgt (by omega) fun m hm => hfirst m (by omega)
      · intro h
        refine ⟨h n (Nat.le_refl n) (by omega) fun m hle hlt => by omega,
          fun k hle hlt hfirst => ?_⟩
        refine h k (by omega) (by omega) fun m hm hmk => ?_
        rcases Nat.eq_or_lt_of_le hm with rfl | hgt
        · exact hno
        · exact hfirst m hgt hmk

end

/-! ### The EDID -/

/-- The bytes of an HDMI sink are in the extension of a blob. -/
def HasVsdb (data : ℕ → UInt8) (length : ℕ) : Prop :=
  ∃ n, hdmiTimingMax ≤ n ∧ n + 3 ≤ length ∧ VsdbAt data n

/-- Only bytes of the blob are read, and the status is what it says. -/
structure EdidScanned (data : ℕ → UInt8) (length : ℕ) (s : ConnectionStatus) : Prop where
  reads : ∀ i ∈ s.reads, i < length
  status : s.status = drmHdmiConnected ∨ s.status = drmDviConnected
  isHdmi : s.status = drmHdmiConnected ↔ data extensionFlag ≠ 0 ∧ HasVsdb data length

/-- The search, from byte 128 to byte 255, meets the bytes of an HDMI sink, or there are none in the
extension and the search does not leave the blob. -/
def SearchFits (data : ℕ → UInt8) (length : ℕ) : Prop :=
  data extensionFlag = 0 ∨
    (∃ n, hdmiTimingMax ≤ n ∧ n < 254 ∧ n + 3 ≤ length ∧ VsdbAt data n) ∨
    ¬HasVsdb data length ∧
      (256 ≤ length ∨ (length = 255 ∧ ¬(data 253 = 0x03 ∧ data 254 = 0x0c)) ∨
        (length = 254 ∧ data 253 ≠ 0x03 ∧ ¬(data 252 = 0x03 ∧ data 253 = 0x0c)))

section

variable {data : ℕ → UInt8} {length : ℕ}

/-- Without the bytes of an HDMI sink, the search stays in the blob if each round does. -/
theorem fits_iff_of_none (hnone : ¬HasVsdb data length) :
    (256 ≤ length ∨ (length = 255 ∧ ¬(data 253 = 0x03 ∧ data 254 = 0x0c)) ∨
        (length = 254 ∧ data 253 ≠ 0x03 ∧ ¬(data 252 = 0x03 ∧ data 253 = 0x0c))) ↔
      ∀ k, 128 ≤ k → k < 254 → RoundInside data length k := by
  constructor
  · rintro h k hle hlt
    by_cases hinside : k + 2 < length
    · exact roundInside_of_lt hinside
    rcases h with h | ⟨rfl, hpair⟩ | ⟨rfl, hone, hpair⟩
    · omega
    · obtain rfl : k = 253 := by omega
      exact roundInside_iff.mpr ⟨by omega, fun h3 => ⟨by omega, fun hc => absurd ⟨h3, hc⟩ hpair⟩⟩
    · obtain rfl | rfl : k = 252 ∨ k = 253 := by omega
      · exact roundInside_iff.mpr
          ⟨by omega, fun h3 => ⟨by omega, fun hc => absurd ⟨h3, hc⟩ hpair⟩⟩
      · exact roundInside_iff.mpr ⟨by omega, fun h3 => absurd h3 hone⟩
  · intro h
    have hlast := roundInside_iff.mp (h 253 (by omega) (by omega))
    have hlast' := roundInside_iff.mp (h 252 (by omega) (by omega))
    by_cases hlong : 256 ≤ length
    · exact Or.inl hlong
    obtain rfl | rfl : length = 254 ∨ length = 255 := by omega
    · refine Or.inr (Or.inr ⟨rfl, fun h3 => ?_, fun h3 => ?_⟩)
      · exact absurd (hlast.2 h3).1 (by omega)
      · exact absurd ((hlast'.2 h3.1).2 h3.2) (by omega)
    · refine Or.inr (Or.inl ⟨rfl, fun h3 => ?_⟩)
      exact absurd ((hlast.2 h3.1).2 h3.2) (by omega)

/-- **The search** stays in the blob and finds what is there exactly if it fits. -/
theorem searchFits_iff (hext : data extensionFlag ≠ 0) :
    (∀ i ∈ (searchVsdb data (hdmiTimingMax - 3 + 1) hdmiTimingMax).2, i < length) ∧
        ((searchVsdb data (hdmiTimingMax - 3 + 1) hdmiTimingMax).1 = true ↔ HasVsdb data length) ↔
      SearchFits data length := by
  rw [forall_mem_searchVsdb, searchVsdb_iff]
  unfold SearchFits
  rw [or_iff_right hext]
  constructor
  · rintro ⟨hinside, hfound⟩
    by_cases hhas : HasVsdb data length
    · obtain ⟨k, hk⟩ := hfound.mpr hhas
      -- The first of these is read as a whole.
      classical
      have hex : ∃ k, hdmiTimingMax ≤ k ∧ k < hdmiTimingMax + (hdmiTimingMax - 3 + 1) ∧
          VsdbAt data k := ⟨k, hk⟩
      obtain ⟨hle, hlt, hvsdb⟩ := Nat.find_spec hex
      have hfirst : ∀ m, hdmiTimingMax ≤ m → m < Nat.find hex → ¬VsdbAt data m :=
        fun m hm hmk h => Nat.find_min hex hmk ⟨hm, hmk.trans hlt, h⟩
      have hread := (hinside _ hle hlt hfirst).lt_of_vsdbAt hvsdb
      exact Or.inl ⟨_, hle, hlt, hread, hvsdb⟩
    · refine Or.inr ⟨hhas, (fits_iff_of_none hhas).mpr fun k hle hlt => ?_⟩
      exact hinside k hle hlt fun m hm hmk h => hhas (hfound.mp ⟨m, hm, hmk.trans hlt, h⟩)
  · rintro (⟨n, hle, hlt, hin, hvsdb⟩ | ⟨hnone, hfits⟩)
    · refine ⟨fun k hk _ hfirst => roundInside_of_lt ?_, iff_of_true ⟨n, hle, hlt, hvsdb⟩
        ⟨n, hle, hin, hvsdb⟩⟩
      have hkn : k ≤ n := Nat.le_of_not_lt fun h => hfirst n hle h hvsdb
      omega
    · have hrounds := (fits_iff_of_none hnone).mp hfits
      refine ⟨fun k hk hlt _ => hrounds k hk hlt, iff_of_false ?_ hnone⟩
      rintro ⟨k, hle, hlt, hvsdb⟩
      exact hnone ⟨k, hle, (hrounds k hle hlt).lt_of_vsdbAt hvsdb, hvsdb⟩

end

/-- The blob of a connector's EDID is accepted. -/
structure AcceptsEdid (connector : DrmConnector) (length : ℕ) (data : ℕ → UInt8) : Prop where
  modes : connector.modes ≠ []
  blob : ((edidProperty connector.props).bind DrmProperty.blob) = some ⟨length, some data⟩
  length : hdmiTimingMax ≤ length

theorem validEdid_of_accepts {connector : DrmConnector} {length : ℕ} {data : ℕ → UInt8}
    (h : AcceptsEdid connector length data) : validEdid connector = some data := by
  obtain ⟨property, hproperty, hblob⟩ := Option.bind_eq_some_iff.mp h.blob
  unfold validEdid
  rw [hproperty, Option.bind_some, hblob, Option.bind_some, if_neg (Nat.not_lt.mpr h.length)]

theorem drmHdmiGetConnectionStatus_of_accepts {resources : DrmResources} {c : DrmContext}
    {connector : DrmConnector} {length : ℕ} {data : ℕ → UInt8} (hsupported : c.hdmiSupported = true)
    (hconnector : getConnector resources drmModeConnectorDvid = some connector)
    (h : AcceptsEdid connector length data) :
    drmHdmiGetConnectionStatus resources c = ⟨(sinkStatus data).1,
      List.range' productInfoOffset edidProductInfoLen ++ (sinkStatus data).2,
      drmSelectPreferredmode connector
        ({ c with connected := false, hdmiConnector := some connector }.noteSink
          (productInfo data))⟩ := by
  have hget : getHdmiConnector resources { c with hdmiConnector := none, connected := false }
      = (some connector, { c with connected := false, hdmiConnector := some connector }) := by
    unfold getHdmiConnector
    simp [hconnector, h.modes]
  unfold drmHdmiGetConnectionStatus
  rw [if_neg (by simp [hsupported]), hget]
  simp only [validEdid_of_accepts h]

/-- **The EDID is scanned** as it should be, for every blob that is accepted, exactly if the search
fits it. -/
theorem edidScanned_iff (resources : DrmResources) (c : DrmContext) (connector : DrmConnector)
    (length : ℕ) (data : ℕ → UInt8) (hsupported : c.hdmiSupported = true)
    (hconnector : getConnector resources drmModeConnectorDvid = some connector)
    (h : AcceptsEdid connector length data) :
    EdidScanned data length (drmHdmiGetConnectionStatus resources c) ↔ SearchFits data length := by
  have hlength := h.length
  have hproduct : ∀ i ∈ List.range' productInfoOffset edidProductInfoLen, i < length := by
    intro i hi
    obtain ⟨-, hlt⟩ := List.mem_range'_1.mp hi
    exact (hlt.trans (by decide)).trans_le hlength
  have hflag : extensionFlag < length :=
    (by decide : extensionFlag < hdmiTimingMax).trans_le hlength
  rw [drmHdmiGetConnectionStatus_of_accepts hsupported hconnector h]
  unfold sinkStatus
  by_cases hext : data extensionFlag = 0
  · rw [if_pos hext]
    refine iff_of_true ⟨?_, Or.inr rfl, ?_⟩ (Or.inl hext)
    · exact List.forall_mem_append.mpr ⟨hproduct, fun i hi => List.mem_singleton.mp hi ▸ hflag⟩
    · exact iff_of_false (show drmDviConnected ≠ drmHdmiConnected by decide) fun hhas => hhas.1 hext
  · rw [if_neg hext, ← searchFits_iff hext]
    have hstatus : ∀ found : Bool, (if found then drmHdmiConnected else drmDviConnected)
        = drmHdmiConnected ↔ found = true := by decide
    have hconnected : ∀ found : Bool, (if found then drmHdmiConnected else drmDviConnected)
        = drmHdmiConnected ∨ (if found then drmHdmiConnected else drmDviConnected)
          = drmDviConnected := by decide
    constructor
    · rintro ⟨hreads, -, hhdmi⟩
      rw [List.forall_mem_append, List.forall_mem_cons] at hreads
      refine ⟨hreads.2.2, ?_⟩
      rw [← and_iff_right (a := data extensionFlag ≠ 0) (b := HasVsdb data length) hext, ← hhdmi]
      exact (hstatus _).symm
    · rintro ⟨hreads, hfound⟩
      refine ⟨List.forall_mem_append.mpr ⟨hproduct, List.forall_mem_cons.mpr ⟨hflag, hreads⟩⟩,
        hconnected _, ?_⟩
      · rw [and_iff_right hext, ← hfound]
        exact hstatus _

/-- A connector with one mode and with this EDID. -/
def DrmConnector.simple (length : ℕ) (data : ℕ → UInt8) : DrmConnector where
  connectorType := drmModeConnectorDvid
  modes := [.simple 1920 1080 60 0 0]
  props := [some ⟨some edidName, some ⟨length, some data⟩⟩]

/-- HDMI is supported, and nothing is connected yet. -/
def DrmContext.supported : DrmContext := { drmInit none with hdmiSupported := true }

theorem acceptsEdid_simple {length : ℕ} (data : ℕ → UInt8) (h : hdmiTimingMax ≤ length) :
    AcceptsEdid (.simple length data) length data := ⟨by simp [DrmConnector.simple], rfl, h⟩

/-- One extension block, with the bytes of an HDMI sink at its fifth byte. -/
def hdmiEdid (i : ℕ) : UInt8 :=
  if i = extensionFlag then 1 else if i = 132 then 0x03 else if i = 133 then 0x0c else 0

theorem hdmi_sink_found : EdidScanned hdmiEdid 256
    (drmHdmiGetConnectionStatus (some [some (.simple 256 hdmiEdid)]) DrmContext.supported) :=
  (edidScanned_iff (some [some (.simple 256 hdmiEdid)]) DrmContext.supported
    (.simple 256 hdmiEdid) 256 hdmiEdid rfl rfl (acceptsEdid_simple hdmiEdid (by decide))).mpr
    (Or.inr (Or.inl ⟨132, by decide, by decide, by decide, by decide, by decide, by decide⟩))

/-- A base block alone that claims an extension: the search reads on after its end. -/
theorem search_leaves_the_blob : ¬∀ (resources : DrmResources) (c : DrmContext)
    (connector : DrmConnector) (length : ℕ) (data : ℕ → UInt8), c.hdmiSupported = true →
      getConnector resources drmModeConnectorDvid = some connector →
      AcceptsEdid connector length data →
      EdidScanned data length (drmHdmiGetConnectionStatus resources c) := by
  intro h
  have hscanned := h (some [some (.simple 128 fun i => if i = extensionFlag then 1 else 0)])
    DrmContext.supported (.simple 128 fun i => if i = extensionFlag then 1 else 0) 128
    (fun i => if i = extensionFlag then 1 else 0) rfl rfl (acceptsEdid_simple _ (by decide))
  exact absurd (hscanned.reads 128 (by decide)) (by decide)

end CtpCommon.Display
