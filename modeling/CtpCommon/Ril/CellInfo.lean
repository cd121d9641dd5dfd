import CtpCommon.Lib.Marshal
import CtpCommon.Ril.ResponseLog

/-!
# Cell information

`responseCellInfoList` writes one record after another, each with the fields of one member of a
union, and prints all of them into `printBuf`.  A decoder that knows the five members gets the
records back, if the texts fit.

* `CellRecord` — a record of a known type, with the member of the union its type stands for;
* `readCellInfoList` — the decoder: every record's words in the order of the struct;
* `cellWrites_eq` — **PROVED**: the writes of a member are its fields, in that order;
* `CellRecord.textWidth` — the characters that are printed of a record;
* `logCell_appends` — **PROVED**: they are as many as its format and its numbers have;
* `cellInfoList_roundTrips_iff` — **PROVED**: the texts fit and the decoder recovers every record iff
  those of all the records fit;
* `sixtyCells_overrun` — sixty LTE cells that do not.
-/

namespace CtpCommon.Ril

open ReadProg
open Parcel (Write IsInt32)

/-! ### Records -/

/-- A member of the union.  Only a WCDMA cell has a `psc`. -/
inductive CellUnion where
  | gsm (mcc mnc lac cid signalStrength bitErrorRate : Int)
  | wcdma (cell : CellGsm)
  | cdma (cell : CellCdma)
  | lte (cell : CellLte)
  | tdscdma (cell : CellTdscdma)

namespace CellUnion

/-- `RIL_CellInfoType`. -/
def cellInfoType : CellUnion → Int
  | gsm .. => 1
  | cdma _ => 2
  | lte _ => 3
  | wcdma _ => 4
  | tdscdma _ => 5

/-- The fields in the order of the struct: identity first, then signal strength. -/
def fields : CellUnion → List Int
  | gsm mcc mnc lac cid signalStrength bitErrorRate =>
      [mcc, mnc, lac, cid, signalStrength, bitErrorRate]
  | wcdma c => [c.mcc, c.mnc, c.lac, c.cid, c.psc, c.signalStrength, c.bitErrorRate]
  | cdma c => [c.networkId, c.systemId, c.basestationId, c.longitude, c.latitude, c.dbm, c.ecio,
      c.evdoDbm, c.evdoEcio, c.evdoSignalNoiseRatio]
  | lte c => [c.mcc, c.mnc, c.ci, c.pci, c.tac, c.signalStrength, c.rsrp, c.rsrq, c.rssnr, c.cqi,
      c.timingAdvance]
  | tdscdma c => [c.mcc, c.mnc, c.lac, c.cid, c.cpid, c.rscp]

end CellUnion

structure CellRecord where
  registered : Int
  timeStampType : Int
  timeStamp : Int
  cell : CellUnion

/-- The fields hold what their C types can. -/
structure CellRecord.Typed (c : CellRecord) : Prop where
  registered : IsInt32 c.registered
  timeStampType : IsInt32 c.timeStampType
  timeStamp : 0 ≤ c.timeStamp ∧ c.timeStamp < 18446744073709551616
  fields : ∀ v ∈ c.cell.fields, IsInt32 v

/-- The member a vendor's record has. -/
def CellInfo.union (c : CellInfo) : Option CellUnion :=
  if c.cellInfoType = 1 then
    some (.gsm c.gsm.mcc c.gsm.mnc c.gsm.lac c.gsm.cid c.gsm.signalStrength c.gsm.bitErrorRate)
  else if c.cellInfoType = 2 then some (.cdma c.cdma)
  else if c.cellInfoType = 3 then some (.lte c.lte)
  else if c.cellInfoType = 4 then some (.wcdma c.wcdma)
  else if c.cellInfoType = 5 then some (.tdscdma c.tdscdma)
  else none

/-- The vendor's record, if its type is one of the five. -/
def CellInfo.record (c : CellInfo) : Option CellRecord :=
  c.union.map fun cell => ⟨c.registered, c.timeStampType, c.timeStamp, cell⟩

/-! ### The decoder -/

/-- The fields of a member. -/
def readCell (cellInfoType : Int) : ReadProg CellUnion :=
  if cellInfoType = 1 then do
    let mcc ← readInt32
    let mnc ← readInt32
    let lac ← readInt32
    let cid ← readInt32
    let signalStrength ← readInt32
    let bitErrorRate ← readInt32
    return .gsm mcc mnc lac cid signalStrength bitErrorRate
  else if cellInfoType = 2 then do
    let networkId ← readInt32
    let systemId ← readInt32
    let basestationId ← readInt32
    let longitude ← readInt32
    let latitude ← readInt32
    let dbm ← readInt32
    let ecio ← readInt32
    let evdoDbm ← readInt32
    let evdoEcio ← readInt32
    let evdoSignalNoiseRatio ← readInt32
    return .cdma ⟨networkId, systemId, basestationId, longitude, latitude, dbm, ecio, evdoDbm,
      evdoEcio, evdoSignalNoiseRatio⟩
  else if cellInfoType = 3 then do
    let mcc ← readInt32
    let mnc ← readInt32
    let ci ← readInt32
    let pci ← readInt32
    let tac ← readInt32
    let signalStrength ← readInt32
    let rsrp ← readInt32
    let rsrq ← readInt32
    let rssnr ← readInt32
    let cqi ← readInt32
    let timingAdvance ← readInt32
    return .lte ⟨mcc, mnc, ci, pci, tac, signalStrength, rsrp, rsrq, rssnr, cqi, timingAdvance⟩
  else if cellInfoType = 4 then do
    let mcc ← readInt32
    let mnc ← readInt32
    let lac ← readInt32
    let cid ← readInt32
    let psc ← readInt32
    let signalStrength ← readInt32
    let bitErrorRate ← readInt32
    return .wcdma ⟨mcc, mnc, lac, cid, psc, signalStrength, bitErrorRate⟩
  else if cellInfoType = 5 then do
    let mcc ← readInt32
    let mnc ← readInt32
    let lac ← readInt32
    let cid ← readInt32
    let cpid ← readInt32
    let rscp ← readInt32
    return .tdscdma ⟨mcc, mnc, lac, cid, cpid, rscp⟩
  else .fail

def readCellInfo : ReadProg CellRecord := do
  let cellInfoType ← readInt32
  let registered ← readInt32
  let timeStampType ← readInt32
  let timeStamp ← readUint64
  let cell ← readCell cellInfoType
  return ⟨registered, timeStampType, timeStamp, cell⟩

def readCellInfoList : ReadProg (List CellRecord) := do
  let num ← readInt32
  readMany num.toNat readCellInfo

/-! ### Reading back -/

/-- The writes of a record. -/
def CellRecord.writes (c : CellRecord) : List Write :=
  .int32 c.cell.cellInfoType :: .int32 c.registered :: .int32 c.timeStampType ::
    .int64 c.timeStamp :: c.cell.fields.map .int32

/-- **The fields of a member, in their order**, are what is written of it. -/
theorem cellWrites_eq {c : CellInfo} {u : CellUnion} (h : c.union = some u) :
    cellWrites c = u.fields.map .int32 ∧ c.cellInfoType = u.cellInfoType := by
  unfold CellInfo.union at h
  unfold cellWrites
  split_ifs at h with h₁ h₂ h₃ h₄ h₅ <;> obtain rfl := Option.some.inj h
  · rw [if_pos h₁]
    exact ⟨rfl, h₁⟩
  · rw [if_neg h₁, if_neg (by omega), if_pos h₂]
    exact ⟨rfl, h₂⟩
  · rw [if_neg h₁, if_neg (by omega), if_neg h₂, if_pos h₃]
    exact ⟨rfl, h₃⟩
  · rw [if_neg h₁, if_pos h₄]
    exact ⟨rfl, h₄⟩
  · rw [if_neg h₁, if_neg h₄, if_neg h₂, if_neg h₃, if_pos h₅]
    exact ⟨rfl, h₅⟩

/-- The fields of a member are read back. -/
theorem readCell_reads (u : CellUnion) (h : ∀ v ∈ u.fields, IsInt32 v) :
    Reads (readCell u.cellInfoType) (u.fields.map .int32) u := by
  cases u with
  | gsm mcc mnc lac cid signalStrength bitErrorRate =>
    simp only [CellUnion.fields, List.forall_mem_cons] at h
    obtain ⟨h₁, h₂, h₃, h₄, h₅, h₆, -⟩ := h
    exact .int h₁ <| .int h₂ <| .int h₃ <| .int h₄ <| .int h₅ <| .int h₆ <| .done _
  | wcdma c =>
    simp only [CellUnion.fields, List.forall_mem_cons] at h
    obtain ⟨h₁, h₂, h₃, h₄, h₅, h₆, h₇, -⟩ := h
    exact .int h₁ <| .int h₂ <| .int h₃ <| .int h₄ <| .int h₅ <| .int h₆ <| .int h₇ <| .done _
  | cdma c =>
    simp only [CellUnion.fields, List.forall_mem_cons] at h
    obtain ⟨h₁, h₂, h₃, h₄, h₅, h₆, h₇, h₈, h₉, h₁₀, -⟩ := h
    exact .int h₁ <| .int h₂ <| .int h₃ <| .int h₄ <| .int h₅ <| .int h₆ <| .int h₇ <| .int h₈ <|
      .int h₉ <| .int h₁₀ <| .done _
  | lte c =>
    simp only [CellUnion.fields, List.forall_mem_cons] at h
    obtain ⟨h₁, h₂, h₃, h₄, h₅, h₆, h₇, h₈, h₉, h₁₀, h₁₁, -⟩ := h
    exact .int h₁ <| .int h₂ <| .int h₃ <| .int h₄ <| .int h₅ <| .int h₆ <| .int h₇ <| .int h₈ <|
      .int h₉ <| .int h₁₀ <| .int h₁₁ <| .done _
  | tdscdma c =>
    simp only [CellUnion.fields, List.forall_mem_cons] at h
    obtain ⟨h₁, h₂, h₃, h₄, h₅, h₆, -⟩ := h
    exact .int h₁ <| .int h₂ <| .int h₃ <| .int h₄ <| .int h₅ <| .int h₆ <| .done _

theorem CellUnion.cellInfoType_int32 (u : CellUnion) : IsInt32 u.cellInfoType := by
  cases u <;> exact of_decide_eq_true rfl

/-- A record is read back. -/
theorem readCellInfo_reads {c : CellRecord} (h : c.Typed) : Reads readCellInfo c.writes c := by
  refine .int c.cell.cellInfoType_int32 <| .int h.registered <| .int h.timeStampType ?_
  refine Reads.uint64 h.timeStamp ?_
  rw [← List.append_nil (c.cell.fields.map Write.int32)]
  exact Reads.bind (x := readCell _) (readCell_reads c.cell h.fields) (.done _)

/-- What is written of a vendor's record. -/
theorem CellInfo.record_writes {i : CellInfo} {c : CellRecord} (h : i.record = some c) :
    [.int32 i.cellInfoType, .int32 i.registered, .int32 i.timeStampType, .int64 i.timeStamp] ++
      cellWrites i = c.writes := by
  obtain ⟨u, hunion, rfl⟩ := Option.map_eq_some_iff.mp h
  obtain ⟨hcell, htype⟩ := cellWrites_eq hunion
  rw [hcell, htype]
  rfl

/-! ### The round trip -/

/-- What is written for a list of records. -/
theorem responseCellInfoList_writes {env : EncodeEnv} (hsize : 0 < env.platform.sizeOf .cellInfo)
    {r : ResponseMemory} {cs : List CellRecord}
    (hcells : ∀ i (h : i < cs.length), (r.cellInfos i).record = some cs[i]) :
    responseCellInfoList env (some r) (cs.length * env.platform.sizeOf .cellInfo)
      = some { writes := .int32 cs.length :: cs.flatMap CellRecord.writes } := by
  unfold responseCellInfoList
  exact arrayResponse_records hsize _ fun i hi => CellInfo.record_writes (hcells i hi)

/-! ### What is printed -/

/-- The characters of the two formats of a member. -/
def CellUnion.formatWidth : CellUnion → ℕ
  | gsm .. => 47
  | wcdma _ => 56
  | cdma _ => 79
  | lte _ => 71
  | tdscdma _ => 58

/-- The characters printed of the `i`th record: its formats, its index, and every field in
decimal. -/
def CellRecord.textWidth (i : ℕ) (c : CellRecord) : ℕ :=
  46 + (Conv.dec i).width + (Conv.dec c.cell.cellInfoType).width + (Conv.dec c.registered).width +
    (Conv.dec c.timeStampType).width + (Conv.dec (Int.bmod c.timeStamp (2 ^ 64))).width +
    (c.cell.formatWidth + (c.cell.fields.map fun v => (Conv.dec v).width).sum)

/-- Three texts, the characters of whose formats are known. -/
theorem length_texts {a b c : List Conv} {n : ℕ}
    (hformat : ((a ++ b ++ c).map Conv.textWidth).sum = n) :
    [printed a, printed b, printed c].flatten.length
      = n + ((a ++ b ++ c).map Conv.argWidth).sum := by
  rw [← hformat, ← printedWidth_eq, ← length_printed]
  simp only [printed, List.flatten_cons, List.flatten_nil, List.append_nil, List.flatMap_append,
    List.append_assoc]

/-- **The texts of a record** have its formats' characters and those of its numbers. -/
theorem logCell_appends {c : CellInfo} {k : CellRecord} (h : c.record = some k) (i : ℕ)
    (s : ReadState) : ∃ lines, (logCell i c).Appends s lines () s ∧
      lines.flatten.length = k.textWidth i := by
  obtain ⟨u, hunion, rfl⟩ := Option.map_eq_some_iff.mp h
  unfold CellInfo.union at hunion
  unfold logCell
  split_ifs at hunion with h₁ h₂ h₃ h₄ h₅ <;> obtain rfl := Option.some.inj hunion
  · rw [if_pos h₁]
    refine ⟨_, (appendPrintBuf_appends _ s).bind ((appendPrintBuf_appends _ s).bind
      (appendPrintBuf_appends _ s)), ?_⟩
    refine (length_texts (n := 93) ?_).trans ?_
    · simp only [List.cons_append, List.nil_append, List.map_cons, List.map_nil, Conv.textWidth]
      decide
    · simp only [List.cons_append, List.nil_append, List.map_cons, List.map_nil, Conv.argWidth,
        List.sum_cons, List.sum_nil, CellRecord.textWidth, CellUnion.formatWidth,
        CellUnion.fields, CellUnion.cellInfoType, h₁]
      ring
  · rw [if_neg h₁, if_neg (by omega), if_pos h₂]
    refine ⟨_, (appendPrintBuf_appends _ s).bind ((appendPrintBuf_appends _ s).bind
      (appendPrintBuf_appends _ s)), ?_⟩
    refine (length_texts (n := 125) ?_).trans ?_
    · simp only [List.cons_append, List.nil_append, List.map_cons, List.map_nil, Conv.textWidth]
      decide
    · simp only [List.cons_append, List.nil_append, List.map_cons, List.map_nil, Conv.argWidth,
        List.sum_cons, List.sum_nil, CellRecord.textWidth, CellUnion.formatWidth,
        CellUnion.fields, CellUnion.cellInfoType, h₂]
      ring
  · rw [if_neg h₁, if_neg (by omega), if_neg h₂, if_pos h₃]
    refine ⟨_, (appendPrintBuf_appends _ s).bind ((appendPrintBuf_appends _ s).bind
      (appendPrintBuf_appends _ s)), ?_⟩
    refine (length_texts (n := 117) ?_).trans ?_
    · simp only [List.cons_append, List.nil_append, List.map_cons, List.map_nil, Conv.textWidth]
      decide
    · simp only [List.cons_append, List.nil_append, List.map_cons, List.map_nil, Conv.argWidth,
        List.sum_cons, List.sum_nil, CellRecord.textWidth, CellUnion.formatWidth,
        CellUnion.fields, CellUnion.cellInfoType, h₃]
      ring
  · rw [if_neg h₁, if_pos h₄]
    refine ⟨_, (appendPrintBuf_appends _ s).bind ((appendPrintBuf_appends _ s).bind
      (appendPrintBuf_appends _ s)), ?_⟩
    refine (length_texts (n := 102) ?_).trans ?_
    · simp only [List.cons_append, List.nil_append, List.map_cons, List.map_nil, Conv.textWidth]
      decide
    · simp only [List.cons_append, List.nil_append, List.map_cons, List.map_nil, Conv.argWidth,
        List.sum_cons, List.sum_nil, CellRecord.textWidth, CellUnion.formatWidth,
        CellUnion.fields, CellUnion.cellInfoType, h₄]
      ring
  · rw [if_neg h₁, if_neg h₄, if_neg h₂, if_neg h₃, if_pos h₅]
    refine ⟨_, (appendPrintBuf_appends _ s).bind ((appendPrintBuf_appends _ s).bind
      (appendPrintBuf_appends _ s)), ?_⟩
    refine (length_texts (n := 104) ?_).trans ?_
    · simp only [List.cons_append, List.nil_append, List.map_cons, List.map_nil, Conv.textWidth]
      decide
    · simp only [List.cons_append, List.nil_append, List.map_cons, List.map_nil, Conv.argWidth,
        List.sum_cons, List.sum_nil, CellRecord.textWidth, CellUnion.formatWidth,
        CellUnion.fields, CellUnion.cellInfoType, h₅]
      ring

/-- The texts of all the records. -/
theorem logCells_appends {r : ResponseMemory} {cs : List CellRecord}
    (hcells : ∀ i (h : i < cs.length), (r.cellInfos i).record = some cs[i]) (s : ReadState) :
    ∃ lines,
      (logEach (some r) cs.length fun r i => logCell i (r.cellInfos i)).Appends s lines () s ∧
      lines.flatten.length = (cs.mapIdx fun i c => c.textWidth i).sum := by
  have hcell : ∀ i, ∃ lines, ∀ h : i < cs.length,
      (logCell i (r.cellInfos i)).Appends s lines () s ∧
        lines.flatten.length = cs[i].textWidth i := by
    intro i
    by_cases h : i < cs.length
    · obtain ⟨lines, hlines⟩ := logCell_appends (hcells i h) i s
      exact ⟨lines, fun _ => hlines⟩
    · exact ⟨[], fun h' => absurd h' h⟩
  choose lines hlines using hcell
  have hlt : ∀ i ∈ List.range' 0 cs.length, i < cs.length := by
    intro i hi
    rw [List.mem_range'_1] at hi
    omega
  have hloop := LogProg.Appends.loop (f := fun i => logCell i (r.cellInfos i)) (v := fun _ => ())
    cs.length 0 fun i hi => (hlines i (hlt i hi)).1
  have hall := hloop.bind (f := fun _ => .done ()) (.done () s)
  rw [List.append_nil] at hall
  refine ⟨_, hall, ?_⟩
  rw [LogProg.length_lines]
  refine congrArg List.sum (List.ext_getElem ?_ fun i hi _ => ?_)
  · rw [List.length_map, List.length_range', List.length_mapIdx]
  · rw [List.length_map, List.length_range'] at hi
    rw [List.getElem_map, List.getElem_range', List.getElem_mapIdx, Nat.zero_add, Nat.one_mul]
    exact (hlines i hi).2

/-- **The texts fit `printBuf`** iff those of the records do, with the text that is there, three
brackets and the NUL. -/
theorem cellInfoList_fits_iff (env : EncodeEnv) (hsize : 0 < env.platform.sizeOf .cellInfo)
    {r : ResponseMemory} {cs : List CellRecord}
    (hcells : ∀ i (h : i < cs.length), (r.cellInfos i).record = some cs[i])
    (printBuf : List UInt8) :
    LogProg.Fits printbufSize (logSteps (logResponseCellInfoList env (some r)
        (cs.length * env.platform.sizeOf .cellInfo)) printBuf) ↔
      printBuf.length + (cs.mapIdx fun i c => c.textWidth i).sum + 3 ≤ printbufSize := by
  obtain ⟨lines, hlines, hlength⟩ := logCells_appends hcells ⟨Parcel.ofBytes [], true, 0, 0⟩
  rw [← hlength, ← bracketed_fits_iff hlines]
  unfold logResponseCellInfoList arrayLog
  rw [if_neg (by simp), if_neg (by simp), Nat.mul_div_cancel _ hsize]
  rfl

/-! ### The round trip -/

/-- The encoder stays inside `printBuf`, returns without an error, and the decoder reads the whole
payload and recovers every record in its place. -/
def RoundTrips (env : EncodeEnv) (r : ResponseMemory) (cs : List CellRecord)
    (printBuf : List UInt8) : Prop :=
  let responselen := cs.length * env.platform.sizeOf .cellInfo
  LogProg.Fits printbufSize (logSteps (logResponseCellInfoList env (some r) responselen) printBuf) ∧
    ∃ x, responseCellInfoList env (some r) responselen = some x ∧ x.ret = 0 ∧
      present readCellInfoList (Parcel.ofBytes (x.writes.flatMap Write.encoding))
        = some (cs, ⟨x.writes.flatMap Write.encoding,
            (x.writes.flatMap Write.encoding).length⟩)

/-- What is written is read back. -/
theorem cellInfoList_reads {env : EncodeEnv} (hsize : 2 ≤ env.platform.sizeOf .cellInfo)
    {r : ResponseMemory} {cs : List CellRecord}
    (hlen : cs.length * env.platform.sizeOf .cellInfo < 4294967296)
    (hcells : ∀ i (h : i < cs.length), (r.cellInfos i).record = some cs[i])
    (htyped : ∀ c ∈ cs, c.Typed) :
    ∃ x, responseCellInfoList env (some r) (cs.length * env.platform.sizeOf .cellInfo) = some x ∧
      x.ret = 0 ∧ present readCellInfoList (Parcel.ofBytes (x.writes.flatMap Write.encoding))
        = some (cs, ⟨x.writes.flatMap Write.encoding,
            (x.writes.flatMap Write.encoding).length⟩) := by
  refine ⟨_, responseCellInfoList_writes (by omega) hcells, rfl, ?_⟩
  have hcount := isInt32_count hsize hlen
  have hrecords := Reads.readMany cs fun c hc => readCellInfo_reads (htyped c hc)
  have hwhole : Reads readCellInfoList (.int32 cs.length :: cs.flatMap CellRecord.writes) cs := by
    refine .int hcount ?_
    rw [List.map_id'] at hrecords
    exact hrecords
  exact hwhole.whole

/-- **When a list of cells makes the round trip.**  A vendor's array of records of the five types,
printed behind whatever text is there, is written so that the decoder recovers every record in its
place, exactly when the texts of the records fit `printBuf`. -/
theorem cellInfoList_roundTrips_iff (env : EncodeEnv) (hsize : 2 ≤ env.platform.sizeOf .cellInfo)
    (r : ResponseMemory) {cs : List CellRecord}
    (hlen : cs.length * env.platform.sizeOf .cellInfo < 4294967296)
    (hcells : ∀ i (h : i < cs.length), (r.cellInfos i).record = some cs[i])
    (htyped : ∀ c ∈ cs, c.Typed) (printBuf : List UInt8) :
    RoundTrips env r cs printBuf ↔
      printBuf.length + (cs.mapIdx fun i c => c.textWidth i).sum + 3 ≤ printbufSize := by
  rw [← cellInfoList_fits_iff env (by omega) hcells]
  exact and_iff_left (cellInfoList_reads hsize hlen hcells htyped)

/-- A GSM and an LTE cell. -/
def twoCells : List CellRecord :=
  [⟨1, 3, 5000000000, .gsm 310 260 7 21 12 99⟩,
    ⟨0, 3, 5000000001, .lte ⟨310, 260, 4, 5, 6, 30, 90, 10, 20, 15, 2147483647⟩⟩]

/-- The vendor's array of the two. -/
def twoCellsMemory : ResponseMemory :=
  { (default : ResponseMemory) with
    cellInfos := fun i =>
      if i = 0 then
        { (default : CellInfo) with
          cellInfoType := 1, registered := 1, timeStampType := 3, timeStamp := 5000000000
          gsm := ⟨310, 260, 7, 21, 0, 12, 99⟩ }
      else
        { (default : CellInfo) with
          cellInfoType := 3, registered := 0, timeStampType := 3, timeStamp := 5000000001
          lte := ⟨310, 260, 4, 5, 6, 30, 90, 10, 20, 15, 2147483647⟩ } }

/-- `[0007]< GET_CELL_INFO_LIST`, the text a response of token `7` is printed behind. -/
def cellListHead : List UInt8 := printed [.text "[", .dec0 4 7, .text "]< ", .text
  (requestToString 109)]

theorem twoCells_roundTrips :
    RoundTrips ⟨x86, 6, false, 0⟩ twoCellsMemory twoCells cellListHead := by
  have hcells : ∀ i (h : i < twoCells.length),
      (twoCellsMemory.cellInfos i).record = some twoCells[i] := by
    intro i h
    match i, h with
    | 0, _ => rfl
    | 1, _ => rfl
  have htyped : ∀ c ∈ twoCells, c.Typed := by
    intro c hc
    simp only [twoCells, List.mem_cons, List.not_mem_nil, or_false] at hc
    rcases hc with rfl | rfl <;> constructor <;> decide
  exact (cellInfoList_roundTrips_iff ⟨x86, 6, false, 0⟩ (by decide) twoCellsMemory (by decide)
    hcells htyped cellListHead).mpr (by decide +kernel)

/-- An LTE cell each field of which has eleven characters in decimal. -/
def wideCell : CellRecord :=
  ⟨1, 3, 5000000000, .lte ⟨-2147483648, -2147483648, -2147483648, -2147483648, -2147483648,
    -2147483648, -2147483648, -2147483648, -2147483648, -2147483648, -2147483648⟩⟩

theorem wideCell_textWidth (i : ℕ) : 238 ≤ wideCell.textWidth i := by
  have hmember : wideCell.cell.formatWidth
      + (wideCell.cell.fields.map fun v => (Conv.dec v).width).sum = 192 := by decide +kernel
  unfold CellRecord.textWidth
  rw [hmember]
  omega

/-- A vendor's array of them. -/
def wideCellMemory : ResponseMemory :=
  { (default : ResponseMemory) with
    cellInfos := fun _ =>
      { (default : CellInfo) with
        cellInfoType := 3, registered := 1, timeStampType := 3, timeStamp := 5000000000
        lte := ⟨-2147483648, -2147483648, -2147483648, -2147483648, -2147483648, -2147483648,
          -2147483648, -2147483648, -2147483648, -2147483648, -2147483648⟩ } }

/-- The message would have 3860 bytes, and the texts overrun `printBuf`. -/
theorem sixtyCells_overrun :
    (∀ i (h : i < (List.replicate 60 wideCell).length),
        (wideCellMemory.cellInfos i).record = some (List.replicate 60 wideCell)[i]) ∧
      wideCell.Typed ∧
      ¬ RoundTrips ⟨x86, 6, false, 0⟩ wideCellMemory (List.replicate 60 wideCell)
        cellListHead := by
  have hcells : ∀ i (h : i < (List.replicate 60 wideCell).length),
      (wideCellMemory.cellInfos i).record = some (List.replicate 60 wideCell)[i] := by
    intro i h
    rw [List.getElem_replicate]
    rfl
  refine ⟨hcells, by constructor <;> decide, fun h => ?_⟩
  have hfits := (cellInfoList_fits_iff ⟨x86, 6, false, 0⟩ (by decide) hcells cellListHead).mp h.1
  have hsum := List.card_nsmul_le_sum
    ((List.replicate 60 wideCell).mapIdx fun i c => c.textWidth i) 238 (by
      intro n hn
      obtain ⟨i, hi, rfl⟩ := List.mem_mapIdx.mp hn
      rw [List.getElem_replicate]
      exact wideCell_textWidth i)
  rw [List.length_mapIdx, List.length_replicate, smul_eq_mul] at hsum
  unfold printbufSize at hfits
  omega

end CtpCommon.Ril
