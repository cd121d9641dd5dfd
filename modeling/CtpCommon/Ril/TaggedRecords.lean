import CtpCommon.Ril.Records

/-!
# The payloads whose layout is in the data

A call may have user-to-user information, an information record is of one of ten kinds, and a
supplementary service is answered by call forwardings or by numbers.  The reader finds out while it
reads.

* `callList_roundTrip` — **PROVED**: every call is read back, with its user-to-user information;
* `infoRecs_roundTrip` — **PROVED**: every information record is read back, by its kind; none has a
  negative length;
* `HeadedResponse`, `headed_roundTrip` — **PROVED**: the card status and the supplementary services
  are read back, by what stands in front.
-/

namespace CtpCommon.Ril

open ReadProg
open RecordResponse (text forwardFields signalInfoFields arrayResponse_writes)
open Parcel (Write IsInt32)

variable {env : EncodeEnv} {r : ResponseMemory} {len : ℕ} {x : Encoded}

/-! ### Calls -/

/-- User-to-user information, as it is read; a negative length has no data. -/
structure UusRecord where
  uusType : Int
  uusDcs : Int
  uusLength : Int
  uusData : Option (List UInt8)
  deriving DecidableEq, Repr

structure UusRecord.Typed (u : UusRecord) : Prop where
  uusType : IsInt32 u.uusType
  uusDcs : IsInt32 u.uusDcs
  uusLength : IsInt32 u.uusLength

structure CallRecord where
  fields : List FieldValue
  uusInfo : Option UusRecord
  deriving DecidableEq, Repr

/-- The fields of a call that has or has not user-to-user information. -/
def callFields : List Field :=
  List.replicate 8 .word ++ [.string, .word, .string, .word]

/-- What a vendor's `RIL_UUS_Info` is. -/
def ResponseUus.record (u : ResponseUus) : Option UusRecord :=
  u.uusData.map fun buf => ⟨u.uusType, u.uusDcs, u.uusLength,
    if 0 ≤ u.uusLength then some ((List.range u.uusLength.toNat).map buf) else none⟩

/-- A vendor's call; before version 3 there is no user-to-user information in it. -/
def Call.record (env : EncodeEnv) (c : Call) : CallRecord where
  fields := [.word c.state, .word c.index, .word c.toa, .word c.isMpty, .word c.isMT, .word c.als,
    .word c.isVoice, .word c.isVoicePrivacy, text env c.number, .word c.numberPresentation,
    text env c.name, .word c.namePresentation]
  uusInfo := if env.version < 3 then none else c.uusInfo.bind ResponseUus.record

/-- The fields hold what their C types can. -/
structure CallRecord.Typed (c : CallRecord) : Prop where
  fields : ∀ v ∈ c.fields, v.Fits
  uusInfo : ∀ u ∈ c.uusInfo, u.Typed

/-! The reader. -/

def readUus : ReadProg (Option UusRecord) := do
  let uusPresent ← readInt32
  if uusPresent = 0 then return none
  else
    let uusType ← readInt32
    let uusDcs ← readInt32
    let uusLength ← readInt32
    let uusData ← readInplace uusLength
    return some ⟨uusType, uusDcs, uusLength, uusData⟩

def readCall : ReadProg CallRecord := do
  let fields ← Field.readFields callFields
  let uusInfo ← readUus
  return ⟨fields, uusInfo⟩

def readCallList : ReadProg (List CallRecord) := do
  let num ← readInt32
  readMany num.toNat readCall

/-- What is written of user-to-user information. -/
def UusRecord.writes (u : UusRecord) : List Write :=
  [.int32 1, .int32 u.uusType, .int32 u.uusDcs, .int32 u.uusLength] ++
    (u.uusData.map Write.bytes).toList

/-- The data of a length that is an `int`. -/
theorem writeBuffer_uus {n : Int} (hn : IsInt32 n) (buf : ℕ → UInt8) : writeBuffer buf (sizeT n)
    = ((if 0 ≤ n then some ((List.range n.toNat).map buf) else none).map Write.bytes).toList := by
  obtain ⟨hlow, hhigh⟩ := hn
  unfold writeBuffer sizeT Parcel.int32Max
  by_cases hpos : 0 ≤ n
  · have hmod : (n % 4294967296).toNat = n.toNat := by omega
    rw [hmod, if_pos (by omega), if_pos hpos]
    rfl
  · rw [if_neg (by omega), if_neg hpos]
    rfl

theorem callWrites_eq {c : Call} (hc : (c.record env).Typed) :
    callWrites env c = (c.record env).fields.map FieldValue.write ++
      match (c.record env).uusInfo with
      | none => [.int32 0]
      | some u => u.writes := by
  have huus := hc.uusInfo
  unfold callWrites Call.record at *
  refine congrArg₂ HAppend.hAppend rfl ?_
  by_cases hversion : env.version < 3
  · rw [if_pos hversion, if_pos hversion]
  simp only [if_neg hversion] at huus ⊢
  cases hinfo : c.uusInfo with
  | none => rfl
  | some u =>
    rw [hinfo] at huus
    cases hdata : u.uusData with
    | none =>
      have hnone : u.record = none := by
        unfold ResponseUus.record
        rw [hdata]
        rfl
      rw [Option.bind_some, hnone]
      simp only [hdata]
    | some buf =>
      have hrecord : u.record = some ⟨u.uusType, u.uusDcs, u.uusLength,
          if 0 ≤ u.uusLength then some ((List.range u.uusLength.toNat).map buf) else none⟩ := by
        unfold ResponseUus.record
        rw [hdata]
        rfl
      rw [Option.bind_some, hrecord] at huus
      rw [Option.bind_some, hrecord]
      have htyped := huus _ rfl
      simp only [hdata]
      rw [writeBuffer_uus htyped.uusLength]
      rfl

theorem readUus_reads {u : UusRecord} (hu : u.Typed)
    (hdata : ∀ bs, u.uusData = some bs → u.uusLength = bs.length)
    (hnone : u.uusData = none → u.uusLength < 0) : Reads readUus u.writes (some u) := by
  obtain ⟨uusType, uusDcs, uusLength, uusData⟩ := u
  refine .int (by decide) <| .int hu.uusType <| .int hu.uusDcs <| .int hu.uusLength ?_
  cases uusData with
  | none => exact Reads.inplaceNeg (hnone rfl) (.done _)
  | some bs =>
    obtain rfl := hdata bs rfl
    exact Reads.inplace bs (.done _)

/-- The data of a vendor's record have its length. -/
theorem ResponseUus.record_data {u : ResponseUus} {v : UusRecord} (h : u.record = some v) :
    (∀ bs, v.uusData = some bs → v.uusLength = bs.length) ∧
      (v.uusData = none → v.uusLength < 0) := by
  obtain ⟨buf, -, rfl⟩ := Option.map_eq_some_iff.mp h
  refine ⟨fun bs hbs => ?_, fun hnone => ?_⟩
  · simp only [Option.ite_none_right_eq_some] at hbs
    obtain ⟨hpos, hbs⟩ := hbs
    obtain rfl := Option.some.inj hbs
    rw [List.length_map, List.length_range]
    exact (Int.toNat_of_nonneg hpos).symm
  · by_contra hpos
    simp only [if_pos (not_lt.mp hpos)] at hnone
    exact absurd hnone (by simp)

/-- A call is read back. -/
theorem readCall_reads {c : Call} (hc : (c.record env).Typed) :
    Reads readCall (callWrites env c) (c.record env) := by
  rw [callWrites_eq hc]
  have hfields : Reads (Field.readFields callFields) _ (c.record env).fields :=
    readFields_reads hc.fields
  have hrest : ∀ {ws : List Write}, Reads readUus ws (c.record env).uusInfo →
      Reads (readUus.bind fun uusInfo => .done (⟨(c.record env).fields, uusInfo⟩ : CallRecord)) ws
        (c.record env) := fun hws => hws.map (CallRecord.mk (c.record env).fields)
  refine hfields.bind (hrest ?_)
  cases huus : (c.record env).uusInfo with
  | none => exact .int (by decide) (.done _)
  | some u =>
    have hrecord : ∃ v : ResponseUus, v.record = some u := by
      simp only [Call.record] at huus
      split at huus
      · exact absurd huus (by simp)
      · obtain ⟨v, -, hv⟩ := Option.bind_eq_some_iff.mp huus
        exact ⟨v, hv⟩
    obtain ⟨v, hv⟩ := hrecord
    obtain ⟨hdata, hnone⟩ := v.record_data hv
    exact readUus_reads (hc.uusInfo u huus) hdata hnone

/-- A list of calls is read back, if it is accepted. -/
theorem readCallList_reads (hlen : len < 4294967296)
    (htyped : ∀ i < len / wordSize, ((r.calls i).record env).Typed)
    (h : responseCallList env (some r) len = some x) (hret : x.ret = 0) :
    Reads readCallList x.writes
      ((List.range (len / wordSize)).map fun i => (r.calls i).record env) := by
  have hnum : IsInt32 (len / wordSize : ℕ) := by
    unfold wordSize
    constructor <;> omega
  have hcalls : Reads (readMany (List.range (len / wordSize)).length readCall)
      ((List.range (len / wordSize)).flatMap fun i => callWrites env (r.calls i))
      ((List.range (len / wordSize)).map fun i => (r.calls i).record env) :=
    Reads.readMany _ fun i hi => readCall_reads (htyped i (List.mem_range.mp hi))
  rw [List.length_range] at hcalls
  rw [arrayResponse_writes h hret]
  exact Reads.int hnum hcalls

/-- **The round trip of a list of calls.**  An array of calls that is accepted is read to its last
byte, and every call recovered: the presentation of number and name, and the user-to-user
information of those that have it. -/
theorem callList_roundTrip (env : EncodeEnv) (r : ResponseMemory) {len : ℕ}
    (hlen : len < 4294967296)
    (htyped : ∀ i < len / wordSize, ((r.calls i).record env).Typed) {x : Encoded}
    (h : responseCallList env (some r) len = some x) (hret : x.ret = 0) :
    present readCallList (Parcel.ofBytes (x.writes.flatMap Write.encoding))
      = some ((List.range (len / wordSize)).map fun i => (r.calls i).record env,
          ⟨x.writes.flatMap Write.encoding, (x.writes.flatMap Write.encoding).length⟩) :=
  (readCallList_reads hlen htyped h hret).whole

/-- A call with three bytes of user-to-user information. -/
def oneCall : ResponseMemory :=
  { (default : ResponseMemory) with
    calls := fun _ =>
      { (default : Call) with
        state := 5, index := 1, toa := 145, number := some [43, 49]
        uusInfo := some ⟨0, 4, 3, some fun i => UInt8.ofNat (i + 65)⟩ } }

theorem oneCall_roundTrip : ∃ x, responseCallList ⟨x86, 6, false, 0⟩ (some oneCall) 4 = some x ∧
    present readCallList (Parcel.ofBytes (x.writes.flatMap Write.encoding))
      = some ([⟨[.word 5, .word 1, .word 145, .word 0, .word 0, .word 0, .word 0, .word 0,
            .string (some [43, 49]), .word 0, .string none, .word 0],
          some ⟨0, 4, 3, some [65, 66, 67]⟩⟩],
        ⟨x.writes.flatMap Write.encoding, (x.writes.flatMap Write.encoding).length⟩) := by
  have hlen : 4 < 4294967296 := by decide
  have htyped : ∀ i < 4 / wordSize, ((oneCall.calls i).record ⟨x86, 6, false, 0⟩).Typed := by
    intro i hi
    obtain rfl : i = 0 := by
      unfold wordSize at hi
      omega
    refine ⟨by decide, fun u hu => ?_⟩
    obtain rfl := Option.some.inj hu
    constructor <;> decide
  exact ⟨_, rfl, callList_roundTrip ⟨x86, 6, false, 0⟩ oneCall hlen htyped rfl rfl⟩

/-! ### Information records -/

/-- The layout of each kind of information record. -/
def infoFields (name : Int) : List Field :=
  if name = 0 ∨ name = 7 then [.string]
  else if name = 1 ∨ name = 2 ∨ name = 3 then .string :: List.replicate 4 .word
  else if name = 4 ∨ name = 6 then List.replicate 4 .word
  else if name = 5 then .string :: List.replicate 5 .word
  else if name = 8 then [.word]
  else [.word, .word]

def numberInfoFields (env : EncodeEnv) (n : CdmaNumberInfoRecord) : List FieldValue :=
  [text env (some (cStringOf n.len n.buf)), .word n.numberType, .word n.numberPlan, .word n.pi,
    .word n.si]

/-- The fields of a record, by its kind. -/
def infoRecord (env : EncodeEnv) (rec : CdmaInformationRecord) : List FieldValue :=
  if rec.name = 0 ∨ rec.name = 7 then
    [text env (some (cStringOf rec.displayAlphaLen rec.displayAlphaBuf))]
  else if rec.name = 1 ∨ rec.name = 2 ∨ rec.name = 3 then numberInfoFields env rec.number
  else if rec.name = 4 then signalInfoFields rec.signal
  else if rec.name = 6 then
    [.word rec.lineCtrlPolarityIncluded, .word rec.lineCtrlToggle, .word rec.lineCtrlReverse,
      .word rec.lineCtrlPowerDenial]
  else if rec.name = 5 then
    numberInfoFields env rec.redirectingNumber ++ [.word rec.redirectingReason]
  else if rec.name = 8 then [.word rec.clirCause]
  else [.word rec.audioCtrlUpLink, .word rec.audioCtrlDownLink]

def readInfoRec : ReadProg (Int × List FieldValue) := do
  let name ← readInt32
  let fields ← Field.readFields (infoFields name)
  return (name, fields)

def readInfoRecs : ReadProg (List (Int × List FieldValue)) := do
  let num ← readInt32
  readMany num.toNat readInfoRec

theorem infoRecord_fields (rec : CdmaInformationRecord) :
    (infoRecord env rec).map FieldValue.field = infoFields rec.name := by
  unfold infoRecord infoFields
  split_ifs <;> first | rfl | omega

theorem numberInfoWrites_eq {n : CdmaNumberInfoRecord} {ws : List Write}
    (h : numberInfoWrites env n = some ws) :
    ws = (numberInfoFields env n).map FieldValue.write := by
  unfold numberInfoWrites at h
  split at h
  · exact absurd h (by simp)
  · obtain rfl := Option.some.inj h
    rfl

/-- **What is written of a record** that is accepted: the fields of its kind. -/
theorem infoRecWrites_eq {rec : CdmaInformationRecord} {ws : List Write}
    (h : infoRecWrites env rec = some ws) : ws = (infoRecord env rec).map FieldValue.write := by
  unfold infoRecWrites at h
  unfold infoRecord
  split_ifs at h with h₀ hlen h₁ h₄ h₅ h₆ h₈ h₁₀
  · rw [if_pos h₀]
    obtain rfl := Option.some.inj h
    rfl
  · rw [if_neg h₀, if_pos h₁]
    exact numberInfoWrites_eq h
  · rw [if_neg h₀, if_neg h₁, if_pos h₄]
    obtain rfl := Option.some.inj h
    rfl
  · obtain ⟨us, hus, rfl⟩ := Option.map_eq_some_iff.mp h
    rw [if_neg h₀, if_neg h₁, if_neg h₄, if_neg (by omega), if_pos h₅, numberInfoWrites_eq hus]
    rfl
  · rw [if_neg h₀, if_neg h₁, if_neg h₄, if_pos h₆]
    obtain rfl := Option.some.inj h
    rfl
  · rw [if_neg h₀, if_neg h₁, if_neg h₄, if_neg h₆, if_neg h₅, if_pos h₈]
    obtain rfl := Option.some.inj h
    rfl
  · rw [if_neg h₀, if_neg h₁, if_neg h₄, if_neg h₆, if_neg h₅, if_neg h₈]
    obtain rfl := Option.some.inj h
    rfl

/-- **The loop**: if it returns `0`, every record is accepted. -/
theorem infoRecsEncoded_eq (recs : List CdmaInformationRecord)
    (hlengths : ∀ rec ∈ recs, rec.NonNeg env.platform) : ∀ {x : Encoded},
    infoRecsEncoded env recs = some x → x.ret = 0 → x.writes
      = recs.flatMap fun rec => .int32 rec.name :: (infoRecord env rec).map FieldValue.write := by
  induction recs with
  | nil =>
    intro x h _
    obtain rfl := Option.some.inj h
    rfl
  | cons rec recs ih =>
    intro x h hret
    obtain ⟨hfirst, hothers⟩ := List.forall_mem_cons.mp hlengths
    simp only [infoRecsEncoded] at h
    rw [if_neg (not_not.mpr hfirst)] at h
    split at h
    · obtain rfl := Option.some.inj h
      have hrejected : rilErrnoInvalidResponse = 0 := hret
      exact absurd hrejected (by decide)
    · rename_i ws hws
      obtain ⟨rest, hrest, rfl⟩ := Option.map_eq_some_iff.mp h
      rw [List.flatMap_cons, ← ih hothers hrest hret]
      show Write.int32 rec.name :: ws ++ _ = _
      rw [infoRecWrites_eq hws]

/-- A record is read back. -/
theorem readInfoRec_reads {rec : CdmaInformationRecord} (hname : IsInt32 rec.name)
    (hfits : ∀ v ∈ infoRecord env rec, v.Fits) :
    Reads readInfoRec (.int32 rec.name :: (infoRecord env rec).map FieldValue.write)
      (rec.name, infoRecord env rec) := by
  refine .int hname ?_
  have hfields := readFields_reads hfits
  rw [infoRecord_fields] at hfields
  exact hfields.map (rec.name, ·)

/-- The records that are written: no more than the structure has room for. -/
def infoRecCount (env : EncodeEnv) (c : CdmaInformationRecords) : Int :=
  min c.numberOfInfoRecs env.platform.cdmaMaxNumberOfInfoRecs

/-- The records of a vendor, with their kinds. -/
def infoRecords (env : EncodeEnv) (c : CdmaInformationRecords) : List (Int × List FieldValue) :=
  (List.range (infoRecCount env c).toNat).map fun i =>
    ((c.infoRec i).name, infoRecord env (c.infoRec i))

/-- No string of the records has a negative length: below `-1` there is no block to copy it into,
and at `-1` the terminator is written in front of the block. -/
def InfoLengths (env : EncodeEnv) (c : CdmaInformationRecords) : Prop :=
  ∀ i < (infoRecCount env c).toNat, (c.infoRec i).NonNeg env.platform

instance (env : EncodeEnv) (c : CdmaInformationRecords) : Decidable (InfoLengths env c) :=
  inferInstanceAs (Decidable (∀ i < (infoRecCount env c).toNat, (c.infoRec i).NonNeg env.platform))

/-- The records are read back, if they are accepted. -/
theorem readInfoRecs_reads (hnum : IsInt32 (infoRecCount env r.cdmaRecords))
    (hlengths : InfoLengths env r.cdmaRecords)
    (hname : ∀ i < (infoRecCount env r.cdmaRecords).toNat, IsInt32 (r.cdmaRecords.infoRec i).name)
    (hfits : ∀ i < (infoRecCount env r.cdmaRecords).toNat,
      ∀ v ∈ infoRecord env (r.cdmaRecords.infoRec i), v.Fits)
    (h : responseCdmaInformationRecords env (some r) len = some x) (hret : x.ret = 0) :
    Reads readInfoRecs x.writes (infoRecords env r.cdmaRecords) := by
  unfold responseCdmaInformationRecords invalidResponse at h
  rw [if_neg (by simp)] at h
  split at h
  · obtain rfl := Option.some.inj h
    exact absurd hret (by decide)
  obtain ⟨y, hy, rfl⟩ := Option.map_eq_some_iff.mp h
  have hall : ∀ rec ∈ (List.range (infoRecCount env r.cdmaRecords).toNat).map
      r.cdmaRecords.infoRec, rec.NonNeg env.platform := by
    intro rec hrec
    obtain ⟨i, hi, rfl⟩ := List.mem_map.mp hrec
    exact hlengths i (List.mem_range.mp hi)
  have hwrites := infoRecsEncoded_eq _ hall hy hret
  have hrecs : Reads
      (readMany (List.range (infoRecCount env r.cdmaRecords).toNat).length readInfoRec)
      _ _ := Reads.readMany _ fun i hi =>
    readInfoRec_reads (hname i (List.mem_range.mp hi)) (hfits i (List.mem_range.mp hi))
  rw [List.length_range] at hrecs
  refine Reads.int hnum ?_
  rw [hwrites, List.flatMap_map]
  exact hrecs

/-- **The round trip of the information records.**  If no length is negative and the records are
accepted, the reader, which learns the layout of each from its kind, reads the whole payload, and
recovers every record. -/
theorem infoRecs_roundTrip (env : EncodeEnv) (r : ResponseMemory) {len : ℕ}
    (hnum : IsInt32 (infoRecCount env r.cdmaRecords)) (hlengths : InfoLengths env r.cdmaRecords)
    (hname : ∀ i < (infoRecCount env r.cdmaRecords).toNat, IsInt32 (r.cdmaRecords.infoRec i).name)
    (hfits : ∀ i < (infoRecCount env r.cdmaRecords).toNat,
      ∀ v ∈ infoRecord env (r.cdmaRecords.infoRec i), v.Fits) {x : Encoded}
    (h : responseCdmaInformationRecords env (some r) len = some x) (hret : x.ret = 0) :
    present readInfoRecs (Parcel.ofBytes (x.writes.flatMap Write.encoding))
      = some (infoRecords env r.cdmaRecords,
          ⟨x.writes.flatMap Write.encoding, (x.writes.flatMap Write.encoding).length⟩) :=
  (readInfoRecs_reads hnum hlengths hname hfits h hret).whole

/-- A text to display, and a number. -/
def twoInfoRecs : ResponseMemory :=
  { (default : ResponseMemory) with
    cdmaRecords :=
      { numberOfInfoRecs := 2
        infoRec := fun i =>
          if i = 0 then
            { (default : CdmaInformationRecord) with
              name := 0, displayAlphaLen := 2, displayAlphaBuf := fun _ => 72 }
          else
            { (default : CdmaInformationRecord) with
              name := 2, number := ⟨1, fun _ => 55, 2, 1, 0, 0⟩ } } }

theorem twoInfoRecs_roundTrip : ∃ x,
    responseCdmaInformationRecords ⟨x86, 6, false, 0⟩ (some twoInfoRecs) 964 = some x ∧
    present readInfoRecs (Parcel.ofBytes (x.writes.flatMap Write.encoding))
      = some ([(0, [.string (some [72, 72])]),
          (2, [.string (some [55]), .word 2, .word 1, .word 0, .word 0])],
        ⟨x.writes.flatMap Write.encoding, (x.writes.flatMap Write.encoding).length⟩) := by
  have hname : ∀ i < (infoRecCount ⟨x86, 6, false, 0⟩ twoInfoRecs.cdmaRecords).toNat,
      Parcel.IsInt32 (twoInfoRecs.cdmaRecords.infoRec i).name := by decide
  have hfits : ∀ i < (infoRecCount ⟨x86, 6, false, 0⟩ twoInfoRecs.cdmaRecords).toNat,
      ∀ v ∈ infoRecord ⟨x86, 6, false, 0⟩ (twoInfoRecs.cdmaRecords.infoRec i), v.Fits := by decide
  have hwritten : ∃ x, responseCdmaInformationRecords ⟨x86, 6, false, 0⟩ (some twoInfoRecs) 964
      = some x ∧ x.ret = 0 := ⟨_, rfl, rfl⟩
  obtain ⟨x, hx, hret⟩ := hwritten
  exact ⟨x, hx, infoRecs_roundTrip ⟨x86, 6, false, 0⟩ twoInfoRecs (by decide) (by decide) hname
    hfits hx hret⟩

/-! ### Records whose layout stands in front -/

/-- The card status, and the supplementary services of the SIM toolkit. -/
inductive HeadedResponse where
  | simStatus | ssData
  deriving DecidableEq, Repr

namespace HeadedResponse

def function : HeadedResponse → ResponseFunction
  | .simStatus => .responseSimStatus
  | .ssData => .responseSSData

/-- Five words stand in front of both. -/
def head : List Field := List.replicate 5 .word

/-- A card has applications; the request that has been answered says what answers it. -/
def layout : HeadedResponse → List FieldValue → List Field
  | .simStatus, _ => [.word, .word, .word, .string, .string, .word, .word, .word]
  | .ssData, .word serviceType :: .word requestType :: _ =>
      if isServiceTypeCfQuery serviceType requestType then RecordResponse.callForwards.fields
      else [.word]
  | .ssData, _ => [.word]

/-- An old card status has no index of an IMS application. -/
def cardStatus (env : EncodeEnv) (r : ResponseMemory) (len : ℕ) : CardStatus :=
  if len = env.platform.sizeOf .cardStatusV6 then r.cardStatus .cardStatusV6
  else { r.cardStatus .cardStatusV5 with imsSubscriptionAppIndex := -1 }

def appFields (env : EncodeEnv) (a : AppStatus) : List FieldValue :=
  [.word a.appType, .word a.appState, .word a.persoSubstate, text env a.aidPtr,
    text env a.appLabelPtr, .word a.pin1Replaced, .word a.pin1, .word a.pin2]

/-- The words in front, in the vendor's memory. -/
def headOf (env : EncodeEnv) (f : HeadedResponse) (r : ResponseMemory) (len : ℕ) :
    List FieldValue :=
  match f with
  | .simStatus =>
      let c := cardStatus env r len
      [.word c.cardState, .word c.universalPinState, .word c.gsmUmtsSubscriptionAppIndex,
        .word c.cdmaSubscriptionAppIndex, .word c.imsSubscriptionAppIndex]
  | .ssData =>
      let s := r.ssData
      [.word s.serviceType, .word s.requestType, .word s.teleserviceType, .word s.serviceClass,
        .word s.result]

/-- How many records there are: no more call forwardings than the structure has room for. -/
def count (env : EncodeEnv) (f : HeadedResponse) (r : ResponseMemory) (len : ℕ) : Int :=
  match f with
  | .simStatus => (cardStatus env r len).numApplications
  | .ssData =>
      if isServiceTypeCfQuery r.ssData.serviceType r.ssData.requestType then
        min r.ssData.numValidIndexes env.platform.numServiceClasses
      else env.platform.ssInfoMax

def record (env : EncodeEnv) (f : HeadedResponse) (r : ResponseMemory) (len i : ℕ) :
    List FieldValue :=
  match f with
  | .simStatus => appFields env ((cardStatus env r len).applications i)
  | .ssData =>
      if isServiceTypeCfQuery r.ssData.serviceType r.ssData.requestType then
        forwardFields env (r.ssData.cfInfo i)
      else [.word (r.ssData.ssInfo i)]

def records (env : EncodeEnv) (f : HeadedResponse) (r : ResponseMemory) (len : ℕ) :
    List (List FieldValue) :=
  (List.range (f.count env r len).toNat).map (f.record env r len)

theorem headOf_fields (f : HeadedResponse) (r : ResponseMemory) (len : ℕ) :
    (f.headOf env r len).map FieldValue.field = head := by
  cases f <;> rfl

theorem record_fields (f : HeadedResponse) (r : ResponseMemory) (len i : ℕ) :
    (f.record env r len i).map FieldValue.field = f.layout (f.headOf env r len) := by
  cases f with
  | simStatus => rfl
  | ssData =>
    simp only [record, headOf, layout]
    split <;> rfl

/-- **What is written**: the words in front, the number of records, and the records. -/
theorem writes_eq (f : HeadedResponse) (h : encode env f.function (some r) len = some x)
    (hret : x.ret = 0) : x.writes = (f.headOf env r len).map FieldValue.write ++
      .int32 (f.count env r len) ::
        (f.records env r len).flatMap fun r => r.map FieldValue.write := by
  unfold records
  rw [List.flatMap_map]
  cases f with
  | simStatus =>
    simp only [encode, function, responseSimStatus, invalidResponse] at h
    rw [if_neg (by simp)] at h
    simp only [headOf, count, record, cardStatus]
    split at h
    · rename_i hsize
      obtain rfl := Option.some.inj h
      rw [if_pos hsize]
      rfl
    · rename_i hsize
      rw [if_neg hsize]
      split at h
      · obtain rfl := Option.some.inj h
        rfl
      · obtain rfl := Option.some.inj h
        exact absurd hret (by decide)
  | ssData =>
    simp only [encode, function, responseSSData, invalidResponse] at h
    rw [if_neg (by simp)] at h
    split at h
    · obtain rfl := Option.some.inj h
      exact absurd hret (by decide)
    · obtain rfl := Option.some.inj h
      simp only [headOf, count, record]
      split
      · rfl
      · show _ ++ _ :: List.map _ _ = _
        rw [List.map_eq_flatMap]
        rfl

/-- The words and the records are read back, if the response is accepted. -/
theorem headed_reads (f : HeadedResponse) (hcount : IsInt32 (f.count env r len))
    (hhead : ∀ v ∈ f.headOf env r len, v.Fits)
    (hfits : ∀ vs ∈ f.records env r len, ∀ v ∈ vs, v.Fits)
    (h : encode env f.function (some r) len = some x) (hret : x.ret = 0) :
    Reads (readHeaded head f.layout) x.writes (f.headOf env r len, f.records env r len) := by
  have hfields : ∀ vs ∈ f.records env r len,
      vs.map FieldValue.field = f.layout (f.headOf env r len) := by
    intro vs hvs
    obtain ⟨i, -, rfl⟩ := List.mem_map.mp hvs
    exact record_fields f r len i
  have hlength : (f.count env r len).toNat = (f.records env r len).length := by
    unfold records
    rw [List.length_map, List.length_range]
  rw [writes_eq f h hret]
  exact readHeaded_reads (headOf_fields f r len) hhead hcount hlength
    fun vs hvs => ⟨hfields vs hvs, hfits vs hvs⟩

end HeadedResponse

open HeadedResponse in
/-- **The round trip of the card status and of the supplementary services.**  If the response is
accepted, the reader, which learns the layout of the records from the words in front of them, reads
the whole payload, and recovers every word and every record. -/
theorem headed_roundTrip (env : EncodeEnv) (f : HeadedResponse) (r : ResponseMemory) {len : ℕ}
    (hcount : IsInt32 (f.count env r len)) (hhead : ∀ v ∈ f.headOf env r len, v.Fits)
    (hfits : ∀ vs ∈ f.records env r len, ∀ v ∈ vs, v.Fits) {x : Encoded}
    (h : encode env f.function (some r) len = some x) (hret : x.ret = 0) :
    present (readHeaded head f.layout) (Parcel.ofBytes (x.writes.flatMap Write.encoding))
      = some ((f.headOf env r len, f.records env r len),
          ⟨x.writes.flatMap Write.encoding, (x.writes.flatMap Write.encoding).length⟩) :=
  (f.headed_reads hcount hhead hfits h hret).whole

/-- The call forwarding of a number is asked for by the SIM. -/
def forwardQuery : ResponseMemory :=
  { (default : ResponseMemory) with
    ssData :=
      { (default : StkCcUnsolSsResponse) with
        serviceType := 1, requestType := 2, numValidIndexes := 1
        cfInfo := fun _ => ⟨1, 1, 1, 145, some [43, 49], 0⟩ } }

theorem forwardQuery_roundTrip : ∃ x,
    encode ⟨x86, 6, false, 0⟩ .responseSSData (some forwardQuery) 192 = some x ∧
    present (readHeaded HeadedResponse.head (HeadedResponse.layout .ssData))
        (Parcel.ofBytes (x.writes.flatMap Write.encoding))
      = some (([.word 1, .word 2, .word 0, .word 0, .word 0],
          [[.word 1, .word 1, .word 1, .word 145, .string (some [43, 49]), .word 0]]),
        ⟨x.writes.flatMap Write.encoding, (x.writes.flatMap Write.encoding).length⟩) := by
  have hhead : ∀ v ∈ HeadedResponse.headOf ⟨x86, 6, false, 0⟩ .ssData forwardQuery 192, v.Fits := by
    decide
  have hfits : ∀ vs ∈ HeadedResponse.records ⟨x86, 6, false, 0⟩ .ssData forwardQuery 192,
      ∀ v ∈ vs, v.Fits := by decide
  exact ⟨_, rfl, headed_roundTrip ⟨x86, 6, false, 0⟩ .ssData forwardQuery (by decide) hhead hfits
    rfl rfl⟩

end CtpCommon.Ril
