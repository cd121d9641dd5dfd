import CtpCommon.Lib.FieldReads
import CtpCommon.Ril.Response

/-!
# The plain payloads

Most response functions write records of one layout: either one of them, or an array after its
length.  A reader that knows the layout alone reads them back.

* `RecordResponse` — the functions, with the layout of a record and the fields of the vendor's
  records;
* `RecordResponse.Verbatim` — the fields are written as the vendor has set them: all but the signal
  strength of an old vendor, some of whose values are replaced;
* `RecordResponse.writes_eq` — **PROVED**: a function that returns `0` writes these fields, in that
  order;
* `records_roundTrip` — **PROVED**: the reader reads the whole payload, and recovers every field.
-/

namespace CtpCommon.Ril

open ReadProg
open Parcel (Write IsInt32)

inductive RecordResponse where
  | ints | strings | callForwards | cellList | gsmBrSmsCnf | cdmaBrSmsCnf | sms | ssn | simIo
  | callWaiting | signalInfo | simRefresh | signalStrength
  deriving DecidableEq, Repr

namespace RecordResponse

def function : RecordResponse → ResponseFunction
  | .ints => .responseInts
  | .strings => .responseStrings
  | .callForwards => .responseCallForwards
  | .cellList => .responseCellList
  | .gsmBrSmsCnf => .responseGsmBrSmsCnf
  | .cdmaBrSmsCnf => .responseCdmaBrSmsCnf
  | .sms => .responseSMS
  | .ssn => .responseSsn
  | .simIo => .responseSimIo
  | .callWaiting => .responseCdmaCallWaiting
  | .signalInfo => .responseCdmaSignalInfoRecord
  | .simRefresh => .responseSimRefresh
  | .signalStrength => .responseRilSignalStrength

/-- The responses that are arrays write their length first. -/
def counted : RecordResponse → Bool
  | .ints | .strings | .callForwards | .cellList | .gsmBrSmsCnf | .cdmaBrSmsCnf => true
  | _ => false

/-- The layout of a record. -/
def fields : RecordResponse → List Field
  | .ints => [.word]
  | .strings => [.string]
  | .callForwards => [.word, .word, .word, .word, .string, .word]
  | .cellList => [.word, .string]
  | .gsmBrSmsCnf => List.replicate 5 .word
  | .cdmaBrSmsCnf => List.replicate 3 .word
  | .sms => [.word, .string, .word]
  | .ssn => [.word, .word, .word, .word, .string]
  | .simIo => [.word, .word, .string]
  | .callWaiting => [.string, .word, .string, .word, .word, .word, .word, .word, .word]
  | .signalInfo => List.replicate 4 .word
  | .simRefresh => [.word, .word, .string]
  | .signalStrength => List.replicate 13 .word

/-- The number of records in a response of some length. -/
def count (f : RecordResponse) (len : ℕ) : ℕ := if f.counted then len / wordSize else 1

variable (env : EncodeEnv)

def text (s : Option CString) : FieldValue := .string (s.map env.platform.strdup8to16)

def forwardFields (cf : CallForwardInfo) : List FieldValue :=
  [.word cf.status, .word cf.reason, .word cf.serviceClass, .word cf.toa, text env cf.number,
    .word cf.timeSeconds]

def signalInfoFields (s : CdmaSignalInfoRecord) : List FieldValue :=
  [.word s.isPresent, .word s.signalType, .word s.alertPitch, .word s.signal]

/-- The words of a signal strength; a structure too short to hold them counts as unknown. -/
def signalStrengthFields (s : SignalStrength) (len : ℕ) : List FieldValue :=
  [.word s.gwSignalStrength, .word s.gwBitErrorRate, .word s.cdmaDbm, .word s.cdmaEcio,
    .word s.evdoDbm, .word s.evdoEcio, .word s.evdoSignalNoiseRatio] ++
  if len ≥ env.platform.sizeOf .signalStrengthV6 then
    [.word s.lteSignalStrength, .word s.lteRsrp, .word s.lteRsrq, .word s.lteRssnr, .word s.lteCqi,
      .word (if len ≥ env.platform.sizeOf .signalStrengthV10 then s.tdScdmaRscp
        else Parcel.int32Max)]
  else .word 99 :: List.replicate 5 (.word Parcel.int32Max)

/-- The fields of the vendor's record at an index. -/
def record (f : RecordResponse) (r : ResponseMemory) (len i : ℕ) : List FieldValue :=
  match f with
  | .ints => [.word (r.ints i)]
  | .strings => [text env (r.strings i)]
  | .callForwards => forwardFields env (r.callForwards i)
  | .cellList => [.word (r.cells i).rssi, text env (r.cells i).cid]
  | .gsmBrSmsCnf =>
      let c := r.gsmBrSmsCnf i
      [.word c.fromServiceId, .word c.toServiceId, .word c.fromCodeScheme, .word c.toCodeScheme,
        .word c.selected.toNat]
  | .cdmaBrSmsCnf =>
      let c := r.cdmaBrSmsCnf i
      [.word c.serviceCategory, .word c.language, .word c.selected.toNat]
  | .sms => [.word r.sms.messageRef, text env r.sms.ackPDU, .word r.sms.errorCode]
  | .ssn => [.word r.ssn.notificationType, .word r.ssn.code, .word r.ssn.index, .word r.ssn.type,
      text env r.ssn.number]
  | .simIo => [.word r.simIo.sw1, .word r.simIo.sw2, text env r.simIo.simResponse]
  | .callWaiting =>
      let c := r.cdmaCallWaiting
      [text env c.number, .word c.numberPresentation, text env c.name] ++
        signalInfoFields c.signalInfoRecord ++
        if len ≥ env.platform.sizeOf .cdmaCallWaitingV6 then
          [.word c.numberType, .word c.numberPlan]
        else [.word 0, .word 0]
  | .signalInfo => signalInfoFields r.cdmaSignal
  | .simRefresh =>
      if env.version = 7 then
        [.word r.simRefresh.result, .word r.simRefresh.efId, text env r.simRefresh.aid]
      else [.word (r.ints 0), .word (r.ints 1), .string none]
  | .signalStrength => signalStrengthFields env r.signalStrength len

def records (f : RecordResponse) (r : ResponseMemory) (len : ℕ) : List (List FieldValue) :=
  (List.range (f.count len)).map (f.record env r len)

/-- The signal strength of a vendor up to version 6 is not written as it is: other values stand for
what it reports as unknown, and its reference power has its sign turned. -/
def Verbatim (f : RecordResponse) : Prop := f = .signalStrength → 6 < env.version

/-- The reader. -/
def reader (f : RecordResponse) : ReadProg (List (List FieldValue)) :=
  if f.counted then readCounted f.fields else readMany 1 (Field.readFields f.fields)

/-- What is written of records. -/
def writesOf (f : RecordResponse) (rs : List (List FieldValue)) : List Write :=
  (if f.counted then [.int32 rs.length] else []) ++ rs.flatMap fun r => r.map FieldValue.write

variable {env} {r : ResponseMemory} {len : ℕ} {x : Encoded}

/-- A record has the layout of its kind. -/
theorem record_fields (f : RecordResponse) (r : ResponseMemory) (len i : ℕ) :
    (f.record env r len i).map FieldValue.field = f.fields := by
  cases f with
  | callWaiting =>
    simp only [record]
    split <;> rfl
  | simRefresh =>
    simp only [record]
    split <;> rfl
  | signalStrength =>
    simp only [record, signalStrengthFields]
    split <;> rfl
  | _ => rfl

/-- **The arrays**: their length, and every record. -/
theorem arrayResponse_writes {size : ℕ} {each : ResponseMemory → ℕ → List Write}
    (h : arrayResponse size (fun num => [.int32 num]) each (some r) len = some x)
    (hret : x.ret = 0) :
    x.writes = .int32 (len / size : ℕ) :: (List.range (len / size)).flatMap (each r) := by
  unfold arrayResponse forEach invalidResponse at h
  rw [if_neg (by simp)] at h
  split at h
  · obtain rfl := Option.some.inj h
    exact absurd hret (by decide)
  · extract_lets num at h
    split at h
    · rename_i hzero
      obtain rfl := Option.some.inj h
      show Write.int32 (num : ℕ) :: [] = .int32 (num : ℕ) :: (List.range num).flatMap (each r)
      rw [hzero]
      rfl
    · obtain rfl := Option.some.inj h
      rfl

theorem structResponse_writes {size : ℕ} {enc : ResponseMemory → List Write}
    (h : structResponse size enc (some r) len = some x) (hret : x.ret = 0) : x.writes = enc r := by
  simp only [structResponse, invalidResponse] at h
  split at h
  · obtain rfl := Option.some.inj h
    exact absurd hret (by decide)
  · obtain rfl := Option.some.inj h
    rfl

/-- What is written of an array: its length, and the fields of its records. -/
theorem counted_writes {f : RecordResponse} (hcounted : f.counted = true) {each : ℕ → List Write}
    (heach : ∀ i, each i = (f.record env r len i).map FieldValue.write)
    (hwrites : x.writes = .int32 (len / wordSize : ℕ) ::
      (List.range (len / wordSize)).flatMap each) :
    x.writes = f.writesOf (f.records env r len) := by
  have hrecords : (List.range (len / wordSize)).flatMap each
      = (f.records env r len).flatMap fun r => r.map FieldValue.write := by
    unfold records count
    rw [if_pos hcounted, List.flatMap_map]
    exact congrArg (fun g => List.flatMap g _) (funext heach)
  have hlength : (f.records env r len).length = len / wordSize := by
    unfold records count
    rw [if_pos hcounted, List.length_map, List.length_range]
  unfold writesOf
  rw [hwrites, hrecords, hlength, if_pos hcounted]
  rfl

/-- The arrays that check their length. -/
theorem array_writes {f : RecordResponse} (hcounted : f.counted = true)
    {each : ResponseMemory → ℕ → List Write}
    (hencode : encode env f.function = arrayResponse wordSize (fun num => [.int32 num]) each)
    (heach : ∀ i, each r i = (f.record env r len i).map FieldValue.write)
    (h : encode env f.function (some r) len = some x) (hret : x.ret = 0) :
    x.writes = f.writesOf (f.records env r len) := by
  rw [hencode] at h
  exact counted_writes hcounted heach (arrayResponse_writes h hret)

/-- The responses that are one record. -/
theorem single_writes {f : RecordResponse} (hcounted : f.counted = false)
    (hwrites : x.writes = (f.record env r len 0).map FieldValue.write) :
    x.writes = f.writesOf (f.records env r len) := by
  have hone : f.records env r len = [f.record env r len 0] := by
    unfold records count
    rw [hcounted]
    rfl
  rw [hone, hwrites]
  unfold writesOf
  rw [hcounted]
  exact (List.append_nil _).symm

/-- The arrays that check nothing. -/
theorem unchecked_writes {f : RecordResponse} (hcounted : f.counted = true)
    {each : ResponseMemory → ℕ → List Write}
    (hencode : encode env f.function (some r) len = (forEach (some r) (len / wordSize) each).map
      fun ws => { writes := .int32 (len / wordSize : ℕ) :: ws })
    (heach : ∀ i, each r i = (f.record env r len i).map FieldValue.write)
    (h : encode env f.function (some r) len = some x) :
    x.writes = f.writesOf (f.records env r len) := by
  rw [hencode] at h
  refine counted_writes hcounted heach ?_
  unfold forEach at h
  split at h
  · rename_i hzero
    obtain rfl := Option.some.inj h
    rw [hzero]
    rfl
  · obtain rfl := Option.some.inj h
    rfl

/-- A vendor above version 6 has its LTE fields written as they are. -/
theorem lteWrites_verbatim (hversion : 6 < env.version) (s : SignalStrength) :
    lteWrites env s len = [.int32 s.lteSignalStrength, .int32 s.lteRsrp, .int32 s.lteRsrq,
      .int32 s.lteRssnr, .int32 s.lteCqi,
      .int32 (if len ≥ env.platform.sizeOf .signalStrengthV10 then s.tdScdmaRscp
        else Parcel.int32Max)] := by
  have hold : ¬ env.version ≤ 6 := by omega
  simp only [lteWrites, hold, false_and, if_false]

/-- **What is written**: the fields of the vendor's records, in their order. -/
theorem writes_eq (f : RecordResponse) (hverbatim : f.Verbatim env)
    (h : encode env f.function (some r) len = some x) (hret : x.ret = 0) :
    x.writes = f.writesOf (f.records env r len) := by
  cases f with
  | ints => exact array_writes rfl rfl (fun i => rfl) h hret
  | callForwards => exact array_writes rfl rfl (fun i => rfl) h hret
  | cellList => exact array_writes rfl rfl (fun i => rfl) h hret
  | strings =>
    have hwrites : x.writes = .int32 (len / wordSize : ℕ) :: (List.range (len / wordSize)).map
        fun i => writeStringToParcel env (r.strings i) := by
      simp only [encode, function, responseStrings, invalidResponse] at h
      rw [if_neg (by simp)] at h
      split at h
      · obtain rfl := Option.some.inj h
        exact absurd hret (by decide)
      · obtain rfl := Option.some.inj h
        rfl
    have heach : ∀ i, [writeStringToParcel env (r.strings i)]
        = (RecordResponse.strings.record env r len i).map FieldValue.write := fun i => rfl
    rw [List.map_eq_flatMap] at hwrites
    exact counted_writes rfl heach hwrites
  | gsmBrSmsCnf => exact unchecked_writes rfl rfl (fun i => rfl) h
  | cdmaBrSmsCnf => exact unchecked_writes rfl rfl (fun i => rfl) h
  | sms =>
    have hstruct : responseSMS env (some r) len = some x := h
    exact single_writes rfl (structResponse_writes hstruct hret)
  | ssn =>
    have hstruct : responseSsn env (some r) len = some x := h
    exact single_writes rfl (structResponse_writes hstruct hret)
  | simIo =>
    have hstruct : responseSimIo env (some r) len = some x := h
    exact single_writes rfl (structResponse_writes hstruct hret)
  | callWaiting =>
    simp only [encode, function, responseCdmaCallWaiting] at h
    rw [if_neg (by simp)] at h
    obtain rfl := Option.some.inj h
    refine single_writes rfl ?_
    simp only [record]
    split <;> rfl
  | signalInfo =>
    simp only [encode, function, responseCdmaSignalInfoRecord, invalidResponse] at h
    split at h
    · obtain rfl := Option.some.inj h
      exact absurd hret (by decide)
    · exact single_writes rfl (structResponse_writes h hret)
  | simRefresh =>
    simp only [encode, function, responseSimRefresh] at h
    rw [if_neg (by simp)] at h
    refine single_writes rfl ?_
    simp only [record]
    split at h
    · rename_i hversion
      obtain rfl := Option.some.inj h
      rw [if_pos hversion]
      rfl
    · rename_i hversion
      obtain rfl := Option.some.inj h
      rw [if_neg hversion]
      rfl
  | signalStrength =>
    simp only [encode, function, responseRilSignalStrength, invalidResponse] at h
    rw [if_neg (by simp)] at h
    split at h
    · obtain rfl := Option.some.inj h
      refine single_writes rfl ?_
      simp only [record, signalStrengthFields, lteWrites_verbatim (hverbatim rfl)]
      split <;> rfl
    · obtain rfl := Option.some.inj h
      exact absurd hret (by decide)

/-! ### Reading back -/

/-- **Records are read back**, by the layout alone. -/
theorem reader_reads (f : RecordResponse) {rs : List (List FieldValue)}
    (hfields : ∀ r ∈ rs, r.map FieldValue.field = f.fields) (hfits : ∀ r ∈ rs, ∀ v ∈ r, v.Fits)
    (hnum : IsInt32 rs.length) (hone : f.counted = false → rs.length = 1) :
    Reads f.reader (f.writesOf rs) rs := by
  unfold reader writesOf
  cases hcounted : f.counted with
  | true =>
    exact readCounted_reads hnum (Int.toNat_natCast _) fun r hr => ⟨hfields r hr, hfits r hr⟩
  | false =>
    rw [if_neg Bool.false_ne_true, if_neg Bool.false_ne_true, List.nil_append, ← hone hcounted]
    exact readMany_reads fun r hr => ⟨hfields r hr, hfits r hr⟩

/-- **The records of a response are read back**, if its function returns `0`. -/
theorem records_reads (f : RecordResponse) (hverbatim : f.Verbatim env) (hlen : len < 4294967296)
    (hfits : ∀ vs ∈ f.records env r len, ∀ v ∈ vs, v.Fits)
    (h : encode env f.function (some r) len = some x) (hret : x.ret = 0) :
    Reads f.reader x.writes (f.records env r len) := by
  have hfields : ∀ vs ∈ f.records env r len, vs.map FieldValue.field = f.fields := by
    intro vs hvs
    obtain ⟨i, -, rfl⟩ := List.mem_map.mp hvs
    exact record_fields f r len i
  have hlength : (f.records env r len).length = f.count len := by
    unfold records
    rw [List.length_map, List.length_range]
  have hnum : IsInt32 (f.records env r len).length := by
    rw [hlength]
    unfold count wordSize
    split
    · constructor <;> omega
    · decide
  have hone : f.counted = false → (f.records env r len).length = 1 := by
    intro hcounted
    rw [hlength]
    unfold count
    rw [hcounted]
    rfl
  rw [writes_eq f hverbatim h hret]
  exact reader_reads f hfields hfits hnum hone

end RecordResponse

/-- **The round trip of the plain payloads.**  Whatever the vendor passes to one of these functions,
a signal strength if it is above version 6: if the function returns `0`, a reader that knows nothing
but the layout of a record reads the whole payload, to its last byte, and recovers every field of
every record in its place. -/
theorem records_roundTrip (env : EncodeEnv) (f : RecordResponse) (hverbatim : f.Verbatim env)
    (r : ResponseMemory) {len : ℕ} (hlen : len < 4294967296)
    (hfits : ∀ vs ∈ f.records env r len, ∀ v ∈ vs, v.Fits) {x : Encoded}
    (h : encode env f.function (some r) len = some x) (hret : x.ret = 0) :
    present f.reader (Parcel.ofBytes (x.writes.flatMap Write.encoding))
      = some (f.records env r len, ⟨x.writes.flatMap Write.encoding,
          (x.writes.flatMap Write.encoding).length⟩) :=
  (f.records_reads hverbatim hlen hfits h hret).whole

/-- Two call forwardings, one without a number. -/
def twoForwards : ResponseMemory :=
  { (default : ResponseMemory) with
    callForwards := fun i =>
      if i = 0 then ⟨1, 2, 1, 145, some [43, 49], 20⟩ else ⟨0, 3, 1, 129, none, 0⟩ }

theorem twoForwards_roundTrip : ∃ x,
    encode ⟨x86, 6, false, 0⟩ .responseCallForwards (some twoForwards) 8 = some x ∧
    present (RecordResponse.reader .callForwards) (Parcel.ofBytes (x.writes.flatMap Write.encoding))
      = some ([[.word 1, .word 2, .word 1, .word 145, .string (some [43, 49]), .word 20],
          [.word 0, .word 3, .word 1, .word 129, .string none, .word 0]],
        ⟨x.writes.flatMap Write.encoding, (x.writes.flatMap Write.encoding).length⟩) := by
  have hlen : 8 < 4294967296 := by decide
  have hfits : ∀ vs ∈ RecordResponse.records ⟨x86, 6, false, 0⟩ .callForwards twoForwards 8,
      ∀ v ∈ vs, v.Fits := by decide
  exact ⟨_, rfl, records_roundTrip ⟨x86, 6, false, 0⟩ .callForwards nofun twoForwards hlen hfits rfl
    rfl⟩

end CtpCommon.Ril
