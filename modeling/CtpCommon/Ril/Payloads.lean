import CtpCommon.Ril.TaggedRecords

/-!
# Payloads by their functions

What a client has to know of a payload is the function that has written it.

* `PayloadLayout`, `layoutOf` — how a function lays its payload out, for most of the functions;
* `PayloadContents`, `PayloadLayout.reader` — what is read, and the reader;
* `PayloadLayout.payload` — what the vendor has passed;
* `PayloadLayout.Verbatim` — it is written as it is: no signal strength of an old vendor, and no
  negative length in an information record;
* `encode_null` — **PROVED**: a null response that is accepted is an empty array, a null string, or
  nothing;
* `PayloadLayout.reads` — **PROVED**: what a function writes when it returns `0` is read back;
* `PayloadLayout.encoding_pos` — **PROVED**: only the void functions write nothing.
-/

namespace CtpCommon.Ril

open ReadProg
open Parcel (Write IsInt32)

/-- The layouts, with the functions of `RecordResponse` and `HeadedResponse`. -/
inductive PayloadLayout where
  | void
  | string
  | plain (f : RecordResponse)
  | calls
  | infoRecs
  | headed (f : HeadedResponse)
  deriving DecidableEq, Repr

def layoutOf : ResponseFunction → Option PayloadLayout
  | .responseVoid | .responseRadioPower => some .void
  | .responseString => some .string
  | .responseInts | .responseEnterSimPin => some (.plain .ints)
  | .responseStrings => some (.plain .strings)
  | .responseCallForwards => some (.plain .callForwards)
  | .responseCellList => some (.plain .cellList)
  | .responseGsmBrSmsCnf => some (.plain .gsmBrSmsCnf)
  | .responseCdmaBrSmsCnf => some (.plain .cdmaBrSmsCnf)
  | .responseSMS => some (.plain .sms)
  | .responseSsn => some (.plain .ssn)
  | .responseSimIo => some (.plain .simIo)
  | .responseCdmaCallWaiting => some (.plain .callWaiting)
  | .responseCdmaSignalInfoRecord => some (.plain .signalInfo)
  | .responseSimRefresh => some (.plain .simRefresh)
  | .responseRilSignalStrength => some (.plain .signalStrength)
  | .responseCallList => some .calls
  | .responseCdmaInformationRecords => some .infoRecs
  | .responseSimStatus => some (.headed .simStatus)
  | .responseSSData => some (.headed .ssData)
  | _ => none

/-- What is read of a payload. -/
inductive PayloadContents where
  | records (rs : List (List FieldValue))
  | calls (cs : List CallRecord)
  | infoRecs (rs : List (Int × List FieldValue))
  | headed (head : List FieldValue) (rs : List (List FieldValue))
  deriving DecidableEq

namespace PayloadLayout

def reader : PayloadLayout → ReadProg PayloadContents
  | .void => .done (.records [])
  | .string => (readMany 1 (Field.readFields [.string])).bind fun rs => .done (.records rs)
  | .plain f => f.reader.bind fun rs => .done (.records rs)
  | .calls => readCallList.bind fun cs => .done (.calls cs)
  | .infoRecs => readInfoRecs.bind fun rs => .done (.infoRecs rs)
  | .headed f =>
      (readHeaded HeadedResponse.head f.layout).bind fun x => .done (.headed x.1 x.2)

variable (env : EncodeEnv)

/-- The string of a response that is one, which may be null. -/
def stringOf (r : Option ResponseMemory) : FieldValue :=
  RecordResponse.text env (r.map ResponseMemory.string)

/-- What the vendor has passed.  A null array that is accepted is empty, and then nothing of the
memory is looked at. -/
def payload (l : PayloadLayout) (r : Option ResponseMemory) (len : ℕ) : PayloadContents :=
  match l with
  | .void => .records []
  | .string => .records [[stringOf env r]]
  | .plain f => .records (f.records env (r.getD default) len)
  | .calls =>
      .calls ((List.range (len / wordSize)).map fun i => ((r.getD default).calls i).record env)
  | .infoRecs => .infoRecs (infoRecords env (r.getD default).cdmaRecords)
  | .headed f => .headed (f.headOf env (r.getD default) len) (f.records env (r.getD default) len)

/-- The fields hold what their C types can. -/
def Fits (l : PayloadLayout) (r : Option ResponseMemory) (len : ℕ) : Prop :=
  match l with
  | .void => True
  | .string => (stringOf env r).Fits
  | .plain f => ∀ vs ∈ f.records env (r.getD default) len, ∀ v ∈ vs, v.Fits
  | .calls => ∀ i < len / wordSize, (((r.getD default).calls i).record env).Typed
  | .infoRecs =>
      IsInt32 (infoRecCount env (r.getD default).cdmaRecords) ∧
        ∀ x ∈ infoRecords env (r.getD default).cdmaRecords, IsInt32 x.1 ∧ ∀ v ∈ x.2, v.Fits
  | .headed f =>
      IsInt32 (f.count env (r.getD default) len) ∧
        (∀ v ∈ f.headOf env (r.getD default) len, v.Fits) ∧
        ∀ vs ∈ f.records env (r.getD default) len, ∀ v ∈ vs, v.Fits

/-- What is passed is what is written. -/
def Verbatim (l : PayloadLayout) (r : Option ResponseMemory) : Prop :=
  match l with
  | .plain f => f.Verbatim env
  | .infoRecs => InfoLengths env (r.getD default).cdmaRecords
  | _ => True

end PayloadLayout

variable {env : EncodeEnv} {r : Option ResponseMemory} {len : ℕ} {x : Encoded}
  {f : ResponseFunction} {l : PayloadLayout}

/-! ### The null response -/

/-- A null array that is accepted is empty. -/
theorem arrayResponse_null {size : ℕ} {head : ℕ → List Write}
    {each : ResponseMemory → ℕ → List Write}
    (h : arrayResponse size head each none len = some x) (hret : x.ret = 0) (m : ResponseMemory) :
    arrayResponse size head each (some m) len = some x := by
  unfold arrayResponse invalidResponse at h ⊢
  by_cases hlen : len = 0
  · subst hlen
    simpa [forEach] using h
  · rw [if_pos ⟨rfl, hlen⟩] at h
    obtain rfl := Option.some.inj h
    exact absurd hret (by decide)

/-- Nothing comes of it but an error, or a read through the null pointer. -/
def Refused (o : Option Encoded) : Prop := ∀ x, o = some x → x.ret ≠ 0

theorem refused_invalidResponse : Refused invalidResponse := by
  intro x hx
  obtain rfl := Option.some.inj hx
  decide

theorem refused_none : Refused none := fun _ hx => absurd hx (by simp)

theorem Refused.ite {c : Prop} [Decidable c] {o p : Option Encoded} (ho : Refused o)
    (hp : Refused p) : Refused (if c then o else p) := by
  by_cases hc : c
  · rwa [if_pos hc]
  · rwa [if_neg hc]

/-- The arrays that check nothing. -/
theorem forEach_null {n : ℕ} {each : ResponseMemory → ℕ → List Write} {g : List Write → Encoded}
    (h : (forEach none n each).map g = some x) (m : ResponseMemory) :
    (forEach (some m) n each).map g = some x := by
  unfold forEach at h ⊢
  split at h
  · rename_i hzero
    rw [if_pos hzero]
    exact h
  · exact absurd h (by simp)

theorem responseStrings_null (h : responseStrings env none len = some x) (hret : x.ret = 0)
    (m : ResponseMemory) : responseStrings env (some m) len = some x := by
  unfold responseStrings invalidResponse at h ⊢
  by_cases hlen : len = 0
  · subst hlen
    exact h
  · rw [if_pos ⟨rfl, hlen⟩] at h
    obtain rfl := Option.some.inj h
    exact absurd hret (by decide)

/-- The functions that have to look at the response. -/
def lookingFunctions : List ResponseFunction :=
  [.responseSMS, .responseSsn, .responseSimIo, .responseCdmaSignalInfoRecord,
    .responseCdmaCallWaiting, .responseSimRefresh, .responseRilSignalStrength,
    .responseCdmaInformationRecords, .responseSimStatus, .responseSSData]

theorem refused_null (hf : f ∈ lookingFunctions) : Refused (encode env f none len) := by
  have htest := refused_invalidResponse
  cases f with
  | responseSMS | responseSsn | responseSimIo => exact htest
  | responseCdmaSignalInfoRecord => exact htest.ite htest
  | responseCdmaCallWaiting => exact htest.ite refused_none
  | responseSimRefresh => exact htest.ite (refused_none.ite refused_none)
  | responseRilSignalStrength => exact htest.ite (refused_none.ite htest)
  | responseCdmaInformationRecords | responseSSData => exact htest.ite (htest.ite refused_none)
  | responseSimStatus => exact htest.ite (refused_none.ite (refused_none.ite htest))
  | _ => exact absurd hf (by decide)

/-- **A null response** that is accepted is encoded as any other is, unless it is a string. -/
theorem encode_null (hlayout : layoutOf f = some l) (hstring : l ≠ .string)
    (h : encode env f none len = some x) (hret : x.ret = 0) (m : ResponseMemory) :
    encode env f (some m) len = some x := by
  cases f with
  | responseVoid | responseRadioPower => exact h
  | responseString => exact absurd (Option.some.inj hlayout).symm hstring
  | responseInts | responseCallForwards | responseCellList | responseCallList =>
    simp only [encode, responseInts, responseCallForwards, responseCellList,
      responseCallList] at h ⊢
    exact arrayResponse_null h hret m
  | responseEnterSimPin =>
    obtain ⟨y, hy, rfl⟩ := Option.map_eq_some_iff.mp h
    exact Option.map_eq_some_iff.mpr ⟨y, arrayResponse_null hy hret m, rfl⟩
  | responseStrings => exact responseStrings_null h hret m
  | responseGsmBrSmsCnf | responseCdmaBrSmsCnf => exact forEach_null h m
  | responseSMS | responseSsn | responseSimIo | responseCdmaSignalInfoRecord
  | responseCdmaCallWaiting | responseSimRefresh | responseRilSignalStrength
  | responseCdmaInformationRecords | responseSimStatus | responseSSData =>
    exact absurd hret (refused_null (by decide) x h)
  | _ => exact absurd hlayout (by simp [layoutOf])

/-! ### Reading back -/

namespace PayloadLayout

/-- A plain layout is read by its reader, whichever of its functions has written it. -/
theorem plain_reads {g : RecordResponse} {m : ResponseMemory} (hverbatim : g.Verbatim env)
    (hlen : len < 4294967296)
    (hfits : (PayloadLayout.plain g).Fits env (some m) len)
    (h : encode env g.function (some m) len = some x) (hret : x.ret = 0) :
    Reads (PayloadLayout.plain g).reader x.writes
      ((PayloadLayout.plain g).payload env (some m) len) :=
  (g.records_reads hverbatim hlen hfits h hret).map PayloadContents.records

theorem infoRecs_reads {m : ResponseMemory} (hlengths : InfoLengths env m.cdmaRecords)
    (hfits : PayloadLayout.infoRecs.Fits env (some m) len)
    (h : responseCdmaInformationRecords env (some m) len = some x) (hret : x.ret = 0) :
    Reads PayloadLayout.infoRecs.reader x.writes
      (PayloadLayout.infoRecs.payload env (some m) len) := by
  obtain ⟨hnum, hrecs⟩ := hfits
  have heach : ∀ i < (infoRecCount env m.cdmaRecords).toNat,
      IsInt32 (m.cdmaRecords.infoRec i).name ∧
        ∀ v ∈ infoRecord env (m.cdmaRecords.infoRec i), v.Fits := fun i hi =>
    hrecs _ (List.mem_map.mpr ⟨i, List.mem_range.mpr hi, rfl⟩)
  have hreads := readInfoRecs_reads hnum hlengths (fun i hi => (heach i hi).1)
    (fun i hi => (heach i hi).2) h hret
  exact hreads.map PayloadContents.infoRecs

theorem headed_reads {g : HeadedResponse} {m : ResponseMemory}
    (hfits : (PayloadLayout.headed g).Fits env (some m) len)
    (h : encode env g.function (some m) len = some x) (hret : x.ret = 0) :
    Reads (PayloadLayout.headed g).reader x.writes
      ((PayloadLayout.headed g).payload env (some m) len) := by
  obtain ⟨hcount, hhead, hrecords⟩ := hfits
  exact (g.headed_reads hcount hhead hrecords h hret).map fun x =>
    PayloadContents.headed x.1 x.2

/-- A string, which may be null. -/
theorem string_reads (hfits : PayloadLayout.string.Fits env r len)
    (h : responseString env r len = some x) :
    Reads PayloadLayout.string.reader x.writes (PayloadLayout.string.payload env r len) := by
  obtain rfl := Option.some.inj h
  have hone : ∀ vs ∈ [[stringOf env r]],
      vs.map FieldValue.field = [.string] ∧ ∀ v ∈ vs, v.Fits := by
    intro vs hvs
    obtain rfl := List.mem_singleton.mp hvs
    refine ⟨rfl, fun v hv => ?_⟩
    obtain rfl := List.mem_singleton.mp hv
    exact hfits
  exact (readMany_reads hone).map PayloadContents.records

/-- A response that is there. -/
theorem reads_some {m : ResponseMemory} (hlayout : layoutOf f = some l)
    (hverbatim : l.Verbatim env (some m)) (hlen : len < 4294967296)
    (hfits : l.Fits env (some m) len) (h : encode env f (some m) len = some x) (hret : x.ret = 0) :
    Reads l.reader x.writes (l.payload env (some m) len) := by
  cases f with
  | responseVoid | responseRadioPower =>
    obtain rfl := Option.some.inj hlayout
    obtain rfl := Option.some.inj h
    exact .done _
  | responseString =>
    obtain rfl := Option.some.inj hlayout
    exact string_reads hfits h
  | responseEnterSimPin =>
    obtain rfl := Option.some.inj hlayout
    obtain ⟨y, hy, rfl⟩ := Option.map_eq_some_iff.mp h
    have hints : encode env RecordResponse.ints.function (some m) len = some y := hy
    have hreads : Reads _ y.writes _ := plain_reads hverbatim hlen hfits hints hret
    exact hreads
  | responseCallList =>
    obtain rfl := Option.some.inj hlayout
    exact (readCallList_reads hlen hfits h hret).map PayloadContents.calls
  | responseCdmaInformationRecords =>
    obtain rfl := Option.some.inj hlayout
    exact infoRecs_reads hverbatim hfits h hret
  | responseSimStatus | responseSSData =>
    obtain rfl := Option.some.inj hlayout
    exact headed_reads hfits h hret
  | responseInts | responseStrings | responseCallForwards | responseCellList | responseGsmBrSmsCnf
  | responseCdmaBrSmsCnf | responseSMS | responseSsn | responseSimIo | responseCdmaCallWaiting
  | responseCdmaSignalInfoRecord | responseSimRefresh | responseRilSignalStrength =>
    obtain rfl := Option.some.inj hlayout
    exact plain_reads hverbatim hlen hfits h hret
  | _ => exact absurd hlayout (by simp [layoutOf])

/-- **A payload is read back**, if its function returns `0`. -/
theorem reads (hlayout : layoutOf f = some l) (hverbatim : l.Verbatim env r)
    (hlen : len < 4294967296) (hfits : l.Fits env r len)
    (h : encode env f r len = some x) (hret : x.ret = 0) :
    Reads l.reader x.writes (l.payload env r len) := by
  cases r with
  | some m => exact reads_some hlayout hverbatim hlen hfits h hret
  | none =>
    by_cases hstring : l = .string
    · subst hstring
      obtain rfl : f = .responseString := by
        revert hlayout
        cases f <;> decide
      exact string_reads hfits h
    · have hsome := encode_null hlayout hstring h hret default
      cases l with
      | string => exact absurd rfl hstring
      | _ => exact reads_some hlayout hverbatim hlen hfits hsome hret

/-- A reader that begins with a word finds none in nothing. -/
theorem reader_nothing (hvoid : l ≠ .void) (hstring : l ≠ .string) :
    present l.reader (Parcel.ofBytes []) = none := by
  cases l with
  | void => exact absurd rfl hvoid
  | string => exact absurd rfl hstring
  | plain g => cases g <;> decide
  | headed g => cases g <;> decide
  | _ => decide

/-- **Only the void functions write nothing.** -/
theorem encoding_pos (hvoid : l ≠ .void) (hlayout : layoutOf f = some l)
    (hverbatim : l.Verbatim env r) (hlen : len < 4294967296) (hfits : l.Fits env r len)
    (h : encode env f r len = some x) (hret : x.ret = 0) :
    0 < (x.writes.flatMap Write.encoding).length := by
  by_cases hstring : l = .string
  · subst hstring
    obtain rfl : f = .responseString := by
      revert hlayout
      cases f <;> decide
    obtain rfl := Option.some.inj h
    show 0 < ((stringOf env r).write.encoding ++ []).length
    rw [List.append_nil]
    exact (stringOf env r).write_pos
  · have hwhole := (reads hlayout hverbatim hlen hfits h hret).whole
    by_contra hnothing
    have hempty : x.writes.flatMap Write.encoding = [] :=
      List.length_eq_zero_iff.mp (by omega)
    rw [hempty, reader_nothing hvoid hstring] at hwhole
    exact absurd hwhole (by simp)

end PayloadLayout

end CtpCommon.Ril
