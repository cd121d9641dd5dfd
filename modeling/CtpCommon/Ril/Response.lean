import CtpCommon.Ril.Commands

/-!
# The response functions

Each `response…` function of `ril.cpp` turns the memory the vendor passes into writes at the end
of a parcel, and returns `0` or `RIL_ERRNO_INVALID_RESPONSE`.

* `Encoded` — the writes, the return value, and the two side effects some of them have: a local
  request (`enableNetworkSelectionAutomatic`) and the counter of DNS failures;
* an encoder gives `none` where the code would read through a null pointer, or write in front of a
  block it has allocated;
* `arrayResponse`, `structResponse` — the two shapes most of the family has;
* `encode` — the function a table entry names;
* `encode_isSome` — **PROVED**: on a non-null response none of them reads through a null pointer,
  and only one can write in front of a block.

What they print is left to `CtpCommon.Ril.ResponseLog`.
-/

namespace CtpCommon.Ril

open Parcel (Write int32Max)

/-- `RIL_ERRNO_INVALID_RESPONSE`. -/
def rilErrnoInvalidResponse : Int := -1

/-- What the encoders read beside the response. -/
structure EncodeEnv where
  platform : Platform
  version : Int
  radioIsOn : Bool
  dnsFailures : ℕ

/-- What an encoder does.  `dnsFailures` is the new value of the counter, where it is written. -/
structure Encoded where
  writes : List Write
  ret : Int := 0
  localRequest : Bool := false
  dnsFailures : Option ℕ := none
  deriving DecidableEq, Repr

/-- `return RIL_ERRNO_INVALID_RESPONSE` before anything is written. -/
def invalidResponse : Option Encoded := some { writes := [], ret := rilErrnoInvalidResponse }

/-- `for (i = 0; i < n; i++)` over the response; only an iteration reads through the pointer. -/
def forEach (response : Option ResponseMemory) (n : ℕ) (f : ResponseMemory → ℕ → List Write) :
    Option (List Write) :=
  if n = 0 then some [] else response.map fun r => (List.range n).flatMap (f r)

/-- The checks, the header and the loop of the responses that are arrays of `size`-byte
elements. -/
def arrayResponse (size : ℕ) (head : ℕ → List Write) (each : ResponseMemory → ℕ → List Write)
    (response : Option ResponseMemory) (responselen : ℕ) : Option Encoded :=
  if response.isNone ∧ responselen ≠ 0 then invalidResponse
  else if responselen % size ≠ 0 then invalidResponse
  else
    let num := responselen / size
    (forEach response num each).map fun ws => { writes := head num ++ ws }

/-- The checks of the responses that are one structure of exactly `size` bytes. -/
def structResponse (size : ℕ) (enc : ResponseMemory → List Write)
    (response : Option ResponseMemory) (responselen : ℕ) : Option Encoded :=
  match response with
  | none => invalidResponse
  | some r => if responselen ≠ size then invalidResponse else some { writes := enc r }

/-- `p.write(buf, len)`, which refuses lengths above `INT32_MAX`. -/
def writeBuffer (buf : ℕ → UInt8) (len : ℕ) : List Write :=
  if (len : Int) ≤ int32Max then [.bytes ((List.range len).map buf)] else []

/-- The C string `malloc`ed from the first `len` bytes of a buffer. -/
def cStringOf (len : Int) (buf : ℕ → UInt8) : CString :=
  ((List.range len.toNat).map buf).takeWhile (· ≠ 0)

variable (env : EncodeEnv)

def writeStringToParcel (s : Option CString) : Write :=
  .string16 (s.map env.platform.strdup8to16)

/-! ### Integers and strings -/

def responseInts : Option ResponseMemory → ℕ → Option Encoded :=
  arrayResponse wordSize (fun num => [.int32 num]) fun r i => [.int32 (r.ints i)]

def responseFailCause (response : Option ResponseMemory) (responselen : ℕ) : Option Encoded :=
  if response.isNone ∧ responselen ≠ 0 then invalidResponse
  else if responselen = wordSize then
    response.map fun r => { writes := [.int32 (r.ints 0)] }
  else if responselen = env.platform.sizeOf .lastCallFailCauseInfo then
    response.map fun r => { writes :=
      [.int32 r.failCause.causeCode, writeStringToParcel env r.failCause.vendorCause] }
  else invalidResponse

def responseStrings (response : Option ResponseMemory) (responselen : ℕ) : Option Encoded :=
  if response.isNone ∧ responselen ≠ 0 then invalidResponse
  else if responselen % wordSize ≠ 0 then invalidResponse
  else
    match response with
    | none => some { writes := [.int32 0] }
    | some r =>
        let numStrings := responselen / wordSize
        some { writes := .int32 numStrings ::
          (List.range numStrings).map fun i => writeStringToParcel env (r.strings i) }

def responseStringsWithVersion (version : Int) (response : Option ResponseMemory)
    (responselen : ℕ) : Option Encoded :=
  (responseStrings env response responselen).map fun x =>
    { x with writes := .int32 version :: x.writes }

/-- `responselen` is ignored. -/
def responseString (response : Option ResponseMemory) (_responselen : ℕ) : Option Encoded :=
  some { writes := [writeStringToParcel env (response.map ResponseMemory.string)] }

def responseVoid (_response : Option ResponseMemory) (_responselen : ℕ) : Option Encoded :=
  some { writes := [] }

/-- `enableNetworkSelectionAutomatic()` before the encoding. -/
def responseEnterSimPin (response : Option ResponseMemory) (responselen : ℕ) : Option Encoded :=
  (responseInts response responselen).map fun x => { x with localRequest := true }

def responseRadioPower (response : Option ResponseMemory) (responselen : ℕ) : Option Encoded :=
  (responseVoid response responselen).map fun x => { x with localRequest := env.radioIsOn }

def responseRaw (response : Option ResponseMemory) (responselen : ℕ) : Option Encoded :=
  if response.isNone ∧ responselen ≠ 0 then invalidResponse
  else
    match response with
    | none => some { writes := [.int32 (-1)] }
    | some r => some { writes := .int32 responselen :: writeBuffer r.bytes responselen }

/-! ### Calls and messages -/

def callWrites (c : Call) : List Write :=
  [.int32 c.state, .int32 c.index, .int32 c.toa, .int32 c.isMpty, .int32 c.isMT, .int32 c.als,
    .int32 c.isVoice, .int32 c.isVoicePrivacy, writeStringToParcel env c.number,
    .int32 c.numberPresentation, writeStringToParcel env c.name, .int32 c.namePresentation] ++
  if env.version < 3 then [.int32 0]
  else
    match c.uusInfo with
    | none => [.int32 0]
    | some u =>
        match u.uusData with
        | none => [.int32 0]
        | some buf => [.int32 1, .int32 u.uusType, .int32 u.uusDcs, .int32 u.uusLength] ++
            writeBuffer buf (sizeT u.uusLength)

def responseCallList : Option ResponseMemory → ℕ → Option Encoded :=
  arrayResponse wordSize (fun num => [.int32 num]) fun r i => callWrites env (r.calls i)

def responseSMS : Option ResponseMemory → ℕ → Option Encoded :=
  structResponse (env.platform.sizeOf .smsResponse) fun r =>
    [.int32 r.sms.messageRef, writeStringToParcel env r.sms.ackPDU, .int32 r.sms.errorCode]

def callForwardWrites (cf : CallForwardInfo) : List Write :=
  [.int32 cf.status, .int32 cf.reason, .int32 cf.serviceClass, .int32 cf.toa,
    writeStringToParcel env cf.number, .int32 cf.timeSeconds]

def responseCallForwards : Option ResponseMemory → ℕ → Option Encoded :=
  arrayResponse wordSize (fun num => [.int32 num]) fun r i =>
    callForwardWrites env (r.callForwards i)

def responseSsn : Option ResponseMemory → ℕ → Option Encoded :=
  structResponse (env.platform.sizeOf .suppSvcNotification) fun r =>
    [.int32 r.ssn.notificationType, .int32 r.ssn.code, .int32 r.ssn.index, .int32 r.ssn.type,
      writeStringToParcel env r.ssn.number]

def responseSimIo : Option ResponseMemory → ℕ → Option Encoded :=
  structResponse (env.platform.sizeOf .simIoResponse) fun r =>
    [.int32 r.simIo.sw1, .int32 r.simIo.sw2, writeStringToParcel env r.simIo.simResponse]

/-! ### Data calls -/

def responseDataCallListV4 : Option ResponseMemory → ℕ → Option Encoded :=
  arrayResponse (env.platform.sizeOf .dataCallResponseV4) (fun num => [.int32 4, .int32 num])
    fun r i =>
      let d := r.dataCallsV4 i
      [.int32 d.cid, .int32 d.active, writeStringToParcel env d.type,
        writeStringToParcel env d.address]

/-- Not `NULL`, not `"0.0.0.0"` and not `"::"`. -/
def isValidAddr (addr : Option CString) : Bool :=
  addr ≠ none ∧ addr ≠ some [48, 46, 48, 46, 48, 46, 48] ∧ addr ≠ some [58, 58]

def maxDnsFailures : ℕ := 3
def pdpFailActivationRejectUnspecified : Int := 31
def pdpFailRegularDeactivation : Int := 36

/-- The status written for one data call and the counter after it; the vendor's status is a
`short` copied into an `int`. -/
def statusV6 (nDnsFailures : ℕ) (d : DataCallResponse) : Int × ℕ :=
  let status := Int.bmod d.status 65536
  if status = 0 ∧ !isValidAddr d.dnses then
    if nDnsFailures + 1 ≥ maxDnsFailures then (pdpFailRegularDeactivation, 0)
    else (pdpFailActivationRejectUnspecified, nDnsFailures + 1)
  else if status = 0 then (status, 0)
  else (status, nDnsFailures)

/-- The fields every version from 6 on has, after the status. -/
def dataCallWrites (status : Int) (d : DataCallResponse) : List Write :=
  [.int32 status, .int32 d.suggestedRetryTime, .int32 d.cid, .int32 d.active,
    writeStringToParcel env d.type, writeStringToParcel env d.ifname,
    writeStringToParcel env d.addresses, writeStringToParcel env d.dnses,
    writeStringToParcel env d.gateways]

def dataCallsV6 : ℕ → List DataCallResponse → List Write × ℕ
  | n, [] => ([], n)
  | n, d :: ds =>
      let s := statusV6 n d
      let rest := dataCallsV6 s.2 ds
      (dataCallWrites env s.1 d ++ rest.1, rest.2)

def responseDataCallListV6 (response : Option ResponseMemory) (responselen : ℕ) :
    Option Encoded :=
  let size := env.platform.sizeOf .dataCallResponseV6
  if response.isNone ∧ responselen ≠ 0 then invalidResponse
  else if responselen % size ≠ 0 then invalidResponse
  else
    let num := responselen / size
    let head : List Write := [.int32 6, .int32 num]
    if num = 0 then some { writes := head }
    else
      response.map fun r =>
        let x := dataCallsV6 env env.dnsFailures
          ((List.range num).map (r.dataCalls .dataCallResponseV6))
        { writes := head ++ x.1, dnsFailures := some x.2 }

/-- The version written is `10`. -/
def responseDataCallListV9 : Option ResponseMemory → ℕ → Option Encoded :=
  arrayResponse (env.platform.sizeOf .dataCallResponseV9) (fun num => [.int32 10, .int32 num])
    fun r i =>
      let d := r.dataCalls .dataCallResponseV9 i
      dataCallWrites env d.status d ++ [writeStringToParcel env d.pcscf]

def responseDataCallList (response : Option ResponseMemory) (responselen : ℕ) :
    Option Encoded :=
  if env.version < 5 then responseDataCallListV4 env response responselen
  else if responselen % env.platform.sizeOf .dataCallResponseV6 = 0 then
    responseDataCallListV6 env response responselen
  else if responselen % env.platform.sizeOf .dataCallResponseV9 = 0 then
    responseDataCallListV9 env response responselen
  else
    arrayResponse (env.platform.sizeOf .dataCallResponseV11)
      (fun num => [.int32 11, .int32 num])
      (fun r i =>
        let d := r.dataCalls .dataCallResponseV11 i
        dataCallWrites env d.status d ++ [writeStringToParcel env d.pcscf, .int32 d.mtu])
      response responselen

def responseSetupDataCall (response : Option ResponseMemory) (responselen : ℕ) :
    Option Encoded :=
  if env.version < 5 then responseStringsWithVersion env env.version response responselen
  else responseDataCallList env response responselen

/-! ### Cells and signal -/

def responseCellList : Option ResponseMemory → ℕ → Option Encoded :=
  arrayResponse wordSize (fun num => [.int32 num]) fun r i =>
    [.int32 (r.cells i).rssi, writeStringToParcel env (r.cells i).cid]

/-- The LTE fields, remapped for vendors up to version 6, and the TD-SCDMA field. -/
def lteWrites (s : SignalStrength) (responselen : ℕ) : List Write :=
  let fix (v w : Int) : Int := if env.version ≤ 6 ∧ v = -1 then w else v
  let rsrp :=
    if env.version ≤ 6 ∧ s.lteRsrp < -1 then -s.lteRsrp else fix s.lteRsrp int32Max
  [.int32 (fix s.lteSignalStrength 99), .int32 rsrp, .int32 (fix s.lteRsrq int32Max),
    .int32 s.lteRssnr, .int32 (fix s.lteCqi int32Max),
    .int32 (if responselen ≥ env.platform.sizeOf .signalStrengthV10 then s.tdScdmaRscp
      else int32Max)]

def responseRilSignalStrength (response : Option ResponseMemory) (responselen : ℕ) :
    Option Encoded :=
  if response.isNone ∧ responselen ≠ 0 then invalidResponse
  else if responselen ≥ env.platform.sizeOf .signalStrengthV5 then
    response.map fun r =>
      let s := r.signalStrength
      { writes := [.int32 s.gwSignalStrength, .int32 s.gwBitErrorRate, .int32 s.cdmaDbm,
          .int32 s.cdmaEcio, .int32 s.evdoDbm, .int32 s.evdoEcio,
          .int32 s.evdoSignalNoiseRatio] ++
        if responselen ≥ env.platform.sizeOf .signalStrengthV6 then lteWrites env s responselen
        else .int32 99 :: List.replicate 5 (.int32 int32Max) }
  else invalidResponse

/-- The five shapes of the union, by `cellInfoType`; any other type adds nothing. -/
def cellWrites (c : CellInfo) : List Write :=
  if c.cellInfoType = 1 then
    [.int32 c.gsm.mcc, .int32 c.gsm.mnc, .int32 c.gsm.lac, .int32 c.gsm.cid,
      .int32 c.gsm.signalStrength, .int32 c.gsm.bitErrorRate]
  else if c.cellInfoType = 4 then
    [.int32 c.wcdma.mcc, .int32 c.wcdma.mnc, .int32 c.wcdma.lac, .int32 c.wcdma.cid,
      .int32 c.wcdma.psc, .int32 c.wcdma.signalStrength, .int32 c.wcdma.bitErrorRate]
  else if c.cellInfoType = 2 then
    [.int32 c.cdma.networkId, .int32 c.cdma.systemId, .int32 c.cdma.basestationId,
      .int32 c.cdma.longitude, .int32 c.cdma.latitude, .int32 c.cdma.dbm, .int32 c.cdma.ecio,
      .int32 c.cdma.evdoDbm, .int32 c.cdma.evdoEcio, .int32 c.cdma.evdoSignalNoiseRatio]
  else if c.cellInfoType = 3 then
    [.int32 c.lte.mcc, .int32 c.lte.mnc, .int32 c.lte.ci, .int32 c.lte.pci, .int32 c.lte.tac,
      .int32 c.lte.signalStrength, .int32 c.lte.rsrp, .int32 c.lte.rsrq, .int32 c.lte.rssnr,
      .int32 c.lte.cqi, .int32 c.lte.timingAdvance]
  else if c.cellInfoType = 5 then
    [.int32 c.tdscdma.mcc, .int32 c.tdscdma.mnc, .int32 c.tdscdma.lac, .int32 c.tdscdma.cid,
      .int32 c.tdscdma.cpid, .int32 c.tdscdma.rscp]
  else []

def responseCellInfoList : Option ResponseMemory → ℕ → Option Encoded :=
  arrayResponse (env.platform.sizeOf .cellInfo) (fun num => [.int32 num]) fun r i =>
    let c := r.cellInfos i
    [.int32 c.cellInfoType, .int32 c.registered, .int32 c.timeStampType, .int64 c.timeStamp] ++
      cellWrites c

/-! ### CDMA records -/

def marshallSignalInfoRecord (s : CdmaSignalInfoRecord) : List Write :=
  [.int32 s.isPresent, .int32 s.signalType, .int32 s.alertPitch, .int32 s.signal]

/-- A number record; `none` is the error return for a length beyond the buffer. -/
def numberInfoWrites (n : CdmaNumberInfoRecord) : Option (List Write) :=
  if n.len > env.platform.cdmaNumberInfoBufferLength then none
  else some [writeStringToParcel env (some (cStringOf n.len n.buf)), .int32 n.numberType,
    .int32 n.numberPlan, .int32 n.pi, .int32 n.si]

/-- The length of the record's string, and that of its buffer. -/
def CdmaInformationRecord.lengthField (P : Platform) (rec : CdmaInformationRecord) :
    Option (Int × ℕ) :=
  if rec.name = 0 ∨ rec.name = 7 then some (rec.displayAlphaLen, P.cdmaAlphaInfoBufferLength)
  else if rec.name = 1 ∨ rec.name = 2 ∨ rec.name = 3 then
    some (rec.number.len, P.cdmaNumberInfoBufferLength)
  else if rec.name = 5 then some (rec.redirectingNumber.len, P.cdmaNumberInfoBufferLength)
  else none

/-- The lengths are signed. -/
def CdmaInformationRecord.NonNeg (P : Platform) (rec : CdmaInformationRecord) : Prop :=
  ∀ f ∈ rec.lengthField P, 0 ≤ f.1

instance (P : Platform) (rec : CdmaInformationRecord) : Decidable (rec.NonNeg P) :=
  inferInstanceAs (Decidable (∀ f ∈ rec.lengthField P, 0 ≤ f.1))

/-- The switch on the record's name, in the order of the enumeration, for a record whose length is
not negative; `none` is an error return. -/
def infoRecWrites (rec : CdmaInformationRecord) : Option (List Write) :=
  if rec.name = 0 ∨ rec.name = 7 then
    if rec.displayAlphaLen > env.platform.cdmaAlphaInfoBufferLength then none
    else some [writeStringToParcel env (some (cStringOf rec.displayAlphaLen rec.displayAlphaBuf))]
  else if rec.name = 1 ∨ rec.name = 2 ∨ rec.name = 3 then numberInfoWrites env rec.number
  else if rec.name = 4 then some (marshallSignalInfoRecord rec.signal)
  else if rec.name = 5 then
    (numberInfoWrites env rec.redirectingNumber).map (· ++ [.int32 rec.redirectingReason])
  else if rec.name = 6 then
    some [.int32 rec.lineCtrlPolarityIncluded, .int32 rec.lineCtrlToggle,
      .int32 rec.lineCtrlReverse, .int32 rec.lineCtrlPowerDenial]
  else if rec.name = 8 then some [.int32 rec.clirCause]
  else if rec.name = 10 then some [.int32 rec.audioCtrlUpLink, .int32 rec.audioCtrlDownLink]
  else none

/-- The loop over the records; an error return keeps what was written before it.  A negative length
writes the terminator in front of its block, which is not there at all below `-1`. -/
def infoRecsEncoded : List CdmaInformationRecord → Option Encoded
  | [] => some { writes := [] }
  | rec :: recs =>
      if ¬ rec.NonNeg env.platform then none
      else
        match infoRecWrites env rec with
        | none => some { writes := [.int32 rec.name], ret := rilErrnoInvalidResponse }
        | some ws => (infoRecsEncoded recs).map fun rest =>
            { rest with writes := .int32 rec.name :: ws ++ rest.writes }

def responseCdmaInformationRecords (response : Option ResponseMemory) (responselen : ℕ) :
    Option Encoded :=
  if response.isNone ∧ responselen ≠ 0 then invalidResponse
  else if responselen ≠ env.platform.sizeOf .cdmaInformationRecords then invalidResponse
  else
    response.bind fun r =>
      let num : Int := min r.cdmaRecords.numberOfInfoRecs env.platform.cdmaMaxNumberOfInfoRecs
      (infoRecsEncoded env ((List.range num.toNat).map r.cdmaRecords.infoRec)).map fun x =>
        { x with writes := .int32 num :: x.writes }

def responseCdmaSignalInfoRecord (response : Option ResponseMemory) (responselen : ℕ) :
    Option Encoded :=
  if responselen = 0 then invalidResponse
  else structResponse (env.platform.sizeOf .cdmaSignalInfoRecord)
    (fun r => marshallSignalInfoRecord r.cdmaSignal) response responselen

def responseCallRing (response : Option ResponseMemory) (responselen : ℕ) : Option Encoded :=
  if response.isNone ∨ responselen = 0 then responseVoid response responselen
  else responseCdmaSignalInfoRecord env response responselen

/-- A short structure is only warned about; its last two fields then count as `0`. -/
def responseCdmaCallWaiting (response : Option ResponseMemory) (responselen : ℕ) :
    Option Encoded :=
  if response.isNone ∧ responselen ≠ 0 then invalidResponse
  else
    response.map fun r =>
      let c := r.cdmaCallWaiting
      { writes := [writeStringToParcel env c.number, .int32 c.numberPresentation,
          writeStringToParcel env c.name] ++ marshallSignalInfoRecord c.signalInfoRecord ++
        if responselen ≥ env.platform.sizeOf .cdmaCallWaitingV6 then
          [.int32 c.numberType, .int32 c.numberPlan]
        else [.int32 0, .int32 0] }

/-- Bytes written one by one, each padded to a word. -/
def byteWrites (bs : List UInt8) (limit : Int) : List Write :=
  (List.range limit.toNat).map fun i => .bytes [bs.getD i 0]

def responseCdmaSms (response : Option ResponseMemory) (responselen : ℕ) : Option Encoded :=
  if response.isNone ∧ responselen ≠ 0 then invalidResponse
  else if responselen ≠ env.platform.sizeOf .cdmaSmsMessage then invalidResponse
  else
    response.map fun r =>
      let m := r.cdmaSms
      { writes := [.int32 m.uTeleserviceID, .bytes [m.bIsServicePresent],
          .int32 m.uServicecategory, .int32 m.sAddress.digitMode, .int32 m.sAddress.numberMode,
          .int32 m.sAddress.numberType, .int32 m.sAddress.numberPlan,
          .bytes [m.sAddress.numberOfDigits]] ++
        byteWrites m.sAddress.digits
          (min m.sAddress.numberOfDigits.toNat env.platform.cdmaSmsAddressMax) ++
        [.int32 m.sSubAddress.subaddressType, .bytes [m.sSubAddress.odd],
          .bytes [m.sSubAddress.numberOfDigits]] ++
        byteWrites m.sSubAddress.digits
          (min m.sSubAddress.numberOfDigits.toNat env.platform.cdmaSmsSubaddressMax) ++
        .int32 m.uBearerDataLen ::
        byteWrites m.aBearerData (min m.uBearerDataLen env.platform.cdmaSmsBearerDataMax) }

/-! ### The remaining responses -/

/-- Version 7 vendors pass a structure, the others two integers. -/
def responseSimRefresh (response : Option ResponseMemory) (responselen : ℕ) : Option Encoded :=
  if response.isNone ∧ responselen ≠ 0 then invalidResponse
  else if env.version = 7 then
    response.map fun r => { writes := [.int32 r.simRefresh.result, .int32 r.simRefresh.efId,
      writeStringToParcel env r.simRefresh.aid] }
  else
    response.map fun r => { writes := [.int32 (r.ints 0), .int32 (r.ints 1),
      writeStringToParcel env none] }

def hardwareWrites (h : HardwareConfig) : List Write :=
  if h.type = 0 then
    [writeStringToParcel env (some h.uuid), .int32 h.state, .int32 h.modemRat,
      .int32 h.modemMaxVoice, .int32 h.modemMaxData, .int32 h.modemMaxStandby]
  else if h.type = 1 then
    [writeStringToParcel env (some h.uuid), .int32 h.state,
      writeStringToParcel env (some h.simModemUuid)]
  else []

def responseHardwareConfig : Option ResponseMemory → ℕ → Option Encoded :=
  arrayResponse (env.platform.sizeOf .hardwareConfig) (fun num => [.int32 num]) fun r i =>
    hardwareWrites env (r.hardwareConfigs i)

/-- `SS_INTERROGATION` of one of the call forwarding services. -/
def isServiceTypeCfQuery (serType reqType : Int) : Bool :=
  reqType = 2 ∧ 0 ≤ serType ∧ serType ≤ 5

def responseSSData (response : Option ResponseMemory) (responselen : ℕ) : Option Encoded :=
  if response.isNone ∧ responselen ≠ 0 then invalidResponse
  else if responselen ≠ env.platform.sizeOf .stkCcUnsolSsResponse then invalidResponse
  else
    response.map fun r =>
      let s := r.ssData
      { writes := [.int32 s.serviceType, .int32 s.requestType, .int32 s.teleserviceType,
          .int32 s.serviceClass, .int32 s.result] ++
        if isServiceTypeCfQuery s.serviceType s.requestType then
          let num : Int := min s.numValidIndexes env.platform.numServiceClasses
          .int32 num :: (List.range num.toNat).flatMap fun i => callForwardWrites env (s.cfInfo i)
        else
          .int32 env.platform.ssInfoMax ::
            (List.range env.platform.ssInfoMax).map fun i => .int32 (s.ssInfo i) }

def sendSimStatusAppInfo (numApps : Int) (appStatus : ℕ → AppStatus) : List Write :=
  .int32 numApps :: (List.range numApps.toNat).flatMap fun i =>
    let a := appStatus i
    [.int32 a.appType, .int32 a.appState, .int32 a.persoSubstate,
      writeStringToParcel env a.aidPtr, writeStringToParcel env a.appLabelPtr,
      .int32 a.pin1Replaced, .int32 a.pin1, .int32 a.pin2]

def simStatusWrites (c : CardStatus) (imsIndex : Int) : List Write :=
  [.int32 c.cardState, .int32 c.universalPinState, .int32 c.gsmUmtsSubscriptionAppIndex,
    .int32 c.cdmaSubscriptionAppIndex, .int32 imsIndex] ++
  sendSimStatusAppInfo env c.numApplications c.applications

def responseSimStatus (response : Option ResponseMemory) (responselen : ℕ) : Option Encoded :=
  if response.isNone ∧ responselen ≠ 0 then invalidResponse
  else if responselen = env.platform.sizeOf .cardStatusV6 then
    response.map fun r =>
      let c := r.cardStatus .cardStatusV6
      { writes := simStatusWrites env c c.imsSubscriptionAppIndex }
  else if responselen = env.platform.sizeOf .cardStatusV5 then
    response.map fun r => { writes := simStatusWrites env (r.cardStatus .cardStatusV5) (-1) }
  else invalidResponse

/-- The two broadcast configurations check neither the pointer nor the length. -/
def responseGsmBrSmsCnf (response : Option ResponseMemory) (responselen : ℕ) : Option Encoded :=
  let num := responselen / wordSize
  (forEach response num fun r i =>
    let c := r.gsmBrSmsCnf i
    [.int32 c.fromServiceId, .int32 c.toServiceId, .int32 c.fromCodeScheme,
      .int32 c.toCodeScheme, .int32 c.selected.toNat]).map fun ws =>
    { writes := .int32 num :: ws }

def responseCdmaBrSmsCnf (response : Option ResponseMemory) (responselen : ℕ) : Option Encoded :=
  let num := responselen / wordSize
  (forEach response num fun r i =>
    let c := r.cdmaBrSmsCnf i
    [.int32 c.serviceCategory, .int32 c.language, .int32 c.selected.toNat]).map fun ws =>
    { writes := .int32 num :: ws }

def responseDcRtInfo (response : Option ResponseMemory) (responselen : ℕ) : Option Encoded :=
  let size := env.platform.sizeOf .dcRtInfo
  if responselen % size ≠ 0 ∨ responselen / size ≠ 1 then invalidResponse
  else response.map fun r => { writes := [.int64 r.dcRtInfo.time, .int32 r.dcRtInfo.powerState] }

/-! ### The function a table entry names -/

def encode : ResponseFunction → Option ResponseMemory → ℕ → Option Encoded
  | .responseInts => responseInts
  | .responseFailCause => responseFailCause env
  | .responseStrings => responseStrings env
  | .responseString => responseString env
  | .responseVoid => responseVoid
  | .responseEnterSimPin => responseEnterSimPin
  | .responseRadioPower => responseRadioPower env
  | .responseCallList => responseCallList env
  | .responseSMS => responseSMS env
  | .responseDataCallList => responseDataCallList env
  | .responseSetupDataCall => responseSetupDataCall env
  | .responseRaw => responseRaw
  | .responseSimIo => responseSimIo env
  | .responseCallForwards => responseCallForwards env
  | .responseSsn => responseSsn env
  | .responseCellList => responseCellList env
  | .responseCdmaInformationRecords => responseCdmaInformationRecords env
  | .responseRilSignalStrength => responseRilSignalStrength env
  | .responseCallRing => responseCallRing env
  | .responseCdmaSignalInfoRecord => responseCdmaSignalInfoRecord env
  | .responseCdmaCallWaiting => responseCdmaCallWaiting env
  | .responseSimRefresh => responseSimRefresh env
  | .responseCellInfoList => responseCellInfoList env
  | .responseHardwareConfig => responseHardwareConfig env
  | .responseSSData => responseSSData env
  | .responseSimStatus => responseSimStatus env
  | .responseGsmBrSmsCnf => responseGsmBrSmsCnf
  | .responseCdmaBrSmsCnf => responseCdmaBrSmsCnf
  | .responseCdmaSms => responseCdmaSms env
  | .responseDcRtInfo => responseDcRtInfo env

/-! ### No null pointer is followed on a non-null response -/

theorem forEach_some (r : ResponseMemory) (n : ℕ) (f : ResponseMemory → ℕ → List Write) :
    (forEach (some r) n f).isSome := by
  unfold forEach
  split <;> rfl

theorem arrayResponse_some (size : ℕ) (head : ℕ → List Write)
    (each : ResponseMemory → ℕ → List Write) (r : ResponseMemory) (len : ℕ) :
    (arrayResponse size head each (some r) len).isSome := by
  unfold arrayResponse invalidResponse
  have hall := forEach_some r (len / size) each
  split
  · rfl
  · split
    · rfl
    · simpa using hall

/-- What is written for an array of `n` elements. -/
theorem arrayResponse_eq {size : ℕ} (hsize : 0 < size) (head : ℕ → List Write)
    (each : ResponseMemory → ℕ → List Write) (r : ResponseMemory) (n : ℕ) :
    arrayResponse size head each (some r) (n * size)
      = some { writes := head n ++ (List.range n).flatMap (each r) } := by
  unfold arrayResponse
  rw [if_neg (by simp), if_neg (by simp)]
  simp only [Nat.mul_div_cancel n hsize]
  cases n with
  | zero => rfl
  | succ n => rfl

/-- The number of elements of an array that fits a `size_t` is an `int`. -/
theorem isInt32_count {size n : ℕ} (hsize : 2 ≤ size) (h : n * size < 4294967296) :
    Parcel.IsInt32 n := by
  have hle := Nat.mul_le_mul_left n hsize
  constructor <;> omega

/-- A vendor's array that holds the elements of a list is written element by element. -/
theorem arrayResponse_records {size : ℕ} (hsize : 0 < size) (head : ℕ → List Write)
    {each : ResponseMemory → ℕ → List Write} {r : ResponseMemory} {α : Type} {cs : List α}
    {enc : α → List Write} (hcs : ∀ i (h : i < cs.length), each r i = enc cs[i]) :
    arrayResponse size head each (some r) (cs.length * size)
      = some { writes := head cs.length ++ cs.flatMap enc } := by
  have hrecords : (List.range cs.length).flatMap (each r) = cs.flatMap enc := by
    rw [List.flatMap_def, List.flatMap_def]
    refine congrArg List.flatten (List.ext_getElem ?_ fun i hi hi' => ?_)
    · rw [List.length_map, List.length_map, List.length_range]
    · rw [List.length_map] at hi'
      rw [List.getElem_map, List.getElem_map, List.getElem_range]
      exact hcs i hi'
  rw [arrayResponse_eq hsize, hrecords]

theorem structResponse_some (size : ℕ) (enc : ResponseMemory → List Write) (r : ResponseMemory)
    (len : ℕ) : (structResponse size enc (some r) len).isSome := by
  simp only [structResponse, invalidResponse]
  split <;> rfl

theorem responseDataCallList_some (r : ResponseMemory) (len : ℕ) :
    (responseDataCallList env (some r) len).isSome := by
  unfold responseDataCallList
  split
  · exact arrayResponse_some _ _ _ _ _
  split
  · simp only [responseDataCallListV6, invalidResponse]
    split_ifs <;> rfl
  split
  · exact arrayResponse_some _ _ _ _ _
  · exact arrayResponse_some _ _ _ _ _

theorem responseStrings_some (r : ResponseMemory) (len : ℕ) :
    (responseStrings env (some r) len).isSome := by
  unfold responseStrings invalidResponse
  split_ifs <;> rfl

/-- **A non-null response is never read through a null pointer.**  Only the information records
have lengths that are used without a test for negative ones. -/
theorem encode_isSome (f : ResponseFunction) (hf : f ≠ .responseCdmaInformationRecords)
    (r : ResponseMemory) (len : ℕ) : (encode env f (some r) len).isSome := by
  cases f with
  | responseInts | responseCallList | responseCallForwards | responseCellList
  | responseCellInfoList | responseHardwareConfig =>
    simp only [encode, responseInts, responseCallList, responseCallForwards, responseCellList,
      responseCellInfoList, responseHardwareConfig, arrayResponse_some]
  | responseSMS | responseSimIo | responseSsn =>
    simp only [encode, responseSMS, responseSimIo, responseSsn, structResponse_some]
  | responseString | responseVoid | responseRadioPower => rfl
  | responseStrings => exact responseStrings_some env r len
  | responseDataCallList => exact responseDataCallList_some env r len
  | responseEnterSimPin =>
    have h := arrayResponse_some wordSize (fun num => [.int32 num])
      (fun r i => [.int32 (r.ints i)]) r len
    simpa [encode, responseEnterSimPin, responseInts] using h
  | responseSetupDataCall =>
    simp only [encode, responseSetupDataCall, responseStringsWithVersion]
    split
    · simpa using responseStrings_some env r len
    · exact responseDataCallList_some env r len
  | responseGsmBrSmsCnf =>
    simpa [encode, responseGsmBrSmsCnf] using forEach_some r _ _
  | responseCdmaBrSmsCnf =>
    simpa [encode, responseCdmaBrSmsCnf] using forEach_some r _ _
  | responseCdmaSignalInfoRecord =>
    simp only [encode, responseCdmaSignalInfoRecord]
    split
    · rfl
    · exact structResponse_some _ _ _ _
  | responseCallRing =>
    simp only [encode, responseCallRing, responseCdmaSignalInfoRecord]
    split
    · rfl
    · split
      · rfl
      · exact structResponse_some _ _ _ _
  | responseFailCause =>
    simp only [encode, responseFailCause, invalidResponse]
    split_ifs <;> rfl
  | responseRaw =>
    simp only [encode, responseRaw, invalidResponse]
    split_ifs <;> rfl
  | responseCdmaInformationRecords => exact absurd rfl hf
  | responseRilSignalStrength =>
    simp only [encode, responseRilSignalStrength, invalidResponse]
    split_ifs <;> rfl
  | responseCdmaCallWaiting =>
    simp only [encode, responseCdmaCallWaiting, invalidResponse]
    split_ifs <;> rfl
  | responseSimRefresh =>
    simp only [encode, responseSimRefresh, invalidResponse]
    split_ifs <;> rfl
  | responseSSData =>
    simp only [encode, responseSSData, invalidResponse]
    split_ifs <;> rfl
  | responseSimStatus =>
    simp only [encode, responseSimStatus, invalidResponse]
    split_ifs <;> rfl
  | responseCdmaSms =>
    simp only [encode, responseCdmaSms, invalidResponse]
    split_ifs <;> rfl
  | responseDcRtInfo =>
    simp only [encode, responseDcRtInfo, invalidResponse]
    split_ifs <;> rfl

end CtpCommon.Ril
