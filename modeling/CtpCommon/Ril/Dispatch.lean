import CtpCommon.Ril.Requests

/-!
# The dispatch functions

Each `dispatch…` function of `ril.cpp` decodes the payload of a request and calls the vendor's
`onRequest`.  A function that only reads and calls is a `ReadProg` for the `data` and `datalen` it
passes; `checkStatus` stands where the code tests `status`, and nowhere else.

* `invalidCommandBlock` only logs, so leaving a program means that nothing is called;
* `dispatchRadioPower`, `dispatchDataCall` and the two queries answered from the radio state do
  something else first, and have bodies of their own;
* `DispatchEffect` — what a dispatch function does to its request, in order;
* `processCommandBuffer` — one record: rejected, refused with an error frame, or pushed on the
  pending list and dispatched.

What they print is left to `CtpCommon.Ril.DispatchLog`.
-/

namespace CtpCommon.Ril

open ReadProg

/-- What the dispatch functions find outside the record: the vendor's version, what
`onStateRequest` returns, and what their uninitialised locals hold. -/
structure DispatchEnv where
  platform : Platform
  version : Int
  radioState : RadioState
  t : Int
  ut : UInt8

/-- The `data` and `datalen` of a call of `onRequest`. -/
abbrev Payload := RequestData × ℕ

variable (env : DispatchEnv)

def strdupReadString : ReadProg (Option CString) := do
  let s16 ← readString16Inplace
  return s16.map env.platform.strndup16to8

/-! ### Strings, integers and raw bytes -/

def dispatchVoid : ReadProg Payload := return (.null, 0)

def dispatchString : ReadProg Payload := do
  let string8 ← strdupReadString env
  return (.string string8, wordSize)

def dispatchStrings : ReadProg Payload := do
  let countStrings ← readFresh
  checkStatus
  if countStrings = 0 then return (.strings [], 0)
  else if countStrings = -1 then return (.null, 0)
  else
    let pStrings ← readMany countStrings.toNat (strdupReadString env)
    return (.strings pStrings, sizeT (wordSize * countStrings))

def dispatchInts : ReadProg Payload := do
  let count ← readFresh
  checkStatus
  require (count ≠ 0)
  let pInts ← readMany count.toNat do
    let t ← readFresh
    checkStatus
    return t
  return (.ints pInts, sizeT (wordSize * count))

/-- A length `-1` is replaced by `0`, and zero bytes are then read in place. -/
def dispatchRaw : ReadProg Payload := do
  let len ← readFresh
  checkStatus
  let len := if len = -1 then 0 else len
  let data ← readInplace len
  return (.raw data, sizeT len)

/-! ### Structures -/

def dispatchSmsWrite : ReadProg Payload := do
  let status ← readInt32
  let pdu ← strdupReadString env
  checkStatus
  require pdu.isSome
  let smsc ← strdupReadString env
  return (.smsWrite ⟨status, pdu, smsc⟩, env.platform.sizeOf .smsWriteArgs)

def dispatchDial : ReadProg Payload := do
  let address ← strdupReadString env
  let clir ← readInt32
  checkStatus
  require address.isSome
  if env.version < 3 then
    return (.dial ⟨address, clir, none⟩, env.platform.sizeOf .dial - wordSize)
  else
    let uusPresent ← readFresh
    checkStatus
    if uusPresent = 0 then return (.dial ⟨address, clir, none⟩, env.platform.sizeOf .dial)
    else
      let uusType ← readInt32
      let uusDcs ← readInt32
      let len ← readFresh
      checkStatus
      if len = -1 then
        return (.dial ⟨address, clir, some ⟨uusType, uusDcs, 0, none⟩⟩, env.platform.sizeOf .dial)
      else
        let uusData ← readInplace len
        return (.dial ⟨address, clir, some ⟨uusType, uusDcs, len, uusData⟩⟩,
          env.platform.sizeOf .dial)

def dispatchSimIo : ReadProg Payload := do
  let command ← readInt32
  let fileid ← readInt32
  let path ← strdupReadString env
  let p1 ← readInt32
  let p2 ← readInt32
  let p3 ← readInt32
  let data ← strdupReadString env
  let pin2 ← strdupReadString env
  let aidPtr ← strdupReadString env
  checkStatus
  return (.simIo ⟨command, fileid, path, p1, p2, p3, data, pin2, aidPtr⟩,
    if env.version < 6 then env.platform.sizeOf .simIoV5 else env.platform.sizeOf .simIoV6)

def dispatchSimApdu : ReadProg Payload := do
  let sessionid ← readInt32
  let cla ← readInt32
  let instruction ← readInt32
  let p1 ← readInt32
  let p2 ← readInt32
  let p3 ← readInt32
  let data ← strdupReadString env
  checkStatus
  return (.simApdu ⟨sessionid, cla, instruction, p1, p2, p3, data⟩,
    env.platform.sizeOf .simApdu)

/-- A number of length zero is passed as `NULL`. -/
def dispatchCallForward : ReadProg Payload := do
  let status ← readInt32
  let reason ← readInt32
  let serviceClass ← readInt32
  let toa ← readInt32
  let number ← strdupReadString env
  let timeSeconds ← readInt32
  checkStatus
  let number := if number = some [] then none else number
  return (.callForward ⟨status, reason, serviceClass, toa, number, timeSeconds⟩,
    env.platform.sizeOf .callForwardInfo)

def dispatchSetInitialAttachApn : ReadProg Payload := do
  let apn ← strdupReadString env
  let protocol ← strdupReadString env
  let authtype ← readInt32
  let username ← strdupReadString env
  let password ← strdupReadString env
  checkStatus
  return (.initialAttachApn ⟨apn, protocol, authtype, username, password⟩,
    env.platform.sizeOf .initialAttachApn)

def dispatchNVReadItem : ReadProg Payload := do
  let itemID ← readInt32
  checkStatus
  return (.nvReadItem itemID, env.platform.sizeOf .nvReadItem)

def dispatchNVWriteItem : ReadProg Payload := do
  let itemID ← readInt32
  let value ← strdupReadString env
  checkStatus
  require value.isSome
  return (.nvWriteItem ⟨itemID, value⟩, env.platform.sizeOf .nvWriteItem)

def dispatchUiccSubscripton : ReadProg Payload := do
  let slot ← readInt32
  checkStatus
  let appIndex ← readInt32
  checkStatus
  let subType ← readInt32
  checkStatus
  let actStatus ← readInt32
  checkStatus
  return (.uiccSub ⟨slot, appIndex, subType, actStatus⟩, env.platform.sizeOf .selectUiccSub)

def dispatchSimAuthentication : ReadProg Payload := do
  let authContext ← readInt32
  let authData ← strdupReadString env
  let aid ← strdupReadString env
  checkStatus
  return (.simAuthentication ⟨authContext, authData, aid⟩,
    env.platform.sizeOf .simAuthentication)

def dispatchDataProfile : ReadProg Payload := do
  let num ← readFresh
  checkStatus
  let dataProfiles ← readMany num.toNat do
    let profileId ← readInt32
    let apn ← strdupReadString env
    let protocol ← strdupReadString env
    let authType ← readInt32
    let user ← strdupReadString env
    let password ← strdupReadString env
    let type ← readInt32
    let maxConnsTime ← readInt32
    let maxConns ← readInt32
    let waitTime ← readInt32
    let enabled ← readInt32
    return ⟨profileId, apn, protocol, authType, user, password, type, maxConnsTime, maxConns,
      waitTime, enabled⟩
  checkStatus
  return (.dataProfile dataProfiles, sizeT (num * wordSize))

/-! ### SMS over CDMA, and over IMS -/

/-- The conversion `(uint8_t) t`. -/
def uint8Of (t : Int) : UInt8 := UInt8.ofNat (t % 256).toNat

def constructCdmaSms : ReadProg CdmaSmsMessage := do
  let uTeleserviceID ← readInt32
  let bIsServicePresent ← readByte
  let uServicecategory ← readInt32
  let digitMode ← readInt32
  let numberMode ← readInt32
  let numberType ← readInt32
  let numberPlan ← readInt32
  let numberOfDigits ← readByte
  let digits ← readMany (min numberOfDigits.toNat env.platform.cdmaSmsAddressMax) readByte
  let subaddressType ← readInt32
  let odd ← readByte
  let subNumberOfDigits ← readByte
  let subDigits ← readMany (min subNumberOfDigits.toNat env.platform.cdmaSmsSubaddressMax) readByte
  let uBearerDataLen ← readInt32
  let aBearerData ←
    readMany (min uBearerDataLen env.platform.cdmaSmsBearerDataMax).toNat readByte
  checkStatus
  return ⟨uTeleserviceID, bIsServicePresent, uServicecategory,
    ⟨digitMode, numberMode, numberType, numberPlan, numberOfDigits, digits⟩,
    ⟨subaddressType, odd, subNumberOfDigits, subDigits⟩, uBearerDataLen, aBearerData⟩

def dispatchCdmaSms : ReadProg Payload := do
  let rcsm ← constructCdmaSms env
  return (.cdmaSms rcsm, env.platform.sizeOf .cdmaSmsMessage)

/-- `sizeof(RIL_RadioTechnologyFamily)+sizeof(uint8_t)+sizeof(int32_t)`. -/
def imsHeaderSize : ℕ := env.platform.sizeOf .radioTechnologyFamily + 1 + wordSize

def dispatchImsCdmaSms (retry : UInt8) (messageRef : Int) : ReadProg Payload := do
  let rcsm ← constructCdmaSms env
  return (.imsSms ⟨radioTech3gpp2, retry, messageRef, .cdma rcsm⟩,
    imsHeaderSize env + env.platform.sizeOf .cdmaSmsMessage)

def dispatchImsGsmSms (retry : UInt8) (messageRef : Int) : ReadProg Payload := do
  let countStrings ← readFresh
  checkStatus
  if countStrings = 0 then
    return (.imsSms ⟨radioTech3gpp, retry, messageRef, .gsm (some [])⟩, imsHeaderSize env)
  else if countStrings = -1 then
    return (.imsSms ⟨radioTech3gpp, retry, messageRef, .gsm none⟩, imsHeaderSize env)
  else
    let pStrings ← readMany countStrings.toNat (strdupReadString env)
    return (.imsSms ⟨radioTech3gpp, retry, messageRef, .gsm (some pStrings)⟩,
      sizeT (imsHeaderSize env + wordSize * countStrings))

/-- A format that is neither 3GPP nor 3GPP2 is logged, and the function returns. -/
def dispatchImsSms : ReadProg Payload := do
  let format ← readInt32
  checkStatus
  let retry ← readByte
  checkStatus
  let messageRef ← readFresh
  checkStatus
  if format = radioTech3gpp then dispatchImsGsmSms env retry messageRef
  else if format = radioTech3gpp2 then dispatchImsCdmaSms env retry messageRef
  else .fail

def dispatchCdmaSmsAck : ReadProg Payload := do
  let uErrorClass ← readInt32
  let uSMSCauseCode ← readInt32
  checkStatus
  return (.cdmaSmsAck ⟨uErrorClass, uSMSCauseCode⟩, env.platform.sizeOf .cdmaSmsAck)

def dispatchGsmBrSmsCnf : ReadProg Payload := do
  let num ← readFresh
  checkStatus
  let gsmBci ← readMany num.toNat do
    let fromServiceId ← readInt32
    let toServiceId ← readInt32
    let fromCodeScheme ← readInt32
    let toCodeScheme ← readInt32
    let selected ← readInt32
    return ⟨fromServiceId, toServiceId, fromCodeScheme, toCodeScheme, uint8Of selected⟩
  checkStatus
  return (.gsmBrSmsCnf gsmBci, sizeT (num * wordSize))

def dispatchCdmaBrSmsCnf : ReadProg Payload := do
  let num ← readFresh
  checkStatus
  let cdmaBci ← readMany num.toNat do
    let serviceCategory ← readInt32
    let language ← readInt32
    let selected ← readInt32
    return ⟨serviceCategory, language, uint8Of selected⟩
  checkStatus
  return (.cdmaBrSmsCnf cdmaBci, sizeT (num * wordSize))

/-- The arrays are read to their full length, whatever their counts say. -/
def dispatchRilCdmaSmsWriteArgs : ReadProg Payload := do
  let status ← readInt32
  let uTeleserviceID ← readInt32
  let bIsServicePresent ← readByte
  let uServicecategory ← readInt32
  let digitMode ← readInt32
  let numberMode ← readInt32
  let numberType ← readInt32
  let numberPlan ← readInt32
  let numberOfDigits ← readByte
  let digits ← readMany env.platform.cdmaSmsAddressMax readByte
  let subaddressType ← readInt32
  let odd ← readByte
  let subNumberOfDigits ← readByte
  let subDigits ← readMany env.platform.cdmaSmsSubaddressMax readByte
  let uBearerDataLen ← readInt32
  let aBearerData ← readMany env.platform.cdmaSmsBearerDataMax readByte
  checkStatus
  return (.cdmaSmsWriteArgs ⟨status, ⟨uTeleserviceID, bIsServicePresent, uServicecategory,
    ⟨digitMode, numberMode, numberType, numberPlan, numberOfDigits, digits⟩,
    ⟨subaddressType, odd, subNumberOfDigits, subDigits⟩, uBearerDataLen, aBearerData⟩⟩,
    env.platform.sizeOf .cdmaSmsWriteArgs)

/-! ### What a dispatch function does -/

inductive DispatchEffect where
  | setRadioIsOn (isOn : Bool)
  | setVoiceRadioTech (tech : Int)
  | setCdmaSubscriptionSource (source : Int)
  | onRequest (data : RequestData) (datalen : ℕ)
  | onRequestComplete (e : Int) (response : Option Int)
  deriving DecidableEq, Repr

/-- Run a program on a payload and pass the result to `onRequest`. -/
def callOnRequest (x : ReadProg Payload) (p : Parcel) : List DispatchEffect :=
  match x.run p env.t env.ut with
  | some (data, datalen) => [.onRequest data datalen]
  | none => []

/-- The parameter list of version 3: the head of the record, and the first six strings; a string
that cannot be read becomes an empty one. -/
def numParamsRilV3 : ℕ := 6

def copyParams : ℕ → Parcel → Parcel → Parcel
  | 0, _, p2 => p2
  | n + 1, p, p2 =>
      copyParams n p.readString16Inplace.2
        (p2.writeString16 (some (p.readString16Inplace.1.getD [])))

def dispatchDataCall (p : Parcel) : List DispatchEffect :=
  let pos := p.dataPosition
  let numParams := p.readInt32.1.getD 0
  if env.version < 4 ∧ numParams > numParamsRilV3 then
    let p2 : Parcel := ⟨p.data.take pos, pos⟩
    let p2 := p2.writeInt32 numParamsRilV3
    let p2 := copyParams numParamsRilV3 p.readInt32.2 p2
    callOnRequest env (dispatchStrings env) (p2.setDataPosition pos)
  else callOnRequest env (dispatchStrings env) (p.readInt32.2.setDataPosition pos)

/-- Both exits before `dispatchInts` log and return. -/
def dispatchRadioPower (p : Parcel) : List DispatchEffect :=
  let parcelOffset := p.dataPosition
  match p.readInt32 with
  | (none, _) => []
  | (some count, q) =>
      if count = 0 then []
      else
        match q.readInt32 with
        | (none, _) => []
        | (some isOn, r) =>
            .setRadioIsOn (isOn ≠ 0) ::
              callOnRequest env dispatchInts (r.setDataPosition parcelOffset)

def decodeVoiceRadioTechnology : RadioState → Int
  | .simNotReady | .simLockedOrAbsent | .simReady => radioTechUmts
  | .ruimNotReady | .ruimReady | .ruimLockedOrAbsent | .nvNotReady | .nvReady => radioTech1xRtt
  | _ => -1

def decodeCdmaSubscriptionSource : RadioState → Int
  | .simNotReady | .simLockedOrAbsent | .simReady | .ruimNotReady | .ruimReady
  | .ruimLockedOrAbsent => cdmaSubscriptionSourceRuimSim
  | .nvNotReady | .nvReady => cdmaSubscriptionSourceNv
  | _ => -1

/-- The shape of the two queries answered from the radio state.  The first completion, for a
radio that is off or unavailable, is not followed by a return. -/
def dispatchFromRadioState (decode : RadioState → Int) (store : Int → DispatchEffect)
    (p : Parcel) : List DispatchEffect :=
  let state := env.radioState
  let early : List DispatchEffect :=
    if state = .unavailable ∨ state = .off then
      [.onRequestComplete rilERadioNotAvailable none] else []
  if state = .on then early ++ callOnRequest env dispatchVoid p
  else
    early ++ store (decode state) ::
      if decode state < 0 then [.onRequestComplete rilEGenericFailure none]
      else [.onRequestComplete rilESuccess (some (decode state))]

def dispatchVoiceRadioTech : Parcel → List DispatchEffect :=
  dispatchFromRadioState env decodeVoiceRadioTechnology .setVoiceRadioTech

def dispatchCdmaSubscriptionSource : Parcel → List DispatchEffect :=
  dispatchFromRadioState env decodeCdmaSubscriptionSource .setCdmaSubscriptionSource

/-- `pRI->pCI->dispatchFunction(p, pRI)`. -/
def dispatch : DispatchFunction → Parcel → List DispatchEffect
  | .dispatchVoid => callOnRequest env dispatchVoid
  | .dispatchString => callOnRequest env (dispatchString env)
  | .dispatchStrings => callOnRequest env (dispatchStrings env)
  | .dispatchInts => callOnRequest env dispatchInts
  | .dispatchDial => callOnRequest env (dispatchDial env)
  | .dispatchSimIo => callOnRequest env (dispatchSimIo env)
  | .dispatchSimApdu => callOnRequest env (dispatchSimApdu env)
  | .dispatchCallForward => callOnRequest env (dispatchCallForward env)
  | .dispatchRaw => callOnRequest env dispatchRaw
  | .dispatchSmsWrite => callOnRequest env (dispatchSmsWrite env)
  | .dispatchDataCall => dispatchDataCall env
  | .dispatchVoiceRadioTech => dispatchVoiceRadioTech env
  | .dispatchSetInitialAttachApn => callOnRequest env (dispatchSetInitialAttachApn env)
  | .dispatchCdmaSubscriptionSource => dispatchCdmaSubscriptionSource env
  | .dispatchCdmaSms => callOnRequest env (dispatchCdmaSms env)
  | .dispatchImsSms => callOnRequest env (dispatchImsSms env)
  | .dispatchCdmaSmsAck => callOnRequest env (dispatchCdmaSmsAck env)
  | .dispatchGsmBrSmsCnf => callOnRequest env dispatchGsmBrSmsCnf
  | .dispatchCdmaBrSmsCnf => callOnRequest env dispatchCdmaBrSmsCnf
  | .dispatchRilCdmaSmsWriteArgs => callOnRequest env (dispatchRilCdmaSmsWriteArgs env)
  | .dispatchNVReadItem => callOnRequest env (dispatchNVReadItem env)
  | .dispatchNVWriteItem => callOnRequest env (dispatchNVWriteItem env)
  | .dispatchUiccSubscripton => callOnRequest env (dispatchUiccSubscripton env)
  | .dispatchSimAuthentication => callOnRequest env (dispatchSimAuthentication env)
  | .dispatchDataProfile => callOnRequest env (dispatchDataProfile env)
  | .dispatchRadioPower => dispatchRadioPower env

/-! ### One record -/

/-- The memory of a static `int`. -/
def intMemory (v : Int) : ResponseMemory := { (default : ResponseMemory) with ints := fun _ => v }

/-- Carry out an effect on the request `r`; `faults` are the write errors of a completion. -/
def perform (faults : WriteFaults) (r : RequestInfo) (s : RilState) :
    DispatchEffect → Option RilState
  | .setRadioIsOn isOn => some { s with radioIsOn := isOn }
  | .setVoiceRadioTech tech => some { s with voiceRadioTech := tech }
  | .setCdmaSubscriptionSource source => some { s with cdmaSubscriptionSource := source }
  | .onRequest data datalen => some (s.onRequest r.pCI.number data datalen r.addr)
  | .onRequestComplete e response =>
      rilOnRequestComplete env.platform env.version s r.addr e (response.map intMemory)
        (if response.isSome then wordSize else 0) faults

/-- The head of a record, and the parcel after it. -/
inductive Record where
  | invalid
  | unsupported (token : Int)
  | accepted (token : Int) (request : RequestCode) (p : Parcel)
  deriving DecidableEq, Repr

/-- Only the status of the token is tested; a record without a request code has no token
either. -/
def readRecord (buffer : List UInt8) : Record :=
  match (Parcel.ofBytes buffer).readInt32 with
  | (none, _) => .invalid
  | (some request, p) =>
      match p.readInt32 with
      | (none, _) => .invalid
      | (some token, q) =>
          if h : 1 ≤ request.toNat ∧ request.toNat < 130 then
            .accepted token ⟨request.toNat, h.1, h.2⟩ q
          else .unsupported token

/-- `processCommandBuffer`. -/
def processCommandBuffer (faults : WriteFaults) (s : RilState) (buffer : List UInt8) :
    Option RilState :=
  match readRecord buffer with
  | .invalid => some s
  | .unsupported token =>
      let pErr := (messageHead token).writeInt32 rilEGenericFailure
      some { s with channel := s.channel ++ (sendResponseRaw s.fdCommand pErr.data faults).2 }
  | .accepted token request p =>
      let r := s.pending.node token request false
      (dispatch env request.dispatchFunction p).foldlM (perform env faults r)
        { s with pending := s.pending.push token request false }

end CtpCommon.Ril
