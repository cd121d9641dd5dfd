import CtpCommon.Lib.Layout

/-!
# What libril takes from the telephony headers

`telephony/ril.h`, `telephony/ril_cdma_sms.h` and the string conversions of `cutils/jstring.h`
are not part of the repository.  The structures below have the fields `ril.cpp` reads and
writes; the array bounds, the structure sizes and the two conversions are the parameters of
`Platform`, so every result about libril holds for any of them.  `x86` is the 32-bit target the
device is built for.

A `const char *` is `Option CString`, `none` being `NULL`; enumerations cross the socket as
plain integers and stay integers here, except the radio state, whose cases the code switches on.
-/

namespace CtpCommon.Ril

/-- The bytes of a NUL-terminated string, without the terminator. -/
abbrev CString := List UInt8

/-- The structures whose `sizeof` the code uses. -/
inductive RilStruct where
  | smsWriteArgs | dial | simIoV5 | simIoV6 | simApdu | callForwardInfo | cdmaSmsMessage
  | radioTechnologyFamily | cdmaSmsAck | cdmaSmsWriteArgs | initialAttachApn | nvReadItem
  | nvWriteItem | selectUiccSub | simAuthentication
  | lastCallFailCauseInfo | smsResponse | dataCallResponseV4 | dataCallResponseV6
  | dataCallResponseV9 | dataCallResponseV11 | simIoResponse | suppSvcNotification
  | cdmaInformationRecords | signalStrengthV5 | signalStrengthV6 | signalStrengthV10
  | cdmaSignalInfoRecord | cdmaCallWaitingV6 | cellInfo | hardwareConfig
  | stkCcUnsolSsResponse | cardStatusV5 | cardStatusV6 | dcRtInfo
  | gsmBroadcastSmsConfigInfo | cdmaBroadcastSmsConfigInfo | dataProfileInfo
  deriving DecidableEq, Repr

/-- The parts of the platform that come from outside the repository. -/
structure Platform where
  strndup16to8 : List UInt16 → CString
  strdup8to16 : CString → List UInt16
  cdmaSmsAddressMax : ℕ
  cdmaSmsSubaddressMax : ℕ
  cdmaSmsBearerDataMax : ℕ
  cdmaMaxNumberOfInfoRecs : ℕ
  cdmaAlphaInfoBufferLength : ℕ
  cdmaNumberInfoBufferLength : ℕ
  numServiceClasses : ℕ
  ssInfoMax : ℕ
  sizeOf : RilStruct → ℕ
  /-- Whether the stack has room for local arrays of so many bytes. -/
  stackHolds : ℕ → Bool
  /-- What `%s` finds at an address; `none` when it cannot be read. -/
  stringAt : Int → Option (Option CString)

/-- `sizeof(char *)` and `sizeof(int)`. -/
def wordSize : ℕ := 4

/-- Conversion of an `int` expression to `size_t`. -/
def sizeT (v : Int) : ℕ := (v % 4294967296).toNat

/-- `RIL_RadioState`, in the order of the header: `OFF` is `0`, `UNAVAILABLE` is `1`, `ON` is
`10`. -/
inductive RadioState where
  | off | unavailable | simNotReady | simLockedOrAbsent | simReady | ruimNotReady | ruimReady
  | ruimLockedOrAbsent | nvNotReady | nvReady | on
  deriving DecidableEq, Repr

def RadioState.toInt (s : RadioState) : Int := s.ctorIdx

/-- `RIL_Errno` values the dispatcher itself answers with. -/
def rilESuccess : Int := 0
def rilERadioNotAvailable : Int := 1
def rilEGenericFailure : Int := 2

/-- `RIL_RadioTechnology` values `decodeVoiceRadioTechnology` returns. -/
def radioTechUmts : Int := 3
def radioTech1xRtt : Int := 6

/-- `RIL_CdmaSubscriptionSource` values `decodeCdmaSubscriptionSource` returns. -/
def cdmaSubscriptionSourceRuimSim : Int := 0
def cdmaSubscriptionSourceNv : Int := 1

/-- `RIL_RadioTechnologyFamily`. -/
def radioTech3gpp : Int := 1
def radioTech3gpp2 : Int := 2

/-! ### Request structures -/

structure SmsWriteArgs where
  status : Int
  pdu : Option CString
  smsc : Option CString
  deriving DecidableEq, Repr

structure UusInfo where
  uusType : Int
  uusDcs : Int
  uusLength : Int
  uusData : Option (List UInt8)
  deriving DecidableEq, Repr

structure Dial where
  address : Option CString
  clir : Int
  uusInfo : Option UusInfo
  deriving DecidableEq, Repr

structure SimIo where
  command : Int
  fileid : Int
  path : Option CString
  p1 : Int
  p2 : Int
  p3 : Int
  data : Option CString
  pin2 : Option CString
  aidPtr : Option CString
  deriving DecidableEq, Repr

structure SimApdu where
  sessionid : Int
  cla : Int
  instruction : Int
  p1 : Int
  p2 : Int
  p3 : Int
  data : Option CString
  deriving DecidableEq, Repr

structure CallForwardInfo where
  status : Int
  reason : Int
  serviceClass : Int
  toa : Int
  number : Option CString
  timeSeconds : Int
  deriving DecidableEq, Repr, Inhabited

structure CdmaSmsAddress where
  digitMode : Int
  numberMode : Int
  numberType : Int
  numberPlan : Int
  numberOfDigits : UInt8
  digits : List UInt8
  deriving DecidableEq, Repr, Inhabited

structure CdmaSmsSubaddress where
  subaddressType : Int
  odd : UInt8
  numberOfDigits : UInt8
  digits : List UInt8
  deriving DecidableEq, Repr, Inhabited

/-- The digit and bearer-data arrays are zeroed first; a list holds their leading entries. -/
structure CdmaSmsMessage where
  uTeleserviceID : Int
  bIsServicePresent : UInt8
  uServicecategory : Int
  sAddress : CdmaSmsAddress
  sSubAddress : CdmaSmsSubaddress
  uBearerDataLen : Int
  aBearerData : List UInt8
  deriving DecidableEq, Repr, Inhabited

structure CdmaSmsAck where
  uErrorClass : Int
  uSMSCauseCode : Int
  deriving DecidableEq, Repr

structure CdmaSmsWriteArgs where
  status : Int
  message : CdmaSmsMessage
  deriving DecidableEq, Repr

structure GsmBroadcastSmsConfigInfo where
  fromServiceId : Int
  toServiceId : Int
  fromCodeScheme : Int
  toCodeScheme : Int
  selected : UInt8
  deriving DecidableEq, Repr, Inhabited

structure CdmaBroadcastSmsConfigInfo where
  serviceCategory : Int
  language : Int
  selected : UInt8
  deriving DecidableEq, Repr, Inhabited

structure InitialAttachApn where
  apn : Option CString
  protocol : Option CString
  authtype : Int
  username : Option CString
  password : Option CString
  deriving DecidableEq, Repr

structure NvWriteItem where
  itemID : Int
  value : Option CString
  deriving DecidableEq, Repr

structure SelectUiccSub where
  slot : Int
  appIndex : Int
  subType : Int
  actStatus : Int
  deriving DecidableEq, Repr

structure SimAuthentication where
  authContext : Int
  authData : Option CString
  aid : Option CString
  deriving DecidableEq, Repr

structure DataProfileInfo where
  profileId : Int
  apn : Option CString
  protocol : Option CString
  authType : Int
  user : Option CString
  password : Option CString
  type : Int
  maxConnsTime : Int
  maxConns : Int
  waitTime : Int
  enabled : Int
  deriving DecidableEq, Repr

/-- The message of `RIL_IMS_SMS_Message`. -/
inductive ImsSmsPayload where
  | gsm (strings : Option (List (Option CString)))
  | cdma (message : CdmaSmsMessage)
  deriving DecidableEq, Repr

structure ImsSmsMessage where
  tech : Int
  retry : UInt8
  messageRef : Int
  message : ImsSmsPayload
  deriving DecidableEq, Repr

/-- What the `data` argument of the vendor's `onRequest` points to. -/
inductive RequestData where
  | null
  | string (s : Option CString)
  | strings (ss : List (Option CString))
  | ints (is : List Int)
  | raw (bytes : Option (List UInt8))
  | smsWrite (args : SmsWriteArgs)
  | dial (d : Dial)
  | simIo (io : SimIo)
  | simApdu (apdu : SimApdu)
  | callForward (cff : CallForwardInfo)
  | cdmaSms (m : CdmaSmsMessage)
  | imsSms (m : ImsSmsMessage)
  | cdmaSmsAck (a : CdmaSmsAck)
  | gsmBrSmsCnf (cs : List GsmBroadcastSmsConfigInfo)
  | cdmaBrSmsCnf (cs : List CdmaBroadcastSmsConfigInfo)
  | cdmaSmsWriteArgs (w : CdmaSmsWriteArgs)
  | initialAttachApn (pf : InitialAttachApn)
  | nvReadItem (itemID : Int)
  | nvWriteItem (i : NvWriteItem)
  | uiccSub (u : SelectUiccSub)
  | simAuthentication (pf : SimAuthentication)
  | dataProfile (ps : List DataProfileInfo)
  deriving DecidableEq, Repr

/-! ### Response structures -/

structure ResponseUus where
  uusType : Int
  uusDcs : Int
  uusLength : Int
  uusData : Option (ℕ → UInt8)
  deriving Inhabited

structure Call where
  state : Int
  index : Int
  toa : Int
  isMpty : Int
  isMT : Int
  als : Int
  isVoice : Int
  isVoicePrivacy : Int
  number : Option CString
  numberPresentation : Int
  name : Option CString
  namePresentation : Int
  uusInfo : Option ResponseUus
  deriving Inhabited

structure LastCallFailCauseInfo where
  causeCode : Int
  vendorCause : Option CString
  deriving Inhabited

structure SmsResponse where
  messageRef : Int
  ackPDU : Option CString
  errorCode : Int
  deriving Inhabited

structure DataCallResponseV4 where
  cid : Int
  active : Int
  type : Option CString
  address : Option CString
  deriving Inhabited

/-- The fields of `RIL_Data_Call_Response_v11`; versions 6 and 9 are initial segments of it. -/
structure DataCallResponse where
  status : Int
  suggestedRetryTime : Int
  cid : Int
  active : Int
  type : Option CString
  ifname : Option CString
  addresses : Option CString
  dnses : Option CString
  gateways : Option CString
  pcscf : Option CString
  mtu : Int
  deriving Inhabited

structure SimIoResponse where
  sw1 : Int
  sw2 : Int
  simResponse : Option CString
  deriving Inhabited

structure SuppSvcNotification where
  notificationType : Int
  code : Int
  index : Int
  type : Int
  number : Option CString
  deriving Inhabited

structure NeighboringCell where
  rssi : Int
  cid : Option CString
  deriving Inhabited

structure CdmaSignalInfoRecord where
  isPresent : Int
  signalType : Int
  alertPitch : Int
  signal : Int
  deriving Inhabited

structure CdmaNumberInfoRecord where
  len : Int
  buf : ℕ → UInt8
  numberType : Int
  numberPlan : Int
  pi : Int
  si : Int
  deriving Inhabited

/-- `RIL_CDMA_InformationRecord`, every member of its union read in its own way. -/
structure CdmaInformationRecord where
  name : Int
  displayAlphaLen : Int
  displayAlphaBuf : ℕ → UInt8
  number : CdmaNumberInfoRecord
  signal : CdmaSignalInfoRecord
  redirectingNumber : CdmaNumberInfoRecord
  redirectingReason : Int
  lineCtrlPolarityIncluded : Int
  lineCtrlToggle : Int
  lineCtrlReverse : Int
  lineCtrlPowerDenial : Int
  clirCause : Int
  audioCtrlUpLink : Int
  audioCtrlDownLink : Int
  deriving Inhabited

structure CdmaInformationRecords where
  numberOfInfoRecs : Int
  infoRec : ℕ → CdmaInformationRecord
  deriving Inhabited

structure SignalStrength where
  gwSignalStrength : Int
  gwBitErrorRate : Int
  cdmaDbm : Int
  cdmaEcio : Int
  evdoDbm : Int
  evdoEcio : Int
  evdoSignalNoiseRatio : Int
  lteSignalStrength : Int
  lteRsrp : Int
  lteRsrq : Int
  lteRssnr : Int
  lteCqi : Int
  tdScdmaRscp : Int
  deriving Inhabited

structure CdmaCallWaiting where
  number : Option CString
  numberPresentation : Int
  name : Option CString
  signalInfoRecord : CdmaSignalInfoRecord
  numberType : Int
  numberPlan : Int
  deriving Inhabited

structure SimRefreshResponse where
  result : Int
  efId : Int
  aid : Option CString
  deriving Inhabited

/-- Identity and signal strength of a GSM or WCDMA cell; only the latter has a `psc`. -/
structure CellGsm where
  mcc : Int
  mnc : Int
  lac : Int
  cid : Int
  psc : Int
  signalStrength : Int
  bitErrorRate : Int
  deriving Inhabited

structure CellCdma where
  networkId : Int
  systemId : Int
  basestationId : Int
  longitude : Int
  latitude : Int
  dbm : Int
  ecio : Int
  evdoDbm : Int
  evdoEcio : Int
  evdoSignalNoiseRatio : Int
  deriving Inhabited

structure CellLte where
  mcc : Int
  mnc : Int
  ci : Int
  pci : Int
  tac : Int
  signalStrength : Int
  rsrp : Int
  rsrq : Int
  rssnr : Int
  cqi : Int
  timingAdvance : Int
  deriving Inhabited

structure CellTdscdma where
  mcc : Int
  mnc : Int
  lac : Int
  cid : Int
  cpid : Int
  rscp : Int
  deriving Inhabited

structure CellInfo where
  cellInfoType : Int
  registered : Int
  timeStampType : Int
  timeStamp : Int
  gsm : CellGsm
  wcdma : CellGsm
  cdma : CellCdma
  lte : CellLte
  tdscdma : CellTdscdma
  deriving Inhabited

structure HardwareConfig where
  type : Int
  uuid : CString
  state : Int
  modemRat : Int
  modemMaxVoice : Int
  modemMaxData : Int
  modemMaxStandby : Int
  simModemUuid : CString
  deriving Inhabited

structure StkCcUnsolSsResponse where
  serviceType : Int
  requestType : Int
  teleserviceType : Int
  serviceClass : Int
  result : Int
  numValidIndexes : Int
  cfInfo : ℕ → CallForwardInfo
  ssInfo : ℕ → Int
  deriving Inhabited

structure AppStatus where
  appType : Int
  appState : Int
  persoSubstate : Int
  aidPtr : Option CString
  appLabelPtr : Option CString
  pin1Replaced : Int
  pin1 : Int
  pin2 : Int
  deriving Inhabited

structure CardStatus where
  cardState : Int
  universalPinState : Int
  gsmUmtsSubscriptionAppIndex : Int
  cdmaSubscriptionAppIndex : Int
  imsSubscriptionAppIndex : Int
  numApplications : Int
  applications : ℕ → AppStatus
  deriving Inhabited

structure DcRtInfo where
  time : Int
  powerState : Int
  deriving Inhabited

/-- The memory a vendor's `void *response` points to, as it reads under each cast of the code.
An array is a function of the index: its length is the caller's `responselen`. -/
structure ResponseMemory where
  bytes : ℕ → UInt8
  string : CString
  ints : ℕ → Int
  strings : ℕ → Option CString
  failCause : LastCallFailCauseInfo
  calls : ℕ → Call
  sms : SmsResponse
  dataCallsV4 : ℕ → DataCallResponseV4
  dataCalls : RilStruct → ℕ → DataCallResponse
  simIo : SimIoResponse
  callForwards : ℕ → CallForwardInfo
  ssn : SuppSvcNotification
  cells : ℕ → NeighboringCell
  cdmaRecords : CdmaInformationRecords
  signalStrength : SignalStrength
  cdmaSignal : CdmaSignalInfoRecord
  cdmaCallWaiting : CdmaCallWaiting
  simRefresh : SimRefreshResponse
  cellInfos : ℕ → CellInfo
  hardwareConfigs : ℕ → HardwareConfig
  ssData : StkCcUnsolSsResponse
  cardStatus : RilStruct → CardStatus
  gsmBrSmsCnf : ℕ → GsmBroadcastSmsConfigInfo
  cdmaBrSmsCnf : ℕ → CdmaBroadcastSmsConfigInfo
  cdmaSms : CdmaSmsMessage
  dcRtInfo : DcRtInfo
  deriving Inhabited

/-! ### The 32-bit target -/

/-- Modified UTF-8, one code unit at a time. -/
def utf8OfUnit (u : UInt16) : List UInt8 :=
  let n := u.toNat
  if n > 0x7ff then
    [UInt8.ofNat (n / 4096 + 0xe0), UInt8.ofNat (n / 64 % 64 + 0x80), UInt8.ofNat (n % 64 + 0x80)]
  else if n > 0x7f ∨ n = 0 then [UInt8.ofNat (n / 64 + 0xc0), UInt8.ofNat (n % 64 + 0x80)]
  else [UInt8.ofNat n]

/-- The sizes and bounds of the x86 build; strings outside ASCII are not needed on the way
back.  A thread has a stack of one megabyte, and no string is kept at an address as small as the
numbers of a request. -/
def x86 : Platform where
  strndup16to8 s := s.flatMap utf8OfUnit
  strdup8to16 s := s.map fun b => UInt16.ofNat b.toNat
  cdmaSmsAddressMax := 36
  cdmaSmsSubaddressMax := 36
  cdmaSmsBearerDataMax := 255
  cdmaMaxNumberOfInfoRecs := 10
  cdmaAlphaInfoBufferLength := 64
  cdmaNumberInfoBufferLength := 81
  numServiceClasses := 7
  ssInfoMax := 4
  sizeOf
    | .smsWriteArgs => 12 | .dial => 12 | .simIoV5 => 32 | .simIoV6 => 36 | .simApdu => 28
    | .callForwardInfo => 24 | .cdmaSmsMessage => 372 | .radioTechnologyFamily => 4
    | .cdmaSmsAck => 8 | .cdmaSmsWriteArgs => 376 | .initialAttachApn => 20 | .nvReadItem => 4
    | .nvWriteItem => 8 | .selectUiccSub => 16 | .simAuthentication => 12
    | .lastCallFailCauseInfo => 8 | .smsResponse => 12 | .dataCallResponseV4 => 20
    | .dataCallResponseV6 => 36 | .dataCallResponseV9 => 40 | .dataCallResponseV11 => 44
    | .simIoResponse => 12 | .suppSvcNotification => 20 | .cdmaInformationRecords => 964
    | .signalStrengthV5 => 28 | .signalStrengthV6 => 48 | .signalStrengthV10 => 52
    | .cdmaSignalInfoRecord => 4 | .cdmaCallWaitingV6 => 24 | .cellInfo => 64
    | .hardwareConfig => 136 | .stkCcUnsolSsResponse => 192 | .cardStatusV5 => 276
    | .cardStatusV6 => 280 | .dcRtInfo => 12 | .gsmBroadcastSmsConfigInfo => 20
    | .cdmaBroadcastSmsConfigInfo => 12 | .dataProfileInfo => 44
  stackHolds n := n ≤ 1000000
  stringAt address := if address = 0 then some none else none

end CtpCommon.Ril
