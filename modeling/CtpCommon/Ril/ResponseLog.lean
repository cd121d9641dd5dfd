import CtpCommon.Lib.LogProg
import CtpCommon.Lib.Printf
import CtpCommon.Ril.Requests

/-!
# What the response functions print

While it encodes a response, a response function prints the same values into the static array
`printBuf` of 8096 bytes, with `sprintf` and without a bound.  What is printed is a `LogProg` that
reads no parcel; a string record of negative length stops it.

* `startResponse`, `appendPrintBuf`, `removeLastChar`, `closeResponse` — the macros;
* `responseLog` — the texts of the function a table entry names;
* `completionSteps` — those of a whole completion, which begin with the name of the request;
* `unsolicitedLog` — those of an unsolicited message, which begin with its name;
* `rilOnRequestCompleteLogged` — a completion that prints: nothing is said of it once a text has
  overrun the array;
* `rilOnRequestComplete_answers` — **PROVED**: a completion whose texts fit removes its request, and
  answers it with one frame whenever the message fits;
* `large_completion_unanswered` — a message that does not.
-/

namespace CtpCommon.Ril

open LogProg (LogStep)

/-! ### The macros -/

/-- `PRINTBUF_SIZE`. -/
def printbufSize : ℕ := 8096

/-- `sprintf(printBuf, "..", ..)`, which prints over the text. -/
def setPrintBuf (line : List Conv) : LogProg Unit := .sprintf (fun _ => printed line) (.done ())

/-- `sprintf(printBuf, "%s..", printBuf, ..)`, which prints a line behind the text. -/
def appendPrintBuf (line : List Conv) : LogProg Unit := .sprintf (· ++ printed line) (.done ())

/-- `printBuf[strlen(printBuf)-1] = 0`. -/
def removeLastChar : LogProg Unit := .removeLastChar (.done ())

def startResponse : LogProg Unit := appendPrintBuf [.text " \x7b"]

def closeResponse : LogProg Unit := appendPrintBuf [.text "\x7d"]

/-! ### The names in the texts -/

/-- `requestToString` of the requests `1, 2, …`; a comment numbers every tenth. -/
def requestNames : List String := [
  -- 1
  "GET_SIM_STATUS", "ENTER_SIM_PIN", "ENTER_SIM_PUK", "ENTER_SIM_PIN2", "ENTER_SIM_PUK2",
  "CHANGE_SIM_PIN", "CHANGE_SIM_PIN2", "ENTER_NETWORK_DEPERSONALIZATION", "GET_CURRENT_CALLS",
  "DIAL",
  -- 11
  "GET_IMSI", "HANGUP", "HANGUP_WAITING_OR_BACKGROUND", "HANGUP_FOREGROUND_RESUME_BACKGROUND",
  "SWITCH_WAITING_OR_HOLDING_AND_ACTIVE", "CONFERENCE", "UDUB", "LAST_CALL_FAIL_CAUSE",
  "SIGNAL_STRENGTH", "VOICE_REGISTRATION_STATE",
  -- 21
  "DATA_REGISTRATION_STATE", "OPERATOR", "RADIO_POWER", "DTMF", "SEND_SMS",
  "SEND_SMS_EXPECT_MORE", "SETUP_DATA_CALL", "SIM_IO", "SEND_USSD", "CANCEL_USSD",
  -- 31
  "GET_CLIR", "SET_CLIR", "QUERY_CALL_FORWARD_STATUS", "SET_CALL_FORWARD", "QUERY_CALL_WAITING",
  "SET_CALL_WAITING", "SMS_ACKNOWLEDGE", "GET_IMEI", "GET_IMEISV", "ANSWER",
  -- 41
  "DEACTIVATE_DATA_CALL", "QUERY_FACILITY_LOCK", "SET_FACILITY_LOCK", "CHANGE_BARRING_PASSWORD",
  "QUERY_NETWORK_SELECTION_MODE", "SET_NETWORK_SELECTION_AUTOMATIC",
  "SET_NETWORK_SELECTION_MANUAL", "QUERY_AVAILABLE_NETWORKS ", "DTMF_START", "DTMF_STOP",
  -- 51
  "BASEBAND_VERSION", "SEPARATE_CONNECTION", "SET_MUTE", "GET_MUTE", "QUERY_CLIP",
  "LAST_DATA_CALL_FAIL_CAUSE", "DATA_CALL_LIST", "RESET_RADIO", "OEM_HOOK_RAW",
  "OEM_HOOK_STRINGS",
  -- 61
  "SCREEN_STATE", "<unknown request>", "<unknown request>", "<unknown request>", "SET_BAND_MODE",
  "QUERY_AVAILABLE_BAND_MODE", "STK_GET_PROFILE", "STK_SET_PROFILE", "STK_SEND_ENVELOPE_COMMAND",
  "STK_SEND_TERMINAL_RESPONSE",
  -- 71
  "STK_HANDLE_CALL_SETUP_REQUESTED_FROM_SIM", "EXPLICIT_CALL_TRANSFER",
  "SET_PREFERRED_NETWORK_TYPE", "GET_PREFERRED_NETWORK_TYPE", "GET_NEIGHBORING_CELL_IDS",
  "SET_LOCATION_UPDATES", "CDMA_SET_SUBSCRIPTION_SOURCE", "CDMA_SET_ROAMING_PREFERENCE",
  "CDMA_QUERY_ROAMING_PREFERENCE", "SET_TTY_MODE",
  -- 81
  "QUERY_TTY_MODE", "CDMA_SET_PREFERRED_VOICE_PRIVACY_MODE",
  "CDMA_QUERY_PREFERRED_VOICE_PRIVACY_MODE", "CDMA_FLASH", "CDMA_BURST_DTMF",
  "CDMA_VALIDATE_AND_WRITE_AKEY", "CDMA_SEND_SMS", "CDMA_SMS_ACKNOWLEDGE",
  "GSM_GET_BROADCAST_SMS_CONFIG", "GSM_SET_BROADCAST_SMS_CONFIG",
  -- 91
  "RIL_REQUEST_GSM_SMS_BROADCAST_ACTIVATION", "CDMA_GET_BROADCAST_SMS_CONFIG",
  "CDMA_SET_BROADCAST_SMS_CONFIG", "CDMA_SMS_BROADCAST_ACTIVATION", "CDMA_SUBSCRIPTION",
  "CDMA_WRITE_SMS_TO_RUIM", "CDMA_DELETE_SMS_ON_RUIM", "DEVICE_IDENTITY",
  "EXIT_EMERGENCY_CALLBACK_MODE", "GET_SMSC_ADDRESS",
  -- 101
  "SET_SMSC_ADDRESS", "REPORT_SMS_MEMORY_STATUS", "REPORT_STK_SERVICE_IS_RUNNING",
  "CDMA_GET_SUBSCRIPTION_SOURCE", "ISIM_AUTHENTICATION",
  "RIL_REQUEST_ACKNOWLEDGE_INCOMING_GSM_SMS_WITH_PDU",
  "RIL_REQUEST_STK_SEND_ENVELOPE_WITH_STATUS", "VOICE_RADIO_TECH", "GET_CELL_INFO_LIST",
  "SET_UNSOL_CELL_INFO_LIST_RATE",
  -- 111
  "RIL_REQUEST_SET_INITIAL_ATTACH_APN", "IMS_REGISTRATION_STATE", "IMS_SEND_SMS",
  "SIM_TRANSMIT_APDU_BASIC", "SIM_OPEN_CHANNEL", "SIM_CLOSE_CHANNEL", "SIM_TRANSMIT_APDU_CHANNEL",
  "<unknown request>", "<unknown request>", "<unknown request>",
  -- 121
  "<unknown request>", "SET_UICC_SUBSCRIPTION", "ALLOW_DATA", "GET_HARDWARE_CONFIG",
  "SIM_AUTHENTICATION", "GET_DC_RT_INFO", "SET_DC_RT_INFO_RATE", "SET_DATA_PROFILE", "SHUTDOWN"]

/-- `requestToString` of the unsolicited messages. -/
def unsolNames : List String := [
  -- 1000
  "UNSOL_RESPONSE_RADIO_STATE_CHANGED", "UNSOL_RESPONSE_CALL_STATE_CHANGED",
  "UNSOL_RESPONSE_VOICE_NETWORK_STATE_CHANGED", "UNSOL_RESPONSE_NEW_SMS",
  "UNSOL_RESPONSE_NEW_SMS_STATUS_REPORT", "UNSOL_RESPONSE_NEW_SMS_ON_SIM", "UNSOL_ON_USSD",
  "UNSOL_ON_USSD_REQUEST(obsolete)", "UNSOL_NITZ_TIME_RECEIVED", "UNSOL_SIGNAL_STRENGTH",
  -- 1010
  "UNSOL_DATA_CALL_LIST_CHANGED", "UNSOL_SUPP_SVC_NOTIFICATION", "UNSOL_STK_SESSION_END",
  "UNSOL_STK_PROACTIVE_COMMAND", "UNSOL_STK_EVENT_NOTIFY", "UNSOL_STK_CALL_SETUP",
  "UNSOL_SIM_SMS_STORAGE_FUL", "UNSOL_SIM_REFRESH", "UNSOL_CALL_RING",
  "UNSOL_RESPONSE_SIM_STATUS_CHANGED",
  -- 1020
  "UNSOL_NEW_CDMA_SMS", "UNSOL_NEW_BROADCAST_SMS", "UNSOL_CDMA_RUIM_SMS_STORAGE_FULL",
  "UNSOL_RESTRICTED_STATE_CHANGED", "UNSOL_ENTER_EMERGENCY_CALLBACK_MODE",
  "UNSOL_CDMA_CALL_WAITING", "UNSOL_CDMA_OTA_PROVISION_STATUS", "UNSOL_CDMA_INFO_REC",
  "UNSOL_OEM_HOOK_RAW", "UNSOL_RINGBACK_TONE",
  -- 1030
  "UNSOL_RESEND_INCALL_MUTE", "UNSOL_CDMA_SUBSCRIPTION_SOURCE_CHANGED", "UNSOL_CDMA_PRL_CHANGED",
  "UNSOL_EXIT_EMERGENCY_CALLBACK_MODE", "UNSOL_RIL_CONNECTED", "UNSOL_VOICE_RADIO_TECH_CHANGED",
  "UNSOL_CELL_INFO_LIST", "RESPONSE_IMS_NETWORK_STATE_CHANGED",
  "UNSOL_UICC_SUBSCRIPTION_STATUS_CHANGED", "UNSOL_SRVCC_STATE_NOTIFY",
  -- 1040
  "HARDWARE_CONFIG_CHANGED", "UNSOL_DC_RT_INFO_CHANGED", "UNSOL_RADIO_CAPABILITY", "UNSOL_ON_SS",
  "UNSOL_STK_CC_ALPHA_NOTIFY"]

def requestToString (request : ℕ) : String :=
  if request < rilUnsolResponseBase then
    ("<unknown request>" :: requestNames).getD request "<unknown request>"
  else unsolNames.getD (request - rilUnsolResponseBase) "<unknown request>"

def radioStateToString : RadioState → String
  | .off => "RADIO_OFF"
  | .unavailable => "RADIO_UNAVAILABLE"
  | .simNotReady => "RADIO_SIM_NOT_READY"
  | .simLockedOrAbsent => "RADIO_SIM_LOCKED_OR_ABSENT"
  | .simReady => "RADIO_SIM_READY"
  | .ruimNotReady => "RADIO_RUIM_NOT_READY"
  | .ruimReady => "RADIO_RUIM_READY"
  | .ruimLockedOrAbsent => "RADIO_RUIM_LOCKED_OR_ABSENT"
  | .nvNotReady => "RADIO_NV_NOT_READY"
  | .nvReady => "RADIO_NV_READY"
  | .on => "RADIO_ON"

/-- The names of the errors `0, 1, …`, without `FEATURE_MULTIMODE_ANDROID`. -/
def failCauses : List String :=
  ["E_SUCCESS", "E_RADIO_NOT_AVAILABLE", "E_GENERIC_FAILURE", "E_PASSWORD_INCORRECT",
    "E_SIM_PIN2", "E_SIM_PUK2", "E_REQUEST_NOT_SUPPORTED", "E_CANCELLED",
    "E_OP_NOT_ALLOWED_DURING_VOICE_CALL", "E_OP_NOT_ALLOWED_BEFORE_REG_TO_NW",
    "E_SMS_SEND_FAIL_RETRY", "E_SIM_ABSENT", "<unknown error>", "<unknown error>",
    "<unknown error>", "E_ILLEGAL_SIM_OR_ME"]

def failCauseToString (e : Int) : String :=
  if 0 ≤ e then failCauses.getD e.toNat "<unknown error>" else "<unknown error>"

def callStates : List String := ["ACTIVE", "HOLDING", "DIALING", "ALERTING", "INCOMING", "WAITING"]

def callStateToString (s : Int) : String :=
  if 0 ≤ s then callStates.getD s.toNat "<unknown state>" else "<unknown state>"

/-! ### The shapes of the family -/

/-- `for (i = 0; i < n; i++)` over the response. -/
def logEach (response : Option ResponseMemory) (n : ℕ)
    (f : ResponseMemory → ℕ → LogProg Unit) : LogProg Unit :=
  match response with
  | none => .done ()
  | some r => (LogProg.loop 0 n (f r)).bind fun _ => .done ()

/-- The checks and the loop of the responses that are arrays of `size`-byte elements. -/
def arrayLog (size : ℕ) (each : ResponseMemory → ℕ → LogProg Unit)
    (response : Option ResponseMemory) (responselen : ℕ) : LogProg Unit :=
  if response.isNone ∧ responselen ≠ 0 then .done ()
  else if responselen % size ≠ 0 then .done ()
  else do
    startResponse
    logEach response (responselen / size) each
    removeLastChar
    closeResponse

/-- The checks of the responses that are one structure of exactly `size` bytes, printed in one
line. -/
def structLog (size : ℕ) (line : ResponseMemory → List Conv) (response : Option ResponseMemory)
    (responselen : ℕ) : LogProg Unit :=
  match response with
  | none => .done ()
  | some r =>
      if responselen ≠ size then .done ()
      else do
        startResponse
        appendPrintBuf (line r)
        closeResponse

/-- `(condition) ? "yes" : "no"`. -/
def choice (b : Bool) (yes no : String) : Conv := .text (if b then yes else no)

variable (env : EncodeEnv)

/-! ### Integers and strings -/

def logResponseInts : Option ResponseMemory → ℕ → LogProg Unit :=
  arrayLog wordSize fun r i =>
    appendPrintBuf [.dec (r.ints i), .text ","]

def logResponseFailCause (response : Option ResponseMemory) (responselen : ℕ) : LogProg Unit :=
  match response with
  | none => .done ()
  | some r =>
      if responselen = wordSize then do
        startResponse
        appendPrintBuf [.dec (r.ints 0), .text ","]
        removeLastChar
        closeResponse
      else if responselen = env.platform.sizeOf .lastCallFailCauseInfo then do
        startResponse
        appendPrintBuf [.text "[cause_code=", .dec r.failCause.causeCode, .text ",vendor_cause=",
          .str r.failCause.vendorCause, .text "]"]
        removeLastChar
        closeResponse
      else .done ()

/-- A null array is written as a count alone, and not printed. -/
def logResponseStrings (response : Option ResponseMemory) (responselen : ℕ) : LogProg Unit :=
  match response with
  | none => .done ()
  | some _ =>
      arrayLog wordSize (fun r i =>
        appendPrintBuf [.str (r.strings i), .text ","]) response responselen

def logResponseString (response : Option ResponseMemory) (_responselen : ℕ) : LogProg Unit := do
  startResponse
  appendPrintBuf [.str (response.map ResponseMemory.string)]
  closeResponse

def logResponseVoid (_response : Option ResponseMemory) (_responselen : ℕ) : LogProg Unit := do
  startResponse
  removeLastChar

/-! ### Calls and messages -/

def logCall (c : Call) : LogProg Unit := do
  appendPrintBuf [.text "[id=", .dec c.index, .text ",", .text (callStateToString c.state),
    .text ",toa=", .dec c.toa, .text ","]
  appendPrintBuf [choice (c.isMpty ≠ 0) "conf" "norm", .text ",", choice (c.isMT ≠ 0) "mt" "mo",
    .text ",als=", .dec c.als, .text ",", choice (c.isVoice ≠ 0) "voc" "nonvoc", .text ",",
    choice (c.isVoicePrivacy ≠ 0) "evp" "noevp", .text ","]
  appendPrintBuf [.str c.number, .text ",cli=", .dec c.numberPresentation, .text ",name='",
    .str c.name, .text "',", .dec c.namePresentation, .text "]"]

def logResponseCallList : Option ResponseMemory → ℕ → LogProg Unit :=
  arrayLog wordSize fun r i => logCall (r.calls i)

def logResponseSMS : Option ResponseMemory → ℕ → LogProg Unit :=
  structLog (env.platform.sizeOf .smsResponse) fun r =>
    [.dec r.sms.messageRef, .text ",", .str r.sms.ackPDU, .text ",", .dec r.sms.errorCode]

/-- A call forwarding record, printed alike by two functions. -/
def callForwardLine (cf : CallForwardInfo) : List Conv :=
  [.text "[", choice (cf.status = 1) "enable" "disable", .text ",reason=", .dec cf.reason,
    .text ",cls=", .dec cf.serviceClass, .text ",toa=", .dec cf.toa, .text ",", .str cf.number,
    .text ",tout=", .dec cf.timeSeconds, .text "],"]

def logResponseCallForwards : Option ResponseMemory → ℕ → LogProg Unit :=
  arrayLog wordSize fun r i => appendPrintBuf (callForwardLine (r.callForwards i))

def logResponseSsn : Option ResponseMemory → ℕ → LogProg Unit :=
  structLog (env.platform.sizeOf .suppSvcNotification) fun r =>
    [choice (r.ssn.notificationType = 0) "mo" "mt", .text ",code=", .dec r.ssn.code, .text ",id=",
      .dec r.ssn.index, .text ",type=", .dec r.ssn.type, .text ",", .str r.ssn.number]

def logResponseSimIo : Option ResponseMemory → ℕ → LogProg Unit :=
  structLog (env.platform.sizeOf .simIoResponse) fun r =>
    [.text "sw1=0x", .hex r.simIo.sw1, .text ",sw2=0x", .hex r.simIo.sw2, .text ",",
      .str r.simIo.simResponse]

/-! ### Data calls -/

/-- `(active==0)?"down":"up"`. -/
def upOrDown (active : Int) : Conv := choice (active = 0) "down" "up"

def logResponseDataCallListV4 : Option ResponseMemory → ℕ → LogProg Unit :=
  arrayLog (env.platform.sizeOf .dataCallResponseV4) fun r i =>
    let d := r.dataCallsV4 i
    appendPrintBuf [.text "[cid=", .dec d.cid, .text ",", upOrDown d.active, .text ",", .str d.type,
      .text ",", .str d.address, .text "],"]

/-- What every version from 6 on prints of a call first. -/
def dataCallLine (status : Int) (d : DataCallResponse) : List Conv :=
  [.text "[status=", .dec status, .text ",retry=", .dec d.suggestedRetryTime, .text ",cid=",
    .dec d.cid, .text ",", upOrDown d.active, .text ",", .str d.type, .text ",", .str d.ifname,
    .text ",", .str d.addresses, .text ",", .str d.dnses, .text ",", .str d.gateways]

/-- The status printed is the one that is written. -/
def logDataCallsV6 : ℕ → List DataCallResponse → LogProg Unit
  | _, [] => .done ()
  | n, d :: ds =>
      let s := statusV6 n d
      (appendPrintBuf (dataCallLine s.1 d ++ [.text "],"])).bind fun _ => logDataCallsV6 s.2 ds

def logResponseDataCallListV6 (response : Option ResponseMemory) (responselen : ℕ) :
    LogProg Unit :=
  let size := env.platform.sizeOf .dataCallResponseV6
  if response.isNone ∧ responselen ≠ 0 then .done ()
  else if responselen % size ≠ 0 then .done ()
  else do
    startResponse
    match response with
    | none => .done ()
    | some r =>
        logDataCallsV6 env.dnsFailures
          ((List.range (responselen / size)).map (r.dataCalls .dataCallResponseV6))
    removeLastChar
    closeResponse

def logResponseDataCallListV9 : Option ResponseMemory → ℕ → LogProg Unit :=
  arrayLog (env.platform.sizeOf .dataCallResponseV9) fun r i =>
    let d := r.dataCalls .dataCallResponseV9 i
    appendPrintBuf (dataCallLine d.status d ++ [.text ",", .str d.pcscf, .text "],"])

def logResponseDataCallList (response : Option ResponseMemory) (responselen : ℕ) :
    LogProg Unit :=
  if env.version < 5 then logResponseDataCallListV4 env response responselen
  else if responselen % env.platform.sizeOf .dataCallResponseV6 = 0 then
    logResponseDataCallListV6 env response responselen
  else if responselen % env.platform.sizeOf .dataCallResponseV9 = 0 then
    logResponseDataCallListV9 env response responselen
  else
    arrayLog (env.platform.sizeOf .dataCallResponseV11) (fun r i =>
      let d := r.dataCalls .dataCallResponseV11 i
      appendPrintBuf (dataCallLine d.status d ++
        [.text ",", .str d.pcscf, .text ",mtu=", .dec d.mtu, .text "],"])) response responselen

def logResponseSetupDataCall (response : Option ResponseMemory) (responselen : ℕ) :
    LogProg Unit :=
  if env.version < 5 then logResponseStrings response responselen
  else logResponseDataCallList env response responselen

/-! ### Cells and signal -/

def logResponseCellList : Option ResponseMemory → ℕ → LogProg Unit :=
  arrayLog wordSize fun r i =>
    appendPrintBuf [.text "[cid=", .str (r.cells i).cid, .text ",rssi=", .dec (r.cells i).rssi,
      .text "],"]

/-- The fields are printed as the remapping has left them, whatever the length. -/
def logResponseRilSignalStrength (response : Option ResponseMemory) (responselen : ℕ) :
    LogProg Unit :=
  match response with
  | none => .done ()
  | some r =>
      if responselen ≥ env.platform.sizeOf .signalStrengthV5 then do
        let s := r.signalStrength
        let old : Bool := responselen ≥ env.platform.sizeOf .signalStrengthV6 ∧ env.version ≤ 6
        let fix (v w : Int) : Int := if old ∧ v = -1 then w else v
        let rsrp :=
          if old ∧ s.lteRsrp < -1 then Int.bmod (-s.lteRsrp) (2 ^ 32)
          else fix s.lteRsrp Parcel.int32Max
        startResponse
        appendPrintBuf [.text "[signalStrength=", .dec s.gwSignalStrength, .text ",bitErrorRate=",
          .dec s.gwBitErrorRate, .text ",                CDMA_SS.dbm=", .dec s.cdmaDbm,
          .text ",CDMA_SSecio=", .dec s.cdmaEcio, .text ",                EVDO_SS.dbm=",
          .dec s.evdoDbm, .text ",EVDO_SS.ecio=", .dec s.evdoEcio,
          .text ",                EVDO_SS.signalNoiseRatio=", .dec s.evdoSignalNoiseRatio,
          .text ",                LTE_SS.signalStrength=", .dec (fix s.lteSignalStrength 99),
          .text ",LTE_SS.rsrp=", .dec rsrp, .text ",LTE_SS.rsrq=",
          .dec (fix s.lteRsrq Parcel.int32Max), .text ",                LTE_SS.rssnr=",
          .dec s.lteRssnr, .text ",LTE_SS.cqi=", .dec (fix s.lteCqi Parcel.int32Max),
          .text ",TDSCDMA_SS.rscp=", .dec s.tdScdmaRscp, .text "]"]
        closeResponse
      else .done ()

/-- The two or three texts of a cell; one of any other type has only the first. -/
def logCell (i : ℕ) (c : CellInfo) : LogProg Unit := do
  appendPrintBuf [.text "[", .dec i, .text ": type=", .dec c.cellInfoType, .text ",registered=",
    .dec c.registered, .text ",timeStampType=", .dec c.timeStampType, .text ",timeStamp=",
    .dec (Int.bmod c.timeStamp (2 ^ 64))]
  if c.cellInfoType = 1 then
    appendPrintBuf [.text " GSM id: mcc=", .dec c.gsm.mcc, .text ",mnc=", .dec c.gsm.mnc,
      .text ",lac=", .dec c.gsm.lac, .text ",cid=", .dec c.gsm.cid, .text ","]
    appendPrintBuf [.text " gsmSS: ss=", .dec c.gsm.signalStrength, .text ",ber=",
      .dec c.gsm.bitErrorRate, .text "],"]
  else if c.cellInfoType = 4 then
    appendPrintBuf [.text " WCDMA id: mcc=", .dec c.wcdma.mcc, .text ",mnc=", .dec c.wcdma.mnc,
      .text ",lac=", .dec c.wcdma.lac, .text ",cid=", .dec c.wcdma.cid, .text ",psc=",
      .dec c.wcdma.psc, .text ","]
    appendPrintBuf [.text " wcdmaSS: ss=", .dec c.wcdma.signalStrength, .text ",ber=",
      .dec c.wcdma.bitErrorRate, .text "],"]
  else if c.cellInfoType = 2 then
    appendPrintBuf [.text " CDMA id: nId=", .dec c.cdma.networkId, .text ",sId=",
      .dec c.cdma.systemId, .text ",bsId=", .dec c.cdma.basestationId, .text ",long=",
      .dec c.cdma.longitude, .text ",lat=", .dec c.cdma.latitude]
    appendPrintBuf [.text " cdmaSS: dbm=", .dec c.cdma.dbm, .text " ecio=", .dec c.cdma.ecio,
      .text " evdoSS: dbm=", .dec c.cdma.evdoDbm, .text ",ecio=", .dec c.cdma.evdoEcio,
      .text ",snr=", .dec c.cdma.evdoSignalNoiseRatio]
  else if c.cellInfoType = 3 then
    appendPrintBuf [.text " LTE id: mcc=", .dec c.lte.mcc, .text ",mnc=", .dec c.lte.mnc,
      .text ",ci=", .dec c.lte.ci, .text ",pci=", .dec c.lte.pci, .text ",tac=", .dec c.lte.tac]
    appendPrintBuf [.text " lteSS: ss=", .dec c.lte.signalStrength, .text ",rsrp=",
      .dec c.lte.rsrp, .text ",rsrq=", .dec c.lte.rsrq, .text ",rssnr=", .dec c.lte.rssnr,
      .text ",cqi=", .dec c.lte.cqi, .text ",ta=", .dec c.lte.timingAdvance]
  else if c.cellInfoType = 5 then
    appendPrintBuf [.text " TDSCDMA id: mcc=", .dec c.tdscdma.mcc, .text ",mnc=",
      .dec c.tdscdma.mnc, .text ",lac=", .dec c.tdscdma.lac, .text ",cid=", .dec c.tdscdma.cid,
      .text ",cpid=", .dec c.tdscdma.cpid, .text ","]
    appendPrintBuf [.text " tdscdmaSS: rscp=", .dec c.tdscdma.rscp, .text "],"]

def logResponseCellInfoList : Option ResponseMemory → ℕ → LogProg Unit :=
  arrayLog (env.platform.sizeOf .cellInfo) fun r i => logCell i (r.cellInfos i)

/-! ### CDMA records -/

/-- A string record prints nothing; `false` is the error return for a length beyond the buffer. -/
def logStringRecord (len : Int) (size : ℕ) : LogProg Bool :=
  if len > size then return false else .need (0 ≤ len) (.done true)

/-- The switch on the record's name; `false` is an error return. -/
def logInfoRec (rec : CdmaInformationRecord) : LogProg Bool := do
  if rec.name = 0 ∨ rec.name = 7 then
    logStringRecord rec.displayAlphaLen env.platform.cdmaAlphaInfoBufferLength
  else if rec.name = 1 ∨ rec.name = 2 ∨ rec.name = 3 then
    logStringRecord rec.number.len env.platform.cdmaNumberInfoBufferLength
  else if rec.name = 4 then
    appendPrintBuf [.text "isPresent=", .hex rec.signal.isPresent, .text ", signalType=",
      .hex rec.signal.signalType, .text ",                                 alertPitch=",
      .hex rec.signal.alertPitch, .text ", signal=", .hex rec.signal.signal, .text ", "]
    removeLastChar
    return true
  else if rec.name = 5 then
    logStringRecord rec.redirectingNumber.len env.platform.cdmaNumberInfoBufferLength
  else if rec.name = 6 then
    appendPrintBuf [.text "lineCtrlPolarityIncluded=", .dec rec.lineCtrlPolarityIncluded,
      .text ",                                 lineCtrlToggle=", .dec rec.lineCtrlToggle,
      .text ", lineCtrlReverse=", .dec rec.lineCtrlReverse,
      .text ",                                 lineCtrlPowerDenial=", .dec rec.lineCtrlPowerDenial,
      .text ", "]
    removeLastChar
    return true
  else if rec.name = 8 then
    appendPrintBuf [.text "cause", .dec rec.clirCause]
    removeLastChar
    return true
  else if rec.name = 10 then
    appendPrintBuf [.text "upLink=", .dec rec.audioCtrlUpLink, .text ", downLink=",
      .dec rec.audioCtrlDownLink, .text ", "]
    removeLastChar
    return true
  else return false

/-- The loop over the records, and what follows it unless it is left. -/
def logInfoRecs : List CdmaInformationRecord → LogProg Unit
  | [] => closeResponse
  | rec :: recs => (logInfoRec env rec).bind fun ok => if ok then logInfoRecs recs else .done ()

def logResponseCdmaInformationRecords (response : Option ResponseMemory) (responselen : ℕ) :
    LogProg Unit :=
  match response with
  | none => .done ()
  | some r =>
      if responselen ≠ env.platform.sizeOf .cdmaInformationRecords then .done ()
      else do
        let num : Int := min r.cdmaRecords.numberOfInfoRecs env.platform.cdmaMaxNumberOfInfoRecs
        startResponse
        logInfoRecs env ((List.range num.toNat).map r.cdmaRecords.infoRec)

def logResponseCdmaSignalInfoRecord (response : Option ResponseMemory) (responselen : ℕ) :
    LogProg Unit :=
  if responselen = 0 then .done ()
  else structLog (env.platform.sizeOf .cdmaSignalInfoRecord) (fun r =>
    [.text "[isPresent=", .dec r.cdmaSignal.isPresent, .text ",signalType=",
      .dec r.cdmaSignal.signalType, .text ",alertPitch=", .dec r.cdmaSignal.alertPitch,
      .text "              signal=", .dec r.cdmaSignal.signal, .text "]"]) response responselen

def logResponseCallRing (response : Option ResponseMemory) (responselen : ℕ) : LogProg Unit :=
  if response.isNone ∨ responselen = 0 then logResponseVoid response responselen
  else logResponseCdmaSignalInfoRecord env response responselen

/-- The last two fields are printed also of a short structure. -/
def logResponseCdmaCallWaiting (response : Option ResponseMemory) (_responselen : ℕ) :
    LogProg Unit :=
  match response with
  | none => .done ()
  | some r => do
      let c := r.cdmaCallWaiting
      let i := c.signalInfoRecord
      startResponse
      appendPrintBuf [.text "number=", .str c.number, .text ",numberPresentation=",
        .dec c.numberPresentation, .text ", name=", .str c.name,
        .text ",            signalInfoRecord[isPresent=", .dec i.isPresent, .text ",signalType=",
        .dec i.signalType, .text ",alertPitch=", .dec i.alertPitch, .text "            signal=",
        .dec i.signal, .text ",number_type=", .dec c.numberType, .text ",number_plan=",
        .dec c.numberPlan, .text "]"]
      closeResponse

/-- What is printed of a CDMA message. -/
def cdmaSmsLine (m : CdmaSmsMessage) : List Conv :=
  [.text "uTeleserviceID=", .dec m.uTeleserviceID, .text ", bIsServicePresent=",
    .dec m.bIsServicePresent.toNat, .text ", uServicecategory=", .dec m.uServicecategory,
    .text ",             sAddress.digit_mode=", .dec m.sAddress.digitMode,
    .text ", sAddress.number_mode=", .dec m.sAddress.numberMode, .text ", sAddress.number_type=",
    .dec m.sAddress.numberType, .text ", "]

def logResponseCdmaSms : Option ResponseMemory → ℕ → LogProg Unit :=
  structLog (env.platform.sizeOf .cdmaSmsMessage) fun r => cdmaSmsLine r.cdmaSms

/-! ### The remaining responses -/

def logResponseSimRefresh (response : Option ResponseMemory) (_responselen : ℕ) :
    LogProg Unit :=
  match response with
  | none => .done ()
  | some r => do
      startResponse
      if env.version = 7 then
        appendPrintBuf [.text "result=", .dec r.simRefresh.result, .text ", ef_id=",
          .dec r.simRefresh.efId, .text ", aid=", .str r.simRefresh.aid]
      else
        appendPrintBuf [.text "result=", .dec (r.ints 0), .text ", ef_id=", .dec (r.ints 1)]
      closeResponse

def hardwareLine (h : HardwareConfig) : List Conv :=
  if h.type = 0 then
    [.text " modem: uuid=", .str (some h.uuid), .text ",state=", .dec h.state, .text ",rat=",
      .hex0 8 h.modemRat, .text ",maxV=", .dec h.modemMaxVoice, .text ",maxD=",
      .dec h.modemMaxData, .text ",maxS=", .dec h.modemMaxStandby]
  else
    [.text " sim: uuid=", .str (some h.uuid), .text ",state=", .dec h.state, .text ",modem-uuid=",
      .str (some h.simModemUuid)]

/-- A configuration of any other type is passed over. -/
def logResponseHardwareConfig : Option ResponseMemory → ℕ → LogProg Unit :=
  arrayLog (env.platform.sizeOf .hardwareConfig) fun r i =>
    let h := r.hardwareConfigs i
    if h.type = 0 ∨ h.type = 1 then appendPrintBuf (hardwareLine h) else .done ()

def logResponseSSData (response : Option ResponseMemory) (responselen : ℕ) : LogProg Unit :=
  match response with
  | none => .done ()
  | some r =>
      if responselen ≠ env.platform.sizeOf .stkCcUnsolSsResponse then .done ()
      else do
        let s := r.ssData
        startResponse
        if isServiceTypeCfQuery s.serviceType s.requestType then
          let num : Int := min s.numValidIndexes env.platform.numServiceClasses
          logEach response num.toNat fun _ i => appendPrintBuf (callForwardLine (s.cfInfo i))
        else
          logEach response env.platform.ssInfoMax fun _ i =>
            appendPrintBuf [.dec (s.ssInfo i), .text ","]
        removeLastChar
        closeResponse

def appStatusLine (a : AppStatus) : List Conv :=
  [.text "[app_type=", .dec a.appType, .text ",app_state=", .dec a.appState,
    .text ",perso_substate=", .dec a.persoSubstate, .text ",                    aid_ptr=",
    .str a.aidPtr, .text ",app_label_ptr=", .str a.appLabelPtr, .text ",pin1_replaced=",
    .dec a.pin1Replaced, .text ",pin1=", .dec a.pin1, .text ",pin2=", .dec a.pin2, .text "],"]

/-- `sendSimStatusAppInfo`, which keeps the last comma. -/
def logSimStatusAppInfo (c : CardStatus) : LogProg Unit := do
  startResponse
  let _ ← LogProg.loop 0 c.numApplications.toNat fun i =>
    appendPrintBuf (appStatusLine (c.applications i))
  closeResponse

def logResponseSimStatus (response : Option ResponseMemory) (responselen : ℕ) : LogProg Unit :=
  match response with
  | none => .done ()
  | some r =>
      if responselen = env.platform.sizeOf .cardStatusV6 then
        logSimStatusAppInfo (r.cardStatus .cardStatusV6)
      else if responselen = env.platform.sizeOf .cardStatusV5 then
        logSimStatusAppInfo (r.cardStatus .cardStatusV5)
      else .done ()

def logResponseGsmBrSmsCnf (response : Option ResponseMemory) (responselen : ℕ) :
    LogProg Unit := do
  startResponse
  logEach response (responselen / wordSize) fun r i =>
    let c := r.gsmBrSmsCnf i
    appendPrintBuf [.text " [", .dec i, .text ": fromServiceId=", .dec c.fromServiceId,
      .text ", toServiceId=", .dec c.toServiceId, .text ",                 fromCodeScheme=",
      .dec c.fromCodeScheme, .text ", toCodeScheme=", .dec c.toCodeScheme, .text ", selected =",
      .dec c.selected.toNat, .text "]"]
  closeResponse

def logResponseCdmaBrSmsCnf (response : Option ResponseMemory) (responselen : ℕ) :
    LogProg Unit := do
  startResponse
  logEach response (responselen / wordSize) fun r i =>
    let c := r.cdmaBrSmsCnf i
    appendPrintBuf [.text " [", .dec i, .text ": srvice_category=", .dec c.serviceCategory,
      .text ", language =", .dec c.language, .text ",               selected =",
      .dec c.selected.toNat, .text "], "]
  closeResponse

/-- The format has `%d` for the 64-bit time, whose upper word is printed as the power state. -/
def logResponseDcRtInfo (response : Option ResponseMemory) (responselen : ℕ) : LogProg Unit :=
  let size := env.platform.sizeOf .dcRtInfo
  match response with
  | none => .done ()
  | some r =>
      if responselen % size ≠ 0 ∨ responselen / size ≠ 1 then .done ()
      else do
        let time := r.dcRtInfo.time
        startResponse
        appendPrintBuf [.text "[time=", .dec (Int.bmod time (2 ^ 32)), .text ",powerState=",
          .dec (Int.bmod (time / 2 ^ 32) (2 ^ 32)), .text "]"]
        closeResponse

/-! ### The function a table entry names -/

def responseLog : ResponseFunction → Option ResponseMemory → ℕ → LogProg Unit
  | .responseInts | .responseEnterSimPin => logResponseInts
  | .responseFailCause => logResponseFailCause env
  | .responseStrings => logResponseStrings
  | .responseString => logResponseString
  | .responseVoid | .responseRadioPower => logResponseVoid
  | .responseCallList => logResponseCallList
  | .responseSMS => logResponseSMS env
  | .responseDataCallList => logResponseDataCallList env
  | .responseSetupDataCall => logResponseSetupDataCall env
  | .responseRaw => fun _ _ => .done ()
  | .responseSimIo => logResponseSimIo env
  | .responseCallForwards => logResponseCallForwards
  | .responseSsn => logResponseSsn env
  | .responseCellList => logResponseCellList
  | .responseCdmaInformationRecords => logResponseCdmaInformationRecords env
  | .responseRilSignalStrength => logResponseRilSignalStrength env
  | .responseCallRing => logResponseCallRing env
  | .responseCdmaSignalInfoRecord => logResponseCdmaSignalInfoRecord env
  | .responseCdmaCallWaiting => logResponseCdmaCallWaiting
  | .responseSimRefresh => logResponseSimRefresh env
  | .responseCellInfoList => logResponseCellInfoList env
  | .responseHardwareConfig => logResponseHardwareConfig env
  | .responseSSData => logResponseSSData env
  | .responseSimStatus => logResponseSimStatus env
  | .responseGsmBrSmsCnf => logResponseGsmBrSmsCnf
  | .responseCdmaBrSmsCnf => logResponseCdmaBrSmsCnf
  | .responseCdmaSms => logResponseCdmaSms env
  | .responseDcRtInfo => logResponseDcRtInfo env

/-- What a program that reads no parcel does to an array that holds a text. -/
def logSteps {α : Type} (x : LogProg α) (printBuf : List UInt8) : List LogStep :=
  (x.exec ⟨Parcel.ofBytes [], true, 0, 0⟩ printBuf).steps

/-- One line. -/
theorem appendPrintBuf_appends (line : List Conv) (s : ReadProg.ReadState) :
    (appendPrintBuf line).Appends s [printed line] () s := .line (.done () s)

/-- A response in brackets: the last of its lines ends in a character that is removed. -/
theorem bracketed_fits_iff {x : LogProg Unit} {lines : List (List UInt8)}
    (hx : x.Appends ⟨Parcel.ofBytes [], true, 0, 0⟩ lines () ⟨Parcel.ofBytes [], true, 0, 0⟩)
    (printBuf : List UInt8) :
    LogProg.Fits printbufSize (logSteps (startResponse.bind fun _ => x.bind fun _ =>
        removeLastChar.bind fun _ => closeResponse) printBuf) ↔
      printBuf.length + lines.flatten.length + 3 ≤ printbufSize := by
  have hbrackets : (printed [.text " \x7b"]).length = 2 ∧ (printed [.text "\x7d"]).length = 1 := by
    decide
  obtain ⟨hopen, hclose⟩ := hbrackets
  let text := printBuf ++ printed [.text " \x7b"] ++ lines.flatten
  have hlength : text.length = printBuf.length + 2 + lines.flatten.length := by
    rw [List.length_append, List.length_append, hopen]
  have hne : text ≠ [] := by
    intro h
    rw [h, List.length_nil] at hlength
    omega
  have hlast : (text.dropLast ++ printed [.text "\x7d"]).length = text.length := by
    rw [List.length_append, List.length_dropLast, hclose]
    omega
  have hsteps : logSteps (startResponse.bind fun _ => x.bind fun _ => removeLastChar.bind fun _ =>
      closeResponse) printBuf = LogStep.wrote (printBuf ++ printed [.text " \x7b"]) ::
        (LogProg.growing (printBuf ++ printed [.text " \x7b"]) lines ++
          [.removed text, .wrote (text.dropLast ++ printed [.text "\x7d"])]) := by
    show LogStep.wrote _ :: ((x.bind _).exec _ _).steps = _
    rw [LogProg.exec_bind, hx]
    rfl
  rw [hsteps]
  unfold LogProg.Fits
  rw [LogProg.textsFit_cons, LogProg.textsFit_append, LogProg.textsFit_cons, LogProg.textsFit_cons]
  constructor
  · rintro ⟨⟨-, -, -, hfits, -⟩, -⟩
    have hfits : (text.dropLast ++ printed [.text "\x7d"]).length + 1 ≤ printbufSize := hfits
    omega
  · intro h
    refine ⟨⟨?_, LogProg.fits_growing ?_, hne, ?_, LogProg.textsFit_nil⟩, ?_⟩
    · show (printBuf ++ printed [.text " \x7b"]).length + 1 ≤ printbufSize
      rw [List.length_append, hopen]
      omega
    · show text.length + 1 ≤ printbufSize
      omega
    · show (text.dropLast ++ printed [.text "\x7d"]).length + 1 ≤ printbufSize
      omega
    · intro hneeded
      rcases List.mem_cons.mp hneeded with h | hneeded
      · exact LogStep.noConfusion h
      rcases List.mem_append.mp hneeded with h | hneeded
      · exact LogProg.needed_not_mem_growing _ _ h
      · simp at hneeded

/-! ### A whole completion -/

/-- The name of the request is printed over the text, and a cancelled one is not answered. -/
def completionLog (r : RequestInfo) (e : Int) (response : Option ResponseMemory)
    (responselen : ℕ) : LogProg Unit := do
  setPrintBuf [.text "[", .dec0 4 r.token, .text "]< ", .text (requestToString r.pCI.number)]
  if r.cancelled then return ()
  if shouldCallResponseFunction r response then
    responseLog env r.pCI.responseFunction response responselen
  if e ≠ rilESuccess then
    appendPrintBuf [.text " fails by ", .text (failCauseToString e)]

/-- The name of an unsolicited message is printed over the text, and the radio state behind it.  What
`processRadioState` sends in between are messages of their own, which print over it as well. -/
def unsolicitedLog (code : ℕ) (f : ResponseFunction) (radioState : RadioState)
    (data : Option ResponseMemory) (datalen : ℕ) : LogProg Unit := do
  setPrintBuf [.text "[UNSL]< ", .text (requestToString code)]
  responseLog env f data datalen
  if code = rilUnsolResponseRadioStateChanged then
    appendPrintBuf [.text " \x7b", .text (radioStateToString radioState), .text "\x7d"]

variable (P : Platform) (version : Int)

/-- What `RIL_onRequestComplete` does to `printBuf`, whatever text is there before; a request of
libril's own is not printed. -/
def completionSteps (s : RilState) (t : ℕ) (e : Int) (response : Option ResponseMemory)
    (responselen : ℕ) : List LogStep :=
  match checkAndDequeueRequestInfo s.pending t with
  | none => []
  | some (r, _) =>
      if r.isLocal then []
      else logSteps (completionLog (s.encodeEnv P version) r e response responselen) []

/-- `RIL_onRequestComplete` with what it prints; `none` also when a text overruns `printBuf`. -/
def rilOnRequestCompleteLogged (s : RilState) (t : ℕ) (e : Int)
    (response : Option ResponseMemory) (responselen : ℕ) (faults : WriteFaults) :
    Option RilState :=
  if LogProg.Fits printbufSize (completionSteps P version s t e response responselen) then
    rilOnRequestComplete P version s t e response responselen faults
  else none

/-! ### One frame for each completion -/

/-- The request has left the list, and one frame with its token has reached the connection. -/
def Answered (s s' : RilState) (r : RequestInfo) : Prop :=
  (∀ q ∈ s'.pending.nodes, q.addr ≠ r.addr) ∧
    ∃ data, messagePrefix r.token <+: data ∧ s'.channel = s.channel ++ frame s.fdCommand data

/-- **Every completion whose texts fit removes its request, and answers it with one frame whenever
the message fits.**  A message above `MAX_COMMAND_BYTES` is dropped by the size guard of
`sendResponseRaw`, and nothing reaches the connection. -/
theorem rilOnRequestComplete_answers (s : RilState) {r : RequestInfo}
    (hr : r ∈ s.pending.nodes) (hlocal : r.isLocal = false) (hcancelled : r.cancelled = false)
    (hfd : 0 ≤ s.fdCommand) (e : Int) (response : Option ResponseMemory) (responselen : ℕ)
    (hfits : LogProg.Fits printbufSize
      (completionSteps P version s r.addr e response responselen)) :
    ∃ p x s', encodeCompletion (s.encodeEnv P version) r e response responselen = some (p, x) ∧
      rilOnRequestCompleteLogged P version s r.addr e response responselen noFaults = some s' ∧
      (∀ q ∈ s'.pending.nodes, q.addr ≠ r.addr) ∧
      (p.data.length ≤ maxCommandBytes → Answered s s' r) ∧
      (maxCommandBytes < p.data.length → s'.channel = s.channel) := by
  obtain ⟨p, x, s', hpx, hs', hgone, hpre, hch⟩ :=
    rilOnRequestComplete_spec P version s hr hlocal hcancelled e response responselen noFaults
  refine ⟨p, x, s', hpx, (if_pos hfits).trans hs', hgone, ?_, ?_⟩
  · intro hlen
    rw [sendResponseRaw_frame hfd hlen] at hch
    exact ⟨hgone, p.data, hpre, hch⟩
  · intro hlen
    rw [sendResponseRaw_large hlen, List.append_nil] at hch
    exact hch

theorem oneRequest_answers :
    ∃ p x s', encodeCompletion (oneRequest.encodeEnv x86 6) oneRequestInfo 0 none 0 = some (p, x) ∧
      rilOnRequestCompleteLogged x86 6 oneRequest oneRequestInfo.addr 0 none 0 noFaults = some s' ∧
      (∀ q ∈ s'.pending.nodes, q.addr ≠ oneRequestInfo.addr) ∧
      (p.data.length ≤ maxCommandBytes → Answered oneRequest s' oneRequestInfo) ∧
      (maxCommandBytes < p.data.length → s'.channel = oneRequest.channel) :=
  rilOnRequestComplete_answers x86 6 oneRequest (List.mem_cons_self ..) rfl rfl (by decide) 0 none 0
    (by decide +kernel)

/-- A raw response of `8192` bytes, of which nothing is printed, makes a message of `8208`, and the
client, whose request is pending on an open connection without write errors, receives nothing. -/
theorem large_completion_unanswered :
    oneRequestInfo ∈ oneRequest.pending.nodes ∧ oneRequestInfo.isLocal = false ∧
      oneRequestInfo.cancelled = false ∧ 0 ≤ oneRequest.fdCommand ∧
      LogProg.Fits printbufSize
        (completionSteps x86 6 oneRequest oneRequestInfo.addr 0 (some default) 8192) ∧
      ¬ ∃ s', rilOnRequestCompleteLogged x86 6 oneRequest oneRequestInfo.addr 0 (some default) 8192
        noFaults = some s' ∧ Answered oneRequest s' oneRequestInfo := by
  have hfits : LogProg.Fits printbufSize
      (completionSteps x86 6 oneRequest oneRequestInfo.addr 0 (some default) 8192) := by
    decide +kernel
  refine ⟨List.mem_cons_self .., rfl, rfl, by decide, hfits, ?_⟩
  rintro ⟨s', hlogged, -, data, -, hch⟩
  have hs' : rilOnRequestComplete x86 6 oneRequest oneRequestInfo.addr 0 (some default) 8192
      noFaults = some s' := (if_pos hfits).symm.trans hlogged
  obtain ⟨p, x, t, hpx, ht, -, -, hcht⟩ := rilOnRequestComplete_spec x86 6 oneRequest
    (r := oneRequestInfo) (List.mem_cons_self ..) rfl rfl 0 (some default) 8192 noFaults
  have hx : x.writes = .int32 8192 :: writeBuffer (default : ResponseMemory).bytes 8192 := by
    have hcall : shouldCallResponseFunction oneRequestInfo (some default) = true := rfl
    have hraw : oneRequestInfo.pCI.responseFunction = .responseRaw := rfl
    simp only [encodeCompletion, hcall, if_true, hraw] at hpx
    obtain ⟨y, hy, hpy⟩ := Option.map_eq_some_iff.mp hpx
    obtain ⟨-, rfl⟩ := Prod.mk.inj hpy
    obtain rfl := Option.some.inj hy
    rfl
  have hlen : maxCommandBytes < p.data.length := by
    rw [encodeCompletion_length hpx, hx]
    simp [writeBuffer, maxCommandBytes, Parcel.int32Max, Parcel.Write.encoding, Parcel.padSize]
  rw [sendResponseRaw_large hlen, List.append_nil] at hcht
  obtain rfl : s' = t := Option.some.inj (hs'.symm.trans ht)
  rw [hch] at hcht
  exact absurd hcht (by simp [frame])

end CtpCommon.Ril
