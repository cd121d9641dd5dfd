import CtpCommon.Ril.Dispatch
import CtpCommon.Ril.ResponseLog

/-!
# What the dispatch functions print

A dispatch function prints what it reads into `printBuf`, without a bound, before it calls the
vendor's `onRequest`.  Some print before they test the status of their last read, and some put an
array on the stack whose length is a count of the record.

* `startRequest`, `closeRequest`, `clearPrintBuf` — the macros; `stackArray` — `alloca`, or an
  array of variable length;
* `logVoid`, … — the dispatch functions with what they print and need;
* `dispatchLog`, `recordLog` — what a dispatch function, and what a whole record does to
  `printBuf`;
* `dispatch_vendorCall` — **PROVED**: the functions of `Ril.Dispatch` call the vendor as these do;
* `processCommandBufferLogged` — a record that prints: nothing is said of it once a text has
  overrun the array, or the code has stopped.
-/

namespace CtpCommon.Ril

open LogProg (LogStep)
open ReadProg (readInt32 readFresh readByte readString16Inplace readInplace readMany checkStatus
  require)

/-! ### The macros -/

def startRequest : LogProg Unit := setPrintBuf [.text "("]

def closeRequest : LogProg Unit := appendPrintBuf [.text ")"]

/-- `printBuf[0] = 0`. -/
def clearPrintBuf : LogProg Unit := setPrintBuf []

variable (env : DispatchEnv)

/-- An array of so many bytes on the stack; a negative number is a huge `size_t`. -/
def stackArray (bytes : Int) : LogProg Unit :=
  .need (env.platform.stackHolds (sizeT bytes)) (.done ())

/-! ### Strings, integers and raw bytes -/

def logVoid : LogProg Payload := do
  clearPrintBuf
  return (.null, 0)

def logString : LogProg Payload := do
  let string8 ← strdupReadString env
  startRequest
  appendPrintBuf [.str string8]
  closeRequest
  return (.string string8, wordSize)

/-- The strings behind a count, each with a comma.  Zero of them are still some pointer. -/
def logStringArray (countStrings : Int) : LogProg (Option (List (Option CString))) :=
  if countStrings = 0 then do
    stackArray env wordSize
    return some []
  else if countStrings = -1 then return none
  else do
    stackArray env (wordSize * countStrings)
    let pStrings ← LogProg.loop 0 countStrings.toNat fun _ => do
      let s ← strdupReadString env
      appendPrintBuf [.str s, .text ","]
      return s
    return some pStrings

def logStrings : LogProg Payload := do
  let countStrings ← readFresh
  checkStatus
  startRequest
  let pStrings ← logStringArray env countStrings
  removeLastChar
  closeRequest
  return match pStrings with
    | none => (.null, 0)
    | some ss => (.strings ss, sizeT (wordSize * countStrings))

def logInts : LogProg Payload := do
  let count ← readFresh
  checkStatus
  require (count ≠ 0)
  stackArray env (wordSize * count)
  startRequest
  let pInts ← LogProg.loop 0 count.toNat fun _ => do
    let t ← readFresh
    appendPrintBuf [.dec t, .text ","]
    checkStatus
    return t
  removeLastChar
  closeRequest
  return (.ints pInts, sizeT (wordSize * count))

def logRaw : LogProg Payload := do
  let len ← readFresh
  checkStatus
  let len := if len = -1 then 0 else len
  let data ← readInplace len
  startRequest
  appendPrintBuf [.text "raw_size=", .dec len]
  closeRequest
  return (.raw data, sizeT len)

/-! ### Structures -/

def logSmsWrite : LogProg Payload := do
  let status ← readInt32
  let pdu ← strdupReadString env
  checkStatus
  require pdu.isSome
  let smsc ← strdupReadString env
  startRequest
  appendPrintBuf [.dec status, .text ",", .str pdu, .text ",smsc=", .str smsc]
  closeRequest
  return (.smsWrite ⟨status, pdu, smsc⟩, env.platform.sizeOf .smsWriteArgs)

/-- The end of `dispatchDial`. -/
def logDialed (dial : Dial) (sizeOfDial : ℕ) : LogProg Payload := do
  startRequest
  appendPrintBuf [.text "num=", .str dial.address, .text ",clir=", .dec dial.clir]
  match dial.uusInfo with
  | none => pure ()
  | some uus =>
      appendPrintBuf [.text ",uusType=", .dec uus.uusType, .text ",uusDcs=", .dec uus.uusDcs,
        .text ",uusLen=", .dec uus.uusLength]
  closeRequest
  return (.dial dial, sizeOfDial)

def logDial : LogProg Payload := do
  let address ← strdupReadString env
  let clir ← readInt32
  checkStatus
  require address.isSome
  if env.version < 3 then logDialed ⟨address, clir, none⟩ (env.platform.sizeOf .dial - wordSize)
  else
    let uusPresent ← readFresh
    checkStatus
    if uusPresent = 0 then logDialed ⟨address, clir, none⟩ (env.platform.sizeOf .dial)
    else
      let uusType ← readInt32
      let uusDcs ← readInt32
      let len ← readFresh
      checkStatus
      if len = -1 then
        logDialed ⟨address, clir, some ⟨uusType, uusDcs, 0, none⟩⟩ (env.platform.sizeOf .dial)
      else
        let uusData ← readInplace len
        logDialed ⟨address, clir, some ⟨uusType, uusDcs, len, uusData⟩⟩
          (env.platform.sizeOf .dial)

/-- The status is tested behind the text. -/
def logSimIo : LogProg Payload := do
  let command ← readInt32
  let fileid ← readInt32
  let path ← strdupReadString env
  let p1 ← readInt32
  let p2 ← readInt32
  let p3 ← readInt32
  let data ← strdupReadString env
  let pin2 ← strdupReadString env
  let aidPtr ← strdupReadString env
  startRequest
  appendPrintBuf [.text "cmd=0x", .hex command, .text ",efid=0x", .hex fileid, .text ",path=",
    .str path, .text ",", .dec p1, .text ",", .dec p2, .text ",", .dec p3, .text ",", .str data,
    .text ",pin2=", .str pin2, .text ",aid=", .str aidPtr]
  closeRequest
  checkStatus
  return (.simIo ⟨command, fileid, path, p1, p2, p3, data, pin2, aidPtr⟩,
    if env.version < 6 then env.platform.sizeOf .simIoV5 else env.platform.sizeOf .simIoV6)

def logSimApdu : LogProg Payload := do
  let sessionid ← readInt32
  let cla ← readInt32
  let instruction ← readInt32
  let p1 ← readInt32
  let p2 ← readInt32
  let p3 ← readInt32
  let data ← strdupReadString env
  startRequest
  appendPrintBuf [.text "sessionid=", .dec sessionid, .text ",cla=", .dec cla, .text ",ins=",
    .dec instruction, .text ",p1=", .dec p1, .text ",p2=", .dec p2, .text ",p3=", .dec p3,
    .text ",data=", .str data]
  closeRequest
  checkStatus
  return (.simApdu ⟨sessionid, cla, instruction, p1, p2, p3, data⟩,
    env.platform.sizeOf .simApdu)

def logCallForward : LogProg Payload := do
  let status ← readInt32
  let reason ← readInt32
  let serviceClass ← readInt32
  let toa ← readInt32
  let number ← strdupReadString env
  let timeSeconds ← readInt32
  checkStatus
  let number := if number = some [] then none else number
  startRequest
  appendPrintBuf [.text "stat=", .dec status, .text ",reason=", .dec reason, .text ",serv=",
    .dec serviceClass, .text ",toa=", .dec toa, .text ",", .str number, .text ",tout=",
    .dec timeSeconds]
  closeRequest
  return (.callForward ⟨status, reason, serviceClass, toa, number, timeSeconds⟩,
    env.platform.sizeOf .callForwardInfo)

def logSetInitialAttachApn : LogProg Payload := do
  let apn ← strdupReadString env
  let protocol ← strdupReadString env
  let authtype ← readInt32
  let username ← strdupReadString env
  let password ← strdupReadString env
  startRequest
  appendPrintBuf [.text "apn=", .str apn, .text ", protocol=", .str protocol, .text ", authtype=",
    .dec authtype, .text ", username=", .str username, .text ", password=", .str password]
  closeRequest
  checkStatus
  return (.initialAttachApn ⟨apn, protocol, authtype, username, password⟩,
    env.platform.sizeOf .initialAttachApn)

def logNVReadItem : LogProg Payload := do
  let itemID ← readInt32
  checkStatus
  startRequest
  appendPrintBuf [.text "nvri.itemID=", .dec itemID, .text ", "]
  closeRequest
  return (.nvReadItem itemID, env.platform.sizeOf .nvReadItem)

def logNVWriteItem : LogProg Payload := do
  let itemID ← readInt32
  let value ← strdupReadString env
  checkStatus
  require value.isSome
  startRequest
  appendPrintBuf [.text "nvwi.itemID=", .dec itemID, .text ", value=", .str value, .text ", "]
  closeRequest
  return (.nvWriteItem ⟨itemID, value⟩, env.platform.sizeOf .nvWriteItem)

/-- The text is printed over the bracket. -/
def logUiccSubscripton : LogProg Payload := do
  let slot ← readInt32
  checkStatus
  let appIndex ← readInt32
  checkStatus
  let subType ← readInt32
  checkStatus
  let actStatus ← readInt32
  checkStatus
  startRequest
  setPrintBuf [.text "slot=", .dec slot, .text ", app_index=", .dec appIndex,
    .text ", act_status = ", .dec actStatus]
  closeRequest
  return (.uiccSub ⟨slot, appIndex, subType, actStatus⟩, env.platform.sizeOf .selectUiccSub)

/-- `%s` is given the integer `authContext`, and prints what is found at that address; this too is
printed over the bracket. -/
def logSimAuthentication : LogProg Payload := do
  let authContext ← readInt32
  let authData ← strdupReadString env
  let aid ← strdupReadString env
  startRequest
  LogProg.need (env.platform.stringAt authContext).isSome (.done ())
  setPrintBuf [.text "authContext=", .str (env.platform.stringAt authContext).join,
    .text ", authData=", .str authData, .text ", aid=", .str aid]
  closeRequest
  checkStatus
  return (.simAuthentication ⟨authContext, authData, aid⟩,
    env.platform.sizeOf .simAuthentication)

/-- The reads of one profile; their statuses are not tested. -/
def readDataProfile : ReadProg DataProfileInfo := do
  let profileId ← readInt32
  let apn ← strdupReadString env
  let protocol ← strdupReadString env
  let authType ← readInt32
  let user ← strdupReadString env
  let password ← strdupReadString env
  let type ← readInt32
  let maxConnsTime ← readInt32
  let maxConns ← readInt32
  let waitTime ← readInt32
  let enabled ← readInt32
  return ⟨profileId, apn, protocol, authType, user, password, type, maxConnsTime, maxConns,
    waitTime, enabled⟩

/-- The line of a profile.  The format is continued over three lines of the source, with the
blanks the second and the third begin with. -/
def profileLine (i : ℕ) (d : DataProfileInfo) : List Conv :=
  [.text " [", .dec i, .text ": profileId=", .dec d.profileId, .text ", apn =", .str d.apn,
    .text ", protocol =", .str d.protocol, .text ", authType =", .dec d.authType,
    .text ",                   user =", .str d.user, .text ", password =", .str d.password,
    .text ", type =", .dec d.type, .text ", maxConnsTime =", .dec d.maxConnsTime,
    .text ", maxConns =", .dec d.maxConns, .text ",                   waitTime =", .dec d.waitTime,
    .text ", enabled =", .dec d.enabled, .text "]"]

/-- The structures and the pointers to them. -/
def logDataProfile : LogProg Payload := do
  let num ← readFresh
  checkStatus
  stackArray env (num * (env.platform.sizeOf .dataProfileInfo + wordSize))
  startRequest
  let dataProfiles ← LogProg.loop 0 num.toNat fun i => do
    let dataProfile ← readDataProfile env
    appendPrintBuf (profileLine i dataProfile)
    return dataProfile
  closeRequest
  checkStatus
  return (.dataProfile dataProfiles, sizeT (num * wordSize))

/-! ### SMS over CDMA, and over IMS -/

def logConstructCdmaSms : LogProg CdmaSmsMessage := do
  let rcsm ← constructCdmaSms env
  startRequest
  appendPrintBuf [.text "uTeleserviceID=", .dec rcsm.uTeleserviceID, .text ", bIsServicePresent=",
    .dec rcsm.bIsServicePresent.toNat, .text ", uServicecategory=", .dec rcsm.uServicecategory,
    .text ",             sAddress.digit_mode=", .dec rcsm.sAddress.digitMode,
    .text ", sAddress.Number_mode=", .dec rcsm.sAddress.numberMode,
    .text ", sAddress.number_type=", .dec rcsm.sAddress.numberType, .text ", "]
  closeRequest
  return rcsm

def logCdmaSms : LogProg Payload := do
  let rcsm ← logConstructCdmaSms env
  return (.cdmaSms rcsm, env.platform.sizeOf .cdmaSmsMessage)

def logImsCdmaSms (retry : UInt8) (messageRef : Int) : LogProg Payload := do
  let rcsm ← logConstructCdmaSms env
  return (.imsSms ⟨radioTech3gpp2, retry, messageRef, .cdma rcsm⟩,
    imsHeaderSize env + env.platform.sizeOf .cdmaSmsMessage)

def logImsGsmSms (retry : UInt8) (messageRef : Int) : LogProg Payload := do
  let countStrings ← readFresh
  checkStatus
  startRequest
  appendPrintBuf [.text "tech=", .dec radioTech3gpp, .text ", retry=", .dec retry.toNat,
    .text ", messageRef=", .dec messageRef, .text ", "]
  let pStrings ← logStringArray env countStrings
  removeLastChar
  closeRequest
  return (.imsSms ⟨radioTech3gpp, retry, messageRef, .gsm pStrings⟩,
    if countStrings = 0 ∨ countStrings = -1 then imsHeaderSize env
    else sizeT (imsHeaderSize env + wordSize * countStrings))

def logImsSms : LogProg Payload := do
  let format ← readInt32
  checkStatus
  let retry ← readByte
  checkStatus
  let messageRef ← readFresh
  checkStatus
  if format = radioTech3gpp then logImsGsmSms env retry messageRef
  else if format = radioTech3gpp2 then logImsCdmaSms env retry messageRef
  else .read .fail .done

def logCdmaSmsAck : LogProg Payload := do
  let uErrorClass ← readInt32
  let uSMSCauseCode ← readInt32
  checkStatus
  startRequest
  appendPrintBuf [.text "uErrorClass=", .dec uErrorClass, .text ", uTLStatus=", .dec uSMSCauseCode,
    .text ", "]
  closeRequest
  return (.cdmaSmsAck ⟨uErrorClass, uSMSCauseCode⟩, env.platform.sizeOf .cdmaSmsAck)

def readGsmBrSmsConfigInfo : ReadProg GsmBroadcastSmsConfigInfo := do
  let fromServiceId ← readInt32
  let toServiceId ← readInt32
  let fromCodeScheme ← readInt32
  let toCodeScheme ← readInt32
  let selected ← readInt32
  return ⟨fromServiceId, toServiceId, fromCodeScheme, toCodeScheme, uint8Of selected⟩

def logGsmBrSmsCnf : LogProg Payload := do
  let num ← readFresh
  checkStatus
  stackArray env (num * (env.platform.sizeOf .gsmBroadcastSmsConfigInfo + wordSize))
  startRequest
  let gsmBci ← LogProg.loop 0 num.toNat fun i => do
    let c ← readGsmBrSmsConfigInfo
    appendPrintBuf [.text " [", .dec i, .text ": fromServiceId=", .dec c.fromServiceId,
      .text ", toServiceId =", .dec c.toServiceId, .text ",                   fromCodeScheme=",
      .dec c.fromCodeScheme, .text ", toCodeScheme=", .dec c.toCodeScheme, .text ", selected =",
      .dec c.selected.toNat, .text "]"]
    return c
  closeRequest
  checkStatus
  return (.gsmBrSmsCnf gsmBci, sizeT (num * wordSize))

def readCdmaBrSmsConfigInfo : ReadProg CdmaBroadcastSmsConfigInfo := do
  let serviceCategory ← readInt32
  let language ← readInt32
  let selected ← readInt32
  return ⟨serviceCategory, language, uint8Of selected⟩

def logCdmaBrSmsCnf : LogProg Payload := do
  let num ← readFresh
  checkStatus
  stackArray env (num * (env.platform.sizeOf .cdmaBroadcastSmsConfigInfo + wordSize))
  startRequest
  let cdmaBci ← LogProg.loop 0 num.toNat fun i => do
    let c ← readCdmaBrSmsConfigInfo
    appendPrintBuf [.text " [", .dec i, .text ": service_category=", .dec c.serviceCategory,
      .text ", language =", .dec c.language, .text ",                   entries.bSelected =",
      .dec c.selected.toNat, .text "]"]
    return c
  closeRequest
  checkStatus
  return (.cdmaBrSmsCnf cdmaBci, sizeT (num * wordSize))

def logRilCdmaSmsWriteArgs : LogProg Payload := do
  let status ← readInt32
  let uTeleserviceID ← readInt32
  let bIsServicePresent ← readByte
  let uServicecategory ← readInt32
  let digitMode ← readInt32
  let numberMode ← readInt32
  let numberType ← readInt32
  let numberPlan ← readInt32
  let numberOfDigits ← readByte
  let digits ← readMany env.platform.cdmaSmsAddressMax readByte
  let subaddressType ← readInt32
  let odd ← readByte
  let subNumberOfDigits ← readByte
  let subDigits ← readMany env.platform.cdmaSmsSubaddressMax readByte
  let uBearerDataLen ← readInt32
  let aBearerData ← readMany env.platform.cdmaSmsBearerDataMax readByte
  checkStatus
  startRequest
  appendPrintBuf [.text "status=", .dec status, .text ", message.uTeleserviceID=",
    .dec uTeleserviceID, .text ", message.bIsServicePresent=", .dec bIsServicePresent.toNat,
    .text ",             message.uServicecategory=", .dec uServicecategory,
    .text ", message.sAddress.digit_mode=", .dec digitMode,
    .text ",             message.sAddress.number_mode=", .dec numberMode,
    .text ",             message.sAddress.number_type=", .dec numberType, .text ", "]
  closeRequest
  return (.cdmaSmsWriteArgs ⟨status, ⟨uTeleserviceID, bIsServicePresent, uServicecategory,
    ⟨digitMode, numberMode, numberType, numberPlan, numberOfDigits, digits⟩,
    ⟨subaddressType, odd, subNumberOfDigits, subDigits⟩, uBearerDataLen, aBearerData⟩⟩,
    env.platform.sizeOf .cdmaSmsWriteArgs)

/-! ### Without what is printed -/

theorem erase_logVoid : logVoid.erase = dispatchVoid := rfl

theorem erase_logString : (logString env).erase = dispatchString env := rfl

theorem erase_logRaw : logRaw.erase = dispatchRaw := rfl

theorem erase_logSmsWrite : (logSmsWrite env).erase = dispatchSmsWrite env := rfl

theorem erase_logSimIo : (logSimIo env).erase = dispatchSimIo env := rfl

theorem erase_logSimApdu : (logSimApdu env).erase = dispatchSimApdu env := rfl

theorem erase_logCallForward : (logCallForward env).erase = dispatchCallForward env := rfl

theorem erase_logSetInitialAttachApn :
    (logSetInitialAttachApn env).erase = dispatchSetInitialAttachApn env := rfl

theorem erase_logNVReadItem : (logNVReadItem env).erase = dispatchNVReadItem env := rfl

theorem erase_logNVWriteItem : (logNVWriteItem env).erase = dispatchNVWriteItem env := rfl

theorem erase_logUiccSubscripton :
    (logUiccSubscripton env).erase = dispatchUiccSubscripton env := rfl

theorem erase_logSimAuthentication :
    (logSimAuthentication env).erase = dispatchSimAuthentication env := rfl

theorem erase_logCdmaSmsAck : (logCdmaSmsAck env).erase = dispatchCdmaSmsAck env := rfl

theorem erase_logRilCdmaSmsWriteArgs :
    (logRilCdmaSmsWriteArgs env).erase = dispatchRilCdmaSmsWriteArgs env := rfl

/-- The strings, without their texts. -/
theorem erase_logStringArray (countStrings : Int) :
    (logStringArray env countStrings).erase =
      if countStrings = 0 then .done (some [])
      else if countStrings = -1 then .done none
      else (readMany countStrings.toNat (strdupReadString env)).bind fun ss => .done (some ss) := by
  unfold logStringArray
  split
  · rfl
  split
  · rfl
  · show (LogProg.bind (LogProg.loop 0 countStrings.toNat _) _).erase = _
    rw [LogProg.erase_bind, LogProg.erase_loop (x := strdupReadString env) (fun i => rfl)]
    rfl

theorem erase_logStrings : (logStrings env).erase = dispatchStrings env := by
  refine congrArg ReadProg.fresh (funext fun count => congrArg ReadProg.check ?_)
  show ((logStringArray env count).bind _).erase = _
  rw [LogProg.erase_bind, erase_logStringArray]
  by_cases hzero : count = 0
  · subst hzero
    rfl
  by_cases hnull : count = -1
  · subst hnull
    rfl
  · rw [if_neg hzero, if_neg hnull]
    refine (ReadProg.bind_assoc ..).trans ?_
    show _ = (ite _ _ _ : ReadProg Payload)
    rw [if_neg hzero, if_neg hnull]
    rfl

theorem erase_logInts : (logInts env).erase = dispatchInts := by
  refine congrArg ReadProg.fresh (funext fun count => congrArg ReadProg.check ?_)
  refine congrArg (ReadProg.bind (require (count ≠ 0))) (funext fun _ => ?_)
  show (LogProg.bind (LogProg.loop 0 count.toNat _) _).erase = _
  rw [LogProg.erase_bind, LogProg.erase_loop (fun i => rfl)]
  rfl

theorem erase_logDialed (dial : Dial) (sizeOfDial : ℕ) :
    (logDialed dial sizeOfDial).erase = .done (.dial dial, sizeOfDial) := by
  unfold logDialed
  cases dial.uusInfo <;> rfl

theorem erase_logDial : (logDial env).erase = dispatchDial env := by
  refine congrArg ReadProg.string (funext fun address => congrArg ReadProg.int
    (funext fun clir => congrArg ReadProg.check ?_))
  refine congrArg (ReadProg.bind (require _)) (funext fun _ => ?_)
  show LogProg.erase (ite _ _ _) = ite _ _ _
  split
  · exact erase_logDialed ..
  refine congrArg ReadProg.fresh (funext fun uusPresent => congrArg ReadProg.check ?_)
  show LogProg.erase (ite _ _ _) = ite _ _ _
  split
  · exact erase_logDialed ..
  refine congrArg ReadProg.int (funext fun uusType => congrArg ReadProg.int (funext fun uusDcs =>
    congrArg ReadProg.fresh (funext fun len => congrArg ReadProg.check ?_)))
  show LogProg.erase (ite _ _ _) = ite _ _ _
  split
  · exact erase_logDialed ..
  · exact congrArg (ReadProg.inplace len) (funext fun uusData => erase_logDialed
      ⟨address.map env.platform.strndup16to8, clir, some ⟨uusType, uusDcs, len, uusData⟩⟩ _)

theorem erase_logDataProfile : (logDataProfile env).erase = dispatchDataProfile env := by
  refine congrArg ReadProg.fresh (funext fun num => congrArg ReadProg.check ?_)
  show (LogProg.bind (LogProg.loop 0 num.toNat _) _).erase = _
  rw [LogProg.erase_bind, LogProg.erase_loop (x := readDataProfile env) (fun i => rfl)]
  rfl

theorem erase_logCdmaSms : (logCdmaSms env).erase = dispatchCdmaSms env := rfl

theorem erase_logImsCdmaSms (retry : UInt8) (messageRef : Int) :
    (logImsCdmaSms env retry messageRef).erase = dispatchImsCdmaSms env retry messageRef := rfl

theorem erase_logImsGsmSms (retry : UInt8) (messageRef : Int) :
    (logImsGsmSms env retry messageRef).erase = dispatchImsGsmSms env retry messageRef := by
  refine congrArg ReadProg.fresh (funext fun count => congrArg ReadProg.check ?_)
  show ((logStringArray env count).bind _).erase = _
  rw [LogProg.erase_bind, erase_logStringArray]
  by_cases hzero : count = 0
  · subst hzero
    rfl
  by_cases hnull : count = -1
  · subst hnull
    rfl
  · rw [if_neg hzero, if_neg hnull]
    refine (ReadProg.bind_assoc ..).trans ?_
    show (readMany _ _).bind (fun ss => .done (_, ite _ _ _)) = (ite _ _ _ : ReadProg Payload)
    rw [if_neg hzero, if_neg hnull, if_neg (by simp [hzero, hnull])]
    rfl

theorem erase_logImsSms : (logImsSms env).erase = dispatchImsSms env := by
  refine congrArg ReadProg.int (funext fun format => congrArg ReadProg.check
    (congrArg ReadProg.byte (funext fun retry => congrArg ReadProg.check
      (congrArg ReadProg.fresh (funext fun messageRef => congrArg ReadProg.check ?_)))))
  show LogProg.erase (ite _ _ _) = ite _ _ _
  split
  · exact erase_logImsGsmSms ..
  show LogProg.erase (ite _ _ _) = ite _ _ _
  split
  · exact erase_logImsCdmaSms ..
  · rfl

theorem erase_logGsmBrSmsCnf : (logGsmBrSmsCnf env).erase = dispatchGsmBrSmsCnf := by
  refine congrArg ReadProg.fresh (funext fun num => congrArg ReadProg.check ?_)
  show (LogProg.bind (LogProg.loop 0 num.toNat _) _).erase = _
  rw [LogProg.erase_bind, LogProg.erase_loop (x := readGsmBrSmsConfigInfo) (fun i => rfl)]
  rfl

theorem erase_logCdmaBrSmsCnf : (logCdmaBrSmsCnf env).erase = dispatchCdmaBrSmsCnf := by
  refine congrArg ReadProg.fresh (funext fun num => congrArg ReadProg.check ?_)
  show (LogProg.bind (LogProg.loop 0 num.toNat _) _).erase = _
  rw [LogProg.erase_bind, LogProg.erase_loop (x := readCdmaBrSmsConfigInfo) (fun i => rfl)]
  rfl

/-! ### What is done to the array -/

/-- The texts of a program that reads a payload, printed from `printBuf` on. -/
def callLog (x : LogProg Payload) (p : Parcel) (printBuf : List UInt8) : List LogStep :=
  (x.exec ⟨p, true, env.t, env.ut⟩ printBuf).steps

/-- The vendor's `onRequest` called with what the program ends with. -/
def vendorCall (x : LogProg Payload) (p : Parcel) (printBuf : List UInt8) :
    List DispatchEffect :=
  match (x.exec ⟨p, true, env.t, env.ut⟩ printBuf).result with
  | some ((data, datalen), _, _) => [.onRequest data datalen]
  | none => []

/-- The call does not depend on the texts, unless the program stops. -/
theorem callOnRequest_erase {x : LogProg Payload} {p : Parcel} {printBuf : List UInt8}
    (h : .needed false ∉ callLog env x p printBuf) :
    callOnRequest env x.erase p = vendorCall env x p printBuf := by
  have hrun := LogProg.exec_erase x ⟨p, true, env.t, env.ut⟩ printBuf h
  unfold callOnRequest ReadProg.run vendorCall
  rw [← hrun]
  rcases (x.exec ⟨p, true, env.t, env.ut⟩ printBuf).result with _ | ⟨⟨data, datalen⟩, s, text⟩ <;>
    rfl

/-- The parcel `dispatchDataCall` hands on. -/
def dataCallParcel (p : Parcel) : Parcel :=
  let pos := p.dataPosition
  let numParams := p.readInt32.1.getD 0
  if env.version < 4 ∧ numParams > numParamsRilV3 then
    let p2 : Parcel := ⟨p.data.take pos, pos⟩
    let p2 := p2.writeInt32 numParamsRilV3
    (copyParams numParamsRilV3 p.readInt32.2 p2).setDataPosition pos
  else p.readInt32.2.setDataPosition pos

theorem dispatchDataCall_eq (p : Parcel) :
    dispatchDataCall env p = callOnRequest env (dispatchStrings env) (dataCallParcel env p) :=
  (apply_ite (callOnRequest env (dispatchStrings env)) ..).symm

/-- The parcel `dispatchRadioPower` hands on, unless it takes one of its exits. -/
def radioPowerParcel (p : Parcel) : Option Parcel :=
  match p.readInt32 with
  | (none, _) => none
  | (some count, q) =>
      if count = 0 then none
      else
        match q.readInt32 with
        | (none, _) => none
        | (some _, r) => some (r.setDataPosition p.dataPosition)

/-- The program of a dispatch function, or of the one it hands on to. -/
def logProgram : DispatchFunction → LogProg Payload
  | .dispatchVoid | .dispatchVoiceRadioTech | .dispatchCdmaSubscriptionSource => logVoid
  | .dispatchString => logString env
  | .dispatchStrings | .dispatchDataCall => logStrings env
  | .dispatchInts | .dispatchRadioPower => logInts env
  | .dispatchDial => logDial env
  | .dispatchSimIo => logSimIo env
  | .dispatchSimApdu => logSimApdu env
  | .dispatchCallForward => logCallForward env
  | .dispatchRaw => logRaw
  | .dispatchSmsWrite => logSmsWrite env
  | .dispatchSetInitialAttachApn => logSetInitialAttachApn env
  | .dispatchCdmaSms => logCdmaSms env
  | .dispatchImsSms => logImsSms env
  | .dispatchCdmaSmsAck => logCdmaSmsAck env
  | .dispatchGsmBrSmsCnf => logGsmBrSmsCnf env
  | .dispatchCdmaBrSmsCnf => logCdmaBrSmsCnf env
  | .dispatchRilCdmaSmsWriteArgs => logRilCdmaSmsWriteArgs env
  | .dispatchNVReadItem => logNVReadItem env
  | .dispatchNVWriteItem => logNVWriteItem env
  | .dispatchUiccSubscripton => logUiccSubscripton env
  | .dispatchSimAuthentication => logSimAuthentication env
  | .dispatchDataProfile => logDataProfile env

/-- What it is given to read, if it is reached: a query answered from the radio state goes no further
unless the radio is on. -/
def logParcel (p : Parcel) : DispatchFunction → Option Parcel
  | .dispatchDataCall => some (dataCallParcel env p)
  | .dispatchRadioPower => radioPowerParcel p
  | .dispatchVoiceRadioTech | .dispatchCdmaSubscriptionSource =>
      if env.radioState = .on then some p else none
  | _ => some p

/-- What a dispatch function does to `printBuf` itself. -/
def dispatchLog (f : DispatchFunction) (p : Parcel) (printBuf : List UInt8) : List LogStep :=
  match logParcel env p f with
  | none => []
  | some q => callLog env (logProgram env f) q printBuf

/-- The calls of the vendor's `onRequest`. -/
def onRequests (fx : List DispatchEffect) : List DispatchEffect :=
  fx.filter fun x => match x with
    | .onRequest _ _ => true
    | _ => false

/-- A function that only reads and calls, and its program. -/
theorem onRequests_of_erase {x : LogProg Payload} {y : ReadProg Payload} (h : x.erase = y)
    (p : Parcel) : onRequests (callOnRequest env y p) = callOnRequest env x.erase p := by
  rw [h]
  unfold callOnRequest
  rcases y.run p env.t env.ut with _ | ⟨data, datalen⟩ <;> rfl

/-- A query reaches the vendor only while the radio is on. -/
theorem onRequests_fromRadioState (decode : RadioState → Int) (store : Int → DispatchEffect)
    (hstore : ∀ v fx, onRequests (store v :: fx) = onRequests fx) (p : Parcel) :
    onRequests (dispatchFromRadioState env decode store p) =
      if env.radioState = .on then callOnRequest env dispatchVoid p else [] := by
  unfold dispatchFromRadioState
  by_cases hon : env.radioState = .on
  · rw [if_pos hon, if_pos hon, if_neg (by rw [hon]; decide)]
    exact onRequests_of_erase env erase_logVoid p
  · rw [if_neg hon, if_neg hon]
    split
    · show onRequests (store _ :: _) = []
      rw [hstore]
      split <;> rfl
    · show onRequests (store _ :: _) = []
      rw [hstore]
      split <;> rfl

theorem onRequests_radioPower (p : Parcel) :
    onRequests (dispatchRadioPower env p) =
      match radioPowerParcel p with
      | none => []
      | some q => callOnRequest env (logInts env).erase q := by
  unfold dispatchRadioPower radioPowerParcel
  rcases p.readInt32 with ⟨_ | count, q⟩
  · rfl
  by_cases hcount : count = 0
  · simp only [hcount, if_true]
    rfl
  · simp only [hcount, if_false]
    rcases q.readInt32 with ⟨_ | isOn, r⟩
    · rfl
    · exact onRequests_of_erase env (erase_logInts env) _

/-- Without its texts the program is the dispatch function. -/
theorem onRequests_dispatch (f : DispatchFunction) (p : Parcel) :
    onRequests (dispatch env f p) =
      match logParcel env p f with
      | none => []
      | some q => callOnRequest env (logProgram env f).erase q := by
  have hquery : ∀ (decode : RadioState → Int) (store : Int → DispatchEffect),
      (∀ v fx, onRequests (store v :: fx) = onRequests fx) →
        onRequests (dispatchFromRadioState env decode store p) =
          match if env.radioState = .on then some p else none with
          | none => []
          | some q => callOnRequest env logVoid.erase q := by
    intro decode store hstore
    rw [onRequests_fromRadioState env decode store hstore]
    split <;> rfl
  cases f with
  | dispatchVoid => exact onRequests_of_erase env erase_logVoid p
  | dispatchRaw => exact onRequests_of_erase env erase_logRaw p
  | dispatchString => exact onRequests_of_erase env (erase_logString env) p
  | dispatchDial => exact onRequests_of_erase env (erase_logDial env) p
  | dispatchSimIo => exact onRequests_of_erase env (erase_logSimIo env) p
  | dispatchSimApdu => exact onRequests_of_erase env (erase_logSimApdu env) p
  | dispatchCallForward => exact onRequests_of_erase env (erase_logCallForward env) p
  | dispatchSmsWrite => exact onRequests_of_erase env (erase_logSmsWrite env) p
  | dispatchSetInitialAttachApn => exact onRequests_of_erase env (erase_logSetInitialAttachApn env) p
  | dispatchCdmaSms => exact onRequests_of_erase env (erase_logCdmaSms env) p
  | dispatchImsSms => exact onRequests_of_erase env (erase_logImsSms env) p
  | dispatchCdmaSmsAck => exact onRequests_of_erase env (erase_logCdmaSmsAck env) p
  | dispatchGsmBrSmsCnf => exact onRequests_of_erase env (erase_logGsmBrSmsCnf env) p
  | dispatchCdmaBrSmsCnf => exact onRequests_of_erase env (erase_logCdmaBrSmsCnf env) p
  | dispatchRilCdmaSmsWriteArgs => exact onRequests_of_erase env (erase_logRilCdmaSmsWriteArgs env) p
  | dispatchNVReadItem => exact onRequests_of_erase env (erase_logNVReadItem env) p
  | dispatchNVWriteItem => exact onRequests_of_erase env (erase_logNVWriteItem env) p
  | dispatchUiccSubscripton => exact onRequests_of_erase env (erase_logUiccSubscripton env) p
  | dispatchSimAuthentication => exact onRequests_of_erase env (erase_logSimAuthentication env) p
  | dispatchDataProfile => exact onRequests_of_erase env (erase_logDataProfile env) p
  | dispatchStrings => exact onRequests_of_erase env (erase_logStrings env) p
  | dispatchInts => exact onRequests_of_erase env (erase_logInts env) p
  | dispatchDataCall =>
    show onRequests (dispatchDataCall env p) = _
    rw [dispatchDataCall_eq]
    exact onRequests_of_erase env (erase_logStrings env) _
  | dispatchVoiceRadioTech => exact hquery _ .setVoiceRadioTech fun _ _ => rfl
  | dispatchCdmaSubscriptionSource => exact hquery _ .setCdmaSubscriptionSource fun _ _ => rfl
  | dispatchRadioPower => exact onRequests_radioPower env p

/-- **The dispatch function calls the vendor as its program does**, unless the program stops. -/
theorem dispatch_vendorCall (f : DispatchFunction) (p : Parcel) (printBuf : List UInt8)
    (h : .needed false ∉ dispatchLog env f p printBuf) :
    onRequests (dispatch env f p) =
      match logParcel env p f with
      | none => []
      | some q => vendorCall env (logProgram env f) q printBuf := by
  rw [onRequests_dispatch]
  unfold dispatchLog at h
  rcases hq : logParcel env p f with _ | q
  · rfl
  · rw [hq] at h
    exact callOnRequest_erase env h

/-! ### A whole record -/

/-- What the effects of a dispatch function do to `printBuf`. -/
def effectsLog (faults : WriteFaults) (r : RequestInfo) :
    RilState → List DispatchEffect → List LogStep
  | _, [] => []
  | s, x :: fx =>
      (match x with
        | .onRequestComplete e response =>
            completionSteps env.platform env.version s r.addr e (response.map intMemory)
              (if response.isSome then wordSize else 0)
        | _ => []) ++
      match perform env faults r s x with
      | none => []
      | some s' => effectsLog faults r s' fx

/-- What `processCommandBuffer` does to `printBuf`. -/
def recordLog (faults : WriteFaults) (s : RilState) (printBuf buffer : List UInt8) :
    List LogStep :=
  match readRecord buffer with
  | .accepted token request p =>
      let r := s.pending.node token request false
      dispatchLog env request.dispatchFunction p printBuf ++
        effectsLog env faults r { s with pending := s.pending.push token request false }
          (dispatch env request.dispatchFunction p)
  | _ => []

/-- `processCommandBuffer` with what it prints; `none` also when a text overruns `printBuf`, or the
code stops. -/
def processCommandBufferLogged (faults : WriteFaults) (s : RilState)
    (printBuf buffer : List UInt8) : Option RilState :=
  if LogProg.Fits printbufSize (recordLog env faults s printBuf buffer) then
    processCommandBuffer env faults s buffer
  else none

end CtpCommon.Ril
