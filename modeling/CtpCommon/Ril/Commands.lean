import CtpCommon.Ril.Types

/-!
# The command tables

`s_commands` and `s_unsolResponses`, with the dispatch and response functions as enumerations:
a table entry names its functions, and `Ril.Response` and `Ril.Dispatch` say what each name
computes.

* `sCommands` — 130 entries, the first of them empty; `requestNumber` is the index;
* `sUnsolResponses` — 42 entries, the index counted from `RIL_UNSOL_RESPONSE_BASE`;
* `RequestCode` — an accepted request code; `RequestCode.sCommands_get` — **PROVED**: its entry
  has both functions.
-/

namespace CtpCommon.Ril

inductive DispatchFunction where
  | dispatchVoid | dispatchString | dispatchStrings | dispatchInts | dispatchDial
  | dispatchSimIo | dispatchSimApdu | dispatchCallForward | dispatchRaw | dispatchSmsWrite
  | dispatchDataCall | dispatchVoiceRadioTech | dispatchSetInitialAttachApn
  | dispatchCdmaSubscriptionSource | dispatchCdmaSms | dispatchImsSms | dispatchCdmaSmsAck
  | dispatchGsmBrSmsCnf | dispatchCdmaBrSmsCnf | dispatchRilCdmaSmsWriteArgs
  | dispatchNVReadItem | dispatchNVWriteItem | dispatchUiccSubscripton
  | dispatchSimAuthentication | dispatchDataProfile | dispatchRadioPower
  deriving DecidableEq, Repr

inductive ResponseFunction where
  | responseInts | responseFailCause | responseStrings | responseString | responseVoid
  | responseEnterSimPin | responseRadioPower | responseCallList | responseSMS
  | responseDataCallList | responseSetupDataCall | responseRaw | responseSimIo
  | responseCallForwards | responseSsn | responseCellList | responseCdmaInformationRecords
  | responseRilSignalStrength | responseCallRing | responseCdmaSignalInfoRecord
  | responseCdmaCallWaiting | responseSimRefresh | responseCellInfoList
  | responseHardwareConfig | responseSSData | responseSimStatus | responseGsmBrSmsCnf
  | responseCdmaBrSmsCnf | responseCdmaSms | responseDcRtInfo
  deriving DecidableEq, Repr

inductive WakeType where
  | dontWake | wakePartial
  deriving DecidableEq, Repr

structure CommandInfo where
  requestNumber : ℕ
  dispatchFunction : Option DispatchFunction
  responseFunction : Option ResponseFunction
  deriving DecidableEq, Repr

structure UnsolResponseInfo where
  requestNumber : ℕ
  responseFunction : ResponseFunction
  wakeType : WakeType
  deriving DecidableEq, Repr

/-! ### `ril_commands.h` -/

/-- The functions of the entries `1, 2, …` of `s_commands`; a comment numbers every tenth. -/
def commandFunctions : List (DispatchFunction × ResponseFunction) := [
  -- 1
  (.dispatchVoid, .responseSimStatus), (.dispatchStrings, .responseEnterSimPin),
  (.dispatchStrings, .responseInts), (.dispatchStrings, .responseInts),
  (.dispatchStrings, .responseInts), (.dispatchStrings, .responseInts),
  (.dispatchStrings, .responseInts), (.dispatchStrings, .responseInts),
  (.dispatchVoid, .responseCallList), (.dispatchDial, .responseVoid),
  -- 11
  (.dispatchStrings, .responseString), (.dispatchInts, .responseVoid),
  (.dispatchVoid, .responseVoid), (.dispatchVoid, .responseVoid), (.dispatchVoid, .responseVoid),
  (.dispatchVoid, .responseVoid), (.dispatchVoid, .responseVoid),
  (.dispatchVoid, .responseFailCause), (.dispatchVoid, .responseRilSignalStrength),
  (.dispatchVoid, .responseStrings),
  -- 21
  (.dispatchVoid, .responseStrings), (.dispatchVoid, .responseStrings),
  (.dispatchRadioPower, .responseRadioPower), (.dispatchString, .responseVoid),
  (.dispatchStrings, .responseSMS), (.dispatchStrings, .responseSMS),
  (.dispatchDataCall, .responseSetupDataCall), (.dispatchSimIo, .responseSimIo),
  (.dispatchString, .responseVoid), (.dispatchVoid, .responseVoid),
  -- 31
  (.dispatchVoid, .responseInts), (.dispatchInts, .responseVoid),
  (.dispatchCallForward, .responseCallForwards), (.dispatchCallForward, .responseVoid),
  (.dispatchInts, .responseInts), (.dispatchInts, .responseVoid), (.dispatchInts, .responseVoid),
  (.dispatchVoid, .responseString), (.dispatchVoid, .responseString),
  (.dispatchVoid, .responseVoid),
  -- 41
  (.dispatchStrings, .responseVoid), (.dispatchStrings, .responseInts),
  (.dispatchStrings, .responseInts), (.dispatchStrings, .responseVoid),
  (.dispatchVoid, .responseInts), (.dispatchVoid, .responseVoid),
  (.dispatchString, .responseVoid), (.dispatchVoid, .responseStrings),
  (.dispatchString, .responseVoid), (.dispatchVoid, .responseVoid),
  -- 51
  (.dispatchVoid, .responseString), (.dispatchInts, .responseVoid),
  (.dispatchInts, .responseVoid), (.dispatchVoid, .responseInts), (.dispatchVoid, .responseInts),
  (.dispatchVoid, .responseInts), (.dispatchVoid, .responseDataCallList),
  (.dispatchVoid, .responseVoid), (.dispatchRaw, .responseRaw),
  (.dispatchStrings, .responseStrings),
  -- 61
  (.dispatchInts, .responseVoid), (.dispatchInts, .responseVoid),
  (.dispatchSmsWrite, .responseInts), (.dispatchInts, .responseVoid),
  (.dispatchInts, .responseVoid), (.dispatchVoid, .responseInts),
  (.dispatchVoid, .responseString), (.dispatchString, .responseVoid),
  (.dispatchString, .responseString), (.dispatchString, .responseVoid),
  -- 71
  (.dispatchInts, .responseVoid), (.dispatchVoid, .responseVoid), (.dispatchInts, .responseVoid),
  (.dispatchVoid, .responseInts), (.dispatchVoid, .responseCellList),
  (.dispatchInts, .responseVoid), (.dispatchInts, .responseVoid), (.dispatchInts, .responseVoid),
  (.dispatchVoid, .responseInts), (.dispatchInts, .responseVoid),
  -- 81
  (.dispatchVoid, .responseInts), (.dispatchInts, .responseVoid), (.dispatchVoid, .responseInts),
  (.dispatchString, .responseVoid), (.dispatchStrings, .responseVoid),
  (.dispatchString, .responseVoid), (.dispatchCdmaSms, .responseSMS),
  (.dispatchCdmaSmsAck, .responseVoid), (.dispatchVoid, .responseGsmBrSmsCnf),
  (.dispatchGsmBrSmsCnf, .responseVoid),
  -- 91
  (.dispatchInts, .responseVoid), (.dispatchVoid, .responseCdmaBrSmsCnf),
  (.dispatchCdmaBrSmsCnf, .responseVoid), (.dispatchInts, .responseVoid),
  (.dispatchVoid, .responseStrings), (.dispatchRilCdmaSmsWriteArgs, .responseInts),
  (.dispatchInts, .responseVoid), (.dispatchVoid, .responseStrings),
  (.dispatchVoid, .responseVoid), (.dispatchVoid, .responseString),
  -- 101
  (.dispatchString, .responseVoid), (.dispatchInts, .responseVoid),
  (.dispatchVoid, .responseVoid), (.dispatchCdmaSubscriptionSource, .responseInts),
  (.dispatchString, .responseString), (.dispatchStrings, .responseVoid),
  (.dispatchString, .responseSimIo), (.dispatchVoiceRadioTech, .responseInts),
  (.dispatchVoid, .responseCellInfoList), (.dispatchInts, .responseVoid),
  -- 111
  (.dispatchSetInitialAttachApn, .responseVoid), (.dispatchVoid, .responseInts),
  (.dispatchImsSms, .responseSMS), (.dispatchSimApdu, .responseSimIo),
  (.dispatchString, .responseInts), (.dispatchInts, .responseVoid),
  (.dispatchSimApdu, .responseSimIo), (.dispatchNVReadItem, .responseString),
  (.dispatchNVWriteItem, .responseVoid), (.dispatchRaw, .responseVoid),
  -- 121
  (.dispatchInts, .responseVoid), (.dispatchUiccSubscripton, .responseVoid),
  (.dispatchInts, .responseVoid), (.dispatchVoid, .responseHardwareConfig),
  (.dispatchSimAuthentication, .responseSimIo), (.dispatchVoid, .responseDcRtInfo),
  (.dispatchInts, .responseVoid), (.dispatchDataProfile, .responseVoid),
  (.dispatchVoid, .responseVoid)]

/-- `static CommandInfo s_commands[]`. -/
def sCommands : List CommandInfo :=
  ⟨0, none, none⟩ :: commandFunctions.zipIdx.map fun x => ⟨x.2 + 1, some x.1.1, some x.1.2⟩

/-- Requests the code names. -/
def rilRequestRadioPower : ℕ := 23
def rilRequestSetNetworkSelectionAutomatic : ℕ := 46

/-! ### `ril_unsol_commands.h` -/

def rilUnsolResponseBase : ℕ := 1000

/-- The functions and wake types of `s_unsolResponses`. -/
def unsolFunctions : List (ResponseFunction × WakeType) := [
  -- 1000
  (.responseVoid, .wakePartial), (.responseVoid, .wakePartial), (.responseVoid, .wakePartial),
  (.responseString, .wakePartial), (.responseString, .wakePartial), (.responseInts, .wakePartial),
  (.responseStrings, .wakePartial), (.responseVoid, .dontWake), (.responseString, .wakePartial),
  (.responseRilSignalStrength, .dontWake),
  -- 1010
  (.responseDataCallList, .wakePartial), (.responseSsn, .wakePartial),
  (.responseVoid, .wakePartial), (.responseString, .wakePartial), (.responseString, .wakePartial),
  (.responseInts, .wakePartial), (.responseVoid, .wakePartial),
  (.responseSimRefresh, .wakePartial), (.responseCallRing, .wakePartial),
  (.responseVoid, .wakePartial),
  -- 1020
  (.responseCdmaSms, .wakePartial), (.responseRaw, .wakePartial), (.responseVoid, .wakePartial),
  (.responseInts, .wakePartial), (.responseVoid, .wakePartial),
  (.responseCdmaCallWaiting, .wakePartial), (.responseInts, .wakePartial),
  (.responseCdmaInformationRecords, .wakePartial), (.responseRaw, .wakePartial),
  (.responseInts, .wakePartial),
  -- 1030
  (.responseVoid, .wakePartial), (.responseInts, .wakePartial), (.responseInts, .wakePartial),
  (.responseVoid, .wakePartial), (.responseInts, .wakePartial), (.responseInts, .wakePartial),
  (.responseCellInfoList, .wakePartial), (.responseVoid, .wakePartial),
  (.responseInts, .wakePartial), (.responseInts, .wakePartial),
  -- 1040
  (.responseHardwareConfig, .wakePartial), (.responseDcRtInfo, .wakePartial)]

/-- `static UnsolResponseInfo s_unsolResponses[]`. -/
def sUnsolResponses : List UnsolResponseInfo :=
  unsolFunctions.zipIdx.map fun x => ⟨rilUnsolResponseBase + x.2, x.1.1, x.1.2⟩

/-- Unsolicited messages the code names. -/
def rilUnsolResponseRadioStateChanged : ℕ := 1000
def rilUnsolNitzTimeReceived : ℕ := 1008
def rilUnsolResponseSimStatusChanged : ℕ := 1019
def rilUnsolCdmaSubscriptionSourceChanged : ℕ := 1031
def rilUnsolRilConnected : ℕ := 1034
def rilUnsolVoiceRadioTechChanged : ℕ := 1035

/-! ### What the tables promise -/

theorem length_commandFunctions : commandFunctions.length = 129 := by
  simp only [commandFunctions, List.length_cons, List.length_nil]

theorem length_sUnsolResponses : sUnsolResponses.length = 42 := by
  simp [sUnsolResponses, unsolFunctions]

/-- The request codes `processCommandBuffer` accepts: the entries of `s_commands` that have a
dispatch and a response function. -/
structure RequestCode where
  number : ℕ
  pos : 1 ≤ number
  lt : number < 130
  deriving DecidableEq, Repr

namespace RequestCode

theorem index_lt (c : RequestCode) : c.number - 1 < commandFunctions.length := by
  rw [length_commandFunctions]
  have := c.lt
  omega

def dispatchFunction (c : RequestCode) : DispatchFunction :=
  (commandFunctions.get ⟨c.number - 1, c.index_lt⟩).1

def responseFunction (c : RequestCode) : ResponseFunction :=
  (commandFunctions.get ⟨c.number - 1, c.index_lt⟩).2

/-- **`&(s_commands[request])`**: the entry of an accepted code has these two functions. -/
theorem sCommands_get (c : RequestCode) :
    sCommands[c.number]? = some ⟨c.number, some c.dispatchFunction, some c.responseFunction⟩ := by
  obtain ⟨n, hpos, hlt⟩ := c
  obtain ⟨j, rfl⟩ : ∃ j, n = j + 1 := ⟨n - 1, by omega⟩
  have hlen : j < commandFunctions.length := by
    rw [length_commandFunctions]
    omega
  simp [sCommands, dispatchFunction, responseFunction, List.getElem?_zipIdx,
    List.getElem?_eq_getElem hlen]

end RequestCode

end CtpCommon.Ril
