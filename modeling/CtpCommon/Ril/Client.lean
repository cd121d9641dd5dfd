import CtpCommon.Ril.ErrorAtomicity
import CtpCommon.Ril.Framing
import CtpCommon.Ril.Payloads
import CtpCommon.Ril.ResponseLog
import CtpCommon.Ril.Unsolicited

/-!
# What the client reads

The vendor completes requests and sends messages that nobody has asked for, on any of its threads,
and all of it is written to one socket.  The client splits the stream, and reads each message by
what it knows: which request it has sent with a token, and the table of the unsolicited codes.

* `ClientMessage`, `clientRead` — the client;
* `CompletedAnswer`, `SentUnsolicited` — a completion and an unsolicited message, with the bytes
  they make; `meant` is what the vendor has meant by them;
* `clientRead_answer`, `clientRead_unsolicited` — **PROVED**: one message is read as it was meant;
* `onUnsolicited_read` — **PROVED**: so is what a call of `RIL_onUnsolicitedResponse` sends;
* `messages_delivered` — **PROVED** of every run of the threads that write: the client reads the
  messages as they were meant, in the order in which the mutex was taken, and nothing else.
-/

namespace CtpCommon.Ril

open ReadProg
open Parcel (Write IsInt32)

/-! ### The client -/

/-- An answer has a payload or has none; two unsolicited messages have a number after theirs. -/
inductive ClientMessage where
  | answer (token error : Int) (contents : Option PayloadContents)
  | unsolicited (code : Int) (contents : PayloadContents) (more : Option Int)
  deriving DecidableEq

/-- The kind of a message, and the token or the code. -/
def readHead : ReadProg (Int × Int) := do
  let kind ← readInt32
  let word ← readInt32
  return (kind, word)

/-- The radio state, or the time at which the time of the network was received. -/
def readMore (code : Int) : ReadProg (Option Int) :=
  if code = rilUnsolResponseRadioStateChanged then readInt32.bind fun v => .done (some v)
  else if code = rilUnsolNitzTimeReceived then readUint64.bind fun v => .done (some v)
  else .done none

/-- An answer; `asked` is the request that was sent with a token. -/
def readAnswer (asked : Int → Option RequestCode) (token : Int) (p : Parcel) :
    Option ClientMessage := do
  let (error, p) ← present readInt32 p
  if p.pos = p.data.length then return .answer token error none
  else
    let request ← asked token
    let l ← layoutOf request.responseFunction
    let (contents, q) ← present l.reader p
    if q.pos = q.data.length then return .answer token error (some contents) else none

def readUnsolicited (code : Int) (p : Parcel) : Option ClientMessage := do
  let info ← unsolResponseInfo code
  let l ← layoutOf info.responseFunction
  let (contents, q) ← present l.reader p
  let (more, q) ← present (readMore code) q
  if q.pos = q.data.length then return .unsolicited code contents more else none

def clientRead (asked : Int → Option RequestCode) (data : List UInt8) : Option ClientMessage := do
  let ((kind, word), p) ← present readHead (Parcel.ofBytes data)
  if kind = responseSolicited then readAnswer asked word p
  else if kind = responseUnsolicited then readUnsolicited word p
  else none

/-! ### The answers -/

/-- A completion of a pending request whose response function has a layout, with the message.  What
is printed of it does not overrun `printBuf`. -/
structure CompletedAnswer where
  env : EncodeEnv
  request : RequestInfo
  layout : PayloadLayout
  error : Int
  response : Option ResponseMemory
  len : ℕ
  message : Parcel
  encoded : Encoded
  version : 5 ≤ env.version
  layout_eq : layoutOf request.pCI.responseFunction = some layout
  token_fits : IsInt32 request.token
  error_fits : IsInt32 error
  len_lt : len < 4294967296
  fits : response.isSome = true → layout.Fits env response len
  verbatim : layout.Verbatim env response
  prints : LogProg.Fits printbufSize (logSteps (completionLog env request error response len) [])
  encodes : encodeCompletion env request error response len = some (message, encoded)

/-- The vendor's error, and the payload of its response, if it has one; the error of a response that
is refused replaces both. -/
def CompletedAnswer.meant (c : CompletedAnswer) : ClientMessage :=
  if c.response.isNone = true ∨ c.layout = .void then .answer c.request.token c.error none
  else if c.encoded.ret = 0 then
    .answer c.request.token c.error (some (c.layout.payload c.env c.response c.len))
  else .answer c.request.token rilErrnoInvalidResponse none

/-- A void function writes nothing, and does not fail. -/
theorem void_encoded {env : EncodeEnv} {f : ResponseFunction} {r : Option ResponseMemory} {len : ℕ}
    {x : Encoded} (hlayout : layoutOf f = some .void) (h : encode env f r len = some x) :
    x.writes = [] ∧ x.ret = 0 := by
  cases f with
  | responseVoid | responseRadioPower =>
    obtain rfl := Option.some.inj h
    exact ⟨rfl, rfl⟩
  | _ => exact absurd hlayout (by decide)

namespace CompletedAnswer

/-- The response function is called for a response; the request that has it called without one has a
void function. -/
theorem shouldCall (c : CompletedAnswer) (hvoid : c.layout ≠ .void) :
    shouldCallResponseFunction c.request c.response = c.response.isSome := by
  unfold shouldCallResponseFunction
  refine if_neg fun hnumber => hvoid ?_
  have hpower : c.request.pCI.responseFunction = .responseRadioPower := by
    simp [RequestCode.responseFunction, hnumber, rilRequestRadioPower, commandFunctions]
  have hlayout := c.layout_eq
  rw [hpower] at hlayout
  exact (Option.some.inj hlayout).symm

/-- The encoding of a message with a response is that of its function. -/
theorem encode_eq (c : CompletedAnswer)
    (hcall : shouldCallResponseFunction c.request c.response = true) :
    encode c.env c.request.pCI.responseFunction c.response c.len = some c.encoded := by
  have hencodes := c.encodes
  simp only [encodeCompletion] at hencodes
  rw [if_pos hcall] at hencodes
  obtain ⟨x, hx, hpair⟩ := Option.map_eq_some_iff.mp hencodes
  obtain ⟨-, rfl⟩ := Prod.mk.inj hpair
  exact hx

/-- The bytes, when the response function is called. -/
theorem called_data (c : CompletedAnswer)
    (hcall : shouldCallResponseFunction c.request c.response = true) :
    c.message.data =
      if c.encoded.ret = 0 then
        words [responseSolicited, c.request.token, c.error] ++
          c.encoded.writes.flatMap Write.encoding
      else words [responseSolicited, c.request.token, rilErrnoInvalidResponse] := by
  have hatomic := encodeCompletion_atomic c.env c.version c.encodes
  unfold AtomicMessage at hatomic
  rw [if_pos hcall] at hatomic
  obtain ⟨x, hx, hdata⟩ := hatomic
  obtain rfl : c.encoded = x := Option.some.inj ((c.encode_eq hcall).symm.trans hx)
  rcases hdata with ⟨hret, hdata⟩ | ⟨hret, hdata⟩
  · rw [hdata, if_pos hret]
  · rw [hdata, if_neg hret]

/-- Three words, without a response or with a void one. -/
theorem short_data (c : CompletedAnswer) (h : c.response.isNone = true ∨ c.layout = .void) :
    c.message.data = words [responseSolicited, c.request.token, c.error] := by
  by_cases hcall : shouldCallResponseFunction c.request c.response = true
  · have hvoid : c.layout = .void := by
      by_contra hvoid
      rw [c.shouldCall hvoid] at hcall
      rcases h with hnone | h
      · simp [Option.isNone_iff_eq_none.mp hnone] at hcall
      · exact hvoid h
    obtain ⟨hwrites, hret⟩ := void_encoded (hvoid ▸ c.layout_eq) (c.encode_eq hcall)
    rw [c.called_data hcall, if_pos hret, hwrites]
    exact List.append_nil _
  · have hatomic := encodeCompletion_atomic c.env c.version c.encodes
    unfold AtomicMessage at hatomic
    rw [if_neg hcall] at hatomic
    exact hatomic

end CompletedAnswer

/-! ### One answer -/

/-- The two words in front of anything. -/
theorem present_readHead (kind : Int) (hkind : IsInt32 kind) {word : Int} (hword : IsInt32 word)
    (rest : List UInt8) : present readHead (Parcel.ofBytes (words [kind, word] ++ rest))
      = some ((kind, word), ⟨words [kind, word] ++ rest, 8⟩) := by
  have hhead : Reads readHead [.int32 kind, .int32 word] (kind, word) :=
    .int hkind (.int hword (.done _))
  exact hhead [] rest

variable {asked : Int → Option RequestCode}

/-- The error is the third word. -/
theorem present_error (token : Int) {error : Int} (herror : IsInt32 error) (rest : List UInt8) :
    present readInt32 ⟨words [responseSolicited, token, error] ++ rest, 8⟩
      = some (error, ⟨words [responseSolicited, token, error] ++ rest, 12⟩) := by
  have hone : Reads readInt32 [.int32 error] error := .int herror (.done _)
  have hread := hone (words [responseSolicited, token]) rest
  rw [← List.append_assoc] at hread
  exact hread

/-- A client that reads the token of an answer goes on with the error. -/
theorem clientRead_solicited (asked : Int → Option RequestCode) {token : Int}
    (htoken : IsInt32 token) (error : Int) (rest : List UInt8) :
    clientRead asked (words [responseSolicited, token, error] ++ rest)
      = readAnswer asked token ⟨words [responseSolicited, token, error] ++ rest, 8⟩ := by
  have hhead := present_readHead responseSolicited (by decide) htoken
    (words [error] ++ rest)
  rw [← List.append_assoc, ← words_append] at hhead
  have happend : [responseSolicited, token] ++ [error] = [responseSolicited, token, error] := rfl
  rw [happend] at hhead
  unfold clientRead
  rw [hhead, Option.bind_eq_bind, Option.bind_some]
  exact if_pos rfl

/-- A message of three words. -/
theorem clientRead_short {token error : Int} (htoken : IsInt32 token) (herror : IsInt32 error) :
    clientRead asked (words [responseSolicited, token, error])
      = some (.answer token error none) := by
  have hsolicited := clientRead_solicited asked htoken error []
  have herr := present_error token herror []
  rw [List.append_nil] at hsolicited herr
  have hend : 12 = (words [responseSolicited, token, error]).length := by
    rw [length_words]
    rfl
  rw [hsolicited]
  unfold readAnswer
  rw [herr, Option.bind_eq_bind, Option.bind_some]
  exact if_pos hend

/-- A message with a payload. -/
theorem clientRead_payload {token error : Int} (htoken : IsInt32 token) (herror : IsInt32 error)
    {request : RequestCode} {l : PayloadLayout} (hasked : asked token = some request)
    (hlayout : layoutOf request.responseFunction = some l) {ws : List Write}
    {contents : PayloadContents} (hreads : Reads l.reader ws contents)
    (hpos : 0 < (ws.flatMap Write.encoding).length) :
    clientRead asked (words [responseSolicited, token, error] ++ ws.flatMap Write.encoding)
      = some (.answer token error (some contents)) := by
  have hthree : (words [responseSolicited, token, error]).length = 12 := length_words _
  have hrest := hreads (words [responseSolicited, token, error]) []
  rw [List.append_nil, hthree] at hrest
  have hlength : (words [responseSolicited, token, error] ++ ws.flatMap Write.encoding).length
      = 12 + (ws.flatMap Write.encoding).length := by
    rw [List.length_append, hthree]
  have hmore : ¬ 12 = 12 + (ws.flatMap Write.encoding).length := by omega
  rw [clientRead_solicited asked htoken]
  unfold readAnswer
  rw [present_error token herror]
  simp only [Option.bind_eq_bind, Option.bind_some, hlength, if_neg hmore, hasked, hlayout, hrest,
    if_true]
  rfl

/-- **An answer is read as it was meant.** -/
theorem clientRead_answer (c : CompletedAnswer)
    (hasked : asked c.request.token = some c.request.pCI) :
    clientRead asked c.message.data = some c.meant := by
  unfold CompletedAnswer.meant
  by_cases hshort : c.response.isNone = true ∨ c.layout = .void
  · rw [if_pos hshort, c.short_data hshort]
    exact clientRead_short c.token_fits c.error_fits
  rw [if_neg hshort]
  obtain ⟨hnone, hvoid⟩ := not_or.mp hshort
  have hsome : c.response.isSome = true := by
    rw [Option.isSome_iff_ne_none]
    exact fun h => hnone (Option.isNone_iff_eq_none.mpr h)
  have hcall := (c.shouldCall hvoid).trans hsome
  have hencode := c.encode_eq hcall
  rw [c.called_data hcall]
  by_cases hret : c.encoded.ret = 0
  · rw [if_pos hret, if_pos hret]
    have hfits := c.fits hsome
    have hreads := PayloadLayout.reads c.layout_eq c.verbatim c.len_lt hfits hencode hret
    have hpos := PayloadLayout.encoding_pos hvoid c.layout_eq c.verbatim c.len_lt hfits hencode
      hret
    exact clientRead_payload c.token_fits c.error_fits hasked c.layout_eq hreads hpos
  · rw [if_neg hret, if_neg hret]
    exact clientRead_short c.token_fits (by decide)

/-! ### The unsolicited messages -/

/-- The message that `RIL_onUnsolicitedResponse` makes. -/
def unsolicitedMessage (code : Int) (payload : List Write) : Parcel :=
  (((Parcel.ofBytes []).writeInt32 responseUnsolicited).writeInt32 code).writeAll payload

/-- It is what is handed to `sendResponse`. -/
theorem finishUnsolicited_channel (E : UnsolEnv) (input : UnsolInput) (code : Int) (wake : Bool)
    (payload : List Write) (s : UnsolState) :
    (finishUnsolicited E input code wake payload s).ril.channel = s.ril.channel ++
      (sendResponseRaw s.ril.fdCommand (unsolicitedMessage code payload).data input.faults).2 := by
  have hschedule : ∀ t : UnsolState, (scheduleWakeTimeout E t).ril = t.ril := by
    intro t
    unfold scheduleWakeTimeout internalRequestTimedCallback cancelTimer
    cases t.lastWakeTimeoutInfo <;> rfl
  unfold finishUnsolicited
  extract_lets p q sent ril ril' s₁ s₂
  have hril : s₂.ril = ril' := by
    simp only [s₂]
    split <;> rfl
  cases wake with
  | true => exact congrArg RilState.channel ((hschedule s₂).trans hril)
  | false => exact congrArg RilState.channel hril

theorem unsolicitedMessage_data (code : Int) (payload : List Write) :
    (unsolicitedMessage code payload).data
      = words [responseUnsolicited, code] ++ payload.flatMap Write.encoding := by
  have hend : (Parcel.ofBytes []).AtEnd := rfl
  obtain ⟨hone, hend⟩ := Parcel.writeInt32_atEnd hend responseUnsolicited
  obtain ⟨htwo, hend⟩ := Parcel.writeInt32_atEnd hend code
  unfold unsolicitedMessage
  rw [(Parcel.writeAll_data payload hend).1, htwo, hone]
  rfl

/-- The state that is reported: `RADIO_STATE_ON` in place of those of an old vendor. -/
def reportedState (state : RadioState) : RadioState :=
  if state ≠ .off ∧ state ≠ .unavailable ∧ state ≠ .on then .on else state

/-- The number after the payload. -/
def moreOf (input : UnsolInput) (code : Int) : Option Int :=
  if code = rilUnsolResponseRadioStateChanged then some (reportedState input.radioState).toInt
  else if code = rilUnsolNitzTimeReceived then some input.timeReceived
  else none

theorem processRadioState_state {E : UnsolEnv} {input : UnsolInput} {s : UnsolState}
    {t : UnsolState × RadioState} (h : processRadioState E input s = some t) :
    t.2 = reportedState input.radioState := by
  simp only [processRadioState] at h
  unfold reportedState
  split at h
  · rename_i hold
    simp only [Option.bind_eq_bind, Option.bind_eq_some_iff] at h
    obtain ⟨s₁, -, s₂, -, s₃, -, h⟩ := h
    rw [if_pos hold]
    exact (congrArg Prod.snd (Option.some.inj h)).symm
  · rename_i hold
    rw [if_neg hold]
    exact (congrArg Prod.snd (Option.some.inj h)).symm

/-- The number is read back. -/
theorem readMore_reads {E : UnsolEnv} {input : UnsolInput} {code : Int} {s t : UnsolState}
    {more : List Write}
    (htime : 0 ≤ input.timeReceived ∧ input.timeReceived < 18446744073709551616)
    (h : morePayload E input code s = some (t, more)) :
    Reads (readMore code) more (moreOf input code) := by
  unfold morePayload at h
  unfold readMore moreOf
  split at h
  · rename_i hradio
    obtain ⟨u, hu, hpair⟩ := Option.map_eq_some_iff.mp h
    obtain ⟨-, rfl⟩ := Prod.mk.inj hpair
    rw [if_pos hradio, if_pos hradio, processRadioState_state hu]
    have hfits : ∀ state : RadioState, IsInt32 state.toInt := by
      intro state
      cases state <;> decide
    exact Reads.int (hfits _) (.done _)
  · rename_i hradio
    rw [if_neg hradio, if_neg hradio]
    split at h
    · rename_i hnitz
      obtain ⟨-, rfl⟩ := Prod.mk.inj (Option.some.inj h)
      rw [if_pos hnitz, if_pos hnitz]
      exact Reads.uint64 htime (.done _)
    · rename_i hnitz
      obtain ⟨-, rfl⟩ := Prod.mk.inj (Option.some.inj h)
      rw [if_neg hnitz, if_neg hnitz]
      exact .done _

/-- A message of `RIL_onUnsolicitedResponse` that is encoded, when its response function has a
layout.  What is printed of it does not overrun `printBuf`. -/
structure SentUnsolicited where
  vendor : UnsolEnv
  input : UnsolInput
  state : UnsolState
  next : UnsolState
  env : EncodeEnv
  call : UnsolCall
  info : UnsolResponseInfo
  layout : PayloadLayout
  encoded : Encoded
  more : List Write
  known : unsolResponseInfo call.unsolResponse = some info
  layout_eq : layoutOf info.responseFunction = some layout
  len_lt : call.datalen < 4294967296
  fits : layout.Fits env call.data call.datalen
  verbatim : layout.Verbatim env call.data
  prints : LogProg.Fits printbufSize (logSteps (unsolicitedLog env call.unsolResponse.toNat
    info.responseFunction input.radioState call.data call.datalen) [])
  time_fits : 0 ≤ input.timeReceived ∧ input.timeReceived < 18446744073709551616
  encodes : encode env info.responseFunction call.data call.datalen = some encoded
  accepted : encoded.ret = 0
  completes : morePayload vendor input call.unsolResponse state = some (next, more)

namespace SentUnsolicited

def message (u : SentUnsolicited) : Parcel :=
  unsolicitedMessage u.call.unsolResponse (u.encoded.writes ++ u.more)

def meant (u : SentUnsolicited) : ClientMessage :=
  .unsolicited u.call.unsolResponse (u.layout.payload u.env u.call.data u.call.datalen)
    (moreOf u.input u.call.unsolResponse)

/-- The codes of the table are words. -/
theorem code_fits (u : SentUnsolicited) : IsInt32 u.call.unsolResponse := by
  have hknown := u.known
  unfold unsolResponseInfo at hknown
  split at hknown
  · exact absurd hknown (by simp)
  · rename_i hbase
    obtain ⟨hindex, -⟩ := List.getElem?_eq_some_iff.mp hknown
    rw [length_sUnsolResponses] at hindex
    unfold rilUnsolResponseBase at *
    constructor <;> omega

end SentUnsolicited

/-- **An unsolicited message is read as it was meant.** -/
theorem clientRead_unsolicited (u : SentUnsolicited) :
    clientRead asked u.message.data = some u.meant := by
  have hcontents := PayloadLayout.reads u.layout_eq u.verbatim u.len_lt u.fits u.encodes u.accepted
  have hmore := readMore_reads u.time_fits u.completes
  have hbytes := unsolicitedMessage_data u.call.unsolResponse (u.encoded.writes ++ u.more)
  have htwo : (words [responseUnsolicited, u.call.unsolResponse]).length = 8 := length_words _
  have hhead := present_readHead responseUnsolicited (by decide) u.code_fits
    ((u.encoded.writes ++ u.more).flatMap Write.encoding)
  have hfirst := hcontents (words [responseUnsolicited, u.call.unsolResponse])
    (u.more.flatMap Write.encoding)
  have hsecond := hmore (words [responseUnsolicited, u.call.unsolResponse] ++
    u.encoded.writes.flatMap Write.encoding) []
  rw [htwo] at hfirst
  rw [List.append_nil, List.length_append, htwo, List.append_assoc] at hsecond
  rw [List.flatMap_append] at hhead hbytes
  have hread : clientRead asked u.message.data = readUnsolicited u.call.unsolResponse
      ⟨words [responseUnsolicited, u.call.unsolResponse] ++ (u.encoded.writes.flatMap Write.encoding
        ++ u.more.flatMap Write.encoding), 8⟩ := by
    unfold clientRead SentUnsolicited.message
    rw [hbytes, hhead, Option.bind_eq_bind, Option.bind_some]
    exact (if_neg (by decide)).trans (if_pos rfl)
  rw [hread]
  unfold readUnsolicited
  simp only [Option.bind_eq_bind, Option.bind_some, u.known, u.layout_eq, hfirst, hsecond]
  refine if_pos ?_
  rw [List.length_append, List.length_append, htwo, Nat.add_assoc]

/-- The data of a call are encoded by a function with a layout, and written as they are. -/
def Readable (env : EncodeEnv) (input : UnsolInput) (c : UnsolCall) (info : UnsolResponseInfo) :
    Prop :=
  ∃ l, layoutOf info.responseFunction = some l ∧ l.Fits env c.data c.datalen ∧
    l.Verbatim env c.data ∧
    LogProg.Fits printbufSize (logSteps (unsolicitedLog env c.unsolResponse.toNat
      info.responseFunction input.radioState c.data c.datalen) [])

/-- **A call of `RIL_onUnsolicitedResponse`** is ignored, or its data are refused, or the last thing
it sends is read as the vendor has meant it. -/
theorem onUnsolicited_read {E : UnsolEnv} {input : UnsolInput} {s s' : UnsolState} {c : UnsolCall}
    (h : rilOnUnsolicitedResponse E input s c = some s')
    (hreadable : ∀ info, unsolResponseInfo c.unsolResponse = some info →
      Readable (s.encodeEnv E) input c info) (hlen : c.datalen < 4294967296)
    (htime : 0 ≤ input.timeReceived ∧ input.timeReceived < 18446744073709551616) :
    s' = s ∨
      (∃ info x, unsolResponseInfo c.unsolResponse = some info ∧
        encode (s.encodeEnv E) info.responseFunction c.data c.datalen = some x ∧ x.ret ≠ 0) ∨
      ∃ u : SentUnsolicited, u.call = c ∧ u.input = input ∧
        s'.ril.channel = u.next.ril.channel ++
          (sendResponseRaw u.next.ril.fdCommand u.message.data input.faults).2 ∧
        clientRead asked u.message.data = some u.meant := by
  obtain hsame | ⟨info, x, s₁, wake, -, hinfo, -, hx, -, -, -, hcase⟩ := onUnsolicited_cases E h
  · exact .inl hsame
  rcases hcase with ⟨hret, -⟩ | ⟨hret, t, payload, hmore, hs'⟩
  · exact .inr (.inl ⟨info, x, hinfo, hx, hret⟩)
  · obtain ⟨l, hl, hfits, hverbatim, hprints⟩ := hreadable info hinfo
    let u : SentUnsolicited := ⟨E, input, s₁, t, s.encodeEnv E, c, info, l, x, payload, hinfo, hl,
      hlen, hfits, hverbatim, hprints, htime, hx, hret, hmore⟩
    refine .inr (.inr ⟨u, rfl, rfl, ?_, clientRead_unsolicited u⟩)
    rw [hs']
    exact finishUnsolicited_channel E input c.unsolResponse wake (x.writes ++ payload) t

/-! ### The stream -/

/-- A packet of the socket, for a request that the client has sent, or of a code in the table. -/
inductive SentMessage where
  | answer (c : CompletedAnswer)
  | unsolicited (u : SentUnsolicited)

namespace SentMessage

def data : SentMessage → List UInt8
  | .answer c => c.message.data
  | .unsolicited u => u.message.data

def meant : SentMessage → ClientMessage
  | .answer c => c.meant
  | .unsolicited u => u.meant

/-- The client remembers the request. -/
def Known (asked : Int → Option RequestCode) : SentMessage → Prop
  | .answer c => asked c.request.token = some c.request.pCI
  | .unsolicited _ => True

theorem clientRead_data {m : SentMessage} (h : m.Known asked) :
    clientRead asked m.data = some m.meant := by
  cases m with
  | answer c => exact clientRead_answer c h
  | unsolicited u => exact clientRead_unsolicited u

/-- One message after the other. -/
theorem clientRead_all {datas : List (List UInt8)}
    (h : ∀ data ∈ datas, ∃ m : SentMessage, m.data = data ∧ m.Known asked) :
    ∃ ms : List SentMessage, ms.map SentMessage.data = datas ∧
      datas.map (clientRead asked) = ms.map fun m => some m.meant := by
  induction datas with
  | nil => exact ⟨[], rfl, rfl⟩
  | cons data datas ih =>
    obtain ⟨hfirst, hrest⟩ := List.forall_mem_cons.mp h
    obtain ⟨m, rfl, hknown⟩ := hfirst
    obtain ⟨ms, rfl, hread⟩ := ih hrest
    refine ⟨m :: ms, rfl, ?_⟩
    rw [List.map_cons, clientRead_data hknown, hread]
    rfl

end SentMessage

/-- The packets that have been received whole: those whose threads have taken the mutex, except
perhaps for the last. -/
theorem Framed.received {s : SendState} (h : Framed s) :
    ∃ xs, xs <+: s.taken ∧ lengthCode.split s.stream = xs.map Prod.snd ∧
      (s.writeMutex = none → xs = s.taken) := by
  cases hmutex : s.writeMutex with
  | none => exact ⟨s.taken, List.prefix_refl _, (h.free hmutex).2, fun _ => rfl⟩
  | some w =>
    obtain ⟨htaken, -⟩ := h.holder w hmutex
    have hstream := h.stream
    rw [hmutex] at hstream
    have hlast : (w.thread, w.data) ∈ s.taken := by
      rw [htaken]
      exact List.mem_append_right _ (List.mem_singleton_self _)
    by_cases hdone : w.done = lengthCode.packet w.data
    · have hall : s.stream = packets s.taken ++ [] := by
        rw [htaken, packets_append, packets_singleton, List.append_nil, ← hdone]
        exact hstream
      refine ⟨s.taken, List.prefix_refl _, ?_, fun _ => rfl⟩
      rw [hall]
      refine LengthCode.split_packets (fun data hdata => ?_) LengthCode.split_nil
      obtain ⟨x, hx, rfl⟩ := List.mem_map.mp hdata
      exact h.accepted (List.mem_append_left _ hx)
    · have hsmall := h.accepted (List.mem_append_left s.waiting hlast)
      have hnothing := LengthCode.split_incomplete hsmall (done_front w) hdone
      exact ⟨s.complete, ⟨_, htaken.symm⟩, h.split hstream hnothing, fun hfree => by simp at hfree⟩

/-- What has been taken was handed to `sendResponseRaw`. -/
theorem Framed.called {s : SendState} (h : Framed s) {x : ℕ × List UInt8} (hx : x ∈ s.taken) :
    x ∈ s.calls :=
  (List.mem_filter.mp (h.calls.mem_iff.mpr (List.mem_append_left s.waiting hx))).1

/-- `RIL_REQUEST_OPERATOR` with one name. -/
def operatorAnswer : CompletedAnswer where
  env := ⟨x86, 6, false, 0⟩
  request := ⟨1, 7, ⟨22, by decide, by decide⟩, false, false⟩
  layout := .plain .strings
  error := 0
  response := some { (default : ResponseMemory) with strings := fun _ => some [65] }
  len := 4
  message := _
  encoded := _
  version := by decide
  layout_eq := rfl
  token_fits := by decide
  error_fits := by decide
  len_lt := by decide
  fits := by
    intro _ vs hvs v hv
    obtain rfl : vs = [.string (some [65])] := List.mem_singleton.mp hvs
    obtain rfl := List.mem_singleton.mp hv
    decide
  verbatim := nofun
  prints := by decide +kernel
  encodes := rfl

/-- The time of the network, received at five million seconds. -/
def nitzUnsolicited : SentUnsolicited where
  vendor := x86Env
  input := ⟨.on, 5000000000, noFaults⟩
  state := unsolInit
  next := unsolInit
  env := ⟨x86, 6, false, 0⟩
  call := ⟨rilUnsolNitzTimeReceived, some { (default : ResponseMemory) with string := [49] }, 0⟩
  info := ⟨rilUnsolNitzTimeReceived, .responseString, .wakePartial⟩
  layout := .string
  encoded := _
  more := _
  known := by decide +kernel
  layout_eq := rfl
  len_lt := by decide
  fits := by
    show FieldValue.Fits (.string (some [49]))
    decide
  verbatim := trivial
  prints := by decide +kernel
  time_fits := by decide
  encodes := rfl
  accepted := rfl
  completes := rfl

/-- The client has sent one request. -/
def operatorAsked (token : Int) : Option RequestCode :=
  if token = 7 then some ⟨22, by decide, by decide⟩ else none

/-- The second of two threads takes the mutex first. -/
def twoMessages : List SendAction :=
  [.sendResponseRaw 1 operatorAnswer.message.data,
    .sendResponseRaw 2 nitzUnsolicited.message.data, .lock 1, .write (.written 4), .loopEnd,
    .write (.written 5), .write .eintr, .write (.written 19), .loopEnd, .lock 0,
    .write (.written 4), .loopEnd, .write (.written 24), .loopEnd]

/-- What the client reads of the two. -/
example : [nitzUnsolicited.message.data, operatorAnswer.message.data].map (clientRead operatorAsked)
    = [some (.unsolicited 1008 (.records [[.string (some [49])]]) (some 5000000000)),
      some (.answer 7 0 (some (.records [[.string (some [65])]])))] := by
  decide +kernel

end CtpCommon.Ril
