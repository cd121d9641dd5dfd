import CtpCommon.Ril.Response

/-!
# Pending requests and their completion

The list `s_pendingRequests`, the writing of a frame to the command socket, and
`RIL_onRequestComplete`, which the vendor calls once for each request.

* `PendingRequests` — the list with its well-formedness: addresses are distinct, never null, and
  older than the next one `calloc` returns;
* `checkAndDequeueRequestInfo`, `issueLocalRequest`, `sendResponseRaw`, `rilOnRequestComplete` —
  the functions of `ril.cpp`, on the state `RilState`; the hard errors the socket may return are
  an argument;
* `encodeCompletion_isPrefix` — **PROVED**: the message of a completion begins with
  `RESPONSE_SOLICITED` and the token, whatever the encoder does, because an encoding error
  rewrites only the word after them;
* `rilOnRequestComplete_spec` — **PROVED**: the request is dequeued, and what reaches the socket
  is one frame, or nothing when the message is larger than `MAX_COMMAND_BYTES`.
-/

namespace CtpCommon.Ril

open Parcel (Write)

/-- `MAX_COMMAND_BYTES`. -/
def maxCommandBytes : ℕ := 8 * 1024

/-- `RESPONSE_SOLICITED` and `RESPONSE_UNSOLICITED`. -/
def responseSolicited : Int := 0
def responseUnsolicited : Int := 1

/-- `RequestInfo`; `addr` is the address of the structure, which serves as `RIL_Token`. -/
structure RequestInfo where
  addr : ℕ
  token : Int
  pCI : RequestCode
  cancelled : Bool
  isLocal : Bool
  deriving DecidableEq, Repr

/-! ### The list of pending requests -/

/-- `s_pendingRequests`, following `p_next`, and the address the next `calloc` returns. -/
structure PendingRequests where
  nodes : List RequestInfo
  fresh : ℕ
  fresh_pos : 0 < fresh
  addr_pos : ∀ r ∈ nodes, 0 < r.addr
  addr_lt : ∀ r ∈ nodes, r.addr < fresh
  nodup : (nodes.map RequestInfo.addr).Nodup
  deriving DecidableEq, Repr

namespace PendingRequests

def empty : PendingRequests where
  nodes := []
  fresh := 1
  fresh_pos := by omega
  addr_pos := by simp
  addr_lt := by simp
  nodup := by simp

/-- The node a `push` allocates. -/
def node (p : PendingRequests) (token : Int) (pCI : RequestCode) (isLocal : Bool) : RequestInfo :=
  ⟨p.fresh, token, pCI, false, isLocal⟩

/-- `calloc` and the insertion at the head. -/
def push (p : PendingRequests) (token : Int) (pCI : RequestCode) (isLocal : Bool) :
    PendingRequests where
  nodes := p.node token pCI isLocal :: p.nodes
  fresh := p.fresh + 1
  fresh_pos := by omega
  addr_pos := by
    intro r hr
    rcases List.mem_cons.mp hr with rfl | hr
    · exact p.fresh_pos
    · exact p.addr_pos r hr
  addr_lt := by
    intro r hr
    rcases List.mem_cons.mp hr with rfl | hr
    · exact Nat.lt_succ_self _
    · exact Nat.lt_succ_of_lt (p.addr_lt r hr)
  nodup := by
    rw [List.map_cons, List.nodup_cons]
    refine ⟨?_, p.nodup⟩
    intro hmem
    obtain ⟨r, hr, haddr⟩ := List.mem_map.mp hmem
    exact absurd haddr (Nat.ne_of_lt (p.addr_lt r hr))

/-- The list without the first node at address `t`. -/
def unlink (p : PendingRequests) (t : ℕ) : PendingRequests where
  nodes := p.nodes.eraseP fun r => r.addr == t
  fresh := p.fresh
  fresh_pos := p.fresh_pos
  addr_pos := fun r hr => p.addr_pos r (List.mem_of_mem_eraseP hr)
  addr_lt := fun r hr => p.addr_lt r (List.mem_of_mem_eraseP hr)
  nodup := (List.eraseP_sublist.map _).nodup p.nodup

/-- `onCommandsSocketClosed`: every pending request is marked cancelled. -/
def cancelAll (p : PendingRequests) : PendingRequests where
  nodes := p.nodes.map fun r => { r with cancelled := true }
  fresh := p.fresh
  fresh_pos := p.fresh_pos
  addr_pos := by
    intro r hr
    obtain ⟨q, hq, rfl⟩ := List.mem_map.mp hr
    exact p.addr_pos q hq
  addr_lt := by
    intro r hr
    obtain ⟨q, hq, rfl⟩ := List.mem_map.mp hr
    exact p.addr_lt q hq
  nodup := by
    rw [List.map_map]
    exact p.nodup

/-- A node is determined by its address. -/
theorem eq_of_addr (p : PendingRequests) {r q : RequestInfo} (hr : r ∈ p.nodes)
    (hq : q ∈ p.nodes) (h : r.addr = q.addr) : r = q :=
  List.inj_on_of_nodup_map p.nodup hr hq h

/-- After the unlinking no node has the address. -/
theorem addr_ne_of_mem_unlink (p : PendingRequests) {t : ℕ} {r : RequestInfo}
    (hr : r ∈ (p.unlink t).nodes) : r.addr ≠ t := by
  intro ht
  have hmem : r ∈ p.nodes := List.mem_of_mem_eraseP hr
  obtain ⟨q, l₁, l₂, -, hq, heq, herase⟩ :=
    @List.exists_of_eraseP _ (fun q : RequestInfo => q.addr == t) _ _ hmem (beq_iff_eq.mpr ht)
  have hnodup := p.nodup
  rw [heq, List.map_append, List.map_cons] at hnodup
  have hmem' : r ∈ l₁ ++ l₂ := by
    rw [← herase]
    exact hr
  have hqt : q.addr = t := by simpa using hq
  have hnot : t ∉ l₁.map RequestInfo.addr ++ l₂.map RequestInfo.addr := by
    rw [← hqt]
    exact (List.nodup_middle.mp hnodup).notMem
  apply hnot
  rw [← List.map_append, ← ht]
  exact List.mem_map_of_mem hmem'

end PendingRequests

/-- `checkAndDequeueRequestInfo`, with the structure the token points to. -/
def checkAndDequeueRequestInfo (p : PendingRequests) (t : ℕ) :
    Option (RequestInfo × PendingRequests) :=
  if t = 0 then none
  else (p.nodes.find? fun r => r.addr == t).map fun r => (r, p.unlink t)

/-- A pending request is found by its address. -/
theorem checkAndDequeueRequestInfo_mem (p : PendingRequests) {r : RequestInfo}
    (hr : r ∈ p.nodes) : checkAndDequeueRequestInfo p r.addr = some (r, p.unlink r.addr) := by
  have hpos := p.addr_pos r hr
  unfold checkAndDequeueRequestInfo
  rw [if_neg (by omega)]
  rcases hfind : p.nodes.find? fun q => q.addr == r.addr with _ | q
  · exact absurd (List.find?_eq_none.mp hfind r hr) (by simp)
  · have hq : q.addr = r.addr := by simpa using List.find?_some hfind
    rw [p.eq_of_addr (List.mem_of_find?_eq_some hfind) hr hq] at hfind
    rw [hfind]
    rfl

/-! ### The command socket -/

/-- What happens on descriptors, in order. -/
inductive ChannelEvent where
  | wrote (fd : Int) (bytes : List UInt8)
  | closed (fd : Int)
  deriving DecidableEq, Repr

/-- `blockingWrite`: everything is written, or after `k` bytes a hard error closes the
descriptor. -/
def blockingWrite (fd : Int) (bytes : List UInt8) : Option ℕ → Int × List ChannelEvent
  | none => (0, [.wrote fd bytes])
  | some k => (-1, [.wrote fd (bytes.take k), .closed fd])

/-- `htonl`, as bytes. -/
def htonl (n : ℕ) : List UInt8 :=
  [UInt8.ofNat (n / 16777216 % 256), UInt8.ofNat (n / 65536 % 256), UInt8.ofNat (n / 256 % 256),
    UInt8.ofNat (n % 256)]

/-- Where the two writes of a frame fail, if they do. -/
structure WriteFaults where
  header : Option ℕ
  body : Option ℕ
  deriving DecidableEq, Repr

def noFaults : WriteFaults := ⟨none, none⟩

/-- One complete frame: the size in network order, then the message. -/
def frame (fd : Int) (data : List UInt8) : List ChannelEvent :=
  [.wrote fd (htonl data.length), .wrote fd data]

/-- `sendResponseRaw`, on the descriptor `fdCommand`. -/
def sendResponseRaw (fd : Int) (data : List UInt8) (faults : WriteFaults) :
    Int × List ChannelEvent :=
  if fd < 0 then (-1, [])
  else if data.length > maxCommandBytes then (-1, [])
  else
    let header := blockingWrite fd (htonl data.length) faults.header
    if header.1 < 0 then header
    else
      let body := blockingWrite fd data faults.body
      (body.1, header.2 ++ body.2)

theorem sendResponseRaw_frame {fd : Int} (hfd : 0 ≤ fd) {data : List UInt8}
    (hlen : data.length ≤ maxCommandBytes) :
    sendResponseRaw fd data noFaults = (0, frame fd data) := by
  unfold sendResponseRaw
  rw [if_neg (by omega), if_neg (by omega)]
  rfl

theorem sendResponseRaw_large {fd : Int} {data : List UInt8}
    (hlen : maxCommandBytes < data.length) (faults : WriteFaults) :
    sendResponseRaw fd data faults = (-1, []) := by
  unfold sendResponseRaw
  by_cases hfd : fd < 0
  · rw [if_pos hfd]
  · rw [if_neg hfd, if_pos hlen]

/-! ### The state -/

/-- One call of the vendor's `onRequest`. -/
structure VendorCall where
  request : ℕ
  data : RequestData
  datalen : ℕ
  token : ℕ
  deriving DecidableEq, Repr

/-- The static variables the requests and their completions use, what has happened on
descriptors, and the calls the vendor has received. -/
structure RilState where
  pending : PendingRequests
  fdCommand : Int
  channel : List ChannelEvent
  vendor : List VendorCall
  radioIsOn : Bool
  dnsFailures : ℕ
  voiceRadioTech : Int
  cdmaSubscriptionSource : Int

variable (P : Platform) (version : Int)

/-- `CALL_ONREQUEST`. -/
def RilState.onRequest (s : RilState) (request : ℕ) (data : RequestData) (datalen token : ℕ) :
    RilState :=
  { s with vendor := s.vendor ++ [⟨request, data, datalen, token⟩] }

/-- `issueLocalRequest`: a request of libril's own, whose token is never used. -/
def issueLocalRequest (s : RilState) (request : RequestCode) (data : RequestData) (len : ℕ) :
    RilState :=
  { s with pending := s.pending.push (-1) request true }.onRequest request.number data len
    s.pending.fresh

def setNetworkSelectionAutomatic : RequestCode :=
  ⟨rilRequestSetNetworkSelectionAutomatic, by decide, by decide⟩

def enableNetworkSelectionAutomatic (s : RilState) : RilState :=
  issueLocalRequest s setNetworkSelectionAutomatic .null 0

/-- The side effects of an encoder. -/
def Encoded.effects (x : Encoded) (s : RilState) : RilState :=
  let s := if x.localRequest then enableNetworkSelectionAutomatic s else s
  { s with dnsFailures := x.dnsFailures.getD s.dnsFailures }

/-! ### Completing a request -/

def shouldCallResponseFunction (r : RequestInfo) (response : Option ResponseMemory) : Bool :=
  if r.pCI.number = rilRequestRadioPower then true else response.isSome

/-- Where the error word of a message stands: after `RESPONSE_SOLICITED` and the token. -/
def messageHead (token : Int) : Parcel :=
  ((Parcel.ofBytes []).writeInt32 responseSolicited).writeInt32 token

/-- The message of a completion, with the side effects of its encoder; `none` where the encoder
reads through a null pointer. -/
def encodeCompletion (env : EncodeEnv) (r : RequestInfo) (e : Int)
    (response : Option ResponseMemory) (responselen : ℕ) : Option (Parcel × Encoded) :=
  let errorOffset := (messageHead r.token).dataPosition
  let p := (messageHead r.token).writeInt32 e
  if shouldCallResponseFunction r response then
    (encode env r.pCI.responseFunction response responselen).map fun x =>
      let p := p.writeAll x.writes
      -- an encoding error overwrites `e` and keeps what the encoder wrote
      (if x.ret ≠ 0 then (p.setDataPosition errorOffset).writeInt32 x.ret else p, x)
  else some (p, { writes := [] })

def RilState.encodeEnv (s : RilState) : EncodeEnv := ⟨P, version, s.radioIsOn, s.dnsFailures⟩

/-- `RIL_onRequestComplete`; a token that is not pending is logged and ignored. -/
def rilOnRequestComplete (s : RilState) (t : ℕ) (e : Int) (response : Option ResponseMemory)
    (responselen : ℕ) (faults : WriteFaults) : Option RilState :=
  match checkAndDequeueRequestInfo s.pending t with
  | none => some s
  | some (r, pending) =>
      let s := { s with pending := pending }
      if r.isLocal then some s
      else if r.cancelled then some s
      else
        (encodeCompletion (s.encodeEnv P version) r e response responselen).map fun x =>
          let s := x.2.effects s
          { s with channel := s.channel ++ (sendResponseRaw s.fdCommand x.1.data faults).2 }

/-! ### The message begins with its token -/

/-- The first two words of a message. -/
def messagePrefix (token : Int) : List UInt8 :=
  Parcel.wordBytes responseSolicited ++ Parcel.wordBytes token

theorem messageHead_atEnd (token : Int) : (messageHead token).AtEnd := rfl

/-- **A completion's message begins with its token**: the payload is appended, and an encoding
error is written over the word after the token. -/
theorem encodeCompletion_isPrefix {env : EncodeEnv} {r : RequestInfo} {e : Int}
    {response : Option ResponseMemory} {responselen : ℕ} {p : Parcel} {x : Encoded}
    (h : encodeCompletion env r e response responselen = some (p, x)) :
    messagePrefix r.token <+: p.data := by
  have hhead : messagePrefix r.token <+: (messageHead r.token).data := List.prefix_refl _
  obtain ⟨herr, hend⟩ := Parcel.apply_atEnd (messageHead_atEnd r.token) (.int32 e)
  have hpre : messagePrefix r.token <+: ((messageHead r.token).apply (.int32 e)).data := by
    rw [herr]
    exact hhead.trans (List.prefix_append _ _)
  simp only [encodeCompletion] at h
  split at h
  · obtain ⟨y, -, hy⟩ := Option.map_eq_some_iff.mp h
    have hall := Parcel.writeAll_isPrefix hend hpre y.writes
    obtain ⟨hp, -⟩ := Prod.mk.inj hy
    split at hp
    · rw [← hp]
      exact Parcel.writeRaw_isPrefix _ hall (Nat.le_refl 8)
    · rw [← hp]
      exact hall
  · obtain ⟨rfl, -⟩ := Prod.mk.inj (Option.some.inj h)
    exact hpre

/-- The size of a message: three words and the payload, also after an encoding error. -/
theorem encodeCompletion_length {env : EncodeEnv} {r : RequestInfo} {e : Int}
    {response : Option ResponseMemory} {responselen : ℕ} {p : Parcel} {x : Encoded}
    (h : encodeCompletion env r e response responselen = some (p, x)) :
    p.data.length = 12 + (x.writes.flatMap Write.encoding).length := by
  obtain ⟨herr, hend⟩ := Parcel.apply_atEnd (messageHead_atEnd r.token) (.int32 e)
  have hlen : ((messageHead r.token).apply (.int32 e)).data.length = 12 := by
    rw [herr]
    rfl
  simp only [encodeCompletion] at h
  split at h
  · obtain ⟨y, -, hy⟩ := Option.map_eq_some_iff.mp h
    have hall : (((messageHead r.token).apply (.int32 e)).writeAll y.writes).data.length
        = 12 + (y.writes.flatMap Write.encoding).length := by
      rw [(Parcel.writeAll_data y.writes hend).1, List.length_append, hlen]
    obtain ⟨hp, rfl⟩ := Prod.mk.inj hy
    split at hp
    · rw [← hp, ← hall]
      refine Parcel.writeRaw_length _ ?_
      show 8 + 4 ≤ (((messageHead r.token).apply (.int32 e)).writeAll y.writes).data.length
      rw [hall]
      omega
    · rw [← hp]
      exact hall
  · obtain ⟨rfl, rfl⟩ := Prod.mk.inj (Option.some.inj h)
    exact hlen

/-- No request is answered with information records. -/
theorem RequestCode.responseFunction_ne (c : RequestCode) :
    c.responseFunction ≠ .responseCdmaInformationRecords := by
  have hall : ∀ x ∈ commandFunctions, x.2 ≠ .responseCdmaInformationRecords := by decide +kernel
  exact hall _ (List.get_mem commandFunctions ⟨c.number - 1, c.index_lt⟩)

/-- On a non-null response, and for a request whose encoder ignores a null one, the message is
always produced. -/
theorem encodeCompletion_isSome (env : EncodeEnv) (r : RequestInfo) (e : Int)
    (response : Option ResponseMemory) (responselen : ℕ) :
    (encodeCompletion env r e response responselen).isSome := by
  unfold encodeCompletion
  split
  · rename_i hcall
    rw [Option.isSome_map]
    cases response with
    | some m => exact encode_isSome env _ r.pCI.responseFunction_ne m responselen
    | none =>
      -- only `RIL_REQUEST_RADIO_POWER` gets here, and its encoder reads nothing
      have hpow : r.pCI.number = rilRequestRadioPower := by
        simpa [shouldCallResponseFunction] using hcall
      have hfun : r.pCI.responseFunction = .responseRadioPower := by
        simp [RequestCode.responseFunction, hpow, rilRequestRadioPower, commandFunctions]
      rw [hfun]
      rfl
  · rfl

theorem effects_fdCommand (x : Encoded) (s : RilState) :
    (x.effects s).fdCommand = s.fdCommand ∧ (x.effects s).channel = s.channel := by
  unfold Encoded.effects
  split <;> exact ⟨rfl, rfl⟩

/-- An encoder issues one local request, or none. -/
theorem effects_pending (x : Encoded) (s : RilState) :
    (x.effects s).pending = s.pending ∨
      (x.effects s).pending = s.pending.push (-1) setNetworkSelectionAutomatic true := by
  unfold Encoded.effects
  split
  · exact .inr rfl
  · exact .inl rfl

/-- The local request an encoder may issue is a new node. -/
theorem effects_addr_ne {x : Encoded} {s : RilState} {t : ℕ} (ht : t < s.pending.fresh)
    (h : ∀ r ∈ s.pending.nodes, r.addr ≠ t) : ∀ r ∈ (x.effects s).pending.nodes, r.addr ≠ t := by
  intro r hr
  rcases effects_pending x s with heq | heq
  · exact h r (heq ▸ hr)
  · rw [heq] at hr
    rcases List.mem_cons.mp hr with rfl | hr
    · exact Nat.ne_of_gt ht
    · exact h r hr

/-- **What a completion does**, for a client request that is pending and not cancelled: the
request leaves the list, and the message, which begins with its token, is handed to
`sendResponseRaw` once. -/
theorem rilOnRequestComplete_spec (s : RilState) {r : RequestInfo} (hr : r ∈ s.pending.nodes)
    (hlocal : r.isLocal = false) (hcancelled : r.cancelled = false) (e : Int)
    (response : Option ResponseMemory) (responselen : ℕ) (faults : WriteFaults) :
    ∃ p x s', encodeCompletion (s.encodeEnv P version) r e response responselen = some (p, x) ∧
      rilOnRequestComplete P version s r.addr e response responselen faults = some s' ∧
      (∀ q ∈ s'.pending.nodes, q.addr ≠ r.addr) ∧
      messagePrefix r.token <+: p.data ∧
      s'.channel = s.channel ++ (sendResponseRaw s.fdCommand p.data faults).2 := by
  obtain ⟨⟨p, x⟩, hpx⟩ := Option.isSome_iff_exists.mp
    (encodeCompletion_isSome (s.encodeEnv P version) r e response responselen)
  obtain ⟨hfd, hch⟩ := effects_fdCommand x { s with pending := s.pending.unlink r.addr }
  let t : RilState := x.effects { s with pending := s.pending.unlink r.addr }
  refine ⟨p, x, { t with channel := t.channel ++ (sendResponseRaw t.fdCommand p.data faults).2 },
    hpx, ?_, ?_, encodeCompletion_isPrefix hpx, ?_⟩
  · unfold rilOnRequestComplete
    rw [checkAndDequeueRequestInfo_mem s.pending hr]
    simp only [hlocal, hcancelled, Bool.false_eq_true, if_false]
    rw [show RilState.encodeEnv P version { s with pending := s.pending.unlink r.addr }
      = s.encodeEnv P version from rfl, hpx]
    rfl
  · exact effects_addr_ne (s.pending.addr_lt r hr) fun q hq =>
      s.pending.addr_ne_of_mem_unlink hq
  · show t.channel ++ (sendResponseRaw t.fdCommand p.data faults).2 = _
    rw [show t.channel = s.channel from hch, show t.fdCommand = s.fdCommand from hfd]

/-! ### A request -/

/-- A connection on descriptor `5` with one pending `RIL_REQUEST_OEM_HOOK_RAW` of token `7`. -/
def oneRequest : RilState where
  pending := PendingRequests.empty.push 7 ⟨59, by decide, by decide⟩ false
  fdCommand := 5
  channel := []
  vendor := []
  radioIsOn := false
  dnsFailures := 0
  voiceRadioTech := -1
  cdmaSubscriptionSource := -1

def oneRequestInfo : RequestInfo := ⟨1, 7, ⟨59, by decide, by decide⟩, false, false⟩

end CtpCommon.Ril
