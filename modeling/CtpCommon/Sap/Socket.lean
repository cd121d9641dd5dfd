import CtpCommon.Lib.Runs
import CtpCommon.Ril.Requests

/-!
# The SIM access socket

`RilSapSocket` decodes records on the event loop and queues them; a thread started by each new
connection takes them off the queue and hands them to the UIM, which completes them on threads of
its own.

* `RilQueue` — `Ril_queue`, the list from `front` along `p_next`;
* `pushRecord`, `dispatchRequest`, `onRequestComplete`, `sendResponse`, `onCommandsSocketClosed` —
  the functions of `RilSapSocket.cpp`, on the state `SapState`; the protobuf library is a
  parameter;
* `sapSystem` — connections, records, disconnects, the request-loop threads and completions in any
  order.  `dispatchRequest` and `onRequestComplete` each take `pendingResponseQueue`'s mutex once,
  and are two steps: the other threads may come between;
* `sapStepTo_of_step` — **PROVED**: what a step can be.

The threads are interchangeable, so a run says which held request goes on next and not by which
thread.
-/

namespace CtpCommon.Sap

open Ril (ChannelEvent blockingWrite htonl)

/-! ### `Ril_queue` -/

structure RilQueue (T : Type) where
  elems : List T

namespace RilQueue

variable {T : Type}

/-- The new element becomes the front. -/
def enqueue (q : RilQueue T) (request : T) : RilQueue T := ⟨request :: q.elems⟩

/-- The front; a thread waits while the queue is empty. -/
def dequeue (q : RilQueue T) : Option (T × RilQueue T) :=
  match q.elems with
  | [] => none
  | request :: rest => some (request, ⟨rest⟩)

/-- Unlink the first element with this message id and token. -/
def checkAndDequeue (q : RilQueue T) (key : T → ℕ × ℤ) (id : ℕ) (token : ℤ) : Bool × RilQueue T :=
  (q.elems.any fun r => key r == (id, token), ⟨q.elems.eraseP fun r => key r == (id, token)⟩)

theorem dequeue_eq_some {q q' : RilQueue T} {request : T} (h : q.dequeue = some (request, q')) :
    q.elems = request :: q'.elems := by
  unfold dequeue at h
  split at h
  · exact absurd h (by simp)
  · rename_i first rest heq
    obtain ⟨rfl, rfl⟩ := Prod.mk.inj (Option.some.inj h)
    exact heq

end RilQueue

/-! ### Messages and requests -/

inductive MsgType where
  | unknown | request | response | unsolResponse
  deriving DecidableEq, Repr

/-- The message of the SAP protocol. -/
structure MsgHeader where
  token : ℤ
  type : MsgType
  id : ℕ
  error : ℤ
  payload : List UInt8
  deriving DecidableEq, Repr

/-- `SapSocketRequest`.  `serial` and `connection` are not in the source: they tell requests apart,
and say on which connection one was received. -/
structure SapSocketRequest where
  serial : ℕ
  connection : ℕ
  token : ℤ
  curr : MsgHeader
  socketId : ℕ
  deriving DecidableEq, Repr

/-- The id of the one socket, `RIL_SOCKET_1`. -/
def rilSocket1 : ℕ := 0

/-- The id `dispatchDisconnect` gives its request, which is no socket's. -/
def disconnectSocketId : ℕ := 99

def msgIdDisconnect : ℕ := 2

/-- The protobuf library: `pb_decode` and `pb_encode` with `MsgHeader_fields`. -/
structure SapEnv where
  pbDecode : List UInt8 → Option MsgHeader
  pbEncode : MsgHeader → Option (List UInt8)

/-! ### The state -/

/-- The members of `RilSapSocket`; the requests a request-loop thread has dequeued and not handed
over, those the UIM has and has not completed, and those whose completion has sent its response and
not yet dequeued them; how many connections there were and how many threads were started; and what
has happened: the requests put on `pendingResponseQueue` whose completion has not dequeued, those
pushed, and those handed to `onRequest`, all in order, what was written, and for each response the
connections of its request and its socket. -/
structure SapState where
  commandFd : ℤ
  dispatchQueue : RilQueue SapSocketRequest
  pendingResponseQueue : RilQueue SapSocketRequest
  held : List SapSocketRequest
  outstanding : List SapSocketRequest
  completing : List SapSocketRequest
  queued : List SapSocketRequest
  connection : ℕ
  threads : ℕ
  pushed : List SapSocketRequest
  handed : List SapSocketRequest
  channel : List ChannelEvent
  sent : List (ℕ × ℕ)

variable (E : SapEnv)

/-! ### Requests -/

/-- The event loop queues a record that decodes. -/
def pushRecord (record : List UInt8) (s : SapState) : SapState :=
  match E.pbDecode record with
  | none => s
  | some reqHeader =>
      let recv : SapSocketRequest :=
        ⟨s.pushed.length, s.connection, reqHeader.token, reqHeader, rilSocket1⟩
      { s with
        dispatchQueue := s.dispatchQueue.enqueue recv
        pushed := s.pushed ++ [recv] }

/-- `dispatchRequest` as far as `pendingResponseQueue.enqueue(currRequest)`. -/
def dispatchRequest (r : SapSocketRequest) (s : SapState) : SapState :=
  { s with
    pendingResponseQueue := s.pendingResponseQueue.enqueue r
    queued := s.queued ++ [r] }

/-- The rest of it, `uimFuncs->onRequest`. -/
def callOnRequest (r : SapSocketRequest) (s : SapState) : SapState :=
  { s with
    outstanding := s.outstanding ++ [r]
    handed := s.handed ++ [r] }

/-- `sendDisconnect` and `dispatchDisconnect`: a request of the socket's own. -/
def onCommandsSocketClosed (s : SapState) : SapState :=
  { s with outstanding := s.outstanding ++
      [⟨s.pushed.length, s.connection, -1, ⟨0, .request, msgIdDisconnect, 0, []⟩,
        disconnectSocketId⟩] }

/-! ### Responses -/

/-- The bytes of a message: its size in network order and its encoding. -/
def encodeMessage (hdr : MsgHeader) : Option (List UInt8) :=
  (E.pbEncode hdr).bind fun bytes =>
    if (bytes.length : ℤ) ≤ Parcel.int32Max then some (htonl bytes.length ++ bytes) else none

/-- `sendResponse`, for a request received on the connection `origin`. -/
def sendResponse (origin : ℕ) (hdr : MsgHeader) (fault : Option ℕ) (s : SapState) : SapState :=
  match encodeMessage E hdr with
  | none => s
  | some buffer =>
      if s.commandFd = -1 then s
      else { s with
        channel := s.channel ++ (blockingWrite s.commandFd buffer fault).2
        sent := s.sent ++ [(origin, s.connection)] }

/-- `RilSapSocket::onRequestComplete` as far as `sendResponse`; only a response with data is
sent. -/
def onRequestComplete (r : SapSocketRequest) (e : ℤ) (response : List UInt8) (fault : Option ℕ)
    (s : SapState) : SapState :=
  let s := if response = [] then s
    else sendResponse E r.connection ⟨r.curr.token, .response, r.curr.id, e, response⟩ fault s
  { s with completing := s.completing ++ [r] }

/-- The rest of it, in which `checkAndDequeue` looks the request up by its id and token. -/
def dequeueCompleted (r : SapSocketRequest) (s : SapState) : SapState :=
  { s with
    pendingResponseQueue := (s.pendingResponseQueue.checkAndDequeue
      (fun q => (q.curr.id, q.token)) r.curr.id r.curr.token).2
    queued := s.queued.erase r }

/-- `sOnRequestComplete`: a request of no socket is only freed. -/
def sOnRequestComplete (r : SapSocketRequest) (e : ℤ) (response : List UInt8) (fault : Option ℕ)
    (s : SapState) : SapState :=
  if r.socketId = rilSocket1 then onRequestComplete E r e response fault s else s

/-! ### Runs -/

inductive SapAction where
  | connect (fd : ℕ)
  | rejectPeer
  | pushRecord (record : List UInt8)
  | closeCommands
  | dequeue
  | dispatch (i : ℕ)
  | onRequest (i : ℕ)
  | complete (i : ℕ) (e : ℤ) (response : List UInt8) (fault : Option ℕ)
  | dequeueCompleted (i : ℕ)

/-- One step of the event loop, of a request-loop thread or of the UIM. -/
def sapStep (s : SapState) : SapAction → Option SapState
  | .connect fd =>
      -- each connection starts a thread, and none ever ends
      if s.commandFd = -1 then some { s with
        commandFd := fd
        connection := s.connection + 1
        threads := s.threads + 1 } else none
  | .rejectPeer => if s.commandFd = -1 then some (onCommandsSocketClosed s) else none
  | .pushRecord record => if s.commandFd = -1 then none else some (pushRecord E record s)
  | .closeCommands =>
      if s.commandFd = -1 then none
      else some (onCommandsSocketClosed { s with commandFd := -1 })
  | .dequeue =>
      -- a thread that holds no request
      if s.held.length < s.threads then
        s.dispatchQueue.dequeue.map fun x => { s with
          dispatchQueue := x.2
          held := s.held ++ [x.1] }
      else none
  | .dispatch i =>
      s.held[i]?.bind fun r => if r ∈ s.queued then none else some (dispatchRequest r s)
  | .onRequest i =>
      s.held[i]?.bind fun r =>
        if r ∈ s.queued then some (callOnRequest r { s with held := s.held.eraseIdx i }) else none
  | .complete i e response fault =>
      s.outstanding[i]?.map fun r =>
        sOnRequestComplete E r e response fault { s with outstanding := s.outstanding.eraseIdx i }
  | .dequeueCompleted i =>
      s.completing[i]?.map fun r =>
        dequeueCompleted r { s with completing := s.completing.eraseIdx i }

def sapInit : SapState where
  commandFd := -1
  dispatchQueue := ⟨[]⟩
  pendingResponseQueue := ⟨[]⟩
  held := []
  outstanding := []
  completing := []
  queued := []
  connection := 0
  threads := 0
  pushed := []
  handed := []
  channel := []
  sent := []

def sapSystem : Runs.System SapState SapAction := ⟨sapInit, sapStep E⟩

/-! ### What a completion leaves alone -/

/-- **A completion** leaves the requests that wait alone until it dequeues, and logs at most one
response, to its own request if that belongs to the socket. -/
theorem sOnRequestComplete_spec (r : SapSocketRequest) (e : ℤ) (response : List UInt8)
    (fault : Option ℕ) (s : SapState) :
    ∃ channel sent, sOnRequestComplete E r e response fault s
        = { s with
          channel := channel
          sent := sent
          completing := s.completing ++ if r.socketId = rilSocket1 then [r] else [] } ∧
      (sent = s.sent ∨
        r.socketId = rilSocket1 ∧ sent = s.sent ++ [(r.connection, s.connection)]) := by
  by_cases hid : r.socketId = rilSocket1
  · have hsend : ∀ hdr, ∃ channel sent, sendResponse E r.connection hdr fault s
        = { s with channel := channel, sent := sent } ∧
          (sent = s.sent ∨ sent = s.sent ++ [(r.connection, s.connection)]) := by
      intro hdr
      unfold sendResponse
      split
      · exact ⟨_, _, rfl, .inl rfl⟩
      · split
        · exact ⟨_, _, rfl, .inl rfl⟩
        · exact ⟨_, _, rfl, .inr rfl⟩
    unfold sOnRequestComplete onRequestComplete
    rw [if_pos hid, if_pos hid]
    by_cases hresponse : response = []
    · rw [if_pos hresponse]
      exact ⟨_, _, rfl, .inl rfl⟩
    · rw [if_neg hresponse]
      obtain ⟨channel, sent, heq, hsent⟩ :=
        hsend ⟨r.curr.token, .response, r.curr.id, e, response⟩
      rw [heq]
      refine ⟨_, _, rfl, ?_⟩
      rcases hsent with hsame | hnew
      · exact .inl hsame
      · exact .inr ⟨hid, hnew⟩
  · unfold sOnRequestComplete
    rw [if_neg hid, if_neg hid, List.append_nil]
    exact ⟨_, _, rfl, .inl rfl⟩

/-! ### What a step can be -/

/-- The steps of `sapStep`. -/
inductive SapStepTo (s : SapState) : SapAction → SapState → Prop
  | connect (fd : ℕ) : s.commandFd = -1 →
      SapStepTo s (.connect fd) { s with
        commandFd := fd
        connection := s.connection + 1
        threads := s.threads + 1 }
  | rejectPeer : s.commandFd = -1 → SapStepTo s .rejectPeer (onCommandsSocketClosed s)
  | pushRecord (record : List UInt8) : s.commandFd ≠ -1 →
      SapStepTo s (.pushRecord record) (pushRecord E record s)
  | closeCommands : s.commandFd ≠ -1 →
      SapStepTo s .closeCommands (onCommandsSocketClosed { s with commandFd := -1 })
  | dequeue (r : SapSocketRequest) (rest : RilQueue SapSocketRequest) :
      s.held.length < s.threads → s.dispatchQueue.elems = r :: rest.elems →
      SapStepTo s .dequeue { s with dispatchQueue := rest, held := s.held ++ [r] }
  | dispatch (i : ℕ) (r : SapSocketRequest) : s.held[i]? = some r → r ∉ s.queued →
      SapStepTo s (.dispatch i) (dispatchRequest r s)
  | onRequest (i : ℕ) (r : SapSocketRequest) : s.held[i]? = some r → r ∈ s.queued →
      SapStepTo s (.onRequest i) (callOnRequest r { s with held := s.held.eraseIdx i })
  | complete (i : ℕ) (e : ℤ) (response : List UInt8) (fault : Option ℕ) (r : SapSocketRequest) :
      s.outstanding[i]? = some r →
      SapStepTo s (.complete i e response fault)
        (sOnRequestComplete E r e response fault { s with outstanding := s.outstanding.eraseIdx i })
  | dequeueCompleted (i : ℕ) (r : SapSocketRequest) : s.completing[i]? = some r →
      SapStepTo s (.dequeueCompleted i)
        (dequeueCompleted r { s with completing := s.completing.eraseIdx i })

/-- **Inversion**: a step is one of these. -/
theorem sapStepTo_of_step {s t : SapState} {a : SapAction} (h : sapStep E s a = some t) :
    SapStepTo E s a t := by
  cases a with
  | connect fd =>
    by_cases hfd : s.commandFd = -1
    · obtain rfl := Option.some.inj ((if_pos hfd).symm.trans h)
      exact .connect fd hfd
    · exact absurd ((if_neg hfd).symm.trans h) (by simp)
  | rejectPeer =>
    by_cases hfd : s.commandFd = -1
    · obtain rfl := Option.some.inj ((if_pos hfd).symm.trans h)
      exact .rejectPeer hfd
    · exact absurd ((if_neg hfd).symm.trans h) (by simp)
  | pushRecord record =>
    by_cases hfd : s.commandFd = -1
    · exact absurd ((if_pos hfd).symm.trans h) (by simp)
    · obtain rfl := Option.some.inj ((if_neg hfd).symm.trans h)
      exact .pushRecord record hfd
  | closeCommands =>
    by_cases hfd : s.commandFd = -1
    · exact absurd ((if_pos hfd).symm.trans h) (by simp)
    · obtain rfl := Option.some.inj ((if_neg hfd).symm.trans h)
      exact .closeCommands hfd
  | dequeue =>
    by_cases hidle : s.held.length < s.threads
    · obtain ⟨⟨r, rest⟩, hr, rfl⟩ := Option.map_eq_some_iff.mp ((if_pos hidle).symm.trans h)
      exact .dequeue r rest hidle (RilQueue.dequeue_eq_some hr)
    · exact absurd ((if_neg hidle).symm.trans h) (by simp)
  | dispatch i =>
    obtain ⟨r, hr, h⟩ := Option.bind_eq_some_iff.mp h
    by_cases hqueued : r ∈ s.queued
    · exact absurd ((if_pos hqueued).symm.trans h) (by simp)
    · obtain rfl := Option.some.inj ((if_neg hqueued).symm.trans h)
      exact .dispatch i r hr hqueued
  | onRequest i =>
    obtain ⟨r, hr, h⟩ := Option.bind_eq_some_iff.mp h
    by_cases hqueued : r ∈ s.queued
    · obtain rfl := Option.some.inj ((if_pos hqueued).symm.trans h)
      exact .onRequest i r hr hqueued
    · exact absurd ((if_neg hqueued).symm.trans h) (by simp)
  | complete i e response fault =>
    obtain ⟨r, hr, rfl⟩ := Option.map_eq_some_iff.mp h
    exact .complete i e response fault r hr
  | dequeueCompleted i =>
    obtain ⟨r, hr, rfl⟩ := Option.map_eq_some_iff.mp h
    exact .dequeueCompleted i r hr

end CtpCommon.Sap
