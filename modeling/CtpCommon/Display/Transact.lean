import CtpCommon.Display.Interface

/-!
# The proxy and the stub

`IMultiDisplayComposer.cpp`.  `BpMultiDisplayComposer` writes the arguments of a call to a parcel
and reads the result from another; `BnMultiDisplayComposer::onTransact` reads the arguments, calls
the method and writes its result.  Between the two, the binder delivers parcels, each from its
start.

* `MdsTransaction` — the codes;
* `BpMultiDisplayComposer` — the proxy, over what `remote()->transact` does;
* `onTransact` — the stub, over the methods of an implementation;
* `remote` — a transaction with the stub;
* `writeHdmiModes`, `readHdmiModes` — the count and the arrays, with a loop over the entries;
* `writeVideoInts`, `readVideoInts` — the ints of a video.
-/

namespace CtpCommon.Display

abbrev MdsParcel := BinderParcel ListenerRef

abbrev MdsItem := BinderParcel.Item ListenerRef

inductive MdsTransaction where
  | getMode
  | setModePolicy
  | notifyWidi
  | notifyMipi
  | notifyHotPlug
  | hdmiPowerOff
  | prepareForVideo
  | getVideoState
  | updateVideoInfo
  | getHdmiModeInfoCount
  | getHdmiModeInfo
  | setHdmiModeInfo
  | registerListener
  | unregisterListener
  | setHdmiScaleType
  | setHdmiScaleStep
  | getHdmiDeviceChange
  | getVideoInfo
  | getDisplayCapability
  deriving DecidableEq, Repr

namespace MdsTransaction

/-- In the order of their codes. -/
def all : List MdsTransaction :=
  [.getMode, .setModePolicy, .notifyWidi, .notifyMipi, .notifyHotPlug, .hdmiPowerOff,
    .prepareForVideo, .getVideoState, .updateVideoInfo, .getHdmiModeInfoCount, .getHdmiModeInfo,
    .setHdmiModeInfo, .registerListener, .unregisterListener, .setHdmiScaleType, .setHdmiScaleStep,
    .getHdmiDeviceChange, .getVideoInfo, .getDisplayCapability]

/-- `MDS_GET_MODE` is `1`. -/
def code (t : MdsTransaction) : ℕ := all.idxOf t + 1

/-- `switch (code)`. -/
def ofCode (code : ℕ) : Option MdsTransaction := if code = 0 then none else all[code - 1]?

/-- **The codes tell the transactions apart.** -/
theorem ofCode_code (t : MdsTransaction) : ofCode t.code = some t := by
  cases t <;> rfl

end MdsTransaction

/-- The units of `com.intel.IMultiDisplayComposer`. -/
def mdsDescriptor : String16 :=
  ⟨[99, 111, 109, 46, 105, 110, 116, 101, 108, 46, 73, 77, 117, 108, 116, 105, 68, 105, 115, 112,
    108, 97, 121, 67, 111, 109, 112, 111, 115, 101, 114], by decide⟩

/-- `MDS_ERROR` as an `int`. -/
def mdsErrorWord : Int32 := Int32.ofInt mdsError

/-- `reinterpret_cast<int32_t>(handle)`. -/
def handleWord (handle : Handle) : Int32 := Int32.ofBitVec (BitVec.ofFin handle)

/-- `reinterpret_cast<void *>(word)`. -/
def wordHandle (word : Int32) : Handle := word.toBitVec.toFin

/-! ### The proxy -/

/-- What the process of the caller adds to its parcels. -/
structure Caller where
  /-- The strict-mode policy of the thread. -/
  policy : Int32
  /-- The memory of the video info before its members were assigned. -/
  old : videoLayout.Memory

namespace Caller

def token (c : Caller) : MdsParcel := BinderParcel.empty.writeInterfaceToken c.policy mdsDescriptor

end Caller

section Proxy

variable {σ : Type} (c : Caller) (transact : ℕ → MdsParcel → StateM σ MdsParcel)

/-- A method that reads one int from the reply. -/
def request (t : MdsTransaction) (data : MdsParcel) : StateM σ Int32 := do
  let reply ← transact t.code data
  return reply.readInt32.1

def boolWord (on : Bool) : Int32 := if on = true then 1 else 0

/-- `*(array + i) = value`. -/
def HdmiModes.assign (a : HdmiArrays) (i : ℕ) (width height refresh interlace ratio : Int32) :
    HdmiArrays where
  width := Function.update a.width i width
  height := Function.update a.height i height
  refresh := Function.update a.refresh i refresh
  interlace := Function.update a.interlace i interlace
  ratio := Function.update a.ratio i ratio

/-- The rest of the loop of the proxy, from entry `i` on with `left` entries left. -/
def readModes : ℕ → ℕ → HdmiArrays → MdsParcel → HdmiArrays
  | 0, _, a, _ => a
  | left + 1, i, a, reply =>
      let (width, reply) := reply.readInt32
      let (height, reply) := reply.readInt32
      let (refresh, reply) := reply.readInt32
      let (interlace, reply) := reply.readInt32
      let (ratio, reply) := reply.readInt32
      readModes left (i + 1) (a.assign i width height refresh interlace ratio) reply

/-- The count, and the entries it counts. -/
def readHdmiModes (a : HdmiArrays) (reply : MdsParcel) : Int32 × HdmiArrays :=
  let (count, reply) := reply.readInt32
  (count, readModes count.toInt.toNat 0 a reply)

def readVideoInts (reply : MdsParcel) : Int32 × VideoInts Int32 :=
  let (dw, reply) := reply.readInt32
  let (dh, reply) := reply.readInt32
  let (fps, reply) := reply.readInt32
  let (interlace, reply) := reply.readInt32
  (reply.readInt32.1, ⟨dw, dh, fps, interlace⟩)

/-- A null name, or no message, is not sent. -/
def bpRegisterListener (listener : Option ListenerRef) (handle : Handle) (name : Option CString)
    (msg : Int32) : StateM σ Int32 :=
  match name with
  | none => return mdsErrorWord
  | some name =>
      if msg ≤ 0 then return mdsErrorWord
      else
        request transact .registerListener
          ((((c.token.writeStrongBinder listener).writeInt32 (handleWord handle)).writeCString
            name).writeInt32 msg)

/-- With a null pointer, only the count is asked for. -/
def bpGetHdmiModeInfo (p : HdmiPointers) : StateM σ (Int32 × HdmiArrays) :=
  if p.complete = false then do
    let count ← request transact .getHdmiModeInfoCount c.token
    return (count, p.contents)
  else do
    let reply ← transact MdsTransaction.getHdmiModeInfo.code c.token
    return readHdmiModes p.contents reply

def bpGetVideoInfo (p : VideoInts (Option Int32)) : StateM σ (Int32 × VideoInts Int32) :=
  if p.complete = false then return (mdsErrorWord, p.contents)
  else do
    let reply ← transact MdsTransaction.getVideoInfo.code c.token
    return readVideoInts reply

def BpMultiDisplayComposer : IMultiDisplayComposer σ where
  getMode wait := request transact .getMode (c.token.writeInt32 (boolWord wait))
  setModePolicy policy := request transact .setModePolicy (c.token.writeInt32 policy)
  prepareForVideo status := request transact .prepareForVideo (c.token.writeInt32 status)
  getVideoState := request transact .getVideoState c.token
  updateVideoInfo info :=
    request transact .updateVideoInfo (c.token.write (info.inMemory c.old).bytes)
  notifyWidi on := request transact .notifyWidi (c.token.writeInt32 (boolWord on))
  notifyMipi on := request transact .notifyMipi (c.token.writeInt32 (boolWord on))
  notifyHotPlug := request transact .notifyHotPlug c.token
  setHdmiPowerOff := request transact .hdmiPowerOff c.token
  registerListener := bpRegisterListener c transact
  unregisterListener handle :=
    request transact .unregisterListener (c.token.writeInt32 (handleWord handle))
  getHdmiModeInfo := bpGetHdmiModeInfo c transact
  setHdmiModeInfo width height refresh interlace ratio :=
    request transact .setHdmiModeInfo
      (((((c.token.writeInt32 width).writeInt32 height).writeInt32 refresh).writeInt32
        interlace).writeInt32 ratio)
  setHdmiScaleType type := request transact .setHdmiScaleType (c.token.writeInt32 type)
  setHdmiScaleStep hValue vValue :=
    request transact .setHdmiScaleStep ((c.token.writeInt32 hValue).writeInt32 vValue)
  getHdmiDeviceChange := request transact .getHdmiDeviceChange c.token
  getVideoInfo := bpGetVideoInfo c transact
  getDisplayCapability := request transact .getDisplayCapability c.token

end Proxy

/-! ### The stub -/

/-- `status_t`. -/
abbrev Status := Int32

def noError : Status := 0
def permissionDenied : Status := -1

/-- What the process of the service adds. -/
structure Server where
  /-- A local `MDSVideoSourceInfo` before it is read. -/
  info : MdsVideoSourceInfo
  /-- `BBinder::onTransact`. -/
  onTransact : ℕ → MdsParcel → MdsParcel → Status × MdsParcel

section Stub

variable {σ : Type} (server : Server) (impl : IMultiDisplayComposer σ)

/-- `reply->writeInt32(…); return NO_ERROR;`. -/
def answer (reply : MdsParcel) (method : StateM σ Int32) : StateM σ (Status × MdsParcel) := do
  let ret ← method
  return (noError, reply.writeInt32 ret)

/-- `data.read(&info, sizeof(MDSVideoSourceInfo))`. -/
def readVideoInfo (data : MdsParcel) : MdsVideoSourceInfo :=
  match (data.read videoLayout.sizeof).1 with
  | none => server.info
  | some bs =>
      if h : videoLayout.sizeof ≤ bs.length then .ofMemory (videoLayout.load bs h) else server.info

/-- The rest of the loop of the stub. -/
def writeModes (a : HdmiArrays) : ℕ → ℕ → MdsParcel → MdsParcel
  | 0, _, reply => reply
  | left + 1, i, reply =>
      writeModes a left (i + 1)
        (((((reply.writeInt32 (a.width i)).writeInt32 (a.height i)).writeInt32
          (a.refresh i)).writeInt32 (a.interlace i)).writeInt32 (a.ratio i))

/-- The arrays hold no more. -/
def clampCount (count : Int32) : Int32 :=
  if count.toInt < 0 ∨ count.toInt > hdmiTimingMax then -1 else count

def writeHdmiModes (reply : MdsParcel) (result : Int32 × HdmiArrays) : MdsParcel :=
  let count := clampCount result.1
  writeModes result.2 count.toInt.toNat 0 (reply.writeInt32 count)

def writeVideoInts (reply : MdsParcel) (result : Int32 × VideoInts Int32) : MdsParcel :=
  ((((reply.writeInt32 result.2.dw).writeInt32 result.2.dh).writeInt32 result.2.fps).writeInt32
    result.2.interlace).writeInt32 result.1

/-- The cases of `onTransact`, after `CHECK_INTERFACE`. -/
def handle (data reply : MdsParcel) : MdsTransaction → StateM σ (Status × MdsParcel)
  | .getMode => answer reply (impl.getMode (data.readInt32.1 = 1))
  | .setModePolicy => answer reply (impl.setModePolicy data.readInt32.1)
  | .notifyMipi => answer reply (impl.notifyMipi (data.readInt32.1 = 1))
  | .notifyWidi => answer reply (impl.notifyWidi (data.readInt32.1 = 1))
  | .prepareForVideo => answer reply (impl.prepareForVideo data.readInt32.1)
  | .getVideoState => answer reply impl.getVideoState
  | .updateVideoInfo => answer reply (impl.updateVideoInfo (readVideoInfo server data))
  | .notifyHotPlug => answer reply impl.notifyHotPlug
  | .hdmiPowerOff => answer reply impl.setHdmiPowerOff
  | .registerListener =>
      let (listener, data) := data.readStrongBinder
      let (handle, data) := data.readInt32
      let (client, data) := data.readCString
      answer reply (impl.registerListener listener (wordHandle handle) client data.readInt32.1)
  | .unregisterListener => answer reply (impl.unregisterListener (wordHandle data.readInt32.1))
  | .setHdmiModeInfo =>
      let (width, data) := data.readInt32
      let (height, data) := data.readInt32
      let (refresh, data) := data.readInt32
      let (interlace, data) := data.readInt32
      answer reply (impl.setHdmiModeInfo width height refresh interlace data.readInt32.1)
  | .getHdmiModeInfo => do
      let result ← impl.getHdmiModeInfo HdmiModes.zero.pointers
      return (noError, writeHdmiModes reply result)
  | .getHdmiModeInfoCount =>
      answer reply do
        let (count, _) ← impl.getHdmiModeInfo HdmiModes.null
        return count
  | .setHdmiScaleType => answer reply (impl.setHdmiScaleType data.readInt32.1)
  | .setHdmiScaleStep =>
      let (hValue, data) := data.readInt32
      answer reply (impl.setHdmiScaleStep hValue data.readInt32.1)
  | .getHdmiDeviceChange => answer reply impl.getHdmiDeviceChange
  | .getVideoInfo => do
      let result ← impl.getVideoInfo VideoInts.zero.pointers
      return (noError, writeVideoInts reply result)
  | .getDisplayCapability => answer reply impl.getDisplayCapability

def onTransact (code : ℕ) (data reply : MdsParcel) : StateM σ (Status × MdsParcel) :=
  match MdsTransaction.ofCode code with
  | none => return server.onTransact code data reply
  | some t =>
      let (ok, data) := data.enforceInterface mdsDescriptor
      if ok then handle server impl data reply t else return (permissionDenied, reply)

/-- `remote()->transact`: both parcels are read from their starts. -/
def remote (code : ℕ) (data : MdsParcel) : StateM σ MdsParcel := do
  let (status, reply) ← onTransact server impl code (data.setDataPosition 0) .empty
  return if status = noError then reply.setDataPosition 0 else .empty

end Stub

end CtpCommon.Display
