import CtpCommon.Display.Clients
import CtpCommon.Display.Transparency

/-!
# A message through the binder

`IExtendDisplayListener.cpp`: the listeners of the composer live in the processes of its clients.
`BpExtendDisplayListener` writes the bytes of a message, `BnExtendDisplayListener` copies them to
memory of its own and calls the listener.

* `bpOnMdsMessage`, `bnOnTransact`, `remoteListener` — the proxy, the stub, and a transaction;
* `onMdsMessage_eq` — **PROVED**: the proxy does what the listener does;
* `onMdsMessage_refused` — **PROVED**: without memory for the copy the listener is not called, and
  the composer is told that it was;
* `Effect.callTo`, `deliver` — the calls of the composer, carried out one after another;
* `foldl_deliver` — **PROVED**: each listener is where its own calls lead it;
* `OwnListener`, `owned_of_run` — **PROVED**: while no two clients register one listener, it is
  called for the client that has it;
* `listeners_told` — **PROVED** of every run of the clients: these are the messages that the client
  has subscribed to, as bytes, and the timings.
-/

namespace CtpCommon.Display

open BinderParcel

/-- The units of `com.intel.ExtendDisplayListener`. -/
def extendDescriptor : String16 :=
  ⟨[99, 111, 109, 46, 105, 110, 116, 101, 108, 46, 69, 120, 116, 101, 110, 100, 68, 105, 115, 112,
    108, 97, 121, 76, 105, 115, 116, 101, 110, 101, 114], by decide⟩

/-- `IBinder::FIRST_CALL_TRANSACTION`. -/
def onMdsEvent : ℕ := 1

/-- `size < sizeof(int)`; the comparison is unsigned. -/
def tooSmall (size : Int32) : Bool := size.toUInt32 < 4

/-- `onMdsMessage(msg, value, size)`, with the bytes at `value`. -/
abbrev IExtendDisplayListener (σ : Type) := Int32 → List UInt8 → Int32 → StateM σ Int32

/-- What the process of a listener adds. -/
structure ListenerProcess where
  /-- `malloc(size)`, with what is in the memory. -/
  malloc : Int32 → Option (List UInt8)
  /-- `BBinder::onTransact`. -/
  onTransact : ℕ → MdsParcel → MdsParcel → Status × MdsParcel

section

variable {σ : Type} (policy : Int32) (process : ListenerProcess) (impl : IExtendDisplayListener σ)

/-- The proxy; `Parcel::write` takes no size above `INT32_MAX`. -/
def bpOnMdsMessage (transact : ℕ → MdsParcel → StateM σ MdsParcel) (msg : Int32)
    (value : Option (List UInt8)) (size : Int32) : StateM σ Int32 :=
  match value with
  | none => return mdsErrorWord
  | some value =>
      if tooSmall size then return mdsErrorWord
      else do
        let data := (BinderParcel.empty.writeInterfaceToken policy extendDescriptor).writeInt32 msg
        let data := data.writeInt32 size
        let data := if 0 ≤ size.toInt then data.write (value.take size.toInt.toNat) else data
        let reply ← transact onMdsEvent data
        return reply.readInt32.1

/-- The case of `ON_MDS_EVENT`, after `CHECK_INTERFACE`. -/
def bnOnMdsEvent (data reply : MdsParcel) : StateM σ (Status × MdsParcel) :=
  let (msg, data) := data.readInt32
  let (size, data) := data.readInt32
  match process.malloc size with
  | none => return (mdsErrorWord, reply)
  | some memory =>
      if tooSmall size then return (mdsErrorWord, reply)
      else do
        let ret ← impl msg ((data.read size.toUInt32.toNat).1.getD memory) size
        return (noError, reply.writeInt32 ret)

def bnOnTransact (code : ℕ) (data reply : MdsParcel) : StateM σ (Status × MdsParcel) :=
  if code = onMdsEvent then
    let (ok, data) := data.enforceInterface extendDescriptor
    if ok then bnOnMdsEvent process impl data reply else return (permissionDenied, reply)
  else return process.onTransact code data reply

/-- `remote()->transact`: both parcels are read from their starts. -/
def remoteListener (code : ℕ) (data : MdsParcel) : StateM σ MdsParcel := do
  let (status, reply) ← bnOnTransact process impl code (data.setDataPosition 0) .empty
  return if status = noError then reply.setDataPosition 0 else .empty

/-! ### One message -/

theorem toNat_size {size : Int32} (h : 0 ≤ size.toInt) :
    size.toUInt32.toNat = size.toInt.toNat := by
  have hword : size.toInt = if 2 * size.toUInt32.toNat < 4294967296 then (size.toUInt32.toNat : Int)
      else size.toUInt32.toNat - 4294967296 := BitVec.toInt_eq_toNat_cond size.toBitVec
  have hlt := size.toUInt32.toNat_lt
  split at hword <;> omega

theorem tooSmall_of_le {size : Int32} (h : 4 ≤ size.toInt) : tooSmall size = false := by
  have hsize : size.toUInt32.toNat = size.toInt.toNat := toNat_size (by omega)
  refine decide_eq_false fun hsmall => ?_
  have hlt : size.toUInt32.toNat < 4 := UInt32.lt_iff_toNat_lt.mp hsmall
  omega

/-- The stub finds the message after the token. -/
theorem bnOnTransact_written {data : MdsParcel} {args : List MdsItem}
    (h : data.Written ([.int32 policy, .string16 extendDescriptor] ++ args)) :
    ∃ data' : MdsParcel, data'.Ahead args ∧
      bnOnTransact process impl onMdsEvent (data.setDataPosition 0) .empty
        = bnOnMdsEvent process impl data' .empty := by
  obtain ⟨data', htoken, hargs⟩ := enforceInterface_ahead (ahead_of_written h)
  refine ⟨data', hargs, ?_⟩
  unfold bnOnTransact
  simp only [htoken, if_true]

/-- What the proxy sends. -/
def bpData (msg : Int32) (value : List UInt8) (size : Int32) : MdsParcel :=
  (((BinderParcel.empty.writeInterfaceToken policy extendDescriptor).writeInt32 msg).writeInt32
    size).write (value.take size.toInt.toNat)

theorem bpData_written (msg : Int32) (value : List UInt8) (size : Int32) :
    (bpData policy msg value size).Written ([.int32 policy, .string16 extendDescriptor] ++
      [.int32 msg, .int32 size, .bytes (value.take size.toInt.toNat)]) :=
  written_put (written_put (written_put (written_put (written_put written_empty (.int32 policy))
    (.string16 extendDescriptor)) (.int32 msg)) (.int32 size))
    (.bytes (value.take size.toInt.toNat))

theorem bpOnMdsMessage_eq (transact : ℕ → MdsParcel → StateM σ MdsParcel) {size : Int32}
    (hsize : 4 ≤ size.toInt) (msg : Int32) (value : List UInt8) :
    bpOnMdsMessage policy transact msg (some value) size = do
      let reply ← transact onMdsEvent (bpData policy msg value size)
      return reply.readInt32.1 := by
  unfold bpOnMdsMessage
  simp only [tooSmall_of_le hsize]
  rw [if_neg Bool.false_ne_true, if_pos (by omega)]
  rfl

/-- The stub reads the message, and the bytes if there is memory for them. -/
theorem bnOnMdsEvent_ahead {data : MdsParcel} {msg size : Int32} {bytes : List UInt8}
    (hsize : 4 ≤ size.toInt) (hbytes : size.toInt = bytes.length)
    (h : data.Ahead [.int32 msg, .int32 size, .bytes bytes]) :
    bnOnMdsEvent process impl data .empty = match process.malloc size with
      | none => (pure (mdsErrorWord, .empty) : StateM σ (Status × MdsParcel))
      | some _ => do
          let ret ← impl msg bytes size
          return (noError, BinderParcel.empty.writeInt32 ret) := by
  obtain ⟨q1, hmsg, hargs⟩ := readInt32_ahead h
  obtain ⟨q2, hword, hargs⟩ := readInt32_ahead hargs
  obtain ⟨q3, hread, -⟩ := read_ahead hargs
  have hlength : size.toUInt32.toNat = bytes.length := by
    have hnat : size.toUInt32.toNat = size.toInt.toNat := toNat_size (by omega)
    omega
  unfold bnOnMdsEvent
  simp only [hmsg, hword, hlength, hread]
  cases process.malloc size with
  | none => rfl
  | some memory =>
    simp only [tooSmall_of_le hsize]
    rfl

/-- **The proxy does what the listener does**, with the bytes that it was given. -/
theorem onMdsMessage_eq {size : Int32} {value : List UInt8} (hsize : 4 ≤ size.toInt)
    (hvalue : size.toInt ≤ value.length) (hmalloc : (process.malloc size).isSome = true)
    (msg : Int32) :
    bpOnMdsMessage policy (remoteListener process impl) msg (some value) size
      = impl msg (value.take size.toInt.toNat) size := by
  have hlength : size.toInt = (value.take size.toInt.toNat).length := by
    rw [List.length_take]
    omega
  obtain ⟨data, hargs, hstub⟩ :=
    bnOnTransact_written policy process impl (bpData_written policy msg value size)
  have hcase := bnOnMdsEvent_ahead process impl hsize hlength hargs
  obtain ⟨memory, hmemory⟩ := Option.isSome_iff_exists.mp hmalloc
  rw [hmemory] at hcase
  rw [bpOnMdsMessage_eq policy _ hsize]
  unfold remoteListener
  simp only [hstub, hcase, bind_assoc, pure_bind, if_true, reply_readInt32, bind_pure]

/-- **Without memory** the listener is not called, and the answer is `MDS_NO_ERROR`. -/
theorem onMdsMessage_refused {size : Int32} {value : List UInt8} (hsize : 4 ≤ size.toInt)
    (hvalue : size.toInt ≤ value.length) (hmalloc : process.malloc size = none) (msg : Int32) :
    bpOnMdsMessage policy (remoteListener process impl) msg (some value) size
      = (pure (Int32.ofInt mdsNoError) : StateM σ Int32) := by
  have hlength : size.toInt = (value.take size.toInt.toNat).length := by
    rw [List.length_take]
    omega
  obtain ⟨data, hargs, hstub⟩ :=
    bnOnTransact_written policy process impl (bpData_written policy msg value size)
  have hcase := bnOnMdsEvent_ahead process impl hsize hlength hargs
  rw [hmalloc] at hcase
  rw [bpOnMdsMessage_eq policy _ hsize]
  unfold remoteListener
  simp only [hstub, hcase, pure_bind]
  rfl

end

/-! ### All messages -/

/-- A call of a listener: the kind of message, and its bytes. -/
structure ListenerCall where
  msg : Int32
  value : List UInt8
  deriving DecidableEq

/-- `&mMode` or `&status`, and its size. -/
def MdsMessage.call : MdsMessage → ListenerCall
  | .modeChange mode => ⟨Int32.ofBitVec mdsModeChange, Parcel.wordBytes mode.toInt⟩
  | .setVideoStatus status => ⟨Int32.ofBitVec mdsSetVideoStatus, Parcel.wordBytes status⟩

/-- The words of an `MDSHDMITiming`. -/
def MdsHdmiTiming.call (timing : MdsHdmiTiming) : ListenerCall where
  msg := Int32.ofBitVec mdsSetTiming
  value := [timing.refresh, timing.width, timing.height, timing.interlace,
    timing.ratio].flatMap Parcel.wordBytes

def ListenerCall.isTiming (call : ListenerCall) : Bool := call.msg = Int32.ofBitVec mdsSetTiming

/-- Who is called, and with what. -/
def Effect.listenerCall : Effect → Option (ListenerRef × ListenerCall)
  | .onMdsMessage _ listener message => some (listener, message.call)
  | .setTiming _ listener timing => some (listener, timing.call)
  | _ => none

/-- The call of one listener. -/
def Effect.callTo (listener : ListenerRef) (e : Effect) : Option ListenerCall :=
  e.listenerCall.bind fun x => if x.1 = listener then some x.2 else none

theorem MdsMessage.length_value (message : MdsMessage) : message.call.value.length = 4 := by
  cases message <;> rfl

theorem MdsHdmiTiming.length_value (timing : MdsHdmiTiming) : timing.call.value.length = 20 := rfl

theorem Effect.length_value {e : Effect} {listener : ListenerRef} {call : ListenerCall}
    (h : e.listenerCall = some (listener, call)) :
    call.value.length = 4 ∨ call.value.length = 20 := by
  cases e with
  | onMdsMessage handle listener' message =>
    obtain ⟨-, rfl⟩ := Prod.mk.inj (Option.some.inj h)
    exact .inl message.length_value
  | setTiming handle listener' timing =>
    obtain ⟨-, rfl⟩ := Prod.mk.inj (Option.some.inj h)
    exact .inr timing.length_value
  | _ => exact absurd h (by simp [Effect.listenerCall])

section

variable {σ : Type} (policy : Int32) (process : ListenerRef → ListenerProcess)
  (impl : ListenerRef → IExtendDisplayListener σ)

/-- The size of a value in memory. -/
def ListenerCall.size (call : ListenerCall) : Int32 := Int32.ofNat call.value.length

/-- A call in the process of the listener. -/
def ListenerCall.run (listener : IExtendDisplayListener σ) (state : σ) (call : ListenerCall) : σ :=
  (listener call.msg call.value call.size state).2

/-- A call of the composer, through the binder. -/
def deliver (states : ListenerRef → σ) (e : Effect) : ListenerRef → σ :=
  match e.listenerCall with
  | none => states
  | some (listener, call) =>
      Function.update states listener
        (bpOnMdsMessage policy (remoteListener (process listener) (impl listener)) call.msg
          (some call.value) call.size (states listener)).2

variable {process}

theorem deliver_eq (hmalloc : ∀ listener size, size = 4 ∨ size = 20 →
      ((process listener).malloc size).isSome = true)
    (states : ListenerRef → σ) (e : Effect) (listener : ListenerRef) :
    deliver policy process impl states e listener
      = (e.callTo listener).elim (states listener)
          (ListenerCall.run (impl listener) (states listener)) := by
  unfold deliver Effect.callTo
  cases hcall : e.listenerCall with
  | none => rfl
  | some x =>
    obtain ⟨listener', call⟩ := x
    have hlength := Effect.length_value hcall
    have hmemory : call.size = 4 ∨ call.size = 20 := by
      unfold ListenerCall.size
      rcases hlength with hlength | hlength <;> rw [hlength] <;> decide
    have hsize : call.size.toInt = call.value.length := by
      unfold ListenerCall.size
      rcases hlength with hlength | hlength <;> rw [hlength] <;> rfl
    have htake : call.value.take call.size.toInt.toNat = call.value := by
      rw [hsize, Int.toNat_natCast, List.take_length]
    have heq : bpOnMdsMessage policy (remoteListener (process listener') (impl listener')) call.msg
        (some call.value) call.size
          = impl listener' call.msg (call.value.take call.size.toInt.toNat) call.size :=
      onMdsMessage_eq policy (process listener') (impl listener') (by omega) hsize.le
        (hmalloc _ _ hmemory) call.msg
    rw [htake] at heq
    dsimp only [Option.bind_some]
    by_cases hlistener : listener' = listener
    · subst hlistener
      rw [Function.update_self, heq, if_pos rfl]
      rfl
    · rw [Function.update_of_ne (Ne.symm hlistener), if_neg hlistener]
      rfl

/-- **Each listener is where its own calls lead it.** -/
theorem foldl_deliver (hmalloc : ∀ listener size, size = 4 ∨ size = 20 →
      ((process listener).malloc size).isSome = true)
    (states : ListenerRef → σ) (log : List Effect) (listener : ListenerRef) :
    log.foldl (deliver policy process impl) states listener
      = (log.filterMap (Effect.callTo listener)).foldl (ListenerCall.run (impl listener))
          (states listener) := by
  induction log generalizing states with
  | nil => rfl
  | cons e log ih =>
    rw [List.foldl_cons, ih, deliver_eq policy impl hmalloc, List.filterMap_cons]
    cases e.callTo listener with
    | none => rfl
    | some call => rfl

end

/-- A message to the listener is for the client at this address. -/
def Effect.isFor (handle : Handle) (listener : ListenerRef) : Effect → Bool
  | .onMdsMessage handle' listener' _ => listener' = listener → handle' = handle
  | _ => true

/-- What a listener is called with, but for timings, when it is registered under one address. -/
theorem filterMap_callTo {handle : Handle} {listener : ListenerRef} {log : List Effect}
    (hown : ∀ e ∈ log, e.isFor handle listener = true) :
    (log.filterMap (Effect.callTo listener)).filter (fun call => !call.isTiming)
      = (log.filterMap (Effect.deliveredTo handle listener)).map MdsMessage.call := by
  induction log with
  | nil => rfl
  | cons e log ih =>
    have hrest := ih fun e he => hown e (List.mem_cons_of_mem _ he)
    cases e with
    | onMdsMessage handle' listener' message =>
      by_cases hlistener : listener' = listener
      · subst hlistener
        obtain rfl : handle' = handle := of_decide_eq_true (hown _ List.mem_cons_self) rfl
        have hkind : message.call.isTiming = false := by cases message <;> rfl
        simp [Effect.callTo, Effect.listenerCall, Effect.deliveredTo, hkind, hrest]
      · simpa [Effect.callTo, Effect.listenerCall, Effect.deliveredTo, hlistener] using hrest
    | setTiming handle' listener' timing =>
      have hkind : timing.call.isTiming = true := rfl
      rw [List.filterMap_cons_none (f := Effect.deliveredTo handle listener) rfl, ← hrest]
      by_cases hlistener : listener' = listener <;>
        simp [Effect.callTo, Effect.listenerCall, hlistener, hkind]
    | _ => exact hrest

/-! ### Listeners of their own -/

/-- A client that registers is the only one with its listener. -/
def OwnListener (s : ClientsState) : ClientAction → Prop
  | .register _ listener (some _) msg => 0 < msg.toInt →
      ∀ c x, s.session c = some x → x.listener = listener → listener = none
  | _ => True

/-- No two clients have one listener, and each listener is called for the client that has it. -/
structure Owned (s : ClientsState) : Prop where
  isApart : Apart s
  one : ∀ c c' x x' listener, s.session c = some x → s.session c' = some x' →
    x.listener = some listener → x'.listener = some listener → c = c'
  heard : ∀ c x listener, s.session c = some x → x.listener = some listener →
    ∀ e ∈ s.heard x, e.isFor c.address listener = true

theorem Told.isFor {listeners : Listeners} {new : List Effect} (h : Told listeners new)
    {handle : Handle} {listener : ListenerRef}
    (hone : ∀ handle' l, listeners.lookup handle' = some l → l.mIEListener = some listener →
      handle' = handle) : ∀ e ∈ new, e.isFor handle listener = true := by
  induction h with
  | nil => exact fun e he => absurd he List.not_mem_nil
  | call e plain _ ih =>
    intro e' he'
    rcases List.mem_append.mp he' with he' | he'
    · exact ih e' he'
    · obtain rfl := List.mem_singleton.mp he'
      cases e' <;> first | rfl | exact absurd plain.symm Bool.false_ne_true
  | broadcast message _ ih =>
    intro e he
    rcases List.mem_append.mp he with he | he
    · exact ih e he
    rcases List.mem_cons.mp he with rfl | he
    · rfl
    · obtain ⟨⟨handle', l⟩, hmem, hcall⟩ := List.mem_filterMap.mp he
      split at hcall
      · obtain ⟨listener', hlistener, rfl⟩ := Option.map_eq_some_iff.mp hcall
        refine decide_eq_true fun heq => ?_
        exact hone handle' l (listeners.mem_entries_iff.mp hmem) (heq ▸ hlistener)
      · exact absurd hcall.symm (Option.some_ne_none e)

section

variable {b : Build} {s t : ClientsState} {a : ClientAction}

/-- A listener is found under the address of the client that has it. -/
theorem Owned.handle (h : Owned s) {c : Client} {x : Session} {listener : ListenerRef}
    (hsession : s.session c = some x) (hlistener : x.listener = some listener) {handle : Handle}
    {l : MultiDisplayListener} (hlookup : s.composer.mListener.lookup handle = some l)
    (hl : l.mIEListener = some listener) : handle = c.address := by
  obtain ⟨c', hc', rfl⟩ := h.isApart.owned handle l hlookup
  obtain ⟨x', hx'⟩ := Option.isSome_iff_exists.mp hc'
  have hentry := (h.isApart.isolated.entry c' x' hx').symm.trans hlookup
  have hlistener' : x'.listener = some listener := by
    rw [← hl, ← Option.some.inj hentry]
    rfl
  rw [h.one c' c x' x listener hx' hsession hlistener' hlistener]

/-- Some calls more, of which those to a listener are for its client. -/
theorem Owned.of_log (h : Owned s) (ht : Apart t) {new : List Effect}
    (hlog : t.composer.device.log = s.composer.device.log ++ new)
    (hold : ∀ c x, t.session c = some x → s.session c = some x)
    (hnew : ∀ c x listener, s.session c = some x → x.listener = some listener →
      ∀ e ∈ new, e.isFor c.address listener = true) : Owned t := by
  refine ⟨ht, fun c c' x x' listener hc hc' => h.one c c' x x' listener (hold c x hc)
    (hold c' x' hc'), fun c x listener hc hlistener e he => ?_⟩
  have hsession := hold c x hc
  unfold ClientsState.heard at he
  rw [hlog, List.drop_append_of_le_length (h.isApart.since c x hsession)] at he
  exact (List.mem_append.mp he).elim (h.heard c x listener hsession hlistener e)
    (hnew c x listener hsession hlistener e)

theorem registerCall_log (s : Composer) (c : Client) (listener : Option ListenerRef)
    (name : Option (List UInt8)) (msg : BitVec 32) :
    (registerCall s c listener name msg).2.device.log = s.device.log := by
  unfold registerCall Composer.registerListener Composer.checkInit
  cases name with
  | none => split_ifs <;> rfl
  | some name =>
    dsimp only
    split_ifs <;> rfl

/-- **A registration** with a listener of its own. -/
theorem Owned.register (h : Owned s) {c : Client} {listener : Option ListenerRef}
    {name : Option (List UInt8)} {msg : BitVec 32}
    (hown : OwnListener s (.register c listener name msg))
    (ht : t = ⟨⟨(registerCall s.composer c listener name msg).2, s.state.mipiThread⟩,
      openSession s c listener name msg⟩) (hapart : Apart t) : Owned t := by
  have hlog : t.composer.device.log = s.composer.device.log := by
    subst ht
    exact registerCall_log s.composer c listener name msg
  have hsame : t.session = s.session → Owned t := fun hsession =>
    h.of_log hapart (hlog.trans (List.append_nil _).symm) (fun c x hx => hsession ▸ hx)
      fun _ _ _ _ _ e he => absurd he List.not_mem_nil
  cases name with
  | none =>
    subst ht
    exact hsame rfl
  | some name =>
    by_cases hmsg : 0 < msg.toInt
    · have hsession : t.session = Function.update s.session c
          (some ⟨msg, name, listener, s.composer.device.log.length⟩) := by
        subst ht
        exact if_neg (not_le.mpr hmsg)
      have hfresh : ∀ c' x' l, s.session c' = some x' → x'.listener = some l →
          listener ≠ some l := fun c' x' l hx' hl heq =>
        absurd (heq.symm.trans (hown hmsg c' x' hx' (hl.trans heq.symm))) (Option.some_ne_none l)
      refine ⟨hapart, fun c' c'' x x' l hx hx' hl hl' => ?_, fun c' x l hx hl e he => ?_⟩
      · rw [hsession] at hx hx'
        rcases session_of_update hx with ⟨rfl, hnew⟩ | ⟨-, hold⟩ <;>
          rcases session_of_update hx' with ⟨rfl, hnew'⟩ | ⟨-, hold'⟩
        · rfl
        · obtain rfl := Option.some.inj hnew
          exact absurd hl (hfresh c'' x' l hold' hl')
        · obtain rfl := Option.some.inj hnew'
          exact absurd hl' (hfresh c' x l hold hl)
        · exact h.one c' c'' x x' l hold hold' hl hl'
      · unfold ClientsState.heard at he
        rw [hlog] at he
        rw [hsession] at hx
        rcases session_of_update hx with ⟨rfl, hnew⟩ | ⟨-, hold⟩
        · obtain rfl := Option.some.inj hnew
          rw [List.drop_length] at he
          exact absurd he List.not_mem_nil
        · exact h.heard c' x l hold hl e he
    · refine hsame ?_
      subst ht
      exact if_pos (not_lt.mp hmsg)

/-- **A step** keeps each listener with its client. -/
theorem clientStep_owned (h : Owned s) (hok : RegistersApart s a) (hown : OwnListener s a)
    (hst : clientStep b s a = some t) : Owned t := by
  have hapart := (clientStep_isolated h.isApart hst).1 hok
  cases a with
  | register c listener name msg =>
    simp only [clientStep] at hst
    split at hst
    · exact absurd hst.symm (Option.some_ne_none t)
    · exact h.register hown (Option.some.inj hst).symm hapart
  | unregister c =>
    simp only [clientStep] at hst
    split at hst
    · exact absurd hst.symm (Option.some_ne_none t)
    · obtain rfl := Option.some.inj hst
      have hlog : (s.composer.unregisterListener c.address).2.device.log
          = s.composer.device.log := by
        unfold Composer.unregisterListener Composer.checkInit
        split_ifs <;> rfl
      refine h.of_log hapart (hlog.trans (List.append_nil _).symm) (fun c' x hx => ?_)
        fun _ _ _ _ _ e he => absurd he List.not_mem_nil
      rcases session_of_update hx with ⟨-, hnone⟩ | ⟨-, hold⟩
      · exact absurd hnone.symm (Option.some_ne_none x)
      · exact hold
  | other a =>
    simp only [clientStep] at hst
    split at hst
    · exact absurd hst.symm (Option.some_ne_none t)
    · rename_i ha
      obtain ⟨u, hu, rfl⟩ := Option.map_eq_some_iff.mp hst
      obtain ⟨-, new, hlog, htold⟩ := (step_performs hu).listener h.isApart.shown
        (request_ne_listeners (Bool.eq_false_iff.mpr ha))
      exact h.of_log hapart hlog (fun c x hx => hx) fun c x listener hx hlistener =>
        htold.isFor fun handle l hlookup hl => h.handle hx hlistener hlookup hl

theorem owned_of_run {boot : Composer.Boot}
    (h : Runs.Reaches (clients b boot) (fun s a => RegistersApart s a ∧ OwnListener s a) s) :
    Owned s :=
  h.invariant ⟨apart_init b boot, fun _ _ _ _ _ hx => absurd hx.symm (Option.some_ne_none _),
    fun _ _ _ hx => absurd hx.symm (Option.some_ne_none _)⟩
    fun hs hok hst => clientStep_owned hs hok.1 hok.2 hst

end

/-- **The listeners, in their own processes.**  In every run in which each client registers at an
address of its own with a listener of its own, and while the processes have memory, the listener of
a registered client is where its implementation is led by the calls that the composer has made for
it since, messages and timings, in their order and each with its bytes; and the messages among them
are those that the client has subscribed to. -/
theorem listeners_told {b : Build} {boot : Composer.Boot} {s : ClientsState}
    (h : Runs.Reaches (clients b boot) (fun s a => RegistersApart s a ∧ OwnListener s a) s)
    {c : Client} {x : Session} {listener : ListenerRef} (hsession : s.session c = some x)
    (hlistener : x.listener = some listener)
    {σ : Type} (policy : Int32) {process : ListenerRef → ListenerProcess}
    (hmalloc : ∀ listener size, size = 4 ∨ size = 20 →
      ((process listener).malloc size).isSome = true)
    (impl : ListenerRef → IExtendDisplayListener σ) (states : ListenerRef → σ) :
    (s.heard x).foldl (deliver policy process impl) states listener
        = ((s.heard x).filterMap (Effect.callTo listener)).foldl
            (ListenerCall.run (impl listener)) (states listener) ∧
      ((s.heard x).filterMap (Effect.callTo listener)).filter (fun call => !call.isTiming)
        = ((s.heard x).filterMap (Effect.broadcastFor x.entry)).map MdsMessage.call := by
  have hs := owned_of_run h
  refine ⟨foldl_deliver policy impl hmalloc states (s.heard x) listener, ?_⟩
  rw [filterMap_callTo (hs.heard c x listener hsession hlistener),
    hs.isApart.isolated.received c x listener hsession hlistener]

/-- A listener that keeps its calls. -/
def recorder : IExtendDisplayListener (List ListenerCall) := fun msg value _ calls =>
  (0, calls ++ [⟨msg, value⟩])

/-- A process with memory. -/
def roomy : ListenerProcess := ⟨fun _ => some [], fun _ _ reply => (mdsErrorWord, reply)⟩

/-- A client registers for modes, and then the panel may be off. -/
theorem listeners_told_mode : ∃ (s : ClientsState) (x : Session),
    s.session ⟨1, 16⟩ = some x ∧ (s.heard x).length = 3 ∧
    (s.heard x).foldl (deliver 0 (fun _ => roomy) fun _ => recorder) (fun _ => []) 7
        = ((s.heard x).filterMap (Effect.callTo 7)).foldl (ListenerCall.run recorder) [] ∧
      ((s.heard x).filterMap (Effect.callTo 7)).filter (fun call => !call.isTiming)
        = ((s.heard x).filterMap (Effect.broadcastFor x.entry)).map MdsMessage.call := by
  have hfirst : Runs.Reaches (clients ⟨true, true⟩ (Composer.Boot.simple drmHdmiConnected))
      (fun s a => RegistersApart s a ∧ OwnListener s a) _ :=
    .step (a := ClientAction.register ⟨1, 16⟩ (some 7) (some []) 1) .init
      ⟨fun _ => ⟨rfl, fun _ h => absurd h Bool.false_ne_true⟩,
        fun _ _ _ hx => absurd hx.symm (Option.some_ne_none _)⟩ rfl
  have hlast := Runs.Reaches.step (a := ClientAction.other
    (.call (.setModePolicy mdsMipiOffAllowed) (DrmResults.simple drmHdmiConnected true))) hfirst
    ⟨trivial, trivial⟩ rfl
  exact ⟨_, ⟨1, [], some 7, _⟩, rfl, by decide +kernel, listeners_told hlast (c := ⟨1, 16⟩)
    (x := ⟨1, [], some 7, _⟩) rfl rfl 0 (fun _ _ _ => rfl) _ _⟩

end CtpCommon.Display
