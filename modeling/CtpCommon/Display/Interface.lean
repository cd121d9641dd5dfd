import CtpCommon.Lib.BinderParcel
import CtpCommon.Lib.StructLayout
import CtpCommon.Display.Composer

/-!
# The interface of the composer

`IMultiDisplayComposer.h`.  A method takes C ints, and its pointers are to memory of the caller; a
`void *` has 32 bits.  What a method leaves in the memory behind its pointers is part of its result.

* `IMultiDisplayComposer` — the methods;
* `MdsCall`, `invoke` — a call of a method with its arguments, and what the caller gets of it;
* `recorded` — the same methods, with a log of the calls;
* `Implementation` — the interface as it is implemented: a count of modes fits into the arrays;
* `multiDisplayComposer` — the methods of the composer are an implementation;
* `invoke_multiDisplayComposer` — **PROVED**: a call performs an operation of the composer;
* `inMemory`, `ofMemory` — `MDSVideoSourceInfo` as the compiler lays it out;
* `ofMemory_inMemory` — **PROVED**: the fields are what was stored, whatever the gaps hold.
-/

namespace CtpCommon.Display

/-! ### Pointers -/

/-- One of something for each of the five arrays of `getHdmiModeInfo`. -/
structure HdmiModes (P : Type) where
  width : P
  height : P
  refresh : P
  interlace : P
  ratio : P

/-- `int *` that may be null. -/
abbrev HdmiPointers := HdmiModes (Option (ℕ → Int32))

abbrev HdmiArrays := HdmiModes (ℕ → Int32)

namespace HdmiModes

def null : HdmiPointers := ⟨none, none, none, none, none⟩

def pointers (a : HdmiArrays) : HdmiPointers :=
  ⟨some a.width, some a.height, some a.refresh, some a.interlace, some a.ratio⟩

/-- `memset(…, 0, …)`. -/
def zero : HdmiArrays := ⟨fun _ => 0, fun _ => 0, fun _ => 0, fun _ => 0, fun _ => 0⟩

/-- None of them is null. -/
def complete (p : HdmiPointers) : Bool :=
  p.width.isSome && p.height.isSome && p.refresh.isSome && p.interlace.isSome && p.ratio.isSome

/-- What the pointers point to. -/
def contents (p : HdmiPointers) : HdmiArrays :=
  ⟨p.width.getD zero.width, p.height.getD zero.height, p.refresh.getD zero.refresh,
    p.interlace.getD zero.interlace, p.ratio.getD zero.ratio⟩

/-- The five ints of an entry. -/
def entry (a : HdmiArrays) (i : ℕ) : List Int32 :=
  [a.width i, a.height i, a.refresh i, a.interlace i, a.ratio i]

/-- The first entries. -/
def entries (a : HdmiArrays) (n : ℕ) : List Int32 := (List.range n).flatMap a.entry

end HdmiModes

/-- One of something for each pointer of `getVideoInfo`. -/
structure VideoInts (P : Type) where
  dw : P
  dh : P
  fps : P
  interlace : P

namespace VideoInts

def zero : VideoInts Int32 := ⟨0, 0, 0, 0⟩

def pointers (v : VideoInts Int32) : VideoInts (Option Int32) :=
  ⟨some v.dw, some v.dh, some v.fps, some v.interlace⟩

def complete (p : VideoInts (Option Int32)) : Bool :=
  p.dw.isSome && p.dh.isSome && p.fps.isSome && p.interlace.isSome

def contents (p : VideoInts (Option Int32)) : VideoInts Int32 :=
  ⟨p.dw.getD 0, p.dh.getD 0, p.fps.getD 0, p.interlace.getD 0⟩

def values (v : VideoInts Int32) : List Int32 := [v.dw, v.dh, v.fps, v.interlace]

end VideoInts

/-! ### The methods -/

/-- The methods of an object with the state `σ`. -/
structure IMultiDisplayComposer (σ : Type) where
  getMode (wait : Bool) : StateM σ Int32
  setModePolicy (policy : Int32) : StateM σ Int32
  prepareForVideo (status : Int32) : StateM σ Int32
  getVideoState : StateM σ Int32
  updateVideoInfo (info : MdsVideoSourceInfo) : StateM σ Int32
  notifyWidi (on : Bool) : StateM σ Int32
  notifyMipi (on : Bool) : StateM σ Int32
  notifyHotPlug : StateM σ Int32
  setHdmiPowerOff : StateM σ Int32
  registerListener (listener : Option ListenerRef) (handle : Handle) (name : Option CString)
    (msg : Int32) : StateM σ Int32
  unregisterListener (handle : Handle) : StateM σ Int32
  getHdmiModeInfo (p : HdmiPointers) : StateM σ (Int32 × HdmiArrays)
  setHdmiModeInfo (width height refresh interlace ratio : Int32) : StateM σ Int32
  setHdmiScaleType (type : Int32) : StateM σ Int32
  setHdmiScaleStep (hValue vValue : Int32) : StateM σ Int32
  getHdmiDeviceChange : StateM σ Int32
  getVideoInfo (p : VideoInts (Option Int32)) : StateM σ (Int32 × VideoInts Int32)
  getDisplayCapability : StateM σ Int32

/-- A call of a method. -/
inductive MdsCall where
  | getMode (wait : Bool)
  | setModePolicy (policy : Int32)
  | prepareForVideo (status : Int32)
  | getVideoState
  | updateVideoInfo (info : MdsVideoSourceInfo)
  | notifyWidi (on : Bool)
  | notifyMipi (on : Bool)
  | notifyHotPlug
  | setHdmiPowerOff
  | registerListener (listener : Option ListenerRef) (handle : Handle) (name : Option CString)
      (msg : Int32)
  | unregisterListener (handle : Handle)
  | getHdmiModeInfo (p : HdmiPointers)
  | setHdmiModeInfo (width height refresh interlace ratio : Int32)
  | setHdmiScaleType (type : Int32)
  | setHdmiScaleStep (hValue vValue : Int32)
  | getHdmiDeviceChange
  | getVideoInfo (p : VideoInts (Option Int32))
  | getDisplayCapability

/-- The value a method returns, and the ints it gives through its pointers: as many entries of the
arrays as it has counted. -/
structure Outcome where
  value : Int32
  outputs : List Int32
  deriving DecidableEq, Repr

namespace IMultiDisplayComposer

variable {σ : Type}

/-- A method without output pointers. -/
def returned (method : StateM σ Int32) : StateM σ Outcome := do
  let value ← method
  return ⟨value, []⟩

def invoke (impl : IMultiDisplayComposer σ) : MdsCall → StateM σ Outcome
  | .getMode wait => returned (impl.getMode wait)
  | .setModePolicy policy => returned (impl.setModePolicy policy)
  | .prepareForVideo status => returned (impl.prepareForVideo status)
  | .getVideoState => returned impl.getVideoState
  | .updateVideoInfo info => returned (impl.updateVideoInfo info)
  | .notifyWidi on => returned (impl.notifyWidi on)
  | .notifyMipi on => returned (impl.notifyMipi on)
  | .notifyHotPlug => returned impl.notifyHotPlug
  | .setHdmiPowerOff => returned impl.setHdmiPowerOff
  | .registerListener listener handle name msg =>
      returned (impl.registerListener listener handle name msg)
  | .unregisterListener handle => returned (impl.unregisterListener handle)
  | .getHdmiModeInfo p => do
      let (count, arrays) ← impl.getHdmiModeInfo p
      return ⟨count, if p.complete then arrays.entries count.toInt.toNat else []⟩
  | .setHdmiModeInfo width height refresh interlace ratio =>
      returned (impl.setHdmiModeInfo width height refresh interlace ratio)
  | .setHdmiScaleType type => returned (impl.setHdmiScaleType type)
  | .setHdmiScaleStep hValue vValue => returned (impl.setHdmiScaleStep hValue vValue)
  | .getHdmiDeviceChange => returned impl.getHdmiDeviceChange
  | .getVideoInfo p => do
      let (ret, ints) ← impl.getVideoInfo p
      return ⟨ret, if p.complete then ints.values else []⟩
  | .getDisplayCapability => returned impl.getDisplayCapability

theorem invoke_getHdmiModeInfo (impl : IMultiDisplayComposer σ) (p : HdmiPointers) (s : σ) :
    impl.invoke (.getHdmiModeInfo p) s =
      let result := impl.getHdmiModeInfo p s
      (⟨result.1.1, if p.complete then result.1.2.entries result.1.1.toInt.toNat else []⟩,
        result.2) := rfl

theorem invoke_getVideoInfo (impl : IMultiDisplayComposer σ) (p : VideoInts (Option Int32))
    (s : σ) :
    impl.invoke (.getVideoInfo p) s =
      let result := impl.getVideoInfo p s
      (⟨result.1.1, if p.complete then result.1.2.values else []⟩, result.2) := rfl

/-! ### The calls that are made -/

/-- The method, and a line in the log. -/
def logged {α : Type} (call : MdsCall) (method : StateM σ α) : StateM (σ × List MdsCall) α :=
  fun x => ((method x.1).1, ((method x.1).2, x.2 ++ [call]))

def recorded (impl : IMultiDisplayComposer σ) : IMultiDisplayComposer (σ × List MdsCall) where
  getMode wait := logged (.getMode wait) (impl.getMode wait)
  setModePolicy policy := logged (.setModePolicy policy) (impl.setModePolicy policy)
  prepareForVideo status := logged (.prepareForVideo status) (impl.prepareForVideo status)
  getVideoState := logged .getVideoState impl.getVideoState
  updateVideoInfo info := logged (.updateVideoInfo info) (impl.updateVideoInfo info)
  notifyWidi on := logged (.notifyWidi on) (impl.notifyWidi on)
  notifyMipi on := logged (.notifyMipi on) (impl.notifyMipi on)
  notifyHotPlug := logged .notifyHotPlug impl.notifyHotPlug
  setHdmiPowerOff := logged .setHdmiPowerOff impl.setHdmiPowerOff
  registerListener listener handle name msg :=
    logged (.registerListener listener handle name msg)
      (impl.registerListener listener handle name msg)
  unregisterListener handle := logged (.unregisterListener handle) (impl.unregisterListener handle)
  getHdmiModeInfo p := logged (.getHdmiModeInfo p) (impl.getHdmiModeInfo p)
  setHdmiModeInfo width height refresh interlace ratio :=
    logged (.setHdmiModeInfo width height refresh interlace ratio)
      (impl.setHdmiModeInfo width height refresh interlace ratio)
  setHdmiScaleType type := logged (.setHdmiScaleType type) (impl.setHdmiScaleType type)
  setHdmiScaleStep hValue vValue :=
    logged (.setHdmiScaleStep hValue vValue) (impl.setHdmiScaleStep hValue vValue)
  getHdmiDeviceChange := logged .getHdmiDeviceChange impl.getHdmiDeviceChange
  getVideoInfo p := logged (.getVideoInfo p) (impl.getVideoInfo p)
  getDisplayCapability := logged .getDisplayCapability impl.getDisplayCapability

/-- **A call adds its line to the log**, and does what it does. -/
theorem invoke_recorded (impl : IMultiDisplayComposer σ) (call : MdsCall) :
    impl.recorded.invoke call = logged call (impl.invoke call) := by
  cases call <;> rfl

/-- A count of modes is an error, or the modes fit into the arrays. -/
def CountsModes (impl : IMultiDisplayComposer σ) : Prop :=
  ∀ p s, ((impl.getHdmiModeInfo p).run s).1.1 = Int32.ofInt mdsError ∨
    (0 ≤ ((impl.getHdmiModeInfo p).run s).1.1.toInt ∧
      ((impl.getHdmiModeInfo p).run s).1.1.toInt ≤ hdmiTimingMax)

theorem CountsModes.recorded {impl : IMultiDisplayComposer σ} (h : impl.CountsModes) :
    impl.recorded.CountsModes := fun p x => h p x.1

end IMultiDisplayComposer

/-- The interface as it is implemented. -/
structure Implementation (σ : Type) extends IMultiDisplayComposer σ where
  countsModes : toIMultiDisplayComposer.CountsModes

/-! ### The composer -/

/-- An operation, from C ints to a C int. -/
def performed (b : Build) (r : DrmResults) (operation : Operation) : StateM Composer Int32 :=
  fun s => (Int32.ofInt (perform b r s operation).1, (perform b r s operation).2)

/-- An array after one number of every mode has been recorded in it. -/
def recordField (number : MdsHdmiTiming → Int) (modes : List MdsHdmiTiming) (old : ℕ → Int32)
    (i : ℕ) : Int32 :=
  (modes[i]?).elim (old i) fun timing => Int32.ofInt (number timing)

def HdmiModes.record (a : HdmiArrays) (modes : List MdsHdmiTiming) : HdmiArrays where
  width := recordField MdsHdmiTiming.width modes a.width
  height := recordField MdsHdmiTiming.height modes a.height
  refresh := recordField MdsHdmiTiming.refresh modes a.refresh
  interlace := recordField MdsHdmiTiming.interlace modes a.interlace
  ratio := recordField MdsHdmiTiming.ratio modes a.ratio

/-- Nothing is recorded unless all the arrays are there. -/
def hdmiModeInfo (r : DrmResults) (p : HdmiPointers) : StateM Composer (Int32 × HdmiArrays) :=
  fun s =>
    let result := s.getHdmiModeInfo r
    ((Int32.ofInt result.1, if p.complete then p.contents.record result.2 else p.contents), s)

def videoInts (video : MdsVideoSourceInfo) : VideoInts Int32 where
  dw := video.displayW
  dh := video.displayH
  fps := video.frameRate
  interlace := if video.isInterlaced then 1 else 0

def videoInfo (p : VideoInts (Option Int32)) : StateM Composer (Int32 × VideoInts Int32) :=
  fun s => ((Int32.ofInt s.getVideoInfo.1, s.getVideoInfo.2.elim p.contents videoInts), s)

/-- The methods of the composer, while the calls it makes outside return `r`. -/
def multiDisplayComposer (b : Build) (r : DrmResults) : Implementation Composer where
  getMode _ := performed b r .getMode
  setModePolicy policy := performed b r (.setModePolicy policy.toInt)
  prepareForVideo status := performed b r (.prepareForVideo status.toInt)
  getVideoState := performed b r .getVideoState
  updateVideoInfo info := performed b r (.updateVideoInfo info)
  notifyWidi on := performed b r (.notifyWidi on)
  notifyMipi on := performed b r (.notifyMipi on)
  notifyHotPlug := performed b r .notifyHotPlug
  setHdmiPowerOff := performed b r .setHdmiPowerOff
  registerListener listener handle name msg :=
    performed b r (.registerListener listener handle (name.map Subtype.val) msg.toBitVec)
  unregisterListener handle := performed b r (.unregisterListener handle)
  getHdmiModeInfo p := hdmiModeInfo r p
  setHdmiModeInfo width height refresh interlace ratio :=
    performed b r (.setHdmiModeInfo
      ⟨refresh.toInt, width.toInt, height.toInt, interlace.toInt, ratio.toInt⟩)
  setHdmiScaleType type := performed b r (.setHdmiScaleType type.toInt)
  setHdmiScaleStep hValue vValue := performed b r (.setHdmiScaleStep hValue.toInt vValue.toInt)
  getHdmiDeviceChange := performed b r .getHdmiDeviceChange
  getVideoInfo p := videoInfo p
  getDisplayCapability := performed b r .getDisplayCapability
  countsModes p s := by
    show Int32.ofInt (s.getHdmiModeInfo r).1 = _ ∨ _
    have hlength := drmHdmiGetModeInfo_length r.connector
    unfold hdmiTimingMax at hlength
    by_cases hinit : s.mDrmInit = false
    · left
      unfold Composer.getHdmiModeInfo
      rw [if_pos hinit]
    · right
      show 0 ≤ (Int32.ofInt (s.getHdmiModeInfo r).1).toInt ∧
        (Int32.ofInt (s.getHdmiModeInfo r).1).toInt ≤ 128
      unfold Composer.getHdmiModeInfo
      rw [if_neg hinit, Int32.toInt_ofInt_of_le (by omega) (by omega)]
      omega

/-- The operation a call is. -/
def MdsCall.operation : MdsCall → Operation
  | .getMode _ => .getMode
  | .setModePolicy policy => .setModePolicy policy.toInt
  | .prepareForVideo status => .prepareForVideo status.toInt
  | .getVideoState => .getVideoState
  | .updateVideoInfo info => .updateVideoInfo info
  | .notifyWidi on => .notifyWidi on
  | .notifyMipi on => .notifyMipi on
  | .notifyHotPlug => .notifyHotPlug
  | .setHdmiPowerOff => .setHdmiPowerOff
  | .registerListener listener handle name msg =>
      .registerListener listener handle (name.map Subtype.val) msg.toBitVec
  | .unregisterListener handle => .unregisterListener handle
  | .getHdmiModeInfo _ => .getHdmiModeInfo
  | .setHdmiModeInfo width height refresh interlace ratio =>
      .setHdmiModeInfo ⟨refresh.toInt, width.toInt, height.toInt, interlace.toInt, ratio.toInt⟩
  | .setHdmiScaleType type => .setHdmiScaleType type.toInt
  | .setHdmiScaleStep hValue vValue => .setHdmiScaleStep hValue.toInt vValue.toInt
  | .getHdmiDeviceChange => .getHdmiDeviceChange
  | .getVideoInfo _ => .getVideoInfo
  | .getDisplayCapability => .getDisplayCapability

/-- **A call performs its operation.** -/
theorem invoke_multiDisplayComposer (b : Build) (r : DrmResults) (call : MdsCall) (s : Composer) :
    ((multiDisplayComposer b r).invoke call s).1.value
        = Int32.ofInt (perform b r s call.operation).1 ∧
      ((multiDisplayComposer b r).invoke call s).2 = (perform b r s call.operation).2 := by
  cases call <;> exact ⟨rfl, rfl⟩

/-! ### A struct in memory -/

/-- The members of `MDSVideoSourceInfo`, and the gaps between them. -/
inductive VideoMember where
  | isPlaying
  | isProtected
  | gap
  | frameRate
  | displayW
  | displayH
  | isInterlaced
  | tail
  deriving DecidableEq, Repr

/-- An int is aligned to four bytes. -/
def videoLayout : StructLayout VideoMember where
  fields := [.isPlaying, .isProtected, .gap, .frameRate, .displayW, .displayH, .isInterlaced, .tail]
  width
    | .isPlaying | .isProtected | .isInterlaced => 1
    | .frameRate | .displayW | .displayH => 4
    | .gap => 2
    | .tail => 3
  nodup := by decide
  mem_fields f := by cases f <;> decide

example : videoLayout.sizeof = 20 := by decide

namespace MdsVideoSourceInfo

def boolBytes (on : Bool) : List UInt8 := [if on then 1 else 0]

def boolOf (bs : List UInt8) : Bool := bs.headD 0 ≠ 0

/-- The struct after its members have been assigned; the gaps keep what they held. -/
def inMemory (info : MdsVideoSourceInfo) (old : videoLayout.Memory) : videoLayout.Memory where
  field
    | .isPlaying => boolBytes info.isPlaying
    | .isProtected => boolBytes info.isProtected
    | .gap => old.field .gap
    | .frameRate => Parcel.wordBytes info.frameRate.toInt
    | .displayW => Parcel.wordBytes info.displayW.toInt
    | .displayH => Parcel.wordBytes info.displayH.toInt
    | .isInterlaced => boolBytes info.isInterlaced
    | .tail => old.field .tail
  length_field f := by
    cases f with
    | gap => exact old.length_field .gap
    | tail => exact old.length_field .tail
    | _ => rfl

/-- What the members say. -/
def ofMemory (m : videoLayout.Memory) : MdsVideoSourceInfo where
  isPlaying := boolOf (m.field .isPlaying)
  isProtected := boolOf (m.field .isProtected)
  frameRate := Int32.ofInt (Parcel.wordOf (m.field .frameRate))
  displayW := Int32.ofInt (Parcel.wordOf (m.field .displayW))
  displayH := Int32.ofInt (Parcel.wordOf (m.field .displayH))
  isInterlaced := boolOf (m.field .isInterlaced)

theorem boolOf_boolBytes (on : Bool) : boolOf (boolBytes on) = on := by
  cases on <;> rfl

theorem ofInt_wordOf_wordBytes (v : Int32) :
    Int32.ofInt (Parcel.wordOf (Parcel.wordBytes v.toInt)) = v := by
  rw [Parcel.wordOf_wordBytes ⟨v.le_toInt, Int.le_of_lt_add_one v.toInt_lt⟩, Int32.ofInt_toInt]

/-- **A struct says what was assigned**, whatever its gaps hold. -/
theorem ofMemory_inMemory (info : MdsVideoSourceInfo) (old : videoLayout.Memory) :
    ofMemory (info.inMemory old) = info := by
  simp only [ofMemory, inMemory, boolOf_boolBytes, ofInt_wordOf_wordBytes]

end MdsVideoSourceInfo

end CtpCommon.Display
