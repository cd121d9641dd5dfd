import CtpCommon.Display.System
import CtpCommon.Display.Transact

/-!
# A call through the binder

The stub reads what the proxy has written, method by method, and the proxy reads what the stub has
written.  So a call of the proxy is a call of the implementation; only its pointers are to memory of
the service.

* `MdsCall.Sent`, `MdsCall.received` — the calls the proxy sends, and the call that arrives;
* `request_of_answer` — **PROVED**: a method with one result is called with what the stub has read;
* `request_token`, `request_int32` — **PROVED**: methods without an argument, and with one word;
* `written_five`, `readInt32_five` — **PROVED**: five words in a row;
* `writeModes_written`, `readModes_ahead` — **PROVED**: one loop reads what the other writes;
* `getHdmiModeInfo_eq` — **PROVED**: the arrays of the caller get the entries that were counted, and
  keep the others;
* `invoke_eq` — **PROVED**: the proxy does what the implementation does;
* `transparent_of_sent` — **PROVED**: one call arrives, with the arguments that were given, and its
  outcome comes back;
* `called_performs` — **PROVED**: the composer steps as if the client had called it.
-/

namespace CtpCommon.Display

open BinderParcel

/-- The proxy answers the other calls itself. -/
def MdsCall.Sent : MdsCall → Prop
  | .registerListener _ _ name msg => name ≠ none ∧ 0 < msg
  | .getVideoInfo p => p.complete = true
  | _ => True

/-- The call that arrives: pointers are to memory of the service, which is zero. -/
def MdsCall.received : MdsCall → MdsCall
  | .getHdmiModeInfo p =>
      .getHdmiModeInfo (if p.complete then HdmiModes.zero.pointers else HdmiModes.null)
  | .getVideoInfo _ => .getVideoInfo VideoInts.zero.pointers
  | call => call

variable {σ : Type} (c : Caller) (server : Server) (impl : IMultiDisplayComposer σ)

/-! ### One result -/

def Caller.items (c : Caller) : List MdsItem :=
  [.int32 c.policy, .string16 mdsDescriptor]

theorem token_written : c.token.Written c.items :=
  written_put (written_put written_empty _) _

/-- The stub finds the arguments after the token. -/
theorem onTransact_written {data : MdsParcel} {args : List MdsItem}
    (h : data.Written (c.items ++ args)) (t : MdsTransaction) :
    ∃ data' : MdsParcel, data'.Ahead args ∧
      onTransact server impl t.code (data.setDataPosition 0) .empty
        = handle server impl data' .empty t := by
  obtain ⟨data', htoken, hargs⟩ := enforceInterface_ahead (ahead_of_written h)
  refine ⟨data', hargs, ?_⟩
  unfold onTransact
  simp only [MdsTransaction.ofCode_code, htoken, if_true]

theorem reply_readInt32 (ret : Int32) :
    (((empty : MdsParcel).writeInt32 ret).setDataPosition 0).readInt32.1 = ret := by
  have hwritten := written_put (written_empty (R := ListenerRef)) (.int32 ret)
  obtain ⟨q, hword, -⟩ := readInt32_ahead (ahead_of_written hwritten)
  exact congrArg Prod.fst hword

/-- **A method with one result** is called with what the stub has read. -/
theorem request_of_answer {data : MdsParcel} {args : List MdsItem}
    (h : data.Written (c.items ++ args)) {t : MdsTransaction} {method : StateM σ Int32}
    (hmethod : ∀ data' : MdsParcel, data'.Ahead args →
      handle server impl data' .empty t = answer .empty method) :
    request (remote server impl) t data = method := by
  obtain ⟨data', hargs, hstub⟩ := onTransact_written c server impl h t
  unfold request remote
  simp only [hstub, hmethod data' hargs, answer, bind_assoc, pure_bind, if_true, reply_readInt32,
    bind_pure]

/-- **A method without arguments.** -/
theorem request_token {t : MdsTransaction} {method : StateM σ Int32}
    (hmethod : ∀ data : MdsParcel, handle server impl data .empty t = answer .empty method) :
    request (remote server impl) t c.token = method :=
  request_of_answer c server impl (token_written c) fun data _ => hmethod data

/-- **A method of one word.** -/
theorem request_int32 {t : MdsTransaction} (method : Int32 → StateM σ Int32) (v : Int32)
    (hmethod : ∀ data : MdsParcel,
      handle server impl data .empty t = answer .empty (method data.readInt32.1)) :
    request (remote server impl) t (c.token.writeInt32 v) = method v := by
  have hwritten := written_put (token_written c) (.int32 v)
  refine request_of_answer c server impl hwritten fun data hargs => ?_
  obtain ⟨q, hword, -⟩ := readInt32_ahead hargs
  rw [hmethod data, hword]

theorem boolWord_eq_one (on : Bool) : decide (boolWord on = 1) = on := by
  cases on <;> decide

theorem request_bool {t : MdsTransaction} (method : Bool → StateM σ Int32) (on : Bool)
    (hmethod : ∀ data : MdsParcel,
      handle server impl data .empty t = answer .empty (method (data.readInt32.1 = 1))) :
    request (remote server impl) t (c.token.writeInt32 (boolWord on)) = method on := by
  have hword := request_int32 c server impl (fun v => method (v = 1)) (boolWord on) hmethod
  rw [hword, boolWord_eq_one]

/-! ### Five words -/

theorem written_five {p : MdsParcel} {items : List MdsItem} (h : p.Written items)
    (v w x y z : Int32) :
    (((((p.writeInt32 v).writeInt32 w).writeInt32 x).writeInt32 y).writeInt32 z).Written
      (items ++ [.int32 v, .int32 w, .int32 x, .int32 y, .int32 z]) := by
  have hfive := written_put (written_put (written_put (written_put (written_put h
    (.int32 v)) (.int32 w)) (.int32 x)) (.int32 y)) (.int32 z)
  simp only [List.append_assoc, List.singleton_append] at hfive
  exact hfive

theorem readInt32_five {p : MdsParcel} {v w x y z : Int32} {items : List MdsItem}
    (h : p.Ahead (.int32 v :: .int32 w :: .int32 x :: .int32 y :: .int32 z :: items)) :
    ∃ q1 q2 q3 q4 q5 : MdsParcel, p.readInt32 = (v, q1) ∧ q1.readInt32 = (w, q2) ∧
      q2.readInt32 = (x, q3) ∧ q3.readInt32 = (y, q4) ∧ q4.readInt32 = (z, q5) ∧
      q5.Ahead items := by
  obtain ⟨q1, hv, hrest⟩ := readInt32_ahead h
  obtain ⟨q2, hw, hrest⟩ := readInt32_ahead hrest
  obtain ⟨q3, hx, hrest⟩ := readInt32_ahead hrest
  obtain ⟨q4, hy, hrest⟩ := readInt32_ahead hrest
  obtain ⟨q5, hz, hrest⟩ := readInt32_ahead hrest
  exact ⟨q1, q2, q3, q4, q5, hv, hw, hx, hy, hz, hrest⟩

/-! ### Other arguments -/

/-- The stub has the struct that was passed to the proxy. -/
theorem readVideoInfo_ahead {data : MdsParcel} {info : MdsVideoSourceInfo}
    {old : videoLayout.Memory} (h : data.Ahead [.bytes (info.inMemory old).bytes]) :
    readVideoInfo server data = info := by
  obtain ⟨q, hread, -⟩ := read_ahead h
  rw [(info.inMemory old).length_bytes] at hread
  have hle : videoLayout.sizeof ≤ (info.inMemory old).bytes.length :=
    (info.inMemory old).length_bytes.ge
  have hload : videoLayout.load (info.inMemory old).bytes hle = info.inMemory old := by
    have happend := StructLayout.load_bytes (info.inMemory old) [] (by simpa using hle)
    simpa only [List.append_nil] using happend
  unfold readVideoInfo
  simp only [hread, dif_pos hle, hload, MdsVideoSourceInfo.ofMemory_inMemory]

theorem updateVideoInfo_eq (info : MdsVideoSourceInfo) :
    (BpMultiDisplayComposer c (remote server impl)).updateVideoInfo info
      = impl.updateVideoInfo info := by
  have hwritten := written_put (token_written c) (.bytes (info.inMemory c.old).bytes)
  refine request_of_answer c server impl hwritten fun data hargs => ?_
  show answer .empty (impl.updateVideoInfo (readVideoInfo server data)) = _
  rw [readVideoInfo_ahead server hargs]

theorem wordHandle_handleWord (handle : Handle) : wordHandle (handleWord handle) = handle := rfl

theorem registerListener_eq (listener : Option ListenerRef) (handle : Handle) (name : CString)
    {msg : Int32} (hmsg : 0 < msg) :
    (BpMultiDisplayComposer c (remote server impl)).registerListener listener handle (some name) msg
      = impl.registerListener listener handle (some name) msg := by
  have hwritten := written_put (written_put (written_put (written_put (token_written c)
    (.strongBinder listener)) (.int32 (handleWord handle))) (.cString name)) (.int32 msg)
  have hsent : ¬ msg ≤ 0 := Int32.not_le.mpr hmsg
  show (if msg ≤ 0 then _ else request _ _ _) = _
  rw [if_neg hsent]
  refine request_of_answer c server impl hwritten fun data hargs => ?_
  obtain ⟨q1, hlistener, hargs⟩ := readStrongBinder_ahead hargs
  obtain ⟨q2, hhandle, hargs⟩ := readInt32_ahead hargs
  obtain ⟨q3, hname, hargs⟩ := readCString_ahead hargs
  obtain ⟨q4, hmsg, -⟩ := readInt32_ahead hargs
  simp only [Display.handle, hlistener, hhandle, hname, hmsg, wordHandle_handleWord]

theorem setHdmiModeInfo_eq (width height refresh interlace ratio : Int32) :
    (BpMultiDisplayComposer c (remote server impl)).setHdmiModeInfo width height refresh interlace
      ratio = impl.setHdmiModeInfo width height refresh interlace ratio := by
  have hwritten := written_five (token_written c) width height refresh interlace ratio
  refine request_of_answer c server impl hwritten fun data hargs => ?_
  obtain ⟨q1, q2, q3, q4, q5, hwidth, hheight, hrefresh, hinterlace, hratio, -⟩ :=
    readInt32_five hargs
  simp only [handle, hwidth, hheight, hrefresh, hinterlace, hratio]

theorem setHdmiScaleStep_eq (hValue vValue : Int32) :
    (BpMultiDisplayComposer c (remote server impl)).setHdmiScaleStep hValue vValue
      = impl.setHdmiScaleStep hValue vValue := by
  have hwritten := written_put (written_put (token_written c) (.int32 hValue)) (.int32 vValue)
  refine request_of_answer c server impl hwritten fun data hargs => ?_
  obtain ⟨q1, hfirst, hargs⟩ := readInt32_ahead hargs
  obtain ⟨q2, hsecond, -⟩ := readInt32_ahead hargs
  simp only [handle, hfirst, hsecond]

/-! ### Results in memory -/

/-- **A method with a result in memory**, as far as the proxy reads what the stub writes. -/
theorem read_remote {t : MdsTransaction} {α β : Type} {method : StateM σ α}
    {encode : α → MdsParcel} {decode : MdsParcel → β} {s : σ} {result : β}
    (hmethod : ∀ data : MdsParcel,
      handle server impl data .empty t = do
        let result ← method
        return (noError, encode result))
    (hread : decode ((encode (method s).1).setDataPosition 0) = result) :
    (do
      let reply ← remote server impl t.code c.token
      return decode reply : StateM σ β) s = (result, (method s).2) := by
  obtain ⟨data, -, hstub⟩ := onTransact_written c server impl (token_written c) t
  unfold remote
  simp only [hstub, hmethod data, bind_assoc, pure_bind, if_true]
  exact congrArg (fun result => (result, (method s).2)) hread

theorem readVideoInts_written (result : Int32 × VideoInts Int32) :
    readVideoInts ((writeVideoInts .empty result).setDataPosition 0) = result := by
  have hwritten : (writeVideoInts .empty result).Written _ :=
    written_five written_empty result.2.dw result.2.dh result.2.fps result.2.interlace result.1
  obtain ⟨q1, q2, q3, q4, q5, hdw, hdh, hfps, hinterlace, hret, -⟩ :=
    readInt32_five (ahead_of_written hwritten)
  simp only [readVideoInts, hdw, hdh, hfps, hinterlace, hret]

theorem getVideoInfo_eq {p : VideoInts (Option Int32)} (hp : p.complete = true) :
    (BpMultiDisplayComposer c (remote server impl)).getVideoInfo p
      = impl.getVideoInfo VideoInts.zero.pointers := by
  show bpGetVideoInfo c (remote server impl) p = _
  unfold bpGetVideoInfo
  rw [if_neg (by simp [hp])]
  funext s
  exact read_remote c server impl (fun _ => rfl) (readVideoInts_written _)

/-! ### The arrays -/

namespace HdmiModes

/-- An array whose first entries come from another one. -/
def spliceField (new old : ℕ → Int32) (n j : ℕ) : Int32 := if j < n then new j else old j

/-- The first entries come from the service. -/
def splice (a old : HdmiArrays) (n : ℕ) : HdmiArrays where
  width := spliceField a.width old.width n
  height := spliceField a.height old.height n
  refresh := spliceField a.refresh old.refresh n
  interlace := spliceField a.interlace old.interlace n
  ratio := spliceField a.ratio old.ratio n

theorem spliceField_zero (new old : ℕ → Int32) : spliceField new old 0 = old := by
  funext j
  exact if_neg (Nat.not_lt_zero j)

theorem splice_zero (a old : HdmiArrays) : a.splice old 0 = old := by
  simp only [splice, spliceField_zero]

theorem update_spliceField (new old : ℕ → Int32) (n : ℕ) :
    Function.update (spliceField new old n) n (new n) = spliceField new old (n + 1) := by
  funext j
  unfold spliceField Function.update
  rcases Nat.lt_trichotomy j n with hlt | rfl | hgt
  · simp [hlt.ne, hlt, Nat.lt_succ_of_lt hlt]
  · simp
  · simp [hgt.ne', Nat.not_lt_of_gt hgt, Nat.not_lt_of_ge (Nat.succ_le_of_lt hgt)]

/-- One more entry. -/
theorem splice_assign (a old : HdmiArrays) (n : ℕ) :
    (a.splice old n).assign n (a.width n) (a.height n) (a.refresh n) (a.interlace n) (a.ratio n)
      = a.splice old (n + 1) := by
  simp only [splice, assign, update_spliceField]

theorem entries_splice (a old : HdmiArrays) (n : ℕ) : (a.splice old n).entries n = a.entries n := by
  unfold entries
  refine List.flatMap_congr fun i hi => ?_
  have hlt : i < n := List.mem_range.mp hi
  simp only [entry, splice, spliceField, if_pos hlt]

/-- The words of the entries from entry `i` on. -/
def items (a : HdmiArrays) : ℕ → ℕ → List MdsItem
  | 0, _ => []
  | left + 1, i =>
      .int32 (a.width i) :: .int32 (a.height i) :: .int32 (a.refresh i) :: .int32 (a.interlace i) ::
        .int32 (a.ratio i) :: items a left (i + 1)

end HdmiModes

/-- **The loop of the stub** writes the entries. -/
theorem writeModes_written (a : HdmiArrays) (left i : ℕ) {reply : MdsParcel}
    {before : List MdsItem} (h : reply.Written before) :
    (writeModes a left i reply).Written (before ++ a.items left i) := by
  induction left generalizing i reply before with
  | zero => simpa [writeModes, HdmiModes.items] using h
  | succ left ih =>
    have hentry := written_five h (a.width i) (a.height i) (a.refresh i) (a.interlace i) (a.ratio i)
    have hrest := ih (i + 1) hentry
    rw [List.append_assoc] at hrest
    exact hrest

/-- **The loop of the proxy** reads them. -/
theorem readModes_ahead (a old : HdmiArrays) (left i : ℕ) {reply : MdsParcel}
    (h : reply.Ahead (a.items left i)) :
    readModes left i (a.splice old i) reply = a.splice old (i + left) := by
  induction left generalizing i reply with
  | zero => rfl
  | succ left ih =>
    obtain ⟨q1, q2, q3, q4, q5, hwidth, hheight, hrefresh, hinterlace, hratio, hrest⟩ :=
      readInt32_five h
    unfold readModes
    simp only [hwidth, hheight, hrefresh, hinterlace, hratio, HdmiModes.splice_assign]
    rw [ih (i + 1) hrest, Nat.add_right_comm, Nat.add_assoc]

/-- A count that fits is not changed. -/
theorem clampCount_eq {count : Int32} (h : count = mdsErrorWord ∨
    (0 ≤ count.toInt ∧ count.toInt ≤ hdmiTimingMax)) : clampCount count = count := by
  unfold clampCount
  rcases h with rfl | ⟨hnonneg, hle⟩
  · decide
  · rw [if_neg (by omega)]

theorem readHdmiModes_written (old : HdmiArrays) {result : Int32 × HdmiArrays}
    (h : clampCount result.1 = result.1) :
    readHdmiModes old ((writeHdmiModes .empty result).setDataPosition 0)
      = (result.1, result.2.splice old result.1.toInt.toNat) := by
  have hwritten := writeModes_written result.2 result.1.toInt.toNat 0
    (written_put (written_empty (R := ListenerRef)) (.int32 result.1))
  obtain ⟨q, hcount, hrest⟩ := readInt32_ahead (ahead_of_written hwritten)
  have hread := readModes_ahead result.2 old result.1.toInt.toNat 0 hrest
  rw [HdmiModes.splice_zero, Nat.zero_add] at hread
  unfold readHdmiModes writeHdmiModes
  rw [h]
  simp only [BinderParcel.writeInt32, hcount, hread]

variable {impl} in
/-- **The arrays of the caller** get the entries that were counted, and keep the others. -/
theorem getHdmiModeInfo_eq (hcounts : impl.CountsModes) {p : HdmiPointers}
    (hp : p.complete = true) (s : σ) :
    (BpMultiDisplayComposer c (remote server impl)).getHdmiModeInfo p s =
      let result := impl.getHdmiModeInfo HdmiModes.zero.pointers s
      ((result.1.1, result.1.2.splice p.contents result.1.1.toInt.toNat), result.2) := by
  show bpGetHdmiModeInfo c (remote server impl) p s = _
  unfold bpGetHdmiModeInfo
  rw [if_neg (by simp [hp])]
  have hcount := clampCount_eq (hcounts HdmiModes.zero.pointers s)
  exact read_remote c server impl (fun _ => rfl) (readHdmiModes_written p.contents hcount)

/-- Without arrays the count is given. -/
theorem getHdmiModeInfo_null {p : HdmiPointers} (hp : p.complete = false) (s : σ) :
    (BpMultiDisplayComposer c (remote server impl)).getHdmiModeInfo p s =
      let result := impl.getHdmiModeInfo HdmiModes.null s
      ((result.1.1, p.contents), result.2) := by
  show bpGetHdmiModeInfo c (remote server impl) p s = _
  unfold bpGetHdmiModeInfo
  rw [if_pos hp, request_token c server impl fun _ => rfl]
  rfl

/-! ### Every call -/

theorem invoke_modes_eq {impl : IMultiDisplayComposer σ} (hcounts : impl.CountsModes)
    (p : HdmiPointers) (s : σ) :
    (BpMultiDisplayComposer c (remote server impl)).invoke (.getHdmiModeInfo p) s
      = impl.invoke (MdsCall.getHdmiModeInfo p).received s := by
  unfold MdsCall.received
  rw [IMultiDisplayComposer.invoke_getHdmiModeInfo, IMultiDisplayComposer.invoke_getHdmiModeInfo]
  by_cases hp : p.complete = true
  · rw [getHdmiModeInfo_eq c server hcounts hp s, if_pos hp]
    simp only [hp, if_true, HdmiModes.entries_splice]
    rfl
  · rw [getHdmiModeInfo_null c server impl (by simpa using hp) s, if_neg hp]
    simp only [if_neg hp]
    rfl

/-- **The proxy does what the implementation does**, for every call that is sent. -/
theorem invoke_eq {impl : IMultiDisplayComposer σ} (hcounts : impl.CountsModes) {call : MdsCall}
    (hsent : call.Sent) :
    (BpMultiDisplayComposer c (remote server impl)).invoke call = impl.invoke call.received := by
  cases call with
  | getMode wait =>
    exact congrArg IMultiDisplayComposer.returned
      (request_bool c server impl impl.getMode wait fun _ => rfl)
  | setModePolicy policy =>
    exact congrArg IMultiDisplayComposer.returned
      (request_int32 c server impl impl.setModePolicy policy fun _ => rfl)
  | prepareForVideo status =>
    exact congrArg IMultiDisplayComposer.returned
      (request_int32 c server impl impl.prepareForVideo status fun _ => rfl)
  | getVideoState =>
    exact congrArg IMultiDisplayComposer.returned (request_token c server impl fun _ => rfl)
  | updateVideoInfo info =>
    exact congrArg IMultiDisplayComposer.returned (updateVideoInfo_eq c server impl info)
  | notifyWidi on =>
    exact congrArg IMultiDisplayComposer.returned
      (request_bool c server impl impl.notifyWidi on fun _ => rfl)
  | notifyMipi on =>
    exact congrArg IMultiDisplayComposer.returned
      (request_bool c server impl impl.notifyMipi on fun _ => rfl)
  | notifyHotPlug =>
    exact congrArg IMultiDisplayComposer.returned (request_token c server impl fun _ => rfl)
  | setHdmiPowerOff =>
    exact congrArg IMultiDisplayComposer.returned (request_token c server impl fun _ => rfl)
  | registerListener listener handle name msg =>
    obtain ⟨hname, hmsg⟩ := hsent
    cases name with
    | none => exact absurd rfl hname
    | some name =>
      exact congrArg IMultiDisplayComposer.returned
        (registerListener_eq c server impl listener handle name hmsg)
  | unregisterListener handle =>
    exact congrArg IMultiDisplayComposer.returned
      (request_int32 c server impl (fun word => impl.unregisterListener (wordHandle word))
        (handleWord handle) fun _ => rfl)
  | getHdmiModeInfo p => exact funext (invoke_modes_eq c server hcounts p)
  | setHdmiModeInfo width height refresh interlace ratio =>
    exact congrArg IMultiDisplayComposer.returned
      (setHdmiModeInfo_eq c server impl width height refresh interlace ratio)
  | setHdmiScaleType type =>
    exact congrArg IMultiDisplayComposer.returned
      (request_int32 c server impl impl.setHdmiScaleType type fun _ => rfl)
  | setHdmiScaleStep hValue vValue =>
    exact congrArg IMultiDisplayComposer.returned
      (setHdmiScaleStep_eq c server impl hValue vValue)
  | getHdmiDeviceChange =>
    exact congrArg IMultiDisplayComposer.returned (request_token c server impl fun _ => rfl)
  | getVideoInfo p =>
    have hp : p.complete = true := hsent
    funext s
    unfold MdsCall.received
    rw [IMultiDisplayComposer.invoke_getVideoInfo, IMultiDisplayComposer.invoke_getVideoInfo,
      getVideoInfo_eq c server impl hp, hp]
    rfl
  | getDisplayCapability =>
    exact congrArg IMultiDisplayComposer.returned (request_token c server impl fun _ => rfl)

/-- **A call through the binder is one call of the implementation**, with the arguments that were
given, and its outcome is what the implementation gives. -/
theorem transparent_of_sent (impl : Implementation σ) {call : MdsCall} (hsent : call.Sent) (s : σ)
    (log : List MdsCall) :
    (BpMultiDisplayComposer c (remote server impl.recorded)).invoke call (s, log) =
      let result := impl.invoke call.received s
      (result.1, (result.2, log ++ [call.received])) := by
  rw [invoke_eq c server impl.countsModes.recorded hsent, IMultiDisplayComposer.invoke_recorded]
  rfl

/-- A client that registers the listener of `HWComposer`. -/
theorem transparent_of_sent_register :
    let old : videoLayout.Memory :=
      ⟨fun f => List.replicate (videoLayout.width f) 0, fun _ => List.length_replicate⟩
    let impl := multiDisplayComposer ⟨true, true⟩ (.simple drmHdmiDisconnected true)
    let call : MdsCall := .registerListener (some 7) 16 (some ⟨hwComposer, by decide⟩) 3
    let service := Composer.construct ⟨true, true⟩ (.simple drmHdmiDisconnected)
    let result := (BpMultiDisplayComposer ⟨256, old⟩
      (remote ⟨noVideo, fun _ _ reply => (-1, reply)⟩ impl.recorded)).invoke call (service, [])
    result.1 = ⟨0, []⟩ ∧ result.2.1.mListener.entries.map Prod.fst = [16] ∧
      result.2.2.length = 1 := by
  intro old impl call service result
  have hsent : call.Sent := ⟨by decide, by decide⟩
  have hresult := transparent_of_sent ⟨256, old⟩ ⟨noVideo, fun _ _ reply => (-1, reply)⟩ impl hsent
    service []
  have heq : result = _ := hresult
  rw [heq]
  exact ⟨by decide, by decide, rfl⟩

/-- **The service steps** as if the client had called the composer itself. -/
theorem called_performs (b : Build) (r : DrmResults) {call : MdsCall} (hsent : call.Sent)
    (s : Composer) :
    let result := (BpMultiDisplayComposer c (remote server
      (multiDisplayComposer b r).toIMultiDisplayComposer)).invoke call s
    result.1.value = Int32.ofInt (perform b r s call.operation).1 ∧
      result.2 = (perform b r s call.operation).2 := by
  have hoperation : call.received.operation = call.operation := by
    cases call <;> rfl
  intro result
  have hresult : result = (multiDisplayComposer b r).invoke call.received s :=
    congrFun (invoke_eq c server (multiDisplayComposer b r).countsModes hsent) s
  rw [hresult, ← hoperation]
  exact invoke_multiDisplayComposer b r call.received s

end CtpCommon.Display
