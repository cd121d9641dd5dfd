import CtpCommon.Ril.Requests

/-!
# An encoding error leaves three words

`RIL_onRequestComplete` handles the error of a response function by a rewind: it writes the error
over the word after the token, and whatever the function wrote before it failed stays behind.  The
message is then well formed only because the functions of `s_commands` test their input before
they write.

* `FailsClean` — a response function writes nothing when it fails, with one lemma for each shape
  the functions have;
* `encode_failsClean` — **PROVED**: so do the functions of all entries of `s_commands`, for vendors
  from version 5 on; the function that fails after its first write belongs to an unsolicited
  message;
* `completion_atomic` — **PROVED**: the message of a completion is the three words and the whole
  payload, or three words with the error.
-/

namespace CtpCommon.Ril

open Parcel (Write)

/-- What a response function has written when it fails: nothing. -/
def FailsClean (x : Option Encoded) : Prop :=
  ∀ y, x = some y → y.ret = 0 ∨ y.writes = [] ∧ y.ret = rilErrnoInvalidResponse

/-! ### The shapes of the functions -/

theorem failsClean_invalidResponse : FailsClean invalidResponse := by
  intro y hy
  obtain rfl := Option.some.inj hy
  exact .inr ⟨rfl, rfl⟩

theorem failsClean_some {x : Encoded} (h : x.ret = 0) : FailsClean (some x) := by
  intro y hy
  obtain rfl := Option.some.inj hy
  exact .inl h

/-- The writes that follow a read through the response. -/
theorem failsClean_map {α : Type} {o : Option α} {f : α → Encoded} (h : ∀ a, (f a).ret = 0) :
    FailsClean (o.map f) := by
  intro y hy
  obtain ⟨a, -, rfl⟩ := Option.map_eq_some_iff.mp hy
  exact .inl (h a)

/-- A test. -/
theorem FailsClean.ite {c : Prop} [Decidable c] {x y : Option Encoded} (hx : FailsClean x)
    (hy : FailsClean y) : FailsClean (if c then x else y) := by
  by_cases hc : c
  · rwa [if_pos hc]
  · rwa [if_neg hc]

/-- A side effect before the encoding. -/
theorem FailsClean.localRequest {x : Option Encoded} (h : FailsClean x) (issue : Bool) :
    FailsClean (x.map fun y => { y with localRequest := issue }) := by
  intro z hz
  obtain ⟨y, hy, rfl⟩ := Option.map_eq_some_iff.mp hz
  exact h y hy

theorem failsClean_arrayResponse (size : ℕ) (head : ℕ → List Write)
    (each : ResponseMemory → ℕ → List Write) (response : Option ResponseMemory) (len : ℕ) :
    FailsClean (arrayResponse size head each response len) :=
  failsClean_invalidResponse.ite (failsClean_invalidResponse.ite (failsClean_map fun _ => rfl))

theorem failsClean_structResponse (size : ℕ) (enc : ResponseMemory → List Write)
    (response : Option ResponseMemory) (len : ℕ) :
    FailsClean (structResponse size enc response len) := by
  cases response with
  | none => exact failsClean_invalidResponse
  | some r => exact failsClean_invalidResponse.ite (failsClean_some rfl)

variable (env : EncodeEnv)

theorem failsClean_responseStrings (response : Option ResponseMemory) (len : ℕ) :
    FailsClean (responseStrings env response len) := by
  refine failsClean_invalidResponse.ite (failsClean_invalidResponse.ite ?_)
  cases response with
  | none => exact failsClean_some rfl
  | some r => exact failsClean_some rfl

theorem failsClean_responseDataCallList (response : Option ResponseMemory) (len : ℕ) :
    FailsClean (responseDataCallList env response len) := by
  have hV6 : FailsClean (responseDataCallListV6 env response len) :=
    failsClean_invalidResponse.ite (failsClean_invalidResponse.ite
      ((failsClean_some rfl).ite (failsClean_map fun _ => rfl)))
  exact (failsClean_arrayResponse _ _ _ _ _).ite (hV6.ite
    ((failsClean_arrayResponse _ _ _ _ _).ite (failsClean_arrayResponse _ _ _ _ _)))

/-- `responseStringsWithVersion` writes before it tests, and vendors before version 5 are the only
ones it serves. -/
theorem failsClean_responseSetupDataCall (hversion : 5 ≤ env.version)
    (response : Option ResponseMemory) (len : ℕ) :
    FailsClean (responseSetupDataCall env response len) := by
  unfold responseSetupDataCall
  rw [if_neg (by omega)]
  exact failsClean_responseDataCallList env response len

theorem failsClean_responseRaw (response : Option ResponseMemory) (len : ℕ) :
    FailsClean (responseRaw response len) := by
  refine failsClean_invalidResponse.ite ?_
  cases response with
  | none => exact failsClean_some rfl
  | some r => exact failsClean_some rfl

theorem failsClean_responseCdmaSignalInfoRecord (response : Option ResponseMemory) (len : ℕ) :
    FailsClean (responseCdmaSignalInfoRecord env response len) :=
  failsClean_invalidResponse.ite (failsClean_structResponse _ _ _ _)

/-! ### The whole table -/

/-- **No response function but that of the CDMA information records writes before it fails.** -/
theorem encode_failsClean (hversion : 5 ≤ env.version) {f : ResponseFunction}
    (hf : f ≠ .responseCdmaInformationRecords) (response : Option ResponseMemory) (len : ℕ) :
    FailsClean (encode env f response len) := by
  have htest := failsClean_invalidResponse
  cases f with
  | responseCdmaInformationRecords => exact absurd rfl hf
  | responseInts | responseCallList | responseCallForwards | responseCellList
  | responseCellInfoList | responseHardwareConfig =>
    simp only [encode, responseInts, responseCallList, responseCallForwards, responseCellList,
      responseCellInfoList, responseHardwareConfig, failsClean_arrayResponse]
  | responseSMS | responseSimIo | responseSsn =>
    simp only [encode, responseSMS, responseSimIo, responseSsn, failsClean_structResponse]
  | responseString | responseVoid => exact failsClean_some rfl
  | responseStrings => exact failsClean_responseStrings env response len
  | responseDataCallList => exact failsClean_responseDataCallList env response len
  | responseSetupDataCall => exact failsClean_responseSetupDataCall env hversion response len
  | responseRaw => exact failsClean_responseRaw response len
  | responseEnterSimPin => exact (failsClean_arrayResponse _ _ _ _ _).localRequest _
  | responseRadioPower => exact FailsClean.localRequest (failsClean_some rfl) _
  | responseFailCause =>
    exact htest.ite ((failsClean_map fun _ => rfl).ite ((failsClean_map fun _ => rfl).ite htest))
  | responseRilSignalStrength => exact htest.ite ((failsClean_map fun _ => rfl).ite htest)
  | responseCdmaSignalInfoRecord => exact failsClean_responseCdmaSignalInfoRecord env response len
  | responseCallRing =>
    exact (failsClean_some rfl).ite (failsClean_responseCdmaSignalInfoRecord env response len)
  | responseCdmaCallWaiting => exact htest.ite (failsClean_map fun _ => rfl)
  | responseSimRefresh =>
    exact htest.ite ((failsClean_map fun _ => rfl).ite (failsClean_map fun _ => rfl))
  | responseSSData | responseCdmaSms => exact htest.ite (htest.ite (failsClean_map fun _ => rfl))
  | responseSimStatus =>
    exact htest.ite ((failsClean_map fun _ => rfl).ite ((failsClean_map fun _ => rfl).ite htest))
  | responseGsmBrSmsCnf | responseCdmaBrSmsCnf => exact failsClean_map fun _ => rfl
  | responseDcRtInfo => exact htest.ite (failsClean_map fun _ => rfl)

/-- The CDMA information records are no response to a request. -/
theorem responseFunction_ne (request : RequestCode) :
    request.responseFunction ≠ .responseCdmaInformationRecords := by
  have hall : ∀ entry ∈ commandFunctions, entry.2 ≠ .responseCdmaInformationRecords := by
    decide +kernel
  exact hall _ (List.get_mem _ _)

/-! ### The message -/

/-- Words of a message, one after the other. -/
def words (vs : List Int) : List UInt8 := vs.flatMap Parcel.wordBytes

theorem length_words (vs : List Int) : (words vs).length = 4 * vs.length := by
  induction vs with
  | nil => rfl
  | cons v vs ih =>
    show (Parcel.wordBytes v ++ words vs).length = _
    rw [List.length_append, ih, Parcel.length_wordBytes, List.length_cons]
    omega

theorem words_append (vs us : List Int) : words (vs ++ us) = words vs ++ words us :=
  List.flatMap_append

/-- The message of a completion: without the response function, the head alone; with it, the head
and the payload the function has completed, or three words that hold the error. -/
def AtomicMessage (r : RequestInfo) (e : Int) (response : Option ResponseMemory)
    (responselen : ℕ) (data : List UInt8) : Prop :=
  if shouldCallResponseFunction r response then
    ∃ x, encode env r.pCI.responseFunction response responselen = some x ∧
      ((x.ret = 0 ∧
          data = words [responseSolicited, r.token, e] ++ x.writes.flatMap Write.encoding) ∨
        (x.ret ≠ 0 ∧ data = words [responseSolicited, r.token, rilErrnoInvalidResponse]))
  else data = words [responseSolicited, r.token, e]

/-- The head of a message, with the error word. -/
theorem messageHead_data (token e : Int) :
    ((messageHead token).writeInt32 e).data = words [responseSolicited, token, e] ∧
      ((messageHead token).writeInt32 e).AtEnd := by
  obtain ⟨hdata, hend⟩ := Parcel.writeInt32_atEnd (messageHead_atEnd token) e
  exact ⟨hdata.trans (by rfl), hend⟩

/-- **The rewind**: a second error word takes the place of the first. -/
theorem messageHead_rewind (token e e' : Int) :
    ((((messageHead token).writeInt32 e).setDataPosition
      (messageHead token).dataPosition).writeInt32 e').data
      = words [responseSolicited, token, e'] := rfl

theorem encodeCompletion_atomic (hversion : 5 ≤ env.version) {r : RequestInfo} {e : Int}
    {response : Option ResponseMemory} {responselen : ℕ} {p : Parcel} {x : Encoded}
    (h : encodeCompletion env r e response responselen = some (p, x)) :
    AtomicMessage env r e response responselen p.data := by
  obtain ⟨hhead, hend⟩ := messageHead_data r.token e
  have hclean := encode_failsClean env hversion (responseFunction_ne r.pCI) response responselen
  unfold AtomicMessage
  simp only [encodeCompletion] at h
  by_cases hcall : shouldCallResponseFunction r response = true
  · rw [if_pos hcall] at h ⊢
    obtain ⟨y, hy, hyp⟩ := Option.map_eq_some_iff.mp h
    refine ⟨y, hy, ?_⟩
    obtain ⟨rfl, rfl⟩ := Prod.mk.inj hyp
    rcases hclean y hy with hret | ⟨hwrites, hret⟩
    · left
      refine ⟨hret, ?_⟩
      rw [if_neg (not_not.mpr hret), (Parcel.writeAll_data y.writes hend).1, hhead]
    · right
      have hfail : y.ret ≠ 0 := by
        rw [hret]
        decide
      refine ⟨hfail, ?_⟩
      rw [if_pos hfail, hwrites, hret]
      exact messageHead_rewind r.token e rilErrnoInvalidResponse
  · rw [if_neg hcall] at h ⊢
    obtain ⟨rfl, -⟩ := Prod.mk.inj (Option.some.inj h)
    exact hhead

variable (P : Platform) (version : Int)

/-- **Error atomicity.**  For every pending request of a client and every completion of it, the
message handed to `sendResponse` is the head with the payload its response function has
completed, or the three words of an invalid response. -/
theorem completion_atomic (hversion : 6 ≤ version) (s : RilState) {r : RequestInfo}
    (hr : r ∈ s.pending.nodes) (hlocal : r.isLocal = false) (hcancelled : r.cancelled = false)
    (e : Int) (response : Option ResponseMemory) (responselen : ℕ) (faults : WriteFaults) :
    ∃ data s', rilOnRequestComplete P version s r.addr e response responselen faults = some s' ∧
      s'.channel = s.channel ++ (sendResponseRaw s.fdCommand data faults).2 ∧
      AtomicMessage (s.encodeEnv P version) r e response responselen data := by
  obtain ⟨p, x, s', hpx, hs', -, -, hch⟩ :=
    rilOnRequestComplete_spec P version s hr hlocal hcancelled e response responselen faults
  have hfive : 5 ≤ (s.encodeEnv P version).version := by
    show 5 ≤ version
    omega
  exact ⟨p.data, s', hs', hch, encodeCompletion_atomic _ hfive hpx⟩

/-- A raw request completed without a response. -/
theorem oneRequest_atomic :
    ∃ data s', rilOnRequestComplete x86 6 oneRequest oneRequestInfo.addr 0 none 0 noFaults
        = some s' ∧
      s'.channel = oneRequest.channel ++ (sendResponseRaw oneRequest.fdCommand data noFaults).2 ∧
      AtomicMessage (oneRequest.encodeEnv x86 6) oneRequestInfo 0 none 0 data :=
  completion_atomic x86 6 (by decide) oneRequest (List.mem_cons_self ..) rfl rfl 0 none 0 noFaults

end CtpCommon.Ril
