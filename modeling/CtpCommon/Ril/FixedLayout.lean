import CtpCommon.Ril.DispatchLayout
import CtpCommon.Ril.DispatchLog

/-!
# What the fixed-layout dispatch functions let through

Five dispatch functions read a fixed list of integers and strings and test the status of the
last integer alone, on the ground that "any single failure leads to subsequent reads" failing.
For an integer this is so.  A string that does not fit has already consumed its length word, and
sets no status; the integers after it are then read from inside it.  What is read is printed before
it is passed on, and with a text that overruns `printBuf` anything may be passed on.

* `FixedLayout` — the five functions, with the documented fields and the structure built from
  complete field values;
* `FixedLayout.dispatch_eq` — **PROVED**: a function forwards what it reads exactly when the
  words of its layout are there;
* `fixedLayout_forwards_iff` — **PROVED**: it forwards nothing but complete field values iff its
  texts fit `printBuf`, and the printing stops the process, a word is missing or every string is
  complete;
* `apdu_without_string` — a payload of six integers that is forwarded all the same.
-/

namespace CtpCommon.Ril

open ReadProg

inductive FixedLayout where
  | simIo | simApdu | callForward | initialAttachApn | simAuthentication
  deriving DecidableEq, Repr

namespace FixedLayout

def function : FixedLayout → DispatchFunction
  | .simIo => .dispatchSimIo
  | .simApdu => .dispatchSimApdu
  | .callForward => .dispatchCallForward
  | .initialAttachApn => .dispatchSetInitialAttachApn
  | .simAuthentication => .dispatchSimAuthentication

def fields : FixedLayout → List Field
  | .simIo => simIoFields
  | .simApdu => simApduFields
  | .callForward => callForwardFields
  | .initialAttachApn => initialAttachApnFields
  | .simAuthentication => simAuthenticationFields

variable (env : DispatchEnv)

/-- The `sizeof` passed along. -/
def size : FixedLayout → ℕ
  | .simIo =>
      if env.version < 6 then env.platform.sizeOf .simIoV5 else env.platform.sizeOf .simIoV6
  | .simApdu => env.platform.sizeOf .simApdu
  | .callForward => env.platform.sizeOf .callForwardInfo
  | .initialAttachApn => env.platform.sizeOf .initialAttachApn
  | .simAuthentication => env.platform.sizeOf .simAuthentication

/-- The structure with exactly these field values; a call-forward number of length zero is
null. -/
def build : FixedLayout → List FieldValue → RequestData
  | .simIo, [.word command, .word fileid, .string path, .word p1, .word p2, .word p3,
      .string data, .string pin2, .string aidPtr] =>
      let str := Option.map env.platform.strndup16to8
      .simIo ⟨command, fileid, str path, p1, p2, p3, str data, str pin2, str aidPtr⟩
  | .simApdu, [.word sessionid, .word cla, .word instruction, .word p1, .word p2, .word p3,
      .string data] =>
      .simApdu ⟨sessionid, cla, instruction, p1, p2, p3, data.map env.platform.strndup16to8⟩
  | .callForward, [.word status, .word reason, .word serviceClass, .word toa, .string number,
      .word timeSeconds] =>
      let number := number.map env.platform.strndup16to8
      .callForward ⟨status, reason, serviceClass, toa,
        if number = some [] then none else number, timeSeconds⟩
  | .initialAttachApn, [.string apn, .string protocol, .word authtype, .string username,
      .string password] =>
      let str := Option.map env.platform.strndup16to8
      .initialAttachApn ⟨str apn, str protocol, authtype, str username, str password⟩
  | .simAuthentication, [.word authContext, .string authData, .string aid] =>
      let str := Option.map env.platform.strndup16to8
      .simAuthentication ⟨authContext, str authData, str aid⟩
  | _, _ => .null

/-- The common shape: read the fields, test the last status, pass the structure on. -/
def program (f : FixedLayout) : ReadProg Payload :=
  (Field.readFields f.fields).bind fun vs => .check (.done (f.build env vs, f.size env))

/-- The five dispatch functions have that shape. -/
theorem dispatch_program (f : FixedLayout) (p : Parcel) :
    dispatch env f.function p = callOnRequest env (f.program env) p := by
  cases f <;> rfl

theorem program_checked (f : FixedLayout) : Checked (f.program env) := by
  unfold Checked program
  rw [flow_bind]
  exact flow_of_forall _ (fun _ _ => rfl) false

/-- **What is forwarded**: the fields as they are read, whenever every word is there. -/
theorem dispatch_eq (f : FixedLayout) (p : Parcel) :
    dispatch env f.function p =
      match present (Field.readFields f.fields) p with
      | some (vs, _) => [.onRequest (f.build env vs) (f.size env)]
      | none => [] := by
  rw [dispatch_program, callOnRequest, run_eq_present (f.program_checked env), program,
    present_bind]
  rcases present (Field.readFields f.fields) p with _ | ⟨vs, q⟩ <;> rfl

/-- `%s` is given the context of an authentication, and no string is found there. -/
def faults (p : Parcel) : FixedLayout → Bool
  | .simAuthentication => (env.platform.stringAt (p.readInt32.1.getD env.t)).isNone
  | _ => false

theorem stops_simAuthentication (p : Parcel) :
    (logSimAuthentication env).stops ⟨p, true, env.t, env.ut⟩
      = faults env p .simAuthentication := by
  obtain ⟨s, hs⟩ : ∃ s, readInt32.exec ⟨p, true, env.t, env.ut⟩
      = some (p.readInt32.1.getD env.t, s) := by
    simp only [readInt32, exec]
    rcases p.readInt32 with ⟨_ | v, q⟩ <;> exact ⟨_, rfl⟩
  unfold faults
  generalize p.readInt32.1.getD env.t = authContext at hs ⊢
  refine (LogProg.stops_read hs).trans ?_
  -- the status tested behind the texts does not matter
  have htest : ∀ (data : Payload) (s : ReadState),
      LogProg.stops (.read checkStatus fun _ => .done data) s = false := by
    intro data s
    simp only [LogProg.stops]
    split <;> rfl
  show (!(env.platform.stringAt authContext).isSome ||
    LogProg.stops (.read checkStatus fun _ => .done _) _) = _
  rw [htest]
  cases env.platform.stringAt authContext <;> rfl

/-- The printing stops the process exactly at such an address. -/
theorem needed_dispatchLog (f : FixedLayout) (p : Parcel) (printBuf : List UInt8) :
    .needed false ∈ dispatchLog env f.function p printBuf ↔ f.faults env p = true := by
  have hstops : (logProgram env f.function).stops ⟨p, true, env.t, env.ut⟩ = f.faults env p := by
    cases f with
    | simIo =>
      have hfree : (logSimIo env).NeedsNothing := fun _ _ _ _ _ _ _ _ _ _ => trivial
      exact hfree.stops _
    | simApdu =>
      have hfree : (logSimApdu env).NeedsNothing := fun _ _ _ _ _ _ _ _ => trivial
      exact hfree.stops _
    | callForward =>
      have hfree : (logCallForward env).NeedsNothing := fun _ _ _ _ _ _ _ => trivial
      exact hfree.stops _
    | initialAttachApn =>
      have hfree : (logSetInitialAttachApn env).NeedsNothing := fun _ _ _ _ _ _ => trivial
      exact hfree.stops _
    | simAuthentication => exact stops_simAuthentication env p
  rw [← hstops]
  cases f <;> exact LogProg.needed_mem_exec ..

end FixedLayout

variable (env : DispatchEnv)

/-- What the vendor may be called with: what the dispatch function passes on unless the printing
stops the process, and anything once a text has overrun `printBuf`. -/
def MayForward (f : FixedLayout) (p : Parcel) (printBuf : List UInt8) (data : RequestData)
    (datalen : ℕ) : Prop :=
  ¬ LogProg.TextsFit printbufSize (dispatchLog env f.function p printBuf) ∨
    .needed false ∉ dispatchLog env f.function p printBuf ∧
      .onRequest data datalen ∈ dispatch env f.function p

/-- Whatever is forwarded are the values of a payload that holds every field completely. -/
def ForwardsExactly (f : FixedLayout) (p : Parcel) (printBuf : List UInt8) : Prop :=
  ∀ data datalen, MayForward env f p printBuf data datalen →
    ∃ vs, Field.decode f.fields p = some vs ∧ data = f.build env vs

/-- **Only complete payloads are forwarded, unless a string is cut.**  A missing integer stops
every payload; a string whose characters do not fit, or whose length word is missing or out of
range, stops it only when an integer is missing as well. -/
theorem fixedLayout_forwards_iff (f : FixedLayout) (p : Parcel) (printBuf : List UInt8) :
    ForwardsExactly env f p printBuf ↔
      LogProg.TextsFit printbufSize (dispatchLog env f.function p printBuf) ∧
        (f.faults env p = true ∨ Field.wordsPresent f.fields p = false ∨
          Field.stringsComplete f.fields p = true) := by
  by_cases hfits : LogProg.TextsFit printbufSize (dispatchLog env f.function p printBuf)
  swap
  · -- two different structures may be passed on, and only one has the field values
    refine iff_of_false (fun h => ?_) fun h => hfits h.1
    obtain ⟨vs, hvs, hnull⟩ := h .null 0 (.inl hfits)
    obtain ⟨us, hus, hints⟩ := h (.ints []) 0 (.inl hfits)
    obtain rfl : us = vs := Option.some.inj (hus.symm.trans hvs)
    exact RequestData.noConfusion (hnull.trans hints.symm)
  rw [and_iff_right hfits]
  have hmay : ∀ data datalen, MayForward env f p printBuf data datalen ↔
      ¬ f.faults env p = true ∧ .onRequest data datalen ∈ dispatch env f.function p := by
    intro data datalen
    unfold MayForward
    rw [or_iff_right (not_not.mpr hfits), f.needed_dispatchLog env]
  simp only [ForwardsExactly, hmay]
  by_cases hfaults : f.faults env p = true
  · exact iff_of_true (fun _ _ h => absurd hfaults h.1) (.inl hfaults)
  rw [or_iff_right hfaults]
  have hwords := Field.present_readFields_isSome f.fields p
  have hdecode := Field.decode_isSome_iff f.fields p
  rw [f.dispatch_eq env p]
  rcases hp : present (Field.readFields f.fields) p with _ | ⟨us, q⟩
  · rw [hp] at hwords
    exact iff_of_true (by simp) (.inl hwords.symm)
  · rw [hp] at hwords
    rw [← hwords, Option.isSome_some, Bool.true_and] at hdecode
    constructor
    · intro h
      obtain ⟨vs, hvs, -⟩ := h _ _ ⟨hfaults, List.mem_singleton.mpr rfl⟩
      rw [hvs] at hdecode
      exact .inr hdecode.symm
    · rintro (hmissing | hstrings)
      · rw [hmissing] at hwords
        exact absurd hwords (by simp)
      · rintro data datalen ⟨-, hmem⟩
        rw [hstrings] at hdecode
        obtain ⟨vs, hvs⟩ := Option.isSome_iff_exists.mp hdecode
        have hus := Field.present_readFields_of_decode f.fields hvs
        rw [hp] at hus
        obtain rfl : us = vs := Option.some.inj hus
        obtain ⟨rfl, -⟩ := DispatchEffect.onRequest.inj (List.mem_singleton.mp hmem)
        exact ⟨us, hvs, rfl⟩

/-- Six integers, and nothing behind them. -/
def shortApdu : List UInt8 :=
  [1, 0, 0, 0, 0, 0, 0, 0, 164, 0, 0, 0, 4, 0, 0, 0, 0, 0, 0, 0, 16, 0, 0, 0]

/-- `RIL_REQUEST_SIM_TRANSMIT_APDU_CHANNEL` with its integers and not its string reaches the vendor,
with a null string. -/
theorem apdu_without_string :
    dispatch ⟨x86, 6, .simReady, 0, 0⟩ FixedLayout.simApdu.function (Parcel.ofBytes shortApdu)
      = [.onRequest (.simApdu ⟨1, 0, 164, 4, 0, 16, none⟩) 28] ∧
    ¬ ForwardsExactly ⟨x86, 6, .simReady, 0, 0⟩ .simApdu (Parcel.ofBytes shortApdu) [] := by
  have hforwarded : dispatch ⟨x86, 6, .simReady, 0, 0⟩ FixedLayout.simApdu.function
      (Parcel.ofBytes shortApdu) = [.onRequest (.simApdu ⟨1, 0, 164, 4, 0, 16, none⟩) 28] := by
    decide
  have hneeded : .needed false ∉
      dispatchLog ⟨x86, 6, .simReady, 0, 0⟩ FixedLayout.simApdu.function
        (Parcel.ofBytes shortApdu) [] := by
    decide
  refine ⟨hforwarded, fun h => ?_⟩
  obtain ⟨vs, hvs, -⟩ := h _ _ (.inr ⟨hneeded, by rw [hforwarded]; exact List.mem_singleton.mpr rfl⟩)
  have hnone : Field.decode FixedLayout.simApdu.fields (Parcel.ofBytes shortApdu) = none := by
    decide
  exact absurd (hnone.symm.trans hvs) (by simp)

end CtpCommon.Ril
