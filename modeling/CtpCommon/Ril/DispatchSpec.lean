import CtpCommon.Ril.DispatchLayout
import CtpCommon.Ril.DispatchLog

/-!
# Every accepted record is settled exactly once — when its payload is there

A record `processCommandBuffer` accepts should end in exactly one call: of the vendor's
`onRequest`, or of `RIL_onRequestComplete`.

* `Outcome` — the effects a dispatch function can leave behind; `dispatch_outcome` — **PROVED**:
  for every function of the table they are those of a complete or an incomplete payload;
* `dispatch_settles_iff` — **PROVED**: a record is settled iff its payload holds the layout, its
  texts fit `printBuf` and, for the two queries answered from the radio state, the radio is neither
  off nor unavailable;
* `hangup_without_payload` — a record that is never settled: `invalidCommandBlock` only logs.
-/

namespace CtpCommon.Ril

open ReadProg

variable (env : DispatchEnv)

/-! ### Effects -/

/-- The two calls a record may end in. -/
def DispatchEffect.isCall : DispatchEffect → Bool
  | .onRequest _ _ | .onRequestComplete _ _ => true
  | _ => false

@[simp] theorem isCall_onRequest (data : RequestData) (datalen : ℕ) :
    (DispatchEffect.onRequest data datalen).isCall = true := rfl

@[simp] theorem isCall_onRequestComplete (e : Int) (response : Option Int) :
    (DispatchEffect.onRequestComplete e response).isCall = true := rfl

def calls (fx : List DispatchEffect) : List DispatchEffect := fx.filter DispatchEffect.isCall

/-- Does the payload hold what the request needs? -/
def complete (f : DispatchFunction) (p : Parcel) : Bool := (present (layout env f) p).isSome

/-- A dispatch function that only decodes calls `onRequest` once, or does nothing. -/
theorem callOnRequest_spec {x : ReadProg Payload} {y : ReadProg Unit} (h : Decodes x false y)
    (p : Parcel) :
    if (present y p).isSome then ∃ data datalen, callOnRequest env x p = [.onRequest data datalen]
    else callOnRequest env x p = [] := by
  have hrun := h.run_isSome p env.t env.ut
  unfold callOnRequest
  rcases hx : x.run p env.t env.ut with _ | ⟨data, datalen⟩
  · rw [hx] at hrun
    rw [← hrun]
    rfl
  · rw [hx] at hrun
    rw [← hrun]
    exact ⟨data, datalen, rfl⟩

/-- Copying parameters only appends. -/
theorem copyParams_isPrefix (n : ℕ) :
    ∀ {p p2 : Parcel}, p2.AtEnd → p2.data <+: (copyParams n p p2).data := by
  induction n with
  | zero => exact fun _ => List.prefix_refl _
  | succ n ih =>
    intro p p2 hend
    obtain ⟨hpre, hend'⟩ := Parcel.writeString16_atEnd hend (some (p.readString16Inplace.1.getD []))
    exact hpre.trans (ih hend')

/-- The rebuilt list has a count where the old one has it. -/
theorem copyParams_length {p : Parcel} (hpos : p.pos ≤ p.data.length) (n : ℕ) (q : Parcel)
    (v : Int) : p.pos + 4 ≤
      (copyParams n q ((⟨p.data.take p.pos, p.pos⟩ : Parcel).writeInt32 v)).data.length := by
  have hend : (⟨p.data.take p.pos, p.pos⟩ : Parcel).AtEnd := by
    show p.pos = (p.data.take p.pos).length
    rw [List.length_take, Nat.min_eq_left hpos]
  obtain ⟨hdata, hend'⟩ := Parcel.writeInt32_atEnd hend v
  have hle := (copyParams_isPrefix n hend' (p := q)).length_le
  rw [hdata, List.length_append, List.length_take, Nat.min_eq_left hpos,
    Parcel.length_wordBytes] at hle
  exact hle

theorem setDataPosition_readInt32 (p : Parcel) :
    p.readInt32.2.setDataPosition p.dataPosition = p := by
  obtain ⟨data, pos⟩ := p
  have hdata := Parcel.readInt32_data ⟨data, pos⟩
  unfold Parcel.setDataPosition Parcel.dataPosition
  rw [hdata]

theorem present_words_one (p : Parcel) :
    (present (ReadProg.words 1 (.done ())) p).isSome = p.readInt32.1.isSome := by
  rcases hr : p.readInt32 with ⟨_ | v, q⟩
  · simp [ReadProg.words, skip, present, hr]
  · simp [ReadProg.words, skip, present, hr]

/-- Rebuilding the parameter list for an old vendor keeps its count readable. -/
theorem dispatchDataCall_spec (p : Parcel) :
    if complete env .dispatchDataCall p then
      ∃ data datalen, dispatchDataCall env p = [.onRequest data datalen]
    else dispatchDataCall env p = [] := by
  have hplain := callOnRequest_spec env (dispatchStrings_decodes env) p
  by_cases hold : env.version < 4 ∧ p.readInt32.1.getD 0 > numParamsRilV3
  · have hcount : p.readInt32.1.isSome := by
      rcases hr : p.readInt32.1 with _ | v
      · rw [hr] at hold
        exact absurd hold.2 (by decide)
      · rfl
    have hpos : p.pos + 4 ≤ p.data.length := by
      rw [Parcel.readInt32_isSome] at hcount
      simpa using hcount
    have hlen := copyParams_length (Nat.le_of_add_right_le hpos) numParamsRilV3 p.readInt32.2
      numParamsRilV3
    have hnew : dispatchDataCall env p = callOnRequest env (dispatchStrings env)
        ((copyParams numParamsRilV3 p.readInt32.2
          ((⟨p.data.take p.pos, p.pos⟩ : Parcel).writeInt32 numParamsRilV3)).setDataPosition
          p.pos) := by
      unfold dispatchDataCall
      rw [if_pos hold]
      rfl
    rw [hnew]
    generalize copyParams numParamsRilV3 p.readInt32.2 _ = p2 at hlen ⊢
    have hword : (present (layout env .dispatchStrings) (p2.setDataPosition p.pos)).isSome := by
      rw [show layout env .dispatchStrings = ReadProg.words 1 (.done ()) from rfl,
        present_words_one, Parcel.readInt32_isSome]
      exact decide_eq_true hlen
    have hcomplete : complete env .dispatchDataCall p = true := by
      rw [← hcount, ← present_words_one]
      rfl
    have hcall := callOnRequest_spec env (dispatchStrings_decodes env) (p2.setDataPosition p.pos)
    rw [if_pos hword] at hcall
    rw [if_pos hcomplete]
    exact hcall
  · have heq : dispatchDataCall env p = callOnRequest env (dispatchStrings env) p := by
      unfold dispatchDataCall
      rw [if_neg hold, setDataPosition_readInt32]
    rw [heq]
    exact hplain

/-- `dispatchRadioPower` asks for one integer after the count even when the count is negative. -/
theorem dispatchRadioPower_spec (p : Parcel) :
    if complete env .dispatchRadioPower p then
      ∃ isOn data datalen, dispatchRadioPower env p = [.setRadioIsOn isOn, .onRequest data datalen]
    else calls (dispatchRadioPower env p) = [] := by
  rcases hp : p.readInt32 with ⟨_ | count, q⟩
  · simp [complete, layout, present, dispatchRadioPower, hp, calls]
  by_cases hcount : count = 0
  · simp [complete, layout, present, dispatchRadioPower, hp, calls, hcount]
  rcases hq : q.readInt32 with ⟨_ | isOn, r⟩
  · have hmissing : ∀ n, present (ReadProg.words (max 1 n) (.done ())) q = none := by
      intro n
      obtain ⟨m, hm⟩ : ∃ m, max 1 n = m + 1 := ⟨max 1 n - 1, by omega⟩
      rw [hm]
      simp [ReadProg.words, List.replicate_succ, skip, present, hq]
    simp [complete, layout, present, dispatchRadioPower, hp, calls, hcount, hq, hmissing]
  · have hback : r.setDataPosition p.dataPosition = p := by
      have h1 := Parcel.readInt32_data p
      have h2 := Parcel.readInt32_data q
      rw [hp] at h1
      rw [hq] at h2
      obtain ⟨data, pos⟩ := p
      unfold Parcel.setDataPosition Parcel.dataPosition
      rw [show r.data = data from h2.trans h1]
    have hsame : complete env .dispatchRadioPower p = complete env .dispatchInts p := by
      simp only [complete, layout, present, hp, ne_eq, hcount, not_false_eq_true, if_true]
      rcases Nat.eq_zero_or_pos count.toNat with hzero | hpos
      · rw [hzero]
        simp [ReadProg.words, skip, present, hq]
      · rw [Nat.max_eq_right hpos]
    have hints : if complete env .dispatchInts p then
        ∃ data datalen, callOnRequest env dispatchInts p = [.onRequest data datalen]
      else callOnRequest env dispatchInts p = [] :=
      callOnRequest_spec env (dispatchInts_decodes env) p
    have heq : dispatchRadioPower env p
        = .setRadioIsOn (isOn ≠ 0) :: callOnRequest env dispatchInts p := by
      simp only [dispatchRadioPower, hp, hcount, if_false, hq, hback]
    rw [hsame, heq]
    by_cases hc : complete env .dispatchInts p = true
    · rw [if_pos hc] at hints ⊢
      obtain ⟨data, datalen, hcall⟩ := hints
      exact ⟨_, data, datalen, by rw [hcall]⟩
    · rw [if_neg hc] at hints ⊢
      rw [hints]
      rfl

/-- The two queries answer themselves, hand on, or complete the request twice. -/
theorem dispatchFromRadioState_spec (decode : RadioState → Int) (store : Int → DispatchEffect)
    (hstore : ∀ v, (store v).isCall = false) (p : Parcel) :
    let fx := dispatchFromRadioState env decode store p
    if env.radioState = .unavailable ∨ env.radioState = .off then (calls fx).length = 2
    else (∃ data datalen, fx = [.onRequest data datalen]) ∨
      ∃ v e response, fx = [store v, .onRequestComplete e response] := by
  intro fx
  by_cases hoff : env.radioState = .unavailable ∨ env.radioState = .off
  · have hon : env.radioState ≠ .on := by
      rcases hoff with h | h <;> rw [h] <;> decide
    rw [if_pos hoff]
    simp only [fx, dispatchFromRadioState, if_pos hoff, if_neg hon]
    split <;> simp [calls, List.filter_cons, hstore]
  · rw [if_neg hoff]
    simp only [fx, dispatchFromRadioState, if_neg hoff, List.nil_append]
    split
    · exact .inl ⟨.null, 0, rfl⟩
    · split
      · exact .inr ⟨_, _, _, rfl⟩
      · exact .inr ⟨_, _, _, rfl⟩

/-! ### The outcome of a record -/

/-- No call among the effects. -/
def Silent (fx : List DispatchEffect) : Prop := ∀ x ∈ fx, x.isCall = false

/-- What a dispatch function leaves behind, given whether its payload is complete. -/
inductive Outcome (f : DispatchFunction) : Bool → List DispatchEffect → Prop
  | requested (pre : List DispatchEffect) (hpre : Silent pre) (data : RequestData)
      (datalen : ℕ) : Outcome f true (pre ++ [.onRequest data datalen])
  | completed (pre : List DispatchEffect) (hpre : Silent pre) (e : Int) (response : Option Int)
      (hf : f = .dispatchVoiceRadioTech ∨ f = .dispatchCdmaSubscriptionSource) :
      Outcome f true (pre ++ [.onRequestComplete e response])
  | unsettled {fx : List DispatchEffect} (h : (calls fx).length ≠ 1) : Outcome f false fx

theorem calls_silent {pre : List DispatchEffect} (hpre : Silent pre) (x : DispatchEffect)
    (hx : x.isCall = true) : calls (pre ++ [x]) = [x] := by
  unfold calls
  rw [List.filter_append, List.filter_eq_nil_iff.mpr fun y hy => by simp [hpre y hy]]
  simp [hx]

theorem outcome_of_spec {f : DispatchFunction} {ok : Bool} {fx : List DispatchEffect}
    (h : if ok then ∃ data datalen, fx = [.onRequest data datalen] else fx = []) :
    Outcome f ok fx := by
  cases ok with
  | true =>
    obtain ⟨data, datalen, rfl⟩ := h
    exact .requested [] (by simp [Silent]) data datalen
  | false =>
    obtain rfl : fx = [] := by simpa using h
    exact .unsettled (by simp [calls])

theorem outcome_of_decodes {f : DispatchFunction} {x : ReadProg Payload}
    (h : Decodes x false (layout env f)) (p : Parcel) :
    Outcome f (complete env f p) (callOnRequest env x p) :=
  outcome_of_spec (callOnRequest_spec env h p)

theorem outcome_fromRadioState {f : DispatchFunction}
    (hf : f = .dispatchVoiceRadioTech ∨ f = .dispatchCdmaSubscriptionSource)
    (decode : RadioState → Int) (store : Int → DispatchEffect)
    (hstore : ∀ v, (store v).isCall = false) (p : Parcel) :
    Outcome f (complete env f p) (dispatchFromRadioState env decode store p) := by
  have hlayout : layout env f
      = if env.radioState = .unavailable ∨ env.radioState = .off then .fail else .done () := by
    rcases hf with rfl | rfl <;> rfl
  have hspec := dispatchFromRadioState_spec env decode store hstore p
  unfold complete
  rw [hlayout]
  by_cases hoff : env.radioState = .unavailable ∨ env.radioState = .off
  · rw [if_pos hoff] at hspec ⊢
    exact .unsettled (by rw [hspec]; decide)
  · rw [if_neg hoff] at hspec ⊢
    obtain ⟨data, datalen, heq⟩ | ⟨v, e, response, heq⟩ := hspec
    · rw [heq]
      exact .requested [] (by simp [Silent]) data datalen
    · rw [heq]
      exact .completed [store v] (by simp [Silent, hstore]) e response hf

/-- **Every dispatch function of the table**: one call when the payload is complete, and none,
or two, when it is not. -/
theorem dispatch_outcome (f : DispatchFunction) (p : Parcel) :
    Outcome f (complete env f p) (dispatch env f p) := by
  cases f with
  | dispatchVoid => exact outcome_of_decodes env (dispatchVoid_decodes env) p
  | dispatchString => exact outcome_of_decodes env (dispatchString_decodes env) p
  | dispatchStrings => exact outcome_of_decodes env (dispatchStrings_decodes env) p
  | dispatchInts => exact outcome_of_decodes env (dispatchInts_decodes env) p
  | dispatchDial => exact outcome_of_decodes env (dispatchDial_decodes env) p
  | dispatchSimIo => exact outcome_of_decodes env (dispatchSimIo_decodes env) p
  | dispatchSimApdu => exact outcome_of_decodes env (dispatchSimApdu_decodes env) p
  | dispatchCallForward => exact outcome_of_decodes env (dispatchCallForward_decodes env) p
  | dispatchRaw => exact outcome_of_decodes env (dispatchRaw_decodes env) p
  | dispatchSmsWrite => exact outcome_of_decodes env (dispatchSmsWrite_decodes env) p
  | dispatchDataCall => exact outcome_of_spec (dispatchDataCall_spec env p)
  | dispatchVoiceRadioTech =>
    exact outcome_fromRadioState env (.inl rfl) _ .setVoiceRadioTech (fun _ => rfl) p
  | dispatchSetInitialAttachApn =>
    exact outcome_of_decodes env (dispatchSetInitialAttachApn_decodes env) p
  | dispatchCdmaSubscriptionSource =>
    exact outcome_fromRadioState env (.inr rfl) _ .setCdmaSubscriptionSource (fun _ => rfl) p
  | dispatchCdmaSms => exact outcome_of_decodes env (dispatchCdmaSms_decodes env) p
  | dispatchImsSms => exact outcome_of_decodes env (dispatchImsSms_decodes env) p
  | dispatchCdmaSmsAck => exact outcome_of_decodes env (dispatchCdmaSmsAck_decodes env) p
  | dispatchGsmBrSmsCnf => exact outcome_of_decodes env (dispatchGsmBrSmsCnf_decodes env) p
  | dispatchCdmaBrSmsCnf => exact outcome_of_decodes env (dispatchCdmaBrSmsCnf_decodes env) p
  | dispatchRilCdmaSmsWriteArgs =>
    exact outcome_of_decodes env (dispatchRilCdmaSmsWriteArgs_decodes env) p
  | dispatchNVReadItem => exact outcome_of_decodes env (dispatchNVReadItem_decodes env) p
  | dispatchNVWriteItem => exact outcome_of_decodes env (dispatchNVWriteItem_decodes env) p
  | dispatchUiccSubscripton =>
    exact outcome_of_decodes env (dispatchUiccSubscripton_decodes env) p
  | dispatchSimAuthentication =>
    exact outcome_of_decodes env (dispatchSimAuthentication_decodes env) p
  | dispatchDataProfile => exact outcome_of_decodes env (dispatchDataProfile_decodes env) p
  | dispatchRadioPower =>
    have hspec := dispatchRadioPower_spec env p
    show Outcome _ _ (dispatchRadioPower env p)
    cases hc : complete env .dispatchRadioPower p with
    | true =>
      rw [if_pos hc] at hspec
      obtain ⟨isOn, data, datalen, heq⟩ := hspec
      rw [heq]
      exact .requested [.setRadioIsOn isOn] (by simp [Silent, DispatchEffect.isCall])
        data datalen
    | false =>
      rw [if_neg (by simp [hc])] at hspec
      exact .unsettled (by rw [hspec]; decide)

/-! ### Settling a record -/

/-- The parts of the state the pending request depends on. -/
def SameRequests (s s' : RilState) : Prop :=
  s'.pending = s.pending ∧ s'.fdCommand = s.fdCommand ∧ s'.channel = s.channel ∧
    s'.vendor = s.vendor

theorem foldlM_silent (faults : WriteFaults) (r : RequestInfo) {pre : List DispatchEffect}
    (hpre : Silent pre) :
    ∀ s, ∃ s', pre.foldlM (perform env faults r) s = some s' ∧ SameRequests s s' := by
  induction pre with
  | nil => exact fun s => ⟨s, rfl, rfl, rfl, rfl, rfl⟩
  | cons x pre ih =>
    intro s
    have hx := hpre x (List.mem_cons_self ..)
    have hstep : ∃ t, perform env faults r s x = some t ∧ SameRequests s t := by
      cases x with
      | setRadioIsOn isOn => exact ⟨_, rfl, rfl, rfl, rfl, rfl⟩
      | setVoiceRadioTech tech => exact ⟨_, rfl, rfl, rfl, rfl, rfl⟩
      | setCdmaSubscriptionSource source => exact ⟨_, rfl, rfl, rfl, rfl, rfl⟩
      | onRequest data datalen => exact absurd hx (by simp)
      | onRequestComplete e response => exact absurd hx (by simp)
    obtain ⟨t, ht, hp, hf, hc, hv⟩ := hstep
    obtain ⟨u, hu, hp', hf', hc', hv'⟩ := ih (fun y hy => hpre y (List.mem_cons_of_mem _ hy)) t
    refine ⟨u, ?_, hp'.trans hp, hf'.trans hf, hc'.trans hc, hv'.trans hv⟩
    rw [List.foldlM_cons, ht]
    exact hu

/-- The queries answered from the radio state are answered with integers. -/
theorem responseFunction_of_query (c : RequestCode)
    (h : c.dispatchFunction = .dispatchVoiceRadioTech ∨
      c.dispatchFunction = .dispatchCdmaSubscriptionSource) :
    c.responseFunction = .responseInts := by
  have hall : ∀ x ∈ commandFunctions,
      x.1 = .dispatchVoiceRadioTech ∨ x.1 = .dispatchCdmaSubscriptionSource →
        x.2 = .responseInts := by
    decide +kernel
  exact hall _ (List.get_mem commandFunctions ⟨c.number - 1, c.index_lt⟩) h

/-- Their answers are far below the size limit. -/
theorem encodeCompletion_int_length {env : EncodeEnv} {r : RequestInfo}
    (hr : r.pCI.responseFunction = .responseInts) {e : Int} {response : Option Int} {p : Parcel}
    {x : Encoded} (h : encodeCompletion env r e (response.map intMemory)
      (if response.isSome then wordSize else 0) = some (p, x)) :
    p.data.length ≤ maxCommandBytes := by
  rw [encodeCompletion_length h]
  have hx : (x.writes.flatMap Parcel.Write.encoding).length ≤ 8 := by
    simp only [encodeCompletion, hr] at h
    split at h
    · obtain ⟨y, hy, hpy⟩ := Option.map_eq_some_iff.mp h
      obtain ⟨-, rfl⟩ := Prod.mk.inj hpy
      cases response with
      | none =>
        obtain rfl := Option.some.inj hy
        decide
      | some v =>
        have hval : encode env .responseInts (some (intMemory v)) wordSize
            = some { writes := [.int32 1, .int32 v] } := by
          simp [encode, responseInts, arrayResponse, forEach, intMemory, wordSize]
        obtain rfl := Option.some.inj (hval.symm.trans hy)
        simp [Parcel.Write.encoding]
    · obtain ⟨-, rfl⟩ := Prod.mk.inj (Option.some.inj h)
      exact Nat.zero_le _
  unfold maxCommandBytes
  omega

/-- What the record of `token` and `request` should end in: its dispatch function makes exactly
one call, and that call is either the vendor's `onRequest` for the new request, or a completion
that takes the request off the list and sends one message with its token. -/
def Settles (faults : WriteFaults) (s : RilState) (printBuf buffer : List UInt8) (token : Int)
    (request : RequestCode) (p : Parcel) : Prop :=
  let r := s.pending.node token request false
  let fx := dispatch env request.dispatchFunction p
  ∃ s', processCommandBufferLogged env faults s printBuf buffer = some s' ∧
    ((∃ data datalen, calls fx = [.onRequest data datalen] ∧
        s'.vendor = s.vendor ++ [⟨request.number, data, datalen, r.addr⟩]) ∨
      (∃ e response, calls fx = [.onRequestComplete e response] ∧
        (∀ q ∈ s'.pending.nodes, q.addr ≠ r.addr) ∧
        ∃ message, messagePrefix token <+: message ∧ message.length ≤ maxCommandBytes ∧
          s'.channel = s.channel ++ (sendResponseRaw s.fdCommand message faults).2))

/-- **An accepted record is settled iff its payload is complete and its texts fit `printBuf`**, with
what else the code cannot go on without.  An incomplete record ends in a log line, a query while the
radio is off or unavailable is completed twice, and a record that does not fit overruns the array. -/
theorem dispatch_settles_iff (faults : WriteFaults) (s : RilState) (printBuf : List UInt8)
    {buffer : List UInt8} {token : Int} {request : RequestCode} {p : Parcel}
    (h : readRecord buffer = .accepted token request p) :
    Settles env faults s printBuf buffer token request p ↔
      complete env request.dispatchFunction p = true ∧
        LogProg.Fits printbufSize (recordLog env faults s printBuf buffer) := by
  by_cases hfits : LogProg.Fits printbufSize (recordLog env faults s printBuf buffer)
  swap
  · refine iff_of_false ?_ fun hc => hfits hc.2
    rintro ⟨s', hs', -⟩
    exact absurd ((if_neg hfits).symm.trans hs') (by simp)
  rw [and_iff_left hfits]
  have hrun : processCommandBuffer env faults s buffer
      = (dispatch env request.dispatchFunction p).foldlM
          (perform env faults (s.pending.node token request false))
          { s with pending := s.pending.push token request false } := by
    simp only [processCommandBuffer, h]
  simp only [Settles, processCommandBufferLogged, if_pos hfits, hrun]
  have hout := dispatch_outcome env request.dispatchFunction p
  generalize complete env request.dispatchFunction p = ok at hout ⊢
  generalize hfx : dispatch env request.dispatchFunction p = fx at hout ⊢
  generalize hr : s.pending.node token request false = r
  cases hout with
  | unsettled hlen =>
    refine iff_of_false ?_ (by simp)
    rintro ⟨s', -, ⟨data, datalen, hcalls, -⟩ | ⟨e, response, hcalls, -⟩⟩ <;>
      exact hlen (by rw [hcalls]; rfl)
  | requested pre hpre data datalen =>
    refine iff_of_true ?_ rfl
    obtain ⟨t, ht, -, -, -, hvendor⟩ := foldlM_silent env faults r hpre
      { s with pending := s.pending.push token request false }
    refine ⟨t.onRequest r.pCI.number data datalen r.addr, ?_, .inl ⟨data, datalen, ?_, ?_⟩⟩
    · rw [List.foldlM_append, ht]
      rfl
    · exact calls_silent hpre _ rfl
    · rw [show (t.onRequest r.pCI.number data datalen r.addr).vendor
        = t.vendor ++ [⟨r.pCI.number, data, datalen, r.addr⟩] from rfl, hvendor, ← hr]
      rfl
  | completed pre hpre e response hquery =>
    refine iff_of_true ?_ rfl
    obtain ⟨t, ht, hpending, hfd, hchannel, -⟩ := foldlM_silent env faults r hpre
      { s with pending := s.pending.push token request false }
    have hmem : r ∈ t.pending.nodes := by
      rw [hpending, ← hr]
      exact List.mem_cons_self ..
    obtain ⟨q, x, s', hq, hs', hgone, hpre', hch⟩ := rilOnRequestComplete_spec env.platform
      env.version t hmem (by rw [← hr]; rfl) (by rw [← hr]; rfl) e (response.map intMemory)
      (if response.isSome then wordSize else 0) faults
    have hints : r.pCI.responseFunction = .responseInts := by
      rw [← hr]
      exact responseFunction_of_query request hquery
    refine ⟨s', ?_, .inr ⟨e, response, calls_silent hpre _ rfl, hgone, q.data, ?_,
      encodeCompletion_int_length hints hq, ?_⟩⟩
    · rw [List.foldlM_append, ht]
      simpa [perform] using hs'
    · rw [← hr] at hpre'
      exact hpre'
    · rw [hch, hchannel, hfd]

/-- An x86 target whose vendor speaks version 6, with a SIM that is ready. -/
def simReadyEnv : DispatchEnv := ⟨x86, 6, .simReady, 0, 0⟩

/-- `RIL_REQUEST_HANGUP` of token `8`, with the line number, and without it. -/
def hangupRequest : RequestCode := ⟨12, by decide, by decide⟩
def hangupRecord : List UInt8 := [12, 0, 0, 0, 8, 0, 0, 0, 1, 0, 0, 0, 1, 0, 0, 0]
def shortHangupRecord : List UInt8 := [12, 0, 0, 0, 8, 0, 0, 0]

theorem hangupRecord_settles :
    Settles simReadyEnv noFaults oneRequest [] hangupRecord 8 hangupRequest ⟨hangupRecord, 8⟩ :=
  (dispatch_settles_iff simReadyEnv noFaults oneRequest [] (by decide)).mpr (by decide +kernel)

/-- A hangup request without its line number is accepted, and neither handed to the vendor nor
answered. -/
theorem hangup_without_payload :
    readRecord shortHangupRecord = .accepted 8 hangupRequest ⟨shortHangupRecord, 8⟩ ∧
      ¬ Settles simReadyEnv noFaults oneRequest [] shortHangupRecord 8 hangupRequest
        ⟨shortHangupRecord, 8⟩ := by
  refine ⟨by decide, ?_⟩
  have hnone : calls (dispatch simReadyEnv hangupRequest.dispatchFunction
      ⟨shortHangupRecord, 8⟩) = [] := by decide
  rintro ⟨s', -, ⟨data, datalen, hcalls, -⟩ | ⟨e, response, hcalls, -⟩⟩ <;>
    exact absurd (hnone.symm.trans hcalls) (by simp)

end CtpCommon.Ril
