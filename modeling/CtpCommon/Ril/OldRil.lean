import CtpCommon.Ril.ErrorAtomicity
import CtpCommon.Ril.Unsolicited

/-!
# What an old vendor's client is told

An old vendor reports the state of the SIM as the radio state, and never `RADIO_STATE_ON`.  libril
decodes such a state into a voice technology and a CDMA subscription source.  It answers two queries
with them, and sends notifications when they differ from what two caches hold.

* `wordsOf`, `messages`, `toldBy` — what the client reads off the connection;
* `oldRil` — the changes of the radio state and the queries, in any order;
* `radioStateChanged_old`, `processCommandBuffer_query` — **PROVED**: the messages of one
  step, and the caches after it;
* `Informed` — the invariant: a cache holds `-1`, or what the client was last told;
* `client_informed` — **PROVED**: after a change to such a state the client has been told what it
  decodes to.
-/

namespace CtpCommon.Ril

open Parcel (Write wordOf wordBytes IsInt32)

/-! ### The client -/

/-- The two things an old radio state is decoded into. -/
inductive Decoded where
  | voiceRadioTech
  | cdmaSubscriptionSource
  deriving DecidableEq, Repr

/-- `RIL_REQUEST_VOICE_RADIO_TECH` and `RIL_REQUEST_CDMA_GET_SUBSCRIPTION_SOURCE`. -/
def Decoded.query : Decoded → RequestCode
  | .voiceRadioTech => ⟨108, by decide, by decide⟩
  | .cdmaSubscriptionSource => ⟨104, by decide, by decide⟩

/-- The notification of a change. -/
def Decoded.changed : Decoded → ℕ
  | .voiceRadioTech => rilUnsolVoiceRadioTechChanged
  | .cdmaSubscriptionSource => rilUnsolCdmaSubscriptionSourceChanged

def Decoded.decode : Decoded → RadioState → Int
  | .voiceRadioTech => decodeVoiceRadioTechnology
  | .cdmaSubscriptionSource => decodeCdmaSubscriptionSource

/-- The cache it is kept in. -/
def Decoded.cache (s : RilState) : Decoded → Int
  | .voiceRadioTech => s.voiceRadioTech
  | .cdmaSubscriptionSource => s.cdmaSubscriptionSource

/-- The words of a message. -/
def wordsOf : List UInt8 → List Int
  | a :: b :: c :: d :: rest => wordOf [a, b, c, d] :: wordsOf rest
  | _ => []

/-- The messages on a connection: every frame is its size and its message. -/
def messages : List ChannelEvent → List (List UInt8)
  | .wrote _ _ :: .wrote _ data :: rest => data :: messages rest
  | _ => []

/-- What a message tells a client that is waiting for the reply to a query, if it is: the
notification of a change, or a reply without an error, each with one word. -/
def toldBy (sent : Option (Decoded × Int)) (q : Decoded) : List Int → Option Int
  | [kind, code, num, v] =>
      if kind = responseUnsolicited ∧ code = q.changed ∧ num = 1 then some v else none
  | [kind, token, e, num, v] =>
      if kind = responseSolicited ∧ sent = some (q, token) ∧ e = rilESuccess ∧ num = 1 then some v
      else none
  | _ => none

/-- What the client was last told, after some more messages. -/
def listen (sent : Option (Decoded × Int)) (bodies : List (List Int))
    (told : Decoded → Option Int) (q : Decoded) : Option Int :=
  (bodies.filterMap (toldBy sent q)).getLast?.or (told q)

/-! ### Runs -/

/-- The state of libril, and what the client was last told. -/
structure OldRilState where
  lib : UnsolState
  told : Decoded → Option Int

inductive OldRilAction where
  /-- The vendor reports a change of the radio state. -/
  | radioStateChanged (input : UnsolInput) (data : Option ResponseMemory) (datalen : ℕ)
  /-- The client sends a record. -/
  | record (env : DispatchEnv) (buffer : List UInt8)

/-- The query in a record, and its token. -/
def queryIn (buffer : List UInt8) : Option (Decoded × Int) :=
  match readRecord buffer with
  | .accepted token request _ =>
      if request = Decoded.voiceRadioTech.query then some (.voiceRadioTech, token)
      else if request = Decoded.cdmaSubscriptionSource.query then
        some (.cdmaSubscriptionSource, token)
      else none
  | _ => none

/-- The messages a step has sent, word by word. -/
def sentSince (before after : RilState) : List (List Int) :=
  (messages (after.channel.drop before.channel.length)).map wordsOf

def OldRilState.step (E : UnsolEnv) (σ : OldRilState) : OldRilAction → Option OldRilState
  | .radioStateChanged input data datalen =>
      (rilOnUnsolicitedResponse E input σ.lib
        ⟨rilUnsolResponseRadioStateChanged, data, datalen⟩).map fun s =>
          ⟨s, listen none (sentSince σ.lib.ril s.ril) σ.told⟩
  | .record env buffer =>
      (processCommandBuffer env noFaults σ.lib.ril buffer).map fun ril =>
        ⟨{ σ.lib with ril := ril }, listen (queryIn buffer) (sentSince σ.lib.ril ril) σ.told⟩

/-- Every send succeeds, the vendor never reports `RADIO_STATE_ON`, and the client sends the two
queries only. -/
def OldRilAction.Allowed : OldRilAction → Prop
  | .radioStateChanged input _ _ => input.faults = noFaults ∧ input.radioState ≠ .on
  | .record env buffer => env.radioState ≠ .on ∧ queryIn buffer ≠ none

/-- The runs from a state. -/
def oldRil (E : UnsolEnv) (σ : OldRilState) : Runs.System OldRilState OldRilAction :=
  ⟨σ, OldRilState.step E⟩

/-- After `RIL_register`, with a connection; nothing has been decoded. -/
structure Registered (s : UnsolState) : Prop where
  registerCalled : s.registerCalled = true
  connected : 0 ≤ s.ril.fdCommand
  unknown : ∀ q, Decoded.cache s.ril q = -1

/-! ### Messages -/

theorem wordsOf_words {ws : List Int} (h : ∀ v ∈ ws, IsInt32 v) : wordsOf (words ws) = ws := by
  induction ws with
  | nil => rfl
  | cons v ws ih =>
    have hword := Parcel.wordOf_wordBytes (h v List.mem_cons_self)
    have hrest := ih fun w hw => h w (List.mem_cons_of_mem _ hw)
    show wordOf (wordBytes v) :: wordsOf (words ws) = v :: ws
    rw [hword, hrest]

/-- The frames of some messages. -/
def framesOf (fd : Int) (bodies : List (List Int)) : List ChannelEvent :=
  bodies.flatMap fun ws => frame fd (words ws)

theorem messages_framesOf (fd : Int) (bodies : List (List Int)) :
    messages (framesOf fd bodies) = bodies.map words := by
  induction bodies with
  | nil => rfl
  | cons ws bodies ih => exact congrArg (words ws :: ·) ih

/-- What has been sent since, when it is known to be some frames. -/
theorem sentSince_framesOf {before after : RilState} {fd : Int} {bodies : List (List Int)}
    (h : after.channel = before.channel ++ framesOf fd bodies)
    (hwords : ∀ ws ∈ bodies, ∀ v ∈ ws, IsInt32 v) : sentSince before after = bodies := by
  unfold sentSince
  rw [h, List.drop_left, messages_framesOf, List.map_map]
  have hall : bodies.map (wordsOf ∘ words) = bodies.map id :=
    List.map_congr_left fun ws hws => wordsOf_words (hwords ws hws)
  rw [hall, List.map_id]

/-! ### One message of libril -/

variable {E : UnsolEnv} {s s' : UnsolState} {input : UnsolInput}

theorem scheduleWakeTimeout_ril (s : UnsolState) : (scheduleWakeTimeout E s).ril = s.ril ∧
    (scheduleWakeTimeout E s).registerCalled = s.registerCalled := by
  unfold scheduleWakeTimeout
  cases s.lastWakeTimeoutInfo <;> exact ⟨rfl, rfl⟩

/-- The end of a message of words sends it. -/
theorem finishUnsolicited_ril (hfd : 0 ≤ s.ril.fdCommand) (hfaults : input.faults = noFaults)
    (unsolResponse : Int) (wake : Bool) {ws : List Int} (hshort : ws.length ≤ 8) :
    (finishUnsolicited E input unsolResponse wake (ws.map .int32) s).ril =
        { s.ril with
          channel := s.ril.channel ++
            framesOf s.ril.fdCommand [responseUnsolicited :: unsolResponse :: ws] } ∧
      (finishUnsolicited E input unsolResponse wake (ws.map .int32) s).registerCalled
        = s.registerCalled := by
  have hhead := Parcel.writeInt32_atEnd (show (Parcel.ofBytes []).AtEnd from rfl)
    responseUnsolicited
  have hcode := Parcel.writeInt32_atEnd hhead.2 unsolResponse
  have hall := (Parcel.writeAll_data (ws.map Write.int32) hcode.2).1
  have hdata : ((((Parcel.ofBytes []).writeInt32 responseUnsolicited).writeInt32
      unsolResponse).writeAll (ws.map .int32)).data
        = words (responseUnsolicited :: unsolResponse :: ws) := by
    rw [hall, hcode.1, hhead.1, List.flatMap_map]
    show ([] ++ wordBytes _ ++ wordBytes _) ++ words ws = wordBytes _ ++ (wordBytes _ ++ words ws)
    rw [List.nil_append, List.append_assoc]
  have hlen : (words (responseUnsolicited :: unsolResponse :: ws)).length ≤ maxCommandBytes := by
    rw [length_words, List.length_cons, List.length_cons]
    unfold maxCommandBytes
    omega
  have hsent := sendResponseRaw_frame hfd hlen
  unfold finishUnsolicited
  simp only [hdata, hfaults, hsent]
  have hframes : frame s.ril.fdCommand (words (responseUnsolicited :: unsolResponse :: ws))
      = framesOf s.ril.fdCommand [responseUnsolicited :: unsolResponse :: ws] :=
    (List.append_nil _).symm
  cases wake with
  | true =>
    obtain ⟨hril, hreg⟩ := scheduleWakeTimeout_ril (E := E) { s with
      ril := { s.ril with
        channel := s.ril.channel ++ frame s.ril.fdCommand
          (words (responseUnsolicited :: unsolResponse :: ws)) } }
    simp only [ne_eq, not_true_eq_false, false_and, if_false, if_true]
    rw [hril, hreg, hframes]
    exact ⟨rfl, rfl⟩
  | false =>
    simp only [ne_eq, not_true_eq_false, false_and, if_false, Bool.false_eq_true]
    rw [hframes]
    exact ⟨rfl, trivial⟩

/-- A message of words that encodes is sent, after whatever else it gives rise to. -/
theorem onUnsolicited_sends (more : Int → UnsolState → Option (UnsolState × List Write))
    {c : UnsolCall} {info : UnsolResponseInfo} {ws : List Int}
    (hfaults : input.faults = noFaults) (hreg : s.registerCalled = true)
    (hinfo : unsolResponseInfo c.unsolResponse = some info)
    (hx : encode (s.encodeEnv E) info.responseFunction c.data c.datalen
      = some { writes := ws.map .int32 }) :
    ∃ s₁ : UnsolState, s₁.ril = s.ril ∧ s₁.registerCalled = true ∧
      ∀ (u : UnsolState) (ws' : List Int), more c.unsolResponse s₁ = some (u, ws'.map .int32) →
        0 ≤ u.ril.fdCommand → (ws ++ ws').length ≤ 8 →
        ∃ s', onUnsolicited E more input s c = some s' ∧ s'.registerCalled = u.registerCalled ∧
          s'.ril = { u.ril with
            channel := u.ril.channel ++ framesOf u.ril.fdCommand
              [responseUnsolicited :: c.unsolResponse :: (ws ++ ws')] } := by
  generalize hwake : decide (info.wakeType = .wakePartial) = wake
  obtain ⟨s₁, hs₁, hril, hreg₁, henc⟩ : ∃ s₁ : UnsolState,
      (if wake then grabPartialWakeLock s else s) = s₁ ∧ s₁.ril = s.ril ∧
        s₁.registerCalled = true ∧ s₁.encodeEnv E = s.encodeEnv E := by
    cases wake with
    | true => exact ⟨_, rfl, rfl, hreg, rfl⟩
    | false => exact ⟨_, rfl, rfl, hreg, rfl⟩
  refine ⟨s₁, hril, hreg₁, fun u ws' hmore hfd hshort => ?_⟩
  have hsend := finishUnsolicited_ril (E := E) hfd hfaults c.unsolResponse wake hshort
  refine ⟨_, ?_, hsend.2, hsend.1⟩
  unfold onUnsolicited
  rw [if_neg (by rw [hreg]; decide), hinfo]
  show sendUnsolicited E more input c info.responseFunction
    (decide (info.wakeType = .wakePartial))
    (if decide (info.wakeType = .wakePartial) = true then grabPartialWakeLock s else s) = _
  rw [hwake, hs₁]
  unfold sendUnsolicited
  rw [henc, hx]
  show Option.map _ (more c.unsolResponse s₁) = _
  rw [hmore, Option.map_some, List.map_append]

/-- A message that gets no more payload. -/
theorem onNestedUnsolicited_sends {c : UnsolCall} {info : UnsolResponseInfo} {ws : List Int}
    (hfaults : input.faults = noFaults) (hreg : s.registerCalled = true)
    (hinfo : unsolResponseInfo c.unsolResponse = some info)
    (hx : encode (s.encodeEnv E) info.responseFunction c.data c.datalen
      = some { writes := ws.map .int32 }) (hfd : 0 ≤ s.ril.fdCommand) (hshort : ws.length ≤ 8) :
    ∃ s', onNestedUnsolicited E input s c = some s' ∧ s'.registerCalled = true ∧
      s'.ril = { s.ril with
        channel := s.ril.channel ++
          framesOf s.ril.fdCommand [responseUnsolicited :: c.unsolResponse :: ws] } := by
  obtain ⟨s₁, hril, hreg₁, hsend⟩ := onUnsolicited_sends (fun _ s => some (s, [])) hfaults hreg
    hinfo hx
  obtain ⟨s', hrun, hreg', hril'⟩ := hsend s₁ [] rfl (by rw [hril]; exact hfd)
    (by rw [List.append_nil]; exact hshort)
  rw [List.append_nil, hril] at hril'
  exact ⟨s', hrun, hreg'.trans hreg₁, hril'⟩

/-! ### The notifications -/

/-- A static `int` is encoded as its number, one, and itself. -/
theorem encode_int (env : EncodeEnv) (v : Int) :
    encode env .responseInts (some (intMemory v)) wordSize
      = some { writes := [1, v].map .int32 } := by
  simp [encode, responseInts, arrayResponse, forEach, intMemory, wordSize]

/-- A notification of a static `int`. -/
theorem onNestedUnsolicited_int (hfaults : input.faults = noFaults)
    (hreg : s.registerCalled = true) (hfd : 0 ≤ s.ril.fdCommand) {unsolResponse : ℕ} {v : Int}
    (hf : (unsolResponseInfo unsolResponse).map UnsolResponseInfo.responseFunction
      = some .responseInts) :
    ∃ s', onNestedUnsolicited E input s (intCall unsolResponse v) = some s' ∧
      s'.registerCalled = true ∧ s'.ril = { s.ril with
        channel := s.ril.channel ++
          framesOf s.ril.fdCommand [[responseUnsolicited, unsolResponse, 1, v]] } := by
  obtain ⟨info, hinfo, hfunction⟩ := Option.map_eq_some_iff.mp hf
  have hx : encode (s.encodeEnv E) info.responseFunction (intCall unsolResponse v).data
      (intCall unsolResponse v).datalen = some { writes := [1, v].map .int32 } := by
    rw [hfunction]
    exact encode_int _ v
  exact onNestedUnsolicited_sends hfaults hreg hinfo hx hfd (by simp)

/-- A notification without data. -/
theorem onNestedUnsolicited_void (hfaults : input.faults = noFaults)
    (hreg : s.registerCalled = true) (hfd : 0 ≤ s.ril.fdCommand) :
    ∃ s', onNestedUnsolicited E input s ⟨rilUnsolResponseSimStatusChanged, none, 0⟩ = some s' ∧
      s'.registerCalled = true ∧ s'.ril = { s.ril with
        channel := s.ril.channel ++
          framesOf s.ril.fdCommand [[responseUnsolicited, rilUnsolResponseSimStatusChanged]] } := by
  obtain ⟨info, hinfo, hfunction⟩ := Option.map_eq_some_iff.mp notification_functions.2.2
  have hx : encode (s.encodeEnv E) info.responseFunction none 0
      = some { writes := ([] : List Int).map .int32 } := by
    rw [hfunction]
    rfl
  exact onNestedUnsolicited_sends hfaults hreg hinfo hx hfd (by simp)

theorem framesOf_append (fd : Int) (bodies bodies' : List (List Int)) :
    framesOf fd (bodies ++ bodies') = framesOf fd bodies ++ framesOf fd bodies' :=
  List.flatMap_append

theorem framesOf_nil (fd : Int) : framesOf fd [] = [] := rfl

/-- Only a 3GPP2 technology has a subscription source. -/
def Decoded.applies : Decoded → RadioState → Bool
  | .voiceRadioTech, _ => true
  | .cdmaSubscriptionSource, state => is3gpp2 (decodeVoiceRadioTechnology state)

/-- The notification of a decoded value that differs from its cache. -/
def notified (ril : RilState) (state : RadioState) (q : Decoded) : List (List Int) :=
  if q.applies state ∧ q.decode state ≠ Decoded.cache ril q then
    [[responseUnsolicited, q.changed, 1, q.decode state]]
  else []

theorem notifyVoiceRadioTech_sends (hfaults : input.faults = noFaults)
    (hreg : s.registerCalled = true) (hfd : 0 ≤ s.ril.fdCommand) (state : RadioState) :
    ∃ s', notifyVoiceRadioTech E input (decodeVoiceRadioTechnology state) s = some s' ∧
      s'.registerCalled = true ∧ s'.ril = { s.ril with
        voiceRadioTech := decodeVoiceRadioTechnology state
        channel := s.ril.channel ++
          framesOf s.ril.fdCommand (notified s.ril state .voiceRadioTech) } := by
  unfold notifyVoiceRadioTech notified
  by_cases hnew : decodeVoiceRadioTechnology state ≠ s.ril.voiceRadioTech
  · rw [if_pos hnew, if_pos ⟨rfl, hnew⟩]
    exact onNestedUnsolicited_int (s := { s with ril := { s.ril with
      voiceRadioTech := decodeVoiceRadioTechnology state } }) hfaults hreg hfd
      notification_functions.1
  · rw [if_neg hnew, if_neg fun h => hnew h.2, framesOf_nil, List.append_nil, not_not.mp hnew]
    exact ⟨s, rfl, hreg, rfl⟩

theorem notifyCdmaSubscriptionSource_sends (hfaults : input.faults = noFaults)
    (hreg : s.registerCalled = true) (hfd : 0 ≤ s.ril.fdCommand) (state : RadioState) :
    ∃ s', notifyCdmaSubscriptionSource E input (decodeVoiceRadioTechnology state)
        (decodeCdmaSubscriptionSource state) s = some s' ∧
      s'.registerCalled = true ∧ s'.ril = { s.ril with
        cdmaSubscriptionSource := if is3gpp2 (decodeVoiceRadioTechnology state) then
          decodeCdmaSubscriptionSource state else s.ril.cdmaSubscriptionSource
        channel := s.ril.channel ++
          framesOf s.ril.fdCommand (notified s.ril state .cdmaSubscriptionSource) } := by
  unfold notifyCdmaSubscriptionSource notified
  by_cases htech : is3gpp2 (decodeVoiceRadioTechnology state) = true
  · rw [if_pos htech]
    by_cases hnew : decodeCdmaSubscriptionSource state ≠ s.ril.cdmaSubscriptionSource
    · rw [if_pos ⟨htech, hnew⟩, if_pos ⟨htech, hnew⟩]
      exact onNestedUnsolicited_int (s := { s with ril := { s.ril with
        cdmaSubscriptionSource := decodeCdmaSubscriptionSource state } }) hfaults hreg hfd
        notification_functions.2.1
    · rw [if_neg fun h => hnew h.2, if_neg fun h => hnew h.2, framesOf_nil, List.append_nil,
        not_not.mp hnew]
      exact ⟨s, rfl, hreg, rfl⟩
  · rw [if_neg fun h => htech h.1, if_neg fun h => htech h.1, if_neg htech, framesOf_nil,
      List.append_nil]
    exact ⟨s, rfl, hreg, rfl⟩

theorem notifySimStatus_sends (hfaults : input.faults = noFaults)
    (hreg : s.registerCalled = true) (hfd : 0 ≤ s.ril.fdCommand) (new : Int) :
    ∃ s' sim, notifySimStatus E input new s = some s' ∧ s'.registerCalled = true ∧
      (∀ ws ∈ sim, ws = [responseUnsolicited, rilUnsolResponseSimStatusChanged]) ∧
      s'.ril = { s.ril with
        channel := s.ril.channel ++ framesOf s.ril.fdCommand sim } := by
  unfold notifySimStatus
  by_cases hnew : new ≠ s.simRuimStatus
  · rw [if_pos hnew]
    obtain ⟨s', hrun, hreg', hril⟩ := onNestedUnsolicited_void (E := E)
      (s := { s with simRuimStatus := new }) hfaults hreg hfd
    exact ⟨s', _, hrun, hreg', fun ws hws => List.mem_singleton.mp hws, hril⟩
  · rw [if_neg hnew]
    refine ⟨s, [], rfl, hreg, fun ws hws => absurd hws List.not_mem_nil, ?_⟩
    rw [framesOf_nil, List.append_nil]

/-- A state between `RADIO_STATE_UNAVAILABLE` and `RADIO_STATE_ON`. -/
def RadioState.Old (state : RadioState) : Prop :=
  RadioState.unavailable.toInt < state.toInt ∧ state.toInt < RadioState.on.toInt

instance : DecidablePred RadioState.Old := fun _ => inferInstanceAs (Decidable (_ ∧ _))

theorem RadioState.old_iff (state : RadioState) :
    state.Old ↔ state ≠ .off ∧ state ≠ .unavailable ∧ state ≠ .on := by
  cases state <;> decide

/-- **The notifications of an old radio state**, and the caches after them. -/
theorem processRadioState_old (hfaults : input.faults = noFaults)
    (hreg : s.registerCalled = true) (hfd : 0 ≤ s.ril.fdCommand) (hold : input.radioState.Old) :
    ∃ s' sim, processRadioState E input s = some (s', .on) ∧ s'.registerCalled = true ∧
      (∀ ws ∈ sim, ws = [responseUnsolicited, rilUnsolResponseSimStatusChanged]) ∧
      s'.ril = { s.ril with
        voiceRadioTech := decodeVoiceRadioTechnology input.radioState
        cdmaSubscriptionSource := if is3gpp2 (decodeVoiceRadioTechnology input.radioState) then
          decodeCdmaSubscriptionSource input.radioState else s.ril.cdmaSubscriptionSource
        channel := s.ril.channel ++ framesOf s.ril.fdCommand
          (notified s.ril input.radioState .voiceRadioTech ++
            (notified s.ril input.radioState .cdmaSubscriptionSource ++ sim)) } := by
  obtain ⟨s₁, hrun₁, hreg₁, hril₁⟩ := notifyVoiceRadioTech_sends (E := E) hfaults hreg hfd
    input.radioState
  obtain ⟨s₂, hrun₂, hreg₂, hril₂⟩ := notifyCdmaSubscriptionSource_sends (E := E) hfaults hreg₁
    (by rw [hril₁]; exact hfd) input.radioState
  obtain ⟨s₃, sim, hrun₃, hreg₃, hsim, hril₃⟩ := notifySimStatus_sends (E := E) hfaults hreg₂
    (by rw [hril₂, hril₁]; exact hfd) (decodeSimStatus input.radioState)
  refine ⟨s₃, sim, ?_, hreg₃, hsim, ?_⟩
  · unfold processRadioState
    simp only [if_pos ((RadioState.old_iff _).mp hold)]
    rw [hrun₁]
    show (notifyCdmaSubscriptionSource E input _ _ s₁ >>= _) = _
    rw [hrun₂]
    show (notifySimStatus E input _ s₂ >>= _) = _
    rw [hrun₃]
    rfl
  · rw [hril₃, hril₂, hril₁, framesOf_append, framesOf_append, ← List.append_assoc,
      ← List.append_assoc]
    rfl

/-- A change of the radio state is encoded without data, whatever the vendor passes. -/
theorem changed_function : (unsolResponseInfo rilUnsolResponseRadioStateChanged).map
    UnsolResponseInfo.responseFunction = some .responseVoid := by decide +kernel

/-- The message that reports the radio state. -/
def stateMessage (state : RadioState) : List Int :=
  [responseUnsolicited, rilUnsolResponseRadioStateChanged, state.toInt]

/-- The message of a change, behind whatever the state gives rise to. -/
theorem radioStateChanged_sends (hfaults : input.faults = noFaults)
    (hreg : s.registerCalled = true) (data : Option ResponseMemory) (datalen : ℕ) :
    ∃ s₁ : UnsolState, s₁.ril = s.ril ∧ s₁.registerCalled = true ∧
      ∀ u state, processRadioState E input s₁ = some (u, state) → 0 ≤ u.ril.fdCommand →
        ∃ s', rilOnUnsolicitedResponse E input s
            ⟨rilUnsolResponseRadioStateChanged, data, datalen⟩ = some s' ∧
          s'.registerCalled = u.registerCalled ∧ s'.ril = { u.ril with
            channel := u.ril.channel ++ framesOf u.ril.fdCommand [stateMessage state] } := by
  obtain ⟨info, hinfo, hfunction⟩ := Option.map_eq_some_iff.mp changed_function
  have hx : encode (s.encodeEnv E) info.responseFunction data datalen
      = some { writes := ([] : List Int).map .int32 } := by
    rw [hfunction]
    rfl
  obtain ⟨s₁, hril, hreg₁, hsend⟩ := onUnsolicited_sends (c := ⟨_, data, datalen⟩)
    (morePayload E input) hfaults hreg hinfo hx
  refine ⟨s₁, hril, hreg₁, fun u state hrun hfd => ?_⟩
  have hmore : morePayload E input rilUnsolResponseRadioStateChanged s₁
      = some (u, [state.toInt].map .int32) := by
    unfold morePayload
    rw [if_pos rfl, hrun]
    rfl
  exact hsend u [state.toInt] hmore hfd (by simp)

/-- **A change to an old radio state**: the notifications, and the message itself. -/
theorem radioStateChanged_old (hfaults : input.faults = noFaults)
    (hreg : s.registerCalled = true) (hfd : 0 ≤ s.ril.fdCommand) (hold : input.radioState.Old)
    (data : Option ResponseMemory) (datalen : ℕ) :
    ∃ s' sim, rilOnUnsolicitedResponse E input s
        ⟨rilUnsolResponseRadioStateChanged, data, datalen⟩ = some s' ∧
      s'.registerCalled = true ∧
      (∀ ws ∈ sim, ws = [responseUnsolicited, rilUnsolResponseSimStatusChanged]) ∧
      s'.ril = { s.ril with
        voiceRadioTech := decodeVoiceRadioTechnology input.radioState
        cdmaSubscriptionSource := if is3gpp2 (decodeVoiceRadioTechnology input.radioState) then
          decodeCdmaSubscriptionSource input.radioState else s.ril.cdmaSubscriptionSource
        channel := s.ril.channel ++ framesOf s.ril.fdCommand
          (notified s.ril input.radioState .voiceRadioTech ++
            (notified s.ril input.radioState .cdmaSubscriptionSource ++
              (sim ++ [stateMessage .on]))) } := by
  obtain ⟨s₁, hril, hreg₁, hsend⟩ := radioStateChanged_sends (E := E) hfaults hreg data datalen
  obtain ⟨u, sim, hrun, hregu, hsim, hrilu⟩ := processRadioState_old (E := E) hfaults hreg₁
    (by rw [hril]; exact hfd) hold
  obtain ⟨s', hrun', hreg', hril'⟩ := hsend u .on hrun (by rw [hrilu, hril]; exact hfd)
  refine ⟨s', sim, hrun', hreg'.trans hregu, hsim, ?_⟩
  rw [hril', hrilu, hril]
  simp only [framesOf_append, List.append_assoc]

/-- A change to another radio state. -/
theorem radioStateChanged_other (hfaults : input.faults = noFaults)
    (hreg : s.registerCalled = true) (hfd : 0 ≤ s.ril.fdCommand) (hold : ¬ input.radioState.Old)
    (data : Option ResponseMemory) (datalen : ℕ) :
    ∃ s', rilOnUnsolicitedResponse E input s
        ⟨rilUnsolResponseRadioStateChanged, data, datalen⟩ = some s' ∧
      s'.registerCalled = true ∧ s'.ril = { s.ril with
        channel := s.ril.channel ++
          framesOf s.ril.fdCommand [stateMessage input.radioState] } := by
  obtain ⟨s₁, hril, hreg₁, hsend⟩ := radioStateChanged_sends (E := E) hfaults hreg data datalen
  have hrun : processRadioState E input s₁ = some (s₁, input.radioState) := by
    unfold processRadioState
    simp only [if_neg fun h => hold ((RadioState.old_iff _).mpr h)]
  obtain ⟨s', hrun', hreg', hril'⟩ := hsend s₁ _ hrun (by rw [hril]; exact hfd)
  rw [hril] at hril'
  exact ⟨s', hrun', hreg'.trans hreg₁, hril'⟩

/-! ### The queries -/

section

variable {P : Platform} {version : Int} {ril : RilState} {r : RequestInfo} {q : Decoded}

/-- The effect that stores a decoded value. -/
def Decoded.store : Decoded → Int → DispatchEffect
  | .voiceRadioTech => .setVoiceRadioTech
  | .cdmaSubscriptionSource => .setCdmaSubscriptionSource

theorem query_dispatch (env : DispatchEnv) (q : Decoded) (p : Parcel) :
    dispatch env q.query.dispatchFunction p
      = dispatchFromRadioState env q.decode q.store p := by
  cases q <;> rfl

theorem query_response (q : Decoded) : q.query.responseFunction = .responseInts ∧
    q.query.number ≠ rilRequestRadioPower := by
  cases q <;> exact ⟨rfl, by decide⟩

/-- **A completion with these words** dequeues the request and sends them. -/
theorem rilOnRequestComplete_words (hr : r ∈ ril.pending.nodes) (hlocal : r.isLocal = false)
    (hcancelled : r.cancelled = false) (hfd : 0 ≤ ril.fdCommand) {e : Int}
    {response : Option ResponseMemory} {responselen : ℕ} {ws : List Int}
    (hencode : ∀ env, encodeCompletion env r e response responselen
      = some (((messageHead r.token).writeInt32 e).writeAll (ws.map .int32),
        { writes := ws.map .int32 })) (hshort : ws.length ≤ 8) :
    rilOnRequestComplete P version ril r.addr e response responselen noFaults
      = some { ril with
        pending := ril.pending.unlink r.addr
        channel := ril.channel ++
          framesOf ril.fdCommand [responseSolicited :: r.token :: e :: ws] } := by
  obtain ⟨hhead, hend⟩ := messageHead_data r.token e
  have hdata : (((messageHead r.token).writeInt32 e).writeAll (ws.map .int32)).data
      = words (responseSolicited :: r.token :: e :: ws) := by
    rw [(Parcel.writeAll_data (ws.map Write.int32) hend).1, hhead, List.flatMap_map]
    exact List.flatMap_append.symm
  have hlen : (words (responseSolicited :: r.token :: e :: ws)).length ≤ maxCommandBytes := by
    rw [length_words, List.length_cons, List.length_cons, List.length_cons]
    unfold maxCommandBytes
    omega
  unfold rilOnRequestComplete
  rw [checkAndDequeueRequestInfo_mem ril.pending hr]
  simp only [hlocal, hcancelled, Bool.false_eq_true, if_false, hencode, Option.map_some, hdata]
  show some { ril with
    pending := ril.pending.unlink r.addr
    channel := ril.channel ++ (sendResponseRaw ril.fdCommand _ noFaults).2 } = _
  rw [sendResponseRaw_frame hfd hlen]
  show some { ril with
    pending := ril.pending.unlink r.addr
    channel := ril.channel ++ frame ril.fdCommand _ } = _
  rw [show frame ril.fdCommand (words (responseSolicited :: r.token :: e :: ws))
    = framesOf ril.fdCommand [responseSolicited :: r.token :: e :: ws] from
      (List.append_nil _).symm]

/-- A completion without data. -/
theorem encodeCompletion_error (env : EncodeEnv) (hq : r.pCI = q.query) (e : Int) :
    encodeCompletion env r e none 0
      = some (((messageHead r.token).writeInt32 e).writeAll (([] : List Int).map .int32),
        { writes := ([] : List Int).map .int32 }) := by
  have hcall : shouldCallResponseFunction r none = false := by
    unfold shouldCallResponseFunction
    rw [hq, if_neg (query_response q).2]
    rfl
  simp only [encodeCompletion, hcall, Bool.false_eq_true, if_false]
  rfl

/-- A completion with a static `int`. -/
theorem encodeCompletion_int (env : EncodeEnv) (hq : r.pCI = q.query) (e v : Int) :
    encodeCompletion env r e (some (intMemory v)) wordSize
      = some (((messageHead r.token).writeInt32 e).writeAll ([1, v].map .int32),
        { writes := [1, v].map .int32 }) := by
  have hcall : shouldCallResponseFunction r (some (intMemory v)) = true := by
    unfold shouldCallResponseFunction
    rw [hq, if_neg (query_response q).2]
    rfl
  simp only [encodeCompletion, hcall, if_true, hq, (query_response q).1, encode_int,
    Option.map_some, ne_eq, not_true_eq_false, if_false]

/-- A token that is not pending is ignored. -/
theorem rilOnRequestComplete_gone {t : ℕ} (h : ∀ r ∈ ril.pending.nodes, r.addr ≠ t) (e : Int)
    (response : Option ResponseMemory) (responselen : ℕ) (faults : WriteFaults) :
    rilOnRequestComplete P version ril t e response responselen faults = some ril := by
  have hnone : checkAndDequeueRequestInfo ril.pending t = none := by
    unfold checkAndDequeueRequestInfo
    split
    · rfl
    · rw [List.find?_eq_none.mpr fun r hr => by simpa using h r hr]
      rfl
  unfold rilOnRequestComplete
  rw [hnone]

theorem Decoded.decode_nonneg {state : RadioState} (q : Decoded) (h : state.Old) :
    0 ≤ q.decode state := by
  cases q <;> cases state <;> first | decide | exact absurd h (by decide)

/-- Out of those states, and not on, the radio is off or unavailable. -/
theorem Decoded.decode_other {state : RadioState} (q : Decoded) (h : ¬ state.Old)
    (hon : state ≠ .on) : (state = .unavailable ∨ state = .off) ∧ q.decode state = -1 := by
  cases state <;> first
    | exact absurd rfl hon
    | exact absurd (by decide) h
    | cases q <;> decide

/-- What a query is answered with. -/
def answer (token : Int) (state : RadioState) (q : Decoded) : List Int :=
  if state.Old then [responseSolicited, token, rilESuccess, 1, q.decode state]
  else [responseSolicited, token, rilERadioNotAvailable]

theorem perform_store (env : DispatchEnv) (r : RequestInfo) (ril : RilState) (q : Decoded)
    (v : Int) :
    ∃ ril', perform env noFaults r ril (q.store v) = some ril' ∧
      ril'.fdCommand = ril.fdCommand ∧ ril'.pending = ril.pending ∧ ril'.channel = ril.channel ∧
      ∀ q', Decoded.cache ril' q' = if q' = q then v else Decoded.cache ril q' := by
  cases q <;> exact ⟨_, rfl, rfl, rfl, rfl, fun q' => by cases q' <;> rfl⟩

/-- What a query does, once its request is pending. -/
theorem perform_query (env : DispatchEnv) (hr : r ∈ ril.pending.nodes)
    (hlocal : r.isLocal = false) (hcancelled : r.cancelled = false) (hq : r.pCI = q.query)
    (hfd : 0 ≤ ril.fdCommand) (hon : env.radioState ≠ .on) (p : Parcel) :
    ∃ ril', (dispatch env q.query.dispatchFunction p).foldlM (perform env noFaults r) ril
        = some ril' ∧
      ril'.fdCommand = ril.fdCommand ∧
      (∀ q', Decoded.cache ril' q'
        = if q' = q then q.decode env.radioState else Decoded.cache ril q') ∧
      ril'.channel = ril.channel ++
        framesOf ril.fdCommand [answer r.token env.radioState q] := by
  rw [query_dispatch]
  unfold dispatchFromRadioState answer
  simp only [if_neg hon]
  by_cases hold : env.radioState.Old
  · -- the value is stored, and then sent
    obtain ⟨hoff, hunavailable, -⟩ := (RadioState.old_iff _).mp hold
    obtain ⟨t, ht, hfdt, hpt, hct, hcachet⟩ :=
      perform_store env r ril q (q.decode env.radioState)
    have hsent : rilOnRequestComplete env.platform env.version t r.addr rilESuccess
        (some (intMemory (q.decode env.radioState))) wordSize noFaults = some _ :=
      rilOnRequestComplete_words (hpt ▸ hr) hlocal hcancelled (hfdt ▸ hfd)
        (fun e => encodeCompletion_int e hq rilESuccess (q.decode env.radioState)) (by simp)
    rw [if_neg (by rintro (h | h) <;> contradiction),
      if_neg (not_lt.mpr (q.decode_nonneg hold)), List.nil_append, List.foldlM_cons, ht,
      if_pos hold, ← hfdt, ← hct]
    refine ⟨_, (bind_pure _).trans hsent, rfl, fun q' => ?_, rfl⟩
    rw [← hcachet q']
    cases q' <;> rfl
  · -- the request is completed before the value is stored, and the second completion is void
    obtain ⟨hnone, hdecode⟩ := q.decode_other hold hon
    have hsent : rilOnRequestComplete env.platform env.version ril r.addr rilERadioNotAvailable
        none 0 noFaults = some _ :=
      rilOnRequestComplete_words hr hlocal hcancelled hfd
        (fun e => encodeCompletion_error e hq rilERadioNotAvailable) (by simp)
    rw [if_pos hnone, hdecode, if_pos (by decide), if_neg hold]
    generalize hgone : { ril with
      pending := ril.pending.unlink r.addr
      channel := ril.channel ++ framesOf ril.fdCommand
        [responseSolicited :: r.token :: rilERadioNotAvailable :: []] } = ril₁ at hsent
    obtain ⟨t, ht, hfdt, hpt, hct, hcachet⟩ := perform_store env r ril₁ q (-1)
    have hvoid : rilOnRequestComplete env.platform env.version t r.addr rilEGenericFailure none 0
        noFaults = some t := by
      refine rilOnRequestComplete_gone (fun r' hr' => ?_) _ _ _ _
      rw [hpt, ← hgone] at hr'
      exact ril.pending.addr_ne_of_mem_unlink hr'
    refine ⟨t, ?_, by rw [hfdt, ← hgone], fun q' => ?_, by rw [hct, ← hgone]⟩
    · show (rilOnRequestComplete env.platform env.version ril r.addr rilERadioNotAvailable none 0
        noFaults >>= fun u => perform env noFaults r u (q.store (-1)) >>= fun u =>
          rilOnRequestComplete env.platform env.version u r.addr rilEGenericFailure none 0 noFaults
            >>= pure) = some t
      rw [hsent, Option.bind_eq_bind, Option.bind_some, ht, Option.bind_some, hvoid]
      rfl
    · rw [hcachet q', ← hgone]
      cases q' <;> rfl

/-- The token of a record is a word. -/
theorem isInt32_readRecord {buffer : List UInt8} {token : Int} {request : RequestCode}
    {p : Parcel} (h : readRecord buffer = .accepted token request p) : IsInt32 token := by
  have hword : ∀ {p p' : Parcel} {v : Int}, p.readInt32 = (some v, p') → IsInt32 v := by
    intro p p' v hv
    obtain ⟨bs, -, rfl⟩ := Option.map_eq_some_iff.mp (congrArg Prod.fst hv)
    exact Parcel.isInt32_wordOf bs
  unfold readRecord at h
  split at h
  · cases h
  · split at h
    · cases h
    · rename_i hread
      split at h
      · cases h
        exact hword hread
      · cases h

/-- **A query** stores what the radio state decodes to, and answers with it or an error. -/
theorem processCommandBuffer_query (env : DispatchEnv) {buffer : List UInt8} {token : Int}
    (hquery : queryIn buffer = some (q, token)) (hfd : 0 ≤ ril.fdCommand)
    (hon : env.radioState ≠ .on) :
    ∃ ril', processCommandBuffer env noFaults ril buffer = some ril' ∧
      ril'.fdCommand = ril.fdCommand ∧
      (∀ q', Decoded.cache ril' q'
        = if q' = q then q.decode env.radioState else Decoded.cache ril q') ∧
      ril'.channel = ril.channel ++ framesOf ril.fdCommand [answer token env.radioState q] ∧
      IsInt32 token := by
  unfold queryIn at hquery
  cases hrecord : readRecord buffer with
  | invalid => rw [hrecord] at hquery; cases hquery
  | unsupported _ => rw [hrecord] at hquery; cases hquery
  | accepted token' request p =>
    rw [hrecord] at hquery
    obtain ⟨rfl, rfl⟩ : token' = token ∧ request = q.query := by
      simp only at hquery
      split at hquery
      · obtain ⟨rfl, rfl⟩ := Prod.mk.inj (Option.some.inj hquery)
        exact ⟨rfl, ‹_›⟩
      · split at hquery
        · obtain ⟨rfl, rfl⟩ := Prod.mk.inj (Option.some.inj hquery)
          exact ⟨rfl, ‹_›⟩
        · cases hquery
    obtain ⟨ril', hrun, hfd', hcache, hchannel⟩ := @perform_query
      { ril with pending := ril.pending.push token' q.query false }
      (ril.pending.node token' q.query false) q env List.mem_cons_self rfl rfl rfl hfd hon p
    refine ⟨ril', ?_, hfd', fun q' => ?_, hchannel, isInt32_readRecord hrecord⟩
    · unfold processCommandBuffer
      rw [hrecord]
      exact hrun
    · rw [hcache q']
      cases q' <;> rfl

end

/-! ### What the client has been told -/

/-- The words of the messages of a step fit. -/
def Fits (bodies : List (List Int)) : Prop := ∀ ws ∈ bodies, ∀ v ∈ ws, IsInt32 v

theorem Fits.append {bodies bodies' : List (List Int)} (h : Fits bodies) (h' : Fits bodies') :
    Fits (bodies ++ bodies') := fun ws hws => (List.mem_append.mp hws).elim (h ws) (h' ws)

theorem isInt32_of_small {v : Int} (h : -1 ≤ v ∧ v ≤ 2000) : IsInt32 v := by
  unfold IsInt32
  omega

theorem fits_of_small {bodies : List (List Int)}
    (h : ∀ ws ∈ bodies, ∀ v ∈ ws, -1 ≤ v ∧ v ≤ 2000) : Fits bodies :=
  fun ws hws v hv => isInt32_of_small (h ws hws v hv)

theorem Decoded.decode_small (state : RadioState) (q : Decoded) :
    -1 ≤ q.decode state ∧ q.decode state ≤ 2000 := by
  cases q <;> cases state <;> decide

theorem fits_answer {token : Int} (h : IsInt32 token) (state : RadioState) (q : Decoded) :
    Fits [answer token state q] := by
  intro ws hws
  rw [List.mem_singleton.mp hws]
  unfold answer
  split
  · rw [List.forall_mem_cons, List.forall_mem_cons]
    refine ⟨isInt32_of_small (by decide), h, fun v hv => isInt32_of_small ?_⟩
    rcases List.mem_cons.mp hv with rfl | hv
    · decide
    · rcases List.mem_cons.mp hv with rfl | hv
      · decide
      · rw [List.mem_singleton.mp hv]
        exact q.decode_small state
  · rw [List.forall_mem_cons, List.forall_mem_cons]
    refine ⟨isInt32_of_small (by decide), h, fun v hv => isInt32_of_small ?_⟩
    rw [List.mem_singleton.mp hv]
    decide

theorem fits_notified (ril : RilState) (state : RadioState) (q : Decoded) :
    Fits (notified ril state q) := by
  refine fits_of_small fun ws hws v hv => ?_
  unfold notified at hws
  split at hws
  · rw [List.mem_singleton.mp hws] at hv
    have hsmall := q.decode_small state
    simp only [List.mem_cons, List.not_mem_nil, or_false] at hv
    rcases hv with rfl | rfl | rfl | rfl
    · decide
    · cases q <;> decide
    · decide
    · exact hsmall
  · cases hws

theorem fits_stateMessage (state : RadioState) : Fits [stateMessage state] := by
  refine fits_of_small fun ws hws v hv => ?_
  rw [List.mem_singleton.mp hws] at hv
  simp only [stateMessage, List.mem_cons, List.not_mem_nil, or_false] at hv
  rcases hv with rfl | rfl | rfl
  · decide
  · decide
  · cases state <;> decide

theorem fits_sim {sim : List (List Int)}
    (h : ∀ ws ∈ sim, ws = [responseUnsolicited, rilUnsolResponseSimStatusChanged]) :
    Fits sim := by
  refine fits_of_small fun ws hws v hv => ?_
  rw [h ws hws] at hv
  simp only [List.mem_cons, List.not_mem_nil, or_false] at hv
  rcases hv with rfl | rfl <;> decide

/-- The invariant of the runs: a cache that has been filled holds what the client was last told. -/
structure Informed (σ : OldRilState) : Prop where
  registerCalled : σ.lib.registerCalled = true
  connected : 0 ≤ σ.lib.ril.fdCommand
  told : ∀ q, Decoded.cache σ.lib.ril q = -1 ∨ σ.told q = some (Decoded.cache σ.lib.ril q)

/-- **What the answer to a query tells**: the decoded value of an old state, and else nothing. -/
theorem listen_answer (token : Int) (state : RadioState) (q q' : Decoded)
    (told : Decoded → Option Int) :
    listen (some (q, token)) [answer token state q] told q'
      = if q' = q ∧ state.Old then some (q.decode state) else told q' := by
  unfold listen answer
  by_cases hold : state.Old
  · by_cases hq : q' = q
    · subst hq
      simp [toldBy, hold, rilESuccess, responseSolicited]
    · have hne : ¬ (q, token) = (q', token) := fun h => hq (Prod.mk.inj h).1.symm
      simp [toldBy, hold, hq, Ne.symm hq]
  · simp [toldBy, hold]

theorem Decoded.changed_injective {q q' : Decoded} (h : q.changed = q'.changed) : q = q' := by
  cases q <;> cases q' <;> first | rfl | exact absurd h (by decide)

/-- What a notification tells. -/
theorem filterMap_notified (sent : Option (Decoded × Int)) (ril : RilState) (state : RadioState)
    (q q' : Decoded) :
    (notified ril state q).filterMap (toldBy sent q')
      = if q' = q ∧ q.applies state ∧ q.decode state ≠ Decoded.cache ril q then [q.decode state]
        else [] := by
  unfold notified
  by_cases hnew : q.applies state ∧ q.decode state ≠ Decoded.cache ril q
  · rw [if_pos hnew]
    by_cases hq : q' = q
    · subst hq
      rw [if_pos ⟨rfl, hnew⟩]
      simp [toldBy, responseUnsolicited]
    · rw [if_neg fun h => hq h.1]
      have hne : ¬ ((q.changed : Int) = q'.changed) := fun h =>
        hq (Decoded.changed_injective (Int.ofNat.inj h)).symm
      simp [toldBy, hne]
  · rw [if_neg hnew, if_neg fun h => hnew h.2]
    rfl

/-- **What the messages of an old radio state tell**: the decoded values that differ from their
caches. -/
theorem listen_changed (sent : Option (Decoded × Int)) (ril : RilState) (state : RadioState)
    {sim : List (List Int)}
    (hsim : ∀ ws ∈ sim, ws = [responseUnsolicited, rilUnsolResponseSimStatusChanged])
    (told : Decoded → Option Int) (q : Decoded) :
    listen sent (notified ril state .voiceRadioTech ++
        (notified ril state .cdmaSubscriptionSource ++ (sim ++ [stateMessage .on]))) told q
      = if q.applies state ∧ q.decode state ≠ Decoded.cache ril q then some (q.decode state)
        else told q := by
  have hnone : (sim ++ [stateMessage .on]).filterMap (toldBy sent q) = [] := by
    rw [List.filterMap_eq_nil_iff]
    intro ws hws
    rcases List.mem_append.mp hws with hws | hws
    · rw [hsim ws hws]
      rfl
    · rw [List.mem_singleton.mp hws]
      rfl
  unfold listen
  rw [List.filterMap_append, List.filterMap_append, hnone, List.append_nil,
    filterMap_notified, filterMap_notified]
  cases q with
  | voiceRadioTech =>
    rw [if_neg fun h : Decoded.voiceRadioTech = .cdmaSubscriptionSource ∧ _ =>
      Decoded.noConfusion h.1, List.append_nil]
    by_cases hnew : Decoded.applies .voiceRadioTech state ∧
      Decoded.decode .voiceRadioTech state ≠ Decoded.cache ril .voiceRadioTech
    · rw [if_pos ⟨rfl, hnew⟩, if_pos hnew]
      rfl
    · rw [if_neg fun h => hnew h.2, if_neg hnew]
      rfl
  | cdmaSubscriptionSource =>
    rw [if_neg fun h : Decoded.cdmaSubscriptionSource = .voiceRadioTech ∧ _ =>
      Decoded.noConfusion h.1, List.nil_append]
    by_cases hnew : Decoded.applies .cdmaSubscriptionSource state ∧
      Decoded.decode .cdmaSubscriptionSource state ≠ Decoded.cache ril .cdmaSubscriptionSource
    · rw [if_pos ⟨rfl, hnew⟩, if_pos hnew]
      rfl
    · rw [if_neg fun h => hnew h.2, if_neg hnew]
      rfl

/-! ### The invariant -/

variable {σ σ' : OldRilState}

theorem Registered.informed {s : UnsolState} (h : Registered s) (told : Decoded → Option Int) :
    Informed ⟨s, told⟩ :=
  ⟨h.registerCalled, h.connected, fun q => .inl (h.unknown q)⟩

/-- **A change to an old radio state informs the client.** -/
theorem Informed.changed_old (h : Informed σ) (hfaults : input.faults = noFaults)
    (hold : input.radioState.Old) (data : Option ResponseMemory) (datalen : ℕ) :
    ∃ σ', σ.step E (.radioStateChanged input data datalen) = some σ' ∧ Informed σ' ∧
      ∀ q, q.applies input.radioState → σ'.told q = some (q.decode input.radioState) := by
  obtain ⟨s', sim, hrun, hreg, hsim, hril⟩ := radioStateChanged_old (E := E) hfaults
    h.registerCalled h.connected hold data datalen
  have hsent := @sentSince_framesOf σ.lib.ril s'.ril _ _
    (congrArg RilState.channel hril) ((fits_notified _ _ _).append ((fits_notified _ _ _).append
      ((fits_sim hsim).append (fits_stateMessage _))))
  have htold : ∀ q, listen none (sentSince σ.lib.ril s'.ril) σ.told q
      = if q.applies input.radioState ∧ q.decode input.radioState ≠ Decoded.cache σ.lib.ril q then
          some (q.decode input.radioState) else σ.told q := fun q => by
    rw [hsent, listen_changed none σ.lib.ril input.radioState hsim]
  have hcache : ∀ q, Decoded.cache s'.ril q = if q.applies input.radioState then
      q.decode input.radioState else Decoded.cache σ.lib.ril q := by
    intro q
    rw [hril]
    cases q <;> rfl
  -- a filled cache that a decoded value equals has been told
  have hall : ∀ q, q.applies input.radioState →
      listen none (sentSince σ.lib.ril s'.ril) σ.told q = some (q.decode input.radioState) := by
    intro q happlies
    rw [htold]
    by_cases hnew : q.decode input.radioState = Decoded.cache σ.lib.ril q
    · rw [if_neg fun h => h.2 hnew]
      have hnonneg := q.decode_nonneg hold
      rcases h.told q with hempty | hfull
      · omega
      · rw [hfull, hnew]
    · rw [if_pos ⟨happlies, hnew⟩]
  have hstep : σ.step E (.radioStateChanged input data datalen)
      = some ⟨s', listen none (sentSince σ.lib.ril s'.ril) σ.told⟩ :=
    congrArg (Option.map _) hrun
  refine ⟨_, hstep, ⟨hreg, ?_, fun q => ?_⟩, hall⟩
  · show 0 ≤ s'.ril.fdCommand
    rw [hril]
    exact h.connected
  · show Decoded.cache s'.ril q = -1 ∨ _ = some (Decoded.cache s'.ril q)
    rw [hcache]
    by_cases happlies : q.applies input.radioState = true
    · rw [if_pos happlies]
      exact .inr (hall q happlies)
    · rw [if_neg happlies]
      refine (h.told q).imp_right fun htell => ?_
      show listen none (sentSince σ.lib.ril s'.ril) σ.told q = _
      rw [htold, if_neg fun h => happlies h.1, htell]

/-- A change to another state tells nothing, and leaves the caches. -/
theorem Informed.changed_other (h : Informed σ) (hfaults : input.faults = noFaults)
    (hold : ¬ input.radioState.Old) (data : Option ResponseMemory) (datalen : ℕ) :
    ∃ σ', σ.step E (.radioStateChanged input data datalen) = some σ' ∧ Informed σ' := by
  obtain ⟨s', hrun, hreg, hril⟩ := radioStateChanged_other (E := E) hfaults h.registerCalled
    h.connected hold data datalen
  have hsent := @sentSince_framesOf σ.lib.ril s'.ril _ _
    (congrArg RilState.channel hril) (fits_stateMessage _)
  have hstep : σ.step E (.radioStateChanged input data datalen)
      = some ⟨s', listen none (sentSince σ.lib.ril s'.ril) σ.told⟩ :=
    congrArg (Option.map _) hrun
  refine ⟨_, hstep, hreg, ?_, fun q => ?_⟩
  · show 0 ≤ s'.ril.fdCommand
    rw [hril]
    exact h.connected
  · show Decoded.cache s'.ril q = -1 ∨
      listen none (sentSince σ.lib.ril s'.ril) σ.told q = some (Decoded.cache s'.ril q)
    rw [hsent, hril]
    exact h.told q

/-- **A query** fills a cache with what it tells, or with `-1`. -/
theorem Informed.record (h : Informed σ) (env : DispatchEnv) (hon : env.radioState ≠ .on)
    {buffer : List UInt8} (hquery : queryIn buffer ≠ none) :
    ∃ σ', σ.step E (.record env buffer) = some σ' ∧ Informed σ' := by
  obtain ⟨⟨q, token⟩, hq⟩ := Option.ne_none_iff_exists'.mp hquery
  obtain ⟨ril', hrun, hfd, hcache, hchannel, htoken⟩ :=
    processCommandBuffer_query env hq h.connected hon
  have hsent := sentSince_framesOf hchannel (fits_answer htoken env.radioState q)
  have hstep : σ.step E (.record env buffer) = some ⟨{ σ.lib with ril := ril' },
      listen (queryIn buffer) (sentSince σ.lib.ril ril') σ.told⟩ := congrArg (Option.map _) hrun
  refine ⟨_, hstep, h.registerCalled, ?_, fun q' => ?_⟩
  · show 0 ≤ ril'.fdCommand
    rw [hfd]
    exact h.connected
  · show Decoded.cache ril' q' = -1 ∨
      listen (queryIn buffer) (sentSince σ.lib.ril ril') σ.told q' = some (Decoded.cache ril' q')
    rw [hsent, hq, listen_answer, hcache]
    by_cases hsame : q' = q
    · rw [if_pos hsame]
      by_cases hold : env.radioState.Old
      · rw [if_pos ⟨hsame, hold⟩]
        exact .inr rfl
      · exact .inl (q.decode_other hold hon).2
    · rw [if_neg hsame, if_neg fun h => hsame h.1]
      exact h.told q'

/-- **No step stops, and each keeps the invariant.** -/
theorem Informed.step (h : Informed σ) {a : OldRilAction} (ha : a.Allowed) :
    ∃ σ', σ.step E a = some σ' ∧ Informed σ' := by
  cases a with
  | radioStateChanged input data datalen =>
    by_cases hold : input.radioState.Old
    · obtain ⟨σ', hstep, hinformed, -⟩ := h.changed_old (E := E) ha.1 hold data datalen
      exact ⟨σ', hstep, hinformed⟩
    · exact h.changed_other ha.1 hold data datalen
  | record env buffer => exact h.record env ha.1 ha.2

theorem Informed.run {σ₀ : OldRilState} (h : Informed σ₀)
    (hr : Runs.Reaches (oldRil E σ₀) (fun _ a => a.Allowed) σ) : Informed σ := by
  refine hr.invariant h fun hinformed ha hstep => ?_
  obtain ⟨σ'', hstep', hinformed'⟩ := hinformed.step (E := E) ha
  exact Option.some.inj (hstep'.symm.trans hstep) ▸ hinformed'

/-- **The client is informed**: wherever a run of changes and queries has come to, a change to an
old radio state succeeds, and after it the client was last told the voice technology the state
decodes to; and if it is a 3GPP2 one, the subscription source. -/
theorem client_informed {σ₀ : OldRilState} {data : Option ResponseMemory} {datalen : ℕ}
    (h₀ : Registered σ₀.lib)
    (hr : Runs.Reaches (oldRil E σ₀) (fun _ a => a.Allowed) σ)
    (ha : (OldRilAction.radioStateChanged input data datalen).Allowed)
    (hold : input.radioState.Old) :
    ∃ σ', σ.step E (.radioStateChanged input data datalen) = some σ' ∧
      σ'.told .voiceRadioTech = some (decodeVoiceRadioTechnology input.radioState) ∧
      (is3gpp2 (decodeVoiceRadioTechnology input.radioState) = true →
        σ'.told .cdmaSubscriptionSource
          = some (decodeCdmaSubscriptionSource input.radioState)) := by
  obtain ⟨σ', hstep, -, htold⟩ :=
    ((h₀.informed σ₀.told).run hr).changed_old (E := E) ha.1 hold data datalen
  exact ⟨σ', hstep, htold .voiceRadioTech rfl, htold .cdmaSubscriptionSource⟩

/-- After `RIL_register`, on a connection. -/
def oldRilConnected : OldRilState where
  lib := { unsolInit with
    registerCalled := true
    ril := { unsolInit.ril with fdCommand := 5 } }
  told := fun _ => none

/-- A query that fails while the radio is off does not keep the state after it from being told. -/
theorem told_after_failed_query :
    ∃ σ σ' : OldRilState,
      oldRilConnected.step x86Env (.record ⟨x86, 11, .off, 0, 0⟩ (words [108, 7])) = some σ ∧
      σ.step x86Env (.radioStateChanged ⟨.nvReady, 0, noFaults⟩ none 0) = some σ' ∧
      σ'.told .voiceRadioTech = some radioTech1xRtt ∧
      σ'.told .cdmaSubscriptionSource = some cdmaSubscriptionSourceNv := by
  have hregistered : Registered oldRilConnected.lib :=
    ⟨rfl, by decide, fun q => by cases q <;> rfl⟩
  have hquery : OldRilAction.Allowed (.record ⟨x86, 11, .off, 0, 0⟩ (words [108, 7])) :=
    ⟨by decide, by decide⟩
  obtain ⟨σ, hstep, -⟩ := (hregistered.informed oldRilConnected.told).step (E := x86Env) hquery
  have hr : Runs.Reaches (oldRil x86Env oldRilConnected) (fun _ a => a.Allowed) σ :=
    .step .init hquery hstep
  obtain ⟨σ', hstep', htech, hsource⟩ := client_informed (E := x86Env)
    hregistered hr
    (show OldRilAction.Allowed (.radioStateChanged ⟨.nvReady, 0, noFaults⟩ none 0) from
      ⟨rfl, by decide⟩) (by decide)
  exact ⟨σ, σ', hstep, hstep', htech, hsource rfl⟩

end CtpCommon.Ril
