import CtpCommon.Lib.AccessTrace
import CtpCommon.Ril.Response

/-!
# Arrays inside structures

Four encoders are given structures with arrays in them and with the number of the entries in use.
Each limits the number in its own way, or not at all.

* `responseCdmaInformationRecordsTraced`, `responseSimStatusTraced`, `responseSSDataTraced`,
  `responseCdmaSmsTraced` — the encoders with every use of an array entry and every count;
* `ArrayResponse.traced_encoded` — **PROVED**: without those they are the encoders;
* `ArrayResponse.CountsFit` — the numbers for which the arrays are respected;
* `embeddedArrays_respected_iff` — **PROVED**: a response is rejected or respects its arrays exactly
  for those.
-/

namespace CtpCommon.Ril

open AccessTrace
open Parcel (Write)

/-- What an encoder does with its arrays; `ret` is `none` when it is killed on the way. -/
structure Traced where
  steps : List (Step Write)
  ret : Option Int := some 0

/-- Only the writes. -/
def Traced.encoded (t : Traced) : Option Encoded :=
  t.ret.map fun ret => { writes := written t.steps, ret := ret }

/-- `return RIL_ERRNO_INVALID_RESPONSE` before anything is done. -/
def invalidTraced : Option Traced := some { steps := [], ret := some rilErrnoInvalidResponse }

/-! ### Information records -/

section

variable (env : EncodeEnv)

/-- The loop that copies `len` entries of a buffer into the `malloc`ed `string8` of `len + 1`
bytes, and its terminator. -/
def copySteps (bufferLength : ℕ) (len : Int) : List (Step Write) :=
  ((List.range len.toNat).flatMap fun i => [.index (len + 1) i, .index bufferLength i]) ++
    [.index (len + 1) len]

/-- How the switch on a record's name ends: with an error return, with the process killed, or at a
`break`. -/
inductive SwitchEnd where
  | refused
  | killed (steps : List (Step Write))
  | broke (steps : List (Step Write))

/-- The copy of a string.  Below `-1` there is no block: `malloc` is asked for more than there is,
and the terminator is written through the null pointer. -/
def copyString (bufferLength : ℕ) (len : Int) (after : List (Step Write)) : SwitchEnd :=
  if len > bufferLength then .refused
  else if len < -1 then .killed (copySteps bufferLength len)
  else .broke (copySteps bufferLength len ++ after)

/-- What `string8` reads as: `stray`, whatever the block happens to hold, if nothing was copied and
the terminator went in front of it. -/
def string8Of (stray : CString) (len : Int) (buf : ℕ → UInt8) : CString :=
  if len < 0 then stray else cStringOf len buf

variable (stray : CString)

def numberInfoSteps (n : CdmaNumberInfoRecord) (after : List Write) : SwitchEnd :=
  copyString env.platform.cdmaNumberInfoBufferLength n.len
    (writes ([writeStringToParcel env (some (string8Of stray n.len n.buf)), .int32 n.numberType,
      .int32 n.numberPlan, .int32 n.pi, .int32 n.si] ++ after))

def infoRecSteps (rec : CdmaInformationRecord) : SwitchEnd :=
  if rec.name = 0 ∨ rec.name = 7 then
    copyString env.platform.cdmaAlphaInfoBufferLength rec.displayAlphaLen
      (writes [writeStringToParcel env
        (some (string8Of stray rec.displayAlphaLen rec.displayAlphaBuf))])
  else if rec.name = 1 ∨ rec.name = 2 ∨ rec.name = 3 then numberInfoSteps env stray rec.number []
  else if rec.name = 4 then .broke (writes (marshallSignalInfoRecord rec.signal))
  else if rec.name = 5 then
    numberInfoSteps env stray rec.redirectingNumber [.int32 rec.redirectingReason]
  else if rec.name = 6 then
    .broke (writes [.int32 rec.lineCtrlPolarityIncluded, .int32 rec.lineCtrlToggle,
      .int32 rec.lineCtrlReverse, .int32 rec.lineCtrlPowerDenial])
  else if rec.name = 8 then .broke (writes [.int32 rec.clirCause])
  else if rec.name = 10 then
    .broke (writes [.int32 rec.audioCtrlUpLink, .int32 rec.audioCtrlDownLink])
  else .refused

/-- The loop over the records. -/
def infoRecsTraced (infoRec : ℕ → CdmaInformationRecord) : List ℕ → Traced
  | [] => { steps := [] }
  | i :: is =>
      let begun : List (Step Write) := [.element,
        .index env.platform.cdmaMaxNumberOfInfoRecs i, .write (.int32 (infoRec i).name)]
      match infoRecSteps env stray (infoRec i) with
      | .refused => { steps := begun, ret := some rilErrnoInvalidResponse }
      | .killed steps => { steps := begun ++ steps, ret := none }
      | .broke steps =>
          let rest := infoRecsTraced infoRec is
          { rest with steps := begun ++ steps ++ rest.steps }

def responseCdmaInformationRecordsTraced (response : Option ResponseMemory) (responselen : ℕ) :
    Option Traced :=
  if response.isNone ∧ responselen ≠ 0 then invalidTraced
  else if responselen ≠ env.platform.sizeOf .cdmaInformationRecords then invalidTraced
  else
    response.map fun r =>
      let num : Int := min r.cdmaRecords.numberOfInfoRecs env.platform.cdmaMaxNumberOfInfoRecs
      let t := infoRecsTraced env stray r.cdmaRecords.infoRec (List.range num.toNat)
      { t with steps := .count (.int32 num) num :: t.steps }

/-! ### The other three -/

variable (cardMaxApps : ℕ)

/-- `cardMaxApps` is `RIL_CARD_MAX_APPS`, the length of the array in both versions. -/
def sendSimStatusAppInfoSteps (numApps : Int) (appStatus : ℕ → AppStatus) : List (Step Write) :=
  .count (.int32 numApps) numApps :: loop (List.range numApps.toNat) fun i =>
    let a := appStatus i
    .index cardMaxApps i :: writes [.int32 a.appType, .int32 a.appState, .int32 a.persoSubstate,
      writeStringToParcel env a.aidPtr, writeStringToParcel env a.appLabelPtr,
      .int32 a.pin1Replaced, .int32 a.pin1, .int32 a.pin2]

def simStatusSteps (c : CardStatus) (imsIndex : Int) : List (Step Write) :=
  writes [.int32 c.cardState, .int32 c.universalPinState, .int32 c.gsmUmtsSubscriptionAppIndex,
    .int32 c.cdmaSubscriptionAppIndex, .int32 imsIndex] ++
  sendSimStatusAppInfoSteps env cardMaxApps c.numApplications c.applications

def responseSimStatusTraced (response : Option ResponseMemory) (responselen : ℕ) : Option Traced :=
  if response.isNone ∧ responselen ≠ 0 then invalidTraced
  else if responselen = env.platform.sizeOf .cardStatusV6 then
    response.map fun r =>
      let c := r.cardStatus .cardStatusV6
      { steps := simStatusSteps env cardMaxApps c c.imsSubscriptionAppIndex }
  else if responselen = env.platform.sizeOf .cardStatusV5 then
    response.map fun r =>
      { steps := simStatusSteps env cardMaxApps (r.cardStatus .cardStatusV5) (-1) }
  else invalidTraced

def ssDataSteps (s : StkCcUnsolSsResponse) : List (Step Write) :=
  writes [.int32 s.serviceType, .int32 s.requestType, .int32 s.teleserviceType,
    .int32 s.serviceClass, .int32 s.result] ++
  if isServiceTypeCfQuery s.serviceType s.requestType then
    let num : Int := min s.numValidIndexes env.platform.numServiceClasses
    .count (.int32 num) num :: loop (List.range num.toNat) fun i =>
      .index env.platform.numServiceClasses i :: writes (callForwardWrites env (s.cfInfo i))
  else
    .count (.int32 env.platform.ssInfoMax) env.platform.ssInfoMax ::
      loop (List.range env.platform.ssInfoMax) fun i =>
        .index env.platform.ssInfoMax i :: writes [.int32 (s.ssInfo i)]

def responseSSDataTraced (response : Option ResponseMemory) (responselen : ℕ) : Option Traced :=
  if response.isNone ∧ responselen ≠ 0 then invalidTraced
  else if responselen ≠ env.platform.sizeOf .stkCcUnsolSsResponse then invalidTraced
  else response.map fun r => { steps := ssDataSteps env r.ssData }

/-- A length, and the loop over as many bytes as the array can have. -/
def byteSteps (w : Write) (n : Int) (bs : List UInt8) (length : ℕ) : List (Step Write) :=
  .count w n :: loop (List.range (min n length).toNat) fun i =>
    .index length i :: writes [.bytes [bs.getD i 0]]

def cdmaSmsSteps (m : CdmaSmsMessage) : List (Step Write) :=
  writes [.int32 m.uTeleserviceID, .bytes [m.bIsServicePresent], .int32 m.uServicecategory,
    .int32 m.sAddress.digitMode, .int32 m.sAddress.numberMode, .int32 m.sAddress.numberType,
    .int32 m.sAddress.numberPlan] ++
  (byteSteps (.bytes [m.sAddress.numberOfDigits]) m.sAddress.numberOfDigits.toNat
      m.sAddress.digits env.platform.cdmaSmsAddressMax ++
    (writes [.int32 m.sSubAddress.subaddressType, .bytes [m.sSubAddress.odd]] ++
      (byteSteps (.bytes [m.sSubAddress.numberOfDigits]) m.sSubAddress.numberOfDigits.toNat
          m.sSubAddress.digits env.platform.cdmaSmsSubaddressMax ++
        byteSteps (.int32 m.uBearerDataLen) m.uBearerDataLen m.aBearerData
          env.platform.cdmaSmsBearerDataMax)))

def responseCdmaSmsTraced (response : Option ResponseMemory) (responselen : ℕ) : Option Traced :=
  if response.isNone ∧ responselen ≠ 0 then invalidTraced
  else if responselen ≠ env.platform.sizeOf .cdmaSmsMessage then invalidTraced
  else response.map fun r => { steps := cdmaSmsSteps env r.cdmaSms }

/-! ### The encoders again -/

theorem copySteps_written (bufferLength : ℕ) (len : Int) :
    written (copySteps bufferLength len) = [] := by
  have hloop : ∀ l : List ℕ, written (l.flatMap fun (i : ℕ) =>
      ([.index (len + 1) i, .index bufferLength i] : List (Step Write))) = [] := by
    intro l
    induction l with
    | nil => rfl
    | cons i l ih => exact ih
  rw [copySteps, written_append, hloop]
  rfl

/-- A length that is not negative is copied, or refused. -/
theorem copyString_of_nonneg {bufferLength : ℕ} {len : Int} (hlen : 0 ≤ len)
    (after : List (Step Write)) :
    copyString bufferLength len after =
      if len > bufferLength then .refused else .broke (copySteps bufferLength len ++ after) := by
  unfold copyString
  rw [if_neg (by omega : ¬ len < -1)]

theorem string8Of_of_nonneg {len : Int} (hlen : 0 ≤ len) (buf : ℕ → UInt8) :
    string8Of stray len buf = cStringOf len buf := if_neg (by omega)

/-- A switch that ends as the encoder's does. -/
def SwitchEnd.Writes (e : SwitchEnd) (ws : Option (List Write)) : Prop :=
  e = .refused ∧ ws = none ∨ ∃ steps, e = .broke steps ∧ ws = some (written steps)

theorem copyString_writes {bufferLength : ℕ} {len : Int} (hlen : 0 ≤ len) (ws : List Write) :
    (copyString bufferLength len (writes ws)).Writes
      (if len > bufferLength then none else some ws) := by
  rw [copyString_of_nonneg hlen]
  split
  · exact .inl ⟨rfl, rfl⟩
  · refine .inr ⟨_, rfl, ?_⟩
    rw [written_append, copySteps_written, written_writes, List.nil_append]

theorem broke_writes (ws : List Write) : (SwitchEnd.broke (writes ws)).Writes (some ws) :=
  .inr ⟨_, rfl, by rw [written_writes]⟩

theorem numberInfoSteps_writes {n : CdmaNumberInfoRecord} (hlen : 0 ≤ n.len)
    (after : List Write) :
    (numberInfoSteps env stray n after).Writes ((numberInfoWrites env n).map (· ++ after)) := by
  unfold numberInfoSteps numberInfoWrites
  rw [string8Of_of_nonneg stray hlen, apply_ite (Option.map _), Option.map_none, Option.map_some]
  exact copyString_writes hlen _

theorem infoRecSteps_writes {rec : CdmaInformationRecord} (hrec : rec.NonNeg env.platform) :
    (infoRecSteps env stray rec).Writes (infoRecWrites env rec) := by
  unfold CdmaInformationRecord.NonNeg CdmaInformationRecord.lengthField at hrec
  unfold infoRecSteps infoRecWrites
  by_cases h₀ : rec.name = 0 ∨ rec.name = 7
  · rw [if_pos h₀] at hrec ⊢
    have hlen : 0 ≤ rec.displayAlphaLen := hrec _ rfl
    rw [if_pos h₀, string8Of_of_nonneg stray hlen]
    exact copyString_writes hlen _
  rw [if_neg h₀] at hrec ⊢
  by_cases h₁ : rec.name = 1 ∨ rec.name = 2 ∨ rec.name = 3
  · rw [if_pos h₁] at hrec ⊢
    rw [if_neg h₀, if_pos h₁]
    have hnumber := numberInfoSteps_writes env stray (hrec _ rfl : 0 ≤ rec.number.len) []
    simp only [List.append_nil, Option.map_id'] at hnumber
    exact hnumber
  rw [if_neg h₁] at hrec ⊢
  rw [if_neg h₀, if_neg h₁]
  split_ifs at hrec ⊢ with h₄ h₅ h₆ h₈ h₁₀
  · omega
  · exact broke_writes _
  · exact numberInfoSteps_writes env stray (hrec _ rfl) _
  · exact broke_writes _
  · exact broke_writes _
  · exact broke_writes _
  · exact .inl ⟨rfl, rfl⟩

theorem infoRecsTraced_encoded (infoRec : ℕ → CdmaInformationRecord) (is : List ℕ) {x : Encoded}
    (hx : infoRecsEncoded env (is.map infoRec) = some x) :
    (infoRecsTraced env stray infoRec is).encoded = some x := by
  induction is generalizing x with
  | nil => exact hx
  | cons i is ih =>
    rw [List.map_cons, infoRecsEncoded] at hx
    by_cases hrec : (infoRec i).NonNeg env.platform
    · rw [if_neg (not_not.mpr hrec)] at hx
      unfold infoRecsTraced
      rcases infoRecSteps_writes env stray hrec with ⟨hend, hws⟩ | ⟨steps, hend, hws⟩
      · rw [hws] at hx
        rw [hend]
        exact hx
      · simp only [hws] at hx
        obtain ⟨rest, hrest, rfl⟩ := Option.map_eq_some_iff.mp hx
        obtain ⟨ret, hret, rfl⟩ := Option.map_eq_some_iff.mp (ih hrest)
        simp only [hend, Traced.encoded, hret, Option.map_some, written_append, List.cons_append,
          List.nil_append, written_element, written_index, written_write]
    · rw [if_pos hrec] at hx
      cases hx

theorem responseCdmaInformationRecordsTraced_encoded {response : Option ResponseMemory}
    {responselen : ℕ} {x : Encoded}
    (hx : responseCdmaInformationRecords env response responselen = some x) :
    (responseCdmaInformationRecordsTraced env stray response responselen).bind Traced.encoded
      = some x := by
  unfold responseCdmaInformationRecords at hx
  unfold responseCdmaInformationRecordsTraced
  split_ifs at hx ⊢
  · exact hx
  · exact hx
  · obtain ⟨r, rfl, hx⟩ := Option.bind_eq_some_iff.mp hx
    obtain ⟨recs, hrecs, rfl⟩ := Option.map_eq_some_iff.mp hx
    obtain ⟨ret, hret, rfl⟩ :=
      Option.map_eq_some_iff.mp (infoRecsTraced_encoded env stray r.cdmaRecords.infoRec _ hrecs)
    simp only [Option.map_some, Option.bind_some, Traced.encoded, hret, written_count]

theorem simStatusSteps_written (c : CardStatus) (imsIndex : Int) :
    written (simStatusSteps env cardMaxApps c imsIndex) = simStatusWrites env c imsIndex := by
  unfold simStatusSteps simStatusWrites sendSimStatusAppInfoSteps sendSimStatusAppInfo
  simp only [written_append, written_writes, written_count, written_loop, written_index]

/-- Steps that end well, for the structure that is there. -/
theorem traced_of_written {steps : ResponseMemory → List (Step Write)}
    {ws : ResponseMemory → List Write} (h : ∀ r, written (steps r) = ws r)
    (response : Option ResponseMemory) :
    (response.map fun r => ({ steps := steps r } : Traced)).bind Traced.encoded
      = response.map fun r => { writes := ws r } := by
  cases response with
  | none => rfl
  | some r => rw [Option.map_some, Option.map_some, Option.bind_some, ← h]; rfl

theorem responseSimStatusTraced_encoded (response : Option ResponseMemory) (responselen : ℕ) :
    (responseSimStatusTraced env cardMaxApps response responselen).bind Traced.encoded
      = responseSimStatus env response responselen := by
  unfold responseSimStatusTraced responseSimStatus
  split_ifs
  · rfl
  · exact traced_of_written (fun r => simStatusSteps_written ..) response
  · exact traced_of_written (fun r => simStatusSteps_written ..) response
  · rfl

theorem responseSSDataTraced_encoded (response : Option ResponseMemory) (responselen : ℕ) :
    (responseSSDataTraced env response responselen).bind Traced.encoded
      = responseSSData env response responselen := by
  unfold responseSSDataTraced responseSSData
  split_ifs
  · rfl
  · rfl
  · refine traced_of_written (fun r => ?_) response
    simp only [ssDataSteps, written_append, written_writes]
    split_ifs
    · simp only [written_count, written_loop, written_index, written_writes]
    · simp only [written_count, written_loop, written_index, written_writes, List.map_eq_flatMap]

theorem byteSteps_written (w : Write) (n : Int) (bs : List UInt8) (length : ℕ) :
    written (byteSteps w n bs length) = w :: byteWrites bs (min n length) := by
  unfold byteSteps byteWrites
  simp only [written_count, written_loop, written_index, written_writes, List.map_eq_flatMap]

theorem responseCdmaSmsTraced_encoded (response : Option ResponseMemory) (responselen : ℕ) :
    (responseCdmaSmsTraced env response responselen).bind Traced.encoded
      = responseCdmaSms env response responselen := by
  unfold responseCdmaSmsTraced responseCdmaSms
  split_ifs
  · rfl
  · rfl
  · refine traced_of_written (fun r => ?_) response
    simp only [cdmaSmsSteps, written_append, written_writes, byteSteps_written,
      List.append_assoc, List.cons_append, List.nil_append]

/-! ### Which numbers fit -/

variable (p : Platform)

/-- The names of the records that are written. -/
def CdmaInformationRecord.Known (rec : CdmaInformationRecord) : Prop :=
  0 ≤ rec.name ∧ rec.name ≤ 8 ∨ rec.name = 10

/-- A record that the switch rejects. -/
def CdmaInformationRecord.Refused (rec : CdmaInformationRecord) : Prop :=
  ¬ rec.Known ∨ ∃ f ∈ rec.lengthField p, (f.2 : Int) < f.1

/-- A record whose string cannot be given a block. -/
def CdmaInformationRecord.Kills (rec : CdmaInformationRecord) : Prop :=
  ∃ f ∈ rec.lengthField p, f.1 < -1

/-- The records that are reached. -/
def CdmaInformationRecords.Reached (c : CdmaInformationRecords) (i : ℕ) : Prop :=
  (i : Int) < c.numberOfInfoRecs ∧ i < p.cdmaMaxNumberOfInfoRecs

/-- One of the records is refused before one kills the process, or none of the numbers is
negative. -/
def CdmaInformationRecords.Fit (c : CdmaInformationRecords) : Prop :=
  (∃ i, c.Reached p i ∧ (c.infoRec i).Refused p ∧ ∀ j < i, ¬ (c.infoRec j).Kills p) ∨
    0 ≤ c.numberOfInfoRecs ∧ ∀ i, c.Reached p i → (c.infoRec i).NonNeg p

def CdmaSmsMessage.Fit (m : CdmaSmsMessage) : Prop :=
  m.sAddress.numberOfDigits.toNat ≤ p.cdmaSmsAddressMax ∧
    m.sSubAddress.numberOfDigits.toNat ≤ p.cdmaSmsSubaddressMax ∧
    0 ≤ m.uBearerDataLen ∧ m.uBearerDataLen ≤ p.cdmaSmsBearerDataMax

/-! ### Copies of strings -/

theorem copySteps_plain (bufferLength : ℕ) (len : Int) :
    ∀ s ∈ copySteps bufferLength len, s.Plain := by
  intro s hs
  rcases List.mem_append.mp hs with hs | hs
  · obtain ⟨i, -, hs⟩ := List.mem_flatMap.mp hs
    simp only [List.mem_cons, List.not_mem_nil, or_false] at hs
    rcases hs with rfl | rfl <;> trivial
  · obtain rfl := List.mem_singleton.mp hs
    trivial

/-- A copy that is not too long goes wrong for negative lengths alone. -/
theorem copySteps_inBounds {bufferLength : ℕ} {len : Int} (hle : len ≤ bufferLength) :
    (∀ s ∈ copySteps bufferLength len, s.InBounds) ↔ 0 ≤ len := by
  unfold copySteps
  rw [List.forall_mem_append, List.forall_mem_singleton]
  constructor
  · rintro ⟨-, hend⟩
    exact hend.1
  · intro hlen
    refine ⟨fun s hs => ?_, hlen, by omega⟩
    obtain ⟨i, hi, hs⟩ := List.mem_flatMap.mp hs
    have hlt := List.mem_range.mp hi
    simp only [List.mem_cons, List.not_mem_nil, or_false] at hs
    rcases hs with rfl | rfl
    · exact ⟨Int.natCast_nonneg i, by omega⟩
    · exact ⟨Int.natCast_nonneg i, by omega⟩

/-- The steps of a copied string. -/
theorem copied_spec {bufferLength : ℕ} {len : Int} (hle : len ≤ bufferLength) (ws : List Write) :
    (∀ s ∈ copySteps bufferLength len ++ writes ws, s.Plain) ∧
      ((∀ s ∈ copySteps bufferLength len ++ writes ws, s.InBounds) ↔ 0 ≤ len) := by
  rw [List.forall_mem_append, List.forall_mem_append, copySteps_inBounds hle]
  exact ⟨⟨copySteps_plain _ _, fun s hs => (plain_writes ws s hs).1⟩,
    and_iff_left fun s hs => (plain_writes ws s hs).2⟩

/-! ### Records -/

/-- Plain steps, in bounds unless the length of the record is negative. -/
def GoodSteps (rec : CdmaInformationRecord) (steps : List (Step Write)) : Prop :=
  (∀ s ∈ steps, s.Plain) ∧ ((∀ s ∈ steps, s.InBounds) ↔ rec.NonNeg p)

/-- What the switch makes of a record. -/
inductive SwitchSpec (rec : CdmaInformationRecord) : SwitchEnd → Prop where
  | refused (href : rec.Refused p) : SwitchSpec rec .refused
  | killed (steps : List (Step Write)) (hno : ¬ rec.Refused p) (hkills : rec.Kills p)
      (hout : ∃ s ∈ steps, ¬ s.InBounds) : SwitchSpec rec (.killed steps)
  | broke (steps : List (Step Write)) (hno : ¬ rec.Refused p) (hlives : ¬ rec.Kills p)
      (hgood : GoodSteps p rec steps) : SwitchSpec rec (.broke steps)

variable {p} {rec : CdmaInformationRecord}

/-- A record with a string is refused when the string is too long, and kills when it is far too
short. -/
theorem switchSpec_copied (hknown : rec.Known) {len : Int} {bufferLength : ℕ}
    (hfield : rec.lengthField p = some (len, bufferLength)) (ws : List Write) :
    SwitchSpec p rec (copyString bufferLength len (writes ws)) := by
  have hall : ∀ {P : Int × ℕ → Prop}, (∃ f ∈ rec.lengthField p, P f) ↔ P (len, bufferLength) := by
    intro P
    constructor
    · rintro ⟨f, hf, hP⟩
      obtain rfl := Option.some.inj (hfield.symm.trans hf)
      exact hP
    · exact fun hP => ⟨_, hfield, hP⟩
  have hrefused : rec.Refused p ↔ (bufferLength : Int) < len := by
    unfold CdmaInformationRecord.Refused
    rw [hall]
    exact or_iff_right fun hno => hno hknown
  have hkills : rec.Kills p ↔ len < -1 := hall
  have hnonneg : 0 ≤ len ↔ rec.NonNeg p := by
    constructor
    · intro hlen f hf
      obtain rfl := Option.some.inj (hfield.symm.trans hf)
      exact hlen
    · exact fun h => h _ hfield
  unfold copyString
  split_ifs with hlong hshort
  · exact .refused (hrefused.mpr hlong)
  · -- only the terminator is written
    refine .killed _ (mt hrefused.mp hlong) (hkills.mpr hshort) ⟨.index (len + 1) len, ?_, ?_⟩
    · exact List.mem_append_right _ List.mem_cons_self
    · exact fun hbounds => absurd hbounds.1 (by omega)
  · obtain ⟨hplain, hbounds⟩ := copied_spec (by omega : len ≤ bufferLength) ws
    exact .broke _ (mt hrefused.mp hlong) (mt hkills.mp hshort)
      ⟨hplain, hbounds.trans hnonneg⟩

/-- A record without a string is written. -/
theorem switchSpec_writes (hknown : rec.Known) (hfield : rec.lengthField p = none)
    (ws : List Write) : SwitchSpec p rec (.broke (writes ws)) := by
  have hnone : ∀ f, f ∉ rec.lengthField p := by
    intro f hf
    rw [hfield] at hf
    exact absurd hf (by simp)
  refine .broke _ ?_ ?_ ⟨fun s hs => (plain_writes ws s hs).1, iff_of_true ?_ ?_⟩
  · rintro (hno | ⟨f, hf, -⟩)
    · exact hno hknown
    · exact hnone f hf
  · rintro ⟨f, hf, -⟩
    exact hnone f hf
  · exact fun s hs => (plain_writes ws s hs).2
  · exact fun f hf => absurd hf (hnone f)

end

section

variable (env : EncodeEnv) (stray : CString)

/-- **The switch** refuses a record, dies of it, or takes plain steps. -/
theorem infoRecSteps_spec (rec : CdmaInformationRecord) :
    SwitchSpec env.platform rec (infoRecSteps env stray rec) := by
  unfold infoRecSteps numberInfoSteps
  by_cases h₀ : rec.name = 0 ∨ rec.name = 7
  · have hknown : rec.Known := by unfold CdmaInformationRecord.Known; omega
    rw [if_pos h₀]
    exact switchSpec_copied hknown (if_pos h₀) _
  by_cases h₁ : rec.name = 1 ∨ rec.name = 2 ∨ rec.name = 3
  · have hknown : rec.Known := by unfold CdmaInformationRecord.Known; omega
    rw [if_neg h₀, if_pos h₁]
    exact switchSpec_copied hknown ((if_neg h₀).trans (if_pos h₁)) _
  by_cases h₅ : rec.name = 5
  · have hknown : rec.Known := by unfold CdmaInformationRecord.Known; omega
    have hfield : rec.lengthField env.platform = some _ :=
      (if_neg h₀).trans ((if_neg h₁).trans (if_pos h₅))
    rw [if_neg h₀, if_neg h₁, if_neg (by omega), if_pos h₅]
    exact switchSpec_copied hknown hfield _
  have hfield : rec.lengthField env.platform = none :=
    (if_neg h₀).trans ((if_neg h₁).trans (if_neg h₅))
  rw [if_neg h₀, if_neg h₁, if_neg h₅]
  by_cases hknown : rec.Known
  · split_ifs with h₄ h₆ h₈ h₁₀
    · exact switchSpec_writes hknown hfield _
    · exact switchSpec_writes hknown hfield _
    · exact switchSpec_writes hknown hfield _
    · exact switchSpec_writes hknown hfield _
    · unfold CdmaInformationRecord.Known at hknown
      omega
  · have hunknown := hknown
    unfold CdmaInformationRecord.Known at hunknown
    rw [if_neg (by omega), if_neg (by omega), if_neg (by omega), if_neg (by omega)]
    exact .refused (.inl hknown)

/-- What a switch does that goes on. -/
def SwitchEnd.steps : SwitchEnd → List (Step Write)
  | .broke steps => steps
  | _ => []

/-- What is done with a record that is neither refused nor fatal. -/
def recordSteps (infoRec : ℕ → CdmaInformationRecord) (i : ℕ) : List (Step Write) :=
  .index env.platform.cdmaMaxNumberOfInfoRecs i :: .write (.int32 (infoRec i).name) ::
    (infoRecSteps env stray (infoRec i)).steps

/-- The ways the loop over the records `is` ends. -/
inductive LoopSpec (infoRec : ℕ → CdmaInformationRecord) (is : List ℕ) (t : Traced) : Prop where
  | refused (before : List ℕ) (i : ℕ) (after : List ℕ) (his : is = before ++ i :: after)
      (hlives : ∀ j ∈ before, ¬ (infoRec j).Kills env.platform)
      (href : (infoRec i).Refused env.platform) (hret : t.ret = some rilErrnoInvalidResponse)
  | killed (before : List ℕ) (i : ℕ) (after : List ℕ) (his : is = before ++ i :: after)
      (hno : ∀ j ∈ before ++ [i], ¬ (infoRec j).Refused env.platform)
      (hkills : (infoRec i).Kills env.platform) (hret : t.ret = none)
      (hout : ∃ s ∈ t.steps, ¬ s.InBounds)
  | finished (hno : ∀ i ∈ is, ¬ (infoRec i).Refused env.platform ∧ ¬ (infoRec i).Kills env.platform)
      (ht : t = { steps := loop is (recordSteps env stray infoRec) })

/-- **The loop over the records** ends at the first that is refused or fatal. -/
theorem infoRecsTraced_cases (infoRec : ℕ → CdmaInformationRecord) (is : List ℕ) :
    LoopSpec env stray infoRec is (infoRecsTraced env stray infoRec is) := by
  induction is with
  | nil => exact .finished (fun i hi => absurd hi List.not_mem_nil) rfl
  | cons i is ih =>
    have hspec := infoRecSteps_spec env stray (infoRec i)
    unfold infoRecsTraced
    rcases hend : infoRecSteps env stray (infoRec i) with _ | steps | steps
    · rw [hend] at hspec
      obtain ⟨href⟩ := hspec
      exact .refused [] i is rfl (fun j hj => absurd hj List.not_mem_nil) href rfl
    · rw [hend] at hspec
      obtain _ | ⟨_, hno, hkills, s, hs, hout⟩ := hspec
      refine .killed [] i is rfl (List.forall_mem_singleton.mpr hno) hkills rfl ⟨s, ?_, hout⟩
      exact List.mem_append_right _ hs
    · rw [hend] at hspec
      obtain _ | _ | ⟨_, hno, hlives, -⟩ := hspec
      rcases ih with ⟨before, j, after, rfl, hbefore, href, hret⟩ |
        ⟨before, j, after, rfl, hbefore, hkills, hret, s, hs, hout⟩ | ⟨hnone, ht⟩
      · exact .refused (i :: before) j after rfl (List.forall_mem_cons.mpr ⟨hlives, hbefore⟩)
          href hret
      · refine .killed (i :: before) j after rfl (List.forall_mem_cons.mpr ⟨hno, hbefore⟩) hkills
          hret ⟨s, ?_, hout⟩
        exact List.mem_append_right _ hs
      · refine .finished (List.forall_mem_cons.mpr ⟨⟨hno, hlives⟩, hnone⟩) ?_
        simp only [ht, loop, List.flatMap_cons, recordSteps, hend, SwitchEnd.steps,
          List.cons_append, List.nil_append]

variable {env stray}

/-- A record whose entry exists goes wrong for negative lengths alone. -/
theorem recordSteps_good {infoRec : ℕ → CdmaInformationRecord} {i : ℕ}
    (hi : i < env.platform.cdmaMaxNumberOfInfoRecs) (hno : ¬ (infoRec i).Refused env.platform)
    (hlives : ¬ (infoRec i).Kills env.platform) :
    GoodSteps env.platform (infoRec i) (recordSteps env stray infoRec i) := by
  have hspec := infoRecSteps_spec env stray (infoRec i)
  unfold GoodSteps recordSteps
  rcases hend : infoRecSteps env stray (infoRec i) with _ | steps | steps
  · rw [hend] at hspec
    obtain ⟨href⟩ := hspec
    exact absurd href hno
  · rw [hend] at hspec
    obtain _ | ⟨_, -, hkills, -⟩ := hspec
    exact absurd hkills hlives
  · rw [hend] at hspec
    obtain _ | _ | ⟨_, -, -, hplain, hin⟩ := hspec
    rw [SwitchEnd.steps, List.forall_mem_cons, List.forall_mem_cons, List.forall_mem_cons,
      List.forall_mem_cons, hin]
    refine ⟨⟨trivial, trivial, hplain⟩, ?_⟩
    constructor
    · exact fun h => h.2.2
    · exact fun h => ⟨⟨Int.natCast_nonneg i, by omega⟩, trivial, h⟩

/-! ### The four responses -/

/-- An encoder was called with a structure of the right size, and rejected it or respected its
arrays; `fit` says which. -/
def RejectsOrRespects (traced : Option Traced) (fit : Prop) : Prop :=
  ∃ t, traced = some t ∧ (t.ret = some rilErrnoInvalidResponse ∨ Respects t.steps ↔ fit)

/-- A list in order, split at one of its numbers. -/
theorem range_split {n i : ℕ} {before after : List ℕ}
    (h : List.range n = before ++ i :: after) :
    i < n ∧ ∀ j, j < i ↔ j ∈ before := by
  have hsorted : (before ++ i :: after).Pairwise (· < ·) := h ▸ List.pairwise_lt_range
  rw [List.pairwise_append, List.pairwise_cons] at hsorted
  have hmem : ∀ j, j < n ↔ j ∈ before ++ i :: after := fun j => by rw [← h, List.mem_range]
  have hi : i < n := (hmem i).mpr (List.mem_append_right _ List.mem_cons_self)
  refine ⟨hi, fun j => ?_⟩
  constructor
  · intro hlt
    rcases List.mem_append.mp ((hmem j).mp (hlt.trans hi)) with hj | hj
    · exact hj
    · rcases List.mem_cons.mp hj with rfl | hj
      · omega
      · have := hsorted.2.1.1 j hj
        omega
  · exact fun hj => hsorted.2.2 j hj i List.mem_cons_self

theorem cdmaInformationRecords_respects (r : ResponseMemory) :
    RejectsOrRespects (responseCdmaInformationRecordsTraced env stray (some r)
      (env.platform.sizeOf .cdmaInformationRecords)) (r.cdmaRecords.Fit env.platform) := by
  unfold responseCdmaInformationRecordsTraced
  rw [if_neg (by simp), if_neg (by simp), Option.map_some]
  refine ⟨_, rfl, ?_⟩
  generalize hnum : (min r.cdmaRecords.numberOfInfoRecs env.platform.cdmaMaxNumberOfInfoRecs : Int)
    = num
  have hreached : ∀ i, i < num.toNat ↔ r.cdmaRecords.Reached env.platform i := by
    intro i
    unfold CdmaInformationRecords.Reached
    omega
  unfold CdmaInformationRecords.Fit
  have hret : ¬ some (0 : Int) = some rilErrnoInvalidResponse := by decide
  rcases infoRecsTraced_cases env stray r.cdmaRecords.infoRec (List.range num.toNat) with
    ⟨before, i, after, his, hlives, href, hret⟩ |
      ⟨before, i, after, his, hno, hkills, hret, s, hs, hout⟩ | ⟨hnone, ht⟩
  · obtain ⟨hi, hbefore⟩ := range_split his
    exact iff_of_true (.inl hret)
      (.inl ⟨i, (hreached i).mp hi, href, fun j hj => hlives j ((hbefore j).mp hj)⟩)
  · obtain ⟨hi, hbefore⟩ := range_split his
    rw [List.forall_mem_append, List.forall_mem_singleton] at hno
    refine iff_of_false ?_ ?_
    · rintro (hinvalid | hrespects)
      · exact absurd (hret.symm.trans hinvalid) (by simp)
      · exact hout (hrespects.inBounds s (List.mem_cons_of_mem _ hs))
    · rintro (⟨k, -, href, hlives⟩ | ⟨-, hnonneg⟩)
      · rcases lt_trichotomy k i with hk | rfl | hk
        · exact hno.1 k ((hbefore k).mp hk) href
        · exact hno.2 href
        · exact hlives i hk hkills
      · obtain ⟨f, hf, hlt⟩ := hkills
        have hle := hnonneg i ((hreached i).mp hi) f hf
        omega
  · have hno : ¬ ∃ i, r.cdmaRecords.Reached env.platform i ∧
        (r.cdmaRecords.infoRec i).Refused env.platform ∧
        ∀ j < i, ¬ (r.cdmaRecords.infoRec j).Kills env.platform := by
      rintro ⟨i, hi, href, -⟩
      exact (hnone i (List.mem_range.mpr ((hreached i).mpr hi))).1 href
    have hgood : ∀ i ∈ List.range num.toNat,
        GoodSteps env.platform (r.cdmaRecords.infoRec i)
          (recordSteps env stray r.cdmaRecords.infoRec i) := by
      intro i hi
      obtain ⟨hno, hlives⟩ := hnone i hi
      exact recordSteps_good ((hreached i).mp (List.mem_range.mp hi)).2 hno hlives
    simp only [ht]
    rw [or_iff_right hret, or_iff_right hno, respects_counted_last fun i hi => (hgood i hi).1,
      List.length_range]
    constructor
    · rintro ⟨hcount, hin⟩
      refine ⟨by omega, fun i hi => ?_⟩
      have hmem := List.mem_range.mpr ((hreached i).mpr hi)
      exact (hgood i hmem).2.mp (hin i hmem)
    · rintro ⟨hcount, hlen⟩
      refine ⟨by omega, fun i hi => ?_⟩
      exact (hgood i hi).2.mpr (hlen i ((hreached i).mp (List.mem_range.mp hi)))

theorem simStatusSteps_respects (cardMaxApps : ℕ) (c : CardStatus) (imsIndex : Int) :
    Respects (simStatusSteps env cardMaxApps c imsIndex) ↔
      0 ≤ c.numApplications ∧ c.numApplications ≤ cardMaxApps := by
  unfold simStatusSteps sendSimStatusAppInfoSteps
  rw [respects_writes, respects_indexed_last]
  omega

theorem ssDataSteps_respects (s : StkCcUnsolSsResponse) :
    Respects (ssDataSteps env s) ↔
      (isServiceTypeCfQuery s.serviceType s.requestType = true → 0 ≤ s.numValidIndexes) := by
  unfold ssDataSteps
  rw [respects_writes]
  split_ifs with hquery
  · rw [respects_indexed_last]
    simp only [hquery, true_implies]
    omega
  · rw [respects_indexed_last]
    simp [hquery]

/-- A byte array, with others after it. -/
theorem byteSteps_respects {rest : List (Step Write)} (hrest : elements rest = 0) (w : Write)
    (n : Int) (bs : List UInt8) (length : ℕ) :
    Respects (byteSteps w n bs length ++ rest) ↔ (0 ≤ n ∧ n ≤ length) ∧ Respects rest := by
  unfold byteSteps
  rw [List.cons_append, respects_indexed, hrest, ← and_assoc]
  refine and_congr_left fun _ => ?_
  omega

theorem elements_byteSteps {rest : List (Step Write)} (w : Write) (n : Int) (bs : List UInt8)
    (length : ℕ) : elements (byteSteps w n bs length ++ rest) = 0 := rfl

theorem cdmaSmsSteps_respects (m : CdmaSmsMessage) :
    Respects (cdmaSmsSteps env m) ↔ m.Fit env.platform := by
  have hnil : Respects ([] : List (Step Write)) :=
    ⟨fun _ hs => absurd hs List.not_mem_nil, trivial⟩
  unfold cdmaSmsSteps CdmaSmsMessage.Fit
  rw [← List.append_nil (byteSteps (.int32 m.uBearerDataLen) _ _ _), respects_writes,
    byteSteps_respects, respects_writes, byteSteps_respects, byteSteps_respects]
  · simp only [hnil, and_true]
    omega
  · rfl
  · exact elements_byteSteps ..
  · rw [elements_writes]
    exact elements_byteSteps ..

end

/-- The responses with arrays inside their structures. -/
inductive ArrayResponse where
  | cdmaInformationRecords
  | simStatus
  | ssData
  | cdmaSms

namespace ArrayResponse

variable (env : EncodeEnv) (cardMaxApps : ℕ) (stray : CString)

def encoder : ArrayResponse → Option ResponseMemory → ℕ → Option Encoded
  | cdmaInformationRecords => responseCdmaInformationRecords env
  | simStatus => responseSimStatus env
  | ssData => responseSSData env
  | cdmaSms => responseCdmaSms env

def traced : ArrayResponse → Option ResponseMemory → ℕ → Option Traced
  | cdmaInformationRecords => responseCdmaInformationRecordsTraced env stray
  | simStatus => responseSimStatusTraced env cardMaxApps
  | ssData => responseSSDataTraced env
  | cdmaSms => responseCdmaSmsTraced env

/-- The lengths that are not rejected at once. -/
def RightSize : ArrayResponse → ℕ → Prop
  | cdmaInformationRecords, len => len = env.platform.sizeOf .cdmaInformationRecords
  | simStatus, len =>
      len = env.platform.sizeOf .cardStatusV6 ∨ len = env.platform.sizeOf .cardStatusV5
  | ssData, len => len = env.platform.sizeOf .stkCcUnsolSsResponse
  | cdmaSms, len => len = env.platform.sizeOf .cdmaSmsMessage

/-- The card status of a length. -/
def cardStatusOf (r : ResponseMemory) (len : ℕ) : CardStatus :=
  if len = env.platform.sizeOf .cardStatusV6 then r.cardStatus .cardStatusV6
  else r.cardStatus .cardStatusV5

/-- **The numbers for which the arrays are respected.** -/
def CountsFit : ArrayResponse → ResponseMemory → ℕ → Prop
  | cdmaInformationRecords, r, _ => r.cdmaRecords.Fit env.platform
  | simStatus, r, len => 0 ≤ (cardStatusOf env r len).numApplications ∧
      (cardStatusOf env r len).numApplications ≤ cardMaxApps
  | ssData, r, _ =>
      isServiceTypeCfQuery r.ssData.serviceType r.ssData.requestType = true →
        0 ≤ r.ssData.numValidIndexes
  | cdmaSms, r, _ => r.cdmaSms.Fit env.platform

/-- **The traces are those of the encoders**, as far as the encoders go. -/
theorem traced_encoded (f : ArrayResponse) {response : Option ResponseMemory} {responselen : ℕ}
    {x : Encoded} (hx : f.encoder env response responselen = some x) :
    (f.traced env cardMaxApps stray response responselen).bind Traced.encoded = some x := by
  cases f with
  | cdmaInformationRecords => exact responseCdmaInformationRecordsTraced_encoded env stray hx
  | simStatus => exact (responseSimStatusTraced_encoded env cardMaxApps _ _).trans hx
  | ssData => exact (responseSSDataTraced_encoded env _ _).trans hx
  | cdmaSms => exact (responseCdmaSmsTraced_encoded env _ _).trans hx

variable {env}

/-- A response that does not fail respects its arrays or not. -/
theorem rejectsOrRespects_of_steps {steps : List (Step Write)} {fit : Prop}
    (h : Respects steps ↔ fit) : RejectsOrRespects (some { steps := steps }) fit := by
  have hret : ¬ some (0 : Int) = some rilErrnoInvalidResponse := by decide
  exact ⟨_, rfl, (or_iff_right hret).trans h⟩

theorem traced_rejectsOrRespects (f : ArrayResponse) (r : ResponseMemory) {len : ℕ}
    (hlen : f.RightSize env len) :
    RejectsOrRespects (f.traced env cardMaxApps stray (some r) len)
      (f.CountsFit env cardMaxApps r len) := by
  cases f with
  | cdmaInformationRecords =>
    obtain rfl : len = _ := hlen
    exact cdmaInformationRecords_respects r
  | simStatus =>
    show RejectsOrRespects (responseSimStatusTraced env cardMaxApps (some r) len)
      (0 ≤ (cardStatusOf env r len).numApplications ∧
        (cardStatusOf env r len).numApplications ≤ cardMaxApps)
    unfold responseSimStatusTraced cardStatusOf
    rw [if_neg (by simp)]
    by_cases hv6 : len = env.platform.sizeOf .cardStatusV6
    · rw [if_pos hv6, if_pos hv6]
      exact rejectsOrRespects_of_steps (simStatusSteps_respects ..)
    · rw [if_neg hv6, if_neg hv6, if_pos (hlen.resolve_left hv6)]
      exact rejectsOrRespects_of_steps (simStatusSteps_respects ..)
  | ssData =>
    obtain rfl : len = _ := hlen
    show RejectsOrRespects (responseSSDataTraced env (some r) _) _
    unfold responseSSDataTraced
    rw [if_neg (by simp), if_neg (by simp)]
    exact rejectsOrRespects_of_steps (ssDataSteps_respects _)
  | cdmaSms =>
    obtain rfl : len = _ := hlen
    show RejectsOrRespects (responseCdmaSmsTraced env (some r) _) _
    unfold responseCdmaSmsTraced
    rw [if_neg (by simp), if_neg (by simp)]
    exact rejectsOrRespects_of_steps (cdmaSmsSteps_respects _)

end ArrayResponse

/-- **Which counts are respected.**  For a structure of the right size, whatever its counts and
lengths, the trace is that of the encoder, where the encoder has one; and the response is rejected,
or every entry used exists and every count is the number of elements that follow, exactly when the
counts fit. -/
theorem embeddedArrays_respected_iff (env : EncodeEnv) (cardMaxApps : ℕ) (stray : CString)
    (f : ArrayResponse) (r : ResponseMemory) (len : ℕ) (hlen : f.RightSize env len) :
    ∃ t, f.traced env cardMaxApps stray (some r) len = some t ∧
      (∀ x, f.encoder env (some r) len = some x → t.encoded = some x) ∧
      (t.ret = some rilErrnoInvalidResponse ∨ Respects t.steps ↔
        f.CountsFit env cardMaxApps r len) := by
  obtain ⟨t, ht, hiff⟩ := f.traced_rejectsOrRespects cardMaxApps stray r hlen
  refine ⟨t, ht, fun x hx => ?_, hiff⟩
  have hencoded := f.traced_encoded env cardMaxApps stray hx
  rwa [ht, Option.bind_some] at hencoded

/-- A card with so many applications. -/
def cardMemory (numApplications : Int) : ResponseMemory :=
  { (default : ResponseMemory) with
    cardStatus := fun _ => { (default : CardStatus) with numApplications := numApplications } }

/-- The applications of a full card. -/
theorem eightApps_respected : ∃ t,
    ArrayResponse.simStatus.traced ⟨x86, 6, false, 0⟩ 8 [] (some (cardMemory 8))
      (x86.sizeOf .cardStatusV6) = some t ∧ Respects t.steps := by
  obtain ⟨t, ht, -, hiff⟩ := embeddedArrays_respected_iff ⟨x86, 6, false, 0⟩ 8 [] .simStatus
    (cardMemory 8) (x86.sizeOf .cardStatusV6) (.inl rfl)
  have hfit : (0 : Int) ≤ 8 ∧ (8 : Int) ≤ (8 : ℕ) := by decide
  refine ⟨t, ht, (hiff.mpr hfit).resolve_left ?_⟩
  rw [← Option.some.inj ht]
  decide

/-- Nine applications are more than the array has. -/
theorem nineApps_overrun : ∃ t,
    ArrayResponse.simStatus.traced ⟨x86, 6, false, 0⟩ 8 [] (some (cardMemory 9))
      (x86.sizeOf .cardStatusV6) = some t ∧ t.ret ≠ some rilErrnoInvalidResponse ∧
      ¬ Respects t.steps := by
  refine ⟨_, rfl, by decide, ?_⟩
  intro hrespects
  have hbounds := (simStatusSteps_respects 8 _ _).mp hrespects
  exact absurd hbounds.2 (by decide)

end CtpCommon.Ril
