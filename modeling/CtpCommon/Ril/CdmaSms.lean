import CtpCommon.Lib.Marshal
import CtpCommon.Ril.DispatchLayout
import CtpCommon.Ril.Response

/-!
# SMS over CDMA

`RIL_CDMA_SMS_Message` has three arrays with limits.  `responseCdmaSms` writes as many entries of
each as its length says, up to the limit, and `constructCdmaSms` reads as many; the second decoder,
`dispatchRilCdmaSmsWriteArgs`, reads every array to its limit.

* `messageReads` — the reads the two decoders have in common, by the numbers of entries;
* `responseCdmaSms_writes`, `messageReads_reads` — **PROVED**: what the encoder writes is read back;
* `cdmaSms_roundTrip` — **PROVED**: `constructCdmaSms` takes a message from exactly the payload
  written for it, and refuses every cut of the payload;
* `writeArgs_iff` — **PROVED**: the two decoders agree on a payload exactly when the three arrays of
  its message are full.
-/

namespace CtpCommon.Ril

open ReadProg
open Parcel (Write IsInt32 wordBytes)

/-! ### Messages in memory -/

/-- The integers and enumerations of a message are `int`s. -/
structure CdmaSmsMessage.Int32Fields (m : CdmaSmsMessage) : Prop where
  uTeleserviceID : IsInt32 m.uTeleserviceID
  uServicecategory : IsInt32 m.uServicecategory
  digitMode : IsInt32 m.sAddress.digitMode
  numberMode : IsInt32 m.sAddress.numberMode
  numberType : IsInt32 m.sAddress.numberType
  numberPlan : IsInt32 m.sAddress.numberPlan
  subaddressType : IsInt32 m.sSubAddress.subaddressType
  uBearerDataLen : IsInt32 m.uBearerDataLen

/-- The first `k` entries of an array of `n`, the others being zero. -/
def leading (n k : ℕ) (bs : List UInt8) : List UInt8 :=
  (List.range n).map fun i => if i < k then bs.getD i 0 else 0

section Limits

variable (p : Platform)

/-- How many entries of the arrays the lengths stand for. -/
def digitCount (numberOfDigits : UInt8) : ℕ := min numberOfDigits.toNat p.cdmaSmsAddressMax

def subDigitCount (numberOfDigits : UInt8) : ℕ := min numberOfDigits.toNat p.cdmaSmsSubaddressMax

def bearerCount (uBearerDataLen : Int) : ℕ := (min uBearerDataLen p.cdmaSmsBearerDataMax).toNat

/-- A message with as many entries of its arrays as given, the others being zero. -/
def CdmaSmsMessage.withEntries (m : CdmaSmsMessage) (digits subDigits bearerData : ℕ) :
    CdmaSmsMessage :=
  { m with
    sAddress := { m.sAddress with digits := leading p.cdmaSmsAddressMax digits m.sAddress.digits }
    sSubAddress := { m.sSubAddress with
      digits := leading p.cdmaSmsSubaddressMax subDigits m.sSubAddress.digits }
    aBearerData := leading p.cdmaSmsBearerDataMax bearerData m.aBearerData }

/-- The whole arrays of a message, as they stand in memory. -/
def CdmaSmsMessage.inMemory (m : CdmaSmsMessage) : CdmaSmsMessage :=
  m.withEntries p p.cdmaSmsAddressMax p.cdmaSmsSubaddressMax p.cdmaSmsBearerDataMax

/-- The entries at or beyond the smaller of length and limit are replaced by zero. -/
def CdmaSmsMessage.cleared (m : CdmaSmsMessage) : CdmaSmsMessage :=
  m.withEntries p (digitCount p m.sAddress.numberOfDigits)
    (subDigitCount p m.sSubAddress.numberOfDigits) (bearerCount p m.uBearerDataLen)

/-- All three lengths reach the limits. -/
def CdmaSmsMessage.Full (m : CdmaSmsMessage) : Prop :=
  p.cdmaSmsAddressMax ≤ m.sAddress.numberOfDigits.toNat ∧
    p.cdmaSmsSubaddressMax ≤ m.sSubAddress.numberOfDigits.toNat ∧
    p.cdmaSmsBearerDataMax ≤ m.uBearerDataLen.toNat

instance (m : CdmaSmsMessage) : Decidable (m.Full p) := inferInstanceAs (Decidable (_ ∧ _ ∧ _))

theorem CdmaSmsMessage.full_iff (m : CdmaSmsMessage) : m.Full p ↔
    digitCount p m.sAddress.numberOfDigits = p.cdmaSmsAddressMax ∧
      subDigitCount p m.sSubAddress.numberOfDigits = p.cdmaSmsSubaddressMax ∧
      bearerCount p m.uBearerDataLen = p.cdmaSmsBearerDataMax := by
  unfold Full digitCount subDigitCount bearerCount
  omega

theorem digitCount_le (n : UInt8) : digitCount p n ≤ p.cdmaSmsAddressMax := Nat.min_le_right ..

theorem subDigitCount_le (n : UInt8) : subDigitCount p n ≤ p.cdmaSmsSubaddressMax :=
  Nat.min_le_right ..

theorem bearerCount_le (n : Int) : bearerCount p n ≤ p.cdmaSmsBearerDataMax := by
  unfold bearerCount
  omega

end Limits

/-! ### The reads -/

/-- The reads of a message, with loops of the given lengths. -/
def messageReads (digitLimit subDigitLimit : UInt8 → ℕ) (bearerLimit : Int → ℕ) :
    ReadProg CdmaSmsMessage := do
  let uTeleserviceID ← readInt32
  let bIsServicePresent ← readByte
  let uServicecategory ← readInt32
  let digitMode ← readInt32
  let numberMode ← readInt32
  let numberType ← readInt32
  let numberPlan ← readInt32
  let numberOfDigits ← readByte
  let digits ← readMany (digitLimit numberOfDigits) readByte
  let subaddressType ← readInt32
  let odd ← readByte
  let subNumberOfDigits ← readByte
  let subDigits ← readMany (subDigitLimit subNumberOfDigits) readByte
  let uBearerDataLen ← readInt32
  let aBearerData ← readMany (bearerLimit uBearerDataLen) readByte
  return ⟨uTeleserviceID, bIsServicePresent, uServicecategory,
    ⟨digitMode, numberMode, numberType, numberPlan, numberOfDigits, digits⟩,
    ⟨subaddressType, odd, subNumberOfDigits, subDigits⟩, uBearerDataLen, aBearerData⟩

/-- `constructCdmaSms` reads as many entries as the lengths say. -/
theorem constructCdmaSms_eq (d : DispatchEnv) : constructCdmaSms d
    = (messageReads (digitCount d.platform) (subDigitCount d.platform)
        (bearerCount d.platform)).bind fun m => .check (.done m) := by
  unfold constructCdmaSms messageReads
  simp only [Bind.bind, bind_assoc]
  rfl

/-- The reads with every array to its limit. -/
def wholeReads (p : Platform) : ReadProg CdmaSmsMessage :=
  messageReads (fun _ => p.cdmaSmsAddressMax) (fun _ => p.cdmaSmsSubaddressMax)
    (fun _ => p.cdmaSmsBearerDataMax)

/-- `dispatchRilCdmaSmsWriteArgs` reads every entry. -/
theorem dispatchRilCdmaSmsWriteArgs_eq (d : DispatchEnv) : dispatchRilCdmaSmsWriteArgs d
    = .int fun status => (wholeReads d.platform).bind fun m =>
        .check (.done (.cdmaSmsWriteArgs ⟨status, m⟩, d.platform.sizeOf .cdmaSmsWriteArgs)) := by
  unfold dispatchRilCdmaSmsWriteArgs wholeReads messageReads
  simp only [Bind.bind, bind_assoc]
  rfl

/-- The slots of a message: twelve, and one for each entry. -/
theorem slots_messageReads (digitLimit subDigitLimit : UInt8 → ℕ) (bearerLimit : Int → ℕ) (c : ℕ) :
    Slots (messageReads digitLimit subDigitLimit bearerLimit) c fun m c' =>
      c' = c + 12 + digitLimit m.sAddress.numberOfDigits
        + subDigitLimit m.sSubAddress.numberOfDigits + bearerLimit m.uBearerDataLen := by
  intro uTeleserviceID bIsServicePresent uServicecategory digitMode numberMode numberType
    numberPlan numberOfDigits
  refine (slots_bind (readMany _ readByte) _ _ _).mpr (slots_readMany_byte _ _ fun digits _ => ?_)
  intro subaddressType odd subNumberOfDigits
  refine (slots_bind (readMany _ readByte) _ _ _).mpr
    (slots_readMany_byte _ _ fun subDigits _ => ?_)
  intro uBearerDataLen
  refine (slots_bind (readMany _ readByte) _ _ _).mpr
    (slots_readMany_byte _ _ fun aBearerData _ => ?_)
  show _ + _ = c + 12 + digitLimit numberOfDigits + subDigitLimit subNumberOfDigits
    + bearerLimit uBearerDataLen
  omega

theorem slots_wholeReads (p : Platform) (c : ℕ) :
    Slots (wholeReads p) c fun _ c' => c' = c + 12 + p.cdmaSmsAddressMax
      + p.cdmaSmsSubaddressMax + p.cdmaSmsBearerDataMax := slots_messageReads _ _ _ c

theorem slots_constructCdmaSms (d : DispatchEnv) (c : ℕ) :
    Slots (constructCdmaSms d) c fun m c' => c' = c + 12
      + digitCount d.platform m.sAddress.numberOfDigits
      + subDigitCount d.platform m.sSubAddress.numberOfDigits
      + bearerCount d.platform m.uBearerDataLen := by
  rw [constructCdmaSms_eq]
  exact (slots_bind _ _ _ _).mpr (slots_messageReads _ _ _ c)

/-- Loops of the lengths the message asks for read the same message. -/
theorem messageReads_congr {digitLimit digitLimit' subDigitLimit subDigitLimit' : UInt8 → ℕ}
    {bearerLimit bearerLimit' : Int → ℕ} {p q : Parcel} {m : CdmaSmsMessage}
    (hrun : present (messageReads digitLimit subDigitLimit bearerLimit) p = some (m, q))
    (hdigits : digitLimit m.sAddress.numberOfDigits = digitLimit' m.sAddress.numberOfDigits)
    (hsub : subDigitLimit m.sSubAddress.numberOfDigits
      = subDigitLimit' m.sSubAddress.numberOfDigits)
    (hbearer : bearerLimit m.uBearerDataLen = bearerLimit' m.uBearerDataLen) :
    present (messageReads digitLimit' subDigitLimit' bearerLimit') p = some (m, q) := by
  obtain ⟨uTeleserviceID, p₁, h₁, hrun⟩ := present_int_iff.mp hrun
  obtain ⟨bIsServicePresent, p₂, h₂, hrun⟩ := present_byte_iff.mp hrun
  obtain ⟨uServicecategory, p₃, h₃, hrun⟩ := present_int_iff.mp hrun
  obtain ⟨digitMode, p₄, h₄, hrun⟩ := present_int_iff.mp hrun
  obtain ⟨numberMode, p₅, h₅, hrun⟩ := present_int_iff.mp hrun
  obtain ⟨numberType, p₆, h₆, hrun⟩ := present_int_iff.mp hrun
  obtain ⟨numberPlan, p₇, h₇, hrun⟩ := present_int_iff.mp hrun
  obtain ⟨numberOfDigits, p₈, h₈, hrun⟩ := present_byte_iff.mp hrun
  obtain ⟨digits, p₉, h₉, hrun⟩ := present_loop_iff.mp hrun
  obtain ⟨subaddressType, p₁₀, h₁₀, hrun⟩ := present_int_iff.mp hrun
  obtain ⟨odd, p₁₁, h₁₁, hrun⟩ := present_byte_iff.mp hrun
  obtain ⟨subNumberOfDigits, p₁₂, h₁₂, hrun⟩ := present_byte_iff.mp hrun
  obtain ⟨subDigits, p₁₃, h₁₃, hrun⟩ := present_loop_iff.mp hrun
  obtain ⟨uBearerDataLen, p₁₄, h₁₄, hrun⟩ := present_int_iff.mp hrun
  obtain ⟨aBearerData, p₁₅, h₁₅, hrun⟩ := present_loop_iff.mp hrun
  obtain ⟨rfl, rfl⟩ := Prod.mk.inj (Option.some.inj hrun)
  refine present_int_iff.mpr ⟨_, _, h₁, present_byte_iff.mpr ⟨_, _, h₂, ?_⟩⟩
  refine present_int_iff.mpr ⟨_, _, h₃, present_int_iff.mpr ⟨_, _, h₄, ?_⟩⟩
  refine present_int_iff.mpr ⟨_, _, h₅, present_int_iff.mpr ⟨_, _, h₆, ?_⟩⟩
  refine present_int_iff.mpr ⟨_, _, h₇, present_byte_iff.mpr ⟨_, _, h₈, ?_⟩⟩
  refine present_loop_iff.mpr ⟨_, _, hdigits ▸ h₉, ?_⟩
  refine present_int_iff.mpr ⟨_, _, h₁₀, present_byte_iff.mpr ⟨_, _, h₁₁, ?_⟩⟩
  refine present_byte_iff.mpr ⟨_, _, h₁₂, ?_⟩
  refine present_loop_iff.mpr ⟨_, _, hsub ▸ h₁₃, ?_⟩
  refine present_int_iff.mpr ⟨_, _, h₁₄, ?_⟩
  refine present_loop_iff.mpr ⟨_, _, hbearer ▸ h₁₅, ?_⟩
  rfl

/-! ### The writes -/

/-- The writes of `responseCdmaSms`. -/
def messageWrites (p : Platform) (m : CdmaSmsMessage) : List Write :=
  .int32 m.uTeleserviceID :: .bytes [m.bIsServicePresent] :: .int32 m.uServicecategory ::
    .int32 m.sAddress.digitMode :: .int32 m.sAddress.numberMode :: .int32 m.sAddress.numberType ::
    .int32 m.sAddress.numberPlan :: .bytes [m.sAddress.numberOfDigits] ::
    (byteWrites m.sAddress.digits (digitCount p m.sAddress.numberOfDigits) ++
      .int32 m.sSubAddress.subaddressType :: .bytes [m.sSubAddress.odd] ::
      .bytes [m.sSubAddress.numberOfDigits] ::
      (byteWrites m.sSubAddress.digits (subDigitCount p m.sSubAddress.numberOfDigits) ++
        .int32 m.uBearerDataLen :: byteWrites m.aBearerData (bearerCount p m.uBearerDataLen)))

theorem responseCdmaSms_writes (env : EncodeEnv) (r : ResponseMemory) :
    responseCdmaSms env (some r) (env.platform.sizeOf .cdmaSmsMessage)
      = some { writes := messageWrites env.platform r.cdmaSms } := by
  have hbearer : byteWrites r.cdmaSms.aBearerData
      (min r.cdmaSms.uBearerDataLen env.platform.cdmaSmsBearerDataMax)
      = byteWrites r.cdmaSms.aBearerData (bearerCount env.platform r.cdmaSms.uBearerDataLen) := rfl
  unfold responseCdmaSms
  rw [if_neg (by simp), if_neg (by simp), Option.map_some]
  simp only [hbearer, messageWrites, digitCount, subDigitCount, Nat.cast_min, List.append_assoc,
    List.cons_append, List.nil_append]

/-- The first `k` entries of an array. -/
def entries (k : ℕ) (bs : List UInt8) : List UInt8 := (List.range k).map fun i => bs.getD i 0

/-- What is read of a message. -/
def CdmaSmsMessage.read (p : Platform) (m : CdmaSmsMessage) : CdmaSmsMessage :=
  { m with
    sAddress := { m.sAddress with
      digits := entries (digitCount p m.sAddress.numberOfDigits) m.sAddress.digits }
    sSubAddress := { m.sSubAddress with
      digits := entries (subDigitCount p m.sSubAddress.numberOfDigits) m.sSubAddress.digits }
    aBearerData := entries (bearerCount p m.uBearerDataLen) m.aBearerData }

/-- A loop reads back the entries of an array. -/
theorem reads_entries (k : ℕ) (bs : List UInt8) :
    Reads (readMany k readByte) (byteWrites bs k) (entries k bs) := by
  have hloop : Reads (readMany (List.range k).length readByte)
      ((List.range k).flatMap fun i => [.bytes [bs.getD i 0]])
      ((List.range k).map fun i => bs.getD i 0) :=
    Reads.readMany (List.range k) fun i _ => .byte (.done _)
  rw [List.length_range, ← List.map_eq_flatMap] at hloop
  exact hloop

/-- **What the encoder writes is read back.** -/
theorem messageReads_reads (p : Platform) {m : CdmaSmsMessage} (h : m.Int32Fields) :
    Reads (messageReads (digitCount p) (subDigitCount p) (bearerCount p)) (messageWrites p m)
      (m.read p) := by
  refine .int h.uTeleserviceID <| .byte <| .int h.uServicecategory <| .int h.digitMode <|
    .int h.numberMode <| .int h.numberType <| .int h.numberPlan <| .byte ?_
  refine Reads.bind (x := readMany _ readByte) (reads_entries _ _) ?_
  refine .int h.subaddressType <| .byte <| .byte ?_
  refine Reads.bind (x := readMany _ readByte) (reads_entries _ _) ?_
  refine .int h.uBearerDataLen ?_
  rw [← List.append_nil (byteWrites m.aBearerData _)]
  exact Reads.bind (x := readMany _ readByte) (reads_entries _ _) (.done _)

/-! ### The round trip -/

theorem leading_entries (n k : ℕ) (bs : List UInt8) :
    leading n n (entries k bs) = leading n k bs := by
  refine List.map_congr_left fun i hi => ?_
  rw [if_pos (List.mem_range.mp hi)]
  by_cases hik : i < k
  · rw [if_pos hik, entries, List.getD_eq_getElem?_getD, List.getElem?_map,
      List.getElem?_range hik]
    rfl
  · have hend : (entries k bs).length ≤ i := by
      rw [entries, List.length_map, List.length_range]
      omega
    rw [if_neg hik, List.getD_eq_getElem?_getD, List.getElem?_eq_none hend]
    rfl

/-- What is read, in memory. -/
theorem CdmaSmsMessage.read_inMemory (p : Platform) (m : CdmaSmsMessage) :
    (m.read p).inMemory p = m.cleared p := by
  unfold inMemory cleared withEntries read
  simp only [leading_entries]

theorem constructCdmaSms_checked (d : DispatchEnv) : Checked (constructCdmaSms d) :=
  (flow_bind _ _ _ _).mp (constructCdmaSms_decodes d id false).flow

/-- `constructCdmaSms` started on a parcel, its locals holding anything; `none` is an error
status. -/
def constructs (d : DispatchEnv) (p : Parcel) (t : Int) (ut : UInt8) :
    Option (CdmaSmsMessage × Parcel) :=
  (exec (constructCdmaSms d) ⟨p, true, t, ut⟩).map fun r => (r.1, r.2.parcel)

theorem constructs_eq (d : DispatchEnv) (p : Parcel) (t : Int) (ut : UInt8) :
    constructs d p t ut = present (constructCdmaSms d) p :=
  exec_eq_present (constructCdmaSms_checked d) rfl

/-- A message written is read back by `constructCdmaSms`. -/
theorem constructCdmaSms_reads (d : DispatchEnv) {m : CdmaSmsMessage} (h : m.Int32Fields) :
    Reads (constructCdmaSms d) (messageWrites d.platform m) (m.read d.platform) := by
  rw [constructCdmaSms_eq, ← List.append_nil (messageWrites _ _)]
  exact (messageReads_reads d.platform h).bind (.done _)

/-- The payload is completely that of a message, for `constructCdmaSms`. -/
def DecodesTo (d : DispatchEnv) (payload : List UInt8) (m : CdmaSmsMessage) : Prop :=
  ∀ t ut, constructs d (Parcel.ofBytes payload) t ut = some (m, ⟨payload, payload.length⟩)

/-- The payload written for a message is completely that of what is read of it. -/
theorem decodesTo_messageWrites (d : DispatchEnv) {m : CdmaSmsMessage} (h : m.Int32Fields) :
    DecodesTo d ((messageWrites d.platform m).flatMap Write.encoding) (m.read d.platform) := by
  intro t ut
  rw [constructs_eq]
  exact (constructCdmaSms_reads d h).whole

/-- **The round trip of a message.**  From the payload `responseCdmaSms` writes, `constructCdmaSms`
takes the message, the entries of its arrays at or beyond the smaller of length and limit being
zero, and nothing of the payload is left; from any cut of the payload it takes nothing. -/
theorem cdmaSms_roundTrip (env : EncodeEnv) (d : DispatchEnv) (hp : d.platform = env.platform)
    (r : ResponseMemory) (h : r.cdmaSms.Int32Fields) :
    ∃ x, responseCdmaSms env (some r) (env.platform.sizeOf .cdmaSmsMessage) = some x ∧ x.ret = 0 ∧
      (∀ t ut, ∃ m, constructs d (Parcel.ofBytes (x.writes.flatMap Write.encoding)) t ut
          = some (m, ⟨x.writes.flatMap Write.encoding,
              (x.writes.flatMap Write.encoding).length⟩) ∧
        m.inMemory env.platform = r.cdmaSms.cleared env.platform) ∧
      ∀ k < (x.writes.flatMap Write.encoding).length, ∀ t ut,
        constructs d (Parcel.ofBytes ((x.writes.flatMap Write.encoding).take k)) t ut = none := by
  have hreads := constructCdmaSms_reads d h
  rw [hp] at hreads
  refine ⟨_, responseCdmaSms_writes env r, rfl, ?_, ?_⟩
  · intro t ut
    exact ⟨r.cdmaSms.read env.platform, hp ▸ decodesTo_messageWrites d h t ut,
      CdmaSmsMessage.read_inMemory ..⟩
  · intro k hk t ut
    rw [constructs_eq]
    exact hreads.cut (slots_constructCdmaSms d 0) hk []

/-- A vendor's memory that holds one message. -/
def messageMemory (m : CdmaSmsMessage) : ResponseMemory :=
  { (default : ResponseMemory) with cdmaSms := m }

/-- A message with two digits, and a bearer-data length beyond the array. -/
def twoDigits : CdmaSmsMessage :=
  ⟨4098, 1, 0, ⟨0, 0, 2, 1, 2, [1, 2, 3]⟩, ⟨0, 0, 0, []⟩, 300, [7]⟩

theorem twoDigits_roundTrip : twoDigits.Int32Fields ∧
    ∃ x, responseCdmaSms ⟨x86, 6, false, 0⟩ (some (messageMemory twoDigits))
        (x86.sizeOf .cdmaSmsMessage) = some x ∧
      ∀ t ut, ∃ m, constructs ⟨x86, 6, .simReady, 0, 0⟩
          (Parcel.ofBytes (x.writes.flatMap Write.encoding)) t ut
          = some (m, ⟨x.writes.flatMap Write.encoding,
              (x.writes.flatMap Write.encoding).length⟩) ∧
        m.inMemory x86 = twoDigits.cleared x86 := by
  have hfields : twoDigits.Int32Fields := by constructor <;> decide
  obtain ⟨x, hx, -, hwhole, -⟩ := cdmaSms_roundTrip ⟨x86, 6, false, 0⟩
    ⟨x86, 6, .simReady, 0, 0⟩ rfl (messageMemory twoDigits) hfields
  exact ⟨hfields, x, hx, hwhole⟩

/-! ### The two decoders -/

/-- `dispatchRilCdmaSmsWriteArgs` after its status word. -/
theorem dispatch_writeArgs (d : DispatchEnv) {status : Int} (hstatus : IsInt32 status)
    (payload : List UInt8) :
    dispatch d .dispatchRilCdmaSmsWriteArgs (Parcel.ofBytes (wordBytes status ++ payload)) =
      match present (wholeReads d.platform) (Parcel.ofBytes payload) with
      | some (m, _) =>
          [.onRequest (.cdmaSmsWriteArgs ⟨status, m⟩) (d.platform.sizeOf .cdmaSmsWriteArgs)]
      | none => [] := by
  have hshift : present (wholeReads d.platform) ⟨wordBytes status ++ payload, 4⟩ = _ :=
    (slots_wholeReads d.platform 0).present_append (wordBytes status) payload 0
  show callOnRequest d (dispatchRilCdmaSmsWriteArgs d) _ = _
  rw [callOnRequest, run_eq_present (dispatchRilCdmaSmsWriteArgs_decodes d).flow,
    dispatchRilCdmaSmsWriteArgs_eq, present_int_ofBytes hstatus, present_bind, hshift]
  show _ = match present (wholeReads d.platform) ⟨payload, 0⟩ with | some (m, _) => _ | none => []
  rcases present (wholeReads d.platform) ⟨payload, 0⟩ with _ | ⟨m, q⟩ <;> rfl

/-- `dispatchRilCdmaSmsWriteArgs` on the status and the payload calls `onRequest` once, with that
status and the message. -/
def ForwardsMessage (d : DispatchEnv) (status : Int) (payload : List UInt8) (m : CdmaSmsMessage) :
    Prop :=
  dispatch d .dispatchRilCdmaSmsWriteArgs (Parcel.ofBytes (wordBytes status ++ payload))
    = [.onRequest (.cdmaSmsWriteArgs ⟨status, m⟩) (d.platform.sizeOf .cdmaSmsWriteArgs)]

/-- **When the two decoders agree.**  On a payload that is completely that of a message,
`dispatchRilCdmaSmsWriteArgs` calls `onRequest` once, with the status and that message, exactly when
the three arrays of the message are full. -/
theorem writeArgs_iff (d : DispatchEnv) {status : Int} (hstatus : IsInt32 status)
    {payload : List UInt8} {m : CdmaSmsMessage} (h : DecodesTo d payload m) :
    ForwardsMessage d status payload m ↔ m.Full d.platform := by
  have hrun := h 0 0
  rw [constructs_eq] at hrun
  obtain ⟨n, hn, hq, -, -⟩ := (slots_constructCdmaSms d 0).present hrun
  have hlen : payload.length = 0 + 4 * n := congrArg Parcel.pos hq
  unfold ForwardsMessage
  rw [dispatch_writeArgs d hstatus, CdmaSmsMessage.full_iff]
  constructor
  · intro hcall
    rcases hwhole : present (wholeReads d.platform) (Parcel.ofBytes payload) with _ | ⟨m', q'⟩
    · rw [hwhole] at hcall
      exact absurd hcall (by simp)
    · -- as many slots fit as the limits ask for
      obtain ⟨n', hn', -, hin, -⟩ := (slots_wholeReads d.platform 0).present hwhole
      have hdigits := digitCount_le d.platform m.sAddress.numberOfDigits
      have hsub := subDigitCount_le d.platform m.sSubAddress.numberOfDigits
      have hbearer := bearerCount_le d.platform m.uBearerDataLen
      omega
  · intro ⟨hdigits, hsub, hbearer⟩
    rw [constructCdmaSms_eq, present_bind] at hrun
    obtain ⟨⟨m', q'⟩, hreads, hdone⟩ := Option.bind_eq_some_iff.mp hrun
    obtain ⟨rfl, -⟩ := Prod.mk.inj (Option.some.inj hdone)
    have hwhole : present (wholeReads d.platform) (Parcel.ofBytes payload) = some (m', q') :=
      messageReads_congr hreads hdigits hsub hbearer
    rw [hwhole]

/-- A message with full arrays. -/
def fullArrays : CdmaSmsMessage :=
  ⟨4098, 1, 0, ⟨0, 0, 2, 1, 36, List.replicate 36 1⟩, ⟨0, 0, 36, List.replicate 36 2⟩, 255,
    List.replicate 255 3⟩

theorem fullArrays_forwarded : IsInt32 1 ∧
    DecodesTo ⟨x86, 6, .simReady, 0, 0⟩ ((messageWrites x86 fullArrays).flatMap Write.encoding)
      (fullArrays.read x86) ∧
    ForwardsMessage ⟨x86, 6, .simReady, 0, 0⟩ 1
      ((messageWrites x86 fullArrays).flatMap Write.encoding) (fullArrays.read x86) := by
  have hstatus : IsInt32 1 := by decide
  have hfields : fullArrays.Int32Fields := by constructor <;> decide
  have hdecodes := decodesTo_messageWrites ⟨x86, 6, .simReady, 0, 0⟩ hfields
  have hfull : (fullArrays.read x86).Full x86 := by decide
  exact ⟨hstatus, hdecodes, (writeArgs_iff _ hstatus hdecodes).mpr hfull⟩

/-- A message whose three arrays are empty: the second decoder runs out of data and refuses it. -/
theorem emptyArrays_refused :
    DecodesTo ⟨x86, 6, .simReady, 0, 0⟩ (List.replicate 48 0)
      ⟨0, 0, 0, ⟨0, 0, 0, 0, 0, []⟩, ⟨0, 0, 0, []⟩, 0, []⟩ ∧
    dispatch ⟨x86, 6, .simReady, 0, 0⟩ .dispatchRilCdmaSmsWriteArgs
        (Parcel.ofBytes (wordBytes 1 ++ List.replicate 48 0)) = [] ∧
    ¬ ForwardsMessage ⟨x86, 6, .simReady, 0, 0⟩ 1 (List.replicate 48 0)
      ⟨0, 0, 0, ⟨0, 0, 0, 0, 0, []⟩, ⟨0, 0, 0, []⟩, 0, []⟩ := by
  have hrefused : dispatch ⟨x86, 6, .simReady, 0, 0⟩ .dispatchRilCdmaSmsWriteArgs
      (Parcel.ofBytes (wordBytes 1 ++ List.replicate 48 0)) = [] := by
    rw [dispatch_writeArgs _ (by decide)]
    decide +kernel
  refine ⟨?_, hrefused, ?_⟩
  · intro t ut
    rw [constructs_eq]
    decide +kernel
  · unfold ForwardsMessage
    rw [hrefused]
    simp

end CtpCommon.Ril
