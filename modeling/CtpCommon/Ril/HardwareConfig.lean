import CtpCommon.Lib.Marshal
import CtpCommon.Ril.Response
import Mathlib.Data.Set.Function

/-!
# Hardware configurations

`responseHardwareConfig` writes the fields of a modem or those of a SIM, and not which of the two it
writes.

* `HardwareRecord` — a record of a known type, with the member of the union its type stands for;
* `readHardwareConfigs` — a decoder that is told the types;
* `readHardwareConfigs_reads` — **PROVED**: it reads exactly what is written, and recovers every
  record, the strings as they were converted;
* `specimen_bytes` — **PROVED**: a modem and a SIM with the same bytes;
* `hardwareConfig_distinguishes_iff` — **PROVED**: lists of given types with different contents have
  different payloads exactly when their lengths differ, or their types are the same and the
  conversion of strings loses nothing.
-/

namespace CtpCommon.Ril

open ReadProg
open Parcel (Write IsInt32 wordBytes wordOf unitBytes int32Max)

/-! ### Records -/

/-- `RIL_HardwareConfigType`. -/
inductive HardwareKind where
  | modem
  | sim
  deriving DecidableEq

/-- A record of one of the types, with strings in `α`. -/
inductive HardwareRecord (α : Type) where
  | modem (uuid : α) (state rat maxVoice maxData maxStandby : Int)
  | sim (uuid : α) (state : Int) (modemUuid : α)

namespace HardwareRecord

variable {α β : Type}

def kind : HardwareRecord α → HardwareKind
  | modem .. => .modem
  | sim .. => .sim

def ints : HardwareRecord α → List Int
  | modem _ state rat maxVoice maxData maxStandby => [state, rat, maxVoice, maxData, maxStandby]
  | sim _ state _ => [state]

def strings : HardwareRecord α → List α
  | modem uuid .. => [uuid]
  | sim uuid _ modemUuid => [uuid, modemUuid]

def map (f : α → β) : HardwareRecord α → HardwareRecord β
  | modem uuid state rat maxVoice maxData maxStandby =>
      modem (f uuid) state rat maxVoice maxData maxStandby
  | sim uuid state modemUuid => sim (f uuid) state (f modemUuid)

/-- The writes of a record. -/
def writes : HardwareRecord (List UInt16) → List Write
  | modem uuid state rat maxVoice maxData maxStandby =>
      [.string16 (some uuid), .int32 state, .int32 rat, .int32 maxVoice, .int32 maxData,
        .int32 maxStandby]
  | sim uuid state modemUuid =>
      [.string16 (some uuid), .int32 state, .string16 (some modemUuid)]

/-- The record in the vendor's memory. -/
def config : HardwareRecord CString → HardwareConfig
  | modem uuid state rat maxVoice maxData maxStandby =>
      { (default : HardwareConfig) with
        type := 0, uuid := uuid, state := state, modemRat := rat, modemMaxVoice := maxVoice
        modemMaxData := maxData, modemMaxStandby := maxStandby }
  | sim uuid state modemUuid =>
      { (default : HardwareConfig) with
        type := 1, uuid := uuid, state := state, simModemUuid := modemUuid }

/-- Nothing is lost where different strings stay different. -/
theorem map_injOn {f : α → β} {S : Set α} (hf : S.InjOn f) {c d : HardwareRecord α}
    (hc : ∀ s ∈ c.strings, s ∈ S) (hd : ∀ s ∈ d.strings, s ∈ S) (h : c.map f = d.map f) :
    c = d := by
  cases c with
  | modem uuid state rat maxVoice maxData maxStandby =>
    cases d with
    | modem uuid' state' rat' maxVoice' maxData' maxStandby' =>
      simp only [map, modem.injEq] at h
      obtain ⟨huuid, rfl, rfl, rfl, rfl, rfl⟩ := h
      rw [hf (hc uuid List.mem_cons_self) (hd uuid' List.mem_cons_self) huuid]
    | sim uuid' state' modemUuid' => simp [map] at h
  | sim uuid state modemUuid =>
    cases d with
    | modem uuid' state' rat' maxVoice' maxData' maxStandby' => simp [map] at h
    | sim uuid' state' modemUuid' =>
      simp only [map, sim.injEq] at h
      obtain ⟨huuid, rfl, hmodem⟩ := h
      have hlast : ∀ (a b : α), b ∈ [a, b] := fun a b => List.mem_cons_of_mem a List.mem_cons_self
      rw [hf (hc uuid List.mem_cons_self) (hd uuid' List.mem_cons_self) huuid,
        hf (hc modemUuid (hlast _ _)) (hd modemUuid' (hlast _ _)) hmodem]

end HardwareRecord

/-- The vendor's record, if its type is one of the two. -/
def HardwareConfig.record (h : HardwareConfig) : Option (HardwareRecord CString) :=
  if h.type = 0 then
    some (.modem h.uuid h.state h.modemRat h.modemMaxVoice h.modemMaxData h.modemMaxStandby)
  else if h.type = 1 then some (.sim h.uuid h.state h.simModemUuid)
  else none

/-- What is written of a vendor's record. -/
theorem HardwareConfig.record_writes (env : EncodeEnv) {h : HardwareConfig}
    {c : HardwareRecord CString} (hc : h.record = some c) :
    hardwareWrites env h = (c.map env.platform.strdup8to16).writes := by
  unfold HardwareConfig.record at hc
  unfold hardwareWrites
  split_ifs at hc with h₀ h₁ <;> obtain rfl := Option.some.inj hc
  · rw [if_pos h₀]
    rfl
  · rw [if_neg h₀, if_pos h₁]
    rfl

theorem HardwareRecord.record_config (c : HardwareRecord CString) : c.config.record = some c := by
  cases c <;> rfl

/-! ### A decoder that is told the types -/

def readHardware : HardwareKind → ReadProg (HardwareRecord (List UInt16))
  | .modem => do
      let uuid ← readString16Inplace
      let state ← readInt32
      let rat ← readInt32
      let maxVoice ← readInt32
      let maxData ← readInt32
      let maxStandby ← readInt32
      return .modem (uuid.getD []) state rat maxVoice maxData maxStandby
  | .sim => do
      let uuid ← readString16Inplace
      let state ← readInt32
      let modemUuid ← readString16Inplace
      return .sim (uuid.getD []) state (modemUuid.getD [])

def readRecords : List HardwareKind → ReadProg (List (HardwareRecord (List UInt16)))
  | [] => return []
  | k :: kinds => do
      let c ← readHardware k
      let cs ← readRecords kinds
      return c :: cs

def readHardwareConfigs (kinds : List HardwareKind) :
    ReadProg (List (HardwareRecord (List UInt16))) := do
  let _num ← readInt32
  readRecords kinds

/-- The fields of a record can be told from what is written of them. -/
structure HardwareRecord.Typed (c : HardwareRecord (List UInt16)) : Prop where
  ints : ∀ v ∈ c.ints, IsInt32 v
  strings : ∀ s ∈ c.strings, (s.length : Int) < int32Max

theorem readHardware_reads {c : HardwareRecord (List UInt16)} (h : c.Typed) :
    Reads (readHardware c.kind) c.writes c := by
  obtain ⟨hints, hstrings⟩ := h
  cases c with
  | modem uuid state rat maxVoice maxData maxStandby =>
    simp only [HardwareRecord.ints, HardwareRecord.strings, List.forall_mem_cons] at hints hstrings
    obtain ⟨h₁, h₂, h₃, h₄, h₅, -⟩ := hints
    exact .string hstrings.1 <| .int h₁ <| .int h₂ <| .int h₃ <| .int h₄ <| .int h₅ <| .done _
  | sim uuid state modemUuid =>
    simp only [HardwareRecord.ints, HardwareRecord.strings, List.forall_mem_cons] at hints hstrings
    exact .string hstrings.1 <| .int hints.1 <| .string hstrings.2.1 <| .done _

theorem readRecords_reads {cs : List (HardwareRecord (List UInt16))} (h : ∀ c ∈ cs, c.Typed) :
    Reads (readRecords (cs.map HardwareRecord.kind)) (cs.flatMap HardwareRecord.writes) cs := by
  induction cs with
  | nil => exact .done []
  | cons c cs ih =>
    obtain ⟨hc, hcs⟩ := List.forall_mem_cons.mp h
    have hrest : Reads ((readRecords (cs.map HardwareRecord.kind)).bind fun cs => .done (c :: cs))
        (cs.flatMap HardwareRecord.writes ++ []) (c :: cs) := (ih hcs).bind (.done _)
    rw [List.append_nil] at hrest
    exact (readHardware_reads hc).bind hrest

/-- **Records of known types are read back.** -/
theorem readHardwareConfigs_reads {cs : List (HardwareRecord (List UInt16))}
    (h : ∀ c ∈ cs, c.Typed) (hcount : IsInt32 cs.length) :
    Reads (readHardwareConfigs (cs.map HardwareRecord.kind))
      (.int32 cs.length :: cs.flatMap HardwareRecord.writes) cs :=
  .int hcount (readRecords_reads h)

/-! ### Payloads -/

/-- The vendor's array holds the records. -/
def HoldsHardware (r : ResponseMemory) (cs : List (HardwareRecord CString)) : Prop :=
  ∀ i (h : i < cs.length), (r.hardwareConfigs i).record = some cs[i]

/-- A memory that holds the records. -/
def hardwareMemory (cs : List (HardwareRecord CString)) : ResponseMemory :=
  { (default : ResponseMemory) with
    hardwareConfigs := fun i => (cs[i]?.map HardwareRecord.config).getD default }

theorem holdsHardware_memory (cs : List (HardwareRecord CString)) :
    HoldsHardware (hardwareMemory cs) cs := by
  intro i h
  show ((cs[i]?.map HardwareRecord.config).getD default).record = _
  rw [List.getElem?_eq_getElem h]
  exact HardwareRecord.record_config _

variable (env : EncodeEnv)

/-- The strings as they are converted. -/
def converted (cs : List (HardwareRecord CString)) : List (HardwareRecord (List UInt16)) :=
  cs.map (HardwareRecord.map env.platform.strdup8to16)

/-- The bytes written for an array of `n` records. -/
def hardwarePayload (r : ResponseMemory) (n : ℕ) : Option (List UInt8) :=
  (responseHardwareConfig env (some r) (n * env.platform.sizeOf .hardwareConfig)).map
    fun x => x.writes.flatMap Write.encoding

/-- **What is written for a list of records**: their number, and the fields of each. -/
theorem responseHardwareConfig_writes {env : EncodeEnv}
    (hsize : 0 < env.platform.sizeOf .hardwareConfig) {r : ResponseMemory}
    {cs : List (HardwareRecord CString)} (hcs : HoldsHardware r cs) :
    responseHardwareConfig env (some r) (cs.length * env.platform.sizeOf .hardwareConfig)
      = some { writes :=
          .int32 cs.length :: (converted env cs).flatMap HardwareRecord.writes } := by
  unfold responseHardwareConfig converted
  rw [List.flatMap_map]
  exact arrayResponse_records hsize _ fun i hi => HardwareConfig.record_writes env (hcs i hi)

theorem hardwarePayload_eq {env : EncodeEnv} (hsize : 0 < env.platform.sizeOf .hardwareConfig)
    {r : ResponseMemory} {cs : List (HardwareRecord CString)} (hcs : HoldsHardware r cs) :
    hardwarePayload env r cs.length = some (wordBytes cs.length ++
      ((converted env cs).flatMap HardwareRecord.writes).flatMap Write.encoding) := by
  unfold hardwarePayload
  rw [responseHardwareConfig_writes hsize hcs]
  rfl

/-- Records of the given types, with strings of `S`. -/
structure HardwareList (S : Set CString) (kinds : List HardwareKind)
    (cs : List (HardwareRecord CString)) : Prop where
  kinds : cs.map HardwareRecord.kind = kinds
  ints : ∀ c ∈ cs, ∀ v ∈ c.ints, IsInt32 v
  strings : ∀ c ∈ cs, ∀ s ∈ c.strings, s ∈ S

/-- Different lists of these types, wherever they are stored, have different payloads. -/
def Distinguishes (S : Set CString) (ts us : List HardwareKind) : Prop :=
  ∀ cs ds r r', HardwareList S ts cs → HardwareList S us ds → HoldsHardware r cs →
    HoldsHardware r' ds → cs ≠ ds →
      hardwarePayload env r cs.length ≠ hardwarePayload env r' ds.length

variable {env} {S : Set CString} {ts us : List HardwareKind} {cs ds : List (HardwareRecord CString)}

theorem HardwareList.length_eq (h : HardwareList S ts cs) : cs.length = ts.length := by
  rw [← h.kinds, List.length_map]

theorem HardwareList.kinds_converted (h : HardwareList S ts cs) :
    (converted env cs).map HardwareRecord.kind = ts := by
  rw [← h.kinds, converted, List.map_map]
  refine List.map_congr_left fun c _ => ?_
  cases c <;> rfl

theorem HardwareList.typed (h : HardwareList S ts cs)
    (hunits : ∀ s ∈ S, ((env.platform.strdup8to16 s).length : Int) < int32Max) :
    ∀ c ∈ converted env cs, c.Typed := by
  intro c' hc'
  obtain ⟨c, hc, rfl⟩ := List.mem_map.mp hc'
  have hstrings := h.strings c hc
  have hints := h.ints c hc
  cases c with
  | modem uuid state rat maxVoice maxData maxStandby =>
    refine ⟨hints, fun s hs => ?_⟩
    obtain rfl := List.mem_singleton.mp hs
    exact hunits _ (hstrings uuid List.mem_cons_self)
  | sim uuid state modemUuid =>
    refine ⟨hints, ?_⟩
    simp only [HardwareRecord.strings, List.forall_mem_cons] at hstrings
    exact List.forall_mem_cons.mpr ⟨hunits _ hstrings.1,
      List.forall_mem_singleton.mpr (hunits _ hstrings.2.1)⟩

/-- Nothing is lost in a list either. -/
theorem converted_injOn (hS : S.InjOn env.platform.strdup8to16) (hcs : HardwareList S ts cs)
    (hds : HardwareList S us ds) (h : converted env cs = converted env ds) : cs = ds := by
  have hstrings := hcs.strings
  have hstrings' := hds.strings
  clear hcs hds
  induction cs generalizing ds with
  | nil =>
    cases ds with
    | nil => rfl
    | cons d ds => simp [converted] at h
  | cons c cs ih =>
    cases ds with
    | nil => simp [converted] at h
    | cons d ds =>
      obtain ⟨hc, hcs⟩ := List.forall_mem_cons.mp hstrings
      obtain ⟨hd, hds⟩ := List.forall_mem_cons.mp hstrings'
      obtain ⟨hhead, htail⟩ := List.cons.inj h
      rw [HardwareRecord.map_injOn hS hc hd hhead, ih htail hcs hds]

/-! ### Records with the same bytes -/

/-- A record with one string throughout, and with the words of four units among its integers. -/
def specimen (u : List UInt16) (s : CString) : HardwareKind → HardwareRecord CString
  | .modem => .modem s 0 4 (wordOf ((unitBytes u).take 4)) (wordOf ((unitBytes u).drop 4)) 0
  | .sim => .sim s 0 s

theorem specimen_list (u : List UInt16) {s : CString} (hs : s ∈ S) (ts : List HardwareKind) :
    HardwareList S ts (ts.map (specimen u s)) := by
  have hzero : IsInt32 0 := by decide
  refine ⟨?_, ?_, ?_⟩
  · rw [List.map_map]
    conv_rhs => rw [← List.map_id ts]
    refine List.map_congr_left fun k _ => ?_
    cases k <;> rfl
  · rw [List.forall_mem_map]
    intro k _
    cases k with
    | modem =>
      simp only [specimen, HardwareRecord.ints, List.forall_mem_cons]
      exact ⟨hzero, by decide, Parcel.isInt32_wordOf _, Parcel.isInt32_wordOf _, hzero, by simp⟩
    | sim => exact List.forall_mem_singleton.mpr hzero
  · rw [List.forall_mem_map]
    intro k _
    cases k with
    | modem => exact List.forall_mem_singleton.mpr hs
    | sim => exact List.forall_mem_cons.mpr ⟨hs, List.forall_mem_singleton.mpr hs⟩

/-- A string of four units takes the bytes of four words. -/
theorem encoding_fourUnits {u : List UInt16} (hu : u.length = 4) :
    (Write.string16 (some u)).encoding
      = wordBytes 4 ++ (wordBytes (wordOf ((unitBytes u).take 4)) ++
          (wordBytes (wordOf ((unitBytes u).drop 4)) ++ wordBytes 0)) := by
  match u, hu with
  | [a, b, c, d], _ =>
    have hzero : wordBytes 0 = [0, 0, 0, 0] := by decide
    simp only [unitBytes, List.flatMap_cons, List.flatMap_nil, List.cons_append, List.nil_append,
      List.take, List.drop, Parcel.wordBytes_wordOf, hzero]
    simp [Write.encoding, unitBytes, Parcel.padSize]

/-- **A modem's bytes and a SIM's bytes are the same.** -/
theorem specimen_bytes {s : CString} (hs : (env.platform.strdup8to16 s).length = 4)
    (k : HardwareKind) :
    ((specimen (env.platform.strdup8to16 s) s k).map env.platform.strdup8to16).writes.flatMap
        Write.encoding
      = (Write.string16 (some (env.platform.strdup8to16 s))).encoding ++
        (wordBytes 0 ++ (Write.string16 (some (env.platform.strdup8to16 s))).encoding) := by
  cases k with
  | modem =>
    have hlast := encoding_fourUnits hs
    conv_rhs => rw [hlast]
    simp only [specimen, HardwareRecord.map, HardwareRecord.writes, List.flatMap_cons,
      List.flatMap_nil, List.append_nil]
    rw [hlast]
    simp only [Write.encoding, List.append_assoc]
  | sim =>
    simp only [specimen, HardwareRecord.map, HardwareRecord.writes, List.flatMap_cons,
      List.flatMap_nil, List.append_nil]
    rfl

/-- The bytes of specimens depend on their number alone. -/
theorem specimens_bytes {s : CString} (hs : (env.platform.strdup8to16 s).length = 4)
    (hlen : ts.length = us.length) :
    ((converted env (ts.map (specimen (env.platform.strdup8to16 s) s))).flatMap
        HardwareRecord.writes).flatMap Write.encoding
      = ((converted env (us.map (specimen (env.platform.strdup8to16 s) s))).flatMap
        HardwareRecord.writes).flatMap Write.encoding := by
  induction ts generalizing us with
  | nil =>
    obtain rfl := List.length_eq_zero_iff.mp hlen.symm
    rfl
  | cons k ts ih =>
    cases us with
    | nil => exact absurd hlen (by simp)
    | cons k' us =>
      have hrest := ih (Nat.succ.inj hlen)
      simp only [converted, List.map_cons, List.flatMap_cons, List.flatMap_append] at hrest ⊢
      rw [specimen_bytes hs k, specimen_bytes hs k', hrest]

/-! ### What payloads tell -/

section Payloads

variable (hsize : 2 ≤ env.platform.sizeOf .hardwareConfig)

include hsize

/-- The count tells lists of different lengths apart. -/
theorem distinguishes_of_length
    (hts : ts.length * env.platform.sizeOf .hardwareConfig < 4294967296)
    (hus : us.length * env.platform.sizeOf .hardwareConfig < 4294967296)
    (hne : ts.length ≠ us.length) : Distinguishes env S ts us := by
  intro cs ds r r' hcs hds hr hr' _ heq
  rw [hardwarePayload_eq (by omega) hr, hardwarePayload_eq (by omega) hr'] at heq
  have hword := List.append_inj_left (Option.some.inj heq) rfl
  have hcount := isInt32_count hsize hts
  have hcount' := isInt32_count hsize hus
  rw [← hcs.length_eq] at hcount hne
  rw [← hds.length_eq] at hcount' hne
  have hvalue := congrArg wordOf hword
  rw [Parcel.wordOf_wordBytes hcount, Parcel.wordOf_wordBytes hcount'] at hvalue
  exact hne (by exact_mod_cast hvalue)

/-- Where the types are known, nothing but the conversion of strings can lose anything. -/
theorem distinguishes_of_injOn
    (hunits : ∀ s ∈ S, ((env.platform.strdup8to16 s).length : Int) < int32Max)
    (hts : ts.length * env.platform.sizeOf .hardwareConfig < 4294967296)
    (hS : S.InjOn env.platform.strdup8to16) : Distinguishes env S ts ts := by
  intro cs ds r r' hcs hds hr hr' hne heq
  rw [hardwarePayload_eq (by omega) hr, hardwarePayload_eq (by omega) hr'] at heq
  have hreads : ∀ {cs : List (HardwareRecord CString)}, HardwareList S ts cs →
      Reads (readHardwareConfigs ts)
        (.int32 cs.length :: (converted env cs).flatMap HardwareRecord.writes)
        (converted env cs) := by
    intro cs hcs
    have hcount := isInt32_count hsize hts
    have hlen : (converted env cs).length = cs.length := List.length_map _
    rw [← hcs.length_eq, ← hlen] at hcount
    have hback := readHardwareConfigs_reads (hcs.typed hunits) hcount
    rw [hcs.kinds_converted, hlen] at hback
    exact hback
  have hsame := (hreads hcs).unique (hreads hds) (Option.some.inj heq)
  exact hne (converted_injOn hS hcs hds hsame)

/-- Two lists of the same bytes show that nothing is told. -/
theorem not_distinguishes (hcs : HardwareList S ts cs) (hds : HardwareList S us ds) (hne : cs ≠ ds)
    (hlen : cs.length = ds.length)
    (hbytes : ((converted env cs).flatMap HardwareRecord.writes).flatMap Write.encoding
      = ((converted env ds).flatMap HardwareRecord.writes).flatMap Write.encoding) :
    ¬ Distinguishes env S ts us := by
  intro hall
  refine hall cs ds _ _ hcs hds (holdsHardware_memory cs) (holdsHardware_memory ds) hne ?_
  rw [hardwarePayload_eq (by omega) (holdsHardware_memory cs),
    hardwarePayload_eq (by omega) (holdsHardware_memory ds), hlen, hbytes]

/-- The types themselves are not told. -/
theorem not_distinguishes_of_kinds {s : CString} (hs : s ∈ S)
    (hfour : (env.platform.strdup8to16 s).length = 4) (hlen : ts.length = us.length)
    (hne : ts ≠ us) : ¬ Distinguishes env S ts us := by
  have hcs := specimen_list (env.platform.strdup8to16 s) hs ts
  have hds := specimen_list (env.platform.strdup8to16 s) hs us
  refine not_distinguishes hsize hcs hds ?_ ?_ (specimens_bytes hfour hlen)
  · intro heq
    rw [← hcs.kinds, heq, hds.kinds] at hne
    exact hne rfl
  · rw [hcs.length_eq, hds.length_eq, hlen]

/-- Strings that are converted to the same units are not told apart. -/
theorem injOn_of_distinguishes (h : Distinguishes env S ts ts) (hts : ts ≠ []) :
    S.InjOn env.platform.strdup8to16 := by
  intro a ha b hb hab
  by_contra hne
  obtain ⟨k, ts', rfl⟩ := List.exists_cons_of_ne_nil hts
  have hcs := specimen_list [] ha (k :: ts')
  have hds := specimen_list [] hb (k :: ts')
  refine not_distinguishes hsize hcs hds ?_ ?_ ?_ h
  · intro heq
    have hhead := (List.cons.inj heq).1
    cases k with
    | modem => exact hne (HardwareRecord.modem.inj hhead).1
    | sim => exact hne (HardwareRecord.sim.inj hhead).1
  · rw [hcs.length_eq, hds.length_eq]
  · have hsame : ∀ k, (specimen [] a k).map env.platform.strdup8to16
        = (specimen [] b k).map env.platform.strdup8to16 := by
      intro k
      cases k <;> simp only [specimen, HardwareRecord.map, hab]
    unfold converted
    simp only [List.map_map, Function.comp_def, hsame]

end Payloads

/-- **What a payload of hardware configurations tells.**  It begins with the number of records that
follow.  Lists of records of the types `ts` and `us`, with strings of `S`, have different payloads
whenever they differ, exactly when they are of different lengths, or have the same types and, if
there is a record at all, no two strings of `S` are converted to the same units. -/
theorem hardwareConfig_distinguishes_iff (env : EncodeEnv)
    (hsize : 2 ≤ env.platform.sizeOf .hardwareConfig)
    (hunits : ∀ s ∈ S, ((env.platform.strdup8to16 s).length : Int) < int32Max)
    (hfour : ∃ s ∈ S, (env.platform.strdup8to16 s).length = 4)
    (hts : ts.length * env.platform.sizeOf .hardwareConfig < 4294967296)
    (hus : us.length * env.platform.sizeOf .hardwareConfig < 4294967296) :
    (∀ cs r, HardwareList S ts cs → HoldsHardware r cs →
      responseHardwareConfig env (some r) (cs.length * env.platform.sizeOf .hardwareConfig)
        = some { writes :=
            .int32 cs.length :: (converted env cs).flatMap HardwareRecord.writes }) ∧
      (Distinguishes env S ts us ↔
        ts.length ≠ us.length ∨ ts = us ∧ (ts = [] ∨ S.InjOn env.platform.strdup8to16)) := by
  refine ⟨fun cs r _ hr => responseHardwareConfig_writes (by omega) hr, ?_, ?_⟩
  · intro h
    by_cases hlen : ts.length = us.length
    · right
      obtain ⟨s, hs, hfour⟩ := hfour
      have hsame : ts = us := by
        by_contra hne
        exact not_distinguishes_of_kinds hsize hs hfour hlen hne h
      subst hsame
      by_cases hnil : ts = []
      · exact ⟨rfl, .inl hnil⟩
      · exact ⟨rfl, .inr (injOn_of_distinguishes hsize h hnil)⟩
    · exact .inl hlen
  · rintro (hne | ⟨rfl, rfl | hS⟩)
    · exact distinguishes_of_length hsize hts hus hne
    · intro cs ds r r' hcs hds _ _ hne
      have hcs' := hcs.length_eq
      have hds' := hds.length_eq
      exact absurd ((List.length_eq_zero_iff.mp hcs').trans
        (List.length_eq_zero_iff.mp hds').symm) hne
    · exact distinguishes_of_injOn hsize hunits hts hS

/-- The ASCII strings that fit into 64 bytes. -/
def asciiStrings : Set CString := { s | s.length < 64 ∧ ∀ b ∈ s, b < 128 }

theorem abcd_ascii : [97, 98, 99, 100] ∈ asciiStrings := ⟨by simp, by simp⟩

/-- A modem and a SIM are told from others of these types. -/
theorem modemAndSim_distinguished :
    Distinguishes ⟨x86, 6, false, 0⟩ asciiStrings [.modem, .sim] [.modem, .sim] := by
  have hlength : ∀ s, (x86.strdup8to16 s).length = s.length := fun s => List.length_map _
  have hinj : asciiStrings.InjOn x86.strdup8to16 := by
    intro a _ b _ hab
    refine List.map_injective_iff.mpr ?_ hab
    intro x y hxy
    have hvalue := congrArg UInt16.toNat hxy
    simp only [UInt16.toNat_ofNat'] at hvalue
    have hx := x.toNat_lt
    have hy := y.toNat_lt
    exact UInt8.toNat_inj.mp (by omega)
  have hunits : ∀ s ∈ asciiStrings, ((x86.strdup8to16 s).length : Int) < int32Max := by
    intro s hs
    have hlt := hs.1
    rw [hlength]
    unfold int32Max
    omega
  have hfour : ∃ s ∈ asciiStrings, (x86.strdup8to16 s).length = 4 :=
    ⟨[97, 98, 99, 100], abcd_ascii, rfl⟩
  exact (hardwareConfig_distinguishes_iff ⟨x86, 6, false, 0⟩ (by decide) hunits hfour (by decide)
    (by decide)).2.mpr (.inr ⟨rfl, .inr hinj⟩)

/-- A modem whose integers are the words of `abcd`, and a SIM of the modem `abcd`: their payloads
are the same. -/
theorem modem_reads_as_sim : ∃ cs ds, cs.map HardwareRecord.kind ≠ ds.map HardwareRecord.kind ∧
    HardwareList asciiStrings [.modem] cs ∧ HardwareList asciiStrings [.sim] ds ∧
    hardwarePayload ⟨x86, 6, false, 0⟩ (hardwareMemory cs) cs.length
      = hardwarePayload ⟨x86, 6, false, 0⟩ (hardwareMemory ds) ds.length := by
  have hstring : [109] ∈ asciiStrings := ⟨by simp, by simp⟩
  refine ⟨[.modem [109] 1 4 6422625 6553699 0], [.sim [109] 1 [97, 98, 99, 100]], by decide,
    ⟨rfl, ?_, ?_⟩, ⟨rfl, ?_, ?_⟩, ?_⟩
  · decide
  · simp [HardwareRecord.strings, hstring]
  · decide
  · simp [HardwareRecord.strings, hstring, abcd_ascii]
  · decide

end CtpCommon.Ril
