import CtpCommon.Ril.DispatchLayout

/-!
# What the counted dispatch functions let through

Six dispatch functions read a count from the payload, then as many elements, and pass the product
of the count and the element size along as the length of the data.  The count is signed, and the
product is computed in a `size_t`.

* `CountedRequest` — the six functions, with the fields of one element and the data built from
  complete elements;
* `CountedRequest.dispatch_eq`, `dispatchRaw_eq` — **PROVED**: what the functions forward;
* `countedRequest_forwards_iff` — **PROVED**: the length passed is that of elements really there
  iff the count is the documented null, or is not negative and the elements are complete or a word
  of them is missing;
* `strings_without_elements` — a count of three with nothing after it is forwarded.
-/

namespace CtpCommon.Ril

open ReadProg

inductive CountedRequest where
  | strings | ints | raw | gsmBrSmsCnf | cdmaBrSmsCnf | dataProfile
  deriving DecidableEq, Repr

namespace CountedRequest

def function : CountedRequest → DispatchFunction
  | .strings => .dispatchStrings
  | .ints => .dispatchInts
  | .raw => .dispatchRaw
  | .gsmBrSmsCnf => .dispatchGsmBrSmsCnf
  | .cdmaBrSmsCnf => .dispatchCdmaBrSmsCnf
  | .dataProfile => .dispatchDataProfile

/-- The size of one element: of a byte, a pointer or an integer. -/
def size : CountedRequest → ℕ
  | .raw => 1
  | _ => wordSize

/-- The fields of one element; raw bytes are no fields. -/
def fields : CountedRequest → List Field
  | .strings => [.string]
  | .ints => [.word]
  | .raw => []
  | .gsmBrSmsCnf => List.replicate 5 .word
  | .cdmaBrSmsCnf => List.replicate 3 .word
  | .dataProfile => dataProfileFields

/-- Does the code document `-1` as a null array? -/
def nullable : CountedRequest → Bool
  | .strings | .raw => true
  | _ => false

/-! ### Complete elements -/

def stringElement (platform : Platform) : List FieldValue → Option CString
  | [.string s] => s.map platform.strndup16to8
  | _ => none

def intElement : List FieldValue → Int
  | [.word v] => v
  | _ => 0

def gsmElement : List FieldValue → GsmBroadcastSmsConfigInfo
  | [.word fromServiceId, .word toServiceId, .word fromCodeScheme, .word toCodeScheme,
      .word selected] =>
      ⟨fromServiceId, toServiceId, fromCodeScheme, toCodeScheme, uint8Of selected⟩
  | _ => default

def cdmaElement : List FieldValue → CdmaBroadcastSmsConfigInfo
  | [.word serviceCategory, .word language, .word selected] =>
      ⟨serviceCategory, language, uint8Of selected⟩
  | _ => default

def profileElement (platform : Platform) : List FieldValue → DataProfileInfo
  | [.word profileId, .string apn, .string protocol, .word authType, .string user,
      .string password, .word type, .word maxConnsTime, .word maxConns, .word waitTime,
      .word enabled] =>
      let str := Option.map platform.strndup16to8
      ⟨profileId, str apn, str protocol, authType, str user, str password, type, maxConnsTime,
        maxConns, waitTime, enabled⟩
  | _ => ⟨0, none, none, 0, none, none, 0, 0, 0, 0, 0⟩

variable (env : DispatchEnv)

/-- The data with exactly these elements. -/
def build : CountedRequest → List (List FieldValue) → RequestData
  | .strings, vss => .strings (vss.map (stringElement env.platform))
  | .ints, vss => .ints (vss.map intElement)
  | .raw, _ => .null
  | .gsmBrSmsCnf, vss => .gsmBrSmsCnf (vss.map gsmElement)
  | .cdmaBrSmsCnf, vss => .cdmaBrSmsCnf (vss.map cdmaElement)
  | .dataProfile, vss => .dataProfile (vss.map (profileElement env.platform))

/-- The data are `n` elements that are completely there after the count; a null array has
none. -/
def Decoded (c : CountedRequest) (n : ℕ) (q : Parcel) (data : RequestData) : Prop :=
  match c with
  | .raw => ∃ bytes, (q.readInplace n).1 = some bytes ∧ data = .raw (some bytes)
  | c => ∃ vss : List (List FieldValue), vss.length = n ∧
      Field.decode (List.replicate n c.fields).flatten q = some vss.flatten ∧
      (data = c.build env vss ∨ c = .strings ∧ n = 0 ∧ data = .null)

/-- A word of the elements is missing, so that the request is rejected. -/
def cut : CountedRequest → ℕ → Parcel → Bool
  | .raw, _, _ => false
  | c, n, q => !Field.wordsPresent (List.replicate n c.fields).flatten q

/-- The bytes, or the strings of the elements, are completely there. -/
def whole : CountedRequest → ℕ → Parcel → Bool
  | .raw, n, q => (q.readInplace n).1.isSome
  | c, n, q => Field.stringsComplete (List.replicate n c.fields).flatten q

/-! ### What is forwarded -/

/-- The call of a program that has run to its end. -/
def forwarded : Option (Payload × Parcel) → List DispatchEffect
  | some ((data, datalen), _) => [.onRequest data datalen]
  | none => []

/-- A program that reads a count first. -/
theorem callOnRequest_count {k : Int → ReadProg Payload} (h : Checked (.fresh k)) (p : Parcel) :
    callOnRequest env (.fresh k) p =
      match p.readInt32 with
      | (none, _) => []
      | (some w, q) => forwarded (present (k w) q) := by
  unfold callOnRequest
  rw [run_eq_present h]
  rcases hr : p.readInt32 with ⟨_ | w, q⟩
  · simp only [present, hr]
    rfl
  · simp only [present, hr]
    rcases present (k w) q with _ | ⟨⟨data, datalen⟩, r⟩ <;> rfl

/-- The loop over the elements, each of them a list of field values. -/
def loop (c : CountedRequest) (n : ℕ) (q : Parcel) : Option (List (List FieldValue) × Parcel) :=
  present (readMany n (Field.readFields c.fields)) q

/-- What the loop gives is passed on, with a length. -/
def pass (c : CountedRequest) (n datalen : ℕ) (q : Parcel) : List DispatchEffect :=
  forwarded ((c.loop n q).map (Prod.map (fun vss => (c.build env vss, datalen)) id))

/-- The elements are made of the fields, in a loop that ends with a test or without one. -/
theorem pass_eq (c : CountedRequest) {α : Type} {x : ReadProg α} {g : List FieldValue → α}
    (hx : ∀ p, present x p = (present (Field.readFields c.fields) p).map (Prod.map g id))
    {f : List α → RequestData} (hf : ∀ vss, f (vss.map g) = c.build env vss) {datalen : ℕ}
    {k : List α → ReadProg Payload} (hk : ∀ as q, present (k as) q = some ((f as, datalen), q))
    (n : ℕ) (q : Parcel) :
    forwarded (present ((readMany n x).bind k) q) = c.pass env n datalen q := by
  unfold pass loop
  rw [present_bind, present_readMany_map hx]
  rcases present (readMany n (Field.readFields c.fields)) q with _ | ⟨vss, r⟩
  · rfl
  · show forwarded (present (k (vss.map g)) r) = _
    rw [hk, hf]
    rfl

/-- A block that reads the fields and makes an element of them. -/
def block {α : Type} (fs : List Field) (g : List FieldValue → α) : ReadProg α :=
  (Field.readFields fs).bind fun vs => .done (g vs)

theorem present_block {α : Type} (fs : List Field) (g : List FieldValue → α) (p : Parcel) :
    present (block fs g) p = (present (Field.readFields fs) p).map (Prod.map g id) := by
  rw [block, present_bind]
  rcases present (Field.readFields fs) p with _ | ⟨vs, q⟩ <;> rfl

/-- **What the five functions with fields forward.** -/
theorem dispatch_eq (c : CountedRequest) (hc : c ≠ .raw) (p : Parcel) :
    dispatch env c.function p =
      match p.readInt32 with
      | (none, _) => []
      | (some w, q) =>
          if c = .ints ∧ w = 0 then []
          else if c = .strings ∧ w = -1 then [.onRequest .null 0]
          else c.pass env w.toNat (sizeT (wordSize * w)) q := by
  cases c with
  | raw => exact absurd rfl hc
  | strings =>
    refine (callOnRequest_count env (dispatchStrings_decodes env).flow p).trans ?_
    rcases p.readInt32 with ⟨_ | w, q⟩
    · rfl
    simp only [reduceCtorEq, false_and, if_false, true_and]
    by_cases hzero : w = 0
    · subst hzero
      rfl
    by_cases hnull : w = -1
    · subst hnull
      rfl
    · rw [if_neg hnull, ← pass_eq env .strings (x := strdupReadString env) (fun p => rfl)
        (fun vss => rfl) (k := fun ss => .done (.strings ss, sizeT (wordSize * w)))
        (fun as q => rfl)]
      show forwarded (present (if w = 0 then _ else if w = -1 then _ else _) q) = _
      rw [if_neg hzero, if_neg hnull]
      rfl
  | ints =>
    refine (callOnRequest_count env (dispatchInts_decodes env).flow p).trans ?_
    rcases p.readInt32 with ⟨_ | w, q⟩
    · rfl
    simp only [reduceCtorEq, false_and, if_false, true_and]
    by_cases hzero : w = 0
    · subst hzero
      rfl
    · rw [if_neg hzero, ← pass_eq env .ints (x := (do let t ← readFresh; checkStatus; return t))
        (g := intElement) ?_ (fun vss => rfl)
        (k := fun is => .done (.ints is, sizeT (wordSize * w))) (fun as q => rfl)]
      · show forwarded (present ((require (decide (w ≠ 0))).bind _) q) = _
        rw [bind_require, if_pos (decide_eq_true hzero)]
        rfl
      · intro p
        show present (.fresh fun v => .check (.done v)) p = (present (.int fun v => _) p).map _
        rcases hr : p.readInt32 with ⟨_ | v, q⟩
        · simp only [present, hr]
          rfl
        · simp only [present, hr]
          rfl
  | gsmBrSmsCnf =>
    refine (callOnRequest_count env (dispatchGsmBrSmsCnf_decodes env).flow p).trans ?_
    rcases p.readInt32 with ⟨_ | w, q⟩
    · rfl
    simp only [reduceCtorEq, false_and, if_false]
    rw [← Int.mul_comm w, ← pass_eq env .gsmBrSmsCnf (present_block _ gsmElement)
      (fun vss => rfl) (k := fun cs => .check (.done (.gsmBrSmsCnf cs, sizeT (w * wordSize))))
      (fun as q => rfl)]
    rfl
  | cdmaBrSmsCnf =>
    refine (callOnRequest_count env (dispatchCdmaBrSmsCnf_decodes env).flow p).trans ?_
    rcases p.readInt32 with ⟨_ | w, q⟩
    · rfl
    simp only [reduceCtorEq, false_and, if_false]
    rw [← Int.mul_comm w, ← pass_eq env .cdmaBrSmsCnf (present_block _ cdmaElement)
      (fun vss => rfl) (k := fun cs => .check (.done (.cdmaBrSmsCnf cs, sizeT (w * wordSize))))
      (fun as q => rfl)]
    rfl
  | dataProfile =>
    refine (callOnRequest_count env (dispatchDataProfile_decodes env).flow p).trans ?_
    rcases p.readInt32 with ⟨_ | w, q⟩
    · rfl
    simp only [reduceCtorEq, false_and, if_false]
    rw [← Int.mul_comm w, ← pass_eq env .dataProfile
      (present_block _ (profileElement env.platform)) (fun vss => rfl)
      (k := fun ps => .check (.done (.dataProfile ps, sizeT (w * wordSize)))) (fun as q => rfl)]
    rfl

/-- **What `dispatchRaw` forwards.** -/
theorem dispatchRaw_eq (p : Parcel) :
    dispatch env CountedRequest.raw.function p =
      match p.readInt32 with
      | (none, _) => []
      | (some w, q) =>
          let len := if w = -1 then 0 else w
          [.onRequest (.raw (inplaceAt q len).1) (sizeT len)] := by
  refine (callOnRequest_count env (dispatchRaw_decodes env).flow p).trans ?_
  rcases p.readInt32 with ⟨_ | w, q⟩ <;> rfl

end CountedRequest

/-! ### The length passed along -/

variable (env : DispatchEnv)

/-- Whatever is forwarded are `n` elements that are completely there, `n` being the count, with the
length of exactly these. -/
def ForwardsCounted (c : CountedRequest) (p : Parcel) : Prop :=
  ∀ data datalen, .onRequest data datalen ∈ dispatch env c.function p →
    ∃ (w : Int) (n : ℕ), p.readInt32.1 = some w ∧ (n : Int) = (if w = -1 then 0 else w) ∧
      datalen = c.size * n ∧ c.Decoded env n p.readInt32.2 data

variable {env} in
/-- What is forwarded alone. -/
theorem ForwardsCounted.of_eq {c : CountedRequest} {p : Parcel} {data : RequestData} {datalen : ℕ}
    (h : ForwardsCounted env c p) (heq : dispatch env c.function p = [.onRequest data datalen]) :
    ∃ (w : Int) (n : ℕ), p.readInt32.1 = some w ∧ (n : Int) = (if w = -1 then 0 else w) ∧
      datalen = c.size * n ∧ c.Decoded env n p.readInt32.2 data := by
  refine h data datalen ?_
  rw [heq]
  exact List.mem_singleton.mpr rfl

/-- The count is the documented null, or it is not negative, and either a word of the elements is
missing, or they are complete and their size is no more than a `size_t` holds. -/
def CountFits (c : CountedRequest) (p : Parcel) : Prop :=
  ∀ w, p.readInt32.1 = some w →
    (w = -1 ∧ c.nullable = true) ∨
      0 ≤ w ∧ (c.cut w.toNat p.readInt32.2 = true ∨
        (c.whole w.toNat p.readInt32.2 = true ∧ c.size * w < 4294967296))

theorem sizeT_lt (v : Int) : (sizeT v : Int) < 4294967296 := by
  unfold sizeT
  omega

theorem sizeT_of_nonneg {v : Int} (h : 0 ≤ v) (hlt : v < 4294967296) : (sizeT v : Int) = v := by
  unfold sizeT
  rw [Int.emod_eq_of_lt h hlt]
  omega

/-- The size of an array, as `size_t`, is the size of its elements unless the product wraps. -/
theorem sizeT_mul_eq_iff {k : ℕ} {w : Int} (hw : 0 ≤ w) :
    sizeT (k * w) = k * w.toNat ↔ (k : Int) * w < 4294967296 := by
  have hcast : ((k * w.toNat : ℕ) : Int) = k * w := by
    rw [Int.natCast_mul, Int.toNat_of_nonneg hw]
  constructor
  · intro h
    have hlt := sizeT_lt (k * w)
    rw [h, hcast] at hlt
    exact hlt
  · intro hlt
    have hval := sizeT_of_nonneg (Int.mul_nonneg (Int.natCast_nonneg k) hw) hlt
    exact_mod_cast hval.trans hcast.symm

/-- After a word the cursor is inside the data, so no bytes can be read there. -/
theorem readInplace_zero {p q : Parcel} {w : Int} (h : p.readInt32 = (some w, q)) :
    (q.readInplace 0).1 = some [] := by
  have hword : p.pos + 4 ≤ p.data.length := by
    have hsome := Parcel.readInt32_isSome p
    rw [h] at hsome
    exact of_decide_eq_true hsome.symm
  have hpos : q = ⟨p.data, p.pos + 4⟩ := by
    have hfit : p.readInplace 4 = (some ((p.data.drop p.pos).take 4), ⟨p.data, p.pos + 4⟩) :=
      if_pos hword
    have hsnd := congrArg Prod.snd h
    rw [show p.readInt32.2 = (p.readInplace 4).2 from rfl, hfit] at hsnd
    exact hsnd.symm
  rw [hpos]
  show (if p.pos + 4 + 0 ≤ p.data.length then _ else _ : Option (List UInt8) × Parcel).1 = _
  rw [if_pos hword]
  rfl

namespace CountedRequest

variable {env}

/-- The loop runs to its end iff no word is missing; its elements are then those of the payload, if
the strings are complete. -/
theorem loop_eq_none_iff {c : CountedRequest} {n : ℕ} {q : Parcel} :
    c.loop n q = none ↔ Field.wordsPresent (List.replicate n c.fields).flatten q = false := by
  rw [← Field.present_readFields_isSome, ← Field.present_readMany_readFields, Option.isSome_map]
  unfold loop
  cases present (readMany n (Field.readFields c.fields)) q with
  | none => simp
  | some r => simp

theorem decode_of_loop {c : CountedRequest} {n : ℕ} {q r : Parcel} {vss : List (List FieldValue)}
    (h : c.loop n q = some (vss, r)) :
    vss.length = n ∧
      (Field.stringsComplete (List.replicate n c.fields).flatten q = true ↔
        Field.decode (List.replicate n c.fields).flatten q = some vss.flatten) := by
  have hwords : Field.wordsPresent (List.replicate n c.fields).flatten q = true := by
    by_contra hnot
    rw [Bool.not_eq_true, ← loop_eq_none_iff, h] at hnot
    exact absurd hnot (by simp)
  have hdecode := Field.decode_isSome_iff (List.replicate n c.fields).flatten q
  rw [hwords, Bool.true_and] at hdecode
  refine ⟨length_of_present_readMany _ n h, ?_⟩
  rw [← hdecode]
  constructor
  · intro hsome
    obtain ⟨vs, hvs⟩ := Option.isSome_iff_exists.mp hsome
    have hread := Field.present_readFields_of_decode _ hvs
    rw [← Field.present_readMany_readFields, show present (readMany n _) q = _ from h] at hread
    rw [hvs, ← hread]
    rfl
  · intro hsome
    rw [hsome]
    rfl

/-- The functions with fields. -/
theorem forwards_iff_of_fields {c : CountedRequest} (hc : c ≠ .raw) (p : Parcel) :
    ForwardsCounted env c p ↔ CountFits c p := by
  have hsize : c.size = wordSize := by
    cases c <;> first | rfl | exact absurd rfl hc
  have hcut : ∀ n q, c.cut n q = !Field.wordsPresent (List.replicate n c.fields).flatten q := by
    cases c <;> first | exact fun _ _ => rfl | exact absurd rfl hc
  have hwhole : ∀ n q,
      c.whole n q = Field.stringsComplete (List.replicate n c.fields).flatten q := by
    cases c <;> first | exact fun _ _ => rfl | exact absurd rfl hc
  have hdec : ∀ n q data, c.Decoded env n q data ↔ ∃ vss : List (List FieldValue),
      vss.length = n ∧ Field.decode (List.replicate n c.fields).flatten q = some vss.flatten ∧
        (data = c.build env vss ∨ c = .strings ∧ n = 0 ∧ data = .null) := by
    cases c <;> first | exact fun _ _ _ => Iff.rfl | exact absurd rfl hc
  have hnull : c.nullable = true ↔ c = .strings := by
    cases c <;> first | decide | exact absurd rfl hc
  unfold ForwardsCounted CountFits
  rw [c.dispatch_eq env hc p]
  rcases p.readInt32 with ⟨_ | w, q⟩
  · exact iff_of_true (by simp) (by simp)
  simp only [hcut, hwhole, hdec, hnull, hsize, Option.some.injEq, Bool.not_eq_true']
  by_cases hints : c = .ints ∧ w = 0
  · obtain ⟨rfl, rfl⟩ := hints
    refine iff_of_true (by simp) ?_
    rintro _ rfl
    exact .inr ⟨le_refl 0, .inr ⟨rfl, by decide⟩⟩
  by_cases hnone : c = .strings ∧ w = -1
  · obtain ⟨rfl, rfl⟩ := hnone
    refine iff_of_true ?_ ?_
    · rintro data datalen hmem
      obtain ⟨rfl, rfl⟩ := DispatchEffect.onRequest.inj (List.mem_singleton.mp hmem)
      exact ⟨-1, 0, rfl, rfl, rfl, [], rfl, rfl, .inr ⟨rfl, rfl, rfl⟩⟩
    · rintro _ rfl
      exact .inl ⟨rfl, rfl⟩
  simp only [if_neg hints, if_neg hnone]
  unfold pass
  rcases hloop : c.loop w.toNat q with _ | ⟨vss, r⟩
  · -- a word is missing, so nothing is forwarded, and the count is positive
    have hmissing := loop_eq_none_iff.mp hloop
    refine iff_of_true (by simp [forwarded]) ?_
    rintro _ rfl
    refine .inr ⟨?_, .inl hmissing⟩
    by_contra hneg
    rw [Int.toNat_of_nonpos (by omega)] at hmissing
    exact absurd hmissing (by simp [Field.wordsPresent])
  obtain ⟨hlen, hdecode⟩ := decode_of_loop hloop
  have hwords : ¬ Field.wordsPresent (List.replicate w.toNat c.fields).flatten q = false := by
    rw [← loop_eq_none_iff, hloop]
    simp
  constructor
  · intro h w' hw'
    obtain rfl := hw'
    obtain ⟨w', n, rfl, hn, hdatalen, vss', hlen', hdec', -⟩ :=
      h (c.build env vss) (sizeT (wordSize * w)) (List.mem_singleton.mpr rfl)
    right
    by_cases hminus : w = -1
    · -- the product of a null count wraps around
      subst hminus
      rw [if_pos rfl] at hn
      obtain rfl : n = 0 := by omega
      exact absurd hdatalen (by decide)
    rw [if_neg hminus] at hn
    have hnonneg : 0 ≤ w := by omega
    obtain rfl : n = w.toNat := by omega
    refine ⟨hnonneg, .inr ⟨?_, (sizeT_mul_eq_iff hnonneg).mp hdatalen⟩⟩
    · rw [hdecode]
      have hall := Field.present_readFields_of_decode _ hdec'
      rw [← Field.present_readMany_readFields, show present (readMany _ _) q = _ from hloop] at hall
      rw [hdec', ← hall]
      rfl
  · intro h data datalen hmem
    obtain ⟨rfl, rfl⟩ := DispatchEffect.onRequest.inj (List.mem_singleton.mp hmem)
    rcases h w rfl with ⟨rfl, rfl⟩ | ⟨hnonneg, hmissing | ⟨hstrings, hlt⟩⟩
    · exact absurd ⟨rfl, rfl⟩ hnone
    · exact absurd hmissing hwords
    · refine ⟨w, w.toNat, rfl, ?_, (sizeT_mul_eq_iff hnonneg).mpr hlt, vss, hlen,
        hdecode.mp hstrings, .inl rfl⟩
      rw [if_neg (by omega)]
      omega

/-- Raw bytes. -/
theorem forwards_iff_of_raw (p : Parcel) : ForwardsCounted env .raw p ↔ CountFits .raw p := by
  unfold ForwardsCounted CountFits
  rw [dispatchRaw_eq]
  rcases hr : p.readInt32 with ⟨_ | w, q⟩
  · exact iff_of_true (by simp) (by simp)
  have hq := readInplace_zero hr
  simp only [Option.some.injEq, List.mem_singleton]
  constructor
  · rintro h _ rfl
    obtain ⟨w', n, rfl, hn, hdatalen, bytes, hbytes, hraw⟩ := h _ _ rfl
    by_cases hminus : w = -1
    · exact .inl ⟨hminus, rfl⟩
    rw [if_neg hminus] at hn hdatalen
    right
    have hnonneg : 0 ≤ w := by omega
    obtain rfl : n = w.toNat := by omega
    refine ⟨hnonneg, .inr ⟨?_, ?_⟩⟩
    · show (q.readInplace w.toNat).1.isSome = true
      rw [hbytes]
      rfl
    · refine (sizeT_mul_eq_iff (k := 1) hnonneg).mp ?_
      rw [show ((1 : ℕ) : Int) * w = w from Int.one_mul w]
      exact hdatalen
  · intro h data datalen hmem
    obtain ⟨rfl, rfl⟩ := DispatchEffect.onRequest.inj hmem
    rcases h w rfl with ⟨rfl, -⟩ | ⟨hnonneg, hmissing | ⟨hbytes, hlt⟩⟩
    · exact ⟨-1, 0, rfl, rfl, rfl, [], hq, by rw [← hq]; rfl⟩
    · exact absurd hmissing (by simp [cut])
    · obtain ⟨bytes, hbytes'⟩ := Option.isSome_iff_exists.mp hbytes
      refine ⟨w, w.toNat, rfl, ?_, ?_, bytes, hbytes', ?_⟩
      · rw [if_neg (by omega)]
        omega
      · rw [if_neg (by omega)]
        have hone := (sizeT_mul_eq_iff (k := 1) hnonneg).mpr hlt
        rw [show ((1 : ℕ) : Int) * w = w from Int.one_mul w] at hone
        exact hone
      · rw [if_neg (by omega), inplaceAt, if_pos hnonneg, hbytes']

end CountedRequest

/-- **The length passed to `onRequest` is that of the elements decoded**, the count of them being
the one in the payload, iff the count is the documented null, or is not negative and the elements
are complete or cut at a word. -/
theorem countedRequest_forwards_iff (c : CountedRequest) (p : Parcel) :
    ForwardsCounted env c p ↔ CountFits c p := by
  by_cases hc : c = .raw
  · subst hc
    exact CountedRequest.forwards_iff_of_raw p
  · exact CountedRequest.forwards_iff_of_fields hc p

/-- Three ways to forward a length that no elements have: a count of three strings and nothing after
it, a count of `-1` integers, and a length of `-2` raw bytes. -/
theorem strings_without_elements :
    (dispatch ⟨x86, 6, .simReady, 0, 0⟩ CountedRequest.strings.function
        (Parcel.ofBytes [3, 0, 0, 0]) = [.onRequest (.strings [none, none, none]) 12] ∧
      ¬ ForwardsCounted ⟨x86, 6, .simReady, 0, 0⟩ .strings (Parcel.ofBytes [3, 0, 0, 0])) ∧
    (dispatch ⟨x86, 6, .simReady, 0, 0⟩ CountedRequest.ints.function
        (Parcel.ofBytes [255, 255, 255, 255])
        = [.onRequest (.ints []) 4294967292] ∧
      ¬ ForwardsCounted ⟨x86, 6, .simReady, 0, 0⟩ .ints (Parcel.ofBytes [255, 255, 255, 255])) ∧
    dispatch ⟨x86, 6, .simReady, 0, 0⟩ CountedRequest.raw.function
        (Parcel.ofBytes [254, 255, 255, 255])
        = [.onRequest (.raw none) 4294967294] ∧
      ¬ ForwardsCounted ⟨x86, 6, .simReady, 0, 0⟩ .raw (Parcel.ofBytes [254, 255, 255, 255]) := by
  have hstrings : dispatch ⟨x86, 6, .simReady, 0, 0⟩ CountedRequest.strings.function
      (Parcel.ofBytes [3, 0, 0, 0]) = [.onRequest (.strings [none, none, none]) 12] := by decide
  have hints : dispatch ⟨x86, 6, .simReady, 0, 0⟩ CountedRequest.ints.function
      (Parcel.ofBytes [255, 255, 255, 255]) = [.onRequest (.ints []) 4294967292] := by decide
  have hraw : dispatch ⟨x86, 6, .simReady, 0, 0⟩ CountedRequest.raw.function
      (Parcel.ofBytes [254, 255, 255, 255]) = [.onRequest (.raw none) 4294967294] := by decide
  refine ⟨⟨hstrings, ?_⟩, ⟨hints, ?_⟩, hraw, ?_⟩
  · intro h
    obtain ⟨w, n, hw, hn, -, vss, -, hdecode, -⟩ := h.of_eq hstrings
    have hword : (Parcel.ofBytes [3, 0, 0, 0]).readInt32.1 = some 3 := by decide
    obtain rfl : (3 : Int) = w := Option.some.inj (hword.symm.trans hw)
    rw [if_neg (by decide)] at hn
    obtain rfl : n = 3 := by omega
    have hnone : Field.decode (List.replicate 3 CountedRequest.strings.fields).flatten
        (Parcel.ofBytes [3, 0, 0, 0]).readInt32.2 = none := by decide
    exact absurd (hnone.symm.trans hdecode) (by simp)
  · intro h
    obtain ⟨w, n, hw, hn, hlen, -⟩ := h.of_eq hints
    have hword : (Parcel.ofBytes [255, 255, 255, 255]).readInt32.1 = some (-1) := by decide
    obtain rfl : (-1 : Int) = w := Option.some.inj (hword.symm.trans hw)
    obtain rfl : n = 0 := by simpa using hn
    exact absurd hlen (by decide)
  · intro h
    obtain ⟨w, n, hw, hn, -⟩ := h.of_eq hraw
    have hword : (Parcel.ofBytes [254, 255, 255, 255]).readInt32.1 = some (-2) := by decide
    obtain rfl : (-2 : Int) = w := Option.some.inj (hword.symm.trans hw)
    rw [if_neg (by decide)] at hn
    omega

end CtpCommon.Ril
