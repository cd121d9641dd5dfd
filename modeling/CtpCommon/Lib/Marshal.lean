import CtpCommon.Lib.ReadProg

/-!
# Reading back what was written

Decoding code against the writes of an encoder.  Code that reads words and bytes alone uses one slot
of four bytes for each of them.

* `Reads x ws a` — wherever the writes `ws` stand in a parcel, `x` reads all of them and no more,
  and gives `a`; with a rule for each construct;
* `Slots x c Q` — `x` reads words and bytes alone; started after `c` slots, it ends with results and
  slots satisfying `Q`;
* `Slots.present` — **PROVED**: such code moves the cursor by its slots, stays inside the data, and
  reads the same when more data follow;
* `Slots.present_append` — **PROVED**: it reads the same when more data stand in front;
* `Reads.unique` — **PROVED**: bytes that are read back determine what was written;
* `Reads.cut` — **PROVED**: code that reads back some writes finds a word missing in every proper
  initial segment of them.
-/

namespace CtpCommon

namespace Parcel

instance (v : Int) : Decidable (IsInt32 v) := inferInstanceAs (Decidable (_ ∧ _))

theorem readInt32_eq (d : List UInt8) (pos : ℕ) :
    readInt32 ⟨d, pos⟩ = if pos + 4 ≤ d.length
      then (some (wordOf ((d.drop pos).take 4)), ⟨d, pos + 4⟩) else (none, ⟨d, pos⟩) := by
  unfold readInt32 readInplace
  rw [show padSize 4 = 4 from rfl]
  split <;> rfl

theorem readByte_eq (d : List UInt8) (pos : ℕ) :
    readByte ⟨d, pos⟩ = if pos + 4 ≤ d.length
      then (some (((d.drop pos).take 1).headD 0), ⟨d, pos + 4⟩) else (none, ⟨d, pos⟩) := by
  unfold readByte readInplace
  rw [show padSize 1 = 4 from rfl]
  split <;> rfl

/-- The word read from the bytes of any integer. -/
theorem wordOf_wordBytes_bmod (v : Int) : wordOf (wordBytes v) = Int.bmod v 4294967296 := by
  obtain ⟨n, hn, hlt, hbytes⟩ := wordBytes_eq v
  rw [hbytes, wordOf_bytes hlt, hn]
  exact Int.emod_bmod v 4294967296

/-- A word that stands at the cursor is read. -/
theorem readInt32_wordBytes (pre : List UInt8) (v : Int) (rest : List UInt8) :
    readInt32 ⟨pre ++ (wordBytes v ++ rest), pre.length⟩
      = (some (Int.bmod v 4294967296), ⟨pre ++ (wordBytes v ++ rest), pre.length + 4⟩) := by
  have hfit : pre.length + 4 ≤ (pre ++ (wordBytes v ++ rest)).length := by
    rw [List.length_append, List.length_append, length_wordBytes]
    omega
  rw [readInt32_eq, if_pos hfit, List.drop_left, List.take_left' (length_wordBytes v),
    wordOf_wordBytes_bmod]

/-- The slot of a byte. -/
theorem encoding_byte (b : UInt8) : (Write.bytes [b]).encoding = [b, 0, 0, 0] := by
  simp [Write.encoding, padSize]

/-- A byte in its slot is read. -/
theorem readByte_encoding (pre : List UInt8) (b : UInt8) (rest : List UInt8) :
    readByte ⟨pre ++ ((Write.bytes [b]).encoding ++ rest), pre.length⟩
      = (some b, ⟨pre ++ ((Write.bytes [b]).encoding ++ rest), pre.length + 4⟩) := by
  have hfit : pre.length + 4 ≤ (pre ++ ((Write.bytes [b]).encoding ++ rest)).length := by
    rw [List.length_append, List.length_append, encoding_byte]
    show pre.length + 4 ≤ pre.length + (4 + rest.length)
    omega
  rw [readByte_eq, if_pos hfit, List.drop_left, encoding_byte]
  rfl

/-- Bytes in their slots are read. -/
theorem readInplace_encoding (pre bs rest : List UInt8) :
    readInplace ⟨pre ++ ((Write.bytes bs).encoding ++ rest), pre.length⟩ bs.length
      = (some bs, ⟨pre ++ ((Write.bytes bs).encoding ++ rest),
          pre.length + (Write.bytes bs).encoding.length⟩) := by
  have hpad : padSize bs.length = (Write.bytes bs).encoding.length := padSize_padded bs
  have hfit : pre.length + padSize bs.length
      ≤ (pre ++ ((Write.bytes bs).encoding ++ rest)).length := by
    rw [List.length_append, List.length_append, hpad]
    omega
  unfold readInplace
  rw [if_pos hfit, List.drop_left, hpad]
  simp only [Write.encoding, List.append_assoc, List.take_left]

/-- A string that stands at the cursor is read. -/
theorem readString16_encoding (pre : List UInt8) {s : List UInt16}
    (hs : (s.length : Int) < int32Max) (rest : List UInt8) :
    readString16Inplace ⟨pre ++ ((Write.string16 (some s)).encoding ++ rest), pre.length⟩
      = (some s, ⟨pre ++ ((Write.string16 (some s)).encoding ++ rest),
          pre.length + (Write.string16 (some s)).encoding.length⟩) := by
  have hword : wordOf (wordBytes s.length) = s.length := by
    refine wordOf_wordBytes ⟨by omega, ?_⟩
    unfold int32Max at hs
    omega
  rw [wordOf_wordBytes_bmod] at hword
  have hsplit : (Write.string16 (some s)).encoding
      = wordBytes s.length ++ (Write.bytes (unitBytes s ++ [0, 0])).encoding := rfl
  have hlen : (s.length + 1) * 2 = (unitBytes s ++ [0, 0]).length := by
    rw [List.length_append, length_unitBytes]
    exact Nat.add_mul _ 1 2
  have hbytes := readInplace_encoding (pre ++ wordBytes s.length) (unitBytes s ++ [0, 0]) rest
  rw [← hlen, List.length_append, length_wordBytes, List.append_assoc] at hbytes
  unfold readString16Inplace
  rw [hsplit, List.append_assoc, readInt32_wordBytes]
  simp only [Option.getD_some, hword, Int.toNat_natCast]
  rw [if_pos ⟨Int.natCast_nonneg _, hs⟩, hbytes, Option.map_some, ← length_unitBytes,
    List.take_left, unitsOf_unitBytes, List.length_append, length_wordBytes, Nat.add_assoc]

end Parcel

namespace ReadProg

open Parcel (Write IsInt32 wordBytes)

variable {α β γ : Type}

/-- The two halves of a 64-bit number. -/
def uint64Of (low high : Int) : Int := low % 4294967296 + high % 4294967296 * 4294967296

/-- A number of 64 bits, the low word first. -/
def readUint64 : ReadProg Int := do
  let low ← readInt32
  let high ← readInt32
  return uint64Of low high

/-! ### One read -/

/-- A word has been read. -/
theorem present_int_iff {k : Int → ReadProg α} {p : Parcel} {r : α × Parcel} :
    present (.int k) p = some r ↔ ∃ v q, p.readInt32 = (some v, q) ∧ present (k v) q = some r := by
  rcases hr : p.readInt32 with ⟨_ | v, q⟩
  · simp [present, hr]
  · simp [present, hr]

theorem present_byte_iff {k : UInt8 → ReadProg α} {p : Parcel} {r : α × Parcel} :
    present (.byte k) p = some r ↔ ∃ v q, p.readByte = (some v, q) ∧ present (k v) q = some r := by
  rcases hr : p.readByte with ⟨_ | v, q⟩
  · simp [present, hr]
  · simp [present, hr]

theorem present_loop_iff {n : ℕ} {k : List UInt8 → ReadProg α} {p : Parcel}
    {r : α × Parcel} : present ((readMany n readByte).bind k) p = some r ↔
      ∃ bs q, present (readMany n readByte) p = some (bs, q) ∧ present (k bs) q = some r := by
  rw [present_bind, Option.bind_eq_some_iff, Prod.exists]

/-- A word at the start of the data. -/
theorem present_int_ofBytes {k : Int → ReadProg α} {v : Int} (hv : IsInt32 v) (rest : List UInt8) :
    present (.int k) (Parcel.ofBytes (wordBytes v ++ rest))
      = present (k v) ⟨wordBytes v ++ rest, 4⟩ := by
  have hword : (Parcel.ofBytes (wordBytes v ++ rest)).readInt32
      = (some v, ⟨wordBytes v ++ rest, 4⟩) := by
    have hbmod := Parcel.readInt32_wordBytes [] v rest
    rw [← Parcel.wordOf_wordBytes_bmod, Parcel.wordOf_wordBytes hv] at hbmod
    exact hbmod
  simp only [present, hword]

/-! ### Slots -/

/-- The code reads words into `t`, and bytes, alone; started after `c` slots, it ends with results
and slots satisfying `Q`. -/
def Slots : ReadProg α → ℕ → (α → ℕ → Prop) → Prop
  | .done a, c, Q => Q a c
  | .int k, c, Q => ∀ v, Slots (k v) (c + 1) Q
  | .byte k, c, Q => ∀ v, Slots (k v) (c + 1) Q
  | .fresh _, _, _ | .string _, _, _ | .inplace _ _, _, _ => False
  | .check k, c, Q => Slots k c Q
  | .fail, _, _ => True

theorem slots_bind (x : ReadProg α) (f : α → ReadProg β) (Q : β → ℕ → Prop) :
    ∀ c, Slots (x.bind f) c Q ↔ Slots x c fun a c' => Slots (f a) c' Q := by
  induction x with
  | done a => intro c; rfl
  | int k ih => intro c; simp only [bind, Slots, ih]
  | byte k ih => intro c; simp only [bind, Slots, ih]
  | fresh k ih => intro c; rfl
  | string k ih => intro c; rfl
  | inplace n k ih => intro c; rfl
  | check k ih => intro c; simp only [bind, Slots, ih]
  | fail => intro c; rfl

/-- A loop over bytes takes a slot for each. -/
theorem slots_readMany_byte {Q : List UInt8 → ℕ → Prop} (n : ℕ) :
    ∀ c, (∀ bs, bs.length = n → Q bs (c + n)) → Slots (readMany n readByte) c Q := by
  induction n generalizing Q with
  | zero => exact fun c h => h [] rfl
  | succ n ih =>
    intro c h b
    show Slots ((readMany n readByte).bind fun bs => .done (b :: bs)) (c + 1) Q
    rw [slots_bind]
    refine ih (c + 1) fun bs hbs => ?_
    have hcount : c + 1 + n = c + (n + 1) := by omega
    rw [hcount]
    exact h (b :: bs) (congrArg (· + 1) hbs)

/-- **Where the cursor goes**: it moves by the slots, stays inside the data, and moves the same way
when more data follow. -/
theorem Slots.present {x : ReadProg α} {Q : α → ℕ → Prop} {c : ℕ} (h : Slots x c Q) :
    ∀ {d : List UInt8} {pos : ℕ} {a : α} {q : Parcel},
      ReadProg.present x ⟨d, pos⟩ = some (a, q) → ∃ n, Q a (c + n) ∧ q = ⟨d, pos + 4 * n⟩ ∧
        (n = 0 ∨ pos + 4 * n ≤ d.length) ∧
        ∀ e, ReadProg.present x ⟨d ++ e, pos⟩ = some (a, ⟨d ++ e, pos + 4 * n⟩) := by
  induction x generalizing c with
  | done a =>
    intro d pos a' q hrun
    obtain ⟨rfl, rfl⟩ := Prod.mk.inj (Option.some.inj hrun)
    exact ⟨0, h, rfl, .inl rfl, fun e => rfl⟩
  | int k ih =>
    intro d pos a q hrun
    by_cases hfit : pos + 4 ≤ d.length
    · simp only [ReadProg.present, Parcel.readInt32_eq, if_pos hfit] at hrun ⊢
      obtain ⟨n, hQ, rfl, hin, hmore⟩ := ih _ (h _) hrun
      have hcount : c + 1 + n = c + (n + 1) := by omega
      have hpos : pos + 4 + 4 * n = pos + 4 * (n + 1) := by omega
      refine ⟨n + 1, hcount ▸ hQ, by rw [hpos], .inr ?_, fun e => ?_⟩
      · omega
      · have hfit' : pos + 4 ≤ (d ++ e).length := by
          rw [List.length_append]
          omega
        have hword : ((d ++ e).drop pos).take 4 = (d.drop pos).take 4 := by
          rw [List.drop_append_of_le_length (by omega), List.take_append_of_le_length]
          rw [List.length_drop]
          omega
        simp only [if_pos hfit', hword]
        rw [hmore e, hpos]
    · simp only [ReadProg.present, Parcel.readInt32_eq, if_neg hfit] at hrun
      exact absurd hrun (by simp)
  | byte k ih =>
    intro d pos a q hrun
    by_cases hfit : pos + 4 ≤ d.length
    · simp only [ReadProg.present, Parcel.readByte_eq, if_pos hfit] at hrun ⊢
      obtain ⟨n, hQ, rfl, hin, hmore⟩ := ih _ (h _) hrun
      have hcount : c + 1 + n = c + (n + 1) := by omega
      have hpos : pos + 4 + 4 * n = pos + 4 * (n + 1) := by omega
      refine ⟨n + 1, hcount ▸ hQ, by rw [hpos], .inr ?_, fun e => ?_⟩
      · omega
      · have hfit' : pos + 4 ≤ (d ++ e).length := by
          rw [List.length_append]
          omega
        have hbyte : ((d ++ e).drop pos).take 1 = (d.drop pos).take 1 := by
          rw [List.drop_append_of_le_length (by omega), List.take_append_of_le_length]
          rw [List.length_drop]
          omega
        simp only [if_pos hfit', hbyte]
        rw [hmore e, hpos]
    · simp only [ReadProg.present, Parcel.readByte_eq, if_neg hfit] at hrun
      exact absurd hrun (by simp)
  | fresh k ih => exact absurd h id
  | string k ih => exact absurd h id
  | inplace n k ih => exact absurd h id
  | check k ih =>
    intro d pos a q hrun
    exact ih h hrun
  | fail =>
    intro d pos a q hrun
    exact absurd hrun (by simp [ReadProg.present])

/-- **Data in front** move the cursor and nothing else. -/
theorem Slots.present_append {x : ReadProg α} {Q : α → ℕ → Prop} {c : ℕ} (h : Slots x c Q)
    (pre d : List UInt8) : ∀ pos, ReadProg.present x ⟨pre ++ d, pre.length + pos⟩
      = (ReadProg.present x ⟨d, pos⟩).map
          fun r => (r.1, ⟨pre ++ r.2.data, pre.length + r.2.pos⟩) := by
  have hfit : ∀ pos, pre.length + pos + 4 ≤ (pre ++ d).length ↔ pos + 4 ≤ d.length := by
    intro pos
    rw [List.length_append]
    omega
  induction x generalizing c with
  | done a => exact fun pos => rfl
  | int k ih =>
    intro pos
    by_cases hpos : pos + 4 ≤ d.length
    · simp only [ReadProg.present, Parcel.readInt32_eq, if_pos hpos, if_pos ((hfit pos).mpr hpos),
        List.drop_length_add_append]
      exact ih _ (h _) (pos + 4)
    · simp only [ReadProg.present, Parcel.readInt32_eq, if_neg hpos,
        if_neg fun hle => hpos ((hfit pos).mp hle)]
      rfl
  | byte k ih =>
    intro pos
    by_cases hpos : pos + 4 ≤ d.length
    · simp only [ReadProg.present, Parcel.readByte_eq, if_pos hpos, if_pos ((hfit pos).mpr hpos),
        List.drop_length_add_append]
      exact ih _ (h _) (pos + 4)
    · simp only [ReadProg.present, Parcel.readByte_eq, if_neg hpos,
        if_neg fun hle => hpos ((hfit pos).mp hle)]
      rfl
  | fresh k ih => exact absurd h id
  | string k ih => exact absurd h id
  | inplace n k ih => exact absurd h id
  | check k ih => exact ih h
  | fail => exact fun pos => rfl

/-! ### Reading back -/

/-- Wherever the writes stand in a parcel, the code reads all of them and no more. -/
def Reads (x : ReadProg α) (ws : List Write) (a : α) : Prop :=
  ∀ pre rest, present x ⟨pre ++ (ws.flatMap Write.encoding ++ rest), pre.length⟩
    = some (a, ⟨pre ++ (ws.flatMap Write.encoding ++ rest),
        pre.length + (ws.flatMap Write.encoding).length⟩)

namespace Reads

variable {ws vs : List Write} {a : α} {b : β}

theorem done (a : α) : Reads (.done a) [] a := fun _ _ => rfl

theorem check {x : ReadProg α} (h : Reads x ws a) : Reads (.check x) ws a := h

/-- A word is read back modulo `2 ^ 32`. -/
theorem int_bmod {k : Int → ReadProg α} {v : Int}
    (h : Reads (k (Int.bmod v 4294967296)) ws a) : Reads (.int k) (.int32 v :: ws) a := by
  intro pre rest
  have hrest := h (pre ++ wordBytes v) rest
  rw [List.length_append, Parcel.length_wordBytes] at hrest
  rw [List.flatMap_cons, show (Write.int32 v).encoding = wordBytes v from rfl, List.append_assoc]
  simp only [present, Parcel.readInt32_wordBytes]
  rw [← List.append_assoc pre, hrest, List.length_append, Parcel.length_wordBytes, Nat.add_assoc]

theorem int {k : Int → ReadProg α} {v : Int} (hv : IsInt32 v) (h : Reads (k v) ws a) :
    Reads (.int k) (.int32 v :: ws) a := by
  have hword : Int.bmod v 4294967296 = v := by
    rw [← Parcel.wordOf_wordBytes_bmod, Parcel.wordOf_wordBytes hv]
  refine int_bmod ?_
  rw [hword]
  exact h

theorem byte {k : UInt8 → ReadProg α} {v : UInt8} (h : Reads (k v) ws a) :
    Reads (.byte k) (.bytes [v] :: ws) a := by
  intro pre rest
  have hslot : (Write.bytes [v]).encoding.length = 4 := by rw [Parcel.encoding_byte]; rfl
  have hrest := h (pre ++ (Write.bytes [v]).encoding) rest
  rw [List.length_append, hslot] at hrest
  rw [List.flatMap_cons, List.append_assoc]
  simp only [present, Parcel.readByte_encoding]
  rw [← List.append_assoc pre, hrest, List.length_append, hslot, Nat.add_assoc]

theorem string {k : Option (List UInt16) → ReadProg α} {s : List UInt16}
    (hs : (s.length : Int) < Parcel.int32Max) (h : Reads (k (some s)) ws a) :
    Reads (.string k) (.string16 (some s) :: ws) a := by
  intro pre rest
  have hrest := h (pre ++ (Write.string16 (some s)).encoding) rest
  rw [List.length_append] at hrest
  rw [List.flatMap_cons, List.append_assoc]
  simp only [present, Parcel.readString16_encoding pre hs]
  rw [← List.append_assoc pre, hrest, List.length_append, Nat.add_assoc]

theorem bind {x : ReadProg α} {f : α → ReadProg β} (hx : Reads x ws a) (hf : Reads (f a) vs b) :
    Reads (x.bind f) (ws ++ vs) b := by
  intro pre rest
  have hrest := hf (pre ++ ws.flatMap Write.encoding) rest
  rw [List.length_append] at hrest
  rw [List.flatMap_append, List.append_assoc, present_bind, hx pre]
  show present (f a) _ = _
  rw [← List.append_assoc pre, hrest, List.length_append, Nat.add_assoc]

/-- Only the bytes count. -/
theorem congr {x : ReadProg α} (h : Reads x ws a)
    (hbytes : ws.flatMap Write.encoding = vs.flatMap Write.encoding) : Reads x vs a := by
  unfold Reads
  rw [← hbytes]
  exact h

/-- A 64-bit number is read back from its two words. -/
theorem uint64 {k : Int → ReadProg α} {v : Int} (hv : 0 ≤ v ∧ v < 18446744073709551616)
    (h : Reads (k v) ws a) : Reads (readUint64.bind k) (.int64 v :: ws) a := by
  have hvalue : uint64Of (Int.bmod v 4294967296) (Int.bmod (v / 4294967296) 4294967296) = v := by
    unfold uint64Of
    have hlow : Int.bmod v 4294967296 % 4294967296 = v % 4294967296 :=
      Int.bmod_emod (x := v) (m := 4294967296)
    have hhigh : Int.bmod (v / 4294967296) 4294967296 % 4294967296
        = v / 4294967296 % 4294967296 := Int.bmod_emod (x := v / 4294967296) (m := 4294967296)
    rw [hlow, hhigh]
    omega
  have hwords : Reads (readUint64.bind k) (.int32 v :: .int32 (v / 4294967296) :: ws) a := by
    refine int_bmod (int_bmod ?_)
    rw [← hvalue] at h
    exact h
  refine hwords.congr ?_
  simp only [List.flatMap_cons, Write.encoding, List.append_assoc]

/-- A loop that reads back one element after another. -/
theorem readMany {x : ReadProg β} {enc : γ → List Write} {val : γ → β} (cs : List γ)
    (h : ∀ c ∈ cs, Reads x (enc c) (val c)) :
    Reads (ReadProg.readMany cs.length x) (cs.flatMap enc) (cs.map val) := by
  induction cs with
  | nil => exact done []
  | cons c cs ih =>
    obtain ⟨hc, hcs⟩ := List.forall_mem_cons.mp h
    have hrest : Reads ((ReadProg.readMany cs.length x).bind fun bs => .done (val c :: bs))
        (cs.flatMap enc ++ []) (val c :: cs.map val) := (ih hcs).bind (done _)
    rw [List.append_nil] at hrest
    exact hc.bind hrest

/-- The writes alone are read to their end. -/
theorem whole {x : ReadProg α} (h : Reads x ws a) :
    present x (Parcel.ofBytes (ws.flatMap Write.encoding))
      = some (a, ⟨ws.flatMap Write.encoding, (ws.flatMap Write.encoding).length⟩) := by
  have hwhole := h [] []
  rw [List.append_nil, List.nil_append, List.length_nil, Nat.zero_add] at hwhole
  exact hwhole

/-- **Bytes that are read back determine what was written.** -/
theorem unique {x : ReadProg α} {a' : α} (h : Reads x ws a) (h' : Reads x vs a')
    (hbytes : ws.flatMap Write.encoding = vs.flatMap Write.encoding) : a = a' := by
  have hwhole := h.whole
  rw [hbytes, h'.whole] at hwhole
  exact (Prod.mk.inj (Option.some.inj hwhole)).1.symm

/-- **Every cut is noticed.** -/
theorem cut {x : ReadProg α} (h : Reads x ws a) {Q : α → ℕ → Prop} (hslots : Slots x 0 Q)
    {k : ℕ} (hk : k < (ws.flatMap Write.encoding).length) (pre : List UInt8) :
    present x ⟨pre ++ (ws.flatMap Write.encoding).take k, pre.length⟩ = none := by
  rcases hrun : present x ⟨pre ++ (ws.flatMap Write.encoding).take k, pre.length⟩
    with _ | ⟨a', q⟩
  · rfl
  obtain ⟨n, -, rfl, hin, hmore⟩ := hslots.present hrun
  have hwhole := h pre []
  have hsame := hmore ((ws.flatMap Write.encoding).drop k)
  rw [List.append_assoc, List.take_append_drop] at hsame
  rw [List.append_nil, hsame] at hwhole
  have hpos : pre.length + 4 * n = pre.length + (ws.flatMap Write.encoding).length :=
    congrArg Parcel.pos (Prod.mk.inj (Option.some.inj hwhole)).2
  rw [List.length_append, List.length_take] at hin
  omega

end Reads

end ReadProg

end CtpCommon
