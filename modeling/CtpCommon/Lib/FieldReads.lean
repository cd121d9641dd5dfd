import CtpCommon.Lib.Layout
import CtpCommon.Lib.Marshal

/-!
# Reading fields back

Words and strings, written one after the other, against the code that reads them by their layout.

* `FieldValue.write`, `FieldValue.Fits` — a field as it is written, and the values that can be read
  back;
* `Reads.stringOpt`, `Reads.inplace` — **PROVED**: a string that may be null, and bytes after their
  length;
* `readFields_reads`, `readCounted_reads`, `readHeaded_reads` — **PROVED**: a record, records after
  their number, and records of a layout that a record in front determines, are read back to the last
  field.
-/

namespace CtpCommon

open Parcel (Write IsInt32)

namespace FieldValue

def field : FieldValue → Field
  | word _ => .word
  | string _ => .string

def write : FieldValue → Write
  | word v => .int32 v
  | string s => .string16 s

/-- A word of 32 bits, or a string whose length is a word. -/
def Fits : FieldValue → Prop
  | word v => IsInt32 v
  | string s => ∀ u, s = some u → (u.length : Int) < Parcel.int32Max

instance (v : FieldValue) : Decidable v.Fits :=
  match v with
  | word v => inferInstanceAs (Decidable (IsInt32 v))
  | string none => isTrue fun _ h => absurd h (by simp)
  | string (some s) => decidable_of_iff ((s.length : Int) < Parcel.int32Max)
      ⟨fun h _ hu => Option.some.inj hu ▸ h, fun h => h s rfl⟩

/-- A field is at least a word long. -/
theorem write_pos (v : FieldValue) : 0 < v.write.encoding.length := by
  have hword : ∀ n : Int, 0 < (Parcel.wordBytes n).length := by
    intro n
    rw [Parcel.length_wordBytes]
    omega
  cases v with
  | word v => exact hword v
  | string s =>
    cases s with
    | none => exact hword (-1)
    | some u =>
      show 0 < (Parcel.wordBytes u.length ++ _).length
      rw [List.length_append]
      exact Nat.add_pos_left (hword _) _

end FieldValue

namespace ReadProg

variable {α : Type} {ws : List Write} {a : α}

namespace Reads

/-- What is read is made something of. -/
theorem map {β : Type} {x : ReadProg α} (h : Reads x ws a) (g : α → β) :
    Reads (x.bind fun a => .done (g a)) ws (g a) := by
  have hdone := h.bind (f := fun a => .done (g a)) (.done (g a))
  rw [List.append_nil] at hdone
  exact hdone

/-- A null string is the length `-1`. -/
theorem stringNull {k : Option (List UInt16) → ReadProg α} (h : Reads (k none) ws a) :
    Reads (.string k) (.string16 none :: ws) a := by
  intro pre rest
  have hrest := h (pre ++ Parcel.wordBytes (-1)) rest
  rw [List.length_append, Parcel.length_wordBytes] at hrest
  have hnull : Parcel.readString16Inplace ⟨pre ++ (Parcel.wordBytes (-1) ++
      (ws.flatMap Write.encoding ++ rest)), pre.length⟩ = (none, ⟨pre ++ (Parcel.wordBytes (-1) ++
      (ws.flatMap Write.encoding ++ rest)), pre.length + 4⟩) := by
    unfold Parcel.readString16Inplace
    rw [Parcel.readInt32_wordBytes]
    rfl
  rw [List.flatMap_cons, show (Write.string16 none).encoding = Parcel.wordBytes (-1) from rfl,
    List.append_assoc]
  simp only [present, hnull]
  rw [← List.append_assoc pre, hrest, List.length_append, Parcel.length_wordBytes, Nat.add_assoc]

theorem stringOpt {k : Option (List UInt16) → ReadProg α} {s : Option (List UInt16)}
    (hs : ∀ u, s = some u → (u.length : Int) < Parcel.int32Max) (h : Reads (k s) ws a) :
    Reads (.string k) (.string16 s :: ws) a := by
  cases s with
  | none => exact stringNull h
  | some u => exact string (hs u rfl) h

/-- Bytes of a known number. -/
theorem inplace {k : Option (List UInt8) → ReadProg α} (bs : List UInt8)
    (h : Reads (k (some bs)) ws a) : Reads (.inplace bs.length k) (.bytes bs :: ws) a := by
  intro pre rest
  have hrest := h (pre ++ (Write.bytes bs).encoding) rest
  rw [List.length_append] at hrest
  rw [List.flatMap_cons, List.append_assoc]
  have hbytes : inplaceAt
      ⟨pre ++ ((Write.bytes bs).encoding ++ (ws.flatMap Write.encoding ++ rest)), pre.length⟩
      bs.length = (some bs, ⟨pre ++ ((Write.bytes bs).encoding ++
      (ws.flatMap Write.encoding ++ rest)), pre.length + (Write.bytes bs).encoding.length⟩) := by
    unfold inplaceAt
    rw [if_pos (Int.natCast_nonneg _), Int.toNat_natCast, Parcel.readInplace_encoding]
  simp only [present, hbytes]
  rw [← List.append_assoc pre, hrest, List.length_append, Nat.add_assoc]

/-- A negative number of bytes reads nothing. -/
theorem inplaceNeg {k : Option (List UInt8) → ReadProg α} {n : Int} (hn : n < 0)
    (h : Reads (k none) ws a) : Reads (.inplace n k) ws a := by
  intro pre rest
  have hnone : inplaceAt ⟨pre ++ (ws.flatMap Write.encoding ++ rest), pre.length⟩ n
      = (none, ⟨pre ++ (ws.flatMap Write.encoding ++ rest), pre.length⟩) :=
    if_neg (by omega)
  simp only [present, hnone]
  exact h pre rest

end Reads

/-! ### Records -/

/-- Code that reads a field and goes on. -/
def readField : Field → (FieldValue → ReadProg α) → ReadProg α
  | .word, k => .int fun v => k (.word v)
  | .string, k => .string fun s => k (.string s)

theorem readField_reads {v : FieldValue} (hv : v.Fits) {k : FieldValue → ReadProg α}
    (h : Reads (k v) ws a) : Reads (readField v.field k) (v.write :: ws) a := by
  cases v with
  | word v => exact .int hv h
  | string s => exact .stringOpt hv h

theorem readFields_cons (f : Field) (fs : List Field) : Field.readFields (f :: fs)
    = readField f fun v => (Field.readFields fs).bind fun vs => .done (v :: vs) := by
  cases f <;> rfl

/-- **A record is read back** by its layout. -/
theorem readFields_reads {vs : List FieldValue} (h : ∀ v ∈ vs, v.Fits) :
    Reads (Field.readFields (vs.map FieldValue.field)) (vs.map FieldValue.write) vs := by
  induction vs with
  | nil => exact .done []
  | cons v vs ih =>
    obtain ⟨hv, hvs⟩ := List.forall_mem_cons.mp h
    rw [List.map_cons, readFields_cons, List.map_cons]
    exact readField_reads hv ((ih hvs).map (v :: ·))

/-- Records of one layout, after their number. -/
def readCounted (fs : List Field) : ReadProg (List (List FieldValue)) := do
  let num ← readInt32
  readMany num.toNat (Field.readFields fs)

/-- The records of a list. -/
theorem readMany_reads {fs : List Field} {rs : List (List FieldValue)}
    (h : ∀ r ∈ rs, r.map FieldValue.field = fs ∧ ∀ v ∈ r, v.Fits) :
    Reads (readMany rs.length (Field.readFields fs)) (rs.flatMap fun r => r.map FieldValue.write)
      rs := by
  have hall : Reads (readMany rs.length (Field.readFields fs))
      (rs.flatMap fun r => r.map FieldValue.write) (rs.map id) := by
    refine Reads.readMany rs fun r hr => ?_
    obtain ⟨rfl, hfits⟩ := h r hr
    exact readFields_reads hfits
  rw [List.map_id] at hall
  exact hall

/-- **Records are read back**, to the last field of the last one; a negative number counts none. -/
theorem readCounted_reads {fs : List Field} {n : Int} {rs : List (List FieldValue)}
    (hn : IsInt32 n) (hnum : n.toNat = rs.length)
    (h : ∀ r ∈ rs, r.map FieldValue.field = fs ∧ ∀ v ∈ r, v.Fits) :
    Reads (readCounted fs) (.int32 n :: rs.flatMap fun r => r.map FieldValue.write) rs := by
  refine .int hn ?_
  show Reads (readMany n.toNat (Field.readFields fs)) _ _
  rw [hnum]
  exact readMany_reads h

/-- A record, and then records of a layout that it determines. -/
def readHeaded (head : List Field) (layout : List FieldValue → List Field) :
    ReadProg (List FieldValue × List (List FieldValue)) := do
  let h ← Field.readFields head
  let rs ← readCounted (layout h)
  return (h, rs)

/-- **The layout is in the data.** -/
theorem readHeaded_reads {head : List Field} {layout : List FieldValue → List Field}
    {h : List FieldValue} {n : Int} {rs : List (List FieldValue)}
    (hhead : h.map FieldValue.field = head) (hfits : ∀ v ∈ h, v.Fits) (hn : IsInt32 n)
    (hnum : n.toNat = rs.length)
    (hrs : ∀ r ∈ rs, r.map FieldValue.field = layout h ∧ ∀ v ∈ r, v.Fits) :
    Reads (readHeaded head layout)
      (h.map FieldValue.write ++ .int32 n :: rs.flatMap fun r => r.map FieldValue.write)
      (h, rs) := by
  subst hhead
  exact (readFields_reads hfits).bind ((readCounted_reads hn hnum hrs).map (h, ·))

end ReadProg

end CtpCommon
