import Mathlib.Tactic

/-!
# A marshalling buffer with padded reads and writes

A `Parcel` is a byte string with one cursor.  Every read and every write occupies a multiple of
four bytes; a read that does not fit fails **without moving the cursor**; a 16-bit string is a
length word followed by its characters and a terminator, and its length word is consumed even
when the characters do not fit.

* `readInplace`, `readInt32`, `readByte`, `readString16Inplace` — the reads;
* `writeInt32`, `writeInt64`, `write`, `writeString16`, `setDataPosition` — the writes, which
  overwrite in place and never truncate;
* `wordOf_wordBytes` — **PROVED**: a written word reads back;
* `writeAll_data` — **PROVED**: writes made at the end append exactly their encodings;
* `writeRaw_isPrefix` — **PROVED**: overwriting leaves what lies before the cursor;
* `Short` — fewer than four bytes remain, the state no read of a word gets out of.

Words are signed 32-bit integers, stored little-endian.
-/

namespace CtpCommon

/-- A byte string and the cursor of its next read or write. -/
structure Parcel where
  data : List UInt8
  pos : ℕ
  deriving Repr, DecidableEq

namespace Parcel

/-- The largest signed 32-bit integer. -/
def int32Max : Int := 2147483647

/-- Every access occupies a multiple of four bytes. -/
def padSize (n : ℕ) : ℕ := (n + 3) / 4 * 4

/-- `setData`: a parcel over a received buffer, read from its start. -/
def ofBytes (bs : List UInt8) : Parcel := ⟨bs, 0⟩

def dataPosition (p : Parcel) : ℕ := p.pos

/-- Moving the cursor leaves the data, and its size, as they are. -/
def setDataPosition (p : Parcel) (n : ℕ) : Parcel := { p with pos := n }

/-- The bytes between the cursor and the end of the data. -/
def remaining (p : Parcel) : ℕ := p.data.length - p.pos

/-! ### Words -/

/-- The value of four little-endian bytes, in two's complement. -/
def wordOf : List UInt8 → Int
  | [a, b, c, d] =>
      Int.bmod ((a.toNat + 256 * b.toNat + 65536 * c.toNat + 16777216 * d.toNat : ℕ) : Int)
        4294967296
  | _ => 0

/-- The four little-endian bytes of an integer modulo `2 ^ 32`. -/
def wordBytes (v : Int) : List UInt8 :=
  let n := (v % 4294967296).toNat
  [UInt8.ofNat (n % 256), UInt8.ofNat (n / 256 % 256), UInt8.ofNat (n / 65536 % 256),
    UInt8.ofNat (n / 16777216 % 256)]

/-- The integers a 32-bit word can hold. -/
def IsInt32 (v : Int) : Prop := -2147483648 ≤ v ∧ v ≤ 2147483647

@[simp] theorem length_wordBytes (v : Int) : (wordBytes v).length = 4 := rfl

theorem wordBytes_eq (v : Int) : ∃ n : ℕ, (n : Int) = v % 4294967296 ∧ n < 4294967296 ∧
    wordBytes v = [UInt8.ofNat (n % 256), UInt8.ofNat (n / 256 % 256),
      UInt8.ofNat (n / 65536 % 256), UInt8.ofNat (n / 16777216 % 256)] :=
  ⟨(v % 4294967296).toNat, by omega, by omega, rfl⟩

theorem toNat_ofNat_mod (n : ℕ) : (UInt8.ofNat (n % 256)).toNat = n % 256 := by
  simp

/-- Four bytes of a number below `2 ^ 32` add up to it. -/
theorem wordOf_bytes {n : ℕ} (h : n < 4294967296) :
    wordOf [UInt8.ofNat (n % 256), UInt8.ofNat (n / 256 % 256), UInt8.ofNat (n / 65536 % 256),
      UInt8.ofNat (n / 16777216 % 256)] = Int.bmod n 4294967296 := by
  have hsum : n % 256 + 256 * (n / 256 % 256) + 65536 * (n / 65536 % 256)
      + 16777216 * (n / 16777216 % 256) = n := by
    omega
  unfold wordOf
  simp only [toNat_ofNat_mod]
  rw [hsum]

/-- **A written word reads back.** -/
theorem wordOf_wordBytes {v : Int} (h : IsInt32 v) : wordOf (wordBytes v) = v := by
  obtain ⟨h1, h2⟩ := h
  obtain ⟨n, hn, hlt, hbytes⟩ := wordBytes_eq v
  rw [hbytes, wordOf_bytes hlt, Int.bmod_def]
  split <;> omega

theorem isInt32_wordOf (bs : List UInt8) : IsInt32 (wordOf bs) := by
  unfold wordOf IsInt32
  split
  · rw [Int.bmod_def]
    split <;> omega
  · decide

/-- Any four bytes are those of a word. -/
theorem wordBytes_wordOf (a b c d : UInt8) : wordBytes (wordOf [a, b, c, d]) = [a, b, c, d] := by
  have ha := a.toNat_lt
  have hb := b.toNat_lt
  have hc := c.toNat_lt
  have hd := d.toNat_lt
  obtain ⟨n, hn, hlt, hbytes⟩ := wordBytes_eq (wordOf [a, b, c, d])
  generalize hm : a.toNat + 256 * b.toNat + 65536 * c.toNat + 16777216 * d.toNat = m
  have hword : wordOf [a, b, c, d] = Int.bmod m 4294967296 := by
    rw [← hm]
    rfl
  have hmod : Int.bmod m 4294967296 % 4294967296 = (m : Int) % 4294967296 :=
    Int.bmod_emod (x := m) (m := 4294967296)
  rw [hword, hmod] at hn
  have hvalue : n = m := by omega
  have hbyte : ∀ (x : UInt8) (k : ℕ), k = x.toNat → UInt8.ofNat k = x := by
    rintro x k rfl
    exact UInt8.ofNat_toNat
  rw [hbytes, hbyte a _ (by omega), hbyte b _ (by omega), hbyte c _ (by omega),
    hbyte d _ (by omega)]

/-! ### Reads -/

/-- `readInplace`: the next `len` bytes, the cursor moving over their padding as well. -/
def readInplace (p : Parcel) (len : ℕ) : Option (List UInt8) × Parcel :=
  if p.pos + padSize len ≤ p.data.length then
    (some ((p.data.drop p.pos).take len), { p with pos := p.pos + padSize len })
  else (none, p)

/-- `readInt32(&t)`: the word read, or nothing when it is not all there. -/
def readInt32 (p : Parcel) : Option Int × Parcel :=
  ((p.readInplace 4).1.map wordOf, (p.readInplace 4).2)

/-- `read(&ut, 1)`: one byte, in a slot of four. -/
def readByte (p : Parcel) : Option UInt8 × Parcel :=
  ((p.readInplace 1).1.map fun bs => bs.headD 0, (p.readInplace 1).2)

/-- Pair up little-endian bytes into 16-bit units. -/
def unitsOf : List UInt8 → List UInt16
  | a :: b :: rest => UInt16.ofNat (a.toNat + 256 * b.toNat) :: unitsOf rest
  | _ => []

/-- `readString16Inplace`: a length word `n`, then `n` units and a terminator.  A missing length
word counts as `0`; a negative one, or one the data cannot hold, gives no string. -/
def readString16Inplace (p : Parcel) : Option (List UInt16) × Parcel :=
  let size := p.readInt32.1.getD 0
  let q := p.readInt32.2
  if 0 ≤ size ∧ size < int32Max then
    let r := q.readInplace ((size.toNat + 1) * 2)
    (r.1.map fun bs => unitsOf (bs.take (size.toNat * 2)), r.2)
  else (none, q)

/-! ### Writes -/

/-- Overwrite at the cursor, extending the data where it ends. -/
def writeRaw (p : Parcel) (bs : List UInt8) : Parcel :=
  ⟨p.data.take p.pos ++ bs ++ p.data.drop (p.pos + bs.length), p.pos + bs.length⟩

/-- `write`: bytes, padded with zeros to a multiple of four. -/
def write (p : Parcel) (bs : List UInt8) : Parcel :=
  p.writeRaw (bs ++ List.replicate (padSize bs.length - bs.length) 0)

def writeInt32 (p : Parcel) (v : Int) : Parcel := p.writeRaw (wordBytes v)

/-- `writeInt64`: the low word, then the high word. -/
def writeInt64 (p : Parcel) (v : Int) : Parcel :=
  p.writeRaw (wordBytes v ++ wordBytes (v / 4294967296))

/-- The little-endian bytes of 16-bit units. -/
def unitBytes (s : List UInt16) : List UInt8 :=
  s.flatMap fun u => [UInt8.ofNat (u.toNat % 256), UInt8.ofNat (u.toNat / 256)]

/-- `writeString16`: the word `-1` for a null string, else length, units and terminator. -/
def writeString16 (p : Parcel) : Option (List UInt16) → Parcel
  | none => p.writeInt32 (-1)
  | some s => (p.writeInt32 s.length).write (unitBytes s ++ [0, 0])

/-- One write, as a value. -/
inductive Write where
  | int32 (v : Int)
  | int64 (v : Int)
  | bytes (bs : List UInt8)
  | string16 (s : Option (List UInt16))
  deriving DecidableEq, Repr

def apply (p : Parcel) : Write → Parcel
  | .int32 v => p.writeInt32 v
  | .int64 v => p.writeInt64 v
  | .bytes bs => p.write bs
  | .string16 s => p.writeString16 s

def writeAll (p : Parcel) (ws : List Write) : Parcel := ws.foldl apply p

theorem padSize_padded (bs : List UInt8) :
    padSize bs.length
      = (bs ++ List.replicate (padSize bs.length - bs.length) (0 : UInt8)).length := by
  rw [List.length_append, List.length_replicate]
  unfold padSize
  omega

theorem unitsOf_unitBytes (s : List UInt16) : unitsOf (unitBytes s) = s := by
  induction s with
  | nil => rfl
  | cons u s ih =>
    have hunit : UInt16.ofNat ((UInt8.ofNat (u.toNat % 256)).toNat
        + 256 * (UInt8.ofNat (u.toNat / 256)).toNat) = u := by
      have hlt := u.toNat_lt
      have hhigh : (UInt8.ofNat (u.toNat / 256)).toNat = u.toNat / 256 := by
        rw [UInt8.toNat_ofNat']
        omega
      rw [toNat_ofNat_mod, hhigh, Nat.mod_add_div]
      exact UInt16.ofNat_toNat
    show UInt16.ofNat _ :: unitsOf (unitBytes s) = u :: s
    rw [ih, hunit]

theorem length_unitBytes (s : List UInt16) : (unitBytes s).length = s.length * 2 := by
  simp [unitBytes, List.length_flatMap]

/-! ### Writing at the end, and overwriting -/

/-- The cursor stands where the data ends, so a write appends. -/
def AtEnd (p : Parcel) : Prop := p.pos = p.data.length

/-- The bytes a write appends when the cursor stands at the end. -/
def Write.encoding : Write → List UInt8
  | .int32 v => wordBytes v
  | .int64 v => wordBytes v ++ wordBytes (v / 4294967296)
  | .bytes bs => bs ++ List.replicate (padSize bs.length - bs.length) 0
  | .string16 none => wordBytes (-1)
  | .string16 (some s) =>
      let bs := unitBytes s ++ [0, 0]
      wordBytes s.length ++ (bs ++ List.replicate (padSize bs.length - bs.length) 0)

theorem writeRaw_atEnd {p : Parcel} (h : p.AtEnd) (bs : List UInt8) :
    (p.writeRaw bs).data = p.data ++ bs ∧ (p.writeRaw bs).AtEnd := by
  have hpos : p.pos = p.data.length := h
  have hdata : (p.writeRaw bs).data = p.data ++ bs := by
    simp [writeRaw, hpos]
  refine ⟨hdata, ?_⟩
  unfold AtEnd
  rw [hdata, List.length_append, ← hpos]
  rfl

theorem apply_atEnd {p : Parcel} (h : p.AtEnd) (w : Write) :
    (p.apply w).data = p.data ++ w.encoding ∧ (p.apply w).AtEnd := by
  cases w with
  | int32 v => exact writeRaw_atEnd h _
  | int64 v => exact writeRaw_atEnd h _
  | bytes bs => exact writeRaw_atEnd h _
  | string16 s =>
    cases s with
    | none => exact writeRaw_atEnd h _
    | some s =>
      obtain ⟨hlen, hend⟩ := writeRaw_atEnd h (wordBytes s.length)
      obtain ⟨hdata, hend'⟩ := writeRaw_atEnd hend
        (unitBytes s ++ [0, 0] ++ List.replicate
          (padSize (unitBytes s ++ [0, 0]).length - (unitBytes s ++ [0, 0]).length) 0)
      refine ⟨?_, hend'⟩
      rw [hlen] at hdata
      exact hdata.trans (List.append_assoc _ _ _)

theorem writeInt32_atEnd {p : Parcel} (h : p.AtEnd) (v : Int) :
    (p.writeInt32 v).data = p.data ++ wordBytes v ∧ (p.writeInt32 v).AtEnd :=
  writeRaw_atEnd h _

theorem writeString16_atEnd {p : Parcel} (h : p.AtEnd) (s : Option (List UInt16)) :
    p.data <+: (p.writeString16 s).data ∧ (p.writeString16 s).AtEnd := by
  obtain ⟨hdata, hend⟩ := apply_atEnd h (.string16 s)
  refine ⟨?_, hend⟩
  rw [show (p.writeString16 s).data = _ from hdata]
  exact List.prefix_append _ _

/-- **Writes made at the end append their encodings**, one after the other. -/
theorem writeAll_data (ws : List Write) :
    ∀ {p : Parcel}, p.AtEnd →
      (p.writeAll ws).data = p.data ++ ws.flatMap Write.encoding ∧ (p.writeAll ws).AtEnd := by
  induction ws with
  | nil => intro p h; exact ⟨by simp [writeAll], h⟩
  | cons w ws ih =>
    intro p h
    obtain ⟨hdata, hend⟩ := apply_atEnd h w
    obtain ⟨hrest, hend'⟩ := ih hend
    refine ⟨?_, hend'⟩
    calc (p.writeAll (w :: ws)).data
        = (p.apply w).data ++ ws.flatMap Write.encoding := hrest
      _ = p.data ++ (w :: ws).flatMap Write.encoding := by
          rw [hdata, List.flatMap_cons, List.append_assoc]

/-- **Overwriting leaves what lies before the cursor.** -/
theorem writeRaw_isPrefix {p : Parcel} {pre : List UInt8} (bs : List UInt8) (h : pre <+: p.data)
    (hpos : pre.length ≤ p.pos) : pre <+: (p.writeRaw bs).data := by
  have htake : pre <+: p.data.take p.pos := List.prefix_take_iff.mpr ⟨h, hpos⟩
  unfold writeRaw
  rw [List.append_assoc]
  exact htake.trans (List.prefix_append _ _)

/-- Overwriting inside the data does not change its size. -/
theorem writeRaw_length {p : Parcel} (bs : List UInt8)
    (hfit : p.pos + bs.length ≤ p.data.length) : (p.writeRaw bs).data.length = p.data.length := by
  simp only [writeRaw, List.length_append, List.length_take, List.length_drop]
  omega

/-- Writes made at the end keep every prefix of the data. -/
theorem writeAll_isPrefix {p : Parcel} {pre : List UInt8} (h : p.AtEnd) (hpre : pre <+: p.data)
    (ws : List Write) : pre <+: (p.writeAll ws).data := by
  rw [(writeAll_data ws h).1]
  exact hpre.trans (List.prefix_append _ _)

/-! ### Where the cursor goes -/

/-- Fewer than four bytes remain: no word can be read any more. -/
def Short (p : Parcel) : Prop := p.remaining < 4

instance (p : Parcel) : Decidable p.Short := inferInstanceAs (Decidable (p.remaining < 4))

theorem padSize_pos {n : ℕ} (h : 0 < n) : 4 ≤ padSize n := by
  unfold padSize
  omega

theorem readInplace_data (p : Parcel) (len : ℕ) : (p.readInplace len).2.data = p.data := by
  unfold readInplace
  split <;> rfl

/-- On a short parcel a read finds nothing, or reads no byte at all; it stays where it is. -/
theorem readInplace_short {p : Parcel} (h : p.Short) (len : ℕ) : (p.readInplace len).2 = p := by
  unfold readInplace
  split
  · rename_i hfit
    rcases Nat.eq_zero_or_pos len with h0 | hpos
    · subst h0
      simp [padSize]
    · have := padSize_pos hpos
      unfold Short remaining at h
      omega
  · rfl

theorem readInplace_short_none {p : Parcel} (h : p.Short) {len : ℕ} (hlen : 0 < len) :
    (p.readInplace len).1 = none := by
  unfold readInplace
  rw [if_neg]
  have := padSize_pos hlen
  unfold Short remaining at h
  omega

theorem readInt32_short {p : Parcel} (h : p.Short) : p.readInt32 = (none, p) := by
  unfold readInt32
  rw [readInplace_short_none h (by omega), readInplace_short h]
  rfl

theorem readByte_short {p : Parcel} (h : p.Short) : p.readByte = (none, p) := by
  unfold readByte
  rw [readInplace_short_none h (by omega), readInplace_short h]
  rfl

theorem readString16Inplace_short {p : Parcel} (h : p.Short) :
    p.readString16Inplace = (none, p) := by
  unfold readString16Inplace
  simp only [readInt32_short h, Option.getD_none]
  rw [if_pos (by decide), readInplace_short_none h (by omega), readInplace_short h]
  rfl

/-- A word read fails only on a short parcel, and then leaves it as it is. -/
theorem readInt32_none {p : Parcel} (h : p.readInt32.1 = none) : p.Short ∧ p.readInt32.2 = p := by
  unfold readInt32 readInplace at h ⊢
  split at h
  · simp at h
  · rename_i hfit
    rw [if_neg hfit]
    refine ⟨?_, rfl⟩
    unfold Short remaining
    rw [show padSize 4 = 4 from rfl] at hfit
    omega

theorem readInt32_isSome (p : Parcel) :
    p.readInt32.1.isSome = decide (p.pos + 4 ≤ p.data.length) := by
  unfold readInt32 readInplace
  rw [show padSize 4 = 4 from rfl]
  split <;> simp_all

theorem readInt32_data (p : Parcel) : p.readInt32.2.data = p.data := readInplace_data p 4

/-- A byte occupies the slot of a word. -/
theorem readByte_eq_readInt32 (p : Parcel) :
    p.readByte.1.isSome = p.readInt32.1.isSome ∧ p.readByte.2 = p.readInt32.2 := by
  unfold readByte readInt32 readInplace
  rw [show padSize 1 = padSize 4 from rfl]
  split <;> exact ⟨rfl, rfl⟩

theorem readByte_none {p : Parcel} (h : p.readByte.1 = none) : p.Short ∧ p.readByte.2 = p := by
  unfold readByte readInplace at h ⊢
  split at h
  · simp at h
  · rename_i hfit
    rw [if_neg hfit]
    refine ⟨?_, rfl⟩
    unfold Short remaining
    rw [show padSize 1 = 4 from rfl] at hfit
    omega

end Parcel

end CtpCommon
