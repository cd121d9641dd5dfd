import CtpCommon.Lib.Parcel
import Mathlib.Data.List.TakeWhile

/-!
# A marshalling buffer that carries objects

A `BinderParcel` is a `Parcel` with a table of objects: an object takes sixteen bytes of the data,
and the table says which object was written at an offset.  A null object leaves the table empty
there.  Whatever is written at the end of the data is read back in the same order.

* `Item` — what one write puts into the data;
* `put` and `writeInt32`, `writeCString`, `writeStrongBinder`, … — the writes;
* `readInt32`, `readCString`, `readStrongBinder`, … — the reads, with the buffer after them;
* `Written`, `Ahead` — the items written so far, and the items still to be read;
* `written_put` — **PROVED**: a write adds its item;
* `ahead_of_written` — **PROVED**: a buffer that is read from its start has all its items ahead;
* `readInt32_ahead`, `readCString_ahead`, … — **PROVED**: a read of the right kind gives the next
  item and leaves the others.

Objects are of any type; a read gives the object that was written.
-/

namespace CtpCommon

/-- The characters of a C string. -/
abbrev CString := { s : List UInt8 // (0 : UInt8) ∉ s }

/-- The units of a string whose length a word can hold. -/
abbrev String16 := { s : List UInt16 // (s.length : Int) < Parcel.int32Max }

structure BinderParcel (R : Type) where
  parcel : Parcel
  /-- The object that was written at an offset. -/
  objects : ℕ → Option R

namespace BinderParcel

variable {R : Type}

/-- What one write puts into the data. -/
inductive Item (R : Type) where
  | int32 (v : Int32)
  | bytes (bs : List UInt8)
  | cString (s : CString)
  | string16 (s : String16)
  | strongBinder (x : Option R)

/-- The place of an object in the data. -/
def flatBinderObject : List UInt8 := List.replicate 16 0

def Item.write : Item R → Parcel.Write
  | .int32 v => .int32 v.toInt
  | .bytes bs => .bytes bs
  | .cString s => .bytes (s.1 ++ [0])
  | .string16 s => .string16 (some s.1)
  | .strongBinder _ => .bytes flatBinderObject

def Item.encoding (item : Item R) : List UInt8 := item.write.encoding

/-- The table after an item has been written at an offset. -/
def Item.place (objects : ℕ → Option R) (n : ℕ) : Item R → ℕ → Option R
  | .strongBinder x => Function.update objects n x
  | _ => objects

/-! ### Writes -/

def empty : BinderParcel R := ⟨⟨[], 0⟩, fun _ => none⟩

def setDataPosition (p : BinderParcel R) (n : ℕ) : BinderParcel R :=
  { p with parcel := p.parcel.setDataPosition n }

def put (p : BinderParcel R) (item : Item R) : BinderParcel R :=
  ⟨p.parcel.apply item.write, item.place p.objects p.parcel.pos⟩

def writeInt32 (p : BinderParcel R) (v : Int32) : BinderParcel R := p.put (.int32 v)

def write (p : BinderParcel R) (bs : List UInt8) : BinderParcel R := p.put (.bytes bs)

def writeCString (p : BinderParcel R) (s : CString) : BinderParcel R := p.put (.cString s)

def writeString16 (p : BinderParcel R) (s : String16) : BinderParcel R := p.put (.string16 s)

def writeStrongBinder (p : BinderParcel R) (x : Option R) : BinderParcel R :=
  p.put (.strongBinder x)

/-- The strict-mode policy of the caller and the name of the interface. -/
def writeInterfaceToken (p : BinderParcel R) (policy : Int32) (interface : String16) :
    BinderParcel R :=
  (p.writeInt32 policy).writeString16 interface

/-! ### Reads -/

/-- A word that is not there is `0`. -/
def readInt32 (p : BinderParcel R) : Int32 × BinderParcel R :=
  (Int32.ofInt (p.parcel.readInt32.1.getD 0), { p with parcel := p.parcel.readInt32.2 })

/-- `read(outData, len)`: nothing when the bytes are not all there. -/
def read (p : BinderParcel R) (len : ℕ) : Option (List UInt8) × BinderParcel R :=
  ((p.parcel.readInplace len).1, { p with parcel := (p.parcel.readInplace len).2 })

/-- The bytes between the cursor and the end of the data. -/
def ahead (p : BinderParcel R) : List UInt8 := p.parcel.data.drop p.parcel.pos

/-- The cursor moves on. -/
def skip (p : BinderParcel R) (n : ℕ) : BinderParcel R :=
  p.setDataPosition (p.parcel.pos + n)

/-- The characters before the next zero byte. -/
def nextCString (bs : List UInt8) : CString :=
  ⟨bs.takeWhile fun b => b ≠ 0, fun hmem => by simpa using List.mem_takeWhile_imp hmem⟩

/-- Nothing when no zero byte follows. -/
def readCString (p : BinderParcel R) : Option CString × BinderParcel R :=
  if 0 ∈ p.ahead then
    (some (nextCString p.ahead), p.skip (Parcel.padSize ((nextCString p.ahead).1.length + 1)))
  else (none, p)

/-- A string that is not there is empty. -/
def readString16 (p : BinderParcel R) : List UInt16 × BinderParcel R :=
  (p.parcel.readString16Inplace.1.getD [], { p with parcel := p.parcel.readString16Inplace.2 })

def readStrongBinder (p : BinderParcel R) : Option R × BinderParcel R :=
  if p.parcel.pos + 16 ≤ p.parcel.data.length then (p.objects p.parcel.pos, p.skip 16)
  else (none, p)

/-- The policy is not checked. -/
def enforceInterface (p : BinderParcel R) (interface : String16) : Bool × BinderParcel R :=
  (p.readInt32.2.readString16.1 = interface.1, p.readInt32.2.readString16.2)

/-! ### What has been written, and what is ahead -/

/-- Each object among the items, the first of which begins at `n`, is in the table. -/
def Located (objects : ℕ → Option R) (n : ℕ) (items : List (Item R)) : Prop :=
  ∀ before x after, items = before ++ .strongBinder x :: after →
    objects (n + (before.flatMap Item.encoding).length) = x

/-- The items that make up the data. -/
structure Written (p : BinderParcel R) (items : List (Item R)) : Prop where
  atEnd : p.parcel.AtEnd
  data : p.parcel.data = items.flatMap Item.encoding
  located : Located p.objects 0 items

/-- The items between the cursor and the end of the data. -/
structure Ahead (p : BinderParcel R) (items : List (Item R)) : Prop where
  fits : p.parcel.pos ≤ p.parcel.data.length
  data : p.ahead = items.flatMap Item.encoding
  located : Located p.objects p.parcel.pos items

theorem written_empty : (empty : BinderParcel R).Written [] where
  atEnd := rfl
  data := rfl
  located := by
    intro before x after h
    simp at h

theorem Item.place_of_lt (objects : ℕ → Option R) {n m : ℕ} (item : Item R) (h : m < n) :
    item.place objects n m = objects m := by
  cases item with
  | strongBinder x => exact Function.update_of_ne (Nat.ne_of_lt h) x objects
  | int32 v => rfl
  | bytes bs => rfl
  | cString s => rfl
  | string16 s => rfl

theorem Item.length_encoding_strongBinder (x : Option R) :
    (Item.strongBinder x).encoding.length = 16 := rfl

/-- The objects stay located when an item is added. -/
theorem Located.concat {objects : ℕ → Option R} {items : List (Item R)}
    (h : Located objects 0 items) (item : Item R) :
    Located (item.place objects (items.flatMap Item.encoding).length) 0 (items ++ [item]) := by
  intro before x after hsplit
  rcases List.eq_nil_or_concat after with rfl | ⟨after', last, rfl⟩
  · obtain ⟨rfl, hlast⟩ := List.append_inj' hsplit rfl
    obtain rfl : item = .strongBinder x := by simpa using hlast
    rw [Nat.zero_add]
    show Function.update objects _ x _ = x
    exact Function.update_self ..
  · have hsplit' : items ++ [item] = (before ++ .strongBinder x :: after') ++ [last] := by
      simpa using hsplit
    obtain ⟨hitems, -⟩ := List.append_inj' hsplit' rfl
    rw [Item.place_of_lt, h before x after' hitems]
    rw [hitems, List.flatMap_append, List.flatMap_cons, List.length_append, List.length_append,
      Item.length_encoding_strongBinder]
    omega

/-- **A write adds its item.** -/
theorem written_put {p : BinderParcel R} {items : List (Item R)} (h : p.Written items)
    (item : Item R) : (p.put item).Written (items ++ [item]) := by
  obtain ⟨hdata, hend⟩ := Parcel.apply_atEnd h.atEnd item.write
  have hpos : p.parcel.pos = (items.flatMap Item.encoding).length := by
    rw [← h.data]
    exact h.atEnd
  refine ⟨hend, ?_, ?_⟩
  · show (p.parcel.apply item.write).data = _
    rw [hdata, h.data, List.flatMap_append, List.flatMap_cons, List.flatMap_nil, List.append_nil]
    rfl
  · show Located (item.place p.objects p.parcel.pos) 0 (items ++ [item])
    rw [hpos]
    exact h.located.concat item

/-- **Reading from the start.** -/
theorem ahead_of_written {p : BinderParcel R} {items : List (Item R)} (h : p.Written items) :
    (p.setDataPosition 0).Ahead items :=
  ⟨Nat.zero_le _, h.data, h.located⟩

/-- The cursor moves over the next item. -/
theorem Ahead.skip {p : BinderParcel R} {item : Item R} {items : List (Item R)}
    (h : p.Ahead (item :: items)) {n : ℕ} (hn : n = item.encoding.length) :
    p.parcel.pos + n ≤ p.parcel.data.length ∧ (p.skip n).Ahead items := by
  subst hn
  have hdata : p.ahead = item.encoding ++ items.flatMap Item.encoding := h.data
  have hlength := congrArg List.length hdata
  have hfits := h.fits
  simp only [BinderParcel.ahead, List.length_drop, List.length_append] at hlength
  have hle : p.parcel.pos + item.encoding.length ≤ p.parcel.data.length := by omega
  refine ⟨hle, hle, ?_, ?_⟩
  · show p.parcel.data.drop (p.parcel.pos + item.encoding.length) = _
    have hdrop := congrArg (List.drop item.encoding.length) hdata
    simpa only [BinderParcel.ahead, List.drop_drop, List.drop_left] using hdrop
  · intro before x after hsplit
    have hobject := h.located (item :: before) x after (by rw [hsplit, List.cons_append])
    rw [List.flatMap_cons, List.length_append, ← Nat.add_assoc] at hobject
    exact hobject

/-! ### Reading what is ahead -/

/-- The next item is bytes with their padding. -/
theorem Ahead.readInplace {p : BinderParcel R} {item : Item R} {items : List (Item R)}
    (h : p.Ahead (item :: items)) {bs padding : List UInt8} {len : ℕ}
    (henc : item.encoding = bs ++ padding) (hlen : bs.length = len)
    (hpad : Parcel.padSize len = item.encoding.length) :
    p.parcel.readInplace len = (some bs, (p.skip (Parcel.padSize len)).parcel) := by
  have hle := (h.skip hpad).1
  have hdata : p.parcel.data.drop p.parcel.pos
      = bs ++ (padding ++ items.flatMap Item.encoding) := by
    have hahead := h.data
    rw [List.flatMap_cons, henc, List.append_assoc] at hahead
    exact hahead
  unfold Parcel.readInplace
  rw [if_pos hle, hdata, ← hlen, List.take_left]
  rfl

/-- **The next item is bytes.** -/
theorem read_ahead {p : BinderParcel R} {bs : List UInt8} {items : List (Item R)}
    (h : p.Ahead (.bytes bs :: items)) :
    ∃ q, p.read bs.length = (some bs, q) ∧ q.Ahead items := by
  have hpad := Parcel.padSize_padded bs
  have hread := h.readInplace rfl rfl hpad
  refine ⟨p.skip (Parcel.padSize bs.length), ?_, (h.skip hpad).2⟩
  unfold read
  rw [hread]
  rfl

theorem Ahead.readWord {p : BinderParcel R} {v : Int32} {items : List (Item R)}
    (h : p.Ahead (.int32 v :: items)) :
    p.parcel.readInt32 = (some v.toInt, (p.skip 4).parcel) := by
  have henc : (Item.int32 v : Item R).encoding = Parcel.wordBytes v.toInt ++ [] :=
    (List.append_nil _).symm
  have hread : p.parcel.readInplace 4 = (some (Parcel.wordBytes v.toInt), (p.skip 4).parcel) :=
    h.readInplace henc (Parcel.length_wordBytes _) (Parcel.length_wordBytes _).symm
  have hword : Parcel.wordOf (Parcel.wordBytes v.toInt) = v.toInt :=
    Parcel.wordOf_wordBytes ⟨v.le_toInt, Int.le_of_lt_add_one v.toInt_lt⟩
  unfold Parcel.readInt32
  rw [hread, Option.map_some, hword]

/-- **The next item is a word.** -/
theorem readInt32_ahead {p : BinderParcel R} {v : Int32} {items : List (Item R)}
    (h : p.Ahead (.int32 v :: items)) : ∃ q, p.readInt32 = (v, q) ∧ q.Ahead items := by
  refine ⟨p.skip 4, ?_, (h.skip rfl).2⟩
  unfold readInt32
  rw [h.readWord, Option.getD_some, Int32.ofInt_toInt]
  rfl

/-- **The next item is a C string.** -/
theorem readCString_ahead {p : BinderParcel R} {s : CString} {items : List (Item R)}
    (h : p.Ahead (.cString s :: items)) : ∃ q, p.readCString = (some s, q) ∧ q.Ahead items := by
  have hdata : ∃ rest, p.ahead = s.1 ++ 0 :: rest := by
    refine ⟨List.replicate (Parcel.padSize (s.1 ++ [0]).length - (s.1 ++ [0]).length) 0
      ++ items.flatMap Item.encoding, ?_⟩
    rw [h.data, List.flatMap_cons]
    simp [Item.encoding, Item.write, Parcel.Write.encoding]
  obtain ⟨rest, hrest⟩ := hdata
  have hstring : nextCString p.ahead = s := by
    apply Subtype.ext
    show p.ahead.takeWhile (fun b => b ≠ 0) = s.1
    rw [hrest, List.takeWhile_append_of_pos]
    · simp
    · intro b hb
      exact decide_eq_true fun hzero => s.2 (hzero ▸ hb)
  have hpad : Parcel.padSize (s.1.length + 1) = (Item.cString s : Item R).encoding.length := by
    have hlength : (s.1 ++ [0]).length = s.1.length + 1 := List.length_append
    rw [← hlength]
    exact Parcel.padSize_padded (s.1 ++ [0])
  refine ⟨p.skip (Parcel.padSize (s.1.length + 1)), ?_, (h.skip hpad).2⟩
  unfold readCString
  rw [if_pos (by rw [hrest]; simp), hstring]

/-- **The next item is an object.** -/
theorem readStrongBinder_ahead {p : BinderParcel R} {x : Option R} {items : List (Item R)}
    (h : p.Ahead (.strongBinder x :: items)) :
    ∃ q, p.readStrongBinder = (x, q) ∧ q.Ahead items := by
  obtain ⟨hle, hahead⟩ := h.skip (Item.length_encoding_strongBinder x).symm
  have hobject : p.objects p.parcel.pos = x := h.located [] x items rfl
  refine ⟨p.skip 16, ?_, hahead⟩
  unfold readStrongBinder
  rw [if_pos hle, hobject]

theorem toInt_length (s : String16) : (Int32.ofInt s.1.length).toInt = s.1.length := by
  have hlt := s.2
  unfold Parcel.int32Max at hlt
  exact Int32.toInt_ofInt_of_le (by omega) (by omega)

/-- A string is a word and bytes. -/
theorem Ahead.string16 {p : BinderParcel R} {s : String16} {items : List (Item R)}
    (h : p.Ahead (.string16 s :: items)) :
    p.Ahead (.int32 (Int32.ofInt s.1.length) :: .bytes (Parcel.unitBytes s.1 ++ [0, 0]) ::
      items) := by
  have henc : (Item.string16 s : Item R).encoding
      = (Item.int32 (Int32.ofInt s.1.length) : Item R).encoding
        ++ (Item.bytes (Parcel.unitBytes s.1 ++ [0, 0]) : Item R).encoding := by
    show _ = Parcel.wordBytes (Int32.ofInt s.1.length).toInt ++ _
    rw [toInt_length]
    rfl
  refine ⟨h.fits, ?_, ?_⟩
  · rw [h.data, List.flatMap_cons, henc, List.flatMap_cons, List.flatMap_cons, List.append_assoc]
  · intro before x after hsplit
    match before with
    | [] => cases hsplit
    | [_] => cases hsplit
    | word :: bytes :: before =>
      simp only [List.cons_append, List.cons.injEq] at hsplit
      obtain ⟨rfl, rfl, hsplit⟩ := hsplit
      have hobject := h.located (.string16 s :: before) x after (by rw [hsplit, List.cons_append])
      rw [List.flatMap_cons, henc, List.append_assoc] at hobject
      rw [List.flatMap_cons, List.flatMap_cons]
      exact hobject

/-- **The next item is a string.** -/
theorem readString16_ahead {p : BinderParcel R} {s : String16} {items : List (Item R)}
    (h : p.Ahead (.string16 s :: items)) :
    ∃ q, p.readString16 = (s.1, q) ∧ q.Ahead items := by
  have hword := h.string16
  have hbytes := (hword.skip (n := 4) rfl).2
  have hlen : (Parcel.unitBytes s.1 ++ [0, 0]).length = (s.1.length + 1) * 2 := by
    rw [List.length_append, Parcel.length_unitBytes]
    exact (Nat.add_mul _ 1 2).symm
  have hpad : Parcel.padSize ((s.1.length + 1) * 2)
      = (Item.bytes (Parcel.unitBytes s.1 ++ [0, 0]) : Item R).encoding.length := by
    rw [← hlen]
    exact Parcel.padSize_padded _
  have hunits : Parcel.unitsOf ((Parcel.unitBytes s.1 ++ [0, 0]).take (s.1.length * 2)) = s.1 := by
    rw [← Parcel.length_unitBytes, List.take_left, Parcel.unitsOf_unitBytes]
  have hread : p.parcel.readString16Inplace
      = (some s.1, ((p.skip 4).skip (Parcel.padSize ((s.1.length + 1) * 2))).parcel) := by
    unfold Parcel.readString16Inplace
    simp only [hword.readWord, Option.getD_some, toInt_length, Int.toNat_natCast]
    rw [if_pos ⟨Int.natCast_nonneg _, s.2⟩, hbytes.readInplace rfl hlen hpad, Option.map_some,
      hunits]
  refine ⟨(p.skip 4).skip (Parcel.padSize ((s.1.length + 1) * 2)), ?_, (hbytes.skip hpad).2⟩
  unfold readString16
  rw [hread]
  rfl

/-- **The token of the same interface.** -/
theorem enforceInterface_ahead {p : BinderParcel R} {policy : Int32} {interface : String16}
    {items : List (Item R)} (h : p.Ahead (.int32 policy :: .string16 interface :: items)) :
    ∃ q, p.enforceInterface interface = (true, q) ∧ q.Ahead items := by
  obtain ⟨q, hword, hq⟩ := readInt32_ahead h
  obtain ⟨q', hstring, hq'⟩ := readString16_ahead hq
  refine ⟨q', ?_, hq'⟩
  unfold enforceInterface
  rw [hword, hstring, decide_eq_true rfl]

end BinderParcel

end CtpCommon
