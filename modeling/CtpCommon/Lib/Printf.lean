import Mathlib.Algebra.BigOperators.Group.List.Basic
import Mathlib.Algebra.Ring.Nat
import Mathlib.Data.List.TakeWhile

/-!
# What `sprintf` makes of a format

A format is text and conversions; here each conversion stands together with its argument.

* `Conv` — the conversions, with the bytes they print and how many these are;
* `printed` — the bytes of a whole format;
* `length_printed` — **PROVED**: they are as long as the widths of the conversions together.

The texts are ASCII, and an `int` has 32 bits.
-/

namespace CtpCommon

/-- The bytes of a text without characters beyond ASCII. -/
def bytesOf (s : String) : List UInt8 := s.toList.map fun c => UInt8.ofNat c.toNat

theorem length_bytesOf (s : String) : (bytesOf s).length = s.length := by
  unfold bytesOf
  rw [List.length_map, String.length_toList]

/-- A piece of a format, with its argument. -/
inductive Conv where
  /-- Text that is copied. -/
  | text (s : String)
  /-- `%d`. -/
  | dec (v : Int)
  /-- `%04d`, with any width. -/
  | dec0 (width : ℕ) (v : Int)
  /-- `%X`. -/
  | hex (v : Int)
  /-- `%08x`, with any width. -/
  | hex0 (width : ℕ) (v : Int)
  /-- `%s`, `none` being a null pointer. -/
  | str (chars : Option (List UInt8))
  deriving Repr

namespace Conv

/-- The digits of an `int` read as unsigned. -/
def hexDigits (v : Int) : List Char := Nat.toDigits 16 (v % 4294967296).toNat

/-- Zeros up to a width, behind the sign. -/
def padded (width : ℕ) (sign digits : List UInt8) : List UInt8 :=
  sign ++ (List.replicate (width - (sign.length + digits.length)) 48 ++ digits)

/-- What is printed.  A string ends at its NUL, and a null pointer is printed too. -/
def bytes : Conv → List UInt8
  | text s => bytesOf s
  | dec v => bytesOf (toString v)
  | dec0 width v => padded width (if v < 0 then [45] else []) (bytesOf (toString v.natAbs))
  | hex v => (hexDigits v).map fun c => UInt8.ofNat c.toUpper.toNat
  | hex0 width v => padded width [] ((hexDigits v).map fun c => UInt8.ofNat c.toNat)
  | str (some chars) => chars.takeWhile (· ≠ 0)
  | str none => bytesOf "(null)"

/-- How many bytes that are. -/
def width : Conv → ℕ
  | text s => s.length
  | dec v => (toString v).length
  | dec0 width v => max width ((if v < 0 then 1 else 0) + (toString v.natAbs).length)
  | hex v => (hexDigits v).length
  | hex0 width v => max width (hexDigits v).length
  | str (some chars) => (chars.takeWhile (· ≠ 0)).length
  | str none => 6

/-- What of it belongs to the format itself. -/
def textWidth : Conv → ℕ
  | text s => s.length
  | _ => 0

/-- What of it belongs to the argument. -/
def argWidth : Conv → ℕ
  | text _ => 0
  | c => c.width

theorem width_eq (c : Conv) : c.width = c.textWidth + c.argWidth := by
  cases c with
  | text s => rfl
  | _ => exact (Nat.zero_add _).symm

theorem length_padded (width : ℕ) (sign digits : List UInt8) :
    (padded width sign digits).length = max width (sign.length + digits.length) := by
  unfold padded
  rw [List.length_append, List.length_append, List.length_replicate]
  omega

theorem length_bytes (c : Conv) : c.bytes.length = c.width := by
  cases c with
  | text s => exact length_bytesOf s
  | dec v => exact length_bytesOf _
  | dec0 width v =>
    simp only [bytes, Conv.width, length_padded, length_bytesOf]
    split <;> rfl
  | hex v => exact List.length_map _
  | hex0 width v =>
    simp only [bytes, Conv.width, length_padded, List.length_map, List.length_nil, Nat.zero_add]
  | str chars => cases chars <;> rfl

end Conv

/-- The bytes of a format. -/
def printed (cs : List Conv) : List UInt8 := cs.flatMap Conv.bytes

/-- How many bytes a format prints. -/
def printedWidth (cs : List Conv) : ℕ := (cs.map Conv.width).sum

theorem length_printed (cs : List Conv) : (printed cs).length = printedWidth cs := by
  unfold printed printedWidth
  rw [List.length_flatMap]
  exact congrArg List.sum (List.map_congr_left fun c _ => c.length_bytes)

/-- The format's own characters, and those of the arguments. -/
theorem printedWidth_eq (cs : List Conv) :
    printedWidth cs = (cs.map Conv.textWidth).sum + (cs.map Conv.argWidth).sum := by
  unfold printedWidth
  induction cs with
  | nil => rfl
  | cons c cs ih =>
    rw [List.map_cons, List.map_cons, List.map_cons, List.sum_cons, List.sum_cons, List.sum_cons,
      ih, c.width_eq]
    omega

example : printed [.text "[", .dec0 4 7, .text "]< ", .hex (-1), .text " ", .str none]
    = bytesOf "[0007]< FFFFFFFF (null)" := by decide

end CtpCommon
