import Mathlib.Data.List.Basic
import Mathlib.Data.List.Infix

/-!
# Packets with a length prefix

A packet is sent as its length, in a code of fixed width, and its bytes.  The receiver reads the
length, then as many bytes, and starts again.

* `LengthCode` — such a code, with its bound and its inverse below the bound;
* `LengthCode.packet`, `LengthCode.split` — one packet as it is sent, and the receiver;
* `LengthCode.split_packets` — **PROVED**: the receiver recovers the packets in order, also when
  an incomplete packet follows them.

Nothing here is specific to a program.
-/

namespace CtpCommon

/-- A code of the lengths up to `bound` in `width` bytes. -/
structure LengthCode where
  width : ℕ
  bound : ℕ
  encode : ℕ → List UInt8
  decode : List UInt8 → ℕ
  width_pos : 0 < width
  length_encode : ∀ n, (encode n).length = width
  decode_encode : ∀ n ≤ bound, decode (encode n) = n

namespace LengthCode

variable (C : LengthCode)

def packet (data : List UInt8) : List UInt8 := C.encode data.length ++ data

/-- The complete packets at the front of a stream. -/
def split (stream : List UInt8) : List (List UInt8) :=
  if stream.length < C.width then []
  else
    let n := C.decode (stream.take C.width)
    if stream.length < C.width + n then []
    else
      (stream.drop C.width).take n :: split (stream.drop (C.width + n))
termination_by stream.length
decreasing_by
  have := C.width_pos
  rw [List.length_drop]
  omega

theorem length_packet (data : List UInt8) : (C.packet data).length = C.width + data.length := by
  rw [packet, List.length_append, C.length_encode]

variable {C}

/-- The length at the front of a stream. -/
theorem take_width {data rest : List UInt8} (h : data.length ≤ C.bound) :
    C.decode ((C.packet data ++ rest).take C.width) = data.length := by
  rw [packet, List.append_assoc, ← C.length_encode data.length, List.take_left]
  exact C.decode_encode _ h

/-- **One packet is read off the front.** -/
theorem split_packet {data : List UInt8} (h : data.length ≤ C.bound) (rest : List UInt8) :
    C.split (C.packet data ++ rest) = data :: C.split rest := by
  have hlen : (C.packet data ++ rest).length = C.width + data.length + rest.length := by
    rw [List.length_append, C.length_packet]
  rw [split, if_neg (by omega)]
  simp only [take_width h]
  rw [if_neg (by omega)]
  have hdrop : (C.packet data ++ rest).drop (C.width + data.length) = rest := by
    rw [← C.length_packet data, List.drop_left]
  have hdata : ((C.packet data ++ rest).drop C.width).take data.length = data := by
    rw [packet, List.append_assoc, ← C.length_encode data.length, List.drop_left, List.take_left]
  rw [hdrop, hdata]

/-- Nothing is read off an incomplete packet. -/
theorem split_incomplete {data written : List UInt8} (h : data.length ≤ C.bound)
    (hfront : written <+: C.packet data) (hne : written ≠ C.packet data) :
    C.split written = [] := by
  obtain ⟨rest, hrest⟩ := hfront
  have hlen : written.length + rest.length = C.width + data.length := by
    rw [← List.length_append, hrest, C.length_packet]
  have hpos : 0 < rest.length := by
    rw [List.length_pos_iff]
    rintro rfl
    exact hne (by rw [← hrest, List.append_nil])
  rw [split]
  by_cases hshort : written.length < C.width
  · rw [if_pos hshort]
  · have htake : written.take C.width = (C.packet data ++ []).take C.width := by
      rw [← hrest, List.append_nil, List.take_append_of_le_length (by omega)]
    rw [if_neg hshort]
    simp only [htake, take_width h]
    rw [if_pos (by omega)]

/-- **The receiver recovers the packets**, whatever part of the next one has been sent. -/
theorem split_packets {datas : List (List UInt8)} (h : ∀ data ∈ datas, data.length ≤ C.bound)
    {rest : List UInt8} (hrest : C.split rest = []) :
    C.split (datas.flatMap C.packet ++ rest) = datas := by
  induction datas with
  | nil => exact hrest
  | cons data datas ih =>
    rw [List.flatMap_cons, List.append_assoc, split_packet (h data (List.mem_cons_self ..)),
      ih fun d hd => h d (List.mem_cons_of_mem _ hd)]

theorem split_nil : C.split [] = [] := by
  rw [split]
  exact if_pos C.width_pos

end LengthCode

end CtpCommon
