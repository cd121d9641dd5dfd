import CtpCommon.Lib.StructLayout

/-!
# The boot header

`bootheader.h`: the struct at the front of a boot image, and what `pack.c` computes in it.

* `HeaderField`, `bootheader` — the fields in order with their sizes;
* `sizeof_bootheader`, `offset_cmdline`, `offset_bzImageSize`, `offset_initrdSize` — **PROVED**:
  the struct has the size the header file checks, and `CMDLINE_START` and `CMDLINE_END` are where
  the compiler puts the fields;
* `htole32`, `le32toh` — a `uint32_t` in an image, in little-endian order;
* `calculateChecksum` — **PROVED** in `xor_checksum`: stored in `xor`, it makes the first
  `HEADER_SIZE` bytes cancel.
-/

namespace CtpCommon.Mkbootimg

/-! ### The constants -/

def magicSize : ℕ := 7
def idSize : ℕ := 0x28
def headerSize : ℕ := magicSize + 0x1 + idSize + 0x4 + 0x4

def headPaddingSize : ℕ := 0x1c8
def unknownSize : ℕ := 0x1e0

def cmdlineStart : ℕ := 0x3E0
def cmdlineSize : ℕ := 0x400
def cmdlineEnd : ℕ := headerSize + headPaddingSize + unknownSize + cmdlineSize

def padding1Size : ℕ := 0xbf0
def bootstubStackSize : ℕ := 0x2000

def sectorSize : ℕ := 0x200

/-! ### The struct -/

inductive HeaderField where
  | magic
  | xor
  | id
  | sectors
  | imageType
  | headPadding
  | unknown
  | cmdline
  | bzImageSize
  | initrdSize
  | spiUartSuppression
  | spiType
  | padding1
  | bootstubStack
  deriving DecidableEq, Repr

/-- `struct bootheader`. -/
def bootheader : StructLayout HeaderField where
  fields := [.magic, .xor, .id, .sectors, .imageType, .headPadding, .unknown, .cmdline,
    .bzImageSize, .initrdSize, .spiUartSuppression, .spiType, .padding1, .bootstubStack]
  width
    | .magic => magicSize
    | .xor => 1
    | .id => idSize
    | .sectors => 4
    | .imageType => 4
    | .headPadding => headPaddingSize
    | .unknown => unknownSize
    | .cmdline => cmdlineSize
    | .bzImageSize => 4
    | .initrdSize => 4
    | .spiUartSuppression => 4
    | .spiType => 4
    | .padding1 => padding1Size
    | .bootstubStack => bootstubStackSize
  nodup := by decide
  mem_fields f := by cases f <;> decide

abbrev Bootheader := bootheader.Memory

/-- The check at the end of `bootheader.h`. -/
theorem sizeof_bootheader :
    bootheader.sizeof = headerSize + headPaddingSize + unknownSize + 0x3000 := rfl

theorem offset_cmdline : bootheader.offset .cmdline = cmdlineStart := rfl

theorem offset_bzImageSize : bootheader.offset .bzImageSize = cmdlineEnd := rfl

theorem offset_initrdSize : bootheader.offset .initrdSize = cmdlineEnd + 4 := rfl

/-! ### Numbers -/

/-- The value of a `uint32_t`. -/
def uint32 (n : ℕ) : ℕ := n % 4294967296

/-- The bytes of `htole32(n)`. -/
def htole32 (n : ℕ) : List UInt8 :=
  [UInt8.ofNat (n % 256), UInt8.ofNat (n / 256 % 256), UInt8.ofNat (n / 65536 % 256),
    UInt8.ofNat (n / 16777216 % 256)]

/-- `le32toh` of the four bytes of a `uint32_t`. -/
def le32toh : List UInt8 → ℕ
  | [a, b, c, d] => a.toNat + b.toNat * 256 + c.toNat * 65536 + d.toNat * 16777216
  | _ => 0

theorem toNat_ofNat_byte (n : ℕ) : (UInt8.ofNat (n % 256)).toNat = n % 256 := by
  rw [UInt8.toNat_ofNat']
  omega

theorem le32toh_htole32 (n : ℕ) : le32toh (htole32 n) = uint32 n := by
  show _ + _ * 256 + _ * 65536 + _ * 16777216 = n % 4294967296
  rw [toNat_ofNat_byte, toNat_ofNat_byte, toNat_ofNat_byte, toNat_ofNat_byte]
  omega

theorem ofNat_eq_byte {k : ℕ} {b : UInt8} (h : k = b.toNat) : UInt8.ofNat k = b := by
  rw [h, UInt8.ofNat_toNat]

theorem htole32_le32toh {bs : List UInt8} (h : bs.length = 4) : htole32 (le32toh bs) = bs := by
  obtain ⟨a, b, c, d, rfl⟩ := List.length_eq_four.mp h
  have ha := a.toNat_lt
  have hb := b.toNat_lt
  have hc := c.toNat_lt
  have hd := d.toNat_lt
  have hvalue : le32toh [a, b, c, d]
    = a.toNat + b.toNat * 256 + c.toNat * 65536 + d.toNat * 16777216 := rfl
  show [_, _, _, _] = [a, b, c, d]
  rw [ofNat_eq_byte (b := a), ofNat_eq_byte (b := b), ofNat_eq_byte (b := c),
    ofNat_eq_byte (b := d)]
  all_goals omega

/-! ### The checksum -/

/-- The exclusive or of some bytes. -/
def xorBytes (bs : List UInt8) : UInt8 := bs.foldl (fun sum b => sum ^^^ b) 0

/-- The byte `hdr->xor`. -/
def xorByte (hdr : Bootheader) : UInt8 := (hdr.field .xor).headD 0

/-- `calculate_checksum`. -/
def calculateChecksum (hdr : Bootheader) : UInt8 :=
  (hdr.bytes.take headerSize).foldl (fun sum b => sum ^^^ b) (xorByte hdr)

theorem foldl_xor (sum : UInt8) (bs : List UInt8) :
    bs.foldl (fun sum b => sum ^^^ b) sum = sum ^^^ xorBytes bs := by
  unfold xorBytes
  induction bs generalizing sum with
  | nil => exact UInt8.xor_zero.symm
  | cons b bs ih =>
    rw [List.foldl_cons, List.foldl_cons, ih, ih (0 ^^^ b), UInt8.zero_xor, UInt8.xor_assoc]

theorem xorBytes_append (bs cs : List UInt8) :
    xorBytes (bs ++ cs) = xorBytes bs ^^^ xorBytes cs := by
  unfold xorBytes
  rw [List.foldl_append]
  exact foldl_xor _ cs

theorem calculateChecksum_eq (hdr : Bootheader) :
    calculateChecksum hdr = xorByte hdr ^^^ xorBytes (hdr.bytes.take headerSize) :=
  foldl_xor _ _

theorem field_xor (hdr : Bootheader) : hdr.field .xor = [xorByte hdr] := by
  obtain ⟨b, hb⟩ := List.length_eq_one_iff.mp (hdr.length_field .xor)
  unfold xorByte
  rw [hb]
  rfl

/-- The checksum is over the fields beside `xor`. -/
theorem xorBytes_header (hdr : Bootheader) : xorBytes (hdr.bytes.take headerSize)
    = xorByte hdr ^^^ (xorBytes (hdr.field .magic) ^^^
        xorBytes ([HeaderField.id, .sectors, .imageType].flatMap hdr.field)) := by
  have hfields : bootheader.fields = [.magic, .xor, .id, .sectors, .imageType] ++
    [.headPadding, .unknown, .cmdline, .bzImageSize, .initrdSize, .spiUartSuppression, .spiType,
      .padding1, .bootstubStack] := rfl
  have htake := hdr.take_bytes hfields
  have hbytes : hdr.bytes.take headerSize = hdr.field .magic ++
      ([xorByte hdr] ++ [HeaderField.id, .sectors, .imageType].flatMap hdr.field) := by
    rw [← field_xor]
    exact htake
  have hbyte : xorBytes [xorByte hdr] = xorByte hdr := UInt8.zero_xor
  rw [hbytes, xorBytes_append, xorBytes_append, hbyte, ← UInt8.xor_assoc,
    UInt8.xor_comm (xorBytes _) (xorByte hdr), UInt8.xor_assoc]

theorem width_xor (b : UInt8) : [b].length = bootheader.width .xor := rfl

/-- **The checksum makes the header cancel.** -/
theorem xor_checksum (hdr : Bootheader) : xorBytes
    ((hdr.store .xor [calculateChecksum hdr] (width_xor _)).bytes.take headerSize) = 0 := by
  generalize hsealed : hdr.store .xor [calculateChecksum hdr] (width_xor _) = sealed
  have hbyte : xorByte sealed = calculateChecksum hdr := by
    unfold xorByte
    rw [← hsealed, StructLayout.Memory.store_self]
    rfl
  have hfield : ∀ f, f ≠ .xor → sealed.field f = hdr.field f := by
    intro f hf
    rw [← hsealed]
    exact hdr.store_ne _ (width_xor _) hf
  have hothers : [HeaderField.id, .sectors, .imageType].flatMap sealed.field
      = [HeaderField.id, .sectors, .imageType].flatMap hdr.field := by
    refine List.flatMap_congr fun f hf => hfield f ?_
    rintro rfl
    exact absurd hf (by decide)
  rw [xorBytes_header, hbyte, hothers, hfield .magic (by decide), calculateChecksum_eq,
    xorBytes_header, ← UInt8.xor_assoc (xorByte hdr), UInt8.xor_self, UInt8.zero_xor,
    UInt8.xor_self]

end CtpCommon.Mkbootimg
