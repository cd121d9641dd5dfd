import CtpCommon.Mkbootimg.Unpack

/-!
# Boot images

What the two programs are for: an image the boot loader accepts.

* `BootImage` — a header, a kernel and a ramdisk that agree with one another; its bytes are these
  three and padding up to whole sectors;
* `WellFormed` — the same of a file, read at the offsets of the header;
* `wellFormed_iff` — **PROVED**: the well-formed files are the bytes of the boot images;
* `packed` — the image for some inputs, and `stray`, the bytes `pack` writes after it: none if the
  image needed padding, as many as the stack says if it did not;
* `pack_eq_packed` — **PROVED**: `pack` writes the image and the stray bytes, unless these are
  more than `buf` holds;
* `unpack_bytes` — **PROVED**: `unpack` takes the parts of an image, whatever follows it;
* `packed_self` — **PROVED**: the image for its own parts is the image.
-/

namespace CtpCommon.Mkbootimg

open Stdio (Buffer Failure)

/-! ### Images -/

/-- A header with the payloads it describes. -/
@[ext] structure BootImage where
  header : Bootheader
  bzImage : List UInt8
  ramdisk : List UInt8
  small : roundUp (payloadEnd bzImage.length ramdisk.length) < 4294967296
  bzImageSize_eq : le32toh (header.field .bzImageSize) = bzImage.length
  initrdSize_eq : le32toh (header.field .initrdSize) = ramdisk.length
  sectors_eq : le32toh (header.field .sectors)
    = roundUp (payloadEnd bzImage.length ramdisk.length) / sectorSize - 1
  cancels : xorBytes (header.bytes.take headerSize) = 0

namespace BootImage

/-- The bytes before the padding. -/
def payload (b : BootImage) : List UInt8 := b.header.bytes ++ b.bzImage ++ b.ramdisk

def payloadEnd (b : BootImage) : ℕ := Mkbootimg.payloadEnd b.bzImage.length b.ramdisk.length

def padding (b : BootImage) : List UInt8 :=
  List.replicate (roundUp b.payloadEnd - b.payloadEnd) 0xff

def bytes (b : BootImage) : List UInt8 := b.payload ++ b.padding

theorem length_payload (b : BootImage) : b.payload.length = b.payloadEnd := by
  unfold payload
  rw [List.length_append, List.length_append, b.header.length_bytes]
  rfl

theorem length_bytes (b : BootImage) : b.bytes.length = roundUp b.payloadEnd := by
  have hle := le_roundUp b.payloadEnd
  unfold bytes padding
  rw [List.length_append, b.length_payload, List.length_replicate]
  omega

/-- The image begins with its header. -/
theorem bytes_eq (b : BootImage) (tail : List UInt8) :
    b.bytes ++ tail = b.header.bytes ++ (b.bzImage ++ (b.ramdisk ++ (b.padding ++ tail))) := by
  unfold bytes payload
  rw [List.append_assoc, List.append_assoc, List.append_assoc]

theorem sizeof_le (b : BootImage) (tail : List UInt8) :
    bootheader.sizeof ≤ (b.bytes ++ tail).length := by
  rw [b.bytes_eq, List.length_append, b.header.length_bytes]
  omega

theorem load_bytes (b : BootImage) (tail : List UInt8) (h : bootheader.sizeof ≤
    (b.bytes ++ tail).length) : bootheader.load (b.bytes ++ tail) h = b.header := by
  ext1
  funext f
  show ((b.bytes ++ tail).drop _).take _ = _
  rw [b.bytes_eq]
  exact b.header.field_bytes f _

theorem load_self (b : BootImage) (h : bootheader.sizeof ≤ b.bytes.length) :
    bootheader.load b.bytes h = b.header := by
  have hload := b.load_bytes []
  simp only [List.append_nil] at hload
  exact hload h

/-- **`unpack` takes the parts of an image**, whatever follows it. -/
theorem unpack_bytes {C : CLibrary} (buf : Buffer C.bufsiz) (b : BootImage)
    (tail : List UInt8) :
    unpack buf (b.bytes ++ tail) = .ok
      { bzImage := b.bzImage, ramdisk := b.ramdisk, cmdline := b.header.field .cmdline } := by
  have hload := b.load_bytes tail (b.sizeof_le tail)
  have hbzImage : le32toh ((bootheader.load _ (b.sizeof_le tail)).field .bzImageSize)
      = b.bzImage.length := by
    rw [hload]
    exact b.bzImageSize_eq
  have hramdisk : le32toh ((bootheader.load _ (b.sizeof_le tail)).field .initrdSize)
      = b.ramdisk.length := by
    rw [hload]
    exact b.initrdSize_eq
  have hlen : Mkbootimg.payloadEnd b.bzImage.length b.ramdisk.length
      ≤ (b.bytes ++ tail).length := by
    have hle := le_roundUp b.payloadEnd
    rw [List.length_append, b.length_bytes]
    exact Nat.le_trans hle (Nat.le_add_right ..)
  have hdrop : (b.bytes ++ tail).drop bootheader.sizeof
      = b.bzImage ++ (b.ramdisk ++ (b.padding ++ tail)) := by
    rw [b.bytes_eq, ← b.header.length_bytes, List.drop_left]
  rw [unpack_eq (b.sizeof_le tail) hbzImage hramdisk buf hlen, hload, ← List.drop_drop, hdrop,
    List.take_left, List.drop_left, List.take_left]

end BootImage

/-! ### Well-formed files -/

/-- A `uint32_t` of the header, read in a file. -/
def headerWord (image : List UInt8) (f : HeaderField) : ℕ :=
  le32toh ((image.drop (bootheader.offset f)).take 4)

/-- The end of the ramdisk in a file. -/
def imageEnd (image : List UInt8) : ℕ :=
  payloadEnd (headerWord image .bzImageSize) (headerWord image .initrdSize)

/-- A file that is a boot image. -/
structure WellFormed (image : List UInt8) : Prop where
  length_eq : image.length = roundUp (imageEnd image)
  small : image.length < 4294967296
  padding : ∀ byte ∈ image.drop (imageEnd image), byte = 0xff
  sectors : headerWord image .sectors = image.length / sectorSize - 1
  cancels : xorBytes (image.take headerSize) = 0

theorem BootImage.headerWord_bytes (b : BootImage) {f : HeaderField}
    (hf : bootheader.width f = 4) (tail : List UInt8) :
    headerWord (b.bytes ++ tail) f = le32toh (b.header.field f) := by
  unfold headerWord
  rw [b.bytes_eq, ← b.header.field_bytes f _, hf]

theorem BootImage.imageEnd_bytes (b : BootImage) (tail : List UInt8) :
    imageEnd (b.bytes ++ tail) = b.payloadEnd := by
  unfold imageEnd
  rw [b.headerWord_bytes rfl, b.headerWord_bytes rfl, b.bzImageSize_eq, b.initrdSize_eq]
  rfl

/-- An image is whole sectors, at least one. -/
theorem BootImage.sectors_mul (b : BootImage) :
    (b.bytes.length / sectorSize - 1 + 1) * sectorSize = b.bytes.length := by
  obtain ⟨⟨hdvd, -⟩, -⟩ := roundUp_isLeast b.payloadEnd
  have hsizeof : bootheader.sizeof = 13280 := rfl
  have hle := b.sizeof_le []
  rw [List.append_nil, b.length_bytes] at hle
  rw [b.length_bytes]
  unfold sectorSize at *
  omega

theorem BootImage.imageEnd_self (b : BootImage) : imageEnd b.bytes = b.payloadEnd := by
  have hend := b.imageEnd_bytes []
  rw [List.append_nil] at hend
  exact hend

/-- The bytes of a boot image are well formed. -/
theorem BootImage.wellFormed (b : BootImage) : WellFormed b.bytes := by
  have hend := b.imageEnd_self
  have hsectors := b.headerWord_bytes (f := .sectors) rfl []
  rw [List.append_nil] at hsectors
  refine ⟨?_, ?_, ?_, ?_, ?_⟩
  · rw [hend, b.length_bytes]
  · rw [b.length_bytes]
    exact b.small
  · intro byte hbyte
    rw [hend, ← b.length_payload, bytes, List.drop_left] at hbyte
    exact List.eq_of_mem_replicate hbyte
  · rw [hsectors, b.sectors_eq, b.length_bytes]
    rfl
  · have hheader : headerSize ≤ b.header.bytes.length := by
      rw [b.header.length_bytes]
      decide
    have hbytes := b.bytes_eq []
    rw [List.append_nil] at hbytes
    rw [hbytes, List.take_append_of_le_length hheader]
    exact b.cancels

section

variable {image : List UInt8} (h : WellFormed image)
include h

theorem WellFormed.imageEnd_le : imageEnd image ≤ image.length := by
  rw [h.length_eq]
  exact le_roundUp _

theorem WellFormed.sizeof_le : bootheader.sizeof ≤ image.length := by
  have hle := h.imageEnd_le
  unfold imageEnd payloadEnd at hle
  omega

theorem WellFormed.length_bzImage :
    ((image.drop bootheader.sizeof).take (headerWord image .bzImageSize)).length
      = headerWord image .bzImageSize := by
  have hle := h.imageEnd_le
  unfold imageEnd payloadEnd at hle
  rw [List.length_take, List.length_drop]
  omega

theorem WellFormed.length_ramdisk :
    ((image.drop (bootheader.sizeof + headerWord image .bzImageSize)).take
      (headerWord image .initrdSize)).length = headerWord image .initrdSize := by
  have hle := h.imageEnd_le
  unfold imageEnd payloadEnd at hle
  rw [List.length_take, List.length_drop]
  omega

/-- The parts of a well-formed file. -/
def WellFormed.parts : BootImage where
  header := bootheader.load image h.sizeof_le
  bzImage := (image.drop bootheader.sizeof).take (headerWord image .bzImageSize)
  ramdisk := (image.drop (bootheader.sizeof + headerWord image .bzImageSize)).take
    (headerWord image .initrdSize)
  small := by
    rw [h.length_bzImage, h.length_ramdisk]
    exact lt_of_eq_of_lt h.length_eq.symm h.small
  bzImageSize_eq := h.length_bzImage.symm
  initrdSize_eq := h.length_ramdisk.symm
  sectors_eq := by
    rw [h.length_bzImage, h.length_ramdisk]
    exact h.sectors.trans (by rw [h.length_eq]; rfl)
  cancels := by
    have hheader : headerSize ≤ bootheader.sizeof := by decide
    rw [StructLayout.bytes_load, List.take_take, Nat.min_eq_left hheader]
    exact h.cancels

theorem WellFormed.payloadEnd_parts : h.parts.payloadEnd = imageEnd image := by
  have hbzImage : h.parts.bzImage.length = headerWord image .bzImageSize := h.length_bzImage
  have hramdisk : h.parts.ramdisk.length = headerWord image .initrdSize := h.length_ramdisk
  unfold BootImage.payloadEnd imageEnd
  rw [hbzImage, hramdisk]

/-- A well-formed file is its parts. -/
theorem WellFormed.bytes_parts : h.parts.bytes = image := by
  have hpayload : h.parts.payload = image.take (imageEnd image) := by
    show (bootheader.load image h.sizeof_le).bytes ++ List.take _ _ ++ List.take _ _ = _
    rw [StructLayout.bytes_load, ← List.take_add, ← List.take_add]
    rfl
  have hpadding : h.parts.padding = image.drop (imageEnd image) := by
    unfold BootImage.padding
    rw [h.payloadEnd_parts, ← h.length_eq]
    refine (List.eq_replicate_iff.mpr ⟨?_, h.padding⟩).symm
    exact List.length_drop
  unfold BootImage.bytes
  rw [hpayload, hpadding, List.take_append_drop]

end

/-- **The well-formed files are the bytes of the boot images.** -/
theorem wellFormed_iff {image : List UInt8} :
    WellFormed image ↔ ∃ b : BootImage, b.bytes = image := by
  constructor
  · intro h
    exact ⟨h.parts, h.bytes_parts⟩
  · rintro ⟨b, rfl⟩
    exact b.wellFormed

/-! ### What `pack` writes -/

theorem scanCmdline_eq (old file : List UInt8) :
    scanCmdline old file = file.take old.length ++ old.drop file.length := by
  induction old generalizing file with
  | nil =>
    cases file with
    | nil => rfl
    | cons c file => rfl
  | cons b old ih =>
    cases file with
    | nil => rfl
    | cons c file => exact congrArg (c :: ·) (ih file)

/-- The sizes of an image fit a `uint32_t`. -/
theorem uint32_sizes {bzImage ramdisk : ℕ}
    (hsmall : roundUp (payloadEnd bzImage ramdisk) < 4294967296) :
    uint32 bzImage = bzImage ∧ uint32 ramdisk = ramdisk ∧
      uint32 (roundUp (payloadEnd bzImage ramdisk) / sectorSize + 4294967295)
        = roundUp (payloadEnd bzImage ramdisk) / sectorSize - 1 := by
  have hsizeof : bootheader.sizeof = 13280 := rfl
  unfold roundUp payloadEnd sectorSize uint32 at *
  omega

theorem le32toh_htole32_small {n : ℕ} (h : uint32 n = n) : le32toh (htole32 (uint32 n)) = n := by
  rw [h, le32toh_htole32, h]

/-- The image for some files. -/
def packed (file : Bootheader) (bzImage ramdisk cmdline : List UInt8)
    (hsmall : roundUp (payloadEnd bzImage.length ramdisk.length) < 4294967296) : BootImage where
  header := patch file cmdline bzImage.length ramdisk.length
    (roundUp (payloadEnd bzImage.length ramdisk.length))
  bzImage := bzImage
  ramdisk := ramdisk
  small := hsmall
  bzImageSize_eq := by
    rw [patch_bzImageSize]
    exact le32toh_htole32_small (uint32_sizes hsmall).1
  initrdSize_eq := by
    rw [patch_initrdSize]
    exact le32toh_htole32_small (uint32_sizes hsmall).2.1
  sectors_eq := by
    obtain ⟨-, -, hsectors⟩ := uint32_sizes hsmall
    rw [patch_sectors, le32toh_htole32]
    exact (Nat.mod_mod _ _).trans hsectors
  cancels := patch_xor ..

theorem packed_cmdline (file : Bootheader) (bzImage ramdisk cmdline : List UInt8)
    (hsmall : roundUp (payloadEnd bzImage.length ramdisk.length) < 4294967296) :
    (packed file bzImage ramdisk cmdline hsmall).header.field .cmdline
      = scanCmdline (file.field .cmdline) cmdline := patch_cmdline ..

theorem padding_packed (file : Bootheader) (bzImage ramdisk cmdline : List UInt8)
    (hsmall : roundUp (payloadEnd bzImage.length ramdisk.length) < 4294967296) :
    (packed file bzImage ramdisk cmdline hsmall).padding
      = List.replicate (roundUp (payloadEnd bzImage.length ramdisk.length)
          - payloadEnd bzImage.length ramdisk.length) 0xff := rfl

/-- What `pack` writes after the image: when it needed no padding, `paddings` is what the stack
held. -/
def stray {C : CLibrary} (entry : Locals C) (bzImage ramdisk : List UInt8) : List UInt8 :=
  if payloadEnd bzImage.length ramdisk.length % sectorSize = 0 then
    List.replicate entry.paddings.toNat 0xff
  else []

/-- **`pack` writes the image and the stray bytes**, unless these are more than `buf` holds. -/
theorem pack_eq_packed {C : CLibrary} (entry : Locals C) {origin : List UInt8}
    (horigin : bootheader.sizeof ≤ origin.length) {bzImage ramdisk : List UInt8}
    (hsmall : roundUp (payloadEnd bzImage.length ramdisk.length) < 4294967296)
    (cmdline : List UInt8) :
    pack entry origin bzImage ramdisk cmdline =
      if (stray entry bzImage ramdisk).length ≤ C.bufsiz then
        .ok ((packed (bootheader.load origin horigin) bzImage ramdisk cmdline hsmall).bytes
          ++ stray entry bzImage ramdisk)
      else .error .overrun := by
  by_cases haligned : payloadEnd bzImage.length ramdisk.length % sectorSize = 0
  · have hstray : stray entry bzImage ramdisk = List.replicate entry.paddings.toNat 0xff :=
      if_pos haligned
    have hpadding : (packed (bootheader.load origin horigin) bzImage ramdisk cmdline
        hsmall).padding = [] := by
      rw [padding_packed, roundUp_aligned haligned, Nat.sub_self]
      rfl
    rw [pack_eq entry origin bzImage ramdisk cmdline horigin
      (imageSize_aligned hsmall haligned), hstray, List.length_replicate]
    unfold BootImage.bytes
    rw [hpadding, List.append_nil]
    rfl
  · have hstray : stray entry bzImage ramdisk = [] := if_neg haligned
    have hpadding : (packed (bootheader.load origin horigin) bzImage ramdisk cmdline
        hsmall).padding = List.replicate
          (sectorSize - payloadEnd bzImage.length ramdisk.length % sectorSize) 0xff := by
      rw [padding_packed, roundUp_padded haligned, Nat.add_sub_cancel_left]
    have hle := C.sector_le_bufsiz
    rw [pack_eq entry origin bzImage ramdisk cmdline horigin
      (imageSize_padded hsmall haligned), hstray, List.append_nil, if_pos (by omega),
      List.length_nil, if_pos (Nat.zero_le _)]
    unfold BootImage.bytes
    rw [hpadding]
    rfl

/-- A size the header holds already. -/
theorem htole32_held {b : Bootheader} {f : HeaderField} (hf : bootheader.width f = 4) {n : ℕ}
    (h : le32toh (b.field f) = uint32 n) : b.field f = htole32 (uint32 n) := by
  rw [← h]
  exact (htole32_le32toh ((b.length_field f).trans hf)).symm

/-- **The image for its own parts** is the image. -/
theorem packed_self (b : BootImage) :
    packed b.header b.bzImage b.ramdisk (b.header.field .cmdline) b.small = b := by
  obtain ⟨hbzImage, hramdisk, hsectors⟩ := uint32_sizes b.small
  have hcmdline : b.header.field .cmdline
      = scanCmdline (b.header.field .cmdline) (b.header.field .cmdline) := by
    rw [scanCmdline_eq, List.take_length, List.drop_length, List.append_nil]
  have hfields : patchFields b.header (b.header.field .cmdline) b.bzImage.length
      b.ramdisk.length (roundUp (payloadEnd b.bzImage.length b.ramdisk.length)) = b.header := by
    unfold patchFields
    dsimp only
    rw [b.header.store_same _ hcmdline,
      b.header.store_same _ (htole32_held rfl (b.bzImageSize_eq.trans hbzImage.symm)),
      b.header.store_same _ (htole32_held rfl (b.initrdSize_eq.trans hramdisk.symm)),
      b.header.store_same _ (htole32_held rfl (b.sectors_eq.trans hsectors.symm))]
  have hheader : patch b.header (b.header.field .cmdline) b.bzImage.length b.ramdisk.length
      (roundUp (payloadEnd b.bzImage.length b.ramdisk.length)) = b.header := by
    unfold patch
    rw [hfields]
    refine b.header.store_same _ ?_
    rw [calculateChecksum_eq, b.cancels, UInt8.xor_zero]
    exact field_xor b.header
  exact BootImage.ext hheader rfl rfl

end CtpCommon.Mkbootimg
