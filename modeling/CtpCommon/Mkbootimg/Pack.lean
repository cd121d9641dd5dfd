import Mathlib.Order.Bounds.Basic
import CtpCommon.Lib.Stdio
import CtpCommon.Mkbootimg.Header

/-!
# Packing a boot image

`main` of `pack.c`, on a host where `long` holds every offset and the output file takes every
write.  The files are their bytes; the uninitialised locals are an argument, because `paddings` is
read on a branch that does not assign it.

* `imageSize` — the sizes `main` computes, in `uint32_t`;
* `patch` — the header of the base image with the fields `main` writes;
* `pack` — the output image, or how `main` fails;
* `pack_eq` — **PROVED**: the image is the patched header, the kernel, the ramdisk and the
  padding, unless the padding is larger than `buf`;
* `imageSize_padded`, `imageSize_aligned` — **PROVED**: what `paddings` is, when the image needs
  padding and when it does not;
* `patch_…` — **PROVED**: the fields of the new header.
-/

namespace CtpCommon.Mkbootimg

open Stdio (Buffer Failure copyAll)

/-! ### The program -/

/-- The C library.  A sector fits its `BUFSIZ`. -/
structure CLibrary where
  bufsiz : ℕ
  sector_le_bufsiz : sectorSize ≤ bufsiz

/-- The locals of `main` that are not initialised, with what the stack holds on entry. -/
structure Locals (C : CLibrary) where
  paddings : UInt32
  buf : Buffer C.bufsiz

/-- `fscanf(fcmdline, "%c", &file->cmdline[i])` for every `i`: at the end of the file the byte
stays as it is. -/
def scanCmdline : List UInt8 → List UInt8 → List UInt8
  | [], _ => []
  | old, [] => old
  | _ :: old, c :: file => c :: scanCmdline old file

theorem length_scanCmdline (old file : List UInt8) :
    (scanCmdline old file).length = old.length := by
  induction old generalizing file with
  | nil => rfl
  | cons b old ih =>
    cases file with
    | nil => rfl
    | cons c file => exact congrArg (· + 1) (ih file)

/-- `totalImageSize` and `paddings`. -/
structure ImageSize where
  total : ℕ
  paddings : ℕ

/-- The sizes of the image for a kernel and a ramdisk of these sizes. -/
def imageSize (slot : UInt32) (bzImage ramdisk : ℕ) : ImageSize :=
  let total := uint32 bzImage
  let total := uint32 (total + bootheader.sizeof)
  let total := uint32 (total + uint32 ramdisk)
  if total % sectorSize > 0 then
    let paddings := sectorSize - total % sectorSize
    ⟨uint32 (total + paddings), paddings⟩
  else ⟨total, slot.toNat⟩

theorem width_cmdline (hdr : Bootheader) (file : List UInt8) :
    (scanCmdline (hdr.field .cmdline) file).length = bootheader.width .cmdline := by
  rw [length_scanCmdline, hdr.length_field]

theorem width_bzImageSize (n : ℕ) : (htole32 n).length = bootheader.width .bzImageSize := rfl

theorem width_initrdSize (n : ℕ) : (htole32 n).length = bootheader.width .initrdSize := rfl

theorem width_sectors (n : ℕ) : (htole32 n).length = bootheader.width .sectors := rfl

/-- The assignments to the header, before the checksum. -/
def patchFields (file : Bootheader) (cmdline : List UInt8) (bzImage ramdisk total : ℕ) :
    Bootheader :=
  let file := file.store .cmdline (scanCmdline (file.field .cmdline) cmdline) (width_cmdline ..)
  let file := file.store .bzImageSize (htole32 (uint32 bzImage)) (width_bzImageSize _)
  let file := file.store .initrdSize (htole32 (uint32 ramdisk)) (width_initrdSize _)
  file.store .sectors (htole32 (uint32 (total / sectorSize + 4294967295))) (width_sectors _)

/-- `file->xor = calculate_checksum(file)` is the last assignment. -/
def patch (file : Bootheader) (cmdline : List UInt8) (bzImage ramdisk total : ℕ) : Bootheader :=
  let file := patchFields file cmdline bzImage ramdisk total
  file.store .xor [calculateChecksum file] (width_xor _)

/-- `fread(file, sizeof(struct bootheader), 1, forigin)`. -/
def readBootstub (origin : List UInt8) : Except Failure Bootheader :=
  if h : bootheader.sizeof ≤ origin.length then .ok (bootheader.load origin h)
  else .error (.error "ERROR reading bootstub\n")

/-- The bytes after the ramdisk. -/
def writePaddings {n : ℕ} (buf : Buffer n) (paddings : ℕ) (out : List UInt8) :
    Except Failure (List UInt8) := do
  if paddings ≠ 0 then
    let buf ← buf.memset 0xff paddings
    buf.fwrite paddings out
  else
    return out

/-- `main` of `pack.c`. -/
def pack {C : CLibrary} (entry : Locals C) (origin bzImage ramdisk cmdline : List UInt8) :
    Except Failure (List UInt8) := do
  let file ← readBootstub origin
  let size := imageSize entry.paddings bzImage.length ramdisk.length
  let file := patch file cmdline bzImage.length ramdisk.length size.total
  let (buf, out) ← copyAll entry.buf bzImage file.bytes
  let (buf, out) ← copyAll buf ramdisk out
  writePaddings buf size.paddings out

/-! ### The image -/

theorem writePaddings_eq {n : ℕ} (buf : Buffer n) (paddings : ℕ) (out : List UInt8) :
    writePaddings buf paddings out =
      if paddings ≤ n then .ok (out ++ List.replicate paddings 0xff) else .error .overrun := by
  unfold writePaddings
  by_cases hzero : paddings = 0
  · rw [if_neg (not_not.mpr hzero), if_pos (by omega), hzero, List.replicate_zero,
      List.append_nil]
    rfl
  · rw [if_pos hzero]
    by_cases hle : paddings ≤ n
    · rw [if_pos hle]
      exact buf.memset_fwrite 0xff hle out
    · rw [if_neg hle, buf.memset_overrun 0xff (by omega)]
      rfl

theorem CLibrary.bufsiz_pos (C : CLibrary) : 0 < C.bufsiz := by
  have hle := C.sector_le_bufsiz
  unfold sectorSize at hle
  omega

section

variable {C : CLibrary} (entry : Locals C) (origin bzImage ramdisk cmdline : List UInt8)

/-- A base image that is too short is refused. -/
theorem pack_short (h : origin.length < bootheader.sizeof) :
    pack entry origin bzImage ramdisk cmdline
      = .error (.error "ERROR reading bootstub\n") := by
  unfold pack readBootstub
  rw [dif_neg (Nat.not_le.mpr h)]
  rfl

/-- **The image**: header, kernel, ramdisk and padding, one after another. -/
theorem pack_eq (h : bootheader.sizeof ≤ origin.length) {total paddings : ℕ}
    (hsize : imageSize entry.paddings bzImage.length ramdisk.length = ⟨total, paddings⟩) :
    pack entry origin bzImage ramdisk cmdline =
      if paddings ≤ C.bufsiz then
        .ok ((patch (bootheader.load origin h) cmdline bzImage.length ramdisk.length
          total).bytes ++ bzImage ++ ramdisk ++ List.replicate paddings 0xff)
      else .error .overrun := by
  have hpos := C.bufsiz_pos
  obtain ⟨buf, hkernel⟩ := Stdio.copyAll_spec hpos entry.buf bzImage
    (patch (bootheader.load origin h) cmdline bzImage.length ramdisk.length total).bytes
  obtain ⟨buf', hramdisk⟩ := Stdio.copyAll_spec hpos buf ramdisk
    ((patch (bootheader.load origin h) cmdline bzImage.length ramdisk.length total).bytes
      ++ bzImage)
  have hread : readBootstub origin = .ok (bootheader.load origin h) := dif_pos h
  unfold pack
  rw [hread, hsize]
  show (copyAll entry.buf bzImage _ >>= _) = _
  rw [hkernel]
  show (copyAll buf ramdisk _ >>= _) = _
  rw [hramdisk]
  exact writePaddings_eq buf' paddings _

end

/-! ### The sizes -/

/-- The bytes before the padding. -/
def payloadEnd (bzImage ramdisk : ℕ) : ℕ := bootheader.sizeof + bzImage + ramdisk

/-- A size rounded up to whole sectors. -/
def roundUp (n : ℕ) : ℕ := n + (sectorSize - n % sectorSize) % sectorSize

/-- **The least multiple of a sector that is large enough.** -/
theorem roundUp_isLeast (n : ℕ) : IsLeast {m | sectorSize ∣ m ∧ n ≤ m} (roundUp n) := by
  unfold roundUp sectorSize
  refine ⟨⟨?_, ?_⟩, ?_⟩
  · omega
  · omega
  · intro m hm
    obtain ⟨hdvd, hle⟩ := hm
    omega

theorem le_roundUp (n : ℕ) : n ≤ roundUp n := Nat.le_add_right ..

theorem roundUp_aligned {n : ℕ} (h : n % sectorSize = 0) : roundUp n = n := by
  unfold roundUp
  rw [h]
  exact Nat.add_zero n

theorem roundUp_padded {n : ℕ} (h : n % sectorSize ≠ 0) :
    roundUp n = n + (sectorSize - n % sectorSize) := by
  unfold roundUp sectorSize at *
  omega

section

variable {slot : UInt32} {bzImage ramdisk : ℕ}

/-- The sums of `uint32_t` do not wrap. -/
theorem uint32_payloadEnd (hsmall : roundUp (payloadEnd bzImage ramdisk) < 4294967296) :
    uint32 (uint32 (uint32 bzImage + bootheader.sizeof) + uint32 ramdisk)
      = payloadEnd bzImage ramdisk := by
  unfold roundUp payloadEnd at hsmall
  unfold uint32 payloadEnd
  omega

/-- An image that needs padding. -/
theorem imageSize_padded (hsmall : roundUp (payloadEnd bzImage ramdisk) < 4294967296)
    (h : payloadEnd bzImage ramdisk % sectorSize ≠ 0) :
    imageSize slot bzImage ramdisk = ⟨roundUp (payloadEnd bzImage ramdisk),
      sectorSize - payloadEnd bzImage ramdisk % sectorSize⟩ := by
  unfold imageSize
  simp only [uint32_payloadEnd hsmall]
  rw [if_pos (Nat.pos_of_ne_zero h)]
  rw [← roundUp_padded h]
  have htotal : uint32 (roundUp (payloadEnd bzImage ramdisk))
      = roundUp (payloadEnd bzImage ramdisk) := Nat.mod_eq_of_lt hsmall
  rw [htotal]

/-- An image that needs none: `paddings` is what the stack held. -/
theorem imageSize_aligned (hsmall : roundUp (payloadEnd bzImage ramdisk) < 4294967296)
    (h : payloadEnd bzImage ramdisk % sectorSize = 0) :
    imageSize slot bzImage ramdisk
      = ⟨roundUp (payloadEnd bzImage ramdisk), slot.toNat⟩ := by
  unfold imageSize
  simp only [uint32_payloadEnd hsmall]
  rw [if_neg (by omega), roundUp_aligned h]

end

/-! ### The new header -/

section

variable (file : Bootheader) (cmdline : List UInt8) (bzImage ramdisk total : ℕ)

theorem patch_cmdline : (patch file cmdline bzImage ramdisk total).field .cmdline
    = scanCmdline (file.field .cmdline) cmdline := by
  simp [patch, patchFields]

theorem patch_bzImageSize : (patch file cmdline bzImage ramdisk total).field .bzImageSize
    = htole32 (uint32 bzImage) := by
  simp [patch, patchFields]

theorem patch_initrdSize : (patch file cmdline bzImage ramdisk total).field .initrdSize
    = htole32 (uint32 ramdisk) := by
  simp [patch, patchFields]

theorem patch_sectors : (patch file cmdline bzImage ramdisk total).field .sectors
    = htole32 (uint32 (total / sectorSize + 4294967295)) := by
  simp [patch, patchFields]

/-- **The new header cancels**, whatever the base image held. -/
theorem patch_xor :
    xorBytes ((patch file cmdline bzImage ramdisk total).bytes.take headerSize) = 0 :=
  xor_checksum _

end

end CtpCommon.Mkbootimg
