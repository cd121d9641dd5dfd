import CtpCommon.Mkbootimg.Image

/-!
# Packing and unpacking

When `pack` and `unpack` are inverse, and what `pack` leaves on the disk.  `pack` assigns `paddings`
only if the image needs padding; otherwise it writes as many bytes `0xff` as the stack says, or
overruns `buf`.

* `RoundTrips`, `roundTrips_iff` — **PROVED**: unpacking a packed image gives the kernel, the
  ramdisk and the command line back, unless the image needs no padding and the stack slot is
  larger than `BUFSIZ`;
* `Repacks`, `repacks_iff` — **PROVED**: packing the parts of a well-formed image gives the image,
  unless it needs no padding and the stack slot is not `0`;
* `HasGeometry`, `hasGeometry_iff` — **PROVED**: the image has the whole sectors its header says,
  no more than it needs, with `0xff` after the ramdisk, under the same condition.
-/

namespace CtpCommon.Mkbootimg

open Stdio (Buffer Failure)

variable {C C' : CLibrary}

/-! ### The stray bytes -/

theorem length_stray_le_iff (entry : Locals C) (bzImage ramdisk : List UInt8) :
    (stray entry bzImage ramdisk).length ≤ C.bufsiz ↔
      payloadEnd bzImage.length ramdisk.length % sectorSize ≠ 0
        ∨ entry.paddings.toNat ≤ C.bufsiz := by
  unfold stray
  by_cases haligned : payloadEnd bzImage.length ramdisk.length % sectorSize = 0
  · rw [if_pos haligned, List.length_replicate]
    constructor
    · exact Or.inr
    · rintro (h | h)
      · exact absurd haligned h
      · exact h
  · rw [if_neg haligned]
    exact ⟨fun _ => Or.inl haligned, fun _ => Nat.zero_le _⟩

theorem stray_eq_nil_iff (entry : Locals C) (bzImage ramdisk : List UInt8) :
    stray entry bzImage ramdisk = [] ↔
      payloadEnd bzImage.length ramdisk.length % sectorSize ≠ 0 ∨ entry.paddings = 0 := by
  unfold stray
  by_cases haligned : payloadEnd bzImage.length ramdisk.length % sectorSize = 0
  · rw [if_pos haligned, List.replicate_eq_nil_iff]
    constructor
    · intro h
      exact Or.inr (UInt32.toNat_inj.mp h)
    · rintro (h | h)
      · exact absurd haligned h
      · rw [h]
        rfl
  · rw [if_neg haligned]
    exact ⟨fun _ => Or.inl haligned, fun _ => rfl⟩

/-- Without stray bytes the image is written. -/
theorem pack_eq_ok (entry : Locals C) {origin : List UInt8}
    (horigin : bootheader.sizeof ≤ origin.length) {bzImage ramdisk : List UInt8}
    (hsmall : roundUp (payloadEnd bzImage.length ramdisk.length) < 4294967296)
    (cmdline : List UInt8) (hstray : stray entry bzImage ramdisk = []) :
    pack entry origin bzImage ramdisk cmdline = .ok
      (packed (bootheader.load origin horigin) bzImage ramdisk cmdline hsmall).bytes := by
  rw [pack_eq_packed entry horigin hsmall, hstray, List.length_nil, if_pos (Nat.zero_le _),
    List.append_nil]

/-- What is written is the image and the stray bytes. -/
theorem pack_ok (entry : Locals C) {origin image : List UInt8}
    (horigin : bootheader.sizeof ≤ origin.length) {bzImage ramdisk : List UInt8}
    (hsmall : roundUp (payloadEnd bzImage.length ramdisk.length) < 4294967296)
    {cmdline : List UInt8} (h : pack entry origin bzImage ramdisk cmdline = .ok image) :
    (stray entry bzImage ramdisk).length ≤ C.bufsiz ∧
      image = (packed (bootheader.load origin horigin) bzImage ramdisk cmdline hsmall).bytes
        ++ stray entry bzImage ramdisk := by
  rw [pack_eq_packed entry horigin hsmall] at h
  split at h
  · rename_i hle
    injection h with himage
    exact ⟨hle, himage.symm⟩
  · exact absurd h (by simp)

/-! ### Unpacking what was packed -/

/-- `unpack` gives back what `pack` was given. -/
def RoundTrips (entry : Locals C) (buf : Buffer C'.bufsiz)
    (origin bzImage ramdisk cmdline : List UInt8) : Prop :=
  ∃ image u, pack entry origin bzImage ramdisk cmdline = .ok image ∧ unpack buf image = .ok u ∧
    u.bzImage = bzImage ∧ u.ramdisk = ramdisk ∧ u.cmdline.length = cmdlineSize ∧
    u.cmdline.take (min cmdline.length cmdlineSize)
      = cmdline.take (min cmdline.length cmdlineSize)

/-- The command line of the new header begins with the given one. -/
theorem take_scanCmdline (old file : List UInt8) :
    (scanCmdline old file).take (min file.length old.length)
      = file.take (min file.length old.length) := by
  rw [scanCmdline_eq, List.take_append_of_le_length, List.take_take]
  · rw [Nat.min_eq_left (Nat.min_le_right ..)]
  · rw [List.length_take]
    omega

theorem roundUp_lt {n : ℕ} (h : n + sectorSize < 4294967296) : roundUp n < 4294967296 := by
  unfold roundUp sectorSize at *
  omega

/-- The round trip succeeds when `buf` holds the stray bytes. -/
theorem roundTrips_iff_stray (entry : Locals C) (buf : Buffer C'.bufsiz) {origin : List UInt8}
    (horigin : bootheader.sizeof ≤ origin.length) {bzImage ramdisk : List UInt8}
    (hsmall : roundUp (payloadEnd bzImage.length ramdisk.length) < 4294967296)
    (cmdline : List UInt8) :
    RoundTrips entry buf origin bzImage ramdisk cmdline ↔
      (stray entry bzImage ramdisk).length ≤ C.bufsiz := by
  constructor
  · rintro ⟨image, u, hpack, -⟩
    exact (pack_ok entry horigin hsmall hpack).1
  · intro hle
    have hpack := pack_eq_packed entry horigin hsmall cmdline
    rw [if_pos hle] at hpack
    refine ⟨_, _, hpack, BootImage.unpack_bytes buf _ _, rfl, rfl, ?_, ?_⟩
    · exact (packed (bootheader.load origin horigin) bzImage ramdisk cmdline
        hsmall).header.length_field .cmdline
    · have hcmdline := take_scanCmdline
        ((bootheader.load origin horigin).field .cmdline) cmdline
      rw [StructLayout.Memory.length_field] at hcmdline
      rw [← packed_cmdline _ bzImage ramdisk cmdline hsmall] at hcmdline
      exact hcmdline

/-- **The round trip** fails exactly when the image needs no padding and `paddings`, which is then
not assigned, is larger than `buf`. -/
theorem roundTrips_iff (entry : Locals C) (buf : Buffer C'.bufsiz) {origin : List UInt8}
    (horigin : bootheader.sizeof ≤ origin.length) (bzImage ramdisk cmdline : List UInt8)
    (hsmall : bootheader.sizeof + bzImage.length + ramdisk.length + sectorSize < 4294967296) :
    RoundTrips entry buf origin bzImage ramdisk cmdline ↔
      payloadEnd bzImage.length ramdisk.length % sectorSize ≠ 0
        ∨ entry.paddings.toNat ≤ C.bufsiz := by
  have hround := roundUp_lt (n := payloadEnd bzImage.length ramdisk.length) hsmall
  rw [roundTrips_iff_stray entry buf horigin hround cmdline, length_stray_le_iff]

/-- A base image of zeros. -/
def zeroBase : List UInt8 := List.replicate bootheader.sizeof 0

theorem zeroBase_long : bootheader.sizeof ≤ zeroBase.length := le_of_eq List.length_replicate.symm

/-- A C library with a `BUFSIZ` of 8192, and a stack that holds `paddings`. -/
def glibc : CLibrary := ⟨8192, by decide⟩

def stackWith (paddings : UInt32) : Locals glibc :=
  ⟨paddings, List.replicate 8192 0, List.length_replicate⟩

theorem smallImage_roundTrips :
    bootheader.sizeof + 3 + 2 + sectorSize < 4294967296 ∧
      RoundTrips (stackWith 4294967295) (stackWith 0).buf zeroBase [1, 2, 3] [4, 5] [97] := by
  have hsmall : bootheader.sizeof + 3 + 2 + sectorSize < 4294967296 := by decide
  have hiff := roundTrips_iff (stackWith 4294967295) (stackWith 0).buf zeroBase_long [1, 2, 3]
    [4, 5] [97] hsmall
  exact ⟨hsmall, hiff.mpr (Or.inl (by decide))⟩

/-- With thirty-two bytes of kernel the header ends a sector; the stack holds `BUFSIZ + 1`. -/
theorem alignedImage_overrun :
    bootheader.sizeof + (List.replicate 32 (0 : UInt8)).length + 0 + sectorSize < 4294967296 ∧
      pack (stackWith 8193) zeroBase (List.replicate 32 0) [] [] = .error .overrun ∧
      ¬ RoundTrips (stackWith 8193) (stackWith 0).buf zeroBase (List.replicate 32 0) [] [] := by
  have hsmall : roundUp (payloadEnd (List.replicate 32 (0 : UInt8)).length 0) < 4294967296 := by
    decide
  have hlong : ¬ (stray (stackWith 8193) (List.replicate 32 0) []).length ≤ glibc.bufsiz := by
    rw [length_stray_le_iff]
    decide
  refine ⟨by decide, ?_, ?_⟩
  · rw [pack_eq_packed (stackWith 8193) zeroBase_long hsmall, if_neg hlong]
  · rw [roundTrips_iff_stray (stackWith 8193) (stackWith 0).buf zeroBase_long hsmall]
    exact hlong

/-! ### Packing what was unpacked -/

/-- `pack` gives back the image, with itself as the base image. -/
def Repacks (entry : Locals C) (buf : Buffer C'.bufsiz) (image : List UInt8) : Prop :=
  ∃ u, unpack buf image = .ok u ∧ pack entry image u.bzImage u.ramdisk u.cmdline = .ok image

/-- An image is packed again when there are no stray bytes. -/
theorem repacks_iff_stray (entry : Locals C) (buf : Buffer C'.bufsiz) (b : BootImage) :
    Repacks entry buf b.bytes ↔ stray entry b.bzImage b.ramdisk = [] := by
  have hsizeof : bootheader.sizeof ≤ b.bytes.length := b.wellFormed.sizeof_le
  have hunpack := b.unpack_bytes buf []
  rw [List.append_nil] at hunpack
  have hself : packed (bootheader.load b.bytes hsizeof) b.bzImage b.ramdisk
      (b.header.field .cmdline) b.small = b := by
    rw [b.load_self hsizeof]
    exact packed_self b
  constructor
  · rintro ⟨u, hu, hpack⟩
    rw [hunpack] at hu
    obtain rfl := Except.ok.inj hu
    obtain ⟨-, himage⟩ := pack_ok entry hsizeof b.small hpack
    rw [hself] at himage
    exact (List.append_cancel_left ((List.append_nil _).trans himage)).symm
  · intro hstray
    refine ⟨_, hunpack, ?_⟩
    rw [pack_eq_ok entry hsizeof b.small _ hstray, hself]

/-- **Packing what was unpacked** gives another image exactly when it needs no padding and
`paddings`, which is then not assigned, is not `0`. -/
theorem repacks_iff (entry : Locals C) (buf : Buffer C'.bufsiz) {image : List UInt8}
    (h : WellFormed image) :
    Repacks entry buf image ↔ imageEnd image % sectorSize ≠ 0 ∨ entry.paddings = 0 := by
  obtain ⟨b, rfl⟩ := wellFormed_iff.mp h
  rw [repacks_iff_stray, stray_eq_nil_iff, b.imageEnd_self]
  rfl

/-- The image for a kernel of three bytes and a ramdisk of two. -/
def smallImage : BootImage :=
  packed (bootheader.load zeroBase zeroBase_long) [1, 2, 3] [4, 5] [97] (by decide)

theorem smallImage_repacks : WellFormed smallImage.bytes ∧
    Repacks (stackWith 4294967295) (stackWith 0).buf smallImage.bytes := by
  have hwell := smallImage.wellFormed
  have hiff := repacks_iff (stackWith 4294967295) (stackWith 0).buf hwell
  rw [smallImage.imageEnd_self] at hiff
  exact ⟨hwell, hiff.mpr (Or.inl (show payloadEnd 3 2 % sectorSize ≠ 0 by decide))⟩

/-- The image for a kernel of thirty-two bytes needs no padding. -/
def alignedImage : BootImage :=
  packed (bootheader.load zeroBase zeroBase_long) (List.replicate 32 0) [] [] (by decide)

theorem alignedImage_grows : WellFormed alignedImage.bytes ∧
    ¬ Repacks (stackWith 1) (stackWith 0).buf alignedImage.bytes := by
  refine ⟨alignedImage.wellFormed, ?_⟩
  rw [repacks_iff_stray, stray_eq_nil_iff]
  show ¬ (payloadEnd 32 0 % sectorSize ≠ 0 ∨ (1 : UInt32) = 0)
  decide

/-! ### Sectors -/

/-- The image has as many sectors as its header says, the least number that holds the header and
the payloads, and only `0xff` after the ramdisk; and `pack` stays inside `buf`. -/
def HasGeometry (entry : Locals C) (origin bzImage ramdisk cmdline : List UInt8) : Prop :=
  ∃ image, pack entry origin bzImage ramdisk cmdline = .ok image ∧
    image.length = (headerWord image .sectors + 1) * sectorSize ∧
    IsLeast {m | sectorSize ∣ m ∧ bootheader.sizeof + bzImage.length + ramdisk.length ≤ m}
      image.length ∧
    ∀ byte ∈ image.drop (bootheader.sizeof + bzImage.length + ramdisk.length), byte = 0xff

/-- The output has this shape when there are no stray bytes. -/
theorem hasGeometry_iff_stray (entry : Locals C) {origin : List UInt8}
    (horigin : bootheader.sizeof ≤ origin.length) {bzImage ramdisk : List UInt8}
    (hsmall : roundUp (payloadEnd bzImage.length ramdisk.length) < 4294967296)
    (cmdline : List UInt8) :
    HasGeometry entry origin bzImage ramdisk cmdline ↔ stray entry bzImage ramdisk = [] := by
  constructor
  · rintro ⟨image, hpack, -, hleast, -⟩
    obtain ⟨-, himage⟩ := pack_ok entry horigin hsmall hpack
    have hlength := hleast.unique (roundUp_isLeast _)
    rw [himage, List.length_append, BootImage.length_bytes] at hlength
    exact List.length_eq_zero_iff.mp (Nat.add_left_cancel (hlength.trans (Nat.add_zero _).symm))
  · intro hstray
    have hwell := (packed (bootheader.load origin horigin) bzImage ramdisk cmdline
      hsmall).wellFormed
    have hend := (packed (bootheader.load origin horigin) bzImage ramdisk cmdline
      hsmall).imageEnd_self
    refine ⟨_, pack_eq_ok entry horigin hsmall cmdline hstray, ?_, ?_, ?_⟩
    · rw [hwell.sectors, BootImage.sectors_mul]
    · rw [BootImage.length_bytes]
      exact roundUp_isLeast _
    · intro byte hbyte
      refine hwell.padding byte ?_
      rw [hend]
      exact hbyte

/-- **The geometry** of the output, for a base image that is not refused, fails exactly when the
image needs no padding and `paddings`, which is then not assigned, is not `0`. -/
theorem hasGeometry_iff (entry : Locals C) (origin bzImage ramdisk cmdline : List UInt8)
    (hsmall : roundUp (payloadEnd bzImage.length ramdisk.length) < 4294967296) :
    (origin.length < bootheader.sizeof → pack entry origin bzImage ramdisk cmdline
      = .error (.error "ERROR reading bootstub\n")) ∧
    (bootheader.sizeof ≤ origin.length →
      (HasGeometry entry origin bzImage ramdisk cmdline ↔
        payloadEnd bzImage.length ramdisk.length % sectorSize ≠ 0 ∨ entry.paddings = 0)) := by
  refine ⟨pack_short entry origin bzImage ramdisk cmdline, fun horigin => ?_⟩
  rw [hasGeometry_iff_stray entry horigin hsmall, stray_eq_nil_iff]

theorem smallImage_geometry : roundUp (payloadEnd 3 2) < 4294967296 ∧
    HasGeometry (stackWith 4294967295) zeroBase [1, 2, 3] [4, 5] [97] := by
  have hsmall : roundUp (payloadEnd 3 2) < 4294967296 := by decide
  obtain ⟨-, hiff⟩ := hasGeometry_iff (stackWith 4294967295) zeroBase [1, 2, 3] [4, 5] [97] hsmall
  exact ⟨hsmall, (hiff zeroBase_long).mpr (Or.inl (by decide))⟩

/-- One byte too many. -/
theorem alignedImage_sectors : roundUp (payloadEnd 32 0) < 4294967296 ∧
    ¬ HasGeometry (stackWith 1) zeroBase (List.replicate 32 0) [] [] := by
  have hsmall : roundUp (payloadEnd (List.replicate 32 (0 : UInt8)).length 0) < 4294967296 := by
    decide
  refine ⟨by decide, ?_⟩
  rw [hasGeometry_iff_stray (stackWith 1) zeroBase_long hsmall, stray_eq_nil_iff]
  decide

end CtpCommon.Mkbootimg
