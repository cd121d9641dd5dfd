import CtpCommon.Mkbootimg.Template

/-!
# The sizes in the header

`pack` computes with `uint32_t`: two conversions of an `off_t`, two sums and the padding.  Each of
them can wrap, and the program ends as if nothing had happened.

* `imageSize_eq_mod` — **PROVED**: `totalImageSize` is the size of the padded image modulo
  `2 ^ 32`, whatever wraps on the way;
* `headerWord_pack` — **PROVED**: the words of the header of an image that is written;
* `honestSizes_iff` — **PROVED**: the three of them are exact when the padded image is smaller than
  four gigabytes, and only then.
-/

namespace CtpCommon.Mkbootimg

open Stdio (Buffer Failure)

variable {C : CLibrary}

/-! ### Sums that wrap -/

/-- `totalImageSize`, for files of every length. -/
theorem imageSize_eq_mod (slot : UInt32) (bzImage ramdisk : ℕ) :
    (imageSize slot bzImage ramdisk).total = uint32 (roundUp (payloadEnd bzImage ramdisk)) := by
  have hsum : uint32 (uint32 (uint32 bzImage + bootheader.sizeof) + uint32 ramdisk)
      = uint32 (payloadEnd bzImage ramdisk) := by
    unfold uint32 payloadEnd
    omega
  have hmod := sumSizes_mod bzImage ramdisk
  rw [hsum] at hmod
  simp only [imageSize, hsum, hmod]
  by_cases haligned : payloadEnd bzImage ramdisk % sectorSize = 0
  · rw [if_neg (by omega), roundUp_aligned haligned]
  · rw [if_pos (Nat.pos_of_ne_zero haligned), roundUp_padded haligned]
    exact Nat.mod_add_mod _ _ _

/-- The number of sectors less one survives the conversions when the size does. -/
theorem sectors_exact_iff {size : ℕ} (haligned : size % sectorSize = 0) (hpos : 0 < size)
    (hsize : size < 17179869184) :
    uint32 (uint32 size / sectorSize + 4294967295) = size / sectorSize - 1 ↔
      size < 4294967296 := by
  unfold uint32 sectorSize at *
  omega

/-! ### The words of the header -/

/-- An image that is written begins with the new header. -/
theorem headerWord_pack (entry : Locals C) {origin bzImage ramdisk cmdline image : List UInt8}
    (h : pack entry origin bzImage ramdisk cmdline = .ok image) :
    ∃ horigin : bootheader.sizeof ≤ origin.length, ∀ f, bootheader.width f = 4 →
      headerWord image f = le32toh ((patch (bootheader.load origin horigin) cmdline bzImage.length
        ramdisk.length (uint32 (roundUp (payloadEnd bzImage.length ramdisk.length)))).field f) := by
  by_cases horigin : bootheader.sizeof ≤ origin.length
  · refine ⟨horigin, fun f hf => ?_⟩
    rw [pack_parts entry horigin, imageSize_eq_mod] at h
    split at h
    · obtain rfl := Except.ok.inj h
      unfold headerWord
      rw [List.append_assoc, List.append_assoc, ← hf]
      exact congrArg le32toh (StructLayout.Memory.field_bytes _ f _)
    · exact absurd h (by simp)
  · rw [pack_short entry origin bzImage ramdisk cmdline (Nat.not_le.mp horigin)] at h
    exact absurd h (by simp)

theorem le32toh_htole32_uint32 (n : ℕ) : le32toh (htole32 (uint32 n)) = uint32 n := by
  rw [le32toh_htole32]
  exact Nat.mod_mod n 4294967296

/-- The header tells the lengths of the two files, and the sectors of the padded image less one. -/
structure HonestSizes (image bzImage ramdisk : List UInt8) : Prop where
  bzImageSize : headerWord image .bzImageSize = bzImage.length
  initrdSize : headerWord image .initrdSize = ramdisk.length
  sectors : headerWord image .sectors
    = roundUp (payloadEnd bzImage.length ramdisk.length) / sectorSize - 1

/-- **When the header is honest**: exactly when the padded image is smaller than four gigabytes. -/
theorem honestSizes_iff (entry : Locals C) {origin bzImage ramdisk cmdline image : List UInt8}
    (h : pack entry origin bzImage ramdisk cmdline = .ok image) :
    HonestSizes image bzImage ramdisk ↔
      roundUp (payloadEnd bzImage.length ramdisk.length) < 4294967296 := by
  obtain ⟨horigin, hwords⟩ := headerWord_pack entry h
  have hbzImage := hwords .bzImageSize rfl
  have hramdisk := hwords .initrdSize rfl
  have hsectors := hwords .sectors rfl
  rw [patch_bzImageSize, le32toh_htole32_uint32] at hbzImage
  rw [patch_initrdSize, le32toh_htole32_uint32] at hramdisk
  rw [patch_sectors, le32toh_htole32_uint32] at hsectors
  obtain ⟨⟨hdvd, hle⟩, -⟩ := roundUp_isLeast (payloadEnd bzImage.length ramdisk.length)
  have hend : payloadEnd bzImage.length ramdisk.length
      = 13280 + bzImage.length + ramdisk.length := rfl
  constructor
  · intro hhonest
    have hbz := hbzImage.symm.trans hhonest.bzImageSize
    have hrd := hramdisk.symm.trans hhonest.initrdSize
    refine (sectors_exact_iff (Nat.mod_eq_zero_of_dvd hdvd) (by omega) ?_).mp
      (hsectors.symm.trans hhonest.sectors)
    unfold uint32 at hbz hrd
    unfold roundUp sectorSize
    omega
  · intro hsmall
    refine ⟨?_, ?_, ?_⟩
    · rw [hbzImage]
      exact Nat.mod_eq_of_lt (by omega)
    · rw [hramdisk]
      exact Nat.mod_eq_of_lt (by omega)
    · rw [hsectors]
      exact (sectors_exact_iff (Nat.mod_eq_zero_of_dvd hdvd) (by omega) (by omega)).mpr hsmall

/-- The image for a kernel of three bytes and a ramdisk of two. -/
theorem smallImage_honest : ∃ image,
    pack (stackWith 0) zeroBase [1, 2, 3] [4, 5] [97] = .ok image ∧
      HonestSizes image [1, 2, 3] [4, 5] := by
  have hstray : stray (stackWith 0) [1, 2, 3] [4, 5] = [] :=
    (stray_eq_nil_iff _ _ _).mpr (Or.inr rfl)
  have hsmall : roundUp (payloadEnd ([1, 2, 3] : List UInt8).length ([4, 5] : List UInt8).length)
      < 4294967296 := by decide
  have hpack := pack_eq_ok (stackWith 0) zeroBase_long hsmall [97] hstray
  exact ⟨_, hpack, (honestSizes_iff (stackWith 0) hpack).mpr (by decide)⟩

/-- A kernel of `2 ^ 32` bytes is written with the size `0`. -/
theorem hugeKernel_size (kernel : List UInt8) (h : kernel.length = 4294967296) :
    ∃ image, pack (stackWith 0) zeroBase kernel [] [] = .ok image ∧
      headerWord image .bzImageSize = 0 := by
  have hend : payloadEnd kernel.length 0 % sectorSize ≠ 0 := by
    rw [h]
    decide
  have hpaddings := paddings_padded (stackWith 0).paddings hend
  have hfit : sectorSize - payloadEnd kernel.length 0 % sectorSize ≤ glibc.bufsiz := by
    have hle := glibc.sector_le_bufsiz
    omega
  have hpack := pack_parts (stackWith 0) zeroBase_long kernel [] []
  rw [List.length_nil, hpaddings, if_pos hfit] at hpack
  obtain ⟨horigin, hwords⟩ := headerWord_pack (stackWith 0) hpack
  refine ⟨_, hpack, ?_⟩
  rw [hwords .bzImageSize rfl, patch_bzImageSize, le32toh_htole32_uint32, h]
  rfl

theorem hugeKernel_dishonest : ∃ image,
    pack (stackWith 0) zeroBase (List.replicate 4294967296 0) [] [] = .ok image ∧
      ¬ HonestSizes image (List.replicate 4294967296 0) [] := by
  obtain ⟨image, hpack, hsize⟩ := hugeKernel_size (List.replicate 4294967296 0)
    List.length_replicate
  refine ⟨image, hpack, fun h => ?_⟩
  have hlength := h.bzImageSize
  rw [hsize, List.length_replicate] at hlength
  exact absurd hlength (by decide)

end CtpCommon.Mkbootimg
