import CtpCommon.Mkbootimg.Template

/-!
# The checksum of the output

`xor` is the last byte `pack` computes.  The helper starts from the stale byte of the base image and
meets it again in its loop.

* `xorBytes_eraseIdx` — **PROVED**: a byte can be taken out of an exclusive or;
* `SameButXor` — two base images that differ in their old `xor` byte only;
* `pack_congr_xor` — **PROVED**: such base images are packed alike;
* `pack_checksum` — **PROVED**: the header of every output cancels, and `xor` is the exclusive or of
  its other bytes, the new `sectors` among them.
-/

namespace CtpCommon.Mkbootimg

/-! ### Bytes -/

/-- A byte and the others. -/
theorem xorBytes_eraseIdx {bs : List UInt8} {i : ℕ} (h : i < bs.length) :
    xorBytes bs = bs[i] ^^^ xorBytes (bs.eraseIdx i) := by
  have hsplit : bs = bs.take i ++ ([bs[i]] ++ bs.drop (i + 1)) := by
    rw [List.singleton_append, List.getElem_cons_drop, List.take_append_drop]
  have hbyte : xorBytes [bs[i]] = bs[i] := UInt8.zero_xor
  have hall := congrArg xorBytes hsplit
  rw [xorBytes_append, xorBytes_append, hbyte] at hall
  rw [List.eraseIdx_eq_take_drop_succ, xorBytes_append, hall, ← UInt8.xor_assoc,
    UInt8.xor_comm (xorBytes _) bs[i], UInt8.xor_assoc]

/-- A byte of some bytes that cancel is the exclusive or of the others. -/
theorem getElem_eq_xorBytes {bs : List UInt8} (hzero : xorBytes bs = 0) {i : ℕ}
    (h : i < bs.length) : bs[i] = xorBytes (bs.eraseIdx i) := by
  rw [xorBytes_eraseIdx h] at hzero
  exact UInt8.xor_eq_zero_iff.mp hzero

/-- Two base images that differ in their old `xor` byte only. -/
def SameButXor (origin origin' : List UInt8) : Prop :=
  origin.length = origin'.length ∧
    ∀ i, i ≠ bootheader.offset .xor → origin[i]? = origin'[i]?

/-- A range without the byte is the same in both. -/
theorem SameButXor.read {origin origin' : List UInt8} (h : SameButXor origin origin') {o w : ℕ}
    (hout : o + w ≤ bootheader.offset .xor ∨ bootheader.offset .xor < o) :
    (origin.drop o).take w = (origin'.drop o).take w := by
  obtain ⟨-, hbytes⟩ := h
  refine List.ext_getElem? fun i => ?_
  by_cases hi : i < w
  · rw [List.getElem?_take_of_lt hi, List.getElem?_take_of_lt hi, List.getElem?_drop,
      List.getElem?_drop]
    exact hbytes (o + i) (by omega)
  · rw [List.getElem?_take_eq_none (Nat.le_of_not_lt hi),
      List.getElem?_take_eq_none (Nat.le_of_not_lt hi)]

theorem SameButXor.field {origin origin' : List UInt8} (h : SameButXor origin origin')
    (horigin : bootheader.sizeof ≤ origin.length) (horigin' : bootheader.sizeof ≤ origin'.length)
    {f : HeaderField} (hf : f ≠ .xor) :
    (bootheader.load origin horigin).field f = (bootheader.load origin' horigin').field f := by
  have hout : bootheader.offset f + bootheader.width f ≤ bootheader.offset .xor ∨
      bootheader.offset .xor < bootheader.offset f := by
    cases f <;> first | exact absurd rfl hf | decide
  exact h.read hout

/-! ### The output -/

section

variable {C : CLibrary} (entry : Locals C) {origin origin' : List UInt8}
  (bzImage ramdisk cmdline : List UInt8)

/-- A base image that is not refused is long enough. -/
theorem sizeof_le_of_pack {image : List UInt8}
    (h : pack entry origin bzImage ramdisk cmdline = .ok image) :
    bootheader.sizeof ≤ origin.length := by
  by_contra hshort
  rw [pack_short entry origin bzImage ramdisk cmdline (Nat.lt_of_not_le hshort)] at h
  exact absurd h (by simp)

/-- The parts of the output. -/
theorem eq_of_pack {image : List UInt8}
    (h : pack entry origin bzImage ramdisk cmdline = .ok image)
    (horigin : bootheader.sizeof ≤ origin.length) : image =
      (patch (bootheader.load origin horigin) cmdline bzImage.length ramdisk.length
        (imageSize entry.paddings bzImage.length ramdisk.length).total).bytes ++ bzImage ++ ramdisk
      ++ List.replicate (imageSize entry.paddings bzImage.length ramdisk.length).paddings 0xff := by
  rw [pack_parts entry horigin] at h
  split at h
  · exact (Except.ok.inj h).symm
  · exact absurd h (by simp)

/-- The new header does not depend on the old `xor` byte. -/
theorem SameButXor.patch_eq (h : SameButXor origin origin')
    (horigin : bootheader.sizeof ≤ origin.length) (horigin' : bootheader.sizeof ≤ origin'.length)
    (total : ℕ) :
    patch (bootheader.load origin horigin) cmdline bzImage.length ramdisk.length total
      = patch (bootheader.load origin' horigin') cmdline bzImage.length ramdisk.length total := by
  have hsame : SameTemplate (bootheader.load origin horigin)
      (bootheader.load origin' horigin') := by
    intro f hf
    refine h.field horigin horigin' ?_
    rintro rfl
    exact absurd hf (by decide)
  rw [patch_eq_iff cmdline _ _ _ hsame, h.field horigin horigin' (by decide)]

/-- **Base images that differ in the old `xor` byte are packed alike**, and fail alike. -/
theorem pack_congr_xor (h : SameButXor origin origin') :
    pack entry origin bzImage ramdisk cmdline = pack entry origin' bzImage ramdisk cmdline := by
  by_cases horigin : bootheader.sizeof ≤ origin.length
  · have horigin' : bootheader.sizeof ≤ origin'.length := h.1 ▸ horigin
    rw [pack_parts entry horigin, pack_parts entry horigin',
      h.patch_eq bzImage ramdisk cmdline horigin horigin']
  · have hshort := Nat.lt_of_not_le horigin
    rw [pack_short entry origin bzImage ramdisk cmdline hshort,
      pack_short entry origin' bzImage ramdisk cmdline (h.1 ▸ hshort)]

/-- The header of the output is the patched header. -/
theorem take_of_pack {image : List UInt8}
    (h : pack entry origin bzImage ramdisk cmdline = .ok image)
    (horigin : bootheader.sizeof ≤ origin.length) : image.take bootheader.sizeof =
      (patch (bootheader.load origin horigin) cmdline bzImage.length ramdisk.length
        (imageSize entry.paddings bzImage.length ramdisk.length).total).bytes := by
  have himage := eq_of_pack entry bzImage ramdisk cmdline h horigin
  rw [himage, List.append_assoc, List.append_assoc, ← StructLayout.Memory.length_bytes]
  exact List.take_left

/-- The header of the output cancels. -/
theorem xorBytes_output {image : List UInt8}
    (h : pack entry origin bzImage ramdisk cmdline = .ok image) :
    xorBytes (image.take headerSize) = 0 := by
  have horigin := sizeof_le_of_pack entry bzImage ramdisk cmdline h
  have hheader := take_of_pack entry bzImage ramdisk cmdline h horigin
  have hlead : image.take headerSize = (image.take bootheader.sizeof).take headerSize := by
    rw [List.take_take]
    rfl
  rw [hlead, hheader]
  exact patch_xor ..

/-- The output holds a header. -/
theorem sizeof_le_output {image : List UInt8}
    (h : pack entry origin bzImage ramdisk cmdline = .ok image) :
    bootheader.sizeof ≤ image.length := by
  have horigin := sizeof_le_of_pack entry bzImage ramdisk cmdline h
  have hlength := congrArg List.length (take_of_pack entry bzImage ramdisk cmdline h horigin)
  rw [List.length_take, StructLayout.Memory.length_bytes] at hlength
  omega

/-- The bytes before the padding do not depend on the stack, and no byte does when the image needs
padding. -/
theorem pack_stack {entry' : Locals C} {image image' : List UInt8}
    (h : pack entry origin bzImage ramdisk cmdline = .ok image)
    (h' : pack entry' origin bzImage ramdisk cmdline = .ok image') :
    image'.take (payloadEnd bzImage.length ramdisk.length)
        = image.take (payloadEnd bzImage.length ramdisk.length) ∧
      (payloadEnd bzImage.length ramdisk.length % sectorSize ≠ 0 → image' = image) := by
  have horigin := sizeof_le_of_pack entry bzImage ramdisk cmdline h
  have himage := eq_of_pack entry bzImage ramdisk cmdline h horigin
  have himage' := eq_of_pack entry' bzImage ramdisk cmdline h' horigin
  rw [imageSize_total entry'.paddings entry.paddings] at himage'
  generalize hfile : patch (bootheader.load origin horigin) cmdline _ _ _ = file at himage himage'
  have hlength : (file.bytes ++ bzImage ++ ramdisk).length
      = payloadEnd bzImage.length ramdisk.length := by
    rw [List.length_append, List.length_append, StructLayout.Memory.length_bytes]
    rfl
  constructor
  · rw [himage, himage', ← hlength, List.take_left, List.take_left]
  · intro hpadded
    rw [himage, himage', paddings_padded entry.paddings hpadded,
      paddings_padded entry'.paddings hpadded]

/-- **The checksum of every output.**  The first `HEADER_SIZE` bytes cancel; `xor` is the exclusive
or of the other ones as they are written, with the new `sectors`; and another `xor` byte in the base
image changes nothing, the padding apart when `paddings` is not assigned. -/
theorem pack_checksum {image : List UInt8}
    (h : pack entry origin bzImage ramdisk cmdline = .ok image) :
    xorBytes (image.take headerSize) = 0 ∧
    image[bootheader.offset .xor]?
      = some (xorBytes ((image.take headerSize).eraseIdx (bootheader.offset .xor))) ∧
    (image.drop (bootheader.offset .sectors)).take (bootheader.width .sectors)
      = htole32 (uint32 ((imageSize entry.paddings bzImage.length ramdisk.length).total / sectorSize
          + 4294967295)) ∧
    ∀ origin', SameButXor origin origin' →
      pack entry origin' bzImage ramdisk cmdline = .ok image ∧
      ∀ (entry' : Locals C) (image' : List UInt8),
        pack entry' origin' bzImage ramdisk cmdline = .ok image' →
          image'.take (payloadEnd bzImage.length ramdisk.length)
            = image.take (payloadEnd bzImage.length ramdisk.length) ∧
          (payloadEnd bzImage.length ramdisk.length % sectorSize ≠ 0 → image' = image) := by
  have horigin := sizeof_le_of_pack entry bzImage ramdisk cmdline h
  have hzero := xorBytes_output entry bzImage ramdisk cmdline h
  refine ⟨hzero, ?_, ?_, ?_⟩
  · have hlong := sizeof_le_output entry bzImage ramdisk cmdline h
    have hbyte : bootheader.offset .xor < (image.take headerSize).length := by
      rw [List.length_take]
      have hsizes : bootheader.offset .xor < headerSize ∧ headerSize ≤ bootheader.sizeof := by
        decide
      omega
    rw [← getElem_eq_xorBytes hzero hbyte, List.getElem_take]
    exact List.getElem?_eq_getElem _
  · have hfield := StructLayout.Memory.field_bytes (patch (bootheader.load origin horigin) cmdline
      bzImage.length ramdisk.length
      (imageSize entry.paddings bzImage.length ramdisk.length).total) .sectors
      (image.drop bootheader.sizeof)
    rw [← take_of_pack entry bzImage ramdisk cmdline h horigin, List.take_append_drop,
      patch_sectors] at hfield
    exact hfield
  · intro origin' hsame
    have hpack' := (pack_congr_xor entry bzImage ramdisk cmdline hsame).symm.trans h
    exact ⟨hpack', fun entry' image' h' => pack_stack entry bzImage ramdisk cmdline hpack' h'⟩

end

/-- Another `xor` byte in a base image of zeros. -/
theorem zeroBase_sameButXor : SameButXor zeroBase (zeroBase.set 7 255) := by
  refine ⟨List.length_set.symm, fun i hi => ?_⟩
  have hne : 7 ≠ i := fun h => hi h.symm
  exact (List.getElem?_set_ne hne).symm

theorem zeroBase_checksum : ∃ image,
    pack (stackWith 1) zeroBase [1, 2, 3] [4, 5] [97] = .ok image ∧
      xorBytes (image.take headerSize) = 0 ∧
      pack (stackWith 1) (zeroBase.set 7 255) [1, 2, 3] [4, 5] [97] = .ok image := by
  have hpack := pack_parts (stackWith 1) zeroBase_long [1, 2, 3] [4, 5] [97]
  rw [if_pos (by decide)] at hpack
  obtain ⟨hzero, -, -, hsame⟩ := pack_checksum (stackWith 1) [1, 2, 3] [4, 5] [97] hpack
  obtain ⟨hpack', -⟩ := hsame _ zeroBase_sameButXor
  exact ⟨_, hpack, hzero, hpack'⟩

end CtpCommon.Mkbootimg
