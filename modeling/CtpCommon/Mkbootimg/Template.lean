import CtpCommon.Mkbootimg.RoundTrip

/-!
# The base image as a template

`pack` takes the bootstub from a base image and writes five fields of its header.  Two base images
that agree on the other fields are meant to give the same output.

* `SameTemplate` — two headers that agree outside the fields `pack` writes;
* `SameImage` — two runs of `pack` that write the same image;
* `checksum_congr` — **PROVED**: what `xor` held before is forgotten, and so are the old sizes;
* `patch_eq_iff` — **PROVED**: the new headers agree iff the old command lines do, from the end of
  the new one on;
* `sameImage_iff` — **PROVED**: the two runs, for files of every length.
-/

namespace CtpCommon.Mkbootimg

/-! ### Sizes of any files -/

/-- The sums of `uint32_t` wrap at whole sectors. -/
theorem sumSizes_mod (bzImage ramdisk : ℕ) :
    uint32 (uint32 (uint32 bzImage + bootheader.sizeof) + uint32 ramdisk) % sectorSize
      = payloadEnd bzImage ramdisk % sectorSize := by
  unfold uint32 payloadEnd sectorSize
  omega

/-- `totalImageSize` does not depend on the stack. -/
theorem imageSize_total (slot slot' : UInt32) (bzImage ramdisk : ℕ) :
    (imageSize slot bzImage ramdisk).total = (imageSize slot' bzImage ramdisk).total := by
  simp only [imageSize]
  split <;> rfl

theorem paddings_padded (slot : UInt32) {bzImage ramdisk : ℕ}
    (h : payloadEnd bzImage ramdisk % sectorSize ≠ 0) :
    (imageSize slot bzImage ramdisk).paddings
      = sectorSize - payloadEnd bzImage ramdisk % sectorSize := by
  simp only [imageSize, sumSizes_mod]
  rw [if_pos (Nat.pos_of_ne_zero h)]

theorem paddings_aligned (slot : UInt32) {bzImage ramdisk : ℕ}
    (h : payloadEnd bzImage ramdisk % sectorSize = 0) :
    (imageSize slot bzImage ramdisk).paddings = slot.toNat := by
  simp only [imageSize, sumSizes_mod]
  rw [if_neg (by omega)]

/-- Two runs pad alike, inside `buf`, when padding is needed or the stack holds the same. -/
theorem paddings_eq_iff {C : CLibrary} (entry entry' : Locals C) (bzImage ramdisk : ℕ) :
    ((imageSize entry.paddings bzImage ramdisk).paddings
        = (imageSize entry'.paddings bzImage ramdisk).paddings ∧
      (imageSize entry.paddings bzImage ramdisk).paddings ≤ C.bufsiz) ↔
    (payloadEnd bzImage ramdisk % sectorSize ≠ 0 ∨
      entry.paddings = entry'.paddings ∧ entry.paddings.toNat ≤ C.bufsiz) := by
  by_cases haligned : payloadEnd bzImage ramdisk % sectorSize = 0
  · rw [paddings_aligned _ haligned, paddings_aligned _ haligned, UInt32.toNat_inj]
    constructor
    · exact Or.inr
    · rintro (h | h)
      · exact absurd haligned h
      · exact h
  · rw [paddings_padded _ haligned, paddings_padded _ haligned]
    have hle := C.sector_le_bufsiz
    exact ⟨fun _ => Or.inl haligned, fun _ => ⟨rfl, by omega⟩⟩

/-! ### Two headers -/

/-- The fields `pack` writes. -/
def patchedFields : List HeaderField := [.cmdline, .bzImageSize, .initrdSize, .sectors, .xor]

/-- Two headers that agree outside these fields. -/
def SameTemplate (file file' : Bootheader) : Prop :=
  ∀ f ∉ patchedFields, file.field f = file'.field f

/-- **The checksum forgets** what `xor` held: it is over the other fields of the first
`HEADER_SIZE` bytes. -/
theorem checksum_congr {hdr hdr' : Bootheader}
    (h : ∀ f ∈ [HeaderField.magic, .id, .sectors, .imageType], hdr.field f = hdr'.field f) :
    calculateChecksum hdr = calculateChecksum hdr' := by
  have hothers : [HeaderField.id, .sectors, .imageType].flatMap hdr.field
      = [HeaderField.id, .sectors, .imageType].flatMap hdr'.field :=
    List.flatMap_congr fun f hf => h f (List.mem_cons_of_mem _ hf)
  have hcancel : ∀ k : Bootheader, calculateChecksum k = xorBytes (k.field .magic) ^^^
      xorBytes ([HeaderField.id, .sectors, .imageType].flatMap k.field) := by
    intro k
    rw [calculateChecksum_eq, xorBytes_header, ← UInt8.xor_assoc, UInt8.xor_self, UInt8.zero_xor]
  rw [hcancel hdr, hcancel hdr', hothers, h .magic List.mem_cons_self]

section

variable {file file' : Bootheader} (cmdline : List UInt8) (bzImage ramdisk total : ℕ)

/-- A field the assignments write with the same bytes in both headers, or in neither. -/
theorem patchFields_congr (h : SameTemplate file file') {f : HeaderField}
    (hcmdline : f ≠ .cmdline) (hxor : f ≠ .xor) :
    (patchFields file cmdline bzImage ramdisk total).field f
      = (patchFields file' cmdline bzImage ramdisk total).field f := by
  by_cases hf : f ∈ patchedFields
  · simp only [patchedFields, List.mem_cons, List.not_mem_nil, or_false] at hf
    rcases hf with rfl | rfl | rfl | rfl | rfl
    · exact absurd rfl hcmdline
    · simp [patchFields]
    · simp [patchFields]
    · simp [patchFields]
    · exact absurd rfl hxor
  · have hother := h f hf
    simp only [patchedFields, List.mem_cons, List.not_mem_nil, or_false, not_or] at hf
    obtain ⟨-, hbzImage, hramdisk, hsectors, -⟩ := hf
    simp [patchFields, hcmdline, hbzImage, hramdisk, hsectors, hother]

theorem scanCmdline_eq_iff {old old' : List UInt8} (h : old.length = old'.length) :
    scanCmdline old cmdline = scanCmdline old' cmdline ↔
      old.drop cmdline.length = old'.drop cmdline.length := by
  rw [scanCmdline_eq, scanCmdline_eq, h]
  exact List.append_right_inj _

/-- **The new headers agree** iff the old command lines do where the new one has ended. -/
theorem patch_eq_iff (h : SameTemplate file file') :
    patch file cmdline bzImage ramdisk total = patch file' cmdline bzImage ramdisk total ↔
      (file.field .cmdline).drop cmdline.length = (file'.field .cmdline).drop cmdline.length := by
  have hlength : (file.field .cmdline).length = (file'.field .cmdline).length := by
    rw [file.length_field, file'.length_field]
  have hchecksum : calculateChecksum (patchFields file cmdline bzImage ramdisk total)
      = calculateChecksum (patchFields file' cmdline bzImage ramdisk total) := by
    refine checksum_congr fun f hf => ?_
    refine patchFields_congr cmdline bzImage ramdisk total h ?_ ?_
    · rintro rfl
      exact absurd hf (by decide)
    · rintro rfl
      exact absurd hf (by decide)
  rw [← scanCmdline_eq_iff cmdline hlength]
  constructor
  · intro heq
    rw [← patch_cmdline file cmdline bzImage ramdisk total, heq, patch_cmdline]
  · intro hscan
    ext1
    funext f
    by_cases hcmdline : f = .cmdline
    · rw [hcmdline, patch_cmdline, patch_cmdline, hscan]
    by_cases hxor : f = .xor
    · subst hxor
      simp only [patch, StructLayout.Memory.store_self, hchecksum]
    · have hfields := patchFields_congr cmdline bzImage ramdisk total h hcmdline hxor
      simp only [patch]
      rw [StructLayout.Memory.store_ne _ _ _ hxor, StructLayout.Memory.store_ne _ _ _ hxor, hfields]

end

/-! ### Two runs -/

variable {C : CLibrary} (entry entry' : Locals C) {origin origin' : List UInt8}

/-- Both runs write the one image. -/
def SameImage (origin origin' bzImage ramdisk cmdline : List UInt8) : Prop :=
  ∃ image, pack entry origin bzImage ramdisk cmdline = .ok image ∧
    pack entry' origin' bzImage ramdisk cmdline = .ok image

theorem bytes_inj {file file' : Bootheader} (h : file.bytes = file'.bytes) : file = file' := by
  ext1
  funext f
  rw [← file.field_bytes f [], h, file'.field_bytes f []]

/-- What one run writes, for files of every length. -/
theorem pack_parts (horigin : bootheader.sizeof ≤ origin.length)
    (bzImage ramdisk cmdline : List UInt8) :
    pack entry origin bzImage ramdisk cmdline =
      if (imageSize entry.paddings bzImage.length ramdisk.length).paddings ≤ C.bufsiz then
        .ok ((patch (bootheader.load origin horigin) cmdline bzImage.length ramdisk.length
            (imageSize entry.paddings bzImage.length ramdisk.length).total).bytes
          ++ bzImage ++ ramdisk ++ List.replicate
            (imageSize entry.paddings bzImage.length ramdisk.length).paddings 0xff)
      else .error .overrun :=
  pack_eq entry origin bzImage ramdisk cmdline horigin rfl

/-- The two runs agree on the header and on the padding. -/
theorem sameImage_iff_parts (horigin : bootheader.sizeof ≤ origin.length)
    (horigin' : bootheader.sizeof ≤ origin'.length) (bzImage ramdisk cmdline : List UInt8) :
    SameImage entry entry' origin origin' bzImage ramdisk cmdline ↔
      patch (bootheader.load origin horigin) cmdline bzImage.length ramdisk.length
          (imageSize entry.paddings bzImage.length ramdisk.length).total
        = patch (bootheader.load origin' horigin') cmdline bzImage.length ramdisk.length
          (imageSize entry.paddings bzImage.length ramdisk.length).total ∧
      (payloadEnd bzImage.length ramdisk.length % sectorSize ≠ 0 ∨
        entry.paddings = entry'.paddings ∧ entry.paddings.toNat ≤ C.bufsiz) := by
  rw [← paddings_eq_iff entry entry']
  unfold SameImage
  rw [pack_parts entry horigin, pack_parts entry' horigin',
    imageSize_total entry'.paddings entry.paddings]
  generalize hfile : patch (bootheader.load origin horigin) cmdline _ _ _ = file
  generalize hfile' : patch (bootheader.load origin' horigin') cmdline _ _ _ = file'
  generalize (imageSize entry.paddings bzImage.length ramdisk.length).paddings = p
  generalize (imageSize entry'.paddings bzImage.length ramdisk.length).paddings = p'
  constructor
  · rintro ⟨image, himage, himage'⟩
    split at himage
    · rename_i hle
      split at himage'
      · have hsame := (Except.ok.inj himage).trans (Except.ok.inj himage').symm
        simp only [List.append_assoc] at hsame
        obtain ⟨hbytes, hrest⟩ := List.append_inj hsame (by rw [file.length_bytes,
          file'.length_bytes])
        have htail := List.append_cancel_left (List.append_cancel_left hrest)
        have hlength := congrArg List.length htail
        rw [List.length_replicate, List.length_replicate] at hlength
        exact ⟨bytes_inj hbytes, hlength, hle⟩
      · exact absurd himage' (by simp)
    · exact absurd himage (by simp)
  · rintro ⟨rfl, rfl, hle⟩
    rw [if_pos hle]
    exact ⟨_, rfl, rfl⟩

/-- **The base image as a template.**  Two base images that agree outside the fields `pack` writes
give the same output iff their command lines agree where the new one has ended, and the padding
does not depend on the stack. -/
theorem sameImage_iff (horigin : bootheader.sizeof ≤ origin.length)
    (horigin' : bootheader.sizeof ≤ origin'.length)
    (hsame : SameTemplate (bootheader.load origin horigin) (bootheader.load origin' horigin'))
    (bzImage ramdisk cmdline : List UInt8) :
    SameImage entry entry' origin origin' bzImage ramdisk cmdline ↔
      ((bootheader.load origin horigin).field .cmdline).drop cmdline.length
        = ((bootheader.load origin' horigin').field .cmdline).drop cmdline.length ∧
      (payloadEnd bzImage.length ramdisk.length % sectorSize ≠ 0 ∨
        entry.paddings = entry'.paddings ∧ entry.paddings.toNat ≤ C.bufsiz) := by
  rw [sameImage_iff_parts entry entry' horigin horigin', patch_eq_iff cmdline _ _ _ hsame]

theorem width_stamped (c : UInt8) :
    (List.replicate cmdlineSize c).length = bootheader.width .cmdline := List.length_replicate

/-- A header of zeros with a command line of one character. -/
def stamped (c : UInt8) : Bootheader :=
  (bootheader.load zeroBase zeroBase_long).store .cmdline (List.replicate cmdlineSize c)
    (width_stamped c)

theorem stamped_long (c : UInt8) : bootheader.sizeof ≤ (stamped c).bytes.length :=
  le_of_eq (stamped c).length_bytes.symm

theorem load_stamped (c : UInt8) :
    bootheader.load (stamped c).bytes (stamped_long c) = stamped c := by
  ext1
  funext f
  have hfield := (stamped c).field_bytes f []
  rw [List.append_nil] at hfield
  exact hfield

theorem stamped_cmdline (c : UInt8) :
    (stamped c).field .cmdline = List.replicate cmdlineSize c := StructLayout.Memory.store_self ..

theorem stamped_same (c d : UInt8) : SameTemplate (stamped c) (stamped d) := by
  intro f hf
  have hne : f ≠ .cmdline := by
    rintro rfl
    exact absurd hf (by decide)
  unfold stamped
  rw [StructLayout.Memory.store_ne _ _ _ hne, StructLayout.Memory.store_ne _ _ _ hne]

/-- A new command line that fills the field. -/
theorem fullCmdline_sameImage :
    SameTemplate (bootheader.load (stamped 0).bytes (stamped_long 0))
        (bootheader.load (stamped 120).bytes (stamped_long 120)) ∧
      SameImage (stackWith 1) (stackWith 2) (stamped 0).bytes (stamped 120).bytes [] []
        (List.replicate cmdlineSize 97) := by
  have hsame : SameTemplate (bootheader.load (stamped 0).bytes (stamped_long 0))
      (bootheader.load (stamped 120).bytes (stamped_long 120)) := by
    rw [load_stamped, load_stamped]
    exact stamped_same 0 120
  have hiff := sameImage_iff (stackWith 1) (stackWith 2) (stamped_long 0) (stamped_long 120) hsame
    [] [] (List.replicate cmdlineSize 97)
  refine ⟨hsame, hiff.mpr ⟨?_, Or.inl (by decide)⟩⟩
  rw [load_stamped, load_stamped, stamped_cmdline, stamped_cmdline, List.length_replicate,
    List.drop_replicate, List.drop_replicate, Nat.sub_self]
  rfl

/-- A new command line of one character: the rest of the old one survives. -/
theorem shortCmdline_survives :
    SameTemplate (bootheader.load (stamped 0).bytes (stamped_long 0))
        (bootheader.load (stamped 120).bytes (stamped_long 120)) ∧
      ¬ SameImage (stackWith 0) (stackWith 0) (stamped 0).bytes (stamped 120).bytes [] [] [97] ∧
      ∀ total, (patch (stamped 120) [97] 0 0 total).field .cmdline
        = 97 :: List.replicate 1023 120 := by
  have hsame : SameTemplate (bootheader.load (stamped 0).bytes (stamped_long 0))
      (bootheader.load (stamped 120).bytes (stamped_long 120)) := by
    rw [load_stamped, load_stamped]
    exact stamped_same 0 120
  refine ⟨hsame, ?_, ?_⟩
  · rw [sameImage_iff_parts _ _ (stamped_long 0) (stamped_long 120), patch_eq_iff _ _ _ _ hsame,
      load_stamped, load_stamped, stamped_cmdline, stamped_cmdline, List.drop_replicate,
      List.drop_replicate]
    rintro ⟨hdrop, -⟩
    have hrest := List.replicate_inj.mp hdrop
    exact absurd hrest (by decide)
  · intro total
    rw [patch_cmdline, stamped_cmdline, scanCmdline_eq, List.length_replicate, List.drop_replicate]
    rfl

end CtpCommon.Mkbootimg
