import CtpCommon.Mkbootimg.Pack

/-!
# Unpacking a boot image

`main` of `unpack.c`.  It does not read the header through the struct: it seeks to offsets and
copies as many bytes as the two sizes say.

* `readUint32` — a `uint32_t` at an offset;
* `unpack` — the three files it writes, or how it fails;
* `copyPayloads_eq` — **PROVED**: the two payloads are copied if the file holds them, and otherwise
  `unpack` does not end;
* `unpack_eq` — **PROVED**: from an image that is long enough for the sizes in its header, it takes
  the command line of the header, the kernel and the ramdisk;
* `unpack_truncated` — **PROVED**: from an image that ends before the ramdisk does, it does not
  end.
-/

namespace CtpCommon.Mkbootimg

open Stdio (Buffer Failure copyMissing)

/-- The three files `main` writes. -/
structure Unpacked where
  bzImage : List UInt8
  ramdisk : List UInt8
  cmdline : List UInt8
  deriving DecidableEq, Repr

/-- `fseek` to an offset, then `fread` of a `uint32_t`. -/
def readUint32 (origin : List UInt8) (offset : ℕ) (message : String) : Except Failure ℕ :=
  if ((origin.drop offset).take 4).length = 4 then
    .ok (le32toh ((origin.drop offset).take 4))
  else .error (.error message)

/-- The kernel and the ramdisk, of the sizes that have been read. -/
def copyPayloads {n : ℕ} (buf : Buffer n) (origin : List UInt8) (bzImageLen ramdiskLen : ℕ)
    (cmdline : List UInt8) : Except Failure Unpacked := do
  let (buf, bzImage) ← copyMissing buf bzImageLen (origin.drop bootheader.sizeof) []
  let (_, ramdisk) ←
    copyMissing buf ramdiskLen (origin.drop (bootheader.sizeof + bzImageLen)) []
  return ⟨bzImage, ramdisk, cmdline⟩

/-- `main` of `unpack.c`; `buf` is what the stack holds. -/
def unpack {C : CLibrary} (buf : Buffer C.bufsiz) (origin : List UInt8) :
    Except Failure Unpacked := do
  let (buf, cmdline) ← copyMissing buf cmdlineSize (origin.drop cmdlineStart) []
  let bzImageLen ← readUint32 origin cmdlineEnd "ERROR: failed to read bzImage length\n"
  let ramdiskLen ← readUint32 origin (cmdlineEnd + 4) "ERROR: failed to read ramdisk length\n"
  copyPayloads buf origin bzImageLen ramdiskLen cmdline

variable {C : CLibrary}

/-- The file has the kernel and the ramdisk: what remains of it after an offset is long enough. -/
def HoldsPayloads (origin : List UInt8) (bzImageLen ramdiskLen : ℕ) : Prop :=
  bzImageLen ≤ origin.length - bootheader.sizeof ∧
    ramdiskLen ≤ origin.length - (bootheader.sizeof + bzImageLen)

instance (origin : List UInt8) (bzImageLen ramdiskLen : ℕ) :
    Decidable (HoldsPayloads origin bzImageLen ramdiskLen) := inferInstanceAs (Decidable (_ ∧ _))

/-- The two payloads are copied if they are there; else one of the loops waits at the end. -/
theorem copyPayloads_eq {n : ℕ} (hn : 0 < n) (buf : Buffer n) (origin : List UInt8)
    (bzImageLen ramdiskLen : ℕ) (cmdline : List UInt8) :
    copyPayloads buf origin bzImageLen ramdiskLen cmdline =
      if HoldsPayloads origin bzImageLen ramdiskLen then .ok
        { bzImage := (origin.drop bootheader.sizeof).take bzImageLen
          ramdisk := (origin.drop (bootheader.sizeof + bzImageLen)).take ramdiskLen
          cmdline := cmdline }
      else .error .endless := by
  unfold copyPayloads
  by_cases hkernel : bzImageLen ≤ origin.length - bootheader.sizeof
  · obtain ⟨buf₁, hcopy⟩ := Stdio.copyMissing_spec hn buf
      (List.length_drop ▸ hkernel : bzImageLen ≤ (origin.drop bootheader.sizeof).length) []
    rw [hcopy]
    show (copyMissing buf₁ ramdiskLen _ _ >>= _) = _
    by_cases hramdisk : ramdiskLen ≤ origin.length - (bootheader.sizeof + bzImageLen)
    · obtain ⟨buf₂, hcopy'⟩ := Stdio.copyMissing_spec hn buf₁
        (List.length_drop ▸ hramdisk :
          ramdiskLen ≤ (origin.drop (bootheader.sizeof + bzImageLen)).length) []
      have hholds : HoldsPayloads origin bzImageLen ramdiskLen := ⟨hkernel, hramdisk⟩
      rw [hcopy', if_pos hholds]
      rfl
    · rw [Stdio.copyMissing_endless buf₁ (List.length_drop ▸ Nat.not_le.mp hramdisk),
        if_neg (fun h : HoldsPayloads origin bzImageLen ramdiskLen => hramdisk h.2)]
      rfl
  · rw [Stdio.copyMissing_endless buf (List.length_drop ▸ Nat.not_le.mp hkernel),
      if_neg (fun h : HoldsPayloads origin bzImageLen ramdiskLen => hkernel h.1)]
    rfl

theorem readUint32_eq {origin : List UInt8} {offset : ℕ} (h : offset + 4 ≤ origin.length)
    (message : String) :
    readUint32 origin offset message = .ok (le32toh ((origin.drop offset).take 4)) := by
  have hlen : ((origin.drop offset).take 4).length = 4 := by
    rw [List.length_take, List.length_drop]
    omega
  exact if_pos hlen

/-- The part of `main` before the two payloads. -/
theorem unpack_header (buf : Buffer C.bufsiz) {origin : List UInt8}
    (h : bootheader.sizeof ≤ origin.length) :
    ∃ buf' : Buffer C.bufsiz, unpack buf origin = copyPayloads buf' origin
      (le32toh ((bootheader.load origin h).field .bzImageSize))
      (le32toh ((bootheader.load origin h).field .initrdSize))
      ((bootheader.load origin h).field .cmdline) := by
  have hsizeof : bootheader.sizeof = 13280 := rfl
  have hvalue : cmdlineEnd = 2016 := rfl
  have hcmdlineLen : cmdlineSize ≤ (origin.drop cmdlineStart).length := by
    rw [List.length_drop]
    unfold cmdlineSize cmdlineStart
    omega
  have hend : cmdlineEnd + 4 ≤ origin.length := by omega
  have hend' : cmdlineEnd + 4 + 4 ≤ origin.length := by omega
  obtain ⟨buf', hcmdline⟩ := Stdio.copyMissing_spec C.bufsiz_pos buf hcmdlineLen []
  refine ⟨buf', ?_⟩
  unfold unpack
  rw [hcmdline]
  show (readUint32 origin cmdlineEnd _ >>= _) = _
  rw [readUint32_eq hend]
  show (readUint32 origin (cmdlineEnd + 4) _ >>= _) = _
  rw [readUint32_eq hend']
  rfl

variable {origin : List UInt8} (hheader : bootheader.sizeof ≤ origin.length) {bzImage ramdisk : ℕ}
  (hbzImage : le32toh ((bootheader.load origin hheader).field .bzImageSize) = bzImage)
  (hramdisk : le32toh ((bootheader.load origin hheader).field .initrdSize) = ramdisk)
include hbzImage hramdisk

/-- **What `unpack` takes** from an image that is long enough for the sizes in its header. -/
theorem unpack_eq (buf : Buffer C.bufsiz) (hlen : payloadEnd bzImage ramdisk ≤ origin.length) :
    unpack buf origin = .ok
      { bzImage := (origin.drop bootheader.sizeof).take bzImage
        ramdisk := (origin.drop (bootheader.sizeof + bzImage)).take ramdisk
        cmdline := (bootheader.load origin hheader).field .cmdline } := by
  have hholds : HoldsPayloads origin bzImage ramdisk := by
    unfold payloadEnd at hlen
    unfold HoldsPayloads
    omega
  obtain ⟨buf₁, hunpack⟩ := unpack_header buf hheader
  rw [hunpack, hbzImage, hramdisk, copyPayloads_eq C.bufsiz_pos, if_pos hholds]

/-- **An image that ends too early** is not unpacked: one of the loops waits at its end. -/
theorem unpack_truncated (buf : Buffer C.bufsiz)
    (hlen : origin.length < payloadEnd bzImage ramdisk) :
    unpack buf origin = .error .endless := by
  have hmissing : ¬ HoldsPayloads origin bzImage ramdisk := by
    unfold payloadEnd at hlen
    unfold HoldsPayloads
    omega
  obtain ⟨buf₁, hunpack⟩ := unpack_header buf hheader
  rw [hunpack, hbzImage, hramdisk, copyPayloads_eq C.bufsiz_pos, if_neg hmissing]

end CtpCommon.Mkbootimg
