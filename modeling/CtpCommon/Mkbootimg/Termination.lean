import CtpCommon.Mkbootimg.RoundTrip

/-!
# When `unpack` ends

The three loops of `unpack.c` run until as many bytes have been copied as they were asked for, and a
turn that finds the end of the file copies none.

* `unpackTurns` — `main` with a bound on the turns of each loop;
* `unpackTurns_outcome` — **PROVED**: with enough turns it does what `unpack` says;
* `unpack_cases` — **PROVED**: what `unpack` does with a file of any length;
* `ends_iff` — **PROVED**: the files on which it ends.
-/

namespace CtpCommon.Mkbootimg

open Stdio (Buffer Failure Outcome copyTurns copyTurns_outcome)

/-- The bytes of a file at the places its header names. -/
def existing (origin : List UInt8) : Unpacked where
  bzImage := (origin.drop bootheader.sizeof).take (headerWord origin .bzImageSize)
  ramdisk := (origin.drop (bootheader.sizeof + headerWord origin .bzImageSize)).take
    (headerWord origin .initrdSize)
  cmdline := (origin.drop cmdlineStart).take cmdlineSize

variable {C : CLibrary}

/-! ### A file of any length -/

theorem readUint32_short {origin : List UInt8} {offset : ℕ} (h : origin.length < offset + 4)
    (message : String) : readUint32 origin offset message = .error (.error message) := by
  refine if_neg ?_
  rw [List.length_take, List.length_drop]
  omega

/-- **What `unpack` does**, from the start of the file to its end. -/
theorem unpack_cases (buf : Buffer C.bufsiz) (origin : List UInt8) : unpack buf origin =
    if origin.length < cmdlineEnd then .error .endless
    else if origin.length < cmdlineEnd + 4 then
      .error (.error "ERROR: failed to read bzImage length\n")
    else if origin.length < cmdlineEnd + 8 then
      .error (.error "ERROR: failed to read ramdisk length\n")
    else if HoldsPayloads origin (headerWord origin .bzImageSize) (headerWord origin .initrdSize)
      then .ok (existing origin)
    else .error .endless := by
  have hstart : cmdlineStart + cmdlineSize = cmdlineEnd := rfl
  unfold unpack
  by_cases hcmdline : origin.length < cmdlineEnd
  · have hshort : (origin.drop cmdlineStart).length < cmdlineSize := by
      rw [List.length_drop]
      have hpos : 0 < cmdlineSize := by decide
      omega
    rw [if_pos hcmdline, Stdio.copyMissing_endless buf hshort]
    rfl
  have hlong : cmdlineSize ≤ (origin.drop cmdlineStart).length := by
    rw [List.length_drop]
    omega
  obtain ⟨buf', hcopy⟩ := Stdio.copyMissing_spec C.bufsiz_pos buf hlong []
  rw [if_neg hcmdline, hcopy]
  show (readUint32 origin cmdlineEnd _ >>= _) = _
  by_cases hbzImage : origin.length < cmdlineEnd + 4
  · rw [if_pos hbzImage, readUint32_short hbzImage]
    rfl
  rw [if_neg hbzImage, readUint32_eq (Nat.not_lt.mp hbzImage)]
  show (readUint32 origin (cmdlineEnd + 4) _ >>= _) = _
  by_cases hramdisk : origin.length < cmdlineEnd + 8
  · rw [if_pos hramdisk, readUint32_short hramdisk]
    rfl
  rw [if_neg hramdisk, readUint32_eq (Nat.not_lt.mp hramdisk)]
  exact copyPayloads_eq C.bufsiz_pos ..

/-! ### Turn by turn -/

/-- `main` of `unpack.c`, each of its loops taking at most so many turns. -/
def unpackTurns (turns : ℕ) (buf : Buffer C.bufsiz) (origin : List UInt8) :
    ExceptT Failure Option Unpacked := do
  let (buf, cmdline) ← copyTurns turns buf cmdlineSize (origin.drop cmdlineStart) []
  let bzImageLen ← ExceptT.mk (some
    (readUint32 origin cmdlineEnd "ERROR: failed to read bzImage length\n"))
  let ramdiskLen ← ExceptT.mk (some
    (readUint32 origin (cmdlineEnd + 4) "ERROR: failed to read ramdisk length\n"))
  let (buf, bzImage) ← copyTurns turns buf bzImageLen (origin.drop bootheader.sizeof) []
  let (_, ramdisk) ←
    copyTurns turns buf ramdiskLen (origin.drop (bootheader.sizeof + bzImageLen)) []
  return ⟨bzImage, ramdisk, cmdline⟩

theorem readUint32_ne_endless (origin : List UInt8) (offset : ℕ) (message : String) :
    readUint32 origin offset message ≠ .error .endless := by
  unfold readUint32
  split <;> simp

/-- **`unpack` is what the turns amount to.** -/
theorem unpackTurns_outcome (buf : Buffer C.bufsiz) (origin : List UInt8) :
    Outcome (fun turns => unpackTurns turns buf origin) (unpack buf origin) := by
  refine Outcome.bind (copyTurns_outcome buf _ _ _) fun r => ?_
  refine Outcome.bind (.straight (readUint32_ne_endless _ _ _)) fun bzImageLen => ?_
  refine Outcome.bind (.straight (readUint32_ne_endless _ _ _)) fun ramdiskLen => ?_
  refine Outcome.bind (copyTurns_outcome r.1 _ _ _) fun r' => ?_
  refine Outcome.bind (copyTurns_outcome r'.1 _ _ _) fun r'' => ?_
  exact .straight (by simp)

/-- `main` ends, with an error or with the bytes that exist. -/
def Ends (buf : Buffer C.bufsiz) (origin : List UInt8) : Prop :=
  ∃ turns r, (unpackTurns turns buf origin).run = some r ∧
    ((∃ message, r = .error (.error message)) ∨ r = .ok (existing origin))

theorem ends_iff_unpack (buf : Buffer C.bufsiz) (origin : List UInt8) :
    Ends buf origin ↔
      (∃ message, unpack buf origin = .error (.error message)) ∨
        unpack buf origin = .ok (existing origin) := by
  have hiff := fun r => (unpackTurns_outcome buf origin).run_iff (r := r)
  constructor
  · rintro ⟨turns, r, hrun, hr⟩
    obtain ⟨rfl, -⟩ := (hiff r).mp ⟨turns, hrun⟩
    exact hr
  · intro h
    have hne : unpack buf origin ≠ .error .endless := by
      rcases h with ⟨message, h⟩ | h <;> rw [h] <;> simp
    obtain ⟨turns, hrun⟩ := (hiff _).mpr ⟨rfl, hne⟩
    exact ⟨turns, _, hrun, h⟩

/-- **When `unpack` ends**: the file holds the whole command line, and then either ends before the
two lengths do or holds the payloads they ask for. -/
theorem ends_iff (buf : Buffer C.bufsiz) (origin : List UInt8) :
    Ends buf origin ↔ cmdlineEnd ≤ origin.length ∧
      (origin.length < cmdlineEnd + 8 ∨
        HoldsPayloads origin (headerWord origin .bzImageSize)
          (headerWord origin .initrdSize)) := by
  rw [ends_iff_unpack, unpack_cases]
  by_cases hcmdline : origin.length < cmdlineEnd
  · rw [if_pos hcmdline]
    constructor
    · rintro (⟨message, h⟩ | h) <;> exact absurd h (by simp)
    · rintro ⟨h, -⟩
      omega
  rw [if_neg hcmdline]
  by_cases hbzImage : origin.length < cmdlineEnd + 4
  · rw [if_pos hbzImage]
    exact ⟨fun _ => ⟨by omega, .inl (by omega)⟩, fun _ => .inl ⟨_, rfl⟩⟩
  rw [if_neg hbzImage]
  by_cases hramdisk : origin.length < cmdlineEnd + 8
  · rw [if_pos hramdisk]
    exact ⟨fun _ => ⟨by omega, .inl (by omega)⟩, fun _ => .inl ⟨_, rfl⟩⟩
  rw [if_neg hramdisk]
  by_cases hholds : HoldsPayloads origin (headerWord origin .bzImageSize)
      (headerWord origin .initrdSize)
  · rw [if_pos hholds]
    exact ⟨fun _ => ⟨by omega, .inr hholds⟩, fun _ => .inr rfl⟩
  · rw [if_neg hholds]
    constructor
    · rintro (⟨message, h⟩ | h) <;> exact absurd h (by simp)
    · rintro ⟨-, h | h⟩
      · exact absurd h hramdisk
      · exact absurd h hholds

/-- On the empty file no number of turns is enough for the command line. -/
theorem emptyFile_waits (buf : Buffer C.bufsiz) (turns : ℕ) :
    (unpackTurns turns buf []).run = none := by
  refine (unpackTurns_outcome buf []).waits ?_ turns
  rw [unpack_cases]
  exact if_pos (by decide)

theorem emptyFile_endless : ¬ Ends (stackWith 0).buf [] := by
  rintro ⟨turns, r, hrun, -⟩
  exact absurd ((emptyFile_waits (stackWith 0).buf turns).symm.trans hrun) (by simp)

end CtpCommon.Mkbootimg
