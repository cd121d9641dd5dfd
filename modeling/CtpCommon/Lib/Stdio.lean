import Mathlib.Data.List.Basic
import Mathlib.Data.Nat.Init

/-!
# Files copied through a local array

A C program that copies files with `fread` and `fwrite` through a local array can fail in three
ways: it reports an error and ends, it passes the array a size larger than the array, or it waits
at the end of a file for bytes that do not come.

* `Buffer` — a local array of `n` bytes;
* `Failure` — the three ways;
* `memset`, `fread`, `fwrite` — on such an array; a size above `n` is an overrun;
* `set`, `sprintf`, `string` — one byte, a text and the text of such an array;
* `copyAll` — `while ((size = fread(buf, 1, n, file))) fwrite(buf, 1, size, out);`
* `copyMissing` — the loop that copies a given number of bytes;
* `copyAll_spec`, `copyMissing_spec`, `copyMissing_endless` — **PROVED**: the first loop copies
  the whole file; the second copies the bytes it is asked for when the file has them and does not
  end when it has not;
* `Outcome` — what a program does whose loops may take any number of turns;
* `copyTurns`, `copyTurns_outcome` — **PROVED**: the second loop, turn by turn, does what
  `copyMissing` says, and where that is `endless` no number of turns is enough.

Nothing here is specific to a program.
-/

namespace CtpCommon.Stdio

/-- How a program fails: an error message, a size beyond the end of an array, a loop that does
not end. -/
inductive Failure where
  | error (message : String)
  | overrun
  | endless
  deriving DecidableEq, Repr

/-- A local array of `n` bytes. -/
structure Buffer (n : ℕ) where
  bytes : List UInt8
  length_bytes : bytes.length = n

variable {n : ℕ}

namespace Buffer

/-- Put some bytes at the front of the array. -/
def put (b : Buffer n) (bs : List UInt8) (h : bs.length ≤ n) : Buffer n where
  bytes := bs ++ b.bytes.drop bs.length
  length_bytes := by
    rw [List.length_append, List.length_drop, b.length_bytes]
    omega

theorem take_put (b : Buffer n) {bs : List UInt8} (h : bs.length ≤ n) {size : ℕ}
    (hsize : bs.length = size) : (b.put bs h).bytes.take size = bs := by
  subst hsize
  exact List.take_left

def memset (b : Buffer n) (byte : UInt8) (size : ℕ) : Except Failure (Buffer n) :=
  if h : size ≤ n then .ok (b.put (List.replicate size byte) (by simpa using h))
  else .error .overrun

/-- What is written to the file `out` from the front of the array. -/
def fwrite (b : Buffer n) (size : ℕ) (out : List UInt8) : Except Failure (List UInt8) :=
  if size ≤ n then .ok (out ++ b.bytes.take size) else .error .overrun

/-- The result of `fread`: how many bytes came, the array, and the rest of the file. -/
structure Read (n : ℕ) where
  size : ℕ
  buf : Buffer n
  rest : List UInt8

/-- At most `count` bytes; fewer come only at the end of the file. -/
def fread (b : Buffer n) (count : ℕ) (h : count ≤ n) (file : List UInt8) : Read n where
  size := (file.take count).length
  buf := b.put (file.take count) (by
    rw [List.length_take]
    omega)
  rest := file.drop count

/-- Writing what has been read. -/
theorem fwrite_fread (b : Buffer n) {count : ℕ} (h : count ≤ n) (file out : List UInt8) :
    (b.fread count h file).buf.fwrite (b.fread count h file).size out
      = .ok (out ++ file.take count) := by
  have hsize : (file.take count).length ≤ n := by
    rw [List.length_take]
    omega
  show (b.put _ hsize).fwrite (file.take count).length out = _
  unfold fwrite
  rw [if_pos hsize, b.take_put hsize rfl]

theorem memset_overrun (b : Buffer n) (byte : UInt8) {size : ℕ} (h : n < size) :
    b.memset byte size = .error .overrun := dif_neg (Nat.not_le.mpr h)

/-- Filling the front of the array and writing it. -/
theorem memset_fwrite (b : Buffer n) (byte : UInt8) {size : ℕ} (h : size ≤ n)
    (out : List UInt8) :
    (b.memset byte size >>= fun b => b.fwrite size out)
      = .ok (out ++ List.replicate size byte) := by
  unfold memset
  rw [dif_pos h]
  show (b.put (List.replicate size byte) _).fwrite size out = _
  unfold fwrite
  rw [if_pos h, b.take_put _ List.length_replicate]

/-- `buf[i] = byte`. -/
def set (b : Buffer n) (i : ℕ) (byte : UInt8) : Option (Buffer n) :=
  if i < n then some ⟨b.bytes.set i byte, by rw [List.length_set, b.length_bytes]⟩ else none

/-- An assignment behind the bytes that are in use. -/
theorem set_spec (b : Buffer n) {i : ℕ} (h : i < n) (byte : UInt8) :
    ∃ b', b.set i byte = some b' ∧ b'.bytes.take (i + 1) = b.bytes.take i ++ [byte] := by
  refine ⟨_, if_pos h, ?_⟩
  have hi : i < b.bytes.length := by
    rw [b.length_bytes]
    exact h
  show (b.bytes.set i byte).take (i + 1) = _
  rw [List.take_add_one, List.take_set_of_le (Nat.le_refl i), List.getElem?_set_self hi]
  rfl

/-- `sprintf(buf, ..)`, which puts a NUL behind the text. -/
def sprintf (b : Buffer n) (text : List UInt8) : Option (Buffer n) :=
  if h : (text ++ [0]).length ≤ n then some (b.put (text ++ [0]) h) else none

theorem sprintf_spec (b : Buffer n) {text : List UInt8} (h : text.length < n) :
    ∃ b', b.sprintf text = some b' ∧ b'.bytes.take text.length = text := by
  have hlength : (text ++ [0]).length ≤ n := by
    rw [List.length_append]
    exact h
  refine ⟨_, dif_pos hlength, ?_⟩
  show (text ++ [0] ++ _).take text.length = text
  rw [List.append_assoc]
  exact List.take_left

/-- What `%s` prints: the bytes before the first NUL, which has to be in the array. -/
def string (b : Buffer n) : Option (List UInt8) :=
  if 0 ∈ b.bytes then some (b.bytes.takeWhile (· ≠ 0)) else none

theorem string_spec (b : Buffer n) {text : List UInt8} (htext : ∀ c ∈ text, c ≠ 0)
    (h : b.bytes.take (text.length + 1) = text ++ [0]) : b.string = some text := by
  have hbytes : b.bytes = text ++ 0 :: b.bytes.drop (text.length + 1) := by
    have hall := List.take_append_drop (text.length + 1) b.bytes
    rw [h, List.append_assoc] at hall
    exact hall.symm
  have hwhile : b.bytes.takeWhile (· ≠ 0) = text := by
    rw [hbytes, List.takeWhile_append_of_pos (fun c hc => decide_eq_true (htext c hc)),
      List.takeWhile_cons_of_neg (by decide), List.append_nil]
  have hmem : 0 ∈ b.bytes := by
    rw [hbytes]
    exact List.mem_append_right _ List.mem_cons_self
  rw [string, if_pos hmem, hwhile]

end Buffer

/-! ### The two loops -/

/-- Copy a file to its end. -/
def copyAll (b : Buffer n) (file out : List UInt8) : Except Failure (Buffer n × List UInt8) :=
  let r := b.fread n (Nat.le_refl n) file
  if _hend : r.size = 0 then .ok (r.buf, out)
  else
    match r.buf.fwrite r.size out with
    | .error e => .error e
    | .ok out => copyAll r.buf r.rest out
termination_by file.length
decreasing_by
  have hpos : (file.take n).length ≠ 0 := _hend
  rw [List.length_take] at hpos
  show (file.drop n).length < file.length
  rw [List.length_drop]
  omega

/-- Copy `missing` bytes, at most a whole array at once; at the end of the file `fread` returns
`0` again and again. -/
def copyMissing (b : Buffer n) (missing : ℕ) (file out : List UInt8) :
    Except Failure (Buffer n × List UInt8) :=
  if _hmissing : missing = 0 then .ok (b, out)
  else
    let r := b.fread (min n missing) (Nat.min_le_left ..) file
    if _hend : r.size = 0 then .error .endless
    else
      match r.buf.fwrite r.size out with
      | .error e => .error e
      | .ok out => copyMissing r.buf (missing - r.size) r.rest out
termination_by missing
decreasing_by
  have hpos : 0 < r.size := Nat.pos_of_ne_zero _hend
  exact Nat.sub_lt (Nat.pos_of_ne_zero _hmissing) hpos

/-- At the end of the file the first loop ends. -/
theorem copyAll_end (b : Buffer n) {file : List UInt8} (h : (file.take n).length = 0)
    (out : List UInt8) :
    copyAll b file out = .ok ((b.fread n (Nat.le_refl n) file).buf, out) := by
  rw [copyAll]
  exact dif_pos h

/-- One turn of the first loop. -/
theorem copyAll_turn (b : Buffer n) {file : List UInt8} (h : (file.take n).length ≠ 0)
    (out : List UInt8) :
    copyAll b file out
      = copyAll (b.fread n (Nat.le_refl n) file).buf (file.drop n) (out ++ file.take n) := by
  rw [copyAll]
  refine (dif_neg h).trans ?_
  rw [b.fwrite_fread]
  rfl

theorem copyMissing_zero (b : Buffer n) (file out : List UInt8) :
    copyMissing b 0 file out = .ok (b, out) := by
  rw [copyMissing]
  exact dif_pos rfl

/-- At the end of the file the second loop does not end. -/
theorem copyMissing_end (b : Buffer n) {missing : ℕ} (hmissing : missing ≠ 0)
    {file : List UInt8} (h : (file.take (min n missing)).length = 0) (out : List UInt8) :
    copyMissing b missing file out = .error .endless := by
  rw [copyMissing]
  exact (dif_neg hmissing).trans (dif_pos h)

/-- One turn of the second loop. -/
theorem copyMissing_turn (b : Buffer n) {missing : ℕ} (hmissing : missing ≠ 0)
    {file : List UInt8} (h : (file.take (min n missing)).length ≠ 0) (out : List UInt8) :
    copyMissing b missing file out
      = copyMissing (b.fread (min n missing) (Nat.min_le_left ..) file).buf
          (missing - (file.take (min n missing)).length) (file.drop (min n missing))
          (out ++ file.take (min n missing)) := by
  rw [copyMissing]
  refine (dif_neg hmissing).trans ((dif_neg h).trans ?_)
  rw [b.fwrite_fread]
  rfl

/-- **The first loop copies the file.** -/
theorem copyAll_spec (hn : 0 < n) (b : Buffer n) (file out : List UInt8) :
    ∃ b', copyAll b file out = .ok (b', out ++ file) := by
  induction hlen : file.length using Nat.strong_induction_on generalizing b file out with
  | _ len ih =>
    by_cases hend : (file.take n).length = 0
    · have hnil : file = [] := by
        rw [List.length_take] at hend
        exact List.length_eq_zero_iff.mp (by omega)
      rw [copyAll_end b hend, hnil, List.append_nil]
      exact ⟨_, rfl⟩
    · have hshort : (file.drop n).length < len := by
        rw [List.length_take] at hend
        rw [List.length_drop]
        omega
      obtain ⟨b', hrest⟩ := ih _ hshort (b.fread n (Nat.le_refl n) file).buf (file.drop n)
        (out ++ file.take n) rfl
      rw [copyAll_turn b hend, hrest, List.append_assoc, List.take_append_drop]
      exact ⟨b', rfl⟩

/-- **The second loop copies what it is asked for** from a file that has it. -/
theorem copyMissing_spec (hn : 0 < n) (b : Buffer n) {missing : ℕ} {file : List UInt8}
    (h : missing ≤ file.length) (out : List UInt8) :
    ∃ b', copyMissing b missing file out = .ok (b', out ++ file.take missing) := by
  induction missing using Nat.strong_induction_on generalizing b file out with
  | _ missing ih =>
    by_cases hzero : missing = 0
    · rw [hzero, copyMissing_zero, List.take_zero, List.append_nil]
      exact ⟨b, rfl⟩
    · have hsize : (file.take (min n missing)).length = min n missing := by
        rw [List.length_take]
        omega
      have hrest : missing - min n missing ≤ (file.drop (min n missing)).length := by
        rw [List.length_drop]
        omega
      obtain ⟨b', hcopy⟩ := ih (missing - min n missing) (by omega)
        (b.fread (min n missing) (Nat.min_le_left ..) file).buf hrest
        (out ++ file.take (min n missing))
      have hall : min n missing + (missing - min n missing) = missing := by omega
      rw [copyMissing_turn b hzero (by omega), hsize, hcopy, List.append_assoc, ← List.take_add,
        hall]
      exact ⟨b', rfl⟩

/-- **The second loop does not end** on a file that is too short. -/
theorem copyMissing_endless (b : Buffer n) {missing : ℕ} {file : List UInt8}
    (h : file.length < missing) (out : List UInt8) :
    copyMissing b missing file out = .error .endless := by
  induction missing using Nat.strong_induction_on generalizing b file out with
  | _ missing ih =>
    by_cases hend : (file.take (min n missing)).length = 0
    · exact copyMissing_end b (by omega) hend out
    · rw [copyMissing_turn b (by omega) hend]
      refine ih _ (by omega) _ ?_ _
      rw [List.length_take] at hend ⊢
      rw [List.length_drop]
      omega

/-! ### Turns -/

/-- A program, by the number of turns its loops may take; `none` if a loop needs more.  It does `y`
with enough turns, and never ends if that is `endless`. -/
structure Outcome {α : Type} (x : ℕ → ExceptT Failure Option α) (y : Except Failure α) : Prop where
  agrees : ∀ turns, (x turns).run = none ∨ (x turns).run = some y
  ends : y ≠ .error .endless → ∃ enough, ∀ turns ≥ enough, (x turns).run = some y
  waits : y = .error .endless → ∀ turns, (x turns).run = none

namespace Outcome

variable {α β : Type} {x : ℕ → ExceptT Failure Option α} {y : Except Failure α}

/-- Code without loops. -/
theorem straight (h : y ≠ .error .endless) : Outcome (fun _ => ExceptT.mk (some y)) y where
  agrees _ := .inr rfl
  ends _ := ⟨0, fun _ _ => rfl⟩
  waits hendless := absurd hendless h

/-- **One after the other.** -/
theorem bind {f : α → ℕ → ExceptT Failure Option β} {g : α → Except Failure β}
    (hx : Outcome x y) (hf : ∀ a, Outcome (f a) (g a)) :
    Outcome (fun turns => x turns >>= fun a => f a turns) (y >>= g) := by
  have hnone : ∀ turns, (x turns).run = none → (x turns >>= fun a => f a turns).run = none := by
    intro turns h
    rw [ExceptT.run_bind, h]
    rfl
  cases y with
  | error e =>
    have hstop : ∀ turns, (x turns).run = some (.error e) →
        (x turns >>= fun a => f a turns).run = some (.error e) := by
      intro turns h
      rw [ExceptT.run_bind, h]
      rfl
    have hsame : (Except.error e >>= g) = .error .endless ↔ e = .endless :=
      ⟨Except.error.inj, congrArg Except.error⟩
    refine ⟨fun turns => (hx.agrees turns).imp (hnone turns) (hstop turns), fun h => ?_,
      fun h turns => hnone turns (hx.waits (congrArg Except.error (hsame.mp h)) turns)⟩
    obtain ⟨enough, henough⟩ := hx.ends fun heq => h (hsame.mpr (Except.error.inj heq))
    exact ⟨enough, fun turns hle => hstop turns (henough turns hle)⟩
  | ok a =>
    have hgo : ∀ turns, (x turns).run = some (.ok a) →
        (x turns >>= fun a => f a turns).run = (f a turns).run := by
      intro turns h
      rw [ExceptT.run_bind, h]
      rfl
    refine ⟨fun turns => ?_, fun h => ?_, fun h turns => ?_⟩
    · rcases hx.agrees turns with hwait | hdone
      · exact .inl (hnone turns hwait)
      · exact hgo turns hdone ▸ (hf a).agrees turns
    · obtain ⟨enough, henough⟩ := hx.ends (by simp)
      obtain ⟨enough', henough'⟩ := (hf a).ends h
      refine ⟨max enough enough', fun turns hle => ?_⟩
      rw [hgo turns (henough turns (by omega))]
      exact henough' turns (by omega)
    · rcases hx.agrees turns with hwait | hdone
      · exact hnone turns hwait
      · rw [hgo turns hdone]
        exact (hf a).waits h turns

/-- **Some number of turns is enough** for an outcome, unless that is to wait. -/
theorem run_iff (h : Outcome x y) {r : Except Failure α} :
    (∃ turns, (x turns).run = some r) ↔ y = r ∧ y ≠ .error .endless := by
  constructor
  · rintro ⟨turns, hrun⟩
    refine ⟨?_, fun hendless => ?_⟩
    · rcases h.agrees turns with hwait | hdone
      · exact absurd (hwait.symm.trans hrun) (by simp)
      · exact Option.some.inj (hdone.symm.trans hrun)
    · exact absurd ((h.waits hendless turns).symm.trans hrun) (by simp)
  · rintro ⟨rfl, hends⟩
    obtain ⟨enough, henough⟩ := h.ends hends
    exact ⟨enough, henough enough (Nat.le_refl _)⟩

end Outcome

/-- The second loop with at most so many turns.  A turn at the end of the file copies nothing. -/
def copyTurns : ℕ → Buffer n → ℕ → List UInt8 → List UInt8 →
    ExceptT Failure Option (Buffer n × List UInt8)
  | turns, b, missing, file, out =>
      if missing = 0 then ExceptT.mk (some (.ok (b, out)))
      else
        match turns with
        | 0 => ExceptT.mk none
        | turns + 1 =>
            let r := b.fread (min n missing) (Nat.min_le_left ..) file
            if r.size = 0 then copyTurns turns r.buf missing r.rest out
            else
              match r.buf.fwrite r.size out with
              | .error e => ExceptT.mk (some (.error e))
              | .ok out => copyTurns turns r.buf (missing - r.size) r.rest out

theorem copyTurns_zero (turns : ℕ) (b : Buffer n) (file out : List UInt8) :
    copyTurns turns b 0 file out = ExceptT.mk (some (.ok (b, out))) := by
  unfold copyTurns
  exact if_pos rfl

/-- A turn at the end of the file leaves all as it is, but for the array. -/
theorem copyTurns_wait (turns : ℕ) (b : Buffer n) {missing : ℕ} (hmissing : missing ≠ 0)
    {file : List UInt8} (h : (file.take (min n missing)).length = 0) (out : List UInt8) :
    copyTurns (turns + 1) b missing file out
      = copyTurns turns (b.fread (min n missing) (Nat.min_le_left ..) file).buf missing file
          out := by
  have hrest : file.drop (min n missing) = file := by
    have hwhole := List.take_append_drop (min n missing) file
    rw [List.length_eq_zero_iff.mp h, List.nil_append] at hwhole
    exact hwhole
  rw [copyTurns, if_neg hmissing]
  refine (if_pos h).trans ?_
  exact congrArg (fun rest => copyTurns turns _ missing rest out) hrest

/-- A turn that copies. -/
theorem copyTurns_turn (turns : ℕ) (b : Buffer n) {missing : ℕ} (hmissing : missing ≠ 0)
    {file : List UInt8} (h : (file.take (min n missing)).length ≠ 0) (out : List UInt8) :
    copyTurns (turns + 1) b missing file out
      = copyTurns turns (b.fread (min n missing) (Nat.min_le_left ..) file).buf
          (missing - (file.take (min n missing)).length) (file.drop (min n missing))
          (out ++ file.take (min n missing)) := by
  rw [copyTurns, if_neg hmissing]
  refine (if_neg h).trans ?_
  rw [b.fwrite_fread]
  rfl

/-- At the end of the file no number of turns is enough. -/
theorem copyTurns_end (turns : ℕ) (b : Buffer n) {missing : ℕ} (hmissing : missing ≠ 0)
    {file : List UInt8} (h : (file.take (min n missing)).length = 0) (out : List UInt8) :
    (copyTurns turns b missing file out).run = none := by
  induction turns generalizing b with
  | zero =>
    rw [copyTurns, if_neg hmissing]
    rfl
  | succ turns ih =>
    rw [copyTurns_wait turns b hmissing h]
    exact ih _

/-- **The second loop, turn by turn**, has the outcome of `copyMissing`. -/
theorem copyTurns_outcome (b : Buffer n) (missing : ℕ) (file out : List UInt8) :
    Outcome (fun turns => copyTurns turns b missing file out) (copyMissing b missing file out) := by
  induction missing using Nat.strong_induction_on generalizing b file out with
  | _ missing ih =>
    by_cases hzero : missing = 0
    · subst hzero
      rw [copyMissing_zero]
      simp only [copyTurns_zero]
      exact .straight (by simp)
    by_cases hend : (file.take (min n missing)).length = 0
    · rw [copyMissing_end b hzero hend]
      have hwait := fun turns => copyTurns_end turns b hzero hend out
      exact ⟨fun turns => .inl (hwait turns), fun h => absurd rfl h, fun _ => hwait⟩
    · rw [copyMissing_turn b hzero hend]
      have hrest := ih _ (Nat.sub_lt (Nat.pos_of_ne_zero hzero) (Nat.pos_of_ne_zero hend))
        (b.fread (min n missing) (Nat.min_le_left ..) file).buf (file.drop (min n missing))
        (out ++ file.take (min n missing))
      have hstart : (copyTurns 0 b missing file out).run = none := by
        rw [copyTurns, if_neg hzero]
        rfl
      refine ⟨fun turns => ?_, fun h => ?_, fun h turns => ?_⟩
      · cases turns with
        | zero => exact .inl hstart
        | succ turns => exact copyTurns_turn turns b hzero hend out ▸ hrest.agrees turns
      · obtain ⟨enough, henough⟩ := hrest.ends h
        refine ⟨enough + 1, fun turns hle => ?_⟩
        obtain ⟨k, rfl⟩ := Nat.exists_eq_add_of_le' (Nat.le_of_lt_succ (Nat.lt_succ_of_le hle))
        rw [← Nat.add_assoc, copyTurns_turn _ b hzero hend]
        exact henough _ (by omega)
      · cases turns with
        | zero => exact hstart
        | succ turns => exact copyTurns_turn turns b hzero hend out ▸ hrest.waits h turns

end CtpCommon.Stdio
