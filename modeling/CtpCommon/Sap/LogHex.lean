import CtpCommon.Lib.Stdio

/-!
# The hex dump

`log_hex` of `RilSapSocket.cpp` logs every record and every response, sixteen bytes on a line of
eighty.

* `logHex` — the lines it logs.  A write outside `out`, a read beyond the buffer, a line without a
  NUL and a loop that needs more turns than it is given are `none`;
* `readOffset`, `readValues` — a line read back: the offset in its prefix, and its bytes;
* `logHex_lines` — **PROVED**: with a turn for every byte and one more, the lines are logged, and
  read back they are the buffer.
-/

namespace CtpCommon.Sap

open Stdio (Buffer)

/-! ### The function -/

/-- `BYTES_PER_LINE`. -/
def bytesPerLine : ℕ := 16

/-- `sizeof(out)`. -/
def destLen : ℕ := 80

def nibbleToHex (nibble : UInt8) : UInt8 :=
  let n := nibble &&& 0x0f
  if nibble ≥ 10 then 65 + n - 10 else 48 + n

def hexHigh (b : UInt8) : UInt8 := nibbleToHex ((b >>> 4) &&& 0x0f)

def hexLow (b : UInt8) : UInt8 := nibbleToHex (b &&& 0x0f)

/-- A digit of `%x`. -/
def lowerHex (d : ℕ) : UInt8 := UInt8.ofNat (if d < 10 then 48 + d else 97 + d - 10)

/-- `%8.8s`: at most eight characters, and blanks before them. -/
def formatString (who : List UInt8) : List UInt8 :=
  let text := (who.takeWhile (· ≠ 0)).take 8
  List.replicate (8 - text.length) 32 ++ text

/-- `%8.8x`. -/
def formatHex (n : ℕ) : List UInt8 :=
  [268435456, 16777216, 1048576, 65536, 4096, 256, 16, 1].map fun d => lowerHex (n / d % 16)

/-- `"%8.8s [%8.8x] "`. -/
def linePrefix (who : List UInt8) (source : ℕ) : List UInt8 :=
  formatString who ++ ([32, 91] ++ (formatHex source ++ [93, 32]))

structure LogState where
  out : Buffer destLen
  source : ℕ
  dest : ℕ
  perLine : ℕ
  log : List (List UInt8)

section

variable (who buffer : List UInt8) (length : ℕ)

/-- The `for` loop. -/
def fillLine : ℕ → LogState → Option LogState
  | 0, _ => none
  | turns + 1, s =>
      if s.source < length ∧ destLen - s.dest > 3 ∧ s.perLine < bytesPerLine then do
        let b ← buffer[s.source]?
        let out ← s.out.set s.dest (hexHigh b)
        let out ← out.set (s.dest + 1) (hexLow b)
        let out ← out.set (s.dest + 2) 32
        fillLine turns { s with
          out := out, dest := s.dest + 3, source := s.source + 1, perLine := s.perLine + 1 }
      else some s

/-- One turn of the `do` loop. -/
def logLine (turns : ℕ) (s : LogState) : Option LogState := do
  let out ← s.out.sprintf (linePrefix who s.source)
  let s ← fillLine buffer length turns { s with
    out := out, dest := s.dest + (linePrefix who s.source).length }
  if s.dest < destLen ∧ (s.perLine = bytesPerLine ∨ s.source ≥ length) then
    let out ← s.out.set s.dest 0
    let text ← out.string
    return { s with out := out, perLine := 0, dest := 0, log := s.log ++ [text] }
  else
    return s

def logLines (turns : ℕ) : ℕ → LogState → Option LogState
  | 0, _ => none
  | rounds + 1, s => do
      let s ← logLine who buffer length turns s
      if s.source < length ∧ s.dest < destLen then logLines turns rounds s else return s

/-- `log_hex`, with the stack where `out` is. -/
def logHex (turns : ℕ) (out : Buffer destLen) : Option (List (List UInt8)) :=
  (logLines who buffer length turns turns ⟨out, 0, 0, 0, []⟩).map LogState.log

end

/-! ### Lines read back -/

/-- The value of a digit, with these letters for ten to fifteen. -/
def digitValue (letter : UInt8) (c : UInt8) : Option ℕ :=
  if 48 ≤ c ∧ c ≤ 57 then some (c.toNat - 48)
  else if letter ≤ c ∧ c ≤ letter + 5 then some (c.toNat - letter.toNat + 10)
  else none

/-- The number some lower-case digits stand for. -/
def readNumber : ℕ → List UInt8 → Option ℕ
  | n, [] => some n
  | n, c :: cs => (digitValue 97 c).bind fun d => readNumber (n * 16 + d) cs

/-- The offset in the prefix of a line. -/
def readOffset (line : List UInt8) : Option ℕ := readNumber 0 ((line.drop 10).take 8)

/-- The bytes on a line: two upper-case digits and a blank for each. -/
def readBytes : List UInt8 → Option (List UInt8)
  | [] => some []
  | high :: low :: 32 :: rest => do
      let high ← digitValue 65 high
      let low ← digitValue 65 low
      let bytes ← readBytes rest
      return UInt8.ofNat (high * 16 + low) :: bytes
  | _ => none

/-- The values behind the prefix. -/
def readValues (line : List UInt8) : Option (List UInt8) := readBytes (line.drop 20)

/-- The characters for one byte. -/
def hexByte (b : UInt8) : List UInt8 := [hexHigh b, hexLow b, 32]

/-! #### Digits -/

theorem nibbleToHex_spec {n : UInt8} (h : n.toNat < 16) :
    digitValue 65 (nibbleToHex n) = some n.toNat ∧ nibbleToHex n ≠ 0 := by
  have hall : ∀ k : Fin 16, digitValue 65 (nibbleToHex (UInt8.ofNat k)) = some (k : ℕ) ∧
      nibbleToHex (UInt8.ofNat k) ≠ 0 := by decide
  have hn := hall ⟨n.toNat, h⟩
  rw [UInt8.ofNat_toNat] at hn
  exact hn

theorem lowerHex_spec {d : ℕ} (h : d < 16) :
    digitValue 97 (lowerHex d) = some d ∧ lowerHex d ≠ 0 := by
  have hall : ∀ k : Fin 16, digitValue 97 (lowerHex k) = some (k : ℕ) ∧ lowerHex k ≠ 0 := by
    decide
  exact hall ⟨d, h⟩

theorem toNat_high (b : UInt8) : ((b >>> 4) &&& 0x0f).toNat = b.toNat / 16 := by
  have hlt := b.toNat_lt
  have hand := Nat.and_two_pow_sub_one_eq_mod (b.toNat >>> 4) 4
  have hshift := Nat.shiftRight_eq_div_pow b.toNat 4
  rw [UInt8.toNat_and, UInt8.toNat_shiftRight]
  show (b.toNat >>> 4) &&& 15 = _
  simp only [Nat.reducePow, Nat.reduceSub] at hand hshift
  rw [hand, hshift]
  omega

theorem toNat_low (b : UInt8) : (b &&& 0x0f).toNat = b.toNat % 16 := by
  have hand := Nat.and_two_pow_sub_one_eq_mod b.toNat 4
  simp only [Nat.reducePow, Nat.reduceSub] at hand
  rw [UInt8.toNat_and]
  exact hand

theorem hexHigh_spec (b : UInt8) :
    digitValue 65 (hexHigh b) = some (b.toNat / 16) ∧ hexHigh b ≠ 0 := by
  have hlt := b.toNat_lt
  rw [← toNat_high]
  exact nibbleToHex_spec (by rw [toNat_high]; omega)

theorem hexLow_spec (b : UInt8) :
    digitValue 65 (hexLow b) = some (b.toNat % 16) ∧ hexLow b ≠ 0 := by
  rw [← toNat_low]
  exact nibbleToHex_spec (by rw [toNat_low]; omega)

/-- **The bytes of a line are read back.** -/
theorem readBytes_hexBytes (bs : List UInt8) : readBytes (bs.flatMap hexByte) = some bs := by
  induction bs with
  | nil => rfl
  | cons b bs ih =>
    show readBytes (hexHigh b :: hexLow b :: 32 :: bs.flatMap hexByte) = _
    have hbyte : b.toNat / 16 * 16 + b.toNat % 16 = b.toNat := by omega
    rw [readBytes, (hexHigh_spec b).1, (hexLow_spec b).1, ih]
    simp only [Option.bind_eq_bind, Option.bind_some, Option.pure_def, hbyte, UInt8.ofNat_toNat]

/-! #### The prefix -/

theorem length_formatString (who : List UInt8) : (formatString who).length = 8 := by
  unfold formatString
  rw [List.length_append, List.length_replicate, List.length_take]
  omega

theorem length_linePrefix (who : List UInt8) (source : ℕ) :
    (linePrefix who source).length = 20 := by
  unfold linePrefix formatHex
  simp only [List.length_append, length_formatString, List.length_map, List.length_cons,
    List.length_nil]

/-- One more digit of a number. -/
theorem digit_step (n d : ℕ) : n / (d * 16) * 16 + n / d % 16 = n / d := by
  rw [← Nat.div_div_eq_div_mul]
  exact Nat.div_add_mod' (n / d) 16

theorem readNumber_formatHex {n : ℕ} (h : n < 4294967296) :
    readNumber 0 (formatHex n) = some n := by
  have hdigit : ∀ d, digitValue 97 (lowerHex (n / d % 16)) = some (n / d % 16) := fun d =>
    (lowerHex_spec (Nat.mod_lt _ (by decide))).1
  -- nothing stands above the first digit
  have hzero : 0 = n / (268435456 * 16) := (Nat.div_eq_of_lt h).symm
  unfold formatHex
  simp only [List.map_cons, List.map_nil, readNumber, hdigit, Option.bind_some, Option.some.injEq]
  rw [hzero, digit_step n 268435456, digit_step n 16777216, digit_step n 1048576,
    digit_step n 65536, digit_step n 4096, digit_step n 256, digit_step n 16, digit_step n 1,
    Nat.div_one]

/-- **The offset of a line is read back.** -/
theorem readOffset_line (who : List UInt8) {source : ℕ} (h : source < 4294967296)
    (text : List UInt8) : readOffset (linePrefix who source ++ text) = some source := by
  have hwho : (formatString who ++ [32, 91]).length = 10 := by
    rw [List.length_append, length_formatString]
    rfl
  have hline : linePrefix who source ++ text
      = (formatString who ++ [32, 91]) ++ (formatHex source ++ ([93, 32] ++ text)) := by
    simp only [linePrefix, List.append_assoc]
  unfold readOffset
  rw [hline, ← hwho, List.drop_left, show (8 : ℕ) = (formatHex source).length from rfl,
    List.take_left]
  exact readNumber_formatHex h

/-- No NUL is in a line. -/
theorem line_ne_zero (who : List UInt8) (source : ℕ) (bs : List UInt8) :
    ∀ c ∈ linePrefix who source ++ bs.flatMap hexByte, c ≠ 0 := by
  have hwho : ∀ c ∈ formatString who, c ≠ 0 := by
    intro c hc
    rcases List.mem_append.mp hc with hblank | htext
    · rw [List.eq_of_mem_replicate hblank]
      decide
    · have hall := List.all_eq_true.mp List.all_takeWhile c (List.mem_of_mem_take htext)
      exact of_decide_eq_true hall
  have hnumber : ∀ c ∈ formatHex source, c ≠ 0 := by
    intro c hc
    obtain ⟨d, -, rfl⟩ := List.mem_map.mp hc
    exact (lowerHex_spec (Nat.mod_lt _ (by decide))).2
  have hbytes : ∀ c ∈ bs.flatMap hexByte, c ≠ 0 := by
    intro c hc
    obtain ⟨b, -, hmem⟩ := List.mem_flatMap.mp hc
    simp only [hexByte, List.mem_cons, List.not_mem_nil, or_false] at hmem
    rcases hmem with rfl | rfl | rfl
    · exact (hexHigh_spec b).2
    · exact (hexLow_spec b).2
    · decide
  intro c hc
  simp only [linePrefix, List.mem_append] at hc
  rcases hc with (hc | hc | hc | hc) | hc
  · exact hwho c hc
  · simp only [List.mem_cons, List.not_mem_nil, or_false] at hc
    rcases hc with rfl | rfl <;> decide
  · exact hnumber c hc
  · simp only [List.mem_cons, List.not_mem_nil, or_false] at hc
    rcases hc with rfl | rfl <;> decide
  · exact hbytes c hc

/-! ### The loops -/

section

variable {who buffer : List UInt8} {length : ℕ}

/-- One round of the `for` loop. -/
theorem fillLine_round {s : LogState} {b : UInt8}
    (hsource : s.source < length) (hb : buffer[s.source]? = some b)
    (hspace : s.dest + 3 < destLen) (hline : s.perLine < bytesPerLine) (turns : ℕ) :
    ∃ out : Buffer destLen, out.bytes.take (s.dest + 3) = s.out.bytes.take s.dest ++ hexByte b ∧
      fillLine buffer length (turns + 1) s = fillLine buffer length turns { s with
        out := out, dest := s.dest + 3, source := s.source + 1, perLine := s.perLine + 1 } := by
  unfold destLen at hspace
  obtain ⟨out₁, hset₁, htake₁⟩ := s.out.set_spec (show s.dest < destLen by unfold destLen; omega)
    (hexHigh b)
  obtain ⟨out₂, hset₂, htake₂⟩ := out₁.set_spec
    (show s.dest + 1 < destLen by unfold destLen; omega) (hexLow b)
  obtain ⟨out₃, hset₃, htake₃⟩ := out₂.set_spec
    (show s.dest + 2 < destLen by unfold destLen; omega) 32
  refine ⟨out₃, ?_, ?_⟩
  · rw [htake₃, htake₂, htake₁, List.append_assoc, List.append_assoc]
    rfl
  · rw [fillLine, if_pos ⟨hsource, by unfold destLen; omega, hline⟩, hb]
    simp only [Option.bind_eq_bind, Option.bind_some, hset₁, hset₂, hset₃]

/-- **The `for` loop** puts the next bytes on the line, sixteen of them if there are. -/
theorem fillLine_spec (hlength : length ≤ buffer.length) {turns : ℕ} {s : LogState}
    (hsource : s.source ≤ length) (hturns : length - s.source < turns)
    (hdest : s.dest + 3 * (bytesPerLine - s.perLine) < destLen - 3)
    (hline : s.perLine ≤ bytesPerLine) :
    ∃ (bs : List UInt8) (out : Buffer destLen),
      bs = (buffer.drop s.source).take (min (bytesPerLine - s.perLine) (length - s.source)) ∧
      out.bytes.take (s.dest + 3 * bs.length) = s.out.bytes.take s.dest ++ bs.flatMap hexByte ∧
      fillLine buffer length turns s = some { s with
        out := out, dest := s.dest + 3 * bs.length, source := s.source + bs.length,
        perLine := s.perLine + bs.length } := by
  induction turns generalizing s with
  | zero => omega
  | succ turns ih =>
    by_cases hmore : s.source < length ∧ s.perLine < bytesPerLine
    · obtain ⟨hless, hshort⟩ := hmore
      have hlt : s.source < buffer.length := by omega
      obtain ⟨out, htake, hround⟩ := fillLine_round hless (List.getElem?_eq_getElem hlt)
        (by omega) hshort turns
      obtain ⟨bs, out', hbs, htake', hrest⟩ := @ih { s with
        out := out, dest := s.dest + 3, source := s.source + 1, perLine := s.perLine + 1 }
        hless (by show length - (s.source + 1) < turns; omega)
        (by show s.dest + 3 + 3 * (bytesPerLine - (s.perLine + 1)) < _; omega) hshort
      refine ⟨buffer[s.source] :: bs, out', ?_, ?_, ?_⟩
      · have hmin : min (bytesPerLine - s.perLine) (length - s.source)
            = min (bytesPerLine - (s.perLine + 1)) (length - (s.source + 1)) + 1 := by omega
        rw [hmin, List.drop_eq_getElem_cons hlt, List.take_succ_cons, hbs]
      · have hdest' : s.dest + 3 * (bs.length + 1) = s.dest + 3 + 3 * bs.length := by omega
        rw [List.length_cons, hdest', htake']
        show out.bytes.take (s.dest + 3) ++ _ = _
        rw [htake, List.flatMap_cons, List.append_assoc]
      · rw [hround, hrest, List.length_cons]
        simp only [Option.some.injEq, LogState.mk.injEq, true_and, and_true]
        omega
    · have hmin : min (bytesPerLine - s.perLine) (length - s.source) = 0 := by omega
      refine ⟨[], s.out, ?_, ?_, ?_⟩
      · rw [hmin, List.take_zero]
      · rw [List.flatMap_nil, List.append_nil]
        rfl
      · rw [fillLine, if_neg fun h => hmore ⟨h.1, h.2.2⟩]
        rfl

/-- **One turn of the `do` loop** logs a line, and is ready for the next one. -/
theorem logLine_spec (who : List UInt8) (hlength : length ≤ buffer.length) {turns : ℕ}
    {s : LogState}
    (hsource : s.source ≤ length) (hturns : length - s.source < turns) (hdest : s.dest = 0)
    (hline : s.perLine = 0) :
    ∃ (bs : List UInt8) (out : Buffer destLen),
      bs = (buffer.drop s.source).take (min bytesPerLine (length - s.source)) ∧
      logLine who buffer length turns s = some ⟨out, s.source + bs.length, 0, 0,
        s.log ++ [linePrefix who s.source ++ bs.flatMap hexByte]⟩ := by
  have hlead := length_linePrefix who s.source
  obtain ⟨out, hout, htake⟩ := s.out.sprintf_spec
    (show (linePrefix who s.source).length < destLen by rw [hlead]; decide)
  obtain ⟨bs, out', hbs, htake', hfill⟩ := fillLine_spec hlength (s := { s with
    out := out, dest := s.dest + (linePrefix who s.source).length }) hsource hturns
    (by show s.dest + _ + 3 * (bytesPerLine - s.perLine) < _
        rw [hdest, hline, hlead]
        decide)
    (by show s.perLine ≤ _
        rw [hline]
        decide)
  simp only [hdest, hline, hlead, Nat.zero_add, Nat.sub_zero] at hbs htake' hfill
  have hcount : bs.length = min bytesPerLine (length - s.source) := by
    rw [hbs, List.length_take, List.length_drop]
    omega
  have hroom : 20 + 3 * bs.length < destLen := by
    unfold bytesPerLine at hcount
    unfold destLen
    omega
  obtain ⟨out'', hset, htake''⟩ := out'.set_spec hroom 0
  have htext : (linePrefix who s.source ++ bs.flatMap hexByte).length = 20 + 3 * bs.length := by
    have hbytes : (bs.flatMap hexByte).length = 3 * bs.length := by
      rw [List.length_flatMap]
      simp [hexByte, Nat.mul_comm]
    rw [List.length_append, hlead, hbytes]
  have hstring : out''.string = some (linePrefix who s.source ++ bs.flatMap hexByte) := by
    refine out''.string_spec (line_ne_zero who s.source bs) ?_
    rw [hlead] at htake
    rw [htext, htake'', htake', htake]
  have hlog : bs.length = bytesPerLine ∨ s.source + bs.length ≥ length := by
    omega
  refine ⟨bs, out'', hbs, ?_⟩
  unfold logLine
  simp only [hout, hdest, hline, hlead, Nat.zero_add, Option.bind_eq_bind, Option.bind_some,
    hfill]
  rw [if_pos ⟨hroom, hlog⟩, hset, Option.bind_some, hstring]
  rfl

end

/-! ### All lines -/

/-- The lines for some pieces of the buffer, from an offset on. -/
def dumpLines (who : List UInt8) : ℕ → List (List UInt8) → List (List UInt8)
  | _, [] => []
  | offset, bs :: pieces =>
      (linePrefix who offset ++ bs.flatMap hexByte) :: dumpLines who (offset + bs.length) pieces

theorem length_dumpLines (who : List UInt8) (offset : ℕ) (pieces : List (List UInt8)) :
    (dumpLines who offset pieces).length = pieces.length := by
  induction pieces generalizing offset with
  | nil => rfl
  | cons bs pieces ih => exact congrArg (· + 1) (ih _)

/-- A line has the offset of its piece. -/
theorem getElem?_dumpLines (who : List UInt8) (offset k : ℕ) {pieces : List (List UInt8)}
    {bs : List UInt8} (h : pieces[k]? = some bs) :
    (dumpLines who offset pieces)[k]? = some
      (linePrefix who (offset + (pieces.take k).flatten.length) ++ bs.flatMap hexByte) := by
  induction k generalizing offset pieces with
  | zero =>
    obtain ⟨rest, rfl⟩ := List.head?_eq_some_iff.mp (List.head?_eq_getElem? ▸ h)
    rfl
  | succ k ih =>
    cases pieces with
    | nil => exact absurd h (by simp)
    | cons first pieces =>
      have hrest := ih (offset + first.length) h
      rw [List.take_succ_cons, List.flatten_cons, List.length_append, ← Nat.add_assoc]
      exact hrest

section

variable {who buffer : List UInt8} {length : ℕ}

/-- **The `do` loop** ends, and logs what is left of the buffer. -/
theorem logLines_spec (who : List UInt8) (hlength : length ≤ buffer.length) {turns rounds : ℕ}
    {s : LogState}
    (hsource : s.source ≤ length) (hturns : length - s.source < turns)
    (hrounds : length - s.source < rounds) (hdest : s.dest = 0) (hline : s.perLine = 0) :
    ∃ (pieces : List (List UInt8)) (s' : LogState),
      pieces.flatten = (buffer.take length).drop s.source ∧
      (∀ bs ∈ pieces, bs.length ≤ bytesPerLine) ∧
      logLines who buffer length turns rounds s = some s' ∧
      s'.log = s.log ++ dumpLines who s.source pieces := by
  induction rounds generalizing s with
  | zero => omega
  | succ rounds ih =>
    obtain ⟨bs, out, hbs, hrun⟩ := logLine_spec who hlength hsource hturns hdest hline
    have hcount : bs.length = min bytesPerLine (length - s.source) := by
      rw [hbs, List.length_take, List.length_drop]
      omega
    have hpiece : (buffer.take length).drop s.source
        = bs ++ (buffer.take length).drop (s.source + bs.length) := by
      have hlead : ((buffer.take length).drop s.source).take bs.length = bs := by
        rw [List.drop_take, List.take_take, hbs, List.length_take, List.length_drop]
        congr 1
        omega
      have hsplit := List.take_append_drop bs.length ((buffer.take length).drop s.source)
      rw [hlead, List.drop_drop] at hsplit
      exact hsplit.symm
    have hbound : bs.length ≤ bytesPerLine := hcount ▸ Nat.min_le_left ..
    unfold logLines
    simp only [hrun, Option.bind_eq_bind, Option.bind_some]
    by_cases hmore : s.source + bs.length < length
    · -- a full line, so the loop has come nearer to the end
      have hfull : bs.length = 16 := by
        unfold bytesPerLine at hcount
        omega
      rw [if_pos ⟨hmore, by decide⟩]
      obtain ⟨pieces, s', hflatten, hbounds, hrest, hlog⟩ := @ih ⟨out, s.source + bs.length, 0, 0,
        s.log ++ [linePrefix who s.source ++ bs.flatMap hexByte]⟩ (Nat.le_of_lt hmore)
        (by show length - (s.source + bs.length) < turns; omega)
        (by show length - (s.source + bs.length) < rounds; omega) rfl rfl
      refine ⟨bs :: pieces, s', ?_, ?_, hrest, ?_⟩
      · rw [List.flatten_cons, hflatten, hpiece]
      · intro c hc
        rcases List.mem_cons.mp hc with rfl | hc
        · exact hbound
        · exact hbounds c hc
      · rw [hlog, List.append_assoc]
        rfl
    · rw [if_neg fun h => hmore h.1]
      refine ⟨[bs], _, ?_, ?_, rfl, rfl⟩
      · have hend : (buffer.take length).drop (s.source + bs.length) = [] := by
          refine List.drop_eq_nil_of_le ?_
          rw [List.length_take]
          omega
        rw [hpiece, hend]
        rfl
      · intro c hc
        rw [List.mem_singleton.mp hc]
        exact hbound

/-- **The hex dump.**  For every tag, buffer and length, and whatever the stack holds, `log_hex`
ends, stays inside `out` and the buffer, and logs a line for each piece of the buffer: its prefix
has twenty characters and carries the offset of the piece, and its digits are the bytes of the piece, at
most sixteen.  The pieces are the buffer. -/
theorem logHex_lines (who : List UInt8) (hlength : length ≤ buffer.length)
    (hint : length < 2147483648) (out : Buffer destLen) {turns : ℕ} (hturns : length < turns) :
    ∃ (lines pieces : List (List UInt8)),
      logHex who buffer length turns out = some lines ∧
      pieces.flatten = buffer.take length ∧
      lines.length = pieces.length ∧
      ∀ k line bs, lines[k]? = some line → pieces[k]? = some bs →
        line.take 20 = linePrefix who (pieces.take k).flatten.length ∧
        readOffset line = some (pieces.take k).flatten.length ∧
        readValues line = some bs ∧ bs.length ≤ bytesPerLine := by
  obtain ⟨pieces, s', hflatten, hbounds, hrun, hlog⟩ := logLines_spec who hlength
    (s := ⟨out, 0, 0, 0, []⟩) (Nat.zero_le _) hturns hturns rfl rfl
  refine ⟨dumpLines who 0 pieces, pieces, ?_, hflatten, length_dumpLines who 0 pieces, ?_⟩
  · unfold logHex
    rw [hrun]
    exact congrArg some hlog
  · intro k line bs hline hbs
    rw [getElem?_dumpLines who 0 k hbs, Nat.zero_add] at hline
    obtain rfl := Option.some.inj hline
    have hsmall : (pieces.take k).flatten.length < 4294967296 := by
      have hall := congrArg List.length (congrArg List.flatten (List.take_append_drop k pieces))
      rw [List.flatten_append, List.length_append, hflatten, List.drop_zero, List.length_take]
        at hall
      omega
    have hlead := length_linePrefix who (pieces.take k).flatten.length
    refine ⟨?_, readOffset_line who hsmall _, ?_, hbounds bs (List.mem_of_getElem? hbs)⟩
    · rw [← hlead]
      exact List.take_left
    · unfold readValues
      rw [← hlead, List.drop_left]
      exact readBytes_hexBytes bs

end

/-- Seventeen bytes: a full line, and one with the last byte. -/
theorem logHex_seventeen : ∃ lines pieces : List (List UInt8),
    logHex [85, 73, 77] (List.replicate 17 171) 17 18 ⟨List.replicate destLen 0, rfl⟩ = some lines ∧
      pieces.flatten = List.replicate 17 171 ∧ lines.length = pieces.length := by
  obtain ⟨lines, pieces, hrun, hflatten, hlength, -⟩ := logHex_lines [85, 73, 77]
    (show 17 ≤ (List.replicate 17 (171 : UInt8)).length by decide) (by decide)
    ⟨List.replicate destLen 0, rfl⟩ (show 17 < 18 by decide)
  exact ⟨lines, pieces, hrun, hflatten, hlength⟩

end CtpCommon.Sap
