import CtpCommon.Lib.Decimal

/-!
# The properties that `init` loads

`init_ctp.cpp`: the serial number comes from a file of the factory, and compressed memory is turned
on for a device with less than three gigabytes, which `/proc/meminfo` tells.

* `readFile2`, `fgets` — a whole small file, and a line into an array of a given size;
* `PropertyCall` — the calls of the property service, which is not part of this code;
* `getSerial`, `configureZram`, `vendorLoadProperties` — the functions, as the calls they make;
* `MemInfo`, `MemInfo.text` — what the kernel prints, line by line;
* `findTotal_text` — **PROVED**: the loop stops at the line of the total, and `findTotal_lines`,
  goes over all others;
* `vendorLoadProperties_exact` — **PROVED**: which calls are made, in their order.
-/

namespace CtpCommon.Init

open Decimal

/-! ### Files -/

/-- The characters before the first zero. -/
def cString (bytes : List UInt8) : List UInt8 := bytes.takeWhile fun c => c ≠ 0

/-- `read_file2`, into `maxSize` bytes; a file that cannot be opened is `none`, one that cannot be
read has no content. -/
def readFile2 (file : Option (List UInt8)) (maxSize : ℕ) : Option (List UInt8) :=
  if maxSize < 1 then none else file.map fun content => cString (content.take (maxSize - 1))

/-- At most `n` characters, up to the end of the line and with it. -/
def takeLine : ℕ → List UInt8 → List UInt8 × List UInt8
  | 0, file => ([], file)
  | _ + 1, [] => ([], [])
  | n + 1, c :: file =>
      if c = 10 then ([c], file) else ((takeLine n file).1.cons c, (takeLine n file).2)

/-- `fgets(buf, size, f)`, and what is left of the file. -/
def fgets (size : ℕ) (file : List UInt8) : Option (List UInt8 × List UInt8) :=
  if file.isEmpty then none else some (takeLine (size - 1) file)

/-! ### The functions -/

/-- A call of the property service. -/
inductive PropertyCall where
  /-- `__system_property_update`, of a property that is there. -/
  | update (name : String) (value : List UInt8)
  /-- `__system_property_add`. -/
  | add (name : String) (value : List UInt8)
  /-- `property_set` of `init`. -/
  | set (name : String) (value : List UInt8)
  deriving DecidableEq, Repr

def serialProp : String := "ro.serialno"
def serialLength : ℕ := 17
def zramProp : String := "ro.config.zram"
def zramMemThreshold : Int := 3000000

/-- `MemTotal:` -/
def memInfoKey : List UInt8 := [77, 101, 109, 84, 111, 116, 97, 108, 58]

/-- `"true"` and `"false"`. -/
def textTrue : List UInt8 := [116, 114, 117, 101]
def textFalse : List UInt8 := [102, 97, 108, 115, 101]

/-- `found` says whether `__system_property_find` finds the property. -/
def getSerial (phoneInfo : Option (List UInt8)) (found : Bool) : List PropertyCall :=
  match readFile2 phoneInfo (serialLength + 1) with
  | none => []
  | some buf =>
      if 0 < buf.length then [if found then .update serialProp buf else .add serialProp buf] else []

/-- The loop of `configure_zram`: the first line that begins with the key, if at most `fuel` lines
are read. -/
def findTotal : ℕ → List UInt8 → Option (List UInt8)
  | 0, _ => none
  | fuel + 1, file =>
      match fgets 128 file with
      | none => none
      | some (buf, rest) => if memInfoKey.isPrefixOf buf then some buf else findTotal fuel rest

/-- Every line has a character. -/
def configureZram (memInfo : Option (List UInt8)) : List PropertyCall :=
  match memInfo with
  | none => []
  | some file =>
      match findTotal (file.length + 1) file with
      | none => []
      | some buf =>
          let mem := atoi (cString (buf.drop memInfoKey.length))
          [.set zramProp (if mem < zramMemThreshold then textTrue else textFalse)]

def vendorLoadProperties (phoneInfo memInfo : Option (List UInt8)) (found : Bool) :
    List PropertyCall :=
  getSerial phoneInfo found ++ configureZram memInfo

/-! ### Lines -/

/-- A line without its end, short enough for the array, that is not the total. -/
structure OtherLine where
  text : List UInt8
  one : (10 : UInt8) ∉ text
  short : text.length < 127
  other : memInfoKey.isPrefixOf (text ++ [10]) = false

theorem takeLine_line {text : List UInt8} (h : (10 : UInt8) ∉ text) {n : ℕ} (hn : text.length < n)
    (rest : List UInt8) : takeLine n (text ++ 10 :: rest) = (text ++ [10], rest) := by
  induction text generalizing n with
  | nil =>
    obtain ⟨n, rfl⟩ := Nat.exists_eq_add_one.mpr hn
    rfl
  | cons c text ih =>
    obtain ⟨n, rfl⟩ := Nat.exists_eq_add_one.mpr (Nat.zero_lt_of_lt hn)
    have hc : c ≠ 10 := fun hc => h (hc ▸ List.mem_cons_self)
    have hrest := ih (fun hmem => h (List.mem_cons_of_mem _ hmem)) (n := n)
      (Nat.lt_of_succ_lt_succ hn)
    rw [List.cons_append, takeLine, if_neg hc, hrest]
    rfl

theorem fgets_line {text : List UInt8} (h : (10 : UInt8) ∉ text) (hshort : text.length < 127)
    (rest : List UInt8) : fgets 128 (text ++ 10 :: rest) = some (text ++ [10], rest) := by
  unfold fgets
  rw [if_neg (by simp), takeLine_line h hshort]

/-- **The loop goes over the other lines.** -/
theorem findTotal_lines (lines : List OtherLine) (fuel : ℕ) (rest : List UInt8) :
    findTotal (lines.length + fuel) ((lines.flatMap fun l => l.text ++ [10]) ++ rest)
      = findTotal fuel rest := by
  induction lines with
  | nil => rw [List.length_nil, Nat.zero_add]; rfl
  | cons l lines ih =>
    have hline := fgets_line l.one l.short ((lines.flatMap fun l => l.text ++ [10]) ++ rest)
    rw [List.length_cons, Nat.add_right_comm, List.flatMap_cons, List.append_assoc,
      List.append_assoc, List.singleton_append, findTotal, hline]
    dsimp only
    rw [if_neg (by simp [l.other]), ih]

/-! ### The total -/

/-- `/proc/meminfo`: other lines, the total with its unit, and anything after it. -/
structure MemInfo where
  before : List OtherLine
  blanks : ℕ
  total : ℕ
  /-- The rest of the line. -/
  unit : List UInt8
  one : (10 : UInt8) ∉ unit
  ends : ∀ c ∈ unit.head?, isDigit c = false
  short : memInfoKey.length + blanks + (decimal total).length + unit.length < 127
  after : List UInt8

namespace MemInfo

variable (m : MemInfo)

def totalLine : List UInt8 :=
  memInfoKey ++ (List.replicate m.blanks 32 ++ (decimal m.total ++ m.unit))

def text : List UInt8 :=
  (m.before.flatMap fun l => l.text ++ [10]) ++ (m.totalLine ++ 10 :: m.after)

theorem one_totalLine : (10 : UInt8) ∉ m.totalLine := by
  unfold totalLine
  simp only [List.mem_append, not_or]
  refine ⟨by decide, by simp, fun hmem => ?_, m.one⟩
  exact absurd (decimal_digits hmem) (by decide)

theorem length_totalLine : m.totalLine.length < 127 := by
  have hshort := m.short
  unfold totalLine
  simp only [List.length_append, List.length_replicate]
  omega

/-- **The loop stops at the total.** -/
theorem findTotal_text : findTotal (m.text.length + 1) m.text = some (m.totalLine ++ [10]) := by
  obtain ⟨fuel, hfuel⟩ : ∃ fuel, m.text.length + 1 = m.before.length + (fuel + 1) := by
    have hlines : m.before.length ≤ (m.before.flatMap fun l => l.text ++ [10]).length := by
      generalize m.before = lines
      induction lines with
      | nil => exact Nat.le_refl _
      | cons l lines ih =>
        simp only [List.length_cons, List.flatMap_cons, List.length_append]
        omega
    refine ⟨m.text.length - m.before.length, ?_⟩
    unfold text
    rw [List.length_append]
    omega
  rw [hfuel]
  unfold text
  rw [findTotal_lines, findTotal, fgets_line m.one_totalLine m.length_totalLine]
  dsimp only
  rw [if_pos]
  unfold totalLine
  rw [List.append_assoc]
  exact List.isPrefixOf_iff_prefix.mpr (List.prefix_append _ _)

end MemInfo

/-! ### The properties -/

theorem cString_decimal (blanks n : ℕ) (tail : List UInt8) :
    cString (List.replicate blanks 32 ++ (decimal n ++ tail))
      = List.replicate blanks 32 ++ (decimal n ++ cString tail) := by
  unfold cString
  rw [List.takeWhile_append_of_pos (by simp), List.takeWhile_append_of_pos]
  intro c hmem
  have hc := decimal_digits hmem
  refine decide_eq_true fun hzero => ?_
  rw [hzero] at hc
  exact absurd hc (by decide)

theorem head?_cString {tail : List UInt8} (h : ∀ c ∈ tail.head?, isDigit c = false) :
    ∀ c ∈ (cString tail).head?, isDigit c = false := by
  intro c hc
  cases tail with
  | nil => cases hc
  | cons d tail =>
    unfold cString at hc
    by_cases hd : d = 0
    · subst hd
      cases hc
    · rw [List.takeWhile_cons_of_pos (by simpa using hd)] at hc
      exact h c hc

/-- The threshold is below the greatest `int`. -/
theorem MemInfo.atoi_total (m : MemInfo) :
    atoi (cString ((m.totalLine ++ [10]).drop memInfoKey.length)) < zramMemThreshold ↔
      m.total < 3000000 := by
  have htail : ∀ c ∈ (m.unit ++ [10]).head?, isDigit c = false := by
    have hends := m.ends
    generalize m.unit = unit at hends
    cases unit with
    | nil =>
      intro c hc
      obtain rfl := Option.some.inj hc
      rfl
    | cons d unit => exact hends
  unfold MemInfo.totalLine
  rw [List.append_assoc, List.drop_left, List.append_assoc, List.append_assoc, cString_decimal,
    atoi_decimal _ _ (head?_cString htail)]
  unfold zramMemThreshold
  omega

theorem configureZram_text (m : MemInfo) : configureZram (some m.text)
    = [.set zramProp (if m.total < 3000000 then textTrue else textFalse)] := by
  unfold configureZram
  simp only [m.findTotal_text, m.atoi_total]

/-- The serial number: up to seventeen characters of the file, before the first zero. -/
def serialOf (phoneInfo : Option (List UInt8)) : List UInt8 :=
  cString ((phoneInfo.getD []).take serialLength)

theorem getSerial_eq (phoneInfo : Option (List UInt8)) (found : Bool) :
    getSerial phoneInfo found = if serialOf phoneInfo = [] then []
      else [if found then .update serialProp (serialOf phoneInfo)
        else .add serialProp (serialOf phoneInfo)] := by
  cases phoneInfo with
  | none => rfl
  | some content =>
    show (if 0 < (serialOf (some content)).length then _ else []) = _
    by_cases hnil : serialOf (some content) = []
    · rw [if_pos hnil, if_neg (by simp [hnil])]
    · rw [if_neg hnil, if_pos (List.length_pos_iff.mpr hnil)]
      rfl

/-- **What `init` loads.**  The serial number is what the file of the factory begins with, if it
begins with anything: the property is updated if it is there, and added if it is not.  Then
compressed memory is asked for below three million kilobytes and refused from there on, once,
however much memory that is and whatever lines stand before and after the total. -/
theorem vendorLoadProperties_exact (phoneInfo : Option (List UInt8)) (m : MemInfo) (found : Bool) :
    vendorLoadProperties phoneInfo (some m.text) found =
      (if serialOf phoneInfo = [] then []
        else [if found then .update serialProp (serialOf phoneInfo)
          else .add serialProp (serialOf phoneInfo)]) ++
      [.set zramProp (if m.total < 3000000 then textTrue else textFalse)] := by
  unfold vendorLoadProperties
  rw [getSerial_eq, configureZram_text]

/-- `Huge: 0 kB`, then two gigabytes, then a line that is cut off. -/
def twoGigabytes : MemInfo where
  before := [⟨[72, 117, 103, 101, 58, 32, 48, 32, 107, 66], by decide, by decide, by decide⟩]
  blanks := 8
  total := 2097152
  unit := [32, 107, 66]
  one := by decide
  ends := by
    intro c hc
    obtain rfl := Option.mem_some_iff.mp hc
    rfl
  short := by
    have hdigits : (decimal 2097152).length = 7 := by simp [decimal]
    rw [hdigits]
    decide
  after := [77, 101, 109]

theorem twoGigabytes_zram :
    vendorLoadProperties (some [67, 84, 80, 0, 49]) (some twoGigabytes.text) false =
      [.add serialProp [67, 84, 80], .set zramProp textTrue] :=
  vendorLoadProperties_exact (some [67, 84, 80, 0, 49]) twoGigabytes false

end CtpCommon.Init
