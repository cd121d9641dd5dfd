import CtpCommon.Lib.Marshal
import CtpCommon.Ril.DispatchLog
import Mathlib.Tactic.Ring

/-!
# The log line of a request

Before a request is passed to the vendor, its dispatch function prints what it has read into
`printBuf`, an array of 8096 bytes.  Three of them print strings as long as the record has them,
and two of these as often as a count in the record says; these two put an array of that length on
the stack first.

* `LoggedRequest.Stops` — there is no room for the array, and nothing is printed any more;
* `LoggedRequest.Short` — the strings and numbers of the record are short enough;
* `printBuf_fits_iff` — **PROVED**: every text with its NUL fits `printBuf` iff one of the two is so,
  and no character is removed from an empty text;
* `long_ussd` — a record of 5416 bytes that does not fit.
-/

namespace CtpCommon.Ril

open LogProg (LogStep)
open ReadProg (readInt32 readFresh readMany checkStatus Total)

inductive LoggedRequest where
  | string | strings | dataProfile
  deriving DecidableEq, Repr

namespace LoggedRequest

variable (env : DispatchEnv)

def function : LoggedRequest → DispatchFunction
  | .string => .dispatchString
  | .strings => .dispatchStrings
  | .dataProfile => .dispatchDataProfile

/-- What is done to `printBuf` for a payload. -/
def log (c : LoggedRequest) (p : Parcel) (printBuf : List UInt8) : List LogStep :=
  dispatchLog env c.function p printBuf

/-- The size of the array for a count. -/
def arrayBytes (n : Int) : LoggedRequest → Option Int
  | .string => none
  | .strings => if n = 0 then some wordSize else if n = -1 then none else some (wordSize * n)
  | .dataProfile => some (n * (env.platform.sizeOf .dataProfileInfo + wordSize))

/-- There is no room on the stack for the array. -/
def Stops (p : Parcel) (c : LoggedRequest) : Prop :=
  ∃ n ∈ p.readInt32.1, ∃ bytes ∈ c.arrayBytes env n, env.platform.stackHolds (sizeT bytes) = false

/-! ### How long the texts are -/

/-- The length of the line of a profile. -/
def profileLength (i : ℕ) (d : DataProfileInfo) : ℕ :=
  161 + (Conv.dec i).width + (Conv.dec d.profileId).width + (Conv.dec d.authType).width +
    (Conv.dec d.type).width + (Conv.dec d.maxConnsTime).width + (Conv.dec d.maxConns).width +
    (Conv.dec d.waitTime).width + (Conv.dec d.enabled).width + (Conv.str d.apn).width +
    (Conv.str d.protocol).width + (Conv.str d.user).width + (Conv.str d.password).width

/-- The elements behind the count of a payload. -/
def elements {α : Type} (x : ReadProg α) (p : Parcel) : List α :=
  match p.readInt32 with
  | (some n, q) => ((readMany n.toNat x).run q env.t env.ut).getD []
  | (none, _) => []

/-- The strings and the numbers of a payload leave room for the brackets and the NUL. -/
def Short (p : Parcel) : LoggedRequest → Prop
  | .string => (Conv.str (p.readString16Inplace.1.map env.platform.strndup16to8)).width ≤ 8093
  | .strings => ((elements env (strdupReadString env) p).map fun s =>
      (Conv.str s).width + 1).sum ≤ 8094
  | .dataProfile => ((elements env (readDataProfile env) p).zipIdx.map fun d =>
      profileLength d.2 d.1).sum ≤ 8093

theorem length_profileLine (i : ℕ) (d : DataProfileInfo) :
    (printed (profileLine i d)).length = profileLength i d := by
  have hformat : ((profileLine i d).map Conv.textWidth).sum = 161 := by
    simp only [profileLine, List.map_cons, List.map_nil, Conv.textWidth]
    decide
  rw [length_printed, printedWidth_eq, hformat]
  simp only [profileLine, profileLength, List.map_cons, List.map_nil, List.sum_cons, List.sum_nil,
    Conv.argWidth]
  ring

theorem strdupReadString_total : Total (strdupReadString env) := .string fun _ => .done _

theorem readDataProfile_total : Total (readDataProfile env) :=
  .int fun _ => .string fun _ => .string fun _ => .int fun _ => .string fun _ => .string fun _ =>
    .int fun _ => .int fun _ => .int fun _ => .int fun _ => .int fun _ => .done _

/-! ### What is done to the array -/

variable (p : Parcel) (printBuf : List UInt8)

/-- A string and a comma. -/
def stringLine (_ : ℕ) (s : Option CString) : List UInt8 := printed [.str s, .text ","]

theorem length_stringLine (i : ℕ) (s : Option CString) :
    (stringLine i s).length = (Conv.str s).width + 1 := by
  unfold stringLine
  rw [length_printed]
  rfl

theorem log_string :
    LoggedRequest.string.log env p printBuf =
      .wrote (printed [.text "("]) :: LogProg.growing (printed [.text "("])
        [printed [.str (p.readString16Inplace.1.map env.platform.strndup16to8)],
          printed [.text ")"]] := rfl

/-- The loop reads the elements, and prints their lines. -/
theorem loop_elements {α : Type} {x : ReadProg α} (hx : Total x) (line : ℕ → α → List UInt8)
    {n : Int} {q : Parcel} (hcount : p.readInt32 = (some n, q)) :
    ∃ s', LogProg.Appends (LogProg.loop 0 n.toNat fun i =>
        .read x fun a => .sprintf (· ++ line i a) (.done a)) ⟨q, true, env.t, env.ut⟩
      (LogProg.linesOf line 0 (elements env x p)) (elements env x p) s' := by
  obtain ⟨⟨as, s'⟩, hread⟩ := hx.readMany n.toNat ⟨q, true, env.t, env.ut⟩
  have helements : elements env x p = as := by
    unfold elements
    rw [hcount]
    exact congrArg (fun r => (r.map Prod.fst).getD []) hread
  rw [helements]
  exact ⟨s', LogProg.appends_loop line 0 hread⟩

/-- A program that reads a count first, and tests it. -/
theorem exec_count {α : Type} (k : Int → LogProg α) :
    (LogProg.read readFresh fun n => .read checkStatus fun _ => k n).exec
        ⟨p, true, env.t, env.ut⟩ printBuf =
      match p.readInt32 with
      | (some n, q) => (k n).exec ⟨q, true, env.t, env.ut⟩ printBuf
      | (none, _) => ⟨[], none⟩ := by
  simp only [LogProg.exec, readFresh, checkStatus, ReadProg.exec]
  rcases p.readInt32 with ⟨_ | n, q⟩ <;> rfl

theorem stops_iff {c : LoggedRequest} {n : Int} {q : Parcel} (hcount : p.readInt32 = (some n, q)) :
    Stops env p c ↔
      ∃ bytes ∈ c.arrayBytes env n, env.platform.stackHolds (sizeT bytes) = false := by
  unfold Stops
  rw [hcount]
  simp only [Option.mem_def, Option.some.injEq, exists_eq_left']

/-- What comes behind an array on the stack. -/
theorem exec_stackArray {α : Type} (bytes : Int) (k : LogProg α) (s : ReadProg.ReadState)
    (text : List UInt8) :
    ((stackArray env bytes).bind fun _ => k).exec s text =
      if env.platform.stackHolds (sizeT bytes) then
        ⟨.needed true :: (k.exec s text).steps, (k.exec s text).result⟩
      else ⟨[.needed false], none⟩ := by
  unfold stackArray
  cases env.platform.stackHolds (sizeT bytes) <;> rfl

/-- There is no room for the array, or what comes behind it runs. -/
theorem stackArray_cases {α : Type} (bytes : Int) {k : LogProg α} {s : ReadProg.ReadState}
    {text : List UInt8} {logged : LogProg.Logged α} (hk : k.exec s text = logged) :
    env.platform.stackHolds (sizeT bytes) = false ∧
        ((stackArray env bytes).bind fun _ => k).exec s text = ⟨[.needed false], none⟩ ∨
      env.platform.stackHolds (sizeT bytes) = true ∧
        ((stackArray env bytes).bind fun _ => k).exec s text =
          ⟨.needed true :: logged.steps, logged.result⟩ := by
  rw [exec_stackArray, hk]
  cases env.platform.stackHolds (sizeT bytes) with
  | false => exact .inl ⟨rfl, rfl⟩
  | true => exact .inr ⟨rfl, rfl⟩

/-- The strings with their commas, if there is room for them. -/
theorem exec_stringArray {n : Int} {q : Parcel} (hcount : p.readInt32 = (some n, q))
    (text : List UInt8) :
    Stops env p .strings ∧
        (logStringArray env n).exec ⟨q, true, env.t, env.ut⟩ text = ⟨[.needed false], none⟩ ∨
      ¬ Stops env p .strings ∧ ∃ pre data s', (∀ step ∈ pre, step = .needed true) ∧
        (logStringArray env n).exec ⟨q, true, env.t, env.ut⟩ text =
          ⟨pre ++ LogProg.growing text
              (LogProg.linesOf stringLine 0 (elements env (strdupReadString env) p)),
            some (data, s', text ++
              (LogProg.linesOf stringLine 0 (elements env (strdupReadString env) p)).flatten)⟩ := by
  have hnone : n.toNat = 0 → elements env (strdupReadString env) p = [] := by
    intro h
    unfold elements
    rw [hcount]
    show ((readMany n.toNat (strdupReadString env)).run q env.t env.ut).getD [] = []
    rw [h]
    rfl
  have htrue : ∀ step ∈ [LogStep.needed true], step = .needed true := by simp
  rw [stops_iff env p hcount]
  unfold logStringArray arrayBytes
  by_cases hzero : n = 0
  · subst hzero
    rw [if_pos rfl, if_pos rfl, hnone rfl]
    simp only [Option.mem_def, Option.some.injEq, exists_eq_left']
    have hdone : (LogProg.done (some [] : Option (List (Option CString)))).exec
        ⟨q, true, env.t, env.ut⟩ text = ⟨[], some (some [], ⟨q, true, env.t, env.ut⟩, text)⟩ := rfl
    rcases stackArray_cases env wordSize hdone with ⟨hroom, hexec⟩ | ⟨hroom, hexec⟩
    · exact .inl ⟨hroom, hexec⟩
    · refine .inr ⟨by simp [hroom], [.needed true], some [], ⟨q, true, env.t, env.ut⟩, htrue,
        hexec.trans ?_⟩
      show (⟨_, some (_, _, text)⟩ : LogProg.Logged _) = ⟨_, some (_, _, text ++ [])⟩
      rw [List.append_nil]
      rfl
  by_cases hnull : n = -1
  · subst hnull
    rw [if_neg hzero, if_neg hzero, if_pos rfl, if_pos rfl, hnone rfl]
    refine .inr ⟨by simp, [], none, ⟨q, true, env.t, env.ut⟩, by simp, ?_⟩
    show (⟨_, some (_, _, text)⟩ : LogProg.Logged _) = ⟨_, some (_, _, text ++ [])⟩
    rw [List.append_nil]
    rfl
  · rw [if_neg hzero, if_neg hzero, if_neg hnull, if_neg hnull]
    simp only [Option.mem_def, Option.some.injEq, exists_eq_left']
    obtain ⟨s', hloop⟩ := loop_elements env p (strdupReadString_total env) stringLine hcount
    have harray := hloop.bind (f := fun ss => .done (some ss)) (.done _ s')
    rw [List.append_nil] at harray
    rcases stackArray_cases env (wordSize * n) (harray text) with ⟨hroom, hexec⟩ | ⟨hroom, hexec⟩
    · exact .inl ⟨hroom, hexec⟩
    · exact .inr ⟨by simp [hroom], [.needed true], _, s', htrue, hexec⟩

theorem log_strings {n : Int} {q : Parcel} (hcount : p.readInt32 = (some n, q)) :
    let lines := LogProg.linesOf stringLine 0 (elements env (strdupReadString env) p)
    let text := printed [.text "("] ++ lines.flatten
    Stops env p .strings ∧
        LoggedRequest.strings.log env p printBuf = [.wrote (printed [.text "("]), .needed false] ∨
      ¬ Stops env p .strings ∧ ∃ pre, (∀ step ∈ pre, step = .needed true) ∧
        LoggedRequest.strings.log env p printBuf =
          .wrote (printed [.text "("]) :: (pre ++ (LogProg.growing (printed [.text "("]) lines ++
            [.removed text, .wrote (text.dropLast ++ printed [.text ")"])])) := by
  obtain ⟨data, hdata⟩ : ∃ data : Int → Option (List (Option CString)) → Payload,
      logStrings env = .read readFresh fun n => .read checkStatus fun _ =>
        .sprintf (fun _ => printed [.text "("]) ((logStringArray env n).bind fun pStrings =>
          .removeLastChar (.sprintf (· ++ printed [.text ")"]) (.done (data n pStrings)))) :=
    ⟨_, rfl⟩
  have hlog : LoggedRequest.strings.log env p printBuf =
      ((logStrings env).exec ⟨p, true, env.t, env.ut⟩ printBuf).steps := rfl
  rw [hdata, exec_count, hcount] at hlog
  rcases exec_stringArray env p hcount (printed [.text "("]) with
    ⟨hstops, harray⟩ | ⟨hroom, pre, strings, s', hpre, harray⟩
  · refine .inl ⟨hstops, hlog.trans ?_⟩
    show LogStep.wrote _ :: (((logStringArray env n).bind _).exec _ _).steps = _
    rw [LogProg.exec_bind, harray]
    rfl
  · refine .inr ⟨hroom, pre, hpre, hlog.trans ?_⟩
    show LogStep.wrote _ :: (((logStringArray env n).bind _).exec _ _).steps = _
    rw [LogProg.exec_bind, harray]
    exact congrArg _ (List.append_assoc ..)

theorem log_dataProfile {n : Int} {q : Parcel} (hcount : p.readInt32 = (some n, q)) :
    let lines := LogProg.linesOf (fun i d => printed (profileLine i d)) 0
      (elements env (readDataProfile env) p)
    Stops env p .dataProfile ∧
        LoggedRequest.dataProfile.log env p printBuf = [.needed false] ∨
      ¬ Stops env p .dataProfile ∧ LoggedRequest.dataProfile.log env p printBuf =
        .needed true :: .wrote (printed [.text "("]) ::
          (LogProg.growing (printed [.text "("]) lines ++
            [.wrote (printed [.text "("] ++ lines.flatten ++ printed [.text ")"])]) := by
  intro lines
  obtain ⟨s', hloop⟩ := loop_elements env p (readDataProfile_total env)
    (fun i d => printed (profileLine i d)) hcount
  have hcounted := exec_count env p printBuf fun n =>
    (stackArray env (n * (env.platform.sizeOf .dataProfileInfo + wordSize))).bind fun _ =>
      .sprintf (fun _ => printed [.text "("])
        ((LogProg.loop 0 n.toNat fun i => .read (readDataProfile env) fun d =>
            .sprintf (· ++ printed (profileLine i d)) (.done d)).bind fun ds =>
          .sprintf (· ++ printed [.text ")"]) (.read checkStatus fun _ =>
            .done (RequestData.dataProfile ds, sizeT (n * wordSize))))
  rw [hcount] at hcounted
  have hlog := congrArg LogProg.Logged.steps hcounted
  simp only [exec_stackArray] at hlog
  rw [stops_iff env p hcount]
  unfold arrayBytes
  simp only [Option.mem_def, Option.some.injEq, exists_eq_left']
  cases hroom : env.platform.stackHolds
      (sizeT (n * (env.platform.sizeOf .dataProfileInfo + wordSize))) with
  | false =>
    rw [hroom] at hlog
    exact .inl ⟨rfl, hlog⟩
  | true =>
    rw [hroom] at hlog
    refine .inr ⟨by simp, hlog.trans ?_⟩
    show LogStep.needed true :: LogStep.wrote _ :: ((LogProg.bind _ _).exec _ _).steps = _
    rw [LogProg.exec_bind, hloop]
    have htest : ∀ (data : Payload) (text : List UInt8),
        ((LogProg.read checkStatus fun _ => .done data).exec s' text).steps = [] := by
      intro data text
      simp only [LogProg.exec, checkStatus, ReadProg.exec]
      cases s'.ok <;> rfl
    show LogStep.needed true :: LogStep.wrote _ :: (LogProg.growing _ _ ++
      (LogStep.wrote _ :: (LogProg.exec (.read checkStatus _) s' _).steps)) = _
    rw [htest]

theorem log_uncounted {c : LoggedRequest} (hc : c ≠ .string) (hcount : p.readInt32.1 = none) :
    c.log env p printBuf = [] ∧ Short env p c := by
  have hread : p.readInt32 = (none, p.readInt32.2) := Prod.ext hcount rfl
  have helements : ∀ {α : Type} (x : ReadProg α), elements env x p = [] := by
    intro α x
    unfold elements
    rw [hread]
  cases c with
  | string => exact absurd rfl hc
  | strings =>
    refine ⟨(congrArg LogProg.Logged.steps (exec_count env p printBuf _)).trans ?_, ?_⟩
    · rw [hread]
    · simp only [Short, helements]
      decide
  | dataProfile =>
    refine ⟨(congrArg LogProg.Logged.steps (exec_count env p printBuf _)).trans ?_, ?_⟩
    · rw [hread]
    · simp only [Short, helements]
      decide

/-! ### When it fits -/

/-- A sum that does not depend on the index. -/
theorem sum_zipIdx {α : Type} (g : α → ℕ) (as : List α) :
    ((as.zipIdx 0).map fun d => g d.1).sum = (as.map g).sum := by
  have hmap : (as.zipIdx 0).map (fun d => g d.1) = ((as.zipIdx 0).map Prod.fst).map g :=
    (List.map_map ..).symm
  rw [hmap, List.zipIdx_map_fst]

theorem length_bracket :
    (printed [.text "("]).length = 1 ∧ (printed [.text ")"]).length = 1 := by decide

theorem length_opened (lines : List (List UInt8)) :
    (printed [.text "("] ++ lines.flatten).length = 1 + lines.flatten.length := by
  rw [List.length_append, length_bracket.1]

/-- What is needed has no text. -/
theorem textsFit_needed {size : ℕ} {pre : List LogStep} (hpre : ∀ step ∈ pre, step = .needed true) :
    LogProg.TextsFit size pre := by
  intro step hstep
  rw [hpre step hstep]
  trivial

/-- A string between brackets, and the NUL. -/
theorem string_fits_iff :
    LogProg.TextsFit printbufSize (LoggedRequest.string.log env p printBuf) ↔
      Short env p .string := by
  have hopen : (printed [.text "("]).length + 1 ≤ printbufSize := by decide
  have hline := length_printed [.str (p.readString16Inplace.1.map env.platform.strndup16to8)]
  rw [log_string, LogProg.textsFit_cons, LogProg.fits_growing_iff hopen]
  simp only [LogProg.LogStep.TextFits, Short, List.flatten_cons, List.flatten_nil,
    List.length_append, List.length_nil, length_bracket.1, length_bracket.2, hline, printedWidth,
    List.map_cons, List.map_nil, List.sum_cons, List.sum_nil, printbufSize]
  omega

/-- The last comma makes room for the bracket. -/
theorem strings_fits_iff {n : Int} {q : Parcel} (hcount : p.readInt32 = (some n, q)) :
    LogProg.TextsFit printbufSize (LoggedRequest.strings.log env p printBuf) ↔
      Stops env p .strings ∨ Short env p .strings := by
  have hopen : (printed [.text "("]).length + 1 ≤ printbufSize := by decide
  have hlines := LogProg.length_linesOf length_stringLine
    (elements env (strdupReadString env) p) 0
  rw [sum_zipIdx fun s => (Conv.str s).width + 1] at hlines
  rcases log_strings env p printBuf hcount with ⟨hstops, hlog⟩ | ⟨hroom, pre, hpre, hlog⟩
  · rw [hlog]
    refine iff_of_true ?_ (.inl hstops)
    exact LogProg.textsFit_cons.mpr
      ⟨hopen, LogProg.textsFit_cons.mpr ⟨trivial, LogProg.textsFit_nil⟩⟩
  rw [hlog, or_iff_right hroom]
  generalize LogProg.linesOf stringLine 0 (elements env (strdupReadString env) p) = lines
    at hlines
  have hclosed : ((printed [.text "("] ++ lines.flatten).dropLast ++ printed [.text ")"]).length
      = 1 + lines.flatten.length := by
    rw [List.length_append, List.length_dropLast, length_opened, length_bracket.2]
    omega
  have hne : printed [.text "("] ++ lines.flatten ≠ [] := by
    intro h
    have hlength := length_opened lines
    rw [h, List.length_nil] at hlength
    omega
  rw [LogProg.textsFit_cons, LogProg.textsFit_append, LogProg.textsFit_append,
    LogProg.fits_growing_iff hopen, length_opened]
  simp only [LogProg.textsFit_cons, LogProg.LogStep.TextFits, Short, ← hlines, hclosed,
    printbufSize]
  constructor
  · rintro ⟨-, -, hlines, -⟩
    omega
  · intro hshort
    exact ⟨hopen, textsFit_needed hpre, by omega, hne, by omega, LogProg.textsFit_nil⟩

/-- The lines of the profiles between brackets, and the NUL. -/
theorem dataProfile_fits_iff {n : Int} {q : Parcel} (hcount : p.readInt32 = (some n, q)) :
    LogProg.TextsFit printbufSize (LoggedRequest.dataProfile.log env p printBuf) ↔
      Stops env p .dataProfile ∨ Short env p .dataProfile := by
  have hopen : (printed [.text "("]).length + 1 ≤ printbufSize := by decide
  have hlines := LogProg.length_linesOf length_profileLine
    (elements env (readDataProfile env) p) 0
  rcases log_dataProfile env p printBuf hcount with ⟨hstops, hlog⟩ | ⟨hroom, hlog⟩
  · rw [hlog]
    refine iff_of_true ?_ (.inl hstops)
    exact LogProg.textsFit_cons.mpr ⟨trivial, LogProg.textsFit_nil⟩
  rw [hlog, or_iff_right hroom]
  generalize LogProg.linesOf _ 0 (elements env (readDataProfile env) p) = lines at hlines
  have hclosed : (printed [.text "("] ++ lines.flatten ++ printed [.text ")"]).length
      = 2 + lines.flatten.length := by
    rw [List.length_append, length_opened, length_bracket.2]
    omega
  rw [LogProg.textsFit_cons, LogProg.textsFit_cons, LogProg.textsFit_append,
    LogProg.fits_growing_iff hopen, length_opened]
  simp only [LogProg.textsFit_cons, LogProg.LogStep.TextFits, Short, ← hlines, hclosed,
    printbufSize]
  constructor
  · rintro ⟨-, -, -, hlast, -⟩
    omega
  · intro hshort
    exact ⟨trivial, hopen, by omega, by omega, LogProg.textsFit_nil⟩

/-- **The texts of a request fit iff its payload is short**, or no array can be had for it and
nothing of it is printed; and the text is never emptied before a character is removed. -/
theorem printBuf_fits_iff (c : LoggedRequest) :
    LogProg.TextsFit printbufSize (c.log env p printBuf) ↔ Stops env p c ∨ Short env p c := by
  by_cases hc : c = .string
  · subst hc
    have hroom : ¬ Stops env p .string := by
      rintro ⟨n, -, bytes, hbytes, -⟩
      exact absurd hbytes (by simp [arrayBytes])
    rw [or_iff_right hroom]
    exact string_fits_iff env p printBuf
  cases hcount : p.readInt32.1 with
  | none =>
    obtain ⟨hlog, hshort⟩ := log_uncounted env p printBuf hc hcount
    rw [hlog]
    exact iff_of_true LogProg.textsFit_nil (.inr hshort)
  | some n =>
    have hread : p.readInt32 = (some n, p.readInt32.2) := Prod.ext hcount rfl
    cases c with
    | string => exact absurd rfl hc
    | strings => exact strings_fits_iff env p printBuf hread
    | dataProfile => exact dataProfile_fits_iff env p printBuf hread

end LoggedRequest

/-! ### A record that does not fit -/

/-- `RIL_REQUEST_SEND_USSD` of token `8`, with 2700 times the character U+0800, which takes three
bytes. -/
def ussdRequest : RequestCode := ⟨29, by decide, by decide⟩
def ussdString : List UInt16 := List.replicate 2700 0x800
def ussdRecord : List UInt8 :=
  Parcel.wordBytes 29 ++ (Parcel.wordBytes 8 ++ (Parcel.Write.string16 (some ussdString)).encoding)

theorem length_ussdRecord : ussdRecord.length = 5416 := by
  have hunits : (Parcel.unitBytes ussdString ++ [0, 0]).length = 5402 := by
    rw [List.length_append, Parcel.length_unitBytes]
    unfold ussdString
    rw [List.length_replicate]
    rfl
  have hbytes : (Parcel.Write.bytes (Parcel.unitBytes ussdString ++ [0, 0])).encoding.length
      = 5404 := by
    refine (Parcel.padSize_padded _).symm.trans ?_
    rw [hunits]
    rfl
  have hstring : (Parcel.Write.string16 (some ussdString)).encoding
      = Parcel.wordBytes ussdString.length ++
        (Parcel.Write.bytes (Parcel.unitBytes ussdString ++ [0, 0])).encoding := rfl
  unfold ussdRecord
  rw [List.length_append, List.length_append, hstring, List.length_append, hbytes]
  rfl

theorem readRecord_ussd : readRecord ussdRecord = .accepted 8 ussdRequest ⟨ussdRecord, 8⟩ := by
  unfold ussdRecord
  generalize (Parcel.Write.string16 (some ussdString)).encoding = payload
  have hrequest := Parcel.readInt32_wordBytes [] 29 (Parcel.wordBytes 8 ++ payload)
  have htoken := Parcel.readInt32_wordBytes (Parcel.wordBytes 29) 8 payload
  unfold readRecord Parcel.ofBytes
  rw [show Parcel.readInt32 ⟨Parcel.wordBytes 29 ++ (Parcel.wordBytes 8 ++ payload), 0⟩ = _ from
    hrequest]
  simp only [List.nil_append, List.length_nil, Nat.zero_add]
  rw [show Parcel.readInt32 ⟨Parcel.wordBytes 29 ++ (Parcel.wordBytes 8 ++ payload), 4⟩ = _ from
    htoken]
  rfl

theorem readString_ussd : (Parcel.readString16Inplace ⟨ussdRecord, 8⟩).1 = some ussdString := by
  have hshort : (ussdString.length : Int) < Parcel.int32Max := by
    unfold ussdString
    rw [List.length_replicate]
    decide
  have hrecord : Parcel.wordBytes 29 ++ Parcel.wordBytes 8 ++
      ((Parcel.Write.string16 (some ussdString)).encoding ++ []) = ussdRecord := by
    unfold ussdRecord
    rw [List.append_nil, List.append_assoc]
  have hread := Parcel.readString16_encoding (Parcel.wordBytes 29 ++ Parcel.wordBytes 8) hshort []
  rw [hrecord, show (Parcel.wordBytes 29 ++ Parcel.wordBytes 8).length = 8 from rfl] at hread
  rw [hread]

/-- Three bytes for each of the 2700 characters. -/
theorem width_ussd :
    (Conv.str (some (x86.strndup16to8 ussdString))).width = 8100 := by
  have hunit : ∀ b ∈ utf8OfUnit 0x800, b ≠ 0 := by decide +kernel
  have hnonzero : ∀ n, ((List.replicate n (0x800 : UInt16)).flatMap utf8OfUnit).takeWhile (· ≠ 0)
      = (List.replicate n (0x800 : UInt16)).flatMap utf8OfUnit := by
    intro n
    rw [List.takeWhile_eq_self_iff]
    intro b hb
    obtain ⟨u, hu, hb⟩ := List.mem_flatMap.mp hb
    rw [List.eq_of_mem_replicate hu] at hb
    exact decide_eq_true (hunit b hb)
  show ((ussdString.flatMap utf8OfUnit).takeWhile (· ≠ 0)).length = 8100
  unfold ussdString
  rw [hnonzero, List.length_flatMap, List.map_replicate, List.sum_replicate]
  rfl

/-- A record whose text is 8102 characters long. -/
theorem long_ussd :
    readRecord ussdRecord = .accepted 8 ussdRequest ⟨ussdRecord, 8⟩ ∧
      ussdRequest.dispatchFunction = LoggedRequest.string.function ∧
      ussdRecord.length ≤ maxCommandBytes ∧
      ¬ LogProg.TextsFit printbufSize
        (LoggedRequest.string.log ⟨x86, 6, .on, 0, 0⟩ ⟨ussdRecord, 8⟩ []) := by
  refine ⟨readRecord_ussd, rfl, by rw [length_ussdRecord]; decide, fun hfits => ?_⟩
  have hshort := (LoggedRequest.string_fits_iff _ _ _).mp hfits
  unfold LoggedRequest.Short at hshort
  rw [readString_ussd, Option.map_some, width_ussd] at hshort
  exact absurd hshort (by decide)

end CtpCommon.Ril
