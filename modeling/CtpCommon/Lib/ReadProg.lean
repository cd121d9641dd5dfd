import CtpCommon.Lib.Parcel

/-!
# Programs that read a parcel and test only some of the statuses

C code that decodes a parcel keeps the status of the *last* read in one variable, tests it
wherever the author thought it worthwhile, and leaves the target variable of a failed read as it
was.  `ReadProg` is the syntax of such code: the reads, the test `if (status != NO_ERROR) goto
invalid`, and the jump itself.  Two readings of one program are compared:

* `exec` — what the code does: a failed read hands on the stale variable and the program goes
  on; only a test leaves it;
* `present` — every word and byte the program reads is there, wherever the cursor stands;
* `exec_eq_present` — **PROVED**: when every path tests the status after its last word
  (`Checked`), the two agree, so testing the last status is as good as testing all of them.
  A failed word read leaves fewer than four bytes, and then no later read succeeds.
-/

namespace CtpCommon

/-- Decoding code: reads with their continuations, status tests, and the jump to `invalid`. -/
inductive ReadProg (α : Type) : Type
  | done : α → ReadProg α
  | int : (Int → ReadProg α) → ReadProg α
  | fresh : (Int → ReadProg α) → ReadProg α
  | byte : (UInt8 → ReadProg α) → ReadProg α
  | string : (Option (List UInt16) → ReadProg α) → ReadProg α
  | inplace : Int → (Option (List UInt8) → ReadProg α) → ReadProg α
  | check : ReadProg α → ReadProg α
  | fail : ReadProg α

namespace ReadProg

variable {α β : Type}

def bind : ReadProg α → (α → ReadProg β) → ReadProg β
  | .done a, f => f a
  | .int k, f => .int fun v => (k v).bind f
  | .fresh k, f => .fresh fun v => (k v).bind f
  | .byte k, f => .byte fun v => (k v).bind f
  | .string k, f => .string fun v => (k v).bind f
  | .inplace n k, f => .inplace n fun v => (k v).bind f
  | .check k, f => .check (k.bind f)
  | .fail, _ => .fail

instance : Monad ReadProg where
  pure := .done
  bind := bind

/-- `status = p.readInt32(&t)`, giving the value `t` has afterwards. -/
def readInt32 : ReadProg Int := .int .done

/-- `status = p.readInt32(&n)` for a variable `n` of its own; `t` keeps its value. -/
def readFresh : ReadProg Int := .fresh .done

/-- `status = p.read(&ut, sizeof(ut))`, giving the value `ut` has afterwards. -/
def readByte : ReadProg UInt8 := .byte .done

/-- `p.readString16Inplace(&len)`, which sets no status. -/
def readString16Inplace : ReadProg (Option (List UInt16)) := .string .done

/-- `p.readInplace(len)`, which sets no status. -/
def readInplace (len : Int) : ReadProg (Option (List UInt8)) := .inplace len .done

/-- `if (status != NO_ERROR) goto invalid`. -/
def checkStatus : ReadProg Unit := .check (.done ())

/-- `if (!b) goto invalid`. -/
def require (b : Bool) : ReadProg Unit := if b then .done () else .fail

/-- `for (i = 0; i < n; i++)` around a block of reads. -/
def readMany : ℕ → ReadProg α → ReadProg (List α)
  | 0, _ => .done []
  | n + 1, x => x.bind fun a => (readMany n x).bind fun as => .done (a :: as)

/-! ### What the code does -/

/-- The parcel, the status of the last read, and the two target variables. -/
structure ReadState where
  parcel : Parcel
  ok : Bool
  t : Int
  ut : UInt8

/-- Read bytes at a signed length; a negative one is a huge `size_t` that no parcel holds. -/
def inplaceAt (p : Parcel) (len : Int) : Option (List UInt8) × Parcel :=
  if 0 ≤ len then p.readInplace len.toNat else (none, p)

/-- Run the code; `none` is a jump to `invalid`.  A variable of its own that is not read holds
whatever `t` holds. -/
def exec : ReadProg α → ReadState → Option (α × ReadState)
  | .done a, s => some (a, s)
  | .int k, s =>
      match s.parcel.readInt32 with
      | (some v, p) => exec (k v) { s with parcel := p, ok := true, t := v }
      | (none, p) => exec (k s.t) { s with parcel := p, ok := false }
  | .fresh k, s =>
      match s.parcel.readInt32 with
      | (some v, p) => exec (k v) { s with parcel := p, ok := true }
      | (none, p) => exec (k s.t) { s with parcel := p, ok := false }
  | .byte k, s =>
      match s.parcel.readByte with
      | (some v, p) => exec (k v) { s with parcel := p, ok := true, ut := v }
      | (none, p) => exec (k s.ut) { s with parcel := p, ok := false }
  | .string k, s =>
      exec (k s.parcel.readString16Inplace.1) { s with parcel := s.parcel.readString16Inplace.2 }
  | .inplace n k, s =>
      exec (k (inplaceAt s.parcel n).1) { s with parcel := (inplaceAt s.parcel n).2 }
  | .check k, s => if s.ok then exec k s else none
  | .fail, _ => none

/-- The value computed from a parcel, the variables holding whatever they held before. -/
def run (x : ReadProg α) (p : Parcel) (t : Int) (ut : UInt8) : Option α :=
  (exec x ⟨p, true, t, ut⟩).map Prod.fst

/-! ### Every word there -/

/-- The program on a parcel that must hold every word and byte it reads. -/
def present : ReadProg α → Parcel → Option (α × Parcel)
  | .done a, p => some (a, p)
  | .int k, p | .fresh k, p =>
      match p.readInt32 with
      | (some v, q) => present (k v) q
      | (none, _) => none
  | .byte k, p =>
      match p.readByte with
      | (some v, q) => present (k v) q
      | (none, _) => none
  | .string k, p => present (k p.readString16Inplace.1) p.readString16Inplace.2
  | .inplace n k, p => present (k (inplaceAt p n).1) (inplaceAt p n).2
  | .check k, p => present k p
  | .fail, _ => none

/-! ### Which statuses are tested -/

/-- `Flow x b Q`: started with an untested status iff `b`, the program ends with results and an
untested-status flag satisfying `Q`, whatever it reads. -/
def Flow : ReadProg α → Bool → (α → Bool → Prop) → Prop
  | .done a, b, Q => Q a b
  | .int k, _, Q | .fresh k, _, Q => ∀ v, Flow (k v) true Q
  | .byte k, _, Q => ∀ v, Flow (k v) true Q
  | .string k, b, Q => ∀ v, Flow (k v) b Q
  | .inplace _ k, b, Q => ∀ v, Flow (k v) b Q
  | .check k, _, Q => Flow k false Q
  | .fail, _, _ => True

/-- Every path tests the status after its last word. -/
def Checked (x : ReadProg α) : Prop := Flow x false fun _ b => b = false

theorem flow_bind (x : ReadProg α) (f : α → ReadProg β) (Q : β → Bool → Prop) :
    ∀ b, Flow (x.bind f) b Q ↔ Flow x b fun a b' => Flow (f a) b' Q := by
  induction x with
  | done a => intro b; rfl
  | int k ih => intro b; simp only [bind, Flow, ih]
  | fresh k ih => intro b; simp only [bind, Flow, ih]
  | byte k ih => intro b; simp only [bind, Flow, ih]
  | string k ih => intro b; simp only [bind, Flow, ih]
  | inplace n k ih => intro b; simp only [bind, Flow, ih]
  | check k ih => intro b; simp only [bind, Flow, ih]
  | fail => intro b; rfl

/-- What holds of every result and flag holds whatever the program reads. -/
theorem flow_of_forall (x : ReadProg α) {Q : α → Bool → Prop} (h : ∀ a b, Q a b) :
    ∀ b, Flow x b Q := by
  induction x with
  | done a => exact fun b => h a b
  | int k ih => exact fun b v => ih v true
  | fresh k ih => exact fun b v => ih v true
  | byte k ih => exact fun b v => ih v true
  | string k ih => exact fun b v => ih v b
  | inplace n k ih => exact fun b v => ih v b
  | check k ih => exact fun b => ih false
  | fail => exact fun _ => trivial

/-- Once the parcel is short and the last status bad, a program that tests it again gives up. -/
theorem exec_short {x : ReadProg α} (h : Flow x true fun _ b => b = false) {s : ReadState}
    (hok : s.ok = false) (hs : s.parcel.Short) : exec x s = none := by
  induction x generalizing s with
  | done a => exact absurd h (by simp [Flow])
  | int k ih =>
    simp only [exec, Parcel.readInt32_short hs]
    exact ih s.t (h s.t) rfl hs
  | fresh k ih =>
    simp only [exec, Parcel.readInt32_short hs]
    exact ih s.t (h s.t) rfl hs
  | byte k ih =>
    simp only [exec, Parcel.readByte_short hs]
    exact ih s.ut (h s.ut) rfl hs
  | string k ih =>
    simp only [exec, Parcel.readString16Inplace_short hs]
    exact ih none (h none) hok hs
  | inplace n k ih =>
    have hstay : (inplaceAt s.parcel n).2 = s.parcel := by
      unfold inplaceAt
      split
      · exact Parcel.readInplace_short hs _
      · rfl
    simp only [exec, hstay]
    exact ih _ (h _) hok hs
  | check k ih => simp [exec, hok]
  | fail => rfl

/-- **Testing the last status is testing all of them.**  A program every path of which tests the
status after its last word succeeds exactly on the parcels that hold every word it reads, with
the same result. -/
theorem exec_eq_present {x : ReadProg α} {b : Bool} (h : Flow x b fun _ b => b = false)
    {s : ReadState} (hok : s.ok = true) :
    (exec x s).map (fun r => (r.1, r.2.parcel)) = present x s.parcel := by
  induction x generalizing s b with
  | done a => rfl
  | int k ih =>
    rcases hr : s.parcel.readInt32 with ⟨_ | v, q⟩
    · obtain ⟨hs, hq⟩ := Parcel.readInt32_none (p := s.parcel) (by rw [hr])
      rw [hr] at hq
      simp only [exec, present, hr]
      rw [exec_short (h s.t) rfl (by rw [← hq] at hs; exact hs)]
      rfl
    · simp only [exec, present, hr]
      exact ih v (h v) rfl
  | fresh k ih =>
    rcases hr : s.parcel.readInt32 with ⟨_ | v, q⟩
    · obtain ⟨hs, hq⟩ := Parcel.readInt32_none (p := s.parcel) (by rw [hr])
      rw [hr] at hq
      simp only [exec, present, hr]
      rw [exec_short (h s.t) rfl (by rw [← hq] at hs; exact hs)]
      rfl
    · simp only [exec, present, hr]
      exact ih v (h v) rfl
  | byte k ih =>
    rcases hr : s.parcel.readByte with ⟨_ | v, q⟩
    · obtain ⟨hs, hq⟩ := Parcel.readByte_none (p := s.parcel) (by rw [hr])
      rw [hr] at hq
      simp only [exec, present, hr]
      rw [exec_short (h s.ut) rfl (by rw [← hq] at hs; exact hs)]
      rfl
    · simp only [exec, present, hr]
      exact ih v (h v) rfl
  | string k ih =>
    simp only [exec, present]
    exact ih _ (h _) hok
  | inplace n k ih =>
    simp only [exec, present]
    exact ih _ (h _) hok
  | check k ih =>
    simp only [exec, present, hok, if_true]
    exact ih h hok
  | fail => rfl

/-- A checked program computes the value of its strict reading. -/
theorem run_eq_present {x : ReadProg α} (h : Checked x) (p : Parcel) (t : Int) (ut : UInt8) :
    x.run p t ut = (present x p).map Prod.fst := by
  have hex := exec_eq_present h (s := ⟨p, true, t, ut⟩) rfl
  rw [run, ← hex, Option.map_map]
  rfl

theorem bind_assoc {γ : Type} (x : ReadProg α) (f : α → ReadProg β) (g : β → ReadProg γ) :
    (x.bind f).bind g = x.bind fun a => (f a).bind g := by
  induction x with
  | done a => rfl
  | int k ih => simp only [bind, ih]
  | fresh k ih => simp only [bind, ih]
  | byte k ih => simp only [bind, ih]
  | string k ih => simp only [bind, ih]
  | inplace n k ih => simp only [bind, ih]
  | check k ih => simp only [bind, ih]
  | fail => rfl

theorem bind_require (b : Bool) (f : Unit → ReadProg β) :
    (require b).bind f = if b then f () else .fail := by
  cases b <;> rfl

theorem exec_bind (x : ReadProg α) (f : α → ReadProg β) :
    ∀ s, exec (x.bind f) s = (exec x s).bind fun r => exec (f r.1) r.2 := by
  induction x with
  | done a => intro s; rfl
  | int k ih =>
    intro s
    rcases hr : s.parcel.readInt32 with ⟨_ | v, q⟩ <;> simp only [bind, exec, hr, ih]
  | fresh k ih =>
    intro s
    rcases hr : s.parcel.readInt32 with ⟨_ | v, q⟩ <;> simp only [bind, exec, hr, ih]
  | byte k ih =>
    intro s
    rcases hr : s.parcel.readByte with ⟨_ | v, q⟩ <;> simp only [bind, exec, hr, ih]
  | string k ih => intro s; simp only [bind, exec, ih]
  | inplace n k ih => intro s; simp only [bind, exec, ih]
  | check k ih =>
    intro s
    simp only [bind, exec]
    split
    · exact ih s
    · rfl
  | fail => intro s; rfl

theorem present_bind (x : ReadProg α) (f : α → ReadProg β) :
    ∀ p, present (x.bind f) p = (present x p).bind fun r => present (f r.1) r.2 := by
  induction x with
  | done a => intro p; rfl
  | int k ih =>
    intro p
    rcases hr : p.readInt32 with ⟨_ | v, q⟩
    · simp only [bind, present, hr, Option.bind_none]
    · simp only [bind, present, hr, ih]
  | fresh k ih =>
    intro p
    rcases hr : p.readInt32 with ⟨_ | v, q⟩
    · simp only [bind, present, hr, Option.bind_none]
    · simp only [bind, present, hr, ih]
  | byte k ih =>
    intro p
    rcases hr : p.readByte with ⟨_ | v, q⟩
    · simp only [bind, present, hr, Option.bind_none]
    · simp only [bind, present, hr, ih]
  | string k ih => intro p; simp only [bind, present, ih]
  | inplace n k ih => intro p; simp only [bind, present, ih]
  | check k ih => intro p; simp only [bind, present, ih]
  | fail => intro p; rfl

end ReadProg

end CtpCommon
