import CtpCommon.Lib.ReadProg

/-!
# Layouts: what a payload has to hold

A fixed layout is a list of word and string fields.

* `decode` — accepts a parcel only if every field is complete; `wordsPresent` asks for the words
  alone, `stringsComplete` for the strings;
* `decode_isSome_iff` — **PROVED**: the two together are exactly `decode`;
* `skip` — a layout as a program that reads its fields and keeps nothing, so that a layout whose
  length depends on the data can be written down as well;
* `Decodes` — decoding code against a layout, with one rule for each construct;
  `Decodes.run_isSome` — **PROVED**: the code runs to its end exactly on the parcels that hold
  the layout.
-/

namespace CtpCommon

/-- A field of a fixed layout. -/
inductive Field where
  | word
  | string
  deriving DecidableEq, Repr

/-- What a field holds. -/
inductive FieldValue where
  | word (v : Int)
  | string (s : Option (List UInt16))
  deriving DecidableEq, Repr

namespace Field

open ReadProg

/-- A string is completely there: a length word `-1`, or one whose characters and terminator lie
inside the data. -/
def stringComplete (p : Parcel) : Bool :=
  match p.readInt32 with
  | (none, _) => false
  | (some n, q) =>
      n = -1 || (0 ≤ n && n < Parcel.int32Max && (q.readInplace ((n.toNat + 1) * 2)).1.isSome)

/-- Every field of the layout, each of them complete. -/
def decode : List Field → Parcel → Option (List FieldValue)
  | [], _ => some []
  | .word :: fs, p =>
      match p.readInt32 with
      | (some v, q) => (decode fs q).map (.word v :: ·)
      | (none, _) => none
  | .string :: fs, p =>
      if stringComplete p then
        (decode fs p.readString16Inplace.2).map (.string p.readString16Inplace.1 :: ·)
      else none

/-- The words of the layout are there, each where the reads before it leave the cursor. -/
def wordsPresent : List Field → Parcel → Bool
  | [], _ => true
  | .word :: fs, p => p.readInt32.1.isSome && wordsPresent fs p.readInt32.2
  | .string :: fs, p => wordsPresent fs p.readString16Inplace.2

/-- The strings of the layout are complete, each where the reads before it leave the cursor. -/
def stringsComplete : List Field → Parcel → Bool
  | [], _ => true
  | .word :: fs, p => stringsComplete fs p.readInt32.2
  | .string :: fs, p => stringComplete p && stringsComplete fs p.readString16Inplace.2

/-- The code that reads the fields one after the other and tests nothing. -/
def readFields : List Field → ReadProg (List FieldValue)
  | [] => .done []
  | .word :: fs => .int fun v => (readFields fs).bind fun vs => .done (.word v :: vs)
  | .string :: fs => .string fun s => (readFields fs).bind fun vs => .done (.string s :: vs)

/-- A complete payload has all its words and all its strings, and nothing else is asked of it. -/
theorem decode_isSome_iff (fs : List Field) :
    ∀ p, (decode fs p).isSome = (wordsPresent fs p && stringsComplete fs p) := by
  induction fs with
  | nil => intro p; rfl
  | cons f fs ih =>
    intro p
    cases f with
    | word =>
      rcases hr : p.readInt32 with ⟨_ | v, q⟩
      · simp [decode, wordsPresent, hr]
      · simp [decode, wordsPresent, stringsComplete, hr, ih]
    | string =>
      by_cases hc : stringComplete p = true
      · simp [decode, wordsPresent, stringsComplete, hc, ih]
      · simp [decode, stringsComplete, hc]

/-- Reading the fields where every word is there. -/
theorem present_readFields_isSome (fs : List Field) :
    ∀ p, (present (readFields fs) p).isSome = wordsPresent fs p := by
  induction fs with
  | nil => intro p; rfl
  | cons f fs ih =>
    intro p
    cases f with
    | word =>
      rcases hr : p.readInt32 with ⟨_ | v, q⟩
      · simp [readFields, present, wordsPresent, hr]
      · have h := ih q
        simp only [readFields, present, wordsPresent, hr, present_bind, Option.isSome_some,
          Bool.true_and, ← h]
        cases present (readFields fs) q <;> rfl
    | string =>
      have h := ih p.readString16Inplace.2
      simp only [readFields, present, wordsPresent, present_bind, ← h]
      cases present (readFields fs) p.readString16Inplace.2 <;> rfl

/-- A complete payload is read with exactly its field values. -/
theorem present_readFields_of_decode (fs : List Field) :
    ∀ {p vs}, decode fs p = some vs → (present (readFields fs) p).map Prod.fst = some vs := by
  induction fs with
  | nil => intro p vs h; simpa [decode, readFields, present] using h
  | cons f fs ih =>
    intro p vs h
    cases f with
    | word =>
      rcases hr : p.readInt32 with ⟨_ | v, q⟩
      · simp [decode, hr] at h
      · simp only [decode, hr, Option.map_eq_some_iff] at h
        obtain ⟨ws, hws, rfl⟩ := h
        have hp := ih hws
        simp only [readFields, present, hr, present_bind]
        rcases hq : present (readFields fs) q with _ | ⟨us, r⟩
        · simp [hq] at hp
        · simpa [hq] using hp
    | string =>
      by_cases hc : stringComplete p = true
      · simp only [decode, hc, if_true, Option.map_eq_some_iff] at h
        obtain ⟨ws, hws, rfl⟩ := h
        have hp := ih hws
        simp only [readFields, present, present_bind]
        rcases hq : present (readFields fs) p.readString16Inplace.2 with _ | ⟨us, r⟩
        · simp [hq] at hp
        · simpa [hq] using hp
      · simp [decode, hc] at h

/-- Reading one layout after another. -/
theorem present_readFields_append (fs gs : List Field) :
    ∀ p, present (readFields (fs ++ gs)) p = (present (readFields fs) p).bind fun r =>
      (present (readFields gs) r.2).map (Prod.map (r.1 ++ ·) id) := by
  induction fs with
  | nil =>
    intro p
    rcases h : present (readFields gs) p with _ | ⟨vs, q⟩
    · simp [readFields, present, h]
    · simp [readFields, present, h]
  | cons f fs ih =>
    intro p
    cases f with
    | word =>
      rcases hr : p.readInt32 with ⟨_ | v, q⟩
      · simp [readFields, present, hr]
      · simp only [List.cons_append, readFields, present, hr, present_bind, ih q]
        rcases present (readFields fs) q with _ | ⟨vs, r⟩
        · rfl
        · rcases hg : present (readFields gs) r with _ | ⟨us, r'⟩ <;> simp [hg]
    | string =>
      simp only [List.cons_append, readFields, present, present_bind, ih]
      rcases present (readFields fs) p.readString16Inplace.2 with _ | ⟨vs, r⟩
      · rfl
      · rcases hg : present (readFields gs) r with _ | ⟨us, r'⟩ <;> simp [hg]

/-! ### Loops over a layout -/

/-- `n` elements of one layout, read in a loop, are the fields of `n` copies of it. -/
theorem present_readMany_readFields (fs : List Field) (n : ℕ) :
    ∀ p, (present (ReadProg.readMany n (readFields fs)) p).map (Prod.map List.flatten id)
      = present (readFields (List.replicate n fs).flatten) p := by
  induction n with
  | zero => intro p; rfl
  | succ n ih =>
    intro p
    rw [ReadProg.readMany, List.replicate_succ, List.flatten_cons, present_readFields_append,
      present_bind]
    rcases present (readFields fs) p with _ | ⟨vs, q⟩
    · rfl
    · show ((present ((ReadProg.readMany n (readFields fs)).bind _) q).map _) = _
      rw [present_bind, Option.bind_some]
      show _ = (present (readFields (List.replicate n fs).flatten) q).map _
      rw [← ih q]
      rcases present (ReadProg.readMany n (readFields fs)) q with _ | ⟨vss, r⟩ <;> rfl

end Field

namespace ReadProg

variable {α β γ δ : Type}

/-! ### Reading over a layout -/

/-- Read the fields, keep nothing, and go on. -/
def skip : List Field → ReadProg α → ReadProg α
  | [], k => k
  | .word :: fs, k => .int fun _ => skip fs k
  | .string :: fs, k => .string fun _ => skip fs k

/-- Read over `n` words. -/
def words (n : ℕ) (k : ReadProg α) : ReadProg α := skip (List.replicate n .word) k

/-- A loop makes as many elements as it has rounds. -/
theorem length_of_present_readMany (x : ReadProg α) (n : ℕ) :
    ∀ {p as q}, present (readMany n x) p = some (as, q) → as.length = n := by
  induction n with
  | zero =>
    intro p as q h
    obtain ⟨rfl, -⟩ := Prod.mk.inj (Option.some.inj h)
    rfl
  | succ n ih =>
    intro p as q h
    rw [readMany, present_bind] at h
    obtain ⟨⟨a, r⟩, -, h⟩ := Option.bind_eq_some_iff.mp h
    rw [present_bind] at h
    obtain ⟨⟨bs, r'⟩, hrest, h⟩ := Option.bind_eq_some_iff.mp h
    obtain ⟨rfl, -⟩ := Prod.mk.inj (Option.some.inj h)
    rw [List.length_cons, ih hrest]

/-- A loop around code that makes one element of one layout's fields. -/
theorem present_readMany_map {x : ReadProg α} {fs : List Field} {g : List FieldValue → α}
    (hx : ∀ p, present x p = (present (Field.readFields fs) p).map (Prod.map g id)) (n : ℕ) :
    ∀ p, present (readMany n x) p
      = (present (readMany n (Field.readFields fs)) p).map (Prod.map (List.map g) id) := by
  induction n with
  | zero => intro p; rfl
  | succ n ih =>
    intro p
    rw [readMany, readMany, present_bind, present_bind, hx p]
    rcases present (Field.readFields fs) p with _ | ⟨vs, q⟩
    · rfl
    · show present ((readMany n x).bind _) q = (present ((readMany n _).bind _) q).map _
      rw [present_bind, present_bind, ih q]
      rcases present (readMany n (Field.readFields fs)) q with _ | ⟨vss, r⟩ <;> rfl

/-! ### Code that decodes a layout -/

/-- The code `x`, entered with an untested status iff `b`, tests the status after its last word,
and finds what it reads exactly where the layout `y` does. -/
structure Decodes (x : ReadProg α) (b : Bool) (y : ReadProg β) : Prop where
  flow : Flow x b fun _ b => b = false
  agree : ∀ p, (present x p).isSome = (present y p).isSome

namespace Decodes

variable {b : Bool}

/-- **Decoding code runs to its end exactly on the parcels that hold its layout.** -/
theorem run_isSome {x : ReadProg α} {y : ReadProg β} (h : Decodes x false y) (p : Parcel)
    (t : Int) (ut : UInt8) : (x.run p t ut).isSome = (present y p).isSome := by
  rw [run_eq_present h.flow, Option.isSome_map, h.agree]

theorem done (a : α) (c : β) : Decodes (.done a) false (.done c) := ⟨rfl, fun _ => rfl⟩

theorem fail : Decodes (.fail : ReadProg α) b (.fail : ReadProg β) := ⟨trivial, fun _ => rfl⟩

theorem int {k : Int → ReadProg α} {k' : Int → ReadProg β}
    (h : ∀ v, Decodes (k v) true (k' v)) : Decodes (.int k) b (.int k') := by
  refine ⟨fun v => (h v).flow, fun p => ?_⟩
  rcases hr : p.readInt32 with ⟨_ | v, q⟩
  · simp only [present, hr, Option.isSome_none]
  · simp only [present, hr]
    exact (h v).agree q

/-- A variable of its own is a word of the layout like any other. -/
theorem fresh {k : Int → ReadProg α} {k' : Int → ReadProg β}
    (h : ∀ v, Decodes (k v) true (k' v)) : Decodes (.fresh k) b (.int k') := by
  refine ⟨fun v => (h v).flow, fun p => ?_⟩
  rcases hr : p.readInt32 with ⟨_ | v, q⟩
  · simp only [present, hr, Option.isSome_none]
  · simp only [present, hr]
    exact (h v).agree q

theorem byte {k : UInt8 → ReadProg α} {k' : UInt8 → ReadProg β}
    (h : ∀ v, Decodes (k v) true (k' v)) : Decodes (.byte k) b (.byte k') := by
  refine ⟨fun v => (h v).flow, fun p => ?_⟩
  rcases hr : p.readByte with ⟨_ | v, q⟩
  · simp only [present, hr, Option.isSome_none]
  · simp only [present, hr]
    exact (h v).agree q

/-- A byte read for its own sake is a word of the layout. -/
theorem byte_word {k : UInt8 → ReadProg α} {k' : ReadProg β} (h : ∀ v, Decodes (k v) true k') :
    Decodes (.byte k) b (.int fun _ => k') := by
  refine ⟨fun v => (h v).flow, fun p => ?_⟩
  obtain ⟨hsome, hpos⟩ := p.readByte_eq_readInt32
  rcases hr : p.readByte with ⟨_ | v, q⟩ <;> rcases hi : p.readInt32 with ⟨_ | w, q'⟩ <;>
    simp only [hr, hi, Option.isSome_some, Option.isSome_none, reduceCtorEq] at hsome hpos
  · simp only [present, hr, hi, Option.isSome_none]
  · simp only [present, hr, hi, hpos]
    exact (h v).agree q'

theorem string {k : Option (List UInt16) → ReadProg α} {k' : Option (List UInt16) → ReadProg β}
    (h : ∀ s, Decodes (k s) b (k' s)) : Decodes (.string k) b (.string k') :=
  ⟨fun s => (h s).flow, fun _ => (h _).agree _⟩

/-- Bytes read in place at the very end are not part of the layout. -/
theorem inplace_done {n : Int} {g : Option (List UInt8) → α} (c : β) :
    Decodes (.inplace n fun bs => .done (g bs)) false (.done c) :=
  ⟨fun _ => rfl, fun _ => rfl⟩

theorem check {x : ReadProg α} {y : ReadProg β} (h : Decodes x false y) :
    Decodes (.check x) b y := ⟨h.flow, h.agree⟩

theorem ite {c : Prop} [Decidable c] {x x' : ReadProg α} {y y' : ReadProg β}
    (h : Decodes x b y) (h' : Decodes x' b y') :
    Decodes (if c then x else x') b (if c then y else y') := by
  split
  · exact h
  · exact h'

/-- A requirement of the code that the layout states as well. -/
theorem require {c : Bool} {P : Prop} [Decidable P] (hc : c = decide P) {f : Unit → ReadProg α}
    {y : ReadProg β} (h : Decodes (f ()) b y) :
    Decodes ((ReadProg.require c).bind f) b (if P then y else .fail) := by
  subst hc
  rw [bind_require]
  simp only [decide_eq_true_eq]
  exact ite h fail

theorem assoc {x : ReadProg α} {f : α → ReadProg β} {g : β → ReadProg γ} {y : ReadProg δ}
    (h : Decodes (x.bind fun a => (f a).bind g) b y) : Decodes ((x.bind f).bind g) b y := by
  rw [bind_assoc]
  exact h

/-- A loop over a block of reads needs as many copies of the block's layout.  `B` holds of the
status flags the block can start and end with. -/
theorem readMany {B : Bool → Prop} {x : ReadProg α} {fs : List Field}
    (hx : ∀ {g : α → ReadProg β} {k : ReadProg γ}, (∀ a b, B b → Decodes (g a) b k) →
      ∀ b, B b → Decodes (x.bind g) b (skip fs k)) {f : List α → ReadProg β} {k : ReadProg γ}
    (hf : ∀ as b, B b → Decodes (f as) b k) (n : ℕ) :
    ∀ b, B b → Decodes ((ReadProg.readMany n x).bind f) b
      (skip (List.replicate n fs).flatten k) := by
  have hskip : ∀ fs gs : List Field, skip (fs ++ gs) k = skip fs (skip gs k) := by
    intro fs gs
    induction fs with
    | nil => rfl
    | cons f fs ih => cases f <;> simp only [List.cons_append, skip, ih]
  induction n generalizing f with
  | zero => exact hf []
  | succ n ih =>
    rw [ReadProg.readMany, bind_assoc, List.replicate_succ, List.flatten_cons, hskip]
    refine hx fun a b hb => ?_
    rw [bind_assoc]
    exact ih (fun as => hf _) b hb

/-- A loop over bytes needs as many words. -/
theorem readMany_byte {f : List UInt8 → ReadProg β} {k : ReadProg γ}
    (hf : ∀ as b, Decodes (f as) b k) (n : ℕ) :
    Decodes ((ReadProg.readMany n readByte).bind f) b (words n k) := by
  have hx : ∀ {g : UInt8 → ReadProg β} {k : ReadProg γ}, (∀ a b, True → Decodes (g a) b k) →
      ∀ b, True → Decodes (readByte.bind g) b (skip [.word] k) :=
    fun hg _ _ => byte_word fun v => hg v true trivial
  have h := readMany hx (fun as b _ => hf as b) n b trivial
  rwa [List.flatten_replicate_singleton] at h

/-- Strings alone need nothing. -/
theorem of_strings {x : ReadProg α} {n : ℕ} {c : β}
    (h : Decodes x b (skip (List.replicate n .string) (.done c))) : Decodes x b (.done c) := by
  have hall : ∀ n p, (present (skip (List.replicate n .string) (ReadProg.done c)) p).isSome := by
    intro n
    induction n with
    | zero => exact fun p => rfl
    | succ n ih => exact fun p => ih _
  exact ⟨h.flow, fun p => by rw [h.agree, hall]; rfl⟩

end Decodes

end ReadProg

end CtpCommon
