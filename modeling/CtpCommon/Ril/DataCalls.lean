import CtpCommon.Ril.Response

/-!
# Data call lists

From version 5 on, a list of data calls is an array of one of three structs, each an initial
segment of the next, and the only thing that tells them apart is the length in bytes:
`responseDataCallList` tries `RIL_Data_Call_Response_v6`, then `v9`, then `v11`, and takes the
first whose size divides it.

* `DataCallVersion` — the three structs, with the version word and the fields of each;
* `guess` — the struct the length stands for;
* `responseDataCallList_guess` — **PROVED**: the response is written in the layout of the struct
  the length stands for, whatever struct the vendor's array has;
* `guess_iff` — **PROVED**: on the 32-bit build that is the vendor's struct unless the number of
  its records is a multiple of `9`, or of `10` for the last;
* `statusesV6_eq_iff` — **PROVED**: `responseDataCallListV6` writes the statuses of its records
  when each is a `short` and none that is `0` lacks a DNS server;
* `dataCallList_iff` — **PROVED**: when the list of the vendor's records is written.
-/

namespace CtpCommon.Ril

open Parcel (Write)

/-! ### The three structs -/

inductive DataCallVersion where
  | v6
  | v9
  | v11
  deriving DecidableEq, Repr

namespace DataCallVersion

def struct : DataCallVersion → RilStruct
  | v6 => .dataCallResponseV6
  | v9 => .dataCallResponseV9
  | v11 => .dataCallResponseV11

/-- The version word of a list. -/
def word : DataCallVersion → Int
  | v6 => 6
  | v9 => 10
  | v11 => 11

/-- `sizeof` on the 32-bit build: nine words, one pointer more, one `int` more. -/
def size : DataCallVersion → ℕ
  | v6 => 36
  | v9 => 40
  | v11 => 44

/-- The fields of one record, in the order of the struct. -/
def record (env : EncodeEnv) (v : DataCallVersion) (status : Int) (d : DataCallResponse) :
    List Write :=
  [.int32 status, .int32 d.suggestedRetryTime, .int32 d.cid, .int32 d.active] ++
    [d.type, d.ifname, d.addresses, d.dnses, d.gateways].map (writeStringToParcel env) ++
    match v with
    | v6 => []
    | v9 => [writeStringToParcel env d.pcscf]
    | v11 => [writeStringToParcel env d.pcscf, .int32 d.mtu]

/-- A list of records with their statuses. -/
def list (env : EncodeEnv) (v : DataCallVersion) (statuses : List Int)
    (ds : List DataCallResponse) : List Write :=
  [.int32 v.word, .int32 ds.length] ++ (List.zipWith (v.record env) statuses ds).flatten

/-- An array of `n` of the vendor's structs. -/
def array (r : ResponseMemory) (v : DataCallVersion) (n : ℕ) : List DataCallResponse :=
  (List.range n).map (r.dataCalls v.struct)

theorem size_pos (v : DataCallVersion) : 0 < v.size := by cases v <;> decide

theorem word_injective : Function.Injective word := by
  intro v w h
  cases v <;> cases w <;> first | rfl | exact absurd h (by decide)

theorem array_length (r : ResponseMemory) (v : DataCallVersion) (n : ℕ) :
    (array r v n).length = n := by
  rw [array, List.length_map, List.length_range]

end DataCallVersion

/-- The sizes of the 32-bit build. -/
def Build32 (p : Platform) : Prop := ∀ v : DataCallVersion, p.sizeOf v.struct = v.size

theorem x86_build32 : Build32 x86 := by
  intro v
  cases v <;> rfl

/-! ### Statuses -/

/-- The statuses `responseDataCallListV6` writes. -/
def statusesV6 : ℕ → List DataCallResponse → List Int
  | _, [] => []
  | n, d :: ds => (statusV6 n d).1 :: statusesV6 (statusV6 n d).2 ds

/-- The status words of a list: version 6 reads a `short` and replaces the status of a call
without DNS servers, the others copy the field. -/
def DataCallVersion.statuses (v : DataCallVersion) (nDnsFailures : ℕ)
    (ds : List DataCallResponse) : List Int :=
  match v with
  | v6 => statusesV6 nDnsFailures ds
  | v9 => ds.map DataCallResponse.status
  | v11 => ds.map DataCallResponse.status

/-- A record of version 6 whose status is written as it is. -/
def PlainStatus (d : DataCallResponse) : Prop :=
  -32768 ≤ d.status ∧ d.status < 32768 ∧ (d.status = 0 → isValidAddr d.dnses = true)

/-- The low half of the field, with its sign. -/
theorem bmod_short (v : Int) : ∃ k, Int.bmod v 65536 = v + 65536 * k ∧
    -32768 ≤ Int.bmod v 65536 ∧ Int.bmod v 65536 < 32768 := by
  rw [Int.bmod_def]
  by_cases hlow : v % (65536 : ℕ) < ((65536 : ℕ) + 1) / 2
  · rw [if_pos hlow]
    refine ⟨-(v / 65536), ?_, ?_, ?_⟩ <;> omega
  · rw [if_neg hlow]
    refine ⟨-(v / 65536) - 1, ?_, ?_, ?_⟩ <;> omega

theorem statusV6_eq_iff (n : ℕ) (d : DataCallResponse) :
    (statusV6 n d).1 = d.status ↔ PlainStatus d := by
  obtain ⟨k, hk, hlow, hhigh⟩ := bmod_short d.status
  unfold statusV6 PlainStatus
  simp only []
  generalize Int.bmod d.status 65536 = status at hk hlow hhigh
  by_cases hzero : status = 0
  · by_cases hvalid : isValidAddr d.dnses = true
    · rw [if_neg (by simp [hvalid]), if_pos hzero]
      constructor
      · intro h
        exact ⟨by omega, by omega, fun _ => hvalid⟩
      · intro ⟨_, _, _⟩
        show status = d.status
        omega
    · have hcode : ∀ code : Int, code = 31 ∨ code = 36 → (code = d.status ↔ PlainStatus d) := by
        intro code hcode
        constructor
        · intro h
          omega
        · intro ⟨_, _, hdns⟩
          exact absurd (hdns (by omega)) hvalid
      rw [if_pos (by simp [hzero, hvalid])]
      split
      · exact hcode _ (Or.inr rfl)
      · exact hcode _ (Or.inl rfl)
  · rw [if_neg (by simp [hzero]), if_neg hzero]
    constructor
    · intro h
      have heq : status = d.status := h
      exact ⟨by omega, by omega, fun h0 => absurd (by omega) hzero⟩
    · intro ⟨_, _, _⟩
      show status = d.status
      omega

/-- **The statuses of a list** are those of its records when each of them is. -/
theorem statusesV6_eq_iff (n : ℕ) (ds : List DataCallResponse) :
    statusesV6 n ds = ds.map DataCallResponse.status ↔ ∀ d ∈ ds, PlainStatus d := by
  induction ds generalizing n with
  | nil => exact ⟨fun _ d hd => absurd hd List.not_mem_nil, fun _ => rfl⟩
  | cons d ds ih =>
    rw [List.forall_mem_cons, ← statusV6_eq_iff n d, ← ih (statusV6 n d).2]
    exact List.cons_eq_cons

theorem statusesV6_length (n : ℕ) (ds : List DataCallResponse) :
    (statusesV6 n ds).length = ds.length := by
  induction ds generalizing n with
  | nil => rfl
  | cons d ds ih => exact congrArg (· + 1) (ih _)

theorem DataCallVersion.statuses_length (v : DataCallVersion) (n : ℕ)
    (ds : List DataCallResponse) : (v.statuses n ds).length = ds.length := by
  cases v with
  | v6 => exact statusesV6_length n ds
  | v9 => exact List.length_map ..
  | v11 => exact List.length_map ..

/-! ### The three encoders -/

section

variable {env : EncodeEnv}

theorem DataCallVersion.record_length (v : DataCallVersion) (status status' : Int)
    (d d' : DataCallResponse) :
    (v.record env status d).length = (v.record env status' d').length := by
  cases v <;> rfl

/-- `dataCallsV6` writes the records with their statuses. -/
theorem dataCallsV6_fst (n : ℕ) (ds : List DataCallResponse) :
    (dataCallsV6 env n ds).1
      = (List.zipWith (DataCallVersion.v6.record env) (statusesV6 n ds) ds).flatten := by
  induction ds generalizing n with
  | nil => rfl
  | cons d ds ih =>
    show dataCallWrites env _ d ++ (dataCallsV6 env _ ds).1 = _ ++ List.flatten _
    rw [ih]
    rfl

/-- The loops that copy the status. -/
theorem flatMap_record (v : DataCallVersion) (ds : List DataCallResponse) :
    ds.flatMap (fun d => v.record env d.status d)
      = (List.zipWith (v.record env) (ds.map DataCallResponse.status) ds).flatten := by
  induction ds with
  | nil => rfl
  | cons d ds ih =>
    rw [List.flatMap_cons, ih]
    rfl

/-- What is written for a response of some length: `0` is returned, and the records of a struct
are written in its layout. -/
def WritesList (env : EncodeEnv) (response : Option ResponseMemory) (len : ℕ)
    (ws : List Write) : Prop :=
  ∃ x, responseDataCallList env response len = some x ∧ x.ret = 0 ∧ x.writes = ws

theorem responseDataCallListV6_list {r : ResponseMemory} {len : ℕ}
    (hsize : env.platform.sizeOf .dataCallResponseV6 = DataCallVersion.v6.size)
    (hlen : len % DataCallVersion.v6.size = 0) :
    ∃ x, responseDataCallListV6 env (some r) len = some x ∧ x.ret = 0 ∧
      x.writes = DataCallVersion.v6.list env
        (statusesV6 env.dnsFailures (DataCallVersion.v6.array r (len / DataCallVersion.v6.size)))
        (DataCallVersion.v6.array r (len / DataCallVersion.v6.size)) := by
  unfold responseDataCallListV6
  simp only [hsize]
  rw [if_neg (by simp), if_neg (not_not.mpr hlen)]
  by_cases hzero : len / DataCallVersion.v6.size = 0
  · rw [if_pos hzero, hzero]
    exact ⟨_, rfl, rfl, rfl⟩
  · rw [if_neg hzero]
    refine ⟨_, rfl, rfl, ?_⟩
    show [Write.int32 6, Write.int32 _] ++ (dataCallsV6 env _ (DataCallVersion.v6.array r _)).1 = _
    rw [dataCallsV6_fst, DataCallVersion.list, DataCallVersion.array_length]
    rfl

/-- The encoders of the two other structs have one shape. -/
theorem arrayResponse_list (v : DataCallVersion) {r : ResponseMemory} {len : ℕ}
    (hlen : len % v.size = 0) :
    ∃ x, arrayResponse v.size (fun num => [.int32 v.word, .int32 num])
        (fun r i => v.record env (r.dataCalls v.struct i).status (r.dataCalls v.struct i))
        (some r) len = some x ∧ x.ret = 0 ∧
      x.writes = v.list env ((v.array r (len / v.size)).map DataCallResponse.status)
        (v.array r (len / v.size)) := by
  obtain ⟨n, rfl⟩ := Nat.dvd_of_mod_eq_zero hlen
  rw [Nat.mul_comm, arrayResponse_eq v.size_pos, Nat.mul_div_cancel n v.size_pos]
  refine ⟨_, rfl, rfl, ?_⟩
  have hrecords : (List.range n).flatMap (fun i =>
      v.record env (r.dataCalls v.struct i).status (r.dataCalls v.struct i))
        = (v.array r n).flatMap fun d => v.record env d.status d := by
    rw [DataCallVersion.array, List.flatMap_map]
  show [Write.int32 v.word, Write.int32 _] ++ List.flatMap _ _ = _
  rw [hrecords, flatMap_record, DataCallVersion.list, DataCallVersion.array_length]

/-! ### The guess -/

/-- The struct the code takes for a response of `len` bytes: the sizes are tried in this order. -/
def guess (len : ℕ) : Option DataCallVersion :=
  [DataCallVersion.v6, .v9, .v11].find? fun v => len % v.size = 0

/-- The tests one after another. -/
theorem guess_eq (len : ℕ) : guess len =
    if len % 36 = 0 then some .v6 else if len % 40 = 0 then some .v9
    else if len % 44 = 0 then some .v11 else none := by
  by_cases h6 : len % 36 = 0
  · simp [guess, List.find?, DataCallVersion.size, h6]
  by_cases h9 : len % 40 = 0
  · simp [guess, List.find?, DataCallVersion.size, h6, h9]
  by_cases h11 : len % 44 = 0
  · simp [guess, List.find?, DataCallVersion.size, h6, h9, h11]
  · simp [guess, List.find?, DataCallVersion.size, h6, h9, h11]

theorem guess_size {len : ℕ} {v : DataCallVersion} (h : guess len = some v) :
    len % v.size = 0 := by
  have hfound := List.find?_some h
  exact of_decide_eq_true hfound

/-- The length of an array of structs stands for one of the structs. -/
theorem guess_isSome (v : DataCallVersion) (n : ℕ) : (guess (n * v.size)).isSome := by
  unfold guess
  rw [List.find?_isSome]
  refine ⟨v, by cases v <;> decide, ?_⟩
  rw [Nat.mul_mod_left]
  rfl

/-- The vendor has `n` records of this struct, and no smaller struct fills their bytes. -/
def DataCallVersion.Identified (v : DataCallVersion) (n : ℕ) : Prop :=
  match v with
  | v6 => True
  | v9 => ¬ 9 ∣ n
  | v11 => ¬ 9 ∣ n ∧ ¬ 10 ∣ n

/-- **When the guess is right**: `9` records of forty bytes are `10` of thirty-six, `9` of
forty-four are `11` of thirty-six, and `10` of forty-four are `11` of forty. -/
theorem guess_iff (v : DataCallVersion) (n : ℕ) :
    guess (n * v.size) = some v ↔ v.Identified n := by
  cases v with
  | v6 =>
    show guess (n * 36) = _ ↔ True
    rw [guess_eq, if_pos (Nat.mul_mod_left n 36)]
    simp
  | v9 =>
    show guess (n * 40) = _ ↔ ¬ 9 ∣ n
    rw [guess_eq]
    by_cases h : 9 ∣ n
    · rw [if_pos (by omega)]
      simp [h]
    · rw [if_neg (by omega), if_pos (by omega)]
      simp [h]
  | v11 =>
    show guess (n * 44) = _ ↔ ¬ 9 ∣ n ∧ ¬ 10 ∣ n
    rw [guess_eq]
    by_cases h9 : 9 ∣ n
    · rw [if_pos (by omega)]
      simp [h9]
    rw [if_neg (by omega)]
    by_cases h10 : 10 ∣ n
    · rw [if_pos (by omega)]
      simp [h10]
    · rw [if_neg (by omega), if_pos (by omega)]
      simp [h9, h10]

/-- **The layout is that of the guess**, whatever struct the vendor's array has. -/
theorem responseDataCallList_guess (hbuild : Build32 env.platform) (hversion : 5 ≤ env.version)
    {r : ResponseMemory} {len : ℕ} {v : DataCallVersion} (hguess : guess len = some v) :
    WritesList env (some r) len (v.list env
      (v.statuses env.dnsFailures (v.array r (len / v.size))) (v.array r (len / v.size))) := by
  have hlen := guess_size hguess
  have h6 : env.platform.sizeOf .dataCallResponseV6 = 36 := hbuild .v6
  have h9 : env.platform.sizeOf .dataCallResponseV9 = 40 := hbuild .v9
  have h11 : env.platform.sizeOf .dataCallResponseV11 = 44 := hbuild .v11
  rw [guess_eq] at hguess
  unfold WritesList responseDataCallList
  rw [if_neg (not_lt.mpr hversion), h6, h9, h11]
  by_cases hmod6 : len % 36 = 0
  · rw [if_pos hmod6] at hguess ⊢
    obtain rfl := Option.some.inj hguess
    exact responseDataCallListV6_list h6 hlen
  rw [if_neg hmod6] at hguess ⊢
  by_cases hmod9 : len % 40 = 0
  · rw [if_pos hmod9] at hguess ⊢
    obtain rfl := Option.some.inj hguess
    unfold responseDataCallListV9
    rw [h9]
    exact arrayResponse_list .v9 hlen
  rw [if_neg hmod9] at hguess ⊢
  by_cases hmod11 : len % 44 = 0
  · rw [if_pos hmod11] at hguess
    obtain rfl := Option.some.inj hguess
    exact arrayResponse_list .v11 hlen
  · rw [if_neg hmod11] at hguess
    exact absurd hguess (by simp)

/-! ### What is written -/

theorem DataCallVersion.list_word {v w : DataCallVersion} {s t : List Int}
    {ds es : List DataCallResponse} (h : v.list env s ds = w.list env t es) : v = w := by
  have hhead := (List.cons.inj h).1
  injection hhead with hword
  exact word_injective hword

/-- A list of records determines its statuses. -/
theorem DataCallVersion.list_statuses {v : DataCallVersion} {s t : List Int}
    {ds : List DataCallResponse} (hs : s.length = ds.length) (ht : t.length = ds.length)
    (h : v.list env s ds = v.list env t ds) : s = t := by
  have hrecords : (List.zipWith (v.record env) s ds).flatten
      = (List.zipWith (v.record env) t ds).flatten := List.append_cancel_left h
  clear h
  induction ds generalizing s t with
  | nil => rw [List.length_eq_zero_iff.mp hs, List.length_eq_zero_iff.mp ht]
  | cons d ds ih =>
    obtain ⟨x, s, rfl⟩ := List.exists_cons_of_length_eq_add_one hs
    obtain ⟨y, t, rfl⟩ := List.exists_cons_of_length_eq_add_one ht
    have hcons : v.record env x d ++ (List.zipWith (v.record env) s ds).flatten
        = v.record env y d ++ (List.zipWith (v.record env) t ds).flatten := hrecords
    obtain ⟨hfirst, hrest⟩ := List.append_inj hcons (v.record_length x y d d)
    have hword := (List.cons.inj hfirst).1
    injection hword with hxy
    rw [hxy, ih (Nat.succ.inj hs) (Nat.succ.inj ht) hrest]

/-- What is written is determined. -/
theorem WritesList.unique {response : Option ResponseMemory} {len : ℕ} {ws ws' : List Write}
    (h : WritesList env response len ws) (h' : WritesList env response len ws') : ws = ws' := by
  obtain ⟨x, hx, -, rfl⟩ := h
  obtain ⟨y, hy, -, rfl⟩ := h'
  rw [hx] at hy
  rw [Option.some.inj hy]

/-- **When a data call list is encoded as the vendor means it.**  The version word, the count and
the records of the vendor's struct are written exactly when the guess is right; and the statuses
are those of the records when, for version 6, each of them is plain. -/
theorem dataCallList_iff (hbuild : Build32 env.platform) (hversion : 5 ≤ env.version)
    (v : DataCallVersion) (r : ResponseMemory) (n : ℕ) :
    (WritesList env (some r) (n * v.size)
        (v.list env (v.statuses env.dnsFailures (v.array r n)) (v.array r n)) ↔
      v.Identified n) ∧
    (WritesList env (some r) (n * v.size)
        (v.list env ((v.array r n).map DataCallResponse.status) (v.array r n)) ↔
      v.Identified n ∧ (v = .v6 → ∀ d ∈ v.array r n, PlainStatus d)) := by
  have hdiv : n * v.size / v.size = n := Nat.mul_div_cancel n v.size_pos
  have hright : v.Identified n → WritesList env (some r) (n * v.size)
      (v.list env (v.statuses env.dnsFailures (v.array r n)) (v.array r n)) := by
    intro h
    have hwrites := responseDataCallList_guess hbuild hversion (r := r) ((guess_iff v n).mpr h)
    rw [hdiv] at hwrites
    exact hwrites
  have hleft : ∀ s, WritesList env (some r) (n * v.size) (v.list env s (v.array r n)) →
      v.Identified n := by
    intro s h
    obtain ⟨w, hw⟩ := Option.isSome_iff_exists.mp (guess_isSome v n)
    have hguess := responseDataCallList_guess hbuild hversion (r := r) hw
    obtain rfl := DataCallVersion.list_word (h.unique hguess)
    exact (guess_iff v n).mp hw
  refine ⟨⟨hleft _, hright⟩, ?_⟩
  have hstatuses : v.statuses env.dnsFailures (v.array r n)
      = (v.array r n).map DataCallResponse.status ↔
        (v = .v6 → ∀ d ∈ v.array r n, PlainStatus d) := by
    cases v with
    | v6 => exact (statusesV6_eq_iff _ _).trans ⟨fun h _ => h, fun h => h rfl⟩
    | v9 => exact ⟨fun _ h => absurd h (by decide), fun _ => rfl⟩
    | v11 => exact ⟨fun _ h => absurd h (by decide), fun _ => rfl⟩
  constructor
  · intro h
    have hid := hleft _ h
    refine ⟨hid, hstatuses.mp ?_⟩
    refine DataCallVersion.list_statuses ?_ ?_ ((hright hid).unique h)
    · exact v.statuses_length _ _
    · exact List.length_map ..
  · intro ⟨hid, hplain⟩
    rw [← hstatuses.mpr hplain]
    exact hright hid

end

/-! ### Eight and nine calls -/

/-- A vendor of version 9 on the 32-bit build. -/
def version9 : EncodeEnv where
  platform := x86
  version := 9
  radioIsOn := false
  dnsFailures := 0

theorem eightCalls_listed : 5 ≤ version9.version ∧
    WritesList version9 (some default) (8 * DataCallVersion.v9.size)
      (DataCallVersion.v9.list version9
        (DataCallVersion.v9.statuses 0 (DataCallVersion.array default .v9 8))
        (DataCallVersion.array default .v9 8)) := by
  have hversion : 5 ≤ version9.version := by decide
  have hiff := (dataCallList_iff x86_build32 hversion .v9 default 8).1
  exact ⟨hversion, hiff.mpr (show ¬ 9 ∣ 8 by decide)⟩

/-- Nine records of `RIL_Data_Call_Response_v9`, all zero, are written as ten of version 6. -/
theorem nineCalls_misread :
    (responseDataCallList version9 (some default) (9 * DataCallVersion.v9.size)).map
        (fun x => x.writes.take 2) = some [.int32 6, .int32 10] ∧
      ∀ statuses, ¬ WritesList version9 (some default) (9 * DataCallVersion.v9.size)
        (DataCallVersion.v9.list version9 statuses (DataCallVersion.array default .v9 9)) := by
  have hhead : (responseDataCallList version9 (some default) (9 * DataCallVersion.v9.size)).map
      (fun x => x.writes.take 2) = some [.int32 6, .int32 10] := by
    decide +kernel
  refine ⟨hhead, ?_⟩
  rintro statuses ⟨x, hx, -, hwrites⟩
  rw [hx, Option.map_some, hwrites] at hhead
  have hword := (List.cons.inj (Option.some.inj hhead)).1
  exact absurd hword (by decide)

end CtpCommon.Ril
