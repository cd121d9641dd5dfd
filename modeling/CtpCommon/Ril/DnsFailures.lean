import CtpCommon.Ril.DataCalls
import CtpCommon.Ril.ResponseLog

/-!
# Missing DNS servers

`responseDataCallListV6` counts, in a static variable, the calls that came up without a DNS server.
The counter survives from one list to the next, and is all the code knows of what was before.  Each
record is printed into `printBuf`, and once a text has overrun it nothing is said of the counter.

* `failuresSince` — the failures since the last call with a DNS server, over a whole history;
* `statusV6_history` — **PROVED**: one record moves the counter as it moves that number modulo `3`;
* `DataCallResponse.textWidth` — the characters printed of a record, which the history does not
  change;
* `dnsFailures_history_iff` — **PROVED**: over any lists one after another, the counter is that number
  modulo `3` and every status is the one the history stands for, iff the texts of every list fit;
* `emptyRecords_overrun` — a list whose texts do not;
* `missingDns_iff` — **PROVED**: when no call without a DNS server is written as a working one.
-/

namespace CtpCommon.Ril

open Parcel (Write)

/-! ### One call of the function -/

/-- The arguments of a call of `responseDataCallListV6`. -/
structure ListCall where
  response : Option ResponseMemory
  responselen : ℕ

namespace ListCall

variable (env : EncodeEnv) (c : ListCall)

def encoded : Option Encoded := responseDataCallListV6 env c.response c.responselen

/-- The two checks of the arguments. -/
def Accepted : Prop :=
  ¬ (c.response.isNone ∧ c.responselen ≠ 0) ∧
    c.responselen % env.platform.sizeOf .dataCallResponseV6 = 0

instance : Decidable (c.Accepted env) := inferInstanceAs (Decidable (_ ∧ _))

/-- The records of an accepted response; a rejected one has none. -/
def records : List DataCallResponse :=
  match c.response with
  | none => []
  | some r =>
      if c.responselen % env.platform.sizeOf .dataCallResponseV6 = 0 then
        DataCallVersion.v6.array r (c.responselen / env.platform.sizeOf .dataCallResponseV6)
      else []

/-- What is written is the list of the records with these statuses. -/
def Writes (statuses : List Int) : Prop :=
  statuses.length = (c.records env).length ∧ ∃ x, c.encoded env = some x ∧
    x.writes = if c.Accepted env then DataCallVersion.v6.list env statuses (c.records env) else []

/-- The static variable after the call. -/
def counterAfter (n : ℕ) : ℕ :=
  ((c.encoded { env with dnsFailures := n }).bind Encoded.dnsFailures).getD n

theorem records_of_not_accepted (h : ¬ c.Accepted env) : c.records env = [] := by
  unfold records
  rcases hr : c.response with _ | r
  · rfl
  · refine if_neg fun hlen => h ⟨?_, hlen⟩
    rw [hr]
    simp

/-- Nothing is written but the list, and the counter is that after the last record. -/
theorem encoded_eq : ∃ x, c.encoded env = some x ∧
    x.writes = (if c.Accepted env then
      DataCallVersion.v6.list env (statusesV6 env.dnsFailures (c.records env)) (c.records env)
      else []) ∧
    x.dnsFailures.getD env.dnsFailures = (dataCallsV6 env env.dnsFailures (c.records env)).2 := by
  by_cases h : c.Accepted env
  · obtain ⟨hnull, hlen⟩ := h
    rw [if_pos ⟨hnull, hlen⟩]
    unfold encoded responseDataCallListV6
    simp only []
    rw [if_neg hnull, if_neg (not_not.mpr hlen)]
    rcases hr : c.response with _ | r
    · have hzero : c.responselen = 0 := by
        rw [hr] at hnull
        simpa using hnull
      have hrecords : c.records env = [] := by rw [records, hr]
      rw [hzero, Nat.zero_div, if_pos rfl, hrecords]
      exact ⟨_, rfl, rfl, rfl⟩
    · have hrecords : c.records env = DataCallVersion.v6.array r
          (c.responselen / env.platform.sizeOf .dataCallResponseV6) := by
        simp only [records, hr]
        exact if_pos hlen
      rw [hrecords]
      by_cases hnum : c.responselen / env.platform.sizeOf .dataCallResponseV6 = 0
      · rw [if_pos hnum, hnum]
        exact ⟨_, rfl, rfl, rfl⟩
      · rw [if_neg hnum]
        refine ⟨_, rfl, ?_, rfl⟩
        show [Write.int32 6, Write.int32 _]
          ++ (dataCallsV6 env _ (DataCallVersion.v6.array r _)).1 = _
        rw [dataCallsV6_fst, DataCallVersion.list, DataCallVersion.array_length]
        rfl
  · rw [if_neg h, records_of_not_accepted env c h]
    refine ⟨{ writes := [], ret := rilErrnoInvalidResponse }, ?_, rfl, rfl⟩
    unfold encoded responseDataCallListV6 invalidResponse
    simp only []
    by_cases hnull : c.response.isNone ∧ c.responselen ≠ 0
    · rw [if_pos hnull]
    · rw [if_neg hnull, if_pos fun hlen => h ⟨hnull, hlen⟩]

/-- The statuses written are those of the loop. -/
theorem writes_statusesV6 : c.Writes env (statusesV6 env.dnsFailures (c.records env)) := by
  obtain ⟨x, hx, hwrites, -⟩ := c.encoded_eq env
  exact ⟨statusesV6_length _ _, x, hx, hwrites⟩

theorem Writes.unique {env : EncodeEnv} {c : ListCall} {s t : List Int} (hs : c.Writes env s)
    (ht : c.Writes env t) : s = t := by
  obtain ⟨hslen, x, hx, hxw⟩ := hs
  obtain ⟨htlen, y, hy, hyw⟩ := ht
  obtain rfl := Option.some.inj (hx.symm.trans hy)
  rw [hxw] at hyw
  by_cases h : c.Accepted env
  · rw [if_pos h, if_pos h] at hyw
    exact DataCallVersion.list_statuses hslen htlen hyw
  · rw [records_of_not_accepted env c h, List.length_nil] at hslen htlen
    rw [List.length_eq_zero_iff.mp hslen, List.length_eq_zero_iff.mp htlen]

theorem counterAfter_eq (n : ℕ) : c.counterAfter env n
    = (dataCallsV6 { env with dnsFailures := n } n (c.records env)).2 := by
  obtain ⟨x, hx, -, hcounter⟩ := c.encoded_eq { env with dnsFailures := n }
  unfold counterAfter
  rw [hx]
  exact hcounter

end ListCall

/-! ### The history -/

/-- The status as the `short` it is taken for. -/
def DataCallResponse.shortStatus (d : DataCallResponse) : Int := Int.bmod d.status 65536

/-- A working call whose DNS servers are rejected, or accepted. -/
def DataCallResponse.LacksDns (d : DataCallResponse) : Prop :=
  d.shortStatus = 0 ∧ isValidAddr d.dnses = false

def DataCallResponse.HasDns (d : DataCallResponse) : Prop :=
  d.shortStatus = 0 ∧ isValidAddr d.dnses = true

instance (d : DataCallResponse) : Decidable d.LacksDns := inferInstanceAs (Decidable (_ ∧ _))

instance (d : DataCallResponse) : Decidable d.HasDns := inferInstanceAs (Decidable (_ ∧ _))

/-- The records without DNS since the last one with DNS, or since the start; the oldest record
stands first. -/
def failuresSince (history : List DataCallResponse) : ℕ :=
  (history.reverse.takeWhile fun d => ¬ d.HasDns).countP fun d => d.LacksDns

/-- The status a record is written with after a history. -/
def statusAfter (history : List DataCallResponse) (d : DataCallResponse) : Int :=
  if d.LacksDns then
    let failures := failuresSince (history ++ [d])
    if 0 < failures ∧ 3 ∣ failures then pdpFailRegularDeactivation
    else pdpFailActivationRejectUnspecified
  else d.shortStatus

/-- One record more. -/
theorem failuresSince_append (history : List DataCallResponse) (d : DataCallResponse) :
    failuresSince (history ++ [d]) =
      if d.HasDns then 0 else failuresSince history + if d.LacksDns then 1 else 0 := by
  unfold failuresSince
  rw [List.reverse_append, List.reverse_singleton, List.singleton_append, List.takeWhile_cons]
  by_cases hdns : d.HasDns
  · simp [hdns]
  · simp [hdns, List.countP_cons]

/-- **One record**: the counter moves as the number of failures does, modulo `3`, and the status is
the one the history stands for. -/
theorem statusV6_history (history : List DataCallResponse) (d : DataCallResponse) :
    statusV6 (failuresSince history % 3) d
      = (statusAfter history d, failuresSince (history ++ [d]) % 3) := by
  unfold statusAfter statusV6
  simp only [failuresSince_append]
  by_cases hzero : d.shortStatus = 0
  · have hshort : Int.bmod d.status 65536 = 0 := hzero
    cases hvalid : isValidAddr d.dnses with
    | true =>
      have hdns : d.HasDns := ⟨hzero, hvalid⟩
      have hlacks : ¬ d.LacksDns := fun h => by simpa [hvalid] using h.2
      simp [hshort, hzero, hdns, hlacks]
    | false =>
      have hlacks : d.LacksDns := ⟨hzero, hvalid⟩
      have hdns : ¬ d.HasDns := fun h => by simpa [hvalid] using h.2
      have hmax : maxDnsFailures = 3 := rfl
      simp only [hshort, hdns, hlacks, if_true, if_false, Bool.not_false, and_self]
      by_cases hthird : failuresSince history % 3 + 1 ≥ maxDnsFailures
      · rw [if_pos hthird, if_pos ⟨by omega, by omega⟩]
        exact Prod.ext rfl (by omega)
      · rw [if_neg hthird, if_neg (by omega)]
        exact Prod.ext rfl (by omega)
  · have hshort : Int.bmod d.status 65536 ≠ 0 := hzero
    have hlacks : ¬ d.LacksDns := fun h => hzero h.1
    have hdns : ¬ d.HasDns := fun h => hzero h.1
    simp only [hshort, hdns, hlacks, if_false, false_and, Nat.add_zero]
    rfl

/-- The statuses of a list after a history. -/
theorem statusesV6_history (ds : List DataCallResponse) : ∀ history,
    statusesV6 (failuresSince history % 3) ds
      = ds.mapIdx fun i d => statusAfter (history ++ ds.take i) d := by
  induction ds with
  | nil => exact fun _ => rfl
  | cons d ds ih =>
    intro history
    rw [statusesV6, statusV6_history, ih, List.mapIdx_cons, List.take_zero, List.append_nil]
    simp only [List.take_succ_cons, List.append_assoc, List.singleton_append]

/-- The counter after a list. -/
theorem dataCallsV6_history {env : EncodeEnv} (ds : List DataCallResponse) : ∀ history,
    (dataCallsV6 env (failuresSince history % 3) ds).2 = failuresSince (history ++ ds) % 3 := by
  induction ds with
  | nil => exact fun history => by rw [List.append_nil]; rfl
  | cons d ds ih =>
    intro history
    show (dataCallsV6 env (statusV6 _ d).2 ds).2 = _
    rw [statusV6_history, ih, List.append_assoc, List.singleton_append]

/-! ### Any number of lists -/

/-- The static variable `n_dns_failures` after the calls, in order; it starts as `0`. -/
def nDnsFailures (env : EncodeEnv) (cs : List ListCall) : ℕ :=
  cs.foldl (fun n c => c.counterAfter env n) 0

/-- The records of the calls, in order. -/
def history (env : EncodeEnv) (cs : List ListCall) : List DataCallResponse :=
  cs.flatMap (ListCall.records env)

theorem nDnsFailures_history (env : EncodeEnv) (cs : List ListCall) :
    nDnsFailures env cs = failuresSince (history env cs) % 3 := by
  have hrun : ∀ h, cs.foldl (fun n c => c.counterAfter env n) (failuresSince h % 3)
      = failuresSince (h ++ history env cs) % 3 := by
    induction cs with
    | nil => exact fun h => congrArg (failuresSince · % 3) (List.append_nil h).symm
    | cons c cs ih =>
      intro h
      rw [List.foldl_cons, ListCall.counterAfter_eq, dataCallsV6_history, ih, List.append_assoc]
      rfl
  exact hrun []

/-- What the next call writes, and the counter between any two of its records. -/
theorem dnsFailures_next (env : EncodeEnv) (cs : List ListCall) (c : ListCall) :
    c.Writes { env with dnsFailures := nDnsFailures env cs }
        ((c.records env).mapIdx fun i d =>
          statusAfter (history env cs ++ (c.records env).take i) d) ∧
      ∀ i, (dataCallsV6 env (nDnsFailures env cs) ((c.records env).take i)).2
          = failuresSince (history env cs ++ (c.records env).take i) % 3 ∧
        (dataCallsV6 env (nDnsFailures env cs) ((c.records env).take i)).2 ∈ [0, 1, 2] := by
  have hcounter := nDnsFailures_history env cs
  refine ⟨?_, fun i => ?_⟩
  · rw [← statusesV6_history, ← hcounter]
    exact c.writes_statusesV6 { env with dnsFailures := nDnsFailures env cs }
  · rw [hcounter, dataCallsV6_history]
    refine ⟨rfl, ?_⟩
    have hlt : failuresSince (history env cs ++ (c.records env).take i) % 3 < 3 :=
      Nat.mod_lt _ (by decide)
    generalize failuresSince (history env cs ++ (c.records env).take i) % 3 = n at hlt
    interval_cases n <;> decide

/-! ### What is printed -/

/-- The characters printed of a record.  Both statuses of a call without DNS have two digits. -/
def DataCallResponse.textWidth (d : DataCallResponse) : ℕ :=
  28 + (if d.LacksDns then 2 else (Conv.dec d.shortStatus).width) +
    (Conv.dec d.suggestedRetryTime).width + (Conv.dec d.cid).width +
    (if d.active = 0 then 4 else 2) + (Conv.str d.type).width + (Conv.str d.ifname).width +
    (Conv.str d.addresses).width + (Conv.str d.dnses).width + (Conv.str d.gateways).width

/-- The status is as long whatever the history. -/
theorem statusV6_width (n : ℕ) (d : DataCallResponse) :
    (Conv.dec (statusV6 n d).1).width
      = if d.LacksDns then 2 else (Conv.dec d.shortStatus).width := by
  unfold statusV6
  by_cases hlacks : d.LacksDns
  · have hcond : Int.bmod d.status 65536 = 0 ∧ (!isValidAddr d.dnses) = true :=
      ⟨hlacks.1, by rw [hlacks.2]; rfl⟩
    have hwidths : (Conv.dec pdpFailRegularDeactivation).width = 2 ∧
        (Conv.dec pdpFailActivationRejectUnspecified).width = 2 := by decide
    simp only [if_pos hlacks, if_pos hcond]
    split
    · exact hwidths.1
    · exact hwidths.2
  · have hcond : ¬ (Int.bmod d.status 65536 = 0 ∧ (!isValidAddr d.dnses) = true) :=
      fun h => hlacks ⟨h.1, by simpa using h.2⟩
    simp only [if_neg hlacks, if_neg hcond]
    split <;> rfl

theorem length_dataCallLine (n : ℕ) (d : DataCallResponse) :
    (printed (dataCallLine (statusV6 n d).1 d ++ [.text "],"])).length = d.textWidth := by
  have hactive : (upOrDown d.active).width = if d.active = 0 then 4 else 2 := by
    unfold upOrDown choice
    by_cases h : d.active = 0 <;> simp only [h, if_true, if_false] <;> rfl
  have htexts : (Conv.text "[status=").width = 8 ∧ (Conv.text ",retry=").width = 7 ∧
    (Conv.text ",cid=").width = 5 ∧ (Conv.text ",").width = 1 ∧
      (Conv.text "],").width = 2 := by decide
  obtain ⟨hstatus, hretry, hcid, hcomma, hclose⟩ := htexts
  rw [length_printed, printedWidth, dataCallLine]
  simp only [List.cons_append, List.nil_append, List.map_cons, List.map_nil, List.sum_cons,
    List.sum_nil, hactive, statusV6_width, hstatus, hretry, hcid, hcomma, hclose,
    DataCallResponse.textWidth]
  ring

/-- The texts of a list. -/
theorem logDataCallsV6_appends (ds : List DataCallResponse) (s : ReadProg.ReadState) : ∀ n,
    ∃ lines, (logDataCallsV6 n ds).Appends s lines () s ∧
      lines.flatten.length = (ds.map DataCallResponse.textWidth).sum := by
  induction ds with
  | nil => exact fun n => ⟨[], .done () s, rfl⟩
  | cons d ds ih =>
    intro n
    obtain ⟨lines, hlines, hlength⟩ := ih (statusV6 n d).2
    refine ⟨_, (appendPrintBuf_appends _ s).bind hlines, ?_⟩
    rw [List.singleton_append, List.flatten_cons, List.length_append, length_dataCallLine, hlength,
      List.map_cons, List.sum_cons]

/-- A call, and the text that is in `printBuf` before it. -/
structure LoggedCall where
  call : ListCall
  printBuf : List UInt8

namespace LoggedCall

variable (env : EncodeEnv) (c : LoggedCall)

/-- The call stays inside `printBuf`. -/
def Fits (n : ℕ) : Prop :=
  LogProg.Fits printbufSize (logSteps (logResponseDataCallListV6 { env with dnsFailures := n }
    c.call.response c.call.responselen) c.printBuf)

instance (n : ℕ) : Decidable (c.Fits env n) := inferInstanceAs (Decidable (LogProg.Fits _ _))

/-- A rejected response is not printed; of any other the texts of the records, the text that is
there, three brackets and the NUL fit. -/
def Short : Prop :=
  c.call.Accepted env →
    c.printBuf.length + ((c.call.records env).map DataCallResponse.textWidth).sum + 3 ≤ printbufSize

instance : Decidable (c.Short env) := inferInstanceAs (Decidable (_ → _))

/-- **The call fits iff its records are short**, whatever the counter. -/
theorem fits_iff (n : ℕ) : c.Fits env n ↔ c.Short env := by
  unfold Fits Short
  by_cases h : c.call.Accepted env
  swap
  · refine iff_of_true ?_ fun h' => absurd h' h
    have hnothing : logResponseDataCallListV6 { env with dnsFailures := n } c.call.response
        c.call.responselen = .done () := by
      unfold logResponseDataCallListV6
      by_cases hnull : c.call.response.isNone ∧ c.call.responselen ≠ 0
      · exact if_pos hnull
      · exact (if_neg hnull).trans (if_pos fun hlen => h ⟨hnull, hlen⟩)
    rw [hnothing]
    exact ⟨LogProg.textsFit_nil, List.not_mem_nil⟩
  · have hprints : logResponseDataCallListV6 { env with dnsFailures := n } c.call.response
        c.call.responselen = startResponse.bind fun _ =>
          (logDataCallsV6 n (c.call.records env)).bind fun _ =>
            removeLastChar.bind fun _ => closeResponse := by
      unfold logResponseDataCallListV6
      rw [if_neg h.1]
      refine (if_neg (not_not.mpr h.2)).trans ?_
      unfold ListCall.records
      rcases hr : c.call.response with _ | r
      · rfl
      · simp only []
        rw [if_pos h.2]
        rfl
    obtain ⟨lines, hlines, hlength⟩ := logDataCallsV6_appends (c.call.records env)
      ⟨Parcel.ofBytes [], true, 0, 0⟩ n
    rw [hprints, bracketed_fits_iff hlines, hlength]
    exact ⟨fun hfits _ => hfits, fun hshort => hshort h⟩

end LoggedCall

/-- The static variable after the calls; `none` once one of them has overrun `printBuf`. -/
def nDnsFailuresLogged (env : EncodeEnv) (cs : List LoggedCall) : Option ℕ :=
  cs.foldlM (fun n c => if c.Fits env n then some (c.call.counterAfter env n) else none) 0

theorem nDnsFailuresLogged_of_short {env : EncodeEnv} {cs : List LoggedCall}
    (h : ∀ c ∈ cs, c.Short env) :
    nDnsFailuresLogged env cs = some (nDnsFailures env (cs.map LoggedCall.call)) := by
  unfold nDnsFailuresLogged nDnsFailures
  generalize 0 = n
  induction cs generalizing n with
  | nil => rfl
  | cons c cs ih =>
    obtain ⟨hc, hcs⟩ := List.forall_mem_cons.mp h
    rw [List.foldlM_cons, if_pos ((c.fits_iff env n).mpr hc), List.map_cons, List.foldl_cons]
    exact ih hcs _

/-- After the calls `cs` the call `c` stays inside `printBuf`, writes each record with the status its
whole history stands for, over all lists, and between any two of its records the counter is the
number of failures modulo `3`. -/
def KeepsHistory (env : EncodeEnv) (cs : List LoggedCall) (c : LoggedCall) : Prop :=
  ∃ n, nDnsFailuresLogged env cs = some n ∧ c.Fits env n ∧
    let before := history env (cs.map LoggedCall.call)
    let records := c.call.records env
    c.call.Writes { env with dnsFailures := n }
        (records.mapIdx fun i d => statusAfter (before ++ records.take i) d) ∧
      ∀ i, (dataCallsV6 env n (records.take i)).2 = failuresSince (before ++ records.take i) % 3 ∧
        (dataCallsV6 env n (records.take i)).2 ∈ [0, 1, 2]

/-- **The counter of DNS failures** over any calls, one after another: all of them keep the history
exactly when the texts of each fit `printBuf`. -/
theorem dnsFailures_history_iff (env : EncodeEnv) (cs : List LoggedCall) :
    (∀ before c after, cs = before ++ c :: after → KeepsHistory env before c) ↔
      ∀ c ∈ cs, c.Short env := by
  constructor
  · intro h c hc
    obtain ⟨before, after, rfl⟩ := List.append_of_mem hc
    obtain ⟨n, -, hfits, -⟩ := h before c after rfl
    exact (c.fits_iff env n).mp hfits
  · rintro h before c after rfl
    have hbefore : ∀ c ∈ before, c.Short env := fun c hc => h c (List.mem_append_left _ hc)
    have hc := h c (List.mem_append_right _ List.mem_cons_self)
    exact ⟨_, nDnsFailuresLogged_of_short hbefore, (c.fits_iff env _).mpr hc,
      dnsFailures_next env _ c.call⟩

/-- A first call, with records of which every field is zero or `NULL`. -/
def emptyRecords (n : ℕ) : LoggedCall := ⟨⟨some default, n * 36⟩, []⟩

/-- A message of 130 such records has less than 5000 bytes, and their texts overrun `printBuf`. -/
theorem emptyRecords_overrun : ¬ KeepsHistory ⟨x86, 6, false, 0⟩ [] (emptyRecords 130) := by
  rintro ⟨n, -, hfits, -⟩
  have hshort : ¬ (emptyRecords 130).Short ⟨x86, 6, false, 0⟩ := by decide +kernel
  exact hshort (((emptyRecords 130).fits_iff _ n).mp hfits)

/-! ### Placeholders -/

/-- `0.0.0.0` or `::`. -/
def Placeholder (addr : CString) : Prop := addr = [48, 46, 48, 46, 48, 46, 48] ∨ addr = [58, 58]

instance (addr : CString) : Decidable (Placeholder addr) := inferInstanceAs (Decidable (_ ∨ _))

/-- The addresses of a list, with any number of spaces around them. -/
def addresses (dnses : CString) : List CString := (dnses.splitOn 32).filter (· ≠ [])

/-- The list has an address that is no placeholder. -/
def HasServer (dnses : Option CString) : Prop :=
  ∃ s, dnses = some s ∧ ∃ addr ∈ addresses s, ¬ Placeholder addr

/-- A list of placeholders alone, or of nothing, that is not itself one of the two strings. -/
def Overlooked (dnses : Option CString) : Prop :=
  ∃ s, dnses = some s ∧ ¬ Placeholder s ∧ ∀ addr ∈ addresses s, Placeholder addr

theorem isValidAddr_iff (dnses : Option CString) :
    isValidAddr dnses = true ↔ ∃ s, dnses = some s ∧ ¬ Placeholder s := by
  unfold isValidAddr Placeholder
  cases dnses with
  | none => simp
  | some s => simp

/-- A list that is accepted and has no server is overlooked. -/
theorem overlooked_iff (dnses : Option CString) :
    Overlooked dnses ↔ isValidAddr dnses = true ∧ ¬ HasServer dnses := by
  rw [isValidAddr_iff]
  constructor
  · rintro ⟨s, rfl, hs, hall⟩
    refine ⟨⟨s, rfl, hs⟩, ?_⟩
    rintro ⟨t, ht, addr, haddr, hno⟩
    obtain rfl := Option.some.inj ht
    exact hno (hall addr haddr)
  · rintro ⟨⟨s, rfl, hs⟩, hno⟩
    refine ⟨s, rfl, hs, fun addr haddr => ?_⟩
    by_contra hplace
    exact hno ⟨s, rfl, addr, haddr, hplace⟩

/-- A record is written as a working call when its status is `0` and its list is accepted. -/
theorem statusV6_eq_zero_iff (n : ℕ) (d : DataCallResponse) :
    (statusV6 n d).1 = 0 ↔ d.shortStatus = 0 ∧ isValidAddr d.dnses = true := by
  unfold statusV6 DataCallResponse.shortStatus
  simp only []
  by_cases hzero : Int.bmod d.status 65536 = 0
  · cases hvalid : isValidAddr d.dnses with
    | true => simp [hzero]
    | false =>
      rw [if_pos ⟨hzero, rfl⟩]
      split <;> simp [pdpFailRegularDeactivation, pdpFailActivationRejectUnspecified]
  · rw [if_neg fun h => hzero h.1, if_neg hzero]
    simp [hzero]

theorem statusesV6_zero_iff {P : DataCallResponse → Prop} (ds : List DataCallResponse) : ∀ n,
    (∀ p ∈ (statusesV6 n ds).zip ds, p.1 = 0 → P p.2) ↔
      ∀ d ∈ ds, d.shortStatus = 0 ∧ isValidAddr d.dnses = true → P d := by
  induction ds with
  | nil => simp [statusesV6]
  | cons d ds ih =>
    intro n
    rw [statusesV6, List.zip_cons_cons, List.forall_mem_cons, List.forall_mem_cons, ih,
      statusV6_eq_zero_iff]

/-- Every record the call writes with status `0` has a server in its list. -/
def ListCall.DetectsMissing (env : EncodeEnv) (c : ListCall) : Prop :=
  ∀ statuses, c.Writes env statuses →
    ∀ p ∈ statuses.zip (c.records env), p.1 = 0 → HasServer p.2.dnses

/-- **When missing DNS is detected**: exactly when no record whose status is `0` has a list of
placeholders alone that differs from the two strings the code compares it with. -/
theorem missingDns_iff (env : EncodeEnv) (c : ListCall) :
    c.DetectsMissing env ↔ ∀ d ∈ c.records env, d.shortStatus = 0 → ¬ Overlooked d.dnses := by
  have hstatuses := c.writes_statusesV6 env
  have hloop := statusesV6_zero_iff (P := fun d => HasServer d.dnses) (c.records env)
    env.dnsFailures
  constructor
  · intro h d hd hzero hover
    obtain ⟨hvalid, hno⟩ := (overlooked_iff d.dnses).mp hover
    exact hno (hloop.mp (h _ hstatuses) d hd ⟨hzero, hvalid⟩)
  · intro h statuses hw
    obtain rfl := hw.unique hstatuses
    refine hloop.mpr fun d hd ⟨hzero, hvalid⟩ => ?_
    by_contra hno
    exact h d hd hzero ((overlooked_iff d.dnses).mpr ⟨hvalid, hno⟩)

/-- A vendor's response of one record, all its fields zero or `NULL` but the list of servers. -/
def oneRecord (dnses : CString) : ListCall where
  response := some { (default : ResponseMemory) with
    dataCalls := fun _ _ => { (default : DataCallResponse) with dnses := some dnses } }
  responselen := 36

theorem oneRecord_records (dnses : CString) :
    (oneRecord dnses).records ⟨x86, 6, false, 0⟩
      = [{ (default : DataCallResponse) with dnses := some dnses }] := by
  have hlen : 36 % x86.sizeOf .dataCallResponseV6 = 0 := by decide
  unfold ListCall.records oneRecord
  simp only []
  rw [if_pos hlen]
  rfl

/-- A list that is overlooked is written as that of a working call. -/
theorem oneRecord_undetected {dnses : CString} (h : Overlooked (some dnses)) :
    (oneRecord dnses).Writes ⟨x86, 6, false, 0⟩ [0] ∧
      ¬ (oneRecord dnses).DetectsMissing ⟨x86, 6, false, 0⟩ := by
  obtain ⟨hvalid, hno⟩ := (overlooked_iff _).mp h
  have hwrites := (oneRecord dnses).writes_statusesV6 ⟨x86, 6, false, 0⟩
  rw [oneRecord_records, statusesV6, statusesV6, (statusV6_eq_zero_iff _ _).mpr ⟨rfl, hvalid⟩]
    at hwrites
  refine ⟨hwrites, fun hdetects => hno ?_⟩
  have hrecord := hdetects [0] hwrites
  rw [oneRecord_records, List.zip_cons_cons] at hrecord
  exact hrecord _ List.mem_cons_self rfl

/-- The empty list, and `0.0.0.0 ::`. -/
theorem placeholders_undetected :
    ((oneRecord []).Writes ⟨x86, 6, false, 0⟩ [0] ∧
      ¬ (oneRecord []).DetectsMissing ⟨x86, 6, false, 0⟩) ∧
    (oneRecord [48, 46, 48, 46, 48, 46, 48, 32, 58, 58]).Writes ⟨x86, 6, false, 0⟩ [0] ∧
      ¬ (oneRecord [48, 46, 48, 46, 48, 46, 48, 32, 58, 58]).DetectsMissing
        ⟨x86, 6, false, 0⟩ := by
  have hempty : Overlooked (some []) := ⟨[], rfl, by decide, by decide⟩
  have hboth : Overlooked (some [48, 46, 48, 46, 48, 46, 48, 32, 58, 58]) :=
    ⟨_, rfl, by decide, by decide⟩
  exact ⟨oneRecord_undetected hempty, oneRecord_undetected hboth⟩

end CtpCommon.Ril
