import CtpCommon.Lib.Handles
import CtpCommon.Lib.Runs
import CtpCommon.Ril.Isolation

/-!
# Tokens of completed requests

A token is the address of a `RequestInfo`, and `checkAndDequeueRequestInfo` accepts it when a
record at that address is on the list.  In `isolationSystem` the name of a record is its number,
which is never given out again; here every record also has the address `calloc` chose, which is
any address no live record has, and the list is searched by address.

* `TokenState` — the requests and completions of `isolationSystem`, the address of every record,
  the effects of a dispatch function still to be carried out, and a log of the completions called
  on completed requests;
* `tokenSystem` — its steps: a dispatch function runs effect by effect, and other threads complete
  requests in between;
* `dequeueAt_pending` — **PROVED**: the first completion of a request finds its own record;
* `stale_tokens_harmless_iff` — **PROVED**: in every run, a completion called on a completed
  request changes nothing if and only if no later request at its address is pending;
* `stale_token_answers`, `double_completion_removes` — runs in which the address has been given to
  another request.
-/

namespace CtpCommon.Ril

open Handles

/-! ### The state -/

/-- A completion called on a completed request: the pending requests allocated at its address
since, and the requests and completions before and after the call. -/
structure StaleCall where
  record : ℕ
  reused : List ℕ
  before : IsolationState
  after : IsolationState

structure TokenState where
  base : IsolationState
  place : ℕ → ℕ
  dispatching : Option (RequestInfo × List DispatchEffect)
  staleCalls : List StaleCall

/-- The records that are not freed: on the list, or in a completion that has not ended. -/
def live (s : IsolationState) : List ℕ :=
  s.ril.pending.nodes.map RequestInfo.addr ++
    (s.dequeued.map (fun c => c.request.addr) ++ s.encoded.map Prod.fst)

/-- What `calloc` may return. -/
def TokenState.Free (s : TokenState) (a : ℕ) : Prop := a ≠ 0 ∧ ∀ k ∈ live s.base, s.place k ≠ a

instance (s : TokenState) (a : ℕ) : Decidable (s.Free a) := inferInstanceAs (Decidable (_ ∧ _))

/-- A record that has been allocated, and has left the list. -/
def Completed (s : IsolationState) (k : ℕ) : Prop :=
  k < s.ril.pending.fresh ∧ ∀ r ∈ s.ril.pending.nodes, r.addr ≠ k

instance (s : IsolationState) (k : ℕ) : Decidable (Completed s k) :=
  inferInstanceAs (Decidable (_ ∧ _))

/-- The requests allocated at the address of the record `k` after it that are not completed. -/
def TokenState.reused (s : TokenState) (k : ℕ) : List ℕ :=
  (List.range s.base.ril.pending.fresh).filter fun j =>
    k < j ∧ s.place j = s.place k ∧ ¬ Completed s.base j

/-! ### Completing by address -/

/-- `RIL_onRequestComplete` up to the test of `cancelled`: the list is searched for the address
`t`. -/
def TokenState.dequeueAt (s : TokenState) (t : ℕ) (e : Int) (response : Option ResponseMemory)
    (responselen : ℕ) : IsolationState :=
  if t = 0 then s.base
  else
    match s.base.ril.pending.nodes.find? fun r => s.place r.addr == t with
    | none => s.base
    | some r => { s.base with
        ril := { s.base.ril with pending := s.base.ril.pending.unlink r.addr }
        dequeued := s.base.dequeued ++ [⟨r, e, response, responselen⟩] }

/-- A call of `RIL_onRequestComplete` with the token of the record `k`. -/
def TokenState.complete (s : TokenState) (k : ℕ) (e : Int) (response : Option ResponseMemory)
    (responselen : ℕ) : TokenState :=
  let base := s.dequeueAt (s.place k) e response responselen
  { s with
    base := base
    staleCalls := if Completed s.base k then s.staleCalls ++ [⟨k, s.reused k, s.base, base⟩]
      else s.staleCalls }

variable (P : Platform) (version : Int)

/-! ### Runs -/

inductive TokenAction where
  | accept (fdCommand : ℕ)
  | rejectPeer
  | closeCommands
  | socketClosed
  | record (radioState : RadioState) (t : Int) (ut : UInt8) (faults : WriteFaults)
      (buffer : List UInt8) (address : ℕ)
  | perform
  | complete (k : ℕ) (e : Int) (response : Option ResponseMemory) (responselen : ℕ)
  | testCancelled (i : ℕ) (address : ℕ)
  | sendResponse (i : ℕ) (faults : WriteFaults)

/-- A step of the event loop between two records. -/
def TokenState.loopStep (s : TokenState) (a : IsolationAction) : Option TokenState :=
  if s.dispatching.isNone then
    (isolationStep P version s.base a).map fun base => { s with base := base }
  else none

/-- `processCommandBuffer` up to the call of the dispatch function, with a record at `address`. -/
def TokenState.receiveAt (s : TokenState) (env : DispatchEnv) (faults : WriteFaults)
    (buffer : List UInt8) (address : ℕ) : TokenState :=
  match readRecord buffer with
  | .invalid => s
  | .unsupported token =>
      let pErr := (messageHead token).writeInt32 rilEGenericFailure
      { s with base := respond s.base.connection pErr.data faults s.base }
  | .accepted token request p =>
      { s with
        base := pushRequest token request s.base
        place := Function.update s.place s.base.ril.pending.fresh address
        dispatching := some (s.base.ril.pending.node token request false,
          dispatch env request.dispatchFunction p) }

/-- The next effect of the dispatch function, once a completion of its own has ended. -/
def TokenState.performNext (s : TokenState) : Option TokenState :=
  match s.dispatching with
  | none => none
  | some (_, []) => some { s with dispatching := none }
  | some (r, effect :: effects) =>
      let s' := { s with dispatching := some (r, effects) }
      match effect with
      | .onRequestComplete e response =>
          if r.addr ∈ s.base.dequeued.map (fun c => c.request.addr) ++ s.base.encoded.map Prod.fst
          then none
          else some (s'.complete r.addr e (response.map intMemory)
            (if response.isSome then wordSize else 0))
      | effect => (perform ⟨P, version, .on, 0, 0⟩ noFaults r s.base.ril effect).map fun ril =>
          { s' with base := { s.base with ril := ril } }

def tokenStep (s : TokenState) : TokenAction → Option TokenState
  | .accept fdCommand => s.loopStep P version (.accept fdCommand)
  | .rejectPeer => s.loopStep P version .rejectPeer
  | .closeCommands => s.loopStep P version .closeCommands
  | .socketClosed => s.loopStep P version .socketClosed
  | .record radioState t ut faults buffer address =>
      if s.dispatching.isNone ∧ 0 ≤ s.base.ril.fdCommand ∧ s.Free address then
        some (s.receiveAt ⟨P, version, radioState, t, ut⟩ faults buffer address)
      else none
  | .perform => s.performNext P version
  | .complete k e response responselen =>
      -- the vendor completes requests it has been given
      if ∃ call ∈ s.base.ril.vendor, call.token = k then some (s.complete k e response responselen)
      else none
  | .testCancelled i address =>
      if s.Free address then
        (isolationStep P version s.base (.testCancelled i)).map fun base =>
          { s with
            base := base
            place := Function.update s.place s.base.ril.pending.fresh address }
      else none
  | .sendResponse i faults =>
      (isolationStep P version s.base (.sendResponse i faults)).map fun base =>
        { s with base := base }

def tokenSystem : Runs.System TokenState TokenAction :=
  ⟨⟨isolationInit, fun _ => 0, none, []⟩, tokenStep P version⟩

/-! ### What a completion finds -/

theorem mem_live {s : IsolationState} {k : ℕ} : k ∈ live s ↔
    (∃ r ∈ s.ril.pending.nodes, r.addr = k) ∨ (∃ c ∈ s.dequeued, c.request.addr = k) ∨
      ∃ data, (k, data) ∈ s.encoded := by
  simp [live]

/-- **The search of the list**: nothing is found and nothing changes, or a record at the address
is dequeued. -/
theorem dequeueAt_cases (s : TokenState) (t : ℕ) (e : Int) (response : Option ResponseMemory)
    (responselen : ℕ) :
    (s.dequeueAt t e response responselen = s.base ∧
      (t ≠ 0 → ∀ r ∈ s.base.ril.pending.nodes, s.place r.addr ≠ t)) ∨
    ∃ r ∈ s.base.ril.pending.nodes, s.place r.addr = t ∧ t ≠ 0 ∧
      s.dequeueAt t e response responselen = { s.base with
        ril := { s.base.ril with pending := s.base.ril.pending.unlink r.addr }
        dequeued := s.base.dequeued ++ [⟨r, e, response, responselen⟩] } := by
  by_cases ht : t = 0
  · exact .inl ⟨if_pos ht, fun h => absurd ht h⟩
  · rcases hfind : s.base.ril.pending.nodes.find? fun r => s.place r.addr == t with _ | r
    · left
      refine ⟨?_, fun _ r hr => by simpa using List.find?_eq_none.mp hfind r hr⟩
      rw [TokenState.dequeueAt, if_neg ht, hfind]
    · right
      have hplace : s.place r.addr = t := by simpa using List.find?_some hfind
      refine ⟨r, List.mem_of_find?_eq_some hfind, hplace, ht, ?_⟩
      rw [TokenState.dequeueAt, if_neg ht, hfind]

/-- A completion frees nothing, and allocates nothing. -/
theorem dequeueAt_live (s : TokenState) (t : ℕ) (e : Int) (response : Option ResponseMemory)
    (responselen : ℕ) :
    (s.dequeueAt t e response responselen).ril.pending.fresh = s.base.ril.pending.fresh ∧
      ∀ k ∈ live (s.dequeueAt t e response responselen), k ∈ live s.base := by
  rcases dequeueAt_cases s t e response responselen with ⟨heq, -⟩ | ⟨r, hr, -, -, heq⟩
  · rw [heq]
    exact ⟨rfl, fun k hk => hk⟩
  · rw [heq]
    refine ⟨rfl, fun k hk => ?_⟩
    rw [mem_live] at hk ⊢
    rcases hk with ⟨q, hq, hqk⟩ | ⟨c, hc, hck⟩ | hencoded
    · exact .inl ⟨q, List.mem_of_mem_eraseP hq, hqk⟩
    · rcases List.mem_append.mp hc with hc | hc
      · exact .inr (.inl ⟨c, hc, hck⟩)
      · obtain rfl := List.mem_singleton.mp hc
        exact .inl ⟨r, hr, hck⟩
    · exact .inr (.inr hencoded)

/-- What all runs keep: addresses are given out to one live record at a time, and the log says
when a completed request was found again. -/
structure TokenInv (s : TokenState) : Prop where
  placed : WellPlaced s.base.ril.pending.fresh s.place (· ∈ live s.base)
  calls : ∀ m ∈ s.staleCalls, m.after = m.before ↔ m.reused = []

theorem pending_live {s : IsolationState} {r : RequestInfo} (hr : r ∈ s.ril.pending.nodes) :
    r.addr ∈ live s := mem_live.mpr (.inl ⟨r, hr, rfl⟩)

/-- **The first completion of a request finds its record**: with addresses as with numbers. -/
theorem dequeueAt_pending {s : TokenState} (h : TokenInv s) {r : RequestInfo}
    (hr : r ∈ s.base.ril.pending.nodes) (e : Int) (response : Option ResponseMemory)
    (responselen : ℕ) :
    isolationStep P version s.base (.dequeue r.addr e response responselen)
      = some (s.dequeueAt (s.place r.addr) e response responselen) := by
  simp only [isolationStep, checkAndDequeueRequestInfo_mem s.base.ril.pending hr]
  have hne := h.placed.ne_null r.addr (pending_live hr)
  rcases dequeueAt_cases s (s.place r.addr) e response responselen with
    ⟨-, hnone⟩ | ⟨q, hq, hplace, -, heq⟩
  · exact absurd rfl (hnone hne r hr)
  · have haddr : q.addr = r.addr := h.placed.unique (pending_live hq) (pending_live hr) hplace
    obtain rfl := s.base.ril.pending.eq_of_addr hq hr haddr
    rw [heq]

/-- **A stale token is harmless** if and only if no later request at its address is pending. -/
theorem dequeueAt_eq_iff {s : TokenState} (h : TokenInv s) {k : ℕ} (hk : Completed s.base k)
    (e : Int) (response : Option ResponseMemory) (responselen : ℕ) :
    s.dequeueAt (s.place k) e response responselen = s.base ↔ s.reused k = [] := by
  have hreused : ∀ {r : RequestInfo}, r ∈ s.base.ril.pending.nodes → s.place r.addr = s.place k →
      r.addr ∈ s.reused k := by
    intro r hr hplace
    have hlater := h.placed.later (pending_live hr) hk.1 hplace
    have hne := hk.2 r hr
    refine List.mem_filter.mpr ⟨List.mem_range.mpr (s.base.ril.pending.addr_lt r hr), ?_⟩
    rw [decide_eq_true_eq]
    exact ⟨by omega, hplace, fun hc => hc.2 r hr rfl⟩
  rcases dequeueAt_cases s (s.place k) e response responselen with
    ⟨heq, hnone⟩ | ⟨r, hr, hplace, -, heq⟩
  · refine ⟨fun _ => List.filter_eq_nil_iff.mpr ?_, fun _ => heq⟩
    intro j hj hmem
    rw [decide_eq_true_eq] at hmem
    obtain ⟨-, hplace, hpending⟩ := hmem
    obtain ⟨r, hr, rfl⟩ : ∃ r ∈ s.base.ril.pending.nodes, r.addr = j := by
      by_contra hno
      exact hpending ⟨List.mem_range.mp hj, fun r hr hrj => hno ⟨r, hr, hrj⟩⟩
    have hne := h.placed.ne_null r.addr (pending_live hr)
    exact hnone (hplace ▸ hne) r hr hplace
  · refine ⟨fun hsame => ?_, fun hnil => ?_⟩
    · -- a record was dequeued
      rw [heq] at hsame
      have hlen := congrArg (fun b : IsolationState => b.dequeued.length) hsame
      simp at hlen
    · exact absurd (hreused hr hplace) (by rw [hnil]; exact List.not_mem_nil)

/-! ### The steps -/

/-- A step that allocates nothing. -/
theorem TokenInv.keep {s : TokenState} {base : IsolationState} (h : TokenInv s)
    (hfresh : base.ril.pending.fresh = s.base.ril.pending.fresh)
    (hlive : ∀ k ∈ live base, k ∈ live s.base)
    (dispatching : Option (RequestInfo × List DispatchEffect)) :
    TokenInv { s with base := base, dispatching := dispatching } := by
  refine ⟨?_, h.calls⟩
  show WellPlaced base.ril.pending.fresh s.place (· ∈ live base)
  rw [hfresh]
  exact h.placed.shrink hlive

/-- A step that allocates at most one record, at a free address. -/
theorem TokenInv.alloc {s : TokenState} {base : IsolationState} {a : ℕ} (h : TokenInv s)
    (hfree : s.Free a) (hnext : base.ril.pending.fresh ≤ s.base.ril.pending.fresh + 1)
    (hlt : ∀ k ∈ live base, k < base.ril.pending.fresh)
    (hlive : ∀ k ∈ live base, k ∈ live s.base ∨ k = s.base.ril.pending.fresh)
    (dispatching : Option (RequestInfo × List DispatchEffect)) :
    TokenInv { s with
      base := base
      place := Function.update s.place s.base.ril.pending.fresh a
      dispatching := dispatching } :=
  ⟨h.placed.alloc hfree.1 hfree.2 hnext hlt hlive, h.calls⟩

/-- **A completion**, of the vendor or of a dispatch function. -/
theorem TokenInv.complete {s : TokenState} (h : TokenInv s) (k : ℕ) (e : Int)
    (response : Option ResponseMemory) (responselen : ℕ) :
    TokenInv (s.complete k e response responselen) := by
  obtain ⟨hfresh, hlive⟩ := dequeueAt_live s (s.place k) e response responselen
  refine ⟨(h.keep hfresh hlive s.dispatching).placed, ?_⟩
  intro m hm
  have hmem : m ∈ if Completed s.base k then s.staleCalls ++
      [⟨k, s.reused k, s.base, s.dequeueAt (s.place k) e response responselen⟩]
      else s.staleCalls := hm
  by_cases hk : Completed s.base k
  · rw [if_pos hk] at hmem
    rcases List.mem_append.mp hmem with hold | hnew
    · exact h.calls m hold
    · obtain rfl := List.mem_singleton.mp hnew
      exact dequeueAt_eq_iff h hk e response responselen
  · rw [if_neg hk] at hmem
    exact h.calls m hmem

/-- **A record** allocates its request. -/
theorem TokenInv.receiveAt {s : TokenState} {a : ℕ} (h : TokenInv s) (hfree : s.Free a)
    (env : DispatchEnv) (faults : WriteFaults) (buffer : List UInt8) :
    TokenInv (s.receiveAt env faults buffer a) := by
  unfold TokenState.receiveAt
  rcases readRecord buffer with _ | token | ⟨token, request, p⟩
  · exact h
  · refine h.keep ?_ ?_ s.dispatching
    · rfl
    · exact fun k hk => hk
  · have hlive : ∀ k ∈ live (pushRequest token request s.base),
        k ∈ live s.base ∨ k = s.base.ril.pending.fresh := by
      intro k hk
      rcases mem_live.mp hk with ⟨r, hr, hrk⟩ | hrest
      · rcases List.mem_cons.mp hr with rfl | hr
        · exact .inr hrk.symm
        · exact .inl (mem_live.mpr (.inl ⟨r, hr, hrk⟩))
      · exact .inl (mem_live.mpr (.inr hrest))
    refine h.alloc hfree (Nat.le_refl _) ?_ hlive _
    intro k hk
    show k < s.base.ril.pending.fresh + 1
    rcases hlive k hk with hold | rfl
    · exact Nat.lt_succ_of_lt (h.placed.lt k hold)
    · exact Nat.lt_succ_self _

/-- **The encoding** of a completion may allocate a local request. -/
theorem TokenInv.testCancelled {s : TokenState} {base : IsolationState} {i a : ℕ} (h : TokenInv s)
    (hfree : s.Free a) (hst : isolationStep P version s.base (.testCancelled i) = some base) :
    TokenInv { s with
      base := base
      place := Function.update s.place s.base.ril.pending.fresh a } := by
  obtain ⟨c, hc, hrest⟩ := Option.bind_eq_some_iff.mp hst
  obtain ⟨x, hx, rfl⟩ := Option.map_eq_some_iff.mp hrest
  obtain ⟨y, hy⟩ := completionMessage_effects P version hx
  have hpending := effects_pending y s.base.ril
  rw [← hy] at hpending
  have hlive : ∀ k, (∃ c ∈ s.base.dequeued.eraseIdx i, c.request.addr = k) ∨ (∃ data, (k, data) ∈
      s.base.encoded ++ x.2.toList.map fun data => (c.request.addr, data)) → k ∈ live s.base := by
    rintro k (⟨d, hd, hdk⟩ | ⟨data, hdata⟩)
    · exact mem_live.mpr (.inr (.inl ⟨d, List.mem_of_mem_eraseIdx hd, hdk⟩))
    · rcases List.mem_append.mp hdata with hold | hnew
      · exact mem_live.mpr (.inr (.inr ⟨data, hold⟩))
      · obtain ⟨d, -, hdk⟩ := List.mem_map.mp hnew
        exact mem_live.mpr (.inr (.inl ⟨c, List.mem_of_getElem? hc, (Prod.mk.inj hdk).1⟩))
  have hold : ∀ k, k ∈ live s.base → k < x.1.pending.fresh := by
    intro k hk
    have := h.placed.lt k hk
    rcases hpending with heq | heq
    · rw [heq]
      exact this
    · rw [heq]
      exact Nat.lt_succ_of_lt this
  have hnodes : ∀ r ∈ x.1.pending.nodes,
      r.addr ∈ live s.base ∨ r.addr = s.base.ril.pending.fresh := by
    intro r hr
    rcases hpending with heq | heq
    · exact .inl (pending_live (heq ▸ hr))
    · rw [heq] at hr
      rcases List.mem_cons.mp hr with rfl | hr
      · exact .inr rfl
      · exact .inl (pending_live hr)
  refine h.alloc hfree ?_ ?_ ?_ s.dispatching
  · rcases hpending with heq | heq
    · rw [heq]
      exact Nat.le_succ _
    · rw [heq]
      exact Nat.le_refl _
  · intro k hk
    rcases mem_live.mp hk with ⟨r, hr, rfl⟩ | hrest
    · exact x.1.pending.addr_lt r hr
    · exact hold k (hlive k hrest)
  · intro k hk
    rcases mem_live.mp hk with ⟨r, hr, rfl⟩ | hrest
    · exact hnodes r hr
    · exact .inl (hlive k hrest)

/-- **The next effect** of a dispatch function. -/
theorem TokenInv.performNext {s t : TokenState} (h : TokenInv s)
    (hst : s.performNext P version = some t) : TokenInv t := by
  have hkeep : ∀ d, TokenInv { s with dispatching := d } :=
    fun d => h.keep rfl (fun k hk => hk) d
  unfold TokenState.performNext at hst
  rcases hdispatching : s.dispatching with _ | ⟨r, _ | ⟨effect, effects⟩⟩
  · rw [hdispatching] at hst
    exact absurd hst (by simp)
  · rw [hdispatching] at hst
    obtain rfl := Option.some.inj hst
    exact hkeep none
  · rw [hdispatching] at hst
    cases effect with
    | onRequestComplete e response =>
      simp only at hst
      split at hst
      · exact absurd hst (by simp)
      · obtain rfl := Option.some.inj hst
        exact (hkeep (some (r, effects))).complete _ _ _ _
    | setRadioIsOn _ | setVoiceRadioTech _ | setCdmaSubscriptionSource _ | onRequest _ _ =>
      obtain rfl := Option.some.inj hst
      refine h.keep ?_ ?_ (some (r, effects))
      · rfl
      · exact fun k hk => hk

/-- A step of the event loop between two records allocates and frees nothing. -/
theorem TokenInv.loopStep {s t : TokenState} {a : IsolationAction} (h : TokenInv s)
    (ha : ∀ base, isolationStep P version s.base a = some base →
      base.ril.pending.fresh = s.base.ril.pending.fresh ∧ ∀ k ∈ live base, k ∈ live s.base)
    (hst : s.loopStep P version a = some t) : TokenInv t := by
  unfold TokenState.loopStep at hst
  split at hst
  · obtain ⟨base, hbase, rfl⟩ := Option.map_eq_some_iff.mp hst
    obtain ⟨hfresh, hlive⟩ := ha base hbase
    exact h.keep hfresh hlive s.dispatching
  · exact absurd hst (by simp)

theorem onCommandsSocketClosed_live (s : IsolationState) :
    (onCommandsSocketClosed s).ril.pending.fresh = s.ril.pending.fresh ∧
      ∀ k ∈ live (onCommandsSocketClosed s), k ∈ live s := by
  refine ⟨rfl, fun k hk => ?_⟩
  rcases mem_live.mp hk with ⟨r, hr, hrk⟩ | hrest
  · obtain ⟨q, hq, rfl⟩ := List.mem_map.mp hr
    exact mem_live.mpr (.inl ⟨q, hq, hrk⟩)
  · exact mem_live.mpr (.inr hrest)

/-- **Every step** keeps the invariant. -/
theorem TokenInv.step {s t : TokenState} {a : TokenAction} (h : TokenInv s)
    (hst : tokenStep P version s a = some t) : TokenInv t := by
  cases a with
  | accept fdCommand =>
    refine h.loopStep P version (fun base hbase => ?_) hst
    cases isolationStepTo_of_step P version hbase
    exact ⟨rfl, fun k hk => hk⟩
  | rejectPeer =>
    refine h.loopStep P version (fun base hbase => ?_) hst
    cases isolationStepTo_of_step P version hbase
    exact onCommandsSocketClosed_live s.base
  | closeCommands =>
    refine h.loopStep P version (fun base hbase => ?_) hst
    cases isolationStepTo_of_step P version hbase
    exact ⟨rfl, fun k hk => hk⟩
  | socketClosed =>
    refine h.loopStep P version (fun base hbase => ?_) hst
    cases isolationStepTo_of_step P version hbase
    exact onCommandsSocketClosed_live s.base
  | record radioState t ut faults buffer address =>
    simp only [tokenStep] at hst
    split at hst
    · rename_i hguard
      obtain rfl := Option.some.inj hst
      exact h.receiveAt hguard.2.2 _ faults buffer
    · exact absurd hst (by simp)
  | perform => exact h.performNext P version hst
  | complete k e response responselen =>
    simp only [tokenStep] at hst
    split at hst
    · obtain rfl := Option.some.inj hst
      exact h.complete k e response responselen
    · exact absurd hst (by simp)
  | testCancelled i address =>
    simp only [tokenStep] at hst
    split at hst
    · rename_i hfree
      obtain ⟨base, hbase, rfl⟩ := Option.map_eq_some_iff.mp hst
      exact h.testCancelled P version hfree hbase
    · exact absurd hst (by simp)
  | sendResponse i faults =>
    obtain ⟨base, hbase, rfl⟩ := Option.map_eq_some_iff.mp hst
    obtain ⟨m, -, rfl⟩ := Option.map_eq_some_iff.mp hbase
    refine h.keep ?_ ?_ s.dispatching
    · rfl
    intro k hk
    rcases mem_live.mp hk with hpending | hdequeued | ⟨data, hdata⟩
    · exact mem_live.mpr (.inl hpending)
    · exact mem_live.mpr (.inr (.inl hdequeued))
    · exact mem_live.mpr (.inr (.inr ⟨data, List.mem_of_mem_eraseIdx hdata⟩))

/-- **Stale tokens.**  In every run, a completion called on a request that was completed already
removes nothing from the list, and starts no response, if and only if none of the requests
allocated at its address since is pending. -/
theorem stale_tokens_harmless_iff {s : TokenState}
    (h : Runs.Reachable (tokenSystem P version) s) :
    ∀ m ∈ s.staleCalls, m.after = m.before ↔ m.reused = [] := by
  have hinv : TokenInv s := by
    refine Runs.Reaches.invariant h ?_ fun hs _ hst => hs.step P version hst
    refine ⟨⟨?_, ?_, ?_⟩, fun m hm => absurd hm List.not_mem_nil⟩
    · intro k hk
      exact absurd hk List.not_mem_nil
    · intro k hk
      exact absurd hk List.not_mem_nil
    · intro j k _ _ _ hj
      exact absurd hj List.not_mem_nil
  exact hinv.calls

/-! ### Three runs -/

/-- For every stale call, the request completed twice, the later ones at its address, and the
requests on the list before and after. -/
def staleLog (s : TokenState) : List (ℕ × List ℕ × List ℕ × List ℕ) :=
  s.staleCalls.map fun m => (m.record, m.reused, m.before.ril.pending.nodes.map RequestInfo.addr,
    m.after.ril.pending.nodes.map RequestInfo.addr)

/-- The stale calls, and what has been sent. -/
structure StaleRun where
  calls : List (ℕ × List ℕ × List ℕ × List ℕ)
  channel : List ChannelEvent
  deriving DecidableEq

def staleRun (s : TokenState) : StaleRun := ⟨staleLog s, s.base.ril.channel⟩

/-- A call that takes a request off the list is in the log. -/
theorem staleLog_changes {s : TokenState} {k : ℕ} {js before after : List ℕ}
    (hlog : staleLog s = [(k, js, before, after)]) (hne : before ≠ after) :
    ¬ ∀ m ∈ s.staleCalls, m.after = m.before := by
  intro hall
  have hmem : (k, js, before, after) ∈ staleLog s := by
    rw [hlog]
    exact List.mem_cons_self ..
  obtain ⟨m, hm, hmlog⟩ := List.mem_map.mp hmem
  obtain ⟨-, hrest⟩ := Prod.mk.inj hmlog
  obtain ⟨-, hrest⟩ := Prod.mk.inj hrest
  obtain ⟨hbefore, hafter⟩ := Prod.mk.inj hrest
  rw [hall m hm, hbefore] at hafter
  exact hne hafter

/-- A record without a payload, stored at `address`. -/
def plainRecord (radioState : RadioState) (request token : UInt8) (address : ℕ) : TokenAction :=
  .record radioState 0 0 noFaults [request, 0, 0, 0, token, 0, 0, 0] address

/-- `RIL_REQUEST_SIGNAL_STRENGTH` with token `7`, at address `100`, completed and freed. -/
def signalStrengthFreed : List TokenAction :=
  [.accept 5, plainRecord .on 19 7 100, .perform, .perform, .complete 1 0 none 0,
    .testCancelled 0 200, .sendResponse 0 noFaults]

/-- The second completion of a request, with nothing else at its address. -/
theorem second_completion_harmless : ∃ s : TokenState, staleLog s = [(1, [], [], [])] ∧
    ∀ m ∈ s.staleCalls, m.after = m.before ↔ m.reused = [] := by
  have hrun : (Runs.exec (tokenSystem x86 11) (fun _ _ => True) (tokenSystem x86 11).init
      (signalStrengthFreed ++ [.complete 1 0 none 0])).map staleLog = some [(1, [], [], [])] := by
    decide +kernel
  obtain ⟨s, hs, hlog⟩ := Option.map_eq_some_iff.mp hrun
  exact ⟨s, hlog, stale_tokens_harmless_iff x86 11 (Runs.reaches_of_exec hs)⟩

/-- The address is given to the request with token `8`, and the second completion of the first
request answers it. -/
theorem stale_token_answers : ∃ s, Runs.Reachable (tokenSystem x86 11) s ∧
    s.base.ril.channel = frame 5 (messagePrefix 7 ++ Parcel.wordBytes 0) ++
      frame 5 (messagePrefix 8 ++ Parcel.wordBytes 0) ∧
    ¬ ∀ m ∈ s.staleCalls, m.after = m.before := by
  have hrun : (Runs.exec (tokenSystem x86 11) (fun _ _ => True) (tokenSystem x86 11).init
      (signalStrengthFreed ++ [plainRecord .on 19 8 100, .perform, .perform, .complete 1 0 none 0,
        .testCancelled 0 200, .sendResponse 0 noFaults])).map staleRun
      = some ⟨[(1, [2], [2], [])], frame 5 (messagePrefix 7 ++ Parcel.wordBytes 0) ++
        frame 5 (messagePrefix 8 ++ Parcel.wordBytes 0)⟩ := by decide +kernel
  obtain ⟨s, hs, hlog⟩ := Option.map_eq_some_iff.mp hrun
  obtain ⟨hlog, hchannel⟩ := StaleRun.mk.inj hlog
  exact ⟨s, Runs.reaches_of_exec hs, hchannel, staleLog_changes hlog (by decide)⟩

/-- A dispatch function completes its request twice, the radio being off; in between, another
thread's completion allocates a local request at the address, which the second completion takes
off the list. -/
theorem double_completion_removes : ∃ s, Runs.Reachable (tokenSystem x86 11) s ∧
    staleLog s = [(2, [3], [3], [])] ∧ ¬ ∀ m ∈ s.staleCalls, m.after = m.before := by
  have hrun : (Runs.exec (tokenSystem x86 11) (fun _ _ => True) (tokenSystem x86 11).init
      [.accept 5,
        .record .on 0 0 noFaults [23, 0, 0, 0, 7, 0, 0, 0, 1, 0, 0, 0, 1, 0, 0, 0] 100,
        .perform, .perform, .perform,
        plainRecord .off 108 8 200, .perform, .testCancelled 0 300, .sendResponse 0 noFaults,
        .complete 1 0 none 0, .testCancelled 0 200, .perform, .perform]).map staleLog
      = some [(2, [3], [3], [])] := by decide +kernel
  obtain ⟨s, hs, hlog⟩ := Option.map_eq_some_iff.mp hrun
  exact ⟨s, Runs.reaches_of_exec hs, hlog, staleLog_changes hlog (by decide)⟩

end CtpCommon.Ril
